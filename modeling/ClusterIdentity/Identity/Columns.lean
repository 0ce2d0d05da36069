import ClusterIdentity.Identity.Descriptor
import ClusterIdentity.Table.Row

/-!
# Records as rows

A record is stored with one attribute per field and one per volume. The attribute names are
those of tables already in use: the attribute named `datacenter` holds the rack, and the region
is in `location`.

## Main definitions

* `Column`: the fixed attributes
* `Descriptor.toAttributes`: the attributes of a record
* `Descriptor.ofRow`: the record in a row, or what is wrong with the row
-/

namespace ClusterIdentity

/-- The attributes that every record has, and the time, which it may lack. -/
inductive Column where
  | slot
  | application
  | zone
  | rack
  | instanceId
  | hostname
  | address
  | token
  | datacenter
  | updatedAt
  deriving DecidableEq

def Column.name : Column → String
  | slot => "Id"
  | application => "appId"
  | zone => "availabilityZone"
  | rack => "datacenter"
  | instanceId => "instanceId"
  | hostname => "hostname"
  | address => "elasticIP"
  | token => "token"
  | datacenter => "location"
  | updatedAt => "updatetime"

/-- What the names of volume attributes start with. -/
def volumeStem : String := "ssVolumes_"

/-- The attribute name of the volume at a path. -/
def volumeAttribute (path : String) : String := volumeStem ++ path

/-- The path of the volume that an attribute name stands for. -/
def volumePath? (name : String) : Option String :=
  (volumeStem.toList.isPrefixOf? name.toList).map String.ofList

/-- What is wrong with an attribute of a row. -/
inductive Defect where
  | missing (column : Column)
  | notAnInteger (column : Column)
  deriving DecidableEq

def Defect.column : Defect → Column
  | missing column => column
  | notAnInteger column => column

def Defect.message : Defect → String
  | missing column => "attribute `" ++ column.name ++ "` is missing"
  | notAnInteger column => "attribute `" ++ column.name ++ "` is not an integer"

/-- A row that holds no record, with its first defect. -/
structure MalformedRecord where
  key : String
  defect : Defect
  deriving DecidableEq

def MalformedRecord.message (e : MalformedRecord) : String :=
  "row `" ++ e.key ++ "` is malformed: " ++ e.defect.message

/-- The attribute of a column that a row must have to hold a record. -/
def Row.required (row : Row) (column : Column) : Except MalformedRecord String :=
  match row.get? column.name with
  | some value => .ok value
  | none => .error ⟨row.key, .missing column⟩

/-- The slot in a row that holds a record. -/
def Row.slot (row : Row) : Except MalformedRecord UInt32 :=
  match row.required .slot with
  | .error e => .error e
  | .ok text =>
    match Numeral.readUInt32? text with
    | some slot => .ok slot
    | none => .error ⟨row.key, .notAnInteger .slot⟩

namespace Descriptor

/-- The columns of a record: one for each fixed field, and the time if there is one. -/
def columns (d : Descriptor) : List (Column × String) :=
  [(.slot, Numeral.write d.slot.toNat), (.application, d.application), (.zone, d.zone),
   (.rack, d.rack), (.instanceId, d.instanceId), (.hostname, d.hostname), (.address, d.address),
   (.token, d.token), (.datacenter, d.datacenter)] ++
  d.updatedAt.toList.map fun t => (.updatedAt, Numeral.write t.toNat)

/-- The attributes of a record: its columns and its volumes. -/
def toAttributes (d : Descriptor) : Attributes :=
  Dict.ofList
    (d.columns.map (fun c => (c.1.name, c.2)) ++
      d.volumes.toList.map fun v => (volumeAttribute v.1, v.2))

def volumesOf (attributes : Attributes) : Dict String String :=
  Dict.ofList (attributes.toList.filterMap fun a => (volumePath? a.1).map (·, a.2))

/-- The time in a row. One that cannot be read counts as none. -/
def timeOf (row : Row) : Option UInt64 :=
  (row.get? Column.updatedAt.name).bind Numeral.readUInt64?

/-- The record in a row. The slot is checked first, then the other columns one by one. Attributes
that are neither columns nor volumes are ignored. -/
def ofRow (row : Row) : Except MalformedRecord Descriptor := do
  let slot ← row.slot
  let application ← row.required .application
  let rack ← row.required .rack
  let instanceId ← row.required .instanceId
  let hostname ← row.required .hostname
  let address ← row.required .address
  let datacenter ← row.required .datacenter
  let zone ← row.required .zone
  let token ← row.required .token
  return { application, rack, slot, instanceId, hostname, address, datacenter, zone, token,
           volumes := volumesOf row.attributes, updatedAt := timeOf row }

end Descriptor

end ClusterIdentity
