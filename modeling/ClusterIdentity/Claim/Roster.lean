import ClusterIdentity.Effect

/-!
# The roster

Who has claimed an identity, as far as the table of identities tells. Every query scans the
table. Rows that hold no record are skipped with a warning; a failure of the scan fails the
query, however many rows were read before.

## Main definitions

* `Roster.instances`, `Roster.instance?`, `Roster.instancesIn`: the recorded instances
* `Roster.key?`: the key of the row that records an instance
-/

namespace ClusterIdentity.Roster

/-- The filter for all records of an application. -/
def ofApplication (application : String) : Filter :=
  Filter.all.and Column.application.name application

/-- The filter for the record of one instance. -/
def ofInstance (application : String) (slot : UInt32) (datacenter rack : String) : Filter :=
  (((ofApplication application).and Column.slot.name (Numeral.write slot.toNat)).and
    Column.datacenter.name datacenter).and Column.rack.name rack

/-- The records in the rows, in order; rows that hold none are reported. -/
def decode (table : String) : List Row → Procedure (List Descriptor)
  | [] => return []
  | row :: rest => do
    match Descriptor.ofRow row with
    | .ok record =>
      let records ← decode table rest
      return record :: records
    | .error e =>
      Procedure.report (.rowSkipped table e)
      decode table rest

/-- The records of an application, each one once. -/
def instances (table application : String) : Procedure (Except StoreError (List Descriptor)) := do
  match ← Procedure.call (.scan table (ofApplication application) none) with
  | .error e => return .error e
  | .ok (scanned : Scanned) =>
  let records ← decode table scanned.rows
  match scanned.failure with
  | some e => return .error e
  | none => return .ok records.eraseDups

/-- The record of a slot in a rack. -/
def instance? (table application rack : String) (slot : UInt32) :
    Procedure (Except StoreError (Option Descriptor)) := do
  match ← instances table application with
  | .error e => return .error e
  | .ok records => return .ok (records.find? fun d => d.rack == rack && d.slot == slot)

/-- The records of an application in one region. -/
def instancesIn (table application datacenter : String) :
    Procedure (Except StoreError (List Descriptor)) := do
  match ← instances table application with
  | .error e => return .error e
  | .ok records => return .ok (records.filter fun d => d.datacenter == datacenter)

/-- The key of the first row that records the slot, found without decoding it. No row after it
is read. -/
def key? (table application : String) (slot : UInt32) (datacenter rack : String) :
    Procedure (Except StoreError (Option String)) := do
  match ← Procedure.call (.scan table (ofInstance application slot datacenter rack) (some 1)) with
  | .error e => return .error e
  | .ok (scanned : Scanned) =>
  match scanned.rows, scanned.failure with
  | row :: _, _ => return .ok (some row.key)
  | [], some e => return .error e
  | [], none => return .ok none

end ClusterIdentity.Roster
