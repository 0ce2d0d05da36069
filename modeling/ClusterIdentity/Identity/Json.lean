import ClusterIdentity.Identity.Descriptor
import ClusterIdentity.Json

/-!
# Descriptors as JSON

A descriptor is written as an object with a member per field. It may also be read from the array
of its fields in order. The last two fields may be left out in either form; members of other
names are ignored.

## Main definitions

* `Descriptor.toJson`, `Descriptor.toJsonArray`
* `Descriptor.ofJson?`
-/

namespace ClusterIdentity.Descriptor

def fieldNames : List String :=
  ["application", "rack", "slot", "instance_id", "hostname", "address", "datacenter", "zone",
   "token", "volumes", "updated_at"]

def fieldValues (d : Descriptor) : List Json :=
  [.string d.application, .string d.rack, .ofNat d.slot.toNat, .string d.instanceId,
   .string d.hostname, .string d.address, .string d.datacenter, .string d.zone, .string d.token,
   .object (d.volumes.toList.map fun v => (v.1, .string v.2)),
   .ofOption (fun t => .ofNat t.toNat) d.updatedAt]

def toJson (d : Descriptor) : Json := .object (fieldNames.zip d.fieldValues)

def toJsonArray (d : Descriptor) : Json := .array d.fieldValues

/-- Reads volumes; left out, there are none. -/
def volumesOfJson? : Option Json → Option (Dict String String)
  | some j => j.stringMembers?.map Dict.ofList
  | none => some ∅

/-- Reads a time; left out or null, there is none. -/
def timeOfJson? : Option Json → Option (Option UInt64)
  | none | some .null => some none
  | some j => j.uint64?.map some

/-- The descriptor whose fields are found by name and by index. -/
def ofFields? (field : String → Nat → Option Json) : Option Descriptor := do
  let text (name : String) (index : Nat) := (field name index).bind Json.string?
  let application ← text "application" 0
  let rack ← text "rack" 1
  let slot ← (field "slot" 2).bind Json.uint32?
  let instanceId ← text "instance_id" 3
  let hostname ← text "hostname" 4
  let address ← text "address" 5
  let datacenter ← text "datacenter" 6
  let zone ← text "zone" 7
  let token ← text "token" 8
  let volumes ← volumesOfJson? (field "volumes" 9)
  let updatedAt ← timeOfJson? (field "updated_at" 10)
  return { application, rack, slot, instanceId, hostname, address, datacenter, zone, token,
           volumes, updatedAt }

/-- The descriptor that an object or an array of fields denotes. -/
def ofJson? : Json → Option Descriptor
  | .object members => ofFields? fun name _ => Json.lastMember? name members
  | .array values =>
    if values.length ≤ fieldNames.length then ofFields? fun _ index => values[index]?
    else none
  | _ => none

end ClusterIdentity.Descriptor
