import ClusterIdentity.Dict
import ClusterIdentity.Identity.Key

/-!
# Instance descriptors

What a node tells about itself when it claims an identity. The record of a claimed identity is
such a descriptor, stamped with the time at which it was written.

## Main definitions

* `Descriptor`, `Descriptor.rowKey`, `Descriptor.stamp`
* `Descriptor.le`: the order in which descriptors are listed
-/

namespace ClusterIdentity

/-- What a node tells about itself. -/
structure Descriptor where
  /-- The name of the cluster. -/
  application : String
  /-- The failure domain within the cluster. -/
  rack : String
  /-- The ordinal within the rack. -/
  slot : UInt32
  /-- The name of the machine, which is also its name as a contender for locks. -/
  instanceId : String
  hostname : String
  address : String
  /-- The region, coarser than the rack. -/
  datacenter : String
  /-- The availability zone, usually the rack. -/
  zone : String
  /-- The position on the hash ring. -/
  token : String
  /-- Attached volumes by path. -/
  volumes : Dict String String
  /-- When the record was written, in milliseconds since the epoch. -/
  updatedAt : Option UInt64
  deriving DecidableEq

namespace Descriptor

/-- The row key of the identity that the descriptor is for. -/
def rowKey (d : Descriptor) : RowKey := RowKey.ofSlot d.application d.rack d.slot

def stamp (d : Descriptor) (now : UInt64) : Descriptor := { d with updatedAt := some now }

/-! ### Listing order -/

/-- Compares volumes as lists of path and value, entry by entry; a shorter list comes first. -/
def compareVolumes : List (String × String) → List (String × String) → Ordering
  | [], [] => .eq
  | [], _ :: _ => .lt
  | _ :: _, [] => .gt
  | a :: as, b :: bs =>
    (compare a.1 b.1).then ((compare a.2 b.2).then (compareVolumes as bs))

/-- Compares times; none comes first. -/
def compareTimes : Option UInt64 → Option UInt64 → Ordering
  | none, none => .eq
  | none, some _ => .lt
  | some _, none => .gt
  | some a, some b => compare a.toNat b.toNat

/-- Compares descriptors by slot, then application, rack and the other fields in turn. -/
def compareFields (a b : Descriptor) : Ordering :=
  (compare a.slot.toNat b.slot.toNat)
  |>.then (compare a.application b.application)
  |>.then (compare a.rack b.rack)
  |>.then (compare a.instanceId b.instanceId)
  |>.then (compare a.hostname b.hostname)
  |>.then (compare a.address b.address)
  |>.then (compare a.datacenter b.datacenter)
  |>.then (compare a.zone b.zone)
  |>.then (compare a.token b.token)
  |>.then (compareVolumes a.volumes.toList b.volumes.toList)
  |>.then (compareTimes a.updatedAt b.updatedAt)

/-- Whether the first descriptor may be listed before the second. -/
def le (a b : Descriptor) : Bool := (compareFields a b).isLE

def sorted (ds : List Descriptor) : List Descriptor := ds.mergeSort le

end Descriptor

end ClusterIdentity
