import ClusterIdentity.Numeral

/-!
# Row keys

An identity is a slot of a rack of an application. Its row key names the record in the table of
identities, and with a suffix the two rows that guard the record.

## Main definitions

* `RowKey`, `RowKey.ofSlot`, `RowKey.choosing`, `RowKey.lock`
-/

namespace ClusterIdentity

/-- The key of the record of an identity. -/
structure RowKey where
  text : String
  deriving DecidableEq, Inhabited

namespace RowKey

/-- The row key of a slot: application, rack and slot joined by underscores. -/
def ofSlot (application rack : String) (slot : UInt32) : RowKey :=
  ⟨application ++ "_" ++ rack ++ "_" ++ Numeral.write slot.toNat⟩

/-- The key of the row that lists who is trying to take the lock. -/
def choosing (key : RowKey) : String := key.text ++ "-choosing"

/-- The key of the row that names who holds the lock. -/
def lock (key : RowKey) : String := key.text ++ "-lock"

end RowKey

end ClusterIdentity
