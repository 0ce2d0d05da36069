import ClusterIdentity.Table.Error

/-!
# Failed attempts to take a lock

## Main definitions

* `LockError`, `LockError.message`, `LockError.cause?`, `LockError.isRetryable`
-/

namespace ClusterIdentity

/-- Why an attempt to take a lock failed. -/
inductive LockError where
  /-- Several contenders were choosing at the same time. -/
  | contention (key : String) (contenders : Nat)
  /-- The lock row names another contender. -/
  | heldByOther (key holder : String)
  /-- Another contender wrote itself into the lock row between the checks and the verification. -/
  | raceLost (key : String)
  | storeUnavailable (cause : StoreError)
  deriving DecidableEq

namespace LockError

def message : LockError → String
  | contention key contenders =>
    toString contenders ++ " contenders for lock `" ++ key ++ "`"
  | heldByOther key holder => "lock `" ++ key ++ "` is held by `" ++ holder ++ "`"
  | raceLost key => "lost the race for lock `" ++ key ++ "`"
  | storeUnavailable _ => "store unavailable during lock acquisition"

def cause? : LockError → Option String
  | storeUnavailable e => some e.message
  | _ => none

/-- Whether another attempt makes sense: after every failure it does. -/
def isRetryable (_ : LockError) : Bool := true

end LockError

end ClusterIdentity
