import ClusterIdentity.Lock.Error

/-!
# Failed claims

## Main definitions

* `ClaimError`: a claim, or giving one up, failed
* `AbortedError`: such a failure that was not retried
-/

namespace ClusterIdentity

/-- Why claiming an identity or giving it up failed. -/
inductive ClaimError where
  /-- The guarding lock could not be taken; nothing was written. -/
  | lockFailed (cause : LockError)
  | storeUnavailable (cause : StoreError)
  deriving DecidableEq

namespace ClaimError

/-- The failure of a claim whose lock could not be taken. A failure of the store stays one. -/
def ofLockError : LockError → ClaimError
  | .storeUnavailable e => storeUnavailable e
  | e => lockFailed e

def message : ClaimError → String
  | lockFailed _ => "lock could not be acquired"
  | storeUnavailable _ => "store unavailable"

def cause? : ClaimError → Option String
  | lockFailed e => some e.message
  | storeUnavailable e => some e.message

def isRetryable : ClaimError → Bool
  | lockFailed e => e.isRetryable
  | storeUnavailable _ => true

theorem isRetryable_eq_true (e : ClaimError) : e.isRetryable = true := by
  cases e <;> rfl

end ClaimError

/-- The failure after which a retry policy gave up. -/
structure AbortedError where
  last : ClaimError
  deriving DecidableEq

def AbortedError.message (_ : AbortedError) : String := "operation was aborted"

end ClusterIdentity
