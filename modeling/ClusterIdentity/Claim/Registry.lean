import ClusterIdentity.Claim.Retry
import ClusterIdentity.Claim.Roster
import ClusterIdentity.Claim.Settings
import ClusterIdentity.Lock.Protocol

/-!
# Claiming identities and giving them up

A node claims an identity by recording its descriptor, and gives it up by removing the record.
Records are written and removed under the lock of their row key, with the machine's name as
contender. The lock row stays after a claim, so that the identity is reserved for the machine
until it is given up.

## Main definitions

* `Registry`: the tables that a node works with
* `Registry.create`, `Registry.delete`
* `Registry.createWith`, `Registry.deleteWith`: the same for as long as a retry policy allows
-/

namespace ClusterIdentity

structure Registry where
  /-- The table of identities. -/
  tokens : String
  locks : LockTable

inductive CreateOutcome where
  | created
  /-- The identity was recorded already; nothing was done. -/
  | alreadyExists
  deriving DecidableEq

inductive RemoveOutcome where
  | deleted
  | notFound
  deriving DecidableEq

namespace Registry

def ofSettings (settings : Settings) : Registry :=
  ⟨settings.tables.tokens, ⟨settings.tables.locks, settings.settleDelay⟩⟩

/-- Takes the lock of a row key, with any failure as that of a claim. -/
def lock (registry : Registry) (rowKey : RowKey) (contender : String) :
    Procedure (Except ClaimError Hold) := do
  match ← registry.locks.acquire rowKey contender with
  | .ok hold => return .ok hold
  | .error e => return .error (.ofLockError e)

/-- Releases a lock. A failure to do so is reported and otherwise ignored. -/
def unlock (registry : Registry) (hold : Hold) : Procedure Unit := do
  match ← registry.locks.release hold.rowKey hold.contender with
  | .ok _ => return ()
  | .error e => Procedure.report (.releaseFailed hold.rowKey hold.contender e)

/-- Writes the record of a descriptor, stamped with the time. -/
def writeRecord (registry : Registry) (descriptor : Descriptor) :
    Procedure (Except StoreError Unit) := do
  let record := descriptor.stamp (← Procedure.clock)
  match ← Procedure.call
    (.put registry.tokens record.rowKey.text record.toAttributes none) with
  | .ok _ => return .ok ()
  | .error e => return .error e

def deleteRecord (registry : Registry) (key : String) : Procedure (Except StoreError Unit) := do
  match ← Procedure.call (.delete registry.tokens key .row none) with
  | .ok _ => return .ok ()
  | .error e => return .error e

/-- Claims the identity of a descriptor and records the descriptor. Does nothing if the identity
is recorded already. The lock is released whether or not writing the record succeeds. -/
def create (registry : Registry) (descriptor : Descriptor) :
    Procedure (Except ClaimError CreateOutcome) := do
  let rowKey := descriptor.rowKey
  match ← Roster.instance? registry.tokens descriptor.application descriptor.rack
    descriptor.slot with
  | .error e => return .error (.storeUnavailable e)
  | .ok (some _) =>
    Procedure.report (.instanceExists rowKey)
    return .ok .alreadyExists
  | .ok none =>
  match ← registry.lock rowKey descriptor.instanceId with
  | .error e => return .error e
  | .ok hold =>
  let written ← registry.writeRecord descriptor
  registry.unlock hold
  match written with
  | .error e => return .error (.storeUnavailable e)
  | .ok () =>
    Procedure.report (.instanceCreated rowKey descriptor.instanceId descriptor.token)
    return .ok .created

/-- Removes the record of a descriptor and the rows that guard it: first the record, then the
lock row, then the choosing row, so that a crash in between leaves the identity locked rather
than recorded without a lock. -/
def delete (registry : Registry) (descriptor : Descriptor) :
    Procedure (Except ClaimError RemoveOutcome) := do
  let rowKey := descriptor.rowKey
  match ← registry.lock rowKey descriptor.instanceId with
  | .error e => return .error e
  | .ok hold =>
  match ← Roster.key? registry.tokens descriptor.application descriptor.slot
    descriptor.datacenter descriptor.rack with
  | .error e =>
    registry.unlock hold
    return .error (.storeUnavailable e)
  | .ok none =>
    Procedure.report (.instanceAbsent rowKey)
    match ← registry.locks.tearDown hold with
    | .error e => return .error (.storeUnavailable e)
    | .ok () => return .ok .notFound
  | .ok (some key) =>
  match ← registry.deleteRecord key with
  | .error e =>
    registry.unlock hold
    return .error (.storeUnavailable e)
  | .ok () =>
  match ← registry.locks.tearDown hold with
  | .error e => return .error (.storeUnavailable e)
  | .ok () =>
    Procedure.report (.instanceDeleted rowKey descriptor.instanceId)
    return .ok .deleted

section Repeated

variable {m : Type → Type} [Monad m] {σ ε : Type}

/-- Claims the identity of a descriptor, repeating failed attempts for as long as a policy allows
and up to a number of them. The procedures are carried out in the monad of the policy. -/
def createWith (registry : Registry) (perform : ∀ {α : Type}, Procedure α → m α)
    (descriptor : Descriptor) (policy : RetryPolicy m σ ε) :
    Nat → σ → m (Retried ε CreateOutcome × List ClaimError) :=
  retrying policy (fun e => perform (Procedure.report (.creatingFailed descriptor.rowKey e)))
    (perform (registry.create descriptor))

/-- Gives up the identity of a descriptor in the same way. -/
def deleteWith (registry : Registry) (perform : ∀ {α : Type}, Procedure α → m α)
    (descriptor : Descriptor) (policy : RetryPolicy m σ ε) :
    Nat → σ → m (Retried ε RemoveOutcome × List ClaimError) :=
  retrying policy (fun e => perform (Procedure.report (.deletingFailed descriptor.rowKey e)))
    (perform (registry.delete descriptor))

end Repeated

end Registry

end ClusterIdentity
