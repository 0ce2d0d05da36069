import ClusterIdentity.Effect

/-!
# The lock protocol

Mutual exclusion over row keys, built from writes of single rows. Two rows guard a row key. The
choosing row has an entry for every contender that is trying to take the lock; the lock row names
the holder. An entry is an attribute that has the contender's name both as its name and as its
value.

A contender enters the choosing row and reads both rows. If the lock row names someone else, it
gives way to that holder; if it is not alone in the choosing row, it gives way to the contention.
Otherwise it enters the lock row, waits for the rows to settle, and reads the lock row again: it
holds the lock if it is then the only entry. A contender that fails removes its entries, except
an entry in the lock row that was there before.

At most one contender holds the lock. That anyone does is not promised: contenders that arrive
together may all give way and have to try again.

## Main definitions

* `LockTable`: where locks are kept
* `Attempt`: what one attempt remembers
* `LockTable.acquire`, `LockTable.release`, `LockTable.tearDown`
-/

namespace ClusterIdentity

/-- The table that holds the choosing and lock rows, and the pause before a lock is verified. -/
structure LockTable where
  name : String
  settleDelay : Duration

/-- A lock that was taken: what it guards and who took it. -/
structure Hold where
  rowKey : RowKey
  contender : String
  deriving DecidableEq

inductive ReleaseOutcome where
  /-- The contender's entry in the choosing row was removed. -/
  | released
  /-- The choosing row did not name the contender. -/
  | notHeld
  deriving DecidableEq

/-- What one attempt to take a lock remembers. -/
structure Attempt where
  rowKey : RowKey
  contender : String
  state : LockState
  /-- The entry may have reached the lock row during this attempt. -/
  wroteLock : Bool
  /-- The lock row named the contender before this attempt. -/
  heldBefore : Bool
  deriving DecidableEq

namespace Attempt

def start (rowKey : RowKey) (contender : String) : Attempt :=
  ⟨rowKey, contender, .idle, false, false⟩

/-- The attempt of someone who holds the lock. -/
def held (rowKey : RowKey) (contender : String) : Attempt :=
  { start rowKey contender with state := .locked }

/-- Goes on to the next state and reports it. -/
def moveTo (attempt : Attempt) (next : LockState) : Procedure Attempt := do
  Procedure.report (.lockMoved attempt.rowKey attempt.contender attempt.state next)
  return { attempt with state := next }

end Attempt

namespace LockTable

/-- Writes the contender's entry into a row, whoever else is in it. -/
def enter (locks : LockTable) (key contender : String) : Procedure (Except StoreError Unit) := do
  match ← Procedure.call
    (.put locks.name key (Dict.singleton contender contender) none) with
  | .ok _ => return .ok ()
  | .error e => return .error e

/-- Removes the contender's entry from a row, if it is there. -/
def leave (locks : LockTable) (key contender : String) :
    Procedure (Except StoreError DeleteOutcome) :=
  Procedure.call
    (.delete locks.name key (.attributes [contender]) (some (.equals contender contender)))

/-- The entries of a row; a missing row has none. -/
def entries (locks : LockTable) (key : String) : Procedure (Except StoreError Attributes) := do
  match ← Procedure.call (.batchGet locks.name [key]) with
  | .ok (rows : Rows) => return .ok ((rows.get? key).getD ∅)
  | .error e => return .error e

def settle (locks : LockTable) : Procedure Unit :=
  if locks.settleDelay.isZero then return () else Procedure.pause locks.settleDelay

/-- The first name in a row, in code-point order, that is not the contender's. -/
def otherThan (contender : String) (entries : Attributes) : Option String :=
  entries.keys.find? fun name => name != contender

/-- Whether the contender's entry is the only one of a row. -/
def isSole (contender : String) (entries : Attributes) : Bool :=
  entries.size == 1 && entries.contains contender

/-- Reads the lock row once more. The lock is taken if the contender is alone in it. -/
def verify (locks : LockTable) (attempt : Attempt) :
    Procedure (Attempt × Except LockError Unit) := do
  match ← locks.entries attempt.rowKey.lock with
  | .error e => return (attempt, .error (.storeUnavailable e))
  | .ok holders =>
  if isSole attempt.contender holders then
    let attempt ← attempt.moveTo .locked
    return (attempt, .ok ())
  else return (attempt, .error (.raceLost attempt.rowKey.lock))

/-- Enters the lock row and verifies the claim. -/
def claim (locks : LockTable) (attempt : Attempt) :
    Procedure (Attempt × Except LockError Unit) := do
  let moved ← attempt.moveTo .locking
  let attempt := { moved with wroteLock := true }
  match ← locks.enter attempt.rowKey.lock attempt.contender with
  | .error e => return (attempt, .error (.storeUnavailable e))
  | .ok () =>
  locks.settle
  locks.verify attempt

/-- Decides from the entries of both rows: gives way to another holder, then to other
contenders, and otherwise claims the lock. -/
def decide (locks : LockTable) (attempt : Attempt) (choosing holders : Attributes) :
    Procedure (Attempt × Except LockError Unit) :=
  match otherThan attempt.contender holders with
  | some holder => return (attempt, .error (.heldByOther attempt.rowKey.lock holder))
  | none =>
    if 1 < choosing.size then do
      let attempt ← attempt.moveTo .contending
      return (attempt, .error (.contention attempt.rowKey.choosing choosing.size))
    else locks.claim { attempt with heldBefore := holders.contains attempt.contender }

/-- The part of an attempt up to success or the first reason to give way. The attempt is
returned as far as it came. -/
def contend (locks : LockTable) (attempt : Attempt) :
    Procedure (Attempt × Except LockError Unit) := do
  let attempt ← attempt.moveTo .choosing
  match ← locks.enter attempt.rowKey.choosing attempt.contender with
  | .error e => return (attempt, .error (.storeUnavailable e))
  | .ok () =>
  match ← locks.entries attempt.rowKey.choosing with
  | .error e => return (attempt, .error (.storeUnavailable e))
  | .ok choosing =>
  match ← locks.entries attempt.rowKey.lock with
  | .error e => return (attempt, .error (.storeUnavailable e))
  | .ok holders => locks.decide attempt choosing holders

/-- Removes the contender's entry from a row after a failed attempt. A failure to do so is
reported and otherwise ignored, so that it does not hide why the attempt failed. -/
def withdraw (locks : LockTable) (key contender : String) (error : LockError) :
    Procedure Unit := do
  match ← locks.leave key contender with
  | .ok _ => return ()
  | .error cause => Procedure.report (.entryLeft contender key error cause)

/-- Removes the entry of a failed attempt from the choosing row. -/
def withdrawChoosing (locks : LockTable) (attempt : Attempt) (error : LockError) :
    Procedure Unit :=
  if attempt.state = .idle then return ()
  else locks.withdraw attempt.rowKey.choosing attempt.contender error

/-- Removes the entry of a failed attempt from the lock row, unless it was there before. -/
def withdrawLock (locks : LockTable) (attempt : Attempt) (error : LockError) : Procedure Unit :=
  if attempt.wroteLock && !attempt.heldBefore then
    locks.withdraw attempt.rowKey.lock attempt.contender error
  else return ()

/-- Removes what a failed attempt left behind, in the choosing row first. -/
def cleanUp (locks : LockTable) (attempt : Attempt) (error : LockError) : Procedure Unit := do
  locks.withdrawChoosing attempt error
  locks.withdrawLock attempt error

/-- Tries once to take the lock. A contender that holds it already gives way like any other one if
somebody else is in the choosing row, and takes it again otherwise. -/
def acquire (locks : LockTable) (rowKey : RowKey) (contender : String) :
    Procedure (Except LockError Hold) := do
  let (attempt, outcome) ← locks.contend (Attempt.start rowKey contender)
  match outcome with
  | .ok () =>
    Procedure.report (.lockTaken rowKey contender)
    return .ok ⟨rowKey, contender⟩
  | .error error =>
    Procedure.report (.lockRefused rowKey contender attempt.state error)
    locks.cleanUp attempt error
    let _ ← attempt.moveTo .failed
    return .error error

/-- Removes the contender's entry from the choosing row. The lock row is left as the record of
who owns the identity. -/
def release (locks : LockTable) (rowKey : RowKey) (contender : String) :
    Procedure (Except StoreError ReleaseOutcome) := do
  match ← locks.leave rowKey.choosing contender with
  | .error e => return .error e
  | .ok (DeleteOutcome.deleted _) =>
    let _ ← (Attempt.held rowKey contender).moveTo .released
    Procedure.report (.lockReleased rowKey contender)
    return .ok .released
  | .ok DeleteOutcome.conditionFailed =>
    Procedure.report (.nothingToRelease rowKey.choosing contender)
    return .ok .notHeld

/-- Reports that the lock row of a hold did not name the holder any more. -/
def reportLost (hold : Hold) : DeleteOutcome → Procedure Unit
  | .deleted _ => return ()
  | .conditionFailed => Procedure.report (.lockLost hold.rowKey.lock hold.contender)

/-- Deletes both rows of a lock that was taken, the lock row first, and that one only if it still
names the holder. A crash in between leaves the choosing row, which blocks later attempts rather
than letting two succeed. -/
def tearDown (locks : LockTable) (hold : Hold) : Procedure (Except StoreError Unit) := do
  match ← Procedure.call (.delete locks.name hold.rowKey.lock .row
    (some (.equals hold.contender hold.contender))) with
  | .error e => return .error e
  | .ok outcome =>
  reportLost hold outcome
  match ← Procedure.call (.delete locks.name hold.rowKey.choosing .row none) with
  | .error e => return .error e
  | .ok _ => return .ok ()

end LockTable

end ClusterIdentity
