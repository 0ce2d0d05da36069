/-!
# States of an attempt to take a lock

## Main definitions

* `LockState`, `LockState.canBecome`, `LockState.isTerminal`
-/

namespace ClusterIdentity

/-- How far an attempt to take a lock has come. -/
inductive LockState where
  | idle
  /-- The contender's entry is being written to the choosing row. -/
  | choosing
  /-- Other contenders were seen in the choosing row. -/
  | contending
  /-- The contender's entry is being written to the lock row. -/
  | locking
  | locked
  | released
  | failed
  deriving DecidableEq

namespace LockState

/-- All states, in the order of an attempt. -/
def all : List LockState := [idle, choosing, contending, locking, locked, released, failed]

def name : LockState → String
  | idle => "Idle"
  | choosing => "Choosing"
  | contending => "Contending"
  | locking => "Locking"
  | locked => "Locked"
  | released => "Released"
  | failed => "Failed"

def ofName? (text : String) : Option LockState := all.find? fun s => s.name == text

/-- Whether an attempt in this state is over. -/
def isTerminal : LockState → Bool
  | locked | failed | released => true
  | _ => false

/-- Whether an attempt in the first state may go on to the second. -/
def canBecome : LockState → LockState → Bool
  | idle, choosing | idle, failed => true
  | choosing, contending | choosing, locking | choosing, failed => true
  | contending, failed => true
  | locking, locked | locking, failed => true
  | locked, released => true
  | _, _ => false

end LockState

end ClusterIdentity
