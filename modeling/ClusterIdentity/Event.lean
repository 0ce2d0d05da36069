import ClusterIdentity.Claim.Error
import ClusterIdentity.Identity.Columns
import ClusterIdentity.Lock.State

/-!
# Events

What happened, as far as anyone who watches the log is told. Every step of a lock attempt from
one state to another is an event.

## Main definitions

* `Event`, `Event.level`, `Event.message`
-/

namespace ClusterIdentity

inductive Level where
  | trace
  | debug
  | info
  | warn
  deriving DecidableEq

def Level.name : Level → String
  | trace => "TRACE"
  | debug => "DEBUG"
  | info => "INFO"
  | warn => "WARN"

/-- Something worth a line in the log. -/
inductive Event where
  /-- An attempt went from one state to another. -/
  | lockMoved (rowKey : RowKey) (contender : String) (source target : LockState)
  | lockTaken (rowKey : RowKey) (contender : String)
  | lockRefused (rowKey : RowKey) (contender : String) (state : LockState) (error : LockError)
  /-- A failed attempt could not remove its entry from a row. -/
  | entryLeft (contender key : String) (error : LockError) (cause : StoreError)
  | lockReleased (rowKey : RowKey) (contender : String)
  | nothingToRelease (key contender : String)
  /-- A lock that was to be torn down no longer names its holder. -/
  | lockLost (key contender : String)
  | rowSkipped (table : String) (error : MalformedRecord)
  | instanceExists (rowKey : RowKey)
  | instanceCreated (rowKey : RowKey) (instanceId token : String)
  | instanceAbsent (rowKey : RowKey)
  | instanceDeleted (rowKey : RowKey) (instanceId : String)
  | releaseFailed (rowKey : RowKey) (contender : String) (error : StoreError)
  | creatingFailed (rowKey : RowKey) (error : ClaimError)
  | deletingFailed (rowKey : RowKey) (error : ClaimError)
  | tableCreated (table : String)
  | tableCreatedElsewhere (table : String)
  deriving DecidableEq

namespace Event

def level : Event → Level
  | lockMoved .. => .trace
  | lockTaken .. | instanceCreated .. | instanceDeleted .. | tableCreated .. => .info
  | entryLeft .. | lockLost .. | rowSkipped .. | releaseFailed .. => .warn
  | lockRefused .. | lockReleased .. | nothingToRelease .. | instanceExists ..
  | instanceAbsent .. | creatingFailed .. | deletingFailed .. | tableCreatedElsewhere .. => .debug

def quoted (text : String) : String := "`" ++ text ++ "`"

/-- The line in the log. -/
def message : Event → String
  | lockMoved rowKey contender source target =>
    "Lock " ++ quoted rowKey.text ++ " for " ++ quoted contender ++ ": " ++ source.name ++
      " -> " ++ target.name ++ "."
  | lockTaken rowKey contender =>
    "Got lock " ++ quoted rowKey.text ++ " for " ++ quoted contender ++ "."
  | lockRefused rowKey contender state error =>
    "Failed to lock " ++ quoted rowKey.text ++ " for " ++ quoted contender ++ " while " ++
      state.name ++ ": " ++ error.message
  | entryLeft contender key error cause =>
    "Failed to remove " ++ quoted contender ++ " from " ++ quoted key ++ " after " ++
      error.message ++ ": " ++ cause.message
  | lockReleased rowKey contender =>
    "Released " ++ quoted rowKey.text ++ " for " ++ quoted contender ++ "."
  | nothingToRelease key contender =>
    "Choosing row " ++ quoted key ++ " does not name " ++ quoted contender ++
      ", nothing to release."
  | lockLost key contender =>
    "Lock row " ++ quoted key ++ " no longer names " ++ quoted contender ++
      ", deleting choosing row regardless."
  | rowSkipped table error => "Skipping row in " ++ quoted table ++ ": " ++ error.message
  | instanceExists rowKey => "Instance " ++ quoted rowKey.text ++ " exists already."
  | instanceCreated rowKey instanceId token =>
    "Created instance " ++ quoted rowKey.text ++ " for " ++ quoted instanceId ++
      " with token " ++ token ++ "."
  | instanceAbsent rowKey =>
    "Instance " ++ quoted rowKey.text ++ " not found, nothing to delete."
  | instanceDeleted rowKey instanceId =>
    "Deleted instance " ++ quoted rowKey.text ++ " of " ++ quoted instanceId ++ "."
  | releaseFailed rowKey contender error =>
    "Failed to release " ++ quoted rowKey.text ++ " for " ++ quoted contender ++ ": " ++
      error.message
  | creatingFailed rowKey error =>
    "Creating " ++ quoted rowKey.text ++ " failed: " ++ error.message
  | deletingFailed rowKey error =>
    "Deleting " ++ quoted rowKey.text ++ " failed: " ++ error.message
  | tableCreated table => "Created table " ++ quoted table ++ "."
  | tableCreatedElsewhere table => "Table " ++ quoted table ++ " was created concurrently."

end Event

end ClusterIdentity
