/-!
# Failures of a store

## Main definitions

* `CallKind`: the kinds of request
* `Outage`: why a store could not serve a request
* `StoreError`, `StoreError.message`, `StoreError.cause?`
-/

namespace ClusterIdentity

/-- The kinds of request that a store serves. -/
inductive CallKind where
  | put
  | delete
  | scan
  | batchGet
  deriving DecidableEq

def CallKind.name : CallKind → String
  | put => "Put"
  | delete => "Delete"
  | scan => "Scan"
  | batchGet => "BatchGet"

/-- Why a store could not serve a request. -/
inductive Outage where
  /-- An in-memory store is switched off. -/
  | switchedOff
  /-- An in-memory store was told to fail requests like this one. -/
  | injected (kind : CallKind) (table : String)
  /-- The request was intercepted on its way to the store. -/
  | intercepted
  /-- The remote service did not answer with success. -/
  | service
  /-- The connection to the remote service failed. -/
  | connection
  /-- The request to the remote service was not fit to be sent. -/
  | unsendable
  /-- Any other reason, in words. -/
  | described (reason : String)
  deriving DecidableEq

def Outage.message : Outage → String
  | switchedOff => "memory store switched off"
  | injected kind table => "injected fault for " ++ kind.name ++ " on `" ++ table ++ "`"
  | intercepted => "probe fault"
  | service => "service error"
  | connection => "dispatch failure"
  | unsendable => "failed to construct request"
  | described reason => reason

/-- The store could not serve a request. -/
inductive StoreError where
  | unavailable (cause : Outage)
  | noSuchTable (table : String)
  deriving DecidableEq

namespace StoreError

def message : StoreError → String
  | unavailable cause => "store unavailable: " ++ cause.message
  | noSuchTable table => "no such table: " ++ table

def cause? : StoreError → Option String
  | unavailable cause => some cause.message
  | noSuchTable _ => none

end StoreError

end ClusterIdentity
