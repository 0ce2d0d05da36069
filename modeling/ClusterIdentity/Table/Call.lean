import ClusterIdentity.Table.Condition
import ClusterIdentity.Table.Filter
import ClusterIdentity.Table.Error

/-!
# Requests to a store

A store offers conditional writes and deletes of single rows, scans, and reads of given rows.
There are no transactions; whatever spans several rows is built on top.

## Main definitions

* `StoreCall`: the requests
* `StoreCall.Reply`: the type of the answer to each request
* `CallPattern`: a description of some requests

## Design notes

The reader of a scan takes rows one after another and may stop early. How many rows it is going
to take is part of the request, so that a store which fetches rows in pages knows where to stop;
the answer holds the rows that were taken and the failure, if any, that ended the reading.
-/

namespace ClusterIdentity

/-- What a delete removes. -/
inductive DeleteScope where
  | row
  /-- Only the named attributes. A row that has none left is removed. -/
  | attributes (names : List String)
  deriving DecidableEq

inductive PutOutcome where
  | written
  | conditionFailed
  deriving DecidableEq

/-- How a delete ended; if carried out, with the row as it was before. -/
inductive DeleteOutcome where
  | deleted (old : Option Row)
  | conditionFailed
  deriving DecidableEq

/-- What the reader of a scan took: rows in order, and the failure that ended the reading. -/
structure Scanned where
  rows : List Row
  failure : Option StoreError
  deriving DecidableEq

inductive StoreCall where
  /-- Sets attributes of a row, creating it if necessary and keeping its other attributes. -/
  | put (table key : String) (attributes : Attributes) (condition : Option Condition)
  /-- Removes a row or some of its attributes. -/
  | delete (table key : String) (scope : DeleteScope) (condition : Option Condition)
  /-- Reads rows that the filter selects: all of them, or at most `limit`. -/
  | scan (table : String) (filter : Filter) (limit : Option Nat)
  | batchGet (table : String) (keys : List String)
  deriving DecidableEq

namespace StoreCall

/-- The type of the answer to a request that succeeds. -/
def Reply : StoreCall → Type
  | put .. => PutOutcome
  | delete .. => DeleteOutcome
  | scan .. => Scanned
  | batchGet .. => Rows

def kind : StoreCall → CallKind
  | put .. => .put
  | delete .. => .delete
  | scan .. => .scan
  | batchGet .. => .batchGet

def table : StoreCall → String
  | put table .. => table
  | delete table .. => table
  | scan table .. => table
  | batchGet table .. => table

/-- The key that the request is for: the first one of several, none for a scan. -/
def key? : StoreCall → Option String
  | put _ key .. => some key
  | delete _ key .. => some key
  | scan .. => none
  | batchGet _ keys => keys.head?

end StoreCall

/-- Describes requests by kind, table and key; what is left out may be anything. -/
structure CallPattern where
  kind : Option CallKind
  table : Option String
  /-- `some none` stands for requests without a key. -/
  key : Option (Option String)
  deriving DecidableEq

def CallPattern.fits (pattern : CallPattern) (call : StoreCall) : Bool :=
  (pattern.kind.all fun k => k == call.kind) &&
  (pattern.table.all fun t => t == call.table) &&
  (pattern.key.all fun k => k == call.key?)

end ClusterIdentity
