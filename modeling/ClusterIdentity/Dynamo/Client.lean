import ClusterIdentity.Dynamo.Expression
import ClusterIdentity.Event
import ClusterIdentity.Table.Call

/-!
# A store on DynamoDB

How each request to a store is carried out by requests to DynamoDB. All reads are consistent; the
lock protocol depends on it. Nothing is sent twice: only the caller knows which failures are safe
to repeat.

## Main definitions

* `Client.put`, `Client.delete`, `Client.scan`, `Client.batchGet`, `Client.perform`
* `Client.ensureTable`

## Design notes

A scan goes on for as long as the service announces another page, and a read of keys for as long
as it leaves keys unprocessed; neither need ever end. Both take a bound on the requests they
send, beyond which the connection counts as lost.
-/

namespace ClusterIdentity.Dynamo.Client

/-- The failure of a store behind the failure of a request. -/
def storeError (table : String) : Failure → StoreError
  | .service .resourceNotFound => .noSuchTable table
  | .service _ => .unavailable .service
  | .connection => .unavailable .connection
  | .unsendable => .unavailable .unsendable

/-- Sets attributes of a row, in name order. Without any, the request has no update. -/
def put (table key : String) (attributes : Attributes) (condition : Option Condition) :
    Exchange (Except StoreError PutOutcome) := do
  let update :=
    if attributes.isEmpty then none else some (Expression.assignments attributes.toList)
  let condition := condition.map Expression.condition
  let placeholders :=
    Expression.both (Expression.placeholders update) (Expression.placeholders condition)
  match ← send (.updateItem table key (Expression.text? update) (Expression.text? condition)
    placeholders false) with
  | .ok _ => return .ok .written
  | .error (.service .conditionalCheckFailed) => return .ok .conditionFailed
  | .error e => return .error (storeError table e)

/-- The outcome of a delete from what the service returned. -/
def deleted (table : String) :
    Except Failure (Option Item) → Except StoreError DeleteOutcome
  | .ok old => .ok (.deleted (old.bind Item.toRow?))
  | .error (.service .conditionalCheckFailed) => .ok .conditionFailed
  | .error e => .error (storeError table e)

/-- Removes a row or some of its attributes. -/
def delete (table key : String) (scope : DeleteScope) (condition : Option Condition) :
    Exchange (Except StoreError DeleteOutcome) := do
  let condition := condition.map Expression.condition
  match scope with
  | .row =>
    let answer ← send (.deleteItem table key (Expression.text? condition)
      (Expression.placeholders condition))
    return deleted table answer
  | .attributes names =>
    let removal := Expression.removals names
    let answer ← send (.updateItem table key (some removal.text) (Expression.text? condition)
      (Expression.both removal.placeholders (Expression.placeholders condition)) true)
    return deleted table answer

/-- Reads pages until there is none left or enough rows were taken. -/
def pages (table : String) (filter : Option Filter.Rendered) :
    (rounds : Nat) → (start : Option Item) → (limit : Option Nat) → Exchange Scanned
  | 0, _, _ => return ⟨[], some (.unavailable .connection)⟩
  | rounds + 1, start, limit => do
    match ← send (.scan table filter start) with
    | .error e => return ⟨[], some (storeError table e)⟩
    | .ok (page : Page) =>
      let rows := page.items.filterMap Item.toRow?
      let taken := match limit with
        | some n => rows.take n
        | none => rows
      let limit := limit.map (· - rows.length)
      if limit = some 0 then return ⟨taken, none⟩
      match page.next? with
      | none => return ⟨taken, none⟩
      | some key =>
        let rest ← pages table filter rounds (some key) limit
        return ⟨taken ++ rest.rows, rest.failure⟩

/-- Reads the rows that a filter selects. Nothing is sent before the reader asks for a row, and
no page that it does not reach. -/
def scan (rounds : Nat) (table : String) (filter : Filter) (limit : Option Nat) :
    Exchange Scanned :=
  if limit = some 0 then return ⟨[], none⟩
  else
    pages table (if filter.equalities.isEmpty then none else some filter.render) rounds none limit

/-- The greatest number of keys in one request. -/
def batchLimit : Nat := 100

/-- The keys in groups of at most `batchLimit`, in order. -/
def chunks (keys : List String) : List (List String) :=
  if keys.isEmpty then []
  else keys.take batchLimit :: chunks (keys.drop batchLimit)
termination_by keys.length
decreasing_by
  simp only [List.length_drop, batchLimit]
  have : 0 < keys.length := by
    cases keys <;> simp_all
  omega

/-- The first request for some keys. -/
def firstBatch (table : String) (keys : List String) : Dict String KeyBatch :=
  Dict.singleton table (.ofKeys keys)

/-- The rows with those among the items set. -/
def collect (rows : Rows) (items : List Item) : Rows :=
  (items.filterMap Item.toRow?).foldl (fun acc row => acc.insert row.key row.attributes) rows

/-- Asks for keys again and again until none is left unprocessed. -/
def drain (table : String) :
    (rounds : Nat) → (pending : Dict String KeyBatch) → (rows : Rows) →
      Exchange (Except StoreError Rows)
  | 0, pending, rows =>
    return if pending.isEmpty then .ok rows else .error (.unavailable .connection)
  | rounds + 1, pending, rows =>
    if pending.isEmpty then return .ok rows
    else do
      match ← send (.batchGetItem pending) with
      | .error e => return .error (storeError table e)
      | .ok (page : BatchPage) =>
        drain table rounds page.unprocessed (collect rows ((page.found.get? table).getD []))

/-- Reads groups of keys one after the other. -/
def drainAll (rounds : Nat) (table : String) :
    (groups : List (List String)) → (rows : Rows) → Exchange (Except StoreError Rows)
  | [], rows => return .ok rows
  | keys :: groups, rows => do
    match ← drain table rounds (firstBatch table keys) rows with
    | .error e => return .error e
    | .ok rows => drainAll rounds table groups rows

def batchGet (rounds : Nat) (table : String) (keys : List String) :
    Exchange (Except StoreError Rows) :=
  drainAll rounds table (chunks keys) ∅

def perform (rounds : Nat) : (call : StoreCall) → Exchange (Except StoreError call.Reply)
  | .put table key attributes condition => put table key attributes condition
  | .delete table key scope condition => delete table key scope condition
  | .scan table filter limit => do
    let scanned ← scan rounds table filter limit
    return .ok scanned
  | .batchGet table keys => batchGet rounds table keys

inductive Creation where
  | existed
  | created
  /-- Someone else created it at the same time. -/
  | createdElsewhere
  deriving DecidableEq

/-- The event that tells of a new table. -/
def Creation.event? (table : String) : Creation → Option Event
  | existed => none
  | created => some (.tableCreated table)
  | createdElsewhere => some (.tableCreatedElsewhere table)

/-- The failure of a request that is about a table itself. -/
def tableError : Failure → StoreError
  | .service _ => .unavailable .service
  | .connection => .unavailable .connection
  | .unsendable => .unavailable .unsendable

/-- Creates a table unless it exists. -/
def ensureTable (table : String) : Exchange (Except StoreError Creation) := do
  match ← send (.describeTable table) with
  | .ok _ => return .ok .existed
  | .error (.service .resourceNotFound) =>
    match ← send (.createTable table) with
    | .ok _ => return .ok .created
    | .error (.service .resourceInUse) => return .ok .createdElsewhere
    | .error e => return .error (tableError e)
  | .error e => return .error (tableError e)

end ClusterIdentity.Dynamo.Client
