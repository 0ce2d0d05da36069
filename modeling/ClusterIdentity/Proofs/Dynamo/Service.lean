import ClusterIdentity.Proofs.Dynamo.Reading

/-!
# The service

A reference for the service that requests are sent to. It keeps items by table and key and answers
each request in one step: it reads the expressions of the request, evaluates the conditions on the
item as it is, and only then changes the item.

## Main definitions

* `Item.satisfies`, `Item.updated`: conditions on an item and changes of it
* `Service`: tables, items, and the size of the pages to come
* `Service.answer`: what the service answers to a request, and what becomes of it

## Design notes

The order in which the service goes through its items is any order of their places, and the pages
of a scan are of any size; the key of the last item looked at is announced whenever a page was
filled, even if there is nothing behind it. Bounds on the size of names, values and answers are
left out, but for the number of keys in a batch.
-/

namespace ClusterIdentity.Dynamo

open Expression

/-! ### Items -/

namespace Item

/-- Whether a condition holds for an item. A value is equal to a text only if it is that text. -/
def satisfies (item : Item) : Condition → Bool
  | .equals name value =>
    match item.get? name with
    | some (.text text) => text == value
    | _ => false
  | .present name => (item.get? name).isSome
  | .absent name => (item.get? name).isNone

def updated (item : Item) : Update → Item
  | .assign entries => entries.foldl (fun acc e => acc.insert e.1 (.text e.2)) item
  | .remove names => item.eraseAll names

/-- The text of the key, if the key is a text. -/
def key? (item : Item) : Option String :=
  match item.get? keyAttribute with
  | some (.text key) => some key
  | _ => none

theorem key?_ofKey (key : String) : (ofKey key).key? = some key := by
  rw [key?, ofKey, Dict.get?_singleton, if_pos rfl]

end Item

/-- The attributes that an update is about. -/
def Expression.Update.names : Update → List String
  | .assign entries => entries.map Prod.fst
  | .remove names => names

/-- Whether an update is about no attribute twice and not about the key. -/
def Expression.Update.isValid (update : Update) : Bool :=
  decide (update.names.Nodup ∧ keyAttribute ∉ update.names)

/-- Whether a batch asks for everything, and for some keys, none of them twice. -/
def KeyBatch.isValid (batch : KeyBatch) (keys : List String) : Bool :=
  !keys.isEmpty && decide keys.Nodup && batch.attributes.isNone && batch.projection.isNone &&
    batch.names.isNone

/-- The keys of a batch that is in order. -/
def KeyBatch.validKeys? (batch : KeyBatch) : Option (List String) :=
  match batch.keys.mapM Item.key? with
  | some keys => if batch.isValid keys then some keys else none
  | none => none

/-! ### Tables -/

/-- The place of an item: its table and its key in it. -/
@[ext]
structure ItemId where
  table : String
  key : String
  deriving DecidableEq

variable [KeyOrder ItemId]

structure Service where
  tables : List String
  named : ∀ table ∈ tables, isBlankText table = false
  items : Dict ItemId Item
  /-- How many items the service looks at for the pages to come, besides the first one. -/
  pageSizes : Nat → Nat

namespace Service

def item? (s : Service) (table key : String) : Option Item := s.items.get? ⟨table, key⟩

def setItem (s : Service) (table key : String) (item? : Option Item) : Service :=
  { s with items := s.items.set ⟨table, key⟩ item? }

variable (s : Service)

/-- The request is in order, but cannot be carried out. -/
def refuse {α : Type} (kind : ServiceException) : Except Failure α × Service :=
  (.error (.service kind), s)

/-- Changes an item if the conditions hold for it, and answers with the item as it was. Where there
is no item there are no attributes. -/
def change (table key : String) (conditions : List Condition)
    (new : Option Item → Option Item) : Except Failure (Option Item) × Service :=
  let old := s.item? table key
  if conditions.all (old.getD ∅).satisfies then (.ok old, s.setItem table key (new old))
  else s.refuse .conditionalCheckFailed

/-- The items of a table, from the start or behind a key, in the order of the service. -/
def behind (table : String) (start : Option String) : List (ItemId × Item) :=
  s.items.toList.filter fun e =>
    decide (e.1.table = table) && start.all fun key => KeyOrder.before ⟨table, key⟩ e.1

/-- A page of the items for which the conditions hold. -/
def page (table : String) (conditions : List Condition) (start : Option String) :
    Page × Service :=
  let size := s.pageSizes 0 + 1
  let rest := s.behind table start
  let seen := rest.take size
  ({ items := (seen.map Prod.snd).filter fun item => conditions.all item.satisfies
     lastKey := if size ≤ rest.length then seen.getLast?.map fun e => .ofKey e.1.key else none },
    { s with pageSizes := fun n => s.pageSizes (n + 1) })

/-- The items with the keys, in the order of the service. -/
def found (table : String) (keys : List String) : List Item :=
  s.items.toList.filterMap fun e =>
    if e.1.table = table ∧ e.1.key ∈ keys then some e.2 else none

/-- The greatest number of keys in one request. -/
def batchLimit : Nat := 100

/-- Changes an item as expressions say, creating it if necessary. -/
def updateItem (table key : String) (update condition : Option String) (p : Placeholders)
    (returnOld : Bool) : Except Failure (Option Item) × Service :=
  if table ∉ s.tables then s.refuse .resourceNotFound
  else
    match readUpdate? p update, readConditions? p condition with
    | some update?, some conditions =>
      if usesAll p (update.toList ++ condition.toList) ∧ update?.all Update.isValid then
        let (answer, after) := s.change table key conditions fun old =>
          let item := old.getD (.ofKey key)
          some ((update?.map item.updated).getD item)
        (answer.map fun old => if returnOld then old else none, after)
      else s.refuse .other
    | _, _ => s.refuse .other

def deleteItem (table key : String) (condition : Option String) (p : Placeholders) :
    Except Failure (Option Item) × Service :=
  if table ∉ s.tables then s.refuse .resourceNotFound
  else
    match readConditions? p condition with
    | some conditions =>
      if usesAll p condition.toList then s.change table key conditions fun _ => none
      else s.refuse .other
    | none => s.refuse .other

def scan (table : String) (filter : Option Filter.Rendered) (start : Option Item) :
    Except Failure Page × Service :=
  let p := (filter.map fun f => ⟨f.names, f.values⟩).getD noPlaceholders
  let expression := filter.map Filter.Rendered.expression
  if table ∉ s.tables then s.refuse .resourceNotFound
  else
    match readConditions? p expression, start.mapM Item.key? with
    | some conditions, some start =>
      if usesAll p expression.toList then
        let (page, after) := s.page table conditions start
        (.ok page, after)
      else s.refuse .other
    | _, _ => s.refuse .other

def batchGetItem (batches : Dict String KeyBatch) : Except Failure BatchPage × Service :=
  match batches.toList.mapM fun e => e.2.validKeys?.map (e.1, ·) with
  | some wanted =>
    if wanted.isEmpty || batchLimit < (wanted.flatMap Prod.snd).length then s.refuse .other
    else if wanted.any fun e => !s.tables.contains e.1 then s.refuse .resourceNotFound
    else (.ok ⟨Dict.ofList (wanted.map fun e => (e.1, s.found e.1 e.2)), ∅⟩, s)
  | none => s.refuse .other

def describeTable (table : String) : Except Failure Unit × Service :=
  if table ∈ s.tables then (.ok (), s) else s.refuse .resourceNotFound

def createTable (table : String) : Except Failure Unit × Service :=
  if table ∈ s.tables then s.refuse .resourceInUse
  else if h : isBlankText table = false then
    (.ok (), { s with tables := table :: s.tables, named := List.forall_mem_cons.mpr ⟨h, s.named⟩ })
  else s.refuse .other

end Service

/-- What the service answers to a request, and what becomes of the service. -/
def Service.answer : (request : Request) → Service → Except Failure request.Output × Service
  | .updateItem table key update condition placeholders returnOld, s =>
    s.updateItem table key update condition placeholders returnOld
  | .deleteItem table key condition placeholders, s => s.deleteItem table key condition placeholders
  | .scan table filter start, s => s.scan table filter start
  | .batchGetItem batches, s => s.batchGetItem batches
  | .describeTable table, s => s.describeTable table
  | .createTable table, s => s.createTable table

end ClusterIdentity.Dynamo
