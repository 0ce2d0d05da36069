import ClusterIdentity.Proofs.Dynamo.Reads
import Mathlib.Data.List.Chain

/-!
# Reads in batches

A read of many keys is a run of requests for some of them at a time. A service need not look up all
keys that a request names: it says which ones it left, and is asked for these again.

## Main definitions

* `AsksFor`: what a request for some keys of a table looks like
* `KeyedService`: a service with one table that nobody changes, which may leave keys unprocessed
* `Asked`, `Asked.Processed`: a request with its answer, and the keys that the answer is about
* `ReadsKeys`, `Reads`: the requests of a read, and the rows that they brought

## Main statements

* `ReadsKeys.cons`, `ReadsKeys.append`: requests before a read, and one read after another
* `run_drain_keys`, `run_drainAll_keys`: the requests for a group of keys, and for several groups
* `batchGet_complete`: reads by key lose nothing, however much is left each time

## Design notes

What a service answers may depend on its state. In one run the state is settled by how many requests
came before, so the answers are a function of that number and the request.
-/

namespace ClusterIdentity.Dynamo

/-! ### Requests for keys -/

/-- The batches name some keys of one table and no others. Without any keys there is no batch. -/
def AsksFor (table : String) (keys : List String) (batches : Dict String KeyBatch) : Prop :=
  keys = [] ∧ batches = ∅ ∨
    keys ≠ [] ∧ ∃ batch : KeyBatch, batches = Dict.singleton table batch ∧
      batch.keys = keys.map Item.ofKey

/-- The keys of a table that batches name. -/
def keysIn (table : String) (batches : Dict String KeyBatch) : List String :=
  ((batches.get? table).map fun batch => batch.keys.filterMap Item.key?).getD []

section AsksFor

variable {table : String} {keys : List String} {batches : Dict String KeyBatch}

theorem asksFor_firstBatch (table : String) (h : keys ≠ []) :
    AsksFor table keys (Client.firstBatch table keys) :=
  .inr ⟨h, .ofKeys keys, rfl, rfl⟩

theorem AsksFor.keysIn_eq (h : AsksFor table keys batches) : keysIn table batches = keys := by
  rcases h with ⟨rfl, rfl⟩ | ⟨-, batch, rfl, hkeys⟩
  · rfl
  · rw [keysIn, Dict.get?_singleton, if_pos rfl, Option.map_some, Option.getD_some, hkeys,
      List.filterMap_map]
    have hkey : Item.key? ∘ Item.ofKey = some := funext Item.key?_ofKey
    rw [hkey, List.filterMap_some]

theorem AsksFor.isEmpty_eq (h : AsksFor table keys batches) :
    batches.isEmpty = keys.isEmpty := by
  rcases h with ⟨rfl, rfl⟩ | ⟨hne, batch, rfl, -⟩
  · rfl
  · cases keys with
    | nil => exact (hne rfl).elim
    | cons key rest => rfl

theorem AsksFor.isSendable (h : AsksFor table keys batches) :
    (Request.batchGetItem batches).isSendable = true := by
  rcases h with ⟨-, rfl⟩ | ⟨-, batch, rfl, hkeys⟩
  · rfl
  · have hknown : (batch.keys.all Item.isKnown) = true := by
      rw [hkeys, List.all_map, List.all_eq_true]
      exact fun _ _ => rfl
    show (batch.keys.all Item.isKnown && true) = true
    rw [hknown]
    rfl

end AsksFor

/-! ### A service that takes its time -/

/-- A service with one table in which nothing changes. It looks up some of the keys that a request
names and leaves the others, all of them only for some time. It may fail at any time. -/
structure KeyedService (table : String) where
  item? : String → Option Item
  keyed : ∀ key item, item? key = some item → item.get? keyAttribute = some (.text key)
  /-- The answer to a request, by the number of requests before it. -/
  respond : Nat → Dict String KeyBatch → Except Failure BatchPage
  /-- The number of requests after which each answer is about some key. -/
  patience : Nat
  /-- The answer has the items of some of the keys, and names the other keys as unprocessed. -/
  lawful : ∀ n keys batches page, keys ≠ [] → AsksFor table keys batches →
    respond n batches = .ok page → ∃ done left, (done ++ left).Perm keys ∧
      ((page.found.get? table).getD []).Perm (done.filterMap item?) ∧
      AsksFor table left page.unprocessed ∧ (patience ≤ n → done ≠ [])

/-- A request for keys with its answer. -/
structure Asked where
  request : Request
  answer : Except Failure BatchPage

namespace Asked

variable (table : String) (a : Asked)

/-- The keys that the request names. -/
def keys : List String :=
  match a.request with
  | .batchGetItem batches => keysIn table batches
  | _ => []

/-- The keys that are left after the answer. A failure leaves them all. -/
def left : List String :=
  match a.answer with
  | .ok page => keysIn table page.unprocessed
  | .error _ => a.keys table

/-- A key that the request names was looked up. -/
def Processed (key : String) : Prop := key ∈ a.keys table ∧ key ∉ a.left table

end Asked

namespace KeyedService

variable {table : String} (service : KeyedService table)

/-- Answers the requests of a program and records them in order. Requests of another kind fail. -/
def answer : (request : Request) → List Asked → Except Failure request.Output × List Asked
  | .batchGetItem batches, log =>
    (service.respond log.length batches,
      log ++ [⟨.batchGetItem batches, service.respond log.length batches⟩])
  | request, log => (.error .connection, log ++ [⟨request, .error .connection⟩])

/-- The row of a key, if it has one. -/
def row? (key : String) : Option Attributes :=
  ((service.item? key).bind Item.toRow?).map Row.attributes

variable {service}

/-- A key has a row if its item has a text or a number besides the key. -/
theorem row?_eq_some_iff {key : String} {attributes : Attributes} :
    service.row? key = some attributes ↔ ∃ item, service.item? key = some item ∧
      item.HasAttribute ∧ ∀ name, attributes.get? name =
        if name = keyAttribute then none else (item.get? name).bind AttributeValue.string? := by
  rw [row?, Option.map_eq_some_iff]
  simp only [Option.bind_eq_some_iff, Item.toRow?_eq_some_iff]
  constructor
  · rintro ⟨row, ⟨item, hitem, -, hattribute, hget⟩, rfl⟩
    exact ⟨item, hitem, hattribute, hget⟩
  · rintro ⟨item, hitem, hattribute, hget⟩
    exact ⟨⟨key, attributes⟩, ⟨item, hitem, service.keyed key item hitem, hattribute, hget⟩, rfl⟩

/-- The row of an item that has a key has that key. -/
theorem key_of_toRow? {key : String} {row : Row}
    (h : (service.item? key).bind Item.toRow? = some row) : row.key = key := by
  obtain ⟨item, hitem, hrow⟩ := Option.bind_eq_some_iff.mp h
  have hkey := service.keyed key item hitem
  rw [(Item.toRow?_eq_some_iff.mp hrow).1, Option.some.injEq, AttributeValue.text.injEq] at hkey
  exact hkey

/-- What was read of some keys is added to what was read before. -/
theorem get?_collect {done : List String} {items : List Item} (hdone : done.Nodup)
    (hitems : items.Perm (done.filterMap service.item?)) (rows : Rows) (key : String) :
    (Client.collect rows items).get? key =
      (if key ∈ done then service.row? key else none).or (rows.get? key) := by
  have hrows : (items.filterMap Item.toRow?).Perm
      (done.filterMap fun key => (service.item? key).bind Item.toRow?) := by
    rw [← List.filterMap_filterMap]
    exact hitems.filterMap _
  refine get?_collect_of_mem_iff (fun key => if key ∈ done then service.row? key else none)
    (fun row => ?_) ?_ rows key
  · rw [hrows.mem_iff, List.mem_filterMap, Option.ite_none_right_eq_some, row?,
      Option.map_eq_some_iff]
    constructor
    · rintro ⟨key, hkey, hrow⟩
      obtain rfl := key_of_toRow? hrow
      exact ⟨hkey, row, hrow, rfl⟩
    · obtain ⟨key, attributes⟩ := row
      rintro ⟨hkey, ⟨key', _⟩, hrow, rfl⟩
      obtain rfl : key' = key := key_of_toRow? hrow
      exact ⟨key', hkey, hrow⟩
  · rw [hrows.pairwise_iff Ne.symm, List.pairwise_filterMap]
    refine hdone.imp fun hne a ha b hb hkey => hne ?_
    rw [← key_of_toRow? ha, hkey, key_of_toRow? hb]

end KeyedService

/-! ### Reads -/

/-- How a read of keys ends: when all of them were looked up, or with the first failure. -/
def EndsWith (table : String) (keys : List String) (log : List Asked) : Option Failure → Prop
  | none =>
    (∀ a ∈ log, ∃ page, a.answer = .ok page) ∧
      (∀ key ∈ keys, ∃ a ∈ log, a.Processed table key) ∧
      ∀ a ∈ log.getLast?, a.left table = []
  | some e =>
    ∃ before last, log = before ++ [last] ∧ (∀ a ∈ before, ∃ page, a.answer = .ok page) ∧
      last.answer = .error e

/-- The requests are those of a read of some keys. -/
structure ReadsKeys (table : String) (keys : List String) (log : List Asked)
    (failure : Option Failure) : Prop where
  asks : ∀ a ∈ log, ∃ batches, a.request = .batchGetItem batches ∧
    AsksFor table (a.keys table) batches
  sized : ∀ a ∈ log, 1 ≤ (a.keys table).length ∧ (a.keys table).length ≤ 100
  wanted : ∀ a ∈ log, (a.keys table).Nodup ∧ ∀ key ∈ a.keys table, key ∈ keys
  /-- What is left is asked for at once. -/
  until_processed : log.IsChain fun a next => ∀ key ∈ a.left table, key ∈ next.keys table
  never_again : log.Pairwise fun a later =>
    ∀ key, a.Processed table key → key ∉ later.keys table
  ends : EndsWith table keys log failure

namespace ReadsKeys

variable {table : String} {keys left : List String} {log : List Asked} {failure : Option Failure}
  {batches : Dict String KeyBatch}

theorem nil (table : String) : ReadsKeys table [] [] none :=
  ⟨nofun, nofun, nofun, .nil, .nil, nofun, nofun, nofun⟩

theorem sized_of_batchInOrder (h : BatchInOrder keys) : 1 ≤ keys.length ∧ keys.length ≤ 100 :=
  ⟨List.length_pos_iff.mpr h.1, h.2.2⟩

/-- A request that fails is the last one. -/
theorem failed (hkeys : BatchInOrder keys) (hasks : AsksFor table keys batches) (e : Failure) :
    ReadsKeys table keys [⟨.batchGetItem batches, .error e⟩] (some e) := by
  have hnamed : (⟨.batchGetItem batches, .error e⟩ : Asked).keys table = keys := hasks.keysIn_eq
  constructor
  case asks => exact List.forall_mem_singleton.mpr ⟨batches, rfl, hnamed ▸ hasks⟩
  case sized => exact List.forall_mem_singleton.mpr (hnamed ▸ sized_of_batchInOrder hkeys)
  case wanted =>
    rw [List.forall_mem_singleton, hnamed]
    exact ⟨hkeys.2.1, fun _ hkey => hkey⟩
  case until_processed => exact List.isChain_singleton _
  case never_again => exact List.pairwise_singleton _ _
  case ends => exact ⟨[], _, rfl, nofun, rfl⟩

/-- A request that is answered goes before a read of the keys that are left. -/
theorem cons (hkeys : BatchInOrder keys) (hasks : AsksFor table keys batches) {page : BatchPage}
    (hpage : AsksFor table left page.unprocessed) (hleft : ∀ key ∈ left, key ∈ keys)
    (h : ReadsKeys table left log failure) (hhead : ∀ a ∈ log.head?, a.keys table = left) :
    ReadsKeys table keys (⟨.batchGetItem batches, .ok page⟩ :: log) failure := by
  have hnamed : (⟨.batchGetItem batches, .ok page⟩ : Asked).keys table = keys := hasks.keysIn_eq
  have hrest : (⟨.batchGetItem batches, .ok page⟩ : Asked).left table = left := hpage.keysIn_eq
  constructor
  case asks => exact List.forall_mem_cons.mpr ⟨⟨batches, rfl, hnamed ▸ hasks⟩, h.asks⟩
  case sized => exact List.forall_mem_cons.mpr ⟨hnamed ▸ sized_of_batchInOrder hkeys, h.sized⟩
  case wanted =>
    rw [List.forall_mem_cons, hnamed]
    refine ⟨⟨hkeys.2.1, fun _ hkey => hkey⟩, fun a ha => ?_⟩
    exact ⟨(h.wanted a ha).1, fun key hkey => hleft key ((h.wanted a ha).2 key hkey)⟩
  case until_processed =>
    refine List.isChain_cons.mpr ⟨fun a ha key hkey => ?_, h.until_processed⟩
    rw [hhead a ha]
    rwa [hrest] at hkey
  case never_again =>
    refine List.pairwise_cons.mpr ⟨fun a ha key hprocessed hkey => ?_, h.never_again⟩
    exact hprocessed.2 (hrest.symm ▸ (h.wanted a ha).2 key hkey)
  case ends =>
    have hends := h.ends
    cases failure with
    | none =>
      obtain ⟨hok, hall, hlast⟩ := hends
      refine ⟨List.forall_mem_cons.mpr ⟨⟨page, rfl⟩, hok⟩, fun key hkey => ?_, ?_⟩
      · by_cases hkept : key ∈ left
        · obtain ⟨a, ha, hprocessed⟩ := hall key hkept
          exact ⟨a, List.mem_cons_of_mem _ ha, hprocessed⟩
        · exact ⟨_, List.mem_cons_self .., hnamed.symm ▸ hkey, hrest.symm ▸ hkept⟩
      · cases log with
        | cons a rest =>
          rw [List.getLast?_cons_cons]
          exact hlast
        | nil =>
          -- nobody asks for the keys that are left, so there are none
          have hnone : left = [] := List.eq_nil_iff_forall_not_mem.mpr fun key hkey => by
            obtain ⟨a, ha, -⟩ := hall key hkey
            cases ha
          rintro a ⟨rfl⟩
          exact hrest.trans hnone
    | some e =>
      obtain ⟨before, last, rfl, hok, hlast⟩ := hends
      exact ⟨_ :: before, last, rfl, List.forall_mem_cons.mpr ⟨⟨page, rfl⟩, hok⟩, hlast⟩

/-- A read that failed is one of more keys as well: the others were not come to. -/
theorem of_failed {more : List String} {e : Failure} (h : ReadsKeys table keys log (some e))
    (hmore : ∀ key ∈ keys, key ∈ more) : ReadsKeys table more log (some e) where
  asks := h.asks
  sized := h.sized
  wanted a ha := ⟨(h.wanted a ha).1, fun key hkey => hmore key ((h.wanted a ha).2 key hkey)⟩
  until_processed := h.until_processed
  never_again := h.never_again
  ends := h.ends

/-- One read after another of other keys. -/
theorem append {more : List String} {later : List Asked} (h : ReadsKeys table keys log none)
    (h' : ReadsKeys table more later failure) (hdisjoint : ∀ key ∈ keys, key ∉ more) :
    ReadsKeys table (keys ++ more) (log ++ later) failure := by
  constructor
  case asks => exact List.forall_mem_append.mpr ⟨h.asks, h'.asks⟩
  case sized => exact List.forall_mem_append.mpr ⟨h.sized, h'.sized⟩
  case wanted =>
    refine List.forall_mem_append.mpr ⟨fun a ha => ?_, fun a ha => ?_⟩
    · exact ⟨(h.wanted a ha).1, fun key hkey =>
        List.mem_append_left _ ((h.wanted a ha).2 key hkey)⟩
    · exact ⟨(h'.wanted a ha).1, fun key hkey =>
        List.mem_append_right _ ((h'.wanted a ha).2 key hkey)⟩
  case until_processed =>
    refine List.isChain_append.mpr ⟨h.until_processed, h'.until_processed, ?_⟩
    intro a ha next _ key hkey
    -- the first read has left nothing
    rw [h.ends.2.2 a ha] at hkey
    cases hkey
  case never_again =>
    refine List.pairwise_append.mpr ⟨h.never_again, h'.never_again, ?_⟩
    intro a ha a' ha' key hprocessed hkey
    exact hdisjoint key ((h.wanted a ha).2 key hprocessed.1) ((h'.wanted a' ha').2 key hkey)
  case ends =>
    obtain ⟨hok, hall, hlast⟩ := h.ends
    have hends := h'.ends
    cases failure with
    | none =>
      obtain ⟨hok', hall', hlast'⟩ := hends
      refine ⟨List.forall_mem_append.mpr ⟨hok, hok'⟩, List.forall_mem_append.mpr ⟨?_, ?_⟩, ?_⟩
      · intro key hkey
        obtain ⟨a, ha, hprocessed⟩ := hall key hkey
        exact ⟨a, List.mem_append_left _ ha, hprocessed⟩
      · intro key hkey
        obtain ⟨a, ha, hprocessed⟩ := hall' key hkey
        exact ⟨a, List.mem_append_right _ ha, hprocessed⟩
      · intro a ha
        rw [List.getLast?_append] at ha
        rcases Option.or_eq_some_iff.mp ha with ha | ⟨-, ha⟩
        · exact hlast' a ha
        · exact hlast a ha
    | some e =>
      obtain ⟨before, last, rfl, hok', hlast'⟩ := hends
      exact ⟨log ++ before, last, (List.append_assoc ..).symm,
        List.forall_mem_append.mpr ⟨hok, hok'⟩, hlast'⟩

end ReadsKeys

/-! ### Runs -/

/-- What a read returns: the rows, unless it failed. -/
def readOutcome (table : String) (rows : Rows) : Option Failure → Except StoreError Rows
  | none => .ok rows
  | some e => .error (Client.storeError table e)

section Runs

variable {table : String} (service : KeyedService table) {keys : List String}
  {batches : Dict String KeyBatch} {rows : Rows}

theorem run_drain_empty (rounds : Nat) (rows : Rows) (prior : List Asked) :
    (Client.drain table rounds ∅ rows).run service.answer prior = (.ok rows, prior) := by
  cases rounds <;> rfl

/-- One request for some keys, and what comes after it. -/
theorem run_drain_succ (hne : keys ≠ []) (hasks : AsksFor table keys batches) (rounds : Nat)
    (rows : Rows) (prior : List Asked) :
    (Client.drain table (rounds + 1) batches rows).run service.answer prior =
      match service.respond prior.length batches with
      | .error e =>
        (.error (Client.storeError table e), prior ++ [⟨.batchGetItem batches, .error e⟩])
      | .ok page =>
        (Client.drain table rounds page.unprocessed
          (Client.collect rows ((page.found.get? table).getD []))).run service.answer
            (prior ++ [⟨.batchGetItem batches, .ok page⟩]) := by
  have hpending : ¬ batches.isEmpty = true := by
    rw [hasks.isEmpty_eq, List.isEmpty_iff]
    exact hne
  rw [Client.drain, if_neg hpending]
  refine (run_send_bind service.answer _ hasks.isSendable prior _).trans ?_
  rw [KeyedService.answer]
  cases service.respond prior.length batches <;> rfl

/-- A read of some keys that starts with some rows: its requests, and the rows after it. -/
structure Reads (keys : List String) (rows : Rows) (log : List Asked) (failure : Option Failure)
    (after : Rows) : Prop where
  requests : ReadsKeys table keys log failure
  rows : failure = none → ∀ key,
    after.get? key = (if key ∈ keys then service.row? key else none).or (rows.get? key)

/-- Rows that were read in two parts. -/
theorem or_of_parts {first second : List String} {key : String}
    (hkeys : key ∈ keys ↔ key ∈ first ∨ key ∈ second) (row? old : Option Attributes) :
    (if key ∈ second then row? else none).or ((if key ∈ first then row? else none).or old) =
      (if key ∈ keys then row? else none).or old := by
  by_cases hfirst : key ∈ first <;> by_cases hsecond : key ∈ second <;> cases row? <;>
    simp [hkeys, hfirst, hsecond]

namespace Reads

variable {service} {log : List Asked} {failure : Option Failure} {after : Rows}

theorem nil (rows : Rows) : Reads service [] rows [] none rows :=
  ⟨.nil table, fun _ _ => rfl⟩

theorem failed (hkeys : BatchInOrder keys) (hasks : AsksFor table keys batches) (e : Failure)
    (rows : Rows) :
    Reads service keys rows [⟨.batchGetItem batches, .error e⟩] (some e) rows :=
  ⟨.failed hkeys hasks e, nofun⟩

/-- A request that is answered goes before a read of the keys that are left. -/
theorem cons (hkeys : BatchInOrder keys) (hasks : AsksFor table keys batches) {page : BatchPage}
    {done left : List String} (hparts : (done ++ left).Perm keys)
    (hfound : ((page.found.get? table).getD []).Perm (done.filterMap service.item?))
    (hpage : AsksFor table left page.unprocessed)
    (h : Reads service left (Client.collect rows ((page.found.get? table).getD [])) log failure
      after) (hhead : ∀ a ∈ log.head?, a.keys table = left) :
    Reads service keys rows (⟨.batchGetItem batches, .ok page⟩ :: log) failure after where
  requests := h.requests.cons hkeys hasks hpage
    (fun _ hkey => hparts.subset (List.mem_append_right _ hkey)) hhead
  rows hnone key := by
    have hdone : done.Nodup := (List.nodup_append.mp (hparts.nodup_iff.mpr hkeys.2.1)).1
    rw [h.rows hnone, KeyedService.get?_collect hdone hfound]
    exact or_of_parts (by rw [← hparts.mem_iff, List.mem_append]) _ _

/-- One read after another of other keys. -/
theorem append {more : List String} {later : List Asked} {end' : Rows}
    (h : Reads service keys rows log none after)
    (h' : Reads service more after later failure end') (hdisjoint : ∀ key ∈ keys, key ∉ more) :
    Reads service (keys ++ more) rows (log ++ later) failure end' where
  requests := h.requests.append h'.requests hdisjoint
  rows hnone key := by
    rw [h'.rows hnone, h.rows rfl]
    exact or_of_parts List.mem_append _ _

end Reads

/-- Without any keys nothing is asked for. -/
theorem run_drain_none (hasks : AsksFor table [] batches) (prior : List Asked) (rows : Rows)
    (rounds : Nat) :
    (Client.drain table rounds batches rows).run service.answer prior =
      (readOutcome table rows none, prior ++ []) := by
  obtain ⟨-, rfl⟩ : _ ∧ batches = ∅ := hasks.resolve_right fun h => h.1 rfl
  rw [run_drain_empty, List.append_nil]
  rfl

/-- A group of keys is asked for again and again, until all of them were looked up. -/
theorem run_drain_keys (fuel : Nat) (prior : List Asked) (rows : Rows)
    (hasks : AsksFor table keys batches) (hnodup : keys.Nodup)
    (hsize : keys.length ≤ Service.batchLimit)
    (hfuel : service.patience - prior.length + keys.length ≤ fuel) :
    ∃ log failure after, Reads service keys rows log failure after ∧
      (∀ a ∈ log.head?, a.keys table = keys) ∧
      ∀ rounds ≥ fuel, (Client.drain table rounds batches rows).run service.answer prior =
        (readOutcome table after failure, prior ++ log) := by
  -- each request uses up patience or looks up some key
  induction fuel generalizing prior keys batches rows with
  | zero =>
    obtain rfl : keys = [] := List.length_eq_zero_iff.mp (by omega)
    exact ⟨[], none, rows, .nil rows, nofun,
      fun rounds _ => run_drain_none service hasks prior rows rounds⟩
  | succ fuel ih =>
    by_cases hne : keys = []
    · subst hne
      exact ⟨[], none, rows, .nil rows, nofun,
        fun rounds _ => run_drain_none service hasks prior rows rounds⟩
    · have hkeys : BatchInOrder keys := ⟨hne, hnodup, hsize⟩
      cases hanswer : service.respond prior.length batches with
      | error e =>
        refine ⟨_, some e, rows, .failed hkeys hasks e rows, ?_, fun rounds hrounds => ?_⟩
        · rintro a ⟨rfl⟩
          exact hasks.keysIn_eq
        · obtain ⟨rounds, rfl⟩ := Nat.exists_eq_add_of_le' hrounds
          rw [← Nat.add_assoc, run_drain_succ service hne hasks, hanswer]
          rfl
      | ok page =>
        obtain ⟨done, left, hparts, hfound, hpage, hprogress⟩ :=
          service.lawful _ _ _ _ hne hasks hanswer
        have hlength : done.length + left.length = keys.length := by
          rw [← List.length_append, hparts.length_eq]
        have hless : service.patience - (prior.length + 1) + left.length ≤ fuel := by
          rcases Nat.lt_or_ge prior.length service.patience with hpatient | himpatient
          · omega
          · have hdone := List.length_pos_iff.mpr (hprogress himpatient)
            omega
        obtain ⟨log, failure, after, hreads, hhead, hrun⟩ :=
          ih (prior ++ [⟨.batchGetItem batches, .ok page⟩])
          (Client.collect rows ((page.found.get? table).getD [])) hpage
          (List.nodup_append.mp (hparts.nodup_iff.mpr hnodup)).2.1 (by omega)
          (by rwa [List.length_append, List.length_singleton])
        refine ⟨_, failure, after, .cons hkeys hasks hparts hfound hpage hreads hhead, ?_,
          fun rounds hrounds => ?_⟩
        · rintro a ⟨rfl⟩
          exact hasks.keysIn_eq
        · obtain ⟨rounds, rfl⟩ := Nat.exists_eq_add_of_le' hrounds
          rw [← Nat.add_assoc, run_drain_succ service hne hasks, hanswer]
          refine (hrun (rounds + fuel) (Nat.le_add_left ..)).trans ?_
          rw [List.append_assoc]
          rfl

/-- Groups of different keys are read one after the other. -/
theorem run_drainAll_keys {groups : List (List String)}
    (hgroups : ∀ keys ∈ groups, BatchInOrder keys) (hnodup : groups.flatten.Nodup) (rows : Rows)
    (prior : List Asked) :
    ∃ log failure after, Reads service groups.flatten rows log failure after ∧
      ∀ rounds ≥ service.patience + Service.batchLimit,
        (Client.drainAll rounds table groups rows).run service.answer prior =
          (readOutcome table after failure, prior ++ log) := by
  induction groups generalizing rows prior with
  | nil =>
    refine ⟨[], none, rows, .nil rows, fun rounds _ => ?_⟩
    rw [List.append_nil]
    rfl
  | cons keys groups ih =>
    obtain ⟨hkeys, hrest⟩ := List.forall_mem_cons.mp hgroups
    obtain ⟨-, hflat, hdisjoint⟩ := List.nodup_append.mp hnodup
    obtain ⟨log, failure, after, hreads, -, hrun⟩ := run_drain_keys service
      (service.patience + Service.batchLimit) prior rows (asksFor_firstBatch table hkeys.1)
      hkeys.2.1 hkeys.2.2 (Nat.add_le_add (Nat.sub_le ..) hkeys.2.2)
    cases failure with
    | some e =>
      refine ⟨log, some e, after, ⟨hreads.requests.of_failed ?_, nofun⟩, fun rounds hrounds => ?_⟩
      · exact fun key hkey => List.mem_append_left _ hkey
      · rw [Client.drainAll, Program.bind_eq_bind, Program.run_bind, hrun rounds hrounds]
        rfl
    | none =>
      obtain ⟨later, failure', end', hreads', hrun'⟩ := ih hrest hflat after (prior ++ log)
      refine ⟨log ++ later, failure', end', hreads.append hreads' ?_, fun rounds hrounds => ?_⟩
      · exact fun key hkey hother => hdisjoint key hkey key hother rfl
      · rw [Client.drainAll, Program.bind_eq_bind, Program.run_bind, hrun rounds hrounds]
        exact (hrun' rounds hrounds).trans (by rw [List.append_assoc])

/-- **Reads in batches.** Whatever a service with one table leaves unprocessed, as long as it does
not leave everything for good, a read of different keys ends. Its requests name between 1 and 100
keys each, and every key until it was looked up and not any more after that. If no request fails the
rows are those of the items with a text or a number besides the key. The first failure is the end of
the read and all that it returns. -/
theorem batchGet_complete (service : KeyedService table) (hkeys : keys.Nodup) :
    (∀ rounds, (Client.batchGet rounds table []).run service.answer [] = (.ok ∅, [])) ∧
    ∃ log failure rows, ReadsKeys table keys log failure ∧
      (∀ rounds ≥ service.patience + 100,
        (Client.batchGet rounds table keys).run service.answer [] =
          (readOutcome table rows failure, log)) ∧
      (failure = none → ∀ key attributes, rows.get? key = some attributes ↔
        key ∈ keys ∧ ∃ item, service.item? key = some item ∧ item.HasAttribute ∧
          ∀ name, attributes.get? name =
            if name = keyAttribute then none else (item.get? name).bind AttributeValue.string?) ∧
      ∀ e, failure = some e →
        e = .service .resourceNotFound ∧
            readOutcome table rows failure = .error (.noSuchTable table) ∨
          e ≠ .service .resourceNotFound ∧
            ∃ cause, readOutcome table rows failure = .error (.unavailable cause) := by
  have hempty : ∀ rounds,
      (Client.batchGet rounds table []).run service.answer [] = (.ok ∅, []) := by
    intro rounds
    have hnone : Client.chunks [] = [] := by
      rw [Client.chunks]
      rfl
    rw [Client.batchGet, hnone]
    rfl
  obtain ⟨log, failure, rows, hreads, hrun⟩ := run_drainAll_keys service
    (fun _ => batchInOrder_of_mem_chunks hkeys) ((flatten_chunks keys).symm ▸ hkeys) ∅ []
  rw [flatten_chunks] at hreads
  refine ⟨hempty, log, failure, rows, hreads.requests, hrun, fun hnone key attributes => ?_, ?_⟩
  · rw [hreads.rows hnone, Dict.get?_emptyCollection, Option.or_none,
      Option.ite_none_right_eq_some, KeyedService.row?_eq_some_iff]
  · rintro e rfl
    refine (Client.storeError_cases table e).imp (And.imp_right fun h => ?_)
      (And.imp_right fun ⟨cause, h⟩ => ⟨cause, ?_⟩)
    · exact congrArg Except.error h
    · exact congrArg Except.error h

end Runs

/-- Two items, of which one has only the key. -/
def twoItems? (key : String) : Option Item :=
  if key = "a" then some (Dict.ofList [(keyAttribute, .text "a"), ("count", .number "1")])
  else if key = "b" then some (.ofKey "b")
  else none

/-- A service that looks up nothing at first, and then one key at a time. -/
def reluctant : KeyedService "locks" where
  item? := twoItems?
  keyed key item h := by
    rw [twoItems?] at h
    split at h
    · subst key
      obtain rfl := Option.some.inj h
      rfl
    · obtain ⟨rfl, hitem⟩ := Option.ite_none_right_eq_some.mp h
      obtain rfl := Option.some.inj hitem
      rfl
  respond n batches :=
    match n, keysIn "locks" batches with
    | 0, _ => .ok ⟨∅, batches⟩
    | _ + 1, [] => .ok ⟨∅, ∅⟩
    | _ + 1, key :: rest => .ok
      { found := Dict.singleton "locks" (twoItems? key).toList
        unprocessed := if rest.isEmpty then ∅ else Client.firstBatch "locks" rest }
  patience := 1
  lawful n keys batches page hne hasks hanswer := by
    rw [hasks.keysIn_eq] at hanswer
    obtain ⟨key, rest, rfl⟩ := List.exists_cons_of_ne_nil hne
    cases n with
    | zero =>
      obtain rfl := Except.ok.inj hanswer
      exact ⟨[], key :: rest, .refl _, .refl _, hasks, nofun⟩
    | succ n =>
      obtain rfl := Except.ok.inj hanswer
      refine ⟨[key], rest, .refl _, ?_, ?_, fun _ => List.cons_ne_nil key []⟩
      · show (twoItems? key).toList.Perm _
        rw [List.filterMap_cons]
        cases twoItems? key <;> exact .refl _
      · cases rest with
        | nil => exact .inl ⟨rfl, rfl⟩
        | cons next rest => exact asksFor_firstBatch "locks" (List.cons_ne_nil next rest)

/-- What that service leaves is asked for again, until all keys were looked up. -/
theorem batchGet_from_reluctant : ["a", "b", "c"].Nodup ∧ ∃ log rows,
    ReadsKeys "locks" ["a", "b", "c"] log none ∧ log.length = 4 ∧ rows.keys = ["a"] ∧
      (Client.batchGet 101 "locks" ["a", "b", "c"]).run reluctant.answer [] = (.ok rows, log) := by
  have hnodup : ["a", "b", "c"].Nodup := by decide
  obtain ⟨-, log, failure, rows, hreads, hrun, -⟩ := batchGet_complete reluctant hnodup
  have hchunks : Client.chunks ["a", "b", "c"] = [["a", "b", "c"]] := by
    simp [Client.chunks, Client.batchLimit]
  have heval : ((Client.batchGet 101 "locks" ["a", "b", "c"]).run reluctant.answer []).2.length =
      4 := by
    rw [Client.batchGet, hchunks]
    rfl
  have hkeys : ((Client.batchGet 101 "locks" ["a", "b", "c"]).run reluctant.answer []).1.map
      Dict.keys = .ok ["a"] := by
    rw [Client.batchGet, hchunks]
    rfl
  rw [hrun 101 (Nat.le_refl _)] at heval hkeys
  cases failure with
  | some e => cases hkeys
  | none => exact ⟨hnodup, log, rows, hreads, heval, Except.ok.inj hkeys, hrun 101 (Nat.le_refl _)⟩

end ClusterIdentity.Dynamo
