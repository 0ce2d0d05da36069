import ClusterIdentity.Proofs.Dynamo.Reads
import ClusterIdentity.Table.Memory
import Mathlib.Data.List.Forall2

/-!
# A store on the service refines a store in memory

Whatever is asked of a store that keeps its rows with the service, it answers as a store in memory
does that starts with the corresponding rows, and the two go on corresponding.

## Main definitions

* `StoreCall.IsRegular`: requests that do not meddle with the key of an item
* `inTurn`: the program that sends requests one after the other
* `SucceededAlike`: the same request with answers that agree

## Main statements

* `follows`: the service carries out a regular request as it is carried out on the contents of a
  store
* `run_inTurn_alike`: so it does with any sequence of them
-/

namespace ClusterIdentity

/-- The request names no attribute like the key of an item. It writes some attribute, removes none
twice, reads all that a filter selects and asks for no key twice. -/
def StoreCall.IsRegular : StoreCall → Prop
  | put _ _ attributes condition =>
    attributes.isEmpty = false ∧ attributes.get? Dynamo.keyAttribute = none ∧
      ∀ c ∈ condition, c.name ≠ Dynamo.keyAttribute
  | delete _ _ scope condition =>
    scope.IsRegular ∧ ∀ c ∈ condition, c.name ≠ Dynamo.keyAttribute
  | scan _ filter limit =>
    limit = none ∧ ∀ e ∈ filter.equalities, e.1 ≠ Dynamo.keyAttribute
  | batchGet _ keys => keys.Nodup

instance : DecidablePred StoreCall.IsRegular
  | .put _ _ _ condition => inferInstanceAs (Decidable (_ ∧ _ ∧ ∀ c ∈ condition, _))
  | .delete _ _ _ condition => inferInstanceAs (Decidable (_ ∧ ∀ c ∈ condition, _))
  | .scan _ filter _ => inferInstanceAs (Decidable (_ ∧ ∀ e ∈ filter.equalities, _))
  | .batchGet _ keys => inferInstanceAs (Decidable keys.Nodup)

/-- A request and what a store answered to it. -/
abbrev CallWithAnswer := (call : StoreCall) × Except StoreError call.Reply

/-- The same request succeeded twice, and with answers that agree. -/
inductive SucceededAlike : CallWithAnswer → CallWithAnswer → Prop
  | intro (call : StoreCall) {a b : call.Reply} (h : call.Agree a b) :
    SucceededAlike ⟨call, .ok a⟩ ⟨call, .ok b⟩

/-- The program that sends requests one after the other and takes down the answers. -/
def inTurn : List StoreCall →
    Program StoreCall (fun call => Except StoreError call.Reply) (List CallWithAnswer)
  | [] => .done []
  | call :: calls =>
    .perform call fun answer => (inTurn calls).bind fun rest => .done (⟨call, answer⟩ :: rest)

theorem run_inTurn_cons {σ : Type}
    (handler : (call : StoreCall) → σ → Except StoreError call.Reply × σ) (call : StoreCall)
    (calls : List StoreCall) (s : σ) :
    (inTurn (call :: calls)).run handler s =
      (⟨call, (handler call s).1⟩ :: ((inTurn calls).run handler (handler call s).2).1,
        ((inTurn calls).run handler (handler call s).2).2) :=
  Program.run_bind handler (inTurn calls) _ _

/-- A store in memory that nothing is wrong with serves requests on its contents. -/
theorem Memory.serve_eq {memory : Memory} (hon : memory.switchedOff = false)
    (hfaults : memory.faults = []) (call : StoreCall) :
    memory.serve call =
      (.ok (memory.contents.perform call).1,
        { memory with contents := (memory.contents.perform call).2 }) := by
  have hserves : memory.refusal? call = none := by
    rw [refusal?, hon, hfaults]
    rfl
  rw [serve, hserves]

namespace Dynamo

section Run

variable [KeyOrder ItemId]

/-- A regular request is carried out as on the contents of a store. -/
theorem carriesOut {s : Service} {contents : Contents} (h : Corresponds s contents)
    {call : StoreCall} (htable : call.table ∈ s.tables) (hregular : call.IsRegular) {rounds : Nat}
    (hrounds : s.items.size < rounds) : CarriesOut rounds call s contents := by
  cases call with
  | put table key attributes condition =>
    exact carriesOut_put h htable hregular.1 hregular.2.1 hregular.2.2 rounds
  | delete table key scope condition =>
    exact carriesOut_delete h htable hregular.1 hregular.2 rounds
  | scan table filter limit =>
    obtain ⟨rfl, hnames⟩ := hregular
    exact carriesOut_scan h htable hnames hrounds
  | batchGet table keys => exact carriesOut_batchGet h htable hregular (Nat.zero_lt_of_lt hrounds)

/-- **Refinement.** Regular requests on existing tables, sent one after the other, are answered by
a store on the service as by a store in memory that starts with the corresponding rows, and the
two end with corresponding rows. Reading a table takes one more round at most than the service
has items. -/
theorem run_inTurn_alike {s : Service} {memory : Memory} (hon : memory.switchedOff = false)
    (hfaults : memory.faults = []) (h : Corresponds s memory.contents) {calls : List StoreCall}
    (hregular : ∀ call ∈ calls, call.IsRegular) (htables : ∀ call ∈ calls, call.table ∈ s.tables)
    {rounds : Nat} (hrounds : s.items.size + calls.length ≤ rounds) :
    List.Forall₂ SucceededAlike
        ((inTurn calls).run (fun call s => s.perform rounds call) s).1
        ((inTurn calls).run (fun call memory => memory.serve call) memory).1 ∧
      Corresponds ((inTurn calls).run (fun call s => s.perform rounds call) s).2
        ((inTurn calls).run (fun call memory => memory.serve call) memory).2.contents := by
  induction calls generalizing s memory with
  | nil => exact ⟨.nil, h⟩
  | cons call calls ih =>
    rw [List.length_cons] at hrounds
    have hcarries : CarriesOut rounds call s memory.contents :=
      carriesOut h (htables call (List.mem_cons_self ..)) (hregular call (List.mem_cons_self ..))
        (by omega)
    obtain ⟨reply, hreply, hagree⟩ := hcarries.reply
    rw [run_inTurn_cons, run_inTurn_cons, hreply, Memory.serve_eq hon hfaults]
    have hsize := hcarries.size
    obtain ⟨hanswers, hcorresponds⟩ := @ih _
      { memory with contents := (memory.contents.perform call).2 } hon hfaults
      hcarries.corresponds (fun c hc => hregular c (List.mem_cons_of_mem _ hc))
      (fun c hc => hcarries.tables ▸ htables c (List.mem_cons_of_mem _ hc)) (by omega)
    exact ⟨.cons (.intro call hagree) hanswers, hcorresponds⟩

end Run

/-- Items in the order of the rows of a store. -/
@[reducible]
def placeOrder : KeyOrder ItemId where
  before a b := KeyOrder.before (RowId.mk a.table a.key) ⟨b.table, b.key⟩
  before_irrefl _ := KeyOrder.before_irrefl _
  before_trans h h' := KeyOrder.before_trans h h'
  eq_of_not_before h h' :=
    have heq := KeyOrder.eq_of_not_before h h'
    ItemId.ext (congrArg RowId.table heq) (congrArg RowId.key heq)

/-- A row is written, loses its only attribute and is written again. -/
def rewriting : List StoreCall :=
  [.put "tokens" "a" (Dict.singleton "x" "1") none,
    .delete "tokens" "a" (.attributes ["x"]) (some (.equals "x" "1")),
    .scan "tokens" .all none,
    .put "tokens" "a" (Dict.singleton "y" "2") (some (.absent "x")),
    .batchGet "tokens" ["a", "b"]]

/-- A service that is new and has room for one item on a page answers like a store in memory that
is new. -/
theorem run_rewriting_alike : ∃ (_ : KeyOrder ItemId) (s : Service),
    List.Forall₂ SucceededAlike
        ((inTurn rewriting).run (fun call s => s.perform 5 call) s).1
        ((inTurn rewriting).run (fun call memory => memory.serve call) (Memory.new false)).1 ∧
      Corresponds ((inTurn rewriting).run (fun call s => s.perform 5 call) s).2
        ((inTurn rewriting).run (fun call memory => memory.serve call)
          (Memory.new false)).2.contents := by
  let := placeOrder
  exact ⟨placeOrder, ⟨["tokens"], by decide, ∅, fun _ => 0⟩,
    run_inTurn_alike rfl rfl (fun _ _ => .missing) (by decide) (by decide) (Nat.le_refl 5)⟩

end Dynamo

end ClusterIdentity
