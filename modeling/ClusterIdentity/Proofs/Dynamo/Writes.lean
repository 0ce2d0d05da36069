import ClusterIdentity.Dynamo.Client
import ClusterIdentity.Proofs.Dynamo.Correspondence
import ClusterIdentity.Proofs.Dynamo.Rendered

/-!
# Writes and deletes

What becomes of a write or a delete that is sent to the service. It is the same as for the rows of
a store: the expressions of the request are read as what they were rendered from, the condition is
evaluated on the item, and the item is changed as the row is.

## Main definitions

* `Service.perform`: what a store on the service answers to a request
* `StoreCall.Agree`: answers that are the same but for the order of scanned rows
* `CarriesOut`: a request is carried out by the service as on the contents of a store

## Main statements

* `run_send_bind`: what a program does that sends a request
* `carriesOut_put`, `carriesOut_delete`: writes and deletes are carried out as on the
  contents of a store
-/

namespace ClusterIdentity

/-- The answers are the same. The rows of a scan may come in another order. -/
def StoreCall.Agree : (call : StoreCall) → call.Reply → call.Reply → Prop
  | .put .., a, b => a = b
  | .delete .., a, b => a = b
  | .scan .., a, b => a.rows.Perm b.rows ∧ a.failure = b.failure
  | .batchGet .., a, b => a = b

/-- The scope is a row, or some attributes, none of them twice and the key not among them. -/
def DeleteScope.IsRegular : DeleteScope → Prop
  | row => True
  | attributes names => names ≠ [] ∧ names.Nodup ∧ Dynamo.keyAttribute ∉ names

instance : DecidablePred DeleteScope.IsRegular
  | .row => inferInstanceAs (Decidable True)
  | .attributes _ => inferInstanceAs (Decidable (_ ∧ _ ∧ _))

namespace Dynamo

open Expression

/-! ### Sending -/

/-- A failure counts as that of a missing table if the service says that there is no such table, and
as an outage otherwise. -/
theorem Client.storeError_cases (table : String) (e : Failure) :
    e = .service .resourceNotFound ∧ storeError table e = .noSuchTable table ∨
      e ≠ .service .resourceNotFound ∧ ∃ cause, storeError table e = .unavailable cause := by
  cases e with
  | service kind => cases kind <;> simp [storeError]
  | connection => simp [storeError]
  | unsendable => simp [storeError]

/-- A program that sends a request goes on with the answer, whoever gives it. -/
theorem run_send_bind {σ α : Type}
    (handler : (request : Request) → σ → Except Failure request.Output × σ) (request : Request)
    (h : request.isSendable = true) (s : σ)
    (next : Except Failure request.Output → Exchange α) :
    ((send request).bind next).run handler s =
      (next (handler request s).1).run handler (handler request s).2 := by
  rw [send, if_pos h, Program.run_bind]
  rfl

variable [KeyOrder ItemId]

/-- What a store on the service answers to a request. -/
def Service.perform (rounds : Nat) (call : StoreCall) (s : Service) :
    Except StoreError call.Reply × Service :=
  (Client.perform rounds call).run Service.answer s

/-- The service carries a request out as it is carried out on the contents of a store. -/
structure CarriesOut (rounds : Nat) (call : StoreCall) (s : Service) (contents : Contents) :
    Prop where
  reply : ∃ reply, (s.perform rounds call).1 = .ok reply ∧
    call.Agree reply (contents.perform call).1
  corresponds : Corresponds (s.perform rounds call).2 (contents.perform call).2
  tables : (s.perform rounds call).2.tables = s.tables
  size : (s.perform rounds call).2.items.size ≤ s.items.size + 1

/-- A program that sends a request goes on with what the service answers. -/
theorem run_send {α : Type} (request : Request) (h : request.isSendable = true) {s after : Service}
    {answer : Except Failure request.Output} (hanswer : s.answer request = (answer, after))
    (next : Except Failure request.Output → Exchange α) :
    ((send request).bind next).run Service.answer s = (next answer).run Service.answer after := by
  rw [run_send_bind _ request h]
  change Program.run _ (next (s.answer request).1) (s.answer request).2 = _
  rw [hanswer]

/-- A program that sends a conditional request goes on with the answer to the change, or with
being told that the condition does not hold. -/
theorem run_send_change {α : Type} (request : Request) (h : request.isSendable = true)
    {s after : Service} {allowed : Prop} [Decidable allowed] {answer : request.Output}
    (hanswer : s.answer request =
      if allowed then (.ok answer, after) else s.refuse .conditionalCheckFailed)
    (next : Except Failure request.Output → Exchange α) :
    ((send request).bind next).run Service.answer s =
      if allowed then (next (.ok answer)).run Service.answer after
      else (next (.error (.service .conditionalCheckFailed))).run Service.answer s := by
  split
  · rename_i hallowed
    exact run_send request h (hanswer.trans (if_pos hallowed)) next
  · rename_i hnot
    exact run_send request h (hanswer.trans (if_neg hnot)) next

theorem isSendable_of_mem {s : Service} {table : String} (htable : table ∈ s.tables) :
    (!isBlankText table) = true := by
  rw [s.named table htable]
  rfl

section Calls

variable {s : Service} {contents : Contents} {table key : String} {condition : Option Condition}

/-- An item is changed exactly if the condition allows the change of the row. -/
theorem Service.change_eq (h : Corresponds s contents)
    (hcondition : ∀ c ∈ condition, c.name ≠ keyAttribute) (new : Option Item → Option Item) :
    s.change table key condition.toList new =
      if Condition.allows condition (contents.row? table key) then
        (.ok (s.item? table key), s.setItem table key (new (s.item? table key)))
      else s.refuse .conditionalCheckFailed := by
  rw [change, (h table key).allows_eq hcondition]

/-- An update that was rendered is carried out exactly if the condition allows the change of the
row. -/
theorem Service.updateItem_eq (key : String) (h : Corresponds s contents)
    (htable : table ∈ s.tables) (hcondition : ∀ c ∈ condition, c.name ≠ keyAttribute)
    {e : Rendered} {new : Update} {p : Placeholders}
    (hp : p = both e.placeholders (placeholders (condition.map Expression.condition)))
    (hread : readUpdate? p (some e.text) = some (some new)) (hclosed : Closed e)
    (hvalid : new.isValid = true) (returnOld : Bool) :
    s.updateItem table key (some e.text) (text? (condition.map Expression.condition)) p returnOld =
      if Condition.allows condition (contents.row? table key) then
        (.ok (if returnOld then s.item? table key else none),
          s.setItem table key (some (((s.item? table key).getD (.ofKey key)).updated new)))
      else s.refuse .conditionalCheckFailed := by
  have huses : usesAll p ((some e.text).toList ++
      (text? (condition.map Expression.condition)).toList) = true :=
    hp ▸ usesAll_both (e := some e) (fun x hx => Option.mem_some.mp hx ▸ hclosed)
      (closed_map_condition condition)
  rw [updateItem, if_neg (not_not_intro htable), hread,
    readConditions?_text? condition (hp ▸ extends_both_right _ _)]
  refine (if_pos ⟨huses, hvalid⟩).trans ?_
  simp only [change_eq h hcondition]
  by_cases hallows : Condition.allows condition (contents.row? table key) = true
  · simp only [hallows, if_true]
    rfl
  · simp only [hallows, Bool.false_eq_true, if_false]
    rfl

theorem perform_put (h : Corresponds s contents) (htable : table ∈ s.tables)
    {attributes : Attributes} (hne : attributes.isEmpty = false)
    (hnames : attributes.get? keyAttribute = none)
    (hcondition : ∀ c ∈ condition, c.name ≠ keyAttribute) (rounds : Nat) :
    s.perform rounds (.put table key attributes condition) =
      if Condition.allows condition (contents.row? table key) then
        (.ok .written, s.setItem table key
          (some (((s.item? table key).getD (.ofKey key)).updated (.assign attributes.toList))))
      else (.ok .conditionFailed, s) := by
  have hentries : attributes.toList ≠ [] := by
    intro hnil
    rw [Dict.isEmpty, hnil] at hne
    cases hne
  have hvalid : (Update.assign attributes.toList).isValid = true := by
    refine decide_eq_true ⟨List.pairwise_map.mpr attributes.pairwise_ne, fun hmem => ?_⟩
    obtain ⟨value, hvalue⟩ := Dict.mem_keys_iff.mp hmem
    rw [hnames] at hvalue
    cases hvalue
  have hupdate := Service.updateItem_eq key h htable hcondition rfl
    (readUpdate?_assignments hentries (extends_assignments _ condition)) (closed_assignments _)
    hvalid false
  change (Client.put table key attributes condition).run Service.answer s = _
  rw [Client.put, hne]
  exact run_send_change (.updateItem ..) (isSendable_of_mem htable) hupdate _

theorem perform_deleteRow (h : Corresponds s contents) (htable : table ∈ s.tables)
    (hcondition : ∀ c ∈ condition, c.name ≠ keyAttribute) (rounds : Nat) :
    s.perform rounds (.delete table key .row condition) =
      if Condition.allows condition (contents.row? table key) then
        (.ok (.deleted ((s.item? table key).bind Item.toRow?)), s.setItem table key none)
      else (.ok .conditionFailed, s) := by
  have hdelete : s.deleteItem table key (text? (condition.map Expression.condition))
      (placeholders (condition.map Expression.condition)) =
        s.change table key condition.toList fun _ => none := by
    rw [Service.deleteItem, if_neg (not_not_intro htable),
      readConditions?_text? condition ⟨fun _ _ h => h, fun _ _ h => h⟩]
    exact if_pos (usesAll_text? (closed_map_condition condition))
  rw [Service.change_eq h hcondition] at hdelete
  change (Client.delete table key .row condition).run Service.answer s = _
  rw [Client.delete]
  exact run_send_change (.deleteItem ..) (isSendable_of_mem htable) hdelete _

theorem perform_deleteAttributes (h : Corresponds s contents) (htable : table ∈ s.tables)
    (hcondition : ∀ c ∈ condition, c.name ≠ keyAttribute) {names : List String}
    (hne : names ≠ []) (hnodup : names.Nodup) (hnames : keyAttribute ∉ names) (rounds : Nat) :
    s.perform rounds (.delete table key (.attributes names) condition) =
      if Condition.allows condition (contents.row? table key) then
        (.ok (.deleted ((s.item? table key).bind Item.toRow?)), s.setItem table key
          (some (((s.item? table key).getD (.ofKey key)).updated (.remove names))))
      else (.ok .conditionFailed, s) := by
  have hvalid : (Update.remove names).isValid = true := decide_eq_true ⟨hnodup, hnames⟩
  have hupdate := Service.updateItem_eq key h htable hcondition rfl
    (readUpdate?_removals hne (extends_removals _ condition)) (closed_removals _) hvalid true
  change (Client.delete table key (.attributes names) condition).run Service.answer s = _
  rw [Client.delete]
  exact run_send_change (.updateItem ..) (isSendable_of_mem htable) hupdate _

/-- A conditional change of an item follows that of the row. -/
theorem CarriesOut.of_change {rounds : Nat} {call : StoreCall} {allowed : Prop} [Decidable allowed]
    {reply reply' failed : call.Reply} {item? : Option Item} {row? : Option Attributes}
    (h : Corresponds s contents)
    (hperform : s.perform rounds call =
      if allowed then (.ok reply, s.setItem table key item?) else (.ok failed, s))
    (hcontents : contents.perform call =
      if allowed then (reply', contents.setRow table key row?) else (failed, contents))
    (hreply : call.Agree reply reply') (hfailed : call.Agree failed failed)
    (hplace : Mirrors key item? row?) : CarriesOut rounds call s contents := by
  by_cases hallowed : allowed
  · rw [if_pos hallowed] at hperform hcontents
    constructor
    · exact ⟨reply, congrArg Prod.fst hperform, by rw [hcontents]; exact hreply⟩
    · rw [hperform, hcontents]
      exact h.set table hplace
    · rw [hperform]
      rfl
    · rw [hperform]
      exact Dict.size_set_le ..
  · rw [if_neg hallowed] at hperform hcontents
    constructor
    · exact ⟨failed, congrArg Prod.fst hperform, by rw [hcontents]; exact hfailed⟩
    · rw [hperform, hcontents]
      exact h
    · rw [hperform]
    · rw [hperform]
      exact Nat.le_succ _

/-- A write of attributes, the key not among them, is carried out as on the contents of a store. -/
theorem carriesOut_put (h : Corresponds s contents) (htable : table ∈ s.tables)
    {attributes : Attributes} (hne : attributes.isEmpty = false)
    (hnames : attributes.get? keyAttribute = none)
    (hcondition : ∀ c ∈ condition, c.name ≠ keyAttribute) (rounds : Nat) :
    CarriesOut rounds (.put table key attributes condition) s contents :=
  .of_change h (perform_put h htable hne hnames hcondition rounds) rfl rfl rfl
    ((h table key).assigned hnames hne)

/-- A delete is carried out as on the contents of a store. -/
theorem carriesOut_delete (h : Corresponds s contents) (htable : table ∈ s.tables)
    {scope : DeleteScope} (hscope : scope.IsRegular)
    (hcondition : ∀ c ∈ condition, c.name ≠ keyAttribute) (rounds : Nat) :
    CarriesOut rounds (.delete table key scope condition) s contents := by
  have hold : DeleteOutcome.deleted ((s.item? table key).bind Item.toRow?) =
      .deleted ((contents.row? table key).map (⟨key, ·⟩)) :=
    congrArg _ (h table key).toRow?_eq
  cases scope with
  | row =>
    exact .of_change h (perform_deleteRow h htable hcondition rounds) rfl hold rfl .missing
  | attributes names =>
    obtain ⟨hne, hnodup, hnames⟩ := hscope
    exact .of_change h (perform_deleteAttributes h htable hcondition hne hnodup hnames rounds) rfl
      hold rfl ((h table key).removed hnames)

end Calls

end Dynamo

end ClusterIdentity
