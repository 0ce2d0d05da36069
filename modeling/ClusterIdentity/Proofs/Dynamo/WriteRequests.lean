import ClusterIdentity.Dynamo.Client
import ClusterIdentity.Dynamo.Wire
import ClusterIdentity.Proofs.Dynamo.Rendered
import ClusterIdentity.Proofs.Json.Fields
import ClusterIdentity.Proofs.Operations

/-!
# Requests of writes and deletes

What is said by the body of the request that a write or a delete sends. Its expressions mention a
placeholder exactly if the map of the kind of the placeholder has an entry for it, and with what the
entries stand for they are the update and the condition that were given. An assignment, a removal
and a condition never share a placeholder, even if they are about the same attribute.

## Main definitions

* `Expression.changes?`: an update expression, which may ask for nothing
* `Expression.marked`: the placeholders of a kind in some expressions
* `Expression.Exact`: placeholders are those that occur
* `Write`, `Write.ofBody?`: the expressions and the maps in the body of a request
* `Write.ofParts`: what is written for an update and a condition
* `Write.Means`: they stand for an update and a condition
* `SendsOnly`: a program sends one request

## Main statements

* `Expression.Exact.both`: the parts of a request are put together
* `Write.ofBody?_updateItem`, `Write.ofBody?_deleteItem`: what is read from a body
* `write_requests_closed`
-/

namespace ClusterIdentity.Dynamo

namespace Expression

/-! ### Updates that may ask for nothing -/

/-- The parts of an update, which follow its keyword. -/
def parts (rest : List Token) : List (List Token) :=
  if rest.isEmpty then [] else rest.splitOn .comma

/-- What an update expression asks for. Unlike `update?` it may ask for nothing behind its keyword,
which the service would refuse. -/
def changes? : List Token → Option Update
  | .word keyword :: rest =>
    if keyword = "SET" then ((parts rest).mapM assignment?).map .assign
    else if keyword = "REMOVE" then ((parts rest).mapM name?).map .remove
    else none
  | _ => none

/-- The update that an expression stands for; left out, there is none. -/
def readChanges? (p : Placeholders) : Option String → Option (Option Update)
  | none => some none
  | some text => do return some (← (← changes? (tokens text)).resolve p)

/-- What the service accepts is read alike. -/
theorem changes?_of_update? {ts : List Token} {u : Update} (h : update? ts = some u) :
    changes? ts = some u := by
  match ts with
  | [.word keyword] =>
    -- behind the keyword the service reads one part without tokens, which is no part of an update
    have hnone : update? [.word keyword] = none := by
      rw [update?]
      split
      · rfl
      · split <;> rfl
    rw [hnone] at h
    cases h
  | .word keyword :: t :: rest => exact h

theorem readChanges?_of_readUpdate? {p : Placeholders} {text : Option String} {u : Option Update}
    (h : readUpdate? p text = some u) : readChanges? p text = some u := by
  cases text with
  | none => exact h
  | some text =>
    simp only [readUpdate?, Option.bind_eq_bind, Option.bind_eq_some_iff] at h
    obtain ⟨words, hwords, resolved, hresolved, hu⟩ := h
    simp only [readChanges?, changes?_of_update? hwords, Option.bind_eq_bind, Option.bind_some,
      hresolved]
    exact hu

/-- Rendered removals ask for these removals, also if there are none. -/
theorem readChanges?_removals (names : List String) {p : Placeholders}
    (hp : Extends p (removals names).placeholders) :
    readChanges? p (some (removals names).text) = some (some (.remove names)) := by
  cases names with
  | nil =>
    have hwords : changes? (tokens (removals []).text) = some (.remove []) := by decide
    rw [readChanges?, hwords]
    rfl
  | cons name names =>
    exact readChanges?_of_readUpdate? (readUpdate?_removals (List.cons_ne_nil _ _) hp)

/-! ### Placeholders that occur -/

/-- The word of a token, if it starts with a mark. -/
def markedWord? (mark : Char) : Token → Option String
  | .word w => if w.toList.head? = some mark then some w else none
  | _ => none

/-- The words that start with a mark, in tokens. -/
def markedWords (mark : Char) (ts : List Token) : List String := ts.filterMap (markedWord? mark)

/-- The placeholders of a kind in some expressions: the words that start with its mark. -/
def marked (mark : Char) (texts : List String) : List String :=
  texts.flatMap fun text => markedWords mark (tokens text)

/-- Placeholders are those that occur in some expressions. -/
structure Exact (p : Placeholders) (texts : List String) : Prop where
  names : ∀ w, w ∈ p.names.keys ↔ w ∈ marked '#' texts
  values : ∀ w, w ∈ p.values.keys ↔ w ∈ marked ':' texts

theorem Exact.both {p q : Placeholders} {texts others : List String} (hp : Exact p texts)
    (hq : Exact q others) : Exact (both p q) (texts ++ others) := by
  constructor <;> intro w
  · rw [Expression.both, Dict.mem_keys_overlay, marked, List.flatMap_append, List.mem_append]
    exact or_congr (hp.names w) (hq.names w)
  · rw [Expression.both, Dict.mem_keys_overlay, marked, List.flatMap_append, List.mem_append]
    exact or_congr (hp.values w) (hq.values w)

/-- The words that start with a mark, in parts that are joined by something else. -/
theorem markedWords_intercalate {mark : Char} {joint : Token}
    (hjoint : markedWord? mark joint = none) (parts : List (List Token)) :
    markedWords mark ([joint].intercalate parts) = parts.flatMap (markedWords mark) := by
  match parts with
  | [] => rfl
  | [part] => simp
  | part :: next :: rest =>
    have hrest := markedWords_intercalate hjoint (next :: rest)
    have hskip : markedWords mark [joint] = [] := List.filterMap_cons_none hjoint
    rw [List.intercalate_cons_cons, markedWords, List.filterMap_append, List.filterMap_append]
    simp only [markedWords] at hrest hskip
    rw [hrest, hskip]
    simp [markedWords]

/-- A numbered placeholder starts as its stem does. -/
theorem head?_numbered {stem : String} {c : Char} (h : stem.toList.head? = some c) (i : Nat) :
    (numbered stem i).toList.head? = some c := by
  rw [numbered, String.toList_append, List.head?_append, h, Option.some_or]

theorem markedWords_cons_numbered {stem : String} {c : Char} (h : stem.toList.head? = some c)
    (mark : Char) (i : Nat) (ts : List Token) :
    markedWords mark (.word (numbered stem i) :: ts) =
      (if c = mark then [numbered stem i] else []) ++ markedWords mark ts := by
  have hword : markedWord? mark (.word (numbered stem i)) =
      if c = mark then some (numbered stem i) else none := by
    simp only [markedWord?, head?_numbered h, Option.some.injEq]
  rw [markedWords, List.filterMap_cons, hword]
  by_cases hc : c = mark <;> simp [hc, markedWords]

theorem mem_keys_numberedAlong {α : Type} {stem : String} {value : α → String} {l : List α}
    {w : String} :
    w ∈ (numberedAlong stem value l).keys ↔ w ∈ (List.range l.length).map (numbered stem) := by
  rw [Dict.mem_keys_iff, List.mem_map]
  constructor
  · rintro ⟨v, hv⟩
    obtain ⟨i, hi, rfl⟩ := eq_numbered_of_get? value l hv
    exact ⟨i, List.mem_range.mpr hi, rfl⟩
  · rintro ⟨i, hi, rfl⟩
    exact ⟨_, get?_numberedAlong value l (List.getElem?_eq_getElem (List.mem_range.mp hi))⟩

/-- The placeholders of a kind in an update of numbered parts. -/
theorem markedWords_update {mark : Char} {keyword : String}
    (hkeyword : markedWord? mark (.word keyword) = none) (part : Nat → List Token) (n : Nat) :
    markedWords mark (.word keyword :: [.comma].intercalate ((List.range n).map part)) =
      (List.range n).flatMap fun i => markedWords mark (part i) := by
  rw [markedWords, List.filterMap_cons_none hkeyword]
  refine (markedWords_intercalate rfl _).trans ?_
  rw [List.flatMap_map]

theorem exact_none : Exact noPlaceholders [] := ⟨fun _ => .rfl, fun _ => .rfl⟩

theorem exact_assignments (entries : List (String × String)) :
    Exact (assignments entries).placeholders [(assignments entries).text] := by
  have hpart : ∀ mark i, markedWords mark
      [.word (numbered "#a" i), .equals, .word (numbered ":a" i)] =
        (if '#' = mark then [numbered "#a" i] else []) ++
          (if ':' = mark then [numbered ":a" i] else []) := by
    intro mark i
    rw [markedWords_cons_numbered (c := '#') rfl]
    refine congrArg _ ?_
    show markedWords mark [.word (numbered ":a" i)] = _
    rw [markedWords_cons_numbered (c := ':') rfl]
    exact List.append_nil _
  constructor <;> intro w <;> refine mem_keys_numberedAlong.trans ?_
  all_goals
    rw [marked, List.flatMap_singleton, tokens_assignments, markedWords_update rfl]
    simp [hpart, List.map_eq_flatMap]

theorem exact_removals (names : List String) :
    Exact (removals names).placeholders [(removals names).text] := by
  have hpart : ∀ mark i, markedWords mark [.word (numbered "#r" i)] =
      if '#' = mark then [numbered "#r" i] else [] := by
    intro mark i
    rw [markedWords_cons_numbered (c := '#') rfl]
    exact List.append_nil _
  constructor <;> intro w
  · refine mem_keys_numberedAlong.trans ?_
    rw [marked, List.flatMap_singleton, tokens_removals, markedWords_update rfl]
    simp [hpart, List.map_eq_flatMap]
  · rw [marked, List.flatMap_singleton, tokens_removals, markedWords_update rfl]
    simp [hpart, removals, Dict.mem_keys_iff]

theorem exact_condition (c : Condition) :
    Exact (condition c).placeholders [(condition c).text] := by
  have htokens := tokens_condition c
  constructor <;> intro w <;> rw [marked, List.flatMap_singleton, htokens] <;> cases c <;> rfl

/-- A condition on an attribute that is removed has a placeholder of its own. -/
example : marked '#' [(removals ["rack", "slot"]).text, (condition (.present "slot")).text] =
    ["#r0", "#r1", "#c"] := by decide

theorem exact_map_condition (condition : Option Condition) :
    Exact (placeholders (condition.map Expression.condition))
      (text? (condition.map Expression.condition)).toList := by
  cases condition with
  | none => exact exact_none
  | some c => exact exact_condition c

end Expression

open Expression

/-! ### Bodies -/

/-- A member that may be left out of an object. -/
def given? {α : Type} (read : Json → Option α) (name : String) (body : Json) :
    Option (Option α) :=
  match body.member? name with
  | none => some none
  | some j => (read j).map some

/-- The text that a value on the wire holds. -/
def wiredText? : Json → Option String
  | .object [("S", .string text)] => some text
  | _ => none

/-- The texts in an object. -/
def textMap? (read : Json → Option String) (j : Json) : Option (Dict String String) := do
  let members ← j.object?
  return Dict.ofList (← members.mapM fun m => (read m.2).map (m.1, ·))

/-- The expressions of a write or a delete, and the maps for their placeholders. -/
structure Write where
  update : Option String
  condition : Option String
  names : Option (Dict String String)
  values : Option (Dict String String)

namespace Write

/-- What the body of a request holds of a write or a delete. -/
def ofBody? (body : Json) : Option Write := do
  let update ← given? Json.string? "UpdateExpression" body
  let condition ← given? Json.string? "ConditionExpression" body
  let names ← given? (textMap? Json.string?) "ExpressionAttributeNames" body
  let values ← given? (textMap? wiredText?) "ExpressionAttributeValues" body
  return ⟨update, condition, names, values⟩

def texts (w : Write) : List String := w.update.toList ++ w.condition.toList

/-- What the placeholders stand for. A map that is left out has no entries. -/
def placeholders (w : Write) : Placeholders := ⟨w.names.getD ∅, w.values.getD ∅⟩

/-- What is written stands for an update and a condition, with no placeholder missing or left over
and no map without entries. -/
structure Means (w : Write) (update : Option Update) (condition : Option Condition) : Prop where
  placeholders : Exact w.placeholders w.texts
  names_left_out : w.names = none ↔ w.placeholders.names.isEmpty = true
  values_left_out : w.values = none ↔ w.placeholders.values.isEmpty = true
  update : readChanges? w.placeholders w.update = some update
  condition : readConditions? w.placeholders w.condition = some condition.toList

/-- The map, unless it has no entries. -/
def unlessEmpty (d : Dict String String) : Option (Dict String String) :=
  if d.isEmpty then none else some d

/-- What is written for an update and a condition. -/
def ofParts (e : Option Rendered) (condition : Option Condition) : Write where
  update := text? e
  condition := text? (condition.map Expression.condition)
  names := unlessEmpty (both (Expression.placeholders e)
    (Expression.placeholders (condition.map Expression.condition))).names
  values := unlessEmpty (both (Expression.placeholders e)
    (Expression.placeholders (condition.map Expression.condition))).values

theorem getD_unlessEmpty (d : Dict String String) : (unlessEmpty d).getD ∅ = d := by
  rw [unlessEmpty]
  split
  · rename_i hempty
    refine Dict.ext_get? fun k => ?_
    rw [Dict.isEmpty_iff.mp hempty k]
    rfl
  · rfl

theorem unlessEmpty_eq_none_iff {d : Dict String String} :
    unlessEmpty d = none ↔ d.isEmpty = true := by
  rw [unlessEmpty]
  split <;> simp_all

theorem placeholders_ofParts (e : Option Rendered) (condition : Option Condition) :
    (ofParts e condition).placeholders = both (Expression.placeholders e)
      (Expression.placeholders (condition.map Expression.condition)) := by
  rw [placeholders, ofParts, getD_unlessEmpty, getD_unlessEmpty]

/-- What is written is read as what it was made from. -/
theorem means_ofParts {e : Option Rendered} {update : Option Update} {condition : Option Condition}
    (hexact : Exact (Expression.placeholders e) (text? e).toList)
    (hupdate : readChanges? (both (Expression.placeholders e)
      (Expression.placeholders (condition.map Expression.condition))) (text? e) = some update) :
    (ofParts e condition).Means update condition := by
  have hp := placeholders_ofParts e condition
  constructor
  · rw [hp]
    exact hexact.both (exact_map_condition condition)
  · rw [hp]
    exact unlessEmpty_eq_none_iff
  · rw [hp]
    exact unlessEmpty_eq_none_iff
  · rw [hp]
    exact hupdate
  · rw [hp]
    exact readConditions?_text? condition (extends_both_right _ _)

/-! ### Reading bodies -/

@[simp] theorem lastMember?_optionalMember {α : Type} (name other : String) (encode : α → Json)
    (value : Option α) :
    Json.lastMember? name (optionalMember other encode value) =
      if other = name then value.map encode else none := by
  cases value with
  | none => simp [optionalMember, Json.lastMember?]
  | some a => by_cases h : other = name <;> simp [optionalMember, Json.lastMember?, h]

theorem textMap?_object {encode : String → Json} {read : Json → Option String}
    (h : ∀ text, read (encode text) = some text) (d : Dict String String) :
    textMap? read (.object (d.toList.map fun e => (e.1, encode e.2))) = some d := by
  have hmembers : (d.toList.map fun e => (e.1, encode e.2)).mapM
      (fun m => (read m.2).map (m.1, ·)) = some d.toList := by
    rw [List.mapM_map]
    refine (mapM_eq_some_map (g := id) fun e _ => ?_).trans (by rw [List.map_id])
    simp [h]
  simp [textMap?, Json.object?, hmembers, Dict.ofList_toList]

@[simp] theorem placeholderMembers_eq (names values : Dict String String) :
    Request.placeholderMembers names values =
      optionalMember "ExpressionAttributeNames" textsJson (unlessEmpty names) ++
        optionalMember "ExpressionAttributeValues"
          (fun d => .object (d.toList.map fun e => (e.1, (AttributeValue.text e.2).toJson)))
          (unlessEmpty values) := by
  rw [Request.placeholderMembers, unlessEmpty, unlessEmpty]
  split <;> split <;> rfl

theorem given?_of_member? {α : Type} {read : Json → Option α} {encode : α → Json} {name : String}
    {body : Json} {value : Option α} (hmember : body.member? name = value.map encode)
    (hread : ∀ a, read (encode a) = some a) : given? read name body = some value := by
  rw [given?, hmember]
  cases value with
  | none => rfl
  | some a => exact congrArg (Option.map some) (hread a)

/-- The members that say what is written. -/
def memberNames : List String :=
  ["UpdateExpression", "ConditionExpression", "ExpressionAttributeNames",
    "ExpressionAttributeValues"]

/-- What is written stands in a body between other members. -/
theorem ofBody?_object (front back : List (String × Json)) (update condition : Option String)
    (p : Placeholders)
    (hothers : ∀ name ∈ memberNames,
      Json.lastMember? name front = none ∧ Json.lastMember? name back = none) :
    ofBody? (.object (front ++ optionalMember "UpdateExpression" .string update ++
      optionalMember "ConditionExpression" .string condition ++
      Request.placeholderMembers p.names p.values ++ back)) =
        some ⟨update, condition, unlessEmpty p.names, unlessEmpty p.values⟩ := by
  generalize hbody : Json.object _ = body
  -- the members around do not get in the way of those that are looked for
  have hmember : ∀ name ∈ memberNames, body.member? name = Json.lastMember? name
      (optionalMember "UpdateExpression" .string update ++
        optionalMember "ConditionExpression" .string condition ++
        Request.placeholderMembers p.names p.values) := by
    intro name hname
    obtain ⟨hfront, hback⟩ := hothers name hname
    rw [← hbody, Json.member?]
    simp only [Json.lastMember?_append, hfront, hback, Option.none_or, Option.or_none]
  have hupdate : body.member? "UpdateExpression" = update.map .string := by
    rw [hmember _ (by decide)]
    simp
  have hcondition : body.member? "ConditionExpression" = condition.map .string := by
    rw [hmember _ (by decide)]
    simp
  have hnames : body.member? "ExpressionAttributeNames" =
      (unlessEmpty p.names).map textsJson := by
    rw [hmember _ (by decide)]
    simp
  have hvalues : body.member? "ExpressionAttributeValues" =
      (unlessEmpty p.values).map fun d =>
        .object (d.toList.map fun e => (e.1, (AttributeValue.text e.2).toJson)) := by
    rw [hmember _ (by decide)]
    simp
  have htext : ∀ text : String, (Json.string text).string? = some text := fun _ => rfl
  have hwired : ∀ text, wiredText? (AttributeValue.text text).toJson = some text := fun _ => by
    rw [AttributeValue.toJson]
    rfl
  rw [ofBody?, given?_of_member? hupdate htext, given?_of_member? hcondition htext,
    given?_of_member? hnames (textMap?_object htext),
    given?_of_member? hvalues (textMap?_object hwired)]
  rfl

theorem ofBody?_updateItem (table key : String) (update condition : Option String)
    (p : Placeholders) (returnOld : Bool) :
    ofBody? (Request.updateItem table key update condition p returnOld).body =
      some ⟨update, condition, unlessEmpty p.names, unlessEmpty p.values⟩ := by
  refine ofBody?_object _ _ update condition p ?_
  cases returnOld <;> simp [memberNames, Json.lastMember?, Request.textMember]

theorem ofBody?_deleteItem (table key : String) (condition : Option String) (p : Placeholders) :
    ofBody? (Request.deleteItem table key condition p).body =
      some ⟨none, condition, unlessEmpty p.names, unlessEmpty p.values⟩ := by
  refine ofBody?_object [Request.textMember "TableName" table, ("Key", (Item.ofKey key).toJson)]
    [Request.textMember "ReturnValues" "ALL_OLD"] none condition p ?_
  simp [memberNames, Json.lastMember?, Request.textMember]

end Write

/-! ### What is sent -/

/-- A program sends one request, if the name of the table is not blank, and nothing else, whatever
it is answered. -/
def SendsOnly {α : Type} (program : Exchange α) (table : String) (request : Request) : Prop :=
  ∀ {σ : Type} (handler : (request : Request) → σ → Except Failure request.Output × σ) (s : σ),
    program.operations handler s = if isBlankText table then [] else [request]

/-- A program that ends with the answer to a request sends that request, if it is fit to be sent,
and nothing else. -/
theorem operations_send_bind {α σ : Type} {request : Request}
    {next : Except Failure request.Output → Exchange α}
    (hnext : ∀ answer, ∃ a, next answer = .done a)
    (handler : (request : Request) → σ → Except Failure request.Output × σ) (s : σ) :
    ((send request).bind next).operations handler s =
      if request.isSendable then [request] else [] := by
  rw [Program.operations_bind]
  obtain ⟨a, ha⟩ := hnext ((send request).run handler s).1
  rw [ha, Program.operations, List.append_nil, send]
  split <;> rfl

theorem SendsOnly.of_send {α : Type} {table : String} {request : Request}
    (hsendable : request.isSendable = !isBlankText table)
    {next : Except Failure request.Output → Exchange α}
    (hnext : ∀ answer, ∃ a, next answer = .done a) :
    SendsOnly ((send request).bind next) table request := by
  intro σ handler s
  rw [operations_send_bind hnext, hsendable]
  cases isBlankText table <;> rfl

/-- The request that a program sends has a body that stands for an update and a condition. -/
def SendsWrite {α : Type} (program : Exchange α) (table : String) (update : Option Update)
    (condition : Option Condition) : Prop :=
  ∃ request w, SendsOnly program table request ∧ Write.ofBody? request.body = some w ∧
    w.Means update condition

section Sent

variable (table key : String) (condition : Option Condition)

theorem sendsWrite_put (attributes : Attributes) :
    SendsWrite (Client.put table key attributes condition) table
      (if attributes.isEmpty then none else some (.assign attributes.toList)) condition := by
  let e := if attributes.isEmpty then none else some (assignments attributes.toList)
  have hsends : SendsOnly (Client.put table key attributes condition) table
      (.updateItem table key (text? e) (text? (condition.map Expression.condition))
        (both (placeholders e) (placeholders (condition.map Expression.condition))) false) := by
    refine SendsOnly.of_send rfl fun answer => ?_
    match answer with
    | .ok _ => exact ⟨_, rfl⟩
    | .error (.service kind) => cases kind <;> exact ⟨_, rfl⟩
    | .error .connection => exact ⟨_, rfl⟩
    | .error .unsendable => exact ⟨_, rfl⟩
  refine ⟨_, .ofParts e condition, hsends, Write.ofBody?_updateItem .., ?_⟩
  cases hempty : attributes.isEmpty with
  | true =>
    simp only [e, hempty]
    exact Write.means_ofParts exact_none rfl
  | false =>
    have hentries : attributes.toList ≠ [] := by
      rwa [ne_eq, ← List.isEmpty_iff, Bool.not_eq_true]
    have hread := readUpdate?_assignments hentries (extends_assignments _ condition)
    simp only [e, hempty]
    exact Write.means_ofParts (exact_assignments _) (readChanges?_of_readUpdate? hread)

theorem sendsWrite_deleteRow :
    SendsWrite (Client.delete table key .row condition) table none condition := by
  -- without an update, all placeholders are those of the condition
  have hboth : ∀ p, both (placeholders none) p = p := by
    intro p
    show both noPlaceholders p = p
    rw [both, noPlaceholders, Dict.empty_overlay, Dict.empty_overlay]
  refine ⟨.deleteItem table key _ _, .ofParts none condition,
    SendsOnly.of_send rfl fun _ => ⟨_, rfl⟩, ?_, Write.means_ofParts exact_none rfl⟩
  rw [Write.ofBody?_deleteItem, Write.ofParts, hboth]
  rfl

theorem sendsWrite_deleteAttributes (names : List String) :
    SendsWrite (Client.delete table key (.attributes names) condition) table
      (some (.remove names)) condition := by
  refine ⟨.updateItem table key (some (removals names).text) _ _ true,
    .ofParts (some (removals names)) condition, SendsOnly.of_send rfl fun _ => ⟨_, rfl⟩,
    Write.ofBody?_updateItem .., Write.means_ofParts (exact_removals names) ?_⟩
  exact readChanges?_removals names (extends_removals names condition)

/-- **Write requests are closed.** A write and a delete send one request, or none if the name of
the table is blank. In its body the placeholders of names that occur in the expressions are the keys
of the map of names, those of values are the keys of the map of values, and each of the two maps is
left out exactly if it would have no entries. With the placeholders resolved, the update is made of
the given assignments or removals, in order, and the condition is the given one, whatever attribute
it is about. A write without attributes has no update, and a delete of no attributes has an update
that removes nothing. -/
theorem write_requests_closed :
    (∀ attributes : Attributes,
      SendsWrite (Client.put table key attributes condition) table
        (if attributes.isEmpty then none else some (.assign attributes.toList)) condition) ∧
    SendsWrite (Client.delete table key .row condition) table none condition ∧
    ∀ names : List String,
      SendsWrite (Client.delete table key (.attributes names) condition) table
        (some (.remove names)) condition :=
  ⟨sendsWrite_put table key condition, sendsWrite_deleteRow table key condition,
    sendsWrite_deleteAttributes table key condition⟩

end Sent

end ClusterIdentity.Dynamo
