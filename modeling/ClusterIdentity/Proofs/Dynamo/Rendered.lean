import ClusterIdentity.Proofs.Dynamo.Reading
import ClusterIdentity.Table.Filter

/-!
# Rendered expressions are read back

An expression that was rendered reads as what it was rendered from, next to whatever else is in
the request, and no placeholder of it is missing or left over.

## Main definitions

* `equations`: the equations of a filter as conditions
* `Closed`: all placeholders of an expression occur in it

## Main statements

* `readUpdate?_assignments`, `readUpdate?_removals`: updates ask for what they were rendered from
* `readConditions?_text?`, `readConditions?_sent`: conditions and filters demand what they were
  rendered from
* `usesAll_both`: a request uses all its placeholders
-/

namespace ClusterIdentity.Dynamo.Expression

/-! ### Tokens -/

theorem mem_intercalate {α : Type} {joint part : List α} {parts : List (List α)} {a : α}
    (hpart : part ∈ parts) (ha : a ∈ part) : a ∈ joint.intercalate parts := by
  match parts with
  | [only] => simp [List.mem_singleton.mp hpart ▸ ha]
  | first :: next :: rest =>
    rw [List.intercalate_cons_cons, List.mem_append, List.mem_append]
    rcases List.mem_cons.mp hpart with rfl | hpart
    · exact .inl (.inl ha)
    · exact .inr (mem_intercalate hpart ha)

/-- The tokens of numbered parts, joined. -/
theorem tokens_joined {joint : String} {c d : Char} (hhead : joint.toList.head? = some c)
    (hc : (separator? c).isSome) (hlast : joint.toList.getLast? = some d)
    (hd : (separator? d).isSome) (part : Nat → String) (n : Nat) :
    tokens (joint.intercalate ((List.range n).map part)) =
      (tokens joint).intercalate ((List.range n).map (tokens ∘ part)) := by
  rw [tokens_intercalate hhead hc hlast hd, List.map_map]

theorem tokens_equation {name value : String} (hname : tokens name = [.word name])
    (hvalue : tokens value = [.word value]) :
    tokens (name ++ " = " ++ value) = [.word name, .equals, .word value] := by
  rw [tokens_append_of_last (c := ' ') (by simp [String.toList_append]) rfl,
    tokens_append_of_head (c := ' ') rfl rfl, hname, hvalue]
  rfl

theorem tokens_assignments (entries : List (String × String)) :
    tokens (assignments entries).text = .word "SET" ::
      [.comma].intercalate ((List.range entries.length).map fun i =>
        [.word (numbered "#a" i), .equals, .word (numbered ":a" i)]) := by
  rw [assignments, tokens_append_of_last (c := ' ') rfl rfl,
    tokens_joined (c := ',') (d := ' ') rfl rfl rfl rfl]
  have hassignment : ∀ i, tokens (assignment i) =
      [.word (numbered "#a" i), .equals, .word (numbered ":a" i)] := fun i =>
    tokens_equation (tokens_numbered (by decide) (by decide) i)
      (tokens_numbered (by decide) (by decide) i)
  simp only [Function.comp_def, hassignment]
  rfl

theorem tokens_removals (names : List String) :
    tokens (removals names).text = .word "REMOVE" ::
      [.comma].intercalate ((List.range names.length).map fun i => [.word (numbered "#r" i)]) := by
  rw [removals, tokens_append_of_last (c := ' ') rfl rfl,
    tokens_joined (c := ',') (d := ' ') rfl rfl rfl rfl]
  have hname : ∀ i, tokens (numbered "#r" i) = [.word (numbered "#r" i)] :=
    tokens_numbered (by decide) (by decide)
  simp only [Function.comp_def, hname]
  rfl

theorem tokens_render (filter : Filter) :
    tokens filter.render.expression =
      [.word "AND"].intercalate ((List.range filter.equalities.length).map fun i =>
        [.word (numbered "#n" i), .equals, .word (numbered ":v" i)]) := by
  have hclause : ∀ i, tokens (Filter.clause i) =
      [.word (numbered "#n" i), .equals, .word (numbered ":v" i)] := fun i =>
    tokens_equation (tokens_numbered (by decide) (by decide) i)
      (tokens_numbered (by decide) (by decide) i)
  rw [Filter.render, tokens_joined (c := ' ') (d := ' ') rfl rfl rfl rfl]
  simp only [Function.comp_def, hclause]
  rfl

theorem tokens_condition (c : Condition) : tokens (condition c).text =
    match c with
    | .equals _ _ => [.word conditionName, .equals, .word conditionValue]
    | .present _ => [.word "attribute_exists", .opening, .word conditionName, .closing]
    | .absent _ => [.word "attribute_not_exists", .opening, .word conditionName, .closing] := by
  cases c with
  | equals name value => exact tokens_equation (by decide) (by decide)
  | present name =>
    change tokens ("attribute_exists(" ++ conditionName ++ ")") =
      [.word "attribute_exists", .opening, .word conditionName, .closing]
    decide
  | absent name =>
    change tokens ("attribute_not_exists(" ++ conditionName ++ ")") =
      [.word "attribute_not_exists", .opening, .word conditionName, .closing]
    decide

/-! ### Meaning -/

/-- Rendered assignments ask for these assignments. -/
theorem readUpdate?_assignments {entries : List (String × String)} (hne : entries ≠ [])
    {p : Placeholders} (hp : Extends p (assignments entries).placeholders) :
    readUpdate? p (some (assignments entries).text) = some (some (.assign entries)) := by
  have hrange : List.range entries.length ≠ [] := by simpa using hne
  have hparsed : update? (tokens (assignments entries).text) = some (.assign
      ((List.range entries.length).map fun i => (numbered "#a" i, numbered ":a" i))) := by
    rw [tokens_assignments, update?, if_pos rfl,
      mapM_splitOn_intercalate (fun i => (numbered "#a" i, numbered ":a" i)) hrange
        (by simp) fun _ _ => rfl]
    rfl
  have hresolved : ((List.range entries.length).map fun i =>
      (numbered "#a" i, numbered ":a" i)).mapM (pair? p) = some entries := by
    rw [List.mapM_map]
    refine mapM_range entries fun i hi => ?_
    have hentry := List.getElem?_eq_getElem hi
    rw [Function.comp_apply, pair?,
      hp.names _ _ (get?_numberedAlong Prod.fst entries hentry),
      hp.values _ _ (get?_numberedAlong Prod.snd entries hentry)]
    rfl
  simp only [readUpdate?, hparsed, Update.resolve, hresolved, Option.bind_eq_bind,
    Option.bind_some, Option.map_some, Option.pure_def]

/-- Rendered removals ask for these removals. -/
theorem readUpdate?_removals {names : List String} (hne : names ≠ []) {p : Placeholders}
    (hp : Extends p (removals names).placeholders) :
    readUpdate? p (some (removals names).text) = some (some (.remove names)) := by
  have hrange : List.range names.length ≠ [] := by simpa using hne
  have hparsed : update? (tokens (removals names).text) = some (.remove
      ((List.range names.length).map (numbered "#r"))) := by
    rw [tokens_removals, update?, if_neg (by decide), if_pos rfl,
      mapM_splitOn_intercalate (numbered "#r") hrange (by simp) fun _ _ => rfl]
    rfl
  have hresolved : ((List.range names.length).map (numbered "#r")).mapM p.names.get? =
      some names := by
    rw [List.mapM_map]
    exact mapM_range names fun i hi =>
      hp.names _ _ (get?_numberedAlong id names (List.getElem?_eq_getElem hi))
  simp only [readUpdate?, hparsed, Update.resolve, hresolved, Option.bind_eq_bind,
    Option.bind_some, Option.map_some, Option.pure_def]

/-- A rendered condition demands that condition. -/
theorem readConditions?_condition (c : Condition) {p : Placeholders}
    (hp : Extends p (condition c).placeholders) :
    readConditions? p (some (condition c).text) = some [c] := by
  rw [readConditions?, tokens_condition]
  cases c with
  | equals name value =>
    have hparsed : conjunction? [.word conditionName, .equals, .word conditionValue] =
      some [.equals conditionName conditionValue] := by decide
    have hname := hp.names conditionName name (Dict.get?_singleton ..)
    have hvalue := hp.values conditionValue value (Dict.get?_singleton ..)
    simp [hparsed, resolve, hname, hvalue]
  | present name =>
    have hparsed : conjunction? [.word "attribute_exists", .opening, .word conditionName,
      .closing] = some [.present conditionName] := by decide
    have hname := hp.names conditionName name (Dict.get?_singleton ..)
    simp [hparsed, resolve, hname]
  | absent name =>
    have hparsed : conjunction? [.word "attribute_not_exists", .opening, .word conditionName,
      .closing] = some [.absent conditionName] := by decide
    have hname := hp.names conditionName name (Dict.get?_singleton ..)
    simp [hparsed, resolve, hname]

/-- The placeholders of a condition are two at most. -/
theorem get?_placeholders_condition (condition : Option Condition) {placeholder : String} :
    (placeholder ≠ conditionName →
      (placeholders (condition.map Expression.condition)).names.get? placeholder = none) ∧
    (placeholder ≠ conditionValue →
      (placeholders (condition.map Expression.condition)).values.get? placeholder = none) := by
  cases condition with
  | none => exact ⟨fun _ => rfl, fun _ => rfl⟩
  | some c =>
    constructor <;> intro h <;> cases c <;>
      first | rfl | exact (Dict.get?_singleton ..).trans (if_neg h.symm)

/-- The placeholders of an assignment and of a condition do not get into each other's way. -/
theorem extends_assignments (entries : List (String × String)) (condition : Option Condition) :
    Extends (both (assignments entries).placeholders
      (placeholders (condition.map Expression.condition))) (assignments entries).placeholders := by
  refine extends_both_left (fun placeholder _ h => ?_) fun placeholder _ h => ?_
  · obtain ⟨i, -, rfl⟩ := eq_numbered_of_get? Prod.fst entries h
    exact (get?_placeholders_condition condition).1 (numbered_ne (by decide) i)
  · obtain ⟨i, -, rfl⟩ := eq_numbered_of_get? Prod.snd entries h
    exact (get?_placeholders_condition condition).2 (numbered_ne (by decide) i)

/-- Nor do those of a removal and of a condition. -/
theorem extends_removals (names : List String) (condition : Option Condition) :
    Extends (both (removals names).placeholders
      (placeholders (condition.map Expression.condition))) (removals names).placeholders := by
  refine extends_both_left (fun placeholder _ h => ?_) nofun
  obtain ⟨i, -, rfl⟩ := eq_numbered_of_get? id names h
  exact (get?_placeholders_condition condition).1 (numbered_ne (by decide) i)

/-- The expression for a condition, if there is one, demands that condition. -/
theorem readConditions?_text? (condition : Option Condition) {p : Placeholders}
    (hp : Extends p (placeholders (condition.map Expression.condition))) :
    readConditions? p (text? (condition.map Expression.condition)) = some condition.toList := by
  cases condition with
  | none => rfl
  | some c => exact readConditions?_condition c hp

/-- The equations of a filter as conditions. -/
def equations (filter : Filter) : List Condition :=
  filter.equalities.map fun e => .equals e.1 e.2

/-- A rendered filter demands its equations. -/
theorem readConditions?_render {filter : Filter} (hne : filter.equalities ≠ []) :
    readConditions? ⟨filter.render.names, filter.render.values⟩
      (some filter.render.expression) = some (equations filter) := by
  have hrange : List.range filter.equalities.length ≠ [] := by simpa using hne
  have hparsed : conjunction? (tokens filter.render.expression) = some
      ((List.range filter.equalities.length).map fun i =>
        Condition.equals (numbered "#n" i) (numbered ":v" i)) := by
    rw [tokens_render, conjunction?]
    refine mapM_splitOn_intercalate
      (fun i => Condition.equals (numbered "#n" i) (numbered ":v" i)) hrange (fun i _ hmem => ?_)
      fun _ _ => rfl
    simp only [List.mem_cons, Token.word.injEq, List.not_mem_nil, or_false, reduceCtorEq,
      false_or] at hmem
    rcases hmem with hname | hvalue
    · exact numbered_ne (by decide) i hname.symm
    · exact numbered_ne (by decide) i hvalue.symm
  have hresolved : ((List.range filter.equalities.length).map fun i =>
      Condition.equals (numbered "#n" i) (numbered ":v" i)).mapM
        (resolve ⟨filter.render.names, filter.render.values⟩) = some (equations filter) := by
    have hlength : (equations filter).length = filter.equalities.length := List.length_map _
    rw [List.mapM_map, ← hlength]
    refine mapM_range _ fun i hi => ?_
    have hentry := List.getElem?_eq_getElem (hlength ▸ hi)
    have hname : filter.render.names.get? (numbered "#n" i) = some filter.equalities[i].1 :=
      get?_numberedAlong Prod.fst filter.equalities hentry
    have hvalue : filter.render.values.get? (numbered ":v" i) = some filter.equalities[i].2 :=
      get?_numberedAlong Prod.snd filter.equalities hentry
    simp [resolve, hname, hvalue, equations]
  simp only [readConditions?, hparsed, hresolved, Option.bind_eq_bind, Option.bind_some]

/-! ### Placeholders in use -/

/-- Every placeholder occurs in some expression. -/
def OccurIn {β : Type} (placeholders : Dict String β) (texts : List String) : Prop :=
  ∀ placeholder b, placeholders.get? placeholder = some b →
    ∃ text ∈ texts, Token.word placeholder ∈ tokens text

theorem occurIn_empty {β : Type} (texts : List String) : OccurIn (∅ : Dict String β) texts := nofun

theorem OccurIn.overlay {β : Type} {d e : Dict String β} {texts others : List String}
    (hd : OccurIn d texts) (he : OccurIn e others) : OccurIn (d.overlay e) (texts ++ others) := by
  intro placeholder b h
  rw [Dict.get?_overlay] at h
  rcases Option.or_eq_some_iff.mp h with h | ⟨-, h⟩
  · obtain ⟨text, hmem, ht⟩ := he placeholder b h
    exact ⟨text, List.mem_append_right _ hmem, ht⟩
  · obtain ⟨text, hmem, ht⟩ := hd placeholder b h
    exact ⟨text, List.mem_append_left _ hmem, ht⟩

theorem occurIn_singleton {β : Type} {placeholder text : String} {b : β}
    (h : Token.word placeholder ∈ tokens text) :
    OccurIn (Dict.singleton placeholder b) [text] := by
  intro other c hget
  rw [Dict.get?_singleton] at hget
  split at hget
  · rename_i heq
    exact ⟨text, List.mem_singleton_self text, heq ▸ h⟩
  · cases hget

theorem occurIn_numberedAlong {α β : Type} {stem text : String} {value : α → β} {l : List α}
    (h : ∀ i < l.length, Token.word (numbered stem i) ∈ tokens text) :
    OccurIn (numberedAlong stem value l) [text] := by
  intro placeholder b hget
  obtain ⟨i, hi, rfl⟩ := eq_numbered_of_get? value l hget
  exact ⟨text, List.mem_singleton_self text, h i hi⟩

/-- All placeholders of an expression occur in it. -/
structure Closed (e : Rendered) : Prop where
  names : OccurIn e.placeholders.names [e.text]
  values : OccurIn e.placeholders.values [e.text]

theorem closed_assignments (entries : List (String × String)) : Closed (assignments entries) := by
  constructor <;>
  · refine occurIn_numberedAlong fun i hi => ?_
    rw [tokens_assignments]
    refine List.mem_cons_of_mem _ (mem_intercalate
      (List.mem_map.mpr ⟨i, List.mem_range.mpr hi, rfl⟩) ?_)
    simp

theorem closed_removals (names : List String) : Closed (removals names) := by
  refine ⟨occurIn_numberedAlong fun i hi => ?_, occurIn_empty _⟩
  rw [tokens_removals]
  exact List.mem_cons_of_mem _ (mem_intercalate
    (List.mem_map.mpr ⟨i, List.mem_range.mpr hi, rfl⟩) (List.mem_singleton_self _))

theorem closed_condition (c : Condition) : Closed (condition c) := by
  have htokens := tokens_condition c
  cases c with
  | equals name value =>
    exact ⟨occurIn_singleton (by simp [htokens]), occurIn_singleton (by simp [htokens])⟩
  | present name => exact ⟨occurIn_singleton (by simp [htokens]), occurIn_empty _⟩
  | absent name => exact ⟨occurIn_singleton (by simp [htokens]), occurIn_empty _⟩

theorem closed_map_condition (condition : Option Condition) :
    ∀ e ∈ condition.map Expression.condition, Closed e := by
  intro e he
  obtain ⟨c, -, rfl⟩ := Option.map_eq_some_iff.mp he
  exact closed_condition c

theorem closed_render (filter : Filter) :
    Closed ⟨filter.render.expression, ⟨filter.render.names, filter.render.values⟩⟩ := by
  constructor <;>
  · refine occurIn_numberedAlong fun i hi => ?_
    rw [tokens_render]
    refine mem_intercalate (List.mem_map.mpr ⟨i, List.mem_range.mpr hi, rfl⟩) ?_
    simp

theorem usesAll_of_occurIn {p : Placeholders} {texts : List String}
    (hnames : OccurIn p.names texts) (hvalues : OccurIn p.values texts) :
    usesAll p texts = true := by
  simp only [usesAll, List.all_eq_true, List.any_eq_true, List.mem_append, Dict.mem_keys_iff,
    decide_eq_true_eq]
  rintro placeholder (⟨name, hname⟩ | ⟨value, hvalue⟩)
  · exact hnames placeholder name hname
  · exact hvalues placeholder value hvalue

/-- All placeholders of an expression, if there is one, occur in it. -/
theorem occurIn_text? {e : Option Rendered} (he : ∀ x ∈ e, Closed x) :
    OccurIn (placeholders e).names (text? e).toList ∧
      OccurIn (placeholders e).values (text? e).toList := by
  cases e with
  | none => exact ⟨occurIn_empty _, occurIn_empty _⟩
  | some x => exact ⟨(he x rfl).names, (he x rfl).values⟩

theorem usesAll_text? {e : Option Rendered} (he : ∀ x ∈ e, Closed x) :
    usesAll (placeholders e) (text? e).toList = true :=
  usesAll_of_occurIn (occurIn_text? he).1 (occurIn_text? he).2

/-- A request made of two parts uses all its placeholders. -/
theorem usesAll_both {e f : Option Rendered} (he : ∀ x ∈ e, Closed x) (hf : ∀ x ∈ f, Closed x) :
    usesAll (both (placeholders e) (placeholders f)) ((text? e).toList ++ (text? f).toList) =
      true :=
  usesAll_of_occurIn ((occurIn_text? he).1.overlay (occurIn_text? hf).1)
    ((occurIn_text? he).2.overlay (occurIn_text? hf).2)

/-- The filter that is sent with a scan demands its equations. -/
theorem readConditions?_sent (filter : Filter) :
    let sent := if filter.equalities.isEmpty then none else some filter.render
    readConditions? ((sent.map fun f => ⟨f.names, f.values⟩).getD noPlaceholders)
        (sent.map Filter.Rendered.expression) = some (equations filter) ∧
      usesAll ((sent.map fun f => ⟨f.names, f.values⟩).getD noPlaceholders)
        (sent.map Filter.Rendered.expression).toList = true := by
  cases hnil : filter.equalities.isEmpty with
  | true =>
    rw [List.isEmpty_iff] at hnil
    refine ⟨?_, usesAll_of_occurIn (occurIn_empty _) (occurIn_empty _)⟩
    rw [equations, hnil]
    rfl
  | false =>
    have hne : filter.equalities ≠ [] := by
      rwa [ne_eq, ← List.isEmpty_iff, Bool.not_eq_true]
    exact ⟨readConditions?_render hne,
      usesAll_of_occurIn (closed_render filter).names (closed_render filter).values⟩

end ClusterIdentity.Dynamo.Expression
