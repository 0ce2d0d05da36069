import ClusterIdentity.Proofs.Dynamo.Rendered

/-!
# What a rendered filter means

A rendered filter can be read with nothing but its expression and the two maps that come with it:
the expression is cut into clauses at its joints, each clause into two placeholders, and these
stand for what the maps say. Read in this way it is true of the rows that the filter selects,
whatever the names and the values of the filter look like.

## Main definitions

* `pieces`: the parts of a text between the occurrences of a joint
* `Filter.Rendered.equations?`: the equations that a rendered filter stands for
* `Filter.Rendered.evaluate`: whether they hold of some attributes

## Main statements

* `pieces_intercalate`: what was joined is cut into its parts again
* `Filter.render_means`: a rendered filter means what the filter selects, with one placeholder
  of each kind for each equation

## Design notes

The service reads expressions as tokens (`Expression.tokens`), which leave blanks out. Here the
text itself is cut, as one without any knowledge of that language would do it.
-/

namespace ClusterIdentity

/-! ### Cutting a text at its joints -/

/-- The pieces of a text of which some letters of a piece were read before. An occurrence of the
joint is passed over letter by letter; `passing` counts those of its letters that are left. -/
def piecesAfter (joint : List Char) (passing : Nat) (piece : List Char) :
    List Char → List (List Char)
  | [] => [piece]
  | c :: rest =>
    match passing with
    | left + 1 => piecesAfter joint left piece rest
    | 0 =>
      if joint.isPrefixOf (c :: rest) then
        piece :: piecesAfter joint (joint.length - 1) [] rest
      else piecesAfter joint 0 (piece ++ [c]) rest

/-- The parts of a text between the occurrences of a joint, which are found from the left and do
not overlap. -/
def pieces (joint text : String) : List String :=
  (piecesAfter joint.toList 0 [] text.toList).map String.ofList

section Pieces

variable {joint : List Char}

theorem piecesAfter_passed (piece passed rest : List Char) :
    piecesAfter joint passed.length piece (passed ++ rest) = piecesAfter joint 0 piece rest := by
  induction passed with
  | nil => rfl
  | cons c passed ih => exact ih

theorem piecesAfter_joint (hne : joint ≠ []) (piece rest : List Char) :
    piecesAfter joint 0 piece (joint ++ rest) = piece :: piecesAfter joint 0 [] rest := by
  obtain ⟨c, tail, rfl⟩ := List.exists_cons_of_ne_nil hne
  have hfound : (c :: tail).isPrefixOf (c :: (tail ++ rest)) = true :=
    List.isPrefixOf_iff_prefix.mpr (List.prefix_append (c :: tail) rest)
  rw [List.cons_append, piecesAfter, if_pos hfound, List.length_cons, Nat.add_sub_cancel,
    piecesAfter_passed]

/-- No joint starts in a part that lacks the second letter of the joint, unless that letter
follows the part. -/
theorem piecesAfter_part {c d : Char} {tail : List Char} {part rest : List Char}
    (hpart : d ∉ part) (hrest : rest.head? ≠ some d) (piece : List Char) :
    piecesAfter (c :: d :: tail) 0 piece (part ++ rest) =
      piecesAfter (c :: d :: tail) 0 (piece ++ part) rest := by
  induction part generalizing piece with
  | nil => rw [List.nil_append, List.append_nil]
  | cons a part ih =>
    have hmissed : ¬ (c :: d :: tail).isPrefixOf (a :: (part ++ rest)) = true := by
      rw [List.isPrefixOf_iff_prefix]
      intro hfound
      have hsecond := (List.cons_prefix_cons.mp hfound).2
      cases part with
      | nil =>
        obtain ⟨after, hafter⟩ := hsecond
        exact hrest (List.head?_eq_some_iff.mpr ⟨tail ++ after, hafter.symm⟩)
      | cons b part => exact hpart (by simp [(List.cons_prefix_cons.mp hsecond).1])
    rw [List.cons_append, piecesAfter, if_neg hmissed,
      ih (fun h => hpart (List.mem_cons_of_mem _ h)), List.append_assoc, List.singleton_append]

/-- A joint whose second letter is in none of the parts is found exactly where they were
joined. -/
theorem piecesAfter_intercalate {c d : Char} {tail : List Char} (hcd : c ≠ d)
    {parts : List (List Char)} (hne : parts ≠ []) (hparts : ∀ part ∈ parts, d ∉ part) :
    piecesAfter (c :: d :: tail) 0 [] ((c :: d :: tail).intercalate parts) = parts := by
  match parts with
  | [part] =>
    have hend : ([] : List Char).head? ≠ some d := nofun
    have hcut : piecesAfter (c :: d :: tail) 0 [] (part ++ []) =
        piecesAfter (c :: d :: tail) 0 part [] :=
      piecesAfter_part (hparts part (List.mem_singleton_self part)) hend []
    rw [List.append_nil] at hcut
    rw [List.intercalate_singleton, hcut]
    rfl
  | part :: next :: others =>
    have hhead : ((c :: d :: tail) ++ (c :: d :: tail).intercalate (next :: others)).head? ≠
        some d := fun h => hcd (Option.some.inj h)
    rw [List.intercalate_cons_cons, List.append_assoc,
      piecesAfter_part (hparts part (List.mem_cons_self ..)) hhead,
      piecesAfter_joint (List.cons_ne_nil _ _), List.nil_append,
      piecesAfter_intercalate hcd (List.cons_ne_nil _ _)
        fun other hmem => hparts other (List.mem_cons_of_mem _ hmem)]

end Pieces

/-- What was joined by a text is cut into its parts again, if they lack the second letter of that
text. -/
theorem pieces_intercalate {joint : String} {c d : Char} {tail : List Char}
    (hjoint : joint.toList = c :: d :: tail) (hcd : c ≠ d) {parts : List String}
    (hne : parts ≠ []) (hparts : ∀ part ∈ parts, d ∉ part.toList) :
    pieces joint (joint.intercalate parts) = parts := by
  have hcut : piecesAfter (c :: d :: tail) 0 []
      ((c :: d :: tail).intercalate (parts.map String.toList)) = parts.map String.toList :=
    piecesAfter_intercalate hcd (by simpa using hne) (by simpa using hparts)
  have hid : String.ofList ∘ String.toList = id := funext fun _ => String.ofList_toList
  rw [pieces, String.toList_intercalate, hjoint, hcut, List.map_map, hid, List.map_id]

example : pieces " AND " "a AND  AND b" = ["a", "", "b"] := by decide

/-! ### Reading a rendered filter -/

namespace Filter

namespace Rendered

/-- The name and the value that a clause equates, both found behind their placeholders. -/
def equation? (r : Rendered) (clause : String) : Option (String × String) :=
  match pieces " = " clause with
  | [name, value] => do return (← r.names.get? name, ← r.values.get? value)
  | _ => none

/-- The equations that a rendered filter stands for; an empty expression has no clauses. -/
def equations? (r : Rendered) : Option (List (String × String)) :=
  if r.expression.isEmpty then some [] else (pieces " AND " r.expression).mapM r.equation?

/-- Whether all equations hold of some attributes, provided that the expression can be read. -/
def evaluate (r : Rendered) (attributes : Attributes) : Option Bool := do
  let equations ← r.equations?
  return equations.all fun e => attributes.get? e.1 == some e.2

end Rendered

open Dynamo.Expression

/-- There is one placeholder for each element that they are numbered along. -/
theorem size_numberedAlong {α β : Type} {stem : String} (value : α → β) (l : List α) :
    (numberedAlong stem value l).size = l.length := by
  have hne : (l.mapIdx fun i a => (numbered stem i, value a)).Pairwise fun a b => a.1 ≠ b.1 :=
    pairwise_ne_numbered value l
  have hperm : (numberedAlong stem value l).toList.Perm
      (l.mapIdx fun i a => (numbered stem i, value a)) := by
    refine (List.perm_ext_iff_of_nodup ((Dict.pairwise_ne _).imp fun h => ?_)
      (hne.imp fun h => ?_)).mpr fun e => ?_
    · exact fun heq => h (congrArg Prod.fst heq)
    · exact fun heq => h (congrArg Prod.fst heq)
    · rw [Dict.mem_toList_iff, Dict.get?_ofList_eq_some_iff hne]
  rw [Dict.size, hperm.length_eq, List.length_mapIdx]

theorem mem_of_mem_intercalate {α : Type} {joint : List α} {parts : List (List α)} {a : α}
    (h : a ∈ joint.intercalate parts) : a ∈ joint ∨ ∃ part ∈ parts, a ∈ part := by
  match parts with
  | [part] => exact .inr ⟨part, List.mem_singleton_self part, by simpa using h⟩
  | part :: next :: rest =>
    rw [List.intercalate_cons_cons, List.mem_append, List.mem_append] at h
    rcases h with (h | h) | h
    · exact .inr ⟨part, List.mem_cons_self .., h⟩
    · exact .inl h
    · exact (mem_of_mem_intercalate h).imp_right fun ⟨other, hmem, ha⟩ =>
        ⟨other, List.mem_cons_of_mem _ hmem, ha⟩

/-- A placeholder consists of its stem and of digits. -/
theorem not_mem_numbered {c : Char} (hdigit : c.isDigit = false) {stem : String}
    (hstem : c ∉ stem.toList) (i : Nat) : c ∉ (numbered stem i).toList := by
  rw [numbered, String.toList_append, List.mem_append]
  rintro (h | h)
  · exact hstem h
  · exact Bool.noConfusion (hdigit.symm.trans (Numeral.isDigit_of_mem_write h))

/-- A clause is cut into its two placeholders. -/
theorem pieces_clause (i : Nat) :
    pieces " = " (clause i) = [namePlaceholder i, valuePlaceholder i] := by
  have hname : '=' ∉ (namePlaceholder i).toList := not_mem_numbered rfl (by decide) i
  have hvalue : '=' ∉ (valuePlaceholder i).toList := not_mem_numbered rfl (by decide) i
  have hcut : pieces " = " (" = ".intercalate [namePlaceholder i, valuePlaceholder i]) =
      [namePlaceholder i, valuePlaceholder i] :=
    pieces_intercalate rfl (by decide) (List.cons_ne_nil _ _) (by simpa using ⟨hname, hvalue⟩)
  rwa [String.intercalate_cons_cons, String.intercalate_singleton] at hcut

/-- No clause has a joint of clauses in it, since it has no letter of `AND`. -/
theorem not_mem_clause (i : Nat) : 'A' ∉ (clause i).toList := by
  have hname : 'A' ∉ (numbered "#n" i).toList := not_mem_numbered rfl (by decide) i
  have hvalue : 'A' ∉ (numbered ":v" i).toList := not_mem_numbered rfl (by decide) i
  have hclause : (clause i).toList =
      (numbered "#n" i).toList ++ " = ".toList ++ (numbered ":v" i).toList := by
    rw [← String.toList_append, ← String.toList_append]
    rfl
  rw [hclause, List.mem_append, List.mem_append]
  rintro ((h | h) | h)
  · exact hname h
  · exact absurd h (by decide)
  · exact hvalue h

theorem pieces_expression {filter : Filter} (hne : filter.equalities ≠ []) :
    pieces " AND " filter.render.expression =
      (List.range filter.equalities.length).map clause := by
  refine pieces_intercalate rfl (by decide) (by simpa using hne) ?_
  intro part hpart
  obtain ⟨i, -, rfl⟩ := List.mem_map.mp hpart
  exact not_mem_clause i

/-- A clause of a rendered filter stands for the equation that it was written for. -/
theorem equation?_clause {filter : Filter} {i : Nat} (hi : i < filter.equalities.length) :
    filter.render.equation? (clause i) = some filter.equalities[i] := by
  have hentry := List.getElem?_eq_getElem hi
  have hname : filter.render.names.get? (namePlaceholder i) = some filter.equalities[i].1 :=
    get?_numberedAlong Prod.fst filter.equalities hentry
  have hvalue : filter.render.values.get? (valuePlaceholder i) = some filter.equalities[i].2 :=
    get?_numberedAlong Prod.snd filter.equalities hentry
  simp only [Rendered.equation?, pieces_clause, hname, hvalue, Option.bind_eq_bind,
    Option.bind_some, Option.pure_def]

theorem expression_eq_empty_iff (filter : Filter) :
    filter.render.expression = "" ↔ filter.equalities = [] := by
  refine ⟨fun hempty => Decidable.byContradiction fun hne => ?_,
    fun hnil => by rw [render, hnil]; rfl⟩
  have hcut := pieces_expression hne
  rw [hempty, show pieces " AND " "" = [""] by decide] at hcut
  obtain ⟨i, -, hclause⟩ := List.mem_map.mp (hcut ▸ List.mem_singleton_self "")
  have hparts := pieces_clause i
  rw [hclause, show pieces " = " "" = [""] by decide] at hparts
  exact absurd (congrArg List.length hparts) (by simp)

/-- A rendered filter stands for its equations, in their order. -/
theorem equations?_render (filter : Filter) :
    filter.render.equations? = some filter.equalities := by
  by_cases hnil : filter.equalities = []
  · rw [Rendered.equations?, (expression_eq_empty_iff filter).mpr hnil, hnil]
    rfl
  · have hne : filter.render.expression.isEmpty = false := by
      simpa using mt (expression_eq_empty_iff filter).mp hnil
    rw [Rendered.equations?, hne, if_neg Bool.false_ne_true, pieces_expression hnil,
      List.mapM_map]
    exact mapM_range _ fun i hi => equation?_clause hi

/-- The words of an expression are its placeholders and what joins them. -/
theorem word_mem_tokens_render {filter : Filter} {word : String}
    (h : Token.word word ∈ tokens filter.render.expression) :
    word = "AND" ∨ ∃ i < filter.equalities.length,
      word = namePlaceholder i ∨ word = valuePlaceholder i := by
  rw [tokens_render] at h
  rcases mem_of_mem_intercalate h with h | ⟨part, hpart, h⟩
  · exact .inl (by simpa using h)
  · obtain ⟨i, hi, rfl⟩ := List.mem_map.mp hpart
    simp only [List.mem_cons, Token.word.injEq, reduceCtorEq, List.not_mem_nil, false_or,
      or_false] at h
    exact .inr ⟨i, List.mem_range.mp hi, h⟩

/-- **A rendered filter means what the filter selects.** Cutting the expression at ` AND `, finding
the name and the value of each clause behind its two placeholders and comparing them with a row
gives the truth value of the filter on that row. The expression of a filter without equations is
empty, and only that one is; then every row is selected. Both maps have exactly one entry for
each equation, with its name or its value, and all placeholders of the expression have an entry in
the map of their kind. -/
theorem render_means (filter : Filter) :
    (∀ row : Row, filter.render.evaluate row.attributes = some (filter.selects row)) ∧
    (filter.render.expression = "" ↔ filter.equalities = []) ∧
    (filter.equalities = [] → ∀ row : Row, filter.selects row = true) ∧
    (filter.render.names.size = filter.equalities.length ∧
      filter.render.values.size = filter.equalities.length) ∧
    (∀ i, (hi : i < filter.equalities.length) →
      filter.render.names.get? (namePlaceholder i) = some filter.equalities[i].1 ∧
      filter.render.values.get? (valuePlaceholder i) = some filter.equalities[i].2) ∧
    (∀ word, Token.word word ∈ tokens filter.render.expression →
      word = "AND" ∨
      word.toList.head? = some '#' ∧ (filter.render.names.get? word).isSome ∨
      word.toList.head? = some ':' ∧ (filter.render.values.get? word).isSome) := by
  have hentries : ∀ i, (hi : i < filter.equalities.length) →
      filter.render.names.get? (namePlaceholder i) = some filter.equalities[i].1 ∧
      filter.render.values.get? (valuePlaceholder i) = some filter.equalities[i].2 := fun i hi =>
    ⟨get?_numberedAlong Prod.fst filter.equalities (List.getElem?_eq_getElem hi),
      get?_numberedAlong Prod.snd filter.equalities (List.getElem?_eq_getElem hi)⟩
  refine ⟨fun row => ?_, expression_eq_empty_iff filter, fun hnil row => ?_, ⟨?_, ?_⟩, hentries,
    fun word hword => ?_⟩
  · rw [Rendered.evaluate, equations?_render]
    rfl
  · rw [selects, accepts, hnil, List.all_nil]
  · exact size_numberedAlong Prod.fst filter.equalities
  · exact size_numberedAlong Prod.snd filter.equalities
  · obtain rfl | ⟨i, hi, rfl | rfl⟩ := word_mem_tokens_render hword
    · exact .inl rfl
    · refine .inr (.inl ⟨by rw [namePlaceholder, String.toList_append]; rfl, ?_⟩)
      rw [(hentries i hi).1]
      rfl
    · refine .inr (.inr ⟨by rw [valuePlaceholder, String.toList_append]; rfl, ?_⟩)
      rw [(hentries i hi).2]
      rfl

end Filter

end ClusterIdentity
