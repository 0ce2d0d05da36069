import ClusterIdentity.Dynamo.Expression

/-!
# Reading expressions

How the service reads the expressions of a request: as tokens, of which some are words that stand
for attributes and values, and as an update or a conjunction of conditions made of such tokens.

## Main definitions

* `Token`, `tokens`: the words and marks of a text
* `Update`: what an update expression asks for
* `readUpdate?`, `readConditions?`: what the expressions of a request stand for
* `usesAll`: whether a request has no placeholders to spare
* `Extends`: placeholders that stand for whatever some others do

## Main statements

* `tokens_append_of_last`, `tokens_append_of_head`: a text may be cut next to a blank or a mark
* `tokens_numbered`, `get?_numberedAlong`: numbered placeholders are words and stand for the
  elements of a list

## Design notes

Of the language of expressions this is the part that requests make use of: one clause of an
update, and conditions joined by `AND`. All else is refused, and so is a name or a value that is
not behind a placeholder.
-/

namespace ClusterIdentity.Dynamo.Expression

/-! ### Tokens -/

inductive Token where
  | word (text : String)
  | comma
  | equals
  | opening
  | closing
  deriving DecidableEq

/-- What stands for itself between words: a blank for nothing, a mark for a token. -/
def separator? : Char → Option (List Token)
  | ' ' => some []
  | ',' => some [.comma]
  | '=' => some [.equals]
  | '(' => some [.opening]
  | ')' => some [.closing]
  | _ => none

/-- The word of some letters, if there are any. -/
def ended (letters : List Char) : List Token :=
  if letters.isEmpty then [] else [.word (String.ofList letters)]

/-- The tokens of a text of which some letters of a word were read before. -/
def tokensAfter (letters : List Char) : List Char → List Token
  | [] => ended letters
  | c :: rest =>
    match separator? c with
    | some between => ended letters ++ between ++ tokensAfter [] rest
    | none => tokensAfter (letters ++ [c]) rest

def tokens (text : String) : List Token := tokensAfter [] text.toList

theorem tokensAfter_append {c : Char} {between : List Token} (hc : separator? c = some between)
    (letters before after : List Char) :
    tokensAfter letters (before ++ c :: after) =
      tokensAfter letters before ++ between ++ tokensAfter [] after := by
  induction before generalizing letters with
  | nil => simp only [List.nil_append, tokensAfter, hc]
  | cons b before ih =>
    simp only [List.cons_append, tokensAfter]
    cases separator? b with
    | some tokens => simp only [ih, List.append_assoc]
    | none => exact ih _

/-- A text may be cut behind a blank or a mark. -/
theorem tokens_append_of_last {a : String} {c : Char} (hlast : a.toList.getLast? = some c)
    (hc : (separator? c).isSome) (b : String) : tokens (a ++ b) = tokens a ++ tokens b := by
  obtain ⟨front, ha⟩ := List.getLast?_eq_some_iff.mp hlast
  obtain ⟨between, hc⟩ := Option.isSome_iff_exists.mp hc
  rw [tokens, tokens, tokens, String.toList_append, ha, List.append_assoc, List.singleton_append,
    tokensAfter_append hc, tokensAfter_append hc]
  simp only [tokensAfter, ended, List.isEmpty_nil, if_true, List.append_nil]

/-- A text may be cut before a blank or a mark. -/
theorem tokens_append_of_head {b : String} {c : Char} (hhead : b.toList.head? = some c)
    (hc : (separator? c).isSome) (a : String) : tokens (a ++ b) = tokens a ++ tokens b := by
  obtain ⟨rest, hb⟩ := List.head?_eq_some_iff.mp hhead
  obtain ⟨between, hc⟩ := Option.isSome_iff_exists.mp hc
  rw [tokens, tokens, tokens, String.toList_append, hb, tokensAfter_append hc]
  simp only [tokensAfter, hc, ended, List.isEmpty_nil, if_true, List.nil_append,
    List.append_assoc]

/-- What is joined by a text with blanks or marks around it may be cut at all joints. -/
theorem tokens_intercalate {joint : String} {c d : Char} (hhead : joint.toList.head? = some c)
    (hc : (separator? c).isSome) (hlast : joint.toList.getLast? = some d)
    (hd : (separator? d).isSome) (parts : List String) :
    tokens (joint.intercalate parts) = (tokens joint).intercalate (parts.map tokens) := by
  match parts with
  | [] => rfl
  | [part] => simp
  | part :: next :: rest =>
    rw [String.intercalate_cons_cons, List.map_cons, List.map_cons, List.intercalate_cons_cons,
      tokens_append_of_last (c := d) ?_ hd, tokens_append_of_head hhead hc,
      tokens_intercalate hhead hc hlast hd, List.map_cons]
    rw [String.toList_append, List.getLast?_append, hlast, Option.some_or]

/-- Whether a character is a letter of a word. -/
def isLetter (c : Char) : Bool := (separator? c).isNone

/-- A text without blanks and marks is a word. -/
theorem tokens_word {s : String} (hne : s.toList ≠ []) (hs : s.toList.all isLetter = true) :
    tokens s = [.word s] := by
  have hall : ∀ (l letters : List Char), l.all isLetter = true →
      tokensAfter letters l = ended (letters ++ l) := by
    intro l
    induction l with
    | nil =>
      intro letters _
      rw [List.append_nil]
      rfl
    | cons c rest ih =>
      intro letters h
      rw [List.all_cons, Bool.and_eq_true, isLetter, Option.isNone_iff_eq_none] at h
      simp only [tokensAfter, h.1]
      rw [ih _ h.2, List.append_assoc, List.singleton_append]
  rw [tokens, hall _ _ hs, List.nil_append, ended, if_neg (by simpa using hne),
    String.ofList_toList]

/-! ### Syntax -/

/-- What an update expression asks for, of attributes and values that are named by words. -/
inductive Update where
  | assign (entries : List (String × String))
  | remove (names : List String)
  deriving DecidableEq

def name? : List Token → Option String
  | [.word name] => some name
  | _ => none

def assignment? : List Token → Option (String × String)
  | [.word name, .equals, .word value] => some (name, value)
  | _ => none

/-- A condition on an attribute, both it and the value being named by words. -/
def clause? : List Token → Option Condition
  | [.word name, .equals, .word value] => some (.equals name value)
  | [.word function, .opening, .word name, .closing] =>
    if function = "attribute_exists" then some (.present name)
    else if function = "attribute_not_exists" then some (.absent name)
    else none
  | _ => none

def update? : List Token → Option Update
  | .word keyword :: rest =>
    if keyword = "SET" then ((rest.splitOn .comma).mapM assignment?).map .assign
    else if keyword = "REMOVE" then ((rest.splitOn .comma).mapM name?).map .remove
    else none
  | _ => none

def conjunction? (tokens : List Token) : Option (List Condition) :=
  (tokens.splitOn (.word "AND")).mapM clause?

theorem mapM_eq_some_map {α β : Type} {f : α → Option β} {g : α → β} {l : List α}
    (h : ∀ a ∈ l, f a = some (g a)) : l.mapM f = some (l.map g) := by
  induction l with
  | nil => rfl
  | cons a l ih =>
    rw [List.mapM_cons, h a (List.mem_cons_self ..), ih fun b hb => h b (List.mem_cons_of_mem _ hb)]
    rfl

/-- What is joined by a token reads as its parts do, provided that the token is not in them. -/
theorem mapM_splitOn_intercalate {α β : Type} {joint : Token} {part : α → List Token}
    {read : List Token → Option β} (value : α → β) {l : List α} (hne : l ≠ [])
    (hjoint : ∀ a ∈ l, joint ∉ part a) (hread : ∀ a ∈ l, read (part a) = some (value a)) :
    (([joint].intercalate (l.map part)).splitOn joint).mapM read = some (l.map value) := by
  rw [List.splitOn_intercalate joint (by simpa using hjoint) (by simpa using hne), List.mapM_map]
  exact mapM_eq_some_map hread

/-! ### Placeholders -/

/-- The attribute and the value that two words stand for. -/
def pair? (p : Placeholders) (words : String × String) : Option (String × String) := do
  return (← p.names.get? words.1, ← p.values.get? words.2)

/-- What the words of an update stand for. -/
def Update.resolve (p : Placeholders) : Update → Option Update
  | .assign entries => (entries.mapM (pair? p)).map .assign
  | .remove names => (names.mapM p.names.get?).map .remove

/-- What the words of a condition stand for. -/
def resolve (p : Placeholders) : Condition → Option Condition
  | .equals name value => do return .equals (← p.names.get? name) (← p.values.get? value)
  | .present name => (p.names.get? name).map .present
  | .absent name => (p.names.get? name).map .absent

/-- The update that an expression stands for; left out, there is none. -/
def readUpdate? (p : Placeholders) : Option String → Option (Option Update)
  | none => some none
  | some text => do return some (← (← update? (tokens text)).resolve p)

/-- The conditions that an expression stands for; left out, there are none. -/
def readConditions? (p : Placeholders) : Option String → Option (List Condition)
  | none => some []
  | some text => do (← conjunction? (tokens text)).mapM (resolve p)

/-- Whether every placeholder occurs in some expression. -/
def usesAll (p : Placeholders) (texts : List String) : Bool :=
  (p.names.keys ++ p.values.keys).all fun placeholder =>
    texts.any fun text => decide (Token.word placeholder ∈ tokens text)

/-- The first placeholders stand for whatever the second ones stand for. -/
structure Extends (p q : Placeholders) : Prop where
  names : ∀ placeholder name, q.names.get? placeholder = some name →
    p.names.get? placeholder = some name
  values : ∀ placeholder value, q.values.get? placeholder = some value →
    p.values.get? placeholder = some value

theorem extends_both_right (p q : Placeholders) : Extends (both p q) q :=
  ⟨fun _ _ h => by rw [both, Dict.get?_overlay, h, Option.some_or],
    fun _ _ h => by rw [both, Dict.get?_overlay, h, Option.some_or]⟩

/-- Placeholders of a request stand for what those of one part stand for, if the other part has
none of them. -/
theorem extends_both_left {p q : Placeholders}
    (hnames : ∀ placeholder name, p.names.get? placeholder = some name →
      q.names.get? placeholder = none)
    (hvalues : ∀ placeholder value, p.values.get? placeholder = some value →
      q.values.get? placeholder = none) : Extends (both p q) p :=
  ⟨fun _ _ h => by rw [both, Dict.get?_overlay, hnames _ _ h, Option.none_or, h],
    fun _ _ h => by rw [both, Dict.get?_overlay, hvalues _ _ h, Option.none_or, h]⟩

/-- Placeholders of one stem differ by their index. -/
theorem numbered_inj {stem : String} {i j : Nat} (h : numbered stem i = numbered stem j) :
    i = j := by
  rw [numbered, numbered, String.append_right_inj] at h
  exact Option.some.inj ((Numeral.read?_write i).symm.trans (h ▸ Numeral.read?_write j))

/-- A placeholder starts with its stem. -/
theorem numbered_ne {stem other : String} (h : ¬ stem.toList <+: other.toList) (i : Nat) :
    numbered stem i ≠ other := by
  rintro rfl
  exact h (by simp [numbered])

/-- A placeholder is a word if its stem is. -/
theorem tokens_numbered {stem : String} (hne : stem.toList ≠ [])
    (hs : stem.toList.all isLetter = true) (i : Nat) :
    tokens (numbered stem i) = [.word (numbered stem i)] := by
  have hdigit : ∀ c : Char, c.isDigit = true → isLetter c = true := by
    intro c hc
    unfold isLetter separator?
    split <;> first | rfl | cases hc
  have hlist : (numbered stem i).toList = stem.toList ++ (Numeral.write i).toList :=
    String.toList_append
  refine tokens_word (fun h => hne (List.append_eq_nil_iff.mp (hlist ▸ h)).1) ?_
  rw [hlist, List.all_append, hs, Bool.true_and]
  exact List.all_eq_true.mpr fun c hc => hdigit c (Numeral.isDigit_of_mem_write hc)

/-! ### Numbered placeholders -/

section Numbered

variable {α β : Type} {stem : String} (value : α → β) (l : List α)

/-- What stands behind the placeholders of one stem that are numbered along a list. -/
abbrev numberedAlong (stem : String) (value : α → β) (l : List α) : Dict String β :=
  Dict.ofList (l.mapIdx fun i a => (numbered stem i, value a))

theorem pairwise_ne_numbered :
    (l.mapIdx fun i a => (numbered stem i, value a)).Pairwise fun a b => a.1 ≠ b.1 := by
  rw [List.pairwise_iff_getElem]
  intro i j hi hj hij h
  simp only [List.getElem_mapIdx] at h
  exact Nat.ne_of_lt hij (numbered_inj h)

theorem get?_numberedAlong {i : Nat} {a : α} (h : l[i]? = some a) :
    (numberedAlong stem value l).get? (numbered stem i) = some (value a) := by
  refine Dict.get?_ofList_of_mem (pairwise_ne_numbered value l) (List.mem_mapIdx.mpr ?_)
  obtain ⟨hi, rfl⟩ := List.getElem?_eq_some_iff.mp h
  exact ⟨i, hi, rfl⟩

/-- No other placeholder stands for anything. -/
theorem eq_numbered_of_get? {placeholder : String} {b : β}
    (h : (numberedAlong stem value l).get? placeholder = some b) :
    ∃ i < l.length, placeholder = numbered stem i := by
  rw [Dict.get?_ofList (pairwise_ne_numbered value l)] at h
  obtain ⟨i, hi, heq⟩ := List.mem_mapIdx.mp (Dict.mem_of_lookup h)
  exact ⟨i, hi, (congrArg Prod.fst heq).symm⟩

/-- What is numbered along a list reads as that list. -/
theorem mapM_range {f : Nat → Option α} (h : ∀ i, (hi : i < l.length) → f i = some l[i]) :
    (List.range l.length).mapM f = some l := by
  induction l generalizing f with
  | nil => rfl
  | cons a l ih =>
    rw [List.length_cons, List.range_succ_eq_map, List.mapM_cons, List.mapM_map,
      h 0 (Nat.zero_lt_succ _), ih (f := f ∘ Nat.succ) fun i hi => h (i + 1) (Nat.succ_lt_succ hi)]
    rfl

end Numbered

end ClusterIdentity.Dynamo.Expression
