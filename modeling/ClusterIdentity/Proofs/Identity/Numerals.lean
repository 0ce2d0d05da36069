import Mathlib.Data.Nat.Digits.Defs
import ClusterIdentity.Numeral

/-!
# What numerals denote

A numeral consists of ASCII digits, of which there is at least one, after at most one plus sign. It
denotes the number that its digits have in base ten, leading zeros or not.

## Main definitions

* `Numeral.Denotes`: a text is a numeral of a number

## Main statements

* `Numeral.read?_eq_some_iff`: a text reads as what it denotes
* `Numeral.readUInt32?_eq_some_iff`, `Numeral.readUInt64?_eq_some_iff`: if that fits a word
-/

namespace ClusterIdentity.Numeral

/-- The value of a digit by itself. -/
def digitValue (c : Char) : Nat := c.toNat - '0'.toNat

/-- Whether a text is a numeral of a number. The least significant digit comes last. -/
def Denotes (text : String) (n : Nat) : Prop :=
  ∃ sign ds : List Char, text.toList = sign ++ ds ∧ (sign = [] ∨ sign = ['+']) ∧ ds ≠ [] ∧
    (∀ c ∈ ds, '0' ≤ c ∧ c ≤ '9') ∧ n = Nat.ofDigits 10 (ds.reverse.map digitValue)

theorem isDigit_iff {c : Char} : c.isDigit = true ↔ '0' ≤ c ∧ c ≤ '9' := by
  simp [Char.isDigit, Char.le_def]

theorem ofDigitChars_eq_ofDigits (ds : List Char) (n : Nat) :
    Nat.ofDigitChars 10 ds n =
      Nat.ofDigits 10 (ds.reverse.map digitValue) + 10 ^ ds.length * n := by
  induction ds generalizing n with
  | nil => simp
  | cons c rest ih =>
    rw [Nat.ofDigitChars_cons, ih, List.reverse_cons, List.map_append, Nat.ofDigits_append,
      List.length_map, List.length_reverse, List.length_cons, List.map_singleton,
      Nat.ofDigits_singleton, digitValue]
    ring

/-- A text is what stands before its digits and the digits. -/
theorem exists_sign_append_digits (cs : List Char) :
    ∃ sign, cs = sign ++ digits cs ∧ (sign = [] ∨ sign = ['+']) := by
  unfold digits
  split
  · exact ⟨['+'], rfl, .inr rfl⟩
  · exact ⟨[], rfl, .inl rfl⟩

/-- Where there are digits, the sign before them is not taken for one. -/
theorem digits_sign_append {sign ds : List Char} (hsign : sign = [] ∨ sign = ['+'])
    (hds : ∀ c ∈ ds, '0' ≤ c ∧ c ≤ '9') : digits (sign ++ ds) = ds := by
  rcases hsign with rfl | rfl
  · rw [List.nil_append]
    unfold digits
    split
    · have hplus : ¬ ('0' ≤ '+' ∧ '+' ≤ '9') := by decide
      exact (hplus (hds '+' (List.mem_cons_self ..))).elim
    · rfl
  · rfl

/-- A text reads as the number that it denotes, and not at all if it denotes none. -/
theorem read?_eq_some_iff {text : String} {n : Nat} : read? text = some n ↔ Denotes text n := by
  rw [read?, Option.ite_none_right_eq_some, Option.some.injEq]
  constructor
  · rintro ⟨⟨hne, hall⟩, hvalue⟩
    obtain ⟨sign, htext, hsign⟩ := exists_sign_append_digits text.toList
    refine ⟨sign, _, htext, hsign, hne, fun c hc => ?_, ?_⟩
    · exact isDigit_iff.mp (List.all_eq_true.mp hall c hc)
    · rw [← hvalue, ofDigitChars_eq_ofDigits, Nat.mul_zero, Nat.add_zero]
  · rintro ⟨sign, ds, htext, hsign, hne, hall, rfl⟩
    rw [htext, digits_sign_append hsign hall, ofDigitChars_eq_ofDigits, Nat.mul_zero, Nat.add_zero]
    exact ⟨⟨hne, List.all_eq_true.mpr fun c hc => isDigit_iff.mpr (hall c hc)⟩, rfl⟩

theorem readUInt32?_eq_some_iff {text : String} {n : UInt32} :
    readUInt32? text = some n ↔ Denotes text n.toNat := by
  rw [← read?_eq_some_iff, readUInt32?]
  split
  · rename_i m hread
    rw [hread, Option.some.injEq, Option.dite_none_right_eq_some]
    constructor
    · rintro ⟨hfits, heq⟩
      rw [← Option.some.inj heq, UInt32.toNat_ofNatLT]
    · rintro rfl
      exact ⟨n.toNat_lt, congrArg some (UInt32.ofNatLT_toNat n)⟩
  · rename_i hread
    rw [hread]
    simp only [reduceCtorEq]

theorem readUInt64?_eq_some_iff {text : String} {n : UInt64} :
    readUInt64? text = some n ↔ Denotes text n.toNat := by
  rw [← read?_eq_some_iff, readUInt64?]
  split
  · rename_i m hread
    rw [hread, Option.some.injEq, Option.dite_none_right_eq_some]
    constructor
    · rintro ⟨hfits, heq⟩
      rw [← Option.some.inj heq, UInt64.toNat_ofNatLT]
    · rintro rfl
      exact ⟨n.toNat_lt, congrArg some (UInt64.ofNatLT_toNat n)⟩
  · rename_i hread
    rw [hread]
    simp only [reduceCtorEq]

end ClusterIdentity.Numeral
