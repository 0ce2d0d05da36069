/-!
# Decimal numerals

Whole numbers are kept as text in stored rows. `Numeral.write` gives the digits of a number;
`Numeral.read?` accepts a little more than `Numeral.write` produces: leading zeros and one
leading plus sign.

## Main definitions

* `Numeral.write`, `Numeral.read?`
* `Numeral.readUInt32?`, `Numeral.readUInt64?`: the same for numbers that fit a word

## Main statements

* `Numeral.read?_write`: a written number reads back
-/

namespace ClusterIdentity.Numeral

/-- The decimal digits of a number, without leading zeros. -/
def write (n : Nat) : String := Nat.repr n

/-- The digits of a numeral: all of it, or what follows a leading plus sign. -/
def digits : List Char → List Char
  | '+' :: rest => rest
  | cs => cs

/-- The number that a numeral denotes: at least one ASCII digit after at most one plus sign. -/
def read? (text : String) : Option Nat :=
  let ds := digits text.toList
  if ds ≠ [] ∧ ds.all Char.isDigit then some (Nat.ofDigitChars 10 ds 0) else none

/-- The number that a numeral denotes, if it fits 32 bits. -/
def readUInt32? (text : String) : Option UInt32 :=
  match read? text with
  | some n => if h : n < UInt32.size then some (UInt32.ofNatLT n h) else none
  | none => none

/-- The number that a numeral denotes, if it fits 64 bits. -/
def readUInt64? (text : String) : Option UInt64 :=
  match read? text with
  | some n => if h : n < UInt64.size then some (UInt64.ofNatLT n h) else none
  | none => none

theorem toList_write (n : Nat) : (write n).toList = Nat.toDigits 10 n := by
  simp [write, Nat.repr_eq_ofList_toDigits]

theorem isDigit_of_mem_write {n : Nat} {c : Char} (h : c ∈ (write n).toList) :
    c.isDigit = true := by
  rw [toList_write] at h
  exact Nat.isDigit_of_mem_toDigits (by decide) (by decide) h

theorem digits_toList_write (n : Nat) : digits (write n).toList = (write n).toList := by
  have h : ∀ c ∈ (write n).toList, c.isDigit = true := fun c hc => isDigit_of_mem_write hc
  revert h
  cases (write n).toList with
  | nil => intro _; rfl
  | cons c rest =>
    intro h
    have hc : c ≠ '+' := by
      rintro rfl
      simpa using h '+' (List.mem_cons_self ..)
    simp only [digits]
    split
    · simp_all
    · rfl

theorem read?_write (n : Nat) : read? (write n) = some n := by
  have hne : (write n).toList ≠ [] := by
    rw [toList_write]
    exact Nat.toDigits_ne_nil
  have hall : ((write n).toList.all Char.isDigit) = true :=
    List.all_eq_true.mpr fun c hc => isDigit_of_mem_write hc
  have hval : Nat.ofDigitChars 10 (write n).toList 0 = n := by
    rw [toList_write]
    exact Nat.ofDigitChars_toDigits (by decide) (by decide)
  simp only [read?, digits_toList_write]
  rw [if_pos ⟨hne, hall⟩, hval]

theorem readUInt32?_write (n : UInt32) : readUInt32? (write n.toNat) = some n := by
  have h : n.toNat < UInt32.size := n.toNat_lt
  simp [readUInt32?, read?_write, h]

theorem readUInt64?_write (n : UInt64) : readUInt64? (write n.toNat) = some n := by
  have h : n.toNat < UInt64.size := n.toNat_lt
  simp [readUInt64?, read?_write, h]

end ClusterIdentity.Numeral
