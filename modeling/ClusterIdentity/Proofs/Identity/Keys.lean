import ClusterIdentity.Identity.Key

/-!
# Keys of records and of the rows that guard them

The keys of records, of lock rows and of choosing rows end in different characters, so none of
them is ever taken for one of another kind, even if all rows are kept in one table.

## Main definitions

* `RowKey.GuardedBy`: a key is that of one of the two rows that guard a row key
* `RowKey.Unguarding`: a key is not that of any such row
* `RowKey.Names`: a key is that of the record of a row key or of one of the rows that guard it

## Main statements

* `RowKey.lock_ne_choosing`, `RowKey.unguarding_text_ofSlot`: keys of different kinds differ
* `RowKey.GuardedBy.unique`: a row guards one row key
* `RowKey.ofSlot_eq_iff`: which slots have the same row key
* `RowKey.Names.unique`: of all row keys of slots, a key belongs to one
-/

namespace ClusterIdentity.RowKey

theorem ext {k k' : RowKey} (h : k.text = k'.text) : k = k' := by
  cases k
  cases k'
  exact congrArg RowKey.mk h

theorem getLast?_lock (k : RowKey) : k.lock.toList.getLast? = some 'k' := by
  have h : "-lock".toList = ['-', 'l', 'o', 'c', 'k'] := by decide
  simp [lock, String.toList_append, h]

theorem getLast?_choosing (k : RowKey) : k.choosing.toList.getLast? = some 'g' := by
  have h : "-choosing".toList = ['-', 'c', 'h', 'o', 'o', 's', 'i', 'n', 'g'] := by decide
  simp [choosing, String.toList_append, h]

/-- The key of a record ends in a digit. -/
theorem getLast?_text_ofSlot (application rack : String) (slot : UInt32) :
    ∃ c, (ofSlot application rack slot).text.toList.getLast? = some c ∧ c.isDigit = true := by
  -- the key ends in the slot, which has at least one digit
  have hne : (Numeral.write slot.toNat).toList ≠ [] := by
    rw [Numeral.toList_write]
    exact Nat.toDigits_ne_nil
  have hlast : (Numeral.write slot.toNat).toList.getLast? ≠ none := fun h =>
    hne (List.getLast?_eq_none_iff.mp h)
  obtain ⟨c, hc⟩ := Option.ne_none_iff_exists'.mp hlast
  refine ⟨c, ?_, Numeral.isDigit_of_mem_write (List.mem_of_getLast? hc)⟩
  simp only [ofSlot, String.toList_append]
  rw [List.getLast?_append, hc, Option.some_or]

/-- The digits at the end of a text after an underscore. -/
theorem takeWhile_isDigit_reverse {text digits : List Char}
    (h : ∀ c ∈ digits, c.isDigit = true) :
    (text ++ '_' :: digits).reverse.takeWhile Char.isDigit = digits.reverse := by
  rw [List.reverse_append, List.reverse_cons, List.append_assoc,
    List.takeWhile_append_of_pos fun c hc => h c (List.mem_reverse.mp hc)]
  simp only [List.cons_append, List.nil_append, List.takeWhile_cons]
  rw [if_neg (by decide), List.append_nil]

/-- The slot can be told from a row key, but not where the application ends and the rack
begins. -/
theorem ofSlot_eq_iff {application application' rack rack' : String} {slot slot' : UInt32} :
    ofSlot application rack slot = ofSlot application' rack' slot' ↔
      slot = slot' ∧ application ++ "_" ++ rack = application' ++ "_" ++ rack' := by
  constructor
  · intro h
    have htext : (application ++ "_" ++ rack).toList ++ '_' :: (Numeral.write slot.toNat).toList =
        (application' ++ "_" ++ rack').toList ++ '_' :: (Numeral.write slot'.toNat).toList := by
      have hlist := congrArg (fun k => k.text.toList) h
      simpa [ofSlot, String.toList_append] using hlist
    have hdigits : (Numeral.write slot.toNat).toList = (Numeral.write slot'.toNat).toList := by
      rw [← List.reverse_inj, ← takeWhile_isDigit_reverse fun c => Numeral.isDigit_of_mem_write,
        htext, takeWhile_isDigit_reverse fun c => Numeral.isDigit_of_mem_write]
    have hslot : some slot = some slot' := by
      rw [← Numeral.readUInt32?_write, ← Numeral.readUInt32?_write, String.ext hdigits]
    refine ⟨Option.some.inj hslot, String.ext ?_⟩
    rw [hdigits] at htext
    exact List.append_cancel_right htext
  · rintro ⟨rfl, h⟩
    rw [ofSlot, ofSlot, h]

theorem lock_ne_choosing (k k' : RowKey) : k.lock ≠ k'.choosing := by
  intro h
  have hk := getLast?_lock k
  rw [h, getLast?_choosing] at hk
  cases hk

theorem lock_inj {k k' : RowKey} (h : k.lock = k'.lock) : k = k' :=
  RowKey.ext (String.append_left_inj "-lock" |>.mp h)

theorem choosing_inj {k k' : RowKey} (h : k.choosing = k'.choosing) : k = k' :=
  RowKey.ext (String.append_left_inj "-choosing" |>.mp h)

/-- Whether a key is that of one of the two rows that guard a row key. -/
def GuardedBy (k : RowKey) (key : String) : Prop := key = k.lock ∨ key = k.choosing

theorem guardedBy_lock (k : RowKey) : k.GuardedBy k.lock := .inl rfl

theorem guardedBy_choosing (k : RowKey) : k.GuardedBy k.choosing := .inr rfl

/-- A row guards one row key. -/
theorem GuardedBy.unique {k k' : RowKey} {key : String} (h : k.GuardedBy key)
    (h' : k'.GuardedBy key) : k = k' := by
  rcases h with rfl | rfl <;> rcases h' with h' | h'
  · exact lock_inj h'
  · exact (lock_ne_choosing k k' h').elim
  · exact (lock_ne_choosing k' k h'.symm).elim
  · exact choosing_inj h'

/-- Whether a key is not that of a row that guards a row key. -/
def Unguarding (key : String) : Prop := ∀ k : RowKey, ¬ k.GuardedBy key

theorem unguarding_text_ofSlot (application rack : String) (slot : UInt32) :
    Unguarding (ofSlot application rack slot).text := by
  intro k
  obtain ⟨c, hc, hdigit⟩ := getLast?_text_ofSlot application rack slot
  rintro (h | h)
  · rw [h, getLast?_lock] at hc
    cases hc
    revert hdigit
    decide
  · rw [h, getLast?_choosing] at hc
    cases hc
    revert hdigit
    decide

/-- Whether a key is that of the record of a row key or of one of the rows that guard it. -/
def Names (k : RowKey) (key : String) : Prop := key = k.text ∨ k.GuardedBy key

/-- A key belongs to the row key of one slot. -/
theorem Names.unique {k k' : RowKey} {key : String} (hk : Unguarding k.text)
    (hk' : Unguarding k'.text) (h : k.Names key) (h' : k'.Names key) : k = k' := by
  rcases h with rfl | h
  · rcases h' with htext | h'
    · exact RowKey.ext htext
    · exact (hk k' h').elim
  · rcases h' with rfl | h'
    · exact (hk' k h).elim
    · exact h.unique h'

end ClusterIdentity.RowKey
