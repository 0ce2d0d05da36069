/-!
# Finite maps in key order

A `Dict κ β` is a finite map from keys to values that lists its entries in strictly increasing
key order. Because the order is part of the type, two maps with the same look-ups are equal
(`Dict.ext_get?`), and whatever is read off the list (the least key, the entries of a table) does
not depend on the order of insertion.

## Main definitions

* `KeyOrder`: a strict total order given by a decision procedure
* `Dict`: sorted association lists without repeated keys
* `Dict.get?`, `Dict.insert`, `Dict.erase`, `Dict.overlay`, `Dict.ofList`, `Dict.filter`

## Main statements

Each operation is described by what it does to `Dict.get?`.
-/

namespace ClusterIdentity

/-- A strict total order on keys, with its laws. -/
class KeyOrder (κ : Type) where
  /-- Decides whether the first key is listed before the second. -/
  before : κ → κ → Bool
  before_irrefl : ∀ a, before a a = false
  before_trans : ∀ {a b c}, before a b = true → before b c = true → before a c = true
  eq_of_not_before : ∀ {a b}, before a b = false → before b a = false → a = b

/-- Strings are ordered by their code points. -/
instance : KeyOrder String where
  before a b := decide (a < b)
  before_irrefl a := decide_eq_false (String.lt_irrefl a)
  before_trans h₁ h₂ :=
    decide_eq_true (String.lt_trans (of_decide_eq_true h₁) (of_decide_eq_true h₂))
  eq_of_not_before h₁ h₂ :=
    String.le_antisymm (String.not_lt.mp (of_decide_eq_false h₂))
      (String.not_lt.mp (of_decide_eq_false h₁))

/-- A finite map whose entries are listed in strictly increasing key order. -/
structure Dict (κ β : Type) [KeyOrder κ] where
  toList : List (κ × β)
  sorted : toList.Pairwise fun a b => KeyOrder.before a.1 b.1 = true
  deriving DecidableEq

namespace Dict

variable {κ β : Type}

/-- The value of the first entry that has the key. -/
def lookup [DecidableEq κ] (k : κ) : List (κ × β) → Option β
  | [] => none
  | (k', v) :: rest => if k' = k then some v else lookup k rest

/-- The sorted list with the entry for the key set, in place of an entry the key has already. -/
def insertEntry [KeyOrder κ] (k : κ) (v : β) : List (κ × β) → List (κ × β)
  | [] => [(k, v)]
  | (k', v') :: rest =>
    if KeyOrder.before k k' then (k, v) :: (k', v') :: rest
    else if KeyOrder.before k' k then (k', v') :: insertEntry k v rest
    else (k, v) :: rest

theorem lookup_filter [DecidableEq κ] (k₀ : κ) (p : κ → Bool) (l : List (κ × β)) :
    lookup k₀ (l.filter fun e => p e.1) = if p k₀ then lookup k₀ l else none := by
  induction l with
  | nil => simp [lookup]
  | cons head rest ih =>
    obtain ⟨k', v'⟩ := head
    by_cases hk : k' = k₀
    · subst hk
      by_cases hp : p k' <;> simp [hp, lookup, ih]
    · by_cases hp : p k' <;> simp [hp, lookup, ih, hk]

theorem lookup_map [DecidableEq κ] {γ : Type} (k : κ) (f : β → γ) (l : List (κ × β)) :
    lookup k (l.map fun e => (e.1, f e.2)) = (lookup k l).map f := by
  induction l with
  | nil => rfl
  | cons head rest ih =>
    obtain ⟨k', v'⟩ := head
    simp only [List.map_cons, lookup, ih]
    split <;> rfl

theorem mem_of_lookup [DecidableEq κ] {k : κ} {v : β} {l : List (κ × β)} (h : lookup k l = some v) :
    (k, v) ∈ l := by
  induction l with
  | nil => simp [lookup] at h
  | cons head rest ih =>
    obtain ⟨k', v'⟩ := head
    by_cases hk : k' = k
    · simp [lookup, hk] at h
      simp [hk, h]
    · simp [lookup, hk] at h
      exact List.mem_cons_of_mem _ (ih h)

/-- Entries with different keys are all found. -/
theorem lookup_of_mem [DecidableEq κ] {k : κ} {v : β} {l : List (κ × β)}
    (hl : l.Pairwise fun a b => a.1 ≠ b.1) (h : (k, v) ∈ l) : lookup k l = some v := by
  induction l with
  | nil => cases h
  | cons head rest ih =>
    obtain ⟨hhead, hrest⟩ := List.pairwise_cons.mp hl
    rw [lookup]
    rcases List.mem_cons.mp h with rfl | h
    · rw [if_pos rfl]
    · rw [if_neg (hhead _ h), ih hrest h]

section Entries

variable [KeyOrder κ]

theorem length_insertEntry_le (k : κ) (v : β) (l : List (κ × β)) :
    (insertEntry k v l).length ≤ l.length + 1 := by
  induction l with
  | nil => exact Nat.le_refl _
  | cons head rest ih =>
    simp only [insertEntry]
    split
    · exact Nat.le_refl _
    · split
      · exact Nat.succ_le_succ ih
      · exact Nat.le_succ _

theorem mem_insertEntry {k : κ} {v : β} {e : κ × β} {l : List (κ × β)}
    (h : e ∈ insertEntry k v l) : e = (k, v) ∨ e ∈ l := by
  induction l with
  | nil => simpa [insertEntry] using h
  | cons head rest ih =>
    obtain ⟨k', v'⟩ := head
    simp only [insertEntry] at h
    split at h
    · simpa using h
    · split at h
      · rcases List.mem_cons.mp h with rfl | h
        · simp
        · rcases ih h with rfl | h <;> simp [*]
      · rcases List.mem_cons.mp h with rfl | h <;> simp [*]

theorem sorted_insertEntry (k : κ) (v : β) {l : List (κ × β)}
    (h : l.Pairwise fun a b => KeyOrder.before a.1 b.1 = true) :
    (insertEntry k v l).Pairwise fun a b => KeyOrder.before a.1 b.1 = true := by
  induction l with
  | nil => simp [insertEntry]
  | cons head rest ih =>
    obtain ⟨k', v'⟩ := head
    have hrest := List.pairwise_cons.mp h
    simp only [insertEntry]
    split
    next hk =>
      refine List.pairwise_cons.mpr ⟨fun e he => ?_, h⟩
      rcases List.mem_cons.mp he with rfl | he
      · exact hk
      · exact KeyOrder.before_trans hk (hrest.1 e he)
    next hk =>
      split
      next hk' =>
        refine List.pairwise_cons.mpr ⟨fun e he => ?_, ih hrest.2⟩
        rcases mem_insertEntry he with rfl | he
        · exact hk'
        · exact hrest.1 e he
      next hk' =>
        have heq : k = k' :=
          KeyOrder.eq_of_not_before (by simpa using hk) (by simpa using hk')
        subst heq
        exact List.pairwise_cons.mpr ⟨hrest.1, hrest.2⟩

variable [DecidableEq κ]

theorem lookup_insertEntry (k k₀ : κ) (v : β) (l : List (κ × β)) :
    lookup k₀ (insertEntry k v l) = if k = k₀ then some v else lookup k₀ l := by
  induction l with
  | nil => simp [insertEntry, lookup]
  | cons head rest ih =>
    obtain ⟨k', v'⟩ := head
    simp only [insertEntry]
    split
    next => simp [lookup]
    next hk =>
      split
      next hk' =>
        have hne : k' ≠ k := by
          rintro rfl
          simp [KeyOrder.before_irrefl] at hk'
        simp only [lookup, ih]
        by_cases h : k' = k₀
        · subst h
          simp [Ne.symm hne]
        · simp [h]
      next hk' =>
        have heq : k = k' :=
          KeyOrder.eq_of_not_before (by simpa using hk) (by simpa using hk')
        subst heq
        simp only [lookup]
        split <;> rfl

theorem lookup_eq_none_of_before {k : κ} {l : List (κ × β)}
    (h : ∀ e ∈ l, KeyOrder.before k e.1 = true) : lookup k l = none := by
  induction l with
  | nil => rfl
  | cons head rest ih =>
    obtain ⟨k', v'⟩ := head
    have hne : k' ≠ k := by
      rintro rfl
      simpa [KeyOrder.before_irrefl] using h _ (List.mem_cons_self ..)
    simpa [lookup, hne] using ih fun e he => h e (List.mem_cons_of_mem _ he)

theorem eq_of_lookup_eq {l₁ l₂ : List (κ × β)}
    (h₁ : l₁.Pairwise fun a b => KeyOrder.before a.1 b.1 = true)
    (h₂ : l₂.Pairwise fun a b => KeyOrder.before a.1 b.1 = true)
    (h : ∀ k, lookup k l₁ = lookup k l₂) : l₁ = l₂ := by
  induction l₁ generalizing l₂ with
  | nil =>
    cases l₂ with
    | nil => rfl
    | cons head rest => simpa [lookup] using h head.1
  | cons a rest₁ ih =>
    cases l₂ with
    | nil => simpa [lookup] using h a.1
    | cons b rest₂ =>
      have ha := List.pairwise_cons.mp h₁
      have hb := List.pairwise_cons.mp h₂
      have hkeys : a.1 = b.1 := by
        apply KeyOrder.eq_of_not_before
        · cases hab : KeyOrder.before a.1 b.1 with
          | false => rfl
          | true =>
            have hnone : lookup a.1 (b :: rest₂) = none :=
              lookup_eq_none_of_before fun e he => by
                rcases List.mem_cons.mp he with rfl | he
                · exact hab
                · exact KeyOrder.before_trans hab (hb.1 e he)
            have hsome := (h a.1).trans hnone
            simp [lookup] at hsome
        · cases hba : KeyOrder.before b.1 a.1 with
          | false => rfl
          | true =>
            have hnone : lookup b.1 (a :: rest₁) = none :=
              lookup_eq_none_of_before fun e he => by
                rcases List.mem_cons.mp he with rfl | he
                · exact hba
                · exact KeyOrder.before_trans hba (ha.1 e he)
            have hsome := (h b.1).symm.trans hnone
            simp [lookup] at hsome
      have hvalues : a.2 = b.2 := by
        simpa [lookup, hkeys] using h b.1
      have hrest : rest₁ = rest₂ := by
        refine ih ha.2 hb.2 fun k => ?_
        by_cases hk : a.1 = k
        · subst hk
          rw [lookup_eq_none_of_before ha.1, hkeys, lookup_eq_none_of_before hb.1]
        · simpa [lookup, hk, hkeys ▸ hk] using h k
      rw [hrest, Prod.ext hkeys hvalues]

end Entries

variable [KeyOrder κ]

def empty : Dict κ β := ⟨[], List.Pairwise.nil⟩

instance : EmptyCollection (Dict κ β) := ⟨empty⟩

instance : Inhabited (Dict κ β) := ⟨empty⟩

def keys (d : Dict κ β) : List κ := d.toList.map Prod.fst

def size (d : Dict κ β) : Nat := d.toList.length

def isEmpty (d : Dict κ β) : Bool := d.toList.isEmpty

/-- The map with the key set to the value. -/
def insert (d : Dict κ β) (k : κ) (v : β) : Dict κ β :=
  ⟨insertEntry k v d.toList, sorted_insertEntry k v d.sorted⟩

def singleton (k : κ) (v : β) : Dict κ β := empty.insert k v

/-- The first map with the entries of the second set in it. -/
def overlay (d e : Dict κ β) : Dict κ β :=
  e.toList.foldl (fun acc entry => acc.insert entry.1 entry.2) d

/-- The map of a list of entries, of which the last one for a key counts. -/
def ofList (entries : List (κ × β)) : Dict κ β :=
  entries.foldl (fun acc entry => acc.insert entry.1 entry.2) empty

/-- The entries whose key and value pass the test. -/
def filter (d : Dict κ β) (p : κ → β → Bool) : Dict κ β :=
  ⟨d.toList.filter fun e => p e.1 e.2, d.sorted.filter _⟩

/-- The keys of a map differ from each other. -/
theorem pairwise_ne (d : Dict κ β) : d.toList.Pairwise fun a b => a.1 ≠ b.1 := by
  refine d.sorted.imp fun {a b} h heq => ?_
  rw [heq, KeyOrder.before_irrefl] at h
  cases h

variable [DecidableEq κ]

/-- The value of a key, if it has one. -/
def get? (d : Dict κ β) (k : κ) : Option β := lookup k d.toList

def contains (d : Dict κ β) (k : κ) : Bool := (d.get? k).isSome

/-- The map without an entry for the key. -/
def erase (d : Dict κ β) (k : κ) : Dict κ β :=
  ⟨d.toList.filter fun e => decide (e.1 ≠ k), d.sorted.filter _⟩

/-- The map without entries for any of the keys. -/
def eraseAll (d : Dict κ β) (ks : List κ) : Dict κ β := ks.foldl erase d

/-- The map with the key's value set, or removed if there is none to set. -/
def set (d : Dict κ β) (k : κ) : Option β → Dict κ β
  | some v => d.insert k v
  | none => d.erase k

/-! ### Laws of look-up -/

/-- Maps with the same look-ups are equal. -/
theorem ext_get? {d e : Dict κ β} (h : ∀ k, d.get? k = e.get? k) : d = e := by
  obtain ⟨l₁, h₁⟩ := d
  obtain ⟨l₂, h₂⟩ := e
  have : l₁ = l₂ := eq_of_lookup_eq h₁ h₂ h
  subst this
  rfl

/-- The entries are the pairs that look-up relates. -/
theorem mem_toList_iff {d : Dict κ β} {k : κ} {v : β} :
    (k, v) ∈ d.toList ↔ d.get? k = some v :=
  ⟨lookup_of_mem d.pairwise_ne, mem_of_lookup⟩

theorem mem_keys_iff {d : Dict κ β} {k : κ} : k ∈ d.keys ↔ ∃ v, d.get? k = some v := by
  simp only [keys, List.mem_map, Prod.exists, exists_and_right, exists_eq_right, mem_toList_iff]

@[simp] theorem get?_empty (k : κ) : (empty : Dict κ β).get? k = none := rfl

@[simp] theorem get?_emptyCollection (k : κ) : (∅ : Dict κ β).get? k = none := rfl

theorem get?_insert (d : Dict κ β) (k k₀ : κ) (v : β) :
    (d.insert k v).get? k₀ = if k = k₀ then some v else d.get? k₀ :=
  lookup_insertEntry k k₀ v d.toList

@[simp] theorem get?_insert_self (d : Dict κ β) (k : κ) (v : β) :
    (d.insert k v).get? k = some v := by
  simp [get?_insert]

theorem get?_erase (d : Dict κ β) (k k₀ : κ) :
    (d.erase k).get? k₀ = if k = k₀ then none else d.get? k₀ := by
  have h := lookup_filter k₀ (fun x => decide (x ≠ k)) d.toList
  by_cases hk : k = k₀
  · subst hk
    simpa [erase, get?] using h
  · simpa [erase, get?, hk, Ne.symm hk] using h

theorem get?_set (d : Dict κ β) (k k₀ : κ) (v? : Option β) :
    (d.set k v?).get? k₀ = if k = k₀ then v? else d.get? k₀ := by
  cases v? with
  | none => exact get?_erase d k k₀
  | some v => exact get?_insert d k k₀ v

@[simp] theorem get?_singleton (k k₀ : κ) (v : β) :
    (singleton k v).get? k₀ = if k = k₀ then some v else none :=
  get?_insert empty k k₀ v

theorem get?_eraseAll (d : Dict κ β) (ks : List κ) (k₀ : κ) :
    (d.eraseAll ks).get? k₀ = if k₀ ∈ ks then none else d.get? k₀ := by
  induction ks generalizing d with
  | nil => simp [eraseAll]
  | cons k ks ih =>
    have h : (d.eraseAll (k :: ks)).get? k₀ = ((d.erase k).eraseAll ks).get? k₀ := rfl
    rw [h, ih, get?_erase]
    by_cases hk : k = k₀
    · subst hk
      simp
    · simp [hk, Ne.symm hk]

/-- Entries with different keys count whatever their order. -/
theorem get?_foldl_insert {entries : List (κ × β)} (d : Dict κ β) (k : κ)
    (h : entries.Pairwise fun a b => a.1 ≠ b.1) :
    (entries.foldl (fun acc entry => acc.insert entry.1 entry.2) d).get? k =
      (lookup k entries).or (d.get? k) := by
  induction entries generalizing d with
  | nil => simp [lookup]
  | cons head rest ih =>
    obtain ⟨k', v'⟩ := head
    have hrest := List.pairwise_cons.mp h
    simp only [List.foldl_cons, lookup]
    rw [ih (d.insert k' v') hrest.2, get?_insert]
    by_cases hk : k' = k
    · subst hk
      have hnone : lookup k' rest = none := by
        cases hl : lookup k' rest with
        | none => rfl
        | some v => exact (hrest.1 (k', v) (mem_of_lookup hl) rfl).elim
      simp [hnone]
    · simp [hk]

theorem get?_overlay (d e : Dict κ β) (k : κ) :
    (d.overlay e).get? k = (e.get? k).or (d.get? k) :=
  get?_foldl_insert d k e.pairwise_ne

theorem mem_keys_overlay {d e : Dict κ β} {k : κ} :
    k ∈ (d.overlay e).keys ↔ k ∈ d.keys ∨ k ∈ e.keys := by
  simp only [mem_keys_iff, get?_overlay, ← Option.isSome_iff_exists, Option.isSome_or,
    Bool.or_eq_true, or_comm]

theorem get?_ofList {entries : List (κ × β)} (h : entries.Pairwise fun a b => a.1 ≠ b.1)
    (k : κ) : (ofList entries).get? k = lookup k entries := by
  rw [ofList, get?_foldl_insert empty k h, get?_empty, Option.or_none]

theorem get?_ofList_of_mem {entries : List (κ × β)} (h : entries.Pairwise fun a b => a.1 ≠ b.1)
    {k : κ} {v : β} (hmem : (k, v) ∈ entries) : (ofList entries).get? k = some v := by
  rw [get?_ofList h, lookup_of_mem h hmem]

theorem get?_ofList_eq_some_iff {entries : List (κ × β)}
    (h : entries.Pairwise fun a b => a.1 ≠ b.1) {k : κ} {v : β} :
    (ofList entries).get? k = some v ↔ (k, v) ∈ entries :=
  ⟨fun hv => mem_of_lookup (get?_ofList h k ▸ hv), get?_ofList_of_mem h⟩

/-- A map is the map of its own entries. -/
theorem ofList_toList (d : Dict κ β) : ofList d.toList = d :=
  ext_get? fun k => get?_ofList d.pairwise_ne k

theorem empty_eraseAll (ks : List κ) : (∅ : Dict κ β).eraseAll ks = ∅ :=
  ext_get? fun k => by
    rw [get?_eraseAll]
    split <;> rfl

theorem empty_overlay (e : Dict κ β) : (∅ : Dict κ β).overlay e = e :=
  ext_get? fun k => by rw [get?_overlay, get?_emptyCollection, Option.or_none]

/-- In a map of one entry no other key has a value. -/
theorem eq_of_size_eq_one {d : Dict κ β} (h : d.size = 1) {k k₀ : κ} {v v₀ : β}
    (hk : d.get? k = some v) (hk₀ : d.get? k₀ = some v₀) : k = k₀ := by
  obtain ⟨e, he⟩ := List.length_eq_one_iff.mp h
  rw [← mem_toList_iff, he, List.mem_singleton] at hk hk₀
  exact congrArg Prod.fst (hk.trans hk₀.symm)

/-- A map in which one key has a value and no other has one. -/
theorem eq_singleton {d : Dict κ β} {k : κ} {v : β} (hk : d.get? k = some v)
    (h : ∀ k₀, k₀ ≠ k → d.get? k₀ = none) : d = singleton k v := by
  refine ext_get? fun k₀ => ?_
  rw [get?_singleton]
  split
  · rename_i heq
    rw [← heq, hk]
  · rename_i hne
    exact h k₀ (Ne.symm hne)

/-- A map with a value for a key has one entry exactly if no other key has a value. -/
theorem size_eq_one_iff {d : Dict κ β} {k : κ} {v : β} (hk : d.get? k = some v) :
    d.size = 1 ↔ ∀ k₀, k₀ ≠ k → d.get? k₀ = none := by
  constructor
  · intro h k₀ hne
    cases hk₀ : d.get? k₀ with
    | none => rfl
    | some v₀ => exact (hne (eq_of_size_eq_one h hk₀ hk)).elim
  · intro h
    rw [eq_singleton hk h]
    rfl

/-- In a map of several entries some other key has a value. -/
theorem exists_ne_of_one_lt_size {d : Dict κ β} (h : 1 < d.size) (k : κ) :
    ∃ k₀, k₀ ≠ k ∧ ∃ v, d.get? k₀ = some v := by
  refine Classical.byContradiction fun hnone => ?_
  have hothers : ∀ k₀, k₀ ≠ k → d.get? k₀ = none := by
    intro k₀ hne
    cases hv : d.get? k₀ with
    | none => rfl
    | some v => exact (hnone ⟨k₀, hne, v, hv⟩).elim
  cases hk : d.get? k with
  | some v =>
    rw [(size_eq_one_iff hk).mpr hothers] at h
    exact Nat.lt_irrefl 1 h
  | none =>
    have hd : d = empty := ext_get? fun k₀ => by
      by_cases hne : k₀ = k
      · rw [hne, hk, get?_empty]
      · rw [hothers k₀ hne, get?_empty]
    rw [hd] at h
    cases h

/-- A change of one key adds one entry at most. -/
theorem size_set_le (d : Dict κ β) (k : κ) (v? : Option β) : (d.set k v?).size ≤ d.size + 1 := by
  cases v? with
  | none => exact Nat.le_succ_of_le (List.length_filter_le ..)
  | some v => exact length_insertEntry_le k v d.toList

theorem size_pos {d : Dict κ β} {k : κ} {v : β} (hk : d.get? k = some v) : 0 < d.size :=
  List.length_pos_of_mem (mem_toList_iff.mpr hk)

/-- A map is empty exactly if no key has a value. -/
theorem isEmpty_iff {d : Dict κ β} : d.isEmpty = true ↔ ∀ k, d.get? k = none := by
  constructor
  · intro h k
    have : d.toList = [] := by simpa [isEmpty] using h
    simp [get?, this, lookup]
  · intro h
    have hd : d = empty := ext_get? fun k => by rw [h k, get?_empty]
    rw [hd]
    rfl

theorem isEmpty_overlay {d e : Dict κ β} (h : e.isEmpty = false) :
    (d.overlay e).isEmpty = false := by
  rw [← Bool.not_eq_true] at h ⊢
  refine fun hall => h (isEmpty_iff.mpr fun k => ?_)
  have hk := isEmpty_iff.mp hall k
  rw [get?_overlay] at hk
  exact (Option.or_eq_none_iff.mp hk).1

end Dict

end ClusterIdentity
