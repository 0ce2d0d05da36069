import ClusterIdentity.Table.Contents

/-!
# What requests do to rows

A request writes at most one row. This file says which, and what becomes of the attributes of
that row.

## Main definitions

* `StoreCall.WritesTo`: the request may change a row
* `Contents.attribute?`: the value of an attribute of a row
* `Contents.Occupied`: a row has an attribute if it exists at all
* `Contents.SameBut`: two contents differ in one attribute of some rows at most

## Main statements

* `Contents.row?_perform`: a request leaves the rows alone that it does not write to
* `Contents.attribute?_put`, `Contents.attribute?_deleteAttribute`: what becomes of attributes
* `Contents.filter_rows_eq`: a scan lists its rows in an order that depends on nothing but these
-/

namespace ClusterIdentity

/-- Whether a request may change the row with a key of a table. -/
def StoreCall.WritesTo (table key : String) : StoreCall → Prop
  | put t k .. => t = table ∧ k = key
  | delete t k .. => t = table ∧ k = key
  | scan .. => False
  | batchGet .. => False

theorem StoreCall.not_writesTo_put {t table k key : String} (h : k ≠ key)
    (attributes : Attributes) (condition : Option Condition) :
    ¬ (put t k attributes condition).WritesTo table key :=
  fun hw => h hw.2

theorem StoreCall.not_writesTo_delete {t table k key : String} (h : k ≠ key)
    (scope : DeleteScope) (condition : Option Condition) :
    ¬ (delete t k scope condition).WritesTo table key :=
  fun hw => h hw.2

namespace Contents

/-- The value of an attribute of a row, if there is such a row and it has the attribute. -/
def attribute? (c : Contents) (table key name : String) : Option String :=
  (c.row? table key).bind (·.get? name)

/-- Whether a row, if it exists, has an attribute. -/
def Occupied (c : Contents) (table key : String) : Prop :=
  ∀ row, c.row? table key = some row → ∃ name, row.get? name ≠ none

variable {c : Contents} {call : StoreCall} {table key : String}

/-- A request leaves every row alone that it does not write to. -/
theorem row?_perform (h : ¬ call.WritesTo table key) :
    (c.perform call).2.row? table key = c.row? table key := by
  cases call with
  | put t k attributes condition =>
    simp only [perform]
    split
    · exact (row?_setRow ..).trans (if_neg h)
    · rfl
  | delete t k scope condition =>
    simp only [perform]
    split
    · exact (row?_setRow ..).trans (if_neg h)
    · rfl
  | scan t filter limit => rfl
  | batchGet t keys => rfl

theorem attribute?_perform (h : ¬ call.WritesTo table key) (name : String) :
    (c.perform call).2.attribute? table key name = c.attribute? table key name := by
  rw [attribute?, row?_perform h, attribute?]

theorem attribute?_eq_none_of_row? {name : String} (h : c.row? table key = none) :
    c.attribute? table key name = none := by
  rw [attribute?, h, Option.bind_none]

theorem attribute?_of_row? {row : Attributes} (h : c.row? table key = some row)
    (name : String) : c.attribute? table key name = row.get? name := by
  rw [attribute?, h, Option.bind_some]

/-- Attributes of rows that do not exist are absent. -/
theorem attribute?_eq_get?_getD (c : Contents) (table key name : String) :
    c.attribute? table key name = ((c.row? table key).getD ∅).get? name := by
  rw [attribute?]
  cases c.row? table key <;> rfl

theorem exists_row?_of_attribute? {name value : String}
    (h : c.attribute? table key name = some value) :
    ∃ row, c.row? table key = some row ∧ row.get? name = some value :=
  Option.bind_eq_some_iff.mp h

/-- An occupied row without attributes does not exist. -/
theorem Occupied.row?_eq_none (hc : c.Occupied table key)
    (h : ∀ name, c.attribute? table key name = none) : c.row? table key = none := by
  cases hrow : c.row? table key with
  | none => rfl
  | some row =>
    obtain ⟨name, hname⟩ := hc row hrow
    exact (hname (attribute?_of_row? hrow name ▸ h name)).elim

/-! ### Setting rows -/

/-- Contents with the same rows are equal. -/
theorem ext_row? {a b : Contents} (h : ∀ table key, a.row? table key = b.row? table key) : a = b :=
  Dict.ext_get? fun id => h id.table id.key

theorem row?_setRow_self (c : Contents) (table key : String) (row : Option Attributes) :
    (c.setRow table key row).row? table key = row :=
  (row?_setRow ..).trans (if_pos ⟨rfl, rfl⟩)

theorem row?_setRow_of_ne {t k : String} (h : ¬ (t = table ∧ k = key)) (row : Option Attributes) :
    (c.setRow t k row).row? table key = c.row? table key :=
  (row?_setRow ..).trans (if_neg h)

theorem setRow_setRow (c : Contents) (table key : String) (row row' : Option Attributes) :
    (c.setRow table key row).setRow table key row' = c.setRow table key row' := by
  refine ext_row? fun t k => ?_
  simp only [row?_setRow]
  split <;> rfl

/-- Different rows may be set in any order. -/
theorem setRow_comm {t k : String} (h : ¬ (table = t ∧ key = k)) (c : Contents)
    (row row' : Option Attributes) :
    (c.setRow table key row).setRow t k row' = (c.setRow t k row').setRow table key row := by
  refine ext_row? fun t' k' => ?_
  simp only [row?_setRow]
  split
  · rename_i heq
    obtain ⟨rfl, rfl⟩ := heq
    rw [if_neg h]
  · rfl

theorem setRow_of_row? {row : Option Attributes} (h : c.row? table key = row) :
    c.setRow table key row = c := by
  refine ext_row? fun t k => ?_
  rw [row?_setRow]
  split
  · rename_i heq
    rw [← heq.1, ← heq.2, h]
  · rfl

/-! ### Writing -/

@[simp] theorem row?_put (c : Contents) (table key : String) (attributes : Attributes) :
    (c.perform (.put table key attributes none)).2.row? table key =
      some (written (c.row? table key) attributes) := by
  simp [perform, Condition.allows, row?_setRow]

/-- A write sets its attributes and keeps the others. -/
@[simp] theorem attribute?_put (c : Contents) (table key : String) (attributes : Attributes)
    (name : String) :
    (c.perform (.put table key attributes none)).2.attribute? table key name =
      (attributes.get? name).or (c.attribute? table key name) := by
  rw [attribute?_of_row? (row?_put c table key attributes), written, Dict.get?_overlay]
  cases hrow : c.row? table key with
  | none => rw [attribute?_eq_none_of_row? hrow]; rfl
  | some row => rw [attribute?_of_row? hrow]; rfl

theorem occupied_put (c : Contents) (table key : String) {attributes : Attributes}
    {name value : String} (hvalue : attributes.get? name = some value) :
    (c.perform (.put table key attributes none)).2.Occupied table key := by
  intro row hrow
  refine ⟨name, ?_⟩
  rw [← attribute?_of_row? hrow, attribute?_put, hvalue]
  simp

/-! ### Deleting -/

/-- The request that deletes one attribute, provided that it has a certain value. -/
abbrev deleteAttribute (table key name value : String) : StoreCall :=
  .delete table key (.attributes [name]) (some (.equals name value))

theorem attribute?_remaining (old : Option Attributes) (name name₀ : String) :
    (remaining old (.attributes [name])).bind (·.get? name₀) =
      if name = name₀ then none else old.bind (·.get? name₀) := by
  cases old with
  | none => simp [remaining]
  | some row =>
    have hget : (row.eraseAll [name]).get? name₀ =
        if name = name₀ then none else row.get? name₀ := by
      rw [Dict.get?_eraseAll]
      simp [eq_comm]
    simp only [remaining, Option.bind_some]
    split
    · rename_i hempty
      rw [← hget, Dict.isEmpty_iff.mp hempty name₀, Option.bind_none]
    · rw [Option.bind_some, hget]

/-- Deleting an attribute with the right value removes it and keeps the others. -/
@[simp] theorem attribute?_deleteAttribute (c : Contents) (table key name value name₀ : String) :
    (c.perform (deleteAttribute table key name value)).2.attribute? table key name₀ =
      if name = name₀ ∧ c.attribute? table key name = some value then none
      else c.attribute? table key name₀ := by
  by_cases hval : c.attribute? table key name = some value
  · have hallows : Condition.allows (some (.equals name value)) (c.row? table key) = true := by
      simpa [Condition.allows, Condition.holds, attribute?] using hval
    simp only [perform, hallows, if_true]
    rw [attribute?, row?_setRow, if_pos ⟨rfl, rfl⟩, attribute?_remaining, ← attribute?]
    simp only [hval, and_true]
  · have hallows : Condition.allows (some (.equals name value)) (c.row? table key) = false := by
      simpa [Condition.allows, Condition.holds, attribute?] using hval
    simp [perform, hallows, hval]

/-- An attribute that was to be deleted does not have the value any more. -/
theorem attribute?_deleteAttribute_ne (c : Contents) (table key name value : String) :
    (c.perform (deleteAttribute table key name value)).2.attribute? table key name ≠
      some value := by
  rw [attribute?_deleteAttribute]
  split
  · exact nofun
  · rename_i hne
    exact fun h => hne ⟨rfl, h⟩

/-- Deleting an attribute keeps all others of any row. -/
theorem attribute?_deleteAttribute_of_ne {name name₀ : String} (h : name ≠ name₀)
    (key' value : String) :
    (c.perform (deleteAttribute table key' name value)).2.attribute? table key name₀ =
      c.attribute? table key name₀ := by
  by_cases heq : key' = key
  · rw [heq, attribute?_deleteAttribute, if_neg fun hname => h hname.1]
  · exact attribute?_perform (StoreCall.not_writesTo_delete heq _ _) name₀

/-- Deleting an attribute adds none to any row. -/
theorem attribute?_deleteAttribute_of_none {name₀ : String}
    (h : c.attribute? table key name₀ = none) (key' name value : String) :
    (c.perform (deleteAttribute table key' name value)).2.attribute? table key name₀ = none := by
  by_cases heq : key' = key
  · rw [heq, attribute?_deleteAttribute, h, ite_self]
  · rw [attribute?_perform (StoreCall.not_writesTo_delete heq _ _), h]

theorem occupied_deleteAttribute (hc : c.Occupied table key) (name value : String) :
    (c.perform (deleteAttribute table key name value)).2.Occupied table key := by
  intro row hrow
  simp only [perform] at hrow
  split at hrow
  · rw [row?_setRow, if_pos ⟨rfl, rfl⟩, remaining] at hrow
    obtain ⟨old, -, hrest⟩ := Option.bind_eq_some_iff.mp hrow
    simp only [] at hrest
    split at hrest
    · cases hrest
    · rename_i hne
      cases hrest
      exact Classical.not_forall.mp fun hall => hne (Dict.isEmpty_iff.mpr hall)
  · exact hc row hrow

@[simp] theorem row?_deleteRow (c : Contents) (table key : String) :
    (c.perform (.delete table key .row none)).2.row? table key = none := by
  simp [perform, Condition.allows, remaining, row?_setRow]

/-- Deleting a row, under whatever condition, leaves it as it was or not at all. -/
theorem row?_deleteRow_eq_or (c : Contents) (table key : String) (condition : Option Condition) :
    (c.perform (.delete table key .row condition)).2.row? table key = c.row? table key ∨
      (c.perform (.delete table key .row condition)).2.row? table key = none := by
  simp only [perform]
  split
  · rw [row?_setRow, if_pos ⟨rfl, rfl⟩]
    exact .inr rfl
  · exact .inl rfl

/-- Deleting adds no attributes to any row. -/
theorem attribute?_delete {t k name value : String} {scope : DeleteScope}
    {condition : Option Condition}
    (h : (c.perform (.delete t k scope condition)).2.attribute? table key name = some value) :
    c.attribute? table key name = some value := by
  by_cases hsame : t = table ∧ k = key
  · obtain ⟨rfl, rfl⟩ := hsame
    simp only [perform] at h
    split at h
    · rw [attribute?, row?_setRow, if_pos ⟨rfl, rfl⟩] at h
      cases scope with
      | row => cases h
      | attributes names =>
        rw [attribute?]
        cases hrow : c.row? t k with
        | none =>
          rw [hrow] at h
          cases h
        | some row =>
          rw [hrow] at h
          simp only [remaining, Option.bind_some] at h ⊢
          split at h
          · cases h
          · rw [Option.bind_some, Dict.get?_eraseAll] at h
            split at h
            · cases h
            · exact h
    · exact h
  · have hw : ¬ (StoreCall.delete t k scope condition).WritesTo table key := hsame
    rwa [attribute?_perform hw] at h

/-- Deleting a row that has an attribute with the right value removes it. -/
theorem row?_deleteRow_of_equals {name value : String}
    (h : c.attribute? table key name = some value) :
    (c.perform (.delete table key .row (some (.equals name value)))).2.row? table key = none := by
  have hallows : Condition.allows (some (.equals name value)) (c.row? table key) = true := by
    simpa [Condition.allows, Condition.holds, attribute?] using h
  simp only [perform, hallows, if_true]
  rw [row?_setRow, if_pos ⟨rfl, rfl⟩, remaining]

/-! ### Frames -/

/-- Whether one attribute of some rows of a table is all in which two contents may differ. -/
def SameBut (table : String) (keys : String → Prop) (name : String) (a b : Contents) : Prop :=
  ∀ t key n, ¬ (t = table ∧ keys key ∧ n = name) → b.attribute? t key n = a.attribute? t key n

namespace SameBut

variable {keys : String → Prop} {name : String} {a b : Contents}

theorem refl : SameBut table keys name a a :=
  fun _ _ _ _ => rfl

theorem put (h : SameBut table keys name a b) (hkey : keys key) (value : String) :
    SameBut table keys name a (b.perform (.put table key (Dict.singleton name value) none)).2 := by
  intro t key' n hother
  rw [← h t key' n hother]
  by_cases hrow : table = t ∧ key = key'
  · obtain ⟨rfl, rfl⟩ := hrow
    have hn : name ≠ n := fun hn => hother ⟨rfl, hkey, hn.symm⟩
    rw [attribute?_put, Dict.get?_singleton, if_neg hn, Option.none_or]
  · have hw : ¬ (StoreCall.put table key (Dict.singleton name value) none).WritesTo t key' := hrow
    exact attribute?_perform hw n

theorem deleteAttribute (h : SameBut table keys name a b) (hkey : keys key) (value : String) :
    SameBut table keys name a (b.perform (deleteAttribute table key name value)).2 := by
  intro t key' n hother
  rw [← h t key' n hother]
  by_cases hrow : table = t ∧ key = key'
  · obtain ⟨rfl, rfl⟩ := hrow
    exact attribute?_deleteAttribute_of_ne (fun hn => hother ⟨rfl, hkey, hn.symm⟩) key value
  · have hw : ¬ (Contents.deleteAttribute table key name value).WritesTo t key' := hrow
    exact attribute?_perform hw n

end SameBut

/-! ### Reading -/

theorem mem_rows {attributes : Attributes} (h : c.row? table key = some attributes) :
    (⟨key, attributes⟩ : Row) ∈ c.rows table :=
  mem_rows_iff.mpr h

/-- If the same rows are selected from two tables, they are listed in the same order. -/
theorem filter_rows_eq {a b : Contents} {t t' : String} {p q : Row → Bool}
    (h : ∀ row : Row, (a.row? t row.key = some row.attributes ∧ p row = true) ↔
      (b.row? t' row.key = some row.attributes ∧ q row = true)) :
    (a.rows t).filter p = (b.rows t').filter q := by
  have hmem : ∀ row, row ∈ (a.rows t).filter p ↔ row ∈ (b.rows t').filter q := by
    intro row
    rw [List.mem_filter, List.mem_filter, mem_rows_iff, mem_rows_iff]
    exact h row
  have hperm : ((a.rows t).filter p).Perm ((b.rows t').filter q) :=
    (List.perm_ext_iff_of_nodup ((a.nodup_rows t).filter p) ((b.nodup_rows t').filter q)).mpr hmem
  refine hperm.eq_of_pairwise (fun row row' _ _ hle hle' => ?_)
    ((a.pairwise_rows t).filter p) ((b.pairwise_rows t').filter q)
  -- no key is before itself
  have hself := KeyOrder.before_trans hle hle'
  rw [KeyOrder.before_irrefl] at hself
  cases hself

/-- Reading one row finds its attributes. -/
@[simp] theorem get?_select_singleton (c : Contents) (table key : String) :
    (c.select table [key]).get? key = c.row? table key := by
  cases hrow : c.row? table key with
  | none => simp [select, hrow, Dict.ofList]
  | some row => simp [select, hrow, Dict.ofList]

end Contents

end ClusterIdentity
