import ClusterIdentity.Table.Call

/-!
# Contents of tables

What a store holds, and what each request does to it when nothing goes wrong.

## Main definitions

* `RowId`: a table name and a key
* `Contents`: the attributes of every row
* `Contents.row?`, `Contents.rows`: views of one row and of one table
* `Contents.perform`: the effect of a request and its answer

## Design notes

Tables need not be created: a table without rows and a table that was never named hold the same
rows and answer every request alike. Hence the contents are one map over pairs of table name and
key, and contents with the same rows are equal.
-/

namespace ClusterIdentity

/-- The place of a row: its table and its key in it. -/
structure RowId where
  table : String
  key : String
  deriving DecidableEq

/-- Rows are ordered by table and within a table by key. -/
instance : KeyOrder RowId where
  before a b :=
    KeyOrder.before a.table b.table || (a.table == b.table && KeyOrder.before a.key b.key)
  before_irrefl a := by simp [KeyOrder.before_irrefl]
  before_trans {a b c} h₁ h₂ := by
    simp only [Bool.or_eq_true, Bool.and_eq_true, beq_iff_eq] at *
    rcases h₁ with h₁ | ⟨e₁, h₁⟩ <;> rcases h₂ with h₂ | ⟨e₂, h₂⟩
    · exact .inl (KeyOrder.before_trans h₁ h₂)
    · exact .inl (e₂ ▸ h₁)
    · exact .inl (e₁ ▸ h₂)
    · exact .inr ⟨e₁.trans e₂, KeyOrder.before_trans h₁ h₂⟩
  eq_of_not_before {a b} h₁ h₂ := by
    obtain ⟨t₁, k₁⟩ := a
    obtain ⟨t₂, k₂⟩ := b
    simp only [Bool.or_eq_false_iff, Bool.and_eq_false_imp, beq_iff_eq] at h₁ h₂
    have ht : t₁ = t₂ := KeyOrder.eq_of_not_before h₁.1 h₂.1
    have hk : k₁ = k₂ := KeyOrder.eq_of_not_before (h₁.2 ht) (h₂.2 ht.symm)
    rw [ht, hk]

/-- The rows of all tables of a store. -/
abbrev Contents := Dict RowId Attributes

namespace Contents

/-- The attributes of a row, if there is such a row. -/
def row? (c : Contents) (table key : String) : Option Attributes := c.get? ⟨table, key⟩

/-- The rows of a table in key order. -/
def rows (c : Contents) (table : String) : List Row :=
  c.toList.filterMap fun e => if e.1.table = table then some ⟨e.1.key, e.2⟩ else none

/-- The contents with a row's attributes set, or the row removed if it is to have none. -/
def setRow (c : Contents) (table key : String) (row : Option Attributes) : Contents :=
  c.set ⟨table, key⟩ row

/-- The row that a write leaves: the old attributes with the new ones set. -/
def written (old : Option Attributes) (attributes : Attributes) : Attributes :=
  (old.getD ∅).overlay attributes

/-- What a delete leaves of a row: nothing of it, or the other attributes if there are any. -/
def remaining (old : Option Attributes) : DeleteScope → Option Attributes
  | .row => none
  | .attributes names =>
    old.bind fun attributes =>
      let rest := attributes.eraseAll names
      if rest.isEmpty then none else some rest

/-- The rows of the table with the given keys. -/
def select (c : Contents) (table : String) (keys : List String) : Rows :=
  Dict.ofList (keys.filterMap fun key => (c.row? table key).map (key, ·))

def limited (limit : Option Nat) (rows : List Row) : List Row :=
  match limit with
  | some n => rows.take n
  | none => rows

def perform (c : Contents) : (call : StoreCall) → call.Reply × Contents
  | .put table key attributes condition =>
    let old := c.row? table key
    if Condition.allows condition old then
      (.written, c.setRow table key (some (written old attributes)))
    else (.conditionFailed, c)
  | .delete table key scope condition =>
    let old := c.row? table key
    if Condition.allows condition old then
      (.deleted (old.map (⟨key, ·⟩)), c.setRow table key (remaining old scope))
    else (.conditionFailed, c)
  | .scan table filter limit =>
    (⟨limited limit ((c.rows table).filter filter.selects), none⟩, c)
  | .batchGet table keys => (c.select table keys, c)

/-- Setting a row changes that row and no other. -/
theorem row?_setRow (c : Contents) (t k t₀ k₀ : String) (row : Option Attributes) :
    (c.setRow t k row).row? t₀ k₀ = if t = t₀ ∧ k = k₀ then row else c.row? t₀ k₀ := by
  simp [setRow, row?, Dict.get?_set]

/-- The rows of a table are the rows that look-up finds in it. -/
theorem mem_rows_iff {c : Contents} {table : String} {row : Row} :
    row ∈ c.rows table ↔ c.row? table row.key = some row.attributes := by
  rw [row?, ← Dict.mem_toList_iff, rows, List.mem_filterMap]
  constructor
  · rintro ⟨⟨⟨t, k⟩, a⟩, hmem, h⟩
    by_cases ht : t = table
    · subst ht
      simp at h
      subst h
      exact hmem
    · simp [ht] at h
  · intro h
    exact ⟨_, h, by simp⟩

/-- The rows of a table are listed by key. -/
theorem pairwise_rows (c : Contents) (table : String) :
    (c.rows table).Pairwise fun row row' => KeyOrder.before row.key row'.key = true := by
  rw [rows, List.pairwise_filterMap]
  refine c.sorted.imp ?_
  rintro ⟨⟨t, k⟩, a⟩ ⟨⟨t', k'⟩, a'⟩ hbefore row hrow row' hrow'
  rw [Option.ite_none_right_eq_some, Option.some.injEq] at hrow hrow'
  obtain ⟨rfl, rfl⟩ := hrow
  obtain ⟨rfl, rfl⟩ := hrow'
  have hkeys : (KeyOrder.before t' t' || (t' == t' && KeyOrder.before k k')) = true := hbefore
  simpa [KeyOrder.before_irrefl] using hkeys

/-- No row is listed twice. -/
theorem nodup_rows (c : Contents) (table : String) : (c.rows table).Nodup := by
  refine (c.pairwise_rows table).imp fun {row row'} hbefore heq => ?_
  rw [heq, KeyOrder.before_irrefl] at hbefore
  cases hbefore

/-- What is read by keys are their rows. -/
theorem get?_select (c : Contents) (table : String) {keys : List String} (hkeys : keys.Nodup)
    (key : String) :
    (c.select table keys).get? key = if key ∈ keys then c.row? table key else none := by
  have hne : (keys.filterMap fun key => (c.row? table key).map (key, ·)).Pairwise
      fun a b => a.1 ≠ b.1 := by
    refine List.pairwise_filterMap.mpr (hkeys.imp fun {k k'} hk row hrow row' hrow' => ?_)
    obtain ⟨_, -, rfl⟩ := Option.map_eq_some_iff.mp hrow
    obtain ⟨_, -, rfl⟩ := Option.map_eq_some_iff.mp hrow'
    exact hk
  refine Option.ext fun attributes => ?_
  rw [select, Dict.get?_ofList_eq_some_iff hne, List.mem_filterMap]
  simp only [Option.map_eq_some_iff, Prod.mk.injEq, Option.ite_none_right_eq_some]
  constructor
  · rintro ⟨_, hmem, _, hrow, rfl, rfl⟩
    exact ⟨hmem, hrow⟩
  · rintro ⟨hmem, hrow⟩
    exact ⟨key, hmem, attributes, hrow, rfl, rfl⟩

end Contents

end ClusterIdentity
