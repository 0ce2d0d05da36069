import ClusterIdentity.Proofs.Claim.Roster
import ClusterIdentity.Proofs.Identity.Records
import ClusterIdentity.Proofs.Schedules

/-!
# Two tables in one

Records and the rows that guard them have keys of different kinds, and a row of entries neither
holds a record nor is selected by a query for an instance, whatever the machines are called that
made the entries. So a table that has the rows of both tables answers what registries ask of it
as the two tables would.

## Main definitions

* `KeptIn`: which of two tables the row with a key is kept in
* `Merged`: a table has the rows of two others
* `Counterparts`, `AnsweredAlike`, `sharing`: how the requests to two tables and their answers
  correspond to those of a shared one

## Main statements

* `Merged.setRow`: rows are set in their own table and in the shared one
* `Merged.filter_ofInstance`, `Merged.recordsOf_filter_rows`: what scans find

## Design notes

Which rows are selected by a query for an application may differ, since a machine may be called
like a column and like an application at once. Such a row is skipped with a warning.
-/

namespace ClusterIdentity.Claiming

open Interleaving RowKey Roster

/-! ### Two tables and one -/

/-- Whether the row with a key is kept in a table, if there are two: a row that guards a row key in
that of the locks, and any other one in that of the tokens. -/
inductive KeptIn (tokens locks : String) : (table key : String) → Prop
  | record {key : String} (h : Unguarding key) : KeptIn tokens locks tokens key
  | guard {k : RowKey} {key : String} (h : k.GuardedBy key) : KeptIn tokens locks locks key

variable {tokens locks shared : String}

theorem exists_keptIn (tokens locks key : String) : ∃ table, KeptIn tokens locks table key := by
  by_cases h : ∃ k : RowKey, k.GuardedBy key
  · obtain ⟨k, hk⟩ := h
    exact ⟨locks, .guard hk⟩
  · exact ⟨tokens, .record fun k hk => h ⟨k, hk⟩⟩

/-- A row is kept in one table. -/
theorem KeptIn.unique {table table' key : String} (h : KeptIn tokens locks table key)
    (h' : KeptIn tokens locks table' key) : table = table' := by
  cases h with
  | record hkey =>
    cases h' with
    | record => rfl
    | guard hk => exact (hkey _ hk).elim
  | guard hk =>
    cases h' with
    | record hkey => exact (hkey _ hk).elim
    | guard => rfl

/-- Entries may be added to entries, and some may be removed. -/
theorem onlyEntered_written {old : Option Attributes} {attributes : Attributes}
    (hold : ∀ row, old = some row → OnlyEntered row) (h : OnlyEntered attributes) :
    OnlyEntered (Contents.written old attributes) := by
  intro name value hvalue
  rw [Contents.written, Dict.get?_overlay, Option.or_eq_some_iff] at hvalue
  rcases hvalue with hnew | ⟨-, hprevious⟩
  · exact h name value hnew
  · cases old with
    | none => cases hprevious
    | some row => exact hold row rfl name value hprevious

theorem onlyEntered_remaining {old : Option Attributes} {scope : DeleteScope} {row : Attributes}
    (hold : ∀ row, old = some row → OnlyEntered row)
    (h : Contents.remaining old scope = some row) : OnlyEntered row := by
  cases scope with
  | row => cases h
  | attributes names =>
    obtain ⟨before, rfl, hrest⟩ := Option.bind_eq_some_iff.mp h
    simp only [] at hrest
    split at hrest
    · cases hrest
    · cases hrest
      intro name value hvalue
      rw [Dict.get?_eraseAll] at hvalue
      split at hvalue
      · cases hvalue
      · exact hold before rfl name value hvalue

/-- Whether a table of one store has the rows of two tables of another one, where each row is in the
table that it belongs to and rows that guard have nothing but entries. -/
structure Merged (tokens locks shared : String) (a b : Contents) : Prop where
  same : ∀ {table key : String}, KeptIn tokens locks table key →
    b.row? shared key = a.row? table key
  kept : ∀ {table key : String} {row : Attributes}, table = tokens ∨ table = locks →
    a.row? table key = some row → KeptIn tokens locks table key
  entered : ∀ {k : RowKey} {key : String} {row : Attributes}, k.GuardedBy key →
    a.row? locks key = some row → OnlyEntered row

namespace Merged

variable {a b : Contents}

theorem empty (tokens locks shared : String) : Merged tokens locks shared ∅ ∅ where
  same := fun _ => rfl
  kept := nofun
  entered := nofun

/-- Whoever sets a row in its table sets it in the shared one. -/
theorem setRow (h : Merged tokens locks shared a b) {table key : String}
    (hkept : KeptIn tokens locks table key) {row? : Option Attributes}
    (hentered : ∀ k : RowKey, k.GuardedBy key → ∀ row, row? = some row → OnlyEntered row) :
    Merged tokens locks shared (a.setRow table key row?) (b.setRow shared key row?) where
  same := by
    intro table' key' hkept'
    rw [Contents.row?_setRow, Contents.row?_setRow]
    by_cases hkey : key = key'
    · subst hkey
      rw [if_pos ⟨rfl, rfl⟩, if_pos ⟨hkept.unique hkept', rfl⟩]
    · rw [if_neg fun heq => hkey heq.2, if_neg fun heq => hkey heq.2]
      exact h.same hkept'
  kept := by
    intro table' key' row htable hrow
    rw [Contents.row?_setRow] at hrow
    split at hrow
    · rename_i heq
      obtain ⟨rfl, rfl⟩ := heq
      exact hkept
    · exact h.kept htable hrow
  entered := by
    intro k key' row hk hrow
    rw [Contents.row?_setRow] at hrow
    split at hrow
    · rename_i heq
      obtain ⟨-, rfl⟩ := heq
      exact hentered k hk row hrow
    · exact h.entered hk hrow

/-- No row is kept where it does not belong. -/
theorem row?_eq_none (h : Merged tokens locks shared a b) {table key : String}
    (hkept : KeptIn tokens locks table key) {other : String}
    (hother : other = tokens ∨ other = locks) (hne : other ≠ table) :
    a.row? other key = none := by
  cases hrow : a.row? other key with
  | none => rfl
  | some row => exact (hne ((h.kept hother hrow).unique hkept)).elim

/-- The shared table is the union of the two tables, which have no key in common. -/
theorem disjoint_union (h : Merged tokens locks shared a b) (htables : tokens ≠ locks)
    (key : String) : b.row? shared key = (a.row? tokens key).or (a.row? locks key) ∧
      (a.row? tokens key = none ∨ a.row? locks key = none) := by
  obtain ⟨table, hkept⟩ := exists_keptIn tokens locks key
  have hsame := h.same hkept
  cases hkept with
  | record hkey =>
    have hlocks := h.row?_eq_none (.record hkey) (.inr rfl) htables.symm
    exact ⟨by rw [hsame, hlocks, Option.or_none], .inr hlocks⟩
  | guard hk =>
    have htokens := h.row?_eq_none (.guard hk) (.inl rfl) htables
    exact ⟨by rw [hsame, htokens, Option.none_or], .inl htokens⟩

/-- The row that a guarding key names in the table that keeps it has nothing but entries. -/
theorem entered_of_keptIn (h : Merged tokens locks shared a b) {table key : String}
    (hkept : KeptIn tokens locks table key) {k : RowKey} (hk : k.GuardedBy key) (row : Attributes)
    (hrow : a.row? table key = some row) : OnlyEntered row := by
  have htable : table = locks := hkept.unique (.guard hk)
  subst htable
  exact h.entered hk hrow

/-- A row of the shared table is one of the table of tokens, or it has nothing but entries. -/
theorem tokens_or_entered (h : Merged tokens locks shared a b) {key : String} {row : Attributes}
    (hrow : b.row? shared key = some row) :
    a.row? tokens key = some row ∨ OnlyEntered row := by
  obtain ⟨table, hkept⟩ := exists_keptIn tokens locks key
  have hsame := (h.same hkept).symm.trans hrow
  cases hkept with
  | record => exact .inl hsame
  | guard hk => exact .inr (h.entered hk hsame)

/-- A scan that is not interested in entries finds the same rows, whether or not the table of tokens
is shared. -/
theorem filter_rows (h : Merged tokens locks shared a b) {p : Row → Bool}
    (hp : ∀ row : Row, OnlyEntered row.attributes → p row = false) :
    (a.rows tokens).filter p = (b.rows shared).filter p := by
  refine Contents.filter_rows_eq fun row => ⟨fun ⟨hrow, hselected⟩ => ?_, ?_⟩
  · exact ⟨(h.same (h.kept (.inl rfl) hrow)).trans hrow, hselected⟩
  · rintro ⟨hrow, hselected⟩
    rcases h.tokens_or_entered hrow with htokens | hentered
    · exact ⟨htokens, hselected⟩
    · rw [hp row hentered] at hselected
      cases hselected

theorem filter_ofInstance (h : Merged tokens locks shared a b) (application : String)
    (slot : UInt32) (datacenter rack : String) :
    (a.rows tokens).filter (ofInstance application slot datacenter rack).selects =
      (b.rows shared).filter (ofInstance application slot datacenter rack).selects :=
  h.filter_rows fun _ => not_ofInstance_selects

/-- A query for an instance selects no row that guards. -/
theorem unguarding_of_selected (h : Merged tokens locks shared a b) {application : String}
    {slot : UInt32} {datacenter rack : String} {row : Row}
    (hrow : row ∈ (a.rows tokens).filter (ofInstance application slot datacenter rack).selects) :
    Unguarding row.key := by
  obtain ⟨hmem, hselected⟩ := List.mem_filter.mp hrow
  have htokens := Contents.mem_rows_iff.mp hmem
  intro k hk
  have hentered := h.entered_of_keptIn (h.kept (.inl rfl) htokens) hk _ htokens
  rw [not_ofInstance_selects hentered] at hselected
  cases hselected

/-- Rows of entries may be scanned, but they hold no records. -/
theorem recordsOf_filter_rows (h : Merged tokens locks shared a b) (p : Row → Bool) :
    recordsOf ((a.rows tokens).filter p) = recordsOf ((b.rows shared).filter p) := by
  have hrows : (a.rows tokens).filter (fun row => (Descriptor.ofRow row).toOption.isSome && p row) =
      (b.rows shared).filter fun row => (Descriptor.ofRow row).toOption.isSome && p row := by
    refine h.filter_rows fun row hentered => ?_
    cases hrecord : Descriptor.ofRow row with
    | ok record => exact (Descriptor.ofRow_ne_ok_of_onlyEntered hentered record hrecord).elim
    | error e => rfl
  rw [← recordsOf_filter ((a.rows tokens).filter p), List.filter_filter, hrows,
    ← List.filter_filter, recordsOf_filter]

end Merged

/-! ### Requests -/

/-- Which requests to one of two tables stand for which to a shared one. -/
inductive Counterparts (tokens locks shared : String) : StoreCall → StoreCall → Prop
  | put {table key : String} (h : KeptIn tokens locks table key) (attributes : Attributes)
    (hentered : ∀ k : RowKey, k.GuardedBy key → OnlyEntered attributes) :
    Counterparts tokens locks shared (.put table key attributes none)
      (.put shared key attributes none)
  | delete {table key : String} (h : KeptIn tokens locks table key) (scope : DeleteScope)
    (condition : Option Condition) :
    Counterparts tokens locks shared (.delete table key scope condition)
      (.delete shared key scope condition)
  | read {table key : String} (h : KeptIn tokens locks table key) :
    Counterparts tokens locks shared (.batchGet table [key]) (.batchGet shared [key])
  | instances (application : String) :
    Counterparts tokens locks shared (.scan tokens (ofApplication application) none)
      (.scan shared (ofApplication application) none)
  | key? (application : String) (slot : UInt32) (datacenter rack : String) :
    Counterparts tokens locks shared
      (.scan tokens (ofInstance application slot datacenter rack) (some 1))
      (.scan shared (ofInstance application slot datacenter rack) (some 1))

/-- Counterparts are of the same kind and for the same key. -/
theorem Counterparts.kind_key? {call call' : StoreCall}
    (h : Counterparts tokens locks shared call call') :
    (call'.kind, call'.key?) = (call.kind, call.key?) := by
  cases h <;> rfl

/-- When requests are answered alike: scans without a limit if the same records are found, and
all other ones if the answers are equal. A limited scan finds no row that guards. -/
def AnsweredAlike : (call call' : StoreCall) → call.Reply → call'.Reply → Prop
  | .put .., .put .., outcome, outcome' => outcome = outcome'
  | .delete .., .delete .., outcome, outcome' => outcome = outcome'
  | .batchGet .., .batchGet .., rows, rows' => rows = rows'
  | .scan _ _ none, .scan _ _ none, (scanned : Scanned), (scanned' : Scanned) =>
    recordsOf scanned.rows = recordsOf scanned'.rows ∧ scanned.failure = scanned'.failure
  | .scan _ _ (some _), .scan _ _ (some _), (scanned : Scanned), (scanned' : Scanned) =>
    scanned = scanned' ∧ ∀ row ∈ scanned.rows, Unguarding row.key
  | _, _, _, _ => False

/-- How what is asked of two tables and what they hold corresponds to what is asked of a shared
table and what it holds. -/
def sharing (tokens locks shared : String) : Pairing where
  calls := Counterparts tokens locks shared
  answers := AnsweredAlike
  contents := Merged tokens locks shared
  served := by
    intro call call' a b hcall h
    cases hcall with
    | put hkept attributes hentered =>
      refine ⟨rfl, ?_⟩
      simp only [Contents.perform, Condition.allows, if_true, h.same hkept]
      refine h.setRow hkept fun k hk row hrow => ?_
      cases hrow
      exact onlyEntered_written (h.entered_of_keptIn hkept hk) (hentered k hk)
    | delete hkept scope condition =>
      simp only [Contents.perform, h.same hkept]
      split
      · exact ⟨rfl, h.setRow hkept fun k hk row hrow =>
          onlyEntered_remaining (h.entered_of_keptIn hkept hk) hrow⟩
      · exact ⟨rfl, h⟩
    | read hkept =>
      refine ⟨?_, h⟩
      simp only [Contents.perform, Contents.select, List.filterMap, h.same hkept]
      rfl
    | instances application => exact ⟨⟨h.recordsOf_filter_rows _, rfl⟩, h⟩
    | key? application slot datacenter rack =>
      refine ⟨⟨?_, fun row hrow => ?_⟩, h⟩
      · simp only [Contents.perform, h.filter_ofInstance]
      · exact h.unguarding_of_selected (List.mem_of_mem_take hrow)

end ClusterIdentity.Claiming
