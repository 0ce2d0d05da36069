import ClusterIdentity.Proofs.Interleaving
import ClusterIdentity.Proofs.Table.Rows

/-!
# The history of a row

The record of what was done tells who wrote a row and who deleted it. A row has an orderly history
if nobody ever wrote it while it was there, and only its writer deleted it.

## Main definitions

* `Act.writes`, `Act.erases`: an act wrote or deleted a row
* `lastWriter`: who wrote a row that was not deleted since
* `Orderly`: each write met no row, and each delete was its writer's

## Main statements

* `Orderly.exists_erases`: between two writes of a row there is a delete
* `Orderly.eraser_eq_writer`: a row is deleted by the one who wrote it
-/

namespace ClusterIdentity.Interleaving

/-- Whether an act wrote a row. -/
def Act.writes (table key : String) : Act → Bool
  | .sent (.put t k _ _) reached => reached && decide (t = table ∧ k = key)
  | _ => false

/-- Whether an act deleted a row. -/
def Act.erases (table key : String) : Act → Bool
  | .sent (.delete t k .row _) reached => reached && decide (t = table ∧ k = key)
  | _ => false

variable {ι : Type} {table key : String}

theorem Act.writes_sent_of_not_writesTo {call : StoreCall} (h : ¬ call.WritesTo table key)
    (reached : Bool) : (Act.sent call reached).writes table key = false := by
  cases call with
  | put t k attributes condition =>
    have hne : decide (t = table ∧ k = key) = false := decide_eq_false h
    rw [Act.writes, hne, Bool.and_false]
  | delete t k scope condition => rfl
  | scan t filter limit => rfl
  | batchGet t keys => rfl

theorem Act.erases_sent_of_not_writesTo {call : StoreCall} (h : ¬ call.WritesTo table key)
    (reached : Bool) : (Act.sent call reached).erases table key = false := by
  cases call with
  | delete t k scope condition =>
    cases scope with
    | row =>
      have hne : decide (t = table ∧ k = key) = false := decide_eq_false h
      rw [Act.erases, hne, Bool.and_false]
    | attributes names => rfl
  | put t k attributes condition => rfl
  | scan t filter limit => rfl
  | batchGet t keys => rfl

/-- Who wrote a row last, unless it was deleted since. -/
def lastWriter (table key : String) : List (ι × Act) → Option ι
  | [] => none
  | (i, act) :: earlier =>
    if act.writes table key then some i
    else if act.erases table key then none
    else lastWriter table key earlier

/-- Each write of a row met none, and each delete of a row was by the one who wrote it. -/
def Orderly (table key : String) : List (ι × Act) → Prop
  | [] => True
  | (i, act) :: earlier =>
    Orderly table key earlier ∧
      (act.writes table key = true → lastWriter table key earlier = none) ∧
      (act.erases table key = true → ∀ j, lastWriter table key earlier = some j → j = i)

section Untouched

variable {i : ι} {act : Act} {earlier : List (ι × Act)}
  (hwrites : act.writes table key = false) (herases : act.erases table key = false)

include hwrites herases

theorem lastWriter_cons :
    lastWriter table key ((i, act) :: earlier) = lastWriter table key earlier := by
  rw [lastWriter, hwrites, herases]
  rfl

theorem Orderly.cons (h : Orderly table key earlier) :
    Orderly table key ((i, act) :: earlier) := by
  refine ⟨h, fun hw => ?_, fun he => ?_⟩
  · cases hwrites.symm.trans hw
  · cases herases.symm.trans he

end Untouched

theorem Orderly.of_append {later earlier : List (ι × Act)}
    (h : Orderly table key (later ++ earlier)) : Orderly table key earlier := by
  induction later with
  | nil => exact h
  | cons entry later ih => exact ih h.1

/-- A row that was written and not deleted since has a last writer. -/
theorem lastWriter_ne_none {between earlier : List (ι × Act)} {i : ι} {act : Act}
    (hwrites : act.writes table key = true)
    (hkept : ∀ entry ∈ between, entry.2.erases table key = false) :
    lastWriter table key (between ++ (i, act) :: earlier) ≠ none := by
  induction between with
  | nil =>
    rw [List.nil_append, lastWriter, hwrites]
    exact nofun
  | cons entry between ih =>
    obtain ⟨hentry, hbetween⟩ := List.forall_mem_cons.mp hkept
    obtain ⟨j, act'⟩ := entry
    rw [List.cons_append, lastWriter, show act'.erases table key = false from hentry]
    split
    · exact nofun
    · exact ih hbetween

variable {later between earlier : List (ι × Act)} {i j : ι} {act act' : Act}

/-- Between two writes of a row it is deleted. -/
theorem Orderly.exists_erases
    (h : Orderly table key (later ++ (i, act) :: (between ++ (j, act') :: earlier)))
    (hact : act.writes table key = true) (hact' : act'.writes table key = true) :
    ∃ entry ∈ between, entry.2.erases table key = true := by
  have hnone : lastWriter table key (between ++ (j, act') :: earlier) = none :=
    h.of_append.2.1 hact
  -- otherwise the row would still have a writer when it is written again
  by_cases hkept : ∀ entry ∈ between, entry.2.erases table key = false
  · exact (lastWriter_ne_none hact' hkept hnone).elim
  · simp only [not_forall, Bool.not_eq_false] at hkept
    obtain ⟨entry, hmem, herases⟩ := hkept
    exact ⟨entry, hmem, herases⟩

/-- Whoever deletes a row that was neither written nor deleted in between wrote it. -/
theorem Orderly.eraser_eq_writer
    (h : Orderly table key (later ++ (i, act) :: (between ++ (j, act') :: earlier)))
    (hact : act.erases table key = true) (hact' : act'.writes table key = true)
    (hbetween : ∀ entry ∈ between,
      entry.2.writes table key = false ∧ entry.2.erases table key = false) : j = i := by
  have hlast : lastWriter table key (between ++ (j, act') :: earlier) = some j := by
    clear h
    induction between with
    | nil => rw [List.nil_append, lastWriter, if_pos hact']
    | cons entry between ih =>
      obtain ⟨⟨hwrites, herases⟩, hrest⟩ := List.forall_mem_cons.mp hbetween
      exact (lastWriter_cons hwrites herases).trans (ih hrest)
  exact h.of_append.2.2 hact j hlast

end ClusterIdentity.Interleaving
