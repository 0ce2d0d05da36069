import ClusterIdentity.Proofs.Conduct

/-!
# What readers of scans get

Whatever happens to a scan, its reader gets rows that the filter selects, and all that it asked
for unless it is told of a failure.

## Main statements

* `scanned_of_serve`: what the answer to a scan tells about the table
* `Conduct.Triple.scan`: a scan in a procedure
-/

namespace ClusterIdentity.Interleaving

open Simulation (Verdict)

/-- What a reader asked for and got of some rows. -/
structure Scan (selected : List Row) (limit : Option Nat) (scanned : Scanned) : Prop where
  sublist : scanned.rows.Sublist selected
  complete : scanned.failure = none → scanned.rows = Contents.limited limit selected

theorem sublist_limited (limit : Option Nat) (rows : List Row) :
    (Contents.limited limit rows).Sublist rows := by
  cases limit with
  | none => exact List.Sublist.refl rows
  | some n => exact List.take_sublist n rows

/-- A scan that is cut off is complete if its reader wanted no more than it got. -/
theorem scan_cut (selected : List Row) (limit : Option Nat) (rows : Nat) (error : StoreError) :
    Scan selected limit (Verdict.cut limit error
      ⟨Contents.limited (some (Verdict.cutLimit rows limit)) selected, none⟩) := by
  cases limit with
  | none => exact ⟨List.take_sublist rows selected, nofun⟩
  | some n =>
    show Scan selected (some n) (if n ≤ (selected.take (min n rows)).length
      then ⟨selected.take (min n rows), none⟩ else ⟨selected.take (min n rows), some error⟩)
    split
    · rename_i hle
      refine ⟨List.take_sublist _ selected, fun _ => ?_⟩
      rw [List.length_take] at hle
      have hrows : min n rows = n := by omega
      rw [hrows]
      rfl
    · exact ⟨List.take_sublist _ selected, nofun⟩

/-- What the answer to a scan tells about the table. -/
theorem scanned_of_serve {verdict : Verdict} {table : String} {filter : Filter}
    {limit : Option Nat} {contents : Contents} {scanned : Scanned}
    (h : (verdict.serve steady (.scan table filter limit) contents).1 = .ok scanned) :
    Scan ((contents.rows table).filter filter.selects) limit scanned := by
  cases verdict with
  | pass =>
    cases h
    exact ⟨sublist_limited _ _, fun _ => rfl⟩
  | refuse error => cases h
  | failAfter error => cases h
  | cutScan rows error =>
    cases h
    exact scan_cut _ limit rows error

variable {ι : Type} {C : Conduct ι} {reliable : Prop} {i : ι} {keep pre : Scene ι → Prop}

theorem Conduct.Triple.scan (table : String) (filter : Filter) (limit : Option Nat)
    (hstable : C.Stable i pre) (hkeep : ¬ reliable → ∀ s, C.inv s → pre s → keep s)
    (hmay : ∀ s, C.inv s → pre s → C.may i (.scan table filter limit) s)
    (hproper : ∀ s, C.inv s → pre s → ∀ reached,
      C.Proper i s (s.sent i (.scan table filter limit) reached s.contents))
    (hpre : ∀ s, pre s → ∀ reached,
      pre (s.sent i (.scan table filter limit) reached s.contents)) :
    C.Triple reliable i keep pre (Procedure.call (.scan table filter limit)) fun answer s =>
      pre s ∧ ∀ scanned : Scanned, answer = .ok scanned →
        Scan ((s.contents.rows table).filter filter.selects) limit scanned := by
  refine Conduct.Triple.call hstable hkeep hmay fun s hs hp verdict _ => ?_
  have hcontents : (verdict.serve steady (.scan table filter limit) s.contents).2 = s.contents := by
    cases verdict <;> rfl
  rw [Scene.serve, hcontents]
  exact ⟨hproper s hs hp _, hpre s hp _, fun scanned hanswer => scanned_of_serve hanswer⟩

end ClusterIdentity.Interleaving
