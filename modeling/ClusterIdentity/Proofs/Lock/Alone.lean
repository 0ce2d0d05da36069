import ClusterIdentity.Proofs.Lock.Footprint

/-!
# Locks with nobody else about

What an attempt comes to, and what it leaves in the two rows, when its contender is left alone and
nothing goes wrong.

## Main statements

* `run_acquire_held`, `run_acquire_contended`, `run_acquire_free`: a lone attempt gives way to
  another name in the lock row, then to other names in the choosing row, or it takes the lock
* `run_acquire`: it takes the lock if the choosing row is absent and the lock row is absent or
  names only the contender
* `contents_run_release`, `run_tearDown`: what becomes of the rows afterwards
* `Procedure.Within.row?_run`: rows to which a procedure does not write stay as they are
-/

namespace ClusterIdentity

open Interleaving

/-- A procedure that runs alone leaves every row as it is to which it does not write. -/
theorem Procedure.Within.row?_run {ι α : Type} {P : StoreCall → Prop} {E : Event → Prop}
    {R : α → Prop} {p : Procedure α} (hp : p.Within P E R) {table key : String}
    (hP : ∀ call, P call → ¬ call.WritesTo table key) (i : ι) (now : UInt64) (s : Scene ι) :
    (p.run (Scene.answer i now) s).2.contents.row? table key = s.contents.row? table key := by
  induction p generalizing s with
  | done a => rfl
  | perform op next ih =>
    cases op with
    | call call =>
      exact (ih _ (hp.2 _) _).trans (Contents.row?_perform (hP call hp.1))
    | report event => exact ih () hp.2 _
    | clock => exact ih now (hp now) s
    | pause duration => exact ih () hp s

namespace Locking

variable {locks : LockTable} {k : RowKey} {i : String} (now : UInt64) {s : Scene String}

theorem otherThan_singleton (i : String) :
    LockTable.otherThan i (Dict.singleton i i) = none := by
  have hkeys : (Dict.singleton i i : Attributes).keys = [i] := rfl
  simp [LockTable.otherThan, hkeys]

/-- A row that nobody else is in. -/
def Unshared (i : String) (row : Option Attributes) : Prop :=
  row = none ∨ row = some (Dict.singleton i i)

theorem Unshared.otherThan {row : Option Attributes} (h : Unshared i row) :
    LockTable.otherThan i (row.getD ∅) = none := by
  rcases h with rfl | rfl
  · rfl
  · exact otherThan_singleton i

theorem Unshared.written {row : Option Attributes} (h : Unshared i row) :
    Contents.written row (Dict.singleton i i) = Dict.singleton i i := by
  rcases h with rfl | rfl
  · exact Dict.empty_overlay _
  · refine Dict.ext_get? fun name => ?_
    rw [Contents.written, Option.getD_some, Dict.get?_overlay, Dict.get?_singleton]
    split <;> rfl

/-! ### Single steps -/

theorem run_entries (locks : LockTable) (key : String) :
    (locks.entries key).run (Scene.answer i now) s =
      (.ok ((s.contents.row? locks.name key).getD ∅),
        s.sent i (.batchGet locks.name [key]) true s.contents) := by
  rw [← Contents.get?_select_singleton]
  rfl

theorem run_settle (locks : LockTable) : locks.settle.run (Scene.answer i now) s = ((), s) := by
  rw [LockTable.settle]
  split <;> rfl

theorem run_verify (attempt : Attempt) (hsole : LockTable.isSole attempt.contender
      ((s.contents.row? locks.name attempt.rowKey.lock).getD ∅) = true) :
    ((locks.verify attempt).run (Scene.answer i now) s).1.2 = .ok () ∧
      ((locks.verify attempt).run (Scene.answer i now) s).2.contents = s.contents := by
  have hrun : (locks.verify attempt).run (Scene.answer i now) s =
      ((if LockTable.isSole attempt.contender
          ((s.contents.row? locks.name attempt.rowKey.lock).getD ∅)
        then (attempt.moveTo .locked).bind fun moved => .done (moved, .ok ())
        else .done (attempt, .error (.raceLost attempt.rowKey.lock)) :
          Procedure (Attempt × Except LockError Unit))).run (Scene.answer i now)
        (s.sent i (.batchGet locks.name [attempt.rowKey.lock]) true s.contents) := by
    rw [LockTable.verify, Program.bind_eq_bind, Program.run_bind, run_entries]
    rfl
  rw [hrun, if_pos hsole]
  exact ⟨rfl, rfl⟩

/-- A contender that enters a lock row with no other name is alone in it when it verifies its
claim. -/
theorem run_claim (attempt : Attempt) (hcontender : attempt.contender = i)
    (hnone : LockTable.otherThan i
      ((s.contents.row? locks.name attempt.rowKey.lock).getD ∅) = none) :
    ((locks.claim attempt).run (Scene.answer i now) s).1.2 = .ok () ∧
      ((locks.claim attempt).run (Scene.answer i now) s).2.contents =
        (s.contents.perform
          (.put locks.name attempt.rowKey.lock (Dict.singleton i i) none)).2 := by
  obtain rfl := hcontender.symm
  have hrun : (locks.claim attempt).run (Scene.answer attempt.contender now) s =
      (locks.settle.bind fun _ =>
        locks.verify { attempt with state := .locking, wroteLock := true }).run
          (Scene.answer attempt.contender now)
          (((s.report attempt.contender (.lockMoved attempt.rowKey attempt.contender attempt.state
            .locking))).sent attempt.contender _ true (s.contents.perform (.put locks.name
              attempt.rowKey.lock (Dict.singleton attempt.contender attempt.contender) none)).2) :=
    rfl
  rw [hrun, Program.run_bind, run_settle]
  have hentered : (s.contents.perform (.put locks.name attempt.rowKey.lock
      (Dict.singleton attempt.contender attempt.contender) none)).2.row? locks.name
      attempt.rowKey.lock = some (Contents.written
        (s.contents.row? locks.name attempt.rowKey.lock)
        (Dict.singleton attempt.contender attempt.contender)) := Contents.row?_put ..
  refine run_verify now { attempt with state := .locking, wroteLock := true } ?_
  refine isSole_of_get? (v := attempt.contender) ?_ fun j hj => ?_
  · simp [Scene.sent, hentered, Contents.written, Dict.get?_overlay]
  · simp [Scene.sent, hentered, Contents.written, Dict.get?_overlay, hj.symm,
      otherThan_eq_none_iff.mp hnone j hj]

/-! ### Attempts -/

/-- An attempt enters the choosing row, reads both rows and decides. -/
theorem run_contend (s : Scene String) (i : String) (locks : LockTable) (k : RowKey) :
    ∃ s' : Scene String, s'.contents =
        (s.contents.perform (.put locks.name k.choosing (Dict.singleton i i) none)).2 ∧
      (locks.contend (Attempt.start k i)).run (Scene.answer i now) s =
        (locks.decide ⟨k, i, .choosing, false, false⟩
          (Contents.written (s.contents.row? locks.name k.choosing) (Dict.singleton i i))
          ((s.contents.row? locks.name k.lock).getD ∅)).run (Scene.answer i now) s' := by
  obtain ⟨entered, hentered⟩ : ∃ s', s' =
      (((s.report i (.lockMoved k i .idle .choosing)).sent i
          (.put locks.name k.choosing (Dict.singleton i i) none) true
          (s.contents.perform (.put locks.name k.choosing (Dict.singleton i i) none)).2)) :=
    ⟨_, rfl⟩
  have hcontents : entered.contents =
      (s.contents.perform (.put locks.name k.choosing (Dict.singleton i i) none)).2 := by
    rw [hentered]
    rfl
  refine ⟨(entered.sent i (.batchGet locks.name [k.choosing]) true entered.contents).sent i
    (.batchGet locks.name [k.lock]) true entered.contents, hcontents, ?_⟩
  have hrun : (locks.contend (Attempt.start k i)).run (Scene.answer i now) s =
      (locks.decide ⟨k, i, .choosing, false, false⟩
        (((entered.contents.select locks.name [k.choosing]).get? k.choosing).getD ∅)
        (((entered.contents.select locks.name [k.lock]).get? k.lock).getD ∅)).run
        (Scene.answer i now)
        ((entered.sent i (.batchGet locks.name [k.choosing]) true entered.contents).sent i
          (.batchGet locks.name [k.lock]) true entered.contents) := by
    rw [hentered]
    rfl
  have hlock : entered.contents.row? locks.name k.lock = s.contents.row? locks.name k.lock := by
    rw [hcontents]
    exact Contents.row?_perform
      (StoreCall.not_writesTo_put (RowKey.lock_ne_choosing k k).symm _ _)
  rw [hrun, Contents.get?_select_singleton, Contents.get?_select_singleton, hlock, hcontents,
    Contents.row?_put, Option.getD_some]

/-- An attempt that is turned away before it claims the lock leaves the choosing row again. -/
theorem run_acquire_of_refused (attempt : Attempt) {error : LockError} {s' : Scene String}
    (hcontend : (locks.contend (Attempt.start k i)).run (Scene.answer i now) s =
      ((attempt, .error error), s'))
    (hfor : IsFor k i attempt) (hbegun : attempt.state ≠ .idle)
    (hwrote : attempt.wroteLock = false) :
    ((locks.acquire k i).run (Scene.answer i now) s).1 = .error error ∧
      ((locks.acquire k i).run (Scene.answer i now) s).2.contents =
        (s'.contents.perform (Contents.deleteAttribute locks.name k.choosing i i)).2 := by
  obtain ⟨rfl, rfl⟩ := hfor
  have hcleanUp : locks.cleanUp attempt error =
      (locks.withdraw attempt.rowKey.choosing attempt.contender error).bind fun _ => .done () := by
    rw [LockTable.cleanUp, LockTable.withdrawChoosing, if_neg hbegun, LockTable.withdrawLock,
      hwrote]
    rfl
  have hrun : (locks.acquire attempt.rowKey attempt.contender).run
      (Scene.answer attempt.contender now) s =
      ((Procedure.report (.lockRefused attempt.rowKey attempt.contender attempt.state
        error)).bind fun _ => (locks.cleanUp attempt error).bind fun _ =>
          (attempt.moveTo .failed).bind fun _ => .done (.error error)).run
        (Scene.answer attempt.contender now) s' := by
    rw [LockTable.acquire, Program.bind_eq_bind, Program.run_bind, hcontend]
    rfl
  rw [hrun, hcleanUp]
  exact ⟨rfl, rfl⟩

/-- An attempt gives way to another name in the lock row. -/
theorem run_acquire_held {holder : String}
    (hlock : LockTable.otherThan i ((s.contents.row? locks.name k.lock).getD ∅) = some holder) :
    ((locks.acquire k i).run (Scene.answer i now) s).1 = .error (.heldByOther k.lock holder) ∧
      ((locks.acquire k i).run (Scene.answer i now) s).2.contents =
        ((s.contents.perform (.put locks.name k.choosing (Dict.singleton i i) none)).2.perform
          (Contents.deleteAttribute locks.name k.choosing i i)).2 := by
  obtain ⟨s', hcontents, hcontend⟩ := run_contend now s i locks k
  rw [LockTable.decide, hlock] at hcontend
  rw [← hcontents]
  have hbegun : LockState.choosing ≠ .idle := by decide
  exact run_acquire_of_refused now ⟨k, i, .choosing, false, false⟩ hcontend ⟨rfl, rfl⟩ hbegun rfl

/-- If there is none, it gives way to other names in the choosing row. -/
theorem run_acquire_contended
    (hlock : LockTable.otherThan i ((s.contents.row? locks.name k.lock).getD ∅) = none)
    (hchoosing : 1 < (Contents.written (s.contents.row? locks.name k.choosing)
      (Dict.singleton i i)).size) :
    ((locks.acquire k i).run (Scene.answer i now) s).1 = .error (.contention k.choosing
        (Contents.written (s.contents.row? locks.name k.choosing) (Dict.singleton i i)).size) ∧
      ((locks.acquire k i).run (Scene.answer i now) s).2.contents =
        ((s.contents.perform (.put locks.name k.choosing (Dict.singleton i i) none)).2.perform
          (Contents.deleteAttribute locks.name k.choosing i i)).2 := by
  obtain ⟨s', hcontents, hcontend⟩ := run_contend now s i locks k
  rw [LockTable.decide, hlock] at hcontend
  simp only [hchoosing, if_true] at hcontend
  have hcontents' : (s'.report i (.lockMoved k i .choosing .contending)).contents = _ := hcontents
  rw [← hcontents']
  have hbegun : LockState.contending ≠ .idle := by decide
  exact run_acquire_of_refused now ⟨k, i, .contending, false, false⟩ hcontend ⟨rfl, rfl⟩ hbegun rfl

/-- If there is none either, it takes the lock. -/
theorem run_acquire_free
    (hlock : LockTable.otherThan i ((s.contents.row? locks.name k.lock).getD ∅) = none)
    (hchoosing : ¬ 1 < (Contents.written (s.contents.row? locks.name k.choosing)
      (Dict.singleton i i)).size) :
    ((locks.acquire k i).run (Scene.answer i now) s).1 = .ok ⟨k, i⟩ ∧
      ((locks.acquire k i).run (Scene.answer i now) s).2.contents =
        ((s.contents.perform (.put locks.name k.choosing (Dict.singleton i i) none)).2.perform
          (.put locks.name k.lock (Dict.singleton i i) none)).2 := by
  obtain ⟨s', hcontents, hcontend⟩ := run_contend now s i locks k
  have hlock' : LockTable.otherThan i ((s'.contents.row? locks.name k.lock).getD ∅) = none := by
    rw [hcontents, Contents.row?_perform
      (StoreCall.not_writesTo_put (RowKey.lock_ne_choosing k k).symm _ _)]
    exact hlock
  rw [LockTable.decide, hlock] at hcontend
  simp only [hchoosing, if_false] at hcontend
  have hclaimed := run_claim now ⟨k, i, .choosing, false,
    ((s.contents.row? locks.name k.lock).getD ∅).contains i⟩ rfl hlock'
  rw [← hcontend, hcontents] at hclaimed
  rw [LockTable.acquire, Program.bind_eq_bind, Program.run_bind]
  generalize (locks.contend (Attempt.start k i)).run (Scene.answer i now) s = ended at hclaimed
  obtain ⟨⟨attempt, outcome⟩, s''⟩ := ended
  obtain ⟨rfl, hcontents'⟩ := hclaimed
  exact ⟨rfl, hcontents'⟩

/-- An attempt takes the lock if nobody else is in either row. -/
theorem run_acquire (hchoosing : s.contents.row? locks.name k.choosing = none)
    (hlock : Unshared i (s.contents.row? locks.name k.lock)) :
    ((locks.acquire k i).run (Scene.answer i now) s).1 = .ok ⟨k, i⟩ ∧
      ((locks.acquire k i).run (Scene.answer i now) s).2.contents =
        ((s.contents.perform (.put locks.name k.choosing (Dict.singleton i i) none)).2.perform
          (.put locks.name k.lock (Dict.singleton i i) none)).2 := by
  apply run_acquire_free now hlock.otherThan
  rw [hchoosing, Contents.written, Option.getD_none, Dict.empty_overlay]
  exact Nat.lt_irrefl 1

/-! ### Giving locks up -/

/-- Releasing removes the contender's entry from the choosing row. -/
theorem contents_run_release (locks : LockTable) (k : RowKey) (s : Scene String) (i : String) :
    ((locks.release k i).run (Scene.answer i now) s).2.contents =
      (s.contents.perform (Contents.deleteAttribute locks.name k.choosing i i)).2 := by
  have hleave : (locks.leave k.choosing i).run (Scene.answer i now) s =
      (.ok (s.contents.perform (Contents.deleteAttribute locks.name k.choosing i i)).1,
        s.sent i (Contents.deleteAttribute locks.name k.choosing i i) true
          (s.contents.perform (Contents.deleteAttribute locks.name k.choosing i i)).2) := rfl
  rw [LockTable.release, Program.bind_eq_bind, Program.run_bind, hleave]
  generalize s.contents.perform (Contents.deleteAttribute locks.name k.choosing i i) = after
  obtain ⟨outcome, contents⟩ := after
  cases outcome with
  | deleted old => rfl
  | conditionFailed => rfl

theorem run_tearDown (locks : LockTable) (hold : Hold) (s : Scene String) (i : String) :
    ((locks.tearDown hold).run (Scene.answer i now) s).1 = .ok () := by
  have hlock : (Procedure.call (.delete locks.name hold.rowKey.lock .row
      (some (.equals hold.contender hold.contender)))).run (Scene.answer i now) s =
      s.serve i .pass (.delete locks.name hold.rowKey.lock .row
        (some (.equals hold.contender hold.contender))) := rfl
  rw [LockTable.tearDown, Program.bind_eq_bind, Program.run_bind, hlock, Scene.serve,
    Simulation.Verdict.serve, steady]
  generalize s.contents.perform (.delete locks.name hold.rowKey.lock .row
    (some (.equals hold.contender hold.contender))) = after
  obtain ⟨outcome, contents⟩ := after
  cases outcome with
  | deleted old => rfl
  | conditionFailed => rfl

end Locking

end ClusterIdentity
