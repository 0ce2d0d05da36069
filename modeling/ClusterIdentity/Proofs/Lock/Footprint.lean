import ClusterIdentity.Proofs.Lock.Attempts

/-!
# Footprints of attempts

An attempt at the lock of a row key writes to the two rows of that row key only, makes no entry but
the contender's own, and reports having taken that lock only. So it has nothing to do with the lock
of any other row key.

## Main definitions

* `ForLock`: a request writes at most to the rows of a row key
* `OwnCall`: it does, and enters nobody but a contender
* `DeletesNoRow`: a request deletes no row, at most attributes of one
* `MovesOnly`: an event is not that an attempt at another lock went on
* `TakesOnly`, `TakesNone`: an event is at most that the lock of a row key was taken, or not that

## Main statements

* `within_acquire`, `within_release`, `within_tearDown`
* `triple_of_forLock`: attempts at one lock keep to the conduct of another
-/

namespace ClusterIdentity.Locking

open Interleaving

/-- Whether a request writes to no row but the two of a row key. -/
def ForLock (table : String) (k : RowKey) (call : StoreCall) : Prop :=
  ∀ t key, call.WritesTo t key → t = table ∧ k.GuardedBy key

/-- Whether a request is for a lock and makes no entry but that of a contender. -/
def OwnCall (table : String) (k : RowKey) (i : String) : StoreCall → Prop
  | .put t key attributes condition =>
    t = table ∧ k.GuardedBy key ∧ attributes = Dict.singleton i i ∧ condition = none
  | .delete t key _ _ => t = table ∧ k.GuardedBy key
  | _ => True

/-- Whether a request is not to delete a row. -/
def DeletesNoRow : StoreCall → Prop
  | .delete _ _ .row _ => False
  | _ => True

/-- Whether an event is not that an attempt at the lock of another row key went on. -/
def MovesOnly (k : RowKey) : Event → Prop
  | .lockMoved rowKey _ _ _ => rowKey = k
  | _ => True

/-- Whether an event is not that the lock of another row key was taken. -/
def TakesOnly (k : RowKey) (event : Event) : Prop :=
  ∀ k', (Act.reported event).takes k' = true → k' = k

/-- Whether an event is not that a lock was taken. -/
def TakesNone (event : Event) : Prop := ∀ k, (Act.reported event).takes k = false

variable {k : RowKey} {i : String} {locks : LockTable}

theorem OwnCall.forLock {table : String} {call : StoreCall} (h : OwnCall table k i call) :
    ForLock table k call := by
  intro t key hw
  cases call with
  | put t' key' attributes condition => exact ⟨hw.1 ▸ h.1, hw.2 ▸ h.2.1⟩
  | delete t' key' scope condition => exact ⟨hw.1 ▸ h.1, hw.2 ▸ h.2⟩
  | scan t' filter limit => exact hw.elim
  | batchGet t' keys => exact hw.elim

/-! ### Requests and events of an attempt -/

/-- What an attempt at a lock may send. -/
def AttemptCall (table : String) (k : RowKey) (i : String) (call : StoreCall) : Prop :=
  OwnCall table k i call ∧ DeletesNoRow call

/-- Whether an attempt is that of a contender at the lock of a row key. -/
def IsFor (k : RowKey) (i : String) (attempt : Attempt) : Prop :=
  attempt.rowKey = k ∧ attempt.contender = i

theorem within_moveTo {attempt : Attempt} (hattempt : IsFor k i attempt) (next : LockState)
    {P : StoreCall → Prop} : (attempt.moveTo next).Within P (MovesOnly k) (IsFor k i) :=
  ⟨hattempt.1, hattempt⟩

theorem within_enter {key : String} (hkey : k.GuardedBy key) (i : String) :
    (locks.enter key i).Within (AttemptCall locks.name k i) (MovesOnly k) fun _ => True := by
  refine Procedure.Within.bind
    (Procedure.within_call ⟨⟨rfl, hkey, rfl, rfl⟩, trivial⟩) fun answer _ => ?_
  cases answer <;> trivial

theorem within_entries (key : String) :
    (locks.entries key).Within (AttemptCall locks.name k i) (MovesOnly k) fun _ => True := by
  refine Procedure.Within.bind (Procedure.within_call ⟨trivial, trivial⟩) fun answer _ => ?_
  cases answer <;> trivial

theorem within_leave {key : String} (hkey : k.GuardedBy key) (i : String) :
    (locks.leave key i).Within (AttemptCall locks.name k i) (MovesOnly k) fun _ => True :=
  Procedure.within_call ⟨⟨rfl, hkey⟩, trivial⟩

theorem within_withdraw {key : String} (hkey : k.GuardedBy key) (i : String)
    (error : LockError) :
    (locks.withdraw key i error).Within (AttemptCall locks.name k i) (MovesOnly k)
      fun _ => True := by
  refine (within_leave hkey i).bind fun answer _ => ?_
  cases answer with
  | ok outcome => trivial
  | error cause => exact Procedure.within_report trivial

section Attempt

variable {attempt : Attempt} (hattempt : IsFor k i attempt)

include hattempt

theorem within_verify : (locks.verify attempt).Within (AttemptCall locks.name k i) (MovesOnly k)
    fun ended => IsFor k i ended.1 := by
  refine (within_entries _).bind fun answer _ => ?_
  cases answer with
  | error e => exact hattempt
  | ok holders =>
    show Procedure.Within _ _ _ (if LockTable.isSole attempt.contender holders then _ else _)
    split
    · exact (within_moveTo hattempt .locked).bind fun moved hmoved => hmoved
    · exact hattempt

theorem within_claim : (locks.claim attempt).Within (AttemptCall locks.name k i) (MovesOnly k)
    fun ended => IsFor k i ended.1 := by
  refine (within_moveTo hattempt .locking).bind fun moved hmoved => ?_
  obtain ⟨rfl, rfl⟩ := hmoved
  refine (within_enter moved.rowKey.guardedBy_lock _).bind fun answer _ => ?_
  cases answer with
  | error e => exact ⟨rfl, rfl⟩
  | ok _ =>
    have hsettle : locks.settle.Within (AttemptCall locks.name moved.rowKey moved.contender)
        (MovesOnly moved.rowKey) fun _ => True := by
      rw [LockTable.settle]
      split <;> trivial
    exact hsettle.bind fun _ _ => within_verify ⟨rfl, rfl⟩

theorem within_decide (choosing holders : Attributes) :
    (locks.decide attempt choosing holders).Within (AttemptCall locks.name k i) (MovesOnly k)
      fun ended => IsFor k i ended.1 := by
  rw [LockTable.decide]
  split
  · exact hattempt
  · split
    · exact (within_moveTo hattempt .contending).bind fun moved hmoved => hmoved
    · exact within_claim hattempt

theorem within_contend : (locks.contend attempt).Within (AttemptCall locks.name k i) (MovesOnly k)
    fun ended => IsFor k i ended.1 := by
  refine (within_moveTo hattempt .choosing).bind fun moved hmoved => ?_
  obtain ⟨rfl, rfl⟩ := hmoved
  refine (within_enter moved.rowKey.guardedBy_choosing _).bind fun answer _ => ?_
  cases answer with
  | error e => exact ⟨rfl, rfl⟩
  | ok _ =>
    refine (within_entries _).bind fun answer _ => ?_
    cases answer with
    | error e => exact ⟨rfl, rfl⟩
    | ok choosing =>
      refine (within_entries _).bind fun answer _ => ?_
      cases answer with
      | error e => exact ⟨rfl, rfl⟩
      | ok holders => exact within_decide ⟨rfl, rfl⟩ choosing holders

theorem within_cleanUp (error : LockError) :
    (locks.cleanUp attempt error).Within (AttemptCall locks.name k i) (MovesOnly k)
      fun _ => True := by
  obtain ⟨rfl, rfl⟩ := hattempt
  have hchoosing : (locks.withdrawChoosing attempt error).Within
      (AttemptCall locks.name attempt.rowKey attempt.contender) (MovesOnly attempt.rowKey)
      fun _ => True := by
    rw [LockTable.withdrawChoosing]
    split
    · trivial
    · exact within_withdraw attempt.rowKey.guardedBy_choosing _ _
  refine hchoosing.bind fun _ _ => ?_
  rw [LockTable.withdrawLock]
  split
  · exact within_withdraw attempt.rowKey.guardedBy_lock _ _
  · trivial

end Attempt

/-! ### Calls -/

theorem within_acquire (locks : LockTable) (k : RowKey) (i : String) :
    (locks.acquire k i).Within (AttemptCall locks.name k i) (MovesOnly k)
      fun answer => ∀ hold, answer = .ok hold → hold = ⟨k, i⟩ := by
  refine Procedure.Within.bind (within_contend ⟨rfl, rfl⟩) fun ended hended => ?_
  obtain ⟨attempt, outcome⟩ := ended
  cases outcome with
  | ok _ =>
    refine (Procedure.within_report trivial).bind fun _ _ => ?_
    intro hold hhold
    cases hhold
    rfl
  | error error =>
    refine (Procedure.within_report trivial).bind fun _ _ => ?_
    refine (within_cleanUp hended error).bind fun _ _ => ?_
    exact (within_moveTo hended .failed).bind fun _ _ => nofun

theorem within_release (locks : LockTable) (k : RowKey) (i : String) :
    (locks.release k i).Within (AttemptCall locks.name k i) (MovesOnly k) fun _ => True := by
  refine (within_leave k.guardedBy_choosing i).bind fun answer _ => ?_
  cases answer with
  | error e => trivial
  | ok outcome =>
    cases outcome with
    | conditionFailed => exact (Procedure.within_report trivial).bind fun _ _ => trivial
    | deleted old =>
      refine Procedure.Within.bind (within_moveTo ⟨rfl, rfl⟩ .released) fun _ _ => ?_
      exact (Procedure.within_report trivial).bind fun _ _ => trivial

theorem within_tearDown (locks : LockTable) (hold : Hold) :
    (locks.tearDown hold).Within (OwnCall locks.name hold.rowKey hold.contender) TakesNone
      fun _ => True := by
  refine Procedure.Within.bind (Procedure.within_call ⟨rfl, hold.rowKey.guardedBy_lock⟩)
    fun answer _ => ?_
  cases answer with
  | error e => trivial
  | ok outcome =>
    have hlost : (LockTable.reportLost hold outcome).Within
        (OwnCall locks.name hold.rowKey hold.contender) TakesNone fun _ => True := by
      cases outcome with
      | deleted old => trivial
      | conditionFailed => exact Procedure.within_report fun _ => rfl
    refine hlost.bind fun _ _ => ?_
    refine Procedure.Within.bind (Procedure.within_call ⟨rfl, hold.rowKey.guardedBy_choosing⟩)
      fun answer _ => ?_
    cases answer <;> trivial

/-! ### Other locks -/

variable {reliable : Prop} {k' : RowKey} {h : Bool} {keep : Scene String → Prop} {α : Type}

theorem ForLock.not_writesTo {table : String} {call : StoreCall} (hcall : ForLock table k' call)
    (hne : k' ≠ k) (t : String) {key : String} (hkey : k.GuardedBy key) :
    ¬ call.WritesTo t key :=
  fun hw => hne ((hcall t key hw).2.unique hkey)

/-- Taking the lock is the last move of an attempt. -/
theorem MovesOnly.takesOnly {event : Event} (h : MovesOnly k event) : TakesOnly k event := by
  intro k' htakes
  cases event with
  | lockMoved rowKey contender source target =>
    cases target with
    | locked => exact (of_decide_eq_true htakes).symm.trans h
    | _ => cases htakes
  | _ => cases htakes

theorem TakesNone.takesOnly {event : Event} (h : TakesNone event) (k : RowKey) :
    TakesOnly k event := by
  intro k' htakes
  rw [h k'] at htakes
  cases htakes

theorem TakesOnly.takes_eq_false {event : Event} (hevent : TakesOnly k' event) (hne : k' ≠ k) :
    (Act.reported event).takes k = false :=
  Bool.eq_false_iff.mpr fun htakes => hne (hevent k htakes).symm

/-- What is done for one lock leaves a contender for another as it is. -/
theorem triple_of_forLock (hne : k' ≠ k) {table : String} {p : Procedure α} {R : α → Prop}
    (hp : p.Within (ForLock table k') (TakesOnly k') R)
    (hkeep : ¬ reliable → ∀ s, s.holds table k i = h → keep s) :
    (lockConduct table k).Triple reliable i keep (Apart reliable table k i h) p
      fun a s => R a ∧ Apart reliable table k i h s := by
  refine Conduct.Triple.of_within hp (fun _ _ => stable_apart)
    (fun hr s _ hs => hkeep hr s hs.holds)
    (fun call hcall s hs hp hdrops => ?_) (fun call hcall s hs hp reached contents hcontents => ?_)
    (fun event hevent s hs hp => ?_)
  · rw [Act.drops_of_not_writesTo (hcall.not_writesTo hne table k.guardedBy_lock)] at hdrops
    cases hdrops
  · have hwrites : ∀ key, k.GuardedBy key → ¬ call.WritesTo table key := fun key hkey =>
      hcall.not_writesTo hne table hkey
    refine ⟨hs.proper_sent hwrites reached hcontents.eq_or, ?_, fun hr hh key hkey => ?_⟩
    · exact (Scene.holds_sent_of_not_writesTo (hwrites _ k.guardedBy_lock) _ _).trans hp.holds
    · rcases hcontents.eq_or with rfl | rfl
      · exact hp.unlisted hr hh key hkey
      · exact (Contents.attribute?_perform (hwrites key hkey) i).trans (hp.unlisted hr hh key hkey)
  · have htakes := hevent.takes_eq_false hne
    exact ⟨hs.proper_report htakes, hp.report htakes⟩

/-! ### All locks at once -/

/-- How contenders behave for whichever lock. -/
def locksConduct (table : String) : Conduct String := Conduct.all (lockConduct table)

/-- A procedure that is about one lock keeps to the conduct of all, whatever fails. -/
theorem triple_locks {p : Procedure α} {R : α → Prop} {post : α → Scene String → Prop}
    (hp : p.Within (ForLock locks.name k) (TakesOnly k) R)
    (hlock : (lockConduct locks.name k).Triple False i (fun _ => True)
      (Apart False locks.name k i h) p post) :
    (locksConduct locks.name).Triple False i (fun _ => True)
      (fun s => s.holds locks.name k i = h) p post := by
  intro s hs hk
  have hall : ∀ k', (lockConduct locks.name k').Triple False i (fun _ => True)
      (Apart False locks.name k' i (s.holds locks.name k' i)) p
      fun a s' => k' = k → post a s' := by
    intro k'
    -- to any other lock the procedure is a bystander
    by_cases hne : k = k'
    · subst hne
      rw [hk]
      exact hlock.strengthen_post fun _ _ _ hpost _ => hpost
    · exact (triple_of_forLock hne hp fun _ _ _ => trivial).strengthen_post
        fun _ _ _ _ heq => (hne heq.symm).elim
  have htriple := (Conduct.Triple.all hall).strengthen_post fun a s' _ hpost => hpost k rfl
  exact htriple.weaken_keep (fun _ _ => trivial) s hs fun k' => ⟨rfl, False.elim⟩

end ClusterIdentity.Locking
