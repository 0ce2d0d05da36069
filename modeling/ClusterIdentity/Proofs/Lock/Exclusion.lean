import ClusterIdentity.Proofs.Lock.Choosing

/-!
# Exclusion by the choosing row

Any number of contenders take and release locks and none of them tears one down. A contender that
found itself alone in the choosing row and nobody else in the lock row is then the only one that
may enter the lock row, so that it finds itself alone there too: it can fail because the store
does, but not because another contender came in between.

## Main definitions

* `KeepingCalls`, `keepingRules`: contenders that tear nothing down

## Main statements

* `keepingTriple_acquire`: an attempt does not end in a lost race
* `passed_unique_and_unraced`: one contender at most is past the contention check at a time
-/

namespace ClusterIdentity.Locking

open Interleaving

/-! ### Attempts -/

section Attempt

/-- What a procedure of a contender that tears nothing down leads to, whatever fails. -/
abbrev KeepingTriple {α : Type} (table : String) (k : RowKey) (i : String)
    (pre : Scene String → Prop) (p : Procedure α) (post : α → Scene String → Prop) : Prop :=
  (choosingConduct table k).Triple False i (fun _ => True) pre p post

variable {locks : LockTable} {k : RowKey} {i : String}

/-- Whether an attempt did not end in a lost race. -/
def Unraced {α : Type} (outcome : Except LockError α) : Prop :=
  ∀ key, outcome ≠ .error (.raceLost key)

/-- An attempt of a contender came to an end, but not in a lost race. -/
structure EndsUnraced (k : RowKey) (i : String) (ended : Attempt × Except LockError Unit) :
    Prop where
  rowKey : ended.1.rowKey = k
  contender : ended.1.contender = i
  unraced : Unraced ended.2

theorem stable_alone : (choosingConduct locks.name k).Stable i fun s => s.Alone locks.name k i :=
  fun _ _ _ _ hrely h => hrely.alone h

theorem stable_passed :
    (choosingConduct locks.name k).Stable i fun s => s.passed locks.name k i = true :=
  fun _ _ _ _ hrely h => hrely.passed.trans h

theorem keepingTriple_report {event : Event} (hevent : (Act.reported event).passes k = false)
    {P : Scene String → Prop} (hP : ∀ s, P s → P (s.report i event)) :
    KeepingTriple locks.name k i P (Procedure.report event) fun _ => P :=
  Conduct.Triple.report (fun _ hs _ => hs.proper_report hevent) fun s _ hp => hP s hp

theorem keepingTriple_moveTo (attempt : Attempt) {next : LockState} (hnext : next ≠ .locking) :
    KeepingTriple locks.name k i (fun _ => True) (attempt.moveTo next) fun moved _ =>
      moved = { attempt with state := next } := by
  have hpasses : (Act.reported (.lockMoved attempt.rowKey attempt.contender attempt.state
      next)).passes k = false := by
    cases next with
    | locking => exact (hnext rfl).elim
    | _ => rfl
  exact (keepingTriple_report hpasses fun _ _ => trivial).bind fun _ =>
    Conduct.Triple.done fun _ _ _ => rfl

/-- Reading a row tells what is in it at that moment. -/
theorem keepingTriple_entries {key : String} {P : Scene String → Prop}
    (hstable : (choosingConduct locks.name k).Stable i P)
    (hP : ∀ s reached, P s → P (s.sent i (.batchGet locks.name [key]) reached s.contents)) :
    KeepingTriple locks.name k i P (locks.entries key) fun answer s =>
      P s ∧ ∀ row, answer = .ok row → row = (s.contents.row? locks.name key).getD ∅ :=
  triple_entries hstable (fun _ _ _ _ => trivial) (fun _ _ _ => trivial)
    (fun _ hs _ _ => hs.proper_of_neither rfl rfl rfl (fun _ => rfl) (fun _ _ => rfl)
      fun j hj hpassed => hs.unclaimed j i hpassed hj.symm) hP

theorem keepingTriple_enterChoosing :
    KeepingTriple locks.name k i (fun _ => True) (locks.enter k.choosing i) fun answer s =>
      answer = .ok () → s.listed locks.name k i = true := by
  have hput : KeepingTriple locks.name k i (fun _ => True)
      (Procedure.call (.put locks.name k.choosing (Dict.singleton i i) none)) fun answer s =>
        ∀ outcome, answer = .ok outcome → s.listed locks.name k i = true :=
    Conduct.Triple.request nofun (fun _ _ _ _ _ _ => trivial) (fun _ _ _ _ => trivial)
      (fun _ _ _ => trivial) (fun _ hs _ _ _ hcontents => hs.proper_enter hcontents)
      (fun _ _ _ _ _ => sinceAfter_of_begins (decide_eq_true ⟨rfl, rfl⟩))
      (fun _ _ _ _ _ _ _ _ => nofun)
  refine hput.bind fun answer => ?_
  cases answer with
  | ok outcome => exact Conduct.Triple.done fun _ _ hp _ => hp outcome rfl
  | error e => exact Conduct.Triple.done fun _ _ _ => nofun

/-- A contender that went on to claim the lock stays past the check, and is in the lock row if it
succeeded in entering it. -/
theorem keepingTriple_enterLock :
    KeepingTriple locks.name k i (fun s => s.passed locks.name k i = true)
      (locks.enter k.lock i) fun answer s => answer = .ok () →
        s.passed locks.name k i = true ∧ s.contents.attribute? locks.name k.lock i = some i := by
  have hput : KeepingTriple locks.name k i (fun s => s.passed locks.name k i = true)
      (Procedure.call (.put locks.name k.lock (Dict.singleton i i) none)) fun answer s =>
        ∀ outcome, answer = .ok outcome → s.passed locks.name k i = true ∧
          s.contents.attribute? locks.name k.lock i = some i := by
    refine Conduct.Triple.request nofun stable_passed (fun _ _ _ _ => trivial)
      (fun _ _ _ => trivial) (fun _ hs hp _ _ hcontents => hs.proper_claim hp hcontents)
      (fun s _ hp _ _ => ⟨?_, ?_⟩) fun _ _ _ _ _ _ _ _ _ h => by cases h
    · exact (sinceAfter_of_neither rfl rfl).trans hp
    · simp [Scene.sent, Contents.attribute?_put]
  refine hput.bind fun answer => ?_
  cases answer with
  | ok outcome => exact Conduct.Triple.done fun _ _ hp _ => hp outcome rfl
  | error e => exact Conduct.Triple.done fun _ _ _ h => by cases h

/-- A contender that is past the check and in the lock row finds itself alone there. -/
theorem keepingTriple_verify (locks : LockTable) (attempt : Attempt) :
    KeepingTriple locks.name attempt.rowKey attempt.contender
      (fun s => s.passed locks.name attempt.rowKey attempt.contender = true ∧
        s.contents.attribute? locks.name attempt.rowKey.lock attempt.contender =
          some attempt.contender)
      (locks.verify attempt)
      fun ended _ => EndsUnraced attempt.rowKey attempt.contender ended := by
  refine Conduct.Triple.bind (keepingTriple_entries
    (fun a b _ _ hrely hp => ⟨hrely.passed.trans hp.1, hrely.entry.trans hp.2⟩)
    fun s reached hp => ⟨(sinceAfter_of_neither rfl rfl).trans hp.1, hp.2⟩) fun answer => ?_
  cases answer with
  | error e => exact Conduct.Triple.done fun _ _ _ => ⟨rfl, rfl, nofun⟩
  | ok holders =>
    refine Conduct.Triple.assume (q := LockTable.isSole attempt.contender holders = true)
      (fun s hs hp => ?_) fun hsole => ?_
    · obtain ⟨⟨hpassed, hentry⟩, hholders⟩ := hp
      rw [hholders holders rfl]
      refine isSole_of_get? ((Contents.attribute?_eq_get?_getD ..).symm.trans hentry) fun j hj => ?_
      rw [← Contents.attribute?_eq_get?_getD]
      exact hs.unclaimed _ j hpassed hj
    · show KeepingTriple _ _ _ _ (if LockTable.isSole attempt.contender holders then _ else _) _
      rw [if_pos hsole]
      refine Conduct.Triple.bind ((keepingTriple_moveTo attempt (by decide)).weaken_pre
        fun _ _ _ => trivial) fun moved => ?_
      exact Conduct.Triple.done fun _ _ hmoved => ⟨hmoved ▸ rfl, hmoved ▸ rfl, nofun⟩

/-- A contender that has been alone in the choosing row and finds nobody else in the lock row
loses no race for it. -/
theorem keepingTriple_claim (locks : LockTable) (attempt : Attempt) :
    KeepingTriple locks.name attempt.rowKey attempt.contender
      (fun s => s.Alone locks.name attempt.rowKey attempt.contender ∧ ∀ j,
        j ≠ attempt.contender → s.contents.attribute? locks.name attempt.rowKey.lock j = none)
      (locks.claim attempt)
      fun ended _ => EndsUnraced attempt.rowKey attempt.contender ended := by
  have hpass : KeepingTriple locks.name attempt.rowKey attempt.contender
      (fun s => s.Alone locks.name attempt.rowKey attempt.contender ∧ ∀ j,
        j ≠ attempt.contender → s.contents.attribute? locks.name attempt.rowKey.lock j = none)
      (attempt.moveTo .locking) fun moved s => moved = { attempt with state := .locking } ∧
        s.passed locks.name attempt.rowKey attempt.contender = true := by
    refine Conduct.Triple.bind (Conduct.Triple.report
      (fun s hs hp => hs.proper_pass hp.1 hp.2 _) fun s _ _ => ?_) fun _ =>
      Conduct.Triple.done fun _ _ hp => ⟨rfl, hp⟩
    exact sinceAfter_of_begins (decide_eq_true rfl)
  refine hpass.bind fun moved => Conduct.Triple.given fun hmoved => ?_
  subst hmoved
  refine keepingTriple_enterLock.bind fun answer => ?_
  cases answer with
  | error e => exact Conduct.Triple.done fun _ _ _ => ⟨rfl, rfl, nofun⟩
  | ok _ =>
    have hverify := keepingTriple_verify locks
      { attempt with state := .locking, wroteLock := true }
    exact triple_settle.bind fun _ => hverify.weaken_pre fun s _ hp => hp rfl

theorem keepingTriple_decide (locks : LockTable) (attempt : Attempt)
    (choosing holders : Attributes) :
    KeepingTriple locks.name attempt.rowKey attempt.contender
      (fun s => (¬ 1 < choosing.size → s.Alone locks.name attempt.rowKey attempt.contender) ∧
        holders = (s.contents.row? locks.name attempt.rowKey.lock).getD ∅)
      (locks.decide attempt choosing holders)
      fun ended _ => EndsUnraced attempt.rowKey attempt.contender ended := by
  rw [LockTable.decide]
  split
  · exact Conduct.Triple.done fun _ _ _ => ⟨rfl, rfl, fun _ h => by cases h⟩
  · rename_i hnone
    split
    · refine Conduct.Triple.bind ((keepingTriple_moveTo attempt (by decide)).weaken_pre
        fun _ _ _ => trivial) fun moved => ?_
      exact Conduct.Triple.done fun _ _ hmoved => ⟨hmoved ▸ rfl, hmoved ▸ rfl, fun _ h => by
        cases h⟩
    · rename_i hsize
      refine Conduct.Triple.weaken_pre
        (keepingTriple_claim locks
          { attempt with heldBefore := holders.contains attempt.contender })
        fun s _ hp => ⟨hp.1 hsize, fun j hj => ?_⟩
      rw [Contents.attribute?_eq_get?_getD, ← hp.2]
      exact otherThan_eq_none_iff.mp hnone j hj

/-- A contender that is in the choosing row with at most one entry has been alone in it. -/
theorem alone_of_size {s : Scene String} (hs : ChoosingInv locks.name k s)
    (hlisted : s.listed locks.name k i = true)
    (hsize : ¬ 1 < ((s.contents.row? locks.name k.choosing).getD ∅).size) :
    s.Alone locks.name k i := by
  have hentry : ((s.contents.row? locks.name k.choosing).getD ∅).get? i = some i := by
    rw [← Contents.attribute?_eq_get?_getD, hs.row i, hlisted, if_pos rfl]
  have hone : ((s.contents.row? locks.name k.choosing).getD ∅).size = 1 := by
    have hpos := Dict.size_pos hentry
    omega
  refine AloneAfter.of_sole hlisted fun j hj => ?_
  have hother := (Dict.size_eq_one_iff hentry).mp hone j hj
  rw [← Contents.attribute?_eq_get?_getD, hs.row j] at hother
  cases hj : s.listed locks.name k j with
  | false => exact hj
  | true =>
    rw [hj] at hother
    cases hother

/-- The part of an attempt up to its outcome loses no race. -/
theorem keepingTriple_contend :
    KeepingTriple locks.name k i (fun _ => True) (locks.contend (Attempt.start k i))
      fun ended _ => EndsUnraced k i ended := by
  refine (keepingTriple_moveTo _ (by decide)).bind fun attempt => ?_
  refine Conduct.Triple.assume (fun _ _ hp => hp) fun hattempt => ?_
  subst hattempt
  refine Conduct.Triple.bind (keepingTriple_enterChoosing.weaken_pre fun _ _ _ => trivial)
    fun entered => ?_
  cases entered with
  | error e => exact Conduct.Triple.done fun _ _ _ => ⟨rfl, rfl, nofun⟩
  | ok _ =>
    have hlook : KeepingTriple locks.name k i (fun s => s.listed locks.name k i = true)
        (locks.entries k.choosing) fun answer s => ∀ choosing, answer = .ok choosing →
          ¬ 1 < choosing.size → s.Alone locks.name k i := by
      refine (keepingTriple_entries (fun _ _ _ _ hrely h => hrely.listed.trans h)
        fun s reached h => (sinceAfter_of_neither rfl rfl).trans h).strengthen_post ?_
      rintro answer s hs ⟨hlisted, hrow⟩ choosing hchoosing hsize
      rw [hrow choosing hchoosing] at hsize
      exact alone_of_size hs hlisted hsize
    refine (hlook.weaken_pre fun _ _ hp => hp rfl).bind fun answer => ?_
    cases answer with
    | error e => exact Conduct.Triple.done fun _ _ _ => ⟨rfl, rfl, nofun⟩
    | ok choosing =>
      refine Conduct.Triple.bind ((keepingTriple_entries
        (P := fun s => ¬ 1 < choosing.size → s.Alone locks.name k i)
        (fun a b ha hb hrely h hsize => stable_alone a b ha hb hrely (h hsize))
        fun s reached h hsize => ?_).weaken_pre fun _ _ hp => hp choosing rfl) fun answer => ?_
      · have halone := h hsize
        exact halone.cons ((sinceAfter_of_neither rfl rfl).trans halone.listed)
      · cases answer with
        | error e => exact Conduct.Triple.done fun _ _ _ => ⟨rfl, rfl, nofun⟩
        | ok holders =>
          exact (keepingTriple_decide locks ⟨k, i, .choosing, false, false⟩ choosing
            holders).weaken_pre fun _ _ hp =>
            ⟨hp.1, hp.2 holders rfl⟩

theorem keepingTriple_leave {key : String} (hkey : k.GuardedBy key) :
    KeepingTriple locks.name k i (fun _ => True) (locks.leave key i) fun _ _ => True :=
  Conduct.Triple.request nofun (fun _ _ _ _ _ _ => trivial) (fun _ _ _ _ => trivial)
    (fun _ _ _ => trivial) (fun _ hs _ _ _ hcontents => hs.proper_leave hkey hcontents)
    (fun _ _ _ => trivial) fun _ _ _ _ _ _ _ _ => trivial

theorem keepingTriple_withdraw {key : String} (hkey : k.GuardedBy key) (error : LockError) :
    KeepingTriple locks.name k i (fun _ => True) (locks.withdraw key i error)
      fun _ _ => True := by
  refine (keepingTriple_leave hkey).bind fun answer => ?_
  cases answer with
  | ok outcome => exact Conduct.Triple.done fun _ _ _ => trivial
  | error cause => exact keepingTriple_report rfl fun _ _ => trivial

theorem keepingTriple_cleanUp (locks : LockTable) (attempt : Attempt) (error : LockError) :
    KeepingTriple locks.name attempt.rowKey attempt.contender (fun _ => True)
      (locks.cleanUp attempt error) fun _ _ => True := by
  have hchoosing : KeepingTriple locks.name attempt.rowKey attempt.contender (fun _ => True)
      (locks.withdrawChoosing attempt error) fun _ _ => True := by
    rw [LockTable.withdrawChoosing]
    split
    · exact Conduct.Triple.done fun _ _ _ => trivial
    · exact keepingTriple_withdraw attempt.rowKey.guardedBy_choosing error
  refine hchoosing.bind fun _ => ?_
  rw [LockTable.withdrawLock]
  split
  · exact keepingTriple_withdraw attempt.rowKey.guardedBy_lock error
  · exact Conduct.Triple.done fun _ _ _ => trivial

/-- An attempt does not end in a lost race, whatever fails. -/
theorem keepingTriple_acquire (locks : LockTable) (k : RowKey) (i : String) :
    KeepingTriple locks.name k i (fun _ => True) (locks.acquire k i)
      fun answer _ => Unraced answer := by
  refine keepingTriple_contend.bind fun ended => ?_
  obtain ⟨attempt, outcome⟩ := ended
  cases outcome with
  | ok _ =>
    refine Conduct.Triple.bind (keepingTriple_report rfl fun _ hp => hp) fun _ => ?_
    exact Conduct.Triple.done fun _ _ _ _ => nofun
  | error error =>
    refine Conduct.Triple.bind (keepingTriple_report rfl fun _ hp => hp) fun _ => ?_
    refine Conduct.Triple.assume (fun _ _ hended => hended) fun hended => ?_
    obtain ⟨rfl, rfl, hunraced⟩ := hended
    refine ((keepingTriple_cleanUp locks attempt error).weaken_pre fun _ _ _ => trivial).bind
      fun _ => (keepingTriple_moveTo attempt (by decide)).bind fun _ => ?_
    exact Conduct.Triple.done fun _ _ _ key heq => hunraced key (congrArg _ (Except.error.inj heq))

theorem keepingTriple_release (locks : LockTable) (k : RowKey) (i : String) :
    KeepingTriple locks.name k i (fun _ => True) (locks.release k i) fun _ _ => True := by
  refine (keepingTriple_leave k.guardedBy_choosing).bind fun answer => ?_
  cases answer with
  | error e => exact Conduct.Triple.done fun _ _ _ => trivial
  | ok outcome =>
    cases outcome with
    | conditionFailed =>
      exact (keepingTriple_report rfl fun _ hp => hp).bind fun _ =>
        Conduct.Triple.done fun _ _ _ => trivial
    | deleted old =>
      refine Conduct.Triple.bind (keepingTriple_moveTo _ (by decide)) fun _ => ?_
      exact Conduct.Triple.bind (keepingTriple_report rfl fun _ hp => hp) fun _ =>
        Conduct.Triple.done fun _ _ _ => trivial

end Attempt

/-! ### Other locks -/

/-- What is done for one lock keeps to the conduct of contenders for another. -/
theorem keepingTriple_elsewhere {table : String} {k k' : RowKey} {i : String} (hne : k' ≠ k)
    {α : Type} {p : Procedure α} {R : α → Prop}
    (hp : p.Within (ForLock table k') (MovesOnly k') R) :
    KeepingTriple table k i (fun _ => True) p fun _ _ => True := by
  refine (Conduct.Triple.of_within hp (fun _ _ _ _ _ _ _ _ => trivial) (fun _ _ _ _ => trivial)
    (fun _ _ _ _ _ => trivial) (fun call hcall s hs _ reached contents hcontents => ⟨?_, trivial⟩)
    fun event hevent s hs _ => ⟨?_, trivial⟩).strengthen_post fun _ _ _ _ => trivial
  · exact hs.proper_sent (fun key hkey => hcall.not_writesTo hne table hkey) hcontents
  · refine hs.proper_report ?_
    cases event with
    | lockMoved rowKey contender source target =>
      cases target with
      | locking => exact decide_eq_false fun heq => hne (hevent.symm.trans heq)
      | _ => rfl
    | _ => rfl

/-! ### Contenders -/

/-- The row key and the answer of a contender's latest call, if that was an attempt and was not
abandoned. -/
abbrev LatestAnswer := Option (RowKey × Except LockError Hold)

/-- The calls that a contender may make that tears nothing down. -/
inductive KeepingCalls (table i : String) : LatestAnswer → LatestAnswer →
    Procedure LatestAnswer → Prop
  | acquire (locks : LockTable) (hname : locks.name = table) (k : RowKey) (note : LatestAnswer) :
    KeepingCalls table i note none
      ((locks.acquire k i).bind fun answer => .done (some (k, answer)))
  | release (locks : LockTable) (hname : locks.name = table) (k : RowKey) (note : LatestAnswer) :
    KeepingCalls table i note none ((locks.release k i).bind fun _ => .done none)

/-- Contenders that tear nothing down, whose locks are kept in one table. Requests may fail and
calls may be abandoned. -/
def keepingRules (table : String) : Rules String LatestAnswer := ⟨False, KeepingCalls table⟩

/-- The latest attempt at the lock of a row key did not end in a lost race. -/
def LatestUnraced (k : RowKey) (note : LatestAnswer) : Prop :=
  ∀ answer, note = some (k, answer) → Unraced answer

variable {table : String} {k : RowKey} {i : String}

theorem keepingTriple_calls {note fallback : LatestAnswer} {p : Procedure LatestAnswer}
    (hcall : KeepingCalls table i note fallback p) :
    KeepingTriple table k i (fun _ => True) p fun note _ => LatestUnraced k note := by
  cases hcall with
  | acquire locks hname k' =>
    subst hname
    by_cases hk : k' = k
    · subst hk
      refine (keepingTriple_acquire locks k' i).bind fun answer => ?_
      refine Conduct.Triple.done fun _ _ hunraced answer' heq => ?_
      cases heq
      exact hunraced
    · have hforLock :=
        (within_acquire locks k' i).mono (fun _ hcall => hcall.1.forLock) fun _ h => h
      refine (keepingTriple_elsewhere hk hforLock).bind fun answer => ?_
      refine Conduct.Triple.done fun _ _ _ answer' heq => ?_
      cases heq
      exact (hk rfl).elim
  | release locks hname k' =>
    subst hname
    have hrelease : KeepingTriple locks.name k i (fun _ => True) (locks.release k' i)
        fun _ _ => True := by
      by_cases hk : k' = k
      · subst hk
        exact keepingTriple_release locks k' i
      · exact keepingTriple_elsewhere hk
          ((within_release locks k' i).mono (fun _ hcall => hcall.1.forLock) fun _ h => h)
    exact hrelease.bind fun _ => Conduct.Triple.done fun _ _ _ _ => nofun

/-- **Exclusion by the choosing row.** As long as nobody tears a lock down, one contender at most
has passed the contention check and not yet left the choosing row, whatever fails and whoever
gives up in the middle of a call, and no attempt ends in a lost race. -/
theorem passed_unique_and_unraced {contents : Contents}
    (hlock : contents.row? table k.lock = none)
    (hchoosing : contents.row? table k.choosing = none) {s : State String LatestAnswer}
    (hreach : Reaches (keepingRules table) (State.initial contents none) s) :
    (∀ i j, s.passed table k i = true → s.passed table k j = true → i = j) ∧
      ∀ i key, s.activity i ≠ .idle (some (k, .error (.raceLost key))) := by
  have habsent : ∀ key, k.GuardedBy key → contents.row? table key = none := by
    rintro key (rfl | rfl)
    · exact hlock
    · exact hchoosing
  have hstart : (choosingConduct table k).Sound False (fun _ note _ => LatestUnraced k note)
      (State.initial contents none) := by
    refine ⟨ChoosingInv.initial habsent, fun i note hi => ?_, fun i _ _ _ hi => ?_⟩
    · cases hi
      exact fun _ => nofun
    · cases hi
  have hcalls : ∀ i note fallback p, (keepingRules table).allows i note fallback p →
      (choosingConduct table k).Triple False i (fun _ => LatestUnraced k fallback)
        (fun _ => LatestUnraced k note) p fun note _ => LatestUnraced k note := by
    intro i note fallback p hcall
    have hfallback : fallback = none := by cases hcall <;> rfl
    refine ((keepingTriple_calls hcall).weaken_pre fun _ _ _ => trivial).weaken_keep fun _ _ => ?_
    rw [hfallback]
    exact fun _ => nofun
  have hsound := Conduct.sound (fun _ _ _ _ _ _ _ h => h) hcalls hstart hreach
  refine ⟨fun i j hi hj => ?_, fun i key hidle => ?_⟩
  · exact (hsound.inv.alone i hi).unique (hsound.inv.alone j hj)
  · exact hsound.idle i _ hidle _ rfl key rfl

/-- A contender that takes a lock stays past the check, and nobody else is. -/
theorem passed_after_lone_acquire :
    ∃ s, Reaches (keepingRules "locks") (State.initial ∅ none) s ∧
      s.passed "locks" ⟨"app_rack_1"⟩ "a" = true ∧
      (∀ i, s.passed "locks" ⟨"app_rack_1"⟩ i = true → i = "a") ∧
      ∀ i key, s.activity i ≠ .idle (some (⟨"app_rack_1"⟩, .error (.raceLost key))) := by
  have hreach : Reaches (keepingRules "locks") (State.initial ∅ none) _ :=
    Step.call_reaches (i := "a") 0 rfl (.acquire ⟨"locks", .zero⟩ rfl ⟨"app_rack_1"⟩ none)
  obtain ⟨hunique, hunraced⟩ := passed_unique_and_unraced (k := ⟨"app_rack_1"⟩) rfl rfl hreach
  exact ⟨_, hreach, rfl, fun i hi => hunique i "a" hi rfl, hunraced⟩

end ClusterIdentity.Locking
