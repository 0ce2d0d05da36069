import ClusterIdentity.Proofs.Lock.Footprint
import ClusterIdentity.Proofs.Solo

/-!
# A contender's own entries

An attempt that nobody disturbs makes entries for its contender and for nobody else, and if it
fails it gives them back, unless it cannot: the lock row has an entry of the contender if it had one
before, whichever request failed and whether or not the failed request took effect.

## Main definitions

* `Progress`: what an attempt knows about the entries that it may have made
* `Restored`: an attempt gave back what it took

## Main statements

* `ends_acquire`, `ends_release`: what becomes of entries whatever fails
* `only_own_entries_and_given_back`: both for runs on contents of any kind
-/

namespace ClusterIdentity.Locking

open Interleaving Solo

variable {table : String} {k : RowKey} {i : String} {before : Contents}

/-- How far an attempt came from the contents that it met, and what it remembers of that. -/
structure Progress (table : String) (k : RowKey) (i : String) (before : Contents)
    (attempt : Attempt) (c : Contents) : Prop where
  isFor : IsFor k i attempt
  begun : attempt.state ≠ .idle
  frame : Contents.SameBut table k.GuardedBy i before c
  unwritten : attempt.wroteLock = false →
    c.attribute? table k.lock i = before.attribute? table k.lock i
  /-- The entry may have reached the lock row, or not. -/
  written : attempt.wroteLock = true →
    c.attribute? table k.lock i = before.attribute? table k.lock i ∨
      c.attribute? table k.lock i = some i
  heldBefore : attempt.wroteLock = true →
    attempt.heldBefore = (before.attribute? table k.lock i).isSome

/-- Whether the contender is in the lock row just as before, and not in the choosing row. -/
def Restored (table : String) (k : RowKey) (i : String) (before c : Contents) : Prop :=
  (c.attribute? table k.lock i).isSome = (before.attribute? table k.lock i).isSome ∧
    c.attribute? table k.choosing i ≠ some i

namespace Progress

variable {attempt : Attempt} {c : Contents}

theorem start (table : String) (k : RowKey) (i : String) (before : Contents) :
    Progress table k i before ⟨k, i, .choosing, false, false⟩ before where
  isFor := ⟨rfl, rfl⟩
  begun := nofun
  frame := .refl
  unwritten := fun _ => rfl
  written := nofun
  heldBefore := nofun

theorem moved (h : Progress table k i before attempt c) {next : LockState} (hnext : next ≠ .idle) :
    Progress table k i before { attempt with state := next } c :=
  ⟨h.isFor, hnext, h.frame, h.unwritten, h.written, h.heldBefore⟩

/-- What the choosing row looks like is not what an attempt remembers. -/
theorem of_lock (h : Progress table k i before attempt c) {c' : Contents}
    (hframe : Contents.SameBut table k.GuardedBy i before c')
    (hlock : c'.attribute? table k.lock i = c.attribute? table k.lock i) :
    Progress table k i before attempt c' where
  isFor := h.isFor
  begun := h.begun
  frame := hframe
  unwritten := fun hw => hlock.trans (h.unwritten hw)
  written := fun hw => by rw [hlock]; exact h.written hw
  heldBefore := h.heldBefore

theorem enterChoosing (h : Progress table k i before attempt c) :
    Progress table k i before attempt
      (c.perform (.put table k.choosing (Dict.singleton i i) none)).2 :=
  h.of_lock (h.frame.put k.guardedBy_choosing i) (Contents.attribute?_perform
    (StoreCall.not_writesTo_put (RowKey.lock_ne_choosing k k).symm _ _) i)

theorem leaveChoosing (h : Progress table k i before attempt c) :
    Progress table k i before attempt
      (c.perform (Contents.deleteAttribute table k.choosing i i)).2 :=
  h.of_lock (h.frame.deleteAttribute k.guardedBy_choosing i) (Contents.attribute?_perform
    (StoreCall.not_writesTo_delete (RowKey.lock_ne_choosing k k).symm _ _) i)

/-- Before an attempt enters the lock row it makes a note of that. -/
theorem claiming (h : Progress table k i before attempt c) (hwrote : attempt.wroteLock = false)
    (hheld : attempt.heldBefore = (before.attribute? table k.lock i).isSome) :
    Progress table k i before { attempt with state := .locking, wroteLock := true } c where
  isFor := h.isFor
  begun := nofun
  frame := h.frame
  unwritten := nofun
  written := fun _ => .inl (h.unwritten hwrote)
  heldBefore := fun _ => hheld

theorem enterLock (h : Progress table k i before attempt c) (hwrote : attempt.wroteLock = true) :
    Progress table k i before attempt
      (c.perform (.put table k.lock (Dict.singleton i i) none)).2 where
  isFor := h.isFor
  begun := h.begun
  frame := h.frame.put k.guardedBy_lock i
  unwritten := fun hw => (Bool.false_ne_true (hw.symm.trans hwrote)).elim
  written := fun _ => .inr (by rw [Contents.attribute?_put, Dict.get?_singleton]; simp)
  heldBefore := h.heldBefore

/-- An attempt whose entry was not in the lock row before takes back just what it brought. -/
theorem attribute?_leaveLock (h : Progress table k i before attempt c) (hwrote : attempt.wroteLock = true)
    (hheld : attempt.heldBefore = false) :
    (c.perform (Contents.deleteAttribute table k.lock i i)).2.attribute? table k.lock i =
      before.attribute? table k.lock i := by
  have hnone : before.attribute? table k.lock i = none := by
    rw [← Option.not_isSome_iff_eq_none, ← h.heldBefore hwrote, hheld]
    exact Bool.false_ne_true
  rw [Contents.attribute?_deleteAttribute, hnone]
  rcases h.written hwrote with hlock | hlock
  · rw [hlock, hnone, ite_self]
  · exact if_pos ⟨rfl, hlock⟩

theorem leaveLock (h : Progress table k i before attempt c) (hwrote : attempt.wroteLock = true)
    (hheld : attempt.heldBefore = false) :
    Progress table k i before attempt
      (c.perform (Contents.deleteAttribute table k.lock i i)).2 where
  isFor := h.isFor
  begun := h.begun
  frame := h.frame.deleteAttribute k.guardedBy_lock i
  unwritten := fun _ => h.attribute?_leaveLock hwrote hheld
  written := fun _ => .inl (h.attribute?_leaveLock hwrote hheld)
  heldBefore := h.heldBefore

/-- If the entry in the lock row is not the attempt's to take back, then it is there just as
before. -/
theorem isSome_lock (h : Progress table k i before attempt c)
    (hkeep : (attempt.wroteLock && !attempt.heldBefore) = false) :
    (c.attribute? table k.lock i).isSome = (before.attribute? table k.lock i).isSome := by
  cases hwrote : attempt.wroteLock with
  | false => rw [h.unwritten hwrote]
  | true =>
    have hheld : attempt.heldBefore = true := by simpa [hwrote] using hkeep
    rcases h.written hwrote with hlock | hlock
    · rw [hlock]
    · rw [hlock, ← h.heldBefore hwrote, hheld, Option.isSome_some]

end Progress

/-! ### The steps of an attempt -/

section Steps

variable {faults : Faults} {now : UInt64} {locks : LockTable} {P Q : Contents → Prop}

theorem ends_moveTo (attempt : Attempt) (next : LockState) {pre : Ledger → Prop} :
    Ends faults now pre (attempt.moveTo next) fun moved s =>
      moved = { attempt with state := next } ∧ pre s :=
  fun _ hs => ⟨rfl, hs⟩

/-- Whether or not entering a row succeeds, the entry was made or it was not. -/
theorem ends_enter {key : String} (hP : ∀ c, P c → Q c)
    (hput : ∀ c, P c → Q (c.perform (.put locks.name key (Dict.singleton i i) none)).2) :
    Ends faults now (fun s => P s.contents) (locks.enter key i) fun _ s => Q s.contents := by
  have hcall : Ends faults now (fun s => P s.contents)
      (Procedure.call (.put locks.name key (Dict.singleton i i) none))
      fun _ s => Q s.contents := by
    refine Ends.request nofun (fun s hs => hput _ hs) fun s hs error reached c hc => ?_
    rcases hc.eq_or with rfl | rfl
    · exact hP _ hs
    · exact hput _ hs
  refine hcall.bind fun answer => ?_
  cases answer with
  | ok outcome => exact Ends.done fun _ hs => hs
  | error e => exact Ends.done fun _ hs => hs

/-- Reading a row tells what is in it. -/
theorem ends_entries (key : String) :
    Ends faults now (fun s => P s.contents) (locks.entries key) fun answer s => P s.contents ∧
      ∀ row, answer = .ok row → row = (s.contents.row? locks.name key).getD ∅ := by
  have hcall : Ends faults now (fun s => P s.contents)
      (Procedure.call (.batchGet locks.name [key])) fun answer s => P s.contents ∧
        ∀ rows, answer = .ok rows → rows = s.contents.select locks.name [key] := by
    refine Ends.request nofun (fun s hs => ⟨hs, fun rows hrows => ?_⟩)
      fun s hs error reached c hc => ⟨?_, nofun⟩
    · cases hrows
      rfl
    · rcases hc.eq_or with rfl | rfl
      · exact hs
      · exact hs
  refine hcall.bind fun answer => ?_
  cases answer with
  | error e => exact Ends.done fun _ hs => ⟨hs.1, nofun⟩
  | ok rows =>
    refine Ends.done fun s hs => ⟨hs.1, fun row hrow => ?_⟩
    cases hrow
    rw [hs.2 rows rfl, Contents.get?_select_singleton]

theorem ends_settle {pre : Ledger → Prop} : Ends faults now pre locks.settle fun _ => pre := by
  rw [LockTable.settle]
  split
  · exact Ends.done fun _ hs => hs
  · exact Ends.pause _

/-- Whether an attempt that came to an outcome knows what it may have left behind. -/
abbrev Kept (table : String) (k : RowKey) (i : String) (before : Contents)
    (ended : Attempt × Except LockError Unit) (s : Ledger) : Prop :=
  Progress table k i before ended.1 s.contents

theorem ends_verify (attempt : Attempt) :
    Ends faults now (fun s => Progress locks.name k i before attempt s.contents)
      (locks.verify attempt) (Kept locks.name k i before) := by
  refine (ends_entries _).bind fun answer => ?_
  cases answer with
  | error e => exact Ends.done fun _ hs => hs.1
  | ok holders =>
    show Ends _ _ _ (if LockTable.isSole attempt.contender holders then _ else _) _
    split
    · refine (ends_moveTo attempt .locked).bind fun moved => Ends.given fun hmoved => ?_
      subst hmoved
      exact Ends.done fun _ hs => hs.1.moved (by decide)
    · exact Ends.done fun _ hs => hs.1

theorem ends_claim (attempt : Attempt) (hwrote : attempt.wroteLock = false)
    (hheld : attempt.heldBefore = (before.attribute? locks.name k.lock i).isSome) :
    Ends faults now (fun s => Progress locks.name k i before attempt s.contents)
      (locks.claim attempt) (Kept locks.name k i before) := by
  refine Ends.assume (fun _ hs => hs.isFor) fun hfor => ?_
  obtain ⟨rfl, rfl⟩ := hfor
  refine (ends_moveTo attempt .locking).bind fun moved => Ends.given fun hmoved => ?_
  subst hmoved
  -- the note is made first: a request that is told to have failed may have taken effect
  have henter : Ends faults now
      (fun s => Progress locks.name attempt.rowKey attempt.contender before attempt s.contents)
      (locks.enter attempt.rowKey.lock attempt.contender)
      fun _ s => Progress locks.name attempt.rowKey attempt.contender before
        { attempt with state := .locking, wroteLock := true } s.contents :=
    ends_enter (P := Progress locks.name attempt.rowKey attempt.contender before attempt)
      (Q := Progress locks.name attempt.rowKey attempt.contender before
        { attempt with state := .locking, wroteLock := true })
      (fun _ hc => hc.claiming hwrote hheld) fun _ hc => (hc.claiming hwrote hheld).enterLock rfl
  refine henter.bind fun answer => ?_
  cases answer with
  | error e => exact Ends.done fun _ hs => hs
  | ok _ => exact ends_settle.bind fun _ => ends_verify _

theorem ends_decide {attempt : Attempt} (hwrote : attempt.wroteLock = false)
    (choosing : Attributes) {holders : Attributes}
    (hheld : holders.contains i = (before.attribute? locks.name k.lock i).isSome) :
    Ends faults now (fun s => Progress locks.name k i before attempt s.contents)
      (locks.decide attempt choosing holders) (Kept locks.name k i before) := by
  refine Ends.assume (fun _ hs => hs.isFor) fun hfor => ?_
  obtain ⟨rfl, rfl⟩ := hfor
  rw [LockTable.decide]
  split
  · exact Ends.done fun _ hs => hs
  · split
    · refine (ends_moveTo attempt .contending).bind fun moved => Ends.given fun hmoved => ?_
      subst hmoved
      exact Ends.done fun _ hs => hs.moved (by decide)
    · apply (ends_claim { attempt with heldBefore := holders.contains attempt.contender } hwrote
        hheld).weaken_pre
      intro s hs
      exact ⟨hs.isFor, hs.begun, hs.frame, hs.unwritten, hs.written, fun hw =>
        (Bool.false_ne_true (hwrote.symm.trans hw)).elim⟩

theorem ends_contend :
    Ends faults now (fun s => s.contents = before) (locks.contend (Attempt.start k i))
      (Kept locks.name k i before) := by
  refine (ends_moveTo _ .choosing).bind fun attempt => Ends.given fun hattempt => ?_
  subst hattempt
  have henter : Ends faults now (fun s => s.contents = before) (locks.enter k.choosing i)
      fun _ s => Progress locks.name k i before ⟨k, i, .choosing, false, false⟩ s.contents := by
    apply ends_enter (P := fun c => c = before)
      (Q := Progress locks.name k i before ⟨k, i, .choosing, false, false⟩)
    · rintro c rfl
      exact .start ..
    · rintro c rfl
      exact (Progress.start ..).enterChoosing
  refine henter.bind fun entered => ?_
  cases entered with
  | error e => exact Ends.done fun _ hs => hs
  | ok _ =>
    refine (ends_entries k.choosing).bind fun answer => ?_
    cases answer with
    | error e => exact Ends.done fun _ hs => hs.1
    | ok choosing =>
      refine Ends.bind ((ends_entries k.lock).weaken_pre fun _ hs => hs.1) fun answer => ?_
      cases answer with
      | error e => exact Ends.done fun _ hs => hs.1
      | ok holders =>
        refine Ends.assume (q := holders.contains i =
          (before.attribute? locks.name k.lock i).isSome) (fun s hs => ?_) fun hheld =>
            (ends_decide rfl choosing hheld).weaken_pre fun _ hs => hs.1
        rw [hs.2 holders rfl, Dict.contains, ← Contents.attribute?_eq_get?_getD,
          hs.1.unwritten rfl]

/-! ### Cleaning up -/

/-- Leaving a row keeps what does not depend on whether it succeeds, and leads to what does unless
it failed. -/
theorem ends_leave {key : String} {R S : Contents → Prop}
    (hP : ∀ c, P c → P (c.perform (Contents.deleteAttribute locks.name key i i)).2)
    (hR : ∀ c, P c → R c → S (c.perform (Contents.deleteAttribute locks.name key i i)).2) :
    Ends faults now (fun s => P s.contents ∧ (s.Cleaned → R s.contents))
      (locks.leave key i) fun _ s => P s.contents ∧ (s.Cleaned → S s.contents) := by
  refine Ends.request nofun (fun s hs => ⟨hP _ hs.1, fun hcleaned => ?_⟩)
    fun s hs cause reached c hc => ⟨?_, fun hcleaned => ?_⟩
  · exact hR _ hs.1 (hs.2 hcleaned.of_record)
  · rcases hc.eq_or with rfl | rfl
    · exact hs.1
    · exact hP _ hs.1
  · -- a withdrawal that failed is on record, so that nothing has to be shown
    exact (Ledger.not_cleaned_record rfl cause c hcleaned).elim

/-- Withdrawing from a row keeps what does not depend on whether it succeeds, and leads to what
does unless it is reported to have failed. -/
theorem ends_withdraw {key : String} (error : LockError) {R S : Contents → Prop}
    (hP : ∀ c, P c → P (c.perform (Contents.deleteAttribute locks.name key i i)).2)
    (hR : ∀ c, P c → R c → S (c.perform (Contents.deleteAttribute locks.name key i i)).2) :
    Ends faults now (fun s => P s.contents ∧ (s.Cleaned → R s.contents))
      (locks.withdraw key i error)
      fun _ s => P s.contents ∧ (s.Cleaned → S s.contents) := by
  refine (ends_leave hP hR).bind fun answer => ?_
  cases answer with
  | ok outcome => exact Ends.done fun _ hs => hs
  | error cause => exact Ends.report _

theorem ends_withdrawChoosing {attempt : Attempt} (error : LockError) :
    Ends faults now (fun s => Progress locks.name k i before attempt s.contents)
      (locks.withdrawChoosing attempt error) fun _ s =>
        Progress locks.name k i before attempt s.contents ∧
          (s.Cleaned → s.contents.attribute? locks.name k.choosing i ≠ some i) := by
  refine Ends.assume (q := IsFor k i attempt ∧ attempt.state ≠ .idle)
    (fun _ hs => ⟨hs.isFor, hs.begun⟩) fun hstart => ?_
  obtain ⟨⟨rfl, rfl⟩, hbegun⟩ := hstart
  rw [LockTable.withdrawChoosing, if_neg hbegun]
  exact Ends.weaken_pre (ends_withdraw error
    (P := Progress locks.name attempt.rowKey attempt.contender before attempt)
    (R := fun _ => True) (S := fun c => c.attribute? locks.name attempt.rowKey.choosing
      attempt.contender ≠ some attempt.contender) (fun c hc => hc.leaveChoosing)
    fun c _ _ => c.attribute?_deleteAttribute_ne _ _ _ _) fun s hs => ⟨hs, fun _ => trivial⟩

theorem ends_withdrawLock {attempt : Attempt} (error : LockError) :
    Ends faults now (fun s => Progress locks.name k i before attempt s.contents ∧
        (s.Cleaned → s.contents.attribute? locks.name k.choosing i ≠ some i))
      (locks.withdrawLock attempt error) fun _ s =>
        Contents.SameBut locks.name k.GuardedBy i before s.contents ∧
          (s.Cleaned → Restored locks.name k i before s.contents) := by
  refine Ends.assume (fun _ hs => hs.1.isFor) fun hfor => ?_
  obtain ⟨rfl, rfl⟩ := hfor
  rw [LockTable.withdrawLock]
  split
  · rename_i hmine
    obtain ⟨hwrote, hheld⟩ : attempt.wroteLock = true ∧ attempt.heldBefore = false := by
      simpa using hmine
    refine Ends.strengthen_post (ends_withdraw error
      (P := Progress locks.name attempt.rowKey attempt.contender before attempt)
      (R := fun c => c.attribute? locks.name attempt.rowKey.choosing attempt.contender ≠
        some attempt.contender)
      (S := Restored locks.name attempt.rowKey attempt.contender before)
      (fun c hc => hc.leaveLock hwrote hheld) fun c hc hchoosing => ⟨?_, ?_⟩)
      fun _ s hs => ⟨hs.1.frame, hs.2⟩
    · rw [hc.attribute?_leaveLock hwrote hheld]
    · rwa [Contents.attribute?_perform
        (StoreCall.not_writesTo_delete (RowKey.lock_ne_choosing _ _) _ _)]
  · rename_i hnot
    exact Ends.done fun s hs => ⟨hs.1.frame, fun hcleaned =>
      ⟨hs.1.isSome_lock (Bool.eq_false_iff.mpr hnot), hs.2 hcleaned⟩⟩

/-! ### Calls -/

/-- An attempt touches its contender's entries in the two rows only, and if it fails and can
clean up, it gives them back. -/
theorem ends_acquire (locks : LockTable) (k : RowKey) (i : String) :
    Ends faults now (fun s => s.contents = before) (locks.acquire k i) fun answer s =>
      Contents.SameBut locks.name k.GuardedBy i before s.contents ∧
        ∀ error, answer = .error error → s.Cleaned →
          Restored locks.name k i before s.contents := by
  refine ends_contend.bind fun ended => ?_
  obtain ⟨attempt, outcome⟩ := ended
  cases outcome with
  | ok _ =>
    refine (Ends.report _).bind fun _ => ?_
    exact Ends.done fun s hs => ⟨hs.frame, nofun⟩
  | error error =>
    refine (Ends.report _).bind fun _ => ?_
    refine ((ends_withdrawChoosing error).bind fun _ => ends_withdrawLock error).bind fun _ => ?_
    refine (ends_moveTo attempt .failed).bind fun _ => Ends.done fun s hs => ?_
    exact ⟨hs.2.1, fun _ _ => hs.2.2⟩

/-- Releasing touches the contender's entry in the choosing row only. -/
theorem ends_release (locks : LockTable) (k : RowKey) (i : String) :
    Ends faults now (fun s => s.contents = before) (locks.release k i) fun _ s =>
      Contents.SameBut locks.name (· = k.choosing) i before s.contents := by
  have hdelete : Contents.SameBut locks.name (· = k.choosing) i before
      (before.perform (Contents.deleteAttribute locks.name k.choosing i i)).2 := by
    apply Contents.SameBut.deleteAttribute .refl
    rfl
  have hleave : Ends faults now (fun s => s.contents = before) (locks.leave k.choosing i)
      fun _ s => Contents.SameBut locks.name (· = k.choosing) i before s.contents := by
    refine Ends.request nofun (fun s hs => ?_) fun s hs error reached c hc => ?_
    · subst hs
      exact hdelete
    · subst hs
      rcases hc.eq_or with rfl | rfl
      · exact .refl
      · exact hdelete
  refine hleave.bind fun answer => ?_
  cases answer with
  | error e => exact Ends.done fun _ hs => hs
  | ok outcome =>
    cases outcome with
    | conditionFailed => exact (Ends.report _).bind fun _ => Ends.done fun _ hs => hs
    | deleted old =>
      refine (ends_moveTo _ .released).bind fun _ => ?_
      exact (Ends.report _).bind fun _ => Ends.done fun _ hs => hs.2

end Steps

/-- **Own entries only.** Whatever is in the store and whichever requests fail, before or after
they took effect, a contender that is left alone changes no entry but its own: one in the choosing
row when it releases a lock, one in each of the two rows when it tries to take it. If it does not
get the lock and no request of its clean-up fails, it is in the lock row just if it was there
before, and it is not in the choosing row. -/
theorem only_own_entries_and_given_back (locks : LockTable) (k : RowKey) (i : String)
    (faults : Faults) (now : UInt64) (before : Contents) :
    Contents.SameBut locks.name k.GuardedBy i before
        (run faults now (locks.acquire k i) before).2.contents ∧
      Contents.SameBut locks.name (· = k.choosing) i before
        (run faults now (locks.release k i) before).2.contents ∧
      ∀ error, (run faults now (locks.acquire k i) before).1 = .error error →
        (run faults now (locks.acquire k i) before).2.Cleaned →
        Restored locks.name k i before (run faults now (locks.acquire k i) before).2.contents := by
  obtain ⟨hframe, hrestored⟩ := ends_acquire locks k i ⟨before, []⟩ rfl
  exact ⟨hframe, ends_release locks k i ⟨before, []⟩ rfl, hrestored⟩

/-- An entry that reached the lock row is given back although its contender was told that it did
not. -/
theorem given_back_after_lost_answer :
    ∃ faults : Faults,
      (run faults 0 (LockTable.acquire ⟨"locks", .zero⟩ ⟨"app_rack_1"⟩ "a") ∅).1 =
        .error (.storeUnavailable (.unavailable .intercepted)) ∧
      Restored "locks" ⟨"app_rack_1"⟩ "a" ∅
        (run faults 0 (LockTable.acquire ⟨"locks", .zero⟩ ⟨"app_rack_1"⟩ "a") ∅).2.contents := by
  obtain ⟨faults, hfaults⟩ : ∃ faults : Faults, faults = fun n _ =>
      if n = 3 then .failAfter (.unavailable .intercepted) else .pass := ⟨_, rfl⟩
  have hfailed : (run faults 0 (LockTable.acquire ⟨"locks", .zero⟩ ⟨"app_rack_1"⟩ "a") ∅).1 =
      .error (.storeUnavailable (.unavailable .intercepted)) := by
    rw [hfaults]
    rfl
  have hall : (run faults 0 (LockTable.acquire ⟨"locks", .zero⟩ ⟨"app_rack_1"⟩ "a")
      ∅).2.answered.all (fun entry => !entry.call.isWithdrawal || entry.answer.isOk) = true := by
    rw [hfaults]
    rfl
  obtain ⟨-, -, hrestored⟩ :=
    only_own_entries_and_given_back ⟨"locks", .zero⟩ ⟨"app_rack_1"⟩ "a" faults 0 ∅
  refine ⟨faults, hfailed, hrestored _ hfailed fun entry hmem hcall => ?_⟩
  have hok := List.all_eq_true.mp hall entry hmem
  rw [hcall, Bool.not_true, Bool.false_or] at hok
  cases hanswer : entry.answer with
  | ok reply => exact ⟨reply, rfl⟩
  | error e =>
    rw [hanswer] at hok
    cases hok

end ClusterIdentity.Locking
