import ClusterIdentity.Claim.Registry
import ClusterIdentity.Proofs.Candour
import ClusterIdentity.Proofs.Claim.Roster

/-!
# Failures are passed on

Taking a lock, claiming an identity and giving it up end with the first failure of the store that
they meet, whatever fails, and with such a failure only if there was one. What is cleaned up
afterwards, and the release of the lock after a claim, may fail without anybody being told.

## Main statements

* `candid_acquire`, `candid_create`, `candid_delete`
* `failures_neither_masked_nor_invented`
-/

namespace ClusterIdentity

/-- The failure of the store behind a failed attempt, if that is the reason. -/
def LockError.outage? : LockError → Option StoreError
  | storeUnavailable cause => some cause
  | _ => none

theorem LockError.outage?_eq_some_iff {e : LockError} {cause : StoreError} :
    e.outage? = some cause ↔ e = .storeUnavailable cause := by
  cases e <;> simp [outage?]

/-- The failure of the store behind a failed claim, if that is the reason. -/
def ClaimError.outage? : ClaimError → Option StoreError
  | storeUnavailable cause => some cause
  | lockFailed _ => none

theorem ClaimError.outage?_eq_some_iff {e : ClaimError} {cause : StoreError} :
    e.outage? = some cause ↔ e = .storeUnavailable cause := by
  cases e <;> simp [outage?]

theorem ClaimError.outage?_ofLockError (e : LockError) :
    (ofLockError e).outage? = e.outage? := by
  cases e <;> rfl

open Solo

/-! ### Locks -/

namespace Locking

variable {locks : LockTable}

/-- Whether a procedure ends with the first failure that it meets, told as failures of a lock are. -/
abbrev CandidAttempt (p : Procedure (Attempt × Except LockError Unit)) : Prop :=
  Candid (fun ended => outageIn LockError.outage? ended.2) (fun ended => Failed ended.2) p

/-- A request to a row is passed on with its failure. -/
theorem candid_bind_ask {α : Type} {call : StoreCall}
    {f : Except StoreError call.Reply → Procedure (Except StoreError α)}
    (hcall : call.isWithdrawal = false) (hscan : call.kind ≠ .scan)
    (herror : ∀ e, f (.error e) = .done (.error e))
    (hok : ∀ reply, Candid (outageIn some) Failed (f (.ok reply))) :
    Candid (outageIn some) Failed ((Procedure.call call).bind f) :=
  (Candid.ask hcall hscan).bind_except
    (fun e => ⟨.error e, rfl, ⟨e, rfl⟩, herror e ▸ Settled.done _⟩) hok

theorem candid_enter (locks : LockTable) (key contender : String) :
    Candid (outageIn some) Failed (locks.enter key contender) :=
  candid_bind_ask rfl nofun (fun _ => rfl) fun _ => .done rfl

theorem candid_entries (locks : LockTable) (key : String) :
    Candid (outageIn some) Failed (locks.entries key) :=
  candid_bind_ask rfl nofun (fun _ => rfl) fun _ => .done rfl

/-- An attempt breaks off when a row cannot be entered or read. -/
theorem candid_bind_row {α : Type} {p : Procedure (Except StoreError α)}
    {attempt : Attempt} {f : Except StoreError α → Procedure (Attempt × Except LockError Unit)}
    (hp : Candid (outageIn some) Failed p)
    (herror : ∀ e, f (.error e) = .done (attempt, .error (.storeUnavailable e)))
    (hok : ∀ a, CandidAttempt (f (.ok a))) : CandidAttempt (p.bind f) := by
  refine hp.bind_except (fun e => ?_) hok
  rw [herror]
  exact ⟨(attempt, .error (.storeUnavailable e)), rfl, ⟨_, rfl⟩, Settled.done _⟩

theorem candid_bind_moveTo {attempt : Attempt} {next : LockState}
    {f : Attempt → Procedure (Attempt × Except LockError Unit)}
    (hf : CandidAttempt (f { attempt with state := next })) :
    CandidAttempt ((attempt.moveTo next).bind f) :=
  .report hf

theorem candid_verify (locks : LockTable) (attempt : Attempt) :
    CandidAttempt (locks.verify attempt) := by
  refine candid_bind_row (candid_entries locks _) (fun _ => rfl) fun holders => ?_
  show CandidAttempt (if LockTable.isSole attempt.contender holders then _ else _)
  split
  · exact candid_bind_moveTo (.done rfl)
  · exact .done rfl

theorem candid_claim (locks : LockTable) (attempt : Attempt) :
    CandidAttempt (locks.claim attempt) := by
  refine candid_bind_moveTo ?_
  refine candid_bind_row (candid_enter locks _ _) (fun _ => rfl) fun _ => ?_
  show CandidAttempt (locks.settle.bind fun _ => locks.verify _)
  rw [LockTable.settle]
  split
  · exact candid_verify locks _
  · exact .pause (candid_verify locks _)

theorem candid_decide (locks : LockTable) (attempt : Attempt) (choosing holders : Attributes) :
    CandidAttempt (locks.decide attempt choosing holders) := by
  rw [LockTable.decide]
  split
  · exact .done rfl
  · split
    · exact candid_bind_moveTo (.done rfl)
    · exact candid_claim locks _

theorem candid_contend (locks : LockTable) (attempt : Attempt) :
    CandidAttempt (locks.contend attempt) := by
  refine candid_bind_moveTo ?_
  refine candid_bind_row (candid_enter locks _ _) (fun _ => rfl) fun _ => ?_
  refine candid_bind_row (candid_entries locks _) (fun _ => rfl) fun choosing => ?_
  refine candid_bind_row (candid_entries locks _) (fun _ => rfl) fun holders => ?_
  exact candid_decide locks _ _ _

theorem settled_withdraw (locks : LockTable) (key contender : String) (error : LockError) :
    Settled () (locks.withdraw key contender error) := by
  refine ⟨rfl, fun answer => ?_⟩
  cases answer with
  | ok outcome => exact Settled.done ()
  | error cause => exact ⟨trivial, rfl⟩

theorem settled_cleanUp (locks : LockTable) (attempt : Attempt) (error : LockError) :
    Settled () (locks.cleanUp attempt error) := by
  have hchoosing : Settled () (locks.withdrawChoosing attempt error) := by
    rw [LockTable.withdrawChoosing]
    split
    · exact Settled.done ()
    · exact settled_withdraw ..
  refine hchoosing.bind ?_
  rw [LockTable.withdrawLock]
  split
  · exact settled_withdraw ..
  · exact Settled.done ()

/-- Taking a lock ends with the first failure that it meets. -/
theorem candid_acquire (locks : LockTable) (k : RowKey) (i : String) :
    Candid (outageIn LockError.outage?) Failed (locks.acquire k i) := by
  -- once an attempt has failed, all that is left is to clean up
  have hfailed : ∀ (attempt : Attempt) (error : LockError), Settled (.error error)
      ((Procedure.report (.lockRefused k i attempt.state error)).bind fun _ =>
        (locks.cleanUp attempt error).bind fun _ =>
          (attempt.moveTo .failed).bind fun _ => Program.done (Except.error error :
            Except LockError Hold)) := by
    intro attempt error
    exact ⟨trivial, (settled_cleanUp locks attempt error).bind ⟨trivial, rfl⟩⟩
  refine (candid_contend locks (Attempt.start k i)).bind ?_ fun ended hended => ?_
  · rintro ⟨attempt, _⟩ ⟨error, rfl⟩
    exact ⟨.error error, rfl, ⟨error, rfl⟩, hfailed attempt error⟩
  · obtain ⟨attempt, outcome⟩ := ended
    cases outcome with
    | ok _ => exact .report (.done rfl)
    | error error => exact .settled hended ⟨error, rfl⟩ (hfailed attempt error)

theorem candid_tearDown (locks : LockTable) (hold : Hold) :
    Candid (outageIn some) Failed (locks.tearDown hold) := by
  refine candid_bind_ask rfl nofun (fun _ => rfl) fun outcome => ?_
  cases outcome with
  | deleted old => exact candid_bind_ask rfl nofun (fun _ => rfl) fun _ => .done rfl
  | conditionFailed =>
    apply Candid.report
    exact candid_bind_ask rfl nofun (fun _ => rfl) fun _ => .done rfl

end Locking

/-! ### Claims -/

namespace Claiming

/-- A scan for all records of an application fails with the failure that ended the reading. -/
theorem candid_instances (table application : String) :
    Candid (outageIn some) Failed (Roster.instances table application) := by
  have hdecode : ∀ rows, (Roster.decode table rows).Within (fun _ => False) (fun _ => True)
      (· = Roster.recordsOf rows) := fun rows =>
    (Roster.within_decode_eq table rows).mono (fun _ h => h) fun _ _ => trivial
  refine .call rfl (fun answer e he => ⟨.error e, rfl, ⟨e, rfl⟩, ?_⟩) fun answer hanswer => ?_
  · cases answer with
    | error e' =>
      cases he
      exact Settled.done _
    | ok scanned =>
      obtain ⟨rows, failure⟩ : Scanned := scanned
      have hfailure : failure = some e := he
      subst hfailure
      exact (Settled.of_quiet (hdecode rows)).bind (Settled.done _)
  · cases answer with
    | error e => cases hanswer
    | ok scanned =>
      obtain ⟨rows, failure⟩ : Scanned := scanned
      have hfailure : failure = none := hanswer
      subst hfailure
      show Candid _ _ ((Roster.decode table rows).bind fun records =>
        .done (Except.ok records.eraseDups))
      exact Candid.bind_quiet (hdecode rows) fun records => .done rfl

theorem candid_instance? (table application rack : String) (slot : UInt32) :
    Candid (outageIn some) Failed (Roster.instance? table application rack slot) :=
  (candid_instances table application).bind_except
    (fun e => ⟨.error e, rfl, ⟨e, rfl⟩, Settled.done _⟩) fun _ => .done rfl

/-- A scan for one row fails only if it failed before the row was read. -/
theorem candid_key? (table application : String) (slot : UInt32) (datacenter rack : String) :
    Candid (outageIn some) Failed (Roster.key? table application slot datacenter rack) := by
  refine .call rfl (fun answer e he => ⟨.error e, rfl, ⟨e, rfl⟩, ?_⟩) fun answer hanswer => ?_
  · cases answer with
    | error e' =>
      cases he
      exact Settled.done _
    | ok scanned =>
      obtain ⟨rows, failure⟩ : Scanned := scanned
      cases rows with
      | cons row rest => simp [StoreCall.failure?] at he
      | nil =>
        have hfailure : failure = some e := he
        subst hfailure
        exact Settled.done _
  · cases answer with
    | error e => cases hanswer
    | ok scanned =>
      obtain ⟨rows, failure⟩ : Scanned := scanned
      cases rows with
      | cons row rest => exact .done rfl
      | nil =>
        have hfailure : failure = none := hanswer
        subst hfailure
        exact .done rfl

variable (registry : Registry)

theorem candid_lock (k : RowKey) (i : String) :
    Candid (outageIn ClaimError.outage?) Failed (registry.lock k i) :=
  (Locking.candid_acquire registry.locks k i).bind_except
    (fun e => ⟨.error (.ofLockError e), ClaimError.outage?_ofLockError e, ⟨_, rfl⟩, Settled.done _⟩)
    fun _ => .done rfl

theorem settled_unlock (hold : Hold) : Settled () (registry.unlock hold) := by
  refine ⟨rfl, fun answer => ?_⟩
  cases answer with
  | error e => exact ⟨trivial, rfl⟩
  | ok outcome =>
    cases outcome with
    | deleted old => exact ⟨trivial, trivial, rfl⟩
    | conditionFailed => exact ⟨trivial, rfl⟩

theorem candid_writeRecord (d : Descriptor) :
    Candid (outageIn some) Failed (registry.writeRecord d) :=
  .clock fun _ => Locking.candid_bind_ask rfl nofun (fun _ => rfl) fun _ => .done rfl

theorem candid_deleteRecord (key : String) :
    Candid (outageIn some) Failed (registry.deleteRecord key) :=
  Locking.candid_bind_ask rfl nofun (fun _ => rfl) fun _ => .done rfl

/-- Whether a call on behalf of a node ends with the first failure that it meets, told as failures
of a claim are. Its result may be settled before it ends, whatever it is. -/
abbrev CandidCall {α : Type} (p : Procedure (Except ClaimError α)) : Prop :=
  Candid (outageIn ClaimError.outage?) (fun _ => True) p

/-- A call breaks off when a part of it fails, perhaps after releasing the lock. -/
theorem candid_bind_part {α β : Type} {p : Procedure (Except StoreError α)}
    {f : Except StoreError α → Procedure (Except ClaimError β)}
    (hp : Candid (outageIn some) Failed p)
    (herror : ∀ e, Settled (.error (.storeUnavailable e)) (f (.error e)))
    (hok : ∀ a, CandidCall (f (.ok a))) : CandidCall (p.bind f) :=
  hp.bind_except (fun e => ⟨.error (.storeUnavailable e), rfl, trivial, herror e⟩) hok

/-- A call breaks off when it does not get the lock. -/
theorem candid_bind_lock {β : Type} {k : RowKey} {i : String}
    {f : Except ClaimError Hold → Procedure (Except ClaimError β)}
    (herror : ∀ e, f (.error e) = .done (.error e)) (hok : ∀ hold, CandidCall (f (.ok hold))) :
    CandidCall ((registry.lock k i).bind f) :=
  (candid_lock registry k i).bind_except
    (fun e => ⟨.error e, rfl, trivial, herror e ▸ Settled.done _⟩) hok

/-- Claiming an identity ends with the first failure that it meets. -/
theorem candid_create (d : Descriptor) : CandidCall (registry.create d) := by
  refine candid_bind_part (candid_instance? ..) (fun e => Settled.done _) fun found => ?_
  cases found with
  | some record => exact .report (.done rfl)
  | none =>
    refine candid_bind_lock registry (fun _ => rfl) fun hold => ?_
    refine candid_bind_part (candid_writeRecord registry d) (fun e => ?_) fun _ => ?_
    · exact (settled_unlock registry hold).bind (Settled.done _)
    · -- the record is written, and releasing the lock cannot change the result any more
      exact .settled rfl trivial ((settled_unlock registry hold).bind ⟨trivial, rfl⟩)

/-- Giving an identity up ends with the first failure that it meets. -/
theorem candid_delete (d : Descriptor) : CandidCall (registry.delete d) := by
  refine candid_bind_lock registry (fun _ => rfl) fun hold => ?_
  refine candid_bind_part (candid_key? ..) (fun e => ?_) fun found => ?_
  · exact (settled_unlock registry hold).bind (Settled.done _)
  · cases found with
    | none =>
      apply Candid.report
      exact candid_bind_part (Locking.candid_tearDown ..) (fun e => Settled.done _)
        fun _ => .done rfl
    | some key =>
      refine candid_bind_part (candid_deleteRecord registry key) (fun e => ?_) fun _ => ?_
      · exact (settled_unlock registry hold).bind (Settled.done _)
      · exact candid_bind_part (Locking.candid_tearDown ..) (fun e => Settled.done _)
          fun _ => .report (.done rfl)

/-! ### Errors of locks -/

/-- Whether a failure of the store is not taken for one of the lock. -/
def Unwrapped {α : Type} (answer : Except ClaimError α) : Prop :=
  ∀ cause, answer ≠ .error (.lockFailed (.storeUnavailable cause))

theorem within_lock_unwrapped (k : RowKey) (i : String) :
    (registry.lock k i).Within (fun _ => True) (fun _ => True) Unwrapped := by
  refine (Procedure.within_any _).bind fun answer _ => ?_
  cases answer with
  | ok hold => exact fun _ => nofun
  | error e => cases e <;> exact fun _ => nofun

theorem Unwrapped.error {α β : Type} {e : ClaimError}
    (h : Unwrapped (.error e : Except ClaimError α)) :
    Unwrapped (.error e : Except ClaimError β) := by
  rintro cause ⟨rfl⟩
  exact h cause rfl

theorem within_create_unwrapped (d : Descriptor) :
    (registry.create d).Within (fun _ => True) (fun _ => True) Unwrapped := by
  refine (Procedure.within_any _).bind fun answer _ => ?_
  cases answer with
  | error e => exact fun _ => nofun
  | ok found =>
    cases found with
    | some record => exact ⟨trivial, fun _ => nofun⟩
    | none =>
      refine (within_lock_unwrapped registry _ _).bind fun answer hanswer => ?_
      cases answer with
      | error e => exact hanswer.error
      | ok hold =>
        refine (Procedure.within_any _).bind fun written _ => ?_
        refine (Procedure.within_any _).bind fun _ _ => ?_
        cases written with
        | error e => exact fun _ => nofun
        | ok _ => exact ⟨trivial, fun _ => nofun⟩

theorem within_delete_unwrapped (d : Descriptor) :
    (registry.delete d).Within (fun _ => True) (fun _ => True) Unwrapped := by
  refine (within_lock_unwrapped registry _ _).bind fun answer hanswer => ?_
  cases answer with
  | error e => exact hanswer.error
  | ok hold =>
    refine (Procedure.within_any _).bind fun answer _ => ?_
    cases answer with
    | error e => exact (Procedure.within_any _).bind fun _ _ => fun _ => nofun
    | ok found =>
      cases found with
      | none =>
        refine (Procedure.within_report trivial).bind fun _ _ => ?_
        refine (Procedure.within_any _).bind fun answer _ => ?_
        cases answer with
        | error e => exact fun _ => nofun
        | ok _ => exact fun _ => nofun
      | some key =>
        refine (Procedure.within_any _).bind fun answer _ => ?_
        cases answer with
        | error e => exact (Procedure.within_any _).bind fun _ _ => fun _ => nofun
        | ok _ =>
          refine (Procedure.within_any _).bind fun answer _ => ?_
          cases answer with
          | error e => exact fun _ => nofun
          | ok _ => exact ⟨trivial, fun _ => nofun⟩

/-- **Failures are neither masked nor invented.** Whatever is in the store and whichever requests
fail, taking a lock, claiming an identity and giving it up end with the first failure of the store
among their requests, withdrawals apart, and with such a failure only if there was one. What becomes
of withdrawals makes no difference. A failure of the store is never told as one of the lock. -/
theorem failures_neither_masked_nor_invented (registry : Registry) (k : RowKey) (i : String)
    (d : Descriptor) :
    Forthright LockError.storeUnavailable (registry.locks.acquire k i) ∧
      Forthright ClaimError.storeUnavailable (registry.create d) ∧
      Forthright ClaimError.storeUnavailable (registry.delete d) ∧
      ∀ (faults : Faults) (now : UInt64) (contents : Contents),
        Unwrapped (run faults now (registry.create d) contents).1 ∧
          Unwrapped (run faults now (registry.delete d) contents).1 := by
  refine ⟨?_, ?_, ?_, fun faults now contents => ⟨?_, ?_⟩⟩
  · exact (Locking.candid_acquire registry.locks k i).forthright
      fun _ _ => LockError.outage?_eq_some_iff
  · exact (candid_create registry d).forthright fun _ _ => ClaimError.outage?_eq_some_iff
  · exact (candid_delete registry d).forthright fun _ _ => ClaimError.outage?_eq_some_iff
  · exact (within_create_unwrapped registry d).result_run _ _
  · exact (within_delete_unwrapped registry d).result_run _ _

/-- A claim is made although the lock cannot be released. -/
example : (run (fun _ call => if call.isWithdrawal then .refuse (.unavailable .intercepted) else .pass)
    0 (Registry.create ⟨"tokens", ⟨"locks", .zero⟩⟩
      ⟨"app", "rack", 1, "a", "host", "10.0.0.1", "east", "zone", "0", ∅, none⟩) ∅).1 =
    .ok .created := rfl

end Claiming

end ClusterIdentity
