import ClusterIdentity.Proofs.Footprint
import ClusterIdentity.Proofs.Solo

/-!
# Procedures that do not hide failures

A request may be answered with a failure. A candid procedure ends as soon as that happens, with the
failure as its result, and it makes up no failure that it did not meet. Its withdrawals are made at
best effort: it starts them when its result is settled, so that the result does not depend on them.

## Main definitions

* `StoreCall.failure?`, `Ledger.outage?`: the failure of a request, and the first one of a run
* `Settled`: a procedure only withdraws any more, and its result is known
* `Candid`: a procedure ends with the first failure that it meets
* `Forthright`: what the result of a procedure tells about failures is what happened

## Main statements

* `Candid.bind`: how candid procedures are put together
* `Candid.outage?_run`: the result tells the first failure of the run, if there was one
* `Candid.run_congr`: the result does not depend on what becomes of withdrawals
* `Candid.forthright`: both for runs on contents of any kind
-/

namespace ClusterIdentity

/-- The failure that a request was answered with. The failure of a scan does not count if its reader
had all the rows that it wanted before. -/
def StoreCall.failure? : (call : StoreCall) → Except StoreError call.Reply → Option StoreError
  | .scan _ _ none, .ok (scanned : Scanned) => scanned.failure
  | .scan _ _ (some n), .ok (scanned : Scanned) =>
    if n ≤ scanned.rows.length then none else scanned.failure
  | _, .ok _ => none
  | _, .error e => some e

namespace Solo

/-- The failure of a request that is not a withdrawal. -/
def AnsweredCall.failure? (entry : AnsweredCall) : Option StoreError :=
  if entry.call.isWithdrawal then none else entry.call.failure? entry.answer

/-- The first failure of a run, withdrawals apart. -/
def Ledger.outage? (s : Ledger) : Option StoreError :=
  s.answered.reverse.findSome? AnsweredCall.failure?

theorem Ledger.outage?_record (s : Ledger) (call : StoreCall)
    (answer : Except StoreError call.Reply) (contents : Contents) :
    (s.record call answer contents).outage? =
      s.outage?.or (AnsweredCall.failure? ⟨call, answer⟩) := by
  simp [outage?, record, List.findSome?_append]

theorem Ledger.outage?_record_withdrawal (s : Ledger) {call : StoreCall}
    (hcall : call.isWithdrawal = true) (answer : Except StoreError call.Reply)
    (contents : Contents) : (s.record call answer contents).outage? = s.outage? := by
  rw [outage?_record, AnsweredCall.failure?, if_pos hcall, Option.or_none]

theorem Ledger.outage?_record_of_none {s : Ledger} (hs : s.outage? = none) {call : StoreCall}
    (hcall : call.isWithdrawal = false) (answer : Except StoreError call.Reply)
    (contents : Contents) :
    (s.record call answer contents).outage? = call.failure? answer := by
  rw [outage?_record, hs, Option.none_or, AnsweredCall.failure?, hcall]
  rfl

variable {α β : Type} {faults faults' : Faults} {now : UInt64}

/-- The failure that a result tells, if its error is one of the store. -/
def outageIn {ε : Type} (outageOf? : ε → Option StoreError) : Except ε α → Option StoreError
  | .ok _ => none
  | .error e => outageOf? e

def Failed {ε : Type} (result : Except ε α) : Prop := ∃ e, result = .error e

theorem failed_of_outageIn {ε : Type} {outageOf? : ε → Option StoreError} {result : Except ε α}
    {cause : StoreError} (h : outageIn outageOf? result = some cause) : Failed result := by
  cases result with
  | ok a => cases h
  | error e => exact ⟨e, rfl⟩

theorem failure?_of_not_scan {call : StoreCall} (hscan : call.kind ≠ .scan)
    (answer : Except StoreError call.Reply) : call.failure? answer = outageIn some answer := by
  cases call with
  | scan table filter limit => exact (hscan rfl).elim
  | put table key attributes condition => cases answer <;> rfl
  | delete table key scope condition => cases answer <;> rfl
  | batchGet table keys => cases answer <;> rfl

/-! ### Settled procedures -/

/-- Whether a procedure sends nothing but withdrawals and ends with a certain result, whatever they
come to. -/
def Settled (a : α) (p : Procedure α) : Prop :=
  p.Within (fun call => call.isWithdrawal = true) (fun _ => True) (· = a)

theorem Settled.done (a : α) : Settled a (Program.done a) := rfl

theorem Settled.bind {a : α} {b : β} {p : Procedure α} {f : α → Procedure β} (hp : Settled a p)
    (hf : Settled b (f a)) : Settled b (p.bind f) := by
  apply Procedure.Within.bind hp
  rintro a rfl
  exact hf

theorem Settled.of_quiet {a : α} {E : Event → Prop} {p : Procedure α}
    (h : p.Within (fun _ => False) E (· = a)) : Settled a p :=
  h.mono (fun _ => False.elim) fun _ _ => trivial

theorem Settled.result_run {a : α} {p : Procedure α} (h : Settled a p) (s : Ledger) :
    (p.run (answer faults now) s).1 = a :=
  Procedure.Within.result_run h _ _

/-- Withdrawals add nothing to the failures of a run. -/
theorem Settled.outage?_run {a : α} {p : Procedure α} (h : Settled a p) (s : Ledger) :
    (p.run (answer faults now) s).2.outage? = s.outage? := by
  induction p generalizing s with
  | done a => rfl
  | perform op next ih =>
    cases op with
    | call call =>
      refine (ih _ (h.2 _) _).trans ?_
      exact s.outage?_record_withdrawal h.1 _ _
    | report event => exact ih () h.2 s
    | clock => exact ih now (h now) s
    | pause duration => exact ih () h s

/-! ### Candid procedures -/

/-- A procedure ends with the first failure that it meets. Only results of one kind come from
breaking off: those that report a failure, and those that are settled otherwise before the
withdrawals. -/
inductive Candid (outage? : α → Option StoreError) (Final : α → Prop) : Procedure α → Prop where
  | done {a : α} (ha : outage? a = none) : Candid outage? Final (.done a)
  | settled {a : α} {p : Procedure α} (ha : outage? a = none) (hfinal : Final a)
      (hp : Settled a p) : Candid outage? Final p
  | call {call : StoreCall} {next : Except StoreError call.Reply → Procedure α}
      (hcall : call.isWithdrawal = false)
      (hfailed : ∀ answer e, call.failure? answer = some e →
        ∃ a, outage? a = some e ∧ Final a ∧ Settled a (next answer))
      (hserved : ∀ answer, call.failure? answer = none → Candid outage? Final (next answer)) :
      Candid outage? Final (.perform (.call call) next)
  | report {event : Event} {next : Unit → Procedure α} (hnext : Candid outage? Final (next ())) :
      Candid outage? Final (.perform (.report event) next)
  | clock {next : UInt64 → Procedure α} (hnext : ∀ now, Candid outage? Final (next now)) :
      Candid outage? Final (.perform .clock next)
  | pause {duration : Duration} {next : Unit → Procedure α}
      (hnext : Candid outage? Final (next ())) :
      Candid outage? Final (.perform (.pause duration) next)

namespace Candid

variable {outage? : α → Option StoreError} {Final : α → Prop} {outage?' : β → Option StoreError}
  {Final' : β → Prop}

/-- A candid procedure is continued candidly if the continuation breaks off after a final result,
with the same failure if there was one, and goes on candidly otherwise. -/
theorem bind {p : Procedure α} {f : α → Procedure β} (hp : Candid outage? Final p)
    (hfinal : ∀ a, Final a → ∃ b, outage?' b = outage? a ∧ Final' b ∧ Settled b (f a))
    (hf : ∀ a, outage? a = none → Candid outage?' Final' (f a)) :
    Candid outage?' Final' (p.bind f) := by
  induction hp with
  | done ha => exact hf _ ha
  | settled ha hfin hp =>
    obtain ⟨b, hb, hfin', hsettled⟩ := hfinal _ hfin
    exact .settled (hb.trans ha) hfin' (hp.bind hsettled)
  | call hcall hfailed hserved ih =>
    refine .call hcall (fun answer e he => ?_) ih
    obtain ⟨a, ha, hfin, hsettled⟩ := hfailed answer e he
    obtain ⟨b, hb, hfin', hrest⟩ := hfinal a hfin
    exact ⟨b, hb.trans ha, hfin', hsettled.bind hrest⟩
  | report hnext ih => exact .report ih
  | clock hnext ih => exact .clock ih
  | pause hnext ih => exact .pause ih

/-- The same if the results are told apart by whether they are errors. -/
theorem bind_except {ε : Type} {outageOf? : ε → Option StoreError} {p : Procedure (Except ε α)}
    {f : Except ε α → Procedure β} (hp : Candid (outageIn outageOf?) Failed p)
    (herror : ∀ e, ∃ b, outage?' b = outageOf? e ∧ Final' b ∧ Settled b (f (.error e)))
    (hok : ∀ a, Candid outage?' Final' (f (.ok a))) : Candid outage?' Final' (p.bind f) := by
  refine hp.bind ?_ fun result hresult => ?_
  · rintro _ ⟨e, rfl⟩
    exact herror e
  · cases result with
    | ok a => exact hok a
    | error e =>
      obtain ⟨b, hb, hfinal, hsettled⟩ := herror e
      exact .settled (hb.trans hresult) hfinal hsettled

/-- A request that is no scan and no withdrawal is candid by itself. -/
theorem ask {call : StoreCall} (hcall : call.isWithdrawal = false) (hscan : call.kind ≠ .scan) :
    Candid (outageIn some) Failed (Procedure.call call) := by
  refine .call hcall (fun answer e he => ⟨answer, ?_, ?_, Settled.done answer⟩) fun answer he =>
    .done ?_
  · rw [← failure?_of_not_scan hscan, he]
  · rw [failure?_of_not_scan hscan] at he
    exact failed_of_outageIn he
  · rw [← failure?_of_not_scan hscan, he]

/-- A procedure that sends no requests is candid. -/
theorem of_quiet {E : Event → Prop} {R : α → Prop} {p : Procedure α}
    (h : p.Within (fun _ => False) E R) : Candid (fun _ => none) (fun _ => False) p := by
  induction p with
  | done a => exact .done rfl
  | perform op next ih =>
    cases op with
    | call call => exact h.1.elim
    | report event => exact .report (ih () h.2)
    | clock => exact .clock fun now => ih now (h now)
    | pause duration => exact .pause (ih () h)

/-- What comes after a procedure that sends no requests decides. -/
theorem bind_quiet {E : Event → Prop} {R : α → Prop} {p : Procedure α} {f : α → Procedure β}
    (hp : p.Within (fun _ => False) E R) (hf : ∀ a, Candid outage?' Final' (f a)) :
    Candid outage?' Final' (p.bind f) :=
  (of_quiet hp).bind (fun _ => False.elim) fun a _ => hf a

/-- In a run from a ledger without a failure the result tells the first one. -/
theorem outage?_run {p : Procedure α} (h : Candid outage? Final p) {s : Ledger}
    (hs : s.outage? = none) :
    (p.run (answer faults now) s).2.outage? = outage? (p.run (answer faults now) s).1 := by
  induction h generalizing s with
  | done ha => exact hs.trans ha.symm
  | settled ha _ hp => rw [hp.outage?_run, hs, hp.result_run, ha]
  | @call call next hcall hfailed hserved ih =>
    show ((next (serve faults call s).1).run (answer faults now) (serve faults call s).2).2.outage?
      = outage? ((next (serve faults call s).1).run (answer faults now) (serve faults call s).2).1
    have hrecord : (serve faults call s).2.outage? = call.failure? (serve faults call s).1 :=
      Ledger.outage?_record_of_none hs hcall _ _
    cases hfailure : call.failure? (serve faults call s).1 with
    | none => exact ih _ hfailure (hrecord.trans hfailure)
    | some e =>
      obtain ⟨a, ha, -, hsettled⟩ := hfailed _ e hfailure
      rw [hsettled.outage?_run, hsettled.result_run, ha, hrecord, hfailure]
  | report _ ih => exact ih hs
  | clock _ ih => exact ih now hs
  | pause _ ih => exact ih hs

/-- Runs in which nothing else than withdrawals comes to something else end with the same result. -/
theorem run_congr {p : Procedure α} (h : Candid outage? Final p)
    (hfaults : ∀ n call, call.isWithdrawal = false → faults n call = faults' n call)
    (s : Ledger) : (p.run (answer faults now) s).1 = (p.run (answer faults' now) s).1 := by
  induction h generalizing s with
  | done _ => rfl
  | settled _ _ hp => rw [hp.result_run, hp.result_run]
  | @call call next hcall hfailed hserved ih =>
    have hserve : serve faults call s = serve faults' call s := by
      rw [serve, serve, hfaults _ call hcall]
    show ((next (serve faults call s).1).run (answer faults now) (serve faults call s).2).1 =
      ((next (serve faults' call s).1).run (answer faults' now) (serve faults' call s).2).1
    rw [← hserve]
    cases hfailure : call.failure? (serve faults call s).1 with
    | none => exact ih _ hfailure _
    | some e =>
      obtain ⟨a, -, -, hsettled⟩ := hfailed _ e hfailure
      rw [hsettled.result_run, hsettled.result_run]
  | report _ ih => exact ih s
  | clock _ ih => exact ih now s
  | pause _ ih => exact ih s

end Candid

/-! ### What results tell -/

/-- Whether the result of a procedure tells of the store's failures what happened: of the first one,
if any, and of nothing else. Which withdrawals fail makes no difference to it. -/
structure Forthright {ε : Type} (unavailable : StoreError → ε) (p : Procedure (Except ε α)) :
    Prop where
  told : ∀ (faults : Faults) (now : UInt64) (contents : Contents) (cause : StoreError),
    (run faults now p contents).1 = .error (unavailable cause) ↔
      (run faults now p contents).2.outage? = some cause
  unmoved : ∀ (faults faults' : Faults) (now : UInt64) (contents : Contents),
    (∀ n call, call.isWithdrawal = false → faults n call = faults' n call) →
      (run faults now p contents).1 = (run faults' now p contents).1

theorem Candid.forthright {ε : Type} {outageOf? : ε → Option StoreError}
    {unavailable : StoreError → ε} {p : Procedure (Except ε α)}
    {Final : Except ε α → Prop} (h : Candid (outageIn outageOf?) Final p)
    (hunavailable : ∀ e cause, outageOf? e = some cause ↔ e = unavailable cause) :
    Forthright unavailable p where
  told faults now contents cause := by
    rw [run, h.outage?_run rfl]
    cases (p.run (answer faults now) ⟨contents, []⟩).1 with
    | ok a => exact ⟨nofun, nofun⟩
    | error e => rw [outageIn, hunavailable, Except.error.injEq]
  unmoved _ _ _ _ hfaults := h.run_congr hfaults _

end Solo

end ClusterIdentity
