import ClusterIdentity.Claim.Registry
import Mathlib.Data.ENat.Lattice

/-!
# Loops of attempts

Repeating an attempt under a policy is a series of rounds. In each round the attempt is made once
and, if it fails, the failure is reported and the policy is asked about it. Where the rounds lead
does not depend on when the loop stops, so they can be described beforehand, as if no refusal
were heeded; the loop then goes through them up to the first success or refusal.

## Main definitions

* `Attempts`: an attempt in a world that may answer its operations in whatever way
* `Attempts.round`, `Attempts.before`, `Attempts.result`: the rounds under a policy
* `Attempts.failures`: the failing attempts before the first success, perhaps infinitely many
* `Attempts.RunsRounds`, `Attempts.Allows`: what a loop of rounds does, under any policy and under
  one that allows a number of retries
* `RetriesWhileAllowed`: both of these for all policies that there are

## Main statements

* `Attempts.runsRounds_retrying`: `retrying` goes through the rounds and stops where it has to
* `Attempts.RunsRounds.allows`: how many attempts there are under a policy that allows some retries
* `Registry.retries_while_allowed`: claiming and giving up identities under a retry policy

## Design notes

The world is a handler of operations with a state of its own. Nothing is known of either, which
covers all behaviour of a store over all attempts, and a state may well be a record of all that
was ever done. That two worlds are equal hence says that nothing else was done to them.
-/

namespace ClusterIdentity

/-! ### The first index with a property -/

/-- The least index with a property; infinite if there is none. -/
noncomputable def firstIndex (p : ℕ → Prop) : ℕ∞ := ⨅ (k : ℕ) (_ : p k), (k : ℕ∞)

section FirstIndex

variable {p : ℕ → Prop} {k : ℕ}

theorem firstIndex_le (h : p k) : firstIndex p ≤ k := iInf₂_le k h

theorem le_firstIndex (h : ∀ j < k, ¬ p j) : (k : ℕ∞) ≤ firstIndex p :=
  le_iInf₂ fun j hj => Nat.cast_le.mpr (Nat.le_of_not_lt fun hlt => h j hlt hj)

theorem not_of_lt_firstIndex (h : (k : ℕ∞) < firstIndex p) : ¬ p k := fun hk =>
  absurd (firstIndex_le hk) (not_le.mpr h)

theorem not_of_le_firstIndex (h : (k : ℕ∞) ≤ firstIndex p) : ∀ j < k, ¬ p j := fun _ hj =>
  not_of_lt_firstIndex (lt_of_lt_of_le (Nat.cast_lt.mpr hj) h)

theorem firstIndex_eq (h : p k) (hbefore : ∀ j < k, ¬ p j) : firstIndex p = k :=
  le_antisymm (firstIndex_le h) (le_firstIndex hbefore)

/-- A finite first index has the property. -/
theorem of_firstIndex_eq (h : firstIndex p = k) : p k := by
  by_contra hk
  have hle : ((k + 1 : ℕ) : ℕ∞) ≤ firstIndex p := le_firstIndex fun j hj hp => by
    rcases Nat.lt_succ_iff_lt_or_eq.mp hj with hlt | rfl
    · exact not_of_le_firstIndex h.ge j hlt hp
    · exact hk hp
  rw [h, Nat.cast_le] at hle
  exact Nat.not_succ_le_self k hle

end FirstIndex

theorem coe_lt_add_one_iff {k : ℕ} {n : ℕ∞} : (k : ℕ∞) < n + 1 ↔ k ≤ n := by
  cases n with
  | top => simp
  | coe n => exact_mod_cast Nat.lt_succ_iff

/-! ### Rounds -/

/-- What comes of a round: the attempt succeeds, or the policy answers to its error. -/
inductive Round (ε α : Type) where
  | succeeded (outcome : α)
  | refused (error : ClaimError) (given : ε)
  | granted (error : ClaimError)

/-- An attempt, the report of its failure, and a world with states `τ` to make it in. -/
structure Attempts (Op : Type) (Answer : Op → Type) (τ α : Type) where
  handler : (op : Op) → τ → Answer op × τ
  attempt : Program Op Answer (Except ClaimError α)
  report : ClaimError → Program Op Answer Unit

namespace Attempts

variable {Op : Type} {Answer : Op → Type} {τ α σ ε : Type} (a : Attempts Op Answer τ α)
  (policy : RetryPolicy (Program Op Answer) σ ε)

/-- The report of a failure, and the answer of the policy to it. -/
def answer (e : ClaimError) (t : τ) (s : σ) : Round ε α × τ × σ :=
  match (policy.eval s e).run a.handler ((a.report e).run a.handler t).2 with
  | ((.ok (), s), t) => (.granted e, t, s)
  | ((.error given, s), t) => (.refused e given, t, s)

/-- One round, from a state of the world and what the policy remembers. -/
def round (x : τ × σ) : Round ε α × τ × σ :=
  match a.attempt.run a.handler x.1 with
  | (.ok outcome, t) => (.succeeded outcome, t, x.2)
  | (.error e, t) => a.answer policy e t x.2

/-- The world and the policy before a round, if all rounds before it have taken place. -/
def before (x : τ × σ) (k : ℕ) : τ × σ := (fun y => (a.round policy y).2)^[k] x

/-- What comes of a round, if all rounds before it have taken place. -/
def result (x : τ × σ) (k : ℕ) : Round ε α := (a.round policy (a.before policy x k)).1

/-- How many attempts fail before the first one that succeeds. -/
noncomputable def failures (x : τ × σ) : ℕ∞ :=
  firstIndex fun k => ∃ outcome, a.result policy x k = .succeeded outcome

/-- The first rounds end with the policy allowing another one, after certain errors. -/
def Grants (x : τ × σ) (errors : List ClaimError) : Prop :=
  ∀ k, (hk : k < errors.length) → a.result policy x k = .granted errors[k]

/-- A loop that makes no more than a given number of attempts does what the rounds say, up to the
first success or refusal. It asks the policy once about each error before that, in order. -/
structure RunsRounds (loop : ℕ → σ → Program Op Answer (Retried ε α × List ClaimError))
    (x : τ × σ) : Prop where
  /-- Without a success or a refusal all attempts are made. -/
  unfinished : ∀ errors, a.Grants policy x errors →
    (loop errors.length x.2).run a.handler x.1 =
      ((.unfinished, errors), (a.before policy x errors.length).1)
  /-- A success ends the loop with its outcome, and the policy is not asked about it. -/
  finished : ∀ errors outcome, a.Grants policy x errors →
    a.result policy x errors.length = .succeeded outcome → ∀ limit > errors.length,
      (loop limit x.2).run a.handler x.1 =
        ((.finished outcome, errors),
          (a.attempt.run a.handler (a.before policy x errors.length).1).2)
  /-- A refusal ends the loop with the error that the policy gives. -/
  gaveUp : ∀ errors e given, a.Grants policy x errors →
    a.result policy x errors.length = .refused e given → ∀ limit > errors.length,
      (loop limit x.2).run a.handler x.1 =
        ((.gaveUp given, errors ++ [e]), (a.before policy x (errors.length + 1)).1)

/-- A loop makes one attempt more than fail before the first success, or than a policy allows
retries, whichever is less. It ends with that success, or with what the policy makes of the error
of the last attempt. -/
structure Allows (loop : ℕ → σ → Program Op Answer (Retried ε α × List ClaimError))
    (x : τ × σ) (retries : ℕ∞) (giveUp : ClaimError → ε) : Prop where
  attempts : ∀ limit : ℕ, ((loop limit x.2).run a.handler x.1).1.1 = .unfinished ↔
    (limit : ℕ∞) < min (a.failures policy x) retries + 1
  finished : ∀ k : ℕ, a.failures policy x = k → k ≤ retries → ∃ outcome,
    a.result policy x k = .succeeded outcome ∧ ∀ limit > k,
      ((loop limit x.2).run a.handler x.1).1.1 = .finished outcome
  gaveUp : ∀ k : ℕ, retries = k → k < a.failures policy x → ∃ e,
    (a.attempt.run a.handler (a.before policy x k).1).1 = .error e ∧ ∀ limit > k,
      ((loop limit x.2).run a.handler x.1).1.1 = .gaveUp (giveUp e)

variable {a policy} {x : τ × σ}

theorem before_succ (x : τ × σ) (k : ℕ) :
    a.before policy x (k + 1) = a.before policy (a.round policy x).2 k :=
  Function.iterate_succ_apply _ k x

theorem before_succ' (x : τ × σ) (k : ℕ) :
    a.before policy x (k + 1) = (a.round policy (a.before policy x k)).2 :=
  Function.iterate_succ_apply' _ k x

theorem result_succ (x : τ × σ) (k : ℕ) :
    a.result policy x (k + 1) = a.result policy (a.round policy x).2 k := by
  rw [result, result, before_succ]

theorem round_of_error {e : ClaimError} (h : (a.attempt.run a.handler x.1).1 = .error e) :
    a.round policy x = a.answer policy e (a.attempt.run a.handler x.1).2 x.2 := by
  rw [round]
  split
  · rename_i heq
    rw [heq] at h
    cases h
  · rename_i heq
    rw [heq] at h
    cases h
    rw [heq]

theorem round_of_ok {outcome : α} (h : (a.attempt.run a.handler x.1).1 = .ok outcome) :
    a.round policy x = (.succeeded outcome, (a.attempt.run a.handler x.1).2, x.2) := by
  rw [round]
  split
  · rename_i heq
    rw [heq] at h
    cases h
    rw [heq]
  · rename_i heq
    rw [heq] at h
    cases h

/-- An answer is about an error, and no success. -/
theorem answer_ne_succeeded (e : ClaimError) (t : τ) (s : σ) (outcome : α) :
    (a.answer policy e t s).1 ≠ .succeeded outcome := by
  rw [answer]
  split <;> nofun

theorem round_eq_succeeded_iff {outcome : α} :
    (a.round policy x).1 = .succeeded outcome ↔
      (a.attempt.run a.handler x.1).1 = .ok outcome := by
  cases h : (a.attempt.run a.handler x.1).1 with
  | ok other => rw [round_of_ok h, Round.succeeded.injEq, Except.ok.injEq]
  | error e =>
    rw [round_of_error h]
    exact ⟨fun heq => absurd heq (answer_ne_succeeded e _ _ outcome), nofun⟩

/-! ### The rounds of a loop -/

/-- The first round of a loop, and the rest of it. -/
theorem run_retrying_succ (limit : ℕ) (x : τ × σ) :
    (retrying policy a.report a.attempt (limit + 1) x.2).run a.handler x.1 =
      match a.round policy x with
      | (.succeeded outcome, t, _) => ((.finished outcome, []), t)
      | (.refused e given, t, _) => ((.gaveUp given, [e]), t)
      | (.granted e, t, s) =>
        let rest := (retrying policy a.report a.attempt limit s).run a.handler t
        ((rest.1.1, e :: rest.1.2), rest.2) := by
  rw [retrying, Program.bind_eq_bind, Program.run_bind]
  cases h : (a.attempt.run a.handler x.1).1 with
  | ok outcome =>
    rw [round_of_ok h]
    rfl
  | error e =>
    rw [round_of_error h, answer]
    simp only [Program.bind_eq_bind, Program.run_bind]
    rcases (policy.eval x.2 e).run a.handler
      ((a.report e).run a.handler (a.attempt.run a.handler x.1).2).2 with ⟨⟨_ | _, s⟩, t⟩
    · rfl
    · simp only [Program.run_bind]
      rfl

theorem grants_cons {e : ClaimError} {errors : List ClaimError} :
    a.Grants policy x (e :: errors) ↔
      (a.round policy x).1 = .granted e ∧ a.Grants policy (a.round policy x).2 errors := by
  constructor
  · exact fun h => ⟨h 0 (Nat.zero_lt_succ _), fun k hk =>
      (result_succ x k).symm.trans (h (k + 1) (Nat.succ_lt_succ hk))⟩
  · rintro ⟨hfirst, hrest⟩ (_ | k) hk
    · exact hfirst
    · exact (result_succ x k).trans (hrest k (Nat.lt_of_succ_lt_succ hk))

/-- A loop goes through the rounds that end with the policy allowing another one. -/
theorem run_retrying_of_grants {errors : List ClaimError} (h : a.Grants policy x errors)
    (limit : ℕ) :
    (retrying policy a.report a.attempt (limit + errors.length) x.2).run a.handler x.1 =
      let y := a.before policy x errors.length
      let rest := (retrying policy a.report a.attempt limit y.2).run a.handler y.1
      ((rest.1.1, errors ++ rest.1.2), rest.2) := by
  induction errors generalizing x with
  | nil => rfl
  | cons e errors ih =>
    obtain ⟨hfirst, hrest⟩ := grants_cons.mp h
    have hround : a.round policy x = (.granted e, (a.round policy x).2) := by rw [← hfirst]
    rw [List.length_cons, ← Nat.add_assoc, run_retrying_succ, hround]
    simp only [ih hrest, before_succ, List.cons_append]

/-- The loop of an attempt under a policy goes through the rounds and stops where it has to. -/
theorem runsRounds_retrying (x : τ × σ) :
    a.RunsRounds policy (retrying policy a.report a.attempt) x where
  unfinished errors h := by
    have hrun := run_retrying_of_grants h 0
    rw [Nat.zero_add] at hrun
    rw [hrun]
    simp only [retrying, Program.pure_eq_done, Program.run, List.append_nil]
  finished errors outcome h hresult limit hlimit := by
    obtain ⟨more, rfl⟩ := Nat.exists_eq_add_of_lt hlimit
    have hok := round_eq_succeeded_iff.mp hresult
    rw [show errors.length + more + 1 = more + 1 + errors.length by omega,
      run_retrying_of_grants h]
    simp only [run_retrying_succ, round_of_ok hok, List.append_nil]
  gaveUp errors e given h hresult limit hlimit := by
    obtain ⟨more, rfl⟩ := Nat.exists_eq_add_of_lt hlimit
    have hround : a.round policy (a.before policy x errors.length) =
        (.refused e given, a.before policy x (errors.length + 1)) := by
      rw [before_succ', ← hresult, result]
    rw [show errors.length + more + 1 = more + 1 + errors.length by omega,
      run_retrying_of_grants h]
    simp only [run_retrying_succ, hround]

/-! ### A number of retries -/

/-- As long as no attempt succeeds, a policy allows the first retries and refuses the next one. -/
def AllowsFirst (a : Attempts Op Answer τ α) (policy : RetryPolicy (Program Op Answer) σ ε)
    (x : τ × σ) (retries : ℕ∞) (giveUp : ClaimError → ε) : Prop :=
  ∀ (k : ℕ) (e : ClaimError), k ≤ a.failures policy x → k ≤ retries →
    (a.attempt.run a.handler (a.before policy x k).1).1 = .error e →
    a.result policy x k = if k < retries then .granted e else .refused e (giveUp e)

theorem error_of_lt_failures {k : ℕ} (h : k < a.failures policy x) :
    ∃ e, (a.attempt.run a.handler (a.before policy x k).1).1 = .error e := by
  cases hresult : (a.attempt.run a.handler (a.before policy x k).1).1 with
  | error e => exact ⟨e, rfl⟩
  | ok outcome =>
    exact absurd ⟨outcome, round_eq_succeeded_iff.mpr hresult⟩ (not_of_lt_firstIndex h)

/-- The errors of the first rounds, if none of them succeeds and all are allowed. -/
theorem AllowsFirst.exists_grants {retries : ℕ∞} {giveUp : ClaimError → ε}
    (h : a.AllowsFirst policy x retries giveUp) {k : ℕ} (hfailures : k ≤ a.failures policy x)
    (hretries : k ≤ retries) :
    ∃ errors, a.Grants policy x errors ∧ errors.length = k := by
  have hgranted : ∀ j < k, ∃ e, a.result policy x j = .granted e := by
    intro j hj
    have hj' : (j : ℕ∞) < k := Nat.cast_lt.mpr hj
    obtain ⟨e, he⟩ := error_of_lt_failures (lt_of_lt_of_le hj' hfailures)
    have hlt : (j : ℕ∞) < retries := lt_of_lt_of_le hj' hretries
    exact ⟨e, (h j e (hj'.le.trans hfailures) hlt.le he).trans (if_pos hlt)⟩
  choose error herror using hgranted
  exact ⟨List.ofFn fun j : Fin k => error j j.isLt,
    fun j hj => by simpa using herror j (by simpa using hj), List.length_ofFn⟩

/-- How many attempts a loop of rounds makes under a policy that allows a number of retries. -/
theorem RunsRounds.allows {loop : ℕ → σ → Program Op Answer (Retried ε α × List ClaimError)}
    (hloop : a.RunsRounds policy loop x) {retries : ℕ∞} {giveUp : ClaimError → ε}
    (h : a.AllowsFirst policy x retries giveUp) : a.Allows policy loop x retries giveUp := by
  have hfinished : ∀ k : ℕ, a.failures policy x = k → k ≤ retries → ∃ outcome,
      a.result policy x k = .succeeded outcome ∧ ∀ limit > k,
        ((loop limit x.2).run a.handler x.1).1.1 = .finished outcome := by
    intro k hk hretries
    obtain ⟨outcome, houtcome⟩ := of_firstIndex_eq hk
    obtain ⟨errors, hgrants, rfl⟩ := h.exists_grants hk.ge hretries
    exact ⟨outcome, houtcome, fun limit hlimit => by
      rw [hloop.finished errors outcome hgrants houtcome limit hlimit]⟩
  have hgaveUp : ∀ k : ℕ, retries = k → k < a.failures policy x → ∃ e,
      (a.attempt.run a.handler (a.before policy x k).1).1 = .error e ∧ ∀ limit > k,
        ((loop limit x.2).run a.handler x.1).1.1 = .gaveUp (giveUp e) := by
    intro k hk hfailures
    obtain ⟨e, he⟩ := error_of_lt_failures hfailures
    have hrefused := (h k e hfailures.le hk.ge he).trans (if_neg hk.not_gt)
    obtain ⟨errors, hgrants, rfl⟩ := h.exists_grants hfailures.le hk.ge
    exact ⟨e, he, fun limit hlimit => by
      rw [hloop.gaveUp errors e (giveUp e) hgrants hrefused limit hlimit]⟩
  refine ⟨fun limit => ⟨fun hcut => ?_, fun hlimit => ?_⟩, hfinished, hgaveUp⟩
  · rw [coe_lt_add_one_iff]
    by_contra hlimit
    obtain ⟨k, hk⟩ := ENat.ne_top_iff_exists.mp (not_le.mp hlimit).ne_top
    rw [← hk, Nat.cast_le, Nat.not_le] at hlimit
    rcases le_or_gt (a.failures policy x) retries with hle | hlt
    · rw [min_eq_left hle] at hk
      obtain ⟨outcome, -, hrun⟩ := hfinished k hk.symm (hk ▸ hle)
      rw [hrun limit hlimit] at hcut
      cases hcut
    · rw [min_eq_right hlt.le] at hk
      obtain ⟨e, -, hrun⟩ := hgaveUp k hk.symm (hk ▸ hlt)
      rw [hrun limit hlimit] at hcut
      cases hcut
  · rw [coe_lt_add_one_iff, le_min_iff] at hlimit
    obtain ⟨errors, hgrants, rfl⟩ := h.exists_grants hlimit.1 hlimit.2
    rw [hloop.unfinished errors hgrants]

/-! ### The policies -/

theorem result_of_error {k : ℕ} {e : ClaimError}
    (he : (a.attempt.run a.handler (a.before policy x k).1).1 = .error e) :
    a.result policy x k = (a.answer policy e
      (a.attempt.run a.handler (a.before policy x k).1).2 (a.before policy x k).2).1 := by
  rw [result, round_of_error he]

/-- What a policy remembers after a number of failures, if each of them changes it in one way. -/
theorem memory_of_failures {next : σ → σ}
    (hnext : ∀ e t s, (a.answer policy e t s).2.2 = next s) {k : ℕ}
    (hk : k ≤ a.failures policy x) : (a.before policy x k).2 = next^[k] x.2 := by
  induction k with
  | zero => rfl
  | succ k ih =>
    have hlt : (k : ℕ∞) < a.failures policy x :=
      lt_of_lt_of_le (Nat.cast_lt.mpr (Nat.lt_succ_self k)) hk
    obtain ⟨e, he⟩ := error_of_lt_failures hlt
    rw [before_succ', round_of_error he, hnext, ih hlt.le, Function.iterate_succ_apply']

/-- A policy whose answer depends on nothing but what it remembers allows as many retries as it
remembers something that lets it do so. -/
theorem allowsFirst_of_memory {allowed : σ → Bool} {next : σ → σ} {giveUp : ClaimError → ε}
    (hanswer : ∀ e t s, (a.answer policy e t s).1 =
      if allowed s then .granted e else .refused e (giveUp e))
    (hnext : ∀ e t s, (a.answer policy e t s).2.2 = next s) (x : τ × σ) :
    a.AllowsFirst policy x (firstIndex fun k => ¬ allowed (next^[k] x.2)) giveUp := by
  intro k e hk hretries he
  rw [result_of_error he, hanswer, memory_of_failures hnext hk]
  rcases hretries.lt_or_eq with hlt | heq
  · rw [if_pos hlt, if_pos (not_not.mp (not_of_lt_firstIndex hlt))]
  · rw [if_neg heq.not_lt, if_neg (of_firstIndex_eq heq.symm)]

theorem allowsFirst_never (t : τ) : a.AllowsFirst RetryPolicy.never (t, ()) 0 id := by
  have hallowed : ∀ e t s, (a.answer RetryPolicy.never e t s).1 =
      if (fun _ : Unit => false) s then .granted e else .refused e (id e) := fun _ _ _ => rfl
  have hnext : ∀ e t s, (a.answer RetryPolicy.never e t s).2.2 = id s := fun _ _ _ => rfl
  have hfirst : firstIndex (fun k => ¬ (fun _ : Unit => false) (id^[k] ()) = true) = (0 : ℕ) :=
    firstIndex_eq Bool.false_ne_true nofun
  rw [← Nat.cast_zero, ← hfirst]
  exact allowsFirst_of_memory hallowed hnext (t, ())

theorem allowsFirst_times (t : τ) (n : ℕ) :
    a.AllowsFirst RetryPolicy.times (t, n) n AbortedError.mk := by
  have hanswer : ∀ e t left, a.answer RetryPolicy.times e t left =
      (if decide (0 < left) then .granted e else .refused e ⟨e⟩,
        ((a.report e).run a.handler t).2, left.pred) := by
    intro e t left
    simp only [answer, RetryPolicy.times, ClaimError.isRetryable_eq_true, and_true]
    cases left <;> rfl
  have hfirst : firstIndex (fun k => ¬ decide (0 < Nat.pred^[k] n) = true) = n :=
    firstIndex_eq (by simp [Nat.pred_iterate]) fun j hj => by
      simpa [Nat.pred_iterate] using hj
  rw [← hfirst]
  exact allowsFirst_of_memory (fun e t left => congrArg Prod.fst (hanswer e t left))
    (fun e t left => congrArg (fun y => y.2.2) (hanswer e t left)) (t, n)

/-- Pauses come to an end where there is none. -/
theorem allowsFirst_backoff (next : σ → Option Duration × σ)
    (pause : Duration → Program Op Answer Unit) (x : τ × σ) :
    a.AllowsFirst (RetryPolicy.backoff next pause) x
      (firstIndex fun k => (next ((fun s => (next s).2)^[k] x.2)).1 = none) AbortedError.mk := by
  have hanswer : ∀ e t s, (a.answer (RetryPolicy.backoff next pause) e t s).1 =
        (if (next s).1.isSome then .granted e else .refused e ⟨e⟩) ∧
      (a.answer (RetryPolicy.backoff next pause) e t s).2.2 = (next s).2 := by
    intro e t s
    simp only [answer, RetryPolicy.backoff, ClaimError.isRetryable_eq_true, if_true]
    rcases next s with ⟨_ | d, s'⟩
    · exact ⟨rfl, rfl⟩
    · simp only [Program.bind_eq_bind, Program.run_bind]
      exact ⟨rfl, rfl⟩
  have hallows := allowsFirst_of_memory (fun e t s => (hanswer e t s).1)
    (fun e t s => (hanswer e t s).2) x
  simpa only [Bool.not_eq_true, Option.isSome_eq_false_iff, Option.isNone_iff_eq_none]
    using hallows

end Attempts

/-! ### The operations of a registry -/

/-- A loop of attempts under a policy of any kind. -/
abbrev RetryLoop (Op : Type) (Answer : Op → Type) (α : Type) :=
  ∀ {σ ε : Type}, RetryPolicy (Program Op Answer) σ ε → ℕ → σ →
    Program Op Answer (Retried ε α × List ClaimError)

/-- A loop goes through the rounds of an attempt under every policy. Under the policies that are
there, it makes one attempt more than they allow retries, unless one succeeds before. -/
structure RetriesWhileAllowed {Op : Type} {Answer : Op → Type} {τ α : Type}
    (a : Attempts Op Answer τ α) (loop : RetryLoop Op Answer α) : Prop where
  rounds : ∀ {σ ε : Type} (policy : RetryPolicy (Program Op Answer) σ ε) (t : τ) (s : σ),
    a.RunsRounds policy (loop policy) (t, s)
  never : ∀ t : τ, a.Allows RetryPolicy.never (loop RetryPolicy.never) (t, ()) 0 id
  times : ∀ (t : τ) (n : ℕ),
    a.Allows RetryPolicy.times (loop RetryPolicy.times) (t, n) n AbortedError.mk
  backoff : ∀ {σ : Type} (next : σ → Option Duration × σ)
    (pause : Duration → Program Op Answer Unit) (t : τ) (s : σ),
    a.Allows (RetryPolicy.backoff next pause) (loop (RetryPolicy.backoff next pause)) (t, s)
      (firstIndex fun k => (next ((fun s => (next s).2)^[k] s)).1 = none) AbortedError.mk

section Registry

variable {Op : Type} {Answer : Op → Type} {τ : Type}

theorem retriesWhileAllowed_retrying {α : Type} (a : Attempts Op Answer τ α) :
    RetriesWhileAllowed a fun policy => retrying policy a.report a.attempt where
  rounds _ t s := Attempts.runsRounds_retrying (t, s)
  never t := (Attempts.runsRounds_retrying _).allows (Attempts.allowsFirst_never t)
  times t n := (Attempts.runsRounds_retrying _).allows (Attempts.allowsFirst_times t n)
  backoff next pause t s :=
    (Attempts.runsRounds_retrying _).allows (Attempts.allowsFirst_backoff next pause (t, s))

namespace Registry

variable (registry : Registry) (handler : (op : Op) → τ → Answer op × τ)
  (perform : ∀ {α : Type}, Procedure α → Program Op Answer α) (descriptor : Descriptor)

/-- Attempts to claim the identity of a descriptor. -/
def creating : Attempts Op Answer τ CreateOutcome where
  handler := handler
  attempt := perform (registry.create descriptor)
  report e := perform (Procedure.report (.creatingFailed descriptor.rowKey e))

/-- Attempts to give up the identity of a descriptor. -/
def deleting : Attempts Op Answer τ RemoveOutcome where
  handler := handler
  attempt := perform (registry.delete descriptor)
  report e := perform (Procedure.report (.deletingFailed descriptor.rowKey e))

/-- **Claiming and giving up identities is repeated for as long as a policy allows.** Whatever
the store does over the attempts, a policy is asked once after each failure, with the error of
that attempt; the first success ends the loop with its outcome and the policy is not asked, and
the first refusal ends it with the error of the policy and nothing else is done. With no retries,
a number of them or a series of pauses, there is one attempt more than retries are allowed, or
than fail before the first success if these are less, and a failure is that of the last
attempt. -/
theorem retries_while_allowed :
    RetriesWhileAllowed (registry.creating handler perform descriptor)
      (registry.createWith perform descriptor) ∧
    RetriesWhileAllowed (registry.deleting handler perform descriptor)
      (registry.deleteWith perform descriptor) :=
  ⟨retriesWhileAllowed_retrying _, retriesWhileAllowed_retrying _⟩

end Registry

end Registry

end ClusterIdentity
