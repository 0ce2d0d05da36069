import ClusterIdentity.Claim.Error
import ClusterIdentity.Duration

/-!
# Retrying

An operation that fails may be repeated for as long as a policy allows. The policy is asked after
each failed attempt, with the error of that attempt, and answers whether to go on.

## Main definitions

* `RetryPolicy`, and the policies `RetryPolicy.never`, `RetryPolicy.times` and
  `RetryPolicy.backoff`
* `RetryPolicy.nextPause`: pauses taken from a list
* `retrying`: repeats an attempt under a policy
* `RetryPolicy.answers`: what a policy says to a series of errors

## Design notes

A policy may act before it answers (it may wait, for instance), so it lives in the monad of the
attempts. Nothing forces a policy to give up, and `retrying` therefore takes a limit on the
number of attempts. The first two policies defined here give up after a number of attempts that is
known beforehand, one, and one more than the retries; the third one needs one attempt more than
there are pauses, if these come to an end.
-/

namespace ClusterIdentity

/-- Decides after each failed attempt whether to try again; `σ` is what it remembers and `ε` the
error that it gives up with. -/
structure RetryPolicy (m : Type → Type) (σ ε : Type) where
  eval : σ → ClaimError → m (Except ε Unit × σ)

inductive Retried (ε α : Type) where
  | finished (outcome : α)
  | gaveUp (error : ε)
  /-- The limit on the number of attempts was reached. -/
  | unfinished

/-- The same outcome with the policy's error replaced. -/
def Retried.mapError {ε ε' α : Type} (f : ε → ε') : Retried ε α → Retried ε' α
  | .finished a => .finished a
  | .gaveUp e => .gaveUp (f e)
  | .unfinished => .unfinished

namespace RetryPolicy

variable {m : Type → Type} [Monad m] {σ ε : Type}

/-- Gives up at once, with the error itself. -/
def never : RetryPolicy m Unit ClaimError where
  eval s e := pure (.error e, s)

/-- Allows a number of further attempts, without waiting. -/
def times : RetryPolicy m Nat AbortedError where
  eval left e :=
    pure (if 0 < left ∧ e.isRetryable then (.ok (), left - 1) else (.error ⟨e⟩, left))

/-- Asks for the next pause before each further attempt and waits for as long; gives up where
there is none. -/
def backoff (next : σ → Option Duration × σ) (pause : Duration → m Unit) :
    RetryPolicy m σ AbortedError where
  eval s e :=
    if e.isRetryable then
      match next s with
      | (some d, s) => do
        pause d
        return (.ok (), s)
      | (none, s) => pure (.error ⟨e⟩, s)
    else pure (.error ⟨e⟩, s)

/-- The next pause of a list, and those after it. -/
def nextPause : List (Option Duration) → Option Duration × List (Option Duration)
  | [] => (none, [])
  | pause :: rest => (pause, rest)

/-- What the policy says to each error of a series, going on after it has given up. -/
def answers (policy : RetryPolicy m σ ε) : σ → List ClaimError → m (List (Except ε Unit))
  | _, [] => pure []
  | s, e :: rest => do
    let (answer, s) ← policy.eval s e
    let further ← policy.answers s rest
    return answer :: further

end RetryPolicy

/-- Repeats an attempt, at most `limit` times, until it succeeds or the policy gives up. Each
failure is reported before the policy is asked. Returns the errors that the policy was asked
about, in order. -/
def retrying {m : Type → Type} [Monad m] {σ ε α : Type} (policy : RetryPolicy m σ ε)
    (report : ClaimError → m Unit) (attempt : m (Except ClaimError α)) :
    Nat → σ → m (Retried ε α × List ClaimError)
  | 0, _ => pure (.unfinished, [])
  | limit + 1, s => do
    match ← attempt with
    | .ok outcome => return (.finished outcome, [])
    | .error e =>
      report e
      match ← policy.eval s e with
      | (.error given, _) => return (.gaveUp given, [e])
      | (.ok (), s) =>
        let (result, asked) ← retrying policy report attempt limit s
        return (result, e :: asked)

end ClusterIdentity
