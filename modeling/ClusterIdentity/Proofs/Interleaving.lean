import Mathlib.Logic.Function.Basic
import Mathlib.Logic.Relation
import ClusterIdentity.Effect
import ClusterIdentity.Simulation.Interceptor
import ClusterIdentity.Table.Contents

/-!
# Interleaved procedures

Any number of participants work on one store. Each makes one call at a time, and a call takes
effect request by request, with requests of other participants in between. A request may fail
before or after it took effect, and a call may be abandoned between two of its requests.

## Main definitions

* `Act`, `Scene`: what participants do, and what they share
* `advance`: runs a procedure up to its next request
* `Rules`: which calls participants may make, and whether anything may go wrong
* `State`, `Step`: one participant starts a call, has a request answered, or abandons its call
* `Scene.answer`: runs a procedure with nobody else about

## Main statements

* `goOn_bind_reaches`: a procedure that is left alone ends as if it were run alone

## Design notes

All that a procedure does between two requests is local to it, so it is one step with the request
before it. The clock may show anything at each step.
-/

namespace ClusterIdentity.Interleaving

open Simulation (Verdict)

/-- One thing that a participant does. -/
inductive Act where
  /-- It sends a request, which reaches the store or is lost on its way. -/
  | sent (call : StoreCall) (reached : Bool)
  | reported (event : Event)

/-- What participants share: the store, and the record of what was done, the latest first. -/
structure Scene (ι : Type) where
  contents : Contents
  history : List (ι × Act)

/-- Serves a request with nothing going wrong. -/
def steady (call : StoreCall) (contents : Contents) : Except StoreError call.Reply × Contents :=
  (.ok (contents.perform call).1, (contents.perform call).2)

/-- What becomes of the contents: the request is lost on its way, or it is served. -/
inductive Delivered (call : StoreCall) (contents : Contents) : Bool → Contents → Prop where
  | lost : Delivered call contents false contents
  | served : Delivered call contents true (contents.perform call).2

theorem Delivered.eq_or {call : StoreCall} {contents contents' : Contents} {reached : Bool}
    (h : Delivered call contents reached contents') :
    contents' = contents ∨ contents' = (contents.perform call).2 := by
  cases h with
  | lost => exact .inl rfl
  | served => exact .inr rfl

theorem delivered_serve (verdict : Verdict) (call : StoreCall) (contents : Contents) :
    Delivered call contents verdict.reachesStore (verdict.serve steady call contents).2 := by
  cases verdict with
  | pass => exact .served
  | refuse error => exact .lost
  | failAfter error => cases call <;> exact .served
  | cutScan rows error => cases call <;> exact .served

/-- A request other than a scan is served, or it fails before or after it was served. -/
theorem steady_cases (verdict : Verdict) {call : StoreCall} (contents : Contents)
    (hscan : call.kind ≠ .scan) :
    (verdict.reachesStore = true ∧ verdict.serve steady call contents =
        (.ok (contents.perform call).1, (contents.perform call).2)) ∨
      verdict ≠ .pass ∧ ∃ error contents',
        Delivered call contents verdict.reachesStore contents' ∧
        verdict.serve steady call contents = (.error error, contents') := by
  cases verdict with
  | pass => exact .inl ⟨rfl, rfl⟩
  | refuse error => exact .inr ⟨nofun, error, contents, .lost, rfl⟩
  | failAfter error =>
    refine .inr ⟨nofun, error, (contents.perform call).2, .served, ?_⟩
    cases call with
    | scan table filter limit => exact (hscan rfl).elim
    | put table key attributes condition => rfl
    | delete table key scope condition => rfl
    | batchGet table keys => rfl
  | cutScan rows error =>
    refine .inl ⟨rfl, ?_⟩
    cases call with
    | scan table filter limit => exact (hscan rfl).elim
    | put table key attributes condition => rfl
    | delete table key scope condition => rfl
    | batchGet table keys => rfl

namespace Scene

variable {ι : Type}

/-- The scene after a participant reported an event. -/
def report (s : Scene ι) (i : ι) (event : Event) : Scene ι :=
  { s with history := (i, .reported event) :: s.history }

/-- The scene after a participant sent a request that left the contents given. -/
def sent (s : Scene ι) (i : ι) (call : StoreCall) (reached : Bool) (contents : Contents) :
    Scene ι :=
  ⟨contents, (i, .sent call reached) :: s.history⟩

/-- The answer to a participant's request and the scene after it. -/
def serve (s : Scene ι) (i : ι) (verdict : Verdict) (call : StoreCall) :
    Except StoreError call.Reply × Scene ι :=
  ((verdict.serve steady call s.contents).1,
    s.sent i call verdict.reachesStore (verdict.serve steady call s.contents).2)

/-- A request other than a scan is served, or it fails before or after it was served. -/
theorem serve_cases (s : Scene ι) (i : ι) (verdict : Verdict) {call : StoreCall}
    (hscan : call.kind ≠ .scan) :
    s.serve i verdict call =
        (.ok (s.contents.perform call).1, s.sent i call true (s.contents.perform call).2) ∨
      verdict ≠ .pass ∧ ∃ error reached contents,
        Delivered call s.contents reached contents ∧
        s.serve i verdict call = (.error error, s.sent i call reached contents) := by
  rcases steady_cases verdict s.contents hscan with ⟨hreached, h⟩ | ⟨hne, error, contents, hlost, h⟩
  · refine .inl ?_
    rw [serve, h, hreached]
  · refine .inr ⟨hne, error, _, contents, hlost, ?_⟩
    rw [serve, h]

/-- Carries out an effect for a participant with nothing going wrong. -/
def answer (i : ι) (now : UInt64) : (effect : Effect) → Scene ι → effect.Answer × Scene ι
  | .call call, s => s.serve i .pass call
  | .report event, s => ((), s.report i event)
  | .clock, s => (now, s)
  | .pause _, s => ((), s)

end Scene

/-- How far a procedure came: to its end, or to a request that is still to be answered. -/
inductive Pending (α : Type) where
  | finished (result : α)
  | sending (call : StoreCall) (next : Except StoreError call.Reply → Procedure α)

/-- Runs a participant's procedure up to its next request or to its end. -/
def advance {ι α : Type} (i : ι) (now : UInt64) : Procedure α → Scene ι → Pending α × Scene ι
  | .done a, s => (.finished a, s)
  | .perform (.call call) next, s => (.sending call next, s)
  | .perform (.report event) next, s => advance i now (next ()) (s.report i event)
  | .perform .clock next, s => advance i now (next now) s
  | .perform (.pause _) next, s => advance i now (next ()) s

/-- What a procedure does between two requests changes nothing in the store. -/
theorem contents_advance {ι α : Type} (i : ι) (now : UInt64) (p : Procedure α) (s : Scene ι) :
    (advance i now p s).2.contents = s.contents := by
  induction p generalizing s with
  | done a => rfl
  | perform op next ih =>
    cases op with
    | call call => rfl
    | report event => exact ih () (s.report i event)
    | clock => exact ih now s
    | pause duration => exact ih () s

/-- What a participant is doing. Between calls it keeps a note; a call returns the next one, and
should it be abandoned, its fallback is kept instead. -/
inductive Activity (ℓ : Type) where
  | idle (note : ℓ)
  | sending (fallback : ℓ) (call : StoreCall)
      (next : Except StoreError call.Reply → Procedure ℓ)

/-- What a participant is doing whose call came this far. -/
def Pending.activity {ℓ : Type} (fallback : ℓ) : Pending ℓ → Activity ℓ
  | finished note => .idle note
  | sending call next => .sending fallback call next

/-- The shared scene and what each participant is doing. -/
structure State (ι ℓ : Type) extends Scene ι where
  activity : ι → Activity ℓ

/-- Nobody has done anything yet, and everyone keeps the same note. -/
def State.initial {ι ℓ : Type} (contents : Contents) (note : ℓ) : State ι ℓ :=
  ⟨⟨contents, []⟩, fun _ => .idle note⟩

/-- What participants may do, and what may happen to them. -/
structure Rules (ι ℓ : Type) where
  /-- No request fails and no call is abandoned. -/
  reliable : Prop
  /-- Which calls a participant may make by the note it keeps, and with which fallback. -/
  allows : ι → (note fallback : ℓ) → Procedure ℓ → Prop

variable {ι ℓ : Type} [DecidableEq ι]

/-- The state after a participant's procedure ran on from a scene to its next request. -/
def State.goOn (s : State ι ℓ) (i : ι) (fallback : ℓ) (now : UInt64) (p : Procedure ℓ)
    (scene : Scene ι) : State ι ℓ :=
  ⟨(advance i now p scene).2,
    Function.update s.activity i ((advance i now p scene).1.activity fallback)⟩

inductive Step (rules : Rules ι ℓ) (s : State ι ℓ) : State ι ℓ → Prop where
  | call {i : ι} {note fallback : ℓ} {p : Procedure ℓ} (now : UInt64)
      (hidle : s.activity i = .idle note) (hallows : rules.allows i note fallback p) :
      Step rules s (s.goOn i fallback now p s.toScene)
  /-- Its request is answered, and its call goes on. -/
  | answer {i : ι} {fallback : ℓ} {call : StoreCall}
      {next : Except StoreError call.Reply → Procedure ℓ} (verdict : Verdict) (now : UInt64)
      (hsending : s.activity i = .sending fallback call next)
      (hverdict : rules.reliable → verdict = .pass) :
      Step rules s
        (s.goOn i fallback now (next (s.serve i verdict call).1) (s.serve i verdict call).2)
  /-- It abandons its call; the request that was to be sent next never is. -/
  | abandon {i : ι} {fallback : ℓ} {call : StoreCall}
      {next : Except StoreError call.Reply → Procedure ℓ} (hfaulty : ¬ rules.reliable)
      (hsending : s.activity i = .sending fallback call next) :
      Step rules s { s with activity := Function.update s.activity i (.idle fallback) }

/-- A state to which moves of participants lead. -/
abbrev Reaches (rules : Rules ι ℓ) : State ι ℓ → State ι ℓ → Prop :=
  Relation.ReflTransGen (Step rules)

/-- From a state in which a participant sent a request, its call goes on once that is served. -/
theorem reaches_served {rules : Rules ι ℓ} {s s' : State ι ℓ} (h : Reaches rules s s') (i : ι)
    {fallback : ℓ} {call : StoreCall} {next : Except StoreError call.Reply → Procedure ℓ}
    (hsending : s'.activity i = .sending fallback call next) :
    Reaches rules s (s'.goOn i fallback 0 (next (s'.serve i .pass call).1)
      (s'.serve i .pass call).2) :=
  h.tail (.answer .pass 0 hsending fun _ => rfl)

/-! ### Running alone -/

@[simp] theorem State.goOn_goOn (s : State ι ℓ) (i : ι) (fallback : ℓ) (now : UInt64)
    (p q : Procedure ℓ) (scene scene' : Scene ι) :
    (s.goOn i fallback now p scene).goOn i fallback now q scene' =
      s.goOn i fallback now q scene' := by
  simp only [State.goOn, Function.update_idem]

/-- While nobody else moves and nothing goes wrong, the first part of a procedure comes to the
result and leaves the scene that it does when it is run alone. -/
theorem goOn_bind_reaches {α : Type} (rules : Rules ι ℓ) (s : State ι ℓ) (i : ι)
    (fallback : ℓ) (now : UInt64) (p : Procedure α) (f : α → Procedure ℓ) (scene : Scene ι) :
    Reaches rules (s.goOn i fallback now (p.bind f) scene)
      (s.goOn i fallback now (f (p.run (Scene.answer i now) scene).1)
        (p.run (Scene.answer i now) scene).2) := by
  -- each request is one step that passes, and what comes before the next is part of that step
  induction p generalizing scene with
  | done a => exact .refl
  | perform op next ih =>
    cases op with
    | call call =>
      have hsending : (s.goOn i fallback now ((Program.perform (.call call) next).bind f)
          scene).activity i = .sending fallback call fun answer => (next answer).bind f :=
        Function.update_self i _ s.activity
      have hstep : Step rules _ _ := Step.answer .pass now hsending fun _ => rfl
      rw [State.goOn_goOn] at hstep
      exact .head hstep (ih _ _)
    | report event => exact ih () (scene.report i event)
    | clock => exact ih now scene
    | pause duration => exact ih () scene

/-- The state after a participant made a call with nobody else about. -/
def State.alone (s : State ι ℓ) (i : ι) (now : UInt64) (p : Procedure ℓ) : State ι ℓ :=
  ⟨(p.run (Scene.answer i now) s.toScene).2,
    Function.update s.activity i (.idle (p.run (Scene.answer i now) s.toScene).1)⟩

@[simp] theorem State.activity_alone_self (s : State ι ℓ) (i : ι) (now : UInt64) (p : Procedure ℓ) :
    (s.alone i now p).activity i = .idle (p.run (Scene.answer i now) s.toScene).1 :=
  Function.update_self ..

theorem State.activity_alone_of_ne (s : State ι ℓ) {i j : ι} (h : j ≠ i) (now : UInt64)
    (p : Procedure ℓ) : (s.alone i now p).activity j = s.activity j :=
  Function.update_of_ne h ..

theorem State.toScene_alone_bind {α : Type} (s : State ι ℓ) (i : ι) (now : UInt64)
    (p : Procedure α) (note : α → ℓ) :
    (s.alone i now (p.bind fun a => .done (note a))).toScene =
      (p.run (Scene.answer i now) s.toScene).2 := by
  rw [State.alone, Program.run_bind]
  rfl

/-- A call that is left alone ends as if it were run alone. -/
theorem Step.call_reaches {rules : Rules ι ℓ} {s : State ι ℓ} {i : ι} {note fallback : ℓ}
    {p : Procedure ℓ} (now : UInt64) (hidle : s.activity i = .idle note)
    (hallows : rules.allows i note fallback p) : Reaches rules s (s.alone i now p) := by
  have h := goOn_bind_reaches rules s i fallback now p Program.done s.toScene
  rw [Program.bind_done] at h
  exact .head (.call now hidle hallows) h

end ClusterIdentity.Interleaving
