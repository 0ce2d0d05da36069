import ClusterIdentity.Proofs.Interleaving

/-!
# Schedules

When nothing goes wrong, a run is settled by the order in which the participants move and by what
the clock shows them. One schedule can therefore be played by two systems, and if whatever the
first one asks of its store the second one asks of a store of its own in some other way, they come
to the same results move by move.

## Main definitions

* `Move`, `State.play`: what a schedule consists of, and the state that it leads to
* `Pairing`: how requests to one store, their answers and its contents correspond to those of
  another
* `Pairing.Alike`: two procedures send corresponding requests and return the same
* `Reports`: a procedure that makes no difference to that
* `Pairing.AlikeStates`: two systems that are equally far

## Main statements

* `reaches_iff_play`: the states that are reached are those to which schedules lead
* `Pairing.Alike.bind`: sequences of procedures that are alike
* `Pairing.play_alike`: systems whose programs are alike stay alike under every schedule

## Design notes

Events are for information only. Either of two procedures may report more than the other, so that
their histories need not correspond.
-/

namespace ClusterIdentity.Interleaving

/-! ### Playing a schedule -/

/-- One move of a participant: it makes a call, or has the request answered that it sent. -/
inductive Move (ι κ : Type) where
  | call (participant : ι) (job : κ) (now : UInt64)
  | answer (participant : ι) (now : UInt64)

variable {ι κ ℓ : Type} [DecidableEq ι]

/-- What a participant keeps in mind, whether or not it is at work. -/
def Activity.note : Activity ℓ → ℓ
  | idle note => note
  | sending fallback _ _ => fallback

/-- The request that a participant waits to have answered. -/
def Activity.request? : Activity ℓ → Option StoreCall
  | idle _ => none
  | sending _ call _ => some call

/-- The state after a move. Who is at work makes no call, and who is not has nothing answered. -/
def State.move (program : κ → ℓ → Procedure ℓ) (s : State ι ℓ) : Move ι κ → State ι ℓ
  | .call i job now =>
    match s.activity i with
    | .idle note => s.goOn i note now (program job note) s.toScene
    | .sending .. => s
  | .answer i now =>
    match s.activity i with
    | .idle _ => s
    | .sending fallback call next =>
      s.goOn i fallback now (next (s.serve i .pass call).1) (s.serve i .pass call).2

/-- The state to which a schedule leads. -/
def State.play (program : κ → ℓ → Procedure ℓ) (s : State ι ℓ) (moves : List (Move ι κ)) :
    State ι ℓ :=
  moves.foldl (State.move program) s

/-- Participants that may do any job at any time, with nothing going wrong. -/
def jobRules (ι : Type) (program : κ → ℓ → Procedure ℓ) : Rules ι ℓ where
  reliable := True
  allows _ note fallback p := fallback = note ∧ ∃ job, p = program job note

variable {program : κ → ℓ → Procedure ℓ}

theorem State.move_reaches (s : State ι ℓ) (move : Move ι κ) :
    Reaches (jobRules ι program) s (s.move program move) := by
  cases move with
  | call i job now =>
    rw [State.move]
    split
    · rename_i note hidle
      exact .single (.call now hidle ⟨rfl, job, rfl⟩)
    · exact .refl
  | answer i now =>
    rw [State.move]
    split
    · exact .refl
    · rename_i hsending
      exact .single (.answer .pass now hsending fun _ => rfl)

/-- Every step is a move. -/
theorem Step.exists_move {s s' : State ι ℓ} (h : Step (jobRules ι program) s s') :
    ∃ move : Move ι κ, s' = s.move program move := by
  cases h with
  | @call i note fallback p now hidle hallows =>
    obtain ⟨rfl, job, rfl⟩ := hallows
    exact ⟨.call i job now, by simp only [State.move, hidle]⟩
  | @answer i fallback call next verdict now hsending hverdict =>
    obtain rfl := hverdict trivial
    exact ⟨.answer i now, by simp only [State.move, hsending]⟩
  | abandon hfaulty hsending => exact absurd trivial hfaulty

/-- The states that participants reach are those to which schedules lead. -/
theorem reaches_iff_play {s s' : State ι ℓ} :
    Reaches (jobRules ι program) s s' ↔ ∃ moves, s' = s.play program moves := by
  constructor
  · intro h
    induction h with
    | refl => exact ⟨[], rfl⟩
    | tail _ hstep ih =>
      obtain ⟨moves, rfl⟩ := ih
      obtain ⟨move, rfl⟩ := hstep.exists_move
      exact ⟨moves ++ [move], by simp only [State.play, List.foldl_append, List.foldl]⟩
  · rintro ⟨moves, rfl⟩
    induction moves generalizing s with
    | nil => exact .refl
    | cons move moves ih => exact (s.move_reaches move).trans ih

/-! ### Two systems -/

/-- A procedure does nothing but report, and returns a result. -/
inductive Reports {α : Type} (a : α) : Procedure α → Prop
  | done : Reports a (.done a)
  | report {event : Event} {next : Unit → Procedure α} (h : Reports a (next ())) :
    Reports a (.perform (.report event) next)

theorem Reports.bind {α β : Type} {a : α} {b : β} {p : Procedure α} {f : α → Procedure β}
    (h : Reports a p) (hf : Reports b (f a)) : Reports b (p.bind f) := by
  induction h with
  | done => exact hf
  | report _ ih => exact .report ih

/-- How what one store is asked, what it answers and what it holds correspond to what another
one is asked, answers and holds. -/
structure Pairing where
  calls : StoreCall → StoreCall → Prop
  answers : (call call' : StoreCall) → call.Reply → call'.Reply → Prop
  contents : Contents → Contents → Prop
  /-- Corresponding requests to corresponding stores are answered alike and leave them so. -/
  served : ∀ {call call' : StoreCall} {c c' : Contents}, calls call call' → contents c c' →
    answers call call' (c.perform call).1 (c'.perform call').1 ∧
      contents (c.perform call).2 (c'.perform call').2

namespace Pairing

variable (P : Pairing) {α β : Type}

/-- Two procedures send corresponding requests, as long as these are answered alike, and return
the same. -/
inductive Alike : Procedure α → Procedure α → Prop
  | done (a : α) : Alike (.done a) (.done a)
  | call {call call' : StoreCall} {next : Except StoreError call.Reply → Procedure α}
    {next' : Except StoreError call'.Reply → Procedure α} (hcall : P.calls call call')
    (hnext : ∀ reply reply', P.answers call call' reply reply' →
      Alike (next (.ok reply)) (next' (.ok reply'))) :
    Alike (.perform (.call call) next) (.perform (.call call') next')
  | reportLeft {event : Event} {next : Unit → Procedure α} {p : Procedure α}
    (h : Alike (next ()) p) : Alike (.perform (.report event) next) p
  | reportRight {event : Event} {next : Unit → Procedure α} {p : Procedure α}
    (h : Alike p (next ())) : Alike p (.perform (.report event) next)
  | clock {next next' : UInt64 → Procedure α} (h : ∀ now, Alike (next now) (next' now)) :
    Alike (.perform .clock next) (.perform .clock next')
  | pause {duration : Duration} {next next' : Unit → Procedure α} (h : Alike (next ()) (next' ())) :
    Alike (.perform (.pause duration) next) (.perform (.pause duration) next')

variable {P}

/-- Sequences are alike if their parts are. -/
theorem Alike.bind {p p' : Procedure α} {f f' : α → Procedure β} (h : P.Alike p p')
    (hf : ∀ a, P.Alike (f a) (f' a)) : P.Alike (p.bind f) (p'.bind f') := by
  induction h with
  | done a => exact hf a
  | call hcall _ ih => exact .call hcall ih
  | reportLeft _ ih => exact .reportLeft ih
  | reportRight _ ih => exact .reportRight ih
  | clock _ ih => exact .clock ih
  | pause _ ih => exact .pause ih

theorem Alike.report (event event' : Event) :
    P.Alike (Procedure.report event) (Procedure.report event') :=
  .reportLeft (.reportRight (.done ()))

/-- What comes after reports decides whether procedures are alike. -/
theorem Alike.of_reports {a a' : α} {p p' : Procedure α} {f f' : α → Procedure β}
    (hp : Reports a p) (hp' : Reports a' p') (h : P.Alike (f a) (f' a')) :
    P.Alike (p.bind f) (p'.bind f') := by
  induction hp with
  | done =>
    induction hp' with
    | done => exact h
    | report _ ih => exact .reportRight ih
  | report _ ih => exact .reportLeft ih

/-- Two participants are equally far, and keep the same notes. -/
inductive AlikeActivities : Activity ℓ → Activity ℓ → Prop
  | idle (note : ℓ) : AlikeActivities (.idle note) (.idle note)
  | sending (fallback : ℓ) {call call' : StoreCall}
    {next : Except StoreError call.Reply → Procedure ℓ}
    {next' : Except StoreError call'.Reply → Procedure ℓ} (hcall : P.calls call call')
    (hnext : ∀ reply reply', P.answers call call' reply reply' →
      P.Alike (next (.ok reply)) (next' (.ok reply'))) :
    AlikeActivities (.sending fallback call next) (.sending fallback call' next')

theorem AlikeActivities.note_eq {activity activity' : Activity ℓ}
    (h : P.AlikeActivities activity activity') : activity'.note = activity.note := by
  cases h <;> rfl

/-- What is the same of all corresponding requests is so of those that wait to be answered. -/
theorem AlikeActivities.request_eq {γ : Type} {activity activity' : Activity ℓ}
    (h : P.AlikeActivities activity activity') {f : StoreCall → γ}
    (hf : ∀ call call', P.calls call call' → f call' = f call) :
    activity'.request?.map f = activity.request?.map f := by
  cases h with
  | idle note => rfl
  | sending fallback hcall hnext => exact congrArg some (hf _ _ hcall)

/-- Two systems whose stores correspond and whose participants are equally far. -/
structure AlikeStates (P : Pairing) (s s' : State ι ℓ) : Prop where
  contents : P.contents s.contents s'.contents
  activity : ∀ i, P.AlikeActivities (s.activity i) (s'.activity i)

omit [DecidableEq ι] in
/-- Procedures that are alike have come equally far when they send their next requests. -/
theorem Alike.advance {p p' : Procedure ℓ} (h : P.Alike p p') (i : ι) (fallback : ℓ) (now : UInt64)
    (scene scene' : Scene ι) :
    P.AlikeActivities ((advance i now p scene).1.activity fallback)
      ((advance i now p' scene').1.activity fallback) := by
  induction h generalizing scene scene' with
  | done note => exact .idle note
  | call hcall hnext _ => exact .sending fallback hcall hnext
  | @reportLeft event _ _ _ ih => exact ih (scene.report i event) scene'
  | @reportRight event _ _ _ ih => exact ih scene (scene'.report i event)
  | clock _ ih => exact ih now scene scene'
  | pause _ ih => exact ih scene scene'

namespace AlikeStates

variable {s s' : State ι ℓ}

/-- Both systems go on alike if the procedures that go on are alike. -/
theorem goOn (h : P.AlikeStates s s') {p p' : Procedure ℓ} (hp : P.Alike p p') (i : ι)
    (fallback : ℓ) (now : UInt64) {scene scene' : Scene ι}
    (hscene : P.contents scene.contents scene'.contents) :
    P.AlikeStates (s.goOn i fallback now p scene) (s'.goOn i fallback now p' scene') where
  contents := by
    rw [State.goOn, State.goOn, contents_advance, contents_advance]
    exact hscene
  activity j := by
    by_cases hj : j = i
    · subst hj
      simp only [State.goOn, Function.update_self]
      exact hp.advance j fallback now scene scene'
    · simp only [State.goOn, Function.update_of_ne hj]
      exact h.activity j

/-- One move takes both systems equally far. -/
theorem move {program program' : κ → ℓ → Procedure ℓ} (h : P.AlikeStates s s')
    (hprogram : ∀ job note, P.Alike (program job note) (program' job note)) (move : Move ι κ) :
    P.AlikeStates (s.move program move) (s'.move program' move) := by
  cases move with
  | call i job now =>
    have hi := h.activity i
    simp only [State.move]
    generalize s.activity i = activity, s'.activity i = activity' at hi
    cases hi with
    | idle note => exact h.goOn (hprogram job note) i note now h.contents
    | sending fallback hcall hnext => exact h
  | answer i now =>
    have hi := h.activity i
    simp only [State.move]
    generalize s.activity i = activity, s'.activity i = activity' at hi
    cases hi with
    | idle note => exact h
    | sending fallback hcall hnext =>
      obtain ⟨hanswers, hcontents⟩ := P.served hcall h.contents
      exact h.goOn (hnext _ _ hanswers) i fallback now hcontents

end AlikeStates

/-- **Systems whose programs are alike stay alike.** One schedule takes both equally far: every
participant has come to the same notes and waits in the one system if it does in the other. -/
theorem play_alike {program program' : κ → ℓ → Procedure ℓ} {s s' : State ι ℓ}
    (h : P.AlikeStates s s')
    (hprogram : ∀ job note, P.Alike (program job note) (program' job note))
    (moves : List (Move ι κ)) :
    P.AlikeStates (s.play program moves) (s'.play program' moves) := by
  induction moves generalizing s s' with
  | nil => exact h
  | cons move moves ih => exact ih (h.move hprogram move)

end Pairing

end ClusterIdentity.Interleaving
