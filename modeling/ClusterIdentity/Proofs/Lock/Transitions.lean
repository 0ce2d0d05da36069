import Mathlib.Data.List.Chain
import ClusterIdentity.Lock.Protocol
import ClusterIdentity.Proofs.Identity.Keys
import ClusterIdentity.Proofs.Operations

/-!
# Transitions of an attempt

An attempt reports every move from one state to another. Whatever a store answers to its requests,
each move starts where the one before has ended and leads to a state that may follow, and none
starts in a state in which the attempt is over. The entry in the lock row is made in one state only.

## Main definitions

* `movesOf`, `visited`, `stateAfter`: the moves that a run reports, and the states it visits
* `Moves`: a procedure moves legally from a state on, whatever it is answered
* `Stays`: a procedure makes no moves
* `LegalRun`: what a legal run consists of

## Main statements

* `Moves.bind`: procedures that move legally are put together
* `Moves.legalRun`: every run of such a procedure is legal
* `transitions_legal`: runs of `acquire` and `release`
-/

namespace ClusterIdentity

/-- The move that an event tells of: from a state to a state. -/
def Event.move? : Event → Option (LockState × LockState)
  | lockMoved _ _ source target => some (source, target)
  | _ => none

namespace Locking

/-! ### Moves in a run -/

def moveOf? : Effect → Option (LockState × LockState)
  | .report event => event.move?
  | _ => none

/-- The moves that are reported among some effects, in order. -/
def movesOf (effects : List Effect) : List (LockState × LockState) := effects.filterMap moveOf?

/-- The states of an attempt that starts in a state. -/
def visited (start : LockState) (effects : List Effect) : List LockState :=
  start :: (movesOf effects).map Prod.snd

/-- The state in which an attempt is after some effects. -/
def stateAfter (start : LockState) (effects : List Effect) : LockState :=
  ((movesOf effects).map Prod.snd).getLastD start

/-- The run of an attempt that starts in a state: its moves are legal, and its requests are such
as may be sent in the state in which it sends them. -/
structure LegalRun (legal : LockState → LockState → Prop) (may : LockState → StoreCall → Prop)
    (start : LockState) (effects : List Effect) : Prop where
  /-- Each move starts in the state in which the attempt is. -/
  connected : (movesOf effects).map Prod.fst = (visited start effects).dropLast
  moves : ∀ move ∈ movesOf effects, legal move.1 move.2
  chain : (visited start effects).IsChain legal
  requests : ∀ before call after, effects = before ++ .call call :: after →
    may (stateAfter start before) call

section Runs

variable {legal : LockState → LockState → Prop} {may : LockState → StoreCall → Prop}
  {start source target : LockState} {effect : Effect} {effects : List Effect}

theorem movesOf_cons_none (h : moveOf? effect = none) :
    movesOf (effect :: effects) = movesOf effects :=
  List.filterMap_cons_none h

theorem movesOf_cons_some (h : moveOf? effect = some (source, target)) :
    movesOf (effect :: effects) = (source, target) :: movesOf effects :=
  List.filterMap_cons_some h

theorem stateAfter_cons_none (h : moveOf? effect = none) :
    stateAfter start (effect :: effects) = stateAfter start effects := by
  rw [stateAfter, movesOf_cons_none h, stateAfter]

theorem stateAfter_cons_some (h : moveOf? effect = some (source, target)) :
    stateAfter start (effect :: effects) = stateAfter target effects := by
  rw [stateAfter, movesOf_cons_some h, List.map_cons, List.getLastD_cons, stateAfter]

namespace LegalRun

theorem nil : LegalRun legal may start [] :=
  ⟨rfl, nofun, .singleton _, fun before _ _ h => by cases before <;> cases h⟩

/-- An effect that is not a move leaves an attempt in its state. -/
theorem cons_of_not_move (heffect : moveOf? effect = none)
    (hmay : ∀ call, effect = .call call → may start call)
    (h : LegalRun legal may start effects) : LegalRun legal may start (effect :: effects) := by
  refine ⟨?_, ?_, ?_, fun before call after heq => ?_⟩
  · rw [visited, movesOf_cons_none heffect]
    exact h.connected
  · rw [movesOf_cons_none heffect]
    exact h.moves
  · rw [visited, movesOf_cons_none heffect]
    exact h.chain
  · cases before with
    | nil => exact hmay call (List.cons.inj heq).1
    | cons first before =>
      obtain ⟨rfl, hrest⟩ := List.cons.inj heq
      rw [stateAfter_cons_none heffect]
      exact h.requests before call after hrest

/-- A move, and a run from where it ends. -/
theorem cons_of_move {event : Event} (hmove : event.move? = some (start, target))
    (hlegal : legal start target) (h : LegalRun legal may target effects) :
    LegalRun legal may start (.report event :: effects) := by
  have heffect : moveOf? (.report event) = some (start, target) := hmove
  refine ⟨?_, ?_, ?_, fun before call after heq => ?_⟩
  · rw [visited, movesOf_cons_some heffect, List.map_cons, List.map_cons, h.connected]
    rfl
  · rw [movesOf_cons_some heffect]
    exact List.forall_mem_cons.mpr ⟨hlegal, h.moves⟩
  · rw [visited, movesOf_cons_some heffect]
    exact .cons_cons hlegal h.chain
  · cases before with
    | nil => cases (List.cons.inj heq).1
    | cons first before =>
      obtain ⟨rfl, hrest⟩ := List.cons.inj heq
      rw [stateAfter_cons_some heffect]
      exact h.requests before call after hrest

theorem mono {legal' : LockState → LockState → Prop} (h : LegalRun legal may start effects)
    (himp : ∀ source target, legal source target → legal' source target) :
    LegalRun legal' may start effects :=
  ⟨h.connected, fun move hmove => himp _ _ (h.moves move hmove), h.chain.imp himp, h.requests⟩

/-- Every state but the last one is left by a legal move. -/
theorem exists_legal (h : LegalRun legal may start effects) :
    ∀ q ∈ (visited start effects).dropLast, ∃ next, legal q next := by
  intro q hq
  rw [← h.connected] at hq
  obtain ⟨move, hmove, rfl⟩ := List.mem_map.mp hq
  exact ⟨move.2, h.moves move hmove⟩

end LegalRun

end Runs

/-! ### Procedures that move legally -/

variable {α β : Type}

/-- Whatever it is answered, a procedure makes legal moves only, from a state on, and sends only
what may be sent in the state in which it is. -/
def Moves (legal : LockState → LockState → Prop) (may : LockState → StoreCall → Prop)
    (post : α → LockState → Prop) : Procedure α → LockState → Prop
  | .done a, q => post a q
  | .perform (.call call) next, q => may q call ∧ ∀ answer, Moves legal may post (next answer) q
  | .perform (.report event) next, q =>
    match event.move? with
    | none => Moves legal may post (next ()) q
    | some (source, target) =>
      source = q ∧ legal q target ∧ Moves legal may post (next ()) target
  | .perform .clock next, q => ∀ now, Moves legal may post (next now) q
  | .perform (.pause _) next, q => Moves legal may post (next ()) q

namespace Moves

variable {legal : LockState → LockState → Prop} {may : LockState → StoreCall → Prop}
  {post : α → LockState → Prop} {q : LockState}

theorem bind {post' : β → LockState → Prop} {p : Procedure α} {f : α → Procedure β}
    (hp : Moves legal may post p q) (hf : ∀ a q', post a q' → Moves legal may post' (f a) q') :
    Moves legal may post' (p.bind f) q := by
  induction p generalizing q with
  | done a => exact hf a q hp
  | perform op next ih =>
    cases op with
    | call call => exact ⟨hp.1, fun answer => ih answer (hp.2 answer)⟩
    | report event =>
      simp only [Program.bind, Moves] at hp ⊢
      split at hp
      · exact ih () hp
      · exact ⟨hp.1, hp.2.1, ih () hp.2.2⟩
    | clock => exact fun now => ih now (hp now)
    | pause duration => exact ih () hp

/-- Every run of a procedure that moves legally is legal, and ends as the procedure does. -/
theorem legalRun {σ : Type} {p : Procedure α} (hp : Moves legal may post p q)
    (handler : (effect : Effect) → σ → effect.Answer × σ) (s : σ) :
    LegalRun legal may q (p.operations handler s) ∧
      post (p.run handler s).1 (stateAfter q (p.operations handler s)) := by
  -- each effect is put in front of a run that is legal from where the effect leaves the attempt
  induction p generalizing q s with
  | done a => exact ⟨.nil, hp⟩
  | perform op next ih =>
    cases op with
    | call call =>
      obtain ⟨hrun, hpost⟩ := ih _ (hp.2 _) (handler (.call call) s).2
      exact ⟨hrun.cons_of_not_move rfl fun _ h => Effect.call.inj h ▸ hp.1, hpost⟩
    | report event =>
      rw [Moves] at hp
      split at hp
      next hmove =>
        have heffect : moveOf? (.report event) = none := hmove
        obtain ⟨hrun, hpost⟩ := ih () hp (handler (.report event) s).2
        refine ⟨hrun.cons_of_not_move heffect nofun, ?_⟩
        rw [Program.operations, stateAfter_cons_none heffect]
        exact hpost
      next source target hmove =>
        obtain ⟨rfl, hlegal, hnext⟩ := hp
        have heffect : moveOf? (.report event) = some (source, target) := hmove
        obtain ⟨hrun, hpost⟩ := ih () hnext (handler (.report event) s).2
        refine ⟨hrun.cons_of_move hmove hlegal, ?_⟩
        rw [Program.operations, stateAfter_cons_some heffect]
        exact hpost
    | clock =>
      obtain ⟨hrun, hpost⟩ := ih _ (hp _) (handler .clock s).2
      exact ⟨hrun.cons_of_not_move rfl nofun, hpost⟩
    | pause duration =>
      obtain ⟨hrun, hpost⟩ := ih () hp (handler (.pause duration) s).2
      exact ⟨hrun.cons_of_not_move rfl nofun, hpost⟩

end Moves

/-- A procedure leaves an attempt in its state. -/
def Stays (legal : LockState → LockState → Prop) (may : LockState → StoreCall → Prop)
    (p : Procedure α) (q : LockState) : Prop :=
  Moves legal may (fun _ q' => q' = q) p q

namespace Stays

variable {legal : LockState → LockState → Prop} {may : LockState → StoreCall → Prop}
  {q : LockState}

theorem bind {post : β → LockState → Prop} {p : Procedure α} {f : α → Procedure β}
    (hp : Stays legal may p q) (hf : ∀ a, Moves legal may post (f a) q) :
    Moves legal may post (p.bind f) q := by
  refine Moves.bind hp fun a q' hq => ?_
  subst hq
  exact hf a

theorem call {call : StoreCall} (hmay : may q call) : Stays legal may (Procedure.call call) q :=
  ⟨hmay, fun _ => rfl⟩

theorem report {event : Event} (hevent : event.move? = none) :
    Stays legal may (Procedure.report event) q := by
  simp only [Stays, Procedure.report, Program.ask, Moves, hevent]

end Stays

/-! ### What an attempt may do -/

/-- The moves of an attempt: to a state that may follow, and from one in which it is not over. -/
def GoesOn (source target : LockState) : Prop :=
  source.canBecome target = true ∧ source.isTerminal = false

/-- A write to the lock row of a row key is for an attempt that is locking. -/
def LocksOnly (k : RowKey) (q : LockState) : StoreCall → Prop
  | .put _ key _ _ => key = k.lock → q = .locking
  | _ => True

variable {k : RowKey} {i key : String} {locks : LockTable} {attempt : Attempt} {q : LockState}
  {legal : LockState → LockState → Prop}

/-- An attempt moves on, and the rest is done in the state it has moved to. -/
theorem moves_moveTo {may : LockState → StoreCall → Prop} {post : α → LockState → Prop}
    {next : LockState} {f : Attempt → Procedure α} (hlegal : legal attempt.state next)
    (hf : Moves legal may post (f { attempt with state := next }) next) :
    Moves legal may post ((attempt.moveTo next).bind f) attempt.state :=
  ⟨rfl, hlegal, hf⟩

theorem stays_enter (hkey : key = k.lock → q = .locking) :
    Stays legal (LocksOnly k) (locks.enter key i) q := by
  refine Stays.bind (Stays.call hkey) fun answer => ?_
  cases answer <;> rfl

theorem stays_entries : Stays legal (LocksOnly k) (locks.entries key) q := by
  refine Stays.bind (Stays.call trivial) fun answer => ?_
  cases answer <;> rfl

theorem stays_leave : Stays legal (LocksOnly k) (locks.leave key i) q := Stays.call trivial

theorem stays_settle {may : LockState → StoreCall → Prop} : Stays legal may locks.settle q := by
  rw [LockTable.settle]
  split <;> rfl

/-! ### An attempt up to its outcome -/

/-- Where an attempt ends before it cleans up: it holds the lock, or it may fail from there. -/
def Concluded (ended : Attempt × Except LockError Unit) (q : LockState) : Prop :=
  ended.1.state = q ∧
    match ended.2 with
    | .ok () => q = .locked
    | .error _ => GoesOn q .failed

theorem moves_verify (hstate : attempt.state = .locking) :
    Moves GoesOn (LocksOnly k) Concluded (locks.verify attempt) attempt.state := by
  have hfail : GoesOn attempt.state .failed := hstate ▸ ⟨rfl, rfl⟩
  refine stays_entries.bind fun answer => ?_
  cases answer with
  | error e => exact ⟨rfl, hfail⟩
  | ok holders =>
    show Moves _ _ _ (if LockTable.isSole attempt.contender holders then _ else _) _
    split
    · exact moves_moveTo (hstate ▸ ⟨rfl, rfl⟩) ⟨rfl, rfl⟩
    · exact ⟨rfl, hfail⟩

theorem moves_claim (attempt : Attempt) (hstate : attempt.state = .choosing) :
    Moves GoesOn (LocksOnly k) Concluded (locks.claim attempt) attempt.state := by
  refine moves_moveTo (hstate ▸ ⟨rfl, rfl⟩) ?_
  refine (stays_enter fun _ => rfl).bind fun answer => ?_
  cases answer with
  | error e => exact ⟨rfl, rfl, rfl⟩
  | ok _ => exact stays_settle.bind fun _ => moves_verify rfl

theorem moves_decide (attempt : Attempt) (hstate : attempt.state = .choosing)
    (choosing holders : Attributes) :
    Moves GoesOn (LocksOnly k) Concluded (locks.decide attempt choosing holders)
      attempt.state := by
  rw [LockTable.decide]
  split
  · exact ⟨rfl, hstate ▸ ⟨rfl, rfl⟩⟩
  · split
    · exact moves_moveTo (hstate ▸ ⟨rfl, rfl⟩) ⟨rfl, rfl, rfl⟩
    · exact moves_claim { attempt with heldBefore := _ } hstate

theorem moves_contend (attempt : Attempt) (hstate : attempt.state = .idle) :
    Moves GoesOn (LocksOnly k) Concluded (locks.contend attempt) attempt.state := by
  have hfail : GoesOn .choosing .failed := ⟨rfl, rfl⟩
  -- the first entry is made before locking, but in a row that is never a lock row
  have hkey : attempt.rowKey.choosing = k.lock → LockState.choosing = .locking := fun h =>
    (k.lock_ne_choosing _ h.symm).elim
  refine moves_moveTo (hstate ▸ ⟨rfl, rfl⟩) ?_
  refine (stays_enter hkey).bind fun answer => ?_
  cases answer with
  | error e => exact ⟨rfl, hfail⟩
  | ok _ =>
    refine stays_entries.bind fun answer => ?_
    cases answer with
    | error e => exact ⟨rfl, hfail⟩
    | ok choosing =>
      refine stays_entries.bind fun answer => ?_
      cases answer with
      | error e => exact ⟨rfl, hfail⟩
      | ok holders =>
        exact moves_decide { attempt with state := .choosing } rfl choosing holders

/-! ### Cleaning up -/

theorem stays_withdraw (error : LockError) :
    Stays legal (LocksOnly k) (locks.withdraw key i error) q := by
  refine Stays.bind stays_leave fun answer => ?_
  cases answer with
  | ok outcome => rfl
  | error cause => exact Stays.report rfl

theorem stays_cleanUp (error : LockError) :
    Stays legal (LocksOnly k) (locks.cleanUp attempt error) q := by
  have hchoosing : Stays legal (LocksOnly k) (locks.withdrawChoosing attempt error) q := by
    rw [LockTable.withdrawChoosing]
    split
    · rfl
    · exact stays_withdraw error
  refine Stays.bind hchoosing fun _ => ?_
  rw [LockTable.withdrawLock]
  split
  · exact stays_withdraw error
  · rfl

/-! ### Whole attempts -/

theorem moves_acquire (locks : LockTable) (k : RowKey) (i : String) :
    Moves GoesOn (LocksOnly k)
      (fun result q => match result with
        | .ok _ => q = .locked
        | .error _ => q = .failed) (locks.acquire k i) .idle := by
  refine (moves_contend (.start k i) rfl).bind ?_
  rintro ⟨attempt, outcome⟩ _ ⟨rfl, houtcome⟩
  cases outcome with
  | ok _ => exact (Stays.report rfl).bind fun _ => houtcome
  | error error =>
    refine (Stays.report rfl).bind fun _ => ?_
    refine (stays_cleanUp error).bind fun _ => ?_
    exact moves_moveTo houtcome rfl

/-- What is released is a lock that was held. -/
theorem moves_release (locks : LockTable) (k : RowKey) (i : String) :
    Moves (fun source target => source.canBecome target = true) (LocksOnly k)
      (fun result q => match result with
        | .ok .released => q = .released
        | _ => q = .locked) (locks.release k i) .locked := by
  refine stays_leave.bind fun answer => ?_
  match answer with
  | .error e => rfl
  | .ok (.deleted _) =>
    have hlegal : LockState.locked.canBecome .released = true := rfl
    refine moves_moveTo hlegal ?_
    exact (Stays.report rfl).bind fun _ => rfl
  | .ok .conditionFailed => exact (Stays.report rfl).bind fun _ => rfl

/-- **Transitions are legal.** Whatever the requests of an attempt are answered, one after the
other, each of its moves is from the state in which it is to one that may follow, and only while it
is locking does it write to the lock row. An attempt to take a lock starts by choosing. It leaves no
state in which it is over, and it ends with having locked exactly if it returns a hold and with
having failed exactly if it returns an error. A release moves from the held lock to the released one
exactly if it says so. -/
theorem transitions_legal (locks : LockTable) (k : RowKey) (i : String) {σ : Type}
    (handler : (effect : Effect) → σ → effect.Answer × σ) (s : σ) :
    (let effects := (locks.acquire k i).operations handler s
     let result := ((locks.acquire k i).run handler s).1
     LegalRun (fun source target => source.canBecome target = true) (LocksOnly k) .idle effects ∧
     (∃ rest, visited .idle effects = .idle :: .choosing :: rest) ∧
     (∀ q ∈ (visited .idle effects).dropLast, q.isTerminal = false) ∧
     (stateAfter .idle effects = .locked ↔ ∃ hold, result = .ok hold) ∧
     (stateAfter .idle effects = .failed ↔ ∃ error, result = .error error)) ∧
    (let effects := (locks.release k i).operations handler s
     let result := ((locks.release k i).run handler s).1
     LegalRun (fun source target => source.canBecome target = true) (LocksOnly k) .locked effects ∧
     (stateAfter .locked effects = .released ↔ result = .ok .released) ∧
     (stateAfter .locked effects = .locked ↔ result ≠ .ok .released)) := by
  constructor
  · obtain ⟨hrun, hend⟩ := (moves_acquire locks k i).legalRun handler s
    refine ⟨hrun.mono fun _ _ h => h.1, ⟨_, rfl⟩, fun q hq => ?_, ?_, ?_⟩
    · obtain ⟨next, hnext⟩ := hrun.exists_legal q hq
      exact hnext.2
    all_goals
      cases hresult : ((locks.acquire k i).run handler s).1 with
      | ok hold =>
        rw [hresult] at hend
        simp [hend]
      | error error =>
        rw [hresult] at hend
        simp [hend]
  · obtain ⟨hrun, hend⟩ := (moves_release locks k i).legalRun handler s
    refine ⟨hrun, ?_⟩
    match hresult : ((locks.release k i).run handler s).1 with
    | .ok .released =>
      rw [hresult] at hend
      simp [hend]
    | .ok .notHeld =>
      rw [hresult] at hend
      simp [hend]
    | .error error =>
      rw [hresult] at hend
      simp [hend]

/-- A store that refuses all requests turns an attempt away while it is choosing. -/
example : visited .idle ((LockTable.acquire ⟨"locks", .zero⟩ ⟨"app_rack_1"⟩ "a").operations
    (fun effect (_ : Unit) => match effect with
      | .call _ => (.error (.noSuchTable "locks"), ())
      | .report _ => ((), ())
      | .clock => ((0 : UInt64), ())
      | .pause _ => ((), ())) ()) = [.idle, .choosing, .failed] := by
  rfl

end Locking

end ClusterIdentity
