import ClusterIdentity.Proofs.Claim.Alone
import ClusterIdentity.Proofs.Claim.Ownership
import ClusterIdentity.Proofs.Simulation.InMemory

/-!
# Giving up what is not there

A node that gives up an identity looks for the record by the place in its descriptor, but takes
the lock of the row key, which knows nothing of datacenters. So it can tell whether there is a
record only if descriptors of one machine for one row key name the same place.

## Main definitions

* `NotFoundTruthful`: a node that says that there is no record is right, and no record loses the
  lock that guards it

## Main statements

* `notFound_truthful_iff_consistent`: this is so exactly if descriptors are consistent
* `notFound_despite_record`: a machine that tells of another datacenter than before
-/

namespace ClusterIdentity.Claiming

open Interleaving Locking RowKey
open Simulation (World)

/-- A node that says that there is no record is right, and no record loses the lock that guards
it. -/
structure NotFoundTruthful (tokens locks : String) (D : Descriptor → Prop) : Prop where
  /-- If a node that nobody gets in the way of does not find a record, there is none. -/
  absent : ∀ s, Reaches (registryRules tokens locks D) (State.initial ∅ ()) s →
    ∀ registry : Registry, registry.tokens = tokens → registry.locks.name = locks →
    ∀ d, D d → ∀ world : World, world.Stores s.contents →
    ((registry.delete d).run World.performEffect world).1 = .ok .notFound →
    ∀ after, ((registry.delete d).run World.performEffect world).2.Stores after →
      after.row? tokens d.rowKey.text = none
  /-- A machine that is about to delete a lock row holds the lock, and there is no record. -/
  dismantled : ∀ s, Reaches (registryRules tokens locks D) (State.initial ∅ ()) s →
    ∀ i fallback application rack slot condition next,
    s.activity i = .sending fallback
      (.delete locks (RowKey.ofSlot application rack slot).lock .row condition) next →
    s.holds locks (RowKey.ofSlot application rack slot) i = true ∧
      s.contents.row? tokens (RowKey.ofSlot application rack slot).text = none
  /-- The lock row of a record names its machine. -/
  guarded : ∀ s, Reaches (registryRules tokens locks D) (State.initial ∅ ()) s →
    ∀ application rack slot row,
    s.contents.row? tokens (RowKey.ofSlot application rack slot).text = some row →
    ∃ owner guard, row.get? Column.instanceId.name = some owner ∧
      s.contents.row? locks (RowKey.ofSlot application rack slot).lock = some guard ∧
      guard.get? owner = some owner

variable {tokens locks : String} {D : Descriptor → Prop} {registry : Registry} {d : Descriptor}

/-! ### Consistent descriptors -/

/-- A procedure that never says that there is no record does not say so when it is run. -/
theorem run_ne_notFound {σ : Type} {p : Procedure (Except ClaimError RemoveOutcome)}
    (hp : p.Within (fun _ => True) (fun _ => True) fun answer => answer ≠ .ok .notFound)
    (handler : (effect : Effect) → σ → effect.Answer × σ) (world : σ) :
    (p.run handler world).1 ≠ .ok .notFound :=
  hp.result_run handler world

/-- A node that nobody gets in the way of looks up the record after it took the lock, so that it
is not there if the node does not find it. -/
theorem row?_of_notFound (htokens : registry.tokens = tokens)
    (hlocks : registry.locks.name = locks) (hD : Consistent D) (hd : D d) {s : Scene String}
    (hs : (nodeConduct tokens locks D).inv s) {world : World} (hworld : world.Stores s.contents)
    (hresult : ((registry.delete d).run World.performEffect world).1 = .ok .notFound) :
    ∃ after, ((registry.delete d).run World.performEffect world).2.Stores after ∧
      after.row? tokens d.rowKey.text = none := by
  subst htokens
  rw [Registry.delete, Program.bind_eq_bind, Program.run_bind] at hresult ⊢
  have hlock : NodeTriple registry.tokens locks D d.instanceId (fun _ => True)
      (registry.lock d.rowKey d.instanceId) _ :=
    triple_lock hlocks (I := fun _ => True) (fun _ _ _ _ _ _ => trivial) fun _ _ _ _ => trivial
  obtain ⟨locked, htaken, hlocked, hworld'⟩ :=
    (hlock s hs trivial).run_world hs hworld False.elim
  generalize (registry.lock d.rowKey d.instanceId).run World.performEffect world = ran
    at hresult htaken hworld' ⊢
  obtain ⟨answer, world'⟩ := ran
  cases answer with
  | error e => cases hresult
  | ok hold =>
    obtain ⟨rfl, hheld, -⟩ := htaken hold rfl
    simp only [Program.bind_eq_bind, Program.run_bind] at hresult ⊢
    obtain ⟨looked, hfound, -, hworld''⟩ :=
      ((triple_key? hD hd rfl) locked hlocked hheld).run_world hlocked hworld' False.elim
    generalize (Roster.key? registry.tokens d.application d.slot d.datacenter d.rack).run
      World.performEffect world' = ran at hresult hfound hworld'' ⊢
    obtain ⟨answer, world''⟩ := ran
    rcases answer with e | _ | key
    · refine (run_ne_notFound ?_ _ _ hresult).elim
      exact (Procedure.within_any _).bind fun _ _ h => by cases h
    · -- what is left to do has to do with the lock only
      have htear : (registry.locks.tearDown ⟨d.rowKey, d.instanceId⟩).Within
          (ForLock registry.locks.name d.rowKey) (fun _ => True) fun _ => True :=
        (within_tearDown registry.locks ⟨d.rowKey, d.instanceId⟩).mono (fun _ h => h.forLock)
          fun _ _ => trivial
      refine (World.row?_run_of_within (P := ForLock registry.locks.name d.rowKey)
        (E := fun _ => True) (R := fun _ => True) ?_ (fun call hcall hw =>
          d.unguarding_rowKey d.rowKey (hcall registry.tokens d.rowKey.text hw).2)
        hworld'').imp fun after h => ⟨h.1, h.2.trans (hfound.2.1 rfl)⟩
      refine (Procedure.within_report trivial).bind fun _ _ => htear.bind fun answer _ => ?_
      cases answer <;> trivial
    · refine (run_ne_notFound ?_ _ _ hresult).elim
      refine (Procedure.within_any _).bind fun answer _ => ?_
      cases answer with
      | error e => exact (Procedure.within_any _).bind fun _ _ h => by cases h
      | ok _ =>
        refine (Procedure.within_any _).bind fun answer _ => ?_
        cases answer with
        | error e => exact fun h => by cases h
        | ok _ => exact (Procedure.within_any _).bind fun _ _ h => by cases h

/-! ### Descriptors that disagree -/

/-- After a lone claim, a node of the same machine that looks for the record in another place says
that there is none. -/
theorem notFound_after_lone_create (registry : Registry) {d d' : Descriptor} (hd : D d)
    (hi : d.instanceId = d'.instanceId) (hkey : d.rowKey = d'.rowKey)
    (hplace : ¬ (d.application = d'.application ∧ d.slot = d'.slot ∧
      d.datacenter = d'.datacenter ∧ d.rack = d'.rack)) :
    ∃ s, Reaches (registryRules registry.tokens registry.locks.name D) (State.initial ∅ ()) s ∧
      ∃ after : Scene String, (registry.delete d').run (Scene.answer d'.instanceId 0) s.toScene =
        (.ok .notFound, after) ∧
        after.contents.row? registry.tokens d'.rowKey.text = some (d.stamp 0).toAttributes := by
  obtain ⟨s, hs⟩ : ∃ s : State String Unit, s = (State.initial ∅ ()).alone d.instanceId 0
      ((registry.create d).bind fun _ => .done ()) := ⟨_, rfl⟩
  have hlone : ∀ D' : Descriptor → Prop, D' d →
      Reaches (registryRules registry.tokens registry.locks.name D') (State.initial ∅ ()) s := by
    intro D' hd'
    rw [hs]
    exact Step.call_reaches 0 rfl (.create registry rfl rfl hd' rfl)
  have hafter : ((registry.create d).run (Scene.answer d.instanceId 0) ⟨∅, []⟩).2 =
      s.toScene := by
    rw [hs, State.toScene_alone_bind]
    rfl
  obtain ⟨after, hrun, hrecord, hchoosing, hlock⟩ := row?_run_create 0 registry d
  obtain rfl := hafter.symm.trans hrun
  -- if the only descriptor is the one that was claimed, every record is for its place
  have hmiss : ∀ row ∈ s.contents.rows registry.tokens,
      (Roster.ofInstance d'.application d'.slot d'.datacenter d'.rack).selects row = false := by
    intro row hrow
    have hconsistent : Consistent (· = d) := by
      rintro e e' rfl rfl - -
      exact ⟨rfl, rfl, rfl, rfl⟩
    have hinv := (sound_of_reaches hconsistent (hlone (· = d) rfl)).inv
    refine Bool.eq_false_iff.mpr fun hselects => ?_
    obtain ⟨e, rfl, -, hselected⟩ := exists_of_selected hinv hrow hselects
    exact hplace hselected
  rw [hkey] at hrecord hchoosing hlock
  rw [hi] at hlock
  obtain ⟨after, hrun, hrow⟩ := run_delete_notFound 0 rfl hchoosing (.inr hlock) hmiss
  exact ⟨s, hlone D hd, after, hrun, hrow.trans hrecord⟩

/-- **Absence.** What a node says about records that it does not find is right exactly if the
descriptors of one machine for one row key name the same place. -/
theorem notFound_truthful_iff_consistent : NotFoundTruthful tokens locks D ↔ Consistent D := by
  refine ⟨fun h d d' hd hd' hi hkey => ?_, fun hD => ⟨?_, ?_, ?_⟩⟩
  · -- the machine claims with one descriptor and gives up with the other
    by_contra hplace
    obtain ⟨s, hreach, after, hrun, hrow⟩ :=
      notFound_after_lone_create ⟨tokens, ⟨locks, .zero⟩⟩ hd hi hkey hplace
    have hstores : (World.start (.memory ⟨s.contents, false, [], false⟩) 0).Stores s.contents :=
      ⟨_, rfl, rfl⟩
    have hcalm : (World.start (.memory ⟨s.contents, false, [], false⟩) 0).Undisturbed :=
      ⟨rfl, fun memory hmemory => by cases hmemory; exact ⟨rfl, rfl⟩⟩
    obtain ⟨hresult, hafter⟩ := World.run_of_undisturbed
      (Registry.delete ⟨tokens, ⟨locks, .zero⟩⟩ d') hcalm d'.instanceId hstores
    have hnow : (World.start (.memory ⟨s.contents, false, [], false⟩) 0).now = 0 := rfl
    rw [hnow, hrun] at hresult hafter
    have hnone :=
      h.absent s hreach ⟨tokens, ⟨locks, .zero⟩⟩ rfl rfl d' hd' _ hstores hresult _ hafter
    cases hrow.symm.trans hnone
  · intro s hreach registry htokens hlocks d hd world hworld hresult after hafter
    obtain ⟨after', hafter', hnone⟩ := row?_of_notFound htokens hlocks hD hd
      (sound_of_reaches hD hreach).inv hworld hresult
    rw [hafter.contents_eq hafter']
    exact hnone
  · intro s hreach i fallback application rack slot condition next hsending
    obtain ⟨hlocks, hrecords⟩ := (sound_of_reaches hD hreach).may hsending
    -- only a holder drops a lock, and only while there is no record under it
    have hheld := hlocks (RowKey.ofSlot application rack slot) (decide_eq_true ⟨rfl, rfl⟩)
    exact ⟨hheld, hrecords.2 _ rfl rfl (unguarding_text_ofSlot _ _ _) hheld⟩
  · intro s hreach application rack slot row hrow
    obtain ⟨d, now, -, -, -, hname, -, guard, hguard, hentry⟩ :=
      guarded_of_row? (sound_of_reaches hD hreach).inv
        (unguarding_text_ofSlot application rack slot) hrow
    exact ⟨d.instanceId, guard, hname, hguard, hentry⟩

/-- A machine claims an identity and then gives it up from another datacenter. It is told that
there is no record, but the record is still there, and nothing guards it any more. -/
theorem notFound_despite_record :
    ∃ s after, Reaches (registryRules "tokens" "locks" fun d => ∃ datacenter,
        d = machineIn datacenter) (State.initial ∅ ()) s ∧
      (Registry.delete ⟨"tokens", ⟨"locks", .zero⟩⟩ (machineIn "west")).run (Scene.answer "a" 0)
        s.toScene = (.ok .notFound, after) ∧
      after.contents.row? "tokens" (machineIn "west").rowKey.text =
        some ((machineIn "east").stamp 0).toAttributes ∧
      after.contents.row? "locks" (machineIn "west").rowKey.lock = none :=
  ⟨_, _, Step.call_reaches (i := "a") 0 rfl
    (.create ⟨"tokens", ⟨"locks", .zero⟩⟩ rfl rfl ⟨"east", rfl⟩ rfl), rfl, rfl, rfl⟩

end ClusterIdentity.Claiming
