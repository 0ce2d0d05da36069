import ClusterIdentity.Proofs.Conduct
import ClusterIdentity.Proofs.Table.Rows
import ClusterIdentity.Simulation.World

/-!
# Worlds with a store in memory

A procedure that is run in a world whose store is in memory meets what a participant meets that
nobody else gets in the way of: every request is served, or it fails before or after it was
served.

## Main definitions

* `World.Stores`: the store of a world is in memory and has certain contents
* `World.Undisturbed`: neither the store nor the interceptor makes a request fail

## Main statements

* `World.exists_verdict`: a request meets some verdict, in an undisturbed world that it may pass
* `World.run_of_undisturbed`, `Conduct.Safe.run_world`: the same for whole procedures
* `World.row?_run_of_within`: rows to which a procedure does not write stay as they are
-/

namespace ClusterIdentity.Simulation.World

open Interleaving

/-- The store of the world is in memory and has the contents given. -/
def Stores (world : World) (contents : Contents) : Prop :=
  ∃ memory : Memory, world.backend = .memory memory ∧ memory.contents = contents

/-- Nothing in the world makes a request fail. -/
structure Undisturbed (world : World) : Prop where
  rules : world.rules = []
  memory : ∀ memory, world.backend = .memory memory →
    memory.switchedOff = false ∧ memory.faults = []

variable {world : World} {contents : Contents}

theorem Stores.contents_eq {contents' : Contents} (h : world.Stores contents)
    (h' : world.Stores contents') : contents = contents' := by
  obtain ⟨memory, hbackend, rfl⟩ := h
  obtain ⟨memory', hbackend', rfl⟩ := h'
  cases hbackend.symm.trans hbackend'
  rfl

theorem Undisturbed.refusal? (h : world.Undisturbed) {memory : Memory}
    (hmemory : world.backend = .memory memory) (call : StoreCall) :
    memory.refusal? call = none := by
  obtain ⟨hoff, hfaults⟩ := h.memory memory hmemory
  simp [Memory.refusal?, hoff, hfaults]

theorem serve_of_refusal {memory : Memory} {call : StoreCall} {own : StoreError}
    (h : memory.refusal? call = some own) :
    (Backend.memory memory).serve call = (.error own, .memory memory) := by
  simp [Backend.serve, Memory.serve, h]

theorem serve_of_no_refusal {memory : Memory} {call : StoreCall}
    (h : memory.refusal? call = none) :
    (Backend.memory memory).serve call = (.ok (memory.contents.perform call).1,
      .memory { memory with contents := (memory.contents.perform call).2 }) := by
  simp [Backend.serve, Memory.serve, h]

/-- A request that the store refuses fails without effect, whatever the interceptor decides. -/
theorem exists_error_of_refusal {memory : Memory} {call : StoreCall} {own : StoreError}
    (h : memory.refusal? call = some own) (verdict : Verdict) :
    ∃ error, verdict.serve Backend.serve call (.memory memory) =
      (.error error, .memory memory) := by
  cases verdict with
  | pass => exact ⟨own, serve_of_refusal h⟩
  | refuse error => exact ⟨error, rfl⟩
  | failAfter error =>
    cases call with
    | scan table filter limit =>
      have h' : memory.refusal? (.scan table filter (some 0)) = some own := h
      exact ⟨own, by rw [Verdict.serve, serve_of_refusal h']⟩
    | put => exact ⟨own, by rw [Verdict.serve, serve_of_refusal h]; nofun⟩
    | delete => exact ⟨own, by rw [Verdict.serve, serve_of_refusal h]; nofun⟩
    | batchGet => exact ⟨own, by rw [Verdict.serve, serve_of_refusal h]; nofun⟩
  | cutScan rows error =>
    cases call with
    | scan table filter limit =>
      have h' : memory.refusal? (.scan table filter (some (Verdict.cutLimit rows limit))) =
          some own := h
      exact ⟨own, by rw [Verdict.serve, serve_of_refusal h']⟩
    | put => exact ⟨own, serve_of_refusal h⟩
    | delete => exact ⟨own, serve_of_refusal h⟩
    | batchGet => exact ⟨own, serve_of_refusal h⟩

/-- A request that the store does not refuse meets the verdict of the interceptor. -/
theorem serve_eq_steady {memory : Memory} {call : StoreCall}
    (h : memory.refusal? call = none) (verdict : Verdict) :
    verdict.serve Backend.serve call (.memory memory) =
      ((verdict.serve steady call memory.contents).1, .memory
        { memory with contents := (verdict.serve steady call memory.contents).2 }) := by
  cases verdict with
  | pass => exact serve_of_no_refusal h
  | refuse error => rfl
  | failAfter error =>
    cases call with
    | scan table filter limit =>
      have h' : memory.refusal? (.scan table filter (some 0)) = none := h
      rw [Verdict.serve, serve_of_no_refusal h']
      rfl
    | put => rw [Verdict.serve, serve_of_no_refusal h]; rfl; nofun
    | delete => rw [Verdict.serve, serve_of_no_refusal h]; rfl; nofun
    | batchGet => rw [Verdict.serve, serve_of_no_refusal h]; rfl; nofun
  | cutScan rows error =>
    cases call with
    | scan table filter limit =>
      have h' : memory.refusal? (.scan table filter (some (Verdict.cutLimit rows limit))) =
          none := h
      rw [Verdict.serve, serve_of_no_refusal h']
      rfl
    | put => exact serve_of_no_refusal h
    | delete => exact serve_of_no_refusal h
    | batchGet => exact serve_of_no_refusal h

/-- A request meets one of the verdicts, and passes if nothing makes it fail. -/
theorem exists_verdict (hworld : world.Stores contents) (call : StoreCall) :
    ∃ verdict : Verdict, (world.Undisturbed → verdict = .pass) ∧
      (world.performEffect (.call call)).1 = (verdict.serve steady call contents).1 ∧
      (world.performEffect (.call call)).2.Stores (verdict.serve steady call contents).2 := by
  obtain ⟨memory, hbackend, rfl⟩ := hworld
  have hanswer : (world.performEffect (.call call)).1 =
      ((intercept world.rules call).1.serve Backend.serve call world.backend).1 := rfl
  have hafter : (world.performEffect (.call call)).2.backend =
      ((intercept world.rules call).1.serve Backend.serve call world.backend).2 := rfl
  rw [hbackend] at hanswer hafter
  cases hrefusal : memory.refusal? call with
  | none =>
    rw [serve_eq_steady hrefusal] at hanswer hafter
    refine ⟨(intercept world.rules call).1, fun hcalm => ?_, hanswer, _, hafter, rfl⟩
    rw [hcalm.rules]
    rfl
  | some own =>
    obtain ⟨error, hserve⟩ := exists_error_of_refusal hrefusal (intercept world.rules call).1
    rw [hserve] at hanswer hafter
    -- a store that refuses looks like an interceptor that does
    refine ⟨.refuse error, fun hcalm => ?_, hanswer, _, hafter, rfl⟩
    cases (hcalm.refusal? hbackend call).symm.trans hrefusal

/-- Nothing that is done in an undisturbed world disturbs it. -/
theorem Undisturbed.performEffect (h : world.Undisturbed) (hworld : world.Stores contents)
    (effect : Effect) : (world.performEffect effect).2.Undisturbed := by
  cases effect with
  | call call =>
    obtain ⟨memory, hbackend, rfl⟩ := hworld
    have hafter : (world.performEffect (.call call)).2.backend =
        ((intercept world.rules call).1.serve Backend.serve call world.backend).2 := rfl
    have hrules : (world.performEffect (.call call)).2.rules =
        (intercept world.rules call).2 := rfl
    rw [hbackend, serve_eq_steady (h.refusal? hbackend call)] at hafter
    refine ⟨?_, fun memory' hmemory => ?_⟩
    · rw [hrules, h.rules]
      rfl
    · rw [hafter] at hmemory
      cases hmemory
      exact h.memory memory hbackend
  | report event => exact ⟨h.rules, h.memory⟩
  | clock => exact h
  | pause duration => exact h

/-- In an undisturbed world a procedure ends as if it were run alone on the contents. -/
theorem run_of_undisturbed {ι α : Type} (p : Procedure α) (h : world.Undisturbed) (i : ι)
    {s : Scene ι} (hworld : world.Stores s.contents) :
    (p.run performEffect world).1 = (p.run (Scene.answer i world.now) s).1 ∧
      (p.run performEffect world).2.Stores (p.run (Scene.answer i world.now) s).2.contents := by
  induction p generalizing world s with
  | done a => exact ⟨rfl, hworld⟩
  | perform op next ih =>
    cases op with
    | call call =>
      obtain ⟨verdict, hverdict, hanswer, hafter⟩ := exists_verdict hworld call
      rw [hverdict h] at hanswer hafter
      have hcontents : (world.performEffect (.call call)).2.Stores
          (s.serve i .pass call).2.contents := hafter
      have hrest := ih (world.performEffect (.call call)).1 (h.performEffect hworld _) hcontents
      have hnext : next (world.performEffect (.call call)).1 = next (s.serve i .pass call).1 :=
        congrArg next hanswer
      rw [hnext] at hrest
      simp only [Program.run, hnext]
      exact hrest
    | report event =>
      have hcontents : (world.performEffect (.report event)).2.Stores
          (s.report i event).contents := hworld
      exact ih () (h.performEffect hworld _) hcontents
    | clock => exact ih world.now h hworld
    | pause duration => exact ih () h hworld

/-- A procedure leaves every row as it is to which it does not write, whatever fails. -/
theorem row?_run_of_within {α : Type} {P : StoreCall → Prop} {E : Event → Prop} {R : α → Prop}
    {p : Procedure α} (hp : p.Within P E R) {table key : String}
    (hP : ∀ call, P call → ¬ call.WritesTo table key) (hworld : world.Stores contents) :
    ∃ after : Contents, (p.run performEffect world).2.Stores after ∧
      after.row? table key = contents.row? table key := by
  induction p generalizing world contents with
  | done a => exact ⟨contents, hworld, rfl⟩
  | perform op next ih =>
    cases op with
    | call call =>
      obtain ⟨verdict, -, -, hafter⟩ := exists_verdict hworld call
      obtain ⟨after, hstores, hrow⟩ := ih _ (hp.2 _) hafter
      refine ⟨after, hstores, hrow.trans ?_⟩
      rcases (delivered_serve verdict call contents).eq_or with h | h
      · rw [h]
      · rw [h, Contents.row?_perform (hP call hp.1)]
    | report event => exact ih () hp.2 hworld
    | clock => exact ih _ (hp _) hworld
    | pause duration => exact ih () hp hworld

end ClusterIdentity.Simulation.World

namespace ClusterIdentity.Interleaving

open Simulation

/-- A safe procedure that is run in a world ends with its postcondition, since nobody else moves
there. -/
theorem Conduct.Safe.run_world {ι α : Type} {C : Conduct ι} {reliable : Prop} {i : ι}
    {keep : Scene ι → Prop} {post : α → Scene ι → Prop} {p : Procedure α} {s : Scene ι}
    (h : C.Safe reliable i keep post p s) (hs : C.inv s) {world : World}
    (hworld : world.Stores s.contents) (hcalm : reliable → world.Undisturbed) :
    ∃ s', post (p.run World.performEffect world).1 s' ∧ C.inv s' ∧
      (p.run World.performEffect world).2.Stores s'.contents := by
  induction p generalizing world s with
  | done a => exact ⟨s, h, hs, hworld⟩
  | perform op next ih =>
    cases op with
    | call call =>
      obtain ⟨verdict, hverdict, hanswer, hafter⟩ := World.exists_verdict hworld call
      obtain ⟨hproper, hnext⟩ :=
        (h s hs (C.rely_refl i s)).2.2 verdict fun hr => hverdict (hcalm hr)
      rw [show (s.serve i verdict call).1 = _ from hanswer.symm] at hnext
      exact ih _ hnext hproper.inv hafter fun hr => (hcalm hr).performEffect hworld (.call call)
    | report event =>
      have hcontents : (world.performEffect (.report event)).2.Stores
          (s.report i event).contents := hworld
      exact ih () h.2 h.1.inv hcontents fun hr => (hcalm hr).performEffect hworld (.report event)
    | clock => exact ih _ (h _) hs hworld hcalm
    | pause duration => exact ih () h hs hworld hcalm

end ClusterIdentity.Interleaving
