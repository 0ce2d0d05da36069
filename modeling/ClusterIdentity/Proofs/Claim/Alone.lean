import ClusterIdentity.Claim.Registry
import ClusterIdentity.Proofs.Identity.Records
import ClusterIdentity.Proofs.Lock.Alone

/-!
# Claims with nobody else about

What becomes of the tables when a node is left alone and nothing goes wrong.

## Main statements

* `row?_run_create`: a claim in empty tables writes the record and leaves the lock taken
* `run_delete_notFound`: a node that looks for its record in the wrong place tears down the lock
  and leaves the record
-/

namespace ClusterIdentity.Claiming

open Interleaving Locking

variable {registry : Registry} {k : RowKey} {i : String} (now : UInt64) {s : Scene String}

/-! ### Locks -/

/-- A node takes a lock if nobody else is in its rows, and no other row changes. -/
theorem run_lock (hchoosing : s.contents.row? registry.locks.name k.choosing = none)
    (hlock : Unshared i (s.contents.row? registry.locks.name k.lock)) :
    ∃ s' : Scene String,
      (registry.lock k i).run (Scene.answer i now) s = (.ok ⟨k, i⟩, s') ∧
      (∀ key, k.GuardedBy key →
        s'.contents.row? registry.locks.name key = some (Dict.singleton i i)) ∧
      ∀ table key, ¬ (table = registry.locks.name ∧ k.GuardedBy key) →
        s'.contents.row? table key = s.contents.row? table key := by
  obtain ⟨hanswer, hcontents⟩ := run_acquire now hchoosing hlock
  refine ⟨((registry.locks.acquire k i).run (Scene.answer i now) s).2, ?_, ?_, ?_⟩
  · rw [Registry.lock, Program.bind_eq_bind, Program.run_bind, hanswer]
    rfl
  · rw [hcontents]
    rintro key (rfl | rfl)
    · rw [Contents.row?_put, Contents.row?_perform
        (StoreCall.not_writesTo_put (RowKey.lock_ne_choosing k k).symm _ _), hlock.written]
    · rw [Contents.row?_perform
        (StoreCall.not_writesTo_put (RowKey.lock_ne_choosing k k) _ _), Contents.row?_put,
        hchoosing]
      exact congrArg some (Dict.empty_overlay _)
  · intro table key hkey
    have hput : ∀ guard, k.GuardedBy guard → ¬ (StoreCall.put registry.locks.name guard
        (Dict.singleton i i) none).WritesTo table key := by
      rintro guard hguard ⟨rfl, rfl⟩
      exact hkey ⟨rfl, hguard⟩
    rw [hcontents, Contents.row?_perform (hput _ k.guardedBy_lock),
      Contents.row?_perform (hput _ k.guardedBy_choosing)]

theorem contents_run_unlock (registry : Registry) (k : RowKey) (i : String) (s : Scene String) :
    ((registry.unlock ⟨k, i⟩).run (Scene.answer i now) s).2.contents =
      (s.contents.perform
        (Contents.deleteAttribute registry.locks.name k.choosing i i)).2 := by
  rw [← contents_run_release now registry.locks k s i, Registry.unlock, Program.bind_eq_bind,
    Program.run_bind]
  cases ((registry.locks.release k i).run (Scene.answer i now) s).1 <;> rfl

/-! ### Claiming -/

theorem run_writeRecord (registry : Registry) (d : Descriptor) (i : String) (s : Scene String) :
    (registry.writeRecord d).run (Scene.answer i now) s =
      (.ok (), s.sent i
        (.put registry.tokens d.rowKey.text (d.stamp now).toAttributes none) true
        (s.contents.perform
          (.put registry.tokens d.rowKey.text (d.stamp now).toAttributes none)).2) :=
  rfl

theorem run_instance?_empty (tokens application rack : String) (slot : UInt32) (i : String) :
    ∃ s : Scene String, (Roster.instance? tokens application rack slot).run (Scene.answer i now)
      ⟨∅, []⟩ = (.ok none, s) ∧ s.contents = ∅ :=
  ⟨_, rfl, rfl⟩

/-- After a lone claim in empty tables the record is there, the lock row names its machine and the
choosing row is gone. -/
theorem row?_run_create (registry : Registry) (d : Descriptor) :
    ∃ after : Scene String,
      ((registry.create d).run (Scene.answer d.instanceId now) ⟨∅, []⟩).2 = after ∧
      after.contents.row? registry.tokens d.rowKey.text = some (d.stamp now).toAttributes ∧
      after.contents.row? registry.locks.name d.rowKey.choosing = none ∧
      after.contents.row? registry.locks.name d.rowKey.lock =
        some (Dict.singleton d.instanceId d.instanceId) := by
  obtain ⟨s, hinstance, hs⟩ := run_instance?_empty now registry.tokens d.application d.rack d.slot
    d.instanceId
  have habsent : ∀ table key, s.contents.row? table key = none := fun _ _ => by
    rw [hs]
    rfl
  obtain ⟨s', hlock, hguards, hothers⟩ := run_lock (k := d.rowKey) (i := d.instanceId) now
    (habsent registry.locks.name _) (.inl (habsent _ _))
  refine ⟨_, rfl, ?_⟩
  have hcontents : ((registry.create d).run (Scene.answer d.instanceId now)
      ⟨∅, []⟩).2.contents = ((s'.contents.perform
        (.put registry.tokens d.rowKey.text (d.stamp now).toAttributes none)).2.perform
          (Contents.deleteAttribute registry.locks.name d.rowKey.choosing d.instanceId
            d.instanceId)).2 := by
    rw [Registry.create, Program.bind_eq_bind, Program.run_bind, hinstance]
    simp only [Program.bind_eq_bind, Program.run_bind, hlock, run_writeRecord]
    exact contents_run_unlock now registry d.rowKey d.instanceId _
  rw [hcontents]
  have hunguarding : ∀ key, d.rowKey.GuardedBy key → d.rowKey.text ≠ key := fun key hkey heq =>
    d.unguarding_rowKey d.rowKey (heq ▸ hkey)
  have hguarded : ∀ key, d.rowKey.GuardedBy key → (s'.contents.perform (.put registry.tokens
      d.rowKey.text (d.stamp now).toAttributes none)).2.row? registry.locks.name key =
        some (Dict.singleton d.instanceId d.instanceId) := fun key hkey => by
    rw [Contents.row?_perform (StoreCall.not_writesTo_put (hunguarding key hkey) _ _),
      hguards key hkey]
  refine ⟨?_, ?_, ?_⟩
  · rw [Contents.row?_perform (StoreCall.not_writesTo_delete
        (hunguarding _ d.rowKey.guardedBy_choosing).symm _ _), Contents.row?_put,
      hothers _ _ fun h => d.unguarding_rowKey _ h.2, habsent]
    exact congrArg some (Dict.empty_overlay _)
  · -- the machine's entry was the only one in the choosing row
    have hchosen := hguarded _ d.rowKey.guardedBy_choosing
    refine (Contents.occupied_deleteAttribute (fun row hrow => ⟨d.instanceId, ?_⟩) _ _).row?_eq_none
      fun name => ?_
    · rw [hchosen, Option.some.injEq] at hrow
      rw [← hrow, Dict.get?_singleton, if_pos rfl]
      exact nofun
    · rw [Contents.attribute?_deleteAttribute, Contents.attribute?_of_row? hchosen,
        Contents.attribute?_of_row? hchosen, Dict.get?_singleton, Dict.get?_singleton]
      by_cases hname : d.instanceId = name <;> simp [hname]
  · rw [Contents.row?_perform (StoreCall.not_writesTo_delete
      (RowKey.lock_ne_choosing _ _).symm _ _), hguarded _ d.rowKey.guardedBy_lock]

/-! ### Giving up -/

theorem run_key?_of_not_selected {tokens application datacenter rack : String} {slot : UInt32}
    (hnone : ∀ row ∈ s.contents.rows tokens,
      (Roster.ofInstance application slot datacenter rack).selects row = false) :
    (Roster.key? tokens application slot datacenter rack).run (Scene.answer i now) s =
      (.ok none, s.sent i
        (.scan tokens (Roster.ofInstance application slot datacenter rack) (some 1)) true
        s.contents) := by
  have hselected : (s.contents.rows tokens).filter
      (Roster.ofInstance application slot datacenter rack).selects = [] :=
    List.filter_eq_nil_iff.mpr fun row hrow => Bool.eq_false_iff.mp (hnone row hrow)
  have hserve : s.serve i .pass
      (.scan tokens (Roster.ofInstance application slot datacenter rack) (some 1)) =
      (.ok ⟨[], none⟩, s.sent i
        (.scan tokens (Roster.ofInstance application slot datacenter rack) (some 1)) true
        s.contents) := by
    simp only [Scene.serve, Simulation.Verdict.serve, steady, Contents.perform, hselected]
    rfl
  have hcall : (Procedure.call
      (.scan tokens (Roster.ofInstance application slot datacenter rack) (some 1))).run
        (Scene.answer i now) s = s.serve i .pass
      (.scan tokens (Roster.ofInstance application slot datacenter rack) (some 1)) := rfl
  rw [Roster.key?, Program.bind_eq_bind, Program.run_bind, hcall, hserve]
  rfl

/-- A node that is left alone and does not find the record where it looks for it says so, takes
the lock apart and leaves the record, if there is one after all. -/
theorem run_delete_notFound {d : Descriptor} (hi : d.instanceId = i)
    (hchoosing : s.contents.row? registry.locks.name d.rowKey.choosing = none)
    (hlock : Unshared i (s.contents.row? registry.locks.name d.rowKey.lock))
    (hnone : ∀ row ∈ s.contents.rows registry.tokens,
      (Roster.ofInstance d.application d.slot d.datacenter d.rack).selects row = false) :
    ∃ after : Scene String,
      (registry.delete d).run (Scene.answer i now) s = (.ok .notFound, after) ∧
      after.contents.row? registry.tokens d.rowKey.text =
        s.contents.row? registry.tokens d.rowKey.text := by
  subst hi
  obtain ⟨s', hlocked, hguards, hothers⟩ := run_lock now hchoosing hlock
  have hmiss : ∀ row ∈ s'.contents.rows registry.tokens,
      (Roster.ofInstance d.application d.slot d.datacenter d.rack).selects row = false := by
    intro row hrow
    have hfound := Contents.mem_rows_iff.mp hrow
    by_cases hguard : registry.tokens = registry.locks.name ∧ d.rowKey.GuardedBy row.key
    · rw [hguard.1, hguards row.key hguard.2, Option.some.injEq] at hfound
      refine Roster.not_ofInstance_selects fun name value hvalue => ?_
      rw [← hfound, Dict.get?_singleton] at hvalue
      split at hvalue
      · rename_i hname
        exact (Option.some.inj hvalue).symm.trans hname
      · cases hvalue
    · rw [hothers _ _ hguard] at hfound
      exact hnone row (Contents.mem_rows_iff.mpr hfound)
  rw [Registry.delete, Program.bind_eq_bind, Program.run_bind, hlocked]
  simp only [Program.bind_eq_bind, Program.run_bind, run_key?_of_not_selected now hmiss,
    run_tearDown]
  refine ⟨_, rfl, ?_⟩
  have hkept := fun missed => (within_tearDown registry.locks ⟨d.rowKey, d.instanceId⟩).row?_run
    (fun call hcall hw =>
      d.unguarding_rowKey d.rowKey (hcall.forLock registry.tokens d.rowKey.text hw).2)
    d.instanceId now missed
  exact (hkept _).trans (hothers _ _ fun h => d.unguarding_rowKey _ h.2)

end ClusterIdentity.Claiming
