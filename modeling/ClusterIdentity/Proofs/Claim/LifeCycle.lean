import ClusterIdentity.Proofs.Claim.InTurn
import ClusterIdentity.Proofs.Identity.RoundTrip

/-!
# From a claim to its end

An identity that nothing is recorded for can be claimed. From then on it is found with all that its
machine told about itself, and nobody can claim it again, until it is given up. Then the store is
what it was before.

## Main definitions

* `ReachedInTurn`: contents after calls that were made one after another
* `LifeCycle`: what holds after a claim until it is given up, and after that

## Main statements

* `atRest_of_reached`: calls one after another leave the store at rest
* `claimed_once_and_given_up_once`
-/

namespace ClusterIdentity.Claiming

open Solo Locking Roster

/-- The contents of a store that started empty, after claims and ends of claims one after another of
which no request failed. The nodes share the two tables, and each has its own clock and settle
delay. -/
inductive ReachedInTurn (tokens locks : String) : Contents → Prop where
  | start : ReachedInTurn tokens locks ∅
  | create {c : Contents} (h : ReachedInTurn tokens locks c) (delay : Duration) (now : UInt64)
      (d : Descriptor) :
    ReachedInTurn tokens locks (outcome now (Registry.create ⟨tokens, ⟨locks, delay⟩⟩ d) c).2
  | delete {c : Contents} (h : ReachedInTurn tokens locks c) (delay : Duration) (now : UInt64)
      (d : Descriptor) :
    ReachedInTurn tokens locks (outcome now (Registry.delete ⟨tokens, ⟨locks, delay⟩⟩ d) c).2

/-- What holds of the contents before and after a claim for a descriptor. -/
structure LifeCycle (tokens locks : String) (d : Descriptor) (now : UInt64)
    (before after : Contents) : Prop where
  found : ∀ now', outcome now' (instance? tokens d.application d.rack d.slot) after =
    (.ok (some (d.stamp now)), after)
  /-- Whoever claims the same identity, and whatever it tells about itself. -/
  exclusive : ∀ (delay : Duration) (now' : UInt64) (d' : Descriptor),
    d'.application = d.application → d'.rack = d.rack → d'.slot = d.slot →
    outcome now' (Registry.create ⟨tokens, ⟨locks, delay⟩⟩ d') after = (.ok .alreadyExists, after)
  deleted : ∀ (delay : Duration) (now' : UInt64),
    outcome now' (Registry.delete ⟨tokens, ⟨locks, delay⟩⟩ d) after = (.ok .deleted, before)
  notFound : ∀ (delay : Duration) (now' : UInt64),
    outcome now' (Registry.delete ⟨tokens, ⟨locks, delay⟩⟩ d) before = (.ok .notFound, before)
  unlocked : ∀ key, d.rowKey.GuardedBy key → before.row? locks key = none

variable {tokens locks : String} {c : Contents} {d : Descriptor} {k : RowKey} {i : String}

/-! ### States at rest -/

/-- In a state at rest a machine meets nobody else in a lock row, or exactly one machine. -/
theorem AtRest.unshared_or_held (h : AtRest tokens locks c) (k : RowKey) (i : String) :
    Unshared i (c.row? locks k.lock) ∨
      ∃ j, j ≠ i ∧ c.row? locks k.lock = some (Dict.singleton j j) := by
  cases hlock : c.row? locks k.lock with
  | none => exact .inl (.inl rfl)
  | some row =>
    obtain ⟨-, ⟨j, rfl⟩, -⟩ := h.lock k row hlock
    by_cases hj : j = i
    · exact .inl (.inr (hj ▸ rfl))
    · exact .inr ⟨j, hj, rfl⟩

section Calls

variable (registry : Registry) (h : AtRest registry.tokens registry.locks.name c) (now : UInt64)
  (d : Descriptor)

include h

theorem AtRest.create :
    AtRest registry.tokens registry.locks.name (outcome now (registry.create d) c).2 := by
  have hchoosing := h.choosing d.rowKey
  cases hfound : found registry.tokens d.application d.rack d.slot c with
  | some record => rwa [(yields_create_exists hfound).outcome_eq]
  | none =>
    rcases h.unshared_or_held d.rowKey d.instanceId with hlock | ⟨j, hj, hlock⟩
    · rw [(yields_create hfound hchoosing hlock).outcome_eq]
      exact h.claimed d now
    · rwa [(yields_create_held hfound hchoosing hj hlock).outcome_eq]

theorem AtRest.delete :
    AtRest registry.tokens registry.locks.name (outcome now (registry.delete d) c).2 := by
  have hchoosing := h.choosing d.rowKey
  rcases h.unshared_or_held d.rowKey d.instanceId with hlock | ⟨j, hj, hlock⟩
  · by_cases hselected : Selected registry.tokens d c
    · have hne : ¬ (registry.tokens = registry.locks.name ∧ d.rowKey.text = d.rowKey.lock) :=
        fun heq => text_ne_of_guardedBy d.rowKey.guardedBy_lock heq.2
      rw [(yields_delete h.tokens hchoosing hlock hselected).outcome_eq, Contents.setRow_comm hne]
      exact (h.unlock d).erase d (Contents.row?_setRow_self ..)
    · rw [(yields_delete_notFound h.tokens hchoosing hlock hselected).outcome_eq]
      exact h.unlock d
  · rwa [(yields_delete_held hchoosing hj hlock).outcome_eq]

end Calls

/-- Calls one after another leave the store at rest. -/
theorem atRest_of_reached (h : ReachedInTurn tokens locks c) : AtRest tokens locks c := by
  induction h with
  | start => exact AtRest.empty
  | create _ delay now d ih => exact AtRest.create ⟨tokens, ⟨locks, delay⟩⟩ ih now d
  | delete _ delay now d ih => exact AtRest.delete ⟨tokens, ⟨locks, delay⟩⟩ ih now d

/-! ### What is found -/

/-- A record that is found for a place is in the row under its row key. -/
theorem RecordsAndEntries.row?_of_mem (h : RecordsAndEntries tokens c) {record : Descriptor}
    (hmem : record ∈ recordsOf (rowsOf c tokens d.application)) (hrack : record.rack = d.rack)
    (hslot : record.slot = d.slot) : ∃ row, c.row? tokens d.rowKey.text = some row ∧
      Descriptor.ofRow ⟨d.rowKey.text, row⟩ = .ok record := by
  obtain ⟨⟨key, row⟩, hrow, hrecord⟩ := mem_recordsOf.mp hmem
  obtain ⟨hrow, hnamed⟩ := List.mem_filter.mp hrow
  have happlication : record.application = d.application :=
    Option.some.inj ((Descriptor.place_of_ofRow hrecord).1.symm.trans (eq_of_beq hnamed))
  have hkeys : record.rowKey = d.rowKey := by
    rw [Descriptor.rowKey, Descriptor.rowKey, happlication, hrack, hslot]
  obtain rfl : key = d.rowKey.text := hkeys ▸ h.key_of_ofRow hrow hrecord
  exact ⟨row, Contents.mem_rows_iff.mp hrow, hrecord⟩

theorem found_eq_none (h : RecordsAndEntries tokens c)
    (habsent : c.row? tokens d.rowKey.text = none) :
    found tokens d.application d.rack d.slot c = none := by
  refine List.find?_eq_none.mpr fun record hmem hplace => ?_
  rw [Bool.and_eq_true, beq_iff_eq, beq_iff_eq] at hplace
  obtain ⟨row, hrow, -⟩ := h.row?_of_mem (List.mem_eraseDups.mp hmem) hplace.1 hplace.2
  rw [habsent] at hrow
  cases hrow

/-- A record that was written is found. -/
theorem found_eq_some (h : RecordsAndEntries tokens c)
    (hrow : c.row? tokens d.rowKey.text = some d.toAttributes) :
    found tokens d.application d.rack d.slot c = some d := by
  have hmem : d ∈ recordsOf (rowsOf c tokens d.application) := by
    have hread : Descriptor.ofRow ⟨d.rowKey.text, d.toAttributes⟩ = .ok d :=
      d.ofRow_toAttributes_self d.rowKey.text
    have hrows : (⟨d.rowKey.text, d.toAttributes⟩ : Row) ∈ rowsOf c tokens d.application := by
      rw [← filter_ofApplication]
      exact List.mem_filter.mpr ⟨Contents.mem_rows hrow, ofApplication_selects⟩
    exact mem_recordsOf.mpr ⟨_, hrows, hread⟩
  cases hfound : found tokens d.application d.rack d.slot c with
  | none =>
    have hnot := List.find?_eq_none.mp hfound d (List.mem_eraseDups.mpr hmem)
    simp at hnot
  | some record =>
    have hplace := List.find?_some hfound
    rw [Bool.and_eq_true, beq_iff_eq, beq_iff_eq] at hplace
    obtain ⟨row, hrow', hrecord⟩ := h.row?_of_mem
      (List.mem_eraseDups.mp (List.mem_of_find?_eq_some hfound)) hplace.1 hplace.2
    -- the only row in question is the one that was written
    obtain rfl := Option.some.inj (hrow'.symm.trans hrow)
    rw [Descriptor.ofRow_toAttributes_self, Except.ok.injEq] at hrecord
    rw [hrecord]

/-! ### Life cycles -/

section Claimed

variable (habsent : c.row? tokens d.rowKey.text = none) (now : UInt64)

include habsent

theorem row?_claimed :
    (claimed tokens locks d now c).row? tokens d.rowKey.text =
      some (d.stamp now).toAttributes := by
  have hne : ¬ (locks = tokens ∧ d.rowKey.lock = d.rowKey.text) := fun heq =>
    text_ne_of_guardedBy d.rowKey.guardedBy_lock heq.2.symm
  rw [claimed, recorded, Contents.row?_setRow_of_ne hne, Contents.row?_setRow_self, habsent,
    Contents.written, Option.getD_none, Dict.empty_overlay]

/-- Removing what a claim brought undoes it. -/
theorem claimed_undone (hlock : c.row? locks d.rowKey.lock = none) :
    ((claimed tokens locks d now c).setRow tokens d.rowKey.text none).setRow locks d.rowKey.lock
      none = c := by
  have hne : ¬ (locks = tokens ∧ d.rowKey.lock = d.rowKey.text) := fun heq =>
    text_ne_of_guardedBy d.rowKey.guardedBy_lock heq.2.symm
  rw [claimed, recorded, Contents.setRow_comm hne, Contents.setRow_setRow, Contents.setRow_setRow,
    Contents.setRow_of_row? habsent, Contents.setRow_of_row? hlock]

end Claimed

/-- A claim in a state at rest, under whose row key nothing is recorded. -/
theorem lifeCycle_of_atRest (h : AtRest tokens locks c)
    (habsent : c.row? tokens d.rowKey.text = none) (now : UInt64) :
    LifeCycle tokens locks d now c (claimed tokens locks d now c) := by
  have hlock := h.unlocked habsent
  have hclaimed := h.claimed d now
  have hrow : (claimed tokens locks d now c).row? tokens d.rowKey.text =
      some (d.stamp now).toAttributes := row?_claimed habsent now
  have hfound : found tokens d.application d.rack d.slot (claimed tokens locks d now c) =
      some (d.stamp now) := found_eq_some (d := d.stamp now) hclaimed.tokens hrow
  have hclaimedLock : Unshared d.instanceId
      ((claimed tokens locks d now c).row? locks d.rowKey.lock) :=
    .inr (Contents.row?_setRow_self ..)
  have hselected : Selected tokens d (claimed tokens locks d now c) :=
    (selected_iff hclaimed.tokens).mpr ⟨_, hrow, ofInstance_selects_iff.mpr ⟨rfl, rfl, rfl, rfl⟩⟩
  have hnot : ¬ Selected tokens d c := by
    rw [selected_iff h.tokens, habsent]
    exact fun ⟨_, hnone, _⟩ => nomatch hnone
  refine ⟨fun now' => (yields_instance? hfound).outcome_eq,
    fun delay now' d' happlication hrack hslot => ?_, fun delay now' => ?_,
    fun delay now' => ?_, ?_⟩
  · have hfound' : found tokens d'.application d'.rack d'.slot (claimed tokens locks d now c) =
        some (d.stamp now) := by rw [happlication, hrack, hslot, hfound]
    have hyields : Yields now' (Registry.create ⟨tokens, ⟨locks, delay⟩⟩ d') _ _ _ :=
      yields_create_exists hfound'
    exact hyields.outcome_eq
  · have hyields : Yields now' (Registry.delete ⟨tokens, ⟨locks, delay⟩⟩ d) _ _ _ :=
      yields_delete hclaimed.tokens (hclaimed.choosing _) hclaimedLock hselected
    rw [hyields.outcome_eq, claimed_undone habsent now hlock]
  · have hyields : Yields now' (Registry.delete ⟨tokens, ⟨locks, delay⟩⟩ d) _ _ _ :=
      yields_delete_notFound h.tokens (h.choosing _) (.inl hlock) hnot
    rw [hyields.outcome_eq, Contents.setRow_of_row? hlock]
  · rintro key (rfl | rfl)
    · exact hlock
    · exact h.choosing _

/-- **Life cycle.** After any calls one after another of which no request failed, a descriptor under
whose row key nothing is recorded can be claimed. Until it is given up its record is found as it was
told, and no other claim for the same identity changes anything. Giving it up makes the store what
it was before the claim, with no row of its lock, and giving it up once more finds nothing and
changes nothing. -/
theorem claimed_once_and_given_up_once (h : ReachedInTurn tokens locks c) (d : Descriptor)
    (habsent : c.row? tokens d.rowKey.text = none) (delay : Duration) (now : UInt64) :
    ∃ after, outcome now (Registry.create ⟨tokens, ⟨locks, delay⟩⟩ d) c = (.ok .created, after) ∧
      LifeCycle tokens locks d now c after := by
  have hrest := atRest_of_reached h
  have hyields : Yields now (Registry.create ⟨tokens, ⟨locks, delay⟩⟩ d) c _ _ :=
    yields_create (found_eq_none hrest.tokens habsent) (hrest.choosing _)
      (.inl (hrest.unlocked habsent))
  exact ⟨_, hyields.outcome_eq, lifeCycle_of_atRest hrest habsent now⟩

/-- Beside the record of another application whose row key starts alike. -/
theorem claimed_beside_another : ∃ (c : Contents) (d : Descriptor) (after : Contents),
    ReachedInTurn "tokens" "locks" c ∧ (c.rows "tokens").length = 1 ∧
      c.row? "tokens" d.rowKey.text = none ∧
      outcome 2 (Registry.create ⟨"tokens", ⟨"locks", .zero⟩⟩ d) c = (.ok .created, after) ∧
      LifeCycle "tokens" "locks" d 2 c after := by
  obtain ⟨other, hother⟩ : ∃ other : Descriptor, other =
    ⟨"app_a", "b", 1, "i", "host", "10.0.0.1", "east", "zone", "0", ∅, none⟩ := ⟨_, rfl⟩
  obtain ⟨d, hd⟩ : ∃ d : Descriptor, d =
    ⟨"app", "a", 1, "j", "host", "10.0.0.2", "east", "zone", "0", ∅, none⟩ := ⟨_, rfl⟩
  have hreached : ReachedInTurn "tokens" "locks"
      (outcome 1 (Registry.create ⟨"tokens", ⟨"locks", .zero⟩⟩ other) ∅).2 :=
    ReachedInTurn.start.create .zero 1 other
  have hlength : ((outcome 1 (Registry.create ⟨"tokens", ⟨"locks", .zero⟩⟩ other)
      ∅).2.rows "tokens").length = 1 := by
    rw [hother]
    rfl
  have habsent : (outcome 1 (Registry.create ⟨"tokens", ⟨"locks", .zero⟩⟩ other)
      ∅).2.row? "tokens" d.rowKey.text = none := by
    rw [hother, hd]
    rfl
  obtain ⟨after, hcreated, hcycle⟩ := claimed_once_and_given_up_once hreached d habsent .zero 2
  exact ⟨_, d, after, hreached, hlength, habsent, hcreated, hcycle⟩

end ClusterIdentity.Claiming
