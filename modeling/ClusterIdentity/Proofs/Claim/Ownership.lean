import ClusterIdentity.Proofs.Claim.Calls

/-!
# Ownership of slots

Any number of nodes claim identities and give them up, each machine making one call at a time. A
record is always guarded: its machine holds the lock of the row key, and the lock row says so.

## Main definitions

* `RegistryCalls`, `registryRules`: which calls a machine may make
* `SlotOwned`: how the record under a row key, its lock and its history are related

## Main statements

* `sound_of_reaches`: nodes keep to the conduct in every state that they reach
* `slot_owned_by_recorded_machine`: every slot is owned by the machine that its record names

## Design notes

Nodes may share one table for records and locks. The keys of records are told apart from those of
the rows that guard them by their last character.
-/

namespace ClusterIdentity.Claiming

open Interleaving Locking RowKey

/-- The calls that a machine may make for descriptors of its own. -/
inductive RegistryCalls (tokens locks : String) (D : Descriptor → Prop) (i : String) :
    Unit → Unit → Procedure Unit → Prop
  | create (registry : Registry) (htokens : registry.tokens = tokens)
    (hlocks : registry.locks.name = locks) {d : Descriptor} (hd : D d) (hi : d.instanceId = i) :
    RegistryCalls tokens locks D i () () ((registry.create d).bind fun _ => .done ())
  | delete (registry : Registry) (htokens : registry.tokens = tokens)
    (hlocks : registry.locks.name = locks) {d : Descriptor} (hd : D d) (hi : d.instanceId = i) :
    RegistryCalls tokens locks D i () () ((registry.delete d).bind fun _ => .done ())

/-- Machines whose identities and locks are kept in two given tables. Anything may go wrong. -/
def registryRules (tokens locks : String) (D : Descriptor → Prop) : Rules String Unit :=
  ⟨False, RegistryCalls tokens locks D⟩

/-- The record under a row key is that of a machine that holds the lock, and its history is in
order. -/
structure SlotOwned (tokens locks : String) (D : Descriptor → Prop) (k : RowKey)
    (s : State String Unit) : Prop where
  /-- A record is that of a descriptor, stamped with some time. The machine that it names holds the
  lock, and the lock row names that machine too. -/
  guarded : ∀ row, s.contents.row? tokens k.text = some row →
    ∃ d now, D d ∧ d.rowKey = k ∧ row = (d.stamp now).toAttributes ∧
      row.get? Column.instanceId.name = some d.instanceId ∧
      s.holds locks k d.instanceId = true ∧
      ∃ guard, s.contents.row? locks k.lock = some guard ∧
        guard.get? d.instanceId = some d.instanceId
  /-- A record that is about to be written meets no other. -/
  fresh : ∀ i fallback attributes condition next,
    s.activity i = .sending fallback (.put tokens k.text attributes condition) next →
    s.contents.row? tokens k.text = none ∧
      ∃ d now, D d ∧ d.rowKey = k ∧ d.instanceId = i ∧ attributes = (d.stamp now).toAttributes
  /-- Between two writes of a record there is a delete. -/
  rewritten : ∀ later between earlier i j act act',
    s.history = later ++ (i, act) :: (between ++ (j, act') :: earlier) →
    act.writes tokens k.text = true → act'.writes tokens k.text = true →
    ∃ entry ∈ between, entry.2.erases tokens k.text = true
  /-- A record is deleted by the machine that wrote it. -/
  erased : ∀ later between earlier i j act act',
    s.history = later ++ (i, act) :: (between ++ (j, act') :: earlier) →
    act.erases tokens k.text = true → act'.writes tokens k.text = true →
    (∀ entry ∈ between, entry.2.writes tokens k.text = false ∧
      entry.2.erases tokens k.text = false) → j = i

section Run

variable {tokens locks : String} {D : Descriptor → Prop} (hD : Consistent D)
  {s : State String Unit}
  (hreach : Reaches (registryRules tokens locks D) (State.initial ∅ ()) s)

include hD hreach

/-- In every state that machines reach, each of them keeps to the conduct. -/
theorem sound_of_reaches :
    (nodeConduct tokens locks D).Sound False (fun _ _ _ => True) s := by
  have hrecord : RecordInv tokens locks D ⟨∅, []⟩ :=
    ⟨nofun, fun _ _ => rfl, fun _ _ => trivial⟩
  have hstart : (nodeConduct tokens locks D).Sound False (fun _ _ _ => True)
      (State.initial ∅ ()) :=
    ⟨⟨fun k => LockInv.initial fun _ _ => rfl, hrecord⟩, fun _ _ _ => trivial, nofun⟩
  have hcalls : ∀ i note fallback p, (registryRules tokens locks D).allows i note fallback p →
      (nodeConduct tokens locks D).Triple False i (fun _ => True) (fun _ => True) p
        fun _ _ => True := by
    intro i note fallback p hcall
    cases hcall with
    | create registry htokens hlocks hd hi =>
      exact (triple_create htokens hlocks hD hd hi).bind fun _ =>
        Conduct.Triple.done fun _ _ h => h
    | delete registry htokens hlocks hd hi =>
      exact (triple_delete htokens hlocks hD hd hi).bind fun _ =>
        Conduct.Triple.done fun _ _ h => h
  exact Conduct.sound (fun _ _ _ _ _ _ _ _ => trivial) hcalls hstart hreach

/-- **Slot ownership.** Whatever fails and whoever gives up in the middle of a call, the machine
that a record names owns the slot. -/
theorem slot_owned_by_recorded_machine (application rack : String) (slot : UInt32) :
    SlotOwned tokens locks D (RowKey.ofSlot application rack slot) s := by
  have hsound := sound_of_reaches hD hreach
  have hk : Unguarding (RowKey.ofSlot application rack slot).text :=
    unguarding_text_ofSlot application rack slot
  generalize RowKey.ofSlot application rack slot = k at hk ⊢
  refine ⟨fun row hrow => guarded_of_row? hsound.inv hk hrow,
    fun i fallback attributes condition next hsending => ?_,
    fun later between earlier i j act act' hhistory => ?_,
    fun later between earlier i j act act' hhistory => ?_⟩
  · -- a request that is about to be answered is one that the conduct allows
    obtain ⟨hnone, d, now, hd, hi, hkey, hattributes⟩ := (hsound.may hsending).2 rfl hk
    exact ⟨hnone, d, now, hd, RowKey.ext hkey.symm, hi, hattributes⟩
  · have horderly := hsound.inv.2.orderly _ hk
    rw [hhistory] at horderly
    exact horderly.exists_erases
  · have horderly := hsound.inv.2.orderly _ hk
    rw [hhistory] at horderly
    exact horderly.eraser_eq_writer

end Run

/-- A descriptor of a machine that may be told to be in one datacenter or another. -/
def machineIn (datacenter : String) : Descriptor :=
  ⟨"app", "rack", 1, "a", "host", "10.0.0.1", datacenter, "zone", "0", ∅, none⟩

/-- A machine that claimed an identity with nobody else about owns the slot. -/
theorem slot_owned_after_lone_create :
    ∃ s, Reaches (registryRules "tokens" "locks" (· = machineIn "east")) (State.initial ∅ ()) s ∧
      s.contents.row? "tokens" (RowKey.ofSlot "app" "rack" 1).text =
        some ((machineIn "east").stamp 7).toAttributes ∧
      SlotOwned "tokens" "locks" (· = machineIn "east") (RowKey.ofSlot "app" "rack" 1) s := by
  have hreach : Reaches (registryRules "tokens" "locks" (· = machineIn "east"))
      (State.initial ∅ ()) _ :=
    Step.call_reaches (i := "a") 7 rfl
      (.create ⟨"tokens", ⟨"locks", .zero⟩⟩ rfl rfl rfl rfl)
  have hconsistent : Consistent (· = machineIn "east") := by
    rintro d d' rfl rfl - -
    exact ⟨rfl, rfl, rfl, rfl⟩
  exact ⟨_, hreach, rfl, slot_owned_by_recorded_machine hconsistent hreach "app" "rack" 1⟩

end ClusterIdentity.Claiming
