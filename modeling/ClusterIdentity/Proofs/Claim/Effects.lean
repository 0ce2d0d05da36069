import ClusterIdentity.Proofs.Claim.Footprint
import ClusterIdentity.Proofs.Identity.Records
import ClusterIdentity.Proofs.Lock.Effects

/-!
# What a claim may have changed

A node that is left alone changes one row of the table of identities at most, and in the table of
locks its own entries for the lock of one row key. Which of that has happened is told by the
outcome, up to a failure of the store: it may have struck before the record was written or erased or
after that.

## Main definitions

* `recorded`, `Erased`: the record of a descriptor was written, or one was removed
* `CreateEffect`, `DeleteEffect`: what was changed, by the outcome

## Main statements

* `ends_create`, `ends_delete`: the effects of a claim and of giving one up, whatever fails
* `changes_by_outcome`: both for runs on contents of any kind
-/

namespace ClusterIdentity.Claiming

open Interleaving Solo Locking

/-- Whether two contents differ at most in the entries that the machine of a descriptor has in the
two rows of its lock. -/
abbrev OwnOnly (registry : Registry) (d : Descriptor) (a b : Contents) : Prop :=
  OnlyEntries registry.locks.name d.rowKey d.instanceId a b

/-- The contents with the stamped record of a descriptor laid over what is in its row. -/
def recorded (tokens : String) (d : Descriptor) (now : UInt64) (c : Contents) : Contents :=
  c.setRow tokens d.rowKey.text
    (some (Contents.written (c.row? tokens d.rowKey.text) (d.stamp now).toAttributes))

/-- Whether a row has the columns by which the record of a descriptor is looked up. -/
structure MatchesRow (d : Descriptor) (row : Row) : Prop where
  application : row.get? Column.application.name = some d.application
  slot : row.get? Column.slot.name = some (Numeral.write d.slot.toNat)
  datacenter : row.get? Column.datacenter.name = some d.datacenter
  rack : row.get? Column.rack.name = some d.rack

/-- Whether one row that matches a descriptor was removed as a whole, and besides that at most
entries of its machine were changed. -/
def Erased (registry : Registry) (d : Descriptor) (before after : Contents) : Prop :=
  ∃ row ∈ before.rows registry.tokens, MatchesRow d row ∧
    OwnOnly registry d (before.setRow registry.tokens row.key none) after

/-- What a claim has changed, by its outcome. The machine is not left in the choosing row of a claim
that got beyond looking for a record, unless a delete in the table of locks failed. -/
structure CreateEffect (registry : Registry) (d : Descriptor) (now : UInt64) (before : Contents)
    (outcome : Except ClaimError CreateOutcome) (s : Ledger) : Prop where
  alreadyExists : outcome = .ok .alreadyExists → s.contents = before
  created : outcome = .ok .created →
    OwnOnly registry d (recorded registry.tokens d now before) s.contents
  lockFailed : ∀ cause, outcome = .error (.lockFailed cause) → OwnOnly registry d before s.contents
  storeUnavailable : ∀ cause, outcome = .error (.storeUnavailable cause) →
    OwnOnly registry d before s.contents ∨
      OwnOnly registry d (recorded registry.tokens d now before) s.contents
  unlisted : s.Cleared registry.locks.name → s.contents = before ∨
    ¬ Lists registry.locks.name d.rowKey.choosing d.instanceId s.contents

/-- What giving a claim up has changed, by its outcome. -/
structure DeleteEffect (registry : Registry) (d : Descriptor) (before : Contents)
    (outcome : Except ClaimError RemoveOutcome) (s : Ledger) : Prop where
  deleted : outcome = .ok .deleted → Erased registry d before s.contents
  notFound : outcome = .ok .notFound → OwnOnly registry d before s.contents
  lockFailed : ∀ cause, outcome = .error (.lockFailed cause) → OwnOnly registry d before s.contents
  storeUnavailable : ∀ cause, outcome = .error (.storeUnavailable cause) →
    OwnOnly registry d before s.contents ∨ Erased registry d before s.contents
  unlisted : s.Cleared registry.locks.name →
    ¬ Lists registry.locks.name d.rowKey.choosing d.instanceId s.contents

variable {faults : Faults} {now : UInt64} {registry : Registry} {d : Descriptor}
  {before c : Contents} {α : Type}

/-! ### Parts -/

/-- A procedure that only scans leaves the contents as they are. -/
theorem ends_scanning {E : Event → Prop} {R : α → Prop} {p : Procedure α}
    (hp : p.Within (fun call => call.kind = .scan) E R) :
    Ends faults now (fun s => s.contents = c) p fun _ s => s.contents = c := by
  refine Ends.invariant hp (I := fun c' => c' = c) fun call c' hscan hc => ?_
  cases call with
  | scan table filter limit => exact hc
  | put table key attributes condition => cases hscan
  | delete table key scope condition => cases hscan
  | batchGet table keys => cases hscan

/-- Whether a machine holds the lock of a row key and nobody else is in the two rows. -/
abbrev HoldsAlone (registry : Registry) (k : RowKey) (i : String) (c : Contents) : Prop :=
  ∀ key, k.GuardedBy key → ListsOnly registry.locks.name key i c

theorem HoldsAlone.setRow {k : RowKey} {i : String} (h : HoldsAlone registry k i c) {key : String}
    (hkey : ¬ (registry.tokens = registry.locks.name ∧ k.GuardedBy key))
    (row : Option Attributes) :
    HoldsAlone registry k i (c.setRow registry.tokens key row) := by
  intro key' hkey'
  have hne : ¬ (registry.tokens = registry.locks.name ∧ key = key') := fun heq =>
    hkey ⟨heq.1, heq.2 ▸ hkey'⟩
  rw [ListsOnly, Contents.row?_setRow, if_neg hne]
  exact h key' hkey'

theorem ends_lock (k : RowKey) (i : String) :
    Ends faults now (fun s => s.contents = before) (registry.lock k i) fun answer s =>
      OnlyEntries registry.locks.name k i before s.contents ∧
        (∀ hold, answer = .ok hold → hold = ⟨k, i⟩ ∧ HoldsAlone registry k i s.contents) ∧
        ∀ e, answer = .error e → s.Cleaned →
          ¬ Lists registry.locks.name k.choosing i s.contents := by
  have hsole : Ends faults now (fun s => s.contents = before) (registry.locks.acquire k i)
      fun answer s => ∀ hold, answer = .ok hold →
        hold = ⟨k, i⟩ ∧ HoldsAlone registry k i s.contents :=
    ends_acquire_sole.weaken_pre fun _ _ => trivial
  refine ((ends_acquire_own.and hsole).and (ends_acquire registry.locks k i)).bind fun answer => ?_
  cases answer with
  | ok hold =>
    refine Ends.done fun s hs => ⟨hs.1.1, fun hold' hhold => ?_, fun _ => nofun⟩
    cases hhold
    exact hs.1.2 hold rfl
  | error e =>
    refine Ends.done fun s hs => ⟨hs.1.1, fun _ => nofun, fun _ _ hcleaned => ?_⟩
    exact (hs.2.2 e rfl hcleaned).2

theorem ends_unlock {k : RowKey} {i : String} (hc : HoldsAlone registry k i c) :
    Ends faults now (fun s => s.contents = c) (registry.unlock ⟨k, i⟩) fun _ s =>
      OnlyEntries registry.locks.name k i c s.contents ∧
        (s.Cleaned → ¬ Lists registry.locks.name k.choosing i s.contents) := by
  refine (ends_own_of_sole (within_unlock registry ⟨k, i⟩) hc).and ?_
  refine ends_release_unlisted.bind fun answer => ?_
  cases answer with
  | ok outcome => exact Ends.done fun _ hs => hs
  | error e => exact Ends.report _

theorem ends_tearDown {k : RowKey} {i : String} (hc : HoldsAlone registry k i c) :
    Ends faults now (fun s => s.contents = c) (registry.locks.tearDown ⟨k, i⟩) fun _ s =>
      OnlyEntries registry.locks.name k i c s.contents ∧
        (s.Cleared registry.locks.name →
          ¬ Lists registry.locks.name k.choosing i s.contents) :=
  (ends_own_of_sole (within_tearDown registry.locks ⟨k, i⟩) hc).and (ends_tearDown_unlisted ⟨k, i⟩)

/-- A request that sets a row, or removes it, sets it if it is told to have succeeded. If not it may
have done so all the same. -/
theorem ends_setRow {call : StoreCall} (hscan : call.kind ≠ .scan) {after : Contents}
    (hperform : (c.perform call).2 = after) :
    Ends faults now (fun s => s.contents = c) (Procedure.call call) fun answer s =>
      (s.contents = c ∨ s.contents = after) ∧ ∀ reply, answer = .ok reply → s.contents = after := by
  refine Ends.request hscan (fun s hs => ?_) fun s hs error reached c' hc' => ?_
  · subst hs
    exact ⟨.inr hperform, fun _ _ => hperform⟩
  · subst hs
    exact ⟨hc'.eq_or.imp_right fun heq => heq.trans hperform, nofun⟩

theorem ends_writeRecord :
    Ends faults now (fun s => s.contents = c) (registry.writeRecord d) fun answer s =>
      (s.contents = c ∨ s.contents = recorded registry.tokens d now c) ∧
        (answer = .ok () → s.contents = recorded registry.tokens d now c) := by
  have hput : Ends faults now (fun s => s.contents = c) (Procedure.call (.put registry.tokens
      d.rowKey.text (d.stamp now).toAttributes none)) fun answer s =>
        (s.contents = c ∨ s.contents = recorded registry.tokens d now c) ∧
          ∀ reply, answer = .ok reply → s.contents = recorded registry.tokens d now c :=
    ends_setRow (by nofun) rfl
  refine Ends.clock.bind fun t => Ends.given fun ht => ?_
  subst ht
  refine hput.bind fun answer => ?_
  cases answer with
  | ok outcome => exact Ends.done fun s hs => ⟨hs.1, fun _ => hs.2 outcome rfl⟩
  | error e => exact Ends.done fun s hs => ⟨hs.1, nofun⟩

theorem ends_deleteRecord (key : String) :
    Ends faults now (fun s => s.contents = c) (registry.deleteRecord key) fun answer s =>
      (s.contents = c ∨ s.contents = c.setRow registry.tokens key none) ∧
        (answer = .ok () → s.contents = c.setRow registry.tokens key none) := by
  have hdelete : Ends faults now (fun s => s.contents = c)
      (Procedure.call (.delete registry.tokens key .row none)) fun answer s =>
        (s.contents = c ∨ s.contents = c.setRow registry.tokens key none) ∧
          ∀ reply, answer = .ok reply → s.contents = c.setRow registry.tokens key none :=
    ends_setRow (by nofun) rfl
  refine hdelete.bind fun answer => ?_
  cases answer with
  | ok outcome => exact Ends.done fun s hs => ⟨hs.1, fun _ => hs.2 outcome rfl⟩
  | error e => exact Ends.done fun s hs => ⟨hs.1, nofun⟩

/-! ### Changes of one record -/

theorem Erased.trans {after after' : Contents} (h : Erased registry d before after)
    (h' : OwnOnly registry d after after') : Erased registry d before after' := by
  obtain ⟨row, hrow, hmatches, hown⟩ := h
  exact ⟨row, hrow, hmatches, hown.trans h'⟩

/-- The row of a record is none of the two that guard it. -/
theorem not_guardedBy_text (d : Descriptor) (table : String) :
    ¬ (table = registry.locks.name ∧ d.rowKey.GuardedBy d.rowKey.text) :=
  fun h => d.unguarding_rowKey d.rowKey h.2

theorem ownOnly_recorded (h : OwnOnly registry d before c) :
    OwnOnly registry d (recorded registry.tokens d now before)
      (recorded registry.tokens d now c) := by
  rw [recorded, recorded, h.elsewhere _ _ (not_guardedBy_text d registry.tokens)]
  exact h.setRow (not_guardedBy_text d registry.tokens) _

/-- Whether a node that holds a lock alone has tried to change a record: it did if it was told so,
and it may have done so if not. -/
structure Tried (registry : Registry) (d : Descriptor) (before : Contents) (X : Contents → Prop)
    (answer : Except StoreError Unit) (c : Contents) : Prop where
  alone : HoldsAlone registry d.rowKey d.instanceId c
  either : OwnOnly registry d before c ∨ X c
  changed : answer = .ok () → X c

/-- Giving the lock up does not change what was tried. -/
theorem Tried.conclude {X : Contents → Prop} {answer : Except StoreError Unit} {p : Procedure α}
    {T : Ledger → Prop} (hX : ∀ a b, X a → OwnOnly registry d a b → X b)
    (hp : ∀ c, HoldsAlone registry d.rowKey d.instanceId c →
      Ends faults now (fun s => s.contents = c) p fun _ s => OwnOnly registry d c s.contents ∧
        (T s → ¬ Lists registry.locks.name d.rowKey.choosing d.instanceId s.contents)) :
    Ends faults now (fun s => Tried registry d before X answer s.contents) p fun _ s =>
      (OwnOnly registry d before s.contents ∨ X s.contents) ∧
        (answer = .ok () → X s.contents) ∧
        (T s → ¬ Lists registry.locks.name d.rowKey.choosing d.instanceId s.contents) := by
  refine Ends.named fun c hc => (hp c hc.alone).strengthen_post fun _ s hs => ⟨?_, ?_, hs.2⟩
  · exact hc.either.imp (fun h => h.trans hs.1) fun h => hX _ _ h hs.1
  · exact fun hok => hX _ _ (hc.changed hok) hs.1

/-- A row other than the two that guard the lock was set, or perhaps not. -/
theorem Tried.of_setRow {X : Contents → Prop} {answer : Except StoreError Unit} {key : String}
    {row : Option Attributes} (hown : OwnOnly registry d before c)
    (halone : HoldsAlone registry d.rowKey d.instanceId c)
    (hkey : ¬ (registry.tokens = registry.locks.name ∧ d.rowKey.GuardedBy key))
    (hX : X (c.setRow registry.tokens key row)) {c' : Contents}
    (heither : c' = c ∨ c' = c.setRow registry.tokens key row)
    (hok : answer = .ok () → c' = c.setRow registry.tokens key row) :
    Tried registry d before X answer c' := by
  refine ⟨?_, ?_, fun h => hok h ▸ hX⟩
  · rcases heither with rfl | rfl
    · exact halone
    · exact halone.setRow hkey row
  · rcases heither with rfl | rfl
    · exact .inl hown
    · exact .inr hX

theorem tried_write (hown : OwnOnly registry d before c)
    (halone : HoldsAlone registry d.rowKey d.instanceId c) :
    Ends faults now (fun s => s.contents = c) (registry.writeRecord d) fun answer s =>
      Tried registry d before (OwnOnly registry d (recorded registry.tokens d now before)) answer
        s.contents :=
  ends_writeRecord.strengthen_post fun _ _ hs =>
    .of_setRow hown halone (not_guardedBy_text d registry.tokens) (ownOnly_recorded hown) hs.1 hs.2

theorem tried_delete (hne : registry.tokens ≠ registry.locks.name)
    (hown : OwnOnly registry d before c) (halone : HoldsAlone registry d.rowKey d.instanceId c)
    {row : Row} (hrow : row ∈ c.rows registry.tokens) (hmatches : MatchesRow d row) :
    Ends faults now (fun s => s.contents = c) (registry.deleteRecord row.key) fun answer s =>
      Tried registry d before (Erased registry d before) answer s.contents := by
  have hkey : ¬ (registry.tokens = registry.locks.name ∧ d.rowKey.GuardedBy row.key) :=
    fun h => hne h.1
  have hbefore : row ∈ before.rows registry.tokens := by
    rw [Contents.mem_rows_iff, ← hown.elsewhere _ _ hkey]
    exact Contents.mem_rows_iff.mp hrow
  have herased : Erased registry d before (c.setRow registry.tokens row.key none) :=
    ⟨row, hbefore, hmatches, hown.setRow hkey none⟩
  exact (ends_deleteRecord row.key).strengthen_post fun _ _ hs =>
    .of_setRow hown halone hkey herased hs.1 hs.2

/-! ### Claims -/

/-- What is done with a lock is done by a machine that holds it alone. -/
theorem ends_underLock {β : Type} {f : Except ClaimError Hold → Procedure β}
    {post : β → Ledger → Prop}
    (herror : ∀ e, Ends faults now (fun s => OwnOnly registry d before s.contents ∧ (s.Cleaned →
      ¬ Lists registry.locks.name d.rowKey.choosing d.instanceId s.contents)) (f (.error e)) post)
    (hok : ∀ c, OwnOnly registry d before c → HoldsAlone registry d.rowKey d.instanceId c →
      Ends faults now (fun s => s.contents = c) (f (.ok ⟨d.rowKey, d.instanceId⟩)) post) :
    Ends faults now (fun s => s.contents = before)
      ((registry.lock d.rowKey d.instanceId).bind f) post := by
  refine (ends_lock d.rowKey d.instanceId).bind fun answer => ?_
  cases answer with
  | error e => exact (herror e).weaken_pre fun s hs => ⟨hs.1, hs.2.2 e rfl⟩
  | ok hold =>
    refine Ends.assume (fun s hs => (hs.2.1 hold rfl).1) fun hhold => ?_
    subst hhold
    exact Ends.weaken_pre (Ends.named (P := fun c => OwnOnly registry d before c ∧
      HoldsAlone registry d.rowKey d.instanceId c) fun c hc => hok c hc.1 hc.2)
      fun s hs => ⟨hs.1, (hs.2.1 _ rfl).2⟩

theorem ends_create : Ends faults now (fun s => s.contents = before) (registry.create d)
    fun outcome s => (s.Cleared registry.locks.name → s.Cleaned) →
      CreateEffect registry d now before outcome s := by
  have hlook : Ends faults now (fun s => s.contents = before)
      (Roster.instance? registry.tokens d.application d.rack d.slot) fun _ s =>
        s.contents = before :=
    ends_scanning (within_instance? (E := fun _ => True) rfl fun _ => trivial)
  refine hlook.bind fun answer => ?_
  rcases answer with e | _ | record
  · exact Ends.done fun s hs _ =>
      ⟨nofun, nofun, nofun, fun _ _ => .inl (hs ▸ .refl), fun _ => .inl hs⟩
  · refine ends_underLock (fun e => ?_) fun c hown halone => ?_
    · exact Ends.done fun s hs hcleaned => ⟨nofun, nofun, fun _ _ => hs.1, fun _ _ => .inl hs.1,
        fun hcleared => .inr (hs.2 (hcleaned hcleared))⟩
    · refine (tried_write hown halone).bind fun written => ?_
      refine (Tried.conclude (fun _ _ => OnlyEntries.trans) fun _ => ends_unlock).bind fun _ => ?_
      cases written with
      | error e =>
        exact Ends.done fun s hs hcleaned => ⟨nofun, nofun, nofun, fun _ _ => hs.1,
          fun hcleared => .inr (hs.2.2 (hcleaned hcleared))⟩
      | ok _ =>
        refine (Ends.report _).bind fun _ => Ends.done fun s hs hcleaned => ?_
        exact ⟨nofun, fun _ => hs.2.1 rfl, nofun, nofun,
          fun hcleared => .inr (hs.2.2 (hcleaned hcleared))⟩
  · refine (Ends.report _).bind fun _ => ?_
    exact Ends.done fun s hs _ => ⟨fun _ => hs, nofun, nofun, nofun, fun _ => .inl hs⟩

/-- A key that is found is that of a row which matches. -/
theorem ends_key?_matches :
    Ends faults now (fun s => s.contents = c)
      (Roster.key? registry.tokens d.application d.slot d.datacenter d.rack) fun answer s =>
        s.contents = c ∧ ∀ key, answer = .ok (some key) →
          ∃ row ∈ c.rows registry.tokens, row.key = key ∧ MatchesRow d row := by
  have hscanning : Ends faults now (fun s => s.contents = c)
      (Roster.key? registry.tokens d.application d.slot d.datacenter d.rack) fun _ s =>
        s.contents = c :=
    ends_scanning (within_key? (E := fun _ => True) rfl)
  refine (hscanning.and (Roster.ends_key? _ _ _ _ _)).strengthen_post fun answer s hs =>
    ⟨hs.1, fun key hkey => ?_⟩
  obtain ⟨row, hselected, hrow⟩ := (hs.2.right _ hkey).2 key rfl
  rw [List.mem_filter] at hselected
  obtain ⟨happlication, hslot, hdatacenter, hrack⟩ :=
    Roster.columns_of_ofInstance_selects hselected.2
  exact ⟨row, hselected.1, hrow, happlication, hslot, hdatacenter, hrack⟩

theorem ends_delete (hne : registry.tokens ≠ registry.locks.name) :
    Ends faults now (fun s => s.contents = before) (registry.delete d) fun outcome s =>
      (s.Cleared registry.locks.name → s.Cleaned) → DeleteEffect registry d before outcome s := by
  refine ends_underLock (fun e => ?_) fun c hown halone => ?_
  · exact Ends.done fun s hs hcleaned => ⟨nofun, nofun, fun _ _ => hs.1, fun _ _ => .inl hs.1,
      fun hcleared => hs.2 (hcleaned hcleared)⟩
  · refine ends_key?_matches.bind fun answer => ?_
    rcases answer with e | _ | key
    · refine ((ends_unlock halone).weaken_pre fun s hs => hs.1).bind fun _ => ?_
      exact Ends.done fun s hs hcleaned => ⟨nofun, nofun, nofun,
        fun _ _ => .inl (hown.trans hs.1), fun hcleared => hs.2 (hcleaned hcleared)⟩
    · refine (Ends.report _).bind fun _ => ?_
      refine ((ends_tearDown halone).weaken_pre fun s hs => hs.1).bind fun answer => ?_
      cases answer with
      | error e =>
        exact Ends.done fun s hs _ => ⟨nofun, nofun, nofun, fun _ _ => .inl (hown.trans hs.1), hs.2⟩
      | ok _ =>
        exact Ends.done fun s hs _ => ⟨nofun, fun _ => hown.trans hs.1, nofun, nofun, hs.2⟩
    · refine Ends.assume (fun s hs => hs.2 key rfl) fun hfound => ?_
      obtain ⟨row, hrow, rfl, hmatches⟩ := hfound
      refine Ends.bind ((tried_delete hne hown halone hrow hmatches).weaken_pre fun s hs => hs.1)
        fun erased => ?_
      cases erased with
      | error e =>
        refine (Tried.conclude (fun _ _ => Erased.trans) fun _ => ends_unlock).bind fun _ => ?_
        exact Ends.done fun s hs hcleaned => ⟨nofun, nofun, nofun, fun _ _ => hs.1,
          fun hcleared => hs.2.2 (hcleaned hcleared)⟩
      | ok _ =>
        refine (Tried.conclude (fun _ _ => Erased.trans) fun _ => ends_tearDown).bind
          fun answer => ?_
        cases answer with
        | error e =>
          exact Ends.done fun s hs _ => ⟨nofun, nofun, nofun, fun _ _ => hs.1, hs.2.2⟩
        | ok _ =>
          refine (Ends.report _).bind fun _ => Ends.done fun s hs _ => ?_
          exact ⟨fun _ => hs.2.1 rfl, nofun, nofun, nofun, hs.2.2⟩

/-- Nothing but entries for the lock is ever withdrawn. -/
theorem cleaned_of_cleared {s : Ledger} (hs : ∀ entry ∈ s.answered, ClaimCall registry d entry.call)
    (hcleared : s.Cleared registry.locks.name) : s.Cleaned := by
  rintro ⟨call, answer⟩ hmem hcall
  have hclaim : ClaimCall registry d call := hs _ hmem
  cases call with
  | delete table key scope condition =>
    cases hclaim with
    | lock hown => exact hcleared _ hmem rfl hown.1
    | erase => cases hcall
  | put table key attributes condition => cases hcall
  | scan table filter limit => cases hcall
  | batchGet table keys => cases hcall

/-- **Changes by outcome.** Whatever is in the store and whichever requests fail, before or after
they took effect, the outcome of a claim that nobody disturbs, or of giving one up, tells what was
changed in the table of identities. Besides that at most entries of the machine in the two rows of
its lock were changed. -/
theorem changes_by_outcome (registry : Registry) (hne : registry.tokens ≠ registry.locks.name)
    (d : Descriptor) (faults : Faults) (now : UInt64) (before : Contents) :
    CreateEffect registry d now before (run faults now (registry.create d) before).1
        (run faults now (registry.create d) before).2 ∧
      DeleteEffect registry d before (run faults now (registry.delete d) before).1
        (run faults now (registry.delete d) before).2 := by
  have hcreate : ∀ entry ∈ (run faults now (registry.create d) before).2.answered,
      ClaimCall registry d entry.call :=
    Ends.answered (within_create registry d) ⟨before, []⟩ nofun
  have hdelete : ∀ entry ∈ (run faults now (registry.delete d) before).2.answered,
      ClaimCall registry d entry.call :=
    Ends.answered (within_delete registry d) ⟨before, []⟩ nofun
  exact ⟨ends_create ⟨before, []⟩ rfl (cleaned_of_cleared hcreate),
    ends_delete hne ⟨before, []⟩ rfl (cleaned_of_cleared hdelete)⟩

/-- The answer to the write of the record is lost: the claim has failed, and the record is there. -/
theorem changes_after_lost_answer :
    ∃ (d : Descriptor) (faults : Faults) (after : Ledger),
      run faults 0 (Registry.create ⟨"tokens", ⟨"locks", .zero⟩⟩ d) ∅ =
        (.error (.storeUnavailable (.unavailable .intercepted)), after) ∧
      CreateEffect ⟨"tokens", ⟨"locks", .zero⟩⟩ d 0 ∅
        (.error (.storeUnavailable (.unavailable .intercepted))) after ∧
      after.contents.row? "tokens" "app_rack_1" = some (d.stamp 0).toAttributes := by
  obtain ⟨d, hd⟩ : ∃ d : Descriptor, d =
    ⟨"app", "rack", 1, "i", "host", "10.0.0.1", "east", "zone", "0", ∅, none⟩ := ⟨_, rfl⟩
  obtain ⟨faults, hfaults⟩ : ∃ faults : Faults, faults = fun n _ =>
    if n = 6 then .failAfter (.unavailable .intercepted) else .pass := ⟨_, rfl⟩
  have hrun : (run faults 0 (Registry.create ⟨"tokens", ⟨"locks", .zero⟩⟩ d) ∅).1 =
      .error (.storeUnavailable (.unavailable .intercepted)) := by
    rw [hd, hfaults]
    rfl
  have hrow : (run faults 0 (Registry.create ⟨"tokens", ⟨"locks", .zero⟩⟩ d)
      ∅).2.contents.row? "tokens" "app_rack_1" = some (d.stamp 0).toAttributes := by
    rw [hd, hfaults]
    rfl
  have heffect := (changes_by_outcome ⟨"tokens", ⟨"locks", .zero⟩⟩ (by decide) d faults 0 ∅).1
  exact ⟨d, faults, _, Prod.ext hrun rfl, hrun ▸ heffect, hrow⟩

end ClusterIdentity.Claiming
