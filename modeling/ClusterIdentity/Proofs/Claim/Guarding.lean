import ClusterIdentity.Proofs.Claim.Isolation
import ClusterIdentity.Proofs.Claim.Ownership

/-!
# Records are written under the lock

A machine that makes one call at a time writes and deletes records only while the lock row of the
row key names it, whatever its descriptors are. Calls of one machine that overlap share its entry
in the lock row, though, and one of them may remove it before the other writes.

## Main definitions

* `HolderTriple`: a procedure of a machine keeps to the conduct of contenders for locks

## Main statements

* `record_written_by_holder`: a machine that makes one call at a time writes records under the lock
* `record_written_without_lock`: a machine that gives an identity up while it claims it does not
-/

namespace ClusterIdentity.Claiming

open Interleaving Locking RowKey

/-! ### Locks -/

section Holders

/-- A procedure of a machine keeps to the conduct of contenders for locks, whatever fails. -/
abbrev HolderTriple {α : Type} (locks : String) (i : String) (pre : Scene String → Prop)
    (p : Procedure α) (post : α → Scene String → Prop) : Prop :=
  (locksConduct locks).Triple False i (fun _ => True) pre p post

variable {tokens locks : String} {i : String} {k : RowKey} {d : Descriptor} {registry : Registry}

/-- What has nothing to do with locks leaves them as they are. -/
theorem triple_apart {α : Type} {h : Bool} {p : Procedure α} {R : α → Prop}
    (hp : p.Within (fun call => ∀ k key, GuardedBy k key → ¬ call.WritesTo locks key) TakesNone
      R) :
    HolderTriple locks i (fun s => s.holds locks k i = h) p
      fun a s => R a ∧ s.holds locks k i = h := by
  refine Conduct.Triple.of_within hp (fun _ _ _ _ _ _ hrely hs => (hrely k).holds.trans hs)
    (fun _ _ _ _ => trivial) (fun call hcall s hs _ k' hdrops => ?_)
    (fun call hcall s hs hp reached contents hcontents => ⟨?_, ?_⟩)
    fun event hevent s hs hp => ⟨?_, (Scene.holds_report_of_not_takes (hevent k)).trans hp⟩
  · rw [Act.drops_of_not_writesTo (hcall k' _ k'.guardedBy_lock)] at hdrops
    cases hdrops
  · exact Conduct.Proper.all fun k' => (hs k').proper_sent (hcall k') reached hcontents.eq_or
  · exact (Scene.holds_sent_of_not_writesTo (hcall k _ k.guardedBy_lock) _ _).trans hp
  · exact Conduct.Proper.all fun k' => (hs k').proper_report (hevent k')

/-- So it may be done at any time. -/
theorem triple_apart_any {α : Type} {p : Procedure α} {R : α → Prop}
    (hp : p.Within (fun call => ∀ k key, GuardedBy k key → ¬ call.WritesTo locks key) TakesNone
      R) :
    HolderTriple locks i (fun _ => True) p fun a _ => R a :=
  fun s hs _ => (triple_apart (k := ⟨""⟩) (h := s.holds locks ⟨""⟩ i) hp
    |>.strengthen_post fun _ _ _ ha => ha.1) s hs rfl

theorem holder_lock (hlocks : registry.locks.name = locks) :
    HolderTriple locks i (fun _ => True) (registry.lock k i) fun answer s =>
      ∀ hold, answer = .ok hold → hold = ⟨k, i⟩ ∧ s.holds locks k i = true := by
  subst hlocks
  intro s hs _
  have hacquire : HolderTriple registry.locks.name i
      (fun s' => s'.holds registry.locks.name k i = s.holds registry.locks.name k i)
      (registry.locks.acquire k i) _ :=
    triple_locks ((within_acquire registry.locks k i).mono (fun _ hcall => hcall.1.forLock)
      fun _ hevent => hevent.takesOnly) (triple_acquire fun _ _ _ => trivial)
  refine (hacquire.bind fun answer => ?_) s hs rfl
  cases answer with
  | error e => exact Conduct.Triple.done fun _ _ _ => nofun
  | ok hold =>
    refine Conduct.Triple.done fun _ _ hp hold' hhold => ?_
    cases hhold
    exact hp

theorem holder_unlock (hlocks : registry.locks.name = locks) {pre : Scene String → Prop} :
    HolderTriple locks i pre (registry.unlock ⟨k, i⟩) fun _ _ => True := by
  subst hlocks
  intro s hs _
  have hrelease : HolderTriple registry.locks.name i
      (fun s' => s'.holds registry.locks.name k i = s.holds registry.locks.name k i)
      (registry.locks.release k i) _ :=
    triple_locks ((within_release registry.locks k i).mono (fun _ hcall => hcall.1.forLock)
      fun _ hevent => hevent.takesOnly) (triple_release fun _ _ _ => trivial)
  refine (hrelease.bind fun answer => ?_) s hs rfl
  cases answer with
  | ok outcome => exact Conduct.Triple.done fun _ _ _ => trivial
  | error e =>
    exact (triple_apart_any (Procedure.within_report fun _ => rfl)).consequence
      (fun _ _ _ => trivial) fun _ _ _ _ => trivial

theorem holder_tearDown (hlocks : registry.locks.name = locks) :
    HolderTriple locks i (fun s => s.holds locks k i = true) (registry.locks.tearDown ⟨k, i⟩)
      fun _ _ => True := by
  subst hlocks
  have htear : HolderTriple registry.locks.name i
      (fun s => s.holds registry.locks.name k i = true) (registry.locks.tearDown ⟨k, i⟩) _ :=
    triple_locks ((within_tearDown registry.locks ⟨k, i⟩).mono (fun _ hcall => hcall.forLock)
      fun _ hevent => hevent.takesOnly k)
      ((triple_tearDown rfl fun _ _ => trivial).weaken_pre fun s _ (hs : Apart _ _ k i true s) =>
        hs.holds)
  exact htear.strengthen_post fun _ _ _ _ => trivial

theorem holder_report {event : Event} (hevent : TakesNone event) :
    HolderTriple locks i (fun _ => True) (Procedure.report event) fun _ _ => True :=
  (triple_apart_any (Procedure.within_report hevent)).strengthen_post fun _ _ _ _ => trivial

/-! ### Records -/

/-- The key that a machine finds is not that of a row that guards a row key. -/
theorem holder_key? (application datacenter rack : String) (slot : UInt32) :
    HolderTriple locks i (fun s => s.holds locks k i = true)
      (Roster.key? tokens application slot datacenter rack) fun answer s =>
        s.holds locks k i = true ∧
          ∀ key, answer = .ok (some key) → tokens = locks → Unguarding key := by
  have hreads : ∀ filter limit k' key, GuardedBy k' key →
      ¬ (StoreCall.scan tokens filter limit).WritesTo locks key := fun _ _ _ _ _ hw => hw
  have hkey : HolderTriple locks i (fun s => s.holds locks k i = true)
      (Roster.key? tokens application slot datacenter rack) _ :=
    triple_key?_of_scan (Conduct.Triple.scan _ _ _
      (fun _ _ _ _ hrely hs => (hrely k).holds.trans hs)
      (fun _ _ _ _ => trivial) (fun _ _ _ _ => nofun)
      (fun s hs _ reached => Conduct.Proper.all fun k' =>
        (hs k').proper_sent (hreads _ _ k') reached (.inl rfl))
      fun _ h reached => (Scene.holds_sent_of_not_drops rfl _).trans h)
  refine hkey.strengthen_post fun answer s hs h =>
    ⟨h.1, fun key hfound htables k' hguarded => ?_⟩
  obtain ⟨row, hrow, rfl⟩ := h.2.2 key hfound
  subst htables
  obtain ⟨hmem, hselects⟩ := List.mem_filter.mp hrow
  have hown : OnlyEntered row.attributes :=
    fun name value hvalue => (hs k').own row.key hguarded name value
      ((Contents.attribute?_of_row? (Contents.mem_rows_iff.mp hmem) name).trans hvalue)
  cases (Roster.not_ofInstance_selects hown).symm.trans hselects

/-! ### Claiming and giving up -/

theorem holder_create (hlocks : registry.locks.name = locks) (hi : d.instanceId = i) :
    HolderTriple locks i (fun _ => True) (registry.create d) fun _ _ => True := by
  subst hi
  refine (triple_apart_any (within_instance? (fun _ _ _ hw => hw) fun _ _ => rfl)).bind
    fun answer => ?_
  rcases answer with e | _ | record
  · exact Conduct.Triple.done fun _ _ _ => trivial
  · refine (holder_lock hlocks).bind fun answer => ?_
    cases answer with
    | error e => exact Conduct.Triple.done fun _ _ _ => trivial
    | ok hold =>
      refine Conduct.Triple.assume (fun _ _ hs => (hs hold rfl).1) fun hhold => ?_
      subst hhold
      have hapart : ∀ now k key, GuardedBy k key → ¬ (StoreCall.put registry.tokens d.rowKey.text
          (d.stamp now).toAttributes none).WritesTo locks key :=
        fun now k key hkey hw => d.unguarding_rowKey k (hw.2 ▸ hkey)
      refine ((triple_apart_any (within_writeRecord hapart)).weaken_pre
        fun _ _ _ => trivial).bind fun written => (holder_unlock hlocks).bind fun _ => ?_
      cases written with
      | error e => exact Conduct.Triple.done fun _ _ _ => trivial
      | ok _ =>
        exact (holder_report fun _ => rfl).bind fun _ => Conduct.Triple.done fun _ _ _ => trivial
  · exact (holder_report fun _ => rfl).bind fun _ => Conduct.Triple.done fun _ _ _ => trivial

theorem holder_delete (hlocks : registry.locks.name = locks) (hi : d.instanceId = i) :
    HolderTriple locks i (fun _ => True) (registry.delete d) fun _ _ => True := by
  subst hi
  refine (holder_lock hlocks).bind fun answer => ?_
  cases answer with
  | error e => exact Conduct.Triple.done fun _ _ _ => trivial
  | ok hold =>
    refine Conduct.Triple.assume (fun _ _ hs => (hs hold rfl).1) fun hhold => ?_
    subst hhold
    refine ((holder_key? _ _ _ _).weaken_pre fun _ _ hs => (hs _ rfl).2).bind fun answer => ?_
    rcases answer with e | _ | key
    · exact (holder_unlock hlocks).bind fun _ =>
        Conduct.Triple.done fun _ _ _ => trivial
    · refine Conduct.Triple.bind (triple_apart (h := true)
        (Procedure.within_report fun _ => rfl) |>.weaken_pre fun _ _ hs => hs.1) fun _ => ?_
      refine ((holder_tearDown hlocks).weaken_pre fun _ _ hs => hs.2).bind fun answer => ?_
      cases answer <;> exact Conduct.Triple.done fun _ _ _ => trivial
    · refine Conduct.Triple.assume (fun _ _ hs => hs.2 key rfl) fun hkey => ?_
      have hapart : ∀ k key', GuardedBy k key' →
          ¬ (StoreCall.delete registry.tokens key .row none).WritesTo locks key' :=
        fun k key' hguarded hw => hkey hw.1 k (hw.2 ▸ hguarded)
      refine ((triple_apart (h := true) (within_deleteRecord hapart)).weaken_pre
        fun _ _ hs => hs.1).bind fun answer => ?_
      cases answer with
      | error e =>
        exact (holder_unlock hlocks).bind fun _ =>
          Conduct.Triple.done fun _ _ _ => trivial
      | ok _ =>
        refine ((holder_tearDown hlocks).weaken_pre fun _ _ hs => hs.2).bind fun answer => ?_
        cases answer with
        | error e => exact Conduct.Triple.done fun _ _ _ => trivial
        | ok _ =>
          exact (holder_report fun _ => rfl).bind fun _ => Conduct.Triple.done fun _ _ _ => trivial

end Holders

/-! ### Machines that make one call at a time -/

section Run

variable {tokens locks : String} {D : Descriptor → Prop} {s : State String Unit}
  (hreach : Reaches (registryRules tokens locks D) (State.initial ∅ ()) s)

include hreach

/-- In every state that machines reach, each of them behaves as a contender for locks. -/
theorem locks_sound : (locksConduct locks).Sound False (fun _ _ _ => True) s := by
  have hstart : (locksConduct locks).Sound False (fun _ _ _ => True) (State.initial ∅ ()) :=
    ⟨fun k => LockInv.initial fun _ _ => rfl, fun _ _ _ => trivial, nofun⟩
  refine Conduct.sound (fun _ _ _ _ _ _ _ _ => trivial) (fun i note fallback p hcall => ?_)
    hstart hreach
  cases hcall with
  | create registry htokens hlocks hd hi =>
    exact (holder_create hlocks hi).bind fun _ => Conduct.Triple.done fun _ _ h => h
  | delete registry htokens hlocks hd hi =>
    exact (holder_delete hlocks hi).bind fun _ => Conduct.Triple.done fun _ _ h => h

/-- In every state that machines reach, each of them keeps to its own identities. -/
theorem identities_sound :
    (identityConduct tokens locks fun i d => D d ∧ d.instanceId = i).Sound False
      (fun _ _ _ => True) s := by
  have hstart : (identityConduct tokens locks fun i d => D d ∧ d.instanceId = i).Sound False
      (fun _ _ _ => True) (State.initial ∅ ()) :=
    ⟨⟨nofun, nofun⟩, fun _ _ _ => trivial, nofun⟩
  refine Conduct.sound (fun _ _ _ _ _ _ _ _ => trivial) (fun i note fallback p hcall => ?_)
    hstart hreach
  cases hcall with
  | create registry htokens hlocks hd hi =>
    exact (session_create htokens hlocks ⟨hd, hi⟩).bind fun _ =>
      Conduct.Triple.done fun _ _ _ => trivial
  | delete registry htokens hlocks hd hi =>
    exact (session_delete htokens hlocks ⟨hd, hi⟩).bind fun _ =>
      Conduct.Triple.done fun _ _ _ => trivial

/-- **Writing under the lock.** If machines make one call at a time, whatever fails and whoever
gives up in the middle of a call, a machine that is about to write or delete the record under a
row key holds the lock, and the lock row names it. -/
theorem record_written_by_holder (application rack : String) (slot : UInt32) {i : String}
    {fallback : Unit} {call : StoreCall}
    {next : Except StoreError call.Reply → Procedure Unit}
    (hsending : s.activity i = .sending fallback call next)
    (hwrites : call.WritesTo tokens (ofSlot application rack slot).text) :
    s.holds locks (ofSlot application rack slot) i = true ∧
      ∃ guard, s.contents.row? locks (ofSlot application rack slot).lock = some guard ∧
        guard.get? i = some i := by
  have hheld : s.holds locks (ofSlot application rack slot) i = true := by
    obtain ⟨d, -, ⟨-, hkey, hheld⟩ | ⟨-, hguarded⟩⟩ :=
      (identities_sound hreach).may hsending tokens _ hwrites
    · rw [RowKey.ext hkey]
      exact hheld
    · exact (unguarding_text_ofSlot application rack slot d.rowKey hguarded).elim
  exact ⟨hheld, Contents.exists_row?_of_attribute?
    (((locks_sound hreach).inv _).named i hheld)⟩

end Run

/-- A machine that claims an identity with nobody else about comes to write the record, and the
lock row names it then. -/
theorem record_written_by_lone_machine :
    ∃ s : State String Unit,
      Reaches (registryRules "tokens" "locks" (· = machineIn "east")) (State.initial ∅ ()) s ∧
      ∃ fallback attributes condition next, s.activity "a" =
        .sending fallback (.put "tokens" "app_rack_1" attributes condition) next ∧
      s.holds "locks" ⟨"app_rack_1"⟩ "a" = true ∧
      ∃ guard, s.contents.row? "locks" "app_rack_1-lock" = some guard ∧
        guard.get? "a" = some "a" := by
  have hcall : Reaches (registryRules "tokens" "locks" (· = machineIn "east"))
      (State.initial ∅ ()) _ :=
    .single (.call (i := "a") 0 rfl (.create ⟨"tokens", ⟨"locks", .zero⟩⟩ rfl rfl rfl rfl))
  have hscanned := reaches_served hcall "a" rfl
  have hchoosing := reaches_served hscanned "a" rfl
  have hchosen := reaches_served hchoosing "a" rfl
  have hlooked := reaches_served hchosen "a" rfl
  have hlocking := reaches_served hlooked "a" rfl
  have hlocked := reaches_served hlocking "a" rfl
  exact ⟨_, hlocked, _, _, _, _, rfl,
    record_written_by_holder hlocked "app" "rack" 1 rfl ⟨rfl, rfl⟩⟩

/-- One session claims an identity and has taken the lock. Another one of the same machine gives
the identity up, finds no record and tears the lock down. The first one is then about to write the
record, and the lock row is gone. -/
theorem record_written_without_lock :
    ∃ s : State Bool (Option ClaimError),
      Reaches (sessionRules "tokens" "locks" (fun _ => machineIn "east") True)
        (State.initial ∅ none) s ∧
      (∃ fallback attributes condition next, s.activity false =
        .sending fallback (.put "tokens" "app_rack_1" attributes condition) next) ∧
      s.contents.row? "locks" "app_rack_1-lock" = none := by
  have hcall : Reaches (sessionRules "tokens" "locks" (fun _ => machineIn "east") True)
      (State.initial ∅ none) _ :=
    .single (.call (i := false) 0 rfl (.create ⟨"tokens", ⟨"locks", .zero⟩⟩ rfl rfl none))
  have hscanned := reaches_served hcall false rfl
  have hchoosing := reaches_served hscanned false rfl
  have hchosen := reaches_served hchoosing false rfl
  have hlooked := reaches_served hchosen false rfl
  have hlocking := reaches_served hlooked false rfl
  have hlocked := reaches_served hlocking false rfl
  have hgivenUp := hlocked.trans (Step.call_reaches (i := true) 0 rfl
    (.delete ⟨"tokens", ⟨"locks", .zero⟩⟩ rfl rfl none))
  exact ⟨_, hgivenUp, ⟨_, _, _, _, rfl⟩, rfl⟩

end ClusterIdentity.Claiming
