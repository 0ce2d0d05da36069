import ClusterIdentity.Claim.Registry
import ClusterIdentity.Proofs.Claim.Queries

/-!
# Claims under way

Claiming an identity and giving it up keep to the conduct of nodes, whatever fails and whatever
other nodes do meanwhile.

## Main statements

* `triple_create`, `triple_delete`
-/

namespace ClusterIdentity.Claiming

open Interleaving Locking RowKey

variable {tokens locks : String} {D : Descriptor → Prop} {i : String} {k : RowKey}
  {registry : Registry}

/-! ### Locks -/

/-- A request for a lock is one that a node may send unless it drops the lock while there is a
record. -/
theorem recordMay_of_forLock {call : StoreCall} (hcall : ForLock locks k call) {s : Scene String}
    (hdrops : ∀ k', (Act.sent call true).drops locks k' = true → s.holds locks k' i = true →
      s.contents.row? tokens k'.text = none) : RecordMay tokens locks D i call s := by
  cases call with
  | put t key attributes condition =>
    intro _ hkey
    exact (hkey k (hcall t key ⟨rfl, rfl⟩).2).elim
  | delete t key scope condition =>
    cases scope with
    | row =>
      refine ⟨fun _ hkey => (hkey k (hcall t key ⟨rfl, rfl⟩).2).elim, fun k' ht hkey _ hheld => ?_⟩
      exact hdrops k' (decide_eq_true ⟨ht, hkey⟩) hheld
    | attributes names => trivial
  | scan t filter limit => trivial
  | batchGet t keys => trivial

/-- An attempt at a lock keeps every assertion about records that is stable. -/
theorem triple_attempt {α : Type} {p : Procedure α} {R : α → Prop} {post : α → Scene String → Prop}
    {h : Bool} {I : Scene String → Prop}
    (hp : p.Within (AttemptCall locks k i) (MovesOnly k) R)
    (hlock : (locksConduct locks).Triple False i (fun _ => True)
      (fun s => s.holds locks k i = h) p post)
    (hstable : (nodeConduct tokens locks D).Stable i I)
    (hI : ∀ s s' : Scene String, (∀ key, Unguarding key →
      s'.contents.row? tokens key = s.contents.row? tokens key) → I s → I s') :
    NodeTriple tokens locks D i (fun s => s.holds locks k i = h ∧ I s) p fun a s =>
      post a s ∧ R a ∧ I s := by
  -- an attempt removes its own entries and never deletes a row
  have hkeeps : ∀ call, AttemptCall locks k i call → ∀ k' reached,
      (Act.sent call reached).drops locks k' = false := by
    intro call hcall k' reached
    cases call with
    | delete t key scope condition =>
      cases scope with
      | row => exact hcall.2.elim
      | attributes names => rfl
    | put t key attributes condition => rfl
    | scan t filter limit => rfl
    | batchGet t keys => rfl
  refine (Conduct.Triple.extend (D := recordConduct tokens locks D) hlock hp hstable
    (fun _ _ _ => trivial) (fun call hcall s hs _ => ?_)
    (fun call hcall s hs hi reached contents hcontents hproper => ⟨?_, ?_⟩)
    fun event _ s hs hi hproper =>
      ⟨hs.2.proper_report hproper, hI s (s.report i event) (fun _ _ => rfl) hi⟩)
    |>.weaken_keep fun _ _ => trivial
  · refine recordMay_of_forLock hcall.1.forLock fun k' hdrops _ => ?_
    cases (hkeeps call hcall k' true).symm.trans hdrops
  · refine hs.2.proper_lockCall hcall.1.forLock hcontents hproper fun k' hdrops _ => ?_
    cases (hkeeps call hcall k' reached).symm.trans hdrops
  · refine hI _ _ (fun key hkey => ?_) hi
    rcases hcontents.eq_or with rfl | rfl
    · rfl
    · exact Contents.row?_perform fun hw => hkey k (hcall.1.forLock tokens key hw).2

/-- A node that takes a lock holds it, and knows of records what it knew before. -/
theorem triple_lock (hlocks : registry.locks.name = locks) {I : Scene String → Prop}
    (hstable : (nodeConduct tokens locks D).Stable i I)
    (hI : ∀ s s' : Scene String, (∀ key, Unguarding key →
      s'.contents.row? tokens key = s.contents.row? tokens key) → I s → I s') :
    NodeTriple tokens locks D i I (registry.lock k i) fun answer s =>
      ∀ hold, answer = .ok hold → hold = ⟨k, i⟩ ∧ s.holds locks k i = true ∧ I s := by
  subst hlocks
  intro s hs hi
  have hacquire : (locksConduct registry.locks.name).Triple False i (fun _ => True)
      (fun s' => s'.holds registry.locks.name k i = s.holds registry.locks.name k i)
      (registry.locks.acquire k i) _ :=
    triple_locks ((within_acquire registry.locks k i).mono (fun _ hcall => hcall.1.forLock)
      fun _ hevent => hevent.takesOnly) (triple_acquire fun _ _ _ => trivial)
  refine ((triple_attempt (within_acquire registry.locks k i) hacquire hstable hI).bind
    fun answer => ?_) s hs ⟨rfl, hi⟩
  cases answer with
  | error e => exact Conduct.Triple.done fun _ _ _ => nofun
  | ok hold =>
    refine Conduct.Triple.done fun s' _ hs' hold' hhold => ?_
    cases hhold
    exact ⟨hs'.1.1, hs'.1.2, hs'.2.2⟩

/-- A node may release a lock at any time. -/
theorem triple_unlock (hlocks : registry.locks.name = locks) {hold : Hold}
    (hhold : hold = ⟨k, i⟩) :
    NodeTriple tokens locks D i (fun _ => True) (registry.unlock hold) fun _ _ => True := by
  subst hlocks hhold
  intro s hs _
  have hrelease : (locksConduct registry.locks.name).Triple False i (fun _ => True)
      (fun s' => s'.holds registry.locks.name k i = s.holds registry.locks.name k i)
      (registry.locks.release k i) _ :=
    triple_locks ((within_release registry.locks k i).mono (fun _ hcall => hcall.1.forLock)
      fun _ hevent => hevent.takesOnly) (triple_release fun _ _ _ => trivial)
  refine ((triple_attempt (I := fun _ => True) (within_release registry.locks k i) hrelease
    (fun _ _ _ _ _ _ => trivial) fun _ _ _ _ => trivial).bind fun answer => ?_) s hs ⟨rfl, trivial⟩
  cases answer with
  | ok outcome => exact Conduct.Triple.done fun _ _ _ => trivial
  | error e =>
    exact (triple_report (fun _ => rfl) fun _ _ => trivial).weaken_pre fun _ _ _ => trivial

/-- A node that holds a lock may tear it down if there is no record under it. -/
theorem triple_dismantle (hlocks : registry.locks.name = locks) {hold : Hold}
    (hhold : hold = ⟨k, i⟩) (hk : Unguarding k.text) :
    NodeTriple tokens locks D i
      (fun s => s.holds locks k i = true ∧ s.contents.row? tokens k.text = none)
      (registry.locks.tearDown hold) fun _ _ => True := by
  subst hlocks hhold
  have htear : (locksConduct registry.locks.name).Triple False i (fun _ => True)
      (fun s => s.holds registry.locks.name k i = true) (registry.locks.tearDown ⟨k, i⟩) _ :=
    triple_locks ((within_tearDown registry.locks ⟨k, i⟩).mono (fun _ hcall => hcall.forLock)
      fun _ hevent => hevent.takesOnly k)
      ((triple_tearDown rfl fun _ _ => trivial).weaken_pre fun s _ (hs : Apart _ _ k i true s) =>
        hs.holds)
  -- there is no record as long as the machine holds the lock
  have hstable : (nodeConduct tokens registry.locks.name D).Stable i fun s =>
      s.holds registry.locks.name k i = true → s.contents.row? tokens k.text = none := by
    intro a b _ _ hrely hnone hb
    have ha : a.holds registry.locks.name k i = true := (hrely.2.holds k).symm.trans hb
    rw [hrely.2.held k hk ha]
    exact hnone ha
  have hdrops : ∀ (call : StoreCall) (reached : Bool) (k' : RowKey),
      ForLock registry.locks.name k call →
      (Act.sent call reached).drops registry.locks.name k' = true → k' = k := by
    intro call reached k' hcall hdrops
    by_cases hw : call.WritesTo registry.locks.name k'.lock
    · exact k'.guardedBy_lock.unique (hcall _ _ hw).2
    · rw [Act.drops_of_not_writesTo hw] at hdrops
      cases hdrops
  refine ((Conduct.Triple.extend (D := recordConduct tokens registry.locks.name D) htear
    ((within_tearDown registry.locks ⟨k, i⟩).mono (fun _ hcall => hcall.forLock) fun _ h => h)
    hstable (fun _ _ _ => trivial)
    (fun call hcall s hs hI => ?_)
    (fun call hcall s hs hI reached contents hcontents hproper => ⟨?_, fun hheld => ?_⟩)
    fun event hevent s hs hI hproper => ⟨hs.2.proper_report hproper, fun hheld => ?_⟩)
    |>.weaken_keep fun _ _ => trivial).consequence (fun s _ hs => ⟨hs.1, fun _ => hs.2⟩)
    fun _ _ _ _ => trivial
  · refine recordMay_of_forLock hcall fun k' hdrop hheld => ?_
    obtain rfl := hdrops call true k' hcall hdrop
    exact hI hheld
  · refine hs.2.proper_lockCall hcall hcontents hproper fun k' hdrop hheld => ?_
    obtain rfl := hdrops call reached k' hcall hdrop
    exact hI hheld
  · have hbefore : s.holds registry.locks.name k i = true := by
      rw [Scene.holds_sent] at hheld
      split at hheld
      · cases hheld
      · exact hheld
    have hrow : contents.row? tokens k.text = s.contents.row? tokens k.text := by
      rcases hcontents.eq_or with rfl | rfl
      · rfl
      · exact Contents.row?_perform fun hw => hk k (hcall _ _ hw).2
    exact hrow.trans (hI hbefore)
  · rw [Scene.holds_report_of_not_takes (hevent k)] at hheld
    exact hI hheld

/-! ### Records -/

/-- What is done to a record has nothing to do with locks. -/
theorem proper_locks_of_record {s : Scene String} (hs : (locksConduct locks).inv s)
    (hk : Unguarding k.text) {call : StoreCall} {reached : Bool} {contents : Contents}
    (hcontents : Delivered call s.contents reached contents)
    (hcall : ∀ t key, call.WritesTo t key → key = k.text) :
    (locksConduct locks).Proper i s (s.sent i call reached contents) := by
  refine Conduct.Proper.all fun k' => (hs k').proper_sent (fun key hguarded hw => ?_) reached
    hcontents.eq_or
  rw [hcall locks key hw] at hguarded
  exact hk k' hguarded

/-- A node that holds the lock may write a record of its own where there is none. -/
theorem triple_writeRecord (htokens : registry.tokens = tokens) {d : Descriptor} (hd : D d)
    (hi : d.instanceId = i) :
    NodeTriple tokens locks D i
      (fun s => s.holds locks d.rowKey i = true ∧ s.contents.row? tokens d.rowKey.text = none)
      (registry.writeRecord d) fun _ _ => True := by
  subst htokens
  refine Conduct.Triple.bind (Conduct.Triple.clock fun _ _ _ h => h) fun now => ?_
  have hput : NodeTriple registry.tokens locks D i
      (fun s => s.holds locks d.rowKey i = true ∧
        s.contents.row? registry.tokens d.rowKey.text = none)
      (Procedure.call (.put registry.tokens d.rowKey.text (d.stamp now).toAttributes none))
      fun _ _ => True := by
    refine Conduct.Triple.request nofun (stable_held d.unguarding_rowKey (· = none))
      (fun _ _ _ _ => trivial) (fun s hs hp => ⟨fun _ => nofun, fun _ _ =>
        ⟨hp.2, d, now, hd, hi, rfl, rfl⟩⟩)
      (fun s hs hp reached contents hcontents => ?_) (fun _ _ _ => trivial)
      (fun _ _ _ _ _ _ _ _ => trivial)
    have hlocks : (locksConduct locks).Proper i s _ :=
      proper_locks_of_record hs.1 d.unguarding_rowKey hcontents fun _ _ hw => hw.2.symm
    exact hlocks.inf (hs.2.proper_write hs.1 hd hi hp.1 hp.2 hcontents hlocks)
  refine hput.bind fun answer => ?_
  cases answer <;> exact Conduct.Triple.done fun _ _ _ => trivial

/-- A node that holds the lock may delete the record under it. -/
theorem triple_deleteRecord (htokens : registry.tokens = tokens) (hk : Unguarding k.text) :
    NodeTriple tokens locks D i (fun s => s.holds locks k i = true)
      (registry.deleteRecord k.text) fun answer s => s.holds locks k i = true ∧
        (answer = .ok () → s.contents.row? tokens k.text = none) := by
  subst htokens
  have hguard : ∀ k' : RowKey, ¬ (StoreCall.delete registry.tokens k.text .row none).WritesTo
      locks k'.lock := fun k' hw => hk k' (.inl hw.2)
  have hholds : ∀ (s : Scene String) reached contents, (s.sent i (.delete registry.tokens k.text
      .row none) reached contents).holds locks k i = s.holds locks k i := fun s reached contents =>
    Scene.holds_sent_of_not_writesTo (hguard k) reached contents
  have hdelete : NodeTriple registry.tokens locks D i (fun s => s.holds locks k i = true)
      (Procedure.call (.delete registry.tokens k.text .row none)) fun answer s =>
        s.holds locks k i = true ∧
          ∀ outcome, answer = .ok outcome → s.contents.row? registry.tokens k.text = none := by
    refine Conduct.Triple.request nofun (fun _ _ _ _ hrely h => (hrely.2.holds k).trans h)
      (fun _ _ _ _ => trivial) (fun s hs hp => ⟨fun k' hdrops => ?_, fun _ _ row hrow => ?_, ?_⟩)
      (fun s hs hp reached contents hcontents => ?_)
      (fun s _ hp => ⟨(hholds _ _ _).trans hp, fun _ _ => Contents.row?_deleteRow ..⟩)
      (fun _ s _ hp _ _ _ _ => ⟨(hholds _ _ _).trans hp, nofun⟩)
    · rw [Act.drops_of_not_writesTo (hguard k')] at hdrops
      cases hdrops
    · exact (owner_eq_of_holds hs hk hp hrow).1
    · exact fun k' _ hkey _ _ => (hk k' (.inl hkey)).elim
    · have hlocks : (locksConduct locks).Proper i s _ :=
        proper_locks_of_record hs.1 hk hcontents fun _ _ hw => hw.2.symm
      refine hlocks.inf (hs.2.proper_erase hs.1 hk hp (fun j hj => ?_) hcontents hlocks)
      obtain ⟨row, hrow, hname⟩ := Contents.exists_row?_of_attribute? hj
      exact Option.some.inj (hname.symm.trans (owner_eq_of_holds hs hk hp hrow).1)
  refine hdelete.bind fun answer => ?_
  cases answer with
  | ok outcome => exact Conduct.Triple.done fun _ _ h => ⟨h.1, fun _ => h.2 _ rfl⟩
  | error e => exact Conduct.Triple.done fun _ _ h => ⟨h.1, nofun⟩

/-! ### Claiming and giving up -/

/-- A node may claim an identity at any time. -/
theorem triple_create (htokens : registry.tokens = tokens) (hlocks : registry.locks.name = locks)
    (hD : Consistent D) {d : Descriptor} (hd : D d) (hi : d.instanceId = i) :
    NodeTriple tokens locks D i (fun _ => True) (registry.create d) fun _ _ => True := by
  subst htokens
  refine (triple_instance? hD hd hi).bind fun answer => ?_
  rcases answer with e | _ | record
  · exact Conduct.Triple.done fun _ _ _ => trivial
  · have hlock : NodeTriple registry.tokens locks D i
        (fun s => owner? registry.tokens s d.rowKey.text ≠ some i) (registry.lock d.rowKey i) _ :=
      triple_lock hlocks (stable_unowned d.unguarding_rowKey) fun s s' hrows hne => by
        rw [owner?, Contents.attribute?, hrows _ d.unguarding_rowKey]
        exact hne
    rw [← hi] at hlock ⊢
    refine (hlock.weaken_pre fun _ _ hs => hs rfl).bind fun answer => ?_
    cases answer with
    | error e => exact Conduct.Triple.done fun _ _ _ => trivial
    | ok hold =>
      refine Conduct.Triple.assume (q := hold = ⟨d.rowKey, d.instanceId⟩)
        (fun s _ hs => (hs hold rfl).1) fun hhold => ?_
      have hwrite : NodeTriple registry.tokens locks D d.instanceId (fun s =>
          s.holds locks d.rowKey d.instanceId = true ∧
            s.contents.row? registry.tokens d.rowKey.text = none)
          (registry.writeRecord d) fun _ _ => True := triple_writeRecord rfl hd rfl
      refine (hwrite.weaken_pre fun s hinv hs => ?_).bind fun written => ?_
      · -- nobody but the machine has a record under the lock, and it had none before it took it
        obtain ⟨-, hheld, hunowned⟩ := hs hold rfl
        refine ⟨hheld, ?_⟩
        cases hrow : s.contents.row? registry.tokens d.rowKey.text with
        | none => rfl
        | some row =>
          have hname := (owner_eq_of_holds hinv d.unguarding_rowKey hheld hrow).1
          exact (hunowned ((Contents.attribute?_of_row? hrow _).trans hname)).elim
      · refine (triple_unlock hlocks hhold).bind fun _ => ?_
        cases written with
        | error e => exact Conduct.Triple.done fun _ _ _ => trivial
        | ok _ =>
          exact (triple_report (fun _ => rfl) fun _ _ => trivial).bind fun _ =>
            Conduct.Triple.done fun _ _ _ => trivial
  · have hreport : NodeTriple registry.tokens locks D i (fun _ => True)
        (Procedure.report (.instanceExists d.rowKey)) fun _ _ => True :=
      triple_report (fun _ => rfl) fun _ _ => trivial
    exact (hreport.weaken_pre fun _ _ _ => trivial).bind fun _ =>
      Conduct.Triple.done fun _ _ _ => trivial

/-- A node may give up an identity at any time. -/
theorem triple_delete (htokens : registry.tokens = tokens) (hlocks : registry.locks.name = locks)
    (hD : Consistent D) {d : Descriptor} (hd : D d) (hi : d.instanceId = i) :
    NodeTriple tokens locks D i (fun _ => True) (registry.delete d) fun _ _ => True := by
  subst htokens
  have hlock : NodeTriple registry.tokens locks D i (fun _ => True)
      (registry.lock d.rowKey i) _ :=
    triple_lock hlocks (I := fun _ => True) (fun _ _ _ _ _ _ => trivial) fun _ _ _ _ => trivial
  rw [← hi] at hlock ⊢
  refine hlock.bind fun answer => ?_
  cases answer with
  | error e => exact Conduct.Triple.done fun _ _ _ => trivial
  | ok hold =>
    refine Conduct.Triple.assume (q := hold = ⟨d.rowKey, d.instanceId⟩)
      (fun s _ hs => (hs hold rfl).1) fun hhold => ?_
    refine ((triple_key? hD hd rfl).weaken_pre fun s _ hs => (hs hold rfl).2.1).bind
      fun answer => ?_
    have hdismantle : NodeTriple registry.tokens locks D d.instanceId (fun s =>
        s.holds locks d.rowKey d.instanceId = true ∧
          s.contents.row? registry.tokens d.rowKey.text = none)
        (registry.locks.tearDown hold) fun _ _ => True :=
      triple_dismantle hlocks hhold d.unguarding_rowKey
    rcases answer with e | _ | key
    · exact ((triple_unlock hlocks hhold).weaken_pre fun _ _ _ => trivial).bind fun _ =>
        Conduct.Triple.done fun _ _ _ => trivial
    · refine (triple_report (fun _ => rfl) fun s hs =>
        ⟨(Scene.holds_report_of_not_takes rfl).trans hs.1, hs.2⟩).bind fun _ => ?_
      refine (hdismantle.weaken_pre fun s _ hs => ⟨hs.1, hs.2.1 rfl⟩).bind fun answer => ?_
      cases answer <;> exact Conduct.Triple.done fun _ _ _ => trivial
    · -- the key that was found is that of the record under the lock
      refine Conduct.Triple.assume (q := key = d.rowKey.text) (fun s _ hs => hs.2.2 key rfl)
        fun hkey => ?_
      subst hkey
      -- the record goes before the lock, so that it is guarded to the end
      have hdelete : NodeTriple registry.tokens locks D d.instanceId
          (fun s => s.holds locks d.rowKey d.instanceId = true)
          (registry.deleteRecord d.rowKey.text) _ := triple_deleteRecord rfl d.unguarding_rowKey
      refine (hdelete.weaken_pre fun s _ hs => hs.1).bind fun answer => ?_
      cases answer with
      | error e =>
        exact ((triple_unlock hlocks hhold).weaken_pre fun _ _ _ => trivial).bind fun _ =>
          Conduct.Triple.done fun _ _ _ => trivial
      | ok _ =>
        refine (hdismantle.weaken_pre fun s _ hs => ⟨hs.1, hs.2 rfl⟩).bind fun answer => ?_
        cases answer with
        | error e => exact Conduct.Triple.done fun _ _ _ => trivial
        | ok _ =>
          exact (triple_report (fun _ => rfl) fun _ _ => trivial).bind fun _ =>
            Conduct.Triple.done fun _ _ _ => trivial

end ClusterIdentity.Claiming
