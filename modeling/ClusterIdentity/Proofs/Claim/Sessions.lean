import ClusterIdentity.Proofs.Claim.Footprint
import ClusterIdentity.Proofs.Claim.Identities
import ClusterIdentity.Proofs.Claim.Queries

/-!
# Sessions keep to themselves

Whatever a session is told by the store, and whoever else works for its machine at the same time,
it sends requests for its own row key only. If it cannot take the lock because of another
contender, then it knows of that one from an entry that a session for the same row key made.

## Main definitions

* `SessionTriple`: a procedure of a session keeps to the conduct, whatever fails
* `Blamed`, `ClaimBlamed`: whoever turned a session away works for the same row key

## Main statements

* `triple_acquire_blamed`: an attempt to take a lock is turned away by sessions for its row key only
* `session_create`, `session_delete`: so are claims
-/

namespace ClusterIdentity.Claiming

open Interleaving Locking RowKey

variable {ι : Type} {tokens locks : String} {W : ι → Descriptor → Prop} {i : ι} {d : Descriptor}
  {k : RowKey}

/-- Whether all entries of a row were made by sessions for a row key. -/
def AllEntered (locks : String) (W : ι → Descriptor → Prop) (k : RowKey) (key : String)
    (row : Attributes) (history : List (ι × Act)) : Prop :=
  ∀ name value, row.get? name = some value → Entered locks W k key name history

theorem lasting_allEntered (k : RowKey) (key : String) (row : Attributes) :
    Lasting fun s : Scene ι => AllEntered locks W k key row s.history :=
  fun _ _ hsub h name value hvalue => (h name value hvalue).mono hsub

/-- Why an attempt was turned away, as far as other contenders had to do with it: by the entry of
a session for the same row key. -/
def Blamed (locks : String) (W : ι → Descriptor → Prop) (d : Descriptor)
    (history : List (ι × Act)) : LockError → Prop
  | .heldByOther key holder => key = d.rowKey.lock ∧ holder ≠ d.instanceId ∧
    Entered locks W d.rowKey key holder history
  | .contention key _ => key = d.rowKey.choosing ∧ ∃ name, name ≠ d.instanceId ∧
    Entered locks W d.rowKey key name history
  | _ => True

theorem lasting_blamed (error : LockError) :
    Lasting fun s : Scene ι => Blamed locks W d s.history error := by
  intro a b hsub hblamed
  cases error with
  | heldByOther key holder => exact ⟨hblamed.1, hblamed.2.1, hblamed.2.2.mono hsub⟩
  | contention key contenders =>
    obtain ⟨hkey, name, hname, hentered⟩ := hblamed
    exact ⟨hkey, name, hname, hentered.mono hsub⟩
  | _ => trivial

/-- Why a claim failed, as far as other contenders had to do with it. -/
def ClaimBlamed (locks : String) (W : ι → Descriptor → Prop) (d : Descriptor)
    (history : List (ι × Act)) : ClaimError → Prop
  | .lockFailed cause => Blamed locks W d history cause
  | .storeUnavailable _ => True

/-- The postcondition of claims: whoever turned the session away works for the same row key. -/
def FailsBlamed {α : Type} (locks : String) (W : ι → Descriptor → Prop) (d : Descriptor)
    (answer : Except ClaimError α) (s : Scene ι) : Prop :=
  ∀ error, answer = .error error → ClaimBlamed locks W d s.history error

theorem failsBlamed_storeUnavailable {α : Type} (e : StoreError) (s : Scene ι) :
    FailsBlamed locks W d (.error (.storeUnavailable e) : Except ClaimError α) s := by
  intro error herror
  cases herror
  trivial

/-- A query for one instance selects only rows under its row key. -/
theorem IdentityInv.key_of_selected {s : Scene ι} (hs : IdentityInv tokens locks W s) {row : Row}
    (hrow : row ∈ (s.contents.rows tokens).filter
      (Roster.ofInstance d.application d.slot d.datacenter d.rack).selects) :
    row.key = d.rowKey.text := by
  obtain ⟨hmem, hselects⟩ := List.mem_filter.mp hrow
  obtain ⟨key, attributes⟩ := row
  have hfound : s.contents.row? tokens key = some attributes := Contents.mem_rows_iff.mp hmem
  rcases hs.keyed key attributes hfound with ⟨d', rfl, happ, hrack, hslot⟩ | ⟨rfl, k, hguarded⟩
  · obtain ⟨happ', hslot', -, hrack'⟩ := Roster.columns_of_ofInstance_selects hselects
    rw [happ, Option.some.injEq] at happ'
    rw [hrack, Option.some.injEq] at hrack'
    rw [hslot, Option.some.injEq] at hslot'
    simp only [Descriptor.rowKey, RowKey.ofSlot, happ', hrack', hslot']
  · have hown : OnlyEntered attributes :=
      fun name value hvalue => (hs.entered k key hguarded name value
        ((Contents.attribute?_of_row? hfound name).trans hvalue)).1
    cases (Roster.not_ofInstance_selects hown).symm.trans hselects

variable [DecidableEq ι]

/-! ### Attempts -/

/-- A procedure of a session keeps to the conduct, whatever fails and wherever it is abandoned. -/
abbrev SessionTriple {α : Type} (tokens locks : String) (W : ι → Descriptor → Prop) (i : ι)
    (pre : Scene ι → Prop) (p : Procedure α) (post : α → Scene ι → Prop) : Prop :=
  (identityConduct tokens locks W).Triple False i (fun _ => True) pre p post

theorem Lasting.stable {P : Scene ι → Prop} (hP : Lasting P) :
    (identityConduct tokens locks W).Stable i P :=
  fun a b _ _ hrely => hP a b hrely.history

/-- What a session does for its lock only preserves what was done. -/
theorem triple_ownCalls {α : Type} {p : Procedure α} {E : Event → Prop} {R : α → Prop}
    {P : Scene ι → Prop} (hd : W i d) (hP : Lasting P)
    (hp : p.Within (OwnCall locks d.rowKey d.instanceId) E R) :
    SessionTriple tokens locks W i P p fun a s => R a ∧ P s :=
  Conduct.Triple.of_within hp (fun _ _ => hP.stable) (fun _ _ _ _ => trivial)
    (fun _ hcall _ _ _ t key hw => ⟨d, hd, .inr (hcall.forLock t key hw)⟩)
    (fun call hcall _ hs hp reached contents hcontents =>
      ⟨hs.proper_ownCall hd hcall hcontents, hP.sent hp call reached contents⟩)
    fun event _ _ hs hp => ⟨hs.proper_report event, hP.report hp event⟩

/-- How the attempt of a session ended: it took the lock, or whoever turned it away is known. -/
structure EndsBlamed (locks : String) (W : ι → Descriptor → Prop) (d : Descriptor) (i : ι)
    (ended : Attempt × Except LockError Unit) (s : Scene ι) : Prop where
  isFor : IsFor d.rowKey d.instanceId ended.1
  taken : ended.2 = .ok () → s.holds locks d.rowKey i = true
  blamed : ∀ error, ended.2 = .error error → Blamed locks W d s.history error

theorem triple_forLock {α : Type} {p : Procedure α} {E : Event → Prop} {R : α → Prop}
    (hd : W i d) (hp : p.Within (OwnCall locks d.rowKey d.instanceId) E R) :
    SessionTriple tokens locks W i (fun _ => True) p fun a _ => R a :=
  (triple_ownCalls hd (fun _ _ _ _ => trivial) hp).strengthen_post fun _ _ _ h => h.1

variable {table : LockTable}

theorem triple_entries_entered {key : String} (hkey : k.GuardedBy key) {P : Scene ι → Prop}
    (hP : Lasting P) :
    SessionTriple tokens table.name W i P (table.entries key) fun answer s =>
      P s ∧ ∀ row, answer = .ok row → AllEntered table.name W k key row s.history := by
  have hread : SessionTriple tokens table.name W i P (table.entries key) _ :=
    triple_entries hP.stable (fun _ _ _ _ => trivial) (fun _ _ _ _ _ hw => False.elim hw)
      (fun _ hs _ reached => hs.proper_sent (fun _ _ => .inl) fun _ _ _ _ _ => .inl)
      fun _ _ hp => hP.sent hp _ _ _
  refine hread.strengthen_post fun answer s hs hp => ⟨hp.1, fun row hrow name value hvalue => ?_⟩
  rw [hp.2 row hrow, ← Contents.attribute?_eq_get?_getD] at hvalue
  exact (hs.entered k key hkey name value hvalue).2

/-- An event other than that does not take a lock away. -/
theorem holds_report_of_holds {s : Scene ι} (h : s.holds locks k i = true) (event : Event) :
    (s.report i event).holds locks k i = true := by
  rw [Scene.holds_report]
  split
  · rfl
  · exact h

theorem EndsBlamed.of_error {attempt : Attempt} (hattempt : IsFor d.rowKey d.instanceId attempt)
    {error : LockError} {s : Scene ι} (hblamed : Blamed locks W d s.history error) :
    EndsBlamed locks W d i (attempt, .error error) s :=
  ⟨hattempt, nofun, fun _ herror => Except.error.inj herror ▸ hblamed⟩

theorem EndsBlamed.unavailable {attempt : Attempt}
    (hattempt : IsFor d.rowKey d.instanceId attempt) (e : StoreError) (s : Scene ι) :
    EndsBlamed locks W d i (attempt, .error (.storeUnavailable e)) s :=
  .of_error hattempt trivial

theorem triple_verify_blamed (hd : W i d) {attempt : Attempt}
    (hattempt : IsFor d.rowKey d.instanceId attempt) :
    SessionTriple tokens table.name W i (fun _ => True) (table.verify attempt)
      (EndsBlamed table.name W d i) := by
  refine (triple_forLock hd ((within_entries _).mono (fun _ h => h.1) fun _ h => h)).bind
    fun answer => ?_
  cases answer with
  | error e => exact Conduct.Triple.done fun _ _ _ => .unavailable hattempt e _
  | ok holders =>
    show SessionTriple _ _ _ _ _ (if LockTable.isSole attempt.contender holders then _ else _) _
    split
    · have htaken : SessionTriple tokens table.name W i (fun _ => True)
          (attempt.moveTo .locked) fun moved s => IsFor d.rowKey d.instanceId moved ∧
            s.holds table.name d.rowKey i = true := by
        refine Conduct.Triple.bind (Conduct.Triple.report (fun _ hs _ => hs.proper_report _)
          fun s _ _ => ?_) fun _ => Conduct.Triple.done fun _ _ hp => ⟨hattempt, hp⟩
        have htakes : (Act.reported (.lockMoved attempt.rowKey attempt.contender attempt.state
            .locked)).takes d.rowKey = true := decide_eq_true hattempt.1
        rw [Scene.holds_report, if_pos ⟨rfl, htakes⟩]
      exact htaken.bind fun moved => Conduct.Triple.done fun _ _ hp => ⟨hp.1, fun _ => hp.2, nofun⟩
    · exact Conduct.Triple.done fun _ _ _ => .of_error hattempt trivial

theorem triple_claim_blamed (hd : W i d) {attempt : Attempt}
    (hattempt : IsFor d.rowKey d.instanceId attempt) :
    SessionTriple tokens table.name W i (fun _ => True) (table.claim attempt)
      (EndsBlamed table.name W d i) := by
  refine (triple_forLock hd (within_moveTo hattempt .locking)).bind fun moved => ?_
  refine Conduct.Triple.assume (fun _ _ hmoved => hmoved) fun hmoved => ?_
  have hwriting : IsFor d.rowKey d.instanceId { moved with wroteLock := true } := hmoved
  obtain ⟨hrowKey, hcontender⟩ := hmoved
  have henter : SessionTriple tokens table.name W i (fun _ => True)
      (table.enter moved.rowKey.lock moved.contender) fun _ _ => True := by
    rw [hrowKey, hcontender]
    exact triple_forLock hd
      ((within_enter d.rowKey.guardedBy_lock d.instanceId).mono (fun _ h => h.1) fun _ h => h)
  refine (henter.weaken_pre fun _ _ _ => trivial).bind fun answer => ?_
  cases answer with
  | error e => exact Conduct.Triple.done fun _ _ _ => .unavailable hwriting e _
  | ok _ => exact triple_settle.bind fun _ => triple_verify_blamed hd hwriting

/-- A session that decides by entries of sessions for its row key is turned away by those only. -/
theorem triple_decide_blamed (hd : W i d) {attempt : Attempt}
    (hattempt : IsFor d.rowKey d.instanceId attempt) (choosing holders : Attributes) :
    SessionTriple tokens table.name W i
      (fun s => AllEntered table.name W d.rowKey d.rowKey.choosing choosing s.history ∧
        AllEntered table.name W d.rowKey d.rowKey.lock holders s.history)
      (table.decide attempt choosing holders) (EndsBlamed table.name W d i) := by
  rw [LockTable.decide]
  split
  · rename_i holder hother
    refine Conduct.Triple.done fun s _ hs => .of_error hattempt ⟨hattempt.1 ▸ rfl, ?_, ?_⟩
    · have hne := List.find?_some hother
      rw [hattempt.2] at hne
      simpa using hne
    · obtain ⟨value, hvalue⟩ := Dict.mem_keys_iff.mp (List.mem_of_find?_eq_some hother)
      rw [hattempt.1]
      exact hs.2 holder value hvalue
  · split
    · rename_i hsize
      have hmove : SessionTriple tokens table.name W i
          (fun s => AllEntered table.name W d.rowKey d.rowKey.choosing choosing s.history)
          (attempt.moveTo .contending) fun moved s => IsFor d.rowKey d.instanceId moved ∧
            AllEntered table.name W d.rowKey d.rowKey.choosing choosing s.history :=
        triple_ownCalls hd (lasting_allEntered _ _ _) (within_moveTo hattempt .contending)
      refine (hmove.weaken_pre fun _ _ hs => hs.1).bind fun moved => ?_
      refine Conduct.Triple.done fun s _ hs => .of_error hs.1 ⟨hs.1.1 ▸ rfl, ?_⟩
      obtain ⟨name, hname, value, hvalue⟩ := Dict.exists_ne_of_one_lt_size hsize d.instanceId
      refine ⟨name, hname, ?_⟩
      rw [hs.1.1]
      exact hs.2 name value hvalue
    · have hclaim : SessionTriple tokens table.name W i (fun _ => True) (table.claim
          { attempt with heldBefore := holders.contains attempt.contender })
          (EndsBlamed table.name W d i) := triple_claim_blamed hd hattempt
      exact hclaim.weaken_pre fun _ _ _ => trivial

theorem triple_contend_blamed (hd : W i d) :
    SessionTriple tokens table.name W i (fun _ => True)
      (table.contend (Attempt.start d.rowKey d.instanceId)) (EndsBlamed table.name W d i) := by
  refine (triple_forLock hd (within_moveTo (k := d.rowKey) (i := d.instanceId) ⟨rfl, rfl⟩
    .choosing)).bind fun attempt => ?_
  refine Conduct.Triple.assume (fun _ _ hattempt => hattempt) fun hattempt => ?_
  obtain ⟨hrowKey, hcontender⟩ := hattempt
  have henter : SessionTriple tokens table.name W i (fun _ => True)
      (table.enter attempt.rowKey.choosing attempt.contender) fun _ _ => True := by
    rw [hrowKey, hcontender]
    exact triple_forLock hd
      ((within_enter d.rowKey.guardedBy_choosing d.instanceId).mono (fun _ h => h.1) fun _ h => h)
  refine (henter.weaken_pre fun _ _ _ => trivial).bind fun answer => ?_
  cases answer with
  | error e => exact Conduct.Triple.done fun _ _ _ => .unavailable ⟨hrowKey, hcontender⟩ e _
  | ok _ =>
    rw [hrowKey]
    refine (triple_entries_entered d.rowKey.guardedBy_choosing fun _ _ _ hp => hp).bind
      fun answer => ?_
    cases answer with
    | error e =>
      exact Conduct.Triple.done fun _ _ _ => .unavailable ⟨hrowKey, hcontender⟩ e _
    | ok choosing =>
      refine Conduct.Triple.bind ((triple_entries_entered d.rowKey.guardedBy_lock
        (lasting_allEntered d.rowKey d.rowKey.choosing choosing)).weaken_pre
          fun _ _ hs => hs.2 choosing rfl) fun answer => ?_
      cases answer with
      | error e =>
        exact Conduct.Triple.done fun _ _ _ => .unavailable ⟨hrowKey, hcontender⟩ e _
      | ok holders =>
        exact (triple_decide_blamed hd ⟨hrowKey, hcontender⟩ choosing holders).weaken_pre
          fun _ _ hs => ⟨hs.1, hs.2 holders rfl⟩

/-- An attempt takes the lock for its session or is turned away by sessions for its row key
only. -/
theorem triple_acquire_blamed (hd : W i d) :
    SessionTriple tokens table.name W i (fun _ => True)
      (table.acquire d.rowKey d.instanceId) fun answer s =>
        (∀ hold, answer = .ok hold →
          hold = ⟨d.rowKey, d.instanceId⟩ ∧ s.holds table.name d.rowKey i = true) ∧
        ∀ error, answer = .error error → Blamed table.name W d s.history error := by
  refine (triple_contend_blamed hd).bind fun ended => ?_
  obtain ⟨attempt, outcome⟩ := ended
  cases outcome with
  | ok _ =>
    have htaken : SessionTriple tokens table.name W i
        (fun s => s.holds table.name d.rowKey i = true)
        (Procedure.report (.lockTaken d.rowKey d.instanceId)) fun _ s =>
        s.holds table.name d.rowKey i = true :=
      Conduct.Triple.report (fun _ hs _ => hs.proper_report _)
        fun s _ hs => holds_report_of_holds hs _
    refine (htaken.weaken_pre fun _ _ hs => hs.taken rfl).bind fun _ => ?_
    refine Conduct.Triple.done fun _ _ hs => ⟨fun hold hhold => ?_, nofun⟩
    cases hhold
    exact ⟨rfl, hs⟩
  | error error =>
    refine Conduct.Triple.assume (fun _ _ hs => hs.isFor) fun hattempt => ?_
    -- what is left to do has no say in the outcome
    have hrest : Procedure.Within (OwnCall table.name d.rowKey d.instanceId) (MovesOnly d.rowKey)
        (fun answer : Except LockError Hold => answer = .error error)
        ((Procedure.report (.lockRefused d.rowKey d.instanceId attempt.state error)).bind fun _ =>
          (table.cleanUp attempt error).bind fun _ => (attempt.moveTo .failed).bind fun _ =>
            .done (.error error)) := by
      refine (Procedure.within_report trivial).bind fun _ _ => ?_
      refine Procedure.Within.bind ((within_cleanUp hattempt error).mono (fun _ h => h.1)
        fun _ h => h) fun _ _ => ?_
      exact (within_moveTo hattempt .failed).bind fun _ _ => rfl
    refine (triple_ownCalls hd (lasting_blamed error) hrest).consequence
      (fun _ _ hs => hs.blamed error rfl) fun answer s _ hs => ?_
    obtain ⟨rfl, hblamed⟩ := hs
    exact ⟨nofun, fun error' herror => Except.error.inj herror ▸ hblamed⟩

/-! ### Locks of a registry -/

variable {registry : Registry}

theorem session_lock (hlocks : registry.locks.name = locks) (hd : W i d) :
    SessionTriple tokens locks W i (fun _ => True) (registry.lock d.rowKey d.instanceId)
      fun answer s => (∀ hold, answer = .ok hold →
        hold = ⟨d.rowKey, d.instanceId⟩ ∧ s.holds locks d.rowKey i = true) ∧
        FailsBlamed locks W d answer s := by
  subst hlocks
  refine (triple_acquire_blamed hd).bind fun answer => ?_
  cases answer with
  | ok hold =>
    refine Conduct.Triple.done fun _ _ hs => ⟨fun hold' hhold => ?_, nofun⟩
    cases hhold
    exact hs.1 hold rfl
  | error cause =>
    refine Conduct.Triple.done fun s _ hs => ⟨nofun, fun error herror => ?_⟩
    have hblamed := hs.2 cause rfl
    cases herror
    cases cause <;> exact hblamed

theorem session_unlock (hlocks : registry.locks.name = locks) (hd : W i d)
    {pre : Scene ι → Prop} :
    SessionTriple tokens locks W i pre (registry.unlock ⟨d.rowKey, d.instanceId⟩)
      fun _ _ => True := by
  subst hlocks
  exact (triple_forLock hd (within_unlock registry ⟨d.rowKey, d.instanceId⟩)).weaken_pre
    fun _ _ _ => trivial

theorem session_tearDown (hlocks : registry.locks.name = locks) (hd : W i d)
    {pre : Scene ι → Prop} :
    SessionTriple tokens locks W i pre (registry.locks.tearDown ⟨d.rowKey, d.instanceId⟩)
      fun _ _ => True := by
  subst hlocks
  exact (triple_forLock hd (within_tearDown registry.locks ⟨d.rowKey, d.instanceId⟩)).weaken_pre
    fun _ _ _ => trivial

theorem session_report (event : Event) {pre : Scene ι → Prop} :
    SessionTriple tokens locks W i pre (Procedure.report event) fun _ _ => True :=
  Conduct.Triple.report (fun _ hs _ => hs.proper_report event) fun _ _ _ => trivial

/-! ### Records -/

theorem session_instance? (hd : W i d) (application rack : String) (slot : UInt32) :
    SessionTriple tokens locks W i (fun _ => True)
      (Roster.instance? tokens application rack slot) fun _ _ => True :=
  triple_forLock (E := fun _ => True) hd (within_instance? trivial fun _ => trivial)

theorem stable_holds (k : RowKey) :
    (identityConduct tokens locks W).Stable i fun s => s.holds locks k i = true :=
  fun _ _ _ _ hrely h => (hrely.holds k).trans h

/-- A session that holds its lock may write its record. -/
theorem session_writeRecord (htokens : registry.tokens = tokens) (hd : W i d) :
    SessionTriple tokens locks W i (fun s => s.holds locks d.rowKey i = true)
      (registry.writeRecord d) fun _ _ => True := by
  subst htokens
  refine Conduct.Triple.bind (Conduct.Triple.clock fun _ _ _ h => h) fun now => ?_
  have hput : SessionTriple registry.tokens locks W i (fun s => s.holds locks d.rowKey i = true)
      (Procedure.call (.put registry.tokens d.rowKey.text (d.stamp now).toAttributes none))
      fun _ _ => True :=
    Conduct.Triple.request nofun (stable_holds _) (fun _ _ _ _ => trivial)
      (fun _ _ hp _ _ hw => ⟨d, hd, .inl ⟨hw.1.symm, hw.2.symm, hp⟩⟩)
      (fun _ hs _ _ _ hcontents => hs.proper_put d now hcontents)
      (fun _ _ _ => trivial) fun _ _ _ _ _ _ _ _ => trivial
  refine hput.bind fun answer => ?_
  cases answer <;> exact Conduct.Triple.done fun _ _ _ => trivial

/-- A session that holds its lock may delete the record under it. -/
theorem session_deleteRecord (htokens : registry.tokens = tokens) (hd : W i d) :
    SessionTriple tokens locks W i (fun s => s.holds locks d.rowKey i = true)
      (registry.deleteRecord d.rowKey.text) fun _ _ => True := by
  subst htokens
  have hdelete : SessionTriple registry.tokens locks W i
      (fun s => s.holds locks d.rowKey i = true)
      (Procedure.call (.delete registry.tokens d.rowKey.text .row none)) fun _ _ => True :=
    Conduct.Triple.request nofun (stable_holds _) (fun _ _ _ _ => trivial)
      (fun _ _ hp _ _ hw => ⟨d, hd, .inl ⟨hw.1.symm, hw.2.symm, hp⟩⟩)
      (fun _ hs _ _ _ hcontents => hs.proper_erase d.unguarding_rowKey hcontents)
      (fun _ _ _ => trivial) fun _ _ _ _ _ _ _ _ => trivial
  refine hdelete.bind fun answer => ?_
  cases answer <;> exact Conduct.Triple.done fun _ _ _ => trivial

/-- The key that a session finds is that of its row key. -/
theorem session_key? (d : Descriptor) :
    SessionTriple tokens locks W i (fun s => s.holds locks d.rowKey i = true)
      (Roster.key? tokens d.application d.slot d.datacenter d.rack) fun answer s =>
        s.holds locks d.rowKey i = true ∧
          ∀ key, answer = .ok (some key) → key = d.rowKey.text := by
  have hkey : SessionTriple tokens locks W i (fun s => s.holds locks d.rowKey i = true)
      (Roster.key? tokens d.application d.slot d.datacenter d.rack) _ :=
    triple_key?_of_scan (Conduct.Triple.scan _ _ _ (stable_holds _) (fun _ _ _ _ => trivial)
      (fun _ _ _ _ _ hw => False.elim hw)
      (fun _ hs _ reached => hs.proper_sent (fun _ _ => .inl) fun _ _ _ _ _ => .inl)
      fun _ h reached => (Scene.holds_sent_of_not_drops rfl _).trans h)
  refine hkey.strengthen_post fun answer s hs h => ⟨h.1, fun key hfound => ?_⟩
  obtain ⟨row, hrow, rfl⟩ := h.2.2 key hfound
  exact hs.key_of_selected hrow

/-! ### Claiming and giving up -/

theorem session_create (htokens : registry.tokens = tokens)
    (hlocks : registry.locks.name = locks) (hd : W i d) :
    SessionTriple tokens locks W i (fun _ => True) (registry.create d) (FailsBlamed locks W d) := by
  subst htokens
  refine (session_instance? hd d.application d.rack d.slot).bind fun answer => ?_
  rcases answer with e | _ | record
  · exact Conduct.Triple.done fun s _ _ => failsBlamed_storeUnavailable e s
  · refine (session_lock hlocks hd).bind fun answer => ?_
    cases answer with
    | error e =>
      refine Conduct.Triple.done fun s _ hs error herror => ?_
      cases herror
      exact hs.2 e rfl
    | ok hold =>
      refine Conduct.Triple.assume (fun _ _ hs => (hs.1 hold rfl).1) fun hhold => ?_
      subst hhold
      refine ((session_writeRecord rfl hd).weaken_pre fun _ _ hs => (hs.1 _ rfl).2).bind
        fun written => (session_unlock hlocks hd).bind fun _ => ?_
      cases written with
      | error e => exact Conduct.Triple.done fun s _ _ => failsBlamed_storeUnavailable e s
      | ok _ => exact (session_report _).bind fun _ => Conduct.Triple.done fun _ _ _ _ => nofun
  · exact (session_report _).bind fun _ => Conduct.Triple.done fun _ _ _ _ => nofun

theorem session_delete (htokens : registry.tokens = tokens)
    (hlocks : registry.locks.name = locks) (hd : W i d) :
    SessionTriple tokens locks W i (fun _ => True) (registry.delete d) (FailsBlamed locks W d) := by
  subst htokens
  refine (session_lock hlocks hd).bind fun answer => ?_
  cases answer with
  | error e =>
    refine Conduct.Triple.done fun s _ hs error herror => ?_
    cases herror
    exact hs.2 e rfl
  | ok hold =>
    refine Conduct.Triple.assume (fun _ _ hs => (hs.1 hold rfl).1) fun hhold => ?_
    subst hhold
    refine ((session_key? d).weaken_pre fun _ _ hs => (hs.1 _ rfl).2).bind fun answer => ?_
    rcases answer with e | _ | key
    · exact (session_unlock hlocks hd).bind fun _ =>
        Conduct.Triple.done fun s _ _ => failsBlamed_storeUnavailable e s
    · refine (session_report _).bind fun _ => (session_tearDown hlocks hd).bind fun answer => ?_
      cases answer with
      | error e => exact Conduct.Triple.done fun s _ _ => failsBlamed_storeUnavailable e s
      | ok _ => exact Conduct.Triple.done fun _ _ _ _ => nofun
    · refine Conduct.Triple.assume (fun _ _ hs => hs.2 key rfl) fun hkey => ?_
      subst hkey
      refine ((session_deleteRecord rfl hd).weaken_pre fun _ _ hs => hs.1).bind fun answer => ?_
      cases answer with
      | error e =>
        exact (session_unlock hlocks hd).bind fun _ =>
          Conduct.Triple.done fun s _ _ => failsBlamed_storeUnavailable e s
      | ok _ =>
        refine (session_tearDown hlocks hd).bind fun answer => ?_
        cases answer with
        | error e => exact Conduct.Triple.done fun s _ _ => failsBlamed_storeUnavailable e s
        | ok _ =>
          exact (session_report _).bind fun _ => Conduct.Triple.done fun _ _ _ _ => nofun

end ClusterIdentity.Claiming
