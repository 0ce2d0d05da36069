import ClusterIdentity.Proofs.Lock.Holding

/-!
# Attempts keep to the conduct

Taking a lock, releasing it and tearing it down keep to the conduct of contenders, whatever the
other contenders do meanwhile. What an attempt remembers about the lock row decides whether it
may remove its entry: an entry that was there when the attempt read the row may be that of a
lock which the contender holds.

## Main definitions

* `Standing`: what an attempt knows about its contender
* `Apart`: a contender that does not hold the lock has no entry in the rows

## Main statements

* `triple_entries`: what is read of a row, whatever the conduct is
* `triple_acquire`, `triple_release`, `triple_tearDown`
-/

namespace ClusterIdentity.Locking

open Interleaving

/-! ### Entries of a row -/

theorem otherThan_eq_none_iff {i : String} {entries : Attributes} :
    LockTable.otherThan i entries = none ↔ ∀ j, j ≠ i → entries.get? j = none := by
  rw [LockTable.otherThan, List.find?_eq_none]
  constructor
  · intro h j hj
    cases hv : entries.get? j with
    | none => rfl
    | some v => exact (h j (Dict.mem_keys_iff.mpr ⟨v, hv⟩) (by simpa using hj)).elim
  · intro h j hkey hj
    obtain ⟨v, hv⟩ := Dict.mem_keys_iff.mp hkey
    rw [h j (by simpa using hj)] at hv
    cases hv

/-- A contender is alone in a row if it is in it and nobody else is. -/
theorem isSole_of_get? {i v : String} {entries : Attributes} (hi : entries.get? i = some v)
    (hothers : ∀ j, j ≠ i → entries.get? j = none) : LockTable.isSole i entries = true := by
  simp [LockTable.isSole, (Dict.size_eq_one_iff hi).mpr hothers, Dict.contains, hi]

/-! ### Reading and waiting -/

section AnyConduct

variable {ι : Type} {C : Conduct ι} {reliable : Prop} {i : ι} {keep P : Scene ι → Prop}
  {locks : LockTable}

/-- Whatever the conduct is, reading a row tells what is in it at that moment. -/
theorem triple_entries {key : String} (hstable : C.Stable i P)
    (hkeep : ¬ reliable → ∀ s, C.inv s → P s → keep s)
    (hmay : ∀ s, C.inv s → P s → C.may i (.batchGet locks.name [key]) s)
    (hproper : ∀ s, C.inv s → P s → ∀ reached,
      C.Proper i s (s.sent i (.batchGet locks.name [key]) reached s.contents))
    (hP : ∀ s reached, P s → P (s.sent i (.batchGet locks.name [key]) reached s.contents)) :
    C.Triple reliable i keep P (locks.entries key) fun answer s =>
      P s ∧ ∀ row, answer = .ok row → row = (s.contents.row? locks.name key).getD ∅ := by
  have hread : C.Triple reliable i keep P (Procedure.call (.batchGet locks.name [key]))
      fun answer s => P s ∧
        ∀ rows : Rows, answer = .ok rows → rows = s.contents.select locks.name [key] := by
    refine Conduct.Triple.request nofun hstable hkeep hmay
      (fun s hs hp reached contents hcontents => ?_)
      (fun s _ hp => ⟨hP s _ hp, fun rows hrows => ?_⟩)
      (fun _ s _ hp error reached contents hcontents => ⟨?_, nofun⟩)
    · rcases hcontents.eq_or with rfl | rfl <;> exact hproper s hs hp reached
    · cases hrows
      rfl
    · rcases hcontents.eq_or with rfl | rfl <;> exact hP s reached hp
  refine hread.bind fun answer => ?_
  cases answer with
  | error e => exact Conduct.Triple.done fun _ _ hp => ⟨hp.1, nofun⟩
  | ok rows =>
    refine Conduct.Triple.done fun s _ hp => ⟨hp.1, fun row hrow => ?_⟩
    cases hrow
    rw [hp.2 rows rfl, Contents.get?_select_singleton]

theorem triple_settle : C.Triple reliable i keep P locks.settle fun _ => P := by
  rw [LockTable.settle]
  split
  · exact Conduct.Triple.done fun _ _ hp => hp
  · exact Conduct.Triple.pause

end AnyConduct

/-! ### What is known during an attempt -/

section

variable (reliable : Prop) (table : String) (k : RowKey) (i : String) (h : Bool)

/-- What is known while an attempt of a contender is under way that held the lock before it or
did not. -/
structure Standing (attempt : Attempt) (s : Scene String) : Prop where
  rowKey : attempt.rowKey = k
  contender : attempt.contender = i
  begun : attempt.state ≠ .idle
  holds : s.holds table k i = h
  /-- Nothing was written to the lock row yet. -/
  untouched : attempt.wroteLock = false → reliable → h = false →
    s.contents.attribute? table k.lock i = none
  held : attempt.heldBefore = true → reliable → h = true
  /-- An entry that the attempt is going to remove is not that of a lock it holds. -/
  removable : attempt.wroteLock = true → attempt.heldBefore = false → h = false

/-- A contender holds the lock or does not; if nothing goes wrong and it does not, it has no
entry in the rows. -/
structure Apart (s : Scene String) : Prop where
  holds : s.holds table k i = h
  unlisted : reliable → h = false →
    ∀ key, k.GuardedBy key → s.contents.attribute? table key i = none

end

variable {reliable : Prop} {table : String} {k : RowKey} {i : String} {h : Bool}
  {keep : Scene String → Prop}

theorem stable_standing (attempt : Attempt) :
    (lockConduct table k).Stable i (Standing reliable table k i h attempt) := by
  intro a b _ _ hrely hstanding
  refine { hstanding with holds := hrely.holds.trans hstanding.holds, untouched := ?_ }
  intro hwrote hr hh
  exact hrely.unlisted _ k.guardedBy_lock (hstanding.untouched hwrote hr hh)

theorem stable_apart : (lockConduct table k).Stable i (Apart reliable table k i h) := by
  intro a b _ _ hrely hapart
  refine ⟨hrely.holds.trans hapart.holds, fun hr hh key hkey => ?_⟩
  exact hrely.unlisted key hkey (hapart.unlisted hr hh key hkey)

/-- A contender's entry that is not in a row stays out of it. -/
theorem stable_unlisted {key : String} (hkey : k.GuardedBy key) :
    (lockConduct table k).Stable i fun s =>
      reliable → s.contents.attribute? table key i = none :=
  fun _ _ _ _ hrely hnone hr => hrely.unlisted key hkey (hnone hr)

/-- Only the state of the attempt changes when it goes on, or it is about to write. -/
theorem Standing.moved {attempt : Attempt} {s : Scene String}
    (hs : Standing reliable table k i h attempt s) (next : LockState) (hnext : next ≠ .idle) :
    Standing reliable table k i h { attempt with state := next } s :=
  { hs with begun := hnext }

theorem Standing.writing {attempt : Attempt} {s : Scene String}
    (hs : Standing reliable table k i h attempt s)
    (hheld : attempt.heldBefore = false → h = false) :
    Standing reliable table k i h { attempt with wroteLock := true } s :=
  { hs with untouched := nofun, removable := fun _ => hheld }

theorem Apart.report {s : Scene String} (hs : Apart reliable table k i h s) {event : Event}
    (hevent : (Act.reported event).takes k = false) :
    Apart reliable table k i h (s.report i event) :=
  { hs with holds := (Scene.holds_report_of_not_takes hevent).trans hs.holds }

/-- A contender that has no entries unless it holds the lock stands well at the beginning. -/
theorem Apart.standing {s : Scene String} (hs : Apart reliable table k i h s) {attempt : Attempt}
    (hattempt : attempt = ⟨k, i, .choosing, false, false⟩) :
    Standing reliable table k i h attempt s := by
  subst hattempt
  exact ⟨rfl, rfl, nofun, hs.holds, fun _ hr hh => hs.unlisted hr hh k.lock k.guardedBy_lock,
    nofun, nofun⟩

theorem Standing.report {attempt : Attempt} {s : Scene String}
    (hs : Standing reliable table k i h attempt s) {event : Event}
    (hevent : (Act.reported event).takes k = false) :
    Standing reliable table k i h attempt (s.report i event) :=
  { hs with holds := (Scene.holds_report_of_not_takes hevent).trans hs.holds }

theorem Standing.sent {attempt : Attempt} {s : Scene String}
    (hs : Standing reliable table k i h attempt s) {call : StoreCall} {reached : Bool}
    {contents : Contents} (hcall : (Act.sent call reached).drops table k = false)
    (hlock : attempt.wroteLock = true ∨
      contents.attribute? table k.lock i = s.contents.attribute? table k.lock i) :
    Standing reliable table k i h attempt (s.sent i call reached contents) := by
  refine { hs with
    holds := (Scene.holds_sent_of_not_drops hcall contents).trans hs.holds, untouched := ?_ }
  intro hwrote hr hh
  rcases hlock with hlock | hlock
  · rw [hwrote] at hlock
    cases hlock
  · exact hlock.trans (hs.untouched hwrote hr hh)

theorem triple_report {P : Scene String → Prop} {event : Event}
    (hevent : (Act.reported event).takes k = false)
    (hP : ∀ s, P s → P (s.report i event)) :
    (lockConduct table k).Triple reliable i keep P (Procedure.report event) fun _ => P :=
  Conduct.Triple.report (fun _ hs _ => hs.proper_report hevent) fun s _ hp => hP s hp

theorem triple_moveTo (attempt : Attempt) {next : LockState} (hnext : next ≠ .locked)
    {P : Scene String → Prop}
    (hP : ∀ s event, (Act.reported event).takes k = false → P s → P (s.report i event)) :
    (lockConduct table k).Triple reliable i keep P (attempt.moveTo next)
      fun moved s => moved = { attempt with state := next } ∧ P s := by
  have htakes : (Act.reported (.lockMoved attempt.rowKey attempt.contender attempt.state
      next)).takes k = false := by
    cases next with
    | locked => exact (hnext rfl).elim
    | _ => rfl
  exact (triple_report htakes fun s => hP s _ htakes).bind fun _ =>
    Conduct.Triple.done fun _ _ hp => ⟨rfl, hp⟩

theorem triple_moveTo_standing (attempt : Attempt) {next : LockState} (hnext : next ≠ .locked) :
    (lockConduct table k).Triple reliable i keep (Standing reliable table k i h attempt)
      (attempt.moveTo next) fun moved s =>
        moved = { attempt with state := next } ∧ Standing reliable table k i h attempt s :=
  triple_moveTo attempt hnext fun _ _ hevent hs => hs.report hevent

/-! ### Single requests -/

variable {locks : LockTable}

/-- Entering a row keeps an assertion that does not depend on the entry. -/
theorem triple_enter {key contender : String} (hkey : k.GuardedBy key) (hcontender : contender = i)
    {P : Scene String → Prop}
    (hstable : (lockConduct locks.name k).Stable i P)
    (hkeep : ¬ reliable → ∀ s, P s → keep s)
    (hP : ∀ s reached contents,
      contents = s.contents ∨
        contents = (s.contents.perform (.put locks.name key (Dict.singleton i i) none)).2 →
      P s → P (s.sent i (.put locks.name key (Dict.singleton i i) none) reached contents)) :
    (lockConduct locks.name k).Triple reliable i keep P (locks.enter key contender) fun _ => P := by
  obtain rfl := hcontender.symm
  have hput : (lockConduct locks.name k).Triple reliable i keep P
      (Procedure.call (.put locks.name key (Dict.singleton i i) none)) fun _ => P :=
    Conduct.Triple.request nofun hstable (fun hr s _ hp => hkeep hr s hp)
      (fun _ _ _ => nofun)
      (fun _ hs _ reached _ hcontents => hs.proper_enter hkey reached hcontents.eq_or)
      (fun s _ hp => hP s _ _ (.inr rfl) hp)
      (fun _ s _ hp _ reached _ hcontents => hP s reached _ hcontents.eq_or hp)
  refine hput.bind fun answer => ?_
  cases answer with
  | ok outcome => exact Conduct.Triple.done fun _ _ hp => hp
  | error e => exact Conduct.Triple.done fun _ _ hp => hp

/-- Leaving a row removes the entry, if nothing goes wrong. -/
theorem triple_leave {key contender : String} (hkey : k.GuardedBy key) (hcontender : contender = i)
    {P : Scene String → Prop}
    (hstable : (lockConduct locks.name k).Stable i P)
    (hkeep : ¬ reliable → ∀ s, P s → keep s)
    (hfree : key = k.lock → ∀ s, P s → s.holds locks.name k i = false)
    (hP : ∀ s reached contents,
      contents = s.contents ∨
        contents = (s.contents.perform (Contents.deleteAttribute locks.name key i i)).2 →
      P s → P (s.sent i (Contents.deleteAttribute locks.name key i i) reached contents)) :
    (lockConduct locks.name k).Triple reliable i keep P (locks.leave key contender) fun _ s =>
      P s ∧ (reliable → s.contents.attribute? locks.name key i = none) := by
  obtain rfl := hcontender.symm
  refine Conduct.Triple.request nofun hstable (fun hr s _ hp => hkeep hr s hp)
    (fun _ _ _ => nofun)
    (fun s hs hp reached _ hcontents =>
      hs.proper_leave hkey (fun heq => hfree heq s hp) reached hcontents.eq_or)
    (fun s hs hp => ⟨hP s _ _ (.inr rfl) hp, fun _ => ?_⟩)
    (fun hr s _ hp _ reached _ hcontents =>
      ⟨hP s reached _ hcontents.eq_or hp, fun hr' => (hr hr').elim⟩)
  -- the entry has the name as value, so that the condition of the request is met
  have hown := hs.own key hkey i
  simp only [Scene.sent, Contents.attribute?_deleteAttribute, true_and]
  split
  · rfl
  · rename_i hne
    cases hentry : s.contents.attribute? locks.name key i with
    | none => rfl
    | some v =>
      rw [hown v hentry] at hentry
      exact (hne hentry).elim

/-- Withdrawing from a row does so too; that it failed is reported. -/
theorem triple_withdraw {key contender : String} (error : LockError) (hkey : k.GuardedBy key)
    (hcontender : contender = i) {P : Scene String → Prop}
    (hstable : (lockConduct locks.name k).Stable i P)
    (hkeep : ¬ reliable → ∀ s, P s → keep s)
    (hfree : key = k.lock → ∀ s, P s → s.holds locks.name k i = false)
    (hP : ∀ s reached contents,
      contents = s.contents ∨
        contents = (s.contents.perform (Contents.deleteAttribute locks.name key i i)).2 →
      P s → P (s.sent i (Contents.deleteAttribute locks.name key i i) reached contents))
    (hreport : ∀ s event, (Act.reported event).takes k = false → P s → P (s.report i event)) :
    (lockConduct locks.name k).Triple reliable i keep P (locks.withdraw key contender error)
      fun _ s => P s ∧ (reliable → s.contents.attribute? locks.name key i = none) := by
  refine (triple_leave hkey hcontender hstable hkeep hfree hP).bind fun answer => ?_
  cases answer with
  | ok outcome => exact Conduct.Triple.done fun _ _ hp => hp
  | error cause => exact triple_report rfl fun s hp => ⟨hreport s _ rfl hp.1, hp.2⟩

/-! ### The steps of an attempt -/

/-- A contender that enters or leaves the choosing row stands as before. -/
theorem Standing.sent_choosing {attempt : Attempt} {s : Scene String} {call : StoreCall}
    {reached : Bool} {contents : Contents}
    (hs : Standing reliable table k i h attempt s)
    (hcall : (Act.sent call reached).drops table k = false)
    (hwrites : ¬ call.WritesTo table k.lock)
    (hcontents : contents = s.contents ∨ contents = (s.contents.perform call).2) :
    Standing reliable table k i h attempt (s.sent i call reached contents) := by
  refine hs.sent hcall (.inr ?_)
  rcases hcontents with rfl | rfl
  · rfl
  · exact Contents.attribute?_perform hwrites i

/-- How an attempt stands that came to an end: it took the lock, or it failed. -/
def Ended (reliable : Prop) (table : String) (k : RowKey) (i : String) (h : Bool)
    (ended : Attempt × Except LockError Unit) (s : Scene String) : Prop :=
  match ended.2 with
  | .ok () => s.holds table k i = true
  | .error _ => Standing reliable table k i h ended.1 s

/-- A contender that is alone in the lock row when it reads it takes the lock. -/
theorem triple_moveTo_locked {attempt : Attempt} {holders : Attributes}
    (hsole : LockTable.isSole attempt.contender holders = true) :
    (lockConduct table k).Triple reliable i keep
      (fun s => Standing reliable table k i h attempt s ∧
        holders = (s.contents.row? table attempt.rowKey.lock).getD ∅)
      (attempt.moveTo .locked) fun _ s => s.holds table k i = true := by
  have hreport : (lockConduct table k).Triple reliable i keep
      (fun s => Standing reliable table k i h attempt s ∧
        holders = (s.contents.row? table attempt.rowKey.lock).getD ∅)
      (Procedure.report (.lockMoved attempt.rowKey attempt.contender attempt.state .locked))
      fun _ s => s.holds table k i = true := by
    refine Conduct.Triple.report (fun s hs hp => ?_) (fun s hs hp => ?_)
    · obtain ⟨hstanding, hrow⟩ := hp
      rw [hstanding.contender] at hsole
      rw [hstanding.rowKey] at hrow
      cases hfound : s.contents.row? table k.lock with
      | none =>
        -- an absent row has no entries, so that nobody is alone in it
        rw [hrow, hfound] at hsole
        cases hsole
      | some row =>
        rw [hrow, hfound] at hsole
        exact hs.proper_locked hfound hsole
    · have htakes : (Act.reported (.lockMoved attempt.rowKey attempt.contender attempt.state
          .locked)).takes k = true := decide_eq_true hp.1.rowKey
      rw [Scene.holds_report, htakes]
      exact if_pos ⟨rfl, rfl⟩
  exact hreport.bind fun _ => Conduct.Triple.done fun _ _ hholds => hholds

theorem triple_of_standing {α : Type} {attempt : Attempt} {p : Procedure α}
    {post : α → Scene String → Prop}
    (hp : attempt.rowKey = k → attempt.contender = i → (lockConduct table k).Triple reliable i keep
      (Standing reliable table k i h attempt) p post) :
    (lockConduct table k).Triple reliable i keep (Standing reliable table k i h attempt) p post :=
  fun s hs hstanding => hp hstanding.rowKey hstanding.contender s hs hstanding

section Attempt

variable (hkeep : ¬ reliable → ∀ s, s.holds locks.name k i = h → keep s)

include hkeep

theorem triple_entries_standing (attempt : Attempt) (key : String) :
    (lockConduct locks.name k).Triple reliable i keep
      (Standing reliable locks.name k i h attempt) (locks.entries key) fun answer s =>
        Standing reliable locks.name k i h attempt s ∧
          ∀ row, answer = .ok row → row = (s.contents.row? locks.name key).getD ∅ := by
  have hwrites : ∀ key', k.GuardedBy key' →
      ¬ (StoreCall.batchGet locks.name [key]).WritesTo locks.name key' := fun _ _ hw => hw
  exact triple_entries (stable_standing attempt) (fun hr s _ hs => hkeep hr s hs.holds)
    (fun _ _ _ => nofun) (fun _ hs _ reached => hs.proper_sent hwrites reached (.inl rfl))
    fun _ _ hs => hs.sent rfl (.inr rfl)

theorem triple_verify (attempt : Attempt) :
    (lockConduct locks.name k).Triple reliable i keep
      (Standing reliable locks.name k i h attempt) (locks.verify attempt)
      (Ended reliable locks.name k i h) := by
  refine (triple_entries_standing hkeep attempt attempt.rowKey.lock).bind fun answer => ?_
  cases answer with
  | error e => exact Conduct.Triple.done fun s _ hs => hs.1
  | ok holders =>
    show (lockConduct locks.name k).Triple reliable i keep _
      (if LockTable.isSole attempt.contender holders then _ else _) _
    split
    · rename_i hsole
      have hlocked : (lockConduct locks.name k).Triple reliable i keep
          (fun s => Standing reliable locks.name k i h attempt s ∧
            holders = (s.contents.row? locks.name attempt.rowKey.lock).getD ∅)
          (attempt.moveTo .locked) fun _ s => s.holds locks.name k i = true :=
        triple_moveTo_locked hsole
      exact (hlocked.weaken_pre fun s _ hs => ⟨hs.1, hs.2 holders rfl⟩).bind fun _ =>
        Conduct.Triple.done fun _ _ hholds => hholds
    · exact Conduct.Triple.done fun s _ hs => hs.1

/-- Entering the lock row and verifying the claim takes the lock or fails. -/
theorem triple_claim {attempt : Attempt} (hheld : attempt.heldBefore = false → h = false) :
    (lockConduct locks.name k).Triple reliable i keep
      (Standing reliable locks.name k i h attempt) (locks.claim attempt)
      (Ended reliable locks.name k i h) := by
  refine (triple_moveTo_standing attempt (by decide)).bind fun moved =>
    Conduct.Triple.given fun hmoved => ?_
  subst hmoved
  have henter : (lockConduct locks.name k).Triple reliable i keep
      (Standing reliable locks.name k i h { attempt with state := .locking, wroteLock := true })
      (locks.enter attempt.rowKey.lock attempt.contender) fun _ =>
      Standing reliable locks.name k i h { attempt with state := .locking, wroteLock := true } :=
    triple_of_standing fun hrowKey hcontender =>
      triple_enter (hrowKey ▸ k.guardedBy_lock) hcontender (stable_standing _)
        (fun hr s hs => hkeep hr s hs.holds) fun s reached contents _ hs => hs.sent rfl (.inl rfl)
  refine (henter.weaken_pre fun s _ hs => ?_).bind fun answer => ?_
  · exact (hs.moved .locking nofun).writing hheld
  · cases answer with
    | error e => exact Conduct.Triple.done fun s _ hs => hs
    | ok _ => exact triple_settle.bind fun _ => triple_verify hkeep _

/-- Whether the lock row names the contender before the attempt writes to it, decides whether a
failed attempt may remove that entry. -/
theorem triple_decide {attempt : Attempt} (hwrote : attempt.wroteLock = false)
    (choosing holders : Attributes) :
    (lockConduct locks.name k).Triple reliable i keep
      (fun s => Standing reliable locks.name k i h attempt s ∧
        holders = (s.contents.row? locks.name attempt.rowKey.lock).getD ∅)
      (locks.decide attempt choosing holders) (Ended reliable locks.name k i h) := by
  rw [LockTable.decide]
  split
  · exact Conduct.Triple.done fun s _ hs => hs.1
  · split
    · refine Conduct.Triple.bind (Conduct.Triple.weaken_pre
        (triple_moveTo_standing attempt (by decide)) fun s _ hs => hs.1) fun moved => ?_
      refine Conduct.Triple.given fun hmoved => Conduct.Triple.done fun s _ hs => ?_
      rw [hmoved]
      exact hs.moved .contending (by decide)
    · intro s hs hp
      obtain ⟨hstanding, hholders⟩ := hp
      rw [hstanding.rowKey] at hholders
      have hentry : s.contents.attribute? locks.name k.lock i = holders.get? i := by
        rw [hholders, Contents.attribute?_eq_get?_getD]
      -- the attempt remembers whether the row names its contender
      have hcontains : holders.contains attempt.contender =
          (s.contents.attribute? locks.name k.lock i).isSome := by
        rw [hstanding.contender, hentry, Dict.contains]
      refine triple_claim hkeep (fun hbefore => ?_) s hs ⟨hstanding.rowKey, hstanding.contender,
        hstanding.begun, hstanding.holds, hstanding.untouched, fun hbefore hr => ?_, ?_⟩
      · -- the lock row would name a holder
        cases h with
        | false => rfl
        | true =>
          rw [hs.named i hstanding.holds] at hcontains
          exact (Bool.false_ne_true (hbefore.symm.trans hcontains)).elim
      · -- nothing was written yet, so that the entry could only be that of a holder
        cases h with
        | true => rfl
        | false =>
          rw [hstanding.untouched hwrote hr rfl] at hcontains
          exact (Bool.false_ne_true (hcontains.symm.trans hbefore)).elim
      · intro hwritten
        rw [hwrote] at hwritten
        cases hwritten

/-- An attempt of a contender that has no entries unless it holds the lock. -/
theorem triple_contend :
    (lockConduct locks.name k).Triple reliable i keep (Apart reliable locks.name k i h)
      (locks.contend (Attempt.start k i)) (Ended reliable locks.name k i h) := by
  have hmove : (lockConduct locks.name k).Triple reliable i keep
      (Apart reliable locks.name k i h) ((Attempt.start k i).moveTo .choosing) fun moved s =>
        moved = ⟨k, i, .choosing, false, false⟩ ∧ Apart reliable locks.name k i h s :=
    triple_moveTo _ (by decide) fun s event hevent hs => hs.report hevent
  refine hmove.bind fun attempt => Conduct.Triple.given fun hattempt => ?_
  have henter : (lockConduct locks.name k).Triple reliable i keep
      (Standing reliable locks.name k i h attempt)
      (locks.enter attempt.rowKey.choosing attempt.contender) fun _ =>
      Standing reliable locks.name k i h attempt :=
    triple_of_standing fun hrowKey hcontender =>
      triple_enter (hrowKey ▸ k.guardedBy_choosing) hcontender (stable_standing _)
        (fun hr s hs => hkeep hr s hs.holds) fun s reached contents hcontents hs =>
          hs.sent_choosing rfl
            (StoreCall.not_writesTo_put (RowKey.lock_ne_choosing k attempt.rowKey).symm _ _)
            hcontents
  refine (henter.weaken_pre fun s _ hs => hs.standing hattempt).bind fun entered => ?_
  cases entered with
  | error e => exact Conduct.Triple.done fun s _ hs => hs
  | ok _ =>
    refine (triple_entries_standing hkeep attempt attempt.rowKey.choosing).bind fun read => ?_
    cases read with
    | error e => exact Conduct.Triple.done fun s _ hs => hs.1
    | ok choosing =>
      refine ((triple_entries_standing hkeep attempt attempt.rowKey.lock).weaken_pre
        fun s _ hs => hs.1).bind fun read => ?_
      cases read with
      | error e => exact Conduct.Triple.done fun s _ hs => hs.1
      | ok holders =>
        exact (triple_decide hkeep (hattempt ▸ rfl) choosing holders).weaken_pre fun s _ hs =>
          ⟨hs.1, hs.2 holders rfl⟩

/-- A failed attempt removes its entries, and leaves that of a lock which its contender holds. -/
theorem triple_cleanUp (attempt : Attempt) (error : LockError) :
    (lockConduct locks.name k).Triple reliable i keep
      (Standing reliable locks.name k i h attempt) (locks.cleanUp attempt error)
      fun _ => Apart reliable locks.name k i h := by
  refine triple_of_standing fun hrowKey hcontender => ?_
  have hchoosing : (lockConduct locks.name k).Triple reliable i keep
      (Standing reliable locks.name k i h attempt) (locks.withdrawChoosing attempt error)
      fun _ s => Standing reliable locks.name k i h attempt s ∧
        (reliable → s.contents.attribute? locks.name k.choosing i = none) := by
    rw [LockTable.withdrawChoosing]
    split
    · rename_i hidle
      exact fun s _ hs => (hs.begun hidle).elim
    · rw [hrowKey]
      refine triple_withdraw error k.guardedBy_choosing hcontender (stable_standing attempt)
        (fun hr s hs => hkeep hr s hs.holds) (fun heq => ?_)
        (fun s reached contents hcontents hs => ?_) fun s event hevent hs => hs.report hevent
      · exact (RowKey.lock_ne_choosing k k heq.symm).elim
      · exact hs.sent_choosing rfl
          (StoreCall.not_writesTo_delete (RowKey.lock_ne_choosing k k).symm _ _) hcontents
  refine hchoosing.bind fun _ => ?_
  rw [LockTable.withdrawLock]
  split
  · -- the attempt wrote the entry, and it was not there before
    rename_i hown
    have hwrites : ¬ (Contents.deleteAttribute locks.name k.lock i i).WritesTo locks.name
        k.choosing := StoreCall.not_writesTo_delete (RowKey.lock_ne_choosing k k) _ _
    rw [Bool.and_eq_true, Bool.not_eq_true'] at hown
    have hwithdraw : (lockConduct locks.name k).Triple reliable i keep
        (fun s => Standing reliable locks.name k i h attempt s ∧
          (reliable → s.contents.attribute? locks.name k.choosing i = none))
        (locks.withdraw k.lock attempt.contender error) fun _ s =>
        (Standing reliable locks.name k i h attempt s ∧
          (reliable → s.contents.attribute? locks.name k.choosing i = none)) ∧
          (reliable → s.contents.attribute? locks.name k.lock i = none) := by
      refine triple_withdraw error k.guardedBy_lock hcontender
        ((stable_standing attempt).and (stable_unlisted k.guardedBy_choosing))
        (fun hr s hs => hkeep hr s hs.1.holds)
        (fun _ s hs => hs.1.holds.trans (hs.1.removable hown.1 hown.2))
        (fun s reached contents hcontents hs => ⟨hs.1.sent rfl (.inl hown.1), fun hr => ?_⟩)
        fun s event hevent hs => ⟨hs.1.report hevent, hs.2⟩
      rcases hcontents with rfl | rfl
      · exact hs.2 hr
      · exact (Contents.attribute?_perform hwrites i).trans (hs.2 hr)
    rw [hrowKey]
    refine hwithdraw.strengthen_post fun _ s _ hs => ⟨hs.1.1.holds, fun hr _ key hkey => ?_⟩
    rcases hkey with rfl | rfl
    · exact hs.2 hr
    · exact hs.1.2 hr
  · -- the attempt wrote no entry, or the one of a lock that its contender holds
    rename_i hown
    refine Conduct.Triple.done fun s _ hs => ⟨hs.1.holds, fun hr hh key hkey => ?_⟩
    rcases hkey with rfl | rfl
    · cases hwrote : attempt.wroteLock with
      | false => exact hs.1.untouched hwrote hr hh
      | true =>
        have hbefore : attempt.heldBefore = true := by
          simpa [hwrote] using hown
        rw [hs.1.held hbefore hr] at hh
        cases hh
    · exact hs.2 hr

/-- An attempt takes the lock, or leaves its contender with no entries unless that one holds the
lock already. -/
theorem triple_acquire :
    (lockConduct locks.name k).Triple reliable i keep (Apart reliable locks.name k i h)
      (locks.acquire k i) fun answer s =>
        match answer with
        | .ok hold => hold = ⟨k, i⟩ ∧ s.holds locks.name k i = true
        | .error _ => Apart reliable locks.name k i h s := by
  refine (triple_contend hkeep).bind fun ended => ?_
  obtain ⟨attempt, outcome⟩ := ended
  cases outcome with
  | ok _ =>
    have htaken : (lockConduct locks.name k).Triple reliable i keep
        (fun s => s.holds locks.name k i = true) (Procedure.report (.lockTaken k i))
        fun _ s => s.holds locks.name k i = true :=
      triple_report rfl fun s hs => (Scene.holds_report_of_not_takes rfl).trans hs
    exact htaken.bind fun _ => Conduct.Triple.done fun s _ hs => ⟨rfl, hs⟩
  | error error =>
    have hrefused : (lockConduct locks.name k).Triple reliable i keep
        (Standing reliable locks.name k i h attempt)
        (Procedure.report (.lockRefused k i attempt.state error)) fun _ =>
        Standing reliable locks.name k i h attempt :=
      triple_report rfl fun s hs => hs.report rfl
    have hfailed : (lockConduct locks.name k).Triple reliable i keep
        (Apart reliable locks.name k i h) (attempt.moveTo .failed) fun moved s =>
        moved = { attempt with state := .failed } ∧ Apart reliable locks.name k i h s :=
      triple_moveTo attempt (by decide) fun s event hevent hs => hs.report hevent
    exact hrefused.bind fun _ => (triple_cleanUp hkeep attempt error).bind fun _ =>
      hfailed.bind fun _ => Conduct.Triple.done fun s _ hs => hs.2

/-- Releasing removes no entry but the contender's own in the choosing row. -/
theorem triple_release :
    (lockConduct locks.name k).Triple reliable i keep (Apart reliable locks.name k i h)
      (locks.release k i) fun _ => Apart reliable locks.name k i h := by
  have hleave : (lockConduct locks.name k).Triple reliable i keep
      (Apart reliable locks.name k i h) (locks.leave k.choosing i) fun _ s =>
        Apart reliable locks.name k i h s ∧
          (reliable → s.contents.attribute? locks.name k.choosing i = none) := by
    refine triple_leave k.guardedBy_choosing rfl stable_apart (fun hr s hs => hkeep hr s hs.holds)
      (fun heq => (RowKey.lock_ne_choosing k k heq.symm).elim)
      fun s reached contents hcontents hs =>
      ⟨(Scene.holds_sent_of_not_drops rfl contents).trans hs.holds, fun hr hh key hkey => ?_⟩
    have hnone := hs.unlisted hr hh key hkey
    rcases hcontents with rfl | rfl
    · exact hnone
    · exact Contents.attribute?_deleteAttribute_of_none hnone ..
  refine hleave.bind fun answer => ?_
  cases answer with
  | error e => exact Conduct.Triple.done fun s _ hs => hs.1
  | ok outcome =>
    cases outcome with
    | conditionFailed =>
      have hreport : (lockConduct locks.name k).Triple reliable i keep
          (Apart reliable locks.name k i h)
          (Procedure.report (.nothingToRelease k.choosing i)) fun _ =>
          Apart reliable locks.name k i h := triple_report rfl fun s hs => hs.report rfl
      exact (hreport.weaken_pre fun s _ hs => hs.1).bind fun _ =>
        Conduct.Triple.done fun s _ hs => hs
    | deleted old =>
      have hmove : (lockConduct locks.name k).Triple reliable i keep
          (Apart reliable locks.name k i h) ((Attempt.held k i).moveTo .released) fun moved s =>
          moved = { Attempt.held k i with state := .released } ∧
            Apart reliable locks.name k i h s :=
        triple_moveTo _ (by decide) fun s event hevent hs => hs.report hevent
      have hreport : (lockConduct locks.name k).Triple reliable i keep
          (Apart reliable locks.name k i h)
          (Procedure.report (.lockReleased k i)) fun _ =>
          Apart reliable locks.name k i h := triple_report rfl fun s hs => hs.report rfl
      refine (hmove.weaken_pre fun s _ hs => hs.1).bind fun _ => ?_
      exact (hreport.weaken_pre fun s _ hs => hs.2).bind fun _ =>
        Conduct.Triple.done fun s _ hs => hs

end Attempt

/-- A holder that tears the lock down has no entry in the rows afterwards, if nothing goes
wrong. -/
theorem triple_tearDown {hold : Hold} (hhold : hold = ⟨k, i⟩)
    (hkeep : ¬ reliable → ∀ s, keep s) :
    (lockConduct locks.name k).Triple reliable i keep (fun s => s.holds locks.name k i = true)
      (locks.tearDown hold) fun _ s => reliable → Apart reliable locks.name k i false s := by
  subst hhold
  -- the lock is given up with the first request, whether or not that one reaches the store
  have hlock : (lockConduct locks.name k).Triple reliable i keep
      (fun s => s.holds locks.name k i = true)
      (Procedure.call (.delete locks.name k.lock .row (some (.equals i i)))) fun answer s =>
        reliable → (∃ outcome, answer = .ok outcome) ∧ s.holds locks.name k i = false ∧
          s.contents.attribute? locks.name k.lock i = none := by
    refine Conduct.Triple.request nofun (fun a b _ _ hrely ha => hrely.holds.trans ha)
      (fun hr s _ _ => hkeep hr s) (fun _ _ hp _ => hp)
      (fun s hs hp reached contents hcontents => hs.proper_deleteLockRow hp reached hcontents.eq_or)
      (fun s hs hp _ => ⟨⟨_, rfl⟩, ?_, ?_⟩)
      (fun hr _ _ _ _ _ _ _ hr' => (hr hr').elim)
    · rw [holds_sent_deleteLockRow, if_pos rfl]
    · exact Contents.attribute?_eq_none_of_row? (Contents.row?_deleteRow_of_equals (hs.named i hp))
  have hchoosing : (lockConduct locks.name k).Triple reliable i keep
      (fun s => reliable → s.holds locks.name k i = false ∧
        s.contents.attribute? locks.name k.lock i = none)
      (Procedure.call (.delete locks.name k.choosing .row none)) fun _ s =>
        reliable → Apart reliable locks.name k i false s := by
    have hwrites : ¬ (StoreCall.delete locks.name k.choosing .row none).WritesTo locks.name
        k.lock := StoreCall.not_writesTo_delete (RowKey.lock_ne_choosing k k).symm _ _
    refine Conduct.Triple.request nofun (fun a b _ _ hrely ha hr => ?_)
      (fun hr s _ _ => hkeep hr s)
      (fun _ _ _ hdrops => by rw [Act.drops_of_not_writesTo hwrites] at hdrops; cases hdrops)
      (fun s hs hp reached contents hcontents =>
        hs.proper_deleteChoosingRow reached hcontents.eq_or)
      (fun s hs hp hr => ⟨?_, fun _ _ key hkey => ?_⟩)
      (fun hr _ _ _ _ _ _ _ hr' => (hr hr').elim)
    · exact ⟨hrely.holds.trans (ha hr).1, hrely.unlisted _ k.guardedBy_lock (ha hr).2⟩
    · rw [Scene.holds_sent_of_not_writesTo hwrites, (hp hr).1]
    · rcases hkey with rfl | rfl
      · exact (Contents.attribute?_perform hwrites i).trans (hp hr).2
      · exact Contents.attribute?_eq_none_of_row? (Contents.row?_deleteRow ..)
  refine hlock.bind fun answer => ?_
  cases answer with
  | error e =>
    refine Conduct.Triple.done fun s _ hs hr => ?_
    obtain ⟨⟨outcome, houtcome⟩, -⟩ := hs hr
    cases houtcome
  | ok outcome =>
    have hlost : (lockConduct locks.name k).Triple reliable i keep
        (fun s => reliable → s.holds locks.name k i = false ∧
          s.contents.attribute? locks.name k.lock i = none)
        (LockTable.reportLost ⟨k, i⟩ outcome) fun _ s =>
          reliable → s.holds locks.name k i = false ∧
            s.contents.attribute? locks.name k.lock i = none := by
      cases outcome with
      | deleted old => exact Conduct.Triple.done fun s _ hs => hs
      | conditionFailed =>
        refine triple_report rfl fun s hs hr => ⟨?_, (hs hr).2⟩
        rw [Scene.holds_report_of_not_takes rfl, (hs hr).1]
    refine (hlost.weaken_pre fun s _ hs hr => (hs hr).2).bind fun _ => ?_
    refine hchoosing.bind fun answer => ?_
    cases answer with
    | error e => exact Conduct.Triple.done fun s _ hs => hs
    | ok outcome => exact Conduct.Triple.done fun s _ hs => hs

end ClusterIdentity.Locking
