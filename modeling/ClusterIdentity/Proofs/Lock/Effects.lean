import ClusterIdentity.Proofs.Lock.OwnEntries

/-!
# What a lone contender does to the store

A contender that takes a lock, releases it or tears it down changes nothing but its own entries in
the two rows of that lock, whatever fails. Tearing a lock down deletes both rows as a whole, but
whoever took the lock is the only one in them.

## Main definitions

* `OnlyEntries`: two contents differ at most in a contender's entries for one lock

## Main statements

* `ends_acquire_sole`: who takes a lock is the only one in its two rows
* `ends_own_of_sole`: what it does with its lock changes its own entries only
* `ends_release_unlisted`, `ends_tearDown_unlisted`: giving the lock up leaves the choosing row,
  unless a delete failed
-/

namespace ClusterIdentity.Locking

open Interleaving Solo

/-- Whether two contents differ at most in a contender's entries in the two rows of a lock. -/
structure OnlyEntries (table : String) (k : RowKey) (i : String) (a b : Contents) : Prop where
  elsewhere : ∀ t key, ¬ (t = table ∧ k.GuardedBy key) → b.row? t key = a.row? t key
  others : ∀ key, k.GuardedBy key → ∀ name, name ≠ i →
    b.attribute? table key name = a.attribute? table key name

namespace OnlyEntries

variable {table : String} {k : RowKey} {i : String} {a b c : Contents}

theorem refl : OnlyEntries table k i a a :=
  ⟨fun _ _ _ => rfl, fun _ _ _ _ => rfl⟩

theorem trans (h : OnlyEntries table k i a b) (h' : OnlyEntries table k i b c) :
    OnlyEntries table k i a c :=
  ⟨fun t key hkey => (h'.elsewhere t key hkey).trans (h.elsewhere t key hkey),
    fun key hkey name hname => (h'.others key hkey name hname).trans (h.others key hkey name hname)⟩

/-- A row that is none of the two may be set on both sides. -/
theorem setRow (h : OnlyEntries table k i a b) {t key : String}
    (hkey : ¬ (t = table ∧ k.GuardedBy key)) (row : Option Attributes) :
    OnlyEntries table k i (a.setRow t key row) (b.setRow t key row) := by
  refine ⟨fun t' key' hkey' => ?_, fun key' hkey' name hname => ?_⟩
  · rw [Contents.row?_setRow, Contents.row?_setRow, h.elsewhere t' key' hkey']
  · have hne : ¬ (t = table ∧ key = key') := fun heq => hkey ⟨heq.1, heq.2 ▸ hkey'⟩
    have hothers := h.others key' hkey' name hname
    rw [Contents.attribute?] at hothers ⊢
    rw [Contents.row?_setRow, if_neg hne, hothers, Contents.attribute?, Contents.attribute?,
      Contents.row?_setRow, if_neg hne]

end OnlyEntries

variable {faults : Faults} {now : UInt64} {locks : LockTable} {k : RowKey} {i : String}
  {c : Contents} {α : Type}

/-! ### Taking a lock -/

/-- Whether a row has a contender's entry. -/
abbrev Lists (table key i : String) (c : Contents) : Prop :=
  c.attribute? table key i = some i

/-- Whether a row has a contender's entry and nothing else. -/
abbrev ListsOnly (table key i : String) (c : Contents) : Prop :=
  c.row? table key = some (Dict.singleton i i)

theorem eq_singleton_of_isSole {row : Attributes} (hsole : LockTable.isSole i row = true)
    (hi : row.get? i = some i) : row = Dict.singleton i i := by
  have hsize : row.size = 1 := by
    rw [LockTable.isSole, Bool.and_eq_true, beq_iff_eq] at hsole
    exact hsole.1
  exact Dict.eq_singleton hi ((Dict.size_eq_one_iff hi).mp hsize)

/-- An entry that was made is there. -/
theorem lists_put (c : Contents) (table key i : String) :
    Lists table key i (c.perform (.put table key (Dict.singleton i i) none)).2 := by
  rw [Lists, Contents.attribute?_put, Dict.get?_singleton, if_pos rfl, Option.some_or]

/-- Who enters a row successfully is in it. -/
theorem ends_enter_lists {P : Contents → Prop} {key : String}
    (hput : ∀ c, P c → P (c.perform (.put locks.name key (Dict.singleton i i) none)).2) :
    Ends faults now (fun s => P s.contents) (locks.enter key i)
      fun answer s => answer = .ok () → P s.contents ∧ Lists locks.name key i s.contents := by
  have hcall : Ends faults now (fun s => P s.contents)
      (Procedure.call (.put locks.name key (Dict.singleton i i) none)) fun answer s =>
        ∀ outcome, answer = .ok outcome → P s.contents ∧ Lists locks.name key i s.contents :=
    Ends.request nofun (fun s hs _ _ => ⟨hput _ hs, lists_put ..⟩) fun _ _ _ _ _ _ => nofun
  refine hcall.bind fun answer => ?_
  cases answer with
  | ok outcome => exact Ends.done fun _ hs _ => hs outcome rfl
  | error e => exact Ends.done fun _ _ => nofun

/-- Reading a row that has a contender's entry tells what is in it. -/
theorem ends_entries_lists {P : Contents → Prop} {key : String} (hlists : ∀ c, P c →
      Lists locks.name key i c) :
    Ends faults now (fun s => P s.contents) (locks.entries key) fun answer s => P s.contents ∧
      ∀ row, answer = .ok row →
        s.contents.row? locks.name key = some row ∧ row.get? i = some i := by
  refine (ends_entries key).strengthen_post fun answer s hs => ⟨hs.1, fun row hrow => ?_⟩
  obtain ⟨row', hrow', hi⟩ := Contents.exists_row?_of_attribute? (hlists _ hs.1)
  obtain rfl : row = row' := (hs.2 row hrow).trans (by rw [hrow', Option.getD_some])
  exact ⟨hrow', hi⟩

/-- Whether a contender that took a lock is the only one in its two rows. -/
abbrev SoleIfTaken (table : String) (k : RowKey) (i : String)
    (ended : Attempt × Except LockError Unit) (s : Ledger) : Prop :=
  ended.2 = .ok () → ∀ key, k.GuardedBy key → ListsOnly table key i s.contents

theorem soleIfTaken_error (attempt : Attempt) (e : LockError) (table : String) (k : RowKey)
    (i : String) (s : Ledger) : SoleIfTaken table k i (attempt, .error e) s :=
  nofun

theorem ends_verify_sole {attempt : Attempt} (hfor : IsFor k i attempt) :
    Ends faults now (fun s => ListsOnly locks.name k.choosing i s.contents ∧
        Lists locks.name k.lock i s.contents)
      (locks.verify attempt) (SoleIfTaken locks.name k i) := by
  obtain ⟨rfl, rfl⟩ := hfor
  refine Ends.bind (ends_entries_lists (P := fun c =>
    ListsOnly locks.name attempt.rowKey.choosing attempt.contender c ∧
      Lists locks.name attempt.rowKey.lock attempt.contender c) fun _ h => h.2) fun answer => ?_
  cases answer with
  | error e => exact Ends.done fun _ _ => soleIfTaken_error _ _ _ _ _ _
  | ok holders =>
    show Ends _ _ _ (if LockTable.isSole attempt.contender holders then _ else _) _
    split
    · rename_i hsole
      refine (ends_moveTo attempt .locked).bind fun moved => Ends.done fun s hs _ => ?_
      obtain ⟨-, ⟨hchoosing, -⟩, hholders⟩ := hs
      obtain ⟨hrow, hi⟩ := hholders holders rfl
      rintro key (rfl | rfl)
      · rw [ListsOnly, hrow, eq_singleton_of_isSole hsole hi]
      · exact hchoosing
    · exact Ends.done fun _ _ => soleIfTaken_error _ _ _ _ _ _

theorem ends_claim_sole {attempt : Attempt} (hfor : IsFor k i attempt) :
    Ends faults now (fun s => ListsOnly locks.name k.choosing i s.contents)
      (locks.claim attempt) (SoleIfTaken locks.name k i) := by
  obtain ⟨rfl, rfl⟩ := hfor
  refine (ends_moveTo attempt .locking).bind fun moved => Ends.given fun hmoved => ?_
  subst hmoved
  have henter : Ends faults now
      (fun s => ListsOnly locks.name attempt.rowKey.choosing attempt.contender s.contents)
      (locks.enter attempt.rowKey.lock attempt.contender) fun answer s => answer = .ok () →
        ListsOnly locks.name attempt.rowKey.choosing attempt.contender s.contents ∧
          Lists locks.name attempt.rowKey.lock attempt.contender s.contents :=
    ends_enter_lists fun c hc => (Contents.row?_perform
      (StoreCall.not_writesTo_put (RowKey.lock_ne_choosing _ _) _ _)).trans hc
  refine henter.bind fun answer => ?_
  cases answer with
  | error e => exact Ends.done fun _ _ => soleIfTaken_error _ _ _ _ _ _
  | ok _ =>
    refine (ends_settle.weaken_pre fun s hs => hs rfl).bind fun _ => ?_
    have hfor : IsFor attempt.rowKey attempt.contender
        { attempt with state := .locking, wroteLock := true } := ⟨rfl, rfl⟩
    exact ends_verify_sole hfor

/-- Who goes on to claim the lock saw nobody else in the choosing row. -/
theorem ends_decide_sole {attempt : Attempt} (hfor : IsFor k i attempt) {choosing : Attributes}
    (hi : choosing.get? i = some i) (holders : Attributes) :
    Ends faults now (fun s => s.contents.row? locks.name k.choosing = some choosing)
      (locks.decide attempt choosing holders) (SoleIfTaken locks.name k i) := by
  rw [LockTable.decide]
  split
  · exact Ends.done fun _ _ => soleIfTaken_error _ _ _ _ _ _
  · split
    · refine (ends_moveTo attempt .contending).bind fun moved => ?_
      exact Ends.done fun _ _ => soleIfTaken_error _ _ _ _ _ _
    · rename_i hsize
      have hsole : LockTable.isSole i choosing = true := by
        have hpos := Dict.size_pos hi
        rw [LockTable.isSole, Dict.contains, hi, Bool.and_eq_true, beq_iff_eq]
        exact ⟨by omega, rfl⟩
      have hfor' : IsFor k i { attempt with heldBefore := holders.contains attempt.contender } :=
        hfor
      refine (ends_claim_sole hfor').weaken_pre fun s hs => ?_
      rw [ListsOnly, hs, eq_singleton_of_isSole hsole hi]

theorem ends_contend_sole :
    Ends faults now (fun _ => True) (locks.contend (Attempt.start k i))
      (SoleIfTaken locks.name k i) := by
  refine (ends_moveTo _ .choosing).bind fun attempt => Ends.given fun hattempt => ?_
  subst hattempt
  have henter : Ends faults now (fun _ => True) (locks.enter k.choosing i) fun answer s =>
      answer = .ok () → True ∧ Lists locks.name k.choosing i s.contents :=
    ends_enter_lists (P := fun _ => True) fun _ h => h
  refine henter.bind fun answer => ?_
  cases answer with
  | error e => exact Ends.done fun _ _ => soleIfTaken_error _ _ _ _ _ _
  | ok _ =>
    refine Ends.bind ((ends_entries_lists fun _ h => h).weaken_pre fun s hs => (hs rfl).2)
      fun answer => ?_
    cases answer with
    | error e => exact Ends.done fun _ _ => soleIfTaken_error _ _ _ _ _ _
    | ok choosing =>
      refine Ends.assume (fun s hs => (hs.2 choosing rfl).2) fun hi => ?_
      refine Ends.bind (Ends.weaken_pre (ends_entries (P := fun c =>
        c.row? locks.name k.choosing = some choosing) k.lock) fun s hs => (hs.2 choosing rfl).1)
        fun answer => ?_
      cases answer with
      | error e => exact Ends.done fun _ _ => soleIfTaken_error _ _ _ _ _ _
      | ok holders =>
        exact (ends_decide_sole ⟨rfl, rfl⟩ hi holders).weaken_pre fun _ hs => hs.1

/-- A contender that takes a lock is the only one in both rows of it. -/
theorem ends_acquire_sole :
    Ends faults now (fun _ => True) (locks.acquire k i) fun answer s =>
      ∀ hold, answer = .ok hold →
        hold = ⟨k, i⟩ ∧ ∀ key, k.GuardedBy key → ListsOnly locks.name key i s.contents := by
  refine ends_contend_sole.bind fun ended => ?_
  obtain ⟨attempt, outcome⟩ := ended
  cases outcome with
  | ok _ =>
    refine (Ends.report _).bind fun _ => Ends.done fun s hs hold hhold => ?_
    cases hhold
    exact ⟨rfl, hs rfl⟩
  | error error => exact Ends.skip fun _ => Ends.skip fun _ => Ends.skip fun _ => fun _ _ _ => nofun

/-- Taking a lock changes a contender's own entries only. -/
theorem ends_acquire_own :
    Ends faults now (fun s => s.contents = c) (locks.acquire k i) fun _ s =>
      OnlyEntries locks.name k i c s.contents := by
  refine ((ends_acquire locks k i).and (Ends.row? (within_acquire locks k i))).strengthen_post
    fun _ s hs => ⟨?_, ?_⟩
  · exact fun t key hkey => hs.2 t key fun _ hcall hw => hkey (hcall.1.forLock t key hw)
  · exact fun key _ name hname => hs.1.1 locks.name key name fun h => hname h.2.2

/-! ### Giving a lock up -/

/-- No request for a contender's lock makes an entry of another name. -/
theorem OwnCall.attribute?_eq_none {table key name : String} {call : StoreCall}
    (hcall : OwnCall table k i call) (hname : name ≠ i)
    (h : c.attribute? table key name = none) :
    (c.perform call).2.attribute? table key name = none := by
  by_cases hw : call.WritesTo table key
  · cases call with
    | put t key' attributes condition =>
      obtain ⟨rfl, rfl⟩ := hw
      obtain ⟨-, -, rfl, rfl⟩ := hcall
      rw [Contents.attribute?_put, Dict.get?_singleton, if_neg hname.symm, Option.none_or, h]
    | delete t key' scope condition =>
      obtain ⟨rfl, rfl⟩ := hw
      refine Option.eq_none_iff_forall_ne_some.mpr fun value hvalue => ?_
      rw [Contents.attribute?_delete hvalue] at h
      cases h
    | scan t filter limit => exact hw.elim
    | batchGet t keys => exact hw.elim
  · rw [Contents.attribute?_perform hw, h]

/-- As long as a contender is the only one in the two rows of a lock, whatever it does for the lock
changes its own entries only. -/
theorem ends_own_of_sole {E : Event → Prop} {R : α → Prop} {p : Procedure α}
    (hp : p.Within (OwnCall locks.name k i) E R)
    (hsole : ∀ key, k.GuardedBy key → ListsOnly locks.name key i c) :
    Ends faults now (fun s => s.contents = c) p fun _ s =>
      OnlyEntries locks.name k i c s.contents := by
  have hnone : ∀ key, k.GuardedBy key → ∀ name, name ≠ i →
      c.attribute? locks.name key name = none := fun key hkey name hname => by
    rw [Contents.attribute?_of_row? (hsole key hkey), Dict.get?_singleton, if_neg hname.symm]
  rintro s rfl
  refine ⟨fun t key hkey => ?_, fun key hkey name hname => ?_⟩
  · exact Ends.row? hp s rfl t key fun _ hcall hw => hkey (hcall.forLock t key hw)
  · rw [hnone key hkey name hname]
    exact Ends.invariant hp (I := fun c => c.attribute? locks.name key name = none)
      (fun _ _ hcall h => hcall.attribute?_eq_none hname h) s (hnone key hkey name hname)

/-- A contender that releases a lock is not in the choosing row, unless it could not leave it. -/
theorem ends_release_unlisted {pre : Ledger → Prop} :
    Ends faults now pre (locks.release k i) fun _ s =>
      s.Cleaned → ¬ Lists locks.name k.choosing i s.contents := by
  have hleave : Ends faults now pre (locks.leave k.choosing i) fun _ s =>
      s.Cleaned → ¬ Lists locks.name k.choosing i s.contents :=
    Ends.consequence (ends_leave (P := fun _ => True) (R := fun _ => True)
      (S := fun c => ¬ Lists locks.name k.choosing i c) (fun _ _ => trivial)
      fun c _ _ => c.attribute?_deleteAttribute_ne _ _ _ _)
      (fun _ _ => ⟨trivial, fun _ => trivial⟩) fun _ _ hs => hs.2
  refine hleave.bind fun answer => ?_
  cases answer with
  | error e => exact Ends.done fun _ hs => hs
  | ok outcome =>
    cases outcome with
    | conditionFailed => exact (Ends.report _).bind fun _ => Ends.done fun _ hs => hs
    | deleted old =>
      refine (ends_moveTo _ .released).bind fun _ => ?_
      exact (Ends.report _).bind fun _ => Ends.done fun _ hs => hs.2

/-- A contender that tears a lock down is not in the choosing row, unless a row could not be
deleted. -/
theorem ends_tearDown_unlisted {pre : Ledger → Prop} (hold : Hold) :
    Ends faults now pre (locks.tearDown hold) fun _ s =>
      s.Cleared locks.name → ¬ Lists locks.name hold.rowKey.choosing hold.contender s.contents := by
  have hdelete : ∀ key condition, Ends faults now (fun _ => True)
      (Procedure.call (.delete locks.name key .row condition)) fun answer s =>
        ∀ e, answer = .error e → ¬ s.Cleared locks.name := fun key condition =>
    Ends.request nofun (fun _ _ => nofun)
      fun s _ error _ contents _ _ _ => Ledger.not_cleared_record rfl error contents
  refine ((hdelete _ _).weaken_pre fun _ _ => trivial).bind fun answer => ?_
  cases answer with
  | error e => exact Ends.done fun s hs hcleared => (hs e rfl hcleared).elim
  | ok outcome =>
    refine Ends.skip fun _ => ?_
    have hgone : Ends faults now (fun _ => True)
        (Procedure.call (.delete locks.name hold.rowKey.choosing .row none)) fun answer s =>
          ∀ reply, answer = .ok reply →
            ¬ Lists locks.name hold.rowKey.choosing hold.contender s.contents := by
      refine Ends.request nofun (fun s _ _ _ hlists => ?_) fun _ _ _ _ _ _ => nofun
      have hnone : (s.contents.perform (.delete locks.name hold.rowKey.choosing .row
          none)).2.attribute? locks.name hold.rowKey.choosing hold.contender = none :=
        Contents.attribute?_eq_none_of_row? (Contents.row?_deleteRow ..)
      cases hnone.symm.trans hlists
    refine ((hdelete _ _).and hgone).bind fun answer => ?_
    cases answer with
    | error e => exact Ends.done fun s hs hcleared => (hs.1 e rfl hcleared).elim
    | ok outcome => exact Ends.done fun s hs _ => hs.2 outcome rfl

end ClusterIdentity.Locking
