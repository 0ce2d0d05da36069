import ClusterIdentity.Lock.Protocol
import ClusterIdentity.Proofs.Conduct
import ClusterIdentity.Proofs.Identity.Keys
import ClusterIdentity.Proofs.Table.Rows

/-!
# Holding a lock

Who holds the lock of a row key is read off the record of what was done: a contender holds it
from the moment its attempt reports the state `locked`, which is when it has found itself alone
in the lock row, until it begins to delete the lock row.

## Main definitions

* `Scene.holds`: a contender holds the lock of a row key
* `LockInv`, `LockRely`, `lockConduct`: how contenders for a lock behave

## Main statements

* `LockInv.proper`: a contender that changes its own entries only, and keeps the one in the lock
  row while it holds the lock, behaves
* `LockInv.proper_locked`: so does one that takes the lock when it is alone in the lock row
* `LockInv.proper_deleteLockRow`: so does the holder that deletes the lock row
-/

namespace ClusterIdentity.Interleaving

/-- Whether an act is to find oneself alone in the lock row of a row key. -/
def Act.takes (k : RowKey) : Act → Bool
  | .reported (.lockMoved rowKey _ _ .locked) => decide (rowKey = k)
  | _ => false

/-- Whether an act is to begin to delete the lock row of a row key. -/
def Act.drops (table : String) (k : RowKey) : Act → Bool
  | .sent (.delete t key .row _) _ => decide (t = table ∧ key = k.lock)
  | _ => false

theorem Act.drops_of_not_writesTo {table : String} {k : RowKey} {call : StoreCall}
    (h : ¬ call.WritesTo table k.lock) (reached : Bool) :
    (Act.sent call reached).drops table k = false := by
  cases call with
  | delete t key scope condition =>
    cases scope with
    | row => simpa [drops, StoreCall.WritesTo] using h
    | attributes names => rfl
  | put t key attributes condition => rfl
  | scan t filter limit => rfl
  | batchGet t keys => rfl

variable {ι : Type} [DecidableEq ι]

/-- Whether a participant holds the lock of a row key, by the record of what was done. -/
def holdsAfter (table : String) (k : RowKey) (i : ι) : List (ι × Act) → Bool
  | [] => false
  | (j, act) :: earlier =>
    if j = i ∧ act.takes k then true
    else if j = i ∧ act.drops table k then false
    else holdsAfter table k i earlier

namespace Scene

/-- Whether a participant holds the lock of a row key. -/
def holds (s : Scene ι) (table : String) (k : RowKey) (i : ι) : Bool :=
  holdsAfter table k i s.history

variable {s : Scene ι} {table : String} {k : RowKey} {i j : ι}

theorem holds_report (event : Event) :
    (s.report i event).holds table k j =
      if i = j ∧ (Act.reported event).takes k then true else s.holds table k j := by
  simp [holds, report, holdsAfter, Act.drops]

theorem holds_sent (call : StoreCall) (reached : Bool) (contents : Contents) :
    (s.sent i call reached contents).holds table k j =
      if i = j ∧ (Act.sent call reached).drops table k then false else s.holds table k j := by
  simp [holds, sent, holdsAfter, Act.takes]

/-- An event other than that the lock was taken changes nothing about who holds it. -/
theorem holds_report_of_not_takes {event : Event} (h : (Act.reported event).takes k = false) :
    (s.report i event).holds table k j = s.holds table k j := by
  rw [holds_report, h]
  simp

theorem holds_sent_of_not_drops {call : StoreCall} {reached : Bool}
    (h : (Act.sent call reached).drops table k = false) (contents : Contents) :
    (s.sent i call reached contents).holds table k j = s.holds table k j := by
  rw [holds_sent, h]
  simp

/-- A request that does not write to the lock row changes nothing about who holds the lock. -/
theorem holds_sent_of_not_writesTo {call : StoreCall} (h : ¬ call.WritesTo table k.lock)
    (reached : Bool) (contents : Contents) :
    (s.sent i call reached contents).holds table k j = s.holds table k j :=
  holds_sent_of_not_drops (Act.drops_of_not_writesTo h reached) contents

theorem holds_of_idle (h : ∀ entry ∈ s.history, entry.1 ≠ j) : s.holds table k j = false := by
  have hlist : ∀ history : List (ι × Act), (∀ entry ∈ history, entry.1 ≠ j) →
      holdsAfter table k j history = false := by
    intro history
    induction history with
    | nil => exact fun _ => rfl
    | cons entry earlier ih =>
      intro hall
      obtain ⟨hentry, hearlier⟩ := List.forall_mem_cons.mp hall
      rw [holdsAfter, if_neg fun hj => hentry hj.1, if_neg fun hj => hentry hj.1]
      exact ih hearlier
  exact hlist s.history h

end Scene

end ClusterIdentity.Interleaving

namespace ClusterIdentity.Locking

open Interleaving

/-- What always holds of the two rows of a row key and of who holds its lock. -/
structure LockInv (table : String) (k : RowKey) (s : Scene String) : Prop where
  /-- The lock row names everyone who holds the lock. -/
  named : ∀ i, s.holds table k i = true → s.contents.attribute? table k.lock i = some i
  unique : ∀ i j, s.holds table k i = true → s.holds table k j = true → i = j
  /-- The entries of both rows have the name as value. -/
  own : ∀ key, k.GuardedBy key → ∀ i v,
    s.contents.attribute? table key i = some v → v = i
  occupied : ∀ key, k.GuardedBy key → s.contents.Occupied table key

/-- It holds when nobody has done anything and both rows are absent. -/
theorem LockInv.initial {table : String} {k : RowKey} {contents : Contents}
    (habsent : ∀ key, k.GuardedBy key → contents.row? table key = none) :
    LockInv table k ⟨contents, []⟩ := by
  refine ⟨nofun, nofun, fun key hkey i v hv => ?_, fun key hkey row hrow => ?_⟩
  · cases (Contents.attribute?_eq_none_of_row? (habsent key hkey)).symm.trans hv
  · cases (habsent key hkey).symm.trans hrow

/-- What a contender may take for granted: only itself takes or drops the lock for it, and only
itself enters it into the two rows. -/
structure LockRely (table : String) (k : RowKey) (i : String) (a b : Scene String) : Prop where
  holds : b.holds table k i = a.holds table k i
  unlisted : ∀ key, k.GuardedBy key → a.contents.attribute? table key i = none →
    b.contents.attribute? table key i = none

/-- How contenders for the lock of a row key behave. Only the holder deletes the lock row. -/
def lockConduct (table : String) (k : RowKey) : Conduct String where
  inv := LockInv table k
  rely := LockRely table k
  may i call s := (Act.sent call true).drops table k = true → s.holds table k i = true
  rely_refl _ _ := ⟨rfl, fun _ _ h => h⟩
  rely_trans h₁ h₂ :=
    ⟨h₂.holds.trans h₁.holds, fun key hkey h => h₂.unlisted key hkey (h₁.unlisted key hkey h)⟩

/-- A row is changed at most in the entry of one contender, and is in order afterwards. -/
structure OwnEntry (table key i : String) (a b : Scene String) : Prop where
  others : ∀ j, j ≠ i →
    b.contents.attribute? table key j = a.contents.attribute? table key j
  own : ∀ v, b.contents.attribute? table key i = some v → v = i
  occupied : b.contents.Occupied table key

variable {table : String} {k : RowKey} {i : String} {a b : Scene String}

/-- A contender behaves that changes its own entries only, and keeps the one in the lock row
while it holds the lock. -/
theorem LockInv.proper (ha : LockInv table k a)
    (hholds : ∀ j, b.holds table k j = a.holds table k j)
    (hrows : ∀ key, k.GuardedBy key → OwnEntry table key i a b)
    (hnamed : a.holds table k i = true → b.contents.attribute? table k.lock i = some i) :
    (lockConduct table k).Proper i a b := by
  refine ⟨⟨fun j hj => ?_, fun j l hj hl => ?_, fun key hkey j v hv => ?_, fun key hkey => ?_⟩,
    fun j hne => ⟨hholds j, fun key hkey hj => ?_⟩⟩
  · rw [hholds j] at hj
    by_cases hji : j = i
    · subst hji
      exact hnamed hj
    · rw [(hrows k.lock k.guardedBy_lock).others j hji]
      exact ha.named j hj
  · rw [hholds j] at hj
    rw [hholds l] at hl
    exact ha.unique j l hj hl
  · by_cases hji : j = i
    · subst hji
      exact (hrows key hkey).own v hv
    · rw [(hrows key hkey).others j hji] at hv
      exact ha.own key hkey j v hv
  · exact (hrows key hkey).occupied
  · rw [(hrows key hkey).others j hne]
    exact hj

/-! ### Changes of single rows -/

/-- A row that is not touched is in order. -/
theorem LockInv.ownEntry_of_row?_eq (ha : LockInv table k a) {key : String}
    (hkey : k.GuardedBy key)
    (hrow : b.contents.row? table key = a.contents.row? table key) :
    OwnEntry table key i a b := by
  refine ⟨fun j _ => ?_, fun v hv => ?_, fun row hb => ?_⟩
  · rw [Contents.attribute?, hrow, Contents.attribute?]
  · rw [Contents.attribute?, hrow] at hv
    exact ha.own key hkey i v hv
  · rw [hrow] at hb
    exact ha.occupied key hkey row hb

/-- A request that does not write to a row leaves it in order. -/
theorem LockInv.ownEntry_of_not_writesTo (ha : LockInv table k a) {key : String}
    (hkey : k.GuardedBy key) {call : StoreCall} (h : ¬ call.WritesTo table key)
    (reached : Bool) {contents : Contents}
    (hcontents : contents = a.contents ∨ contents = (a.contents.perform call).2) :
    OwnEntry table key i a (a.sent i call reached contents) := by
  refine ha.ownEntry_of_row?_eq hkey ?_
  rcases hcontents with rfl | rfl
  · rfl
  · exact Contents.row?_perform h

/-- A contender may enter itself into a row. -/
theorem LockInv.ownEntry_put (ha : LockInv table k a) {key : String}
    (hkey : k.GuardedBy key) (reached : Bool) {contents : Contents}
    (hcontents : contents = a.contents ∨
      contents = (a.contents.perform (.put table key (Dict.singleton i i) none)).2) :
    OwnEntry table key i a
      (a.sent i (.put table key (Dict.singleton i i) none) reached contents) := by
  rcases hcontents with rfl | rfl
  · exact ha.ownEntry_of_row?_eq hkey rfl
  · refine ⟨fun j hj => ?_, fun v hv => ?_, ?_⟩
    · simp [Scene.sent, Contents.attribute?_put, Ne.symm hj]
    · simpa [Scene.sent, Contents.attribute?_put, eq_comm] using hv
    · exact Contents.occupied_put _ _ _ (Dict.get?_insert_self ∅ i i)

/-- A contender may remove itself from a row. -/
theorem LockInv.ownEntry_leave (ha : LockInv table k a) {key : String}
    (hkey : k.GuardedBy key) (reached : Bool) {contents : Contents}
    (hcontents : contents = a.contents ∨
      contents = (a.contents.perform (Contents.deleteAttribute table key i i)).2) :
    OwnEntry table key i a
      (a.sent i (Contents.deleteAttribute table key i i) reached contents) := by
  rcases hcontents with rfl | rfl
  · exact ha.ownEntry_of_row?_eq hkey rfl
  · refine ⟨fun j hj => ?_, fun v hv => ?_, ?_⟩
    · simp [Scene.sent, Contents.attribute?_deleteAttribute, Ne.symm hj]
    · simp only [Scene.sent, Contents.attribute?_deleteAttribute, true_and] at hv
      split at hv
      · cases hv
      · exact ha.own key hkey i v hv
    · exact Contents.occupied_deleteAttribute (ha.occupied key hkey) i i

/-! ### Moves -/

/-- Requests for other rows have nothing to do with the lock. -/
theorem LockInv.proper_sent (ha : LockInv table k a) {call : StoreCall}
    (hcall : ∀ key, k.GuardedBy key → ¬ call.WritesTo table key) (reached : Bool)
    {contents : Contents}
    (hcontents : contents = a.contents ∨ contents = (a.contents.perform call).2) :
    (lockConduct table k).Proper i a (a.sent i call reached contents) := by
  have hrows : ∀ key, k.GuardedBy key →
      OwnEntry table key i a (a.sent i call reached contents) := fun key hkey =>
    ha.ownEntry_of_not_writesTo hkey (hcall key hkey) reached hcontents
  refine ha.proper (fun j => Scene.holds_sent_of_not_writesTo (hcall _ k.guardedBy_lock) _ _) hrows
    fun hi => ?_
  rcases hcontents with rfl | rfl
  · exact ha.named i hi
  · exact (Contents.attribute?_perform (hcall _ k.guardedBy_lock) i).trans (ha.named i hi)

theorem LockInv.proper_enter (ha : LockInv table k a) {key : String} (hkey : k.GuardedBy key)
    (reached : Bool) {contents : Contents}
    (hcontents : contents = a.contents ∨
      contents = (a.contents.perform (.put table key (Dict.singleton i i) none)).2) :
    (lockConduct table k).Proper i a
      (a.sent i (.put table key (Dict.singleton i i) none) reached contents) := by
  refine ha.proper (fun j => ?_) (fun key' hkey' => ?_) (fun hi => ?_)
  · exact Scene.holds_sent_of_not_drops rfl contents
  · by_cases heq : key = key'
    · subst heq
      exact ha.ownEntry_put hkey reached hcontents
    · exact ha.ownEntry_of_not_writesTo hkey' (StoreCall.not_writesTo_put heq _ _) reached hcontents
  · rcases hcontents with rfl | rfl
    · exact ha.named i hi
    · by_cases heq : key = k.lock
      · subst heq
        simp [Scene.sent, Contents.attribute?_put]
      · exact (Contents.attribute?_perform (StoreCall.not_writesTo_put heq _ _) i).trans
          (ha.named i hi)

/-- A contender that does not hold the lock may leave either row, and a holder the choosing row. -/
theorem LockInv.proper_leave (ha : LockInv table k a) {key : String} (hkey : k.GuardedBy key)
    (hfree : key = k.lock → a.holds table k i = false) (reached : Bool) {contents : Contents}
    (hcontents : contents = a.contents ∨
      contents = (a.contents.perform (Contents.deleteAttribute table key i i)).2) :
    (lockConduct table k).Proper i a
      (a.sent i (Contents.deleteAttribute table key i i) reached contents) := by
  refine ha.proper (fun j => ?_) (fun key' hkey' => ?_) (fun hi => ?_)
  · exact Scene.holds_sent_of_not_drops rfl contents
  · by_cases heq : key = key'
    · subst heq
      exact ha.ownEntry_leave hkey reached hcontents
    · exact ha.ownEntry_of_not_writesTo hkey' (StoreCall.not_writesTo_delete heq _ _) reached
        hcontents
  · have hne : key ≠ k.lock := by
      intro heq
      rw [hfree heq] at hi
      cases hi
    rcases hcontents with rfl | rfl
    · exact ha.named i hi
    · exact (Contents.attribute?_perform (StoreCall.not_writesTo_delete hne _ _) i).trans
        (ha.named i hi)

/-- Events other than that the lock was taken have nothing to do with it. -/
theorem LockInv.proper_report (ha : LockInv table k a) {event : Event}
    (h : (Act.reported event).takes k = false) :
    (lockConduct table k).Proper i a (a.report i event) :=
  ha.proper (fun _ => Scene.holds_report_of_not_takes h)
    (fun _ hkey => ha.ownEntry_of_row?_eq hkey rfl) (ha.named i)

/-- A contender that is alone in the lock row may take the lock: nobody else holds it, since the
lock row would name that holder too. -/
theorem LockInv.proper_locked (ha : LockInv table k a) {row : Attributes}
    (hrow : a.contents.row? table k.lock = some row) (hsole : LockTable.isSole i row = true)
    {event : Event} : (lockConduct table k).Proper i a (a.report i event) := by
  simp only [LockTable.isSole, Bool.and_eq_true, beq_iff_eq] at hsole
  obtain ⟨hsize, hcontains⟩ := hsole
  obtain ⟨v, hv⟩ := Option.isSome_iff_exists.mp hcontains
  -- the only entry is the contender's, with its name as value
  have hvi : v = i :=
    ha.own k.lock k.guardedBy_lock i v (by rw [Contents.attribute?_of_row? hrow, hv])
  subst hvi
  have hname : a.contents.attribute? table k.lock v = some v := by
    rw [Contents.attribute?_of_row? hrow, hv]
  have hlone : ∀ j, a.holds table k j = true → j = v := by
    intro j hj
    -- a holder has an entry too, and there is only one
    have hentry := ha.named j hj
    rw [Contents.attribute?_of_row? hrow] at hentry
    exact Dict.eq_of_size_eq_one hsize hentry hv
  have hholds : ∀ j, (a.report v event).holds table k j = true → j = v := by
    intro j hj
    rw [Scene.holds_report] at hj
    split at hj
    · rename_i h
      exact h.1.symm
    · exact hlone j hj
  refine ⟨⟨fun j hj => ?_, fun j l hj hl => ?_, ha.own, ha.occupied⟩,
    fun j hne => ⟨?_, fun _ _ h => h⟩⟩
  · rw [hholds j hj]
    exact hname
  · rw [hholds j hj, hholds l hl]
  · rw [Scene.holds_report, if_neg fun h => hne h.1.symm]

/-! ### Deleting rows -/

/-- A row has no entries that it did not have before, and is in order. -/
structure FewerEntries (table key : String) (a b : Scene String) : Prop where
  entries : ∀ j v, b.contents.attribute? table key j = some v →
    a.contents.attribute? table key j = some v
  occupied : b.contents.Occupied table key

theorem LockInv.fewerEntries (ha : LockInv table k a) {key : String}
    (hkey : k.GuardedBy key)
    (hrow : b.contents.row? table key = a.contents.row? table key ∨
      b.contents.row? table key = none) : FewerEntries table key a b := by
  rcases hrow with hrow | hrow
  · refine ⟨fun j v hv => ?_, fun row hb => ?_⟩
    · rw [Contents.attribute?, hrow] at hv
      exact hv
    · rw [hrow] at hb
      exact ha.occupied key hkey row hb
  · refine ⟨fun j v hv => ?_, fun row hb => ?_⟩
    · rw [Contents.attribute?_eq_none_of_row? hrow] at hv
      cases hv
    · rw [hrow] at hb
      cases hb

/-- A contender behaves that removes entries but not those of holders. -/
theorem LockInv.proper_of_fewerEntries (ha : LockInv table k a)
    (hothers : ∀ j, j ≠ i → b.holds table k j = a.holds table k j)
    (hself : b.holds table k i = true → a.holds table k i = true)
    (hrows : ∀ key, k.GuardedBy key → FewerEntries table key a b)
    (hnamed : ∀ j, b.holds table k j = true →
      b.contents.attribute? table k.lock j = some j) :
    (lockConduct table k).Proper i a b := by
  have hbefore : ∀ j, b.holds table k j = true → a.holds table k j = true := by
    intro j hj
    by_cases hji : j = i
    · subst hji
      exact hself hj
    · rw [← hothers j hji]
      exact hj
  refine ⟨⟨hnamed, fun j l hj hl => ha.unique j l (hbefore j hj) (hbefore l hl),
      fun key hkey j v hv => ha.own key hkey j v ((hrows key hkey).entries j v hv),
      fun key hkey => (hrows key hkey).occupied⟩,
    fun j hne => ⟨hothers j hne, fun key hkey hj => ?_⟩⟩
  cases hb : b.contents.attribute? table key j with
  | none => rfl
  | some v =>
    rw [(hrows key hkey).entries j v hb] at hj
    cases hj

theorem holds_sent_deleteLockRow (condition : Option Condition) (reached : Bool)
    (contents : Contents) (j : String) :
    (a.sent i (.delete table k.lock .row condition) reached contents).holds table k j =
      if i = j then false else a.holds table k j := by
  rw [Scene.holds_sent]
  simp [Act.drops]

/-- The holder may delete the lock row, since nobody else holds the lock. -/
theorem LockInv.proper_deleteLockRow (ha : LockInv table k a)
    (hi : a.holds table k i = true) {condition : Option Condition} (reached : Bool)
    {contents : Contents}
    (hcontents : contents = a.contents ∨
      contents = (a.contents.perform (.delete table k.lock .row condition)).2) :
    (lockConduct table k).Proper i a
      (a.sent i (.delete table k.lock .row condition) reached contents) := by
  -- the condition need not hold, so the row may also be left as it is
  have hlock : contents.row? table k.lock = a.contents.row? table k.lock ∨
      contents.row? table k.lock = none := by
    rcases hcontents with rfl | rfl
    · exact .inl rfl
    · exact Contents.row?_deleteRow_eq_or ..
  have hchoosing : contents.row? table k.choosing = a.contents.row? table k.choosing := by
    rcases hcontents with rfl | rfl
    · rfl
    · exact Contents.row?_perform
        (StoreCall.not_writesTo_delete (RowKey.lock_ne_choosing k k) _ _)
  refine ha.proper_of_fewerEntries (fun j hj => ?_) (fun h => ?_) ?_ (fun j hj => ?_)
  · rw [holds_sent_deleteLockRow, if_neg (Ne.symm hj)]
  · exact hi
  · intro key hkey
    refine ha.fewerEntries hkey ?_
    rcases hkey with rfl | rfl
    · exact hlock
    · exact .inl hchoosing
  · -- whoever holds the lock afterwards held it before, and is not the one who drops it
    rw [holds_sent_deleteLockRow] at hj
    split at hj
    · cases hj
    · rename_i hne
      exact (hne (ha.unique i j hi hj)).elim

theorem LockInv.proper_deleteChoosingRow (ha : LockInv table k a)
    {condition : Option Condition} (reached : Bool) {contents : Contents}
    (hcontents : contents = a.contents ∨
      contents = (a.contents.perform (.delete table k.choosing .row condition)).2) :
    (lockConduct table k).Proper i a
      (a.sent i (.delete table k.choosing .row condition) reached contents) := by
  have hwrites : ¬ (StoreCall.delete table k.choosing .row condition).WritesTo table k.lock :=
    StoreCall.not_writesTo_delete (RowKey.lock_ne_choosing k k).symm _ _
  have hlock : contents.row? table k.lock = a.contents.row? table k.lock := by
    rcases hcontents with rfl | rfl
    · rfl
    · exact Contents.row?_perform hwrites
  have hchoosing : contents.row? table k.choosing = a.contents.row? table k.choosing ∨
      contents.row? table k.choosing = none := by
    rcases hcontents with rfl | rfl
    · exact .inl rfl
    · exact Contents.row?_deleteRow_eq_or ..
  have hholds : ∀ j, (a.sent i (.delete table k.choosing .row condition) reached
      contents).holds table k j = a.holds table k j := fun j =>
    Scene.holds_sent_of_not_writesTo hwrites reached contents
  refine ha.proper_of_fewerEntries (fun j _ => hholds j) (fun h => hholds i ▸ h) ?_
    (fun j hj => ?_)
  · intro key hkey
    refine ha.fewerEntries hkey ?_
    rcases hkey with rfl | rfl
    · exact .inl hlock
    · exact hchoosing
  · rw [hholds j] at hj
    exact (congrArg (·.bind (·.get? j)) hlock).trans (ha.named j hj)

end ClusterIdentity.Locking
