import ClusterIdentity.Proofs.Claim.History
import ClusterIdentity.Proofs.Identity.Records
import ClusterIdentity.Proofs.Lock.Footprint

/-!
# Recording identities

The table of identities holds records only of machines that hold the lock of the row key. So a
node that holds a lock is the only one that may write or delete the record under it.

## Main definitions

* `RecordedByHolder`: a row is the record of a descriptor whose machine holds the lock
* `RecordInv`, `RecordRely`, `recordConduct`: how nodes treat records
* `nodeConduct`: how nodes treat records and locks

## Main statements

* `RecordInv.proper_lockCall`: what is done for a lock has nothing to do with records, unless it
  drops the lock while there is a record
* `RecordInv.proper_write`, `RecordInv.proper_erase`: a holder may write the record where there is
  none, and delete its own
-/

namespace ClusterIdentity.Claiming

open Interleaving Locking RowKey

section

variable (tokens locks : String) (D : Descriptor → Prop)

/-- Whether a row is the record of a descriptor whose machine holds the lock of its row key. -/
def RecordedByHolder (s : Scene String) (key : String) (row : Attributes) : Prop :=
  ∃ d now, D d ∧ key = d.rowKey.text ∧ row = (d.stamp now).toAttributes ∧
    s.holds locks d.rowKey d.instanceId = true

/-- The machine that a row names. -/
def owner? (s : Scene String) (key : String) : Option String :=
  s.contents.attribute? tokens key Column.instanceId.name

/-- What always holds of the table of identities. -/
structure RecordInv (s : Scene String) : Prop where
  /-- Every row is a record, apart from those that guard a row key if all are in one table. -/
  record : ∀ key row, s.contents.row? tokens key = some row →
    RecordedByHolder locks D s key row ∨ tokens = locks ∧ ∃ k : RowKey, k.GuardedBy key
  writer : ∀ key, Unguarding key →
    lastWriter tokens key s.history = owner? tokens s key
  orderly : ∀ key, Unguarding key → Orderly tokens key s.history

/-- What a machine may take for granted: nobody else touches records under locks that it holds, or
records it. -/
structure RecordRely (i : String) (a b : Scene String) : Prop where
  holds : ∀ k, b.holds locks k i = a.holds locks k i
  held : ∀ k : RowKey, Unguarding k.text → a.holds locks k i = true →
    b.contents.row? tokens k.text = a.contents.row? tokens k.text
  foreign : ∀ key, Unguarding key → owner? tokens b key = some i → owner? tokens a key = some i

/-- What is the case when a machine's request is answered: it writes a record of its own where
there is none, deletes none but its own, and drops no lock that guards one. -/
def RecordMay (i : String) (call : StoreCall) (s : Scene String) : Prop :=
  match call with
  | .put t key attributes _ => t = tokens → Unguarding key →
    s.contents.row? tokens key = none ∧ ∃ d now, D d ∧ d.instanceId = i ∧
      key = d.rowKey.text ∧ attributes = (d.stamp now).toAttributes
  | .delete t key .row _ =>
    (t = tokens → Unguarding key → ∀ row, s.contents.row? tokens key = some row →
      row.get? Column.instanceId.name = some i) ∧
    ∀ k : RowKey, t = locks → key = k.lock → Unguarding k.text → s.holds locks k i = true →
      s.contents.row? tokens k.text = none
  | _ => True

def recordConduct : Conduct String where
  inv := RecordInv tokens locks D
  rely := RecordRely tokens locks
  may := RecordMay tokens locks D
  rely_refl _ _ := ⟨fun _ => rfl, fun _ _ _ => rfl, fun _ _ h => h⟩
  rely_trans h₁ h₂ :=
    ⟨fun k => (h₂.holds k).trans (h₁.holds k),
      fun k hk hheld => (h₂.held k hk ((h₁.holds k).trans hheld)).trans (h₁.held k hk hheld),
      fun key hkey h => h₁.foreign key hkey (h₂.foreign key hkey h)⟩

def nodeConduct : Conduct String := (locksConduct locks).inf (recordConduct tokens locks D)

end

variable {tokens locks : String} {D : Descriptor → Prop} {i : String} {a b : Scene String}

/-! ### Moves -/

/-- A move that touches no record and drops no lock that guards one. -/
theorem RecordInv.proper_of_rows (ha : RecordInv tokens locks D a)
    (hC : (locksConduct locks).Proper i a b)
    (hrows : ∀ key, b.contents.row? tokens key = a.contents.row? tokens key ∨
      tokens = locks ∧ ∃ k : RowKey, k.GuardedBy key)
    (hkept : ∀ k j, a.contents.row? tokens k.text ≠ none → a.holds locks k j = true →
      b.holds locks k j = true)
    (hhistory : ∀ key, Unguarding key →
      lastWriter tokens key b.history = lastWriter tokens key a.history ∧
        (Orderly tokens key a.history → Orderly tokens key b.history)) :
    (recordConduct tokens locks D).Proper i a b := by
  have hsame : ∀ key, Unguarding key →
      b.contents.row? tokens key = a.contents.row? tokens key := by
    intro key hkey
    rcases hrows key with hrow | ⟨-, k, hguarded⟩
    · exact hrow
    · exact (hkey k hguarded).elim
  have howner : ∀ key, Unguarding key → owner? tokens b key = owner? tokens a key :=
    fun key hkey => congrArg (·.bind (·.get? Column.instanceId.name)) (hsame key hkey)
  refine ⟨⟨fun key row hrow => ?_, fun key hkey => ?_, fun key hkey => ?_⟩,
    fun j hj => ⟨fun k => (hC.rely j hj k).holds, fun k hk _ => hsame _ hk, fun key hkey h => ?_⟩⟩
  · rcases hrows key with hsame_key | hguarded
    · rw [hsame_key] at hrow
      rcases ha.record key row hrow with ⟨d, now, hd, hkey, hattributes, hholds⟩ | hguarded
      · have hsome : a.contents.row? tokens d.rowKey.text ≠ none := by
          rw [← hkey, hrow]
          exact nofun
        exact .inl ⟨d, now, hd, hkey, hattributes, hkept _ _ hsome hholds⟩
      · exact .inr hguarded
    · exact .inr hguarded
  · rw [(hhistory key hkey).1, howner key hkey]
    exact ha.writer key hkey
  · exact (hhistory key hkey).2 (ha.orderly key hkey)
  · rw [← howner key hkey]
    exact h

/-- An act that neither writes nor deletes records adds nothing to their history. -/
theorem history_sent {call : StoreCall} (hcall : ∀ key, Unguarding key →
      ¬ call.WritesTo tokens key) (reached : Bool) (contents : Contents) :
    ∀ key, Unguarding key →
      lastWriter tokens key (a.sent i call reached contents).history =
          lastWriter tokens key a.history ∧
        (Orderly tokens key a.history →
          Orderly tokens key (a.sent i call reached contents).history) := fun key hkey =>
  ⟨lastWriter_cons (Act.writes_sent_of_not_writesTo (hcall key hkey) _)
      (Act.erases_sent_of_not_writesTo (hcall key hkey) _),
    Orderly.cons (Act.writes_sent_of_not_writesTo (hcall key hkey) _)
      (Act.erases_sent_of_not_writesTo (hcall key hkey) _)⟩

/-- What is done for a lock has nothing to do with records, unless it drops the lock while there
is a record. -/
theorem RecordInv.proper_lockCall (ha : RecordInv tokens locks D a) {call : StoreCall}
    {k : RowKey} (hcall : ForLock locks k call) {reached : Bool} {contents : Contents}
    (hcontents : Delivered call a.contents reached contents)
    (hC : (locksConduct locks).Proper i a (a.sent i call reached contents))
    (hdrops : ∀ k', (Act.sent call reached).drops locks k' = true →
      a.holds locks k' i = true → a.contents.row? tokens k'.text = none) :
    (recordConduct tokens locks D).Proper i a (a.sent i call reached contents) := by
  refine ha.proper_of_rows hC (fun key => ?_) (fun k' j hrow hj => ?_)
    (history_sent (fun key hkey hw => hkey k (hcall tokens key hw).2) reached contents)
  · by_cases hw : call.WritesTo tokens key
    · obtain ⟨htable, hguarded⟩ := hcall tokens key hw
      exact .inr ⟨htable, k, hguarded⟩
    · rcases hcontents.eq_or with rfl | rfl
      · exact .inl rfl
      · exact .inl (Contents.row?_perform hw)
  · rw [Scene.holds_sent]
    split
    · rename_i hdrop
      obtain ⟨rfl, hdrop⟩ := hdrop
      exact (hrow (hdrops k' hdrop hj)).elim
    · exact hj

theorem RecordInv.proper_report (ha : RecordInv tokens locks D a) {event : Event}
    (hC : (locksConduct locks).Proper i a (a.report i event)) :
    (recordConduct tokens locks D).Proper i a (a.report i event) := by
  refine ha.proper_of_rows hC (fun _ => .inl rfl) (fun k j _ hj => ?_)
    fun key _ => ⟨lastWriter_cons rfl rfl, Orderly.cons rfl rfl⟩
  rw [Scene.holds_report]
  split
  · rfl
  · exact hj

/-- A request that writes to no row has nothing to do with records. -/
theorem RecordInv.proper_read (ha : RecordInv tokens locks D a) {call : StoreCall}
    (hcall : ∀ t key, ¬ call.WritesTo t key) {reached : Bool} {contents : Contents}
    (hcontents : Delivered call a.contents reached contents)
    (hC : (locksConduct locks).Proper i a (a.sent i call reached contents)) :
    (recordConduct tokens locks D).Proper i a (a.sent i call reached contents) :=
  ha.proper_lockCall (k := ⟨""⟩) (fun t key hw => (hcall t key hw).elim) hcontents hC
    fun k' hdrops _ => by
      rw [Act.drops_of_not_writesTo (hcall _ _)] at hdrops
      cases hdrops

/-! ### Writing and deleting records -/

/-- A holder may change the row under the lock, since nobody else holds it. -/
theorem RecordInv.proper_of_held (ha : RecordInv tokens locks D a)
    (hlocks : (locksConduct locks).inv a) {k : RowKey} (hheld : a.holds locks k i = true)
    (hholds : ∀ k' j, b.holds locks k' j = a.holds locks k' j)
    (hother : ∀ key, k.text ≠ key →
      b.contents.row? tokens key = a.contents.row? tokens key ∧
      lastWriter tokens key b.history = lastWriter tokens key a.history ∧
      (Orderly tokens key a.history → Orderly tokens key b.history))
    (hrecord : ∀ row, b.contents.row? tokens k.text = some row →
      RecordedByHolder locks D b k.text row)
    (howner : ∀ j, owner? tokens b k.text = some j → j = i)
    (hwriter : lastWriter tokens k.text b.history = owner? tokens b k.text)
    (horderly : Orderly tokens k.text b.history) :
    (recordConduct tokens locks D).Proper i a b := by
  have hsame : ∀ key, k.text ≠ key → owner? tokens b key = owner? tokens a key := fun key hne =>
    congrArg (·.bind (·.get? Column.instanceId.name)) (hother key hne).1
  refine ⟨⟨fun key row hrow => ?_, fun key hkey => ?_, fun key hkey => ?_⟩,
    fun j hj => ⟨fun k' => hholds k' j, fun k' hk' hj' => ?_, fun key hkey h => ?_⟩⟩
  · -- the row under the lock is a record of the holder, and the others are as before
    by_cases hne : k.text = key
    · subst hne
      exact .inl (hrecord row hrow)
    · rw [(hother key hne).1] at hrow
      rcases ha.record key row hrow with ⟨d, now, hd, hkey, hattributes, hd_holds⟩ | hguarded
      · exact .inl ⟨d, now, hd, hkey, hattributes, (hholds _ _).trans hd_holds⟩
      · exact .inr hguarded
  · by_cases hne : k.text = key
    · subst hne
      exact hwriter
    · rw [(hother key hne).2.1, hsame key hne]
      exact ha.writer key hkey
  · by_cases hne : k.text = key
    · subst hne
      exact horderly
    · exact (hother key hne).2.2 (ha.orderly key hkey)
  · refine (hother k'.text fun htext => ?_).1
    have heq : k = k' := RowKey.ext htext
    subst heq
    -- two machines would hold one lock
    exact hj ((hlocks k).unique j i hj' hheld)
  · by_cases hne : k.text = key
    · subst hne
      exact (hj (howner j h)).elim
    · rw [← hsame key hne]
      exact h

/-- A holder may write a record of its own where there is none. -/
theorem RecordInv.proper_write (ha : RecordInv tokens locks D a)
    (hlocks : (locksConduct locks).inv a) {d : Descriptor} {now : UInt64} (hd : D d)
    (howner : d.instanceId = i) (hheld : a.holds locks d.rowKey i = true)
    (habsent : a.contents.row? tokens d.rowKey.text = none) {reached : Bool}
    {contents : Contents}
    (hcontents : Delivered (.put tokens d.rowKey.text (d.stamp now).toAttributes none)
      a.contents reached contents)
    (hC : (locksConduct locks).Proper i a (a.sent i
      (.put tokens d.rowKey.text (d.stamp now).toAttributes none) reached contents)) :
    (recordConduct tokens locks D).Proper i a (a.sent i
      (.put tokens d.rowKey.text (d.stamp now).toAttributes none) reached contents) := by
  cases hcontents with
  | lost =>
    exact ha.proper_of_rows hC (fun _ => .inl rfl)
      (fun k j _ hj => (Scene.holds_sent_of_not_drops rfl _).trans hj)
      fun key _ => ⟨lastWriter_cons rfl rfl, Orderly.cons rfl rfl⟩
  | served =>
    have hk : Unguarding d.rowKey.text := d.unguarding_rowKey
    have hname : (d.stamp now).toAttributes.get? Column.instanceId.name = some i := by
      rw [← howner]
      exact (d.stamp now).get?_instanceId
    have hrow : (a.contents.perform (.put tokens d.rowKey.text (d.stamp now).toAttributes
        none)).2.row? tokens d.rowKey.text = some (d.stamp now).toAttributes := by
      rw [Contents.row?_put, habsent]
      exact congrArg some (Dict.empty_overlay _)
    have hwrites : (Act.sent (.put tokens d.rowKey.text (d.stamp now).toAttributes none)
        true).writes tokens d.rowKey.text = true := by simp [Act.writes]
    -- there is no record, so that whoever wrote the last one has deleted it
    have hnobody : lastWriter tokens d.rowKey.text a.history = none := by
      rw [ha.writer _ hk]
      exact Contents.attribute?_eq_none_of_row? habsent
    have hnow : owner? tokens (a.sent i (.put tokens d.rowKey.text (d.stamp now).toAttributes none)
        true (a.contents.perform (.put tokens d.rowKey.text (d.stamp now).toAttributes none)).2)
        d.rowKey.text = some i :=
      (Contents.attribute?_of_row? hrow _).trans hname
    refine ha.proper_of_held hlocks hheld (fun k j => Scene.holds_sent_of_not_drops rfl _)
      (fun key hne => ?_) (fun row h => ?_) (fun j hj => ?_) ?_
      ⟨ha.orderly _ hk, ?_, fun h => (by cases h)⟩
    · have hwrites : ¬ (StoreCall.put tokens d.rowKey.text (d.stamp now).toAttributes
          none).WritesTo tokens key := StoreCall.not_writesTo_put hne _ _
      exact ⟨Contents.row?_perform hwrites,
        lastWriter_cons (Act.writes_sent_of_not_writesTo hwrites _)
          (Act.erases_sent_of_not_writesTo hwrites _),
        Orderly.cons (Act.writes_sent_of_not_writesTo hwrites _)
          (Act.erases_sent_of_not_writesTo hwrites _)⟩
    · have heq : row = (d.stamp now).toAttributes := Option.some.inj (h.symm.trans hrow)
      refine ⟨d, now, hd, rfl, heq, ?_⟩
      rw [howner]
      exact (Scene.holds_sent_of_not_drops rfl _).trans hheld
    · exact Option.some.inj (hj.symm.trans hnow)
    · rw [hnow]
      exact if_pos hwrites
    · exact fun _ => hnobody

/-- A holder may delete its own record. -/
theorem RecordInv.proper_erase (ha : RecordInv tokens locks D a)
    (hlocks : (locksConduct locks).inv a) {k : RowKey} (hk : Unguarding k.text)
    (hheld : a.holds locks k i = true)
    (howner : ∀ j, owner? tokens a k.text = some j → j = i) {reached : Bool}
    {contents : Contents}
    (hcontents : Delivered (.delete tokens k.text .row none) a.contents reached contents)
    (hC : (locksConduct locks).Proper i a
      (a.sent i (.delete tokens k.text .row none) reached contents)) :
    (recordConduct tokens locks D).Proper i a
      (a.sent i (.delete tokens k.text .row none) reached contents) := by
  have hlock : ∀ k' : RowKey, ¬ (StoreCall.delete tokens k.text .row none).WritesTo locks
      k'.lock := fun k' hw => hk k' (.inl hw.2)
  have hholds : ∀ k' j, (a.sent i (.delete tokens k.text .row none) reached contents).holds locks
      k' j = a.holds locks k' j := fun k' j =>
    Scene.holds_sent_of_not_writesTo (hlock k') reached contents
  cases hcontents with
  | lost =>
    exact ha.proper_of_rows hC (fun _ => .inl rfl) (fun k j _ hj => (hholds k j).trans hj)
      fun key _ => ⟨lastWriter_cons rfl rfl, Orderly.cons rfl rfl⟩
  | served =>
    have hrow : (a.contents.perform (.delete tokens k.text .row none)).2.row? tokens k.text =
        none := Contents.row?_deleteRow ..
    have herases : (Act.sent (.delete tokens k.text .row none) true).erases tokens k.text =
        true := by simp [Act.erases]
    have hnobody : owner? tokens (a.sent i (.delete tokens k.text .row none) true
        (a.contents.perform (.delete tokens k.text .row none)).2) k.text = none :=
      Contents.attribute?_eq_none_of_row? hrow
    refine ha.proper_of_held hlocks hheld hholds (fun key hne => ?_) (fun row h => ?_)
      (fun j hj => ?_) ?_ ⟨ha.orderly _ hk, fun h => (by cases h),
        fun _ j hj => ?_⟩
    · have hwrites : ¬ (StoreCall.delete tokens k.text .row none).WritesTo tokens key :=
        StoreCall.not_writesTo_delete hne _ _
      exact ⟨Contents.row?_perform hwrites,
        lastWriter_cons (Act.writes_sent_of_not_writesTo hwrites _)
          (Act.erases_sent_of_not_writesTo hwrites _),
        Orderly.cons (Act.writes_sent_of_not_writesTo hwrites _)
          (Act.erases_sent_of_not_writesTo hwrites _)⟩
    · cases hrow.symm.trans h
    · cases hnobody.symm.trans hj
    · rw [hnobody]
      exact if_pos herases
    · exact howner j ((ha.writer _ hk).symm.trans hj)

/-! ### Assertions -/

/-- Nobody else puts a machine's name on a record. -/
theorem stable_unowned {key : String} (hkey : Unguarding key) :
    (nodeConduct tokens locks D).Stable i fun s => owner? tokens s key ≠ some i :=
  fun _ _ _ _ hrely hne h => hne (hrely.2.foreign key hkey h)

/-- Nobody else touches the lock of a holder and the record under it. -/
theorem stable_held {k : RowKey} (hk : Unguarding k.text) (Q : Option Attributes → Prop) :
    (nodeConduct tokens locks D).Stable i fun s =>
      s.holds locks k i = true ∧ Q (s.contents.row? tokens k.text) := by
  intro s s' _ _ hrely h
  refine ⟨(hrely.2.holds k).trans h.1, ?_⟩
  rw [hrely.2.held k hk h.1]
  exact h.2

/-- The machine that a record names holds the lock, and the lock row names it. -/
theorem guarded_of_row? (hs : (nodeConduct tokens locks D).inv a) {k : RowKey}
    (hk : Unguarding k.text) {row : Attributes}
    (hrow : a.contents.row? tokens k.text = some row) :
    ∃ d now, D d ∧ d.rowKey = k ∧ row = (d.stamp now).toAttributes ∧
      row.get? Column.instanceId.name = some d.instanceId ∧
      a.holds locks k d.instanceId = true ∧
      ∃ guard, a.contents.row? locks k.lock = some guard ∧
        guard.get? d.instanceId = some d.instanceId := by
  rcases hs.2.record k.text row hrow with ⟨d, now, hd, hkey, hattributes, hholds⟩ | ⟨-, k', h⟩
  · obtain rfl : k = d.rowKey := RowKey.ext hkey
    refine ⟨d, now, hd, rfl, hattributes, ?_, hholds,
      Contents.exists_row?_of_attribute? ((hs.1 _).named _ hholds)⟩
    rw [hattributes]
    exact (d.stamp now).get?_instanceId
  · exact (hk k' h).elim

/-- Under a lock that a machine holds there is no record but its own. -/
theorem owner_eq_of_holds (hs : (nodeConduct tokens locks D).inv a) {k : RowKey}
    (hk : Unguarding k.text) (hheld : a.holds locks k i = true) {row : Attributes}
    (hrow : a.contents.row? tokens k.text = some row) :
    row.get? Column.instanceId.name = some i ∧
      ∃ d now, D d ∧ d.rowKey = k ∧ d.instanceId = i ∧ row = (d.stamp now).toAttributes := by
  obtain ⟨d, now, hd, hkey, hattributes, hname, hholds, -⟩ := guarded_of_row? hs hk hrow
  have howner : d.instanceId = i := (hs.1 k).unique _ _ hholds hheld
  rw [howner] at hname
  exact ⟨hname, d, now, hd, hkey, howner, hattributes⟩

end ClusterIdentity.Claiming
