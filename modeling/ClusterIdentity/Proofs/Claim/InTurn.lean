import ClusterIdentity.Proofs.Claim.Alone
import ClusterIdentity.Proofs.Claim.Effects
import ClusterIdentity.Proofs.Claim.Roster

/-!
# Claims one after another

If calls are made one after another and nothing fails, then between two calls the store is at rest:
nobody is in a choosing row, and a lock row names one machine and stands beside a record. From such
a state the outcome of a call and the contents after it are known exactly.

## Main definitions

* `AtRest`: what the tables look like between calls
* `claimed`: the contents after a claim

## Main statements

* `yields_create`, `yields_create_exists`, `yields_create_held`: the three ways a claim may end
* `yields_delete`, `yields_delete_notFound`, `yields_delete_held`: the three ways giving it up may end

## Design notes

Nothing here asks that the two tables be different. Rows of locks may be met where records are
looked up, but they are never taken for one.
-/

namespace ClusterIdentity.Claiming

open Interleaving Solo Locking Roster

variable {now : UInt64} {registry : Registry} {k : RowKey} {i : String} {d : Descriptor}
  {c : Contents}

/-! ### Locks -/

/-- The contents after a machine took a lock. -/
def taken (locks : String) (k : RowKey) (i : String) (c : Contents) : Contents :=
  (c.setRow locks k.choosing (some (Dict.singleton i i))).setRow locks k.lock
    (some (Dict.singleton i i))

section Taken

variable {locks table key : String}

/-- A row that does not guard a row key is neither of the two that do. -/
theorem guards_ne (h : ¬ (table = locks ∧ k.GuardedBy key)) :
    ¬ (locks = table ∧ k.lock = key) ∧ ¬ (locks = table ∧ k.choosing = key) :=
  ⟨fun heq => h ⟨heq.1.symm, .inl heq.2.symm⟩, fun heq => h ⟨heq.1.symm, .inr heq.2.symm⟩⟩

/-- Such a row looks the same under the lock. -/
theorem row?_taken_of_ne (h : ¬ (table = locks ∧ k.GuardedBy key)) :
    (taken locks k i c).row? table key = c.row? table key := by
  obtain ⟨hlock, hchoosing⟩ := guards_ne h
  rw [taken, Contents.row?_setRow_of_ne hlock, Contents.row?_setRow_of_ne hchoosing]

theorem row?_taken_lock : (taken locks k i c).row? locks k.lock = some (Dict.singleton i i) :=
  Contents.row?_setRow_self ..

theorem lock_ne_choosing_of (locks : String) (k : RowKey) :
    ¬ (locks = locks ∧ k.lock = k.choosing) :=
  fun heq => RowKey.lock_ne_choosing k k heq.2

theorem row?_taken_choosing :
    (taken locks k i c).row? locks k.choosing = some (Dict.singleton i i) := by
  rw [taken, Contents.row?_setRow_of_ne (lock_ne_choosing_of locks k), Contents.row?_setRow_self]

/-- It may be set under the lock as if the lock were taken afterwards. -/
theorem taken_setRow (h : ¬ (table = locks ∧ k.GuardedBy key)) (row : Option Attributes) :
    (taken locks k i c).setRow table key row = taken locks k i (c.setRow table key row) := by
  obtain ⟨hlock, hchoosing⟩ := guards_ne h
  rw [taken, taken, Contents.setRow_comm hlock, Contents.setRow_comm hchoosing]

/-- Nothing but the entry in the lock row stays of a lock that is released. -/
theorem taken_released (h : c.row? locks k.choosing = none) :
    (taken locks k i c).setRow locks k.choosing none =
      c.setRow locks k.lock (some (Dict.singleton i i)) := by
  rw [taken, Contents.setRow_comm (lock_ne_choosing_of locks k), Contents.setRow_setRow,
    Contents.setRow_of_row? h]

/-- Nothing at all stays of a lock that is torn down. -/
theorem taken_tornDown (h : c.row? locks k.choosing = none) :
    ((taken locks k i c).setRow locks k.lock none).setRow locks k.choosing none =
      c.setRow locks k.lock none := by
  rw [Contents.setRow_comm (lock_ne_choosing_of locks k), taken_released h, Contents.setRow_setRow]

end Taken

theorem perform_put (c : Contents) (table key : String) (attributes : Attributes) :
    (c.perform (.put table key attributes none)).2 =
      c.setRow table key (some (Contents.written (c.row? table key) attributes)) :=
  rfl

theorem allows_entry (i : String) :
    Condition.allows (some (.equals i i)) (some (Dict.singleton i i)) = true := by
  simp [Condition.allows, Condition.holds]

/-- A machine leaves a row in which it is alone, and with it goes the row. -/
theorem perform_leave {table key : String} (h : c.row? table key = some (Dict.singleton i i)) :
    (c.perform (Contents.deleteAttribute table key i i)).2 = c.setRow table key none := by
  have hrest : ((Dict.singleton i i : Attributes).eraseAll [i]).isEmpty = true := by
    refine Dict.isEmpty_iff.mpr fun name => ?_
    rw [Dict.get?_eraseAll, Dict.get?_singleton]
    split
    · rfl
    · rename_i hname
      exact if_neg fun heq => hname (List.mem_singleton.mpr heq.symm)
  have hgone : Contents.remaining (some (Dict.singleton i i)) (.attributes [i]) = none := by
    rw [Contents.remaining, Option.bind_some, if_pos hrest]
  simp only [Contents.perform, h, allows_entry, if_true, hgone]

/-- The row of a lock that names its holder is deleted on the holder's behalf. -/
theorem perform_deleteHeld {table key : String} (h : c.row? table key = some (Dict.singleton i i)) :
    (c.perform (.delete table key .row (some (.equals i i)))).2 = c.setRow table key none := by
  simp only [Contents.perform, h, allows_entry, if_true, Contents.remaining]

theorem yields_lock (hchoosing : c.row? registry.locks.name k.choosing = none)
    (hlock : Unshared i (c.row? registry.locks.name k.lock)) :
    Yields now (registry.lock k i) c (.ok ⟨k, i⟩) (taken registry.locks.name k i c) := by
  have hne : ¬ (registry.locks.name = registry.locks.name ∧ k.choosing = k.lock) :=
    fun h => RowKey.lock_ne_choosing k k h.2.symm
  have hacquire : Yields now (registry.locks.acquire k i) c (.ok ⟨k, i⟩)
      (taken registry.locks.name k i c) := by
    apply Yields.of_scene i
    obtain ⟨hanswer, hcontents⟩ := run_acquire now (s := ⟨c, []⟩) hchoosing hlock
    refine ⟨hanswer, hcontents.trans ?_⟩
    rw [perform_put, perform_put, hchoosing, Contents.row?_setRow_of_ne hne, hlock.written, taken,
      Contents.written, Option.getD_none, Dict.empty_overlay]
  exact hacquire.bind (Yields.done _ _)

/-- A machine that finds another one in the lock row leaves the contents as they were. -/
theorem yields_lock_held {j : String} (hj : j ≠ i)
    (hchoosing : c.row? registry.locks.name k.choosing = none)
    (hlock : c.row? registry.locks.name k.lock = some (Dict.singleton j j)) :
    Yields now (registry.lock k i) c (.error (.lockFailed (.heldByOther k.lock j))) c := by
  have hother : LockTable.otherThan i ((c.row? registry.locks.name k.lock).getD ∅) = some j := by
    have hkeys : (Dict.singleton j j : Attributes).keys = [j] := rfl
    simp [hlock, LockTable.otherThan, hkeys, hj]
  have hacquire : Yields now (registry.locks.acquire k i) c (.error (.heldByOther k.lock j)) c := by
    apply Yields.of_scene i
    obtain ⟨hanswer, hcontents⟩ := run_acquire_held now (s := ⟨c, []⟩) hother
    refine ⟨hanswer, hcontents.trans ?_⟩
    rw [perform_put, hchoosing, Contents.written, Option.getD_none, Dict.empty_overlay,
      perform_leave (Contents.row?_setRow_self ..), Contents.setRow_setRow,
      Contents.setRow_of_row? hchoosing]
  exact hacquire.bind (Yields.done _ _)

theorem yields_unlock (h : c.row? registry.locks.name k.choosing = none) :
    Yields now (registry.unlock ⟨k, i⟩) (taken registry.locks.name k i c) ()
      (c.setRow registry.locks.name k.lock (some (Dict.singleton i i))) := by
  apply Yields.of_scene i
  refine ⟨rfl, ?_⟩
  rw [contents_run_unlock, perform_leave row?_taken_choosing, taken_released h]

theorem yields_tearDown (h : c.row? registry.locks.name k.choosing = none) :
    Yields now (registry.locks.tearDown ⟨k, i⟩) (taken registry.locks.name k i c) (.ok ())
      (c.setRow registry.locks.name k.lock none) := by
  have hreport : ∀ (outcome : DeleteOutcome) (c : Contents),
      Yields now (LockTable.reportLost ⟨k, i⟩ outcome) c () c := by
    intro outcome c
    cases outcome with
    | deleted old => exact Yields.done () c
    | conditionFailed => exact Yields.report _ c
  have hlock : Yields now (Procedure.call (.delete registry.locks.name k.lock .row
      (some (.equals i i)))) (taken registry.locks.name k i c) (.ok _)
        ((taken registry.locks.name k i c).setRow registry.locks.name k.lock none) :=
    perform_deleteHeld row?_taken_lock ▸ Yields.call _ _
  rw [← taken_tornDown h]
  exact hlock.bind ((hreport _ _).bind ((Yields.call _ _).bind (Yields.done _ _)))

/-! ### Records -/

/-- Whether a row has all columns of a record and the key of that record. -/
def IsRecord (key : String) (row : Attributes) : Prop :=
  ∃ d : Descriptor, key = d.rowKey.text ∧
    ∀ column value, (column, value) ∈ d.columns → row.get? column.name = some value

/-- Whether every row of a table is a record or the entry of one machine in a row of a lock. -/
def RecordsAndEntries (table : String) (c : Contents) : Prop :=
  ∀ key row, c.row? table key = some row → IsRecord key row ∨ ∃ i, row = Dict.singleton i i

theorem isRecord_written (old : Option Attributes) (d : Descriptor) :
    IsRecord d.rowKey.text (Contents.written old d.toAttributes) := by
  refine ⟨d, rfl, fun column value hmem => ?_⟩
  rw [Contents.written, Dict.get?_overlay, Descriptor.get?_toAttributes hmem, Option.some_or]

/-- An entry of a machine is not a record. -/
theorem ofRow_singleton_ne_ok (key i : String) (record : Descriptor) :
    Descriptor.ofRow ⟨key, Dict.singleton i i⟩ ≠ .ok record :=
  Descriptor.ofRow_ne_ok_of_onlyEntered (.singleton i) record

theorem not_selects_singleton (application datacenter rack key i : String) (slot : UInt32) :
    (ofInstance application slot datacenter rack).selects ⟨key, Dict.singleton i i⟩ = false :=
  not_ofInstance_selects (.singleton i)

namespace RecordsAndEntries

variable {table : String} (h : RecordsAndEntries table c)

include h

theorem setRow {t key : String} {row? : Option Attributes}
    (hrow : ∀ row, row? = some row → IsRecord key row ∨ ∃ i, row = Dict.singleton i i) :
    RecordsAndEntries table (c.setRow t key row?) := by
  intro key' row hfound
  rw [Contents.row?_setRow] at hfound
  split at hfound
  · rename_i heq
    exact heq.2 ▸ hrow row hfound
  · exact h key' row hfound

/-- Taking a lock makes entries. -/
theorem taken {locks : String} : RecordsAndEntries table (taken locks k i c) :=
  (h.setRow fun _ hrow => .inr ⟨i, (Option.some.inj hrow).symm⟩).setRow
    fun _ hrow => .inr ⟨i, (Option.some.inj hrow).symm⟩

theorem key_of_ofRow {row : Row} (hmem : row ∈ c.rows table) {record : Descriptor}
    (hrecord : Descriptor.ofRow row = .ok record) : row.key = record.rowKey.text := by
  obtain ⟨key, attributes⟩ := row
  rcases h key attributes (Contents.mem_rows_iff.mp hmem) with ⟨d, hkey, hcolumns⟩ | ⟨i, rfl⟩
  · rw [Descriptor.ofRow_of_columns key hcolumns, Except.ok.injEq] at hrecord
    subst hrecord
    exact hkey
  · exact (ofRow_singleton_ne_ok key i record hrecord).elim

theorem key_of_selects {row : Row} (hmem : row ∈ c.rows table)
    (hselects : (ofInstance d.application d.slot d.datacenter d.rack).selects row = true) :
    row.key = d.rowKey.text := by
  obtain ⟨key, attributes⟩ := row
  rcases h key attributes (Contents.mem_rows_iff.mp hmem) with ⟨d', hkey, hcolumns⟩ | ⟨i, rfl⟩
  · obtain ⟨happlication, hrack, hslot⟩ := place_of_ofInstance_selects hselects
      (Descriptor.ofRow_of_columns key hcolumns)
    rw [hkey, Descriptor.rowKey, Descriptor.rowKey]
    exact congrArg RowKey.text (by rw [← happlication, ← hrack, ← hslot])
  · rw [not_selects_singleton] at hselects
    cases hselects

end RecordsAndEntries

/-! ### Queries -/

/-- The record that is found for a place. -/
def found (tokens application rack : String) (slot : UInt32) (c : Contents) : Option Descriptor :=
  (recordsOf (rowsOf c tokens application)).eraseDups.find? fun d =>
    d.rack == rack && d.slot == slot

theorem yields_instance? {tokens application rack : String} {slot : UInt32}
    {record? : Option Descriptor} (h : found tokens application rack slot c = record?) :
    Yields now (instance? tokens application rack slot) c (.ok record?) c := by
  have hscanning : Ends Faults.none now (fun s => s.contents = c)
      (instance? tokens application rack slot) fun _ s => s.contents = c :=
    ends_scanning (within_instance? (E := fun _ => True) rfl fun _ => trivial)
  refine ((ends_instance? tokens application rack slot).and hscanning).strengthen_post
    fun answer s hs => ⟨?_, hs.2⟩
  obtain ⟨record, rfl⟩ := hs.1.given rfl
  rw [← h, hs.1.right record rfl, found]

/-- Whether a row of a table is selected when the record of a descriptor is looked up. -/
def Selected (tokens : String) (d : Descriptor) (c : Contents) : Prop :=
  ∃ row ∈ c.rows tokens, (ofInstance d.application d.slot d.datacenter d.rack).selects row = true

/-- Only the row under the row key may be selected. -/
theorem selected_iff {tokens : String} (h : RecordsAndEntries tokens c) :
    Selected tokens d c ↔ ∃ row, c.row? tokens d.rowKey.text = some row ∧
      (ofInstance d.application d.slot d.datacenter d.rack).selects ⟨d.rowKey.text, row⟩ =
        true := by
  constructor
  · rintro ⟨⟨key, row⟩, hmem, hselects⟩
    obtain rfl : key = d.rowKey.text := h.key_of_selects hmem hselects
    exact ⟨row, Contents.mem_rows_iff.mp hmem, hselects⟩
  · rintro ⟨row, hrow, hselects⟩
    exact ⟨_, Contents.mem_rows_iff.mpr hrow, hselects⟩

/-- Taking the lock does not matter for it. -/
theorem selected_taken_iff {tokens locks : String} (h : RecordsAndEntries tokens c) :
    Selected tokens d (taken locks d.rowKey i c) ↔ Selected tokens d c := by
  have hguard : ¬ (tokens = locks ∧ d.rowKey.GuardedBy d.rowKey.text) := fun heq =>
    d.unguarding_rowKey d.rowKey heq.2
  rw [selected_iff h.taken, selected_iff h, row?_taken_of_ne hguard]

/-- Under its lock a record is found by its row key, if it is found at all. -/
theorem yields_key? {tokens locks : String} (h : RecordsAndEntries tokens c) {key? : Option String}
    (hsome : Selected tokens d c → key? = some d.rowKey.text)
    (hnone : ¬ Selected tokens d c → key? = none) :
    Yields now (Roster.key? tokens d.application d.slot d.datacenter d.rack)
      (taken locks d.rowKey i c) (.ok key?) (taken locks d.rowKey i c) := by
  have hscanning : Ends Faults.none now (fun s => s.contents = taken locks d.rowKey i c)
      (Roster.key? tokens d.application d.slot d.datacenter d.rack) fun _ s =>
        s.contents = taken locks d.rowKey i c :=
    ends_scanning (within_key? (E := fun _ => True) rfl)
  refine ((ends_key? tokens d.application d.datacenter d.rack d.slot).and hscanning).strengthen_post
    fun answer s hs => ⟨?_, hs.2⟩
  obtain ⟨key?', rfl⟩ := hs.1.given rfl
  obtain ⟨hempty, hfound⟩ := hs.1.right key?' rfl
  rw [← selected_taken_iff h] at hsome hnone
  cases key?' with
  | none =>
    rw [hnone fun ⟨row, hmem, hselects⟩ =>
      List.filter_eq_nil_iff.mp (hempty rfl) row hmem hselects]
  | some key =>
    obtain ⟨row, hselected, rfl⟩ := hfound key rfl
    obtain ⟨hmem, hselects⟩ := List.mem_filter.mp hselected
    rw [hsome ⟨row, hmem, hselects⟩, h.taken.key_of_selects hmem hselects]

/-! ### States at rest -/

/-- What the tables look like between calls that were made one after another. -/
structure AtRest (tokens locks : String) (c : Contents) : Prop where
  choosing : ∀ k : RowKey, c.row? locks k.choosing = none
  /-- A machine that holds a lock has recorded something under the row key. -/
  lock : ∀ (k : RowKey) row, c.row? locks k.lock = some row → RowKey.Unguarding k.text ∧
    (∃ i, row = Dict.singleton i i) ∧ c.row? tokens k.text ≠ none
  tokens : RecordsAndEntries tokens c

/-- The contents after a claim: the record is written, and the machine is in the lock row. -/
def claimed (tokens locks : String) (d : Descriptor) (now : UInt64) (c : Contents) : Contents :=
  (recorded tokens d now c).setRow locks d.rowKey.lock
    (some (Dict.singleton d.instanceId d.instanceId))

theorem text_ne_of_guardedBy {key : String} (hkey : k.GuardedBy key) : d.rowKey.text ≠ key :=
  fun heq => d.unguarding_rowKey k (heq ▸ hkey)

namespace AtRest

variable {tokens locks : String}

theorem empty : AtRest tokens locks ∅ :=
  ⟨fun _ => rfl, fun _ _ => nofun, fun _ _ => nofun⟩

variable (h : AtRest tokens locks c)

include h

/-- Where nothing is recorded nobody holds the lock. -/
theorem unlocked (habsent : c.row? tokens k.text = none) : c.row? locks k.lock = none := by
  cases hlock : c.row? locks k.lock with
  | none => rfl
  | some row => exact ((h.lock k row hlock).2.2 habsent).elim

theorem claimed (d : Descriptor) (now : UInt64) :
    AtRest tokens locks (claimed tokens locks d now c) := by
  have hrecords : RecordsAndEntries tokens (recorded tokens d now c) :=
    h.tokens.setRow fun row hrow => .inl (Option.some.inj hrow ▸ isRecord_written _ (d.stamp now))
  refine ⟨fun k => ?_, fun k row hrow => ?_,
    hrecords.setRow fun row hrow => .inr ⟨d.instanceId, (Option.some.inj hrow).symm⟩⟩
  · have hlock : ¬ (locks = locks ∧ d.rowKey.lock = k.choosing) := fun heq =>
      RowKey.lock_ne_choosing _ _ heq.2
    have htext : ¬ (tokens = locks ∧ d.rowKey.text = k.choosing) := fun heq =>
      text_ne_of_guardedBy k.guardedBy_choosing heq.2
    rw [Claiming.claimed, recorded, Contents.row?_setRow_of_ne hlock,
      Contents.row?_setRow_of_ne htext, h.choosing]
  · have hpresent : c.row? tokens k.text ≠ none ∨ d.rowKey = k →
        (Claiming.claimed tokens locks d now c).row? tokens k.text ≠ none := by
      intro hor
      rw [Claiming.claimed, recorded, Contents.row?_setRow, Contents.row?_setRow]
      split
      · exact Option.some_ne_none _
      · split
        · exact Option.some_ne_none _
        · rename_i hne
          exact hor.resolve_right fun heq => hne ⟨rfl, congrArg RowKey.text heq⟩
    rw [Claiming.claimed, recorded, Contents.row?_setRow] at hrow
    split at hrow
    · rename_i heq
      obtain rfl := RowKey.lock_inj heq.2
      exact ⟨d.unguarding_rowKey, ⟨_, (Option.some.inj hrow).symm⟩, hpresent (.inr rfl)⟩
    · have htext : ¬ (tokens = locks ∧ d.rowKey.text = k.lock) := fun heq =>
        text_ne_of_guardedBy k.guardedBy_lock heq.2
      rw [Contents.row?_setRow_of_ne htext] at hrow
      obtain ⟨hunguarding, hentry, hbeside⟩ := h.lock k row hrow
      exact ⟨hunguarding, hentry, hpresent (.inl hbeside)⟩

/-- A row may be removed that no lock row stands beside. -/
theorem remove {table key : String}
    (hkey : ∀ k : RowKey, c.row? locks k.lock ≠ none → ¬ (table = tokens ∧ key = k.text)) :
    AtRest tokens locks (c.setRow table key none) := by
  refine ⟨fun k => ?_, fun k row hrow => ?_, h.tokens.setRow fun _ => nofun⟩
  · rw [Contents.row?_setRow, h.choosing, ite_self]
  · rw [Contents.row?_setRow] at hrow
    split at hrow
    · cases hrow
    · obtain ⟨hunguarding, hentry, hbeside⟩ := h.lock k row hrow
      have hne : ¬ (table = tokens ∧ key = k.text) :=
        hkey k (by rw [hrow]; exact Option.some_ne_none _)
      exact ⟨hunguarding, hentry, by rwa [Contents.row?_setRow_of_ne hne]⟩

theorem unlock (d : Descriptor) : AtRest tokens locks (c.setRow locks d.rowKey.lock none) := by
  refine h.remove fun k hpresent heq => ?_
  obtain ⟨row, hrow⟩ := Option.ne_none_iff_exists'.mp hpresent
  exact (h.lock k row hrow).1 d.rowKey (heq.2 ▸ d.rowKey.guardedBy_lock)

theorem erase (d : Descriptor) (hlock : c.row? locks d.rowKey.lock = none) :
    AtRest tokens locks (c.setRow tokens d.rowKey.text none) :=
  h.remove fun _ hpresent heq => hpresent (RowKey.ext heq.2 ▸ hlock)

end AtRest

/-! ### Claiming -/

theorem yields_writeRecord (registry : Registry) (d : Descriptor) (c : Contents) :
    Yields now (registry.writeRecord d) c (.ok ()) (recorded registry.tokens d now c) :=
  (Yields.clock c).bind ((Yields.call _ c).bind (Yields.done _ _))

theorem yields_deleteRecord (registry : Registry) (key : String) (c : Contents) :
    Yields now (registry.deleteRecord key) c (.ok ()) (c.setRow registry.tokens key none) :=
  (Yields.call _ c).bind (Yields.done _ _)

/-- A claim in a state at rest finds what is recorded for its place and then does nothing. -/
theorem yields_create_exists {record : Descriptor}
    (hfound : found registry.tokens d.application d.rack d.slot c = some record) :
    Yields now (registry.create d) c (.ok .alreadyExists) c := by
  exact (yields_instance? hfound).bind ((Yields.report _ c).bind (Yields.done _ c))

/-- If nothing is found, it takes the lock and writes the record, provided that nobody else is in
the lock row. -/
theorem yields_create (hfound : found registry.tokens d.application d.rack d.slot c = none)
    (hchoosing : c.row? registry.locks.name d.rowKey.choosing = none)
    (hlock : Unshared d.instanceId (c.row? registry.locks.name d.rowKey.lock)) :
    Yields now (registry.create d) c (.ok .created)
      (claimed registry.tokens registry.locks.name d now c) := by
  have htext : ¬ (registry.tokens = registry.locks.name ∧ d.rowKey.GuardedBy d.rowKey.text) :=
    not_guardedBy_text d registry.tokens
  have hrecorded : recorded registry.tokens d now (taken registry.locks.name d.rowKey d.instanceId
      c) = taken registry.locks.name d.rowKey d.instanceId (recorded registry.tokens d now c) := by
    rw [recorded, recorded, row?_taken_of_ne htext, taken_setRow htext]
  have hchoosing' : (recorded registry.tokens d now c).row? registry.locks.name
      d.rowKey.choosing = none := by
    rw [recorded, Contents.row?_setRow_of_ne, hchoosing]
    exact fun heq => text_ne_of_guardedBy d.rowKey.guardedBy_choosing heq.2
  have hwrite : Yields now (registry.writeRecord d)
      (taken registry.locks.name d.rowKey d.instanceId c) (.ok ())
      (taken registry.locks.name d.rowKey d.instanceId (recorded registry.tokens d now c)) :=
    hrecorded ▸ yields_writeRecord registry d _
  refine (yields_instance? hfound).bind ((yields_lock hchoosing hlock).bind
    (hwrite.bind ((yields_unlock hchoosing').bind ?_)))
  exact (Yields.report _ _).bind (Yields.done _ _)

theorem yields_create_held (hfound : found registry.tokens d.application d.rack d.slot c = none)
    (hchoosing : c.row? registry.locks.name d.rowKey.choosing = none) {j : String}
    (hj : j ≠ d.instanceId)
    (hlock : c.row? registry.locks.name d.rowKey.lock = some (Dict.singleton j j)) :
    Yields now (registry.create d) c (.error (.lockFailed (.heldByOther d.rowKey.lock j))) c :=
  (yields_instance? hfound).bind ((yields_lock_held hj hchoosing hlock).bind (Yields.done _ c))

/-! ### Giving up -/

section Delete

variable (h : RecordsAndEntries registry.tokens c)
  (hchoosing : c.row? registry.locks.name d.rowKey.choosing = none)
  (hlock : Unshared d.instanceId (c.row? registry.locks.name d.rowKey.lock))

include h hchoosing hlock

/-- Whoever gives up a recorded claim removes the record and the lock row. -/
theorem yields_delete (hselected : Selected registry.tokens d c) :
    Yields now (registry.delete d) c (.ok .deleted)
      ((c.setRow registry.tokens d.rowKey.text none).setRow registry.locks.name d.rowKey.lock
        none) := by
  have herase : Yields now (registry.deleteRecord d.rowKey.text)
      (taken registry.locks.name d.rowKey d.instanceId c) (.ok ())
      (taken registry.locks.name d.rowKey d.instanceId
        (c.setRow registry.tokens d.rowKey.text none)) :=
    taken_setRow (not_guardedBy_text d registry.tokens) none ▸ yields_deleteRecord registry _ _
  have hchoosing' : (c.setRow registry.tokens d.rowKey.text none).row? registry.locks.name
      d.rowKey.choosing = none := by
    rw [Contents.row?_setRow, hchoosing, ite_self]
  refine (yields_lock hchoosing hlock).bind ((yields_key? h (fun _ => rfl)
    fun hnot => (hnot hselected).elim).bind (herase.bind ((yields_tearDown hchoosing').bind ?_)))
  exact (Yields.report _ _).bind (Yields.done _ _)

/-- If no record is found, it removes the lock row alone. -/
theorem yields_delete_notFound (hselected : ¬ Selected registry.tokens d c) :
    Yields now (registry.delete d) c (.ok .notFound)
      (c.setRow registry.locks.name d.rowKey.lock none) := by
  refine (yields_lock hchoosing hlock).bind ((yields_key? h (fun hfound => (hselected hfound).elim)
    fun _ => rfl).bind ?_)
  exact (Yields.report _ _).bind ((yields_tearDown hchoosing).bind (Yields.done _ _))

end Delete

theorem yields_delete_held (hchoosing : c.row? registry.locks.name d.rowKey.choosing = none)
    {j : String} (hj : j ≠ d.instanceId)
    (hlock : c.row? registry.locks.name d.rowKey.lock = some (Dict.singleton j j)) :
    Yields now (registry.delete d) c (.error (.lockFailed (.heldByOther d.rowKey.lock j))) c :=
  (yields_lock_held hj hchoosing hlock).bind (Yields.done _ c)

end ClusterIdentity.Claiming
