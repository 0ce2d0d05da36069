import Mathlib.Data.List.Nodup
import ClusterIdentity.Proofs.Claim.Isolation
import ClusterIdentity.Proofs.Claim.Roster

/-!
# The table of identities

Any number of callers claim identities and give them up, for whichever descriptors. A record is
written over whatever is in its row, so that volumes of earlier records may stay in it. Every row
is nevertheless one of a record under its own row key, and what the roster answers is exact.

## Main definitions

* `AnyCalls`, `anyRules`: callers that work for any descriptors
* `KeepsRecords`: requests that write only records and delete only whole rows
* `AllRecorded`: every row has the columns of a record and its key
* `WellFormed`: every row holds a record, and no two rows hold one for the same place
* `RosterExact`: how answers of the roster and the rows are related

## Main statements

* `allRecorded_perform`, `allRecorded_of_reaches`: callers keep the table recorded
* `WellFormed.rosterExact`: the roster is exact if the table is well formed
* `tokens_well_formed`

## Design notes

A query sends one request, so what the others do before and after it makes no difference to its
answer: queries are run by themselves on the contents of a reached state.
-/

namespace ClusterIdentity

/-! ### Lists without repetitions -/

theorem eraseDups_of_nodup {α : Type} [BEq α] [LawfulBEq α] {l : List α} (h : l.Nodup) :
    l.eraseDups = l := by
  induction l with
  | nil => rfl
  | cons a rest ih =>
    obtain ⟨hnot, hrest⟩ := List.nodup_cons.mp h
    have hfilter : rest.filter (fun b => !b == a) = rest := by
      apply List.filter_eq_self.mpr
      intro b hb
      have hne : b ≠ a := fun heq => hnot (heq ▸ hb)
      simp [hne]
    rw [List.eraseDups_cons, hfilter, ih hrest]

/-- What is looked for is found in whichever order a list is gone through, if the list has only one
such element. -/
theorem find?_eq_of_perm {α : Type} {p : α → Bool} {l order : List α} (horder : order.Perm l)
    (hunique : ∀ a ∈ l, ∀ b ∈ l, p a = true → p b = true → a = b) :
    order.find? p = l.find? p := by
  cases hfound : l.find? p with
  | none =>
    apply List.find?_eq_none.mpr
    intro a ha
    exact List.find?_eq_none.mp hfound a (horder.mem_iff.mp ha)
  | some a =>
    have ha : a ∈ l := List.mem_of_find?_eq_some hfound
    have hpa : p a = true := List.find?_some hfound
    obtain ⟨b, hb⟩ := Option.isSome_iff_exists.mp
      (List.find?_isSome.mpr ⟨a, horder.mem_iff.mpr ha, hpa⟩)
    have hb_mem : b ∈ l := horder.mem_iff.mp (List.mem_of_find?_eq_some hb)
    rw [hb, hunique b hb_mem a ha (List.find?_some hb) hpa]

namespace Claiming

open Interleaving Locking Solo RowKey Roster

/-! ### Requests -/

/-- Whether a request writes nothing to a table but a record under its row key, and deletes nothing
in it but whole rows. -/
def KeepsRecords (table : String) : StoreCall → Prop
  | .put t key attributes condition =>
    t = table → condition = none ∧
      ∃ d : Descriptor, key = d.rowKey.text ∧ attributes = d.toAttributes
  | .delete t _ scope _ => t = table → scope = .row
  | _ => True

theorem KeepsRecords.of_not_writesTo {table : String} {call : StoreCall}
    (h : ∀ key, ¬ call.WritesTo table key) : KeepsRecords table call := by
  cases call with
  | put t key attributes condition => exact fun ht => (h key ⟨ht, rfl⟩).elim
  | delete t key scope condition => exact fun ht => (h key ⟨ht, rfl⟩).elim
  | scan t filter limit => trivial
  | batchGet t keys => trivial

/-- If locks are kept in another table, claims keep records. -/
theorem KeepsRecords.of_claimCall {registry : Registry}
    (htables : registry.tokens ≠ registry.locks.name) {d : Descriptor} {call : StoreCall}
    (h : ClaimCall registry d call) : KeepsRecords registry.tokens call := by
  cases h with
  | query filter limit => trivial
  | lock h => exact .of_not_writesTo fun key hw => htables (h.forLock registry.tokens key hw).1
  | write now => exact fun _ => ⟨rfl, d.stamp now, rfl, rfl⟩
  | erase key => exact fun _ => rfl

/-! ### Rows -/

/-- Whether every row of a table has all columns of a record, and the key of that record. -/
def AllRecorded (table : String) (c : Contents) : Prop :=
  ∀ key row, c.row? table key = some row → ∃ d : Descriptor, key = d.rowKey.text ∧
    ∀ column value, (column, value) ∈ d.columns → row.get? column.name = some value

/-- Requests of callers keep a table recorded. -/
theorem allRecorded_perform {table : String} {call : StoreCall} {c : Contents}
    (hcall : KeepsRecords table call) (h : AllRecorded table c) :
    AllRecorded table (c.perform call).2 := by
  intro key row hrow
  by_cases hw : call.WritesTo table key
  · cases call with
    | put t k attributes condition =>
      obtain ⟨rfl, rfl⟩ := hw
      obtain ⟨rfl, d, hkey, rfl⟩ := hcall rfl
      refine ⟨d, hkey, fun column value hmem => ?_⟩
      -- the columns of the new record hide whatever the row had under these names
      rw [← Contents.attribute?_of_row? hrow, Contents.attribute?_put,
        Descriptor.get?_toAttributes hmem, Option.some_or]
    | delete t k scope condition =>
      obtain ⟨rfl, rfl⟩ := hw
      obtain rfl := hcall rfl
      rcases Contents.row?_deleteRow_eq_or c t k condition with hkept | hgone
      · exact h k row (hkept.symm.trans hrow)
      · cases hgone.symm.trans hrow
    | scan t filter limit => exact hw.elim
    | batchGet t keys => exact hw.elim
  · rw [Contents.row?_perform hw] at hrow
    exact h key row hrow

/-- Whether every row of a table holds a record under the key of that record, and no two rows hold
records for the same place. -/
structure WellFormed (table : String) (c : Contents) : Prop where
  decodes : ∀ row ∈ c.rows table, ∃ record, Descriptor.ofRow row = .ok record ∧
    row.key = record.rowKey.text
  unique : ∀ row ∈ c.rows table, ∀ row' ∈ c.rows table, ∀ record record',
    Descriptor.ofRow row = .ok record → Descriptor.ofRow row' = .ok record' →
    record.application = record'.application → record.rack = record'.rack →
    record.slot = record'.slot → row = row'

theorem AllRecorded.wellFormed {table : String} {c : Contents} (h : AllRecorded table c) :
    WellFormed table c := by
  have hdecodes : ∀ row ∈ c.rows table, ∃ record, Descriptor.ofRow row = .ok record ∧
      row.key = record.rowKey.text := by
    intro row hmem
    obtain ⟨d, hkey, hcolumns⟩ := h row.key row.attributes (Contents.mem_rows_iff.mp hmem)
    exact ⟨_, Descriptor.ofRow_of_columns row.key hcolumns, hkey⟩
  refine ⟨hdecodes, fun row hmem row' hmem' record record' hrecord hrecord' happlication hrack
    hslot => ?_⟩
  obtain ⟨_, hdecoded, hkey⟩ := hdecodes row hmem
  obtain ⟨_, hdecoded', hkey'⟩ := hdecodes row' hmem'
  obtain rfl := Except.ok.inj (hrecord.symm.trans hdecoded)
  obtain rfl := Except.ok.inj (hrecord'.symm.trans hdecoded')
  -- the key tells where the attributes are
  have hkeys : row.key = row'.key := by
    rw [hkey, hkey', Descriptor.rowKey, Descriptor.rowKey, happlication, hrack, hslot]
  have hattributes := Contents.mem_rows_iff.mp hmem
  rw [hkeys, Contents.mem_rows_iff.mp hmem', Option.some.injEq] at hattributes
  calc row = ⟨row.key, row.attributes⟩ := rfl
    _ = ⟨row'.key, row'.attributes⟩ := by rw [hkeys, hattributes]

/-! ### Answers of the roster -/

/-- Whether the answers of the roster tell exactly what is in a table, whatever fails. Without
failures there are answers. -/
structure RosterExact (table : String) (c : Contents) : Prop where
  /-- The instances of an application have one record for each of its rows. -/
  instances : ∀ faults now application,
    Answers faults (run faults now (Roster.instances table application) c).1 fun records =>
      (rowsOf c table application).map Descriptor.ofRow = records.map Except.ok ∧ records.Nodup
  /-- At most one of the instances is for a slot, which is found in whichever order they come. -/
  instance? : ∀ faults now application rack slot records,
    (run Faults.none now (Roster.instances table application) c).1 = .ok records →
    (∀ d ∈ records, ∀ d' ∈ records, d.rack = rack → d'.rack = rack → d.slot = slot →
      d'.slot = slot → d = d') ∧
    ∀ order : List Descriptor, order.Perm records →
      Answers faults (run faults now (Roster.instance? table application rack slot) c).1
        (· = order.find? fun d => d.rack == rack && d.slot == slot)
  /-- The key of an instance is its row key, and is found if the query selects a row. -/
  key? : ∀ faults now application datacenter rack slot,
    Answers faults (run faults now (Roster.key? table application slot datacenter rack) c).1
      fun found => (found = none → ∀ row ∈ c.rows table,
          (Roster.ofInstance application slot datacenter rack).selects row = false) ∧
        ∀ key, found = some key → key = (ofSlot application rack slot).text

namespace WellFormed

variable {table : String} {c : Contents} (h : WellFormed table c)

include h

theorem map_ofRow (application : String) :
    (rowsOf c table application).map Descriptor.ofRow =
      (recordsOf (rowsOf c table application)).map .ok := by
  apply map_ofRow_eq
  intro row hmem
  obtain ⟨record, hrecord, -⟩ := h.decodes row (List.mem_filter.mp hmem).1
  exact ⟨record, hrecord⟩

/-- Different rows of an application hold different records. -/
theorem nodup_recordsOf (application : String) :
    (recordsOf (rowsOf c table application)).Nodup := by
  have hrows : (rowsOf c table application).Nodup := (c.nodup_rows table).filter _
  have hdecoded : ((rowsOf c table application).map Descriptor.ofRow).Nodup := by
    refine hrows.map_on fun row hmem row' hmem' heq => ?_
    have hrow := (List.mem_filter.mp hmem).1
    have hrow' := (List.mem_filter.mp hmem').1
    obtain ⟨record, hrecord, -⟩ := h.decodes row hrow
    -- rows that hold the same record are for the same place
    exact h.unique row hrow row' hrow' record record hrecord (heq ▸ hrecord) rfl rfl rfl
  rw [h.map_ofRow] at hdecoded
  exact hdecoded.of_map

/-- The rows of an application hold at most one record for a place. -/
theorem eq_of_same_place {application : String} {d d' : Descriptor}
    (hmem : d ∈ recordsOf (rowsOf c table application))
    (hmem' : d' ∈ recordsOf (rowsOf c table application)) (hrack : d.rack = d'.rack)
    (hslot : d.slot = d'.slot) : d = d' := by
  obtain ⟨row, hrow, hrecord⟩ := mem_recordsOf.mp hmem
  obtain ⟨row', hrow', hrecord'⟩ := mem_recordsOf.mp hmem'
  obtain ⟨hrow, hnamed⟩ := List.mem_filter.mp hrow
  obtain ⟨hrow', hnamed'⟩ := List.mem_filter.mp hrow'
  have happlication : d.application = d'.application := by
    have hd := (Descriptor.place_of_ofRow hrecord).1.symm.trans (eq_of_beq hnamed)
    have hd' := (Descriptor.place_of_ofRow hrecord').1.symm.trans (eq_of_beq hnamed')
    exact Option.some.inj (hd.trans hd'.symm)
  obtain rfl := h.unique row hrow row' hrow' d d' hrecord hrecord' happlication hrack hslot
  exact Except.ok.inj (hrecord.symm.trans hrecord')

/-- A row that a query for one instance selects has the row key of that instance. -/
theorem key_of_selects {application datacenter rack : String} {slot : UInt32} {row : Row}
    (hmem : row ∈ c.rows table)
    (hselects : (Roster.ofInstance application slot datacenter rack).selects row = true) :
    row.key = (ofSlot application rack slot).text := by
  obtain ⟨record, hrecord, hkey⟩ := h.decodes row hmem
  obtain ⟨rfl, rfl, rfl⟩ := Roster.place_of_ofInstance_selects hselects hrecord
  exact hkey

/-- The roster tells exactly what is in a table that is well formed. -/
theorem rosterExact : RosterExact table c := by
  have hdistinct : ∀ application, (recordsOf (rowsOf c table application)).eraseDups =
      recordsOf (rowsOf c table application) :=
    fun application => eraseDups_of_nodup (h.nodup_recordsOf application)
  refine ⟨fun faults now application => ?_, fun faults now application rack slot records hall => ?_,
    fun faults now application datacenter rack slot => ?_⟩
  · refine (ends_instances table application ⟨c, []⟩ rfl).mono ?_
    rintro _ rfl
    rw [hdistinct]
    exact ⟨h.map_ofRow application, h.nodup_recordsOf application⟩
  · obtain rfl := (ends_instances table application ⟨c, []⟩ rfl).right records hall
    rw [hdistinct]
    have hunique : ∀ d ∈ recordsOf (rowsOf c table application),
        ∀ d' ∈ recordsOf (rowsOf c table application), d.rack = rack → d'.rack = rack →
        d.slot = slot → d'.slot = slot → d = d' :=
      fun d hmem d' hmem' hrack hrack' hslot hslot' =>
        h.eq_of_same_place hmem hmem' (hrack.trans hrack'.symm) (hslot.trans hslot'.symm)
    refine ⟨hunique, fun order horder => ?_⟩
    refine (ends_instance? table application rack slot ⟨c, []⟩ rfl).mono ?_
    rintro _ rfl
    rw [hdistinct]
    refine (find?_eq_of_perm horder fun d hmem d' hmem' hd hd' => ?_).symm
    simp only [Bool.and_eq_true, beq_iff_eq] at hd hd'
    exact hunique d hmem d' hmem' hd.1 hd'.1 hd.2 hd'.2
  · refine (ends_key? table application datacenter rack slot ⟨c, []⟩ rfl).mono ?_
    rintro found ⟨hnone, hsome⟩
    refine ⟨fun hfound row hmem => ?_, fun key hfound => ?_⟩
    · have hunselected := List.filter_eq_nil_iff.mp (hnone hfound) row hmem
      exact Bool.eq_false_iff.mpr hunselected
    · obtain ⟨row, hrow, rfl⟩ := hsome key hfound
      obtain ⟨hmem, hselects⟩ := List.mem_filter.mp hrow
      exact h.key_of_selects hmem hselects

end WellFormed

/-! ### Callers -/

/-- The calls that anyone may make, for any descriptor. -/
inductive AnyCalls (tokens locks : String) : Unit → Unit → Procedure Unit → Prop
  | create (registry : Registry) (htokens : registry.tokens = tokens)
    (hlocks : registry.locks.name = locks) (d : Descriptor) :
    AnyCalls tokens locks () () ((registry.create d).bind fun _ => .done ())
  | delete (registry : Registry) (htokens : registry.tokens = tokens)
    (hlocks : registry.locks.name = locks) (d : Descriptor) :
    AnyCalls tokens locks () () ((registry.delete d).bind fun _ => .done ())

/-- Callers whose identities and locks are kept in two given tables. Anything may go wrong. -/
def anyRules (ι : Type) (tokens locks : String) : Rules ι Unit :=
  ⟨False, fun _ => AnyCalls tokens locks⟩

variable {ι : Type} [DecidableEq ι] {tokens locks : String} {s : State ι Unit}

/-- Callers keep the table of identities recorded. -/
theorem allRecorded_of_reaches (htables : tokens ≠ locks)
    (hreach : Reaches (anyRules ι tokens locks) (State.initial ∅ ()) s) :
    AllRecorded tokens s.contents := by
  have hempty : AllRecorded tokens (∅ : Contents) := by
    intro key row hrow
    cases hrow
  refine contents_of_reaches (P := KeepsRecords tokens) (fun i note fallback p hcall => ?_)
    (fun call c hcall h => allRecorded_perform hcall h) hempty hreach
  cases hcall with
  | create registry htokens hlocks d =>
    subst htokens hlocks
    exact ((within_create registry d).mono (fun _ h => .of_claimCall htables h)
      fun _ _ => trivial).bind fun _ _ => trivial
  | delete registry htokens hlocks d =>
    subst htokens hlocks
    exact ((within_delete registry d).mono (fun _ h => .of_claimCall htables h)
      fun _ _ => trivial).bind fun _ _ => trivial

/-- **The table of identities stays well formed.** Whichever identities are claimed and given up,
whatever fails and whoever is abandoned, each row holds a record under its own row key and no two
hold records for one place. So the roster lists one record for each row of an application, finds the
same record for a slot in whichever order it goes through them, and finds no key but the row key. -/
theorem tokens_well_formed (htables : tokens ≠ locks)
    (hreach : Reaches (anyRules ι tokens locks) (State.initial ∅ ()) s) :
    WellFormed tokens s.contents ∧ RosterExact tokens s.contents := by
  have hwell : WellFormed tokens s.contents := (allRecorded_of_reaches htables hreach).wellFormed
  exact ⟨hwell, hwell.rosterExact⟩

/-- A machine that claims one identity and then another one with the same row key, which its own
lock does not keep it from. -/
theorem well_formed_after_overwriting :
    ∃ s : State Bool Unit, Reaches (anyRules Bool "tokens" "locks") (State.initial ∅ ()) s ∧
      (∃ attributes, s.contents.row? "tokens" "a_b_c_1" = some attributes ∧
        Descriptor.ofRow ⟨"a_b_c_1", attributes⟩ =
          .ok { machineAt "a" "b_c" "m" with
            volumes := Dict.singleton "/data" "vol-1", updatedAt := some 7 }) ∧
      "tokens" ≠ "locks" ∧ WellFormed "tokens" s.contents ∧ RosterExact "tokens" s.contents := by
  have hfirst : Reaches (anyRules Bool "tokens" "locks") (State.initial ∅ ()) _ :=
    Step.call_reaches (i := false) 3 rfl (.create ⟨"tokens", ⟨"locks", .zero⟩⟩ rfl rfl
      { machineAt "a_b" "c" "m" with volumes := Dict.singleton "/data" "vol-1" })
  have hreach : Reaches (anyRules Bool "tokens" "locks") (State.initial ∅ ()) _ :=
    hfirst.trans (Step.call_reaches (i := true) 7 rfl
      (.create ⟨"tokens", ⟨"locks", .zero⟩⟩ rfl rfl (machineAt "a" "b_c" "m")))
  have htables : "tokens" ≠ "locks" := by decide
  obtain ⟨hwell, hexact⟩ := tokens_well_formed htables hreach
  exact ⟨_, hreach, ⟨_, rfl, rfl⟩, htables, hwell, hexact⟩

end Claiming

end ClusterIdentity
