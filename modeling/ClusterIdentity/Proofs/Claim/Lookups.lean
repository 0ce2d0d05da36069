import ClusterIdentity.Claim.Registry
import ClusterIdentity.Proofs.Claim.Roster
import ClusterIdentity.Proofs.Identity.Records

/-!
# Looking up records

Each query of the roster sends one scan, and its answer is settled by what the scan is answered
with. A scan that failed, at once or after some rows, fails the query. Otherwise the query tells of
the records in the rows of the application, whatever else is in the table.

A slot is compared with the text in a row when a key is looked up, but with the number that the
text denotes when records are listed. So the two may disagree about a record of which the slot was
not written as the registry writes it.

## Main definitions

* `Verdict.scanFailure?`: the failure that a verdict has for the reader of a scan
* `QueryAnswers`: what the queries about an application tell of a table
* `IsRecordFor`: a row has a record for a slot in a rack of a region
* `LookupsAgree`, `PlainlyRecorded`: both ways to look up a record find it; its slot is plain

## Main statements

* `queries_exact_or_failed`: the records that queries tell of
* `lookups_agree_iff_plainly_recorded`: when both ways to look up a record agree
* `listed_but_not_found`: a record of which the slot has a leading zero
-/

namespace ClusterIdentity

theorem nodup_eraseDups {α : Type} [BEq α] [LawfulBEq α] (l : List α) : l.eraseDups.Nodup := by
  -- on the length, as what remains of the tail is not the tail
  induction hn : l.length using Nat.strongRecOn generalizing l with
  | ind n ih =>
    cases l with
    | nil => exact List.nodup_nil
    | cons a rest =>
      have hless : (rest.filter fun b => !b == a).length < n := by
        have hle := List.length_filter_le (fun b => !b == a) rest
        rw [← hn, List.length_cons]
        omega
      rw [List.eraseDups_cons, List.nodup_cons, List.mem_eraseDups, List.mem_filter]
      exact ⟨fun hmem => by simp at hmem, ih _ hless _ rfl⟩

/-- The failure that a verdict has for a reader who takes all rows of a scan. -/
def Simulation.Verdict.scanFailure? : Simulation.Verdict → Option StoreError
  | pass => none
  | refuse error => some error
  | failAfter error => some error
  | cutScan _ error => some error

namespace Roster

open Interleaving Solo

/-! ### What queries tell -/

/-- What queries about an application tell of a table: its records, those in one region, and the
one for a slot in a rack. -/
structure QueryAnswers (table application datacenter rack : String) (slot : UInt32) (c : Contents)
    (records region : List Descriptor) (found : Option Descriptor) : Prop where
  records_nodup : records.Nodup
  mem_records : ∀ d, d ∈ records ↔ ∃ row ∈ c.rows table,
    row.get? Column.application.name = some application ∧ Descriptor.ofRow row = .ok d
  region_nodup : region.Nodup
  region_sub : ∀ d, d ∈ region ↔ d ∈ records ∧ d.datacenter = datacenter
  /-- The region is in the attribute `location`: the one that is named `datacenter` has the rack. -/
  mem_region : ∀ d, d ∈ region ↔ ∃ row ∈ c.rows table,
    row.get? Column.application.name = some application ∧
      row.get? Column.datacenter.name = some datacenter ∧ Descriptor.ofRow row = .ok d
  found_none : found = none ↔ ∀ d ∈ records, ¬ (d.rack = rack ∧ d.slot = slot)
  found_some : ∀ d, found = some d → d ∈ records ∧ d.rack = rack ∧ d.slot = slot

section Tables

variable {table application : String} {c : Contents}

/-- The records of an application are those in the rows that name it and hold one. -/
theorem mem_eraseDups_recordsOf {d : Descriptor} :
    d ∈ (recordsOf (rowsOf c table application)).eraseDups ↔ ∃ row ∈ c.rows table,
      row.get? Column.application.name = some application ∧ Descriptor.ofRow row = .ok d := by
  rw [List.mem_eraseDups, mem_recordsOf]
  simp only [rowsOf, List.mem_filter, beq_iff_eq, and_assoc]

theorem queryAnswers_of_records (datacenter rack : String) (slot : UInt32) :
    let records := (recordsOf (rowsOf c table application)).eraseDups
    QueryAnswers table application datacenter rack slot c records
      (records.filter fun d => d.datacenter == datacenter)
      (records.find? fun d => d.rack == rack && d.slot == slot) := by
  have hnodup : (recordsOf (rowsOf c table application)).eraseDups.Nodup := nodup_eraseDups _
  have hregion : ∀ d, d ∈ (recordsOf (rowsOf c table application)).eraseDups.filter
      (fun d => d.datacenter == datacenter) ↔
      d ∈ (recordsOf (rowsOf c table application)).eraseDups ∧ d.datacenter = datacenter :=
    fun d => by rw [List.mem_filter, beq_iff_eq]
  refine ⟨hnodup, fun d => mem_eraseDups_recordsOf, hnodup.filter _, hregion, fun d => ?_, ?_,
    fun d hfound => ?_⟩
  · rw [hregion, mem_eraseDups_recordsOf]
    constructor
    · rintro ⟨⟨row, hmem, hnamed, hrecord⟩, rfl⟩
      obtain ⟨-, -, -, -, -, -, hdatacenter, -⟩ := Descriptor.fields_of_ofRow hrecord
      exact ⟨row, hmem, hnamed, hdatacenter, hrecord⟩
    · rintro ⟨row, hmem, hnamed, hlocated, hrecord⟩
      obtain ⟨-, -, -, -, -, -, hdatacenter, -⟩ := Descriptor.fields_of_ofRow hrecord
      exact ⟨⟨row, hmem, hnamed, hrecord⟩, Option.some.inj (hdatacenter.symm.trans hlocated)⟩
  · simp only [List.find?_eq_none, Bool.and_eq_true, beq_iff_eq]
  · have hplace := List.find?_some hfound
    rw [Bool.and_eq_true, beq_iff_eq, beq_iff_eq] at hplace
    exact ⟨List.mem_of_find?_eq_some hfound, hplace⟩

/-- Under each verdict but one the reader of all rows ends with a failure. -/
theorem listed_serve (verdict : Simulation.Verdict) (table application : String) (c : Contents) :
    listed (verdict.serve steady (.scan table (ofApplication application) none) c).1 =
      match verdict.scanFailure? with
      | some error => .error error
      | none => .ok (recordsOf (rowsOf c table application)).eraseDups := by
  cases verdict with
  | pass =>
    rw [← filter_ofApplication]
    rfl
  | refuse error => rfl
  | failAfter error => rfl
  | cutScan rows error => rfl

/-- **Queries.** Whatever is in a table, a list of instances has exactly the records in the rows
that name the application, the list for a region has those with that region, and a slot in a rack
is found if one of them is for it. If the scan fails, at once or after some rows, all three queries
fail with the failure of the scan. -/
theorem queries_exact_or_failed (faults : Faults) (now : UInt64) (c : Contents)
    (table application datacenter rack : String) (slot : UInt32) :
    match (faults 0 (.scan table (ofApplication application) none)).scanFailure? with
    | some error =>
      (run faults now (instances table application) c).1 = .error error ∧
        (run faults now (instancesIn table application datacenter) c).1 = .error error ∧
        (run faults now (instance? table application rack slot) c).1 = .error error
    | none =>
      ∃ records region found,
        (run faults now (instances table application) c).1 = .ok records ∧
        (run faults now (instancesIn table application datacenter) c).1 = .ok region ∧
        (run faults now (instance? table application rack slot) c).1 = .ok found ∧
        QueryAnswers table application datacenter rack slot c records region found := by
  have hlisted : listed (scanAnswer (answer faults now) ⟨c, []⟩ table application) =
      match (faults 0 (.scan table (ofApplication application) none)).scanFailure? with
      | some error => .error error
      | none => .ok (recordsOf (rowsOf c table application)).eraseDups :=
    listed_serve (faults 0 (.scan table (ofApplication application) none)) table application c
  simp only [run, result_run_instances, result_run_instance?, result_run_instancesIn, hlisted]
  cases (faults 0 (.scan table (ofApplication application) none)).scanFailure? with
  | some error => exact ⟨rfl, rfl, rfl⟩
  | none => exact ⟨_, _, _, rfl, rfl, rfl, queryAnswers_of_records datacenter rack slot⟩

end Tables

/-! ### Both ways to look up a record -/

/-- A record that is for a slot in a rack of a region. -/
structure HasPlace (slot : UInt32) (datacenter rack : String) (d : Descriptor) : Prop where
  slot : d.slot = slot
  datacenter : d.datacenter = datacenter
  rack : d.rack = rack

/-- A row of an application with a record for a slot in a rack of a region. -/
def IsRecordFor (table application : String) (c : Contents) (slot : UInt32)
    (datacenter rack : String) (row : Row) : Prop :=
  row ∈ rowsOf c table application ∧
    ∃ d, Descriptor.ofRow row = .ok d ∧ HasPlace slot datacenter rack d

/-- Both ways to look up a record find it: a key is found exactly if a list of instances has a
record for the place, and then it is that of a row with such a record. -/
def LookupsAgree (table application : String) (c : Contents) : Prop :=
  ∀ now slot datacenter rack, ∃ records found,
    (outcome now (instances table application) c).1 = .ok records ∧
      (outcome now (key? table application slot datacenter rack) c).1 = .ok found ∧
      (found.isSome = true ↔ ∃ d ∈ records, HasPlace slot datacenter rack d) ∧
      ∀ key, found = some key → ∃ row, IsRecordFor table application c slot datacenter rack row ∧
        row.key = key

/-- Each record of an application has a row for its place in which the slot is written as the
registry writes it: without leading zeros, and without a sign. -/
def PlainlyRecorded (table application : String) (c : Contents) : Prop :=
  ∀ slot datacenter rack, (∃ row, IsRecordFor table application c slot datacenter rack row) →
    ∃ row, IsRecordFor table application c slot datacenter rack row ∧
      row.get? Column.slot.name = some (Numeral.write slot.toNat)

section Lookups

variable {table application : String} {c : Contents}

theorem outcome_instances (now : UInt64) (table application : String) (c : Contents) :
    (outcome now (instances table application) c).1 =
      .ok (recordsOf (rowsOf c table application)).eraseDups :=
  (result_run_instances (answer Faults.none now) ⟨c, []⟩ table application).trans
    (listed_serve .pass table application c)

theorem outcome_key? (now : UInt64) (table application : String) (slot : UInt32)
    (datacenter rack : String) (c : Contents) :
    (outcome now (key? table application slot datacenter rack) c).1 =
      .ok (((c.rows table).filter
        (ofInstance application slot datacenter rack).selects).head?.map Row.key) := by
  rw [outcome, run, run_key?]
  show firstKey (.ok ⟨((c.rows table).filter _).take 1, none⟩) = _
  cases (c.rows table).filter (ofInstance application slot datacenter rack).selects <;> rfl

/-- The place is listed exactly if there is a row with a record for it. -/
theorem exists_listed_iff {slot : UInt32} {datacenter rack : String} :
    (∃ d ∈ (recordsOf (rowsOf c table application)).eraseDups, HasPlace slot datacenter rack d) ↔
      ∃ row, IsRecordFor table application c slot datacenter rack row := by
  simp only [List.mem_eraseDups, mem_recordsOf, IsRecordFor]
  constructor
  · rintro ⟨d, ⟨row, hmem, hrecord⟩, hfor⟩
    exact ⟨row, hmem, d, hrecord, hfor⟩
  · rintro ⟨row, hmem, d, hrecord, hfor⟩
    exact ⟨d, ⟨row, hmem, hrecord⟩, hfor⟩

/-- If all rows hold a record, those that are selected for a place are the ones that record it with
the slot written plainly. -/
theorem selected_iff_recorded
    (hdecodes : ∀ row ∈ rowsOf c table application, ∃ d, Descriptor.ofRow row = .ok d)
    {slot : UInt32} {datacenter rack : String} {row : Row} :
    row ∈ (c.rows table).filter (ofInstance application slot datacenter rack).selects ↔
      IsRecordFor table application c slot datacenter rack row ∧
        row.get? Column.slot.name = some (Numeral.write slot.toNat) := by
  rw [List.mem_filter]
  constructor
  · rintro ⟨hmem, hselects⟩
    obtain ⟨happlication, hslot, hdatacenter, -⟩ := ofInstance_selects_row_iff.mp hselects
    have hrow : row ∈ rowsOf c table application :=
      List.mem_filter.mpr ⟨hmem, beq_iff_eq.mpr happlication⟩
    obtain ⟨d, hrecord⟩ := hdecodes row hrow
    obtain ⟨-, hrack, hslot'⟩ := place_of_ofInstance_selects hselects hrecord
    obtain ⟨-, -, -, -, -, -, hdatacenter', -⟩ := Descriptor.fields_of_ofRow hrecord
    exact ⟨⟨hrow, d, hrecord, hslot', Option.some.inj (hdatacenter'.symm.trans hdatacenter),
      hrack⟩, hslot⟩
  · rintro ⟨⟨hrow, d, hrecord, rfl, rfl, rfl⟩, hplain⟩
    obtain ⟨hmem, happlication⟩ := List.mem_filter.mp hrow
    obtain ⟨-, -, hrack, -, -, -, hdatacenter, -⟩ := Descriptor.fields_of_ofRow hrecord
    exact ⟨hmem, ofInstance_selects_row_iff.mpr
      ⟨beq_iff_eq.mp happlication, hplain, hdatacenter, hrack⟩⟩

/-- **Lookups.** If all rows of an application hold a record, a key that is found is always that of
a row with a record for the place. But both ways to look up records agree exactly if each one has a
row in which the slot is written plainly. -/
theorem lookups_agree_iff_plainly_recorded
    (hdecodes : ∀ row ∈ rowsOf c table application, ∃ d, Descriptor.ofRow row = .ok d) :
    (∀ now slot datacenter rack key,
      (outcome now (key? table application slot datacenter rack) c).1 = .ok (some key) →
        ∃ row, IsRecordFor table application c slot datacenter rack row ∧ row.key = key) ∧
    (LookupsAgree table application c ↔ PlainlyRecorded table application c) := by
  have hsound : ∀ slot datacenter rack key, ((c.rows table).filter
      (ofInstance application slot datacenter rack).selects).head?.map Row.key = some key →
      ∃ row, IsRecordFor table application c slot datacenter rack row ∧ row.key = key := by
    intro slot datacenter rack key hfound
    obtain ⟨row, hhead, hkey⟩ := Option.map_eq_some_iff.mp hfound
    exact ⟨row, ((selected_iff_recorded hdecodes).mp (List.mem_of_head? hhead)).1, hkey⟩
  have hfound : ∀ slot datacenter rack, (((c.rows table).filter
      (ofInstance application slot datacenter rack).selects).head?.map Row.key).isSome = true ↔
      ∃ row, IsRecordFor table application c slot datacenter rack row ∧
        row.get? Column.slot.name = some (Numeral.write slot.toNat) := by
    intro slot datacenter rack
    rw [Option.isSome_map, List.isSome_head?]
    constructor
    · intro hne
      obtain ⟨row, hmem⟩ := List.exists_mem_of_ne_nil _ hne
      exact ⟨row, (selected_iff_recorded hdecodes).mp hmem⟩
    · rintro ⟨row, hrecorded⟩
      exact List.ne_nil_of_mem ((selected_iff_recorded hdecodes).mpr hrecorded)
  refine ⟨fun now slot datacenter rack key hkey => hsound _ _ _ _ ?_, fun h => ?_, fun h => ?_⟩
  · rw [outcome_key?] at hkey
    exact Except.ok.inj hkey
  · intro slot datacenter rack hrecorded
    obtain ⟨records, found, hrecords, hkey, hiff, -⟩ := h 0 slot datacenter rack
    rw [outcome_instances] at hrecords
    rw [outcome_key?] at hkey
    cases hrecords
    cases hkey
    exact (hfound _ _ _).mp (hiff.mpr (exists_listed_iff.mpr hrecorded))
  · intro now slot datacenter rack
    refine ⟨_, _, outcome_instances .., outcome_key? .., ?_, hsound slot datacenter rack⟩
    rw [hfound, exists_listed_iff]
    exact ⟨fun ⟨row, hrecorded, _⟩ => ⟨row, hrecorded⟩, h slot datacenter rack⟩

end Lookups

/-! ### A slot with a leading zero -/

/-- A machine for slot 7. -/
def seventh : Descriptor :=
  { application := "app", rack := "rack", slot := 7, instanceId := "i-1", hostname := "host",
    address := "10.0.0.1", datacenter := "east", zone := "zone", token := "0", volumes := ∅,
    updatedAt := none }

/-- A table with one record, the slot of which was written with a leading zero. -/
def zeroPadded : Contents :=
  (∅ : Contents).setRow "tokens" "app_rack_7"
    (some (seventh.toAttributes.set Column.slot.name (some "07")))

/-- The same table when the machine holds the lock of its identity. -/
def zeroPaddedLocked : Contents :=
  zeroPadded.setRow "locks" seventh.rowKey.lock
    (some (Dict.ofList [(seventh.instanceId, seventh.instanceId)]))

/-- The record is listed, but not found. A claim to the identity is told that it is recorded, yet
whoever gives it up is told that there is no record, and only the lock is gone after that. -/
theorem listed_but_not_found :
    (∀ row ∈ rowsOf zeroPadded "tokens" "app", Descriptor.ofRow row = .ok seventh) ∧
      (outcome 0 (instances "tokens" "app") zeroPadded).1 = .ok [seventh] ∧
      (outcome 0 (key? "tokens" "app" 7 "east" "rack") zeroPadded).1 = .ok none ∧
      (outcome 0 (Registry.create ⟨"tokens", ⟨"locks", .zero⟩⟩ seventh) zeroPaddedLocked).1 =
        .ok .alreadyExists ∧
      outcome 0 (Registry.delete ⟨"tokens", ⟨"locks", .zero⟩⟩ seventh) zeroPaddedLocked =
        (.ok .notFound, zeroPadded) ∧
      ¬ LookupsAgree "tokens" "app" zeroPadded := by
  have hlisted : (outcome 0 (instances "tokens" "app") zeroPadded).1 = .ok [seventh] := rfl
  have hnone : (outcome 0 (key? "tokens" "app" 7 "east" "rack") zeroPadded).1 = .ok none := rfl
  refine ⟨?_, hlisted, hnone, rfl, rfl, fun hagree => ?_⟩
  · have hrows : rowsOf zeroPadded "tokens" "app" =
        [⟨"app_rack_7", seventh.toAttributes.set Column.slot.name (some "07")⟩] := rfl
    rw [hrows, List.forall_mem_singleton]
    rfl
  · obtain ⟨records, found, hrecords, hkey, hiff, -⟩ := hagree 0 7 "east" "rack"
    obtain rfl := Except.ok.inj (hlisted.symm.trans hrecords)
    obtain rfl := Except.ok.inj (hnone.symm.trans hkey)
    -- the one record that is listed is for the place
    have hfound := hiff.mpr ⟨seventh, List.mem_singleton_self seventh, rfl, rfl, rfl⟩
    cases hfound

/-- A table where the same place is recorded plainly as well. -/
def twiceRecorded : Contents :=
  zeroPadded.setRow "tokens" "other" (some seventh.toAttributes)

theorem lookups_agree_beside_plain_row :
    (∀ row ∈ rowsOf twiceRecorded "tokens" "app", ∃ d, Descriptor.ofRow row = .ok d) ∧
      LookupsAgree "tokens" "app" twiceRecorded := by
  have hrows : rowsOf twiceRecorded "tokens" "app" =
      [⟨"app_rack_7", seventh.toAttributes.set Column.slot.name (some "07")⟩,
        ⟨"other", seventh.toAttributes⟩] := rfl
  have hall : ∀ row ∈ rowsOf twiceRecorded "tokens" "app", Descriptor.ofRow row = .ok seventh := by
    rw [hrows, List.forall_mem_cons, List.forall_mem_singleton]
    exact ⟨rfl, rfl⟩
  have hdecodes := fun row hmem => (⟨seventh, hall row hmem⟩ : ∃ d, Descriptor.ofRow row = .ok d)
  refine ⟨hdecodes, (lookups_agree_iff_plainly_recorded hdecodes).2.mpr ?_⟩
  rintro slot datacenter rack ⟨row, hmem, d, hrecord, hfor⟩
  obtain rfl := Except.ok.inj ((hall row hmem).symm.trans hrecord)
  obtain ⟨rfl, rfl, rfl⟩ := hfor
  refine ⟨⟨"other", seventh.toAttributes⟩, ⟨?_, seventh, rfl, rfl, rfl, rfl⟩, rfl⟩
  rw [hrows]
  exact List.mem_cons_of_mem _ (List.mem_singleton_self _)

end Roster

end ClusterIdentity
