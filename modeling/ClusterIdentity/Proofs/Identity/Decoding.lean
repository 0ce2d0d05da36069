import ClusterIdentity.Proofs.Identity.Numerals
import ClusterIdentity.Proofs.Identity.RoundTrip

/-!
# Which rows hold a record

A row holds a record exactly if it has none of the defects that are checked for. Otherwise it is
the first of them, in the order of the checks, that is reported. What is neither a column nor a
volume does not matter, and neither does a time that cannot be read.

## Main definitions

* `Defect.Of`, `Defect.checked`, `FirstDefect`: the defects that a row may have, in order
* `Row.AgreesOn`: two rows with the same key, volumes and columns of a list
* `Checks`: what a check of a row for some defects comes to
* `HoldsRecord`: a row has a record in it

## Main statements

* `Descriptor.checks_ofRow`: reading a row checks for all defects in turn
* `Descriptor.ofRow_of_agreesOn`: what reading a row depends on
* `Descriptor.accepts_exactly_wellFormed_rows`
-/

namespace ClusterIdentity

/-! ### Defects -/

/-- The columns besides the slot that a row must have, in the order in which they are checked. -/
def Column.texts : List Column :=
  [.application, .rack, .instanceId, .hostname, .address, .datacenter, .zone, .token]

/-- Whether a row has a defect. Only slots have to be integers, and those fit 32 bits. -/
def Defect.Of (row : Row) : Defect → Prop
  | .missing column => row.get? column.name = none
  | .notAnInteger column => ∃ text, row.get? column.name = some text ∧
      ∀ n, Numeral.Denotes text n → UInt32.size ≤ n

/-- The defects that a row is checked for, in order. -/
def Defect.checked : List Defect :=
  .missing .slot :: .notAnInteger .slot :: Column.texts.map .missing

/-- Whether a defect is the first one of a list that a row has. -/
def FirstDefect (row : Row) (defects : List Defect) (defect : Defect) : Prop :=
  ∃ before after, defects = before ++ defect :: after ∧ defect.Of row ∧
    ∀ other ∈ before, ¬ other.Of row

theorem FirstDefect.append {row : Row} {defects : List Defect} {defect : Defect}
    (h : FirstDefect row defects defect) (more : List Defect) :
    FirstDefect row (defects ++ more) defect := by
  obtain ⟨before, after, rfl, hof, hbefore⟩ := h
  exact ⟨before, after ++ more, by rw [List.append_assoc, List.cons_append], hof, hbefore⟩

theorem FirstDefect.after {row : Row} {defects : List Defect} {defect : Defect}
    (h : FirstDefect row defects defect) {passed : List Defect}
    (hpassed : ∀ other ∈ passed, ¬ other.Of row) : FirstDefect row (passed ++ defects) defect := by
  obtain ⟨before, after, rfl, hof, hbefore⟩ := h
  refine ⟨passed ++ before, after, (List.append_assoc ..).symm, hof, fun other hmem => ?_⟩
  exact (List.mem_append.mp hmem).elim (hpassed other) (hbefore other)

theorem FirstDefect.exists_mem {row : Row} {defects : List Defect} {defect : Defect}
    (h : FirstDefect row defects defect) : ∃ other ∈ defects, other.Of row := by
  obtain ⟨before, after, rfl, hof, -⟩ := h
  exact ⟨defect, List.mem_append_right _ (List.mem_cons_self ..), hof⟩

/-- Of two places in a list one is before the other, unless they are the same. -/
theorem FirstDefect.unique {row : Row} {defects : List Defect} {defect defect' : Defect}
    (h : FirstDefect row defects defect) (h' : FirstDefect row defects defect') :
    defect = defect' := by
  obtain ⟨before, after, rfl, hof, hbefore⟩ := h
  obtain ⟨before', after', heq, hof', hbefore'⟩ := h'
  rcases List.append_eq_append_iff.mp heq with ⟨middle, rfl, hrest⟩ | ⟨middle, rfl, hrest⟩
  · cases middle with
    | nil => exact (List.cons.inj hrest).1
    | cons head rest =>
      obtain ⟨rfl, -⟩ := List.cons.inj hrest
      exact (hbefore' defect (List.mem_append_right _ (List.mem_cons_self ..)) hof).elim
  · cases middle with
    | nil => exact (List.cons.inj hrest).1.symm
    | cons head rest =>
      obtain ⟨rfl, -⟩ := List.cons.inj hrest
      exact (hbefore defect' (List.mem_append_right _ (List.mem_cons_self ..)) hof').elim

/-! ### Checks -/

/-- What a check of a row for some defects comes to: success only if the row has none of them, and
failure only with the first one that it has. -/
structure Checks (row : Row) (defects : List Defect) {α : Type} (x : Except MalformedRecord α) :
    Prop where
  passed : ∀ a, x = .ok a → ∀ defect ∈ defects, ¬ defect.Of row
  failed : ∀ e, x = .error e → e.key = row.key ∧ FirstDefect row defects e.defect

namespace Checks

variable {row : Row} {α β : Type}

theorem done (a : α) : Checks row [] (.ok a) :=
  ⟨fun _ _ _ hmem => (List.not_mem_nil hmem).elim, nofun⟩

/-- One check after another. -/
theorem bind {defects defects' : List Defect} {x : Except MalformedRecord α}
    {f : α → Except MalformedRecord β} (hx : Checks row defects x)
    (hf : ∀ a, x = .ok a → Checks row defects' (f a)) :
    Checks row (defects ++ defects') (x >>= f) := by
  cases x with
  | error e =>
    refine ⟨nofun, fun e' he' => ?_⟩
    cases he'
    exact ⟨(hx.failed e rfl).1, (hx.failed e rfl).2.append defects'⟩
  | ok a =>
    have hpassed := hx.passed a rfl
    refine ⟨fun b hb defect hmem => ?_, fun e he => ?_⟩
    · exact (List.mem_append.mp hmem).elim (hpassed defect) ((hf a rfl).passed b hb defect)
    · exact ⟨((hf a rfl).failed e he).1, ((hf a rfl).failed e he).2.after hpassed⟩

theorem required (row : Row) (column : Column) :
    Checks row [.missing column] (row.required column) := by
  rw [Row.required]
  split
  · rename_i value hvalue
    refine ⟨fun _ _ defect hmem hof => ?_, fun _ he => (by cases he)⟩
    rw [List.mem_singleton.mp hmem, Defect.Of, hvalue] at hof
    cases hof
  · rename_i hnone
    refine ⟨fun _ ha => (by cases ha), fun e he => ?_⟩
    cases he
    exact ⟨rfl, [], [], rfl, hnone, fun _ hmem => (List.not_mem_nil hmem).elim⟩

/-- A text that is not the slot's numeral is one of a number that is too large, or of none. -/
theorem slot (row : Row) : Checks row [.missing .slot, .notAnInteger .slot] row.slot := by
  have hslot : row.slot = row.required .slot >>= fun text =>
      (Numeral.readUInt32? text).elim (.error ⟨row.key, .notAnInteger .slot⟩) .ok := by
    cases hrequired : row.required .slot with
    | error e =>
      rw [Row.slot, hrequired]
      rfl
    | ok text =>
      rw [Row.slot, hrequired]
      change _ = (Numeral.readUInt32? text).elim _ _
      cases hread : Numeral.readUInt32? text <;> simp only [hread] <;> rfl
  rw [hslot]
  change Checks row ([.missing .slot] ++ [.notAnInteger .slot]) _
  refine (required row .slot).bind fun text htext => ?_
  have hget : row.get? Column.slot.name = some text := Row.get?_of_required htext
  cases hread : Numeral.readUInt32? text with
  | some slot =>
    refine ⟨fun _ _ defect hmem hof => ?_, fun _ he => (by cases he)⟩
    rw [List.mem_singleton.mp hmem] at hof
    obtain ⟨text', hget', hlarge⟩ := hof
    rw [hget, Option.some.injEq] at hget'
    have hdenotes := Numeral.readUInt32?_eq_some_iff.mp hread
    exact absurd slot.toNat_lt (Nat.not_lt.mpr (hlarge _ (hget' ▸ hdenotes)))
  | none =>
    refine ⟨fun _ ha => (by cases ha), fun e he => ?_⟩
    cases he
    refine ⟨rfl, [], [], rfl, ⟨text, hget, fun n hdenotes => ?_⟩,
      fun _ hmem => (List.not_mem_nil hmem).elim⟩
    refine Nat.le_of_not_lt fun hlt => ?_
    have hread' : Numeral.readUInt32? text = some (UInt32.ofNatLT n hlt) :=
      Numeral.readUInt32?_eq_some_iff.mpr (by rwa [UInt32.toNat_ofNatLT])
    rw [hread] at hread'
    cases hread'

variable {defects : List Defect} {x : Except MalformedRecord α}

theorem exists_ok_iff (h : Checks row defects x) :
    (∃ a, x = .ok a) ↔ ∀ defect ∈ defects, ¬ defect.Of row := by
  refine ⟨fun ⟨a, ha⟩ => h.passed a ha, fun hnone => ?_⟩
  cases x with
  | ok a => exact ⟨a, rfl⟩
  | error e =>
    obtain ⟨defect, hmem, hof⟩ := (h.failed e rfl).2.exists_mem
    exact (hnone defect hmem hof).elim

theorem error_iff (h : Checks row defects x) (e : MalformedRecord) :
    x = .error e ↔ e.key = row.key ∧ FirstDefect row defects e.defect := by
  refine ⟨h.failed e, fun ⟨hkey, hfirst⟩ => ?_⟩
  cases x with
  | ok a =>
    obtain ⟨defect, hmem, hof⟩ := hfirst.exists_mem
    exact (h.passed a rfl defect hmem hof).elim
  | error e' =>
    obtain ⟨hkey', hfirst'⟩ := h.failed e' rfl
    obtain ⟨key, defect⟩ := e
    obtain ⟨key', defect'⟩ := e'
    obtain rfl : key' = key := hkey'.trans hkey.symm
    obtain rfl : defect' = defect := hfirst'.unique hfirst
    rfl

end Checks

/-! ### Rows -/

/-- Whether two rows have the same key, the same volumes and the same columns of a list. -/
structure Row.AgreesOn (columns : List Column) (row row' : Row) : Prop where
  key : row'.key = row.key
  columns : ∀ column ∈ columns, row'.get? column.name = row.get? column.name
  volumes : ∀ path, row'.get? (volumeAttribute path) = row.get? (volumeAttribute path)

theorem Row.exists_of_slot {row : Row} {slot : UInt32} (h : row.slot = .ok slot) :
    ∃ text, row.get? Column.slot.name = some text ∧ Numeral.readUInt32? text = some slot := by
  rw [Row.slot] at h
  split at h
  · cases h
  · rename_i text hrequired
    split at h
    · rename_i hread
      exact ⟨text, Row.get?_of_required hrequired, hread.trans (congrArg some (Except.ok.inj h))⟩
    · cases h

theorem Row.AgreesOn.required {columns : List Column} {row row' : Row}
    (h : row.AgreesOn columns row') {column : Column} (hmem : column ∈ columns) :
    row'.required column = row.required column := by
  rw [Row.required, Row.required, h.columns column hmem, h.key]

/-- A row has none of the defects exactly if it has a slot that fits and the other columns. -/
theorem Defect.none_checked_iff {row : Row} :
    (∀ defect ∈ checked, ¬ defect.Of row) ↔
      (∃ text n, row.get? Column.slot.name = some text ∧ Numeral.Denotes text n ∧
          n < UInt32.size) ∧
        ∀ column ∈ Column.texts, ∃ value, row.get? column.name = some value := by
  rw [checked, List.forall_mem_cons, List.forall_mem_cons, List.forall_mem_map, ← and_assoc]
  refine and_congr ⟨?_, ?_⟩ (forall₂_congr fun column _ => Option.ne_none_iff_exists')
  · rintro ⟨hmissing, hinteger⟩
    obtain ⟨text, hget⟩ := Option.ne_none_iff_exists'.mp hmissing
    refine Classical.byContradiction fun hnone => hinteger ⟨text, hget, fun n hdenotes => ?_⟩
    exact Nat.le_of_not_lt fun hlt => hnone ⟨text, n, hget, hdenotes, hlt⟩
  · rintro ⟨text, n, hget, hdenotes, hlt⟩
    refine ⟨fun hnone => ?_, fun ⟨text', hget', hlarge⟩ => ?_⟩
    · cases hget.symm.trans hnone
    · rw [hget, Option.some.injEq] at hget'
      exact Nat.not_lt.mpr (hlarge n (hget' ▸ hdenotes)) hlt

/-- The record in a row: what the row tells about it, and what of the row is written again with it,
which is all that a record needs. -/
structure HoldsRecord (row : Row) (record : Descriptor) : Prop where
  slot : ∃ text, row.get? Column.slot.name = some text ∧ Numeral.Denotes text record.slot.toNat
  time : ∀ t, record.updatedAt = some t ↔
    ∃ text, row.get? Column.updatedAt.name = some text ∧ Numeral.Denotes text t.toNat
  texts : ∀ column ∈ Column.texts,
    record.toAttributes.get? column.name = row.get? column.name
  volumes : ∀ path,
    record.toAttributes.get? (volumeAttribute path) = row.get? (volumeAttribute path)
  again : ∀ key, Descriptor.ofRow ⟨key, record.toAttributes⟩ = .ok record

namespace Descriptor

/-- A row is checked for all the defects, in order, before there is a record. -/
theorem checks_ofRow (row : Row) : Checks row Defect.checked (ofRow row) := by
  rw [ofRow]
  refine (Checks.slot row).bind fun _ _ => ?_
  refine (Checks.required row .application).bind fun _ _ => ?_
  refine (Checks.required row .rack).bind fun _ _ => ?_
  refine (Checks.required row .instanceId).bind fun _ _ => ?_
  refine (Checks.required row .hostname).bind fun _ _ => ?_
  refine (Checks.required row .address).bind fun _ _ => ?_
  refine (Checks.required row .datacenter).bind fun _ _ => ?_
  refine (Checks.required row .zone).bind fun _ _ => ?_
  exact (Checks.required row .token).bind fun _ _ => Checks.done _

/-- The time at which a row was written goes nowhere but into the time of the record, and nothing
but the columns and the volumes of the row goes into the record at all. -/
theorem ofRow_of_agreesOn {row row' : Row} (h : row.AgreesOn (.slot :: Column.texts) row') :
    ofRow row' = (ofRow row).map fun record => { record with updatedAt := timeOf row' } := by
  have hslot : row'.slot = row.slot := by
    rw [Row.slot, Row.slot, h.required (List.mem_cons_self ..), h.key]
  have htext : ∀ column ∈ Column.texts, row'.required column = row.required column :=
    fun column hmem => h.required (List.mem_cons_of_mem _ hmem)
  have hvolumes : volumesOf row'.attributes = volumesOf row.attributes :=
    Dict.ext_get? fun path => by
      rw [get?_volumesOf, get?_volumesOf]
      exact h.volumes path
  change _ = (fun record : Descriptor => { record with updatedAt := timeOf row' }) <$> ofRow row
  rw [ofRow, ofRow, hslot, htext .application (by decide), htext .rack (by decide),
    htext .instanceId (by decide), htext .hostname (by decide), htext .address (by decide),
    htext .datacenter (by decide), htext .zone (by decide), htext .token (by decide), hvolumes]
  simp only [map_bind, map_pure]

/-- Rows that agree on all columns and volumes read alike. -/
theorem ofRow_congr {row row' : Row}
    (h : row.AgreesOn (.slot :: .updatedAt :: Column.texts) row') : ofRow row' = ofRow row := by
  have htime : timeOf row' = timeOf row := by
    rw [timeOf, timeOf, h.columns .updatedAt (by decide)]
  have hsub : ∀ column ∈ Column.slot :: Column.texts,
      column ∈ Column.slot :: Column.updatedAt :: Column.texts := by decide
  have hothers : row.AgreesOn (.slot :: Column.texts) row' :=
    ⟨h.key, fun column hmem => h.columns column (hsub column hmem), h.volumes⟩
  rw [ofRow_of_agreesOn hothers, htime]
  cases hrow : ofRow row with
  | error e => rfl
  | ok record =>
    obtain ⟨-, -, -, -, -, -, -, -, -, -, hupdated⟩ := fields_of_ofRow hrow
    rw [Except.map, ← hupdated]

/-- The time in a row is what its numeral denotes. -/
theorem timeOf_eq_some_iff {row : Row} {t : UInt64} :
    timeOf row = some t ↔
      ∃ text, row.get? Column.updatedAt.name = some text ∧ Numeral.Denotes text t.toNat := by
  rw [timeOf, Option.bind_eq_some_iff]
  exact exists_congr fun text => and_congr_right fun _ => Numeral.readUInt64?_eq_some_iff

theorem holdsRecord_of_ofRow {row : Row} {record : Descriptor} (h : ofRow row = .ok record) :
    HoldsRecord row record := by
  obtain ⟨hslot, happlication, hrack, hinstance, hhostname, haddress, hdatacenter, hzone, htoken,
    hvolumes, htime⟩ := fields_of_ofRow h
  refine ⟨?_, fun t => ?_, ?_, fun path => ?_, record.ofRow_toAttributes_self⟩
  · obtain ⟨text, hget, hread⟩ := Row.exists_of_slot hslot
    exact ⟨text, hget, Numeral.readUInt32?_eq_some_iff.mp hread⟩
  · rw [htime, timeOf_eq_some_iff]
  · simp only [Column.texts, List.forall_mem_cons, List.not_mem_nil, false_imp_iff, implies_true,
      get?_column, column?, happlication, hrack, hinstance, hhostname, haddress, hdatacenter, hzone,
      htoken, and_true]
    exact ⟨rfl, rfl, rfl, rfl, rfl, rfl, rfl, rfl⟩
  · rw [get?_volumeAttribute, hvolumes, get?_volumesOf]
    rfl

/-- **Acceptance.** A row holds a record exactly if its slot is a numeral that fits 32 bits and no
other column but the time is missing. Otherwise the error names the key of the row and the first
defect in the order of the checks. Rows with the same columns and volumes read alike; if they differ
in their times only the records do so, and a time that is absent, no numeral or too large is none.
The record has the columns and volumes of the row, and reads back from what is written for it. -/
theorem accepts_exactly_wellFormed_rows (row : Row) :
    ((∃ record, ofRow row = .ok record) ↔
        (∃ text n, row.get? Column.slot.name = some text ∧ Numeral.Denotes text n ∧
            n < UInt32.size) ∧
          ∀ column ∈ Column.texts, ∃ value, row.get? column.name = some value) ∧
      (∀ e, ofRow row = .error e ↔ e.key = row.key ∧ FirstDefect row Defect.checked e.defect) ∧
      (∀ row', row.AgreesOn (.slot :: .updatedAt :: Column.texts) row' → ofRow row' = ofRow row) ∧
      (∀ row', row.AgreesOn (.slot :: Column.texts) row' →
        ofRow row' = (ofRow row).map fun record => { record with updatedAt := timeOf row' }) ∧
      ∀ record, ofRow row = .ok record → HoldsRecord row record :=
  ⟨(checks_ofRow row).exists_ok_iff.trans Defect.none_checked_iff, (checks_ofRow row).error_iff,
    fun _ => ofRow_congr, fun _ => ofRow_of_agreesOn, fun _ => holdsRecord_of_ofRow⟩

/-- A slot with a sign and leading zeros and a time that is no numeral are both well formed. -/
theorem accepts_signed_slot : ∃ row record, row.get? Column.slot.name = some "+007" ∧
    row.get? Column.updatedAt.name = some "soon" ∧ ofRow row = .ok record ∧
      HoldsRecord row record := by
  have hread : ofRow ⟨"app_rack_7", Dict.ofList [("Id", "+007"), ("appId", "app"),
      ("datacenter", "rack"), ("instanceId", "i-1"), ("hostname", "host"),
      ("elasticIP", "10.0.0.1"), ("location", "east"), ("availabilityZone", "zone"),
      ("token", "0"), ("updatetime", "soon"), ("ssVolumes_/data", "v-1"), ("color", "red")]⟩ =
    .ok ⟨"app", "rack", 7, "i-1", "host", "10.0.0.1", "east", "zone", "0",
      Dict.ofList [("/data", "v-1")], none⟩ := by rfl
  obtain ⟨-, -, -, -, htells⟩ := accepts_exactly_wellFormed_rows _
  exact ⟨_, _, by rfl, by rfl, hread, htells _ hread⟩

end Descriptor

end ClusterIdentity
