import ClusterIdentity.Identity.Columns
import ClusterIdentity.Proofs.Identity.Keys
import ClusterIdentity.Claim.Roster

/-!
# Rows of records

A record that was written as a row is found by every query that it matches, and by no other.

## Main definitions

* `OnlyEntered`: a row has nothing but entries of contenders

## Main statements

* `Descriptor.get?_toAttributes`: the attributes of the row
* `Descriptor.ofRow_of_columns`, `Descriptor.ofRow_toAttributes`: the row holds a record of the
  same identity
* `Descriptor.fields_of_ofRow`, `Descriptor.place_of_ofRow`: what the record in a row is read off,
  and where it belongs
* `Descriptor.ofRow_ne_ok_of_onlyEntered`, `Roster.not_ofInstance_selects`: rows of entries hold no record
  and are not selected by a query for an instance
* `Roster.ofInstance_selects_iff`, `Roster.ofApplication_selects`: which queries select it
* `Roster.ofInstance_selects_row_iff`, `Roster.place_of_ofInstance_selects`: which rows a query for
  an instance selects, and the place of the record in them
-/

namespace ClusterIdentity

/-! ### Rows of entries -/

/-- Whether a row has nothing but entries: names of contenders that are their own values. -/
def OnlyEntered (row : Attributes) : Prop := ∀ name value, row.get? name = some value → value = name

theorem OnlyEntered.singleton (i : String) : OnlyEntered (Dict.singleton i i) := by
  intro name value hvalue
  rw [Dict.get?_singleton, Option.ite_none_right_eq_some] at hvalue
  exact (Option.some.inj hvalue.2).symm.trans hvalue.1

/-! ### Attribute names -/

theorem Column.name_injective : ∀ c c' : Column, c.name = c'.name → c = c' := by
  intro c c'
  cases c <;> cases c' <;> decide

/-- No column has the name of a volume. -/
theorem Column.name_ne_volumeAttribute (c : Column) (path : String) :
    c.name ≠ volumeAttribute path := by
  intro h
  have hhead : c.name.toList.take 10 = volumeStem.toList := by
    rw [h, volumeAttribute, String.toList_append]
    rfl
  revert hhead
  cases c <;> decide

/-- The volumes of different paths have different names. -/
theorem volumeAttribute_inj {path path' : String}
    (h : volumeAttribute path = volumeAttribute path') : path = path' :=
  (String.append_right_inj volumeStem).mp h

/-- A sequence succeeds only if its first part does. -/
theorem exists_ok_of_bind {ε α β : Type} {x : Except ε α} {f : α → Except ε β} {b : β}
    (h : x >>= f = .ok b) : ∃ a, x = .ok a ∧ f a = .ok b := by
  cases x with
  | error e => cases h
  | ok a => exact ⟨a, rfl, h⟩

theorem Row.get?_of_required {row : Row} {column : Column} {value : String}
    (h : row.required column = .ok value) : row.get? column.name = some value := by
  rw [Row.required] at h
  split at h
  · rename_i hvalue
    rw [hvalue, Except.ok.inj h]
  · cases h

namespace Descriptor

theorem unguarding_rowKey (d : Descriptor) : RowKey.Unguarding d.rowKey.text :=
  RowKey.unguarding_text_ofSlot d.application d.rack d.slot

/-- The entries of a record's row. -/
def entries (d : Descriptor) : List (String × String) :=
  d.columns.map (fun c => (c.1.name, c.2)) ++
    d.volumes.toList.map fun v => (volumeAttribute v.1, v.2)

theorem columns_pairwise (d : Descriptor) : d.columns.Pairwise fun a b => a.1 ≠ b.1 := by
  rw [columns]
  cases d.updatedAt <;> simp

theorem entries_pairwise (d : Descriptor) : d.entries.Pairwise fun a b => a.1 ≠ b.1 := by
  rw [entries, List.pairwise_append]
  refine ⟨?_, ?_, fun a ha b hb => ?_⟩
  · rw [List.pairwise_map]
    exact d.columns_pairwise.imp fun hne hname => hne (Column.name_injective _ _ hname)
  · -- the volumes of a record are told apart by their paths
    rw [List.pairwise_map]
    exact d.volumes.pairwise_ne.imp fun hne hname => hne (volumeAttribute_inj hname)
  · obtain ⟨column, -, rfl⟩ := List.mem_map.mp ha
    obtain ⟨volume, -, rfl⟩ := List.mem_map.mp hb
    exact Column.name_ne_volumeAttribute column.1 volume.1

/-- The row of a record has all its columns. -/
theorem get?_toAttributes {d : Descriptor} {column : Column} {value : String}
    (h : (column, value) ∈ d.columns) : d.toAttributes.get? column.name = some value := by
  refine Dict.get?_ofList_of_mem d.entries_pairwise (List.mem_append_left _ ?_)
  exact List.mem_map.mpr ⟨(column, value), h, rfl⟩

theorem get?_instanceId (d : Descriptor) :
    d.toAttributes.get? Column.instanceId.name = some d.instanceId :=
  get?_toAttributes (by simp [columns])

/-- A row that has all columns of a record holds a record of the same identity and machine, whatever
else is in it. -/
theorem ofRow_of_columns {d : Descriptor} {attributes : Attributes} (key : String)
    (h : ∀ column value, (column, value) ∈ d.columns →
      attributes.get? column.name = some value) :
    ofRow ⟨key, attributes⟩ =
      .ok { d with
        volumes := volumesOf attributes, updatedAt := timeOf ⟨key, attributes⟩ } := by
  have hrequired : ∀ column value, (column, value) ∈ d.columns →
      (⟨key, attributes⟩ : Row).required column = .ok value := by
    intro column value hmem
    rw [Row.required, Row.get?, h column value hmem]
  have hslot : (⟨key, attributes⟩ : Row).slot = .ok d.slot := by
    rw [Row.slot, hrequired .slot (Numeral.write d.slot.toNat) (by simp [columns])]
    simp only [Numeral.readUInt32?_write]
  have happlication := hrequired .application d.application (by simp [columns])
  have hrack := hrequired .rack d.rack (by simp [columns])
  have hinstance := hrequired .instanceId d.instanceId (by simp [columns])
  have hhostname := hrequired .hostname d.hostname (by simp [columns])
  have haddress := hrequired .address d.address (by simp [columns])
  have hdatacenter := hrequired .datacenter d.datacenter (by simp [columns])
  have hzone := hrequired .zone d.zone (by simp [columns])
  have htoken := hrequired .token d.token (by simp [columns])
  simp only [ofRow, hslot, happlication, hrack, hinstance, hhostname, haddress, hdatacenter,
    hzone, htoken, bind, Except.bind, pure, Except.pure]

/-- The row of a record holds a record of the same identity and machine. -/
theorem ofRow_toAttributes (d : Descriptor) (key : String) :
    ofRow ⟨key, d.toAttributes⟩ =
      .ok { d with
        volumes := volumesOf d.toAttributes, updatedAt := timeOf ⟨key, d.toAttributes⟩ } :=
  ofRow_of_columns key fun _ _ hmem => get?_toAttributes hmem

/-- The record in a row has what the row has in its columns. -/
theorem fields_of_ofRow {row : Row} {record : Descriptor} (h : ofRow row = .ok record) :
    row.slot = .ok record.slot ∧
      row.get? Column.application.name = some record.application ∧
      row.get? Column.rack.name = some record.rack ∧
      row.get? Column.instanceId.name = some record.instanceId ∧
      row.get? Column.hostname.name = some record.hostname ∧
      row.get? Column.address.name = some record.address ∧
      row.get? Column.datacenter.name = some record.datacenter ∧
      row.get? Column.zone.name = some record.zone ∧
      row.get? Column.token.name = some record.token ∧
      record.volumes = volumesOf row.attributes ∧ record.updatedAt = timeOf row := by
  rw [ofRow] at h
  obtain ⟨slot, hslot, h⟩ := exists_ok_of_bind h
  obtain ⟨application, happlication, h⟩ := exists_ok_of_bind h
  obtain ⟨rack, hrack, h⟩ := exists_ok_of_bind h
  obtain ⟨instanceId, hinstance, h⟩ := exists_ok_of_bind h
  obtain ⟨hostname, hhostname, h⟩ := exists_ok_of_bind h
  obtain ⟨address, haddress, h⟩ := exists_ok_of_bind h
  obtain ⟨datacenter, hdatacenter, h⟩ := exists_ok_of_bind h
  obtain ⟨zone, hzone, h⟩ := exists_ok_of_bind h
  obtain ⟨token, htoken, h⟩ := exists_ok_of_bind h
  cases h
  exact ⟨hslot, Row.get?_of_required happlication, Row.get?_of_required hrack,
    Row.get?_of_required hinstance, Row.get?_of_required hhostname,
    Row.get?_of_required haddress, Row.get?_of_required hdatacenter, Row.get?_of_required hzone,
    Row.get?_of_required htoken, rfl, rfl⟩

/-- The record in a row has the application and the rack that the row has, and its slot is the one
that is read off the row. -/
theorem place_of_ofRow {row : Row} {record : Descriptor} (h : ofRow row = .ok record) :
    row.get? Column.application.name = some record.application ∧
      row.get? Column.rack.name = some record.rack ∧ row.slot = .ok record.slot := by
  obtain ⟨hslot, happlication, hrack, -⟩ := fields_of_ofRow h
  exact ⟨happlication, hrack, hslot⟩

/-- A row of entries holds no record: the name of the slot's column is not a number. -/
theorem ofRow_ne_ok_of_onlyEntered {row : Row} (h : OnlyEntered row.attributes)
    (record : Descriptor) : ofRow row ≠ .ok record := by
  intro hrecord
  have hslot : row.slot = .ok record.slot := (fields_of_ofRow hrecord).1
  rw [Row.slot] at hslot
  split at hslot
  · cases hslot
  · rename_i text htext
    have hname : text = Column.slot.name := h _ _ (Row.get?_of_required htext)
    have hnone : Numeral.readUInt32? Column.slot.name = none := by decide
    rw [hname, hnone] at hslot
    cases hslot

end Descriptor

namespace Roster

/-- A query for one instance selects the rows that tell its place, with the slot as it is written by
the registry. -/
theorem ofInstance_selects_row_iff {application datacenter rack : String} {slot : UInt32}
    {row : Row} : (ofInstance application slot datacenter rack).selects row = true ↔
      row.attributes.get? Column.application.name = some application ∧
        row.attributes.get? Column.slot.name = some (Numeral.write slot.toNat) ∧
        row.attributes.get? Column.datacenter.name = some datacenter ∧
        row.attributes.get? Column.rack.name = some rack := by
  simp only [ofInstance, ofApplication, Filter.and, Filter.all, Filter.selects, Filter.accepts,
    List.nil_append, List.cons_append, List.all_cons, List.all_nil, Bool.and_true,
    Bool.and_eq_true, beq_iff_eq]

/-- Which records a query for one instance selects. -/
theorem ofInstance_selects_iff {application datacenter rack : String} {slot : UInt32}
    {d : Descriptor} {key : String} :
    (ofInstance application slot datacenter rack).selects ⟨key, d.toAttributes⟩ = true ↔
      d.application = application ∧ d.slot = slot ∧ d.datacenter = datacenter ∧ d.rack = rack := by
  have hget : ∀ column value, (column, value) ∈ d.columns →
      d.toAttributes.get? column.name = some value := fun _ _ => Descriptor.get?_toAttributes
  have hwrite : Numeral.write d.slot.toNat = Numeral.write slot.toNat ↔ d.slot = slot := by
    refine ⟨fun h => ?_, fun h => by rw [h]⟩
    have hread := Numeral.readUInt32?_write d.slot
    rw [h, Numeral.readUInt32?_write, Option.some.injEq] at hread
    exact hread.symm
  rw [ofInstance_selects_row_iff, ← hwrite]
  simp only [hget .application d.application (by simp [Descriptor.columns]),
    hget .slot _ (by simp [Descriptor.columns]; rfl),
    hget .datacenter d.datacenter (by simp [Descriptor.columns]),
    hget .rack d.rack (by simp [Descriptor.columns]), Option.some.injEq]

/-- A query for one instance selects only rows that tell its place. -/
theorem columns_of_ofInstance_selects {application datacenter rack : String} {slot : UInt32}
    {row : Row} (h : (ofInstance application slot datacenter rack).selects row = true) :
    row.attributes.get? Column.application.name = some application ∧
      row.attributes.get? Column.slot.name = some (Numeral.write slot.toNat) ∧
      row.attributes.get? Column.datacenter.name = some datacenter ∧
      row.attributes.get? Column.rack.name = some rack :=
  ofInstance_selects_row_iff.mp h

/-- The record in a row that a query for an instance selects is for the place that was asked for. -/
theorem place_of_ofInstance_selects {application datacenter rack : String} {slot : UInt32}
    {row : Row} (hselects : (ofInstance application slot datacenter rack).selects row = true)
    {record : Descriptor} (hrecord : Descriptor.ofRow row = .ok record) :
    record.application = application ∧ record.rack = rack ∧ record.slot = slot := by
  obtain ⟨happlication, hrack, hslot⟩ := Descriptor.place_of_ofRow hrecord
  obtain ⟨hselected, hnumeral, -, hrack'⟩ := columns_of_ofInstance_selects hselects
  have hread : row.slot = .ok slot := by
    rw [Row.slot, Row.required, Row.get?, hnumeral]
    simp only [Numeral.readUInt32?_write]
  exact ⟨Option.some.inj (happlication.symm.trans hselected),
    Option.some.inj (hrack.symm.trans hrack'), Except.ok.inj (hslot.symm.trans hread)⟩

/-- A query for all records of an application selects those. -/
theorem ofApplication_selects {d : Descriptor} {key : String} :
    (ofApplication d.application).selects ⟨key, d.toAttributes⟩ = true := by
  have hget : d.toAttributes.get? Column.application.name = some d.application :=
    Descriptor.get?_toAttributes (by simp [Descriptor.columns])
  simp [ofApplication, Filter.and, Filter.all, Filter.selects, Filter.accepts, hget]

/-- A query for one instance selects no row of entries: the name of the slot's column is not a
number. -/
theorem not_ofInstance_selects {application datacenter rack : String} {slot : UInt32} {row : Row}
    (h : OnlyEntered row.attributes) :
    (ofInstance application slot datacenter rack).selects row = false := by
  refine Bool.eq_false_iff.mpr fun hselects => ?_
  have hslot : row.attributes.get? Column.slot.name = some (Numeral.write slot.toNat) :=
    (columns_of_ofInstance_selects hselects).2.1
  have hread := Numeral.readUInt32?_write slot
  rw [h _ _ hslot] at hread
  -- the slot would have the name of its column as value
  have hnone : Numeral.readUInt32? Column.slot.name = none := by decide
  cases hnone.symm.trans hread

end Roster

end ClusterIdentity
