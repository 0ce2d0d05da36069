import Mathlib.Data.List.Basic
import ClusterIdentity.Proofs.Identity.Records

/-!
# Records and their attributes

The attributes of a record tell the record, whatever its fields and the paths of its volumes are:
columns and volumes share one map, but no name stands for two of them.

## Main statements

* `volumePath?_eq_some_iff`: which names stand for volumes
* `Descriptor.get?_volumesOf`: the volumes among some attributes
* `Descriptor.get?_column`, `Descriptor.get?_volumeAttribute`: the attributes of a record one by one
* `Descriptor.ofRow_toAttributes_self`: they hold the record that they were made of
* `Descriptor.toAttributes_tell_record`
-/

namespace ClusterIdentity

/-- A name stands for a volume exactly if it is the name of that volume's attribute. -/
theorem volumePath?_eq_some_iff {name path : String} :
    volumePath? name = some path ↔ name = volumeAttribute path := by
  rw [volumePath?, Option.map_eq_some_iff]
  simp only [List.isPrefixOf?_eq_some_iff_append_eq]
  constructor
  · rintro ⟨rest, hname, rfl⟩
    apply String.ext
    rw [volumeAttribute, String.toList_append, String.toList_ofList, hname]
  · rintro rfl
    exact ⟨path.toList, (String.toList_append ..).symm, String.ofList_toList⟩

namespace Descriptor

/-! ### Volumes -/

/-- The volumes that some attributes stand for are told apart by their paths. -/
theorem volumes_pairwise (attributes : Attributes) :
    (attributes.toList.filterMap fun a => (volumePath? a.1).map (·, a.2)).Pairwise
      fun v w => v.1 ≠ w.1 := by
  refine List.pairwise_filterMap.mpr
    (attributes.pairwise_ne.imp fun {a b} hne v hv w hw hpath => ?_)
  obtain ⟨path, ha, rfl⟩ := Option.map_eq_some_iff.mp hv
  obtain ⟨path', hb, rfl⟩ := Option.map_eq_some_iff.mp hw
  obtain rfl : path = path' := hpath
  exact hne ((volumePath?_eq_some_iff.mp ha).trans (volumePath?_eq_some_iff.mp hb).symm)

/-- The volume at a path is the attribute with its name. -/
theorem get?_volumesOf (attributes : Attributes) (path : String) :
    (volumesOf attributes).get? path = attributes.get? (volumeAttribute path) := by
  refine Option.ext fun volume => ?_
  rw [volumesOf, Dict.get?_ofList_eq_some_iff (volumes_pairwise attributes), List.mem_filterMap,
    ← Dict.mem_toList_iff]
  constructor
  · rintro ⟨⟨name, value⟩, hmem, hvolume⟩
    obtain ⟨_, hpath, heq⟩ := Option.map_eq_some_iff.mp hvolume
    cases heq
    rwa [← volumePath?_eq_some_iff.mp hpath]
  · intro hmem
    refine ⟨_, hmem, ?_⟩
    rw [volumePath?_eq_some_iff.mpr rfl, Option.map_some]

/-! ### Attributes of a record -/

/-- The attributes of a record are its entries, none of which hides another. -/
theorem get?_toAttributes_eq_some_iff {d : Descriptor} {name value : String} :
    d.toAttributes.get? name = some value ↔ (name, value) ∈ d.entries :=
  Dict.get?_ofList_eq_some_iff d.entries_pairwise

/-- The value of a column of a record, if the record has the column. -/
def column? (d : Descriptor) (column : Column) : Option String := Dict.lookup column d.columns

theorem column?_eq_some_iff {d : Descriptor} {column : Column} {value : String} :
    d.column? column = some value ↔ (column, value) ∈ d.columns :=
  ⟨Dict.mem_of_lookup, Dict.lookup_of_mem d.columns_pairwise⟩

/-- The attribute with the name of a column is that column. -/
theorem get?_column (d : Descriptor) (column : Column) :
    d.toAttributes.get? column.name = d.column? column := by
  refine Option.ext fun value => ?_
  rw [get?_toAttributes_eq_some_iff, column?_eq_some_iff, entries, List.mem_append]
  constructor
  · rintro (hmem | hmem)
    · obtain ⟨⟨column', _⟩, hcolumn, heq⟩ := List.mem_map.mp hmem
      obtain ⟨hname, rfl⟩ := Prod.mk.inj heq
      exact Column.name_injective column' column hname ▸ hcolumn
    · obtain ⟨volume, -, heq⟩ := List.mem_map.mp hmem
      exact (Column.name_ne_volumeAttribute column _ (Prod.mk.inj heq).1.symm).elim
  · exact fun hmem => .inl (List.mem_map.mpr ⟨_, hmem, rfl⟩)

/-- The attribute with the name of a volume is that volume. -/
theorem get?_volumeAttribute (d : Descriptor) (path : String) :
    d.toAttributes.get? (volumeAttribute path) = d.volumes.get? path := by
  refine Option.ext fun volume => ?_
  rw [get?_toAttributes_eq_some_iff, ← Dict.mem_toList_iff, entries, List.mem_append]
  constructor
  · rintro (hmem | hmem)
    · obtain ⟨column, -, heq⟩ := List.mem_map.mp hmem
      exact (Column.name_ne_volumeAttribute column.1 path (Prod.mk.inj heq).1).elim
    · obtain ⟨⟨path', _⟩, hvolume, heq⟩ := List.mem_map.mp hmem
      obtain ⟨hname, rfl⟩ := Prod.mk.inj heq
      exact volumeAttribute_inj hname ▸ hvolume
  · exact fun hmem => .inr (List.mem_map.mpr ⟨_, hmem, rfl⟩)

theorem volumesOf_toAttributes (d : Descriptor) : volumesOf d.toAttributes = d.volumes :=
  Dict.ext_get? fun path => by rw [get?_volumesOf, get?_volumeAttribute]

theorem timeOf_toAttributes (d : Descriptor) (key : String) :
    timeOf ⟨key, d.toAttributes⟩ = d.updatedAt := by
  rw [timeOf, Row.get?, get?_column, column?, columns]
  cases d.updatedAt with
  | none => rfl
  | some t => exact Numeral.readUInt64?_write t

/-- A record reads back from its row, whatever the key of the row is. -/
theorem ofRow_toAttributes_self (d : Descriptor) (key : String) :
    ofRow ⟨key, d.toAttributes⟩ = .ok d := by
  rw [ofRow_toAttributes, volumesOf_toAttributes, timeOf_toAttributes]

theorem toAttributes_inj {d d' : Descriptor} (h : d.toAttributes = d'.toAttributes) : d = d' := by
  have hread := ofRow_toAttributes_self d ""
  rw [h, ofRow_toAttributes_self, Except.ok.injEq] at hread
  exact hread.symm

/-- **Round trip.** A record reads back from its attributes under any key, so that different records
have different attributes. No column has the name of a volume, and each attribute is the column or
the volume that its name stands for: none is written over by another or taken for one. -/
theorem toAttributes_tell_record :
    (∀ (d : Descriptor) (key : String), ofRow ⟨key, d.toAttributes⟩ = .ok d) ∧
      Function.Injective toAttributes ∧
      (∀ (column : Column) (path : String), column.name ≠ volumeAttribute path) ∧
      ∀ d : Descriptor, (∀ column, d.toAttributes.get? column.name = d.column? column) ∧
        ∀ path, d.toAttributes.get? (volumeAttribute path) = d.volumes.get? path :=
  ⟨ofRow_toAttributes_self, fun _ _ h => toAttributes_inj h, Column.name_ne_volumeAttribute,
    fun d => ⟨d.get?_column, d.get?_volumeAttribute⟩⟩

/-- Volumes at the empty path, at a path with the name of a column and at one that starts like the
name of a volume. -/
example : ofRow ⟨"key", toAttributes ⟨"app", "rack", 4294967295, "Id", "", "ssVolumes_", "east",
      "zone", "0", Dict.ofList [("", "a"), ("Id", "b"), ("ssVolumes_Id", "c")],
      some 18446744073709551615⟩⟩ =
    .ok ⟨"app", "rack", 4294967295, "Id", "", "ssVolumes_", "east", "zone", "0",
      Dict.ofList [("", "a"), ("Id", "b"), ("ssVolumes_Id", "c")], some 18446744073709551615⟩ := by
  rfl

end Descriptor

end ClusterIdentity
