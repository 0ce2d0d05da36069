import ClusterIdentity.Proofs.Dynamo.Service
import ClusterIdentity.Table.Contents

/-!
# Items and rows

An item corresponds to a row if it has the key and the attributes of the row, all of them texts.
An item of which only the key is left corresponds to no row, and so does no item at all; nothing
that a store is asked for tells the two apart.

## Main definitions

* `Item.Holds`: an item has a key and attributes, and nothing else
* `Mirrors`: what is at a place of the service corresponds to what is at that of a store
* `Corresponds`: a service and the contents of a store correspond at every place

## Main statements

* `Mirrors.toRow?`: what is read of a place
* `Mirrors.allows_eq`: conditions hold for an item exactly if they do for the row
* `Mirrors.assigned`, `Mirrors.removed`: changes of an item and of the row correspond again
-/

namespace ClusterIdentity

/-- The attribute that a condition is about. -/
def Condition.name : Condition → String
  | equals name _ => name
  | present name => name
  | absent name => name

namespace Dynamo

open Expression

/-- The item has the key and the attributes, and nothing else. -/
structure Item.Holds (item : Item) (key : String) (attributes : Attributes) : Prop where
  key : item.get? keyAttribute = some (.text key)
  unnamed : attributes.get? keyAttribute = none
  others : ∀ name, name ≠ keyAttribute →
    item.get? name = (attributes.get? name).map .text

/-- What is at a place of the service corresponds to what is at that of a store. -/
inductive Mirrors (key : String) : Option Item → Option Attributes → Prop
  | missing : Mirrors key none none
  /-- Only the key of an item is left. -/
  | bare {item : Item} (hitem : item.Holds key ∅) : Mirrors key (some item) none
  | full {item : Item} {attributes : Attributes} (hitem : item.Holds key attributes)
    (hne : attributes.isEmpty = false) : Mirrors key (some item) (some attributes)

/-! ### Single items -/

theorem Item.holds_ofKey (key : String) : (Item.ofKey key).Holds key ∅ := by
  refine ⟨Dict.get?_singleton .., rfl, fun name hname => ?_⟩
  rw [Item.ofKey, Dict.get?_singleton, if_neg hname.symm]
  rfl

/-- The attributes that are read of an item are its texts and numbers, but for the key. -/
theorem Item.get?_attributes (item : Item) (name : String) :
    item.attributes.get? name =
      if name = keyAttribute then none else (item.get? name).bind AttributeValue.string? := by
  have hentries : (item.toList.filterMap fun e =>
      if e.1 = keyAttribute then none else e.2.string?.map (e.1, ·)).Pairwise
        fun a b => a.1 ≠ b.1 := by
    refine item.pairwise_ne.filterMap _ fun a b hab a' ha b' hb => ?_
    simp only [Option.ite_none_left_eq_some, Option.map_eq_some_iff] at ha hb
    obtain ⟨-, _, -, rfl⟩ := ha
    obtain ⟨-, _, -, rfl⟩ := hb
    exact hab
  refine Option.ext fun value => ?_
  rw [Item.attributes, Dict.get?_ofList_eq_some_iff hentries, List.mem_filterMap]
  simp only [Option.ite_none_left_eq_some, Option.map_eq_some_iff, Prod.mk.injEq,
    Option.bind_eq_some_iff]
  constructor
  · rintro ⟨⟨name', v⟩, hmem, hname, text, htext, rfl, rfl⟩
    exact ⟨hname, v, Dict.mem_toList_iff.mp hmem, htext⟩
  · rintro ⟨hname, v, hv, htext⟩
    exact ⟨(name, v), Dict.mem_toList_iff.mpr hv, hname, value, htext, rfl, rfl⟩

/-- An item has a text or a number besides its key. -/
def Item.HasAttribute (item : Item) : Prop :=
  ∃ name value, name ≠ keyAttribute ∧ item.get? name = some value ∧ value.string?.isSome = true

theorem Item.isEmpty_attributes_iff {item : Item} :
    item.attributes.isEmpty = false ↔ item.HasAttribute := by
  rw [← Bool.not_eq_true, Dict.isEmpty_iff, Classical.not_forall]
  refine exists_congr fun name => ?_
  rw [← ne_eq, Option.ne_none_iff_exists', get?_attributes]
  simp only [Option.ite_none_left_eq_some, Option.bind_eq_some_iff, Option.isSome_iff_exists]
  constructor
  · rintro ⟨text, hname, value, hvalue, htext⟩
    exact ⟨value, hname, hvalue, text, htext⟩
  · rintro ⟨value, hname, hvalue, text, htext⟩
    exact ⟨text, hname, value, hvalue, htext⟩

/-- An item is read as a row if it has a text as its key, and a text or a number besides. The row
has all of these. -/
theorem Item.toRow?_eq_some_iff {item : Item} {row : Row} : item.toRow? = some row ↔
    item.get? keyAttribute = some (.text row.key) ∧ item.HasAttribute ∧
      ∀ name, row.get? name =
        if name = keyAttribute then none else (item.get? name).bind AttributeValue.string? := by
  have hattributes : (∀ name, row.get? name =
      if name = keyAttribute then none else (item.get? name).bind AttributeValue.string?) ↔
      row.attributes = item.attributes := by
    simp only [← get?_attributes]
    exact ⟨Dict.ext_get?, fun h name => by rw [Row.get?, h]⟩
  rw [hattributes, toRow?, ← isEmpty_attributes_iff]
  obtain ⟨key, attributes⟩ := row
  split
  · rename_i key' hkey
    rw [hkey]
    cases item.attributes.isEmpty <;> simp [eq_comm]
  · rename_i hkey
    simp only [reduceCtorEq, false_iff]
    exact fun h => hkey key h.1

namespace Item.Holds

variable {item : Item} {key : String} {attributes : Attributes} (h : item.Holds key attributes)

include h

/-- What is read of the item are its attributes. -/
theorem attributes_eq : item.attributes = attributes := by
  refine Dict.ext_get? fun name => ?_
  rw [Item.get?_attributes]
  by_cases hname : name = keyAttribute
  · rw [if_pos hname, hname, h.unnamed]
  · rw [if_neg hname, h.others name hname]
    cases attributes.get? name <;> rfl

theorem toRow?_eq : item.toRow? = if attributes.isEmpty then none else some ⟨key, attributes⟩ := by
  rw [Item.toRow?, h.key, h.attributes_eq]

/-- The item corresponds to a row exactly if it has attributes. -/
theorem mirrors :
    Mirrors key (some item) (if attributes.isEmpty then none else some attributes) := by
  split
  · rename_i hempty
    refine .bare ((?_ : attributes = ∅) ▸ h)
    exact Dict.ext_get? (Dict.isEmpty_iff.mp hempty)
  · rename_i hne
    exact .full h (by simpa using hne)

theorem assigned {new : Attributes} (hnew : new.get? keyAttribute = none) :
    (item.updated (.assign new.toList)).Holds key (attributes.overlay new) := by
  have hget : ∀ name, (item.updated (.assign new.toList)).get? name =
      ((new.get? name).map .text).or (item.get? name) := by
    intro name
    have hne : (new.toList.map fun e => (e.1, AttributeValue.text e.2)).Pairwise
        fun a b => a.1 ≠ b.1 := new.pairwise_ne.map _ fun _ _ hab => hab
    have hfold := Dict.get?_foldl_insert item name hne
    rwa [List.foldl_map, Dict.lookup_map] at hfold
  refine ⟨?_, ?_, fun name hname => ?_⟩
  · rw [hget, hnew]
    exact h.key
  · rw [Dict.get?_overlay, hnew, h.unnamed]
    rfl
  · rw [hget, Dict.get?_overlay, h.others name hname]
    cases new.get? name <;> rfl

theorem removed {names : List String} (hnames : keyAttribute ∉ names) :
    (item.updated (.remove names)).Holds key (attributes.eraseAll names) := by
  refine ⟨?_, ?_, fun name hname => ?_⟩
  · rw [Item.updated, Dict.get?_eraseAll, if_neg hnames]
    exact h.key
  · rw [Dict.get?_eraseAll, if_neg hnames]
    exact h.unnamed
  · rw [Item.updated, Dict.get?_eraseAll, Dict.get?_eraseAll, h.others name hname]
    split <;> rfl

end Item.Holds

/-! ### Places -/

namespace Mirrors

variable {key : String} {item? : Option Item} {row? : Option Attributes}
  (h : Mirrors key item? row?)

include h

/-- A place that is changed holds the attributes of the row, if only by being made. -/
theorem holds : (item?.getD (.ofKey key)).Holds key (row?.getD ∅) := by
  cases h with
  | missing => exact Item.holds_ofKey key
  | bare hitem => exact hitem
  | full hitem hne => exact hitem

theorem toRow?_eq : item?.bind Item.toRow? = row?.map (⟨key, ·⟩) := by
  cases h with
  | missing => rfl
  | bare hitem => exact hitem.toRow?_eq
  | full hitem hne =>
    rw [Option.bind_some, hitem.toRow?_eq, hne]
    rfl

/-- Attributes other than the key are there or not at both places. -/
theorem get?_eq {name : String} (hname : name ≠ keyAttribute) :
    (item?.getD ∅).get? name = (row?.bind (·.get? name)).map .text := by
  cases h with
  | missing => rfl
  | bare hitem => exact hitem.others name hname
  | full hitem hne => exact hitem.others name hname

/-- A condition holds for an item exactly if it does for the row. -/
theorem satisfies_eq {c : Condition} (hc : c.name ≠ keyAttribute) :
    (item?.getD ∅).satisfies c = c.holds row? := by
  cases c with
  | equals name value =>
    have hget : (item?.getD ∅).get? name = _ := h.get?_eq hc
    rw [Item.satisfies, hget, Condition.holds]
    cases row?.bind (·.get? name) <;> rfl
  | present name =>
    have hget : (item?.getD ∅).get? name = _ := h.get?_eq hc
    rw [Item.satisfies, hget, Condition.holds, Option.isSome_map]
  | absent name =>
    have hget : (item?.getD ∅).get? name = _ := h.get?_eq hc
    rw [Item.satisfies, hget, Condition.holds, Option.isNone_map]

/-- A change of an item is carried out exactly if the change of the row is. -/
theorem allows_eq {condition : Option Condition}
    (hcondition : ∀ c ∈ condition, c.name ≠ keyAttribute) :
    condition.toList.all (item?.getD ∅).satisfies = Condition.allows condition row? := by
  cases condition with
  | none => rfl
  | some c =>
    rw [Option.toList_some, List.all_cons, List.all_nil, Bool.and_true,
      h.satisfies_eq (hcondition c rfl)]
    rfl

theorem assigned {new : Attributes} (hnew : new.get? keyAttribute = none)
    (hne : new.isEmpty = false) :
    Mirrors key (some ((item?.getD (.ofKey key)).updated (.assign new.toList)))
      (some (Contents.written row? new)) :=
  .full (h.holds.assigned hnew) (Dict.isEmpty_overlay hne)

theorem removed {names : List String} (hnames : keyAttribute ∉ names) :
    Mirrors key (some ((item?.getD (.ofKey key)).updated (.remove names)))
      (Contents.remaining row? (.attributes names)) := by
  have hitem := (h.holds.removed hnames).mirrors
  cases hrow : row? with
  | none =>
    rw [hrow, Option.getD_none, Dict.empty_eraseAll] at hitem
    exact hitem
  | some attributes =>
    rw [hrow] at hitem
    exact hitem

end Mirrors

section Corresponds

variable [KeyOrder ItemId]

/-- A service and the contents of a store correspond at every place. -/
def Corresponds (s : Service) (contents : Contents) : Prop :=
  ∀ table key, Mirrors key (s.item? table key) (contents.row? table key)

theorem Service.item?_setItem (s : Service) (t k t₀ k₀ : String) (item? : Option Item) :
    (s.setItem t k item?).item? t₀ k₀ = if t = t₀ ∧ k = k₀ then item? else s.item? t₀ k₀ := by
  simp [Service.setItem, Service.item?, Dict.get?_set]

/-- A row has an item. -/
theorem Corresponds.exists_item {s : Service} {contents : Contents} (h : Corresponds s contents)
    {table key : String} {attributes : Attributes}
    (hrow : contents.row? table key = some attributes) : ∃ item, s.item? table key = some item := by
  have hplace := h table key
  rw [hrow] at hplace
  cases hitem : s.item? table key with
  | none =>
    rw [hitem] at hplace
    cases hplace
  | some item => exact ⟨item, rfl⟩

/-- Corresponding changes of one place keep correspondence. -/
theorem Corresponds.set {s : Service} {contents : Contents} (h : Corresponds s contents)
    {key : String} {item? : Option Item} {row? : Option Attributes} (table : String)
    (hplace : Mirrors key item? row?) :
    Corresponds (s.setItem table key item?) (contents.setRow table key row?) := by
  intro t k
  rw [Service.item?_setItem, Contents.row?_setRow]
  split
  · rename_i heq
    exact heq.2 ▸ hplace
  · exact h t k

end Corresponds

end Dynamo

end ClusterIdentity
