import ClusterIdentity.Identity.Json
import ClusterIdentity.Proofs.Json.Fields

/-!
# Descriptors read from JSON

A descriptor reads back from the object that it is written as and from the array of its fields. In
the object its fields may come in any order and beside others. Volumes and time may be left out of
either form; an array ends before them.

## Main definitions

* `Descriptor.optionalNames`: the fields that may be left out
* `Descriptor.but`: a descriptor without some of them

## Main statements

* `Descriptor.ofJson?_of_gives`: whatever gives the fields of a descriptor reads as it
* `Descriptor.reads_back_from_json`
-/

namespace ClusterIdentity.Descriptor

open Json (Gives)

/-- The fields that may be left out. -/
def optionalNames : List String := ["volumes", "updated_at"]

/-- The members of the object that a descriptor is written as. -/
def members (d : Descriptor) : List (String × Json) := fieldNames.zip d.fieldValues

/-- The descriptor that is read if some fields are left out. -/
def but (d : Descriptor) (leftOut : List String) : Descriptor where
  __ := d
  volumes := if "volumes" ∈ leftOut then ∅ else d.volumes
  updatedAt := if "updated_at" ∈ leftOut then none else d.updatedAt

/-- The fields of a descriptor, of which some are not given. -/
def fieldsBut (d : Descriptor) (leftOut : List String) : List (String × Option Json) :=
  d.members.map fun m => (m.1, if m.1 ∈ leftOut then none else some m.2)

variable {d : Descriptor} {leftOut : List String}

theorem map_fst_fieldsBut (d : Descriptor) (leftOut : List String) :
    (d.fieldsBut leftOut).map Prod.fst = fieldNames := by
  rw [fieldsBut, List.map_map]
  rfl

theorem givenMembers_fieldsBut (d : Descriptor) (leftOut : List String) :
    Json.givenMembers (d.fieldsBut leftOut) = d.members.filter (·.1 ∉ leftOut) := by
  rw [fieldsBut, Json.givenMembers, List.filterMap_map, ← List.filterMap_eq_filter]
  congr 1
  funext m
  by_cases hm : m.1 ∈ leftOut <;> simp [hm, Option.guard]

/-! ### Single fields -/

theorem volumesOfJson?_object (volumes : Dict String String) :
    volumesOfJson? (some (.object (volumes.toList.map fun v => (v.1, .string v.2)))) =
      some volumes := by
  rw [volumesOfJson?, Json.stringMembers?_object, Option.map_some, Dict.ofList_toList]

theorem timeOfJson?_ofOption (time : Option UInt64) :
    timeOfJson? (some (.ofOption (fun t => .ofNat t.toNat) time)) = some time := by
  cases time with
  | none => rfl
  | some t =>
    show (Json.ofNat t.toNat).uint64?.map some = some (some t)
    rw [Json.uint64?_ofNat, Option.map_some]

section Fields

variable {j : Json} {i : Nat} {name : String} {value : Json}

/-- A field is found in what gives it. -/
theorem field?_of_gives (h : Gives (d.fieldsBut leftOut) j)
    (hi : d.members[i]? = some (name, value)) :
    j.field? name i = if name ∈ leftOut then none else some value := by
  have hnames : ((d.fieldsBut leftOut).map Prod.fst).Nodup := by
    rw [map_fst_fieldsBut]
    decide
  refine h.field?_eq hnames (f := (name, if name ∈ leftOut then none else some value)) ?_
  rw [fieldsBut, List.getElem?_map, hi, Option.map_some]

variable (hleftOut : ∀ name ∈ leftOut, name ∈ optionalNames) (h : Gives (d.fieldsBut leftOut) j)

include hleftOut h

theorem required_of_gives (hname : name ∉ optionalNames)
    (hi : d.members[i]? = some (name, value)) : j.field? name i = some value := by
  rw [field?_of_gives h hi, if_neg (mt (hleftOut name) hname)]

theorem text_of_gives {text : String} (hname : name ∉ optionalNames)
    (hi : d.members[i]? = some (name, .string text)) :
    (j.field? name i).bind Json.string? = some text := by
  rw [required_of_gives hleftOut h hname hi]
  rfl

theorem slot_of_gives : (j.field? "slot" 2).bind Json.uint32? = some d.slot := by
  rw [required_of_gives hleftOut h (by decide) rfl, Option.bind_some, Json.uint32?_ofNat]

omit hleftOut

theorem volumes_of_gives :
    volumesOfJson? (j.field? "volumes" 9) = some (d.but leftOut).volumes := by
  rw [field?_of_gives h rfl, but]
  split
  · rfl
  · exact volumesOfJson?_object d.volumes

theorem time_of_gives :
    timeOfJson? (j.field? "updated_at" 10) = some (d.but leftOut).updatedAt := by
  rw [field?_of_gives h rfl, but]
  split
  · rfl
  · exact timeOfJson?_ofOption d.updatedAt

end Fields

/-! ### All fields -/

/-- What gives the fields of a descriptor, but for some that may be left out, reads as the
descriptor without these. -/
theorem ofJson?_of_gives {j : Json} (hleftOut : ∀ name ∈ leftOut, name ∈ optionalNames)
    (h : Gives (d.fieldsBut leftOut) j) : ofJson? j = some (d.but leftOut) := by
  have hfields : ofJson? j = ofFields? j.field? :=
    h.read_eq (fun _ => rfl) fun _ hlength => if_pos hlength
  have htext : ∀ {i : Nat} {name text : String}, name ∉ optionalNames →
      d.members[i]? = some (name, .string text) →
        (j.field? name i).bind Json.string? = some text := text_of_gives hleftOut h
  rw [hfields, ofFields?]
  dsimp only
  rw [htext (i := 0) (by decide) rfl, htext (i := 1) (by decide) rfl, slot_of_gives hleftOut h,
    htext (i := 3) (by decide) rfl, htext (i := 4) (by decide) rfl,
    htext (i := 5) (by decide) rfl, htext (i := 6) (by decide) rfl,
    htext (i := 7) (by decide) rfl, htext (i := 8) (by decide) rfl, volumes_of_gives h,
    time_of_gives h]
  rfl

/-- The members of an object may come in any order and beside unknown ones. -/
theorem ofJson?_object {members unknown : List (String × Json)}
    (hleftOut : ∀ name ∈ leftOut, name ∈ optionalNames)
    (hunknown : ∀ m ∈ unknown, m.1 ∉ fieldNames)
    (hmembers : members.Perm (d.members.filter (·.1 ∉ leftOut) ++ unknown)) :
    ofJson? (.object members) = some (d.but leftOut) := by
  refine ofJson?_of_gives hleftOut (.object unknown ?_ ?_)
  · rwa [map_fst_fieldsBut]
  · rwa [givenMembers_fieldsBut]

/-- An array may end before the fields that may be left out. -/
theorem ofJson?_array (d : Descriptor) {n : Nat} (hn : n ≤ optionalNames.length) :
    ofJson? (.array (d.fieldValues.take (fieldNames.length - n))) =
      some (d.but (fieldNames.drop (fieldNames.length - n))) := by
  obtain rfl | rfl | rfl : n = 0 ∨ n = 1 ∨ n = 2 := by
    simp only [optionalNames, List.length_cons, List.length_nil] at hn
    omega
  · have h : Gives (d.fieldsBut []) (.array d.fieldValues) := .array 0 rfl
    exact ofJson?_of_gives (by decide) h
  · have h : Gives (d.fieldsBut ["updated_at"]) (.array (d.fieldValues.take 10)) := .array 1 rfl
    exact ofJson?_of_gives (by decide) h
  · have h : Gives (d.fieldsBut optionalNames) (.array (d.fieldValues.take 9)) := .array 2 rfl
    exact ofJson?_of_gives (by decide) h

theorem ofJson?_toJson (d : Descriptor) : ofJson? d.toJson = some d := by
  have h : Gives (d.fieldsBut []) d.toJson := .object [] (by simp) (.refl _)
  exact ofJson?_of_gives (by decide) h

/-- **Round trip.** A descriptor reads back from the object that it is written as and from the array
of its fields. The members of the object may be in any order and beside others of unknown names, and
either form may lack the time, or the volumes and the time; these are then none. An object may lack
the volumes alone. Any descriptor that was read, whatever it was read from, reads the same after it
was written. -/
theorem reads_back_from_json :
    (∀ d : Descriptor, ofJson? d.toJson = some d ∧ ofJson? d.toJsonArray = some d) ∧
    (∀ (d : Descriptor) (leftOut : List String) (members unknown : List (String × Json)),
      (∀ name ∈ leftOut, name ∈ optionalNames) → (∀ m ∈ unknown, m.1 ∉ fieldNames) →
      members.Perm (d.members.filter (·.1 ∉ leftOut) ++ unknown) →
      ofJson? (.object members) = some (d.but leftOut)) ∧
    (∀ d : Descriptor,
      ofJson? (.array (d.fieldValues.take 10)) = some { d with updatedAt := none } ∧
      ofJson? (.array (d.fieldValues.take 9)) =
        some { d with volumes := ∅, updatedAt := none }) ∧
    (∀ (j : Json) (d : Descriptor), ofJson? j = some d →
      ofJson? d.toJson = some d ∧ ofJson? d.toJsonArray = some d) := by
  have hboth : ∀ d : Descriptor, ofJson? d.toJson = some d ∧ ofJson? d.toJsonArray = some d :=
    fun d => ⟨ofJson?_toJson d, ofJson?_array d (n := 0) (Nat.zero_le _)⟩
  refine ⟨hboth, fun _ _ _ _ => ofJson?_object, fun d => ⟨?_, ?_⟩, fun _ d _ => hboth d⟩
  · exact ofJson?_array d (n := 1) (by decide)
  · exact ofJson?_array d (n := 2) (by decide)

/-- The members in reverse order behind an unknown one, without the time. -/
theorem reads_back_reversed :
    ofJson? (.object [("note", .null), ("volumes", .object [("/data", .string "vol")]),
        ("token", .string "0"), ("zone", .string "zone"), ("datacenter", .string "east"),
        ("address", .string "10.0.0.1"), ("hostname", .string "host"),
        ("instance_id", .string "a"), ("slot", .integer 7), ("rack", .string "rack"),
        ("application", .string "app")]) =
      some ⟨"app", "rack", 7, "a", "host", "10.0.0.1", "east", "zone", "0",
        Dict.singleton "/data" "vol", none⟩ := by
  let d : Descriptor := ⟨"app", "rack", 7, "a", "host", "10.0.0.1", "east", "zone", "0",
    Dict.singleton "/data" "vol", some 5⟩
  have hreversed := List.reverse_perm (d.members.filter (·.1 ∉ ["updated_at"]))
  exact reads_back_from_json.2.1 d ["updated_at"] _ [("note", .null)] (by decide) (by decide)
    ((hreversed.cons _).trans (List.perm_append_singleton _ _).symm)

end ClusterIdentity.Descriptor
