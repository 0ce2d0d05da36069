import Mathlib.Data.List.Nodup
import ClusterIdentity.Json

/-!
# Fields of JSON values

A record is read from an object, in which its fields are found by name, or from an array, in which
they are found by index. The members of an object may come in any order and among members of other
names; an array may end before the last field.

## Main definitions

* `Json.field?`: the field of a name and an index
* `Json.Gives`: a value gives some of the fields of a record and leaves the others out

## Main statements

* `Json.lastMember?_eq_some_iff`: a member whose name is not repeated is found
* `Json.Gives.read_eq`: a record is read from the fields
* `Json.Gives.field?_eq`: what is found is what was given
-/

namespace ClusterIdentity.Json

/-- The field of a record that has a name in objects and an index in arrays. -/
def field? : Json → String → Nat → Option Json
  | object members, name, _ => lastMember? name members
  | array values, _, index => values[index]?
  | _, _, _ => none

/-- The members of an object for those fields that are given. -/
def givenMembers (fields : List (String × Option Json)) : List (String × Json) :=
  fields.filterMap fun f => f.2.map (f.1, ·)

/-- A value gives those fields that have something to be given, in an object or in an array. -/
inductive Gives (fields : List (String × Option Json)) : Json → Prop where
  /-- The members are those of the fields and others of other names, in any order. -/
  | object {members : List (String × Json)} (others : List (String × Json))
      (hothers : ∀ m ∈ others, m.1 ∉ fields.map Prod.fst)
      (hmembers : members.Perm (givenMembers fields ++ others)) : Gives fields (object members)
  /-- The fields are listed in order, up to some that are left out at the end. -/
  | array {values : List Json} (leftOut : Nat)
      (hvalues : fields.map Prod.snd = values.map some ++ List.replicate leftOut none) :
      Gives fields (array values)

/-! ### Members -/

theorem lastMember?_eq_none_iff {name : String} {members : List (String × Json)} :
    lastMember? name members = none ↔ ∀ m ∈ members, m.1 ≠ name := by
  simp [lastMember?]

/-- If all members of a name have the same value, it is found. -/
theorem lastMember?_eq_some_iff {name : String} {v : Json} {members : List (String × Json)}
    (hunique : ∀ m ∈ members, m.1 = name → m.2 = v) :
    lastMember? name members = some v ↔ (name, v) ∈ members := by
  constructor
  · intro h
    obtain ⟨m, hfound, rfl⟩ := Option.map_eq_some_iff.mp h
    have hname : m.1 = name := by simpa using List.find?_some hfound
    have hmem : m ∈ members := List.mem_reverse.mp (List.mem_of_find?_eq_some hfound)
    exact hname ▸ hmem
  · intro hmem
    cases h : lastMember? name members with
    | none => exact (lastMember?_eq_none_iff.mp h _ hmem rfl).elim
    | some w =>
      obtain ⟨m, hfound, rfl⟩ := Option.map_eq_some_iff.mp h
      have hname : m.1 = name := by simpa using List.find?_some hfound
      rw [hunique m (List.mem_reverse.mp (List.mem_of_find?_eq_some hfound)) hname]

/-- Of two groups of members the second one counts first. -/
@[simp] theorem lastMember?_append (name : String) (members others : List (String × Json)) :
    lastMember? name (members ++ others) =
      (lastMember? name others).or (lastMember? name members) := by
  rw [lastMember?, List.reverse_append, List.find?_append, Option.map_or]
  rfl

theorem mem_givenMembers {fields : List (String × Option Json)} {name : String} {v : Json} :
    (name, v) ∈ givenMembers fields ↔ (name, some v) ∈ fields := by
  rw [givenMembers, List.mem_filterMap]
  constructor
  · rintro ⟨⟨name', given⟩, hmem, hgiven⟩
    obtain ⟨w, hw, heq⟩ := Option.map_eq_some_iff.mp hgiven
    cases heq
    exact hw ▸ hmem
  · exact fun hmem => ⟨_, hmem, rfl⟩

namespace Gives

variable {fields : List (String × Option Json)} {j : Json}

/-- An array has no more elements than there are fields. -/
theorem length_le {values : List Json} (h : Gives fields (.array values)) :
    values.length ≤ fields.length := by
  obtain - | ⟨_, hvalues⟩ := h
  have hlength := congrArg List.length hvalues
  simp only [List.length_map, List.length_append, List.length_replicate] at hlength
  omega

/-- A record that is read from the fields of objects, and of arrays with no more elements than it
has fields, is read from what gives its fields. -/
theorem read_eq {α : Type} {read : Json → α} {ofFields : (String → Nat → Option Json) → α}
    (h : Gives fields j)
    (hobject : ∀ members, read (.object members) = ofFields (Json.object members).field?)
    (harray : ∀ values : List Json, values.length ≤ fields.length →
      read (.array values) = ofFields (Json.array values).field?) :
    read j = ofFields j.field? := by
  cases h with
  | object _ _ _ => exact hobject _
  | array _ hvalues => exact harray _ (Gives.array _ hvalues).length_le

/-- Each field is found if it was given, and not found if it was left out. -/
theorem field?_eq (h : Gives fields j) (hnames : (fields.map Prod.fst).Nodup) {i : Nat}
    {f : String × Option Json} (hf : fields[i]? = some f) : j.field? f.1 i = f.2 := by
  obtain ⟨name, given⟩ := f
  have hfield : (name, given) ∈ fields := List.mem_of_getElem? hf
  cases h with
  | @object members _ hothers hmembers =>
    -- a member of the name is the one that was given, since no other has that name
    have honly : ∀ m ∈ members, m.1 = name → given = some m.2 := by
      rintro ⟨_, w⟩ hmem rfl
      rcases List.mem_append.mp (hmembers.mem_iff.mp hmem) with hin | hin
      · exact (Prod.mk.inj (List.inj_on_of_nodup_map hnames hfield
          (mem_givenMembers.mp hin) rfl)).2
      · exact (hothers _ hin (List.mem_map.mpr ⟨_, hfield, rfl⟩)).elim
    cases given with
    | none => exact lastMember?_eq_none_iff.mpr fun m hmem hm => nomatch honly m hmem hm
    | some v =>
      refine (lastMember?_eq_some_iff fun m hmem hm => ?_).mpr ?_
      · exact (Option.some.inj (honly m hmem hm)).symm
      · exact hmembers.mem_iff.mpr (List.mem_append_left _ (mem_givenMembers.mpr hfield))
  | @array values leftOut hvalues =>
    have hgiven : (values.map some ++ List.replicate leftOut none)[i]? = some given := by
      rw [← hvalues, List.getElem?_map, hf, Option.map_some]
    show values[i]? = given
    by_cases hi : i < values.length
    · rw [List.getElem?_append_left (by simpa using hi), List.getElem?_map] at hgiven
      rw [List.getElem?_eq_getElem hi] at hgiven ⊢
      exact Option.some.inj hgiven
    · have hnone : (none : Option Json) = given := by
        rw [List.getElem?_append_right (by simpa using hi), List.getElem?_replicate] at hgiven
        split at hgiven
        · exact Option.some.inj hgiven
        · cases hgiven
      rw [← hnone, List.getElem?_eq_none (Nat.le_of_not_lt hi)]

end Gives

end ClusterIdentity.Json
