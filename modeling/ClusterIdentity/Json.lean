/-!
# JSON values

Descriptors, settings and the bodies of HTTP requests are JSON values. Whole numbers are kept
apart from all other numbers, because a field that holds a whole number does not accept `1.0`.
An object is the list of its members; of members with the same name the last one counts.

## Main definitions

* `Json`: values
* `Json.member?`: the member of an object
* `Json.string?`, `Json.uint32?`, `Json.uint64?`, `Json.stringMembers?`: typed reading
-/

namespace ClusterIdentity

inductive Json where
  | null
  | bool (value : Bool)
  /-- A number written without fraction and exponent. -/
  | integer (value : Int)
  /-- Any other number: `mantissa * 10 ^ exponent`. -/
  | decimal (mantissa exponent : Int)
  | string (value : String)
  | array (elements : List Json)
  | object (members : List (String × Json))
  deriving Inhabited

namespace Json

/-- The value of the last member of the name. -/
def lastMember? (name : String) (members : List (String × Json)) : Option Json :=
  (members.reverse.find? fun m => m.1 == name).map Prod.snd

/-- The named member, if the value is an object that has one. -/
def member? (name : String) : Json → Option Json
  | object members => lastMember? name members
  | _ => none

def string? : Json → Option String
  | string s => some s
  | _ => none

def bool? : Json → Option Bool
  | bool b => some b
  | _ => none

def nat? : Json → Option Nat
  | integer (.ofNat n) => some n
  | _ => none

/-- A whole number of at most 32 bits. -/
def uint32? (j : Json) : Option UInt32 :=
  match j.nat? with
  | some n => if h : n < UInt32.size then some (UInt32.ofNatLT n h) else none
  | none => none

/-- A whole number of at most 64 bits. -/
def uint64? (j : Json) : Option UInt64 :=
  match j.nat? with
  | some n => if h : n < UInt64.size then some (UInt64.ofNatLT n h) else none
  | none => none

def array? : Json → Option (List Json)
  | array elements => some elements
  | _ => none

def object? : Json → Option (List (String × Json))
  | object members => some members
  | _ => none

/-- The members of an object in which every value is a string. -/
def stringMembers? (j : Json) : Option (List (String × String)) :=
  j.object?.bind fun members => members.mapM fun m => m.2.string?.map (m.1, ·)

def ofNat (n : Nat) : Json := integer (.ofNat n)

/-- The value, or null if there is none. -/
def ofOption {α : Type} (f : α → Json) : Option α → Json
  | some a => f a
  | none => null

@[simp] theorem nat?_ofNat (n : Nat) : (ofNat n).nat? = some n := rfl

theorem uint32?_ofNat (n : UInt32) : (ofNat n.toNat).uint32? = some n := by
  have h : n.toNat < UInt32.size := n.toNat_lt
  simp [uint32?, h]

theorem uint64?_ofNat (n : UInt64) : (ofNat n.toNat).uint64? = some n := by
  have h : n.toNat < UInt64.size := n.toNat_lt
  simp [uint64?, h]

/-- An object of strings has these strings as its members. -/
theorem stringMembers?_object (members : List (String × String)) :
    (object (members.map fun m => (m.1, string m.2))).stringMembers? = some members := by
  show (members.map fun m => (m.1, string m.2)).mapM (fun m => m.2.string?.map (m.1, ·)) = _
  induction members with
  | nil => rfl
  | cons m members ih =>
    rw [List.map_cons, List.mapM_cons, ih]
    rfl

end Json

end ClusterIdentity
