import ClusterIdentity.Dynamo.Item

/-!
# Shapes of answers

The service's answers are JSON objects whose members have fixed names and types. A shape says what
a part of an answer may be. Everything that has a name in the shape has to fit it, also members
that are given twice and members that nobody looks at afterwards; everything else is skipped.

## Main definitions

* `Shape`: texts, numbers, lists, maps, records
* `Shape.accepts`: whether something written has a shape
* `Shape.isBeyondReals`: whether a text stands for infinity or for no number
* `lastMember?`: the member that counts among those of a name

## Design notes

How deep an answer may be nested depends on what is skipped of it, so `Shape.accepts` counts the
levels. `levels` is how many arrays and objects may be nested in each other from where it stands.
-/

namespace ClusterIdentity.Dynamo

/-- What a part of an answer may be. -/
inductive Shape where
  | text
  | flag
  /-- A signed integer of so many bits. -/
  | integer (bits : Nat)
  /-- A floating-point number, infinity or no number. -/
  | real
  /-- A point in time, in seconds. -/
  | time
  /-- The typed value of an attribute. -/
  | typed
  /-- An array in which every element has a shape. -/
  | list (element : Shape)
  /-- An object in which every value has a shape. -/
  | map (value : Shape)
  /-- An object whose members have names of their own. Each of them may be null or left out. -/
  | record (members : List (String × Shape))

namespace Shape

/-- The words for infinity and for no number, in small letters. -/
def beyondReals : List String := ["inf", "infinity", "nan"]

/-- The text without its sign, if it has one. -/
def unsigned : List Char → List Char
  | '+' :: rest | '-' :: rest => rest
  | cs => cs

/-- Whether the text stands for infinity or for no number: after at most one sign it is a word for
that, in letters of any case, or a number whose size is out of range. -/
def isBeyondReals (s : String) : Bool :=
  let cs := unsigned s.toList
  beyondReals.contains (String.ofList (cs.map Char.toLower)) ||
    match Json.Written.number? cs with
    | some (n, []) => cs.head? != some '-' && !n.isFinite
    | _ => false

def acceptsNumber (n : Json.Number) : Shape → Bool
  | integer bits => n.isInteger bits
  | real | time => n.isFinite
  | _ => false

def acceptsString (inside : List Char) : Shape → Bool
  | text => (Json.unescape? inside).isSome
  | real => (Json.unescape? inside).any isBeyondReals
  | _ => false

/-- The shape of the members of a name in a record. -/
def member? (name : String) (members : List (String × Shape)) : Option Shape :=
  (members.find? fun m => m.1 == name).map Prod.snd

mutual

/-- Whether something written has the shape. -/
def accepts (levels : Nat) (shape : Shape) : Json.Written → Bool
  | .null => false
  | .bool _ =>
    match shape with
    | flag => true
    | _ => false
  | .number n => shape.acceptsNumber n
  | .string inside => shape.acceptsString inside
  | .array elements =>
    match levels, shape with
    | levels + 1, list element => acceptsElements levels element elements
    | _, _ => false
  | .object members =>
    match levels, shape with
    | levels + 1, map value => acceptsValues levels value members
    | levels + 1, record shapes => acceptsMembers levels shapes members
    | levels, typed => (AttributeValue.ofWritten? levels (.object members)).isSome
    | _, _ => false

def acceptsElements (levels : Nat) (shape : Shape) : List Json.Written → Bool
  | [] => true
  | w :: rest => shape.accepts levels w && acceptsElements levels shape rest

/-- Whether all values in a map have the shape. -/
def acceptsValues (levels : Nat) (shape : Shape) : List (List Char × Json.Written) → Bool
  | [] => true
  | (name, w) :: rest =>
    (Json.unescape? name).isSome && shape.accepts levels w && acceptsValues levels shape rest

/-- Whether all members of a record that have a shape have it or are null. -/
def acceptsMembers (levels : Nat) (shapes : List (String × Shape)) :
    List (List Char × Json.Written) → Bool
  | [] => true
  | (name, w) :: rest =>
    (match Json.unescape? name with
      | none => false
      | some name =>
        match member? name shapes, w with
        | none, w => isSkippable w
        | some _, .null => true
        | some shape, w => shape.accepts levels w) &&
    acceptsMembers levels shapes rest

end

/-- An item, or the key of one. -/
def item : Shape := map typed

end Shape

/-- The last member of the name, unless it is null. -/
def lastMember? (name : String) (members : List (List Char × Json.Written)) :
    Option Json.Written :=
  match members.reverse.find? fun m => Json.unescape? m.1 == some name with
  | none => none
  | some (_, .null) => none
  | some (_, w) => some w

end ClusterIdentity.Dynamo
