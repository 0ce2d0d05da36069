import ClusterIdentity.Dict
import ClusterIdentity.Json
import ClusterIdentity.Dynamo.Nesting
import ClusterIdentity.Table.Row
import ClusterIdentity.Text.Base64

/-!
# Items

A DynamoDB table holds items, which are maps from attribute names to typed values. The tables
used here have a text attribute as their key. An item is read as a row if it has at least one
text or number besides its key: DynamoDB keeps an item of which only the key is left, while a
store has no row without attributes to offer.

On the wire a value is an object with one member, named for the type of the value. Values of a
type that is not known here are received, but cannot be sent.

## Main definitions

* `AttributeValue`, `Item`
* `AttributeValue.toJson`, `AttributeValue.ofWritten?`: values on the wire
* `AttributeValue.isKnown`: whether a value can be sent
* `Item.ofKey`, `Item.toRow?`
-/

namespace ClusterIdentity.Dynamo

inductive AttributeValue where
  | text (value : String)
  /-- A number in its written form. -/
  | number (value : String)
  /-- Bytes, written in base 64. -/
  | binary (encoding : String)
  | textSet (values : List String)
  | numberSet (values : List String)
  | binarySet (encodings : List String)
  | bool (value : Bool)
  | null (value : Bool)
  | list (elements : List AttributeValue)
  | map (entries : List (String × AttributeValue))
  | unknown

/-- The attributes of an item, its key among them. -/
abbrev Item := Dict String AttributeValue

def keyAttribute : String := "key"

namespace AttributeValue

/-- The text of a text or a number. -/
def string? : AttributeValue → Option String
  | text s | number s => some s
  | _ => none

/-! ### Sending -/

mutual

/-- Whether the value and all values in it are of known types. -/
def isKnown : AttributeValue → Bool
  | unknown => false
  | list elements => areKnown elements
  | map entries => haveKnown entries
  | _ => true

def areKnown : List AttributeValue → Bool
  | [] => true
  | v :: rest => v.isKnown && areKnown rest

/-- Whether the values of all entries are of known types. -/
def haveKnown : List (String × AttributeValue) → Bool
  | [] => true
  | e :: rest => e.2.isKnown && haveKnown rest

end

def single (type : String) (value : Json) : Json := .object [(type, value)]

def strings (values : List String) : Json := .array (values.map .string)

mutual

/-- The value as an object. One of an unknown type has no member. -/
def toJson : AttributeValue → Json
  | text s => single "S" (.string s)
  | number s => single "N" (.string s)
  | binary s => single "B" (.string s)
  | textSet values => single "SS" (strings values)
  | numberSet values => single "NS" (strings values)
  | binarySet values => single "BS" (strings values)
  | bool b => single "BOOL" (.bool b)
  | null b => single "NULL" (.bool b)
  | list elements => single "L" (.array (elementsJson elements))
  | map entries => single "M" (.object (entriesJson entries))
  | unknown => .object []

def elementsJson : List AttributeValue → List Json
  | [] => []
  | v :: rest => v.toJson :: elementsJson rest

/-- The entries with their values as objects. -/
def entriesJson : List (String × AttributeValue) → List (String × Json)
  | [] => []
  | e :: rest => (e.1, e.2.toJson) :: entriesJson rest

end

/-! ### Receiving -/

def writtenText? : Json.Written → Option String
  | .string inside => Json.unescape? inside
  | _ => none

/-- The bytes that a written string stands for, in base 64. Escapes have no place there. -/
def writtenBytes? : Json.Written → Option String
  | .string inside => if Base64.isEncoding inside then some (String.ofList inside) else none
  | _ => none

/-- A value of a named type that is neither a list nor a map. `levels` is how many arrays and
objects may be nested in each other from here on. -/
def scalar? (levels : Nat) (type : String) (value : Json.Written) : Option AttributeValue :=
  if type = "S" then (writtenText? value).map text
  else if type = "N" then (writtenText? value).map number
  else if type = "B" then (writtenBytes? value).map binary
  else if type = "BOOL" then
    match value with
    | .bool b => some (bool b)
    | _ => none
  else if type = "NULL" then
    match value with
    | .bool b => some (null b)
    | _ => none
  else if type = "SS" ∨ type = "NS" ∨ type = "BS" then
    match levels, value with
    | _ + 1, .array elements =>
      if type = "SS" then (elements.mapM writtenText?).map textSet
      else if type = "NS" then (elements.mapM writtenText?).map numberSet
      else (elements.mapM writtenBytes?).map binarySet
    | _, _ => none
  else if type = "L" ∨ type = "M" then none
  else if isSkippable value then some unknown
  else none

mutual

/-- Reads a value: an object in which one member counts, the one named for the type. `levels` is
how many arrays and objects may be nested in each other. -/
def ofWritten? (levels : Nat) : Json.Written → Option AttributeValue
  | .object members => if levels = 0 then none else typed? (levels - 1) none members
  | _ => none

/-- Goes on reading the members after some value was found or none. Members that are null, and a
member `__type`, do not count. -/
def typed? (levels : Nat) (found : Option AttributeValue) :
    List (List Char × Json.Written) → Option AttributeValue
  | [] => found
  | (_, .null) :: rest => typed? levels found rest
  | (name, value) :: rest =>
    match Json.unescape? name with
    | none => none
    | some type =>
      if type = "__type" then if isSkippable value then typed? levels found rest else none
      else if found.isSome then none
      else
        match ofType? levels type value with
        | some v => typed? levels (some v) rest
        | none => none

def ofType? (levels : Nat) (type : String) : Json.Written → Option AttributeValue
  | .array elements =>
    if type = "L" ∧ levels ≠ 0 then (ofElements? (levels - 1) elements).map list
    else scalar? levels type (.array elements)
  | .object members =>
    if type = "M" ∧ levels ≠ 0 then
      (ofMembers? (levels - 1) members).map fun entries => map (Dict.ofList entries).toList
    else scalar? levels type (.object members)
  | value => scalar? levels type value

def ofElements? (levels : Nat) : List Json.Written → Option (List AttributeValue)
  | [] => some []
  | w :: rest =>
    match ofWritten? levels w, ofElements? levels rest with
    | some v, some vs => some (v :: vs)
    | _, _ => none

def ofMembers? (levels : Nat) :
    List (List Char × Json.Written) → Option (List (String × AttributeValue))
  | [] => some []
  | (name, w) :: rest =>
    match Json.unescape? name, ofWritten? levels w, ofMembers? levels rest with
    | some name, some v, some entries => some ((name, v) :: entries)
    | _, _, _ => none

end

end AttributeValue

namespace Item

/-- The item of which only the key is given. -/
def ofKey (key : String) : Item := Dict.singleton keyAttribute (.text key)

/-- The attributes of the item that are texts or numbers, without the key. -/
def attributes (item : Item) : Attributes :=
  Dict.ofList (item.toList.filterMap fun e =>
    if e.1 = keyAttribute then none else e.2.string?.map (e.1, ·))

/-- The item as a row, if it has a text as its key and any attribute besides. -/
def toRow? (item : Item) : Option Row :=
  match item.get? keyAttribute with
  | some (.text key) =>
    if item.attributes.isEmpty then none else some ⟨key, item.attributes⟩
  | _ => none

def isKnown (item : Item) : Bool := item.toList.all fun e => e.2.isKnown

def toJson (item : Item) : Json := .object (AttributeValue.entriesJson item.toList)

/-- Reads an item. How deep it stands in an answer is not looked at: that is up to the shape of
the answer. -/
def ofWritten? : Json.Written → Option Item
  | .object members => (AttributeValue.ofMembers? nestingLimit members).map Dict.ofList
  | _ => none

end Item

end ClusterIdentity.Dynamo
