import ClusterIdentity.Json
import ClusterIdentity.Json.Written

/-!
# Reading JSON text

`Json.read?` turns a text into the value that it denotes, if it is one JSON value with nothing
but blanks around it and all its strings and numbers are in order.

## Main definitions

* `Json.ofNumber?`: the value of a number
* `Json.ofWritten?`: the value of what is written
* `Json.read?`
-/

namespace ClusterIdentity.Json

/-- The value of a number. There are digits before and after a point, and no leading zeros. One
with a fraction or an exponent is not a whole number, nor is negative zero. -/
def ofNumber? (n : Number) : Option Json :=
  if n.whole.isEmpty ∨ (n.whole.head? = some '0' ∧ n.whole.length ≠ 1) ∨ n.fraction = some [] then
    none
  else if n.isPlain ∧ ¬(n.negative ∧ n.digits = 0) then some (.integer n.mantissa)
  else some (.decimal n.mantissa n.scale)

mutual

/-- The value of what is written. -/
def ofWritten? : Written → Option Json
  | .null => some .null
  | .bool b => some (.bool b)
  | .number n => ofNumber? n
  | .string inside => (unescape? inside).map .string
  | .array elements => (ofElements? elements).map .array
  | .object members => (ofMembers? members).map .object

def ofElements? : List Written → Option (List Json)
  | [] => some []
  | w :: rest =>
    match ofWritten? w, ofElements? rest with
    | some j, some js => some (j :: js)
    | _, _ => none

/-- The values of members, with their names. -/
def ofMembers? : List (List Char × Written) → Option (List (String × Json))
  | [] => some []
  | (name, w) :: rest =>
    match unescape? name, ofWritten? w, ofMembers? rest with
    | some name, some j, some ms => some ((name, j) :: ms)
    | _, _, _ => none

end

/-- The value that a text denotes. -/
def read? (text : String) : Option Json := (Written.read? text).bind ofWritten?

end ClusterIdentity.Json
