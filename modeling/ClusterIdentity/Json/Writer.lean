import ClusterIdentity.Json

/-!
# Writing JSON text

`Json.write` gives the text of a value without blanks. Strings are kept as they are but for
quotes, backslashes and control characters, which are escaped.

## Main definitions

* `Json.quote`: the text of a string
* `Json.write`: the text of a value
-/

namespace ClusterIdentity.Json

namespace Writer

/-- The hexadecimal digit of a number below sixteen. -/
def hexDigit (n : Nat) : Char := Nat.digitChar (n % 16)

/-- A character inside quotes. -/
def escape (acc : String) (c : Char) : String :=
  if c = '"' then acc ++ "\\\""
  else if c = '\\' then acc ++ "\\\\"
  else if c = '\n' then acc ++ "\\n"
  else if c.toNat < 0x20 then
    ((acc ++ "\\u00").push (hexDigit (c.toNat / 16))).push (hexDigit c.toNat)
  else acc.push c

/-- A string inside quotes, after what is written already. -/
def string (acc : String) (s : String) : String :=
  (s.toList.foldl escape (acc.push '"')).push '"'

mutual

/-- A value, after what is written already. -/
def value (acc : String) : Json → String
  | .null => acc ++ "null"
  | .bool true => acc ++ "true"
  | .bool false => acc ++ "false"
  | .integer n => acc ++ toString n
  | .decimal m e => acc ++ toString m ++ "e" ++ toString e
  | .string s => string acc s
  | .array [] => acc ++ "[]"
  | .array (e :: es) => (elements (value (acc.push '[') e) es).push ']'
  | .object [] => (acc.push '\x7b').push '\x7d'
  | .object (m :: ms) =>
    (members (value ((string (acc.push '\x7b') m.1).push ':') m.2) ms).push '\x7d'

def elements (acc : String) : List Json → String
  | [] => acc
  | e :: es => elements (value (acc.push ',') e) es

def members (acc : String) : List (String × Json) → String
  | [] => acc
  | m :: ms => members (value ((string (acc.push ',') m.1).push ':') m.2) ms

end

end Writer

def quote (s : String) : String := Writer.string "" s

def write (j : Json) : String := Writer.value "" j

end ClusterIdentity.Json
