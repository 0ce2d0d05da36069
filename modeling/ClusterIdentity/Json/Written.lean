import ClusterIdentity.Json.Number

/-!
# JSON as it is written

`Json.Written.read?` makes out the structure of a text: where its values, elements and members
are. Strings are left with their escapes and numbers with their digits, because a reader that
skips a part of a text does not care what that part means. A string ends at the first quote that
no backslash precedes; what a backslash precedes is looked at only by `Json.unescape?`.

## Main definitions

* `Json.Written`: values whose strings and numbers are kept as written
* `Json.Written.read?`: the structure of a text
* `Json.Written.depth`: how deep values are nested
* `Json.unescape?`: the text that a written string stands for

## Design notes

The readers of values, elements and members call each other and take an explicit bound on the
depth of these calls. A value starts with a character of its own, so twice the length of the
text is always enough.
-/

namespace ClusterIdentity.Json

/-- A JSON value as it is written. -/
inductive Written where
  | null
  | bool (value : Bool)
  | number (value : Number)
  /-- A string, given by the characters between its quotes. -/
  | string (inside : List Char)
  | array (elements : List Written)
  /-- An object; names are given like strings. -/
  | object (members : List (List Char × Written))
  deriving Inhabited

/-! ### Escapes -/

def hexDigit? (c : Char) : Option Nat :=
  if '0' ≤ c ∧ c ≤ '9' then some (c.toNat - '0'.toNat)
  else if 'a' ≤ c ∧ c ≤ 'f' then some (c.toNat - 'a'.toNat + 10)
  else if 'A' ≤ c ∧ c ≤ 'F' then some (c.toNat - 'A'.toNat + 10)
  else none

/-- The unit that four hexadecimal digits denote. -/
def hexUnit? (a b c d : Char) : Option Nat :=
  match hexDigit? a, hexDigit? b, hexDigit? c, hexDigit? d with
  | some a, some b, some c, some d => some (((a * 16 + b) * 16 + c) * 16 + d)
  | _, _, _, _ => none

/-- Whether the unit is the first one of a pair. -/
def isHigh (unit : Nat) : Bool := 0xD800 ≤ unit && unit < 0xDC00

/-- Whether the unit is the second one of a pair. -/
def isLow (unit : Nat) : Bool := 0xDC00 ≤ unit && unit < 0xE000

/-- The character that an escape of one letter stands for. -/
def shortEscape? : Char → Option Char
  | '"' => some '"'
  | '\\' => some '\\'
  | '/' => some '/'
  | 'b' => some '\x08'
  | 'f' => some '\x0c'
  | 'n' => some '\n'
  | 'r' => some '\r'
  | 't' => some '\t'
  | _ => none

/-- The rest of a string. `acc` holds the characters before in reverse; `high` is a first unit
that still lacks its second. -/
def unescapeTail? (acc : List Char) (high : Option Nat) : List Char → Option String
  | [] => if high.isSome then none else some (String.ofList acc.reverse)
  | '\\' :: 'u' :: a :: b :: c :: d :: rest =>
    match high, hexUnit? a b c d with
    | _, none => none
    | some h, some unit =>
      if isLow unit then
        let code := 0x10000 + (h - 0xD800) * 0x400 + (unit - 0xDC00)
        unescapeTail? (Char.ofNat code :: acc) none rest
      else none
    | none, some unit =>
      if isHigh unit then unescapeTail? acc (some unit) rest
      else if isLow unit then none
      else unescapeTail? (Char.ofNat unit :: acc) none rest
  | '\\' :: e :: rest =>
    match high, shortEscape? e with
    | none, some c => unescapeTail? (c :: acc) none rest
    | _, _ => none
  | c :: rest => if high.isSome ∨ c = '\\' then none else unescapeTail? (c :: acc) none rest

/-- The text that a written string stands for, if all its escapes are in order. -/
def unescape? (inside : List Char) : Option String := unescapeTail? [] none inside

/-! ### The structure of a text -/

namespace Written

/-- Whether the character may stand between tokens. -/
def isBlank (c : Char) : Bool := c == ' ' || c == '\t' || c == '\n' || c == '\r'

def skipBlanks (cs : List Char) : List Char := cs.dropWhile isBlank

/-- The rest of a string up to its closing quote. `acc` holds the characters before in
reverse. -/
def stringTail? (acc : List Char) : List Char → Option (List Char × List Char)
  | [] => none
  | '"' :: rest => some (acc.reverse, rest)
  | '\\' :: c :: rest => stringTail? (c :: '\\' :: acc) rest
  | c :: rest => if c.toNat < 0x20 then none else stringTail? (c :: acc) rest

def string? (cs : List Char) : Option (List Char × List Char) := stringTail? [] cs

/-- The leading digits and what follows them. -/
def digits (cs : List Char) : List Char × List Char := cs.span Char.isDigit

/-- The exponent of a number: none, or a letter, an optional sign and digits. -/
def exponent? : List Char → Option (Option Int × List Char)
  | 'e' :: rest | 'E' :: rest =>
    let (negative, rest) :=
      match rest with
      | '-' :: rest => (true, rest)
      | '+' :: rest => (false, rest)
      | rest => (false, rest)
    let (ds, rest) := digits rest
    if ds.isEmpty then none
    else
      let n : Int := Nat.ofDigitChars 10 ds 0
      some (some (if negative then -n else n), rest)
  | rest => some (none, rest)

/-- The fraction of a number: none, or a point and what digits follow. -/
def fraction : List Char → Option (List Char) × List Char
  | '.' :: rest =>
    let (ds, rest) := digits rest
    (some ds, rest)
  | rest => (none, rest)

/-- A number, with a digit before or after the point. -/
def number? (cs : List Char) : Option (Number × List Char) :=
  let (negative, cs) :=
    match cs with
    | '-' :: rest => (true, rest)
    | cs => (false, cs)
  let (whole, rest) := digits cs
  let (places, rest) := fraction rest
  if whole.isEmpty ∧ (places.getD []).isEmpty then none
  else (exponent? rest).map fun (exponent, rest) => (⟨negative, whole, places, exponent⟩, rest)

/-- The rest of a text that starts with the given word. -/
def word? (word : String) (cs : List Char) : Option (List Char) :=
  word.toList.isPrefixOf? cs

mutual

/-- A value at the start of the text. A number starts with a digit or a minus sign. -/
def value? : Nat → List Char → Option (Written × List Char)
  | 0, _ => none
  | bound + 1, cs =>
    match skipBlanks cs with
    | '"' :: rest => (string? rest).map fun (s, rest) => (.string s, rest)
    | '[' :: rest =>
      match skipBlanks rest with
      | ']' :: rest => some (.array [], rest)
      | rest => (elements? bound rest).map fun (es, rest) => (.array es, rest)
    | '\x7b' :: rest =>
      match skipBlanks rest with
      | '\x7d' :: rest => some (.object [], rest)
      | rest => (members? bound rest).map fun (ms, rest) => (.object ms, rest)
    | 't' :: rest => (word? "rue" rest).map fun rest => (.bool true, rest)
    | 'f' :: rest => (word? "alse" rest).map fun rest => (.bool false, rest)
    | 'n' :: rest => (word? "ull" rest).map fun rest => (.null, rest)
    | '.' :: _ => none
    | cs => (number? cs).map fun (n, rest) => (.number n, rest)

/-- The elements of an array up to its closing bracket. -/
def elements? : Nat → List Char → Option (List Written × List Char)
  | 0, _ => none
  | bound + 1, cs =>
    match value? bound cs with
    | none => none
    | some (e, rest) =>
      match skipBlanks rest with
      | ',' :: rest => (elements? bound rest).map fun (es, rest) => (e :: es, rest)
      | ']' :: rest => some ([e], rest)
      | _ => none

/-- The members of an object up to its closing brace. -/
def members? : Nat → List Char → Option (List (List Char × Written) × List Char)
  | 0, _ => none
  | bound + 1, cs =>
    match skipBlanks cs with
    | '"' :: rest =>
      match string? rest with
      | none => none
      | some (name, rest) =>
        match skipBlanks rest with
        | ':' :: rest =>
          match value? bound rest with
          | none => none
          | some (v, rest) =>
            match skipBlanks rest with
            | ',' :: rest =>
              (members? bound rest).map fun (ms, rest) => ((name, v) :: ms, rest)
            | '\x7d' :: rest => some ([(name, v)], rest)
            | _ => none
        | _ => none
    | _ => none

end

/-- The structure of a text, if it is one value with nothing but blanks around it. -/
def read? (text : String) : Option Written :=
  let cs := text.toList
  match value? (2 * cs.length + 2) cs with
  | some (w, rest) => if (skipBlanks rest).isEmpty then some w else none
  | none => none

mutual

/-- How many arrays and objects are nested in each other. -/
def depth : Written → Nat
  | array elements => elementsDepth elements + 1
  | object members => membersDepth members + 1
  | _ => 0

def elementsDepth : List Written → Nat
  | [] => 0
  | w :: rest => max w.depth (elementsDepth rest)

/-- The greatest depth of the members' values. -/
def membersDepth : List (List Char × Written) → Nat
  | [] => 0
  | m :: rest => max m.2.depth (membersDepth rest)

end

end Written

end ClusterIdentity.Json
