/-!
# Base64

Bytes are written as groups of four characters, each of which stands for six bits. The last group
may end in one or two padding characters, which stand for bytes that are missing. The written form
of bytes is unique: padding is not left out, and bits that belong to no byte are zero.

## Main definitions

* `Base64.isEncoding`: whether a text is the written form of some bytes
-/

namespace ClusterIdentity.Base64

/-- The six bits that a character stands for. -/
def sextet? (c : Char) : Option Nat :=
  if 'A' ≤ c ∧ c ≤ 'Z' then some (c.toNat - 'A'.toNat)
  else if 'a' ≤ c ∧ c ≤ 'z' then some (c.toNat - 'a'.toNat + 26)
  else if '0' ≤ c ∧ c ≤ '9' then some (c.toNat - '0'.toNat + 52)
  else if c = '+' then some 62
  else if c = '/' then some 63
  else none

def isSextet (c : Char) : Bool := (sextet? c).isSome

/-- Whether the character stands for six bits of which so many at the end are zero. -/
def endsInZeros (bits : Nat) (c : Char) : Bool := (sextet? c).any fun n => n % Nat.pow 2 bits == 0

/-- Whether the text is the written form of some bytes. -/
def isEncoding : List Char → Bool
  | [] => true
  | [a, b, '=', '='] => isSextet a && endsInZeros 4 b
  | [a, b, c, '='] => isSextet a && isSextet b && endsInZeros 2 c
  | a :: b :: c :: d :: rest =>
    isSextet a && isSextet b && isSextet c && isSextet d && isEncoding rest
  | _ => false

end ClusterIdentity.Base64
