/-!
# Blank text

The characters with the Unicode property `White_Space`, and texts that hold no other character.

## Main definitions

* `isBlankChar`: the characters of the property
* `isBlankText`: texts of such characters alone
-/

namespace ClusterIdentity

/-- The first and the last character of each range of white space. -/
def blankRanges : List (Nat × Nat) :=
  [(0x09, 0x0D), (0x20, 0x20), (0x85, 0x85), (0xA0, 0xA0), (0x1680, 0x1680), (0x2000, 0x200A),
   (0x2028, 0x2029), (0x202F, 0x202F), (0x205F, 0x205F), (0x3000, 0x3000)]

def isBlankChar (c : Char) : Bool :=
  blankRanges.any fun range => range.1 ≤ c.toNat && c.toNat ≤ range.2

/-- Whether the text holds nothing but white space. -/
def isBlankText (s : String) : Bool := s.toList.all isBlankChar

end ClusterIdentity
