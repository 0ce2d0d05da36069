/-!
# Numbers as they are written

A written number keeps its digits, so that readers may be strict or lenient about how a number is
written and about which numbers they take. A number with a fraction or an exponent, and one beyond
64 bits, stands for the nearest floating-point number, which has 53 significant bits and an
exponent of 11 bits.

## Main definitions

* `Json.Number`: a sign, digits, a fraction and an exponent
* `Json.Number.isInteger`: whether the number is a signed integer of a given size
* `Json.Number.isFinite`: whether the number is in the range of floating-point numbers

## Design notes

All arithmetic is exact. A number far from the bounds is told from its digits alone, so no power
of ten is computed that is much longer than the number's own text.
-/

namespace ClusterIdentity.Json

/-- A number as it is written. -/
structure Number where
  negative : Bool
  /-- The digits before the point. -/
  whole : List Char
  /-- The digits after the point, if there is a point. -/
  fraction : Option (List Char)
  exponent : Option Int

namespace Number

/-- Whether the number is written without fraction and exponent. -/
def isPlain (n : Number) : Bool := n.fraction.isNone && n.exponent.isNone

def places (n : Number) : List Char := n.fraction.getD []

/-- All digits as one number. Without its sign, `n` is `n.digits * 10 ^ n.scale`. -/
def digits (n : Number) : Nat := Nat.ofDigitChars 10 (n.whole ++ n.places) 0

def mantissa (n : Number) : Int := if n.negative then -(n.digits : Int) else n.digits

/-- The power of ten that goes with the digits. -/
def scale (n : Number) : Int := n.exponent.getD 0 - n.places.length

/-- The least power of ten above the number without its sign, if the number is not zero. -/
def order (n : Number) : Int :=
  ((n.whole ++ n.places).dropWhile (· == '0')).length + n.scale

/-- The number without its sign as numerator and denominator. -/
def magnitude (n : Number) : Nat × Nat :=
  (n.digits * Nat.pow 10 n.scale.toNat, Nat.pow 10 (-n.scale).toNat)

/-- The quotient rounded to the nearest whole number, a half to the even neighbour. -/
def roundedQuotient (a b : Nat) : Nat :=
  let q := a / b
  let twice := 2 * (a % b)
  if twice < b then q else if b < twice then q + 1 else q + q % 2

/-- The nearest number with 53 significant bits to a positive fraction: `(q, s)` stands for
`q / 2 ^ s`. -/
def nearest (numerator denominator : Nat) : Nat × Int :=
  let scaled (shift : Int) : Nat × Nat :=
    (numerator * Nat.pow 2 shift.toNat, denominator * Nat.pow 2 (-shift).toNat)
  let guess : Int := 52 + denominator.log2 - numerator.log2
  let (a, b) := scaled guess
  let shift := if a / b < Nat.pow 2 52 then guess + 1 else guess
  let (a, b) := scaled shift
  (roundedQuotient a b, shift)

/-- Whether the nearest floating-point number is zero: the number is not greater than half of
`2 ^ -1074`, the least positive one. -/
def isRoundedZero (n : Number) : Bool :=
  if n.digits = 0 ∨ n.order < -400 then true
  else if 0 < n.order then false
  else decide (n.magnitude.1 * Nat.pow 2 1075 ≤ n.magnitude.2)

/-- Whether the nearest floating-point number is whole and not greater than the one nearest to the
bound. -/
def isRoundedInteger (bound : Nat) (n : Number) : Bool :=
  if n.isRoundedZero then true
  else if 400 < n.order then false
  else
    let (q, shift) := nearest n.magnitude.1 n.magnitude.2
    let value := q * Nat.pow 2 (-shift).toNat
    let unit := Nat.pow 2 shift.toNat
    let (greatest, down) := nearest bound 1
    value % unit == 0 &&
      decide (value * Nat.pow 2 down.toNat ≤ greatest * Nat.pow 2 (-down).toNat * unit)

/-- Whether the number is a signed integer of so many bits. -/
def isInteger (bits : Nat) (n : Number) : Bool :=
  let half := Nat.pow 2 (bits - 1)
  let (bound, exact) := if n.negative then (half, Nat.pow 2 63) else (half - 1, Nat.pow 2 64 - 1)
  if n.isPlain ∧ n.digits ≤ exact then decide (n.digits ≤ bound) else n.isRoundedInteger bound

/-- Whether the number is closer to zero than half a unit beyond the greatest floating-point
number. -/
def isFinite (n : Number) : Bool :=
  if n.digits = 0 ∨ n.order < 300 then true
  else if 400 < n.order then false
  else decide (n.magnitude.1 < (Nat.pow 2 1024 - Nat.pow 2 970) * n.magnitude.2)

end Number

end ClusterIdentity.Json
