/-! # Double-precision numbers

A number is its 64-bit pattern: a sign bit and a magnitude. Magnitudes are numbered in order,
so a greater finite magnitude is a greater value, and every value is a whole number of units of
`2 ^ (-1074)`. Reading a ratio rounds to the nearest magnitude, a tie to the even one.
-/
namespace TokenListing

structure Binary64 where
  bits : UInt64
  deriving DecidableEq, Inhabited, Repr

namespace Binary64

def binade : Nat := Nat.pow 2 52

/-- The magnitude of the infinities; those above it are not numbers. -/
def infinite : Nat := 2047 * binade

def magnitude (x : Binary64) : Nat :=
  x.bits.toNat % Nat.pow 2 63

def isNegative (x : Binary64) : Bool :=
  Nat.pow 2 63 ≤ x.bits.toNat

def isNaN (x : Binary64) : Bool :=
  infinite < x.magnitude

def ofMagnitude (magnitude : Nat) : Binary64 :=
  ⟨UInt64.ofNat magnitude⟩

/-- The power of two that scales the significand of a magnitude. The first two binades share
the scale zero. -/
def scale (magnitude : Nat) : Nat :=
  magnitude / binade - 1

/-- The value of a finite magnitude in units of `2 ^ (-1074)`. -/
def units (magnitude : Nat) : Nat :=
  (magnitude - scale magnitude * binade) * Nat.pow 2 (scale magnitude)

def roundEven (dividend divisor : Nat) : Nat :=
  let quotient := dividend / divisor
  let twice := 2 * (dividend % divisor)
  if twice < divisor then quotient
  else if divisor < twice then quotient + 1
  else quotient + quotient % 2

/-- The magnitude nearest to a ratio. Rounding up at the top of a binade carries into the next
one, and everything beyond the last binade is infinite. -/
def nearest (numerator denominator : Nat) : Nat :=
  let dividend := numerator * Nat.pow 2 1074
  let scale := (dividend / denominator).log2 - 52
  min (scale * binade + roundEven dividend (denominator * Nat.pow 2 scale)) infinite

def nearestDecimal (coefficient : Nat) (exponent : Int) : Nat :=
  nearest (coefficient * Nat.pow 10 exponent.toNat) (Nat.pow 10 (-exponent).toNat)

/-- Equality of values: the two zeros are equal, and what is no number equals nothing. -/
def equal (x y : Binary64) : Bool :=
  !x.isNaN && !y.isNaN && (x == y || (x.magnitude == 0 && y.magnitude == 0))

end Binary64
end TokenListing
