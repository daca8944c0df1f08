import TokenListing.Binary64

/-! # Shortest decimals

The shortest decimal of a number has the fewest digits among those that read back as the number,
and of these it is the one nearest to the number. Only the two neighbours of the number on each
decimal grid can be that decimal, so the grids of 1, 2, ... 17 digits are tried in turn. Were
none of them to read back, the exact value would be taken, which always does.
-/
namespace TokenListing.Binary64

structure Decimal where
  coefficient : Nat
  exponent : Int
  deriving DecidableEq, Repr

namespace Decimal

def digits (d : Decimal) : List Char :=
  Nat.toDigits 10 d.coefficient

def normalize (coefficient : Nat) (exponent : Int) : Decimal :=
  if coefficient ≠ 0 ∧ coefficient % 10 = 0 then normalize (coefficient / 10) (exponent + 1)
  else ⟨coefficient, exponent⟩
termination_by coefficient
decreasing_by omega

end Decimal

/-- The exponent of the power of ten just above a finite non-zero magnitude. The least
magnitude is above `10 ^ (-324)`, so scaling by `10 ^ 324` leaves a whole part to count. -/
def decimalExponent (magnitude : Nat) : Int :=
  (Nat.toDigits 10 (units magnitude * Nat.pow 10 324 / Nat.pow 2 1074)).length - 324

/-- The nearest decimal with a coefficient of the given length that reads back as the magnitude.
The upper neighbour wins a tie. -/
def decimalOfLength (magnitude length : Nat) : Option Decimal :=
  let exponent := decimalExponent magnitude - length
  let dividend := units magnitude * Nat.pow 10 (-exponent).toNat
  let divisor := Nat.pow 2 1074 * Nat.pow 10 exponent.toNat
  let lower := dividend / divisor
  let reads (coefficient : Nat) : Bool := nearestDecimal coefficient exponent == magnitude
  if reads lower && (2 * (dividend % divisor) < divisor || !reads (lower + 1)) then
    some (Decimal.normalize lower exponent)
  else if reads (lower + 1) then some (Decimal.normalize (lower + 1) exponent)
  else none

def exactDecimal (magnitude : Nat) : Decimal :=
  Decimal.normalize (units magnitude * Nat.pow 5 1074) (-1074)

def shortestDecimal (magnitude : Nat) : Decimal :=
  ((List.range 17).findSome? fun i => decimalOfLength magnitude (i + 1)).getD
    (exactDecimal magnitude)

end TokenListing.Binary64
