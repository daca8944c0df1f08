import TokenListing.Binary64.Shortest

/-! # The text of a number

A number is written with its shortest digits. Zero and magnitudes from `0.0001` up to, not
including, `10 ^ 16` are written positionally with at least one digit after the point, all others
with one digit before the point and a power of ten.
-/
namespace TokenListing.Binary64

def isPositional (magnitude : Nat) : Bool :=
  magnitude == 0 || (nearestDecimal 1 (-4) ≤ magnitude && magnitude < nearestDecimal 1 16)

/-- The digits with the point `point` places after the first of them, and a digit on both
sides of the point. -/
def positional (digits : List Char) (point : Int) : List Char :=
  let whole := digits.take point.toNat ++ List.replicate (point.toNat - digits.length) '0'
  let fraction := List.replicate (-point).toNat '0' ++ digits.drop point.toNat
  (if whole.isEmpty then ['0'] else whole) ++ '.' :: (if fraction.isEmpty then ['0'] else fraction)

/-- The digits with the point after the first one, dropped if it would be the last character,
and the power of ten. -/
def scientific (digits : List Char) (point : Int) : List Char :=
  let fraction := digits.drop 1
  digits.take 1 ++ (if fraction.isEmpty then [] else '.' :: fraction) ++
    'e' :: (toString (point - 1)).toList

def magnitudeText (magnitude : Nat) : List Char :=
  if magnitude = 0 then ['0', '.', '0']
  else
    let decimal := shortestDecimal magnitude
    let point := decimal.digits.length + decimal.exponent
    if isPositional magnitude then positional decimal.digits point
    else scientific decimal.digits point

def text (x : Binary64) : String :=
  if x.isNaN then "NaN"
  else
    let sign := if x.isNegative then "-" else ""
    sign ++ if x.magnitude = infinite then "inf" else String.ofList (magnitudeText x.magnitude)

end TokenListing.Binary64
