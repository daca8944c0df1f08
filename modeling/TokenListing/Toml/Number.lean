import TokenListing.Toml.Lexeme
import TokenListing.Binary64

/-! # Numbers of a TOML document

Integers in four bases and decimals. Underscores may stand between digits. An integer must fit
in 64 bits with its sign, and a decimal must not exceed the greatest finite number.
-/
namespace TokenListing.Toml

/-- Digits of a class with single underscores between them. -/
def readDigits (isDigit : Char → Bool) : Reader (List Char)
  | c :: s => if isDigit c then some ((more s).1.cons c, (more s).2) else none
  | [] => none
where
  more : List Char → List Char × List Char
    | [] => ([], [])
    | '_' :: c :: s =>
      if isDigit c then ((more s).1.cons c, (more s).2) else ([], '_' :: c :: s)
    | c :: s => if isDigit c then ((more s).1.cons c, (more s).2) else ([], c :: s)

def valueOfDigits (base : Nat) (digits : List Char) : Nat :=
  digits.foldl (fun n c => n * base + ((hexadecimal? [c]).getD 0)) 0

def readSign : List Char → Bool × List Char
  | '-' :: s => (true, s)
  | '+' :: s => (false, s)
  | s => (false, s)

def readWhole : Reader (List Char)
  | '0' :: s => some (['0'], s)
  | s => readDigits Char.isDigit s

def checkedInteger (value : Int) : Option Int :=
  if -0x8000000000000000 ≤ value ∧ value < 0x8000000000000000 then some value else none

/-- An integer in the base that its first characters announce. -/
def readInteger : Reader Int
  | '0' :: 'x' :: s => inBase 16 (fun c => (hexadecimal? [c]).isSome) s
  | '0' :: 'o' :: s => inBase 8 (fun c => '0' ≤ c && c ≤ '7') s
  | '0' :: 'b' :: s => inBase 2 (fun c => c == '0' || c == '1') s
  | s => do
    let (negative, s) := readSign s
    let (digits, rest) ← readWhole s
    let magnitude : Int := valueOfDigits 10 digits
    let value ← checkedInteger (if negative then -magnitude else magnitude)
    return (value, rest)
where
  inBase (base : Nat) (isDigit : Char → Bool) : Reader Int := fun s => do
    let (digits, rest) ← readDigits isDigit s
    let value ← checkedInteger (valueOfDigits base digits)
    return (value, rest)

def readExponent : Reader Int
  | c :: s => do
    if c ≠ 'e' ∧ c ≠ 'E' then none
    let (negative, s) := readSign s
    let (digits, rest) ← readDigits Char.isDigit s
    let magnitude : Int := valueOfDigits 10 digits
    return (if negative then -magnitude else magnitude, rest)
  | [] => none

/-- The magnitude nearest to `digits * 10 ^ exponent`. A first digit far beyond the range
decides without computing the power. -/
def magnitudeOfDecimal (digits : List Char) (exponent : Int) : Nat :=
  let coefficient := valueOfDigits 10 digits
  let size := (Nat.toDigits 10 coefficient).length + exponent
  if coefficient = 0 ∨ size < -400 then 0
  else if 400 < size then Binary64.infinite
  else Binary64.nearestDecimal coefficient exponent

def signed (negative : Bool) (magnitude : Nat) : Binary64 :=
  .ofMagnitude (if negative then Nat.pow 2 63 + magnitude else magnitude)

def readDecimal (s : List Char) : Option (Binary64 × List Char) := do
  let (negative, s) := readSign s
  let (whole, rest) ← readWhole s
  let (fraction, exponent, rest) ← match rest with
    | '.' :: rest => do
      let (fraction, rest) ← readDigits Char.isDigit rest
      match readExponent rest with
      | some (exponent, rest) => pure (fraction, exponent, rest)
      | none => pure (fraction, 0, rest)
    | rest => do
      let (exponent, rest) ← readExponent rest
      pure ([], exponent, rest)
  let magnitude := magnitudeOfDecimal (whole ++ fraction) (exponent - fraction.length)
  if magnitude = Binary64.infinite ∧ !negative then none
  return (signed negative magnitude, rest)

def readSpecial (s : List Char) : Option (Binary64 × List Char) :=
  let (negative, s) := readSign s
  match s with
  | 'i' :: 'n' :: 'f' :: rest => some (signed negative Binary64.infinite, rest)
  | 'n' :: 'a' :: 'n' :: rest => some (signed negative (Binary64.infinite + Nat.pow 2 51), rest)
  | _ => none

def readFloat (s : List Char) : Option (Binary64 × List Char) :=
  readDecimal s <|> readSpecial s

end TokenListing.Toml
