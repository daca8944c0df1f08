import TokenListing.Toml.Lexeme

/-! # Dates and times of a TOML document

A date, a time, or both, and with both an offset. A date must exist in the calendar; a leap
second is allowed.
-/
namespace TokenListing.Toml

def readFixed : Nat → Reader Nat
  | count, s =>
    let digits := s.take count
    if digits.length = count ∧ digits.all Char.isDigit then
      some (digits.foldl (fun n c => n * 10 + (c.toNat - '0'.toNat)) 0, s.drop count)
    else none

def readBetween (least greatest : Nat) : Reader Nat := fun s => do
  let (value, rest) ← readFixed 2 s
  if least ≤ value ∧ value ≤ greatest then return (value, rest) else none

def isLeapYear (year : Nat) : Bool :=
  year % 4 == 0 && (year % 100 != 0 || year % 400 == 0)

def daysOfMonth (year month : Nat) : Nat :=
  match month with
  | 2 => if isLeapYear year then 29 else 28
  | 4 | 6 | 9 | 11 => 30
  | _ => 31

def skipDate (s : List Char) : Option (List Char) := do
  let (year, s) ← readFixed 4 s
  let ((), s) ← exactly ['-'] s
  let (month, s) ← readBetween 1 12 s
  let ((), s) ← exactly ['-'] s
  let (_, s) ← readBetween 1 (daysOfMonth year month) s
  return s

def skipFraction : List Char → Option (List Char)
  | '.' :: s =>
    let rest := s.dropWhile Char.isDigit
    if rest.length = s.length then none else some rest
  | s => some s

def skipTime (s : List Char) : Option (List Char) := do
  let (_, s) ← readBetween 0 23 s
  let ((), s) ← exactly [':'] s
  let (_, s) ← readBetween 0 59 s
  let ((), s) ← exactly [':'] s
  let (_, s) ← readBetween 0 60 s
  skipFraction s

def skipOffset : List Char → Option (List Char)
  | 'Z' :: s | 'z' :: s => some s
  | '+' :: s | '-' :: s => do
    let (_, s) ← readBetween 0 23 s
    let ((), s) ← exactly [':'] s
    let (_, s) ← readBetween 0 59 s
    return s
  | s => some s

/-- The rest after what may follow a date: a time and perhaps an offset. -/
def skipTimeOfDate (s : List Char) : List Char :=
  match s with
  | 'T' :: time | 't' :: time | ' ' :: time => ((skipTime time).bind skipOffset).getD s
  | s => s

/-- A date, a date with a time, or a time, as it is spelled. -/
def readDateTime (s : List Char) : Option (String × List Char) := do
  let rest ← (skipTimeOfDate <$> skipDate s) <|> skipTime s
  return (String.ofList (s.take (s.length - rest.length)), rest)

end TokenListing.Toml
