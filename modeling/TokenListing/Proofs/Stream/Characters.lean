import TokenListing.Stream.Signal
import TokenListing.Text.Utf8

/-! # Characters of signals

How signals are read as characters when nothing is cut into chunks. A pause ends the signals for
good; a failure is met once, and what comes after it is read afresh.
-/
namespace TokenListing.Signal

def nextByte : List Signal → Except Failure (Option UInt8) × List Signal
  | [] => (.ok none, [])
  | .pause :: _ => (.ok none, [])
  | .failure cause :: rest => (.error cause, rest)
  | .byte first :: rest => (.ok (some first), rest)

theorem eq_of_nextByte_some {signals rest : List Signal} {found : UInt8}
    (h : nextByte signals = (.ok (some found), rest)) : signals = .byte found :: rest := by
  cases signals with
  | nil => cases h
  | cons first more =>
    cases first with
    | byte => cases h; rfl
    | failure => cases h
    | pause => cases h

/-- Collects `missing` more bytes of a sequence. A byte that does not continue the sequence is
left where it is. -/
def collect (lead : UInt8) : Nat → List UInt8 → List Signal → Except Failure Char × List Signal
  | 0, tail, signals => (.ok (Text.Utf8.scalar lead tail), signals)
  | missing + 1, tail, signals =>
    match nextByte signals with
    | (.error cause, rest) => (.error cause, rest)
    | (.ok none, rest) => (.ok Text.Utf8.replacement, rest)
    | (.ok (some found), rest) =>
      if Text.Utf8.isContinuation found then collect lead missing (tail ++ [found]) rest
      else (.ok Text.Utf8.replacement, signals)

def decode (lead : UInt8) (signals : List Signal) : Except Failure Char × List Signal :=
  match Text.Utf8.width lead with
  | none => (.ok Text.Utf8.replacement, signals)
  | some width => collect lead (width - 1) [] signals

def nextChar (signals : List Signal) : Except Failure (Option Char) × List Signal :=
  match nextByte signals with
  | (.error cause, rest) => (.error cause, rest)
  | (.ok none, rest) => (.ok none, rest)
  | (.ok (some lead), rest) =>
    match decode lead rest with
    | (.error cause, rest) => (.error cause, rest)
    | (.ok char, rest) => (.ok (some char), rest)

end TokenListing.Signal
