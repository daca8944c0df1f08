/-! # UTF-8 decoding with replacement

A lead byte announces the width of its sequence. The bytes of a sequence are collected while
they are continuation bytes; a sequence that ends early, or whose value does not need that
width or is no scalar value, counts as one replacement character. `decode` is the whole rule on
a list of bytes.
-/
namespace TokenListing.Text.Utf8

def replacement : Char := '\uFFFD'

/-- The number of bytes in a sequence with this lead byte; `none` for a byte that leads no
sequence. -/
def width (lead : UInt8) : Option Nat :=
  if lead ≤ 0x7F then some 1
  else if 0xC2 ≤ lead ∧ lead ≤ 0xDF then some 2
  else if 0xE0 ≤ lead ∧ lead ≤ 0xEF then some 3
  else if 0xF0 ≤ lead ∧ lead ≤ 0xF4 then some 4
  else none

def isContinuation (byte : UInt8) : Bool :=
  byte &&& 0xC0 == 0x80

def leadBits (width : Nat) (lead : UInt8) : Nat :=
  lead.toNat % Nat.pow 2 (if width = 1 then 7 else 7 - width)

def codePoint (lead : UInt8) (tail : List UInt8) : Nat :=
  tail.foldl (fun n byte => n * 64 + byte.toNat % 64) (leadBits (tail.length + 1) lead)

def least : Nat → Nat
  | 2 => 0x80
  | 3 => 0x800
  | 4 => 0x10000
  | _ => 0

/-- The character of a sequence of full width: a scalar value that needs that width, or else
the replacement character. -/
def scalar (lead : UInt8) (tail : List UInt8) : Char :=
  let code := codePoint lead tail
  if h : least (tail.length + 1) ≤ code ∧ code.isValidChar then Char.ofNatAux code h.2
  else replacement

/-- The continuation bytes at the front of a list, at most `count` of them, and the rest. -/
def continuation (count : Nat) (bytes : List UInt8) : List UInt8 × List UInt8 :=
  let tail := (bytes.take count).takeWhile isContinuation
  (tail, bytes.drop tail.length)

def decodeFirst (lead : UInt8) (rest : List UInt8) : Char × List UInt8 :=
  match width lead with
  | none => (replacement, rest)
  | some width =>
    let (tail, rest) := continuation (width - 1) rest
    (if tail.length + 1 = width then scalar lead tail else replacement, rest)

theorem length_decodeFirst_le (lead : UInt8) (rest : List UInt8) :
    (decodeFirst lead rest).2.length ≤ rest.length := by
  unfold decodeFirst
  split
  · exact Nat.le_refl _
  · simp [continuation]

def decode : List UInt8 → List Char
  | [] => []
  | lead :: rest => (decodeFirst lead rest).1 :: decode (decodeFirst lead rest).2
termination_by bytes => bytes.length
decreasing_by exact Nat.lt_succ_of_le (length_decodeFirst_le lead rest)

end TokenListing.Text.Utf8
