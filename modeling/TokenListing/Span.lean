/-! # Positions in a text

A position is a line and a column, both counted in machine words. Lines start at one; column
zero is the place before the first character of a line. The position `0:0` is in no text.
-/
namespace TokenListing

@[ext] structure Span where
  line : UInt32
  column : UInt32
  deriving DecidableEq, Repr

namespace Span

def nowhere : Span := ⟨0, 0⟩

def start : Span := ⟨1, 0⟩

instance : Inhabited Span := ⟨nowhere⟩

def isNowhere (span : Span) : Bool :=
  span == nowhere

/-- Positions are ordered as they occur in a text: by line, then by column. -/
def order (a b : Span) : Ordering :=
  (compare a.line b.line).then (compare a.column b.column)

instance : Ord Span := ⟨order⟩

def latest (a b : Span) : Span :=
  if order a b = .gt then a else b

def advance (span : Span) (c : Char) : Span :=
  if c = '\n' then ⟨span.line + 1, 0⟩ else ⟨span.line, span.column + 1⟩

/-- The position of the last character of a text that follows the one at `span`. -/
def after (span : Span) (text : List Char) : Span :=
  text.foldl advance span

def text (span : Span) : String :=
  toString span.line.toNat ++ ":" ++ toString span.column.toNat

instance : ToString Span := ⟨text⟩

end Span
end TokenListing
