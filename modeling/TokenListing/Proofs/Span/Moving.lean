import TokenListing.LexError
import TokenListing.Proofs.Span.Counting
import TokenListing.Token

/-! # Positions further down

Text that comes after other lines has its positions so many lines further down, and columns do not
tell. Moving positions down and counting characters can be done in either order.
-/
namespace TokenListing

namespace Span

/-- The position with the same column so many lines further down. -/
def down (lines : Nat) (span : Span) : Span :=
  ⟨span.line + UInt32.ofNat lines, span.column⟩

theorem down_advance (lines : Nat) (span : Span) (c : Char) :
    (span.advance c).down lines = (span.down lines).advance c := by
  unfold advance down
  by_cases newline : c = '\n'
  · have line : span.line + 1 + UInt32.ofNat lines = span.line + UInt32.ofNat lines + 1 := by
      rw [UInt32.add_assoc, UInt32.add_assoc, UInt32.add_comm 1]
    rw [if_pos newline, if_pos newline, line]
  · rw [if_neg newline, if_neg newline]

theorem down_after (lines : Nat) (span : Span) (text : List Char) :
    (span.after text).down lines = (span.down lines).after text := by
  induction text generalizing span with
  | nil => rfl
  | cons c text ih =>
    show ((span.advance c).after text).down lines = ((span.down lines).advance c).after text
    rw [ih, down_advance]

theorem line_after (span : Span) (text : List Char) :
    (span.after text).line = span.line + UInt32.ofNat (text.count '\n') := by
  induction text generalizing span with
  | nil => exact (UInt32.add_zero _).symm
  | cons c text ih =>
    show ((span.advance c).after text).line = _
    rw [ih, advance, List.count_cons, UInt32.ofNat_add]
    by_cases newline : c = '\n'
    · rw [if_pos newline, if_pos (by simpa using newline), UInt32.add_assoc, UInt32.add_comm 1]
      rfl
    · rw [if_neg newline, if_neg (by simpa using newline)]
      exact congrArg (span.line + ·) (UInt32.add_zero _).symm

/-- After a text and a newline the positions are those of a text that begins anew, below the lines
of the first. -/
theorem advance_newline_after (text : List Char) :
    (start.after text).advance '\n' = start.down (1 + text.count '\n') := by
  rw [advance, if_pos rfl, line_after, down, UInt32.ofNat_add, UInt32.add_comm (UInt32.ofNat 1),
    UInt32.add_assoc]
  rfl

theorem Fits.of_suffix {back text : List Char} (fits : Fits text) (part : back <:+ text) :
    Fits back where
  newlines := Nat.lt_of_le_of_lt (part.sublist.count_le '\n') fits.newlines
  lines run inside := fits.lines run (inside.trans part.isInfix)

theorem toNat_line_down {lines : Nat} {span : Span}
    (room : span.line.toNat + lines < UInt32.size) :
    (span.down lines).line.toNat = span.line.toNat + lines := by
  have small : lines < UInt32.size := Nat.lt_of_le_of_lt (Nat.le_add_left _ _) room
  show (span.line + UInt32.ofNat lines).toNat = _
  rw [UInt32.toNat_add, UInt32.toNat_ofNat_of_lt' small]
  exact Nat.mod_eq_of_lt room

end Span

def Token.down (lines : Nat) (token : Token) : Token :=
  { token with span := token.span.down lines }

def LexError.down (lines : Nat) : LexError → LexError
  | malformed malformation span => malformed malformation (span.down lines)
  | unreadable failure span => unreadable failure (span.down lines)

end TokenListing
