import TokenListing.Diagnostic
import TokenListing.Stream.Failure
import TokenListing.Text.Quoted

/-! # Errors of the lexer

A token can be malformed in five ways, and the input can fail to be read. Either way the error
carries a position and is reported as one diagnostic.
-/
namespace TokenListing

inductive Malformation where
  | unexpectedChar (char : Char)
  /-- A colon before a character that does not complete it, or before the end. -/
  | malformedColon (found : Option Char)
  | leadingUnderscore
  | missingFraction
  | integerOverflow
  deriving DecidableEq, Repr

namespace Malformation

def text : Malformation → String
  | unexpectedChar char => "unexpected character " ++ Text.quoted char
  | malformedColon found =>
    "expected '=' or ':' after ':', found " ++ found.elim "end of input" Text.quoted
  | leadingUnderscore => "identifiers must not start with '_'"
  | missingFraction => "expected a digit after the decimal point"
  | integerOverflow => "integer literal does not fit in 64 bits"

def code : Malformation → Diagnostic.Code
  | unexpectedChar _ => .unexpectedChar
  | malformedColon _ => .malformedColon
  | leadingUnderscore => .leadingUnderscore
  | missingFraction => .missingFraction
  | integerOverflow => .integerOverflow

def help? : Malformation → Option String
  | malformedColon _ => some "use `:=` to assign or `::` to declare a type"
  | leadingUnderscore => some "start the name with a letter"
  | missingFraction => some "write the literal as `1.0` or `1`"
  | unexpectedChar _ | integerOverflow => none

end Malformation

/-- Why there is no further token. -/
inductive LexError where
  /-- A malformed token, with the position of its first character. -/
  | malformed (malformation : Malformation) (span : Span)
  /-- A failed read, with the position of the last character before it. -/
  | unreadable (failure : Failure) (span : Span)
  deriving DecidableEq, Repr

namespace LexError

def span : LexError → Span
  | malformed _ span | unreadable _ span => span

def code : LexError → Diagnostic.Code
  | malformed malformation _ => malformation.code
  | unreadable _ _ => .unreadable

def text : LexError → String
  | malformed malformation span => "lexical error at " ++ span.text ++ ": " ++ malformation.text
  | unreadable failure span => "failed to read input at " ++ span.text ++ ": " ++ failure.message

def diagnostic (error : LexError) : Diagnostic where
  message := match error with
    | malformed malformation _ => malformation.text
    | unreadable failure _ => "failed to read input: " ++ failure.message
  span := error.span
  code := some error.code
  helps := match error with
    | malformed malformation _ => malformation.help?.toList
    | unreadable _ _ => []

end LexError
end TokenListing
