import TokenListing.LexError
import TokenListing.Text.Classes
import TokenListing.Text.Letter
import TokenListing.Token

/-! # The token machine

The machine reads characters until they settle a token. Its state holds what the characters of
the token so far amount to: the number read, or the spelling of a name. A character that settles
a token without belonging to it is left for the next one.
-/
namespace TokenListing.Lexer

/-- A character that a name is read from. A name with a leading underscore is read as a whole
and then refused. -/
def beginsName (c : Char) : Bool :=
  Text.isLetter c || c == '_'

def continuesName (c : Char) : Bool :=
  Text.isLetter c || Text.isNumeral c || c == '_'

def digitValue (c : Char) : Nat :=
  c.toNat - '0'.toNat

/-- What the characters of a token so far amount to. -/
inductive State where
  | start
  | colon
  | less
  | greater
  /-- Digits that spell `value` were read. -/
  | integer (value : Nat)
  /-- Digits around a point were read; without the point they spell `digits`, and `places` of
  them follow it. -/
  | fraction (digits places : Nat)
  | name (spelling : String)
  /-- An underscore was read where a token begins, and perhaps more of a name. -/
  | underscored
  deriving DecidableEq, Repr

inductive Verdict where
  | token (kind : TokenKind) (value : TokenValue)
  | malformed (malformation : Malformation)
  deriving DecidableEq, Repr

inductive Step where
  | advance (next : State)
  /-- The token ends with this character. -/
  | settle (verdict : Verdict)
  /-- The token ended before this character, which is to be read again. -/
  | settleBefore (verdict : Verdict)
  deriving DecidableEq, Repr

namespace Verdict

def spelled (kind : TokenKind) (spelling : String) : Verdict :=
  .token kind (.text spelling)

def greatestInteger : Nat := Nat.pow 2 63 - 1

def integer (value : Nat) : Verdict :=
  if value ≤ greatestInteger then .token .number (.integer (Int64.ofNat value))
  else .malformed .integerOverflow

/-- The decimal nearest to `digits / 10 ^ places`. -/
def fraction (digits places : Nat) : Verdict :=
  .token .number (.decimal (.ofMagnitude (Binary64.nearest digits (Nat.pow 10 places))))

def name (spelling : String) : Verdict :=
  .spelled (.ofSpelling spelling) spelling

end Verdict

namespace State

def onFirst (c : Char) : Step :=
  match c with
  | ';' => .settle (.spelled .semicolon ";")
  | '(' => .settle (.spelled .leftParen "(")
  | ')' => .settle (.spelled .rightParen ")")
  | ',' => .settle (.spelled .comma ",")
  | '+' => .settle (.spelled .operator "+")
  | '-' => .settle (.spelled .operator "-")
  | '*' => .settle (.spelled .operator "*")
  | '/' => .settle (.spelled .operator "/")
  | '=' => .settle (.spelled .relation "=")
  | ':' => .advance .colon
  | '<' => .advance .less
  | '>' => .advance .greater
  | c =>
    if c.isDigit then .advance (.integer (digitValue c))
    else if c = '_' then .advance .underscored
    else if beginsName c then .advance (.name (String.singleton c))
    else .settle (.malformed (.unexpectedChar c))

/-- The step for a character. Colons, points without digits after them and names with a leading
underscore are refused together with the character that gives them away. -/
def onChar : State → Char → Step
  | start, c => if Text.isBlank c then .advance .start else onFirst c
  | colon, c =>
    if c = '=' then .settle (.spelled .assign ":=")
    else if c = ':' then .settle (.spelled .typeOf "::")
    else .settle (.malformed (.malformedColon (some c)))
  | less, c =>
    if c = '=' then .settle (.spelled .relation "<=")
    else if c = '>' then .settle (.spelled .relation "<>")
    else .settleBefore (.spelled .relation "<")
  | greater, c =>
    if c = '=' then .settle (.spelled .relation ">=")
    else .settleBefore (.spelled .relation ">")
  | integer value, c =>
    if c.isDigit then .advance (.integer (value * 10 + digitValue c))
    else if c = '.' then .advance (.fraction value 0)
    else .settleBefore (.integer value)
  | fraction digits places, c =>
    if c.isDigit then .advance (.fraction (digits * 10 + digitValue c) (places + 1))
    else if places = 0 then .settle (.malformed .missingFraction)
    else .settleBefore (.fraction digits places)
  | name spelling, c =>
    if continuesName c then .advance (.name (spelling.push c))
    else .settleBefore (.name spelling)
  | underscored, c =>
    if continuesName c then .advance .underscored
    else .settle (.malformed .leadingUnderscore)

/-- The verdict at the end of the input; there is none between tokens. -/
def onEnd : State → Option Verdict
  | start => none
  | colon => some (.malformed (.malformedColon none))
  | less => some (.spelled .relation "<")
  | greater => some (.spelled .relation ">")
  | integer value => some (.integer value)
  | fraction digits places =>
    some (if places = 0 then .malformed .missingFraction else .fraction digits places)
  | name spelling => some (.name spelling)
  | underscored => some (.malformed .leadingUnderscore)

end State
end TokenListing.Lexer
