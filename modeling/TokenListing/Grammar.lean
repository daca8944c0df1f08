import TokenListing.Lexer.Machine

/-! # The grammar of tokens

Which characters make a token is said here on whole texts. A text is a sequence of blank runs and
lexemes in turn; whether some characters are a lexeme depends on the one character after them,
and on nothing else. A text that is no such sequence has a first place where a lexeme ought to
begin and none does.
-/
namespace TokenListing.Grammar

def IsDigits (text : List Char) : Prop :=
  text ≠ [] ∧ ∀ c ∈ text, c.isDigit = true

def valueOf (digits : List Char) : Nat :=
  digits.foldl (fun value c => value * 10 + Lexer.digitValue c) 0

/-- Whether the character that follows, if there is one, is none of a class. -/
def EndsBefore (follow : Option Char) (inside : Char → Bool) : Prop :=
  ∀ c, follow = some c → inside c = false

/-- The lexemes that no character can extend, and their kinds. -/
def fixedLexemes : List (List Char × TokenKind) :=
  [([';'], .semicolon), (['('], .leftParen), ([')'], .rightParen), ([','], .comma),
    (['+'], .operator), (['-'], .operator), (['*'], .operator), (['/'], .operator),
    (['='], .relation), ([':', '='], .assign), ([':', ':'], .typeOf), (['<', '='], .relation),
    (['<', '>'], .relation), (['>', '='], .relation)]

/-- Characters that make a token of a kind and value where `follow` comes next. -/
inductive Lexeme : List Char → Option Char → TokenKind → TokenValue → Prop where
  | fixed {spelling : List Char} {kind : TokenKind} {follow : Option Char}
      (listed : (spelling, kind) ∈ fixedLexemes) :
      Lexeme spelling follow kind (.text (String.ofList spelling))
  | less {follow : Option Char} (ended : EndsBefore follow fun c => c == '=' || c == '>') :
      Lexeme ['<'] follow .relation (.text "<")
  | greater {follow : Option Char} (ended : EndsBefore follow fun c => c == '=') :
      Lexeme ['>'] follow .relation (.text ">")
  | integer {digits : List Char} {follow : Option Char} (read : IsDigits digits)
      (fits : valueOf digits ≤ Lexer.Verdict.greatestInteger)
      (ended : EndsBefore follow fun c => c.isDigit || c == '.') :
      Lexeme digits follow .number (.integer (Int64.ofNat (valueOf digits)))
  | decimal {whole fraction : List Char} {follow : Option Char} (before : IsDigits whole)
      (after : IsDigits fraction) (ended : EndsBefore follow Char.isDigit) :
      Lexeme (whole ++ '.' :: fraction) follow .number
        (.decimal (.ofMagnitude
          (Binary64.nearest (valueOf (whole ++ fraction)) (Nat.pow 10 fraction.length))))
  | name {first : Char} {rest : List Char} {follow : Option Char}
      (begun : Text.isLetter first = true) (more : ∀ c ∈ rest, Lexer.continuesName c = true)
      (ended : EndsBefore follow Lexer.continuesName) :
      Lexeme (first :: rest) follow (.ofSpelling (String.ofList (first :: rest)))
        (.text (String.ofList (first :: rest)))

/-- Characters that stand where a token ought to begin and make none where `follow` comes next,
and what is wrong with them. Whatever follows beyond that does not mend them. -/
inductive Malformed : List Char → Option Char → Malformation → Prop where
  | unexpected {c : Char} {follow : Option Char} (visible : Text.isBlank c = false)
      (starter : c ∉ [';', '(', ')', ',', '+', '-', '*', '/', '=', ':', '<', '>'])
      (digit : c.isDigit = false) (name : Lexer.beginsName c = false) :
      Malformed [c] follow (.unexpectedChar c)
  | colon {follow : Option Char} (alone : EndsBefore follow fun c => c == '=' || c == ':') :
      Malformed [':'] follow (.malformedColon follow)
  | underscore {follow : Option Char} : Malformed ['_'] follow .leadingUnderscore
  | point {digits : List Char} {follow : Option Char} (read : IsDigits digits)
      (ended : EndsBefore follow Char.isDigit) :
      Malformed (digits ++ ['.']) follow .missingFraction
  | great {digits : List Char} {follow : Option Char} (read : IsDigits digits)
      (exceeds : Lexer.Verdict.greatestInteger < valueOf digits)
      (ended : EndsBefore follow fun c => c.isDigit || c == '.') :
      Malformed digits follow .integerOverflow

/-- Blank runs and lexemes in turn, from the position before the text up to a rest of the text
and the position before it. Each token has the position of its first character. -/
inductive Tokens : Span → List Char → List Token → Span → List Char → Prop where
  | none {before : Span} {rest : List Char} : Tokens before rest [] before rest
  | blank {before after : Span} {c : Char} {text rest : List Char} {tokens : List Token}
      (blank : Text.isBlank c = true)
      (more : Tokens (before.advance c) text tokens after rest) :
      Tokens before (c :: text) tokens after rest
  | token {before after : Span} {lexeme text rest : List Char} {first : Char}
      {kind : TokenKind} {value : TokenValue} {tokens : List Token}
      (begun : lexeme.head? = some first) (read : Lexeme lexeme text.head? kind value)
      (more : Tokens (before.after lexeme) text tokens after rest) :
      Tokens before (lexeme ++ text) (⟨kind, value, before.advance first⟩ :: tokens) after rest

/-- A whole text of tokens. -/
def Complete (text : List Char) (tokens : List Token) : Prop :=
  ∃ after, Tokens .start text tokens after []

/-- A text whose tokens end before malformed characters, the first of them at `span`. -/
def Broken (text : List Char) (tokens : List Token) (malformation : Malformation)
    (span : Span) : Prop :=
  ∃ after opening first rest, Tokens .start text tokens after (opening ++ rest) ∧
    opening.head? = some first ∧ Malformed opening rest.head? malformation ∧
    span = after.advance first

end TokenListing.Grammar
