import TokenListing.Lexer.Progress

/-! # Listings

The listing of an input has one line per token and a last line that tells how the input ended. If
the input cannot be read to an end, the last line is missing.
-/
namespace TokenListing

def Token.line (showPosition : Bool) (token : Token) : String :=
  let position := if showPosition then ", " ++ token.span.text else ""
  "<" ++ token.kind.name ++ ", token-attr:\"" ++ token.value.display ++ "\"" ++ position ++ ">\n"

inductive Outcome where
  | success (tokens : Nat)
  /-- The token at `span` is malformed. -/
  | lexicalError (span : Span) (tokens : Nat)
  deriving DecidableEq, Repr

namespace Outcome

def tokens : Outcome → Nat
  | success tokens | lexicalError _ tokens => tokens

def isSuccess : Outcome → Bool
  | success _ => true
  | lexicalError .. => false

def exitCode : Outcome → UInt8
  | success _ => 0
  | lexicalError .. => 1

def line : Outcome → String
  | success _ => "Success!\n"
  | lexicalError span _ => "Error! There is a lexical error at " ++ span.text ++ ".\n"

/-- The outcome after so many tokens and perhaps an error. A failed read is no outcome. -/
def ofEnd? (tokens : Nat) : Option LexError → Option Outcome
  | none => some (success tokens)
  | some (.malformed _ span) => some (lexicalError span tokens)
  | some (.unreadable ..) => none

end Outcome

structure Listing where
  tokens : List Token
  outcome : Option Outcome
  deriving DecidableEq, Repr

namespace Listing

def ofLexer (lexer : Lexer) : Listing :=
  let (tokens, error, _) := lexer.collect
  ⟨tokens, Outcome.ofEnd? tokens.length error⟩

def text (showPosition : Bool) (listing : Listing) : String :=
  String.join (listing.tokens.map (Token.line showPosition)) ++ listing.outcome.elim "" Outcome.line

end Listing
end TokenListing
