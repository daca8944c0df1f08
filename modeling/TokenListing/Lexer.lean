import TokenListing.Diagnostic.Log
import TokenListing.Lexer.Scan

/-! # Lexers

A lexer cuts the characters of a source into tokens, one per call. It reads at most one
character beyond a token and takes it back. The first time that there is no further token is
final: a lexer that came to the end of its input, to a malformed token or to a failed read
gives that same answer ever after and reads no more. An error is reported to the log once.
-/
namespace TokenListing

/-- Why a lexer gives no more tokens. -/
inductive Lexer.Ending where
  | endOfInput
  | failed (error : LexError)
  deriving DecidableEq, Repr

structure Lexer where
  source : Source
  log : Diagnostic.Log
  ending : Option Lexer.Ending

namespace Lexer

def Ending.answer : Ending → Answer
  | endOfInput => .ok none
  | failed error => .error error

def ofInput (input : Input) (capacity : Nat := Source.defaultCapacity)
    (log : Diagnostic.Log := {}) : Lexer where
  source := .ofInput input capacity
  log := log
  ending := none

def position (lexer : Lexer) : Span :=
  lexer.source.position

def isFinished (lexer : Lexer) : Bool :=
  lexer.ending.isSome

/-- The lexer after a scan that gave an answer. The answer is told; an error is reported, and a
lexer without a token is at its end. -/
def settled (source : Source) (log : Diagnostic.Log) : Answer → Lexer
  | .ok (some token) => ⟨source.tell (.token token), log, none⟩
  | .ok none => ⟨source.tell (.endOfInput source.position), log, some .endOfInput⟩
  | .error error =>
    ⟨source.tell (.failed error), log.report error.diagnostic, some (.failed error)⟩

def nextToken (lexer : Lexer) : Answer × Lexer :=
  match lexer with
  | ⟨source, log, none⟩ =>
    let (answer, scan) := (Scan.ofSource source).run
    (answer, settled scan.source log answer)
  | ⟨_, _, some ending⟩ => (ending.answer, lexer)

/-- The next token or error of the sequence that a lexer yields: tokens, then at most one error,
then nothing. -/
def next (lexer : Lexer) : Option (Except LexError Token) × Lexer :=
  if lexer.isFinished then (none, lexer)
  else
    match lexer.nextToken with
    | (.ok token, lexer) => (token.map .ok, lexer)
    | (.error error, lexer) => (some (.error error), lexer)

end Lexer
end TokenListing
