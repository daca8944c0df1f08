import TokenListing.LexError
import TokenListing.Token

/-! # Events

What happens during a run, told as it happens: which parts of the program tell it, how
important it is, and the values that go with it.
-/
namespace TokenListing

inductive Event.Level where
  | trace
  | debug
  | info
  | warn
  deriving DecidableEq, Repr

inductive Event.Origin where
  | lexer
  | driver
  deriving DecidableEq, Repr

inductive Event where
  /-- A chunk of the source was filled with so many bytes. -/
  | refilled (chunk : Fin 2) (bytes : Nat)
  | token (token : Token)
  | endOfInput (span : Span)
  | failed (error : LexError)
  | lexing (chunkCapacity : Nat)
  | finished (tokens : Nat) (success : Bool)
  | loadedConfig (path : String)
  deriving DecidableEq, Repr

namespace Event
namespace Level

def name : Level → String
  | trace => "TRACE"
  | debug => "DEBUG"
  | info => "INFO"
  | warn => "WARN"

def rank : Level → Nat
  | warn => 2
  | info => 3
  | debug => 4
  | trace => 5

end Level

def level : Event → Level
  | refilled .. => .trace
  | token _ | endOfInput _ | loadedConfig _ => .debug
  | lexing _ | finished .. => .info
  | failed _ => .warn

def origin : Event → Origin
  | refilled .. | token _ | endOfInput _ | failed _ => .lexer
  | lexing _ | finished .. | loadedConfig _ => .driver

def message : Event → String
  | refilled .. => "refilled input chunk"
  | token _ => "token"
  | endOfInput _ => "end of input"
  | failed error => error.text
  | lexing _ => "lexing input"
  | finished .. => "finished"
  | loadedConfig _ => "loaded configuration"

def fields : Event → List (String × String)
  | refilled chunk bytes => [("chunk", toString chunk.val), ("bytes", toString bytes)]
  | token t => [("kind", t.kind.name), ("value", t.value.display), ("at", t.span.text)]
  | endOfInput span => [("at", span.text)]
  | failed error => [("code", error.code.text), ("at", error.span.text)]
  | lexing chunkCapacity => [("chunk_capacity", toString chunkCapacity)]
  | finished tokens success => [("tokens", toString tokens), ("success", toString success)]
  | loadedConfig path => [("path", path)]

/-- A refill, which depends on how the input was cut into reads. -/
def isRefill : Event → Bool
  | refilled .. => true
  | _ => false

end Event
end TokenListing
