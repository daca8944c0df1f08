import TokenListing.Config
import TokenListing.Listing

/-! # Listing sessions

A session writes the listings of inputs on outputs, each line as soon as it is known. A malformed
token is an outcome of the run; only the failure of a stream is an error. The session keeps the
diagnostics of all its runs.
-/
namespace TokenListing

inductive RunError where
  | input (error : LexError)
  | output (failure : Failure)
  | config (error : ConfigError)
  deriving DecidableEq, Repr

namespace RunError

def text : RunError → String
  | input error => error.text
  | output failure => "Failed to write output: " ++ failure.message
  | config error => error.text

def causes : RunError → List String
  | input _ => []
  | output failure => [failure.message]
  | config error => error.causes

end RunError

structure Session where
  config : Config
  log : Diagnostic.Log
  deriving DecidableEq, Repr

structure Session.Run where
  result : Except RunError Outcome
  session : Session
  input : Input
  output : Output
  events : Array Event

namespace Session

def ofConfig (config : Config) : Except ConfigError Session := do
  config.validate
  return { config, log := {} }

def close (outcome : Outcome) (output : Output) : Except RunError Outcome × Output :=
  match output.write outcome.line with
  | (.error failure, output) => (.error (.output failure), output)
  | (.ok (), output) =>
    match output.flush with
    | (.error failure, output) => (.error (.output failure), output)
    | (.ok (), output) => (.ok outcome, output)

/-- Lists the tokens of a lexer after `count` others. -/
def list (showPosition : Bool) (lexer : Lexer) (output : Output) (count : Nat) :
    Except RunError Outcome × Lexer × Output :=
  match _hnext : lexer.nextToken with
  | (.ok (some token), lexer) =>
    match output.write (token.line showPosition) with
    | (.error failure, output) => (.error (.output failure), lexer, output)
    | (.ok (), output) => list showPosition lexer output (count + 1)
  | (.ok none, lexer) =>
    let (result, output) := close (.success count) output
    (result, lexer, output)
  | (.error (.malformed _ span), lexer) =>
    let (result, output) := close (.lexicalError span count) output
    (result, lexer, output)
  | (.error error, lexer) => (.error (.input error), lexer, output)
termination_by lexer.source.pending
decreasing_by exact Lexer.pending_nextToken _hnext

def run (session : Session) (input : Input) (output : Output) : Run :=
  match session.config.capacity with
  | .error error => { result := .error (.config error), session, input, output, events := #[] }
  | .ok capacity =>
    let lexer := Lexer.ofInput input capacity session.log
    let lexer := { lexer with source := lexer.source.tell (.lexing capacity) }
    let (result, lexer, output) := list session.config.showPosition lexer output 0
    let source := match result with
      | .ok outcome => lexer.source.tell (.finished outcome.tokens outcome.isSuccess)
      | .error _ => lexer.source
    { result
      session := { session with log := lexer.log }
      input := source.input
      output
      events := source.events }

end Session
end TokenListing
