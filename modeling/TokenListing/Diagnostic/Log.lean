import TokenListing.Diagnostic
import TokenListing.Stream.Output

/-! # Logs of diagnostics

A log keeps every diagnostic in the order of its report. Rendering writes the blocks one after
the other and leaves the log as it is.
-/
namespace TokenListing.Diagnostic

structure Log where
  entries : List Diagnostic := []
  deriving DecidableEq, Inhabited, Repr

namespace Log

def report (log : Log) (diagnostic : Diagnostic) : Log :=
  ⟨log.entries ++ [diagnostic]⟩

def hasErrors (log : Log) : Bool :=
  !log.entries.isEmpty

def count (log : Log) : Nat :=
  log.entries.length

def text (log : Log) : String :=
  String.join (log.entries.map fun diagnostic => diagnostic.text ++ "\n")

/-- Writes block after block until a write fails; after the last block the output is flushed. -/
def renderEntries : List Diagnostic → Output → Except Failure Unit × Output
  | [], output => output.flush
  | diagnostic :: rest, output =>
    match output.write (diagnostic.text ++ "\n") with
    | (.ok (), output) => renderEntries rest output
    | (.error failure, output) => (.error failure, output)

def render (log : Log) (output : Output) : Except Failure Unit × Output :=
  renderEntries log.entries output

def renderFailureText (failure : Failure) : String :=
  "Failed to write diagnostics: " ++ failure.message

end Log
end TokenListing.Diagnostic
