/-! # Failures of streams

What can go wrong with a byte stream: a kind of failure and a message about it.
-/
namespace TokenListing

inductive Failure.Kind where
  | notFound
  | permissionDenied
  | connectionReset
  | brokenPipe
  | wouldBlock
  | invalidData
  | timedOut
  | writeZero
  | interrupted
  | unexpectedEnd
  | notADirectory
  | isADirectory
  | other
  deriving DecidableEq, Repr

def Failure.Kind.description : Failure.Kind → String
  | .notFound => "entity not found"
  | .permissionDenied => "permission denied"
  | .connectionReset => "connection reset"
  | .brokenPipe => "broken pipe"
  | .wouldBlock => "operation would block"
  | .invalidData => "invalid data"
  | .timedOut => "timed out"
  | .writeZero => "write zero"
  | .interrupted => "operation interrupted"
  | .unexpectedEnd => "unexpected end of file"
  | .notADirectory => "not a directory"
  | .isADirectory => "is a directory"
  | .other => "other error"

structure Failure where
  kind : Failure.Kind
  message : String
  deriving DecidableEq, Repr

namespace Failure

/-- A stream that accepts no more bytes. -/
def nothingAccepted : Failure :=
  ⟨.writeZero, "failed to write whole buffer"⟩

def notUtf8 : Failure :=
  ⟨.invalidData, "stream did not contain valid UTF-8"⟩

end Failure
end TokenListing
