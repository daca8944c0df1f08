import TokenListing.Stream.Failure

/-! # Outputs

An output keeps the bytes it has received. It may accept a limited number of bytes only: a text
is then cut short at the limit, and the write fails. A flush is counted before it fails.
-/
namespace TokenListing

structure Output where
  /-- The number of bytes accepted in all. -/
  limit : Option Nat := none
  /-- How a write fails beyond the limit. -/
  refusal : Failure := .nothingAccepted
  /-- How a flush fails, if it does. -/
  flushFailure : Option Failure := none
  flushes : Nat := 0
  received : ByteArray := .empty
  deriving Inhabited

namespace Output

def room (output : Output) (size : Nat) : Nat :=
  match output.limit with
  | none => size
  | some limit => min size (limit - output.received.size)

/-- Writes a whole text, or what fits of it before failing. -/
def write (output : Output) (text : String) : Except Failure Unit × Output :=
  let bytes := text.toUTF8
  let room := output.room bytes.size
  let next := { output with received := output.received ++ bytes.extract 0 room }
  (if room < bytes.size then .error output.refusal else .ok (), next)

def flush (output : Output) : Except Failure Unit × Output :=
  (match output.flushFailure with
    | some failure => .error failure
    | none => .ok (),
    { output with flushes := output.flushes + 1 })

end Output
end TokenListing
