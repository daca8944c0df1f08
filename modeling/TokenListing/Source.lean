import TokenListing.Event
import TokenListing.Source.ChunkPair
import TokenListing.Stream.Input
import TokenListing.Text.Utf8

/-! # Character sources

A source hands out the characters of an input one at a time. Its bytes go through a pair of
chunks, so memory is bounded however long the input is; a read is made only when the chunks are
dry. A byte that turns out not to belong to the sequence being decoded is set aside and comes
first next time, and one character may be taken back. The position is that of the character read
last; taking it back and reading it again do not move it.

Every character that is handed out lowers `Source.pending`, which is what makes a run over a
source end.
-/
namespace TokenListing

structure Source where
  input : Input
  chunks : ChunkPair
  /-- Whether a refill brought no bytes. -/
  exhausted : Bool
  /-- A byte that ended a sequence it did not belong to. -/
  stray : Option UInt8
  /-- The character taken back. -/
  held : Option Char
  /-- The position of the character read last. -/
  position : Span
  events : Array Event

/-- A character cannot be taken back while another one waits to be read again. -/
structure Source.SlotTaken where
  held : Char
  deriving DecidableEq, Repr

def Source.SlotTaken.text (taken : SlotTaken) : String :=
  "pushback slot already holds Some(" ++ Text.quoted taken.held ++ ")"

inductive Source.Call where
  | next
  | takeBack (char : Char)
  deriving DecidableEq, Repr

inductive Source.Reply where
  | char (answer : Except Failure (Option Char))
  | takenBack (answer : Except Source.SlotTaken Unit)

namespace Source

def defaultCapacity : Nat := 10

def ofInput (input : Input) (capacity : Nat := defaultCapacity) : Source where
  input := input
  chunks := .empty capacity
  exhausted := false
  stray := none
  held := none
  position := .start
  events := #[]

def capacity (source : Source) : Nat :=
  source.chunks.capacity

def tell (source : Source) (event : Event) : Source :=
  { source with events := source.events.push event }

/-- Fills the spare chunk by one read. A read that brings no bytes exhausts the source, and one
that fails leaves the source as it was. -/
def refill : Source → Except Failure Unit × Source
  | ⟨input, chunks, exhausted, stray, held, position, events⟩ =>
    match input.readPatiently chunks.capacity with
    | (.error failure, input) =>
      (.error failure, ⟨input, chunks, exhausted, stray, held, position, events⟩)
    | (.ok bytes, input) =>
      let events := events.push (.refilled chunks.spareTurn bytes.length)
      (.ok (), ⟨input, chunks.supply bytes, bytes.isEmpty, stray, held, position, events⟩)

def drain (source : Source) : Option UInt8 × Source :=
  match source.chunks.drain with
  | some (byte, chunks) => (some byte, { source with chunks })
  | none => (none, source)

/-- One pass for a byte: it is drained, or the chunks are refilled. Only a refill that brought bytes
leads to another pass. -/
def pass (source : Source) : Source ⊕ (Except Failure (Option UInt8) × Source) :=
  match source.drain with
  | (some byte, source) => .inr (.ok (some byte), source)
  | (none, source) =>
    if source.exhausted then .inr (.ok none, source)
    else
      match source.refill with
      | (.error failure, source) => .inr (.error failure, source)
      | (.ok (), source) => if source.exhausted then .inr (.ok none, source) else .inl source

def passes : Nat → Source → Option (Except Failure (Option UInt8)) × Source
  | 0, source => (none, source)
  | count + 1, source =>
    match source.pass with
    | .inl source => passes count source
    | .inr (answer, source) => (some answer, source)

/-- The next byte: the one set aside, or one from the chunks. The first pass drains the active
chunk, the second one the chunk that was just refilled. -/
def nextByte (source : Source) : Except Failure (Option UInt8) × Source :=
  match source.stray with
  | some byte => (.ok (some byte), { source with stray := none })
  | none =>
    let (answer, source) := source.passes 2
    (answer.getD (.ok none), source)

/-- The next byte of a sequence, or what the sequence comes to without one. A byte that does not
continue the sequence is set aside, and like the end of input it leaves a malformed sequence. -/
def continuation (source : Source) : (UInt8 × Source) ⊕ (Except Failure Char × Source) :=
  match source.nextByte with
  | (.error failure, source) => .inr (.error failure, source)
  | (.ok none, source) => .inr (.ok Text.Utf8.replacement, source)
  | (.ok (some byte), source) =>
    if Text.Utf8.isContinuation byte then .inl (byte, source)
    else .inr (.ok Text.Utf8.replacement, { source with stray := some byte })

def collect (lead : UInt8) : Nat → List UInt8 → Source → Except Failure Char × Source
  | 0, tail, source => (.ok (Text.Utf8.scalar lead tail), source)
  | missing + 1, tail, source =>
    match source.continuation with
    | .inl (byte, source) => collect lead missing (tail ++ [byte]) source
    | .inr ended => ended

def decode (lead : UInt8) (source : Source) : Except Failure Char × Source :=
  match Text.Utf8.width lead with
  | none => (.ok Text.Utf8.replacement, source)
  | some width => collect lead (width - 1) [] source

/-- The next character, or `none` at the end of the input. A character taken back comes first. A
failed read leaves the position as it was, and the bytes of a sequence it interrupts are lost. -/
def next (source : Source) : Except Failure (Option Char) × Source :=
  match source.held with
  | some char => (.ok (some char), { source with held := none })
  | none =>
    match source.nextByte with
    | (.error failure, source) => (.error failure, source)
    | (.ok none, source) => (.ok none, source)
    | (.ok (some lead), source) =>
      match source.decode lead with
      | (.error failure, source) => (.error failure, source)
      | (.ok char, source) =>
        (.ok (some char), { source with position := source.position.advance char })

def takeBack (source : Source) (char : Char) : Except SlotTaken Source :=
  match source.held with
  | some held => .error ⟨held⟩
  | none => .ok { source with held := some char }

/-- The reply to a call, and the source after it. A slot that is taken keeps its character. -/
def reply (source : Source) : Call → Reply × Source
  | .next => (.char source.next.1, source.next.2)
  | .takeBack char =>
    match source.takeBack char with
    | .ok after => (.takenBack (.ok ()), after)
    | .error taken => (.takenBack (.error taken), source)

/-- A bound on the characters to come: what is held or set aside, the undrained bytes, and the
weight of the input. -/
def pending (source : Source) : Nat :=
  source.held.toList.length + source.stray.toList.length + source.chunks.remaining +
    source.input.weight

end Source
end TokenListing
