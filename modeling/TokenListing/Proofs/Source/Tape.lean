import TokenListing.Proofs.Calls
import TokenListing.Proofs.Source.Reading

/-! # A source is a tape of decoded characters

A tape holds a text and perhaps one character taken back. A source over an input that does not
fail gives the replies of the tape that holds what the reference decoder makes of the input's
bytes. How the bytes were cut into reads and chunks, and where sequences lie across them, is not
to be seen in any reply.
-/
namespace TokenListing

structure Tape where
  text : List Char
  held : Option Char
  deriving DecidableEq, Repr

namespace Tape

def ofText (text : List Char) : Tape :=
  ⟨text, none⟩

/-- The character taken back comes first; after the text there is none. -/
def next : Tape → Option Char × Tape
  | ⟨text, some char⟩ => (some char, ⟨text, none⟩)
  | ⟨[], none⟩ => (none, ⟨[], none⟩)
  | ⟨char :: text, none⟩ => (some char, ⟨text, none⟩)

def reply (tape : Tape) : Source.Call → Source.Reply × Tape
  | .next => (.char (.ok tape.next.1), tape.next.2)
  | .takeBack char =>
    match tape.held with
    | some held => (.takenBack (.error ⟨held⟩), tape)
    | none => (.takenBack (.ok ()), { tape with held := some char })

end Tape

namespace Source

/-- The source has the text of the tape to come and holds the same character. -/
def Follows (source : Source) (tape : Tape) : Prop :=
  source.Reading tape.text ∧ source.held = tape.held

theorem follows_next {source : Source} {tape : Tape} (h : source.Follows tape) :
    source.next.1 = .ok tape.next.1 ∧ source.next.2.Follows tape.next.2 := by
  obtain ⟨text, held⟩ := tape
  obtain ⟨reading, same⟩ := h
  cases held with
  | some char =>
    rw [next_of_held same]
    exact ⟨rfl, reading.withHeld _, rfl⟩
  | none =>
    cases text with
    | nil =>
      obtain ⟨after, found, left, free, -⟩ := reading.next_nil same
      rw [found]
      exact ⟨rfl, left, free⟩
    | cons char text =>
      obtain ⟨after, found, left, free, -⟩ := reading.next_cons same
      rw [found]
      exact ⟨rfl, left, free⟩

theorem bisimulation_follows : Calls.Bisimulation reply Tape.reply Follows := by
  intro source tape call h
  cases call with
  | next =>
    obtain ⟨same, after⟩ := follows_next h
    exact ⟨congrArg Reply.char same, after⟩
  | takeBack char =>
    obtain ⟨reading, same⟩ := h
    rw [reply, Tape.reply, takeBack, same]
    cases held : tape.held with
    | some other => exact ⟨rfl, reading, same⟩
    | none => exact ⟨rfl, reading.withHeld _, rfl⟩

/-- A source over an input without failures replies to every sequence of calls as a tape that
holds the decoded bytes of the input. Both refuse a character while they hold another one. -/
theorem replies_eq_tape {input : Input} {capacity : Nat} {bytes : List UInt8}
    (room : 0 < capacity) (unblocked : input.limit ≠ some 0)
    (delivered : input.contents = .ok bytes) (calls : List Call) :
    (Calls.replies reply (ofInput input capacity) calls).1 =
      (Calls.replies Tape.reply (.ofText (Text.Utf8.reference bytes)) calls).1 := by
  rw [← Text.Utf8.decode_eq_reference]
  exact (bisimulation_follows.replies
    ⟨reading_ofInput room unblocked delivered, rfl⟩ calls).1

/-- A sequence of two bytes is cut by chunks of one byte, by the limit and by an interruption. -/
theorem replies_eq_tape_cut_sequence :
    let input : Input := { items := [.data [0xC3], .failure ⟨.interrupted, ""⟩,
      .data [0xA9, 0xE2, 0x61], .pause, .data [0x62]], limit := some 2 }
    let calls : List Call := [.next, .takeBack 'z', .next, .next, .next, .next, .next]
    0 < 1 ∧ input.limit ≠ some 0 ∧ input.contents = .ok [0xC3, 0xA9, 0xE2, 0x61] ∧
      (Calls.replies reply (ofInput input 1) calls).1 =
        (Calls.replies Tape.reply (.ofText (Text.Utf8.reference [0xC3, 0xA9, 0xE2, 0x61]))
          calls).1 :=
  ⟨by decide, by decide, rfl, replies_eq_tape (by decide) (by decide) rfl _⟩

end Source
end TokenListing
