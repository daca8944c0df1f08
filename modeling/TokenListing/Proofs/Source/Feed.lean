import TokenListing.Proofs.Stream.Characters
import TokenListing.Source

/-! # Feeds

A feed is what a source amounts to once its chunks are forgotten: the signals that it has not
used yet, the character that it holds, its position, and what it told of besides its refills.
-/
namespace TokenListing

/-- A source without its chunks. -/
@[ext] structure Feed where
  signals : List Signal
  held : Option Char
  position : Span
  events : List Event

namespace Feed

def next (feed : Feed) : Except Failure (Option Char) × Feed :=
  match feed.held with
  | some char => (.ok (some char), { feed with held := none })
  | none =>
    match Signal.nextChar feed.signals with
    | (.error failure, signals) => (.error failure, { feed with signals })
    | (.ok none, signals) => (.ok none, { feed with signals })
    | (.ok (some char), signals) =>
      (.ok (some char), { feed with signals, position := feed.position.advance char })

theorem next_of_held {feed : Feed} {char : Char} (h : feed.held = some char) :
    feed.next = (.ok (some char), { feed with held := none }) := by
  simp only [next, h]

theorem next_of_error {feed : Feed} {signals : List Signal} {failure : Failure}
    (free : feed.held = none) (h : Signal.nextChar feed.signals = (.error failure, signals)) :
    feed.next = (.error failure, { feed with signals }) := by
  simp only [next, free, h]

theorem next_of_none {feed : Feed} {signals : List Signal} (free : feed.held = none)
    (h : Signal.nextChar feed.signals = (.ok none, signals)) :
    feed.next = (.ok none, { feed with signals }) := by
  simp only [next, free, h]

theorem next_of_some {feed : Feed} {signals : List Signal} {char : Char}
    (free : feed.held = none) (h : Signal.nextChar feed.signals = (.ok (some char), signals)) :
    feed.next = (.ok (some char),
      { feed with signals, position := feed.position.advance char }) := by
  simp only [next, free, h]

def silent (feed : Feed) : Feed :=
  { feed with events := [] }

theorem next_silent (feed : Feed) :
    feed.silent.next = (feed.next.1, feed.next.2.silent) ∧
      feed.next.2.events = feed.events := by
  obtain ⟨signals, held, position, events⟩ := feed
  cases held with
  | some char => exact ⟨rfl, rfl⟩
  | none =>
    simp only [silent, next]
    match Signal.nextChar signals with
    | (.error failure, rest) => exact ⟨rfl, rfl⟩
    | (.ok none, rest) => exact ⟨rfl, rfl⟩
    | (.ok (some char), rest) => exact ⟨rfl, rfl⟩

def tell (feed : Feed) (event : Event) : Feed :=
  { feed with events := feed.events ++ [event].filter fun event => !event.isRefill }

end Feed

namespace Source

/-- The signals that a source has not used yet: the byte set aside, the bytes of its chunks, and
those of its input unless that came to an end. -/
def signals (source : Source) : List Signal :=
  source.stray.toList.map .byte ++ source.chunks.unread.map .byte ++
    if source.exhausted then [] else source.input.signals

def told (source : Source) : List Event :=
  source.events.toList.filter fun event => !event.isRefill

def feed (source : Source) : Feed where
  signals := source.signals
  held := source.held
  position := source.position
  events := source.told

end Source
end TokenListing
