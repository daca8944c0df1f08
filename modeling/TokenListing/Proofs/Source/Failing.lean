import TokenListing.Proofs.Source.Alike
import TokenListing.Proofs.Source.Position
import TokenListing.Proofs.Stream.Failing

/-! # Failed reads

A read that fails loses the bytes of the sequence that it interrupts and nothing else. Up to there
a source hands out what the bytes before the failure decode to; after it the source is as one that
was never asked, but for its position.
-/
namespace TokenListing.Source
open Text.Utf8

structure Emptied (source : Source) : Prop where
  stray : source.stray = none
  drained : source.chunks.unread = []
  live : source.exhausted = false

theorem emptied_nextByte {source after : Source} {failure : Failure} (sound : source.Sound)
    (h : source.nextByte = (.error failure, after)) : after.Emptied := by
  cases draws_nextByte sound.chunks h with
  | failed free dry live read => exact ⟨free, ChunkPair.unread_of_drain_none sound.chunks dry, live⟩

theorem Collects.emptied {lead : UInt8} {missing : Nat} {tail : List UInt8}
    {source after : Source} {answer : Except Failure Char} {failure : Failure}
    (h : Collects lead missing tail source answer after) (sound : source.Sound)
    (failed : answer = .error failure) : after.Emptied := by
  induction h with
  | failed asks => exact emptied_nextByte sound asks
  | more asks _ _ ih => exact ih (nextByte_used sound asks).2.sound failed
  | whole | ended | cut => cases failed

theorem emptied_next {source after : Source} {failure : Failure} (sound : source.Sound)
    (h : source.next = (.error failure, after)) : after.Emptied := by
  cases takes_next h with
  | failed _ asks => exact emptied_nextByte sound asks
  | broken _ asks decodes =>
    cases decodes with
    | announced _ collects => exact collects.emptied (nextByte_used sound asks).2.sound rfl

theorem Awaits.reads {source : Source} {bytes kept lost : List UInt8} {more : List Signal}
    (parts : Parts bytes kept lost)
    (h : source.Awaits (kept.map .byte ++ (lost.map .byte ++ more))) :
    let read := Calls.replies reply source (.replicate (Text.Utf8.decode kept).length .next)
    read.1 = (Text.Utf8.decode kept).map (fun c => .char (.ok (some c))) ∧
      read.2.Awaits (lost.map .byte ++ more) ∧
      read.2.position = source.position.after (Text.Utf8.decode kept) := by
  fun_induction Text.Utf8.decode kept generalizing source bytes with
  | case1 => exact ⟨rfl, h, rfl⟩
  | case2 lead kept ih =>
    obtain ⟨first, next⟩ := Signal.nextChar_of_parts parts more
    obtain ⟨after, found, awaits, position⟩ := h.next first
    obtain ⟨rest, last, counted⟩ := ih next awaits
    simp only [List.length_cons, List.replicate_succ, Calls.replies, reply, found, rest,
      List.map_cons, true_and]
    exact ⟨last, by rw [counted, position]; rfl⟩

end TokenListing.Source

namespace TokenListing

/-- What an input brings up to a failure, with the failure. -/
structure Stretch where
  front : List Input.Item
  failure : Failure
  passing : ∀ item ∈ front, item.Passes
  /-- The failure is none that a read is tried again after. -/
  lasting : failure.kind ≠ .interrupted

namespace Stretch
open Source (Call Reply)
open Text.Utf8

def items (stretch : Stretch) : List Input.Item :=
  stretch.front ++ [.failure stretch.failure]

def bytes (stretch : Stretch) : List UInt8 :=
  stretch.front.flatMap Input.Item.bytes

/-- What the bytes before the failure decode to, without a sequence that it interrupts. -/
def text (stretch : Stretch) : List Char :=
  decode (finished stretch.bytes)

def calls (stretch : Stretch) : List Call :=
  List.replicate stretch.text.length .next ++ [.next]

def replies (stretch : Stretch) : List Reply :=
  (stretch.text.map fun c => .char (.ok (some c))) ++ [.char (.error stretch.failure)]

theorem signals_items (stretch : Stretch) :
    stretch.items.flatMap Input.Item.signals =
      stretch.bytes.map .byte ++ [.failure stretch.failure] := by
  have front := Input.Item.signals_of_passes stretch.passing
  simp [items, bytes, front, Input.Item.signals, stretch.lasting]

end Stretch

namespace Source
open Text.Utf8

/-- A stretch is read up to the sequence that the failure interrupts, then the failure is told of,
and what is left is what comes after it. -/
theorem Awaits.stretch {source : Source} {stretch : Stretch} {more : List Signal}
    (h : source.Awaits (stretch.items.flatMap Input.Item.signals ++ more)) :
    let read := Calls.replies reply source (.replicate stretch.text.length .next)
    ∃ failed, read.2.next = (.error stretch.failure, failed) ∧
      read.1 = stretch.text.map (fun c => .char (.ok (some c))) ∧
      read.2.position = source.position.after stretch.text ∧
      failed.Awaits more ∧ failed.Emptied ∧ failed.position = read.2.position := by
  have split : stretch.bytes.map Signal.byte =
      (finished stretch.bytes).map .byte ++ (unfinished stretch.bytes).map .byte := by
    rw [← List.map_append, finished_append_unfinished]
  have brought : stretch.items.flatMap Input.Item.signals ++ more =
      (finished stretch.bytes).map .byte ++
        ((unfinished stretch.bytes).map .byte ++ (.failure stretch.failure :: more)) := by
    simp [stretch.signals_items, split]
  rw [brought] at h
  obtain ⟨handed, awaits, position⟩ := h.reads (parts_finished stretch.bytes)
  have interrupted : Signal.nextChar ((unfinished stretch.bytes).map .byte ++
      .failure stretch.failure :: more) = (.error stretch.failure, more) :=
    Signal.nextChar_failing (unfinished_eq_nil_or stretch.bytes) _ _
  obtain ⟨failed, found, rest, still⟩ := awaits.next interrupted
  exact ⟨failed, found, handed, position, rest, emptied_next awaits.sound found, still⟩

/-- Stretch after stretch is read alike, and the position counts on. -/
theorem Awaits.stretches {source : Source} {stretches : List Stretch} {more : List Signal}
    (h : source.Awaits
      ((stretches.flatMap Stretch.items).flatMap Input.Item.signals ++ more)) :
    let read := Calls.replies reply source (stretches.flatMap Stretch.calls)
    read.1 = stretches.flatMap Stretch.replies ∧ read.2.Awaits more ∧
      read.2.position = source.position.after (stretches.flatMap Stretch.text) := by
  induction stretches generalizing source with
  | nil => exact ⟨rfl, h, rfl⟩
  | cons stretch stretches ih =>
    simp only [List.flatMap_cons, List.flatMap_append, List.append_assoc] at h ⊢
    obtain ⟨failed, found, handed, counted, rest, -, still⟩ := h.stretch
    obtain ⟨others, last, position⟩ := ih rest
    simp only [Stretch.calls, Calls.replies_append, Calls.replies, reply, found]
    refine ⟨?_, last, ?_⟩
    · rw [handed, others]
      rfl
    · rw [position, still, counted, Span.after_append]

/-- A source that awaits what an input brings is like one that is made for that input, but for its
position. -/
theorem Awaits.alike {source : Source} {input : Input} {capacity : Nat}
    (h : source.Awaits input.signals) (room : 0 < capacity) (unblocked : input.limit ≠ some 0) :
    Alike source.told [] source { ofInput input capacity with position := source.position } where
  left := h.sound
  right := ⟨ChunkPair.sound_empty room, unblocked⟩
  feed := by
    have made := congrArg Feed.signals (feed_ofInput input capacity)
    refine Feed.ext ?_ h.free rfl rfl
    exact h.brings.trans made.symm
  told := ⟨[], (List.append_nil _).symm, rfl⟩

/-- Whatever stretches came before, a stretch is read as the characters of its finished sequences,
and the failure is told of next. No other bytes are lost than those of the sequence that it
interrupts. The failed call leaves nothing behind and does not move the position, and every
sequence of calls after it gets the replies of a source made for what comes after the failure. -/
theorem failures_lose_unfinished {input : Input} {capacity : Nat} (room : 0 < capacity)
    (unblocked : input.limit ≠ some 0) (earlier : List Stretch) (stretch : Stretch)
    (later : List Input.Item)
    (brought : input.items = earlier.flatMap Stretch.items ++ stretch.items ++ later) :
    let before := Calls.replies reply (ofInput input capacity) (earlier.flatMap Stretch.calls)
    let read := Calls.replies reply before.2 (.replicate stretch.text.length .next)
    let failed := read.2.next.2
    (before.1 = earlier.flatMap Stretch.replies ∧
      read.1 = stretch.text.map (fun c => .char (.ok (some c))) ∧
      read.2.position = Span.start.after (earlier.flatMap Stretch.text ++ stretch.text)) ∧
    (read.2.next.1 = .error stretch.failure ∧ failed.position = read.2.position ∧
      failed.held = none ∧ failed.Emptied) ∧
    (Parts stretch.bytes (finished stretch.bytes) (unfinished stretch.bytes) ∧
      ∃ segments : List (List UInt8), segments.flatten = finished stretch.bytes ∧
        segments.map Text.Utf8.decode = stretch.text.map fun c => [c]) ∧
    ∀ (limit : Option Nat) (capacity' : Nat) (calls : List Call), limit ≠ some 0 →
      0 < capacity' →
      let resumed := Calls.replies reply failed calls
      let fresh := Calls.replies reply
        { ofInput { items := later, limit } capacity' with position := failed.position } calls
      resumed.1 = fresh.1 ∧ resumed.2.position = fresh.2.position := by
  intro before read failed
  have start : (ofInput input capacity).Awaits
      ((earlier.flatMap Stretch.items).flatMap Input.Item.signals ++
        (stretch.items.flatMap Input.Item.signals ++ later.flatMap Input.Item.signals)) := by
    have made := congrArg Feed.signals (feed_ofInput input capacity)
    refine ⟨sound_ofInput room unblocked, rfl, made.trans ?_⟩
    simp [Input.signals, brought]
  obtain ⟨replies, awaits, counted⟩ := start.stretches
  obtain ⟨after, found, handed, position, rest, emptied, still⟩ := awaits.stretch
  have same : failed = after := congrArg Prod.snd found
  refine ⟨⟨replies, handed, ?_⟩, ⟨congrArg Prod.fst found, ?_, ?_, ?_⟩,
    ⟨parts_finished stretch.bytes, exists_segments _⟩, ?_⟩
  · refine position.trans ?_
    rw [counted, Span.after_append]
    rfl
  · rw [same, still]
  · rw [same, rest.free]
  · exact same ▸ emptied
  · intro limit capacity' calls unblocked' room'
    have fresh : failed.Awaits { items := later, limit : Input }.signals := same ▸ rest
    obtain ⟨answers, alike⟩ :=
      bisimulation_alike.replies (fresh.alike room' unblocked') calls
    exact ⟨answers, alike.position⟩

/-- Two failures strike within a sequence, one after two of three bytes that an interruption lies
between, and one after three of four. The byte that would have been the fourth is read afresh. -/
theorem failures_lose_unfinished_twice :
    let first : Stretch := {
      front := [.data [0x78, 0xE2], .failure ⟨.interrupted, ""⟩, .data [0x82]]
      failure := ⟨.connectionReset, "gone"⟩
      passing := by simpa using ⟨.data _, .interruption rfl, .data _⟩
      lasting := by decide }
    let second : Stretch := {
      front := [.data [0x0A, 0xF0, 0x9F, 0x98]]
      failure := ⟨.timedOut, "late"⟩
      passing := by simpa using .data _
      lasting := by decide }
    let later : List Input.Item := [.data [0x80, 0x41]]
    let input : Input := { items := first.items ++ second.items ++ later, limit := some 1 }
    let before := Calls.replies reply (ofInput input 2) ([first].flatMap Stretch.calls)
    let read := Calls.replies reply before.2 (.replicate second.text.length .next)
    let failed := read.2.next.2
    let calls : List Call := [.next, .takeBack 'A', .next, .next]
    0 < 2 ∧ input.limit ≠ some 0 ∧
      input.items = [first].flatMap Stretch.items ++ second.items ++ later ∧
      before.1 = [.char (.ok (some 'x')), .char (.error first.failure)] ∧
      read.1 = [.char (.ok (some '\n'))] ∧ read.2.next.1 = .error second.failure ∧
      failed.position = ⟨2, 0⟩ ∧ unfinished second.bytes = [0xF0, 0x9F, 0x98] ∧
      (Calls.replies reply failed calls).1 =
        (Calls.replies reply
          { ofInput { items := later } 1 with position := failed.position } calls).1 := by
  intro first second later input before read failed calls
  have brought : input.items = [first].flatMap Stretch.items ++ second.items ++ later := rfl
  have spelled : first.text = ['x'] ∧ second.text = ['\n'] :=
    ⟨decode_flatMap_utf8EncodeChar ['x'], decode_flatMap_utf8EncodeChar ['\n']⟩
  obtain ⟨⟨replies, handed, counted⟩, ⟨told, still, -⟩, -, fresh⟩ :=
    failures_lose_unfinished (show 0 < 2 by decide) (by decide) [first] second later brought
  have position : failed.position = ⟨2, 0⟩ := by
    refine (still.trans counted).trans ?_
    simp only [List.flatMap_cons, List.flatMap_nil, spelled]
    rfl
  refine ⟨by decide, by decide, brought, replies.trans ?_, handed.trans ?_, told, position,
    by decide, (fresh none 1 calls (by decide) (by decide)).1⟩
  · simp [Stretch.replies, spelled.1]
  · simp [spelled.2]

end Source
end TokenListing
