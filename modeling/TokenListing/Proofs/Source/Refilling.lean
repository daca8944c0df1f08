import TokenListing.Proofs.Source.Waiting
import TokenListing.Source.Progress

/-! # How the chunks are refilled

The two chunks keep their size, and the cursor stays within what the active one was filled with. A
refill goes to the other chunk, and it is made only when no byte waits, so that no byte is
overwritten before it is taken. What a source told of its refills are the sizes of its reads, with
the numbers of the chunks in turn.
-/
namespace TokenListing

namespace ChunkPair

def chunk (pair : ChunkPair) (number : Fin 2) : Chunk :=
  if number = pair.turn then pair.active else pair.spare

variable {pair after : ChunkPair}

@[simp] theorem chunk_turn (pair : ChunkPair) : pair.chunk pair.turn = pair.active :=
  if_pos rfl

/-- Both chunks have the capacity, neither is filled beyond it, and the cursor is within the fill of
the active chunk. -/
structure Within (capacity : Nat) (pair : ChunkPair) : Prop where
  size (number : Fin 2) : (pair.chunk number).slots.size = capacity
  fill (number : Fin 2) : (pair.chunk number).fill ≤ capacity
  cursor : pair.cursor ≤ (pair.chunk pair.turn).fill

theorem Sound.within (sound : pair.Sound) : pair.Within pair.capacity where
  size number := by
    unfold chunk
    split
    · exact sound.active_size
    · rfl
  fill number := by
    unfold chunk
    split
    · exact sound.active_fill
    · exact sound.spare_fill
  cursor := by simpa using sound.cursor_le

theorem Within.inside {capacity : Nat} (h : pair.Within capacity)
    (left : pair.cursor < (pair.chunk pair.turn).fill) :
    ∃ byte, (pair.chunk pair.turn).slots[pair.cursor]? = some byte := by
  have fill := h.fill pair.turn
  have size := h.size pair.turn
  exact ⟨_, Array.getElem?_eq_getElem (by omega)⟩

theorem chunk_of_drain {byte : UInt8} (h : pair.drain = some (byte, after)) :
    after.chunk = pair.chunk ∧ after.turn = pair.turn := by
  unfold drain at h
  split at h
  · obtain ⟨_, _, same⟩ := Option.map_eq_some_iff.mp h
    cases same
    exact ⟨rfl, rfl⟩
  · cases h

theorem chunk_supply (pair : ChunkPair) (bytes : List UInt8) :
    (pair.supply bytes).chunk pair.turn = pair.chunk pair.turn := by
  have other : ∀ turn : Fin 2, turn ≠ turn + 1 := by decide
  rw [chunk_turn]
  unfold supply chunk
  dsimp only
  split
  · exact if_pos rfl
  · exact if_neg (other pair.turn)

end ChunkPair

namespace Source
open Input (sizes sizes_append delivered delivered_append)

variable {input : Input} {capacity : Nat} {answers : List Input.Answer} {source after : Source}

def turnAfter (count : Nat) : Fin 2 :=
  ⟨count % 2, Nat.mod_lt count Nat.two_pos⟩

/-- The refills that reads of these sizes make, into the chunks in turn. -/
def refills (counts : List Nat) : List Event :=
  counts.mapIdx fun i count => .refilled (turnAfter i) count

/-- A source that made these reads: they lead from its input to what is left of it, and it told of
the refills among them. The last of them brought nothing if the end was met, and no other one
did. -/
structure Recorded (input : Input) (capacity : Nat) (answers : List Input.Answer)
    (source : Source) : Prop where
  sound : source.chunks.Sound
  room : source.chunks.capacity = capacity
  reads : input.Reads capacity answers source.input
  told : source.events.toList = refills (sizes answers)
  turn : source.exhausted = false → source.chunks.spareTurn = turnAfter (sizes answers).length
  ended : source.exhausted = true ↔ 0 ∈ sizes answers
  last : 0 ∉ (sizes answers).dropLast

theorem recorded_ofInput (input : Input) (room : 0 < capacity) :
    Recorded input capacity [] (ofInput input capacity) where
  sound := ChunkPair.sound_empty room
  room := by simp [ofInput, ChunkPair.capacity, ChunkPair.empty, Chunk.empty]
  reads := .refl input
  told := rfl
  turn _ := by simp [ofInput, ChunkPair.spareTurn, ChunkPair.empty, sizes, turnAfter]
  ended := by simp [ofInput, sizes]
  last := by simp [sizes]

theorem Recorded.slots (h : Recorded input capacity answers source) (stray : Option UInt8)
    (held : Option Char) (position : Span) :
    Recorded input capacity answers { source with stray, held, position } :=
  ⟨h.sound, h.room, h.reads, h.told, h.turn, h.ended, h.last⟩

theorem refills_concat (counts : List Nat) (count : Nat) :
    refills (counts ++ [count]) =
      refills counts ++ [.refilled (turnAfter counts.length) count] := by
  simp [refills, List.mapIdx_concat]

theorem turnAfter_succ (count : Nat) : turnAfter (count + 1) = turnAfter count + 1 := by
  apply Fin.ext
  simp [turnAfter, Fin.val_add]

theorem Recorded.nonzero (h : Recorded input capacity answers source)
    (live : source.exhausted = false) : 0 ∉ sizes answers := by
  intro zero
  rw [h.ended.mpr zero] at live
  cases live

theorem Recorded.byte {answer : Except Failure (Option UInt8)}
    (h : Recorded input capacity answers source) (asks : source.nextByte = (answer, after)) :
    Recorded input capacity (answers ++ source.byteReads) after := by
  obtain ⟨sound, same⟩ := sound_nextByte h.sound asks
  have reads := h.reads.trans (h.room ▸ reads_nextByte h.sound asks)
  cases draws_nextByte h.sound asks with
  | aside stray =>
    have unread : source.byteReads = [] := by simp [byteReads, stray]
    rw [unread, List.append_nil]
    exact h.slots none source.held source.position
  | waiting free drains =>
    have unread : source.byteReads = [] := by simp [byteReads, drains]
    have turned := (ChunkPair.chunk_of_drain drains).2
    rw [unread, List.append_nil]
    refine ⟨sound, same.trans h.room, h.reads, h.told, ?_, h.ended, h.last⟩
    simpa [ChunkPair.spareTurn, turned] using h.turn
  | exhausted free dry ended =>
    have unread : source.byteReads = [] := by simp [byteReads, ended]
    rw [unread, List.append_nil]
    exact h
  | failed free dry live read =>
    have brought := (Input.tried_readPatiently read).sizes_eq
    have none : sizes (answers ++ source.byteReads) = sizes answers := by
      simp [byteReads, free, dry, live, sizes_append, brought, Except.toOption]
    exact ⟨sound, h.room, reads, none ▸ h.told, none ▸ h.turn, none ▸ h.ended, none ▸ h.last⟩
  | nothing free dry live read =>
    have brought := (Input.tried_readPatiently read).sizes_eq
    have one : sizes (answers ++ source.byteReads) = sizes answers ++ [0] := by
      simp [byteReads, free, dry, live, sizes_append, brought, Except.toOption]
    have nonzero := h.nonzero live
    refine ⟨sound, same.trans h.room, reads, ?_, by simp, ?_, ?_⟩
    · rw [one, refills_concat, Array.toList_push, h.told, h.turn live]
    · simp [one]
    · simpa [one] using nonzero
  | @refilled byte rest _ _ free dry live read drains =>
    have brought := (Input.tried_readPatiently read).sizes_eq
    have one : sizes (answers ++ source.byteReads) = sizes answers ++ [rest.length + 1] := by
      simp [byteReads, free, dry, live, sizes_append, brought, Except.toOption]
    have nonzero := h.nonzero live
    have turned := (ChunkPair.chunk_of_drain drains).2
    refine ⟨sound, same.trans h.room, reads, ?_, fun _ => ?_, ?_, ?_⟩
    · rw [one, refills_concat, Array.toList_push, h.told, h.turn live]
    · have next : source.chunks.turn + 1 = turnAfter (sizes answers).length := h.turn live
      rw [one, List.length_append, List.length_singleton, turnAfter_succ, ← next]
      exact congrArg (· + 1) turned
    · simpa [one] using nonzero
    · simpa [one] using nonzero

/-- The second pass is the last one, since a refill that brings bytes brings the next one. -/
theorem passes_eq_nextByte {answer : Except Failure (Option UInt8)} (sound : source.chunks.Sound)
    (free : source.stray = none) (h : source.nextByte = (answer, after)) (count : Nat) :
    source.passes (count + 2) = (some answer, after) := by
  cases draws_nextByte sound h with
  | aside stray => cases free.symm.trans stray
  | waiting _ drains => simp [passes, pass, drain, drains]
  | exhausted _ dry ended => simp [passes, pass, drain, dry, ended]
  | failed _ dry live read => simp [passes, pass, drain, dry, live, refill_of_error read]
  | nothing _ dry live read => simp [passes, pass, drain, dry, live, refill_of_ok read]
  | refilled _ dry live read drains =>
    simp [passes, pass, drain, dry, live, refill_of_ok read, drains]

theorem chunk_nextByte {answer : Except Failure (Option UInt8)} (sound : source.chunks.Sound)
    (h : source.nextByte = (answer, after)) :
    after.chunks.chunk source.chunks.turn = source.chunks.chunk source.chunks.turn := by
  cases draws_nextByte sound h with
  | aside stray => rfl
  | waiting free drains => exact congrFun (ChunkPair.chunk_of_drain drains).1 _
  | exhausted free dry ended => rfl
  | failed free dry live read => rfl
  | nothing free dry live read => exact ChunkPair.chunk_supply source.chunks []
  | refilled free dry live read drains =>
    have same := congrFun (ChunkPair.chunk_of_drain drains).1 source.chunks.turn
    exact same.trans (ChunkPair.chunk_supply source.chunks _)

structure Asked (capacity : Nat) (source : Source) : Prop where
  chunks : source.chunks.Within capacity
  /-- The cursor is at a slot of the active chunk unless that is dry. -/
  inside : source.chunks.cursor < (source.chunks.chunk source.chunks.turn).fill →
    ∃ byte, (source.chunks.chunk source.chunks.turn).slots[source.chunks.cursor]? = some byte
  /-- The active chunk is not written to. -/
  kept : source.nextByte.2.chunks.chunk source.chunks.turn =
    source.chunks.chunk source.chunks.turn
  reads : source.input.Reads capacity source.byteReads source.nextByte.2.input
  /-- At most one read is not interrupted. -/
  single : source.byteReads.countP (!·.isInterruption) ≤ 1
  /-- A read is made only if nothing waits or is held and the end was not met. -/
  needed : source.byteReads ≠ [] →
    source.waiting = [] ∧ source.held = none ∧ source.exhausted = false
  /-- However many passes are allowed, the second one is the last. -/
  passes : source.stray = none → ∀ count,
    source.passes (count + 2) = (some source.nextByte.1, source.nextByte.2)

theorem Recorded.asked (h : Recorded input capacity answers source) (free : source.held = none) :
    source.Asked capacity where
  chunks := h.room ▸ h.sound.within
  inside := (h.room ▸ h.sound.within : source.chunks.Within capacity).inside
  kept := chunk_nextByte h.sound rfl
  reads := h.room ▸ reads_nextByte h.sound rfl
  single := count_byteReads_le source
  needed reads := by
    obtain ⟨dry, live⟩ := dry_of_byteReads h.sound reads
    exact ⟨dry, free, live⟩
  passes unset := passes_eq_nextByte h.sound unset rfl

theorem carried_recorded (input : Input) (capacity : Nat) (answers : List Input.Answer) :
    Carried fun asked source =>
      Recorded input capacity (answers ++ asked.flatMap byteReads) source ∧ source.held = none ∧
        ∀ one ∈ asked, one.Asked capacity where
  byte {asked source after answer} before asks := by
    obtain ⟨recorded, free, all⟩ := before
    refine ⟨?_, (held_nextByte asks).trans free, ?_⟩
    · simpa using recorded.byte asks
    · intro one among
      rcases List.mem_append.mp among with earlier | last
      · exact all one earlier
      · cases List.mem_singleton.mp last
        exact recorded.asked free
  aside before byte := ⟨before.1.slots (some byte) _ _, before.2⟩
  moved before position := ⟨before.1.slots _ _ position, before.2⟩

theorem Recorded.reply (h : Recorded input capacity answers source) (call : Call) :
    Recorded input capacity (answers ++ (source.demands call).flatMap byteReads)
        (source.reply call).2 ∧ ∀ one ∈ source.demands call, one.Asked capacity := by
  cases call with
  | takeBack char =>
    refine ⟨?_, by simp [demands]⟩
    rw [Source.reply, takeBack]
    cases source.held with
    | some held => simpa [demands] using h
    | none => simpa [demands] using h.slots source.stray (some char) source.position
  | next =>
    cases held : source.held with
    | some char =>
      refine ⟨?_, by simp [demands, held]⟩
      rw [Source.reply, next_of_held held]
      simpa [demands, held] using h.slots source.stray none source.position
    | none =>
      have carried := carried_recorded input capacity answers
      obtain ⟨recorded, -, all⟩ := carried.next held ⟨by simpa using h, held, by simp⟩ rfl
      exact ⟨recorded, all⟩

theorem Recorded.replies (h : Recorded input capacity answers source) (calls : List Call) :
    let after := (Calls.replies Source.reply source calls).2
    ∃ more spent, Recorded input capacity (answers ++ more) after ∧
      source.SpendsAll calls spent ∧
      source.waiting ++ delivered more = spent ++ after.waiting := by
  induction calls generalizing answers source with
  | nil =>
    refine ⟨[], [], ?_, .nil source, by simp [delivered, Calls.replies]⟩
    simpa [Calls.replies] using h
  | cons call calls ih =>
    obtain ⟨used, hand, spends⟩ := spends_reply h.sound call
    obtain ⟨more, spent, recorded, others, left⟩ := ih (h.reply call).1
    refine ⟨(source.demands call).flatMap byteReads ++ more, used ++ spent, ?_,
      .cons spends others, ?_⟩
    · simpa [Calls.replies] using recorded
    · rw [delivered_append, ← List.append_assoc, hand, List.append_assoc, left, List.append_assoc]
      rfl

theorem count_reads_le (asked : List Source) :
    (asked.flatMap byteReads).countP (!·.isInterruption) ≤ asked.length := by
  induction asked with
  | nil => exact Nat.le_refl _
  | cons one asked ih =>
    have single := count_byteReads_le one
    rw [List.flatMap_cons, List.countP_append, List.length_cons]
    omega

/-- Whatever calls came before, both chunks have their capacity, and the cursor and the fills are
within it. The bytes that were delivered are those that the calls decoded or lost and then those
that wait, aside or in the active chunk behind the cursor. The refills that were told of went to the
chunks in turn, none of them brought more than the capacity, and one that brought nothing is the
last one. A call makes the reads of the sources that it asks for a byte, and at most four of these
reads are not interrupted. -/
theorem chunks_hold_waiting {input : Input} {capacity : Nat} (room : 0 < capacity)
    (calls : List Call) :
    let first := ofInput input capacity
    let source := (Calls.replies Source.reply first calls).2
    source.chunks.Within capacity ∧
    (∃ answers spent, input.Reads capacity answers source.input ∧
      source.input.reads = input.reads + answers.length ∧
      first.SpendsAll calls spent ∧ delivered answers = spent ++ source.waiting ∧
      source.events.toList = refills (sizes answers) ∧
      (∀ count ∈ sizes answers, count ≤ capacity) ∧ 0 ∉ (sizes answers).dropLast ∧
      (source.exhausted = true ↔ 0 ∈ sizes answers)) ∧
    ∀ call, source.input.Reads capacity ((source.demands call).flatMap byteReads)
        (source.reply call).2.input ∧
      ((source.demands call).flatMap byteReads).countP (!·.isInterruption) ≤ 4 ∧
      ∀ one ∈ source.demands call, one.Asked capacity := by
  intro first source
  obtain ⟨answers, spent, recorded, spends, hand⟩ := (recorded_ofInput input room).replies calls
  rw [List.nil_append] at recorded
  have nothing : first.waiting = [] := by simp [first, ofInput, waiting]
  rw [nothing, List.nil_append] at hand
  refine ⟨recorded.room ▸ recorded.sound.within, ⟨answers, spent, recorded.reads,
    recorded.reads.counted, spends, hand, recorded.told, recorded.reads.sizes_le, recorded.last,
    recorded.ended⟩, ?_⟩
  intro call
  obtain ⟨after, asked⟩ := recorded.reply call
  have few := length_demands source call
  exact ⟨recorded.reads.rest after.reads, Nat.le_trans (count_reads_le _) few, asked⟩

/-- A sequence goes on in the other chunk, after an interruption, and is ended there by a byte that
is set aside. Later a read fails, and another sequence is ended by a read that brings nothing. -/
theorem chunks_hold_waiting_stray :
    let input : Input := { items := [.data [0x61, 0xE2], .failure ⟨.interrupted, ""⟩,
      .data [0x82, 0x62], .failure ⟨.timedOut, ""⟩, .data [0xC3], .pause, .data [0x63]] }
    let first := ofInput input 2
    let calls : List Call := [.next, .next]
    let source := (Calls.replies Source.reply first calls).2
    let ended := (Calls.replies Source.reply source [.next, .takeBack 'b', .next, .next, .next]).2
    0 < 2 ∧ source.stray = some 0x62 ∧ source.chunks.unread = [] ∧ source.chunks.Within 2 ∧
      (∃ answers spent, input.Reads 2 answers source.input ∧ first.SpendsAll calls spent ∧
        delivered answers = spent ++ [0x62] ∧ refills (sizes answers) =
          [.refilled 0 2, .refilled 1 2]) ∧
      ended.exhausted = true ∧
      ended.events.toList =
        [.refilled 0 2, .refilled 1 2, .refilled 0 1, .refilled 1 0] := by
  intro input first calls source ended
  have room : 0 < 2 := by decide
  have stray : source.stray = some 0x62 := by decide +kernel
  have unread : source.chunks.unread = [] := by decide +kernel
  have told : source.events.toList = [.refilled 0 2, .refilled 1 2] := by decide +kernel
  obtain ⟨within, ⟨answers, spent, reads, -, spends, hand, refilled, -⟩, -⟩ :=
    @chunks_hold_waiting input 2 room calls
  refine ⟨room, stray, unread, within, ⟨answers, spent, reads, spends, ?_, ?_⟩, by decide +kernel,
    by decide +kernel⟩
  · have left : source.waiting = [0x62] := by rw [waiting, stray, unread]; rfl
    exact left ▸ hand
  · exact refilled.symm.trans told

end Source
end TokenListing
