import TokenListing.Proofs.Source.Chunks
import TokenListing.Proofs.Source.Feed
import TokenListing.Proofs.Stream.PatientRead
import TokenListing.Source.Taking

/-! # A source follows its feed

Every operation of a source gives what the same operation of its feed gives, and the feed of the
source afterwards is the feed after that operation. Chunks, refills and the byte set aside are
gone from the right-hand sides, and with them the capacity and how the input is cut into reads.
-/
namespace TokenListing.Source

structure Sound (source : Source) : Prop where
  chunks : source.chunks.Sound
  /-- A read may bring a byte. -/
  unblocked : source.input.limit ≠ some 0

theorem sound_ofInput {input : Input} {capacity : Nat} (room : 0 < capacity)
    (unblocked : input.limit ≠ some 0) : (ofInput input capacity).Sound :=
  ⟨ChunkPair.sound_empty room, unblocked⟩

@[simp] theorem feed_ofInput (input : Input) (capacity : Nat) :
    (ofInput input capacity).feed = ⟨input.signals, none, .start, []⟩ := by
  simp [feed, signals, told, ofInput]

theorem refill_of_error {source : Source} {input : Input} {failure : Failure}
    (h : source.input.readPatiently source.chunks.capacity = (.error failure, input)) :
    source.refill = (.error failure, { source with input }) := by
  unfold refill
  dsimp only
  rw [h]

theorem refill_of_ok {source : Source} {input : Input} {bytes : List UInt8}
    (h : source.input.readPatiently source.chunks.capacity = (.ok bytes, input)) :
    source.refill = (.ok (), { source with
      input
      chunks := source.chunks.supply bytes
      exhausted := bytes.isEmpty
      events := source.events.push (.refilled source.chunks.spareTurn bytes.length) }) := by
  unfold refill
  dsimp only
  rw [h]

/-- The ways in which a source comes by its next byte, with the source after each of them. -/
inductive Draws (source : Source) : Except Failure (Option UInt8) → Source → Prop where
  | aside {byte : UInt8} (stray : source.stray = some byte) :
      Draws source (.ok (some byte)) { source with stray := none }
  | waiting {byte : UInt8} {chunks : ChunkPair} (free : source.stray = none)
      (drains : source.chunks.drain = some (byte, chunks)) :
      Draws source (.ok (some byte)) { source with chunks }
  | exhausted (free : source.stray = none) (dry : source.chunks.drain = none)
      (ended : source.exhausted = true) : Draws source (.ok none) source
  | failed {failure : Failure} {input : Input} (free : source.stray = none)
      (dry : source.chunks.drain = none) (live : source.exhausted = false)
      (read : source.input.readPatiently source.chunks.capacity = (.error failure, input)) :
      Draws source (.error failure) { source with input }
  | nothing {input : Input} (free : source.stray = none) (dry : source.chunks.drain = none)
      (live : source.exhausted = false)
      (read : source.input.readPatiently source.chunks.capacity = (.ok [], input)) :
      Draws source (.ok none) { source with
        input
        chunks := source.chunks.supply []
        exhausted := true
        events := source.events.push (.refilled source.chunks.spareTurn 0) }
  | refilled {byte : UInt8} {rest : List UInt8} {input : Input} {chunks : ChunkPair}
      (free : source.stray = none) (dry : source.chunks.drain = none)
      (live : source.exhausted = false)
      (read : source.input.readPatiently source.chunks.capacity = (.ok (byte :: rest), input))
      (drains : (source.chunks.supply (byte :: rest)).drain = some (byte, chunks)) :
      Draws source (.ok (some byte)) { source with
        input
        chunks
        exhausted := false
        events := source.events.push (.refilled source.chunks.spareTurn (rest.length + 1)) }

theorem draws_nextByte {source after : Source} {answer : Except Failure (Option UInt8)}
    (sound : source.chunks.Sound) (h : source.nextByte = (answer, after)) :
    source.Draws answer after := by
  -- Each case gives the reply by itself, so that it can be compared with `h` as a whole.
  suffices drawn : ∃ answer after, source.nextByte = (answer, after) ∧ source.Draws answer after by
    obtain ⟨answer', after', same, draws⟩ := drawn
    cases same.symm.trans h
    exact draws
  cases hstray : source.stray with
  | some byte =>
    refine ⟨_, _, ?_, .aside hstray⟩
    simp [nextByte, hstray]
  | none =>
    cases hdrain : source.chunks.drain with
    | some found =>
      refine ⟨_, _, ?_, .waiting hstray hdrain⟩
      simp [nextByte, passes, pass, hstray, drain, hdrain]
    | none =>
      cases hlive : source.exhausted with
      | true =>
        refine ⟨_, _, ?_, .exhausted hstray hdrain hlive⟩
        simp [nextByte, passes, pass, hstray, drain, hdrain, hlive]
      | false =>
        cases hread : source.input.readPatiently source.chunks.capacity with
        | mk read input =>
          cases read with
          | error failure =>
            refine ⟨_, _, ?_, .failed hstray hdrain hlive hread⟩
            simp [nextByte, passes, pass, hstray, drain, hdrain, hlive, refill_of_error hread]
          | ok bytes =>
            cases bytes with
            | nil =>
              refine ⟨_, _, ?_, .nothing hstray hdrain hlive hread⟩
              simp [nextByte, passes, pass, hstray, drain, hdrain, hlive, refill_of_ok hread]
            | cons byte rest =>
              have fits := Input.length_of_readPatiently_ok hread
              have queued := ChunkPair.unread_supply (List.cons_ne_nil byte rest) fits
              have full := (ChunkPair.sound_supply sound fits).1
              obtain ⟨chunks, drains, -⟩ := ChunkPair.drain_of_unread full queued
              refine ⟨_, _, ?_, .refilled hstray hdrain hlive hread drains⟩
              simp [nextByte, passes, pass, hstray, drain, hdrain, hlive, refill_of_ok hread,
                drains]

/-- An operation on bytes keeps a source sound and differs in its feed by the signals that it
used; nothing is set aside after it. -/
structure Used (source after : Source) : Prop where
  sound : after.Sound
  free : after.stray = none
  feed : after.feed = { source.feed with signals := after.signals }

theorem signals_of_dry {source : Source} (sound : source.Sound) (free : source.stray = none)
    (dry : source.chunks.drain = none) :
    source.signals = if source.exhausted then [] else source.input.signals := by
  simp [signals, free, ChunkPair.unread_of_drain_none sound.chunks dry]

theorem nextByte_used {source after : Source} {answer : Except Failure (Option UInt8)}
    (sound : source.Sound) (h : source.nextByte = (answer, after)) :
    Signal.nextByte source.signals = (answer, after.signals) ∧ Used source after := by
  have limit := Input.limit_readPatiently source.input source.chunks.capacity
  cases draws_nextByte sound.chunks h with
  | aside stray =>
    refine ⟨?_, ⟨sound.chunks, sound.unblocked⟩, rfl, rfl⟩
    simp [signals, stray, Signal.nextByte]
  | waiting free drains =>
    have full := (ChunkPair.sound_of_drain_some sound.chunks drains).1
    refine ⟨?_, ⟨full, sound.unblocked⟩, free, rfl⟩
    simp [signals, free, ChunkPair.unread_of_drain_some sound.chunks drains, Signal.nextByte]
  | exhausted free dry ended =>
    refine ⟨?_, sound, free, rfl⟩
    rw [signals_of_dry sound free dry, ended]
    rfl
  | failed free dry live read =>
    rw [read] at limit
    have empty := ChunkPair.unread_of_drain_none sound.chunks dry
    refine ⟨?_, ⟨sound.chunks, limit ▸ sound.unblocked⟩, free, rfl⟩
    rw [signals_of_dry sound free dry, live]
    simp [signals, free, empty, Input.signals_of_readPatiently_error read, Signal.nextByte]
  | nothing free dry live read =>
    rw [read] at limit
    have full := (ChunkPair.sound_supply sound.chunks (Input.length_of_readPatiently_ok read)).1
    have empty := ChunkPair.unread_of_drain_none full (ChunkPair.drain_supply_nil dry)
    refine ⟨?_, ⟨full, limit ▸ sound.unblocked⟩, free, ?_⟩
    · rw [signals_of_dry sound free dry, live]
      have ended := Input.nextByte_of_readPatiently_nil sound.chunks.room sound.unblocked read
      simp [signals, free, empty, ended]
    · simp [feed, told, Event.isRefill]
  | refilled free dry live read drains =>
    rw [read] at limit
    have fits := Input.length_of_readPatiently_ok read
    have full := (ChunkPair.sound_supply sound.chunks fits).1
    have brought := Input.signals_of_readPatiently_ok read (List.cons_ne_nil _ _)
    have queued := ChunkPair.unread_supply (List.cons_ne_nil _ _) fits
    have left := queued.symm.trans (ChunkPair.unread_of_drain_some full drains)
    injection left with _ left
    refine ⟨?_, ⟨(ChunkPair.sound_of_drain_some full drains).1, limit ▸ sound.unblocked⟩, free, ?_⟩
    · rw [signals_of_dry sound free dry, live]
      simp [signals, free, brought, ← left, Signal.nextByte]
    · simp [feed, told, Event.isRefill]

theorem signals_setAside {source : Source} (byte : UInt8) (free : source.stray = none) :
    { source with stray := some byte }.signals = .byte byte :: source.signals := by
  simp [signals, free]

/-- A source differs from another in its feed by the signals alone, like one after an operation
on bytes, but it may have a byte set aside. -/
structure Decoded (source after : Source) : Prop where
  sound : after.Sound
  feed : after.feed = { source.feed with signals := after.signals }

theorem Used.decoded {source after : Source} (h : Used source after) : Decoded source after :=
  ⟨h.sound, h.feed⟩

theorem Used.trans_decoded {first second third : Source} (h : Used first second)
    (more : Decoded second third) : Decoded first third :=
  ⟨more.sound, by rw [more.feed, h.feed]⟩

theorem Collects.decoded {lead : UInt8} {missing : Nat} {tail : List UInt8}
    {source after : Source} {answer : Except Failure Char}
    (h : Collects lead missing tail source answer after) (sound : source.Sound) :
    Signal.collect lead missing tail source.signals = (answer, after.signals) ∧
      Decoded source after := by
  induction h with
  | whole => exact ⟨rfl, sound, rfl⟩
  | failed asks =>
    obtain ⟨same, used⟩ := nextByte_used sound asks
    exact ⟨by rw [Signal.collect, same], used.decoded⟩
  | ended asks =>
    obtain ⟨same, used⟩ := nextByte_used sound asks
    exact ⟨by rw [Signal.collect, same], used.decoded⟩
  | @cut _ _ _ rest byte asks apart =>
    obtain ⟨same, used⟩ := nextByte_used sound asks
    have behind := signals_setAside byte used.free
    refine ⟨?_, ⟨used.sound.chunks, used.sound.unblocked⟩, ?_⟩
    · rw [behind, Signal.collect, same, Signal.eq_of_nextByte_some same]
      simp [apart]
    · exact congrArg (fun feed : Feed => { feed with
        signals := ({ rest with stray := some byte } : Source).signals }) used.feed
  | more asks continued _ ih =>
    obtain ⟨same, used⟩ := nextByte_used sound asks
    obtain ⟨collected, decoded⟩ := ih used.sound
    refine ⟨?_, used.trans_decoded decoded⟩
    rw [Signal.collect, same]
    simp [continued, collected]

theorem Decodes.decoded {lead : UInt8} {source after : Source} {answer : Except Failure Char}
    (h : source.Decodes lead answer after) (sound : source.Sound) :
    Signal.decode lead source.signals = (answer, after.signals) ∧ Decoded source after := by
  rw [Signal.decode]
  cases h with
  | alone unannounced =>
    rw [unannounced]
    exact ⟨rfl, sound, rfl⟩
  | announced width collects =>
    rw [width]
    exact collects.decoded sound

theorem feed_next {source after : Source} {answer : Except Failure (Option Char)}
    (sound : source.Sound) (h : source.next = (answer, after)) :
    source.feed.next = (answer, after.feed) ∧ after.Sound := by
  cases takes_next h with
  | again held => exact ⟨Feed.next_of_held held, sound.chunks, sound.unblocked⟩
  | @failed failure _ free asks =>
    obtain ⟨same, used⟩ := nextByte_used sound asks
    have read : Signal.nextChar source.signals = (.error failure, after.signals) := by
      rw [Signal.nextChar, same]
    exact ⟨by rw [Feed.next_of_error free read, used.feed], used.sound⟩
  | ended free asks =>
    obtain ⟨same, used⟩ := nextByte_used sound asks
    have read : Signal.nextChar source.signals = (.ok none, after.signals) := by
      rw [Signal.nextChar, same]
    exact ⟨by rw [Feed.next_of_none free read, used.feed], used.sound⟩
  | @broken _ failure _ _ free asks decodes =>
    obtain ⟨same, used⟩ := nextByte_used sound asks
    obtain ⟨continued, behind⟩ := decodes.decoded used.sound
    have kept := used.trans_decoded behind
    have read : Signal.nextChar source.signals = (.error failure, after.signals) := by
      simp only [Signal.nextChar, same, continued]
    exact ⟨by rw [Feed.next_of_error free read, kept.feed], kept.sound⟩
  | @decoded _ char _ decoded free asks decodes =>
    obtain ⟨same, used⟩ := nextByte_used sound asks
    obtain ⟨continued, behind⟩ := decodes.decoded used.sound
    have kept := used.trans_decoded behind
    have read : Signal.nextChar source.signals = (.ok (some char), decoded.signals) := by
      simp only [Signal.nextChar, same, continued]
    have held : decoded.held = source.held := congrArg Feed.held kept.feed
    have position : decoded.position = source.position := congrArg Feed.position kept.feed
    have events : decoded.told = source.told := congrArg Feed.events kept.feed
    refine ⟨?_, kept.sound.chunks, kept.sound.unblocked⟩
    rw [Feed.next_of_some free read]
    refine Prod.ext rfl (Feed.ext rfl held.symm ?_ events.symm)
    exact congrArg (Span.advance · char) position.symm

theorem feed_tell (source : Source) (event : Event) :
    (source.tell event).feed = source.feed.tell event := by
  simp [tell, Feed.tell, feed, told, List.filter_append]
  rfl

theorem Sound.tell {source : Source} (sound : source.Sound) (event : Event) :
    (source.tell event).Sound :=
  ⟨sound.chunks, sound.unblocked⟩

theorem Sound.withHeld {source : Source} (sound : source.Sound) (held : Option Char) :
    Sound { source with held } :=
  ⟨sound.chunks, sound.unblocked⟩

end TokenListing.Source
