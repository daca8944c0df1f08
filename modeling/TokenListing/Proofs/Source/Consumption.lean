import TokenListing.Proofs.Source.Position
import TokenListing.Proofs.Stream.Consumption

/-! # What decoding takes from a source

The bytes ahead of a source are the one set aside, those in its chunks and those in its input. Only
a byte that is handed out is no longer ahead, and one that is set aside is ahead again. A character
that is decoded has a lead byte, which is never set aside, so no more characters are decoded than
there are bytes.
-/
namespace TokenListing.Source

/-- The number of bytes that the source has not decoded. -/
def bytesAhead (source : Source) : Nat :=
  source.stray.toList.length + source.chunks.unread.length + source.input.bytesAhead

theorem bytesAhead_nextByte {source after : Source} {answer : Except Failure (Option UInt8)}
    (sound : source.Sound) (h : source.nextByte = (answer, after)) :
    after.bytesAhead + answer.toOption.join.toList.length = source.bytesAhead := by
  cases draws_nextByte sound.chunks h with
  | aside stray =>
    simp only [bytesAhead, stray, Except.toOption, Option.join_some, Option.toList_some,
      Option.toList_none, List.length_cons, List.length_nil]
    omega
  | waiting free drains =>
    have queued := ChunkPair.unread_of_drain_some sound.chunks drains
    simp only [bytesAhead, free, queued, Except.toOption, Option.join_some, Option.toList_some,
      Option.toList_none, List.length_cons, List.length_nil]
    omega
  | exhausted free dry ended => rfl
  | failed free dry live read =>
    have taken := Input.bytesAhead_readPatiently read
    exact congrArg (source.stray.toList.length + source.chunks.unread.length + ·) taken
  | nothing free dry live read =>
    have taken := Input.bytesAhead_readPatiently read
    have full := (ChunkPair.sound_supply sound.chunks (Input.length_of_readPatiently_ok read)).1
    have empty := ChunkPair.unread_of_drain_none sound.chunks dry
    have empty' := ChunkPair.unread_of_drain_none full (ChunkPair.drain_supply_nil dry)
    simpa [bytesAhead, free, empty, empty', Except.toOption] using taken
  | refilled free dry live read drains =>
    have taken := Input.bytesAhead_readPatiently read
    have fits := Input.length_of_readPatiently_ok read
    have full := (ChunkPair.sound_supply sound.chunks fits).1
    have empty := ChunkPair.unread_of_drain_none sound.chunks dry
    have queued := ChunkPair.unread_supply (List.cons_ne_nil _ _) fits
    have left := queued.symm.trans (ChunkPair.unread_of_drain_some full drains)
    injection left with _ left
    simp only [bytesAhead, free, empty, ← left, Except.toOption, Option.join_some,
      Option.toList_some, Option.toList_none, Option.getD_some, List.length_cons,
      List.length_nil] at taken ⊢
    omega

theorem bytesAhead_setAside {source : Source} (byte : UInt8) (free : source.stray = none) :
    { source with stray := some byte }.bytesAhead = source.bytesAhead + 1 := by
  simp only [bytesAhead, free, Option.toList_some, Option.toList_none, List.length_cons,
    List.length_nil]
  omega

theorem Collects.bytesAhead_le {lead : UInt8} {missing : Nat} {tail : List UInt8}
    {source after : Source} {answer : Except Failure Char}
    (h : Collects lead missing tail source answer after) (sound : source.Sound) :
    after.bytesAhead ≤ source.bytesAhead := by
  induction h with
  | whole => exact Nat.le_refl _
  | failed asks => exact Nat.le_of_eq (bytesAhead_nextByte sound asks)
  | ended asks => exact Nat.le_of_eq (bytesAhead_nextByte sound asks)
  | @cut _ _ _ _ byte asks =>
    rw [bytesAhead_setAside byte (nextByte_used sound asks).2.free]
    exact Nat.le_of_eq (bytesAhead_nextByte sound asks)
  | more asks _ _ ih =>
    have taken := bytesAhead_nextByte sound asks
    exact Nat.le_trans (ih (nextByte_used sound asks).2.sound) (taken ▸ Nat.le_add_right _ _)

theorem Decodes.bytesAhead_le {lead : UInt8} {source after : Source} {answer : Except Failure Char}
    (h : source.Decodes lead answer after) (sound : source.Sound) :
    after.bytesAhead ≤ source.bytesAhead := by
  cases h with
  | alone => exact Nat.le_refl _
  | announced _ collects => exact collects.bytesAhead_le sound

/-- A character that is decoded takes at least one byte with it. -/
theorem bytesAhead_next {source after : Source} {answer : Except Failure (Option Char)}
    (sound : source.Sound) (free : source.held = none) (h : source.next = (answer, after)) :
    after.bytesAhead + answer.toOption.join.toList.length ≤ source.bytesAhead := by
  cases takes_next h with
  | again held => cases free.symm.trans held
  | failed _ asks => exact Nat.le_of_eq (bytesAhead_nextByte sound asks)
  | ended _ asks => exact Nat.le_of_eq (bytesAhead_nextByte sound asks)
  | broken _ asks decodes =>
    have taken := bytesAhead_nextByte sound asks
    have less := decodes.bytesAhead_le (nextByte_used sound asks).2.sound
    exact Nat.le_trans less (taken ▸ Nat.le_add_right _ _)
  | decoded _ asks decodes =>
    have taken := bytesAhead_nextByte sound asks
    have less := decodes.bytesAhead_le (nextByte_used sound asks).2.sound
    exact Nat.le_trans (Nat.add_le_add_right less 1) (Nat.le_of_eq taken)

theorem bytesAhead_reply {source : Source} (sound : source.Sound) (call : Call) :
    (source.reply call).2.Sound ∧
      (source.reply call).2.bytesAhead + (source.fresh call).toList.length ≤
        source.bytesAhead := by
  cases call with
  | takeBack char =>
    rw [reply, takeBack]
    cases source.held with
    | some held => exact ⟨sound, Nat.le_refl _⟩
    | none => exact ⟨sound.withHeld _, Nat.le_refl _⟩
  | next =>
    refine ⟨(feed_next sound rfl).2, ?_⟩
    rw [fresh, reply]
    cases held : source.held with
    | some char =>
      rw [next_of_held held]
      exact Nat.le_refl _
    | none => exact bytesAhead_next sound held rfl

theorem bytesAhead_replies {source : Source} (sound : source.Sound) (calls : List Call) :
    (Calls.replies reply source calls).2.Sound ∧
      (Calls.replies reply source calls).2.bytesAhead + (source.decoded calls).length ≤
        source.bytesAhead := by
  induction calls generalizing source with
  | nil => exact ⟨sound, Nat.le_refl _⟩
  | cons call calls ih =>
    obtain ⟨next, first⟩ := bytesAhead_reply sound call
    obtain ⟨last, others⟩ := ih next
    refine ⟨last, ?_⟩
    rw [decoded, Calls.replies, List.length_append]
    dsimp only
    omega

theorem held_or_fresh {source after : Source} {char : Char}
    (h : source.next = (.ok (some char), after)) :
    source.held.toList.length + (source.fresh .next).toList.length = 1 := by
  rw [fresh]
  cases held : source.held with
  | some other => rfl
  | none =>
    rw [h]
    rfl

theorem bytesAhead_ofInput (input : Input) (capacity : Nat) :
    (ofInput input capacity).bytesAhead = input.bytesAhead := by
  simp [bytesAhead, ofInput]

end TokenListing.Source
