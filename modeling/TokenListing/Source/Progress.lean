import TokenListing.Source.Taking

/-! # Progress of a character source

Every operation of a source keeps or lowers `Source.pending`, and one that hands out a character
lowers it. So a source hands out finitely many characters, whatever its input holds.
-/
namespace TokenListing.Source

theorem pending_drain_some {source after : Source} {byte : UInt8}
    (h : source.drain = (some byte, after)) : after.pending < source.pending := by
  unfold drain at h
  split at h
  next hdrain =>
    simp only [Prod.mk.injEq] at h
    obtain ⟨-, rfl⟩ := h
    have := ChunkPair.remaining_drain hdrain
    simp only [pending]
    omega
  · simp at h

theorem pending_drain_none {source after : Source} (h : source.drain = (none, after)) :
    after.pending ≤ source.pending := by
  unfold drain at h
  split at h
  · simp at h
  · exact (Prod.mk.inj h).2 ▸ Nat.le_refl _

theorem pending_refill {source after : Source} {answer : Except Failure Unit}
    (h : source.refill = (answer, after)) : after.pending ≤ source.pending := by
  unfold refill at h
  dsimp only at h
  split at h
  next failure input hread =>
    obtain ⟨-, rfl⟩ := Prod.mk.inj h
    have := Input.weight_of_readPatiently_error hread
    simp only [pending]
    omega
  next bytes input hread =>
    obtain ⟨-, rfl⟩ := Prod.mk.inj h
    have := Input.weight_of_readPatiently_ok hread
    have := ChunkPair.remaining_supply_le source.chunks bytes
    simp only [pending]
    omega

theorem Passes.pending_le {count : Nat} {source after : Source}
    {answer : Except Failure (Option UInt8)} (h : Passes count source answer after) :
    after.pending + answer.toOption.join.toList.length ≤ source.pending := by
  induction h with
  | out => exact Nat.le_refl _
  | drained drains => exact pending_drain_some drains
  | exhausted dry => exact pending_drain_none dry
  | failed dry refills | nothing dry refills =>
    exact Nat.le_trans (pending_refill refills) (pending_drain_none dry)
  | more dry refills _ ih =>
    exact Nat.le_trans ih (Nat.le_trans (pending_refill refills) (pending_drain_none dry))

theorem pending_nextByte {source after : Source} {answer : Except Failure (Option UInt8)}
    (h : source.nextByte = (answer, after)) :
    after.pending + answer.toOption.join.toList.length ≤ source.pending := by
  cases gives_nextByte h with
  | aside stray =>
    simp only [pending, stray, Except.toOption, Option.join_some, Option.toList_some,
      Option.toList_none, List.length_singleton, List.length_nil]
    omega
  | passes _ passes => exact passes.pending_le

theorem pending_nextByte_some {source after : Source} {byte : UInt8}
    (h : source.nextByte = (.ok (some byte), after)) : after.pending < source.pending :=
  pending_nextByte h

theorem pending_nextByte_le {source after : Source} {answer : Except Failure (Option UInt8)}
    (h : source.nextByte = (answer, after)) : after.pending ≤ source.pending :=
  Nat.le_of_add_right_le (pending_nextByte h)

theorem Collects.pending_le {lead : UInt8} {missing : Nat} {tail : List UInt8}
    {source after : Source} {answer : Except Failure Char}
    (h : Collects lead missing tail source answer after) : after.pending ≤ source.pending := by
  induction h with
  | whole => exact Nat.le_refl _
  | failed asks => exact pending_nextByte_le asks
  | ended asks => exact pending_nextByte_le asks
  | @cut _ _ _ rest _ asks =>
    have less := pending_nextByte_some asks
    have : rest.stray.toList.length ≤ 1 := by cases rest.stray <;> simp
    simp only [pending, Option.toList_some, List.length_singleton] at less ⊢
    omega
  | more asks _ _ ih => exact Nat.le_trans ih (pending_nextByte_le asks)

theorem Decodes.pending_le {lead : UInt8} {source after : Source} {answer : Except Failure Char}
    (h : source.Decodes lead answer after) : after.pending ≤ source.pending := by
  cases h with
  | alone => exact Nat.le_refl _
  | announced _ collects => exact collects.pending_le

theorem pending_next_some {source after : Source} {char : Char}
    (h : source.next = (.ok (some char), after)) : after.pending < source.pending := by
  cases takes_next h with
  | again held => simp [pending, held]
  | decoded _ asks decodes =>
    exact Nat.lt_of_le_of_lt decodes.pending_le (pending_nextByte_some asks)

theorem pending_next_le {source after : Source} {answer : Except Failure (Option Char)}
    (h : source.next = (answer, after)) : after.pending ≤ source.pending := by
  cases takes_next h with
  | again held => simp [pending, held]
  | failed _ asks => exact pending_nextByte_le asks
  | ended _ asks => exact pending_nextByte_le asks
  | broken _ asks decodes => exact Nat.le_trans decodes.pending_le (pending_nextByte_le asks)
  | decoded _ asks decodes => exact Nat.le_trans decodes.pending_le (pending_nextByte_le asks)

theorem held_drain {source after : Source} {byte : Option UInt8}
    (h : source.drain = (byte, after)) : after.held = source.held := by
  unfold drain at h
  split at h <;> exact (Prod.mk.inj h).2 ▸ rfl

theorem held_refill {source after : Source} {answer : Except Failure Unit}
    (h : source.refill = (answer, after)) : after.held = source.held := by
  unfold refill at h
  dsimp only at h
  split at h <;> exact (Prod.mk.inj h).2 ▸ rfl

theorem Passes.held {count : Nat} {source after : Source} {answer : Except Failure (Option UInt8)}
    (h : Passes count source answer after) : after.held = source.held := by
  induction h with
  | out => rfl
  | drained drains => exact held_drain drains
  | exhausted dry => exact held_drain dry
  | failed dry refills | nothing dry refills => exact (held_refill refills).trans (held_drain dry)
  | more dry refills _ ih => exact ih.trans ((held_refill refills).trans (held_drain dry))

theorem held_nextByte {source after : Source} {answer : Except Failure (Option UInt8)}
    (h : source.nextByte = (answer, after)) : after.held = source.held := by
  cases gives_nextByte h with
  | aside => rfl
  | passes _ passes => exact passes.held

theorem Collects.held {lead : UInt8} {missing : Nat} {tail : List UInt8} {source after : Source}
    {answer : Except Failure Char} (h : Collects lead missing tail source answer after) :
    after.held = source.held := by
  induction h with
  | whole => rfl
  | failed asks => exact held_nextByte asks
  | ended asks => exact held_nextByte asks
  | cut asks =>
    have kept := held_nextByte asks
    exact kept
  | more asks _ _ ih => exact ih.trans (held_nextByte asks)

theorem Decodes.held {lead : UInt8} {source after : Source} {answer : Except Failure Char}
    (h : source.Decodes lead answer after) : after.held = source.held := by
  cases h with
  | alone => rfl
  | announced _ collects => exact collects.held

/-- A character that was just handed out can be taken back. -/
theorem held_next {source after : Source} {answer : Except Failure (Option Char)}
    (h : source.next = (answer, after)) : after.held = none := by
  cases takes_next h with
  | again => rfl
  | failed free asks => exact (held_nextByte asks).trans free
  | ended free asks => exact (held_nextByte asks).trans free
  | broken free asks decodes => exact decodes.held.trans ((held_nextByte asks).trans free)
  | decoded free asks decodes =>
    have kept := decodes.held.trans ((held_nextByte asks).trans free)
    exact kept

end TokenListing.Source
