import TokenListing.Source.ChunkPair

/-! # What a pair of chunks holds

In a sound pair both chunks have the capacity of the pair, no chunk is filled beyond it, and the
cursor is within the active chunk. The undrained bytes are then a queue: draining takes its first
byte, and a refill of a dry pair puts the bytes of the read in its place.
-/
namespace TokenListing

namespace Chunk

theorem size_store (slots : Array UInt8) (i : Nat) (bytes : List UInt8) :
    (store slots i bytes).size = slots.size := by
  induction bytes generalizing slots i with
  | nil => rfl
  | cons byte rest ih => rw [store, ih, Array.size_setIfInBounds]

theorem take_store (slots : Array UInt8) (i : Nat) (bytes : List UInt8)
    (fits : i + bytes.length ≤ slots.size) :
    (store slots i bytes).toList.take (i + bytes.length) = slots.toList.take i ++ bytes := by
  induction bytes generalizing slots i with
  | nil => simp [store]
  | cons byte rest ih =>
    rw [List.length_cons] at fits
    have stored := ih (slots.setIfInBounds i byte) (i + 1)
      (by rw [Array.size_setIfInBounds]; omega)
    have place : i < slots.toList.length := by
      rw [Array.length_toList]
      omega
    have before : (slots.toList.set i byte).take (i + 1) = slots.toList.take i ++ [byte] := by
      rw [List.take_add_one, List.take_set_of_le (Nat.le_refl i), List.getElem?_set_self place]
      rfl
    rw [Array.toList_setIfInBounds, before, List.append_assoc, List.singleton_append] at stored
    rw [store, List.length_cons, Nat.add_comm rest.length 1, ← Nat.add_assoc]
    exact stored

@[simp] theorem size_load (chunk : Chunk) (bytes : List UInt8) :
    (chunk.load bytes).slots.size = chunk.slots.size :=
  size_store chunk.slots 0 bytes

theorem contents_load {chunk : Chunk} {bytes : List UInt8}
    (fits : bytes.length ≤ chunk.slots.size) : (chunk.load bytes).contents = bytes := by
  have stored := take_store chunk.slots 0 bytes (by rwa [Nat.zero_add])
  rw [Nat.zero_add] at stored
  exact stored

theorem length_contents {chunk : Chunk} (filled : chunk.fill ≤ chunk.slots.size) :
    chunk.contents.length = chunk.fill := by
  rw [contents, List.length_take, Array.length_toList]
  exact Nat.min_eq_left filled

end Chunk

namespace ChunkPair

/-- What every operation of a pair keeps. -/
structure Sound (pair : ChunkPair) : Prop where
  room : 0 < pair.capacity
  active_size : pair.active.slots.size = pair.capacity
  active_fill : pair.active.fill ≤ pair.capacity
  spare_fill : pair.spare.fill ≤ pair.capacity
  cursor_le : pair.cursor ≤ pair.active.fill

theorem sound_empty {capacity : Nat} (room : 0 < capacity) : (empty capacity).Sound where
  room := by simpa [empty, Chunk.empty, ChunkPair.capacity] using room
  active_size := rfl
  active_fill := Nat.zero_le _
  spare_fill := Nat.zero_le _
  cursor_le := Nat.le_refl _

@[simp] theorem unread_empty (capacity : Nat) : (empty capacity).unread = [] := by
  simp [unread, empty, Chunk.contents, Chunk.empty]

theorem unread_of_drain_none {pair : ChunkPair} (sound : pair.Sound) (h : pair.drain = none) :
    pair.unread = [] := by
  have size := Nat.le_trans sound.active_fill (Nat.le_of_eq sound.active_size.symm)
  unfold drain at h
  by_cases full : pair.cursor < pair.active.fill
  · rw [if_pos full, Array.getElem?_eq_getElem (Nat.lt_of_lt_of_le full size)] at h
    cases h
  · apply List.drop_eq_nil_of_le
    rw [Chunk.length_contents size]
    exact Nat.le_of_not_lt full

theorem unread_of_drain_some {pair after : ChunkPair} {byte : UInt8} (sound : pair.Sound)
    (h : pair.drain = some (byte, after)) : pair.unread = byte :: after.unread := by
  have size := Nat.le_trans sound.active_fill (Nat.le_of_eq sound.active_size.symm)
  unfold drain at h
  by_cases full : pair.cursor < pair.active.fill
  · have place := Nat.lt_of_lt_of_le full size
    rw [if_pos full, Array.getElem?_eq_getElem place] at h
    cases h
    have inside : pair.cursor < pair.active.contents.length := by
      rwa [Chunk.length_contents size]
    unfold unread
    rw [List.drop_eq_getElem_cons inside]
    congr 1
    simp [Chunk.contents]
  · rw [if_neg full] at h
    cases h

theorem drain_of_unread {pair : ChunkPair} {byte : UInt8} {rest : List UInt8} (sound : pair.Sound)
    (h : pair.unread = byte :: rest) :
    ∃ after, pair.drain = some (byte, after) ∧ after.unread = rest := by
  cases hd : pair.drain with
  | none =>
    rw [unread_of_drain_none sound hd] at h
    cases h
  | some found =>
    rw [unread_of_drain_some sound hd] at h
    cases h
    exact ⟨found.2, rfl, rfl⟩

theorem sound_of_drain_some {pair after : ChunkPair} {byte : UInt8} (sound : pair.Sound)
    (h : pair.drain = some (byte, after)) : after.Sound ∧ after.capacity = pair.capacity := by
  unfold drain at h
  by_cases full : pair.cursor < pair.active.fill
  · rw [if_pos full] at h
    obtain ⟨_, _, he⟩ := Option.map_eq_some_iff.mp h
    cases he
    exact ⟨⟨sound.room, sound.active_size, sound.active_fill, sound.spare_fill, full⟩, rfl⟩
  · rw [if_neg full] at h
    cases h

theorem drain_supply_nil {pair : ChunkPair} (dry : pair.drain = none) :
    (pair.supply []).drain = none := by
  unfold drain at dry ⊢
  by_cases full : pair.cursor < pair.active.fill
  · rw [if_pos full, Option.map_eq_none_iff] at dry
    exact (if_pos full).trans (Option.map_eq_none_iff.mpr dry)
  · exact if_neg full

/-- The bytes of a read that fit the spare chunk are next to be drained. -/
theorem unread_supply {pair : ChunkPair} {bytes : List UInt8} (some_bytes : bytes ≠ [])
    (fits : bytes.length ≤ pair.capacity) : (pair.supply bytes).unread = bytes := by
  have nonempty : ¬ bytes.isEmpty := by simpa using some_bytes
  unfold supply unread
  dsimp only
  rw [if_neg nonempty, List.drop_zero]
  exact Chunk.contents_load fits

theorem sound_supply {pair : ChunkPair} {bytes : List UInt8} (sound : pair.Sound)
    (fits : bytes.length ≤ pair.capacity) :
    (pair.supply bytes).Sound ∧ (pair.supply bytes).capacity = pair.capacity := by
  have spare : (pair.spare.load bytes).slots.size = pair.capacity := Chunk.size_load _ _
  unfold supply
  dsimp only
  by_cases nothing : bytes.isEmpty
  · rw [if_pos nothing]
    have same : capacity ⟨pair.active, pair.spare.load bytes, pair.turn, pair.cursor⟩ =
      pair.capacity := spare
    exact ⟨⟨same ▸ sound.room, same ▸ sound.active_size, same ▸ sound.active_fill,
      same ▸ fits, sound.cursor_le⟩, same⟩
  · rw [if_neg nothing]
    have same : capacity ⟨pair.spare.load bytes, pair.active, pair.turn + 1, 0⟩ =
      pair.capacity := sound.active_size
    exact ⟨⟨same ▸ sound.room, same ▸ spare, same ▸ fits, same ▸ sound.active_fill,
      Nat.zero_le _⟩, same⟩

end ChunkPair
end TokenListing
