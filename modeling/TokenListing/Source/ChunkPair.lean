/-! # Pairs of chunks

Two buffers of equal size take turns. The active chunk is drained from its front; the spare one
is filled by the next read and then becomes active, unless the read brought nothing. What is
still to be drained is `ChunkPair.unread`.
-/
namespace TokenListing

structure Chunk where
  slots : Array UInt8
  /-- The number of bytes that the last read put into the buffer. -/
  fill : Nat
  deriving Repr

namespace Chunk

def empty (capacity : Nat) : Chunk :=
  ⟨Array.replicate capacity 0, 0⟩

def store (slots : Array UInt8) : Nat → List UInt8 → Array UInt8
  | _, [] => slots
  | i, byte :: rest => store (slots.setIfInBounds i byte) (i + 1) rest

def load : Chunk → List UInt8 → Chunk
  | ⟨slots, _⟩, bytes => ⟨store slots 0 bytes, bytes.length⟩

def contents (chunk : Chunk) : List UInt8 :=
  chunk.slots.toList.take chunk.fill

end Chunk

structure ChunkPair where
  active : Chunk
  spare : Chunk
  /-- The number of the active chunk; the spare one has the other number. -/
  turn : Fin 2
  /-- The next slot of the active chunk to drain. -/
  cursor : Nat
  deriving Repr

namespace ChunkPair

def empty (capacity : Nat) : ChunkPair :=
  ⟨.empty capacity, .empty capacity, 1, 0⟩

def capacity (pair : ChunkPair) : Nat :=
  pair.spare.slots.size

def spareTurn (pair : ChunkPair) : Fin 2 :=
  pair.turn + 1

/-- The bytes of the active chunk that are still to be drained. -/
def unread (pair : ChunkPair) : List UInt8 :=
  pair.active.contents.drop pair.cursor

def remaining (pair : ChunkPair) : Nat :=
  pair.active.fill - pair.cursor

def drain (pair : ChunkPair) : Option (UInt8 × ChunkPair) :=
  if pair.cursor < pair.active.fill then
    pair.active.slots[pair.cursor]?.map fun byte => (byte, { pair with cursor := pair.cursor + 1 })
  else none

/-- Fills the spare chunk with the bytes of a read. If there are any, the chunks change
places. -/
def supply : ChunkPair → List UInt8 → ChunkPair
  | ⟨active, spare, turn, cursor⟩, bytes =>
    if bytes.isEmpty then ⟨active, spare.load bytes, turn, cursor⟩
    else ⟨spare.load bytes, active, turn + 1, 0⟩

theorem remaining_drain {pair after : ChunkPair} {byte : UInt8}
    (h : pair.drain = some (byte, after)) : after.remaining < pair.remaining := by
  unfold drain at h
  split at h
  · simp only [Option.map_eq_some_iff, Prod.mk.injEq] at h
    obtain ⟨_, _, -, rfl⟩ := h
    simp only [remaining]
    omega
  · simp at h

theorem remaining_supply_le (pair : ChunkPair) (bytes : List UInt8) :
    (pair.supply bytes).remaining ≤ pair.remaining + bytes.length := by
  unfold supply
  dsimp only
  split
  · exact Nat.le_add_right _ _
  · simp only [remaining, Chunk.load]
    omega

end ChunkPair
end TokenListing
