import TokenListing.Proofs.Source.Reading
import TokenListing.Proofs.Text.Utf8Resuming
import TokenListing.Source.Progress

/-! # Draining a source

A source is drained by asking for one character after another until it gives none. Over an input
that does not fail it gives what the bytes decode to. Since reading resumes at every byte that
continues no sequence, malformed bytes change nothing of the text around them.
-/
namespace TokenListing.Source

structure Drained where
  text : List Char
  /-- How the last call failed, if it did. -/
  failure : Option Failure
  /-- The source after the last call. -/
  source : Source

/-- Asks a source for characters up to the first call that gives none. -/
def drained (source : Source) : Drained :=
  match _hnext : source.next with
  | (.error failure, after) => ⟨[], some failure, after⟩
  | (.ok none, after) => ⟨[], none, after⟩
  | (.ok (some char), after) => { after.drained with text := char :: after.drained.text }
termination_by source.pending
decreasing_by all_goals exact pending_next_some _hnext

theorem drained_of_none {source after : Source} (h : source.next = (.ok none, after)) :
    source.drained = ⟨[], none, after⟩ := by
  rw [drained]
  split
  next h' => cases h.symm.trans h'
  next h' => cases h.symm.trans h'; rfl
  next h' => cases h.symm.trans h'

theorem drained_of_some {source after : Source} {char : Char}
    (h : source.next = (.ok (some char), after)) :
    source.drained = { after.drained with text := char :: after.drained.text } := by
  rw [drained]
  split
  next h' => cases h.symm.trans h'
  next h' => cases h.symm.trans h'
  next h' => cases h.symm.trans h'; rfl

theorem Reading.drained {source : Source} {text : List Char} (h : source.Reading text)
    (free : source.held = none) :
    source.drained.text = text ∧ source.drained.failure = none := by
  induction text generalizing source with
  | nil =>
    obtain ⟨after, found, -⟩ := h.next_nil free
    rw [drained_of_none found]
    exact ⟨rfl, rfl⟩
  | cons c text ih =>
    obtain ⟨after, found, left, unheld, -⟩ := h.next_cons free
    obtain ⟨rest, ended⟩ := ih left unheld
    rw [drained_of_some found]
    exact ⟨congrArg (c :: ·) rest, ended⟩

/-- A source before its first call, with any chunks, over an input that brings the bytes in any
reads. -/
def FreshOver (source : Source) (bytes : List UInt8) : Prop :=
  ∃ input capacity, 0 < capacity ∧ input.limit ≠ some 0 ∧ input.contents = .ok bytes ∧
    source = ofInput input capacity

theorem FreshOver.drained {source : Source} {bytes : List UInt8} (h : source.FreshOver bytes) :
    source.drained.text = Text.Utf8.decode bytes ∧ source.drained.failure = none := by
  obtain ⟨input, capacity, room, unblocked, delivered, rfl⟩ := h
  exact (reading_ofInput room unblocked delivered).drained rfl

open Text.Utf8 in
/-- If no continuation byte comes first in `b`, draining `m ++ b` gives what draining `m` gives and
then what draining `b` gives, whatever `m` is and wherever chunks and reads are cut. So between two
texts any bytes give what they give alone, and the texts are read as they are. -/
theorem drained_resumes :
    (∀ (m b : List UInt8) (whole first second : Source), Resumes b →
      whole.FreshOver (m ++ b) → first.FreshOver m → second.FreshOver b →
      whole.drained.text = first.drained.text ++ second.drained.text ∧
        whole.drained.failure = none) ∧
    (∀ (a c : List Char) (m : List UInt8) (whole middle : Source),
      whole.FreshOver (encode a ++ m ++ encode c) → middle.FreshOver m →
      whole.drained.text = a ++ middle.drained.text ++ c ∧ whole.drained.failure = none) := by
  constructor
  · intro m b whole first second resumes fresh fresh₁ fresh₂
    obtain ⟨text, ended⟩ := fresh.drained
    rw [text, fresh₁.drained.1, fresh₂.drained.1]
    exact ⟨decode_append_of_resumes resumes m, ended⟩
  · intro a c m whole middle fresh fresh'
    obtain ⟨text, ended⟩ := fresh.drained
    rw [text, fresh'.drained.1]
    exact ⟨decode_between a c m, ended⟩

open Text.Utf8 in
/-- Two bytes of three are given up before a letter, though a chunk and a read end between them. -/
theorem drained_resumes_truncated :
    let m : List UInt8 := [0xE2, 0x82]
    let whole := ofInput { items := [.data [0x78, 0xE2], .failure ⟨.interrupted, ""⟩,
      .data [0x82, 0xC3, 0xA9]], limit := some 1 } 2
    let before := ofInput { items := [.data [0x78, 0xE2, 0x82]] } 1
    let after := ofInput { items := [.data [0xC3], .data [0xA9], .pause] } 3
    let middle := ofInput (.ofBytes m) 1
    Resumes [0xC3, 0xA9] ∧ whole.FreshOver ([0x78, 0xE2, 0x82] ++ [0xC3, 0xA9]) ∧
      before.FreshOver [0x78, 0xE2, 0x82] ∧ after.FreshOver [0xC3, 0xA9] ∧
      whole.drained.text = before.drained.text ++ after.drained.text ∧
      whole.FreshOver (encode ['x'] ++ m ++ encode ['é']) ∧ middle.FreshOver m ∧
      whole.drained.text = ['x'] ++ middle.drained.text ++ ['é'] := by
  intro m whole before after middle
  have resumes : Resumes [0xC3, 0xA9] := resumes_cons.mpr (by decide)
  have fresh : whole.FreshOver ([0x78, 0xE2, 0x82] ++ [0xC3, 0xA9]) :=
    ⟨_, 2, by decide, by decide, rfl, rfl⟩
  have fresh₁ : before.FreshOver [0x78, 0xE2, 0x82] := ⟨_, 1, by decide, by decide, rfl, rfl⟩
  have fresh₂ : after.FreshOver [0xC3, 0xA9] := ⟨_, 3, by decide, by decide, rfl, rfl⟩
  have fresh' : middle.FreshOver m := ⟨_, 1, by decide, by decide, rfl, rfl⟩
  have between : whole.FreshOver (encode ['x'] ++ m ++ encode ['é']) :=
    ⟨_, 2, by decide, by decide, rfl, rfl⟩
  exact ⟨resumes, fresh, fresh₁, fresh₂,
    (drained_resumes.1 _ _ whole before after resumes fresh fresh₁ fresh₂).1, between, fresh',
    (drained_resumes.2 ['x'] ['é'] m whole middle between fresh').1⟩

end TokenListing.Source
