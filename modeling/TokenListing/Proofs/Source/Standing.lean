import TokenListing.Proofs.Source.Reading

/-! # Where a source stands

A source stands before a text if it hands out the characters of that text next. The position
before the text is that of the source unless the source took back the first character: then its
position is that of this character already.
-/
namespace TokenListing

namespace Source

/-- The source hands out `text` next, and `before` is the position before it. -/
inductive Stands : Source → Span → List Char → Prop where
  | free {source : Source} {text : List Char} (reading : source.Reading text)
      (free : source.held = none) : Stands source source.position text
  | holding {source : Source} {before : Span} {c : Char} {text : List Char}
      (reading : source.Reading text) (held : source.held = some c)
      (position : source.position = before.advance c) : Stands source before (c :: text)

theorem stands_ofInput {input : Input} {capacity : Nat} {bytes : List UInt8}
    (room : 0 < capacity) (unblocked : input.limit ≠ some 0)
    (delivered : input.contents = .ok bytes) :
    (ofInput input capacity).Stands .start (Text.Utf8.decode bytes) :=
  .free (reading_ofInput room unblocked delivered) rfl

theorem Stands.tell {source : Source} {before : Span} {text : List Char}
    (h : source.Stands before text) (event : Event) : (source.tell event).Stands before text := by
  cases h with
  | free reading free => exact .free (reading.tell event) free
  | holding reading held position => exact .holding (reading.tell event) held position

theorem Stands.next_cons {source : Source} {before : Span} {c : Char} {text : List Char}
    (h : source.Stands before (c :: text)) :
    ∃ after, source.next = (.ok (some c), after) ∧ after.position = before.advance c ∧
      after.Stands (before.advance c) text ∧
      Stands { after with held := some c } before (c :: text) := by
  have resumed {after : Source} (reading : after.Reading text) (free : after.held = none)
      (position : after.position = before.advance c) :
      after.Stands (before.advance c) text ∧
        Stands { after with held := some c } before (c :: text) := by
    rw [← position]
    exact ⟨.free reading free,
      .holding (reading.withHeld _) rfl position⟩
  cases h with
  | free reading free =>
    obtain ⟨after, found, left, unheld, position⟩ := reading.next_cons free
    exact ⟨after, found, position, resumed left unheld position⟩
  | holding reading held position =>
    exact ⟨_, next_of_held held, position,
      resumed (reading.withHeld _) rfl position⟩

theorem Stands.next_nil {source : Source} {before : Span} (h : source.Stands before []) :
    ∃ after, source.next = (.ok none, after) ∧ after.Stands before [] := by
  cases h with
  | free reading free =>
    obtain ⟨after, found, left, unheld, position⟩ := reading.next_nil free
    rw [← position]
    exact ⟨after, found, .free left unheld⟩

end Source
end TokenListing
