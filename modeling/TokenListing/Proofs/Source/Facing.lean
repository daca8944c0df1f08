import TokenListing.Proofs.Source.Reading
import TokenListing.Proofs.Stream.Failing

/-! # Sources that face a failure

A source faces a failure after a text if it hands out the characters of that text next, and then the
failure instead of a character. As for a source that stands before a text, the position before the
text is that of the source unless the source took back the first character.
-/
namespace TokenListing.Source
open Text.Utf8

/-- The source hands out `text` next and then fails, and `before` is the position before it. -/
inductive Faces (failure : Failure) : Source → Span → List Char → Prop where
  | free {source : Source} {bytes kept lost : List UInt8} {text : List Char} {more : List Signal}
      (parts : Parts bytes kept lost)
      (awaits : source.Awaits (kept.map .byte ++ (lost.map .byte ++ .failure failure :: more)))
      (spelled : Text.Utf8.decode kept = text) : Faces failure source source.position text
  | holding {source : Source} {before : Span} {c : Char} {text : List Char}
      (held : source.held = some c) (position : source.position = before.advance c)
      (further : Faces failure { source with held := none } source.position text) :
      Faces failure source before (c :: text)

variable {failure : Failure} {source : Source} {before : Span} {c : Char} {text : List Char}

theorem Faces.tell (h : source.Faces failure before text) (event : Event) :
    (source.tell event).Faces failure before text := by
  induction h with
  | free parts awaits spelled =>
    exact .free parts ⟨awaits.sound.tell event, awaits.free, awaits.brings⟩ spelled
  | holding held position further ih => exact .holding held position ih

theorem Faces.again (free : source.held = none) (position : source.position = before.advance c)
    (h : source.Faces failure source.position text) :
    Faces failure { source with held := some c } before (c :: text) := by
  refine .holding rfl position ?_
  dsimp only
  rw [← free]
  exact h

/-- A source hands out the first character of the text before the failure. It faces the rest then,
and the whole text again if it takes the character back. -/
theorem Faces.next_cons (h : source.Faces failure before (c :: text)) :
    ∃ after, source.next = (.ok (some c), after) ∧ after.position = before.advance c ∧
      after.Faces failure (before.advance c) text ∧
      Faces failure { after with held := some c } before (c :: text) := by
  have resumed {after : Source} (free : after.held = none)
      (position : after.position = before.advance c)
      (further : after.Faces failure after.position text) :
      after.position = before.advance c ∧ after.Faces failure (before.advance c) text ∧
        Faces failure { after with held := some c } before (c :: text) :=
    ⟨position, position ▸ further, further.again free position⟩
  cases h with
  | @free _ _ kept _ _ more parts awaits spelled =>
    cases kept with
    | nil => simp [Text.Utf8.decode] at spelled
    | cons lead kept =>
      rw [Text.Utf8.decode] at spelled
      cases spelled
      obtain ⟨read, rest⟩ := Signal.nextChar_of_parts parts (.failure failure :: more)
      obtain ⟨after, found, left, position⟩ := awaits.next read
      exact ⟨after, found, resumed left.free position (.free rest left rfl)⟩
  | holding held position further =>
    exact ⟨_, next_of_held held, resumed rfl position further⟩

theorem Faces.next_nil (h : source.Faces failure before []) :
    ∃ after, source.next = (.error failure, after) := by
  cases h with
  | @free _ _ kept _ _ more parts awaits spelled =>
    cases kept with
    | cons lead kept => simp [Text.Utf8.decode] at spelled
    | nil =>
      obtain ⟨after, found, -⟩ := awaits.next
        (Signal.nextChar_failing (parts.last.symm.imp And.left id) failure more)
      exact ⟨after, found⟩

end TokenListing.Source
