import TokenListing.Proofs.Source.Tape
import TokenListing.Proofs.Span.Counting

/-! # The position is that of the last character decoded

A call decodes a character only if it asks for the next one and none is held. The characters
decoded by a sequence of calls are the front of the text, and the position counts them and nothing
else.
-/
namespace TokenListing.Source

/-- The character that a call decodes, if it decodes one. -/
def fresh (source : Source) : Call → Option Char
  | .next => if source.held.isSome then none else source.next.1.toOption.join
  | .takeBack _ => none

def decoded (source : Source) : List Call → List Char
  | [] => []
  | call :: calls => (source.fresh call).toList ++ (source.reply call).2.decoded calls

theorem Reading.reply {source : Source} {text : List Char} (h : source.Reading text)
    (call : Call) : ∃ rest, text = (source.fresh call).toList ++ rest ∧
      (source.reply call).2.Reading rest ∧
      (source.reply call).2.position = source.position.after (source.fresh call).toList := by
  cases call with
  | takeBack char =>
    refine ⟨text, rfl, ?_⟩
    rw [Source.reply, takeBack]
    cases source.held with
    | some held => exact ⟨h, rfl⟩
    | none => exact ⟨h.withHeld _, rfl⟩
  | next =>
    rw [fresh, Source.reply]
    cases held : source.held with
    | some char =>
      rw [next_of_held held]
      exact ⟨text, rfl, h.withHeld _, rfl⟩
    | none =>
      cases text with
      | nil =>
        obtain ⟨after, found, left, -, position⟩ := h.next_nil held
        rw [found]
        exact ⟨[], rfl, left, position⟩
      | cons char text =>
        obtain ⟨after, found, left, -, position⟩ := h.next_cons held
        rw [found]
        exact ⟨text, rfl, left, position⟩

/-- What calls decode and what is left to decode make up the text, and the position counts what is
decoded. -/
theorem Reading.left {source : Source} {text : List Char} (h : source.Reading text)
    (calls : List Call) : ∃ rest, text = source.decoded calls ++ rest ∧
      (Calls.replies Source.reply source calls).2.Reading rest ∧
      (Calls.replies Source.reply source calls).2.position =
        source.position.after (source.decoded calls) := by
  induction calls generalizing source text with
  | nil => exact ⟨text, rfl, h, rfl⟩
  | cons call calls ih =>
    obtain ⟨rest, rfl, left, position⟩ := h.reply call
    obtain ⟨last, rfl, reading, counted⟩ := ih left
    rw [decoded, Calls.replies]
    refine ⟨last, (List.append_assoc _ _ _).symm, reading, ?_⟩
    rw [counted, position, Span.after_append]

theorem Reading.replies {source : Source} {text : List Char} (h : source.Reading text)
    (calls : List Call) : source.decoded calls <+: text ∧
      (Calls.replies Source.reply source calls).2.position =
        source.position.after (source.decoded calls) := by
  obtain ⟨rest, rfl, -, position⟩ := h.left calls
  exact ⟨List.prefix_append _ _, position⟩

theorem position_takeBack {source after : Source} {char : Char}
    (h : source.takeBack char = .ok after) : after.position = source.position := by
  unfold takeBack at h
  cases held : source.held with
  | some other =>
    rw [held] at h
    cases h
  | none =>
    rw [held] at h
    cases h
    rfl

end TokenListing.Source
