import TokenListing.Proofs.Grammar.Pieces
import TokenListing.Proofs.Lexer.Acceptance
import TokenListing.Proofs.Lexer.Latching
import TokenListing.Proofs.Source.Position
import TokenListing.Proofs.Span.Counting

/-! # Tokens and errors stand where their first character stands

What a lexer yields is what the pieces of its text say. The position of a token or an error counts
the text before its piece and the first character of the piece, so it is exact while the counters
last, and the positions move on from one to the next.
-/
namespace TokenListing

namespace Grammar

theorem Cut.counts {text : List Char} {earlier later : List Piece} {piece : Piece}
    {item : Except LexError Token} (cut : Cut .start text (earlier ++ piece :: later))
    (yielded : piece.item? = some item) :
    ∃ first tail, piece.text = first :: tail ∧ first ≠ '\n' ∧
      textOf earlier ++ piece.text <+: text ∧
      (Span.Fits (textOf earlier ++ [first]) →
        (spanOf item).Counts (textOf earlier ++ [first])) := by
  obtain ⟨rest, rfl, further⟩ := cut.split
  obtain ⟨first, tail, spelled, front, visible, span⟩ := further.item yielded
  refine ⟨first, tail, spelled, ?_, (List.prefix_append_right_inj _).mpr front, ?_⟩
  · rintro rfl
    cases visible
  · intro fits
    have counts := fits.counts_after
    rw [Span.after, List.foldl_append] at counts
    rw [span]
    exact counts

theorem Cut.later {text : List Char} {earlier middle rest : List Piece} {piece other : Piece}
    {item item' : Except LexError Token}
    (cut : Cut .start text (earlier ++ piece :: (middle ++ other :: rest)))
    (yielded : piece.item? = some item) (yielded' : other.item? = some item')
    (fits : Span.Fits (textOf (earlier ++ piece :: (middle ++ [other])))) :
    Span.order (spanOf item) (spanOf item') = .lt := by
  have again : Cut .start text ((earlier ++ piece :: middle) ++ other :: rest) := by
    simpa using cut
  obtain ⟨first, tail, spelled, -, -, counts⟩ := cut.counts yielded
  obtain ⟨first', tail', spelled', -, -, counts'⟩ := again.counts yielded'
  -- The text up to the later first character goes on from the text up to the earlier one.
  have between : textOf (earlier ++ piece :: middle) ++ [first'] =
      textOf earlier ++ [first] ++ (tail ++ textOf middle ++ [first']) := by
    simp [textOf, spelled]
  have whole : textOf (earlier ++ piece :: (middle ++ [other])) =
      textOf (earlier ++ piece :: middle) ++ [first'] ++ tail' := by
    simp [textOf, spelled']
  rw [whole] at fits
  have upTo := fits.of_prefix (List.prefix_append _ _)
  have last := counts' upTo
  rw [between] at upTo last
  have begun := counts (upTo.of_prefix (List.prefix_append _ _))
  exact Span.order_of_counts begun last (by simp)

/-- The positions of what is yielded move on while the counters last. -/
theorem Cut.increasing {text : List Char} {pieces front : List Piece}
    (cut : Cut .start text pieces) (part : front <+: pieces) (fits : Span.Fits (textOf front)) :
    (itemsOf front).Pairwise fun a b => Span.order (spanOf a) (spanOf b) = .lt := by
  obtain ⟨rest, rfl⟩ := part
  rw [itemsOf, List.pairwise_filterMap, List.pairwise_iff_forall_sublist]
  intro piece other both item yielded item' yielded'
  -- The two pieces stand in `front` one before the other, with whatever between them.
  obtain ⟨left, right, rfl, mem, mem'⟩ := List.cons_sublist_iff.mp both
  obtain ⟨earlier, middle, rfl⟩ := List.append_of_mem mem
  obtain ⟨middle', after, rfl⟩ := List.append_of_mem (List.singleton_sublist.mp mem')
  have shape : Cut .start text
      (earlier ++ piece :: ((middle ++ middle') ++ other :: (after ++ rest))) := by
    simpa using cut
  refine shape.later yielded yielded' (fits.of_prefix ⟨textOf after, ?_⟩)
  simp [textOf]

end Grammar

namespace Lexer
open Grammar

def Reply.item? : Reply → Option (Except LexError Token)
  | answer given => itemOf given
  | item found => found
  | position _ | finished _ => none

theorem Stands.yields_cut {lexer : Lexer} {text : List Char} (h : lexer.Stands .start text) :
    ∃ pieces, Cut .start text pieces ∧ lexer.yields.1 = itemsOf pieces := by
  rcases complete_or_broken text with ⟨tokens, complete⟩ | ⟨tokens, malformation, span, broken⟩
  · obtain ⟨pieces, cut, items, -⟩ := complete.cut
    exact ⟨pieces, cut, (h.yields_complete complete).1.trans items.symm⟩
  · obtain ⟨pieces, cut, items⟩ := broken.cut
    exact ⟨pieces, cut, (h.yields_broken broken).trans items.symm⟩

theorem reply_of_asking {lexer : Lexer} (running : lexer.ending = none) {call : Call}
    (asking : call = .nextToken ∨ call = .next) :
    (lexer.reply call).1.item? = lexer.next.1 ∧ (lexer.reply call).2 = lexer.next.2 := by
  rcases asking with rfl | rfl
  · rw [next_eq_nextToken running]
    exact ⟨rfl, rfl⟩
  · exact ⟨rfl, rfl⟩

theorem told_of_ending {lexer : Lexer} {ending : Ending} (ended : lexer.ending = some ending)
    {calls : List Call} {told : Reply} {item : Except LexError Token}
    (mem : told ∈ (Calls.replies reply lexer calls).1) (tells : told.item? = some item) :
    ∃ error, ending = .failed error ∧ item = .error error := by
  rw [replies_of_ending ended] at mem
  obtain ⟨call, -, rfl⟩ := List.mem_map.mp mem
  cases call with
  | nextToken =>
    cases ending with
    | endOfInput => cases tells
    | failed error =>
      cases tells
      exact ⟨error, rfl, rfl⟩
  | next => cases tells
  | position => cases tells
  | isFinished => cases tells

/-- However a lexer is called, it tells of nothing but what it yields. -/
theorem mem_yields_of_told {lexer : Lexer} (running : lexer.ending = none) (calls : List Call)
    {told : Reply} {item : Except LexError Token}
    (mem : told ∈ (Calls.replies reply lexer calls).1) (tells : told.item? = some item) :
    item ∈ lexer.yields.1 := by
  induction calls generalizing lexer with
  | nil => cases mem
  | cons call calls ih =>
    rw [Calls.replies] at mem
    -- A call that asks takes one item off the sequence, whichever of the two it is; the others
    -- leave the lexer as it is.
    by_cases asking : call = .nextToken ∨ call = .next
    · obtain ⟨found, moved⟩ := reply_of_asking running asking
      have ended : lexer.next.2.ending = (Reply.item lexer.next.1).ending? :=
        (settles_reply running .next).ending
      cases hnext : lexer.next with
      | mk yielded after =>
        rw [hnext] at found moved ended
        rw [moved] at mem
        cases yielded with
        | none =>
          rcases List.mem_cons.mp mem with rfl | mem
          · rw [found] at tells
            cases tells
          · obtain ⟨error, failed, -⟩ := told_of_ending ended mem tells
            cases failed
        | some yielded =>
          rw [yields_of_some hnext]
          rcases List.mem_cons.mp mem with rfl | mem
          · cases found.symm.trans tells
            exact List.mem_cons_self
          · cases yielded with
            | ok token => exact List.mem_cons_of_mem _ (ih ended mem)
            | error error =>
              obtain ⟨same, failed, rfl⟩ := told_of_ending ended mem tells
              cases failed
              exact List.mem_cons_self
    · have silent : (lexer.reply call).1.item? = none ∧ (lexer.reply call).2 = lexer := by
        cases call with
        | nextToken => exact absurd (.inl rfl) asking
        | next => exact absurd (.inr rfl) asking
        | position => exact ⟨rfl, rfl⟩
        | isFinished => exact ⟨rfl, rfl⟩
      rw [silent.2] at mem
      rcases List.mem_cons.mp mem with rfl | mem
      · cases silent.1.symm.trans tells
      · exact ih running mem

/-- What a lexer over an input without failures yields is told of by the pieces of the decoded
text, and no call tells of anything else. While the text up to a token or an error fits the
counters, its position is the line and the column of its first character, both counted from one,
so it is never that of nothing; and while the text of some pieces fits, the positions of what is
yielded for them increase. The position of a source counts the characters decoded so far; neither
taking one back nor handing it out again moves it. A text fits exactly if no counter goes beyond
its greatest number over it. -/
theorem positions_exact {input : Input} {capacity : Nat} {bytes : List UInt8}
    (room : 0 < capacity) (unblocked : input.limit ≠ some 0)
    (delivered : input.contents = .ok bytes) (log : Diagnostic.Log) :
    let text := Text.Utf8.decode bytes
    let items := (ofInput input capacity log).yields.1
    (∃ pieces, Cut .start text pieces ∧ items = itemsOf pieces ∧
      (∀ earlier piece later item, pieces = earlier ++ piece :: later →
        piece.item? = some item →
        ∃ first tail, piece.text = first :: tail ∧ textOf earlier ++ piece.text <+: text ∧
          (Span.Fits (textOf earlier ++ [first]) →
            (spanOf item).line.toNat = 1 + (textOf earlier).count '\n' ∧
            (spanOf item).column.toNat = 1 + Span.sinceNewline (textOf earlier) ∧
            1 ≤ (spanOf item).line ∧ 1 ≤ (spanOf item).column ∧ spanOf item ≠ .nowhere)) ∧
      ∀ front, front <+: pieces → Span.Fits (textOf front) →
        (itemsOf front).Pairwise fun a b => Span.order (spanOf a) (spanOf b) = .lt) ∧
    (∀ calls, ∀ told ∈ (Calls.replies reply (ofInput input capacity log) calls).1,
      ∀ item, told.item? = some item → item ∈ items) ∧
    (∀ calls,
      let fresh := Source.ofInput input capacity
      let source := (Calls.replies Source.reply fresh calls).2
      fresh.decoded calls <+: text ∧
        (Span.Fits (fresh.decoded calls) → source.position.Counts (fresh.decoded calls)) ∧
        (∀ char after, source.takeBack char = .ok after → after.position = source.position) ∧
        ∀ char, source.held = some char → source.next.2.position = source.position) ∧
    ∀ front, Span.start.after? front = some (Span.start.after front) ↔ Span.Fits front := by
  intro text items
  have standing := stands_ofInput room unblocked delivered log
  have reading := Source.reading_ofInput room unblocked delivered
  refine ⟨?_, ?_, ?_, Span.after?_eq_some_iff⟩
  · obtain ⟨pieces, cut, yielded⟩ := standing.yields_cut
    refine ⟨pieces, cut, yielded, ?_, fun front => cut.increasing⟩
    rintro earlier piece later item rfl tells
    obtain ⟨first, tail, spelled, other, inside, counts⟩ := cut.counts tells
    refine ⟨first, tail, spelled, inside, fun fits => ?_⟩
    obtain ⟨line, column⟩ := (counts fits).of_snoc other
    have counted {word : UInt32} {n : Nat} (h : word.toNat = 1 + n) : 1 ≤ word := by
      rw [UInt32.le_iff_toNat_le, h]
      exact Nat.le_add_right _ _
    refine ⟨line, column, counted line, counted column, ?_⟩
    intro nowhere
    have below := counted line
    rw [nowhere] at below
    exact absurd below (by decide)
  · intro calls told mem item tells
    exact mem_yields_of_told rfl calls mem tells
  · intro calls fresh source
    obtain ⟨front, position⟩ := reading.replies calls
    refine ⟨front, ?_, fun char after => Source.position_takeBack, ?_⟩
    · intro fits
      rw [position]
      exact fits.counts_after
    · intro char held
      rw [Source.next_of_held held]

/-- A newline that was read to end an operator counts for the name after it, and once. -/
theorem positions_exact_newline_ahead :
    let input : Input := { items := [.data [0x3C], .data [0x0A, 0x62]] }
    let items := (ofInput input 1).yields.1
    let calls := [Source.Call.next, .next, .takeBack '\n', .next]
    let source := (Calls.replies Source.reply (.ofInput input 1) calls).2
    0 < 1 ∧ input.limit ≠ some 0 ∧ input.contents = .ok [0x3C, 0x0A, 0x62] ∧
      Span.Fits ['<', '\n', 'b'] ∧
      items = [⟨.relation, .text "<", ⟨1, 1⟩⟩, ⟨.identifier, .text "b", ⟨2, 1⟩⟩].map .ok ∧
      items.Pairwise (fun a b => Span.order (spanOf a) (spanOf b) = .lt) ∧
      source.position.Counts ['<', '\n'] := by
  intro input items calls source
  have decoded : Text.Utf8.decode [0x3C, 0x0A, 0x62] = ['<', '\n', 'b'] :=
    Text.Utf8.decode_flatMap_utf8EncodeChar ['<', '\n', 'b']
  have fits : Span.Fits ['<', '\n', 'b'] := Span.fits_of_length (by decide)
  have relation : Lexeme ['<'] (some '\n') .relation (.text "<") := .less (endsBefore_some rfl)
  have name : Lexeme ['b'] none .identifier (.text "b") :=
    .name (by decide) (by simp) endsBefore_none
  have complete : Complete (['<'] ++ '\n' :: (['b'] ++ [])) _ :=
    ⟨_, .token rfl relation (.blank rfl (.token rfl name .none))⟩
  have room : 0 < 1 := by decide
  have unblocked : input.limit ≠ some 0 := by decide
  have delivered : input.contents = .ok [0x3C, 0x0A, 0x62] := rfl
  have standing : (ofInput input 1).Stands .start ['<', '\n', 'b'] :=
    decoded ▸ stands_ofInput room unblocked delivered {}
  obtain ⟨⟨pieces, cut, yielded, -, increasing⟩, -, counted, -⟩ :=
    positions_exact room unblocked delivered {}
  rw [decoded] at cut
  have moves := increasing pieces List.prefix_rfl (fits.of_prefix cut.textOf_prefix)
  rw [← yielded] at moves
  have taken : (Source.ofInput input 1).decoded calls = ['<', '\n'] := by decide +kernel
  have counts := (counted calls).2.1
  rw [taken] at counts
  exact ⟨room, unblocked, delivered, fits, (standing.yields_complete complete).1, moves,
    counts (fits.of_prefix ⟨['b'], rfl⟩)⟩

end Lexer
end TokenListing
