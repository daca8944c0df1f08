import TokenListing.Proofs.Grammar.Pieces
import TokenListing.Proofs.Lexer.Acceptance
import TokenListing.Proofs.Span.Counting
import TokenListing.Proofs.Text.Utf8Flaws

/-! # Malformed bytes are rejected

The replacement character is no blank and is in no lexeme, so no token comes after it. A lexer that
comes to the end of its input has therefore read well-formed bytes, and one that reads a malformed
sequence stops at an error no later than there.
-/
namespace TokenListing

open Text.Utf8

namespace Grammar

theorem isDigit_replacement : replacement.isDigit = false := by
  decide

theorem isBlank_replacement : Text.isBlank replacement = false := by
  decide

theorem continuesName_replacement : Lexer.continuesName replacement = false := by
  decide +kernel

theorem IsDigits.replacement_notMem {digits : List Char} (h : IsDigits digits) :
    replacement ∉ digits := by
  intro mem
  cases isDigit_replacement.symm.trans (h.2 _ mem)

theorem Lexeme.replacement_notMem {spelling : List Char} {follow : Option Char} {kind : TokenKind}
    {value : TokenValue} (h : Lexeme spelling follow kind value) : replacement ∉ spelling := by
  cases h with
  | fixed listed =>
    have all : ∀ entry ∈ fixedLexemes, replacement ∉ entry.1 := by decide
    exact all _ listed
  | less => decide
  | greater => decide
  | integer read => exact read.replacement_notMem
  | decimal before after =>
    intro mem
    rcases List.mem_append.mp mem with mem | mem
    · exact before.replacement_notMem mem
    · rcases List.mem_cons.mp mem with point | mem
      · exact absurd point (by decide)
      · exact after.replacement_notMem mem
  | @name first rest _ begun more =>
    intro mem
    have continues : Lexer.continuesName replacement = true := by
      rcases List.mem_cons.mp mem with same | mem
      · rw [same, Lexer.continuesName, begun]
        rfl
      · exact more _ mem
    cases continuesName_replacement.symm.trans continues

theorem Tokens.replacement_notMem {before after : Span} {text rest : List Char}
    {tokens : List Token} (h : Tokens before text tokens after rest) :
    ∃ front, text = front ++ rest ∧ after = before.after front ∧ replacement ∉ front := by
  induction h with
  | none => exact ⟨[], rfl, rfl, List.not_mem_nil⟩
  | @blank before after c text rest tokens blank more ih =>
    obtain ⟨front, rfl, rfl, absent⟩ := ih
    refine ⟨c :: front, rfl, rfl, List.not_mem_cons_of_ne_of_not_mem ?_ absent⟩
    intro same
    rw [← same] at blank
    cases isBlank_replacement.symm.trans blank
  | @token before after lexeme text rest first kind value tokens begun read more ih =>
    obtain ⟨front, rfl, rfl, absent⟩ := ih
    refine ⟨lexeme ++ front, (List.append_assoc _ _ _).symm, List.foldl_append.symm, ?_⟩
    intro mem
    rcases List.mem_append.mp mem with mem | mem
    · exact read.replacement_notMem mem
    · exact absent mem

theorem Complete.replacement_notMem {text : List Char} {tokens : List Token}
    (h : Complete text tokens) : replacement ∉ text := by
  obtain ⟨after, read⟩ := h
  obtain ⟨front, rfl, -, absent⟩ := read.replacement_notMem
  rw [List.append_nil]
  exact absent

theorem prefix_of_notMem {front text rest back : List Char} {c : Char} (absent : c ∉ front)
    (same : front ++ rest = text ++ c :: back) : front <+: text := by
  rcases List.append_eq_append_iff.mp same with ⟨left, rfl, -⟩ | ⟨left, rfl, spelled⟩
  · exact List.prefix_append _ _
  · cases left with
    | nil => exact ⟨[], by rw [List.append_nil, List.append_nil]⟩
    | cons other left =>
      injection spelled with same
      exact absurd (List.mem_append_right _ (same ▸ List.mem_cons_self)) absent

theorem Broken.begins_by {text front back : List Char} {tokens : List Token}
    {malformation : Malformation} {span : Span} (h : Broken text tokens malformation span)
    (replaced : text = front ++ replacement :: back) :
    ∃ before first rest, text = before ++ first :: rest ∧ before <+: front ∧ first ≠ '\n' ∧
      span = (Span.start.after before).advance first := by
  obtain ⟨after, opening, first, rest, read, begun, wrong, rfl⟩ := h
  obtain ⟨before, rfl, rfl, absent⟩ := read.replacement_notMem
  obtain ⟨first, tail, rfl, visible⟩ := wrong.begun
  cases begun
  refine ⟨before, _, tail ++ rest, rfl, prefix_of_notMem absent replaced, ?_, rfl⟩
  rintro rfl
  cases visible

end Grammar

namespace Lexer
open Grammar

/-- A lexer over an input without failures that comes to its end has cut the text into blanks and
lexemes, and what these encode are the bytes of the input: well-formed ones, without the replacement
character. If there is a replacement character in the text, the lexer stops at an error that is not
after it. It is there in place of every malformed sequence that follows the encoding of a text, and
there is such a sequence exactly in bytes that are not well-formed. -/
theorem malformed_bytes_rejected {input : Input} {capacity : Nat} {bytes : List UInt8}
    (room : 0 < capacity) (unblocked : input.limit ≠ some 0)
    (delivered : input.contents = .ok bytes) (log : Diagnostic.Log) :
    let text := decode bytes
    let run := (ofInput input capacity log).yields
    (run.2.ending = some .endOfInput →
      bytes.toByteArray.IsValidUTF8 ∧ replacement ∉ text ∧
        ∃ (pieces : List Piece) (tokens : List Token), Cut .start text pieces ∧
          run.1 = tokens.map .ok ∧ itemsOf pieces = tokens.map .ok ∧
          bytes = pieces.flatMap fun piece => encode piece.text) ∧
    (∀ front back, text = front ++ replacement :: back →
      ∃ (tokens : List Token) (malformation : Malformation) (span : Span) (before : List Char)
          (first : Char) (rest : List Char),
        run.1 = tokens.map .ok ++ [.error (.malformed malformation span)] ∧
        run.2.ending = some (.failed (.malformed malformation span)) ∧
        text = before ++ first :: rest ∧ before <+: front ∧
        span = (Span.start.after before).advance first ∧
        (Span.Fits (before ++ [first]) →
          span.line.toNat < 1 + front.count '\n' ∨
          span.line.toNat = 1 + front.count '\n' ∧
            span.column.toNat ≤ 1 + Span.sinceNewline front)) ∧
    (∀ front bad, bytes = encode front ++ bad → Flawed bad →
      ∃ back, text = front ++ replacement :: back) ∧
    (¬ bytes.toByteArray.IsValidUTF8 ↔ ∃ front bad, bytes = encode front ++ bad ∧ Flawed bad) := by
  intro text run
  have standing : (ofInput input capacity log).Stands .start text :=
    stands_ofInput room unblocked delivered log
  refine ⟨?_, ?_, ?_, not_isValidUTF8_iff bytes⟩
  · intro ended
    rcases complete_or_broken text with ⟨tokens, complete⟩ | ⟨tokens, malformation, span, broken⟩
    · have absent := complete.replacement_notMem
      obtain ⟨pieces, cut, items, whole⟩ := complete.cut
      have spelled : encode text = bytes := encode_decode absent
      refine ⟨(isValidUTF8_iff bytes).mpr ⟨text, spelled.symm⟩, absent, pieces, tokens, cut,
        (standing.yields_complete complete).1, items, ?_⟩
      calc
        bytes = encode (textOf pieces) := by rw [whole, spelled]
        _ = pieces.flatMap fun piece => encode piece.text := List.flatMap_assoc
    · cases ended.symm.trans (standing.ends_broken broken).2
  · intro front back replaced
    rcases complete_or_broken text with ⟨tokens, complete⟩ | ⟨tokens, malformation, span, broken⟩
    · have absent := complete.replacement_notMem
      rw [replaced] at absent
      exact absurd (List.mem_append_right _ List.mem_cons_self) absent
    · obtain ⟨before, first, rest, place, part, other, position⟩ := broken.begins_by replaced
      obtain ⟨yielded, ended⟩ := standing.ends_broken broken
      refine ⟨tokens, malformation, span, before, first, rest, yielded, ended, place, part,
        position, fun fits => ?_⟩
      have counts := fits.counts_after
      rw [Span.after, List.foldl_append] at counts
      rw [position]
      exact Span.Counts.not_after counts other part
  · intro front bad spelled flawed
    obtain ⟨back, replaced⟩ := flawed.decode_after front
    exact ⟨back, (congrArg decode spelled).trans replaced⟩

/-- A sequence of two bytes ends after the first of them, behind an operator. -/
theorem malformed_bytes_rejected_truncated :
    let input : Input := { items := [.data [0x61, 0x0A, 0x3C], .data [0xC3]] }
    let run := (ofInput input 2).yields
    let bytes : List UInt8 := [0x61, 0x0A, 0x3C, 0xC3]
    0 < 2 ∧ input.limit ≠ some 0 ∧ input.contents = .ok bytes ∧
      ¬ bytes.toByteArray.IsValidUTF8 ∧
      ∃ (tokens : List Token) (malformation : Malformation) (span : Span),
        run.1 = tokens.map .ok ++ [.error (.malformed malformation span)] ∧
        (span.line.toNat < 2 ∨ span.line.toNat = 2 ∧ span.column.toNat ≤ 2) := by
  intro input run bytes
  have room : 0 < 2 := by decide
  have unblocked : input.limit ≠ some 0 := by decide
  have delivered : input.contents = .ok bytes := rfl
  have spelled : bytes = encode ['a', '\n', '<'] ++ [0xC3] := by decide +kernel
  have announced : width 0xC3 = some (1 + 1) := rfl
  have short : ([] : List UInt8).length < 1 := by decide
  have flawed : Flawed (0xC3 :: ([] ++ [])) := .truncated announced short (by simp) (by simp)
  obtain ⟨-, stops, replaced, malformed⟩ := malformed_bytes_rejected room unblocked delivered {}
  obtain ⟨back, read⟩ := replaced _ _ spelled flawed
  obtain ⟨tokens, malformation, span, before, first, rest, yielded, -, -, part, -, bounded⟩ :=
    stops _ _ read
  have few : (before ++ [first]).length < UInt32.size - 1 := by
    have bound := part.length_le
    rw [List.length_append]
    exact Nat.lt_of_le_of_lt (Nat.succ_le_succ bound) (by decide)
  exact ⟨room, unblocked, delivered, malformed.mpr ⟨_, _, spelled, flawed⟩, tokens, malformation,
    span, yielded, bounded (Span.fits_of_length few)⟩

end Lexer
end TokenListing
