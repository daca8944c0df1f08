import TokenListing.Proofs.Grammar.Totality
import TokenListing.Proofs.Lexer.Iteration
import TokenListing.Proofs.Lexer.Reading

/-! # Lexers accept their grammar

A lexer over an input without failures yields the tokens of the decoded text in order. If the text
is complete it then comes to the end of the input, and if the text is broken it yields one error
for the leftmost malformed characters. Since every text is one of the two, the grammar says for
every text which sequence is yielded.
-/
namespace TokenListing.Lexer
open Grammar

theorem Stands.yields_tokens {before after : Span} {text rest : List Char} {tokens : List Token}
    (read : Tokens before text tokens after rest) {lexer : Lexer} (h : lexer.Stands before text) :
    ∃ left : Lexer, left.Stands after rest ∧
      lexer.yields = (tokens.map .ok ++ left.yields.1, left.yields.2) := by
  induction read generalizing lexer with
  | none => exact ⟨lexer, h, rfl⟩
  | blank blank more ih =>
    obtain ⟨other, stands, same⟩ := h.next_blank blank
    obtain ⟨left, further, yielded⟩ := ih stands
    exact ⟨left, further, (yields_congr same).trans yielded⟩
  | token begun read more ih =>
    obtain ⟨next, found, stands⟩ := h.next_lexeme begun read
    obtain ⟨left, further, yielded⟩ := ih stands
    refine ⟨left, further, ?_⟩
    rw [yields_of_some found, yielded]
    rfl

theorem Stands.yields_complete {lexer : Lexer} {text : List Char} {tokens : List Token}
    (h : lexer.Stands .start text) (complete : Complete text tokens) :
    lexer.yields.1 = tokens.map .ok ∧ lexer.yields.2.ending = some .endOfInput := by
  obtain ⟨after, read⟩ := complete
  obtain ⟨left, stands, yielded⟩ := h.yields_tokens read
  obtain ⟨last, found, ended⟩ := stands.next_nil
  rw [yielded, yields_of_none found, List.append_nil]
  exact ⟨rfl, ended⟩

theorem Stands.ends_broken {lexer : Lexer} {text : List Char} {tokens : List Token}
    {malformation : Malformation} {span : Span} (h : lexer.Stands .start text)
    (broken : Broken text tokens malformation span) :
    lexer.yields.1 = tokens.map .ok ++ [.error (.malformed malformation span)] ∧
      lexer.yields.2.ending = some (.failed (.malformed malformation span)) := by
  obtain ⟨after, opening, first, rest, read, begun, wrong, rfl⟩ := broken
  obtain ⟨left, stands, yielded⟩ := h.yields_tokens read
  obtain ⟨last, found, ended⟩ := stands.next_malformed begun wrong
  rw [yielded, yields_of_some found, yields_of_ending ended]
  exact ⟨rfl, ended⟩

theorem Stands.yields_broken {lexer : Lexer} {text : List Char} {tokens : List Token}
    {malformation : Malformation} {span : Span} (h : lexer.Stands .start text)
    (broken : Broken text tokens malformation span) :
    lexer.yields.1 = tokens.map .ok ++ [.error (.malformed malformation span)] :=
  (h.ends_broken broken).1

theorem map_ok_ne (tokens others : List Token) (error : LexError) :
    tokens.map Except.ok ≠ others.map Except.ok ++ [Except.error error] := by
  intro same
  have mem : Except.error error ∈ tokens.map Except.ok := by
    rw [same]
    exact List.mem_append_right _ List.mem_cons_self
  obtain ⟨token, -, equal⟩ := List.mem_map.mp mem
  cases equal

theorem map_ok_inj {tokens others : List Token}
    (h : tokens.map (Except.ok (ε := LexError)) = others.map Except.ok) : tokens = others :=
  (List.map_inj_right fun _ _ => Except.ok.inj).mp h

theorem Stands.yields_iff_complete {lexer : Lexer} {text : List Char}
    (h : lexer.Stands .start text) (tokens : List Token) :
    lexer.yields.1 = tokens.map .ok ∧ lexer.yields.2.ending = some .endOfInput ↔
      Complete text tokens := by
  constructor
  · rintro ⟨yielded, -⟩
    rcases complete_or_broken text with ⟨others, complete⟩ | ⟨others, malformation, span, broken⟩
    · rw [(h.yields_complete complete).1] at yielded
      rw [← map_ok_inj yielded]
      exact complete
    · rw [h.yields_broken broken] at yielded
      exact absurd yielded.symm (map_ok_ne _ _ _)
  · exact h.yields_complete

end TokenListing.Lexer
