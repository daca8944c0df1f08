import TokenListing.Proofs.Lexer.Judgement

/-! # Every text is complete or broken

What the machine says about the text before a visible character is right, so the tokens of a text
go on until it ends or malformed characters come. What comes after the tokens counts for them by
its first character alone.
-/
namespace TokenListing.Grammar

theorem tokens_total (before : Span) (text : List Char) :
    ∃ tokens after rest, Tokens before text tokens after rest ∧
      (rest = [] ∨ ∃ opening tail malformation, rest = opening ++ tail ∧
        Malformed opening tail.head? malformation) := by
  -- The induction is on the length, since a token shortens the text by all its characters.
  induction hlength : text.length using Nat.strongRecOn generalizing before text with
  | ind length ih =>
    cases text with
    | nil => exact ⟨[], before, [], .none, .inl rfl⟩
    | cons c text =>
      rw [List.length_cons] at hlength
      by_cases blank : Text.isBlank c = true
      · obtain ⟨tokens, after, rest, read, ended⟩ :=
          ih text.length (by omega) (before.advance c) text rfl
        exact ⟨tokens, after, rest, .blank blank read, ended⟩
      · obtain ⟨verdict, rest, -, right⟩ :=
          Lexer.judged_of_visible ((Bool.not_eq_true _).mp blank) text
        generalize hwhole : c :: text = whole at right
        cases right with
        | @malformed opening tail _ malformation read =>
          exact ⟨[], before, _, .none, .inr ⟨opening, tail, malformation, rfl, read⟩⟩
        | @token lexeme _ kind value read =>
          obtain ⟨first, more, rfl, -⟩ := read.begun
          have shorter := congrArg List.length hwhole
          simp only [List.length_cons, List.length_append] at shorter
          obtain ⟨tokens, after, left, further, ended⟩ :=
            ih rest.length (by omega) (before.after (first :: more)) rest rfl
          exact ⟨_ :: tokens, after, left, .token rfl read further, ended⟩

/-- Every text is all tokens, or its tokens end before malformed characters. -/
theorem complete_or_broken (text : List Char) :
    (∃ tokens, Complete text tokens) ∨
      ∃ tokens malformation span, Broken text tokens malformation span := by
  obtain ⟨tokens, after, rest, read, rfl | ⟨opening, tail, malformation, rfl, wrong⟩⟩ :=
    tokens_total .start text
  · exact .inl ⟨tokens, after, read⟩
  · obtain ⟨first, more, rfl, -⟩ := wrong.begun
    exact .inr ⟨tokens, malformation, _, after, _, first, tail, read, rfl, wrong, rfl⟩

/-- The tokens of a text stay the same if what comes after them is exchanged for something that
begins with the same character. -/
theorem Tokens.exchange {before after : Span} {text rest : List Char} {tokens : List Token}
    (h : Tokens before text tokens after rest) :
    ∃ front, text = front ++ rest ∧ after = before.after front ∧
      ∀ other, other.head? = rest.head? → Tokens before (front ++ other) tokens after other := by
  induction h with
  | none => exact ⟨[], rfl, rfl, fun other _ => .none⟩
  | @blank before after c text rest tokens blank more ih =>
    obtain ⟨front, rfl, rfl, kept⟩ := ih
    exact ⟨c :: front, rfl, rfl, fun other same => .blank blank (kept other same)⟩
  | @token before after lexeme text rest first kind value tokens begun read more ih =>
    obtain ⟨front, rfl, rfl, kept⟩ := ih
    refine ⟨lexeme ++ front, (List.append_assoc _ _ _).symm, List.foldl_append.symm,
      fun other same => ?_⟩
    have follow : (front ++ other).head? = (front ++ rest).head? := by
      rw [List.head?_append, List.head?_append, same]
    rw [List.append_assoc]
    exact .token begun (follow ▸ read) (kept other same)

end TokenListing.Grammar
