import TokenListing.Proofs.Grammar.Pieces
import TokenListing.Proofs.Span.Moving

/-! # Blanks separate

No lexeme can be extended by a blank, so a lexeme is one wherever a blank or nothing follows it. A
text of tokens therefore keeps them before a blank, and what comes after a newline is tokens as if
the text began there, but so many lines further down.
-/
namespace TokenListing.Grammar

def Parted (follow : Option Char) : Prop :=
  EndsBefore follow fun c => !Text.isBlank c

theorem parted_none : Parted none :=
  endsBefore_none

theorem parted_of_isBlank {c : Char} (blank : Text.isBlank c = true) : Parted (some c) :=
  endsBefore_some (by rw [blank]; rfl)

theorem isBlank_of_continuesName {c : Char} (h : Lexer.continuesName c = true) :
    Text.isBlank c = false := by
  rcases (Bool.or_eq_true _ _).mp h with known | underscore
  · rcases (Bool.or_eq_true _ _).mp known with letter | numeral
    · exact Text.isBlank_of_isLetter letter
    · exact Text.isBlank_of_isNumeral numeral
  · rw [beq_iff_eq.mp underscore]
    rfl

theorem Parted.endsBefore {follow : Option Char} {inside : Char → Bool} (h : Parted follow)
    (visible : ∀ c, inside c = true → Text.isBlank c = false) : EndsBefore follow inside := by
  intro c found
  have blank : (!Text.isBlank c) = false := h c found
  cases within : inside c with
  | false => rfl
  | true =>
    rw [visible c within] at blank
    cases blank

/-- What is a lexeme before some character is one before a blank. -/
theorem Lexeme.parted {spelling : List Char} {follow other : Option Char} {kind : TokenKind}
    {value : TokenValue} (h : Lexeme spelling follow kind value) (parted : Parted other) :
    Lexeme spelling other kind value := by
  have visible {c first : Char} (same : (c == first) = true)
      (shown : Text.isBlank first = false) : Text.isBlank c = false := by
    rw [beq_iff_eq.mp same]
    exact shown
  cases h with
  | fixed listed => exact .fixed listed
  | less =>
    refine .less (parted.endsBefore fun c inside => ?_)
    rcases (Bool.or_eq_true _ _).mp inside with same | same
    · exact visible same rfl
    · exact visible same rfl
  | greater => exact .greater (parted.endsBefore fun c same => visible same rfl)
  | integer read fits =>
    refine .integer read fits (parted.endsBefore fun c inside => ?_)
    rcases (Bool.or_eq_true _ _).mp inside with digit | same
    · exact Text.isBlank_of_isDigit digit
    · exact visible same rfl
  | decimal before after =>
    exact .decimal before after (parted.endsBefore fun c => Text.isBlank_of_isDigit)
  | name begun more =>
    exact .name begun more (parted.endsBefore fun c => isBlank_of_continuesName)

theorem Tokens.trans {before middle after : Span} {text rest last : List Char}
    {tokens more : List Token} (h : Tokens before text tokens middle rest)
    (later : Tokens middle rest more after last) :
    Tokens before text (tokens ++ more) after last := by
  induction h with
  | none => exact later
  | blank blank _ ih => exact .blank blank (ih later)
  | token begun read _ ih => exact .token begun read (ih later)

/-- The tokens of a whole text are the same where a blank follows it. -/
theorem Tokens.parted {before after : Span} {text rest other : List Char} {tokens : List Token}
    (h : Tokens before text tokens after rest) (whole : rest = []) (parted : Parted other.head?) :
    Tokens before (text ++ other) tokens after other := by
  induction h with
  | none =>
    rw [whole]
    exact .none
  | blank blank _ ih => exact .blank blank (ih whole)
  | @token before after lexeme text rest first kind value tokens begun read more ih =>
    have read' : Lexeme lexeme (text ++ other).head? kind value := by
      cases text with
      | nil => exact read.parted parted
      | cons c text => exact read
    rw [List.append_assoc]
    exact .token begun read' (ih whole)

theorem Tokens.down (lines : Nat) {before after : Span} {text rest : List Char}
    {tokens : List Token} (h : Tokens before text tokens after rest) :
    Tokens (before.down lines) text (tokens.map (Token.down lines)) (after.down lines) rest := by
  induction h with
  | none => exact .none
  | @blank before after c text rest tokens blank more ih =>
    rw [Span.down_advance] at ih
    exact .blank blank ih
  | @token before after lexeme text rest first kind value tokens begun read more ih =>
    rw [Span.down_after] at ih
    have moved : Token.down lines ⟨kind, value, before.advance first⟩ =
        ⟨kind, value, (before.down lines).advance first⟩ := by
      rw [← Span.down_advance]
      rfl
    rw [List.map_cons, moved]
    exact .token begun read ih

/-- After a whole text of tokens and a newline, what follows has the tokens that it has alone,
below the lines of the text. -/
theorem Complete.trans_tokens {text other rest : List Char} {tokens more : List Token}
    {after : Span} (h : Complete text tokens) (later : Tokens .start other more after rest) :
    Tokens .start (text ++ '\n' :: other)
      (tokens ++ more.map (Token.down (1 + text.count '\n')))
      (after.down (1 + text.count '\n')) rest := by
  obtain ⟨last, read⟩ := h
  obtain ⟨front, whole, place, -⟩ := read.exchange
  rw [List.append_nil] at whole
  have moved := later.down (1 + text.count '\n')
  rw [← Span.advance_newline_after, whole, ← place] at moved
  rw [whole] at read ⊢
  have newline : Text.isBlank '\n' = true := rfl
  have before : Tokens .start (front ++ '\n' :: other) tokens last ('\n' :: other) :=
    read.parted rfl (parted_of_isBlank newline)
  exact before.trans (.blank newline moved)

theorem Complete.trans_complete {text other : List Char} {tokens more : List Token}
    (h : Complete text tokens) (later : Complete other more) :
    Complete (text ++ '\n' :: other)
      (tokens ++ more.map (Token.down (1 + text.count '\n'))) := by
  obtain ⟨after, read⟩ := later
  exact ⟨_, h.trans_tokens read⟩

theorem Complete.trans_broken {text other : List Char} {tokens more : List Token}
    {malformation : Malformation} {span : Span} (h : Complete text tokens)
    (later : Broken other more malformation span) :
    Broken (text ++ '\n' :: other) (tokens ++ more.map (Token.down (1 + text.count '\n')))
      malformation (span.down (1 + text.count '\n')) := by
  obtain ⟨after, opening, first, rest, read, begun, wrong, rfl⟩ := later
  exact ⟨_, opening, first, rest, h.trans_tokens read, begun, wrong, Span.down_advance _ _ _⟩

end TokenListing.Grammar
