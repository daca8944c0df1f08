import TokenListing.Proofs.Grammar.Totality
import TokenListing.Proofs.Lexer.Recognition

/-! # Tokens that are certain

Where a text breaks off, those of its tokens are certain that are tokens whatever comes after the
text. The machine comes to its verdict on them within the text. On the first characters that make no
certain token it either finds a fault that nothing can mend, or asks for what comes after the text.
-/
namespace TokenListing

namespace Grammar

/-- The text begins with these tokens and they leave the same rest of it, whatever comes after the
text. -/
def Certain (before : Span) (text : List Char) (tokens : List Token) (after : Span)
    (rest : List Char) : Prop :=
  ∀ more, Tokens before (text ++ more) tokens after (rest ++ more)

/-- The tokens of a text from a position on end before malformed characters, the first of them at
`span`. -/
def Breaks (before : Span) (text : List Char) (tokens : List Token) (malformation : Malformation)
    (span : Span) : Prop :=
  ∃ after opening first rest, Tokens before text tokens after (opening ++ rest) ∧
    opening.head? = some first ∧ Malformed opening rest.head? malformation ∧
    span = after.advance first

variable {before after span : Span} {text lexeme rest : List Char} {c first : Char}
  {kind : TokenKind} {value : TokenValue} {given : Token} {tokens : List Token}
  {malformation : Malformation}

theorem certain_nil (before : Span) (text : List Char) : Certain before text [] before text :=
  fun _ => .none

theorem Certain.blank (blank : Text.isBlank c = true)
    (h : Certain (before.advance c) text tokens after rest) :
    Certain before (c :: text) tokens after rest :=
  fun more => .blank blank (h more)

theorem Certain.token (begun : lexeme.head? = some first)
    (read : ∀ more : List Char, Lexeme lexeme (text ++ more).head? kind value)
    (h : Certain (before.after lexeme) text tokens after rest) :
    Certain before (lexeme ++ text) (⟨kind, value, before.advance first⟩ :: tokens) after rest := by
  intro more
  rw [List.append_assoc]
  exact .token begun (read more) (h more)

theorem Breaks.blank (blank : Text.isBlank c = true)
    (h : Breaks (before.advance c) text tokens malformation span) :
    Breaks before (c :: text) tokens malformation span := by
  obtain ⟨after, opening, first, rest, read, wrong⟩ := h
  exact ⟨after, opening, first, rest, .blank blank read, wrong⟩

theorem Breaks.token (begun : lexeme.head? = some first)
    (read : Lexeme lexeme text.head? kind value)
    (h : Breaks (before.after lexeme) text tokens malformation span) :
    Breaks before (lexeme ++ text) (⟨kind, value, before.advance first⟩ :: tokens) malformation
      span := by
  obtain ⟨after, opening, start, rest, more, wrong⟩ := h
  exact ⟨after, opening, start, rest, .token begun read more, wrong⟩

theorem Tokens.of_blank (blank : Text.isBlank c = true)
    (h : Tokens before (c :: text) (given :: tokens) after rest) :
    Tokens (before.advance c) text (given :: tokens) after rest := by
  generalize hwhole : c :: text = whole at h
  cases h with
  | blank _ more =>
    cases hwhole
    exact more
  | token _ read _ =>
    obtain ⟨first, tail, rfl, visible⟩ := read.begun
    cases hwhole
    cases blank.symm.trans visible

theorem Tokens.of_lexeme (begun : lexeme.head? = some first)
    (read : Lexeme lexeme text.head? kind value)
    (h : Tokens before (lexeme ++ text) (given :: tokens) after rest) :
    given = ⟨kind, value, before.advance first⟩ ∧
      Tokens (before.after lexeme) text tokens after rest := by
  have judged := Lexer.judge_lexeme read
  generalize hwhole : lexeme ++ text = whole at h judged
  cases h with
  | blank blank more =>
    obtain ⟨first, tail, rfl, visible⟩ := read.begun
    cases hwhole
    cases blank.symm.trans visible
  | token begun' read' more =>
    cases judged.symm.trans (Lexer.judge_lexeme read')
    cases List.append_cancel_right hwhole
    cases begun.symm.trans begun'
    exact ⟨rfl, more⟩

theorem Tokens.of_nil (h : Tokens before [] tokens after rest) : tokens = [] ∧ rest = [] := by
  generalize hwhole : [] = whole at h
  cases h with
  | none => exact ⟨rfl, rfl⟩
  | blank => cases hwhole
  | token begun =>
    obtain ⟨rfl, -⟩ := List.append_eq_nil_iff.mp hwhole.symm
    cases begun

end Grammar

namespace Lexer
open Grammar

namespace State

/-- The verdict that the machine comes to within a text, and the rest of the text that it leaves.
There is none if it asks for what comes after the text. -/
def settle : State → List Char → Option (Verdict × List Char)
  | _, [] => none
  | state, c :: text =>
    match state.onChar c with
    | .advance next => next.settle text
    | .settle verdict => some (verdict, text)
    | .settleBefore verdict => some (verdict, c :: text)

variable {state : State} {text rest : List Char} {verdict : Verdict}

/-- What is settled within a text stays so whatever comes after it. -/
theorem judge_of_settle (h : state.settle text = some (verdict, rest)) (more : List Char) :
    state.judge (text ++ more) = some (verdict, rest ++ more) := by
  induction text generalizing state with
  | nil => cases h
  | cons c text ih =>
    rw [settle] at h
    rw [List.cons_append, judge]
    cases hstep : state.onChar c with
    | advance next =>
      rw [hstep] at h
      exact ih h
    | settle verdict =>
      rw [hstep] at h
      cases h
      rfl
    | settleBefore verdict =>
      rw [hstep] at h
      cases h
      rfl

theorem exists_taken (state : State) :
    ∃ c, ∀ verdict rest, state.judge [c] = some (verdict, rest) → rest = [] := by
  have onto {state next : State} {c : Char} (step : state.onChar c = .advance next) (verdict rest)
      (h : state.judge [c] = some (verdict, rest)) : rest = [] := by
    rw [judge, step] at h
    exact (Prod.mk.inj (Option.map_eq_some_iff.mp h).choose_spec.2).2.symm
  cases state with
  | start => exact ⟨' ', onto rfl⟩
  | colon => exact ⟨'=', by rintro verdict rest ⟨⟩; rfl⟩
  | less => exact ⟨'=', by rintro verdict rest ⟨⟩; rfl⟩
  | greater => exact ⟨'=', by rintro verdict rest ⟨⟩; rfl⟩
  | integer value => exact ⟨'0', onto rfl⟩
  | fraction digits places => exact ⟨'0', onto rfl⟩
  | name spelling => exact ⟨'_', onto rfl⟩
  | underscored => exact ⟨'_', onto rfl⟩

/-- What is not settled within a text can go on with a character that the machine takes. -/
theorem exists_taken_of_unsettled (h : state.settle text = none) :
    ∃ c, ∀ verdict rest, state.judge (text ++ [c]) = some (verdict, rest) → rest = [] := by
  induction text generalizing state with
  | nil => exact state.exists_taken
  | cons c text ih =>
    rw [settle] at h
    cases hstep : state.onChar c with
    | advance next =>
      rw [hstep] at h
      obtain ⟨d, taken⟩ := ih h
      refine ⟨d, ?_⟩
      rw [List.cons_append, judge, hstep]
      exact taken
    | settle verdict =>
      rw [hstep] at h
      cases h
    | settleBefore verdict =>
      rw [hstep] at h
      cases h

end State

variable {before after : Span} {c : Char} {text rest : List Char} {tokens : List Token}

/-- What the machine settles before a visible character is right, whatever comes after the text. -/
theorem judged_of_settle {verdict : Verdict} (visible : Text.isBlank c = false)
    (settled : State.start.settle (c :: text) = some (verdict, rest)) (more : List Char) :
    Judged (c :: text ++ more) verdict (rest ++ more) := by
  obtain ⟨verdict', rest', found, right⟩ := judged_of_visible visible (text ++ more)
  cases found.symm.trans (State.judge_of_settle settled more)
  exact right

theorem lexeme_of_settle {kind : TokenKind} {value : TokenValue} (visible : Text.isBlank c = false)
    (settled : State.start.settle (c :: text) = some (.token kind value, rest)) :
    ∃ lexeme, c :: text = lexeme ++ rest ∧ lexeme.head? = some c ∧
      ∀ more : List Char, Lexeme lexeme (rest ++ more).head? kind value := by
  have spelled (more : List Char) : ∃ lexeme, c :: text = lexeme ++ rest ∧
      Lexeme lexeme (rest ++ more).head? kind value := by
    have right := judged_of_settle visible settled more
    generalize hwhole : c :: text ++ more = whole at right
    cases right with
    | token read =>
      rw [← List.append_assoc] at hwhole
      exact ⟨_, List.append_cancel_right hwhole, read⟩
  obtain ⟨lexeme, split, read⟩ := spelled []
  refine ⟨lexeme, split, ?_, ?_⟩
  · obtain ⟨first, tail, rfl, -⟩ := read.begun
    cases split
    rfl
  · intro more
    obtain ⟨other, split', read'⟩ := spelled more
    rw [List.append_cancel_right (split.symm.trans split')]
    exact read'

theorem breaks_of_settle {malformation : Malformation} (visible : Text.isBlank c = false)
    (settled : State.start.settle (c :: text) = some (.malformed malformation, rest))
    (before : Span) (more : List Char) :
    Breaks before (c :: text ++ more) [] malformation (before.advance c) := by
  have right := judged_of_settle visible settled more
  generalize hwhole : c :: text ++ more = whole at right
  cases right with
  | malformed wrong =>
    obtain ⟨first, tail, rfl, -⟩ := wrong.begun
    obtain ⟨rfl, -⟩ := List.cons.inj hwhole
    exact ⟨before, _, c, _, .none, rfl, wrong, rfl⟩

theorem eq_nil_of_unsettled (visible : Text.isBlank c = false)
    (unsettled : State.start.settle (c :: text) = none)
    (h : Certain before (c :: text) tokens after rest) : tokens = [] := by
  cases tokens with
  | nil => rfl
  | cons token tokens =>
    exfalso
    -- A certain token leaves all that comes after the text, but there is a `d` that it would take.
    obtain ⟨d, taken⟩ := State.exists_taken_of_unsettled unsettled
    have read := h [d]
    generalize hwhole : c :: text ++ [d] = whole at read taken
    cases read with
    | blank blank more =>
      cases hwhole
      cases blank.symm.trans visible
    | token begun lexeme more =>
      rw [taken _ _ (judge_lexeme lexeme)] at more
      have none := more.of_nil.2
      simp at none

end Lexer
end TokenListing
