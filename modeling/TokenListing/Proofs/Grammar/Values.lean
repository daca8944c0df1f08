import TokenListing.Proofs.Binary64.Text
import TokenListing.Proofs.Grammar.Respelling

/-! # Values of tokens

The value of a lexeme is a number if its kind is that of numbers, and else its spelling. What shows
the value has no quote and no newline, and together with the kind it tells the value: an integer is
all digits, and a decimal is not.
-/
namespace TokenListing.Grammar

/-- No character of a text ends a quotation or a line. -/
def OnLine (text : List Char) : Prop :=
  '"' ∉ text ∧ '\n' ∉ text

instance (text : List Char) : Decidable (OnLine text) :=
  inferInstanceAs (Decidable (_ ∧ _))

/-- A kind with a value that a lexeme of it may have. -/
inductive Valued : TokenKind → TokenValue → Prop where
  | text {kind : TokenKind} {word : String} (other : kind ≠ .number) (shown : OnLine word.toList) :
      Valued kind (.text word)
  | integer {n : Nat} (fits : n ≤ Lexer.Verdict.greatestInteger) :
      Valued .number (.integer (Int64.ofNat n))
  | decimal {x : Binary64} (positive : x.isNegative = false) (number : x.isNaN = false) :
      Valued .number (.decimal x)

theorem onLine_digits {digits : List Char} (h : IsDigits digits) : OnLine digits :=
  ⟨h.notMem rfl, h.notMem rfl⟩

theorem continuesName_of_isLetter {c : Char} (h : Text.isLetter c = true) :
    Lexer.continuesName c = true := by
  rw [Lexer.continuesName, h]
  rfl

theorem onLine_name {first : Char} {rest : List Char} (begun : Text.isLetter first = true)
    (more : ∀ c ∈ rest, Lexer.continuesName c = true) : OnLine (first :: rest) := by
  have all : ∀ c ∈ first :: rest, Lexer.continuesName c = true :=
    List.forall_mem_cons.mpr ⟨continuesName_of_isLetter begun, more⟩
  exact ⟨fun mem => absurd (all _ mem) (by decide), fun mem => absurd (all _ mem) (by decide)⟩

theorem ofSpelling_ne_number (spelling : String) : TokenKind.ofSpelling spelling ≠ .number := by
  unfold TokenKind.ofSpelling
  cases Keyword.ofSpelling? spelling with
  | none => exact TokenKind.noConfusion
  | some word => exact TokenKind.noConfusion

theorem Lexeme.valued {spelling : List Char} {follow : Option Char} {kind : TokenKind}
    {value : TokenValue} (h : Lexeme spelling follow kind value) : Valued kind value := by
  cases h with
  | fixed listed =>
    have all : ∀ entry ∈ fixedLexemes, entry.2 ≠ .number ∧ OnLine entry.1 := by decide
    obtain ⟨other, shown⟩ := all _ listed
    exact .text other (by rwa [String.toList_ofList])
  | less => exact .text (by decide) (by decide)
  | greater => exact .text (by decide) (by decide)
  | integer read fits => exact .integer fits
  | decimal before after =>
    obtain ⟨positive, number⟩ := Binary64.ofMagnitude_positive (Binary64.nearest_le_infinite _ _)
    exact .decimal positive number
  | name begun more =>
    refine .text (ofSpelling_ne_number _) ?_
    rw [String.toList_ofList]
    exact onLine_name begun more

theorem Valued.onLine {kind : TokenKind} {value : TokenValue} (h : Valued kind value) :
    OnLine value.display.toList := by
  cases h with
  | text other shown => exact shown
  | integer fits =>
    rw [display_integer fits]
    exact onLine_digits (isDigits_toDigits _)
  | decimal positive number => exact Binary64.text_chars positive number

theorem display_integer_ne {n : Nat} {x : Binary64} (fits : n ≤ Lexer.Verdict.greatestInteger)
    (positive : x.isNegative = false) (number : x.isNaN = false) :
    (TokenValue.integer (Int64.ofNat n)).display ≠ (TokenValue.decimal x).display := by
  intro same
  obtain ⟨c, mem, other⟩ := Binary64.text_other_than_digits positive number
  have shown : (TokenValue.decimal x).display.toList = Nat.toDigits 10 n := by
    rw [← same, display_integer fits]
  exact (isDigits_toDigits n).notMem other (shown ▸ mem)

/-- Among the values that a kind may have, none is shown like another. -/
theorem Valued.display_inj {kind : TokenKind} {value other : TokenValue} (h : Valued kind value)
    (h' : Valued kind other) (same : value.display = other.display) : value = other := by
  cases h with
  | text nonumber =>
    cases h' with
    | text => exact congrArg TokenValue.text same
    | integer | decimal => exact absurd rfl nonumber
  | @integer n fits =>
    cases h' with
    | text nonumber => exact absurd rfl nonumber
    | @integer m fits' =>
      have digits := congrArg String.toList same
      rw [display_integer fits, display_integer fits'] at digits
      rw [toDigits_inj digits]
    | decimal positive number => exact absurd same (display_integer_ne fits positive number)
  | decimal positive number =>
    cases h' with
    | text nonumber => exact absurd rfl nonumber
    | integer fits => exact absurd same.symm (display_integer_ne fits positive number)
    | decimal positive' number' =>
      exact congrArg TokenValue.decimal
        (Binary64.text_inj positive number positive' number' same)

end TokenListing.Grammar
