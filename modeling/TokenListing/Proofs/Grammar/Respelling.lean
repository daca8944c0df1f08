import TokenListing.Proofs.Grammar.Digits
import TokenListing.Proofs.Grammar.Separation

/-! # Tokens spelled anew

A value that is no decimal is shown as a lexeme of itself, and zeros before an integer do not
change it. So the tokens of a text may be spelled anew, with blanks after each of them, and the
new text has tokens of the same kinds and values.
-/
namespace TokenListing.Grammar

/-- What may be written for a value: what shows it, and an integer with zeros before it. -/
inductive Spells : TokenValue → List Char → Prop where
  | shown (value : TokenValue) : Spells value value.display.toList
  | zero {value : Int64} {spelling : List Char} (spells : Spells (.integer value) spelling) :
      Spells (.integer value) ('0' :: spelling)

/-- A token with what is written for it and the blanks after that. -/
structure Spelled where
  token : Token
  spelling : List Char
  gap : List Char

def Spelled.text (part : Spelled) : List Char :=
  part.spelling ++ part.gap

theorem Spells.text {word : String} {spelling : List Char} (h : Spells (.text word) spelling) :
    spelling = word.toList := by
  cases h
  rfl

theorem display_integer {n : Nat} (fits : n ≤ Lexer.Verdict.greatestInteger) :
    (TokenValue.integer (Int64.ofNat n)).display.toList = Nat.toDigits 10 n := by
  have small : n < 2 ^ 63 := Nat.lt_of_le_pred (by decide) fits
  rw [TokenValue.display, Int64.toInt_ofNat_of_lt small]
  exact Nat.toList_repr

theorem Spells.digits {n : Nat} {spelling : List Char} (fits : n ≤ Lexer.Verdict.greatestInteger)
    (h : Spells (.integer (Int64.ofNat n)) spelling) :
    IsDigits spelling ∧ valueOf spelling = n := by
  generalize hvalue : TokenValue.integer (Int64.ofNat n) = value at h
  induction h with
  | shown value =>
    rw [← hvalue, display_integer fits]
    exact ⟨isDigits_toDigits n, valueOf_toDigits n⟩
  | @zero value spelling spells ih =>
    obtain ⟨⟨-, digits⟩, amount⟩ := ih hvalue
    refine ⟨⟨List.cons_ne_nil _ _, List.forall_mem_cons.mpr ⟨rfl, digits⟩⟩, ?_⟩
    exact (valueOf_zeros_append 1 spelling).trans amount

theorem Lexeme.spelling_of_text {spelling : List Char} {follow : Option Char} {kind : TokenKind}
    {word : String} (h : Lexeme spelling follow kind (.text word)) : spelling = word.toList := by
  cases h with
  | fixed | name => exact String.toList_ofList.symm
  | less | greater => rfl

/-- What is written for the value of a lexeme is a lexeme of the same kind and value, if a blank or
nothing follows it. -/
theorem Lexeme.respelled {spelling written : List Char} {follow other : Option Char}
    {kind : TokenKind} {value : TokenValue} (h : Lexeme spelling follow kind value)
    (whole : ∀ x, value ≠ .decimal x) (spells : Spells value written) (parted : Parted other) :
    Lexeme written other kind value := by
  cases value with
  | text word =>
    rw [spells.text, ← h.spelling_of_text]
    exact h.parted parted
  | decimal x => exact absurd rfl (whole x)
  | integer value =>
    cases h with
    | integer read fits =>
      obtain ⟨digits, amount⟩ := spells.digits fits
      rw [← amount] at fits ⊢
      refine .integer digits fits (parted.endsBefore fun c inside => ?_)
      rcases (Bool.or_eq_true _ _).mp inside with digit | same
      · exact Text.isBlank_of_isDigit digit
      · rw [beq_iff_eq.mp same]
        rfl

theorem Tokens.lexeme {before after : Span} {text rest : List Char} {tokens : List Token}
    (h : Tokens before text tokens after rest) :
    ∀ token ∈ tokens, ∃ spelling follow, Lexeme spelling follow token.kind token.value := by
  induction h with
  | none => exact fun _ mem => absurd mem List.not_mem_nil
  | blank blank more ih => exact ih
  | token begun read more ih => exact List.forall_mem_cons.mpr ⟨⟨_, _, read⟩, ih⟩

theorem Tokens.after_blanks {before after : Span} {gap text rest : List Char} {tokens : List Token}
    (blank : ∀ c ∈ gap, Text.isBlank c = true)
    (h : Tokens (before.after gap) text tokens after rest) :
    Tokens before (gap ++ text) tokens after rest := by
  induction gap generalizing before with
  | nil => exact h
  | cons c gap ih =>
    obtain ⟨first, more⟩ := List.forall_mem_cons.mp blank
    exact .blank first (ih more h)

/-- What a token means, wherever it stands. -/
def meaning (token : Token) : TokenKind × TokenValue :=
  (token.kind, token.value)

structure Spelled.Sound (part : Spelled) : Prop where
  lexeme : ∃ spelling follow, Lexeme spelling follow part.token.kind part.token.value
  whole : ∀ x, part.token.value ≠ .decimal x
  spells : Spells part.token.value part.spelling
  blank : ∀ c ∈ part.gap, Text.isBlank c = true

theorem Spelled.Sound.tokens {part : Spelled} (h : part.Sound) (before : Span) {text : List Char}
    (parted : part.gap = [] → text = []) :
    ∃ token after, meaning token = meaning part.token ∧
      ∀ {more : List Token} {last : Span}, Tokens after text more last [] →
        Tokens before (part.text ++ text) (token :: more) last [] := by
  obtain ⟨spelling, follow, read⟩ := h.lexeme
  have ends : Parted (part.gap ++ text).head? := by
    cases hgap : part.gap with
    | nil =>
      rw [parted hgap]
      exact parted_none
    | cons c gap => exact parted_of_isBlank (h.blank c (hgap ▸ List.mem_cons_self))
  have again := read.respelled h.whole h.spells ends
  obtain ⟨first, rest, spelled, -⟩ := again.begun
  refine ⟨⟨part.token.kind, part.token.value, before.advance first⟩,
    (before.after part.spelling).after part.gap, rfl, fun more => ?_⟩
  rw [Spelled.text, List.append_assoc]
  exact .token (by rw [spelled]; rfl) again (more.after_blanks h.blank)

theorem apart_cons {part : Spelled} {parts : List Spelled}
    (apart : ∀ other ∈ (part :: parts).dropLast, other.gap ≠ []) :
    (part.gap = [] → parts = []) ∧ ∀ other ∈ parts.dropLast, other.gap ≠ [] := by
  cases parts with
  | nil => exact ⟨fun _ => rfl, fun _ => nofun⟩
  | cons next parts =>
    obtain ⟨first, later⟩ := List.forall_mem_cons.mp apart
    exact ⟨fun none => absurd none first, later⟩

theorem tokens_of_spelled {parts : List Spelled} (sound : ∀ part ∈ parts, part.Sound)
    (apart : ∀ part ∈ parts.dropLast, part.gap ≠ []) (before : Span) :
    ∃ tokens after, Tokens before (parts.flatMap Spelled.text) tokens after [] ∧
      tokens.map meaning = parts.map fun part => meaning part.token := by
  induction parts generalizing before with
  | nil => exact ⟨[], before, .none, rfl⟩
  | cons part parts ih =>
    obtain ⟨first, others⟩ := List.forall_mem_cons.mp sound
    obtain ⟨final, later⟩ := apart_cons apart
    have parted : part.gap = [] → parts.flatMap Spelled.text = [] := fun none => by
      rw [final none, List.flatMap_nil]
    obtain ⟨token, after, same, joined⟩ := first.tokens before parted
    obtain ⟨tokens, last, read, meanings⟩ := ih others later after
    refine ⟨token :: tokens, last, joined read, ?_⟩
    rw [List.map_cons, List.map_cons, same, meanings]

/-- The tokens of a complete text, spelled anew after blanks and with blanks between them, make a
complete text again, and their kinds and values are the same. -/
theorem Complete.respelled {text lead : List Char} {tokens : List Token} {parts : List Spelled}
    (h : Complete text tokens) (whole : ∀ token ∈ tokens, ∀ x, token.value ≠ .decimal x)
    (same : parts.map Spelled.token = tokens)
    (spells : ∀ part ∈ parts, Spells part.token.value part.spelling)
    (leading : ∀ c ∈ lead, Text.isBlank c = true)
    (blank : ∀ part ∈ parts, ∀ c ∈ part.gap, Text.isBlank c = true)
    (apart : ∀ part ∈ parts.dropLast, part.gap ≠ []) :
    ∃ others, Complete (lead ++ parts.flatMap Spelled.text) others ∧
      others.map meaning = tokens.map meaning := by
  obtain ⟨after, read⟩ := h
  have sound : ∀ part ∈ parts, part.Sound := by
    intro part mem
    have listed : part.token ∈ tokens := same ▸ List.mem_map_of_mem mem
    exact ⟨read.lexeme _ listed, whole _ listed, spells part mem, blank part mem⟩
  obtain ⟨others, last, again, meanings⟩ := tokens_of_spelled sound apart (Span.start.after lead)
  refine ⟨others, ⟨last, again.after_blanks leading⟩, ?_⟩
  rw [meanings, ← same, List.map_map]
  rfl

end TokenListing.Grammar
