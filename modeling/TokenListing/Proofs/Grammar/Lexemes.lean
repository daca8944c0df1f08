import TokenListing.Grammar
import TokenListing.Proofs.Text.Classes

/-! # Facts about lexemes

Digits and names are built up by characters at their end, as a reader meets them. Every lexeme and
every malformed one begin with a visible character.
-/
namespace TokenListing.Grammar

theorem endsBefore_none {inside : Char → Bool} : EndsBefore none inside := by
  rintro _ ⟨⟩

theorem endsBefore_some {inside : Char → Bool} {c : Char} (h : inside c = false) :
    EndsBefore (some c) inside := by
  rintro _ ⟨⟩
  exact h

theorem forall_mem_snoc {inside : Char → Bool} {text : List Char} {c : Char}
    (h : ∀ a ∈ text, inside a = true) (hc : inside c = true) :
    ∀ a ∈ text ++ [c], inside a = true := by
  intro a mem
  rcases List.mem_append.mp mem with mem | mem
  · exact h a mem
  · rw [List.mem_singleton.mp mem]
    exact hc

theorem isDigits_singleton {c : Char} (h : c.isDigit = true) : IsDigits [c] :=
  ⟨List.cons_ne_nil _ _, by simpa using h⟩

theorem IsDigits.snoc {digits : List Char} {c : Char} (h : IsDigits digits)
    (hc : c.isDigit = true) : IsDigits (digits ++ [c]) :=
  ⟨List.append_ne_nil_of_left_ne_nil h.1 _, forall_mem_snoc h.2 hc⟩

theorem valueOf_singleton (c : Char) : valueOf [c] = Lexer.digitValue c := by
  rw [valueOf, List.foldl_cons, List.foldl_nil, Nat.zero_mul, Nat.zero_add]

theorem valueOf_snoc (digits : List Char) (c : Char) :
    valueOf (digits ++ [c]) = valueOf digits * 10 + Lexer.digitValue c := by
  rw [valueOf, List.foldl_append, List.foldl_cons, List.foldl_nil, valueOf]

theorem IsDigits.begun {digits : List Char} (h : IsDigits digits) :
    ∃ first rest, digits = first :: rest ∧ Text.isBlank first = false := by
  obtain ⟨nonempty, all⟩ := h
  cases digits with
  | nil => exact absurd rfl nonempty
  | cons first rest => exact ⟨first, rest, rfl, Text.isBlank_of_isDigit (all first (by simp))⟩

theorem Lexeme.begun {lexeme : List Char} {follow : Option Char} {kind : TokenKind}
    {value : TokenValue} (h : Lexeme lexeme follow kind value) :
    ∃ first rest, lexeme = first :: rest ∧ Text.isBlank first = false := by
  cases h with
  | fixed listed =>
    have all : ∀ entry ∈ fixedLexemes,
        entry.1.head?.any (fun first => !Text.isBlank first) = true := by decide
    obtain ⟨first, head, visible⟩ := (Option.any_eq_true _ _).mp (all _ listed)
    obtain ⟨rest, rfl⟩ := List.head?_eq_some_iff.mp head
    exact ⟨first, rest, rfl, by simpa using visible⟩
  | less => exact ⟨'<', [], rfl, rfl⟩
  | greater => exact ⟨'>', [], rfl, rfl⟩
  | integer read => exact read.begun
  | decimal before =>
    obtain ⟨first, rest, rfl, visible⟩ := before.begun
    exact ⟨first, _, rfl, visible⟩
  | name begun => exact ⟨_, _, rfl, Text.isBlank_of_isLetter begun⟩

theorem Malformed.begun {opening : List Char} {follow : Option Char} {malformation : Malformation}
    (h : Malformed opening follow malformation) :
    ∃ first rest, opening = first :: rest ∧ Text.isBlank first = false := by
  cases h with
  | unexpected visible => exact ⟨_, [], rfl, visible⟩
  | colon => exact ⟨':', [], rfl, rfl⟩
  | underscore => exact ⟨'_', [], rfl, rfl⟩
  | point read =>
    obtain ⟨first, rest, rfl, visible⟩ := read.begun
    exact ⟨first, _, rfl, visible⟩
  | great read => exact read.begun

end TokenListing.Grammar
