import Mathlib.Data.List.Basic
import TokenListing.Proofs.Grammar.Digits
import TokenListing.Proofs.Toml.Lines

/-! # Numerals at the end of a line

The shortest decimal numeral of a number is read as that integer. Dates, times and decimals begin
with digits as well and are tried before; each of them needs a further mark after some digits, and
the line ends first.
-/
namespace TokenListing.Toml

def DigitsToEnd (s : List Char) : Prop :=
  ∃ digits rest, (∀ c ∈ digits, c.isDigit = true) ∧ s = digits ++ '\n' :: rest

def IsMark (c : Char) : Prop :=
  c.isDigit = false ∧ c ≠ '\n'

instance (c : Char) : Decidable (IsMark c) :=
  inferInstanceAs (Decidable (_ ∧ _))

theorem DigitsToEnd.exactly {s : List Char} (h : DigitsToEnd s) {c : Char} (mark : IsMark c) :
    exactly [c] s = none := by
  obtain ⟨digits, rest, all, rfl⟩ := h
  cases digits with
  | nil => exact if_neg mark.2
  | cons first digits =>
    have digit : first.isDigit = true := all first List.mem_cons_self
    exact if_neg (ne_of_class digit mark.1).symm

/-- Digits of a fixed number come from the digits of the line. -/
theorem DigitsToEnd.readFixed {s rest : List Char} (h : DigitsToEnd s) {count value : Nat}
    (read : readFixed count s = some (value, rest)) : DigitsToEnd rest := by
  obtain ⟨digits, more, all, rfl⟩ := h
  unfold Toml.readFixed at read
  dsimp only at read
  split at read
  case isFalse => cases read
  case isTrue taken =>
    cases read
    by_cases within : count ≤ digits.length
    · rw [List.drop_append_of_le_length within]
      exact ⟨digits.drop count, more, fun c mem => all c (List.mem_of_mem_drop mem), rfl⟩
    · have mem : '\n' ∈ (digits ++ '\n' :: more).take count := by
        rw [List.take_append, List.mem_append]
        right
        obtain ⟨left, hleft⟩ := Nat.exists_eq_add_of_lt (Nat.lt_of_not_le within)
        have some : count - digits.length = left + 1 := by omega
        rw [some, List.take_succ_cons]
        exact List.mem_cons_self
      have digit := List.all_eq_true.mp taken.2 '\n' mem
      cases digit

theorem DigitsToEnd.readBetween {s rest : List Char} (h : DigitsToEnd s)
    {least greatest value : Nat} (read : readBetween least greatest s = some (value, rest)) :
    DigitsToEnd rest := by
  unfold Toml.readBetween at read
  cases fixed : Toml.readFixed 2 s with
  | none =>
    rw [fixed] at read
    cases read
  | some found =>
    obtain ⟨number, more⟩ := found
    rw [fixed] at read
    dsimp only [Option.bind_eq_bind, Option.bind_some] at read
    split at read
    case isFalse => cases read
    case isTrue =>
      cases read
      exact h.readFixed fixed

theorem DigitsToEnd.skipDate {s : List Char} (h : DigitsToEnd s) : skipDate s = none := by
  unfold Toml.skipDate
  cases year : Toml.readFixed 4 s with
  | none => rfl
  | some found =>
    obtain ⟨value, rest⟩ := found
    have stopped : Toml.exactly ['-'] rest = none := (h.readFixed year).exactly (by decide)
    simp [stopped]

theorem DigitsToEnd.skipTime {s : List Char} (h : DigitsToEnd s) : skipTime s = none := by
  unfold Toml.skipTime
  cases hour : Toml.readBetween 0 23 s with
  | none => rfl
  | some found =>
    obtain ⟨value, rest⟩ := found
    have stopped : Toml.exactly [':'] rest = none := (h.readBetween hour).exactly (by decide)
    simp [stopped]

theorem DigitsToEnd.readDateTime {s : List Char} (h : DigitsToEnd s) : readDateTime s = none := by
  unfold Toml.readDateTime
  rw [h.skipDate, h.skipTime]
  rfl

theorem eq_zero_of_toDigits {n : Nat} {digits : List Char}
    (zero : Nat.toDigits 10 n = '0' :: digits) : n = 0 := by
  -- A number of more than one digit begins as its tens do.
  induction n using Nat.strongRecOn generalizing digits with
  | ind n ih =>
    rcases Nat.lt_or_ge n 10 with small | large
    · rw [Nat.toDigits_of_lt_base small] at zero
      exact Nat.digitChar_eq_zero.mp (List.cons.inj zero).1
    · rw [Nat.toDigits_of_base_le (by decide) large] at zero
      cases tens : Nat.toDigits 10 (n / 10) with
      | nil => exact absurd tens Nat.toDigits_ne_nil
      | cons first others =>
        rw [tens, List.cons_append] at zero
        rw [(List.cons.inj zero).1] at tens
        have none : n / 10 = 0 := ih (n / 10) (by omega) tens
        omega

theorem more_digits {digits : List Char} (all : ∀ c ∈ digits, c.isDigit = true)
    (rest : List Char) :
    readDigits.more Char.isDigit (digits ++ '\n' :: rest) = (digits, '\n' :: rest) := by
  induction digits with
  | nil => simp [readDigits.more]
  | cons first digits ih =>
    have digit : first.isDigit = true := all first List.mem_cons_self
    have plain : first ≠ '_' := ne_of_class digit rfl
    have later := ih fun c mem => all c (List.mem_cons_of_mem first mem)
    rw [List.cons_append, readDigits.more, if_pos digit, later]
    rintro c s rfl -
    exact plain rfl

theorem readWhole_toDigits (n : Nat) (rest : List Char) :
    readWhole (Nat.toDigits 10 n ++ '\n' :: rest) = some (Nat.toDigits 10 n, '\n' :: rest) := by
  obtain ⟨-, all⟩ := Grammar.isDigits_toDigits n
  cases digits : Nat.toDigits 10 n with
  | nil => exact absurd digits Nat.toDigits_ne_nil
  | cons first others =>
    rw [digits] at all
    by_cases zero : first = '0'
    · subst zero
      have none := eq_zero_of_toDigits digits
      subst none
      cases digits
      rfl
    · have digit : first.isDigit = true := all first List.mem_cons_self
      have later := more_digits (fun c mem => all c (List.mem_cons_of_mem first mem)) rest
      rw [List.cons_append, readWhole, readDigits, if_pos digit, later]
      rintro s same
      exact zero (List.cons.inj same).1

theorem valueOfDigits_eq {digits : List Char} (all : ∀ c ∈ digits, c.isDigit = true) :
    valueOfDigits 10 digits = Grammar.valueOf digits := by
  refine List.foldl_ext _ _ 0 fun value c mem => ?_
  have digit : c.isDigit = true := all c mem
  simp [hexadecimal?, digit, Lexer.digitValue]

theorem toDigits_begun (n : Nat) (rest : List Char) :
    ∃ first s, first.isDigit = true ∧ Nat.toDigits 10 n ++ '\n' :: rest = first :: s := by
  obtain ⟨-, all⟩ := Grammar.isDigits_toDigits n
  cases digits : Nat.toDigits 10 n with
  | nil => exact absurd digits Nat.toDigits_ne_nil
  | cons first others =>
    rw [digits] at all
    exact ⟨first, _, all first List.mem_cons_self, rfl⟩

theorem readSign_of_digit {first : Char} (digit : first.isDigit = true) (s : List Char) :
    readSign (first :: s) = (false, first :: s) := by
  rw [readSign]
  · rintro s same
    exact ne_of_class digit rfl (List.cons.inj same).1
  · rintro s same
    exact ne_of_class digit rfl (List.cons.inj same).1

theorem readSpecial_of_digit {first : Char} (digit : first.isDigit = true) (s : List Char) :
    readSpecial (first :: s) = none := by
  unfold readSpecial
  rw [readSign_of_digit digit]
  dsimp only
  split
  case h_1 same => exact absurd (List.cons.inj same).1 (ne_of_class digit rfl)
  case h_2 same => exact absurd (List.cons.inj same).1 (ne_of_class digit rfl)
  case h_3 => rfl

/-- A decimal has a point or an exponent. -/
theorem readFloat_toDigits (n : Nat) (rest : List Char) :
    readFloat (Nat.toDigits 10 n ++ '\n' :: rest) = none := by
  obtain ⟨first, s, digit, begun⟩ := toDigits_begun n rest
  have whole := readWhole_toDigits n rest
  have unmarked : readExponent ('\n' :: rest) = none := rfl
  rw [begun] at whole ⊢
  rw [readFloat, readDecimal, readSign_of_digit digit, readSpecial_of_digit digit]
  simp [whole, unmarked]

theorem checkedInteger_natCast {n : Nat} (fits : n < 0x8000000000000000) :
    checkedInteger (n : Int) = some (n : Int) := by
  refine if_pos ⟨?_, ?_⟩
  · omega
  · omega

theorem toDigits_unannounced (n : Nat) (rest : List Char) {base : Char} (after : List Char)
    (other : base ≠ '\n') : Nat.toDigits 10 n ++ '\n' :: rest ≠ '0' :: base :: after := by
  intro same
  cases digits : Nat.toDigits 10 n with
  | nil => exact absurd digits Nat.toDigits_ne_nil
  | cons first others =>
    rw [digits, List.cons_append] at same
    obtain ⟨rfl, later⟩ := List.cons.inj same
    have none := eq_zero_of_toDigits digits
    subst none
    rw [Nat.toDigits_zero] at digits
    cases digits
    exact other (List.cons.inj later).1.symm

theorem readInteger_toDigits {n : Nat} (fits : n < 0x8000000000000000) (rest : List Char) :
    readInteger (Nat.toDigits 10 n ++ '\n' :: rest) = some ((n : Int), '\n' :: rest) := by
  obtain ⟨first, s, digit, begun⟩ := toDigits_begun n rest
  have whole := readWhole_toDigits n rest
  have value : valueOfDigits 10 (Nat.toDigits 10 n) = n := by
    rw [valueOfDigits_eq (Grammar.isDigits_toDigits n).2, Grammar.valueOf_toDigits]
  have checked := checkedInteger_natCast fits
  rw [readInteger]
  · rw [begun] at whole ⊢
    rw [readSign_of_digit digit]
    dsimp only
    rw [whole, Option.bind_eq_bind, Option.bind_some]
    dsimp only
    rw [value, if_neg Bool.false_ne_true, checked]
    rfl
  · exact fun after => toDigits_unannounced n rest after (by decide)
  · exact fun after => toDigits_unannounced n rest after (by decide)
  · exact fun after => toDigits_unannounced n rest after (by decide)

/-- The numeral of a number on a line is read as that number. -/
theorem readScalar_toDigits {n : Nat} (fits : n < 0x8000000000000000) (rest : List Char) :
    readScalar (Nat.toDigits 10 n ++ '\n' :: rest) = some (.integer n, '\n' :: rest) := by
  obtain ⟨first, s, digit, begun⟩ := toDigits_begun n rest
  have dated : readDateTime (Nat.toDigits 10 n ++ '\n' :: rest) = none :=
    DigitsToEnd.readDateTime ⟨_, _, (Grammar.isDigits_toDigits n).2, rfl⟩
  have other (c : Char) (after : List Char) (mark : c.isDigit = false) :
      Nat.toDigits 10 n ++ '\n' :: rest ≠ c :: after := by
    rw [begun]
    rintro same
    exact ne_of_class digit mark (List.cons.inj same).1
  rw [readScalar, dated, readFloat_toDigits, readInteger_toDigits fits]
  · rfl
  · exact fun after => other _ after rfl
  · exact fun after => other _ after rfl
  · exact fun after => other _ after rfl
  · exact fun after => other _ after rfl

theorem valueOnLine_integer {n : Nat} (fits : n < 0x8000000000000000) :
    ValueOnLine (toString n).toList (.integer n) := by
  have digits : (toString n).toList = Nat.toDigits 10 n := Nat.toList_repr
  rw [digits]
  refine ⟨fun rest => ?_, fun rest => ?_⟩
  · obtain ⟨first, s, digit, begun⟩ := toDigits_begun n rest
    have plain : isBare first = true := by simp [isBare, Char.isAlphanum, digit]
    rw [begun, skipSpaces_of_bare plain]
  · obtain ⟨first, s, digit, begun⟩ := toDigits_begun n rest
    have scalar := readScalar_toDigits fits rest
    rw [begun] at scalar ⊢
    rw [deepestNesting, readValue, scalar]
    · rintro s same
      exact ne_of_class digit rfl (List.cons.inj same).1
    · rintro s same
      exact ne_of_class digit rfl (List.cons.inj same).1

end TokenListing.Toml
