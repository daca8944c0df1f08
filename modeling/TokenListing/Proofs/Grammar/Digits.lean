import Mathlib.Data.List.Induction
import Mathlib.Data.List.TakeWhile
import TokenListing.Proofs.Grammar.Lexemes

/-! # Digits and marks in a text

A number is the value of its digits, also with zeros before them. Digits one after the other have
a value that depends only on the values of their parts and on the length of the last one. What comes
before the first mark in a text and what comes after it can be read off the text.
-/
namespace TokenListing.Grammar

theorem valueOf_append (front back : List Char) :
    valueOf (front ++ back) = valueOf front * Nat.pow 10 back.length + valueOf back := by
  -- The last digit counts once, so the parts grow at their end.
  induction back using List.reverseRecOn with
  | nil =>
    rw [List.append_nil]
    exact (Nat.mul_one _).symm
  | append_singleton back c ih =>
    have tens : Nat.pow 10 (back.length + 1) = Nat.pow 10 back.length * 10 := rfl
    rw [← List.append_assoc, valueOf_snoc, ih, valueOf_snoc, List.length_append,
      List.length_singleton, tens, Nat.add_mul, Nat.mul_assoc, Nat.add_assoc]

theorem valueOf_zeros (count : Nat) : valueOf (List.replicate count '0') = 0 := by
  induction count with
  | zero => rfl
  | succ count ih =>
    rw [List.replicate_succ', valueOf_snoc, ih]
    rfl

theorem valueOf_zeros_append (count : Nat) (digits : List Char) :
    valueOf (List.replicate count '0' ++ digits) = valueOf digits := by
  rw [valueOf_append, valueOf_zeros, Nat.zero_mul, Nat.zero_add]

theorem valueOf_append_zeros (digits : List Char) (count : Nat) :
    valueOf (digits ++ List.replicate count '0') = valueOf digits * Nat.pow 10 count := by
  rw [valueOf_append, valueOf_zeros, List.length_replicate, Nat.add_zero]

theorem IsDigits.notMem {digits : List Char} {c : Char} (h : IsDigits digits)
    (other : c.isDigit = false) : c ∉ digits := by
  intro mem
  rw [h.2 c mem] at other
  cases other

theorem IsDigits.mono {digits other : List Char} (h : IsDigits digits) (some : other ≠ [])
    (within : ∀ c ∈ other, c = '0' ∨ c ∈ digits) : IsDigits other := by
  refine ⟨some, fun c mem => ?_⟩
  rcases within c mem with rfl | mem
  · rfl
  · exact h.2 c mem

theorem isDigits_toDigits (n : Nat) : IsDigits (Nat.toDigits 10 n) :=
  ⟨Nat.toDigits_ne_nil, fun _ mem => Nat.isDigit_of_mem_toDigits (by decide) (by decide) mem⟩

theorem valueOf_toDigits (n : Nat) : valueOf (Nat.toDigits 10 n) = n := by
  have read : Nat.ofDigitChars 10 (Nat.toDigits 10 n) 0 = n :=
    Nat.ofDigitChars_toDigits (by decide) (by decide)
  rw [Nat.ofDigitChars_eq_foldl] at read
  refine Eq.trans ?_ read
  rw [valueOf]
  congr 1
  funext value c
  rw [Nat.mul_comm]
  rfl

theorem toDigits_inj {m n : Nat} (same : Nat.toDigits 10 m = Nat.toDigits 10 n) : m = n := by
  rw [← valueOf_toDigits m, same, valueOf_toDigits]

end TokenListing.Grammar

namespace TokenListing.Text

variable {mark : Char} {front : List Char}

theorem cut_at (absent : mark ∉ front) (back : List Char) :
    (front ++ mark :: back).takeWhile (· != mark) = front ∧
      ((front ++ mark :: back).dropWhile (· != mark)).drop 1 = back := by
  have before : ∀ c ∈ front, (c != mark) = true := fun c mem =>
    bne_iff_ne.mpr fun same => absent (same ▸ mem)
  rw [List.takeWhile_append_of_pos before, List.dropWhile_append_of_pos before]
  simp

theorem cut_none (absent : mark ∉ front) :
    front.takeWhile (· != mark) = front ∧ (front.dropWhile (· != mark)).drop 1 = [] := by
  have before : ∀ c ∈ front, (c != mark) = true := fun c mem =>
    bne_iff_ne.mpr fun same => absent (same ▸ mem)
  rw [List.takeWhile_eq_self_iff.mpr before, List.dropWhile_eq_nil_iff.mpr before]
  exact ⟨rfl, rfl⟩

theorem cut_inj {other back rest : List Char} (absent : mark ∉ front) (absent' : mark ∉ other)
    (same : front ++ mark :: back = other ++ mark :: rest) : front = other ∧ back = rest := by
  obtain ⟨before, after⟩ := cut_at absent back
  obtain ⟨before', after'⟩ := cut_at absent' rest
  rw [same] at before after
  exact ⟨before.symm.trans before', after.symm.trans after'⟩

end TokenListing.Text
