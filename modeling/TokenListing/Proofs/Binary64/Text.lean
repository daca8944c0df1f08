import TokenListing.Proofs.Binary64.Reading

/-! # Texts of numbers

A number that is not negative is either infinite or written as a decimal that is read as the
number. Its text therefore tells which number it is, has no quote and no newline, and always has a
character that is no digit.
-/
namespace TokenListing.Binary64
open Grammar

theorem Written.chars {text : List Char} {decimal : Decimal} (h : Written text decimal) :
    ∀ c ∈ text, c.isDigit = true ∨ c ∈ ['.', 'e', '-'] := by
  have signed (exponent : Int) : ∀ c ∈ 'e' :: (toString exponent).toList,
      c.isDigit = true ∨ c ∈ ['.', 'e', '-'] := by
    obtain ⟨digits, all, ⟨text, -⟩ | ⟨text, -⟩⟩ := integer_text exponent
    · rw [text]
      exact List.forall_mem_cons.mpr ⟨.inr (by simp), fun c mem => .inl (all.2 c mem)⟩
    · rw [text]
      exact List.forall_mem_cons.mpr ⟨.inr (by simp), List.forall_mem_cons.mpr
        ⟨.inr (by simp), fun c mem => .inl (all.2 c mem)⟩⟩
  have pointed {whole fraction : List Char} (before : IsDigits whole) (after : IsDigits fraction) :
      ∀ c ∈ whole ++ '.' :: fraction, c.isDigit = true ∨ c ∈ ['.', 'e', '-'] :=
    List.forall_mem_append.mpr ⟨fun c mem => .inl (before.2 c mem),
      List.forall_mem_cons.mpr ⟨.inr (by simp), fun c mem => .inl (after.2 c mem)⟩⟩
  cases h with
  | positional before after => exact pointed before after
  | power digits exponent =>
    exact List.forall_mem_append.mpr ⟨fun c mem => .inl (digits.2 c mem), signed exponent⟩
  | pointAndPower before after exponent =>
    exact List.forall_mem_append.mpr ⟨pointed before after, signed exponent⟩

theorem Written.point_or_power {text : List Char} {decimal : Decimal} (h : Written text decimal) :
    '.' ∈ text ∨ 'e' ∈ text := by
  cases h with
  | positional | pointAndPower => simp
  | power => simp

/-- A text of one magnitude is not the text of another. -/
theorem Written.reads_unique {text : List Char} {decimal other : Decimal} {magnitude size : Nat}
    (h : Written text decimal) (h' : Written text other) (read : decimal.Reads magnitude)
    (read' : other.Reads size) : magnitude = size := by
  have same : decimal = other := h.decimalOf.symm.trans h'.decimalOf
  rw [Decimal.Reads, ← same] at read'
  exact read.symm.trans read'

variable {x y : Binary64}

theorem text_of_positive (positive : x.isNegative = false) (number : x.isNaN = false) :
    x.magnitude = infinite ∧ x.text = "inf" ∨
      ∃ decimal, Written x.text.toList decimal ∧ decimal.Reads x.magnitude := by
  have bounded : x.magnitude ≤ infinite := by
    simpa [isNaN] using number
  have shown : x.text =
      if x.magnitude = infinite then "inf" else String.ofList (magnitudeText x.magnitude) := by
    rw [text, number, positive]
    exact String.empty_append
  by_cases endless : x.magnitude = infinite
  · rw [if_pos endless] at shown
    exact .inl ⟨endless, shown⟩
  · rw [if_neg endless] at shown
    rw [shown, String.toList_ofList]
    exact .inr (written_magnitudeText (Nat.lt_of_le_of_ne bounded endless))

theorem eq_of_magnitude (hx : x.isNegative = false) (hy : y.isNegative = false)
    (same : x.magnitude = y.magnitude) : x = y := by
  have small {z : Binary64} (positive : z.isNegative = false) : z.magnitude = z.bits.toNat := by
    refine Nat.mod_eq_of_lt ?_
    simpa [isNegative] using positive
  rw [small hx, small hy] at same
  obtain ⟨bits⟩ := x
  obtain ⟨bits'⟩ := y
  exact congrArg Binary64.mk (UInt64.toNat_inj.mp same)

/-- Numbers that are not negative have different texts. -/
theorem text_inj (hx : x.isNegative = false) (hx' : x.isNaN = false) (hy : y.isNegative = false)
    (hy' : y.isNaN = false) (same : x.text = y.text) : x = y := by
  have visible {decimal : Decimal} (written : Written "inf".toList decimal) : False :=
    absurd (written.chars 'i' (by decide)) (by decide)
  apply eq_of_magnitude hx hy
  rcases text_of_positive hx hx' with ⟨endless, text⟩ | ⟨decimal, written, read⟩
  · rcases text_of_positive hy hy' with ⟨endless', -⟩ | ⟨decimal, written, -⟩
    · exact endless.trans endless'.symm
    · rw [← same, text] at written
      exact (visible written).elim
  · rcases text_of_positive hy hy' with ⟨-, text⟩ | ⟨other, written', read'⟩
    · rw [same, text] at written
      exact (visible written).elim
    · rw [← same] at written'
      exact written.reads_unique written' read read'

theorem text_chars (positive : x.isNegative = false) (number : x.isNaN = false) :
    '"' ∉ x.text.toList ∧ '\n' ∉ x.text.toList := by
  rcases text_of_positive positive number with ⟨-, text⟩ | ⟨decimal, written, -⟩
  · rw [text]
    decide
  · exact ⟨fun mem => absurd (written.chars _ mem) (by decide),
      fun mem => absurd (written.chars _ mem) (by decide)⟩

theorem text_other_than_digits (positive : x.isNegative = false) (number : x.isNaN = false) :
    ∃ c ∈ x.text.toList, c.isDigit = false := by
  rcases text_of_positive positive number with ⟨-, text⟩ | ⟨decimal, written, -⟩
  · rw [text]
    exact ⟨'i', by decide, rfl⟩
  · rcases written.point_or_power with mem | mem
    · exact ⟨'.', mem, rfl⟩
    · exact ⟨'e', mem, rfl⟩

theorem ofMagnitude_positive {magnitude : Nat} (bounded : magnitude ≤ infinite) :
    (ofMagnitude magnitude).isNegative = false ∧ (ofMagnitude magnitude).isNaN = false := by
  have small : magnitude < Nat.pow 2 63 := Nat.lt_of_le_of_lt bounded (by decide)
  have word : (ofMagnitude magnitude).bits.toNat = magnitude :=
    UInt64.toNat_ofNat_of_lt (Nat.lt_trans small (by decide))
  constructor
  · rw [isNegative, word]
    simpa using small
  · rw [isNaN, Binary64.magnitude, word, Nat.mod_eq_of_lt small]
    simpa using bounded

end TokenListing.Binary64
