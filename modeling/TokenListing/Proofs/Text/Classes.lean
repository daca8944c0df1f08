import TokenListing.Text.Classes
import TokenListing.Text.Letter

/-! # Classes of characters that have none in common

No letter is blank, a digit, an underscore or a character of an operator, and none of those is
blank; nor is a numeral. So the first character of a token tells which kind of token it is, and a
blank ends it.
-/
namespace TokenListing.Text

theorem CodeRanges.exists_of_contains {ranges : CodeRanges} {code : Nat}
    (h : ranges.contains code = true) : ∃ r ∈ ranges, r.1 ≤ code ∧ code ≤ r.2 := by
  induction ranges with
  | nil => cases h
  | cons range rest ih =>
    obtain ⟨first, last⟩ := range
    rw [contains] at h
    by_cases below : code < first
    · rw [if_pos below] at h
      cases h
    · rw [if_neg below] at h
      rcases (Bool.or_eq_true _ _).mp h with inside | later
      · exact ⟨(first, last), List.mem_cons_self, Nat.le_of_not_lt below, of_decide_eq_true inside⟩
      · obtain ⟨r, mem, bounds⟩ := ih later
        exact ⟨r, List.mem_cons_of_mem _ mem, bounds⟩

theorem toNat_of_isDigit {c : Char} (h : c.isDigit = true) : 48 ≤ c.toNat ∧ c.toNat ≤ 57 := by
  simpa [Char.isDigit, UInt32.le_iff_toNat_le] using h

theorem toNat_of_isLetter {c : Char} (h : isLetter c = true) : 65 ≤ c.toNat := by
  obtain ⟨r, mem, first, -⟩ := CodeRanges.exists_of_contains h
  have all : ∀ r ∈ letterRanges, 65 ≤ r.1 := by decide +kernel
  exact Nat.le_trans (all r mem) first

/-- A character of one class is in no other whose ranges all lie apart from those of the first. -/
theorem CodeRanges.not_contains_of_apart {ranges others : CodeRanges} {code : Nat}
    (apart : ∀ r ∈ ranges, ∀ s ∈ others, r.2 < s.1 ∨ s.2 < r.1)
    (h : ranges.contains code = true) : others.contains code = false := by
  obtain ⟨r, mem, first, last⟩ := exists_of_contains h
  cases found : others.contains code with
  | false => rfl
  | true =>
    obtain ⟨s, mem', first', last'⟩ := exists_of_contains found
    have := apart r mem s mem'
    omega

theorem isBlank_of_isLetter {c : Char} (h : isLetter c = true) : isBlank c = false :=
  CodeRanges.not_contains_of_apart (by decide +kernel) h

theorem isBlank_of_isNumeral {c : Char} (h : isNumeral c = true) : isBlank c = false :=
  CodeRanges.not_contains_of_apart (by decide +kernel) h

theorem isBlank_of_isDigit {c : Char} (h : c.isDigit = true) : isBlank c = false := by
  obtain ⟨first, last⟩ := toNat_of_isDigit h
  have inside : CodeRanges.contains [(48, 57)] c.toNat = true := by
    rw [CodeRanges.contains, if_neg (Nat.not_lt_of_le first), decide_eq_true last]
    rfl
  exact CodeRanges.not_contains_of_apart (by decide) inside

end TokenListing.Text
