import TokenListing.Binary64.Shortest

/-! # Rounding to the nearest magnitude

The magnitude nearest to a ratio depends on the value of the ratio alone, and the value of a finite
magnitude has that magnitude nearest to it. A power of ten may therefore move between the
coefficient and the exponent of a decimal.
-/
namespace TokenListing.Binary64

theorem roundEven_scale {factor : Nat} (positive : 0 < factor) (dividend divisor : Nat) :
    roundEven (factor * dividend) (factor * divisor) = roundEven dividend divisor := by
  unfold roundEven
  rw [Nat.mul_div_mul_left _ _ positive, Nat.mul_mod_mul_left, Nat.mul_left_comm]
  simp only [Nat.mul_lt_mul_left positive]

theorem roundEven_multiple (quotient : Nat) {divisor : Nat} (positive : 0 < divisor) :
    roundEven (quotient * divisor) divisor = quotient := by
  unfold roundEven
  rw [Nat.mul_div_cancel _ positive, Nat.mul_mod_left, Nat.mul_zero, if_pos positive]

/-- The exponent of the unit is a variable here, so that no step computes a power of it. -/
theorem nearest_eq {numerator denominator places scale : Nat} (resolution : places = 1074)
    (scaled : (numerator * Nat.pow 2 places / denominator).log2 - 52 = scale) :
    nearest numerator denominator = min (scale * binade +
      roundEven (numerator * Nat.pow 2 places) (denominator * Nat.pow 2 scale)) infinite := by
  unfold nearest
  rw [← resolution, ← scaled]

theorem nearest_scale {factor : Nat} (positive : 0 < factor) (numerator denominator : Nat) :
    nearest (factor * numerator) (factor * denominator) = nearest numerator denominator := by
  rw [nearest_eq rfl rfl, nearest_eq rfl rfl, Nat.mul_assoc, Nat.mul_div_mul_left _ _ positive,
    Nat.mul_assoc, roundEven_scale positive]

/-- A magnitude is so many binades and a significand, which is short only in the first two. -/
theorem significand (magnitude : Nat) :
    ∃ rest, magnitude = scale magnitude * binade + rest ∧
      units magnitude = rest * Nat.pow 2 (scale magnitude) ∧ rest < 2 * binade ∧
      (scale magnitude = 0 ∨ binade ≤ rest) := by
  have positive : 0 < binade := Nat.two_pow_pos 52
  have parts := Nat.div_add_mod' magnitude binade
  have small := Nat.mod_lt magnitude positive
  refine ⟨magnitude - scale magnitude * binade, ?_, rfl, ?_⟩
  · rw [scale, Nat.sub_mul]
    omega
  · rw [scale]
    generalize magnitude / binade = quotient at parts
    cases quotient with
    | zero => omega
    | succ quotient =>
      rw [Nat.succ_mul] at parts
      rw [Nat.add_sub_cancel]
      omega

theorem log2_units (magnitude : Nat) : (units magnitude).log2 - 52 = scale magnitude := by
  obtain ⟨rest, -, value, below, normal⟩ := significand magnitude
  change units magnitude = rest * 2 ^ scale magnitude at value
  rcases normal with first | above
  · rw [first, Nat.pow_zero, Nat.mul_one] at value
    rw [value, first]
    have small : rest.log2 < 53 := by
      cases rest with
      | zero => decide
      | succ rest => exact (Nat.log2_lt (Nat.succ_ne_zero rest)).mpr below
    omega
  · have positive : 0 < 2 ^ scale magnitude := Nat.two_pow_pos _
    have some : rest * 2 ^ scale magnitude ≠ 0 :=
      Nat.mul_ne_zero (Nat.ne_of_gt (Nat.lt_of_lt_of_le (Nat.two_pow_pos 52) above))
        (Nat.ne_of_gt positive)
    have lower : 2 ^ (52 + scale magnitude) ≤ rest * 2 ^ scale magnitude := by
      rw [Nat.pow_add]
      exact Nat.mul_le_mul_right _ above
    have upper : rest * 2 ^ scale magnitude < 2 ^ (52 + scale magnitude + 1) := by
      rw [Nat.add_right_comm, Nat.pow_add]
      exact Nat.mul_lt_mul_of_pos_right below positive
    rw [value, (Nat.log2_eq_iff some).mpr ⟨lower, upper⟩, Nat.add_sub_cancel_left]

theorem nearest_units {magnitude places : Nat} (resolution : places = 1074)
    (finite : magnitude < infinite) :
    nearest (units magnitude) (Nat.pow 2 places) = magnitude := by
  obtain ⟨rest, whole, value, -⟩ := significand magnitude
  have positive : 0 < Nat.pow 2 places := Nat.two_pow_pos places
  have scaled : (units magnitude * Nat.pow 2 places / Nat.pow 2 places).log2 - 52 =
      scale magnitude := by
    rw [Nat.mul_div_cancel _ positive, log2_units]
  have rounded : roundEven (units magnitude) (Nat.pow 2 (scale magnitude)) = rest := by
    rw [value]
    exact roundEven_multiple rest (Nat.two_pow_pos _)
  rw [nearest_eq resolution scaled, Nat.mul_comm (units magnitude), roundEven_scale positive,
    rounded, ← whole]
  exact Nat.min_eq_left (Nat.le_of_lt finite)

theorem nearest_le_infinite (numerator denominator : Nat) :
    nearest numerator denominator ≤ infinite :=
  Nat.min_le_right _ _

theorem nearestDecimal_zero (exponent : Int) : nearestDecimal 0 exponent = 0 := by
  have nothing (divisor : Nat) : roundEven 0 divisor = 0 := by simp [roundEven]
  obtain ⟨places, resolution⟩ : ∃ places, places = 1074 := ⟨_, rfl⟩
  rw [nearestDecimal, Nat.zero_mul, nearest_eq resolution rfl, Nat.zero_mul, Nat.zero_div, nothing]
  simp

theorem nearestDecimal_mul_pow (coefficient zeros : Nat) (exponent : Int) :
    nearestDecimal (coefficient * Nat.pow 10 zeros) exponent =
      nearestDecimal coefficient (exponent + zeros) := by
  induction zeros generalizing exponent with
  | zero =>
    have one : Nat.pow 10 0 = 1 := rfl
    rw [one, Nat.mul_one, Int.natCast_zero, Int.add_zero]
  | succ zeros ih =>
    have tens : Nat.pow 10 (zeros + 1) = Nat.pow 10 zeros * 10 := rfl
    have moved : exponent + (zeros + 1 : Nat) = exponent + 1 + zeros := by omega
    rw [tens, ← Nat.mul_assoc, moved, ← ih (exponent + 1)]
    generalize coefficient * Nat.pow 10 zeros = amount
    unfold nearestDecimal
    by_cases positive : 0 ≤ exponent
    · have up : (exponent + 1).toNat = exponent.toNat + 1 := by omega
      have down : (-exponent).toNat = 0 := by omega
      have down' : (-(exponent + 1)).toNat = 0 := by omega
      rw [up, down, down', Nat.mul_assoc]
      congr 2
      exact Nat.pow_succ'.symm
    · have up : (exponent + 1).toNat = 0 := by omega
      have up' : exponent.toNat = 0 := by omega
      have down : (-exponent).toNat = (-(exponent + 1)).toNat + 1 := by omega
      have ten : Nat.pow 10 ((-(exponent + 1)).toNat + 1) =
          10 * Nat.pow 10 (-(exponent + 1)).toNat := Nat.pow_succ'
      rw [up, up', down, ten, Nat.mul_comm amount 10, Nat.mul_assoc]
      exact nearest_scale (by decide) _ _

end TokenListing.Binary64
