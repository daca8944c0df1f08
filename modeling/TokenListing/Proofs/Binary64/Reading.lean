import TokenListing.Binary64.Text
import TokenListing.Proofs.Binary64.Rounding
import TokenListing.Proofs.Grammar.Digits

/-! # Written numbers read back

The shortest decimal of a magnitude is read as that magnitude, and its text, positional or with a
power of ten, spells that decimal or one of the same value. So a text is of one magnitude only.
-/
namespace TokenListing.Binary64
open Grammar

def Decimal.Reads (decimal : Decimal) (magnitude : Nat) : Prop :=
  nearestDecimal decimal.coefficient decimal.exponent = magnitude

theorem Decimal.reads_normalize {coefficient magnitude : Nat} {exponent : Int}
    (h : nearestDecimal coefficient exponent = magnitude) :
    (Decimal.normalize coefficient exponent).Reads magnitude := by
  fun_induction Decimal.normalize coefficient exponent with
  | case1 coefficient exponent divisible ih =>
    apply ih
    have ten : coefficient / 10 * Nat.pow 10 1 = coefficient :=
      Nat.div_mul_cancel (Nat.dvd_of_mod_eq_zero divisible.2)
    rw [← ten, nearestDecimal_mul_pow] at h
    exact h
  | case2 coefficient exponent => exact h

theorem reads_decimalOfLength {magnitude length : Nat} {decimal : Decimal}
    (h : decimalOfLength magnitude length = some decimal) : decimal.Reads magnitude := by
  unfold decimalOfLength at h
  dsimp only at h
  split at h
  next found =>
    cases h
    exact Decimal.reads_normalize (beq_iff_eq.mp ((Bool.and_eq_true _ _).mp found).1)
  next =>
    split at h
    next found =>
      cases h
      exact Decimal.reads_normalize (beq_iff_eq.mp found)
    next => cases h

/-- The exact value in units, written with a power of ten, has no other magnitude nearest. -/
theorem nearestDecimal_units {magnitude places : Nat} (resolution : places = 1074)
    (finite : magnitude < infinite) :
    nearestDecimal (units magnitude * Nat.pow 5 places) (-places) = magnitude := by
  have up : (-(places : Int)).toNat = 0 := Int.toNat_neg_natCast places
  have down : (- -(places : Int)).toNat = places := by rw [Int.neg_neg, Int.toNat_natCast]
  have ten : Nat.pow 10 places = Nat.pow 5 places * Nat.pow 2 places := Nat.mul_pow 5 2 places
  have one : Nat.pow 10 0 = 1 := rfl
  have positive : 0 < Nat.pow 5 places := Nat.pow_pos (by decide)
  unfold nearestDecimal
  rw [up, down, one, Nat.mul_one, Nat.mul_comm, ten, nearest_scale positive]
  exact nearest_units resolution finite

theorem reads_exactDecimal {magnitude : Nat} (finite : magnitude < infinite) :
    (exactDecimal magnitude).Reads magnitude := by
  obtain ⟨places, resolution⟩ : ∃ places, places = 1074 := ⟨_, rfl⟩
  have exponent : (-1074 : Int) = -places := by omega
  unfold exactDecimal
  rw [← resolution, exponent]
  exact Decimal.reads_normalize (nearestDecimal_units resolution finite)

theorem reads_shortestDecimal {magnitude : Nat} (finite : magnitude < infinite) :
    (shortestDecimal magnitude).Reads magnitude := by
  unfold shortestDecimal
  match found : (List.range 17).findSome? fun i => decimalOfLength magnitude (i + 1) with
  | none =>
    rw [Option.getD_none]
    exact reads_exactDecimal finite
  | some decimal =>
    obtain ⟨length, -, read⟩ := List.exists_of_findSome?_eq_some found
    rw [Option.getD_some]
    exact reads_decimalOfLength read

/-- The text of a decimal: digits on both sides of a point, or else a power of ten after digits
with a point among them or without one. -/
inductive Written : List Char → Decimal → Prop where
  | positional {whole fraction : List Char} (before : IsDigits whole) (after : IsDigits fraction) :
      Written (whole ++ '.' :: fraction) ⟨valueOf (whole ++ fraction), -fraction.length⟩
  | power {whole : List Char} (digits : IsDigits whole) (exponent : Int) :
      Written (whole ++ 'e' :: (toString exponent).toList) ⟨valueOf whole, exponent⟩
  | pointAndPower {whole fraction : List Char} (before : IsDigits whole)
      (after : IsDigits fraction) (exponent : Int) :
      Written ((whole ++ '.' :: fraction) ++ 'e' :: (toString exponent).toList)
        ⟨valueOf (whole ++ fraction), exponent - fraction.length⟩

theorem integer_text (exponent : Int) :
    ∃ digits, IsDigits digits ∧
      ((toString exponent).toList = digits ∧ exponent = valueOf digits ∨
        (toString exponent).toList = '-' :: digits ∧ exponent = -valueOf digits) := by
  cases exponent with
  | ofNat n =>
    refine ⟨Nat.toDigits 10 n, isDigits_toDigits n, .inl ⟨Nat.toList_repr, ?_⟩⟩
    rw [valueOf_toDigits]
    rfl
  | negSucc n =>
    refine ⟨Nat.toDigits 10 (n + 1), isDigits_toDigits _, .inr ⟨?_, ?_⟩⟩
    · have text : toString (Int.negSucc n) = "-" ++ (n + 1).repr := rfl
      rw [text, String.toList_append, Nat.toList_repr]
      rfl
    · rw [valueOf_toDigits]
      rfl

def integerOf : List Char → Int
  | '-' :: digits => -valueOf digits
  | digits => valueOf digits

theorem integerOf_text (exponent : Int) : integerOf (toString exponent).toList = exponent := by
  obtain ⟨digits, all, ⟨text, value⟩ | ⟨text, value⟩⟩ := integer_text exponent
  · rw [text, value]
    unfold integerOf
    split
    next rest => exact absurd (all.2 '-' List.mem_cons_self) (by decide)
    next => rfl
  · rw [text, value]
    rfl

/-- The decimal that digits spell, with a point among them or without one, at a power of ten. -/
def pointed (digits : List Char) (exponent : Int) : Decimal :=
  let fraction := (digits.dropWhile (· != '.')).drop 1
  ⟨valueOf (digits.takeWhile (· != '.') ++ fraction), exponent - fraction.length⟩

def decimalOf (text : List Char) : Decimal :=
  pointed (text.takeWhile (· != 'e')) (integerOf ((text.dropWhile (· != 'e')).drop 1))

theorem pointed_point {whole : List Char} (before : IsDigits whole) (fraction : List Char)
    (exponent : Int) : pointed (whole ++ '.' :: fraction) exponent =
      ⟨valueOf (whole ++ fraction), exponent - fraction.length⟩ := by
  have absent : '.' ∉ whole := before.notMem rfl
  obtain ⟨front, back⟩ := Text.cut_at absent fraction
  rw [pointed, front, back]

theorem pointed_whole {whole : List Char} (digits : IsDigits whole) (exponent : Int) :
    pointed whole exponent = ⟨valueOf whole, exponent⟩ := by
  have absent : '.' ∉ whole := digits.notMem rfl
  obtain ⟨front, back⟩ := Text.cut_none absent
  rw [pointed, front, back, List.append_nil]
  exact congrArg (Decimal.mk _) (Int.sub_zero exponent)

theorem plain_of_digits {whole fraction : List Char} (before : IsDigits whole)
    (after : IsDigits fraction) : 'e' ∉ whole ++ '.' :: fraction := by
  intro mem
  rcases List.mem_append.mp mem with mem | mem
  · exact before.notMem rfl mem
  · rcases List.mem_cons.mp mem with same | mem
    · cases same
    · exact after.notMem rfl mem

theorem Written.decimalOf {text : List Char} {decimal : Decimal} (h : Written text decimal) :
    decimalOf text = decimal := by
  unfold Binary64.decimalOf
  cases h with
  | @positional whole fraction before after =>
    obtain ⟨mantissa, power⟩ := Text.cut_none (plain_of_digits before after)
    rw [mantissa, power, pointed_point before]
    exact congrArg (Decimal.mk _) (Int.zero_sub _)
  | @power whole digits exponent =>
    have absent : 'e' ∉ whole := digits.notMem rfl
    obtain ⟨mantissa, power⟩ := Text.cut_at absent (toString exponent).toList
    rw [mantissa, power, integerOf_text, pointed_whole digits]
  | pointAndPower before after exponent =>
    have absent := plain_of_digits before after
    obtain ⟨mantissa, power⟩ := Text.cut_at absent (toString exponent).toList
    rw [mantissa, power, integerOf_text, pointed_point before]

theorem unscaled (coefficient : Nat) : coefficient * Nat.pow 10 0 = coefficient :=
  Nat.mul_one coefficient

theorem Decimal.reads_of_zeros {decimal : Decimal} {coefficient magnitude : Nat} {exponent : Int}
    (zeros : Nat) (amount : decimal.coefficient = coefficient * Nat.pow 10 zeros)
    (place : decimal.exponent + zeros = exponent)
    (h : nearestDecimal coefficient exponent = magnitude) : decimal.Reads magnitude := by
  rw [Decimal.Reads, amount, nearestDecimal_mul_pow, place, h]

variable {digits : List Char} {point : Int} {magnitude : Nat}

theorem positional_of_early (some : digits ≠ []) (early : point ≤ 0) : positional digits point =
    ['0'] ++ '.' :: (List.replicate (-point).toNat '0' ++ digits) := by
  have none : point.toNat = 0 := Int.toNat_of_nonpos early
  simp [positional, none, some]

theorem positional_of_inside {places : Nat} (whole : digits.take places ≠ [])
    (fraction : digits.drop places ≠ []) :
    positional digits places = digits.take places ++ '.' :: digits.drop places := by
  have none : places - digits.length = 0 := by
    rw [Ne, List.drop_eq_nil_iff] at fraction
    omega
  simp [positional, none, whole, fraction]

theorem positional_of_late {places : Nat} (some : digits ≠ []) (late : digits.length ≤ places) :
    positional digits places =
      digits ++ List.replicate (places - digits.length) '0' ++ '.' :: ['0'] := by
  simp [positional, some, List.take_of_length_le late, List.drop_of_length_le late]

theorem written_positional (read : IsDigits digits)
    (h : nearestDecimal (valueOf digits) (point - digits.length) = magnitude) :
    ∃ decimal, Written (positional digits point) decimal ∧ decimal.Reads magnitude := by
  have zero : IsDigits ['0'] := isDigits_singleton rfl
  by_cases early : point ≤ 0
  · -- The point is before the digits, and zeros stand between.
    have fraction : IsDigits (List.replicate (-point).toNat '0' ++ digits) :=
      read.mono (List.append_ne_nil_of_right_ne_nil _ read.1) fun c mem =>
        (List.mem_append.mp mem).imp List.eq_of_mem_replicate id
    rw [positional_of_early read.1 early]
    refine ⟨_, .positional zero fraction, Decimal.reads_of_zeros 0 ?_ ?_ h⟩
    · rw [unscaled]
      exact (valueOf_zeros_append 1 _).trans (valueOf_zeros_append _ _)
    · simp only [List.length_append, List.length_replicate]
      omega
  · obtain ⟨places, rfl⟩ := Int.eq_ofNat_of_zero_le (by omega : 0 ≤ point)
    by_cases late : digits.length ≤ places
    · -- The point is after the digits, so the zeros count with the coefficient.
      have whole : IsDigits (digits ++ List.replicate (places - digits.length) '0') :=
        read.mono (List.append_ne_nil_of_left_ne_nil read.1 _) fun c mem =>
          (List.mem_append.mp mem).symm.imp List.eq_of_mem_replicate id
      rw [positional_of_late read.1 late]
      refine ⟨_, .positional whole zero,
        Decimal.reads_of_zeros (places - digits.length + 1) ?_ ?_ h⟩
      · rw [List.append_assoc, ← List.replicate_succ']
        exact valueOf_append_zeros _ _
      · simp only [List.length_singleton]
        omega
    · have whole : IsDigits (digits.take places) :=
        read.mono (List.length_pos_iff.mp (by rw [List.length_take]; omega)) fun c mem =>
          .inr (List.mem_of_mem_take mem)
      have fraction : IsDigits (digits.drop places) :=
        read.mono (mt List.drop_eq_nil_iff.mp late) fun c mem => .inr (List.mem_of_mem_drop mem)
      rw [positional_of_inside whole.1 fraction.1]
      refine ⟨_, .positional whole fraction, Decimal.reads_of_zeros 0 ?_ ?_ h⟩
      · rw [List.take_append_drop, unscaled]
      · simp only [List.length_drop]
        omega

theorem written_scientific (read : IsDigits digits)
    (h : nearestDecimal (valueOf digits) (point - digits.length) = magnitude) :
    ∃ decimal, Written (scientific digits point) decimal ∧ decimal.Reads magnitude := by
  obtain ⟨first, rest, rfl⟩ := List.exists_cons_of_ne_nil read.1
  cases rest with
  | nil => exact ⟨_, .power read (point - 1), h⟩
  | cons second rest =>
    have whole : IsDigits [first] := read.mono (List.cons_ne_nil _ _) (by simp)
    have fraction : IsDigits (second :: rest) :=
      read.mono (List.cons_ne_nil _ _) fun c mem => .inr (List.mem_cons_of_mem _ mem)
    refine ⟨_, .pointAndPower whole fraction (point - 1), Decimal.reads_of_zeros 0 ?_ ?_ h⟩
    · rw [unscaled]
      rfl
    · simp only [List.length_cons]
      omega

/-- The text of a finite magnitude is the text of a decimal that is read as the magnitude. -/
theorem written_magnitudeText (finite : magnitude < infinite) :
    ∃ decimal, Written (magnitudeText magnitude) decimal ∧ decimal.Reads magnitude := by
  unfold magnitudeText
  by_cases zero : magnitude = 0
  · have digit : IsDigits ['0'] := isDigits_singleton rfl
    rw [if_pos zero]
    exact ⟨_, .positional digit digit, (nearestDecimal_zero _).trans zero.symm⟩
  · have read : nearestDecimal (valueOf (shortestDecimal magnitude).digits)
        (shortestDecimal magnitude).exponent = magnitude := by
      rw [Decimal.digits, valueOf_toDigits]
      exact reads_shortestDecimal finite
    rw [if_neg zero]
    generalize shortestDecimal magnitude = decimal at read ⊢
    have digits : IsDigits decimal.digits := isDigits_toDigits _
    rw [← Int.add_sub_cancel decimal.exponent decimal.digits.length, Int.add_comm] at read
    dsimp only
    split
    next => exact written_positional digits read
    next => exact written_scientific digits read

end TokenListing.Binary64
