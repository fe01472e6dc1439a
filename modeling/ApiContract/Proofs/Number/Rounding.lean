import ApiContract.Number.Int128
import Mathlib.Tactic.Ring

/-!
# Integers as floats

An integer rounds to a float without a fraction: up to 53 bits its significand is
shifted to full length, which loses nothing, and beyond that its exponent is not
negative.
-/

namespace ApiContract

theorem twoTo_add (left right : Nat) : twoTo (left + right) = twoTo left * twoTo right :=
  Nat.pow_add 2 left right

theorem twoTo_le_twoTo {left right : Nat} (le : left ≤ right) : twoTo left ≤ twoTo right :=
  Nat.pow_le_pow_right (by decide) le

theorem twoTo_log2_le {number : Nat} (positive : number ≠ 0) : twoTo number.log2 ≤ number :=
  Nat.log2_self_le positive

theorem lt_twoTo_log2_succ (number : Nat) : number < twoTo (number.log2 + 1) :=
  Nat.lt_log2_self

theorem div_le_roundedQuotient (numerator denominator : Nat) :
    numerator / denominator ≤ roundedQuotient numerator denominator := by
  unfold roundedQuotient
  dsimp only
  split_ifs <;> omega

theorem roundedQuotient_le_div_succ (numerator denominator : Nat) :
    roundedQuotient numerator denominator ≤ numerator / denominator + 1 := by
  unfold roundedQuotient
  dsimp only
  split_ifs <;> omega

/-- A quotient without a remainder is not rounded. -/
theorem roundedQuotient_mul_self (quotient : Nat) {denominator : Nat} (positive : 0 < denominator) :
    roundedQuotient (quotient * denominator) denominator = quotient := by
  simp [roundedQuotient, Nat.mul_mod_left, Nat.mul_div_cancel _ positive, positive]

@[simp] theorem roundedQuotient_one (numerator : Nat) :
    roundedQuotient numerator 1 = numerator := by
  simp [roundedQuotient, Nat.mod_one]

namespace Binary64

variable {number : Nat}

/-- The exponent that gives an integer a significand of full length. -/
theorem exponentOfQuotient_one (positive : number ≠ 0) :
    exponentOfQuotient number 1 = (number.log2 : Int) - 52 := by
  have reached := twoTo_log2_le positive
  have one : (1 : Nat).log2 = 0 := by decide
  simp only [exponentOfQuotient, one, Nat.one_mul, Nat.mul_one, Nat.cast_zero, sub_zero]
  rw [if_neg]
  · omega
  split
  · have lengths : 52 + ((number.log2 : Int) - 52).toNat = number.log2 := by omega
    rw [← twoTo_add, lengths, decide_eq_true_eq]
    exact Nat.not_lt.mpr reached
  · have lengths : number.log2 + (-((number.log2 : Int) - 52)).toNat = 52 := by omega
    have scaled := Nat.mul_le_mul_right (twoTo (-((number.log2 : Int) - 52)).toNat) reached
    rw [← twoTo_add, lengths] at scaled
    rw [decide_eq_true_eq]
    exact Nat.not_lt.mpr scaled

theorem ofParts_of_canonical {negative : Bool} {significand : Nat} {exponent : Int}
    (canonical : CanonicalMagnitude significand exponent) :
    ofParts negative significand exponent =
      .finite ⟨negative, significand, exponent, canonical⟩ :=
  dif_pos canonical

/-- An integer of at most 53 bits is a float, its significand shifted to full length. -/
theorem ofQuotient_of_short (negative : Bool) (positive : number ≠ 0)
    (short : number.log2 < 52) :
    ∃ canonical, ofQuotient negative number 1 =
      .finite ⟨negative, number * twoTo (52 - number.log2), (number.log2 : Int) - 52,
        canonical⟩ := by
  have lower := Nat.mul_le_mul_right (twoTo (52 - number.log2)) (twoTo_log2_le positive)
  have upper := Nat.mul_lt_mul_of_pos_right (lt_twoTo_log2_succ number)
    (twoTo_pos (52 - number.log2))
  rw [← twoTo_add, show number.log2 + (52 - number.log2) = 52 by omega] at lower
  rw [← twoTo_add, show number.log2 + 1 + (52 - number.log2) = 53 by omega] at upper
  have canonical : CanonicalMagnitude (number * twoTo (52 - number.log2))
      ((number.log2 : Int) - 52) :=
    ⟨upper, by omega, by omega, .inl lower⟩
  refine ⟨canonical, ?_⟩
  have shift : (-((number.log2 : Int) - 52)).toNat = 52 - number.log2 := by omega
  simp only [ofQuotient, exponentOfQuotient_one positive]
  rw [if_neg positive, if_neg (show ¬0 ≤ (number.log2 : Int) - 52 by omega), shift,
    roundedQuotient_one, if_neg (by omega)]
  exact ofParts_of_canonical canonical

/-- A longer integer rounds to a float whose exponent is not negative. -/
theorem ofQuotient_of_long (negative : Bool) (long : 52 ≤ number.log2)
    (bounded : number.log2 ≤ 1022) :
    ∃ significand exponent canonical, 0 ≤ exponent ∧
      ofQuotient negative number 1 = .finite ⟨negative, significand, exponent, canonical⟩ := by
  have positive : number ≠ 0 := by
    rintro rfl
    simp at long
  rcases Nat.exists_eq_add_of_le long with ⟨excess, length⟩
  have exponentEq : (number.log2 : Int) - 52 = excess := by omega
  have lower : twoTo 52 ≤ number / twoTo excess := by
    rw [Nat.le_div_iff_mul_le (twoTo_pos excess), ← twoTo_add, ← length]
    exact twoTo_log2_le positive
  have upper : number / twoTo excess < twoTo 53 := by
    rw [Nat.div_lt_iff_lt_mul (twoTo_pos excess), ← twoTo_add,
      show 53 + excess = number.log2 + 1 by omega]
    exact lt_twoTo_log2_succ number
  have atLeast := div_le_roundedQuotient number (twoTo excess)
  have atMost := roundedQuotient_le_div_succ number (twoTo excess)
  have double : twoTo 53 = 2 * twoTo 52 := by rw [twoTo_add 1 52]; rfl
  have half : 0 < twoTo 52 := twoTo_pos 52
  simp only [ofQuotient, exponentOfQuotient_one positive, exponentEq, Int.toNat_natCast,
    Nat.one_mul]
  rw [if_neg positive, if_pos (Int.natCast_nonneg excess)]
  split
  · have canonical : CanonicalMagnitude (twoTo 52) ((excess : Int) + 1) :=
      ⟨by omega, by omega, by omega, .inl le_rfl⟩
    exact ⟨_, _, canonical, by omega, ofParts_of_canonical canonical⟩
  · have canonical :
        CanonicalMagnitude (roundedQuotient number (twoTo excess)) (excess : Int) :=
      ⟨by omega, by omega, by omega, .inl (by omega)⟩
    exact ⟨_, _, canonical, by omega, ofParts_of_canonical canonical⟩

/-- An integer far below the largest float rounds to a float without a fraction. -/
theorem isIntegral_ofInt {integer : Int} (bounded : integer.natAbs < twoTo 128) :
    (ofInt integer).isIntegral := by
  rw [ofInt]
  by_cases zero : integer.natAbs = 0
  · simp [ofQuotient, zero, isIntegral, FiniteBinary64.isIntegral, FiniteBinary64.zero]
  · rcases Nat.lt_or_ge integer.natAbs.log2 52 with short | long
    · rcases ofQuotient_of_short (integer < 0) zero short with ⟨canonical, rounded⟩
      have shift : (-((integer.natAbs.log2 : Int) - 52)).toNat = 52 - integer.natAbs.log2 := by
        omega
      rw [rounded, isIntegral, FiniteBinary64.isIntegral, if_neg (by simpa using short), shift,
        Nat.mul_mod_left]
      rfl
    · have length := (Nat.log2_lt zero).mpr bounded
      obtain ⟨significand, exponent, canonical, nonnegative, rounded⟩ :=
        ofQuotient_of_long (integer < 0) long (by omega)
      rw [rounded]
      simp [isIntegral, FiniteBinary64.isIntegral, nonnegative]

theorem isFinite_of_isIntegral {number : Binary64} (integral : number.isIntegral) :
    number.isFinite := by
  cases number with
  | finite number => rfl
  | infinity negative | nan => simp [isIntegral] at integral

end Binary64

namespace Int128

theorem natAbs_lt (integer : Int128) : integer.toInt.natAbs < twoTo 128 := by
  have lower := integer.lower
  have upper := integer.upper
  have double : twoTo 128 = 2 * twoTo 127 := by rw [twoTo_add 1 127]; rfl
  omega

theorem isIntegral_toBinary64 (integer : Int128) : integer.toBinary64.isIntegral :=
  Binary64.isIntegral_ofInt integer.natAbs_lt

end Int128

end ApiContract
