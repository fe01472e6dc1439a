import ApiContract.Proofs.Number.Rounding

/-!
# Integers that floats carry exactly

An integer up to `2 ^ 53` in size is a float without any rounding, and a float without a
fraction, of whatever size, is the float of the integer that it truncates to.
-/

namespace ApiContract

theorem log2_eq_of_bounds {number length : Nat} (lower : twoTo length ≤ number)
    (upper : number < twoTo (length + 1)) : number.log2 = length := by
  have positive : number ≠ 0 := (lt_of_lt_of_le (twoTo_pos length) lower).ne'
  exact (Nat.log2_eq_iff positive).mpr ⟨lower, upper⟩

theorem lt_of_twoTo_lt {left right : Nat} (lt : twoTo left < twoTo right) : left < right :=
  (Nat.pow_lt_pow_iff_right (by decide)).mp lt

namespace FiniteBinary64

variable {number : FiniteBinary64}

theorem eq_of_parts {left right : FiniteBinary64} (negative : left.negative = right.negative)
    (significand : left.significand = right.significand)
    (exponent : left.exponent = right.exponent) : left = right := by
  cases left
  cases right
  simp_all

theorem sameNumber_self (number : FiniteBinary64) : number.sameNumber number := by
  simp [sameNumber]

theorem natAbs_truncate (number : FiniteBinary64) :
    number.truncate.natAbs = number.wholeMagnitude := by
  unfold truncate
  split <;> omega

theorem sign_truncate (number : FiniteBinary64) (positive : number.wholeMagnitude ≠ 0) :
    decide (number.truncate < 0) = number.negative := by
  unfold truncate
  cases number.negative with
  | true => simpa using Nat.pos_of_ne_zero positive
  | false => simp

/-- The significand is the whole magnitude shifted to full length. -/
structure IsShifted (number : FiniteBinary64) : Prop where
  positive : number.wholeMagnitude ≠ 0
  short : number.wholeMagnitude.log2 ≤ 52
  significand : number.significand =
    number.wholeMagnitude * twoTo (52 - number.wholeMagnitude.log2)
  exponent : number.exponent = (number.wholeMagnitude.log2 : Int) - 52

theorem isShifted_of_upward (upward : 0 ≤ number.exponent)
    (small : number.wholeMagnitude < twoTo 53) : number.IsShifted := by
  rcases number.canonical with ⟨upper, _, _, full⟩
  have lower : twoTo 52 ≤ number.significand := full.resolve_right (by omega)
  have magnitude : number.wholeMagnitude = number.significand * twoTo number.exponent.toNat :=
    if_pos upward
  have unscaled : number.exponent.toNat = 0 := by
    have scaled : twoTo (52 + number.exponent.toNat) < twoTo 53 := by
      rw [twoTo_add]
      exact lt_of_le_of_lt (Nat.mul_le_mul_right _ lower) (magnitude ▸ small)
    have := lt_of_twoTo_lt scaled
    omega
  rw [unscaled] at magnitude
  have same : number.wholeMagnitude = number.significand := magnitude.trans (Nat.mul_one _)
  have length : number.wholeMagnitude.log2 = 52 :=
    same ▸ log2_eq_of_bounds lower upper
  refine ⟨?_, length.le, ?_, ?_⟩
  · rw [same]
    exact (lt_of_lt_of_le (twoTo_pos 52) lower).ne'
  · rw [length, same]
    exact (Nat.mul_one _).symm
  · omega

theorem isShifted_of_downward (downward : ¬0 ≤ number.exponent) (integral : number.isIntegral)
    (positive : number.significand ≠ 0) : number.IsShifted := by
  rcases number.canonical with ⟨upper, _, _, full⟩
  obtain ⟨places, shift⟩ : ∃ places, (-number.exponent).toNat = places := ⟨_, rfl⟩
  have magnitude : number.wholeMagnitude = number.significand / twoTo places := by
    rw [wholeMagnitude, if_neg downward, shift]
  have whole : number.significand % twoTo places = 0 := by
    rw [isIntegral, if_neg downward, shift] at integral
    exact eq_of_beq integral
  have scaled : number.significand = number.wholeMagnitude * twoTo places := by
    rw [magnitude]
    exact (Nat.div_mul_cancel (Nat.dvd_of_mod_eq_zero whole)).symm
  have nonzero : number.wholeMagnitude ≠ 0 := by
    intro zero
    rw [zero, Nat.zero_mul] at scaled
    exact positive scaled
  have few : places < 53 := by
    apply lt_of_twoTo_lt
    refine lt_of_le_of_lt ?_ upper
    rw [scaled]
    exact Nat.le_mul_of_pos_left _ (Nat.pos_of_ne_zero nonzero)
  have lower : twoTo 52 ≤ number.significand := full.resolve_right (by omega)
  have length : number.wholeMagnitude.log2 = 52 - places := by
    apply log2_eq_of_bounds
    · refine Nat.le_of_mul_le_mul_right ?_ (twoTo_pos places)
      rw [← scaled, ← twoTo_add, show 52 - places + places = 52 by omega]
      exact lower
    · refine Nat.lt_of_mul_lt_mul_right (a := twoTo places) ?_
      rw [← scaled, ← twoTo_add, show 52 - places + 1 + places = 53 by omega]
      exact upper
  refine ⟨nonzero, by omega, ?_, by omega⟩
  rw [length, show 52 - (52 - places) = places by omega]
  exact scaled

/-- A float without a fraction, other than zero and below `2 ^ 53`, is its magnitude shifted to
full length. -/
theorem isShifted_of_isIntegral (integral : number.isIntegral) (positive : number.significand ≠ 0)
    (small : number.wholeMagnitude < twoTo 53) : number.IsShifted := by
  by_cases upward : 0 ≤ number.exponent
  · exact isShifted_of_upward upward small
  · exact isShifted_of_downward upward integral positive

end FiniteBinary64

namespace Binary64

variable {number : Nat}

/-- An integer of at most 53 bits is a float, its significand shifted to full length. -/
theorem ofQuotient_of_exact (negative : Bool) (positive : number ≠ 0) (short : number.log2 ≤ 52) :
    ∃ canonical, ofQuotient negative number 1 =
      .finite ⟨negative, number * twoTo (52 - number.log2), (number.log2 : Int) - 52,
        canonical⟩ := by
  rcases short.lt_or_eq with shorter | full
  · exact ofQuotient_of_short negative positive shorter
  · have lower := twoTo_log2_le positive
    have upper := lt_twoTo_log2_succ number
    rw [full] at lower upper
    have scale : number * twoTo (52 - number.log2) = number := by
      rw [full]
      exact Nat.mul_one number
    have exponent : (number.log2 : Int) - 52 = 0 := by omega
    rw [scale, exponent]
    have canonical : CanonicalMagnitude number 0 := ⟨upper, by decide, by decide, .inl lower⟩
    refine ⟨canonical, ?_⟩
    simp only [ofQuotient, exponentOfQuotient_one positive, exponent]
    rw [if_neg positive, if_pos le_rfl]
    have whole : 1 * twoTo (0 : Int).toNat = 1 := by decide
    rw [whole, roundedQuotient_one, if_neg upper.ne]
    exact ofParts_of_canonical canonical

/-- A float without a fraction that is below `2 ^ 53` is the float of its integer. -/
theorem sameNumber_ofInt_truncate {number : FiniteBinary64} (integral : number.isIntegral)
    (small : number.wholeMagnitude < twoTo 53) :
    (ofInt number.truncate).sameNumber (.finite number) := by
  by_cases zero : number.significand = 0
  · have none : number.truncate = 0 := by
      simp [FiniteBinary64.truncate, FiniteBinary64.wholeMagnitude, zero]
    rw [none]
    simp [ofInt, ofQuotient, sameNumber, FiniteBinary64.sameNumber, FiniteBinary64.isZero, zero,
      FiniteBinary64.zero]
  · have shifted := FiniteBinary64.isShifted_of_isIntegral integral zero small
    rcases ofQuotient_of_exact number.negative shifted.positive shifted.short with
      ⟨canonical, rounded⟩
    have same : FiniteBinary64.mk number.negative _ _ canonical = number :=
      FiniteBinary64.eq_of_parts rfl shifted.significand.symm shifted.exponent.symm
    rw [ofInt, number.natAbs_truncate, number.sign_truncate shifted.positive, rounded, same]
    exact FiniteBinary64.sameNumber_self number

/-- A canonical magnitude with an exponent that is not negative is its own rounding. -/
theorem ofQuotient_of_upward (negative : Bool) {significand : Nat} {exponent : Int}
    (canonical : CanonicalMagnitude significand exponent) (upward : 0 ≤ exponent) :
    ofQuotient negative (significand * twoTo exponent.toNat) 1 =
      .finite ⟨negative, significand, exponent, canonical⟩ := by
  obtain ⟨places, rfl⟩ := Int.eq_ofNat_of_zero_le upward
  rcases canonical with ⟨upper, lowest, highest, full⟩
  have lower : twoTo 52 ≤ significand := full.resolve_right (by omega)
  have length : (significand * twoTo places).log2 = 52 + places := by
    apply log2_eq_of_bounds
    · rw [twoTo_add]
      exact Nat.mul_le_mul_right _ lower
    · rw [show 52 + places + 1 = 53 + places by omega, twoTo_add]
      exact Nat.mul_lt_mul_of_pos_right upper (twoTo_pos places)
  have positive : significand * twoTo places ≠ 0 :=
    Nat.mul_ne_zero (lt_of_lt_of_le (twoTo_pos 52) lower).ne' (twoTo_pos places).ne'
  have exponentEq : exponentOfQuotient (significand * twoTo places) 1 = places := by
    rw [exponentOfQuotient_one positive, length]
    omega
  simp only [ofQuotient, Int.toNat_natCast, exponentEq, Nat.one_mul]
  rw [if_neg positive, if_pos upward, roundedQuotient_mul_self _ (twoTo_pos places),
    if_neg upper.ne]
  exact ofParts_of_canonical ⟨upper, lowest, highest, full⟩

/-- A float without a fraction is the float of its integer, whatever its size. -/
theorem sameNumber_ofInt_of_isIntegral {number : FiniteBinary64} (integral : number.isIntegral) :
    (ofInt number.truncate).sameNumber (.finite number) := by
  by_cases upward : 0 ≤ number.exponent
  · have lower : twoTo 52 ≤ number.significand :=
      number.canonical.2.2.2.resolve_right (by omega)
    have magnitude : number.wholeMagnitude = number.significand * twoTo number.exponent.toNat :=
      if_pos upward
    have positive : number.wholeMagnitude ≠ 0 := by
      rw [magnitude]
      exact Nat.mul_ne_zero (lt_of_lt_of_le (twoTo_pos 52) lower).ne' (twoTo_pos _).ne'
    rw [ofInt, number.natAbs_truncate, number.sign_truncate positive, magnitude,
      ofQuotient_of_upward number.negative number.canonical upward]
    exact number.sameNumber_self
  · apply sameNumber_ofInt_truncate integral
    have magnitude : number.wholeMagnitude =
        number.significand / twoTo (-number.exponent).toNat :=
      if_neg upward
    rw [magnitude]
    exact lt_of_le_of_lt (Nat.div_le_self _ _) number.canonical.1

/-- An integer that is shifted to full length truncates to itself. -/
theorem wholeMagnitude_shifted (negative : Bool) (short : number.log2 ≤ 52)
    (canonical :
      CanonicalMagnitude (number * twoTo (52 - number.log2)) ((number.log2 : Int) - 52)) :
    (FiniteBinary64.mk negative _ _ canonical).wholeMagnitude = number := by
  unfold FiniteBinary64.wholeMagnitude
  dsimp only
  split
  · next upward =>
      have full : number.log2 = 52 := by omega
      rw [full]
      simp [twoTo]
  · next downward =>
      rw [show (-((number.log2 : Int) - 52)).toNat = 52 - number.log2 by omega]
      exact Nat.mul_div_cancel _ (twoTo_pos _)

/-- An integer up to `2 ^ 53` in size is a float that truncates to it. -/
theorem exists_ofInt_eq {integer : Int} (bounded : integer.natAbs ≤ twoTo 53) :
    ∃ number, ofInt integer = .finite number ∧ number.truncate = integer := by
  rcases bounded.lt_or_eq with small | largest
  · by_cases zero : integer.natAbs = 0
    · cases Int.natAbs_eq_zero.mp zero
      exact ⟨.zero false, rfl, by simp [FiniteBinary64.truncate, FiniteBinary64.wholeMagnitude,
        FiniteBinary64.zero]⟩
    · have short : integer.natAbs.log2 ≤ 52 := Nat.lt_succ_iff.mp ((Nat.log2_lt zero).mpr small)
      rcases ofQuotient_of_exact (integer < 0) zero short with ⟨canonical, rounded⟩
      refine ⟨_, rounded, ?_⟩
      rw [FiniteBinary64.truncate, wholeMagnitude_shifted _ short]
      by_cases below : integer < 0
      · rw [if_pos (decide_eq_true below)]
        omega
      · rw [if_neg (ne_true_of_eq_false (decide_eq_false below))]
        omega
  · rcases Int.natAbs_eq integer with above | below
    · rw [above, largest]
      exact ⟨⟨false, twoTo 52, 1, by decide⟩, by decide, by decide⟩
    · rw [below, largest]
      exact ⟨⟨true, twoTo 52, 1, by decide⟩, by decide, by decide⟩

theorem sameNumber_ofInt_self {integer : Int} (bounded : integer.natAbs < twoTo 128) :
    (ofInt integer).sameNumber (ofInt integer) := by
  have finite := isFinite_of_isIntegral (isIntegral_ofInt bounded)
  cases shape : ofInt integer with
  | finite number => exact number.sameNumber_self
  | infinity negative | nan => simp [shape, isFinite] at finite

/-- An integer with its sign set apart rounds to the same number; a zero may keep a sign. -/
theorem sameNumber_ofQuotient_ofInt (negative : Bool) {number : Nat}
    (bounded : number < twoTo 128) :
    (ofQuotient negative number 1).sameNumber
      (ofInt (if negative then -(number : Int) else number)) := by
  by_cases zero : number = 0
  · subst zero
    cases negative <;> rfl
  · obtain ⟨integer, isInteger⟩ :
        ∃ integer : Int, integer = if negative then -(number : Int) else number := ⟨_, rfl⟩
    have size : integer.natAbs = number := by
      rw [isInteger]
      split <;> omega
    have sign : decide (integer < 0) = negative := by
      rw [isInteger]
      cases negative with
      | true => simpa using Nat.pos_of_ne_zero zero
      | false => simp
    have rounded : ofInt integer = ofQuotient negative number 1 := by
      rw [ofInt, size, sign]
    rw [← isInteger, ← rounded]
    exact sameNumber_ofInt_self (size.symm ▸ bounded)

end Binary64

/-! ## Floats that are integers -/

/-- The number is the given integer. -/
def FiniteBinary64.IsInteger (number : FiniteBinary64) (integer : Int) : Prop :=
  number.fraction.1 = integer * number.fraction.2

namespace FiniteBinary64

variable {number : FiniteBinary64} {integer : Int}

instance : Decidable (number.IsInteger integer) :=
  inferInstanceAs (Decidable (_ = _))

theorem magnitude_snd_pos (number : FiniteBinary64) : 0 < number.magnitude.2 := by
  unfold magnitude
  split
  · exact Nat.one_pos
  · exact twoTo_pos _

theorem isIntegral_of_magnitude {whole : Nat}
    (multiple : number.magnitude.1 = whole * number.magnitude.2) :
    number.isIntegral ∧ number.wholeMagnitude = whole := by
  unfold magnitude at multiple
  unfold isIntegral wholeMagnitude
  by_cases upward : 0 ≤ number.exponent
  · rw [if_pos upward] at multiple
    rw [if_pos upward, if_pos upward]
    exact ⟨rfl, multiple.trans (Nat.mul_one whole)⟩
  · rw [if_neg upward] at multiple
    have scaled : number.significand = whole * twoTo (-number.exponent).toNat := multiple
    rw [if_neg upward, if_neg upward, scaled, Nat.mul_mod_left,
      Nat.mul_div_cancel _ (twoTo_pos _)]
    exact ⟨rfl, rfl⟩

theorem isInteger_iff :
    number.IsInteger integer ↔
      (if number.negative then -(number.magnitude.1 : Int) else number.magnitude.1) =
        integer * number.magnitude.2 :=
  Iff.rfl

/-- A number that is an integer has no fraction and truncates to that integer. -/
theorem isIntegral_of_isInteger (isInteger : number.IsInteger integer) :
    number.isIntegral ∧ number.truncate = integer := by
  have positive : (0 : Int) < number.magnitude.2 := Int.natCast_pos.mpr number.magnitude_snd_pos
  have product := isInteger_iff.mp isInteger
  have size : number.magnitude.1 = integer.natAbs * number.magnitude.2 := by
    have sizes := congrArg Int.natAbs product
    rw [Int.natAbs_mul, Int.natAbs_natCast] at sizes
    rw [← sizes]
    split <;> omega
  rcases isIntegral_of_magnitude size with ⟨integral, whole⟩
  refine ⟨integral, ?_⟩
  rw [truncate, whole]
  by_cases negative : number.negative
  · rw [if_pos negative] at product ⊢
    have atMost : ¬0 < integer := by
      intro above
      have := Int.mul_pos above positive
      omega
    omega
  · rw [if_neg negative] at product ⊢
    have atLeast : ¬integer < 0 := by
      intro below
      have := Int.mul_neg_of_neg_of_pos below positive
      omega
    omega

/-- A number without a fraction is the integer that it truncates to. -/
theorem isInteger_truncate (integral : number.isIntegral) : number.IsInteger number.truncate := by
  have product : number.magnitude.1 = number.wholeMagnitude * number.magnitude.2 := by
    unfold isIntegral at integral
    unfold magnitude wholeMagnitude
    by_cases upward : 0 ≤ number.exponent
    · rw [if_pos upward, if_pos upward]
      exact (Nat.mul_one _).symm
    · rw [if_neg upward] at integral
      rw [if_neg upward, if_neg upward]
      exact (Nat.div_mul_cancel (Nat.dvd_of_mod_eq_zero (eq_of_beq integral))).symm
  rw [isInteger_iff, product, truncate]
  split <;> simp

/-- An integer that some number is rounds to that number. -/
theorem IsInteger.sameNumber_ofInt (isInteger : number.IsInteger integer) :
    (Binary64.ofInt integer).sameNumber (.finite number) := by
  rcases isIntegral_of_isInteger isInteger with ⟨integral, rfl⟩
  exact Binary64.sameNumber_ofInt_of_isIntegral integral

/-- An integer up to `2 ^ 53` in size is a float. -/
theorem exists_ofInt_isInteger (bounded : integer.natAbs ≤ twoTo 53) :
    ∃ number, Binary64.ofInt integer = .finite number ∧ number.IsInteger integer := by
  rcases Binary64.exists_ofInt_eq bounded with ⟨number, rounded, rfl⟩
  have wide : twoTo 53 < twoTo 128 := by decide
  have integral := Binary64.isIntegral_ofInt (bounded.trans_lt wide)
  rw [rounded] at integral
  exact ⟨number, rounded, isInteger_truncate integral⟩

/-- Of two equal numbers both are an integer or neither is. -/
theorem IsInteger.of_sameNumber {other : FiniteBinary64} (isInteger : number.IsInteger integer)
    (same : other.sameNumber number) : other.IsInteger integer := by
  simp only [sameNumber, Bool.or_eq_true, Bool.and_eq_true, isZero, beq_iff_eq] at same
  rcases same with ⟨otherZero, zero⟩ | rfl
  · have none : integer = 0 := by
      rw [← (isIntegral_of_isInteger isInteger).2]
      simp [truncate, wholeMagnitude, zero]
    have noMagnitude : other.magnitude.1 = 0 := by
      unfold magnitude
      split <;> simp [otherZero]
    rw [isInteger_iff, none, noMagnitude]
    simp
  · exact isInteger

end FiniteBinary64

namespace Int128

theorem eq_of_toInt_eq {left right : Int128} (same : left.toInt = right.toInt) : left = right := by
  cases left
  cases right
  cases same
  rfl

theorem toInt_saturate {integer : Int} (lower : -twoTo 127 ≤ integer)
    (upper : integer < twoTo 127) : (saturate integer).toInt = integer := by
  simp only [saturate]
  omega

@[simp] theorem saturate_toInt (integer : Int128) : saturate integer.toInt = integer :=
  eq_of_toInt_eq (toInt_saturate integer.lower integer.upper)

/-- A big integer up to `2 ^ 53` in size is read back from its float. -/
theorem ofBinary64_ofInt {integer : Int128} (bounded : integer.toInt.natAbs ≤ twoTo 53) :
    ofBinary64 (.ofInt integer.toInt) = integer := by
  rcases Binary64.exists_ofInt_eq bounded with ⟨number, rounded, truncates⟩
  have lower := integer.lower
  have upper := integer.upper
  apply eq_of_toInt_eq
  simp only [ofBinary64, saturate, rounded, Binary64.clampToInt, truncates]
  omega

end Int128

end ApiContract
