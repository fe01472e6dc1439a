import ApiContract.Number.Power

/-!
# Binary floating-point numbers

This module describes the numbers of the binary64 format as data: a finite number
is a sign, a significand and an exponent in canonical form, so that two finite
numbers other than the two zeros are equal exactly when they are the same data.
All arithmetic goes through one correctly rounded quotient of natural numbers.
-/

namespace ApiContract

/-- A significand and an exponent name a binary64 magnitude canonically when the
significand has 53 bits, or fewer at the smallest exponent only. -/
def CanonicalMagnitude (significand : Nat) (exponent : Int) : Prop :=
  significand < twoTo 53 ∧ -1074 ≤ exponent ∧ exponent ≤ 971 ∧
    (twoTo 52 ≤ significand ∨ exponent = -1074)

instance (significand : Nat) (exponent : Int) :
    Decidable (CanonicalMagnitude significand exponent) :=
  inferInstanceAs (Decidable (_ ∧ _ ∧ _ ∧ (_ ∨ _)))

/-- A finite binary64 number, `±significand · 2 ^ exponent`. -/
structure FiniteBinary64 where
  negative : Bool
  significand : Nat
  exponent : Int
  canonical : CanonicalMagnitude significand exponent
  deriving DecidableEq

/-- A binary64 number. All NaNs are one value. -/
inductive Binary64 where
  | finite (number : FiniteBinary64)
  | infinity (negative : Bool)
  | nan
  deriving DecidableEq

/-- The quotient of two natural numbers rounded to the nearest natural number, a
tie going to the even one. -/
def roundedQuotient (numerator denominator : Nat) : Nat :=
  let quotient := numerator / denominator
  let remainder := numerator % denominator
  if 2 * remainder < denominator then quotient
  else if denominator < 2 * remainder then quotient + 1
  else if quotient % 2 = 0 then quotient
  else quotient + 1

namespace FiniteBinary64

/-- The zero of the given sign. -/
def zero (negative : Bool) : FiniteBinary64 where
  negative := negative
  significand := 0
  exponent := -1074
  canonical := by decide

/-- Both zeros are zero. -/
def isZero (number : FiniteBinary64) : Bool :=
  number.significand == 0

/-- The number with its sign flipped. -/
def neg (number : FiniteBinary64) : FiniteBinary64 :=
  { number with negative := !number.negative }

/-- A number is integral when its significand absorbs a negative exponent. -/
def isIntegral (number : FiniteBinary64) : Bool :=
  if 0 ≤ number.exponent then true
  else number.significand % twoTo (-number.exponent).toNat == 0

/-- The magnitude with its fraction dropped. -/
def wholeMagnitude (number : FiniteBinary64) : Nat :=
  if 0 ≤ number.exponent then number.significand * twoTo number.exponent.toNat
  else number.significand / twoTo (-number.exponent).toNat

/-- The number rounded toward zero. -/
def truncate (number : FiniteBinary64) : Int :=
  if number.negative then -(number.wholeMagnitude : Int) else number.wholeMagnitude

/-- Numeric equality, under which the two zeros are equal. -/
def sameNumber (left right : FiniteBinary64) : Bool :=
  (left.isZero && right.isZero) || left == right

/-- The magnitude as a quotient of natural numbers. -/
def magnitude (number : FiniteBinary64) : Nat × Nat :=
  if 0 ≤ number.exponent then (number.significand * twoTo number.exponent.toNat, 1)
  else (number.significand, twoTo (-number.exponent).toNat)

/-- The number as an integer numerator over a positive denominator. -/
def fraction (number : FiniteBinary64) : Int × Nat :=
  let (numerator, denominator) := number.magnitude
  (if number.negative then -(numerator : Int) else numerator, denominator)

end FiniteBinary64

namespace Binary64

/-- The positive zero. -/
def zero : Binary64 :=
  .finite (.zero false)

/-- The number with the given canonical parts. Parts beyond the exponent range
are an infinity. -/
def ofParts (negative : Bool) (significand : Nat) (exponent : Int) : Binary64 :=
  if canonical : CanonicalMagnitude significand exponent then
    .finite ⟨negative, significand, exponent, canonical⟩
  else
    .infinity negative

/-- The exponent at which the quotient of two positive numbers has a 53-bit
significand, or the smallest exponent where it would lie below that. -/
def exponentOfQuotient (numerator denominator : Nat) : Int :=
  let estimate : Int := (numerator.log2 : Int) - denominator.log2 - 52
  let shortfall : Bool :=
    if 0 ≤ estimate then numerator < twoTo 52 * (denominator * twoTo estimate.toNat)
    else numerator * twoTo (-estimate).toNat < twoTo 52 * denominator
  max (-1074) (if shortfall then estimate - 1 else estimate)

/-- The binary64 number nearest to a quotient, a tie going to the even
significand. -/
def ofQuotient (negative : Bool) (numerator denominator : Nat) : Binary64 :=
  if numerator = 0 then .finite (.zero negative)
  else
    let exponent := exponentOfQuotient numerator denominator
    let significand :=
      if 0 ≤ exponent then roundedQuotient numerator (denominator * twoTo exponent.toNat)
      else roundedQuotient (numerator * twoTo (-exponent).toNat) denominator
    if significand = twoTo 53 then ofParts negative (twoTo 52) (exponent + 1)
    else ofParts negative significand exponent

/-- The binary64 number nearest to an integer. -/
def ofInt (integer : Int) : Binary64 :=
  ofQuotient (integer < 0) integer.natAbs 1

/-- The binary64 number nearest to `digits · 10 ^ exponent`. Magnitudes far
outside the format's range are settled before any large power is formed. -/
def ofDecimal (negative : Bool) (digits : Nat) (exponent : Int) : Binary64 :=
  if digits = 0 then .finite (.zero negative)
  else
    let lead := exponent + (Nat.toDigits 10 digits).length
    if 310 < lead then .infinity negative
    else if lead < -330 then .finite (.zero negative)
    else if 0 ≤ exponent then ofQuotient negative (digits * tenTo exponent.toNat) 1
    else ofQuotient negative digits (tenTo (-exponent).toNat)

/-- The product, rounded once. -/
def mul (left right : FiniteBinary64) : Binary64 :=
  let (leftNumerator, leftDenominator) := left.magnitude
  let (rightNumerator, rightDenominator) := right.magnitude
  ofQuotient (left.negative != right.negative) (leftNumerator * rightNumerator)
    (leftDenominator * rightDenominator)

/-- The quotient by a number other than zero, rounded once. -/
def div (left right : FiniteBinary64) : Binary64 :=
  let (leftNumerator, leftDenominator) := left.magnitude
  let (rightNumerator, rightDenominator) := right.magnitude
  ofQuotient (left.negative != right.negative) (leftNumerator * rightDenominator)
    (leftDenominator * rightNumerator)

/-- The distance of two numbers, rounded once. -/
def distance (left right : FiniteBinary64) : Binary64 :=
  let (leftNumerator, leftDenominator) := left.fraction
  let (rightNumerator, rightDenominator) := right.fraction
  ofQuotient false
    (leftNumerator * rightDenominator - rightNumerator * leftDenominator).natAbs
    (leftDenominator * rightDenominator)

/-- The number is neither infinite nor a NaN. -/
def isFinite : Binary64 → Bool
  | .finite _ => true
  | .infinity _ | .nan => false

/-- The number is finite and has no fractional part. -/
def isIntegral : Binary64 → Bool
  | .finite number => number.isIntegral
  | .infinity _ | .nan => false

/-- Numeric equality: the two zeros are equal and a NaN differs from everything. -/
def sameNumber : Binary64 → Binary64 → Bool
  | .finite left, .finite right => left.sameNumber right
  | .infinity left, .infinity right => left == right
  | _, _ => false

/-- The number is below `2 ^ exponent`, for an exponent below zero. -/
def isBelowPower (number : Binary64) (exponent : Nat) : Bool :=
  match number with
  | .finite number =>
      let (numerator, denominator) := number.fraction
      numerator * twoTo exponent < denominator
  | .infinity negative => negative
  | .nan => false

/-- Rounds toward zero into a range of integers; values beyond the range go to
its nearer end and a NaN to zero. -/
def clampToInt (number : Binary64) (lower upper : Int) : Int :=
  match number with
  | .finite number => max lower (min upper number.truncate)
  | .infinity true => lower
  | .infinity false => upper
  | .nan => 0

end Binary64

end ApiContract
