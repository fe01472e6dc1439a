import ApiContract.Number.Binary64

/-!
# Shortest decimals of a binary64 number

The decimal text of a float shows the fewest digits that read back as the same
number, and of those the digits nearest to it.  The search tries one digit, then
two, and so on; at each count only the two neighbours of the number on that
decimal grid can lie in the interval of reals that round to it.
-/

namespace ApiContract

/-- Decimal digits without sign: `digits · 10 ^ exponent`. -/
structure DecimalMagnitude where
  digits : Nat
  exponent : Int
  deriving DecidableEq, Repr

namespace DecimalMagnitude

/-- The digits as characters, the leading one first. -/
def digitText (decimal : DecimalMagnitude) : List Char :=
  Nat.toDigits 10 decimal.digits

/-- The decimal exponent of the leading digit. -/
def leadExponent (decimal : DecimalMagnitude) : Int :=
  decimal.exponent + decimal.digitText.length - 1

end DecimalMagnitude

namespace FiniteBinary64

/-- A quotient compared with `10 ^ exponent`: not below it. -/
def reachesPowerOfTen (numerator denominator : Nat) (exponent : Int) : Bool :=
  if 0 ≤ exponent then denominator * tenTo exponent.toNat ≤ numerator
  else denominator ≤ numerator * tenTo (-exponent).toNat

/-- The decimal exponent of the leading digit of a positive quotient. The
estimate from the binary lengths is off by at most one. -/
def decimalExponent (numerator denominator : Nat) : Int :=
  let estimate : Int :=
    ((numerator.log2 : Int) - denominator.log2) * 30103 / 100000
  if reachesPowerOfTen numerator denominator (estimate + 1) then estimate + 1
  else if reachesPowerOfTen numerator denominator estimate then estimate
  else estimate - 1

/-- The bounds of the reals that round to a number other than zero, as numerators
over the common denominator that comes last, with the number itself in between. -/
def roundingInterval (number : FiniteBinary64) : Nat × Nat × Nat × Nat :=
  let scaled := 4 * number.significand
  let low :=
    if number.significand = twoTo 52 ∧ -1074 < number.exponent then scaled - 1 else scaled - 2
  let high := scaled + 2
  if 0 ≤ number.exponent then
    let factor := twoTo number.exponent.toNat
    (low * factor, scaled * factor, high * factor, 4)
  else
    (low, scaled, high, 4 * twoTo (-number.exponent).toNat)

/-- The better of the two neighbours of a number on the grid of multiples of
`10 ^ exponent`, if one of them rounds to the number. -/
def neighbourOnGrid (number : FiniteBinary64) (exponent : Int) : Option Nat :=
  let (low, middle, high, denominator) := number.roundingInterval
  let (scale, unit) : Nat × Nat :=
    if 0 ≤ exponent then (1, denominator * tenTo exponent.toNat)
    else (tenTo (-exponent).toNat, denominator)
  let inside (count : Nat) : Bool :=
    let point := count * unit
    if number.significand % 2 = 0 then low * scale ≤ point && point ≤ high * scale
    else low * scale < point && point < high * scale
  let below := middle * scale / unit
  let above := below + 1
  match inside below && below != 0, inside above with
  | true, true =>
      if middle * scale - below * unit ≤ above * unit - middle * scale then some below
      else some above
  | true, false => some below
  | false, true => some above
  | false, false => none

/-- The first grid, from one digit up to the given number of further digits, that
holds a neighbour of the number. -/
def searchShortest (number : FiniteBinary64) (lead : Int) : Nat → Int → DecimalMagnitude
  | 0, exponent => ⟨(number.neighbourOnGrid exponent).getD 0, exponent⟩
  | more + 1, exponent =>
      match number.neighbourOnGrid exponent with
      | some digits => ⟨digits, exponent⟩
      | none => searchShortest number lead more (exponent - 1)

/-- Drops trailing zeros of the digits, at most the given number of them. -/
def dropTrailingZeros : Nat → DecimalMagnitude → DecimalMagnitude
  | 0, decimal => decimal
  | more + 1, decimal =>
      if decimal.digits ≠ 0 ∧ decimal.digits % 10 = 0 then
        dropTrailingZeros more ⟨decimal.digits / 10, decimal.exponent + 1⟩
      else
        decimal

/-- The shortest decimal that reads back as the number, and the nearest of those. -/
def shortest (number : FiniteBinary64) : DecimalMagnitude :=
  if number.isZero then ⟨0, 0⟩
  else
    let (numerator, denominator) := number.magnitude
    let lead := decimalExponent numerator denominator
    dropTrailingZeros 17 (searchShortest number lead 17 lead)

end FiniteBinary64

end ApiContract
