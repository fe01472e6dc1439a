import ApiContract.Number.Int128
import ApiContract.Number.Shortest
import ApiContract.Text.Ascii

/-!
# Decimal text of numbers

This module reads numbers from decimal text and writes a binary64 number in
positional notation.  Floats are read with correct rounding.
-/

namespace ApiContract.Decimal

/-- Splits an optional sign off; the flag tells a minus. -/
def splitSign : List Char → Bool × List Char
  | '-' :: rest => (true, rest)
  | '+' :: rest => (false, rest)
  | chars => (false, chars)

/-- Reads `e` or `E`, an optional sign and digits that end the text. No text at
all is the exponent zero. -/
def readExponent : List Char → Option Int
  | [] => some 0
  | mark :: rest =>
      if mark = 'e' ∨ mark = 'E' then
        let (negative, digits) := splitSign rest
        if digits ≠ [] ∧ digits.all Char.isDigit then
          let magnitude : Int := Text.decimalValue digits
          some (if negative then -magnitude else magnitude)
        else none
      else none

/-- Reads digits with an optional point and exponent. At least one digit stands
before or after the point. -/
def readUnsigned (negative : Bool) (chars : List Char) : Option Binary64 :=
  let (whole, afterWhole) := chars.span Char.isDigit
  let (fraction, afterFraction) :=
    match afterWhole with
    | '.' :: rest => rest.span Char.isDigit
    | rest => ([], rest)
  if whole = [] ∧ fraction = [] then none
  else
    match readExponent afterFraction with
    | none => none
    | some exponent =>
        some (.ofDecimal negative (Text.decimalValue (whole ++ fraction))
          (exponent - fraction.length))

/-- Reads a float: an optional sign before a decimal number or, in any letter
case, `inf`, `infinity` or `nan`. -/
def readBinary64 (chars : List Char) : Option Binary64 :=
  let (negative, unsigned) := splitSign chars
  let word := String.ofList (unsigned.map Text.asciiLower)
  if word = "inf" ∨ word = "infinity" then some (.infinity negative)
  else if word = "nan" then some .nan
  else readUnsigned negative unsigned

/-- Reads an integer: an optional sign and at least one digit. -/
def readInt (chars : List Char) : Option Int :=
  let (negative, digits) := splitSign chars
  if digits ≠ [] ∧ digits.all Char.isDigit then
    let magnitude : Int := Text.decimalValue digits
    some (if negative then -magnitude else magnitude)
  else none

/-- Reads an integer that fits 128 bits. -/
def readInt128 (chars : List Char) : Option Int128 :=
  readInt chars >>= Int128.ofInt?

/-- Digits in positional notation, with a point only where there is a fraction. -/
def positional (decimal : DecimalMagnitude) : List Char :=
  let digits := decimal.digitText
  if 0 ≤ decimal.exponent then
    if decimal.digits = 0 then digits
    else digits ++ List.replicate decimal.exponent.toNat '0'
  else
    let places := (-decimal.exponent).toNat
    let padded := Text.padLeft (places + 1) '0' digits
    padded.take (padded.length - places) ++ '.' :: padded.drop (padded.length - places)

/-- The minus sign of a negative number. -/
def signText (negative : Bool) : String :=
  if negative then "-" else ""

/-- A float in positional notation, whatever its size. -/
def plainText : Binary64 → String
  | .finite number =>
      signText number.negative ++ String.ofList (positional number.shortest)
  | .infinity negative => signText negative ++ "inf"
  | .nan => "NaN"

end ApiContract.Decimal
