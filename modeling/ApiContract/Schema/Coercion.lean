import ApiContract.Number.Decimal
import ApiContract.Text.Blank
import ApiContract.Time.Reader
import ApiContract.Value.Basic

/-!
# Coercion of leaves

This module says which values pass for a number, a big integer, a boolean or an
instant, and as which.  The loose readings convert; the exact ones at the end only
recognise.
-/

namespace ApiContract.Value

/-- A finite float read from text without the blanks around it. -/
def readNumber (text : String) : Option Binary64 :=
  (Decimal.readBinary64 (Text.trim text.toList)).filter Binary64.isFinite

/-- A date read from text without the blanks around it. -/
def readDate (text : String) : Option Instant :=
  Time.readInstant (Text.trim text.toList)

/-- The number that a value passes for: numeric text, the numbers one and zero for
the truth values, zero for null, and an instant's milliseconds. -/
def coerceNumber : Value → Option Binary64
  | .number value => some value
  | .string text => readNumber text
  | .bool value => some (.ofInt (if value then 1 else 0))
  | .null => some .zero
  | .bigint value => some value.toBinary64
  | .date instant => some (.ofInt instant.toMillis)
  | .array _ | .object _ => none

/-- The big integer that a value passes for: a whole number, or text that holds an
integer of 128 bits. -/
def coerceBigint : Value → Option Int128
  | .bigint value => some value
  | .number value => if value.isIntegral then some (.ofBinary64 value) else none
  | .string text => Decimal.readInt128 (Text.trim text.toList)
  | _ => none

/-- The truth value that a value passes for: the words `true` and `false` in any
letter case also count. -/
def coerceBoolean : Value → Option Bool
  | .bool value => some value
  | .string text =>
      if Text.sameIgnoringCase text "true" then some true
      else if Text.sameIgnoringCase text "false" then some false
      else none
  | _ => none

/-- The milliseconds of a big integer that fits 64 bits. -/
def millisOfBigint (value : Int128) : Option Int :=
  if -twoTo 63 ≤ value.toInt ∧ value.toInt < twoTo 63 then some value.toInt else none

/-- The instant that a value passes for: date text, or milliseconds given as a
number, a big integer or a truth value. -/
def coerceDate : Value → Option Instant
  | .date instant => some instant
  | .string text => readDate text
  | .number value =>
      if value.isFinite then Instant.ofMillis? (value.clampToInt (-twoTo 63) (twoTo 63 - 1))
      else none
  | .bigint value => millisOfBigint value >>= Instant.ofMillis?
  | .bool value => Instant.ofMillis? (if value then 1 else 0)
  | _ => none

/-- The value is a big integer or a whole number. -/
def isWhole : Value → Bool
  | .bigint _ => true
  | .number value => value.isIntegral
  | _ => false

/-- The value is an instant or text that holds one. -/
def isDate : Value → Bool
  | .date _ => true
  | .string text => (readDate text).isSome
  | _ => false

end ApiContract.Value
