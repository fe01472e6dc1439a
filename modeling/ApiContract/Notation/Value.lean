import ApiContract.Number.Decimal
import ApiContract.Value.Json

/-!
# A lossless notation for values

JSON alone cannot tell a big integer from a number or an instant from a text.  In
this notation a float that is no plain integer, a big integer and an instant are
objects whose only key is a tag.
-/

namespace ApiContract

namespace Notation

/-- The tag of a float. -/
def floatTag : String := "$f64"

/-- The tag of a big integer. -/
def bigintTag : String := "$big"

/-- The tag of an instant. -/
def dateTag : String := "$date"

/-- The value under a tag. -/
def readTagged? (tag : String) (operand : Json) : Option Value :=
  match operand with
  | .string text =>
      if tag = floatTag then (Decimal.readBinary64 text.toList).map .number
      else if tag = bigintTag then (Decimal.readInt128 text.toList).map .bigint
      else none
  | .array [seconds, nanoseconds] =>
      if tag = dateTag then do
        let seconds ← seconds.asInt?
        let nanoseconds ← nanoseconds.asInt?
        (Instant.ofParts? seconds nanoseconds.toNat).map .date
      else none
  | _ => none

mutual

/-- The value that a notation stands for. -/
def readValue : Json → Value
  | .object [(key, operand)] => (readTagged? key operand).getD (.object [(key, readValue operand)])
  | .object members => .object (readMembers members)
  | .array items => .array (readItems items)
  | .null => .null
  | .bool value => .bool value
  | .string text => .string text
  | .number value => value.toValue

/-- The values of several notations. -/
def readItems : List Json → List Value
  | [] => []
  | item :: rest => readValue item :: readItems rest

/-- The values of named notations. -/
def readMembers : List (String × Json) → List (String × Value)
  | [] => []
  | (key, value) :: rest => (key, readValue value) :: readMembers rest

end

/-- The notation of a float. Only a whole number that is safe to write as an integer
is written as one, and a negative zero is not. -/
def writeBinary64 (value : Binary64) : Json :=
  let tagged (text : String) : Json := .object [(floatTag, .string text)]
  match value with
  | .finite number =>
      if number.isZero ∧ number.negative then tagged "-0"
      else if number.isIntegral ∧ number.wholeMagnitude < safeInteger then
        .ofInt number.truncate
      else tagged (Json.number (.float number)).compact
  | .infinity negative => tagged (if negative then "-inf" else "inf")
  | .nan => tagged "NaN"

mutual

/-- The notation of a value. -/
def writeValue : Value → Json
  | .null => .null
  | .bool value => .bool value
  | .number value => writeBinary64 value
  | .bigint value => .object [(bigintTag, .string (Text.integerText value.toInt))]
  | .string text => .string text
  | .date instant =>
      .object [(dateTag, .array [.ofInt instant.seconds, .ofNat instant.nanoseconds])]
  | .array items => .array (writeItems items)
  | .object members => .object (writeMembers members)

/-- The notations of several values. -/
def writeItems : List Value → List Json
  | [] => []
  | item :: rest => writeValue item :: writeItems rest

/-- The notations of named values. -/
def writeMembers : List (String × Value) → List (String × Json)
  | [] => []
  | (key, value) :: rest => (key, writeValue value) :: writeMembers rest

end

/-- The notation of something that may be absent. -/
def writeOption {α : Type} (write : α → Json) : Option α → Json
  | some value => write value
  | none => .null

/-- An object with its members in order of their keys. -/
def sorted (members : List (String × Json)) : Json :=
  .object (Entries.ofList members)

end Notation

end ApiContract
