import ApiContract.Json.Printer
import ApiContract.Value.Basic

/-!
# Values as JSON

A value becomes JSON by flattening what JSON cannot carry: an instant is its text,
and a big integer beyond 64 bits the string of its digits.  A whole number below
`2 ^ 53` in size is written as an integer.  In the other direction an integer of
more than that size is a big integer.
-/

namespace ApiContract

/-- The integers up to this size are all floats. -/
def safeInteger : Nat := twoTo 53

/-- A float as JSON. Infinities and NaN are null. -/
def Binary64.toJson : Binary64 → Json
  | .finite number =>
      if number.isIntegral ∧ number.wholeMagnitude < safeInteger then
        .ofInt number.truncate
      else .number (.float number)
  | .infinity _ | .nan => .null

/-- A JSON number as a value. -/
def JsonNumber.toValue : JsonNumber → Value
  | .integer value =>
      if value.toInt.natAbs ≤ safeInteger then .number (.ofInt value.toInt)
      else .bigint (.saturate value.toInt)
  | .float value => .number (.finite value)

namespace Value

mutual

/-- The value as JSON. -/
def toJson : Value → Json
  | .null => .null
  | .bool value => .bool value
  | .number value => value.toJson
  | .bigint value => .ofInt value.toInt
  | .string text => .string text
  | .date instant => .string (instant.text .millis)
  | .array items => .array (itemsToJson items)
  | .object members => .object (membersToJson members)

/-- The items of an array as JSON. -/
def itemsToJson : List Value → List Json
  | [] => []
  | item :: rest => toJson item :: itemsToJson rest

/-- The members of an object as JSON. -/
def membersToJson : List (String × Value) → List (String × Json)
  | [] => []
  | (key, value) :: rest => (key, toJson value) :: membersToJson rest

end

mutual

/-- A JSON value as a value. -/
def ofJson : Json → Value
  | .null => .null
  | .bool value => .bool value
  | .number value => value.toValue
  | .string text => .string text
  | .array items => .array (itemsOfJson items)
  | .object members => .object (membersOfJson members)

/-- The items of a JSON array as values. -/
def itemsOfJson : List Json → List Value
  | [] => []
  | item :: rest => ofJson item :: itemsOfJson rest

/-- The members of a JSON object as values. -/
def membersOfJson : List (String × Json) → List (String × Value)
  | [] => []
  | (key, value) :: rest => (key, ofJson value) :: membersOfJson rest

end

/-- The text of a value is its compact JSON text. -/
def text (value : Value) : String :=
  value.toJson.compact

end Value

end ApiContract
