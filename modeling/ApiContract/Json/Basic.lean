import ApiContract.Entries
import ApiContract.Number.Int128
import ApiContract.Text.Ascii

/-!
# JSON values

JSON as a plain inductive type.  A number is an integer of the signed or unsigned
64-bit range or a finite float, which is all that a JSON text can carry here.
Members of an object stand in the order in which they print.
-/

namespace ApiContract

/-- An integer of the signed or the unsigned 64-bit range. -/
structure JsonInteger where
  toInt : Int
  lower : -twoTo 63 ≤ toInt
  upper : toInt < twoTo 64
  deriving DecidableEq

/-- The integer, if it is in range. -/
def JsonInteger.ofInt? (integer : Int) : Option JsonInteger :=
  if inRange : -twoTo 63 ≤ integer ∧ integer < twoTo 64 then
    some ⟨integer, inRange.1, inRange.2⟩
  else
    none

/-- A JSON number. -/
inductive JsonNumber where
  | integer (value : JsonInteger)
  | float (value : FiniteBinary64)
  deriving DecidableEq

/-- A JSON value. -/
inductive Json where
  | null
  | bool (value : Bool)
  | number (value : JsonNumber)
  | string (text : String)
  | array (items : List Json)
  | object (members : List (String × Json))
  deriving Inhabited

namespace JsonNumber

/-- The nearest float. -/
def toBinary64 : JsonNumber → Binary64
  | .integer value => .ofInt value.toInt
  | .float value => .finite value

/-- The number has no fractional part. -/
def isIntegral : JsonNumber → Bool
  | .integer _ => true
  | .float value => value.isIntegral

/-- The exact value as an integer numerator over a positive denominator. -/
def fraction : JsonNumber → Int × Nat
  | .integer value => (value.toInt, 1)
  | .float value => value.fraction

/-- Equality of the exact values. -/
def sameNumber (left right : JsonNumber) : Bool :=
  let (leftNumerator, leftDenominator) := left.fraction
  let (rightNumerator, rightDenominator) := right.fraction
  leftNumerator * rightDenominator == rightNumerator * leftDenominator

end JsonNumber

namespace Json

/-- An integer. One beyond the 64-bit ranges is written as a string of its digits. -/
def ofInt (integer : Int) : Json :=
  match JsonInteger.ofInt? integer with
  | some value => .number (.integer value)
  | none => .string (Text.integerText integer)

/-- A natural number. -/
def ofNat (number : Nat) : Json :=
  ofInt number

/-- A string, or null for none. -/
def ofString? : Option String → Json
  | some text => .string text
  | none => .null

/-- An array of strings. -/
def ofStrings (texts : List String) : Json :=
  .array (texts.map .string)

/-- The value under a key of an object. -/
def get? (json : Json) (key : String) : Option Json :=
  match json with
  | .object members => Entries.get? members key
  | _ => none

/-- The text of a string. -/
def asString? : Json → Option String
  | .string text => some text
  | _ => none

/-- The items of an array. -/
def asArray? : Json → Option (List Json)
  | .array items => some items
  | _ => none

/-- The members of an object. -/
def asObject? : Json → Option (List (String × Json))
  | .object members => some members
  | _ => none

/-- The truth value of a boolean. -/
def asBool? : Json → Option Bool
  | .bool value => some value
  | _ => none

/-- The integer, if the number is written as one. -/
def asInt? : Json → Option Int
  | .number (.integer value) => some value.toInt
  | _ => none

/-- The name of the kind of a value. -/
def kind : Json → String
  | .null => "null"
  | .bool _ => "boolean"
  | .number _ => "number"
  | .string _ => "string"
  | .array _ => "array"
  | .object _ => "object"

mutual

/-- Equality with numbers compared by their exact values. -/
def sameValue : Json → Json → Bool
  | .null, .null => true
  | .bool left, .bool right => left == right
  | .number left, .number right => left.sameNumber right
  | .string left, .string right => left == right
  | .array left, .array right => sameItems left right
  | .object left, .object right => sameMembers left right
  | _, _ => false

/-- Equality of items at equal places. -/
def sameItems : List Json → List Json → Bool
  | [], [] => true
  | left :: lefts, right :: rights => sameValue left right && sameItems lefts rights
  | _, _ => false

/-- Equality of members at equal places. -/
def sameMembers : List (String × Json) → List (String × Json) → Bool
  | [], [] => true
  | (leftKey, left) :: lefts, (rightKey, right) :: rights =>
      leftKey == rightKey && sameValue left right && sameMembers lefts rights
  | _, _ => false

end

end Json

end ApiContract
