import ApiContract.Json.Basic
import ApiContract.Time.Instant

/-!
# Values

The dynamic values that contracts speak about.  They are those of JSON and two
kinds that JSON cannot carry of itself, big integers and instants.
-/

namespace ApiContract

/-- A dynamic value. -/
inductive Value where
  | null
  | bool (value : Bool)
  | number (value : Binary64)
  | bigint (value : Int128)
  | string (text : String)
  | date (instant : Instant)
  | array (items : List Value)
  | object (members : List (String × Value))
  deriving Inhabited

namespace Value

/-- The name of the kind of a value. -/
def kind : Value → String
  | .null => "null"
  | .bool _ => "boolean"
  | .number _ => "number"
  | .bigint _ => "bigint"
  | .string _ => "string"
  | .date _ => "date"
  | .array _ => "array"
  | .object _ => "object"

/-- The value is null. -/
def isNull : Value → Bool
  | .null => true
  | _ => false

/-- The text of a string. -/
def asString? : Value → Option String
  | .string text => some text
  | _ => none

/-- The truth value of a boolean. -/
def asBool? : Value → Option Bool
  | .bool value => some value
  | _ => none

/-- The float of a number, or the nearest one of a big integer. -/
def asBinary64? : Value → Option Binary64
  | .number value => some value
  | .bigint value => some value.toBinary64
  | _ => none

/-- The items of an array. -/
def asArray? : Value → Option (List Value)
  | .array items => some items
  | _ => none

/-- The members of an object. -/
def asObject? : Value → Option (Entries Value)
  | .object members => some members
  | _ => none

/-- The value under a key of an object. -/
def get? (value : Value) (key : String) : Option Value :=
  match value with
  | .object members => Entries.get? members key
  | _ => none

/-- The object with the given members. -/
def ofMembers (members : List (String × Value)) : Value :=
  .object (Entries.ofList members)

/-- A string, or null for none. -/
def ofString? : Option String → Value
  | some text => .string text
  | none => .null

end Value

end ApiContract
