import ApiContract.Json.Basic

/-!
# Data of settings

What a configuration file, an environment variable or a JSON value denotes before
its type is checked: a tree of scalars, lists and maps with text keys.
-/

namespace ApiContract

/-- A datum. -/
inductive Datum where
  | null
  | bool (value : Bool)
  | integer (value : Int)
  | float (value : Binary64)
  | string (text : String)
  | list (items : List Datum)
  | map (members : List (String × Datum))
  deriving Inhabited

namespace Datum

/-- A natural number. -/
def ofNat (number : Nat) : Datum :=
  .integer number

/-- A list of strings. -/
def ofStrings (texts : List String) : Datum :=
  .list (texts.map .string)

/-- A value that may be missing. -/
def ofOption {α : Type} (write : α → Datum) (value : Option α) : Datum :=
  (value.map write).getD .null

/-- A JSON number. -/
def ofJsonNumber : JsonNumber → Datum
  | .integer value => .integer value.toInt
  | .float value => .float (.finite value)

mutual

/-- The datum that a JSON value denotes. -/
def ofJson : Json → Datum
  | .null => .null
  | .bool value => .bool value
  | .number value => ofJsonNumber value
  | .string text => .string text
  | .array items => .list (ofJsonItems items)
  | .object members => .map (ofJsonMembers members)

/-- The data of the items of an array. -/
def ofJsonItems : List Json → List Datum
  | [] => []
  | item :: rest => ofJson item :: ofJsonItems rest

/-- The data of the members of an object. -/
def ofJsonMembers : List (String × Json) → List (String × Datum)
  | [] => []
  | (key, value) :: rest => (key, ofJson value) :: ofJsonMembers rest

end

/-- A number as JSON. What is not finite has no JSON number. -/
def jsonOfBinary64 : Binary64 → Json
  | .finite value => .number (.float value)
  | _ => .null

mutual

/-- The datum as JSON. -/
def toJson : Datum → Json
  | .null => .null
  | .bool value => .bool value
  | .integer value => .ofInt value
  | .float value => jsonOfBinary64 value
  | .string text => .string text
  | .list items => .array (toJsonItems items)
  | .map members => .object (toJsonMembers members)

/-- The items of a list as JSON. -/
def toJsonItems : List Datum → List Json
  | [] => []
  | item :: rest => toJson item :: toJsonItems rest

/-- The members of a map as JSON. -/
def toJsonMembers : List (String × Datum) → List (String × Json)
  | [] => []
  | (key, value) :: rest => (key, toJson value) :: toJsonMembers rest

end

/-- The datum under a key of a map, or at an index of a list. -/
def child? : Datum → String → Option Datum
  | .map members, key => members.lookup key
  | .list items, key => key.toNat? >>= fun index => items[index]?
  | _, _ => none

/-- The datum at the end of a path of keys and indices. -/
def at? (datum : Datum) (path : List String) : Option Datum :=
  path.foldlM child? datum

end Datum

end ApiContract
