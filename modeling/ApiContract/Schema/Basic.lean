import ApiContract.Value.Json

/-!
# Schemas

A schema describes the shape of a value.  This module holds the type of schemas,
the literals that a schema can pin a place to, and the shorthand in which a
schema may be written: nested fields and bare literals.
-/

namespace ApiContract

/-- A value that a schema can pin a place to. -/
inductive Literal where
  | string (text : String)
  | number (value : Binary64)
  | bool (value : Bool)
  deriving DecidableEq

namespace Literal

/-- A literal matches a value of its own kind only. A number also matches a big
integer whose nearest float it is. -/
def isMatchedBy (literal : Literal) (value : Value) : Bool :=
  match literal, value with
  | .string expected, .string text => expected == text
  | .number expected, .number found => expected.sameNumber found
  | .number expected, .bigint found => expected.sameNumber found.toBinary64
  | .bool expected, .bool found => expected == found
  | _, _ => false

/-- The literal as JSON. -/
def toJson : Literal → Json
  | .string text => .string text
  | .number value => value.toJson
  | .bool value => .bool value

/-- The text of a literal is its compact JSON text. -/
def text (literal : Literal) : String :=
  literal.toJson.compact

end Literal

/-- The texts of literals, separated by commas. -/
def Literal.listText (literals : List Literal) : String :=
  ", ".intercalate (literals.map Literal.text)

/-- The shape of a value. -/
inductive Schema where
  | any
  | unknown
  | null
  | string
  | number
  | integer
  | bigint
  | boolean
  | date
  | literal (value : Literal)
  | enumeration (values : List Literal)
  | array (items : Schema)
  /-- Fields in declared order. A strict object has no other members. -/
  | object (fields : List (String × Schema)) (strict : Bool)
  | record (values : Schema)
  | union (members : List Schema)
  | optional (inner : Schema)
  /-- A value that is produced later, described by what it becomes. -/
  | promise (resolved : Schema)
  /-- Something to call. No value has this shape. -/
  | function (parameters : List Schema) (result : Schema)

namespace Schema

/-- The schema is marked optional. -/
def isOptional : Schema → Bool
  | .optional _ => true
  | _ => false

/-- The schema marked optional, once. -/
def asOptional : Schema → Schema
  | .optional inner => .optional inner
  | schema => .optional schema

/-- The schema of what an optional schema holds. -/
def withoutOptional : Schema → Schema
  | .optional inner => inner
  | schema => schema

/-- An object made strict. Other schemas stay as they are. -/
def asStrict : Schema → Schema
  | .object fields _ => .object fields true
  | schema => schema

/-- The declared fields of an object. -/
def fields? : Schema → Option (List (String × Schema))
  | .object fields _ => some fields
  | _ => none

/-- The object schema of the given fields, open to other members. -/
def ofFields (fields : List (String × Schema)) : Schema :=
  .object fields false

end Schema

/-- What may stand where a schema is wanted. -/
inductive Shorthand where
  | object (members : List (String × Shorthand))
  | literal (value : Literal)
  | full (meant : Schema)

namespace Shorthand

mutual

/-- The schema that a shorthand stands for. -/
def toSchema : Shorthand → Schema
  | .object members => .ofFields (toFields members)
  | .literal value => .literal value
  | .full meant => meant

/-- The fields that the members of a shorthand stand for. -/
def toFields : List (String × Shorthand) → List (String × Schema)
  | [] => []
  | (name, shorthand) :: rest => (name, toSchema shorthand) :: toFields rest

end

@[simp] theorem toSchema_full (schema : Schema) : toSchema (.full schema) = schema := by
  rw [toSchema]

end Shorthand

end ApiContract
