import ApiContract.Notation.Value
import ApiContract.Schema.Backend

/-!
# A notation for schemas

Schemas are written in JSON: a plain kind by its name, any other by an object whose
first key names its form.  The forms `shape` and `lit` are shorthand, `raw_optional`
nests as written, and `strict_of` makes an object strict.
-/

namespace ApiContract.Notation

/-- The plain kinds by name. -/
def plainSchemas : List (String × Schema) :=
  [("any", .any), ("unknown", .unknown), ("null", .null), ("string", .string),
    ("number", .number), ("integer", .integer), ("bigint", .bigint), ("boolean", .boolean),
    ("date", .date)]

/-- A literal. -/
def readLiteral? : Json → Option Literal
  | .string text => some (.string text)
  | .bool value => some (.bool value)
  | .number value => some (.number value.toBinary64)
  | .object [(tag, operand)] =>
      match readTagged? tag operand with
      | some (.number value) => some (.number value)
      | _ => none
  | _ => none

/-- A form that is given by a literal. -/
def literalForm? (form : String) (operand : Json) : Option Shorthand :=
  if form = "lit" then (readLiteral? operand).map .literal
  else if form = "literal" then (readLiteral? operand).map fun value => .full (.literal value)
  else none

/-- A form that is given by one inner schema. -/
def wrappedForm? (form : String) (inner : Shorthand) : Option Shorthand :=
  let schema := inner.toSchema
  match form with
  | "array" => some (.full (.array schema))
  | "record" => some (.full (.record schema))
  | "promise" => some (.full (.promise schema))
  | "optional" => some (.full schema.asOptional)
  | "raw_optional" => some (.full (.optional schema))
  | "strict_of" => some (.full schema.asStrict)
  | _ => none

/-- The members after the first mark an object as strict. -/
def strictMark (members : List (String × Json)) : Bool :=
  (members.lookup "strict" >>= Json.asBool?).getD false

mutual

/-- A schema or a shorthand for one. -/
def readShorthand? : Json → Option Shorthand
  | .string name => (plainSchemas.lookup name).map .full
  | .object ((form, operand) :: rest) => readForm? form (strictMark rest) operand
  | _ => none

/-- A schema by its form. -/
def readForm? (form : String) (strict : Bool) : Json → Option Shorthand
  | .array items =>
      match form with
      | "shape" => (readFields? items).map .object
      | "object" =>
          (readFields? items).map fun fields => .full (.object (Shorthand.toFields fields) strict)
      | "union" => (readList? items).map fun members => .full (.union members)
      | "enum" => (items.mapM readLiteral?).map fun values => .full (.enumeration values)
      | _ => none
  | .string text =>
      (literalForm? form (.string text)).or
        ((plainSchemas.lookup text) >>= fun schema => wrappedForm? form (.full schema))
  | .object [(first, .array parameters), (second, result)] =>
      if form = "function" then do
        let parameters ← readList? parameters
        let result ← readShorthand? result
        some (.full (.function parameters result.toSchema))
      else
        readForm? first (strictMark [(second, result)]) (.array parameters) >>= wrappedForm? form
  | .object ((inner, operand) :: rest) =>
      (literalForm? form (.object ((inner, operand) :: rest))).or
        (readForm? inner (strictMark rest) operand >>= wrappedForm? form)
  | operand => literalForm? form operand

/-- The fields of an object, each a name and a schema. -/
def readFields? : List Json → Option (List (String × Shorthand))
  | [] => some []
  | .array [.string name, field] :: rest => do
      let field ← readShorthand? field
      let rest ← readFields? rest
      some ((name, field) :: rest)
  | _ :: _ => none

/-- Several schemas. -/
def readList? : List Json → Option (List Schema)
  | [] => some []
  | item :: rest => do
      let item ← readShorthand? item
      let rest ← readList? rest
      some (item.toSchema :: rest)

end

/-- A schema. -/
def readSchema? (json : Json) : Option Schema :=
  (readShorthand? json).map Shorthand.toSchema

/-- The notation of a literal. -/
def writeLiteral : Literal → Json
  | .string text => .string text
  | .bool value => .bool value
  | .number value => writeBinary64 value

mutual

/-- The notation of a schema. -/
def writeSchema : Schema → Json
  | .any => .string "any"
  | .unknown => .string "unknown"
  | .null => .string "null"
  | .string => .string "string"
  | .number => .string "number"
  | .integer => .string "integer"
  | .bigint => .string "bigint"
  | .boolean => .string "boolean"
  | .date => .string "date"
  | .literal value => .object [("literal", writeLiteral value)]
  | .enumeration values => .object [("enum", .array (values.map writeLiteral))]
  | .array items => .object [("array", writeSchema items)]
  | .object fields strict =>
      .object [("object", .array (writeFields fields)), ("strict", .bool strict)]
  | .record values => .object [("record", writeSchema values)]
  | .union members => .object [("union", .array (writeList members))]
  | .optional inner => .object [("optional", writeSchema inner)]
  | .promise resolved => .object [("promise", writeSchema resolved)]
  | .function parameters result =>
      .object [("function", .object [("params", .array (writeList parameters)),
        ("returns", writeSchema result)])]

/-- The notations of fields. -/
def writeFields : List (String × Schema) → List Json
  | [] => []
  | (name, schema) :: rest => .array [.string name, writeSchema schema] :: writeFields rest

/-- The notations of several schemas. -/
def writeList : List Schema → List Json
  | [] => []
  | schema :: rest => writeSchema schema :: writeList rest

end

/-- The notation of a schema error. -/
def writeSchemaError (error : SchemaError) : Json :=
  .object [("error", .string "schema_invalid"), ("message", .string error.message)]

/-- The notation of a result of parsing. -/
def writeParsed : Except (List Issue) Value → Json
  | .ok value => .object [("ok", writeValue value)]
  | .error issues => .object [("issues", .array (issues.map Issue.toJson))]

end ApiContract.Notation
