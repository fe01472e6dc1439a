import ApiContract.Schema.Basic

/-!
# Schemas as documents

This module writes a schema as a JSON Schema document.  Every node that can reject
a value of itself carries the keyword `errorType`, which names what the node asks
for in the words of an issue.
-/

namespace ApiContract

/-- The kind of JSON value that a literal is. -/
def Literal.typeName : Literal → String
  | .string _ => "string"
  | .number _ => "number"
  | .bool _ => "boolean"

namespace Schema

/-- The document of a plain kind of value. -/
def leafDocument (expected typeName : String) : Json :=
  .object [("errorType", .string expected), ("type", .string typeName)]

/-- The document of a kind of value with a format. -/
def formatDocument (expected format typeName : String) : Json :=
  .object [("errorType", .string expected), ("format", .string format),
    ("type", .string typeName)]

/-- The document of an object with the documents of its fields. -/
def objectDocument (fields : List (String × Json)) (required : List String) (strict : Bool) :
    Json :=
  .object <|
    (if strict then [("additionalProperties", .bool false)] else []) ++
      [("errorType", .string "object"), ("properties", .object (Entries.ofList fields))] ++
      (if required.isEmpty then [] else [("required", .ofStrings required)]) ++
      [("type", .string "object")]

/-- The names of the fields that are not optional. -/
def requiredNames (fields : List (String × Schema)) : List String :=
  (fields.filter fun field => !field.2.isOptional).map Prod.fst

mutual

/-- The document of a schema. -/
def document : Schema → Json
  | .any | .unknown => .object []
  | .null => leafDocument "null" "null"
  | .string => leafDocument "string" "string"
  | .number => leafDocument "number" "number"
  | .integer => leafDocument "integer" "integer"
  | .bigint => formatDocument "bigint" "int64" "integer"
  | .boolean => leafDocument "boolean" "boolean"
  | .date => formatDocument "date" "date-time" "string"
  | .literal value =>
      .object [("const", value.toJson), ("errorType", .string s!"literal {value.text}"),
        ("type", .string value.typeName)]
  | .enumeration values =>
      .object [("enum", .array (values.map Literal.toJson)),
        ("errorType", .string s!"one of [{Literal.listText values}]")]
  | .array items =>
      .object [("errorType", .string "array"), ("items", document items),
        ("type", .string "array")]
  | .object fields strict =>
      objectDocument (fieldDocuments fields) (requiredNames fields) strict
  | .record values =>
      .object [("additionalProperties", document values), ("errorType", .string "object"),
        ("type", .string "object")]
  | .union members => .object [("anyOf", .array (documents members))]
  | .optional inner =>
      .object [("anyOf", .array [document inner, .object [("type", .string "null")]])]
  | .promise resolved => document resolved
  | .function _ _ => .object [("errorType", .string "function"), ("not", .object [])]

/-- The documents of several schemas. -/
def documents : List Schema → List Json
  | [] => []
  | schema :: rest => document schema :: documents rest

/-- The documents of fields. -/
def fieldDocuments : List (String × Schema) → List (String × Json)
  | [] => []
  | (name, schema) :: rest => (name, document schema) :: fieldDocuments rest

end

end Schema

end ApiContract
