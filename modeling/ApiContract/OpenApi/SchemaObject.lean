import ApiContract.Json.Basic

/-!
# Schema objects

The schemas of an OpenAPI document in the form in which the document prints them:
keywords in a fixed order, absent ones left out.
-/

namespace ApiContract.OpenApi

/-- A schema of an OpenAPI document. -/
inductive SchemaObject where
  | anyOf (members : List SchemaObject)
  | oneOf (members : List SchemaObject)
  | array (items : SchemaObject)
  /-- A node that is neither a choice nor an array. Without a type name, any type is
  meant. -/
  | plain (typeName : Option String) (format : Option String) (description : Option String)
      (values : Option (List Json)) (required : List String)
      (properties : List (String × SchemaObject)) (openness : Option Bool)
      (additional : Option SchemaObject)

namespace SchemaObject

/-- An object about which nothing else is said. -/
def bare : SchemaObject :=
  .plain (some "object") none none none [] [] none none

/-- A member that is left out when absent. -/
def optionalMember (key : String) (value : Option Json) : List (String × Json) :=
  (value.map fun value => (key, value)).toList

/-- A member that is left out when empty. -/
def nonEmptyMember {α : Type} (key : String) (items : List α) (value : Json) :
    List (String × Json) :=
  if items.isEmpty then [] else [(key, value)]

mutual

/-- The schema as JSON. -/
def toJson : SchemaObject → Json
  | .anyOf members => .object [("anyOf", .array (listToJson members))]
  | .oneOf members => .object [("oneOf", .array (listToJson members))]
  | .array items => .object [("type", .string "array"), ("items", toJson items)]
  | .plain typeName format description values required properties openness additional =>
      .object <|
        optionalMember "type" (typeName.map .string) ++
          optionalMember "format" (format.map .string) ++
          optionalMember "description" (description.map .string) ++
          optionalMember "enum" (values.map .array) ++
          nonEmptyMember "required" required (.ofStrings required) ++
          nonEmptyMember "properties" properties (.object (propertiesToJson properties)) ++
          optionalMember "additionalProperties"
            ((openness.map .bool).or (optionToJson additional))

/-- The schemas as JSON. -/
def listToJson : List SchemaObject → List Json
  | [] => []
  | schema :: rest => toJson schema :: listToJson rest

/-- The properties as JSON members. -/
def propertiesToJson : List (String × SchemaObject) → List (String × Json)
  | [] => []
  | (name, schema) :: rest => (name, toJson schema) :: propertiesToJson rest

/-- The schema as JSON, if there is one. -/
def optionToJson : Option SchemaObject → Option Json
  | none => none
  | some schema => some (toJson schema)

end

/-- What the operand of a keyword is read as. -/
inductive Operand where
  | several (members : List SchemaObject)
  | single (item : SchemaObject)
  | named (members : List (String × SchemaObject))
  | other (json : Json)

namespace Operand

/-- The schemas of a list of documents. -/
def schemas? : Operand → Option (List SchemaObject)
  | .several members => some members
  | _ => none

/-- The schema of a single document. -/
def schema? : Operand → Option SchemaObject
  | .single item => some item
  | _ => none

/-- The schemas of named documents. -/
def properties? : Operand → Option (List (String × SchemaObject))
  | .named members => some members
  | _ => none

/-- The JSON of any other operand. -/
def plain? : Operand → Option Json
  | .other json => some json
  | _ => none

end Operand

/-- The type names that a document may use. Other names stand for any type. -/
def knownTypes : List String :=
  ["object", "string", "integer", "number", "boolean", "null"]

/-- What is said about a schema that only a callable has. -/
def callableDescription : String :=
  "callable; has no serialized form"

/-- The schema with the given keywords. A choice comes before a type, and of a
choice and an array everything else is dropped. -/
def ofOperands (operands : Entries Operand) : SchemaObject :=
  let operand? (keyword : String) : Option Operand := Entries.get? operands keyword
  let plain? (keyword : String) : Option Json := operand? keyword >>= Operand.plain?
  match operand? "anyOf" >>= Operand.schemas?, operand? "oneOf" >>= Operand.schemas? with
  | some members, _ => .anyOf members
  | none, some members => .oneOf members
  | none, none =>
      let typeName := plain? "type" >>= Json.asString?
      if typeName = some "array" then
        .array ((operand? "items" >>= Operand.schema?).getD bare)
      else
        .plain
          (typeName.filter knownTypes.contains)
          (plain? "format" >>= Json.asString?)
          (if (operand? "not").isSome then some callableDescription else none)
          (plain? "enum" >>= Json.asArray?)
          (((plain? "required" >>= Json.asArray?).getD []).filterMap Json.asString?)
          ((operand? "properties" >>= Operand.properties?).getD [])
          (plain? "additionalProperties" >>= Json.asBool?)
          (operand? "additionalProperties" >>= Operand.schema?)

mutual

/-- The schema of a document. Anything but an object stands for a bare object. -/
def ofJson : Json → SchemaObject
  | .object keywords => ofOperands (operandsOf keywords)
  | _ => bare

/-- The operands of the keywords of a node. -/
def operandsOf : List (String × Json) → List (String × Operand)
  | [] => []
  | (keyword, operand) :: rest => (keyword, operandOf keyword operand) :: operandsOf rest

/-- The operand of a keyword, read as the keyword asks. -/
def operandOf (keyword : String) : Json → Operand
  | .object members =>
      if keyword = "items" ∨ keyword = "additionalProperties" then
        .single (ofOperands (operandsOf members))
      else if keyword = "properties" then .named (propertiesOf members)
      else .other (.object members)
  | .array items =>
      if keyword = "anyOf" ∨ keyword = "oneOf" then .several (listOf items)
      else .other (.array items)
  | operand => .other operand

/-- The schemas of properties. -/
def propertiesOf : List (String × Json) → List (String × SchemaObject)
  | [] => []
  | (name, document) :: rest => (name, ofJson document) :: propertiesOf rest

/-- The schemas of several documents. -/
def listOf : List Json → List SchemaObject
  | [] => []
  | document :: rest => ofJson document :: listOf rest

end

end SchemaObject

end ApiContract.OpenApi
