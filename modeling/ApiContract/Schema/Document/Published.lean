import ApiContract.Schema.Document

/-!
# Published documents

A document is published without the keyword `errorType` and with a constant
written as an enumeration of one value.  Names of properties are not keywords,
whatever they are called.
-/

namespace ApiContract.Json

mutual

/-- The document as it is published. -/
def published : Json → Json
  | .object keywords => .object (Entries.ofList (publishedKeywords keywords))
  | document => document

/-- The keywords of a node as they are published. -/
def publishedKeywords : List (String × Json) → List (String × Json)
  | [] => []
  | (keyword, operand) :: rest =>
      if keyword = "errorType" then publishedKeywords rest
      else if keyword = "const" then ("enum", .array [operand]) :: publishedKeywords rest
      else (keyword, publishedOperand keyword operand) :: publishedKeywords rest

/-- The operand of a keyword as it is published. A keyword that needs an object or
an array of documents gets an empty one instead of anything else. -/
def publishedOperand (keyword : String) : Json → Json
  | .object members =>
      if keyword = "properties" then .object (Entries.ofList (publishedMembers members))
      else if keyword = "anyOf" ∨ keyword = "oneOf" then .array []
      else if keyword = "items" ∨ keyword = "additionalProperties" then
        .object (Entries.ofList (publishedKeywords members))
      else .object members
  | .array items =>
      if keyword = "properties" then .object []
      else if keyword = "anyOf" ∨ keyword = "oneOf" then .array (publishedItems items)
      else .array items
  | operand =>
      if keyword = "properties" then .object []
      else if keyword = "anyOf" ∨ keyword = "oneOf" then .array []
      else operand

/-- The documents of properties as they are published. -/
def publishedMembers : List (String × Json) → List (String × Json)
  | [] => []
  | (name, document) :: rest => (name, published document) :: publishedMembers rest

/-- Several documents as they are published. -/
def publishedItems : List Json → List Json
  | [] => []
  | document :: rest => published document :: publishedItems rest

end

end ApiContract.Json

/-- The published document of a schema. -/
def ApiContract.Schema.publishedDocument (schema : Schema) : Json :=
  schema.document.published
