import ApiContract.Http.Status
import ApiContract.Json.Printer
import ApiContract.OpenApi.SchemaObject
import ApiContract.Routing.Route
import ApiContract.Schema.Document.Published
import ApiContract.Text.Sha256

/-!
# OpenAPI documents

This module describes registered routes as an OpenAPI document: an operation for
every route whose method such a document knows, found under the route's path and
method.  Of two operations at one place the first stays.
-/

namespace ApiContract.OpenApi

/-- What a document says about itself. -/
structure Info where
  title : String := "Contract API"
  version : String := "0.1.0"
  description : Option String := none
  deriving DecidableEq

/-- Where a parameter stands. -/
inductive Location where
  | path
  | query
  | header
  deriving DecidableEq

/-- The name of a location. -/
def Location.name : Location → String
  | .path => "path"
  | .query => "query"
  | .header => "header"

/-- A parameter of an operation. -/
structure Parameter where
  name : String
  location : Location
  required : Bool
  schema : SchemaObject

/-- The body that an operation takes. -/
structure RequestBody where
  required : Bool
  schema : SchemaObject

/-- An answer of an operation. -/
structure ResponseObject where
  description : String
  headers : Entries SchemaObject
  schema : SchemaObject

/-- How the callers of an operation prove who they are. -/
inductive SecurityScheme where
  | apiKey
  | basic
  | bearer
  deriving DecidableEq

/-- What a document says about one route. -/
structure Operation where
  tag : String
  summary : Option String
  description : Option String
  id : String
  parameters : List Parameter
  requestBody : Option RequestBody
  responses : Entries ResponseObject
  security : Option SecurityScheme

/-- A described API. -/
structure Document where
  info : Info
  /-- The operations of every path by method, in the order in which methods print. -/
  paths : Entries (List (String × Operation))
  securitySchemes : List SecurityScheme
  tags : List String

/-- The methods that a document knows, in the order in which they print. -/
def knownMethods : List String :=
  ["GET", "PUT", "POST", "DELETE", "OPTIONS", "HEAD", "PATCH", "TRACE"]

/-- The published schema of a part of a message. -/
def schemaObject (schema : Schema) : SchemaObject :=
  .ofJson schema.publishedDocument

/-- A parameter. Being optional shows in its presence, not in its schema. -/
def parameter (location : Location) (required : Bool) (name : String) (schema : Schema) :
    Parameter where
  name := name
  location := location
  required := required
  schema := schemaObject schema.withoutOptional

/-- The fields of a part of a message that is an object. -/
def fieldsOf (part : Option Schema) : List (String × Schema) :=
  (part >>= Schema.fields?).getD []

/-- The parameters of a path: first those that are not declared, then the declared. -/
def pathParameters (path : String) (contract : Contract) : List Parameter :=
  let declared := fieldsOf contract.params
  let undeclared :=
    (Routing.paramNames path).filter fun name => !(declared.map Prod.fst).contains name
  undeclared.map (fun name => parameter .path true name .string) ++
    declared.map fun (name, schema) => parameter .path true name schema

/-- The parameters of a part of a message. One that is optional is not required. -/
def partParameters (location : Location) (part : Option Schema) : List Parameter :=
  (fieldsOf part).map fun (name, schema) => parameter location (!schema.isOptional) name schema

/-- The answer under a status. Headers are listed with declared answers only. -/
def responseObject (contract : Contract) (status : Nat) (schema : Schema) : ResponseObject where
  description := (Http.reasonPhrase? status).getD "Response"
  headers :=
    if (ByStatus.get? contract.responses status).isSome then
      Entries.ofList ((fieldsOf contract.responseHeaders).map fun (name, schema) =>
        (name, schemaObject schema))
    else []
  schema := schemaObject schema

/-- The scheme of an authorization method. -/
def SecurityScheme.ofMethod : AuthMethod → SecurityScheme
  | .bearer => .bearer
  | .basic => .basic
  | .token _ => .apiKey

/-- The operation of a route. -/
def operation {State : Type} (route : Route State) : Operation where
  tag := route.basePath
  summary := route.contract.summary
  description := route.contract.description
  id := route.name
  parameters :=
    pathParameters route.fullPath route.contract ++
      partParameters .query route.contract.query ++
      partParameters .header route.contract.requestHeaders
  requestBody := route.contract.body.map fun body => ⟨!body.isOptional, schemaObject body⟩
  responses :=
    Entries.ofList (route.compiled.responses.map fun (status, checker) =>
      (Text.decimalText status, responseObject route.contract status checker.schema))
  security := route.contract.auth.map fun policy => .ofMethod policy.method

/-- Whether one known method prints before another. -/
def methodBefore (left right : String) : Bool :=
  knownMethods.idxOf left < knownMethods.idxOf right

/-- The operations of a path with one more under a method, unless there is one. -/
def insertOperation (method : String) (added : Operation) :
    List (String × Operation) → List (String × Operation)
  | [] => [(method, added)]
  | (other, existing) :: rest =>
      if method = other then (other, existing) :: rest
      else if methodBefore method other then (method, added) :: (other, existing) :: rest
      else (other, existing) :: insertOperation method added rest

/-- The paths with one more operation. -/
def addOperation (paths : Entries (List (String × Operation))) (path method : String)
    (added : Operation) : Entries (List (String × Operation)) :=
  Entries.insert path (insertOperation method added ((Entries.get? paths path).getD [])) paths

/-- A list of texts in order, each once. -/
def sortedTexts (texts : List String) : List String :=
  Entries.keys (Entries.ofList (texts.map fun text => (text, ())))

/-- The document of routes. -/
def describe {State : Type} (info : Info) (routes : List (Route State)) : Document :=
  let known := routes.filter fun route => knownMethods.contains route.method
  let used := known.filterMap fun route =>
    route.contract.auth.map fun policy => SecurityScheme.ofMethod policy.method
  { info := info
    paths := known.foldl (fun paths route =>
      addOperation paths route.documentPath route.method (operation route)) []
    securitySchemes := [.apiKey, .basic, .bearer].filter used.contains
    tags := sortedTexts (known.map Route.basePath) }

/-- A member with a text that is left out when absent. -/
def textMember (key : String) (text : Option String) : List (String × Json) :=
  SchemaObject.optionalMember key (text.map .string)

/-- The content of a message with the given schema. -/
def contentJson (schema : SchemaObject) : Json :=
  .object [("application/json", .object [("schema", schema.toJson)])]

namespace SecurityScheme

/-- The name of a scheme. -/
def name : SecurityScheme → String
  | .apiKey => "apiKey"
  | .basic => "basic"
  | .bearer => "bearer"

/-- The scheme as JSON. -/
def toJson : SecurityScheme → Json
  | .apiKey =>
      .object [("type", .string "apiKey"), ("in", .string "header"),
        ("name", .string "Authorization")]
  | .basic => .object [("type", .string "http"), ("scheme", .string "basic")]
  | .bearer =>
      .object [("type", .string "http"), ("scheme", .string "bearer"),
        ("bearerFormat", .string "JWT")]

end SecurityScheme

/-- The parameter as JSON. -/
def Parameter.toJson (parameter : Parameter) : Json :=
  .object [("name", .string parameter.name), ("in", .string parameter.location.name),
    ("required", .bool parameter.required), ("schema", parameter.schema.toJson)]

/-- The body as JSON. -/
def RequestBody.toJson (body : RequestBody) : Json :=
  .object (("content", contentJson body.schema) ::
    if body.required then [("required", .bool true)] else [])

/-- The answer as JSON. -/
def ResponseObject.toJson (response : ResponseObject) : Json :=
  .object <|
    ("description", .string response.description) ::
      SchemaObject.nonEmptyMember "headers" response.headers
        (.object (Entries.mapValues (fun (schema : SchemaObject) =>
          .object [("schema", schema.toJson)]) response.headers)) ++
      [("content", contentJson response.schema)]

/-- The operation as JSON. -/
def Operation.toJson (operation : Operation) : Json :=
  .object <|
    ("tags", .ofStrings [operation.tag]) ::
      textMember "summary" operation.summary ++
      textMember "description" operation.description ++
      [("operationId", .string operation.id)] ++
      SchemaObject.nonEmptyMember "parameters" operation.parameters
        (.array (operation.parameters.map Parameter.toJson)) ++
      SchemaObject.optionalMember "requestBody" (operation.requestBody.map RequestBody.toJson) ++
      [("responses", .object (Entries.mapValues ResponseObject.toJson operation.responses))] ++
      SchemaObject.optionalMember "security" (operation.security.map fun scheme =>
        .array [.object [(scheme.name, .array [])]])

/-- The information as JSON. -/
def Info.toJson (info : Info) : Json :=
  .object (("title", .string info.title) :: textMember "description" info.description ++
    [("version", .string info.version)])

/-- The operations of a path as JSON. -/
def operationsJson (operations : List (String × Operation)) : Json :=
  .object (operations.map fun (method, operation) => (Text.lowered method, operation.toJson))

namespace Document

/-- The document as JSON. -/
def toJson (document : Document) : Json :=
  .object [("openapi", .string "3.1.0"), ("info", document.info.toJson),
    ("paths", .object (Entries.mapValues operationsJson document.paths)),
    ("components", .object <|
      SchemaObject.nonEmptyMember "securitySchemes" document.securitySchemes
        (.object (document.securitySchemes.map fun scheme => (scheme.name, scheme.toJson)))),
    ("tags", .array (document.tags.map fun tag => .object [("name", .string tag)]))]

/-- The digest of the document's compact text. -/
def hash (document : Document) : String :=
  Text.Sha256.digest (Text.utf8Bytes document.toJson.compact)

end Document

end ApiContract.OpenApi
