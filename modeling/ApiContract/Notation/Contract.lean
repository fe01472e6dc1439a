import ApiContract.Contract.Compiled
import ApiContract.Notation.Schema

/-!
# A notation for contracts

A contract is an object with a member for every part that it declares.
-/

namespace ApiContract.Notation

/-- The member of an object, null counting as absent. -/
def member? (json : Json) (key : String) : Option Json :=
  match json.get? key with
  | some .null | none => none
  | some value => some value

/-- The text under a key. -/
def text? (json : Json) (key : String) : Option String :=
  member? json key >>= Json.asString?

/-- The items under a key, none when it is absent. -/
def items (json : Json) (key : String) : List Json :=
  (member? json key >>= Json.asArray?).getD []

/-- The texts under a key. -/
def texts (json : Json) (key : String) : List String :=
  (items json key).filterMap Json.asString?

/-- The number under a key. -/
def nat? (json : Json) (key : String) : Option Nat :=
  (member? json key >>= Json.asInt?).map Int.toNat

/-- The truth value under a key, false when it is absent. -/
def flag (json : Json) (key : String) : Bool :=
  (member? json key >>= Json.asBool?).getD false

/-- The value under a key, if the key is there. -/
def value? (json : Json) (key : String) : Option Value :=
  (json.get? key).map readValue

/-- The value under a key, or null. -/
def value (json : Json) (key : String) : Value :=
  (value? json key).getD .null

/-- The pairs of texts under a key. -/
def pairs (json : Json) (key : String) : List (String × String) :=
  (items json key).filterMap fun (item : Json) => match item with
    | .array [.string first, .string second] => some (first, second)
    | _ => none

/-- The named values under a key. -/
def namedValues (json : Json) (key : String) : List (String × Value) :=
  (items json key).filterMap fun (item : Json) => match item with
    | .array [.string name, value] => some (name, readValue value)
    | _ => none

/-- A way to prove who a caller is. -/
def readMethod? (json : Json) : Option AuthMethod :=
  match text? json "method" with
  | some "jwt" => some .bearer
  | some "basic" => some .basic
  | some "other" => some (.token ((text? json "prefix").getD ""))
  | _ => none

/-- An authorization policy. -/
def readPolicy? (json : Json) : Option AuthPolicy :=
  (readMethod? json).map fun method =>
    { method := method
      allowedRoles := texts json "allow_roles"
      forbiddenRoles := texts json "forbid_roles"
      allowedPermissions := texts json "allow_slugs"
      forbiddenPermissions := texts json "forbid_slugs" }

/-- The mode under a key, `error` when it is absent. -/
def readMode (json : Json) (key : String) : ValidationMode :=
  ((text? json key) >>= fun name =>
    ValidationMode.all.find? fun mode => mode.name = name).getD .error

/-- Options of a contract. -/
def readOptions (json : Json) : ContractOptions :=
  ⟨readMode json "request_validation", readMode json "response_validation"⟩

/-- Things by status. -/
def readByStatus? {α : Type} (read : Json → Option α) (entries : List Json) :
    Option (List (Nat × α)) :=
  entries.mapM fun (entry : Json) => match entry with
    | .array [status, item] => do
        let status ← status.asInt?
        let item ← read item
        some (status.toNat, item)
    | _ => none

/-- A contract changed by the schema under a key, if the key is there. -/
def withPart? (json : Json) (key : String) (change : Contract → Schema → Contract)
    (contract : Contract) : Option Contract :=
  match member? json key with
  | none => some contract
  | some part => (readSchema? part).map (change contract)

/-- A contract. -/
def readContract? (json : Json) : Option Contract := do
  let name ← text? json "name"
  let contract : Contract :=
    { name := name, summary := text? json "summary", description := text? json "description" }
  let contract ← withPart? json "params" Contract.withParams contract
  let contract ← withPart? json "query" Contract.withQuery contract
  let contract ← withPart? json "request_headers" Contract.withRequestHeaders contract
  let contract ← withPart? json "response_headers" Contract.withResponseHeaders contract
  let contract ← withPart? json "body" Contract.withBody contract
  let responses ← readByStatus? readSchema? (items json "responses")
  let contract := responses.foldl (fun (contract : Contract) (status, schema) =>
    contract.withResponse status schema) contract
  let contract ←
    match member? json "auth" with
    | none => some contract
    | some policy => (readPolicy? policy).map contract.withAuth
  some (contract.withOptions (readOptions ((member? json "options").getD .null)))

/-- The notation of options. -/
def writeOptions (options : ContractOptions) : Json :=
  .object [("request_validation", .string options.requestValidation.name),
    ("response_validation", .string options.responseValidation.name)]

end ApiContract.Notation
