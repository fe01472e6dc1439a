import ApiContract.Schema.Basic

/-!
# Contracts

A contract describes one endpoint: what it takes, what it answers, who may call it
and how strictly its messages are checked.  Names of headers ignore letter case,
so a contract declares them in lower case.
-/

namespace ApiContract

/-- What a message that does not fit its contract leads to. -/
inductive ValidationMode where
  | error
  | warning
  | none
  deriving DecidableEq

/-- The name of a mode. -/
def ValidationMode.name : ValidationMode → String
  | .error => "error"
  | .warning => "warning"
  | .none => "none"

/-- All modes. -/
def ValidationMode.all : List ValidationMode :=
  [.error, .warning, .none]

/-- How strictly requests and responses are checked. -/
structure ContractOptions where
  requestValidation : ValidationMode := .error
  responseValidation : ValidationMode := .error
  deriving DecidableEq

/-- How a caller proves who it is. -/
inductive AuthMethod where
  | bearer
  | basic
  /-- A credential after a word of the contract's choice. -/
  | token (word : String)
  deriving DecidableEq

/-- What stands before the credential, with the blank between them. -/
def AuthMethod.scheme : AuthMethod → String
  | .bearer => "Bearer "
  | .basic => "Basic "
  | .token word => word ++ " "

/-- Who may call an endpoint. An empty list of what is allowed allows everyone. -/
structure AuthPolicy where
  method : AuthMethod
  allowedRoles : List String := []
  forbiddenRoles : List String := []
  allowedPermissions : List String := []
  forbiddenPermissions : List String := []
  deriving DecidableEq

/-- Things listed by status code, in ascending order. -/
abbrev ByStatus (α : Type) := List (Nat × α)

namespace ByStatus

variable {α : Type}

/-- What is listed under a status. -/
def get? (listed : ByStatus α) (status : Nat) : Option α :=
  listed.lookup status

/-- The list with one more, which replaces what was listed under its status. -/
def insert (status : Nat) (value : α) : ByStatus α → ByStatus α
  | [] => [(status, value)]
  | (other, existing) :: rest =>
      if status < other then (status, value) :: (other, existing) :: rest
      else if status = other then (status, value) :: rest
      else (other, existing) :: insert status value rest

end ByStatus

/-- The declared header names of an object schema in lower case, also under an
optional one. -/
def Schema.withLoweredNames : Schema → Schema
  | .object fields strict =>
      .object (fields.map fun (name, schema) => (Text.lowered name, schema)) strict
  | .optional inner => .optional inner.withLoweredNames
  | schema => schema

/-- The description of one endpoint. A part left out is not checked. -/
structure Contract where
  name : String
  summary : Option String := none
  description : Option String := none
  params : Option Schema := none
  query : Option Schema := none
  requestHeaders : Option Schema := none
  responseHeaders : Option Schema := none
  body : Option Schema := none
  responses : ByStatus Schema := []
  auth : Option AuthPolicy := none
  options : ContractOptions := {}

namespace Contract

/-- The contract with the given path parameters. -/
def withParams (contract : Contract) (schema : Schema) : Contract :=
  { contract with params := some schema }

/-- The contract with the given query parameters. -/
def withQuery (contract : Contract) (schema : Schema) : Contract :=
  { contract with query := some schema }

/-- The contract with the given request headers. -/
def withRequestHeaders (contract : Contract) (schema : Schema) : Contract :=
  { contract with requestHeaders := some schema.withLoweredNames }

/-- The contract with the given response headers. -/
def withResponseHeaders (contract : Contract) (schema : Schema) : Contract :=
  { contract with responseHeaders := some schema.withLoweredNames }

/-- The contract with the given request body. -/
def withBody (contract : Contract) (schema : Schema) : Contract :=
  { contract with body := some schema }

/-- The contract with a response under a status, in place of an earlier one. -/
def withResponse (contract : Contract) (status : Nat) (schema : Schema) : Contract :=
  { contract with responses := ByStatus.insert status schema contract.responses }

/-- The contract open only to callers that satisfy a policy. -/
def withAuth (contract : Contract) (policy : AuthPolicy) : Contract :=
  { contract with auth := some policy }

/-- The contract with the given strictness. -/
def withOptions (contract : Contract) (options : ContractOptions) : Contract :=
  { contract with options := options }

end Contract

end ApiContract
