import ApiContract.Contract.Basic
import ApiContract.Schema.Backend

/-!
# Compiled contracts

A contract is compiled once, when its endpoint is registered.  The parts of a
request become one object schema; the responses are the declared ones together
with plain text for the statuses that every endpoint can answer with.
-/

namespace ApiContract

namespace Contract

/-- The statuses that every endpoint can answer with. -/
def errorStatuses : List Nat := [400, 401, 403, 404, 500]

/-- The parts of a request that the contract declares. -/
def requestFields (contract : Contract) : List (String × Schema) :=
  [("params", contract.params), ("headers", contract.requestHeaders),
    ("query", contract.query), ("body", contract.body)].filterMap
      fun (name, part) => part.map fun schema => (name, schema)

/-- The schema of a whole request. -/
def requestSchema (contract : Contract) : Schema :=
  .ofFields contract.requestFields

/-- The schemas of all responses. A declared one wins over plain text. -/
def responseSchemas (contract : Contract) : ByStatus Schema :=
  contract.responses.foldl (fun listed (status, schema) => ByStatus.insert status schema listed)
    (errorStatuses.map fun status => (status, .string))

end Contract

/-- The checkers of a contract. -/
structure CompiledContract where
  request : Checker
  responses : ByStatus Checker
  responseHeaders : Option Checker

/-- Compiles a list of schemas by status. -/
def ByStatus.compile (backend : Backend) (schemas : ByStatus Schema) :
    Except SchemaError (ByStatus Checker) :=
  schemas.mapM fun (status, schema) => do
    let checker ← Checker.compile backend schema
    pure (status, checker)

/-- Compiles a contract. The first fault is that of the request, then that of the
responses by status, then that of the response headers. -/
def Contract.compile (backend : Backend) (contract : Contract) :
    Except SchemaError CompiledContract := do
  let request ← Checker.compile backend contract.requestSchema
  let responses ← ByStatus.compile backend contract.responseSchemas
  let responseHeaders ← contract.responseHeaders.mapM (Checker.compile backend)
  pure { request, responses, responseHeaders }

end ApiContract
