import ApiContract.Contract.Basic
import ApiContract.Value.MultiValue

/-!
# Requests

A request as the stages of an endpoint see it.  Its parts are values, so that a
request over the network and a call inside the process look alike.
-/

namespace ApiContract

/-- The header that ties together what belongs to one request. -/
def correlationHeader : String := "x-correlation-id"

/-- The header by which a caller marks a repeated attempt. -/
def idempotencyHeader : String := "idempotency-key"

/-- What is established about a request before anything else. -/
structure RequestContext where
  correlationId : String
  idempotencyKey : Option String
  deriving DecidableEq

/-- Who a request comes from. -/
structure Principal where
  subject : String
  roles : List String
  permissions : List String
  deriving DecidableEq

/-- A request to an endpoint. -/
structure Request where
  method : String
  path : String
  params : Value := .object []
  query : Value := .object []
  headers : Value := .object []
  body : Value := .null
  context : Option RequestContext := none
  contract : Option Contract := none
  principal : Option Principal := none

namespace Request

/-- The request with one more header. Headers that are no object give way. -/
def addHeader (request : Request) (name text : String) : Request :=
  let members := request.headers.asObject?.getD []
  { request with headers := .object (MultiValue.add members (Text.lowered name) text) }

/-- The first text of a header, its name in any letter case. -/
def header? (request : Request) (name : String) : Option String :=
  request.headers.get? (Text.lowered name) >>= MultiValue.first?

/-- The correlation id, once the request has one. -/
def correlationId (request : Request) : String :=
  match request.context with
  | some context => context.correlationId
  | none => "unknown"

/-- The parts of the request that a contract speaks about. -/
def input (request : Request) : Value :=
  .object [("body", request.body), ("headers", request.headers), ("params", request.params),
    ("query", request.query)]

/-- The request with its parts replaced by those of a parsed input. -/
def withInput (request : Request) (parsed : Value) : Request :=
  { request with
    params := (parsed.get? "params").getD request.params
    headers := (parsed.get? "headers").getD request.headers
    query := (parsed.get? "query").getD request.query
    body := (parsed.get? "body").getD request.body }

end Request

end ApiContract
