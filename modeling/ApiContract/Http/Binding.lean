import ApiContract.Exchange.Request
import ApiContract.Http.Message
import ApiContract.Json.Reader

/-!
# Requests from the wire and responses to it

An arriving request becomes the request that an endpoint sees: its body is JSON or
else text, headers and query parameters that repeat a name become arrays.  A
recorded response becomes a message: text of a type that is not JSON travels as it
is, a stream as events, anything else as JSON.
-/

namespace ApiContract.Http

/-- What a body says: nothing, JSON, or text. -/
def bodyValue (bytes : List UInt8) : Value :=
  if bytes.isEmpty then .null
  else
    match Text.ofUtf8? bytes with
    | none => .string (Text.ofUtf8Lossy bytes)
    | some text =>
        match Json.read text with
        | .ok json => .ofJson json
        | .error _ => .string text

/-- Query parameters as an object. -/
def queryValue (pairs : List (String × String)) : Value :=
  .object (MultiValue.collect pairs)

namespace WireRequest

/-- The request that an endpoint sees when only method, path and headers count. -/
def bare (request : WireRequest) : Request :=
  (request.headers.filter fun header => isVisibleText header.2).foldl
    (fun bare (name, text) => bare.addHeader name text)
    { method := request.method, path := request.path }

/-- The request that an endpoint sees, given the parameters of the path and of the query. -/
def toRequest (request : WireRequest) (params query : List (String × String)) : Request :=
  { request.bare with
    params := .object (Entries.ofList (params.map fun (name, text) => (name, .string text)))
    query := queryValue query
    body := bodyValue request.body }

end WireRequest

namespace WireResponse

/-- Strings under this content type travel as they are. -/
def isTextual (contentType : Option String) : Bool :=
  match contentType with
  | none => false
  | some contentType => !Text.occursIn "json".toList (Text.lowered contentType).toList

/-- The message of a payload, before the recorded headers. -/
def ofPayload (contentType : Option String) : Option Value → WireResponse
  | none => {}
  | some (.string text) =>
      if isTextual contentType then page "text/plain; charset=utf-8" text
      else page "application/json" (Value.string text).toJson.compact
  | some payload => page "application/json" payload.toJson.compact

/-- The message of a stream, before the recorded headers. -/
def ofEvents (events : List StreamEvent) : WireResponse where
  headers := [("content-type", "text/event-stream"), ("cache-control", "no-cache")]
  body := .events events

/-- A status that can travel. -/
def wireStatus (status : Nat) : Nat :=
  if 100 ≤ status ∧ status ≤ 999 then status else 500

/-- The message of a recorded response. Headers that cannot travel are left out, the
others stand in place of the message's own. -/
def ofResponse (response : Response) : WireResponse :=
  let message :=
    match response.events with
    | some events => ofEvents events
    | none => ofPayload (response.header? "content-type") response.body
  let headers := response.headers.filter fun (name, text) => isWireName name && isWireValue text
  { message.withHeaders headers with status := wireStatus response.code }

end WireResponse

end ApiContract.Http
