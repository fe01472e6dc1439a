import ApiContract.Exchange.Telemetry
import ApiContract.Json.Printer
import ApiContract.Value.Json
import ApiContract.Value.MultiValue

/-!
# Responses

A response is a record: a status, headers, and one payload or one stream of
events.  The first answer wins; a later one is dropped with a warning, while
status and headers may still change.
-/

namespace ApiContract

/-- A named item of a stream. -/
structure StreamEvent where
  name : String
  data : Value

/-- What was recorded as the answer to a request. -/
structure Response where
  status : Option Nat := none
  headers : List (String × String) := []
  body : Option Value := none
  events : Option (List StreamEvent) := none
  sent : Bool := false

/-- A step that a stage takes on the response. -/
inductive ResponseOp where
  | setStatus (status : Nat)
  | setHeader (name : String) (value : Value)
  | send (payload : Value)
  /-- Sends what a payload is as JSON and marks it as such, unless the content type is set. A
  payload that has no form as JSON is an error, and nothing is recorded. -/
  | sendJson (payload : Except String Json)
  | finish
  | stream (events : List StreamEvent)

/-- The error that a step ends in instead of taking place. -/
def ResponseOp.error? : ResponseOp → Option String
  | .sendJson (.error reason) => some reason
  | _ => none

namespace Response

/-- The status that was set, or 200. -/
def code (response : Response) : Nat :=
  response.status.getD 200

/-- The text of a header value. -/
def headerText : Value → String
  | .string text => text
  | value => value.text

/-- The texts that a header is set to. -/
def headerTexts : Value → List String
  | .array items => items.map headerText
  | value => [headerText value]

/-- The response with a header in place of earlier ones of its name. -/
def withHeader (response : Response) (name : String) (value : Value) : Response :=
  let name := Text.lowered name
  { response with
    headers := (response.headers.filter fun header => header.1 ≠ name) ++
      (headerTexts value).map fun text => (name, text) }

/-- The first text of a header, its name in any letter case. -/
def header? (response : Response) (name : String) : Option String :=
  response.headers.lookup (Text.lowered name)

/-- The headers as an object in which repeated names have arrays. -/
def headerValue (response : Response) : Value :=
  .object (MultiValue.collect response.headers)

/-- The response is a stream. -/
def isStreaming (response : Response) : Bool :=
  response.events.isSome

/-- The warning that an answer came too late. -/
def tooLate (response : Response) (operation : String) : LogRecord where
  level := .warn
  message := "response already sent; ignoring"
  details := .object [("operation", .string operation), ("status", .ofNat response.code)]

/-- The response after an answer, which only counts when it is the first. -/
def answer (response : Response) (operation : String) (answered : Response → Response) :
    Response × List LogRecord :=
  if response.sent then (response, [response.tooLate operation])
  else ({ answered response with sent := true }, [])

/-- The response marked as JSON, unless its content type is set. -/
def markedAsJson (response : Response) : Response :=
  if (response.header? "content-type").isSome then response
  else response.withHeader "content-type" (.string "application/json")

/-- The response after a step, and the warnings of the step. -/
def apply (response : Response) : ResponseOp → Response × List LogRecord
  | .setStatus status => ({ response with status := some status }, [])
  | .setHeader name value => (response.withHeader name value, [])
  | .send payload =>
      response.answer "send" fun response => { response with body := some payload }
  | .sendJson (.ok payload) =>
      response.markedAsJson.answer "send" fun response =>
        { response with body := some (.ofJson payload) }
  | .sendJson (.error _) => (response, [])
  | .finish => response.answer "end" fun response => response
  | .stream events =>
      response.answer "stream" fun response => { response with events := some events }

/-- The response after several steps, and their warnings in order. -/
def applyAll (response : Response) (ops : List ResponseOp) : Response × List LogRecord :=
  ops.foldl (fun (response, records) op =>
    let (next, more) := response.apply op
    (next, records ++ more)) (response, [])

end Response

/-- The payload of a reply. -/
inductive ReplyBody where
  | empty
  | payload (value : Value)
  | stream (events : List StreamEvent)

/-- A whole answer. -/
structure Reply where
  status : Nat := 200
  headers : List (String × Value) := []
  body : ReplyBody := .empty

namespace Reply

/-- A reply with JSON for its payload, marked as such. There is no reply for a payload that has no
form as JSON. -/
def json (status : Nat) (payload : Json) : Reply where
  status := status
  headers := [("content-type", .string "application/json")]
  body := .payload (.ofJson payload)

/-- The steps that record a reply: status, headers, payload. -/
def ops (reply : Reply) : List ResponseOp :=
  .setStatus reply.status :: reply.headers.map (fun (name, value) => .setHeader name value) ++
    [match reply.body with
      | .empty => .finish
      | .payload value => .send value
      | .stream events => .stream events]

end Reply

/-- What a caller inside the process gets. -/
structure LocalResponse where
  code : Nat
  payload : Json
  headers : List (String × String)

namespace LocalResponse

/-- The first text of a header, its name in any letter case. -/
def header? (response : LocalResponse) (name : String) : Option String :=
  response.headers.lookup (Text.lowered name)

/-- The status is one of success. -/
def isSuccess (response : LocalResponse) : Bool :=
  200 ≤ response.code && response.code < 300

end LocalResponse

/-- An event as JSON. -/
def StreamEvent.toJson (event : StreamEvent) : Json :=
  .object [("data", event.data.toJson), ("event", .string event.name)]

/-- The recorded answer as a caller inside the process gets it; a stream becomes
an array of its events. -/
def Response.toLocal (response : Response) : LocalResponse where
  code := response.code
  headers := response.headers
  payload :=
    match response.events with
    | some events => .array (events.map StreamEvent.toJson)
    | none => (response.body.map Value.toJson).getD .null

end ApiContract
