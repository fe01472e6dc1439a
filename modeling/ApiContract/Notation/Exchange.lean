import ApiContract.Json.Reader
import ApiContract.Notation.Contract
import ApiContract.Routing.Router

/-!
# A notation for exchanges

Requests, steps on responses, failures and the stages of an endpoint can be written
down, so that an endpoint can be set up from a script: a stage takes the steps that
its script lists, and a handler replies as its script says or echoes the request.
-/

namespace ApiContract.Notation

/-- Stream events. -/
def readEvents (events : List Json) : List StreamEvent :=
  events.filterMap fun (event : Json) => match event with
    | .array [.string name, data] => some ⟨name, readValue data⟩
    | _ => none

/-- A step on a response. -/
def readOp? : Json → Option ResponseOp
  | .array [.string "end"] => some .finish
  | .array [.string "status", status] => status.asInt?.map fun status => .setStatus status.toNat
  | .array [.string "send", payload] => some (.send (readValue payload))
  | .array [.string "json", payload] => some (.sendJson (.ok payload))
  | .array [.string "stream", .array events] => some (.stream (readEvents events))
  | .array [.string "header", .string name, value] => some (.setHeader name (readValue value))
  | _ => none

/-- The steps on a response under a key. -/
def ops (json : Json) (key : String) : List ResponseOp :=
  (items json key).filterMap readOp?

/-- A failure. -/
def readFailure (json : Json) : Failure :=
  let detail := (text? json "detail").getD ""
  match (text? json "type").getD "msg" with
  | "request" => .invalidRequest (List.replicate ((nat? json "issues").getD 0) (.at_ "p" "m"))
  | "missing" => .unauthorized .missingCredentials
  | "scheme" => .unauthorized (.schemeMismatch detail)
  | "invalid" => .unauthorized (.invalidCredentials detail)
  | "forbidden" => .unauthorized (.forbidden detail)
  | "json" =>
      match Json.read detail with
      | .error error => .handler error.message []
      | .ok _ => .handler detail []
  | _ =>
      match (texts json "context").reverse with
      | [] => .handler detail []
      | outermost :: causes => .handler outermost (causes ++ [detail])

/-- A request with its headers given as pairs. -/
def readRequest (json : Json) : Request :=
  (pairs json "headers").foldl (fun request (name, text) => request.addHeader name text)
    { method := (text? json "method").getD "GET"
      path := (text? json "path").getD "/"
      params := (value? json "params").getD (.object [])
      query := (value? json "query").getD (.object [])
      body := value json "body" }

/-- A call from inside the process. -/
def readCall (json : Json) : LocalCall where
  params := (value json "params").asObject?.getD []
  query := (value json "query").asObject?.getD []
  headers := pairs json "headers"
  body := value json "body"

/-- Identities by credential. -/
def readIdentities (members : List (String × Json)) : Identities :=
  Entries.mapValues (fun (identity : Json) =>
    { subject := (text? identity "subject").getD ""
      roles := texts identity "roles"
      permissions := texts identity "permissions" }) members

/-- A router. A cross-origin policy that cannot be read is the default one. -/
def readRouter (backend : Backend) (json : Json) : Router where
  basePath := (text? json "base").getD ""
  backend := backend
  cors := (member? json "cors" >>= fun policy => (CorsPolicy.ofJson policy).toOption).getD {}
  identities := (member? json "identities" >>= Json.asObject?).map readIdentities

/-- An array of texts as a value. -/
def textsValue (texts : List String) : Value :=
  .array (texts.map .string)

/-- Everything that a handler sees of a request. -/
def echo (request : Request) : List (String × Value) :=
  [("body", request.body),
    ("contract", Value.ofString? (request.contract.map Contract.name)),
    ("correlation_id", .string request.correlationId),
    ("headers", request.headers),
    ("idempotency_key", Value.ofString? (request.context >>= RequestContext.idempotencyKey)),
    ("method", .string request.method),
    ("params", request.params),
    ("path", .string request.path),
    ("principal",
      match request.principal with
      | none => .null
      | some principal =>
          .object [("permissions", textsValue principal.permissions),
            ("roles", textsValue principal.roles), ("subject", .string principal.subject)]),
    ("query", request.query)]

/-- The steps that a scripted handler takes on the response. -/
def handlerOps (json : Json) (request : Request) : List ResponseOp :=
  let status := (nat? json "status").getD 200
  let headers := namedValues json "headers"
  let reply (body : ReplyBody) : List ResponseOp := (Reply.mk status headers body).ops
  match (text? json "kind").getD "echo" with
  | "reply" => reply (.payload (value json "body"))
  | "json" =>
      let json := Reply.json status ((json.get? "body").getD .null)
      { json with headers := json.headers ++ headers }.ops
  | "empty" => reply .empty
  | "stream" => reply (.stream (readEvents (items json "events")))
  | "ops" => ops json "ops"
  | "fail" => []
  | _ =>
      match text? json "part" with
      | some part => reply (.payload (((echo request).lookup part).getD .null))
      | none => reply (.payload (.object (echo request)))

variable {State : Type}

/-- A scripted handler. It leaves the state of the service alone. -/
def readHandler (json : Json) : Handler State := fun exchange =>
  { state := exchange.state
    ops := handlerOps json exchange.request
    failure := (member? json "error").map readFailure }

/-- The request as a scripted stage hands it on. -/
def changedRequest (json : Json) (request : Request) : Request :=
  let request :=
    match value? json "set_body" with
    | some body => { request with body := body }
    | none => request
  match member? json "add_header" with
  | some (.array [.string name, .string text]) => request.addHeader name text
  | _ => request

/-- A scripted stage. -/
def readStage (json : Json) : Stage State := fun next exchange =>
  let exchange := exchange.respondAll (ops json "before")
  let exchange := { exchange with request := changedRequest json exchange.request }
  match member? json "error" with
  | some failure => .failed exchange (readFailure failure)
  | none =>
      if flag json "halt" then .done exchange
      else
        let passage := next exchange
        let exchange := passage.exchange.respondAll (ops json "after")
        if flag json "swallow" then .done exchange else ⟨exchange, passage.failure⟩

/-- Registers a scripted endpoint; the first argument chooses the router. -/
def register? (router : Router) (registry : Registry State) (json : Json) :
    Option (Except RegistrationFailure (Route State × Registry State)) := do
  let contract ← member? json "contract" >>= readContract?
  let path ← text? json "path"
  some (router.install registry ((text? json "method").getD "GET") path contract
    ((items json "middleware").map readStage) (readHandler ((member? json "handler").getD .null)))

/-- The notation of pairs of texts. -/
def writePairs (pairs : List (String × String)) : Json :=
  .array (pairs.map fun (first, second) => .ofStrings [first, second])

/-- The notation of a log record. -/
def writeLog (record : LogRecord) : Json :=
  .object [("level", .string record.level.name), ("message", .string record.message),
    ("meta", record.details)]

/-- The notation of a metric. -/
def writeMetric (metric : Metric) : Json :=
  .object [("name", .string metric.name), ("tags", writePairs metric.tags)]

/-- A list that is left out when it is empty. -/
def listMember (key : String) (items : List Json) : List (String × Json) :=
  if items.isEmpty then [] else [(key, .array items)]

/-- The notation of telemetry. -/
def writeTelemetry (telemetry : Telemetry) : List (String × Json) :=
  listMember "logs" (telemetry.logs.map writeLog) ++
    listMember "metrics" (telemetry.metrics.map writeMetric)

/-- The notation of a recorded response. -/
def writeResponse (response : Response) : List (String × Json) :=
  [("status", .ofNat response.code), ("sent", .bool response.sent),
    ("streaming", .bool response.isStreaming), ("headers", writePairs response.headers),
    ("header_map", writeValue response.headerValue),
    ("body", writeOption writeValue response.body)]

/-- The notation of what a caller inside the process gets. -/
def writeLocal (response : LocalResponse) : List (String × Json) :=
  [("code", .ofNat response.code), ("response", response.payload),
    ("headers", writePairs response.headers), ("success", .bool response.isSuccess)]

/-- The notation of an authorization failure. -/
def writeAuthFailure (failure : AuthFailure) : Json :=
  let kind :=
    match failure with
    | .missingCredentials => "missing_credentials"
    | .schemeMismatch _ => "scheme_mismatch"
    | .invalidCredentials _ => "invalid_credentials"
    | .forbidden _ => "forbidden"
  .object [("error", .string kind), ("message", .string failure.message),
    ("status", .ofNat failure.status)]

/-- The notation of a caller. -/
def writeSubject (subject : Subject) : Json :=
  .object [("claims", subject.claims), ("id", .string subject.id),
    ("permissions", .ofStrings subject.permissions), ("roles", .ofStrings subject.roles)]

/-- The notation of a registration failure. -/
def writeRegistrationFailure (failure : RegistrationFailure) : Json :=
  let (kind, source) :=
    match failure with
    | .malformedContract _ error => ("compile", some error.message)
    | .duplicateRoute _ _ => ("duplicate", none)
    | .missingAuthStrategy _ => ("missing_auth_strategy", none)
  .object [("error", .string kind), ("message", .string failure.message),
    ("source", Json.ofString? source)]

end ApiContract.Notation
