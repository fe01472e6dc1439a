import ApiContract.Exchange.Stage
import ApiContract.Routing.Path

/-!
# Routes

A route is a contract at a place: a method and a path.  It takes a request through
its stages, settles what is left open, and afterwards checks the recorded response
against the contract without changing it.
-/

namespace ApiContract

/-- A registered endpoint. -/
structure Route (State : Type) where
  basePath : String
  path : String
  method : String
  contract : Contract
  compiled : CompiledContract
  cors : CorsPolicy
  /-- The policy of the contract and the table that it is applied with. -/
  auth : Option (AuthPolicy × Identities)
  userStages : List (Stage State)
  handler : Handler State

/-- What the check of a response looks at. -/
structure RecordedResponse where
  correlationId : String
  status : Nat
  body : Option Value
  headers : Value

namespace Route

variable {State : Type}

/-- The name of the contract. -/
def name (route : Route State) : String :=
  route.contract.name

/-- The whole path as declared. -/
def fullPath (route : Route State) : String :=
  Routing.joinPaths route.basePath route.path

/-- The whole path in the form that matching uses. -/
def templatePath (route : Route State) : String :=
  Routing.templatePath route.fullPath

/-- The whole path in the form that documents use. -/
def documentPath (route : Route State) : String :=
  Routing.documentPath route.fullPath

/-- The stages before those of the endpoint's own. -/
def builtInStages (route : Route State) : List (Stage State) :=
  [Stage.context, Stage.cors route.cors, Stage.attach route.contract] ++
    (route.auth.map fun (policy, identities) => Stage.auth policy identities).toList ++
    [Stage.parse route.contract route.compiled.request]

/-- All stages in order. -/
def stages (route : Route State) : List (Stage State) :=
  route.builtInStages ++ route.userStages ++ [Stage.handle route.handler]

/-- Records a failure and answers with it, unless an answer is recorded already. -/
def settleFailure (route : Route State) (failure : Failure) (exchange : Exchange State) :
    Exchange State :=
  let correlationId := exchange.request.correlationId
  let exchange :=
    exchange.log {
      level := match failure with
        | .handler _ _ => .error
        | _ => .warn
      message := s!"{route.name} aborted: {failure.fullMessage}"
      details := .object [("contract", .string route.name),
        ("correlation_id", .string correlationId),
        ("issues", Stage.issuesJson failure.issues),
        ("status", .ofNat failure.status)] }
  let exchange :=
    exchange.count ⟨"contract.request.aborted",
      [("contract", route.name), ("status", Text.decimalText failure.status)]⟩
  if exchange.response.sent then exchange
  else
    exchange.respondAll [.setStatus failure.status,
      .send (.string (failure.publicMessage correlationId))]

/-- Answers for an endpoint that recorded no answer. -/
def settleSilence (route : Route State) (exchange : Exchange State) : Exchange State :=
  let correlationId := exchange.request.correlationId
  (exchange.log {
    level := .error
    message := "handler chain completed without sending a response"
    details := .object [("contract", .string route.name),
      ("correlation_id", .string correlationId)] }).respondAll
    [.setStatus 500,
      .send (.string (Failure.withCorrelation "Internal Server Error" correlationId))]

/-- Settles the end of a passage. -/
def settle (route : Route State) (passage : Passage State) : Exchange State :=
  match passage.failure with
  | some failure => route.settleFailure failure passage.exchange
  | none =>
      if passage.exchange.response.sent then passage.exchange
      else route.settleSilence passage.exchange

/-- The exchange with which a request starts. -/
def start (request : Request) (telemetry : Telemetry) (state : State) (occasion : Occasion) :
    Exchange State where
  request := request
  response := {}
  telemetry := telemetry
  state := state
  occasion := occasion

/-- Takes a request through all stages. -/
def execute (route : Route State) (request : Request) (telemetry : Telemetry) (state : State)
    (occasion : Occasion) : Exchange State :=
  route.settle (Stage.chain route.stages (start request telemetry state occasion))

/-- What the check of a response looks at, unless it is not to be checked. -/
def recorded (route : Route State) (exchange : Exchange State) : Option RecordedResponse :=
  if route.contract.options.responseValidation = .none ∨ exchange.response.isStreaming then none
  else
    some {
      correlationId := exchange.request.correlationId
      status := exchange.response.code
      body := exchange.response.body
      headers := exchange.response.headerValue }

/-- The issues of a value under a checker. -/
def issuesOf (checker : Checker) (value : Value) : Option (List Issue) :=
  match checker.parse value with
  | .ok _ => none
  | .error issues => some issues

/-- The record for a body whose status has no schema. -/
def undeclaredStatus (route : Route State) (status : Nat) : LogRecord where
  level := .debug
  message := "no response schema declared for status"
  details := .object [("contract", .string route.name), ("status", .ofNat status)]

/-- Records one failed check of a response. -/
def noteInvalidResponse (route : Route State) (recorded : RecordedResponse)
    (telemetry : Telemetry) (issues : List Issue) : Telemetry :=
  (telemetry.log {
    level := if route.contract.options.responseValidation = .error then .error else .warn
    message := s!"{route.name}: {responseFailureMessage recorded.status issues}"
    details := .object [("contract", .string route.name),
      ("correlation_id", .string recorded.correlationId),
      ("issues", Stage.issuesJson issues),
      ("status", .ofNat recorded.status)] }).count
    ⟨"contract.response.invalid",
      [("contract", route.name), ("status", Text.decimalText recorded.status)]⟩

/-- Checks body and headers of a response against the contract. Only the telemetry
changes. -/
def checkResponse (route : Route State) (recorded : Option RecordedResponse)
    (telemetry : Telemetry) : Telemetry :=
  match recorded with
  | none => telemetry
  | some recorded =>
      let checker? := ByStatus.get? route.compiled.responses recorded.status
      let undeclared :=
        match recorded.body, checker? with
        | some _, none => [route.undeclaredStatus recorded.status]
        | _, _ => []
      let bodyIssues := do issuesOf (← checker?) (← recorded.body)
      let headerIssues := do issuesOf (← route.compiled.responseHeaders) recorded.headers
      (bodyIssues.toList ++ headerIssues.toList).foldl (route.noteInvalidResponse recorded)
        (telemetry.logAll undeclared)

/-- Takes a request through all stages and checks the response. -/
def dispatch (route : Route State) (request : Request) (telemetry : Telemetry) (state : State)
    (occasion : Occasion) : Exchange State :=
  let exchange := route.execute request telemetry state occasion
  { exchange with
    telemetry := route.checkResponse (route.recorded exchange) exchange.telemetry }

/-- Answers an OPTIONS request that the route does not handle itself. -/
def answerOptions (route : Route State) (request : Request) (telemetry : Telemetry)
    (state : State) (occasion : Occasion) : Exchange State :=
  let passage :=
    Stage.chain [Stage.context, Stage.cors route.cors] (start request telemetry state occasion)
  let exchange :=
    match passage.failure with
    | some failure => route.settleFailure failure passage.exchange
    | none => passage.exchange
  if exchange.response.sent then exchange
  else exchange.respondAll [.setStatus 204, .finish]

end Route

end ApiContract
