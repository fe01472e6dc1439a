import ApiContract.Contract.Compiled
import ApiContract.Exchange.Auth
import ApiContract.Exchange.Cors
import ApiContract.Exchange.Request
import ApiContract.Exchange.Response

/-!
# Stages

A request passes through stages on its way to the handler.  A stage works on the
exchange, which holds the request, the recorded response, the telemetry and the
state of the service, and either passes it on or ends the passage.  This module
holds the stages that every endpoint has.
-/

namespace ApiContract

/-- What is given from outside when a request arrives: an id that no other request
has, and the time. -/
structure Occasion where
  freshId : String
  now : Instant

/-- A request under way, over a service with state of type `State`. -/
structure Exchange (State : Type) where
  request : Request
  response : Response
  telemetry : Telemetry
  state : State
  occasion : Occasion

namespace Exchange

variable {State : Type}

/-- The exchange after a step on the response. -/
def respond (exchange : Exchange State) (op : ResponseOp) : Exchange State :=
  let (response, records) := exchange.response.apply op
  { exchange with response := response, telemetry := exchange.telemetry.logAll records }

/-- The exchange after several steps on the response. -/
def respondAll (exchange : Exchange State) (ops : List ResponseOp) : Exchange State :=
  ops.foldl respond exchange

/-- The exchange with a header set to a text. -/
def setHeader (exchange : Exchange State) (name text : String) : Exchange State :=
  exchange.respond (.setHeader name (.string text))

/-- The exchange with one more log record. -/
def log (exchange : Exchange State) (record : LogRecord) : Exchange State :=
  { exchange with telemetry := exchange.telemetry.log record }

/-- The exchange with one more metric. -/
def count (exchange : Exchange State) (metric : Metric) : Exchange State :=
  { exchange with telemetry := exchange.telemetry.count metric }

end Exchange

/-- Where a passage through stages ends, and the failure that ended it, if any. -/
structure Passage (State : Type) where
  exchange : Exchange State
  failure : Option Failure

namespace Passage

variable {State : Type}

/-- The end of the stages is reached. -/
def done (exchange : Exchange State) : Passage State :=
  ⟨exchange, none⟩

/-- A stage fails. -/
def failed (exchange : Exchange State) (failure : Failure) : Passage State :=
  ⟨exchange, some failure⟩

end Passage

/-- A stage decides whether the rest of the passage takes place. -/
abbrev Stage (State : Type) := (Exchange State → Passage State) → Exchange State → Passage State

/-- What a handler makes of an exchange. -/
structure Handled (State : Type) where
  state : State
  ops : List ResponseOp := []
  failure : Option Failure := none

/-- The end of an endpoint's stages: it reads the exchange, changes the state of the
service and takes steps on the response. -/
abbrev Handler (State : Type) := Exchange State → Handled State

/-- A way to decide on a caller by the text of the authorization header. Whatever strategy
tells whom a credential belongs to, it makes a verdict together with the policy. -/
abbrev Verdict := Option String → Except AuthFailure Principal

/-- The verdict by a table of identities. -/
def AuthPolicy.verdict (policy : AuthPolicy) (identities : Identities) : Verdict := fun header =>
  match header.filter fun header => !Text.isBlankText header with
  | none => .error .missingCredentials
  | some header => do
      let credential ← policy.credential header
      let subject ← identities.authenticate policy.method credential
      policy.allow subject.roles subject.permissions
      .ok ⟨subject.id, subject.roles, subject.permissions⟩

namespace Stage

variable {State : Type}

/-- The passage through several stages. -/
def chain (stages : List (Stage State)) : Exchange State → Passage State :=
  stages.foldr (fun stage next => stage next) Passage.done

/-- Gives the request its correlation id, its own or a fresh one, and names it in
the response. -/
def context : Stage State := fun next exchange =>
  let request := exchange.request
  let correlationId :=
    ((request.header? correlationHeader).filter fun id => !Text.isBlankText id).getD
      exchange.occasion.freshId
  let exchange := exchange.setHeader correlationHeader correlationId
  let context := ⟨correlationId, request.header? idempotencyHeader⟩
  next { exchange with request := { request with context := some context } }

/-- Names what a cross-origin policy allows to the origin of the request. -/
def grantOrigin (policy : CorsPolicy) (exchange : Exchange State) : Exchange State :=
  match policy.allowOrigin (exchange.request.header? "origin") with
  | none => exchange
  | some allowed =>
      let exchange := if allowed = "*" then exchange else exchange.setHeader "vary" "origin"
      let exchange := exchange.setHeader "access-control-allow-origin" allowed
      let exchange :=
        if policy.allowCredentials then
          exchange.setHeader "access-control-allow-credentials" "true"
        else exchange
      if policy.exposedHeaders.isEmpty then exchange
      else
        exchange.setHeader "access-control-expose-headers"
          (", ".intercalate policy.exposedHeaders)

/-- The request asks what a page of another origin may do. -/
def isPreflight (request : Request) : Bool :=
  request.method == "OPTIONS" && (request.header? "access-control-request-method").isSome

/-- Answers the question what a page of another origin may do. -/
def answerPreflight (policy : CorsPolicy) (exchange : Exchange State) : Exchange State :=
  let exchange := exchange.setHeader "access-control-allow-methods" policy.methodsText
  let exchange :=
    exchange.setHeader "access-control-allow-headers"
      (policy.headersText (exchange.request.header? "access-control-request-headers"))
  let exchange :=
    match policy.maxAgeSeconds with
    | some seconds =>
        exchange.setHeader "access-control-max-age" (Text.decimalText seconds)
    | none => exchange
  exchange.respondAll [.setStatus 204, .finish]

/-- Applies a cross-origin policy. The question what is allowed is answered at
once. -/
def cors (policy : CorsPolicy) : Stage State := fun next exchange =>
  let exchange := grantOrigin policy exchange
  if isPreflight exchange.request then .done (answerPreflight policy exchange)
  else next exchange

/-- Attaches the contract to the request. -/
def attach (contract : Contract) : Stage State := fun next exchange =>
  next { exchange with request := { exchange.request with contract := some contract } }

/-- Finds out who a request comes from and whether the policy lets it pass. -/
def identify (policy : AuthPolicy) (identities : Identities) (request : Request) :
    Except AuthFailure Principal :=
  policy.verdict identities (request.header? "authorization")

/-- Lets only those pass whom the policy allows. -/
def auth (policy : AuthPolicy) (identities : Identities) : Stage State := fun next exchange =>
  match identify policy identities exchange.request with
  | .error reason => .failed exchange (.unauthorized reason)
  | .ok principal =>
      next { exchange with request := { exchange.request with principal := some principal } }

/-- Issues as JSON. -/
def issuesJson (issues : List Issue) : Json :=
  .array (issues.map Issue.toJson)

/-- Notes that an invalid request passes. -/
def noteInvalidRequest (contract : Contract) (issues : List Issue) (exchange : Exchange State) :
    Exchange State :=
  (exchange.log {
    level := .warn
    message := s!"{contract.name}: request validation failed"
    details := .object [("contract", .string contract.name),
      ("correlation_id", .string exchange.request.correlationId),
      ("issues", issuesJson issues)] }).count
    ⟨"contract.request.invalid", [("contract", contract.name)]⟩

/-- Converts the request to the shape of the contract, or does with an invalid one
what the contract says. -/
def parse (contract : Contract) (checker : Checker) : Stage State := fun next exchange =>
  match checker.parse exchange.request.input with
  | .ok parsed => next { exchange with request := exchange.request.withInput parsed }
  | .error issues =>
      match contract.options.requestValidation with
      | .error => .failed exchange (.invalidRequest issues)
      | .warning => next (noteInvalidRequest contract issues exchange)
      | .none => next exchange

/-- Runs the handler. -/
def handle (handler : Handler State) : Stage State := fun next exchange =>
  let handled := handler exchange
  let exchange := { exchange with state := handled.state }.respondAll handled.ops
  match handled.failure with
  | some failure => .failed exchange failure
  | none => next exchange

end Stage

end ApiContract
