import ApiContract.Proofs.Exchange.FirstAnswer
import ApiContract.Proofs.Routing.Decision

/-!
# Requests to a service

A service takes one request after the other; each finds the state and the telemetry that
those before it left.  Many endpoints have no stages of their own, check requests strictly
and answer with one reply.  This module says in which three ways a request to such an
endpoint ends, and what the reply makes of the response.
-/

namespace ApiContract

variable {State : Type}

/-! ## One request after the other -/

/-- A request that comes to a route. -/
structure Arrival (State : Type) where
  route : Route State
  request : Request
  occasion : Occasion

/-- What requests leave to those after them. -/
structure Service (State : Type) where
  telemetry : Telemetry := {}
  state : State

namespace Service

/-- The exchange of a request. -/
def answer (service : Service State) (arrival : Arrival State) : Exchange State :=
  arrival.route.dispatch arrival.request service.telemetry service.state arrival.occasion

/-- The service after a request. -/
def after (service : Service State) (arrival : Arrival State) : Service State where
  telemetry := (service.answer arrival).telemetry
  state := (service.answer arrival).state

/-- The service after several requests. -/
def afterAll (service : Service State) (arrivals : List (Arrival State)) : Service State :=
  arrivals.foldl after service

/-- What each of some requests keeps, all of them keep. -/
theorem afterAll_keeps {property : Service State → Prop} {arrivals : List (Arrival State)}
    (kept : ∀ arrival ∈ arrivals, ∀ service, property service → property (service.after arrival))
    {service : Service State} (holds : property service) :
    property (service.afterAll arrivals) := by
  induction arrivals generalizing service with
  | nil => exact holds
  | cons arrival rest ih =>
      rcases List.forall_mem_cons.mp kept with ⟨first, others⟩
      exact ih others (first service holds)

end Service

/-! ## Checks of responses -/

/-- The name of the metric that counts responses that do not fit their contract. -/
def misfitMetric : String := "contract.response.invalid"

/-- The counts of responses that do not fit their contract. -/
def Telemetry.misfits (telemetry : Telemetry) : List Metric :=
  telemetry.metrics.filter fun metric => metric.name = misfitMetric

theorem Telemetry.misfits_count {metric : Metric} (other : metric.name ≠ misfitMetric)
    (telemetry : Telemetry) : (telemetry.count metric).misfits = telemetry.misfits := by
  rw [misfits, count, List.filter_append, List.filter_singleton, misfits]
  simp [other]

/-- A response that does not fit is counted. -/
theorem Route.misfits_noteInvalidResponse (route : Route State) (recorded : RecordedResponse)
    (telemetry : Telemetry) (issues : List Issue) :
    (route.noteInvalidResponse recorded telemetry issues).misfits =
      telemetry.misfits ++ [⟨misfitMetric,
        [("contract", route.name), ("status", Text.decimalText recorded.status)]⟩] := by
  rw [noteInvalidResponse, Telemetry.misfits, Telemetry.count, List.filter_append]
  rfl

namespace Route

variable {route : Route State} {recorded : RecordedResponse} {telemetry : Telemetry}

/-- The check of a body records the body if it does not fit, and else nothing. -/
theorem checkResponse_of_checker {checker : Checker} {value : Value}
    (noHeaders : route.compiled.responseHeaders = none)
    (listed : ByStatus.get? route.compiled.responses recorded.status = some checker)
    (body : recorded.body = some value) :
    route.checkResponse (some recorded) telemetry =
      match checker.parse value with
      | .ok _ => telemetry
      | .error issues => route.noteInvalidResponse recorded telemetry issues := by
  have nothing : telemetry.logAll [] = telemetry := by simp [Telemetry.logAll]
  rw [checkResponse, listed, body, noHeaders]
  cases parsed : checker.parse value <;> simp [issuesOf, parsed, nothing]

theorem checkResponse_of_noBody (noHeaders : route.compiled.responseHeaders = none)
    (noBody : recorded.body = none) :
    route.checkResponse (some recorded) telemetry = telemetry := by
  rw [checkResponse, noBody, noHeaders]
  cases ByStatus.get? route.compiled.responses recorded.status <;> simp [Telemetry.logAll]

end Route

/-! ## Replies -/

/-- The response in which a reply is recorded. -/
def Reply.recorded (reply : Reply) (headers : List (String × String)) : Response where
  status := some reply.status
  headers := headers
  body := reply.body.payload?
  events := reply.body.events?
  sent := true

namespace Exchange

variable {exchange : Exchange State}

/-- A reply to an exchange without an answer is recorded as it is, without a warning. -/
theorem respondAll_ops (reply : Reply) (unsent : exchange.response.sent = false)
    (noBody : exchange.response.body = none) (noStream : exchange.response.events = none) :
    ∃ headers, exchange.respondAll reply.ops =
      { exchange with response := reply.recorded headers } := by
  let started : Exchange State :=
    { exchange with response := { exchange.response with status := some reply.status } }
  have status : exchange.respond (.setStatus reply.status) = started := by
    simp [respond, Response.apply, Telemetry.logAll, started]
  rcases sameButHeaders_setHeaders started reply.headers with ⟨headers, same⟩
  refine ⟨headers, ?_⟩
  rw [respondAll, Reply.ops, List.cons_append, List.foldl_cons, status, List.foldl_append]
  rw [setHeaders, respondAll] at same
  rw [same]
  rcases reply with ⟨code, _, body⟩
  cases body <;>
    simp [started, withHeaders, respond, Response.apply, Response.answer, unsent, noBody, noStream,
      Telemetry.logAll, Reply.recorded, ReplyBody.payload?, ReplyBody.events?]

end Exchange

/-! ## The ends of a request -/

namespace Route

variable {route : Route State} {request : Request} {telemetry : Telemetry} {state : State}
  {occasion : Occasion}

/-- The exchange in which a request with the given parsed parts reaches the handler. -/
def handedOver (route : Route State) (request : Request) (telemetry : Telemetry) (state : State)
    (occasion : Occasion) (headers : List (String × String)) (principal : Option Principal)
    (parsed : Value) : Exchange State :=
  let arrived := route.arrival request telemetry state occasion headers principal
  { arrived with request := arrived.request.withInput parsed }

/-- A request ends as a question that was answered, is turned away, or reaches the handler. -/
inductive Ends (route : Route State) (request : Request) (telemetry : Telemetry) (state : State)
    (occasion : Occasion) : Exchange State → Prop where
  | preflight (asks : Stage.AsksPreflight request) (headers : List (String × String)) :
      Ends route request telemetry state occasion
        (route.finish (.done { start request telemetry state occasion with
          request := { request with context := some (Stage.contextOf request occasion) }
          response := { status := some 204, headers := headers, sent := true } }))
  | refused (failure : Failure) (status : failure.status ∈ [400, 401, 403])
      (headers : List (String × String)) (principal : Option Principal) :
      Ends route request telemetry state occasion
        (route.finish
          (.failed (route.arrival request telemetry state occasion headers principal) failure))
  | handled (principal : Option Principal) (passes : route.LetsThrough request principal)
      (parsed : Value) (fits : route.compiled.request.parse request.input = .ok parsed)
      (headers : List (String × String)) :
      Ends route request telemetry state occasion
        (route.finish (Stage.handle route.handler .done
          (route.handedOver request telemetry state occasion headers principal parsed)))

theorem ends_dispatch (strict : route.contract.options.requestValidation = .error)
    (stageless : route.userStages = []) (request : Request) (telemetry : Telemetry)
    (state : State) (occasion : Occasion) :
    Ends route request telemetry state occasion
      (route.dispatch request telemetry state occasion) := by
  rw [dispatch_eq_finish, stageless]
  by_cases asks : Stage.AsksPreflight request
  · rcases enter_of_preflight route telemetry state occasion asks with ⟨headers, ends⟩
    rw [ends]
    exact .preflight asks headers
  · rcases enter_of_other route telemetry state occasion asks with ⟨headers, enters⟩
    rw [enters]
    rcases (route.decides request telemetry state occasion).covered with
      ⟨policy, identities, guarded, turned⟩ | ⟨principal, passes⟩
    · rcases turned with unknown | ⟨identity, recognized, denied⟩
      · rcases judge_of_unrecognized guarded unknown with ⟨failure, status, stops⟩
        rw [stops]
        exact .refused failure (by simp [status]) headers request.principal
      · rcases judge_of_denied guarded recognized denied with ⟨failure, status, stops⟩
        rw [stops]
        exact .refused failure (by simp [status]) headers request.principal
    · rw [judge_of_letsThrough passes]
      let exchange := route.arrival request telemetry state occasion headers principal
      have input : exchange.request.input = request.input := rfl
      cases fits : route.compiled.request.parse request.input with
      | error issues =>
          have turned : Stage.parse route.contract route.compiled.request
              (Stage.chain ([] ++ [Stage.handle route.handler])) exchange =
                .failed exchange (.invalidRequest issues) := parse_of_refused fits strict _
          rw [turned]
          exact .refused (.invalidRequest issues) (by simp [Failure.status]) headers principal
      | ok parsed =>
          have goesOn : ∀ next,
              Stage.parse route.contract route.compiled.request next exchange =
                next (route.handedOver request telemetry state occasion headers principal
                  parsed) := by
            intro next
            rw [Stage.parse, input, fits]
            rfl
          rw [goesOn]
          exact .handled principal passes parsed fits headers

/-- A passage that ended with an answer leaves only the check of the response. -/
theorem finish_of_sent {exchange : Exchange State} (sent : exchange.response.sent) :
    route.finish (.done exchange) =
      { exchange with
        telemetry := route.checkResponse (route.recorded exchange) exchange.telemetry } := by
  have settled : route.settle (.done exchange) = exchange := if_pos sent
  rw [finish, settled]

/-- A failure before any answer leaves only the check of the response to it. -/
theorem finish_of_failed {exchange : Exchange State} (failure : Failure)
    (unsent : exchange.response.sent = false) :
    route.finish (.failed exchange failure) =
      let noted := (exchange.telemetry.log
          (route.abortRecord failure exchange.request.correlationId)).count
        ⟨abortedMetric, [("contract", route.name), ("status", Text.decimalText failure.status)]⟩
      let answered : Exchange State :=
        { exchange with response :=
          { exchange.response with
            status := some failure.status
            body := some (.string (failure.publicMessage exchange.request.correlationId))
            sent := true } }
      { answered with telemetry := route.checkResponse (route.recorded answered) noted } := by
  have settled : route.settle (.failed exchange failure) = route.settleFailure failure exchange :=
    rfl
  rw [finish, settled, settleFailure_of_unsent failure unsent]
  rfl

/-- A handler that answers with one reply ends the passage with that reply. -/
theorem finish_of_reply {exchange : Exchange State} {after : State} {reply : Reply}
    (replies : route.handler exchange = { state := after, ops := reply.ops })
    (unsent : exchange.response.sent = false) (noBody : exchange.response.body = none)
    (noStream : exchange.response.events = none) :
    ∃ headers, route.finish (Stage.handle route.handler .done exchange) =
      let answered : Exchange State :=
        { exchange with state := after, response := reply.recorded headers }
      { answered with
        telemetry := route.checkResponse (route.recorded answered) exchange.telemetry } := by
  let changed : Exchange State := { exchange with state := after }
  rcases changed.respondAll_ops reply unsent noBody noStream with ⟨headers, answered⟩
  have handled : Stage.handle route.handler .done exchange =
      .done { changed with response := reply.recorded headers } := by
    rw [Stage.handle, replies, ← answered]
  refine ⟨headers, ?_⟩
  rw [handled, finish_of_sent rfl]

end Route

end ApiContract
