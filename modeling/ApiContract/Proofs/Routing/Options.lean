import ApiContract.Proofs.Routing.Service
import ApiContract.Proofs.Routing.Visit

/-!
# Questions about options

What a page of another origin may do is answered from the cross-origin policy alone, whether
the question comes to a route that answers OPTIONS requests itself or is answered in its
place.  Two routes with one policy give one answer, and nothing that comes after the policy
has a part in it.
-/

namespace ApiContract

variable {State Other : Type}

/-- The response is a sent status 204 without a body or a stream. -/
structure Response.IsNoContent (response : Response) : Prop where
  sent : response.sent
  code : response.code = 204
  noBody : response.body = none
  noStream : response.events = none

namespace Route

/-- The exchange of a visit that asks for the options at the path of the route. -/
def options (route : Route State) (visit : Visit State) : Exchange State :=
  route.answerOptions visit.request visit.telemetry visit.state visit.occasion

/-- The route gives the answer where it is asked for its options, and nothing else comes of
it; and it gives the same answer to a preflight question, which no later stage sees: with any
others in their places the whole exchange is the same. -/
structure AnswersOptions (route : Route State) (visit : Visit State) (answer : Response) :
    Prop where
  options : (route.options visit).response = answer
  optionsState : (route.options visit).state = visit.state
  optionsTelemetry : (route.options visit).telemetry = visit.telemetry
  preflight : Stage.AsksPreflight visit.request → (route.answer visit).response = answer
  preflightState : Stage.AsksPreflight visit.request → (route.answer visit).state = visit.state
  unreached : Stage.AsksPreflight visit.request → ∀ later,
    route.answerThrough later visit = route.answer visit

variable {route : Route State} {visit : Visit State}

/-- The answer of the cross-origin policy to a preflight question. -/
def preflightAnswer (route : Route State) (visit : Visit State) : Exchange State :=
  Stage.answerPreflight route.cors (route.greeted visit)

theorem sent_preflightAnswer (route : Route State) (visit : Visit State) :
    (route.preflightAnswer visit).response.sent := by
  rcases route.exists_answerPreflight_greeted_eq visit with ⟨headers, answered⟩
  rw [preflightAnswer, answered]

theorem options_of_preflight (asks : Stage.AsksPreflight visit.request) :
    route.options visit = route.preflightAnswer visit := by
  have ends : Stage.chain [Stage.context, Stage.cors route.cors] visit.start =
      .done (route.preflightAnswer visit) := passage_of_preflight asks
  unfold options answerOptions
  rw [← Visit.start, ends]
  exact if_pos (route.sent_preflightAnswer visit)

/-- Where nothing was asked, the greeting is sent as it is. -/
theorem options_of_other (other : ¬Stage.AsksPreflight visit.request) :
    route.options visit =
      { route.greeted visit with
        response := { (route.greeted visit).response with status := some 204, sent := true } } := by
  have ends : Stage.chain [Stage.context, Stage.cors route.cors] visit.start =
      .done (route.greeted visit) := passage_of_other other
  have unsent : (route.greeted visit).response.sent = false := by
    rcases route.exists_greeted_eq visit with ⟨headers, greeting⟩
    rw [greeting]
  unfold options answerOptions
  rw [← Visit.start, ends]
  simp [Passage.done, unsent, Exchange.respondAll, Exchange.respond, Response.apply,
    Response.answer, Telemetry.logAll]

theorem answerThrough_of_preflight (asks : Stage.AsksPreflight visit.request)
    (later : List (Stage State)) :
    route.answerThrough later visit =
      { route.preflightAnswer visit with
        telemetry :=
          route.checkResponse (route.recorded (route.preflightAnswer visit))
            (route.preflightAnswer visit).telemetry } := by
  rw [answerThrough, passage_of_preflight asks]
  exact finish_of_sent (route.sent_preflightAnswer visit)

/-- The question is answered by a status with headers, and changes nothing. -/
theorem exists_options_eq (route : Route State) (visit : Visit State) :
    ∃ headers, route.options visit =
      { route.greeted visit with
        response := { status := some 204, headers := headers, sent := true } } := by
  by_cases asks : Stage.AsksPreflight visit.request
  · rcases route.exists_answerPreflight_greeted_eq visit with ⟨headers, answered⟩
    exact ⟨headers, (options_of_preflight asks).trans answered⟩
  · rcases route.exists_greeted_eq visit with ⟨headers, greeting⟩
    refine ⟨headers, ?_⟩
    rw [options_of_other asks, greeting]

theorem isNoContent_options (route : Route State) (visit : Visit State) :
    (route.options visit).response.IsNoContent := by
  rcases route.exists_options_eq visit with ⟨headers, answered⟩
  rw [answered]
  exact ⟨rfl, rfl, rfl, rfl⟩

/-- The headers that a greeting or the answer to a preflight question can set. -/
def policyHeaders : List String :=
  [correlationHeader, "vary", "access-control-allow-origin", "access-control-allow-credentials",
    "access-control-expose-headers", "access-control-allow-methods",
    "access-control-allow-headers", "access-control-max-age"]

theorem name_of_mem_greeted {header : String × String}
    (member : header ∈ (route.greeted visit).response.headers) : header.1 ∈ policyHeaders := by
  rw [greeted, Stage.grantOrigin_eq_setHeaders] at member
  rcases Exchange.mem_headers_setHeaders member with introduced | ⟨set, isSet, named⟩
  · have identified : header ∈ (visit.start.setHeaders
        [(correlationHeader, .string visit.correlationId)]).response.headers := introduced
    rcases Exchange.mem_headers_setHeaders identified with before | ⟨set, isSet, named⟩
    · cases before
    · rw [named, List.mem_singleton.mp isSet]
      exact (by decide : Text.lowered correlationHeader ∈ policyHeaders)
  · have others : ∀ name ∈ ["vary", "access-control-allow-origin",
        "access-control-allow-credentials", "access-control-expose-headers"],
        Text.lowered name ∈ policyHeaders := by decide
    rw [named]
    exact others set.1 (CorsPolicy.name_of_mem_grants isSet)

theorem name_of_mem_options {header : String × String}
    (member : header ∈ (route.options visit).response.headers) : header.1 ∈ policyHeaders := by
  by_cases asks : Stage.AsksPreflight visit.request
  · rw [options_of_preflight asks, preflightAnswer, Stage.answerPreflight_eq_setHeaders] at member
    have set : header ∈ ((route.greeted visit).setHeaders (route.cors.preflightHeaders
        ((route.greeted visit).request.header?
          "access-control-request-headers"))).response.headers := by
      simpa [Exchange.respondAll, Exchange.respond, Response.apply, Response.answer,
        apply_ite Prod.fst, apply_ite Response.headers] using member
    rcases Exchange.mem_headers_setHeaders set with greeted | ⟨set, isSet, named⟩
    · exact name_of_mem_greeted greeted
    · have others : ∀ name ∈ ["access-control-allow-methods", "access-control-allow-headers",
          "access-control-max-age"], Text.lowered name ∈ policyHeaders := by decide
      rw [named]
      exact others set.1 (CorsPolicy.name_of_mem_preflightHeaders isSet)
  · rw [options_of_other asks] at member
    exact name_of_mem_greeted member

/-- Every route answers preflight questions as it answers for its options. -/
theorem answersOptions (route : Route State) (visit : Visit State) :
    route.AnswersOptions visit (route.options visit).response := by
  rcases route.exists_options_eq visit with ⟨headers, answered⟩
  rcases route.exists_greeted_eq visit with ⟨granted, greeting⟩
  constructor
  · rfl
  · rw [answered, greeting]
    rfl
  · rw [answered, greeting]
    rfl
  · intro asks
    rw [answer_eq_answerUnder, answerUnder, answerThrough_of_preflight asks,
      options_of_preflight asks]
  · intro asks
    rw [answer_eq_answerUnder, answerUnder, answerThrough_of_preflight asks,
      ← options_of_preflight asks, answered, greeting]
    rfl
  · intro asks later
    rw [answer_eq_answerUnder, answerUnder, answerThrough_of_preflight asks,
      answerThrough_of_preflight asks]

/-- The answer depends on nothing but the policy, the correlation id and what the request
shows from outside. -/
theorem response_options_congr {left : Route State} {right : Route Other}
    (samePolicy : left.cors = right.cors) {here : Visit State} {there : Visit Other}
    (sameOutside : here.request.SameOutside there.request)
    (sameId : here.correlationId = there.correlationId) :
    (left.options here).response = (right.options there).response := by
  have greetings := response_greeted_congr samePolicy sameId sameOutside.origin
  by_cases asks : Stage.AsksPreflight here.request
  · have asksThere := sameOutside.asksPreflight_iff.mp asks
    rw [options_of_preflight asks, options_of_preflight asksThere, preflightAnswer,
      preflightAnswer, samePolicy]
    apply Stage.response_answerPreflight_congr right.cors greetings
    rw [request_greeted, request_greeted]
    exact sameOutside.wantedHeaders
  · have otherThere := fun asksThere => asks (sameOutside.asksPreflight_iff.mpr asksThere)
    rw [options_of_other asks, options_of_other otherThere]
    dsimp only
    rw [greetings]

/-- Two routes with one cross-origin policy answer alike, whatever else they consist of. -/
theorem options_decided_by_policy (left : Route State) (right : Route Other)
    (samePolicy : left.cors = right.cors) (here : Visit State) (there : Visit Other)
    (sameRequest : here.request = there.request)
    (sameId : here.correlationId = there.correlationId) :
    ∃ answer : Response, answer.IsNoContent ∧ left.AnswersOptions here answer ∧
      right.AnswersOptions there answer := by
  have sameOutside : here.request.SameOutside there.request := sameRequest ▸ .refl here.request
  refine ⟨(left.options here).response, left.isNoContent_options here,
    left.answersOptions here, ?_⟩
  rw [response_options_congr samePolicy sameOutside sameId]
  exact right.answersOptions there

/-! ## A guarded and an open endpoint -/

/-- An endpoint for clerks, whose handler fails. -/
def clerkRoute : Route Nat where
  basePath := "/billing"
  path := "/pay"
  method := "POST"
  contract := { name := "pay", auth := some { method := .bearer, allowedRoles := ["clerk"] } }
  compiled := { request := .ofNothing .native
                responses := []
                responseHeaders := none }
  cors := { allowedOrigins := ["app.example"], allowedMethods := ["POST"], exposedHeaders := []
            maxAgeSeconds := none }
  auth := some ({ method := .bearer, allowedRoles := ["clerk"] }, [])
  userStages := []
  handler := fun exchange =>
    { state := exchange.state + 1, failure := some (.handler "ledger connection refused" []) }

/-- An endpoint that is open to everyone, with the same cross-origin policy. -/
def openRoute : Route Unit where
  basePath := ""
  path := "/ping"
  method := "GET"
  contract := { name := "ping" }
  compiled := { request := .ofNothing .document
                responses := []
                responseHeaders := none }
  cors := clerkRoute.cors
  auth := none
  userStages := []
  handler := fun exchange => { state := exchange.state, ops := [.finish] }

/-- A page of another origin asks what it may do. -/
def pageQuestion : Request where
  method := "OPTIONS"
  path := "/billing/pay"
  headers := .object [("access-control-request-headers", .string "x-tenant"),
    ("access-control-request-method", .string "POST"), ("origin", .string "app.example")]

/-- A page learns the same from an endpoint for clerks and from an open one. -/
theorem clerkRoute_answers_as_openRoute :
    let here : Visit Nat := ⟨pageQuestion, {}, 7, .atStart "fresh"⟩
    let there : Visit Unit := ⟨pageQuestion, {}, (), ⟨"fresh", ⟨1, 0, by decide⟩⟩⟩
    clerkRoute.cors = openRoute.cors ∧ here.correlationId = there.correlationId ∧
      Stage.AsksPreflight pageQuestion ∧
      (clerkRoute.answer here).response = (openRoute.answer there).response ∧
      (clerkRoute.answer here).state = 7 ∧
      (openRoute.answer there).response.headers =
        [("x-correlation-id", "fresh"), ("vary", "origin"),
          ("access-control-allow-origin", "app.example"),
          ("access-control-allow-methods", "POST"),
          ("access-control-allow-headers", "x-tenant")] := by
  intro here there
  have asks : Stage.AsksPreflight pageQuestion := ⟨rfl, "POST", rfl⟩
  rcases options_decided_by_policy clerkRoute openRoute rfl here there rfl rfl with
    ⟨answer, _, ofClerk, ofOpen⟩
  refine ⟨rfl, rfl, asks, ?_, ofClerk.preflightState asks, ?_⟩
  · rw [ofClerk.preflight asks, ofOpen.preflight asks]
  · rw [ofOpen.preflight asks, ← ofOpen.options]
    decide +kernel

end Route

end ApiContract
