import ApiContract.Proofs.Exchange.Stages
import ApiContract.Proofs.Routing.Settlement

/-!
# Visits

A visit is a request with all that it finds when it arrives.  This module takes the passage
of a visit apart: a greeting, which names the correlation id and what the cross-origin policy
grants, then either the answer to a preflight question or the later stages.  Who a caller is
may be told in any way: a table of identities is one verdict on the authorization header
among all others.
-/

namespace ApiContract

variable {State Other : Type}

/-- Two requests have the same method, the same origin and the same preflight headers. -/
structure Request.SameOutside (left right : Request) : Prop where
  method : left.method = right.method
  origin : left.header? "origin" = right.header? "origin"
  wantedMethod : left.header? "access-control-request-method" =
    right.header? "access-control-request-method"
  wantedHeaders : left.header? "access-control-request-headers" =
    right.header? "access-control-request-headers"

namespace Request.SameOutside

variable {left right : Request}

theorem refl (request : Request) : request.SameOutside request :=
  ⟨rfl, rfl, rfl, rfl⟩

theorem asksPreflight_iff (same : left.SameOutside right) :
    Stage.AsksPreflight left ↔ Stage.AsksPreflight right := by
  rw [Stage.AsksPreflight, Stage.AsksPreflight, same.method, same.wantedMethod]

end Request.SameOutside

/-- A request with all that it finds when it arrives. -/
structure Visit (State : Type) where
  request : Request
  telemetry : Telemetry := {}
  state : State
  occasion : Occasion

namespace Visit

/-- The exchange with which the visit starts. -/
def start (visit : Visit State) : Exchange State :=
  Route.start visit.request visit.telemetry visit.state visit.occasion

/-- The id that the request brings unless it is blank, else the fresh one. -/
def correlationId (visit : Visit State) : String :=
  (Stage.contextOf visit.request visit.occasion).correlationId

end Visit

theorem IsInstant.zero : IsInstant 0 0 := by decide

/-- An occasion at the beginning of time. -/
def Occasion.atStart (freshId : String) : Occasion :=
  ⟨freshId, ⟨0, 0, .zero⟩⟩

/-- The checker of requests of which nothing is declared. -/
def Checker.ofNothing (backend : Backend) : Checker :=
  ⟨backend, .ofFields [], by decide⟩

/-- The checker of texts. -/
def Checker.ofText (backend : Backend) : Checker :=
  ⟨backend, .string, by decide⟩

/-! ## Passages -/

namespace Route

/-- The verdict on callers that the route was installed with. -/
def verdict? (route : Route State) : Option Verdict :=
  route.auth.map fun guard => guard.1.verdict guard.2

/-- The stages of every endpoint that come after the cross-origin policy. -/
def checks (route : Route State) (verdict : Option Verdict) : List (Stage State) :=
  Stage.attach route.contract :: (verdict.map Stage.permit).toList ++
    [Stage.parse route.contract route.compiled.request]

/-- The stages of the endpoint's own, the handler last. -/
def ownStages (route : Route State) : List (Stage State) :=
  route.userStages ++ [Stage.handle route.handler]

/-- The passage of a visit through the given stages, once it has passed the cross-origin
policy. -/
def passage (route : Route State) (later : List (Stage State)) (visit : Visit State) :
    Passage State :=
  Stage.chain (Stage.context :: Stage.cors route.cors :: later) visit.start

/-- The exchange of a visit with the given stages after the cross-origin policy. -/
def answerThrough (route : Route State) (later : List (Stage State)) (visit : Visit State) :
    Exchange State :=
  route.finish (route.passage later visit)

/-- The exchange of a visit to the route with another verdict on callers. -/
def answerUnder (route : Route State) (verdict : Option Verdict) (visit : Visit State) :
    Exchange State :=
  route.answerThrough (route.checks verdict ++ route.ownStages) visit

/-- The exchange of a visit. -/
def answer (route : Route State) (visit : Visit State) : Exchange State :=
  route.dispatch visit.request visit.telemetry visit.state visit.occasion

theorem stages_eq (route : Route State) :
    route.stages = Stage.context :: Stage.cors route.cors ::
      (route.checks route.verdict? ++ route.ownStages) := by
  rw [stages, builtInStages, verdict?, checks, ownStages]
  cases route.auth <;> simp [Stage.auth_eq_permit]

theorem answer_eq_answerUnder (route : Route State) (visit : Visit State) :
    route.answer visit = route.answerUnder route.verdict? visit := by
  rw [answer, answerUnder, answerThrough, passage, ← stages_eq]
  rfl

end Route

/-! ## The greeting -/

namespace Exchange

/-- Nothing was recorded in the response between two exchanges. -/
def SameResponse (before after : Exchange State) : Prop :=
  after.response = before.response

theorem SameResponse.refl (exchange : Exchange State) : SameResponse exchange exchange :=
  rfl

/-- Steps on equal responses lead to equal responses. -/
theorem response_respondAll_congr {left : Exchange State} {right : Exchange Other}
    (sameResponse : left.response = right.response) (ops : List ResponseOp) :
    (left.respondAll ops).response = (right.respondAll ops).response := by
  induction ops generalizing left right with
  | nil => exact sameResponse
  | cons op rest ih =>
      have first : (left.respond op).response = (right.respond op).response :=
        congrArg (fun response => (Response.apply response op).1) sameResponse
      exact ih first

end Exchange

namespace Stage

open Exchange (SameButHeaders)

/-- The exchange whose request was given its context. -/
def introduced (exchange : Exchange State) : Exchange State :=
  let known := contextOf exchange.request exchange.occasion
  { exchange.setHeader correlationHeader known.correlationId with
    request := { exchange.request with context := some known } }

/-- Of a request, only the origin counts for what is granted to it. -/
theorem response_grantOrigin_congr (policy : CorsPolicy) {left : Exchange State}
    {right : Exchange Other} (sameResponse : left.response = right.response)
    (sameOrigin : left.request.header? "origin" = right.request.header? "origin") :
    (grantOrigin policy left).response = (grantOrigin policy right).response := by
  rw [grantOrigin_eq_setHeaders, grantOrigin_eq_setHeaders, sameOrigin]
  exact Exchange.response_respondAll_congr sameResponse _

/-- Of a preflight question, only the headers that it asks about count for the answer. -/
theorem response_answerPreflight_congr (policy : CorsPolicy) {left : Exchange State}
    {right : Exchange Other} (sameResponse : left.response = right.response)
    (sameWish : left.request.header? "access-control-request-headers" =
      right.request.header? "access-control-request-headers") :
    (answerPreflight policy left).response = (answerPreflight policy right).response := by
  rw [answerPreflight_eq_setHeaders, answerPreflight_eq_setHeaders, sameWish]
  apply Exchange.response_respondAll_congr
  exact Exchange.response_respondAll_congr sameResponse _

end Stage

namespace Route

variable {route : Route State} {visit : Visit State} {later : List (Stage State)}

/-- The exchange of a visit that has passed the cross-origin policy. -/
def greeted (route : Route State) (visit : Visit State) : Exchange State :=
  Stage.grantOrigin route.cors (Stage.introduced visit.start)

/-- The greeting gives the request its context and the response headers, and no more. -/
theorem exists_greeted_eq (route : Route State) (visit : Visit State) :
    ∃ headers, route.greeted visit =
      { visit.start with
        request :=
          { visit.request with
            context := some (Stage.contextOf visit.request visit.occasion) }
        response := { headers := headers } } := by
  rcases Exchange.SameButHeaders.setHeader visit.start correlationHeader visit.correlationId with
    ⟨named, introduced⟩
  rcases Stage.sameButHeaders_grantOrigin route.cors (Stage.introduced visit.start) with
    ⟨headers, granted⟩
  refine ⟨headers, ?_⟩
  rw [greeted, granted, Stage.introduced]
  dsimp only
  rw [Visit.correlationId] at introduced
  rw [show visit.start.request = visit.request from rfl,
    show visit.start.occasion = visit.occasion from rfl, introduced]
  rfl

theorem request_greeted (route : Route State) (visit : Visit State) :
    (route.greeted visit).request =
      { visit.request with context := some (Stage.contextOf visit.request visit.occasion) } := by
  rcases route.exists_greeted_eq visit with ⟨headers, greeting⟩
  rw [greeting]

/-- Two routes with one policy greet visits alike that have one correlation id and one
origin. -/
theorem response_greeted_congr {left : Route State} {right : Route Other}
    (samePolicy : left.cors = right.cors) {here : Visit State} {there : Visit Other}
    (sameId : here.correlationId = there.correlationId)
    (sameOrigin : here.request.header? "origin" = there.request.header? "origin") :
    (left.greeted here).response = (right.greeted there).response := by
  rw [greeted, greeted, samePolicy]
  apply Stage.response_grantOrigin_congr
  · have named : (Stage.introduced here.start).response =
        ({} : Response).withHeader correlationHeader (.string here.correlationId) := rfl
    rw [named, sameId]
    rfl
  · exact sameOrigin

theorem passage_of_preflight (asks : Stage.AsksPreflight visit.request) :
    route.passage later visit =
      .done (Stage.answerPreflight route.cors (route.greeted visit)) := by
  have asked : Stage.isPreflight (route.greeted visit).request := by
    rw [request_greeted]
    exact Stage.isPreflight_iff.mpr asks
  exact if_pos asked

theorem passage_of_other (other : ¬Stage.AsksPreflight visit.request) :
    route.passage later visit = Stage.chain later (route.greeted visit) := by
  have notAsked : ¬Stage.isPreflight (route.greeted visit).request := by
    rw [request_greeted]
    exact fun asked => other (Stage.isPreflight_iff.mp asked)
  exact if_neg notAsked

/-- The answer to a preflight question is a status with headers. -/
theorem exists_answerPreflight_greeted_eq (route : Route State) (visit : Visit State) :
    ∃ headers, Stage.answerPreflight route.cors (route.greeted visit) =
      { route.greeted visit with
        response := { status := some 204, headers := headers, sent := true } } := by
  rcases route.exists_greeted_eq visit with ⟨granted, greeting⟩
  have unsent : (route.greeted visit).response.sent = false := by rw [greeting]
  rcases Stage.answerPreflight_eq route.cors (route.greeted visit) unsent with ⟨headers, answered⟩
  refine ⟨headers, ?_⟩
  rw [answered, greeting]

/-! ## The checks -/

section

variable {property : Stage State → Prop}

theorem forall_mem_checks (attach : property (Stage.attach route.contract))
    (permit : ∀ judge, property (Stage.permit judge))
    (parse : property (Stage.parse route.contract route.compiled.request))
    (verdict : Option Verdict) : ∀ stage ∈ route.checks verdict, property stage := by
  intro stage member
  simp only [checks, List.cons_append, List.mem_cons, List.mem_append, Option.mem_toList,
    Option.map_eq_some_iff, List.not_mem_nil, or_false] at member
  rcases member with rfl | ⟨judge, _, rfl⟩ | rfl
  · exact attach
  · exact permit judge
  · exact parse

theorem forall_mem_ownStages (userStages : ∀ stage ∈ route.userStages, property stage)
    (handle : property (Stage.handle route.handler)) :
    ∀ stage ∈ route.ownStages, property stage :=
  List.forall_mem_append.mpr ⟨userStages, List.forall_mem_singleton.mpr handle⟩

end

/-- The checks that every endpoint makes record nothing in the response. They preserve every
relation that holds between exchanges with one response. -/
theorem preserves_checks {relation : Exchange State → Exchange State → Prop}
    (quiet : ∀ {before after}, Exchange.SameResponse before after → relation before after)
    (trans : ∀ {before between after}, relation before between → relation between after →
      relation before after) (route : Route State) (verdict : Option Verdict) :
    ∀ stage ∈ route.checks verdict, Stage.Preserves relation stage := by
  have passes : ∀ {next : Exchange State → Passage State} {before after},
      (∀ exchange, relation exchange (next exchange).exchange) →
        Exchange.SameResponse before after → relation before (next after).exchange :=
    fun kept same => trans (quiet same) (kept _)
  apply forall_mem_checks
  · intro next kept exchange
    rw [Stage.attach]
    exact passes kept rfl
  · intro judge next kept exchange
    rw [Stage.permit]
    cases judge (exchange.request.header? "authorization") with
    | error reason => exact quiet rfl
    | ok principal => exact passes kept rfl
  · intro next kept exchange
    rw [Stage.parse]
    cases route.compiled.request.parse exchange.request.input with
    | ok parsed => exact passes kept rfl
    | error issues =>
        dsimp only
        cases route.contract.options.requestValidation with
        | error => exact quiet rfl
        | warning => exact passes kept rfl
        | none => exact kept _

theorem preserves_response_checks (route : Route State) (verdict : Option Verdict) :
    ∀ stage ∈ route.checks verdict, Stage.Preserves Exchange.SameResponse stage :=
  preserves_checks id (fun first second => Eq.trans second first) route verdict

/-- A visit that is no preflight question leaves the checks with the response as the greeting
left it. -/
theorem response_passage_checks {verdict : Option Verdict}
    (other : ¬Stage.AsksPreflight visit.request) :
    (route.passage (route.checks verdict) visit).exchange.response =
      (route.greeted visit).response := by
  rw [passage_of_other other]
  exact Stage.preserves_chain Exchange.SameResponse.refl (route.preserves_response_checks verdict) _

end Route

end ApiContract
