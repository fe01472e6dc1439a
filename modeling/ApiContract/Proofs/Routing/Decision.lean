import ApiContract.Proofs.Contract.Compiled
import ApiContract.Proofs.Exchange.Authorization
import ApiContract.Proofs.Exchange.Stages
import ApiContract.Proofs.Routing.Registration
import ApiContract.Proofs.Routing.Settlement

/-!
# What becomes of a request

Before the stages and the handler of an endpoint see a request, it is answered as a
question of another origin, turned away because of who sent it or what it holds, or let
through.  This module states the conditions of each outcome and proves that an
installed route decides by them alone, in this order.
-/

namespace ApiContract

variable {State : Type}

namespace Route

variable {route : Route State} {request : Request} {telemetry : Telemetry} {state : State}
  {occasion : Occasion}

/-! ## The passage up to the check of the caller -/

/-- The passage through the stages that every endpoint has, and what follows them. -/
def enter (route : Route State) (next : Exchange State → Passage State) :
    Exchange State → Passage State :=
  route.builtInStages.foldr (fun stage next => stage next) next

/-- The passage from the check of the caller on. -/
def judge (route : Route State) (next : Exchange State → Passage State) :
    Exchange State → Passage State :=
  let parsed := Stage.parse route.contract route.compiled.request next
  match route.auth with
  | some (policy, identities) => Stage.auth policy identities parsed
  | none => parsed

/-- The exchange in which a request of the given principal reaches the checks of the caller
and of its parts. -/
def arrival (route : Route State) (request : Request) (telemetry : Telemetry) (state : State)
    (occasion : Occasion) (headers : List (String × String)) (principal : Option Principal) :
    Exchange State where
  request := { request with
    context := some (Stage.contextOf request occasion)
    contract := some route.contract
    principal := principal }
  response := { headers := headers }
  telemetry := telemetry
  state := state
  occasion := occasion

theorem dispatch_eq_finish (route : Route State) (request : Request) (telemetry : Telemetry)
    (state : State) (occasion : Occasion) :
    route.dispatch request telemetry state occasion =
      route.finish (route.enter (Stage.chain (route.userStages ++ [Stage.handle route.handler]))
        (start request telemetry state occasion)) := by
  rw [dispatch, execute, finish, enter, stages, Stage.chain, Stage.chain, List.append_assoc,
    List.foldr_append]

theorem enter_eq (route : Route State) (next : Exchange State → Passage State) :
    route.enter next =
      Stage.context (Stage.cors route.cors (Stage.attach route.contract (route.judge next))) := by
  rw [enter, builtInStages, judge]
  cases route.auth <;> rfl

theorem enter_of_preflight (route : Route State) (telemetry : Telemetry) (state : State)
    (occasion : Occasion) (asks : Stage.AsksPreflight request) :
    ∃ headers, ∀ next, route.enter next (start request telemetry state occasion) =
      .done { start request telemetry state occasion with
        request := { request with context := some (Stage.contextOf request occasion) }
        response := { status := some 204, headers := headers, sent := true } } := by
  rcases Stage.context_eq (start request telemetry state occasion) with ⟨first, known⟩
  let exchange := Stage.inContext (start request telemetry state occasion) first
  rcases Stage.cors_of_preflight route.cors exchange asks rfl with ⟨headers, answered⟩
  refine ⟨headers, ?_⟩
  intro next
  rw [enter_eq, known]
  exact answered _

theorem enter_of_other (route : Route State) (telemetry : Telemetry) (state : State)
    (occasion : Occasion) (other : ¬Stage.AsksPreflight request) :
    ∃ headers, ∀ next, route.enter next (start request telemetry state occasion) =
      route.judge next
        (route.arrival request telemetry state occasion headers request.principal) := by
  rcases Stage.context_eq (start request telemetry state occasion) with ⟨first, known⟩
  let exchange := Stage.inContext (start request telemetry state occasion) first
  rcases Stage.cors_of_other route.cors exchange other with ⟨headers, passed⟩
  refine ⟨headers, ?_⟩
  intro next
  rw [enter_eq, known]
  exact passed _

/-! ## The check of the caller and of the request -/

variable {policy : AuthPolicy} {identities : Identities} {headers : List (String × String)}

/-- The route lets through a request of the given principal: nobody is asked, or someone
known and permitted. -/
inductive LetsThrough (route : Route State) (request : Request) : Option Principal → Prop where
  | unasked (unguarded : route.auth = none) : LetsThrough route request request.principal
  | permitted {policy : AuthPolicy} {identities : Identities} {identity : Identity}
      (guarded : route.auth = some (policy, identities))
      (recognized : policy.Recognizes identities request identity)
      (permits : policy.Permits identity.roles identity.permissions) :
      LetsThrough route request
        (some ⟨identity.subject, identity.roles, identity.permissions⟩)

/-- Whoever is not identified does not get past the check of the caller. -/
theorem judge_of_unidentified {failure : AuthFailure}
    (guarded : route.auth = some (policy, identities))
    (turned : Stage.identify policy identities request = .error failure)
    (next : Exchange State → Passage State) :
    route.judge next (route.arrival request telemetry state occasion headers request.principal) =
      .failed (route.arrival request telemetry state occasion headers request.principal)
        (.unauthorized failure) := by
  have identified : Stage.identify policy identities
      (route.arrival request telemetry state occasion headers request.principal).request =
        .error failure := turned
  rw [judge, guarded]
  dsimp only
  rw [Stage.auth, identified]

theorem judge_of_unrecognized (guarded : route.auth = some (policy, identities))
    (unknown : ∀ identity, ¬policy.Recognizes identities request identity) :
    ∃ failure : Failure, failure.status = 401 ∧ ∀ next,
      route.judge next
          (route.arrival request telemetry state occasion headers request.principal) =
        .failed (route.arrival request telemetry state occasion headers request.principal)
          failure := by
  rcases Stage.exists_identify_eq_unauthorized unknown with ⟨failure, turned, status⟩
  exact ⟨.unauthorized failure, status, judge_of_unidentified guarded turned⟩

theorem judge_of_denied {identity : Identity} (guarded : route.auth = some (policy, identities))
    (recognized : policy.Recognizes identities request identity)
    (denied : ¬policy.Permits identity.roles identity.permissions) :
    ∃ failure : Failure, failure.status = 403 ∧ ∀ next,
      route.judge next
          (route.arrival request telemetry state occasion headers request.principal) =
        .failed (route.arrival request telemetry state occasion headers request.principal)
          failure := by
  rcases Stage.exists_identify_eq_forbidden recognized denied with ⟨reason, turned⟩
  exact ⟨.unauthorized (.forbidden reason), rfl, judge_of_unidentified guarded turned⟩

/-- A request that is let through carries its principal to the check of its parts. -/
theorem judge_of_letsThrough {principal : Option Principal}
    (passes : route.LetsThrough request principal) (next : Exchange State → Passage State) :
    route.judge next (route.arrival request telemetry state occasion headers request.principal) =
      Stage.parse route.contract route.compiled.request next
        (route.arrival request telemetry state occasion headers principal) := by
  cases passes with
  | unasked unguarded => rw [judge, unguarded]
  | permitted guarded recognized permits =>
      have identified : Stage.identify _ _
          (route.arrival request telemetry state occasion headers request.principal).request =
            .ok _ :=
        Stage.identify_of_permits recognized permits
      rw [judge, guarded]
      dsimp only
      rw [Stage.auth, identified]
      rfl

/-- The request with its parts as the checker converts them, or as they were where the
checker refuses them. -/
def converted (checker : Checker) (request : Request) : Request :=
  match checker.parse request.input with
  | .ok parsed => request.withInput parsed
  | .error _ => request

theorem parse_of_refused {contract : Contract} {checker : Checker} {exchange : Exchange State}
    {issues : List Issue} (refused : checker.parse exchange.request.input = .error issues)
    (strict : contract.options.requestValidation = .error)
    (next : Exchange State → Passage State) :
    Stage.parse contract checker next exchange = .failed exchange (.invalidRequest issues) := by
  rw [Stage.parse, refused]
  dsimp only
  rw [strict]

/-- A request that fits, or that need not fit, goes on to the stages of the endpoint. -/
theorem exists_parse_eq_next (contract : Contract) (checker : Checker)
    (exchange : Exchange State)
    (passes : contract.options.requestValidation = .error →
      ∃ parsed, checker.parse exchange.request.input = .ok parsed) :
    ∃ noted, Telemetry.ContinuesQuietly contract.name exchange.telemetry noted ∧
      ∀ next, Stage.parse contract checker next exchange =
        next { exchange with
          request := converted checker exchange.request, telemetry := noted } := by
  cases outcome : checker.parse exchange.request.input with
  | ok parsed =>
      refine ⟨exchange.telemetry, .refl _, ?_⟩
      intro next
      rw [Stage.parse, converted, outcome]
  | error issues =>
      cases mode : contract.options.requestValidation with
      | error =>
          rcases passes mode with ⟨parsed, fits⟩
          rw [outcome] at fits
          cases fits
      | warning =>
          refine ⟨(Stage.noteInvalidRequest contract issues exchange).telemetry, ?_, ?_⟩
          · refine (Telemetry.ContinuesQuietly.log ?_ exchange.telemetry).trans (.count ?_ _)
            · exact not_reportsAbort_of_colon rfl rfl
            · simp [abortedMetric]
          · intro next
            rw [Stage.parse, converted, outcome]
            dsimp only
            rw [mode]
            rfl
      | none =>
          refine ⟨exchange.telemetry, .refl _, ?_⟩
          intro next
          rw [Stage.parse, converted, outcome]
          dsimp only
          rw [mode]

/-! ## The outcomes -/

/-- Neither the stages of the endpoint nor its handler have a part in the outcome: with any
others in their places it is the same. -/
def Unreached (route : Route State) (request : Request) (telemetry : Telemetry) (state : State)
    (occasion : Occasion) : Prop :=
  ∀ stages handler,
    { route with userStages := stages, handler := handler }.dispatch request telemetry state
      occasion = route.dispatch request telemetry state occasion

/-- The passage ends before the stages of the endpoint. -/
theorem unreached_of_enter {passage : Passage State}
    (ends : ∀ next, route.enter next (start request telemetry state occasion) = passage) :
    route.Unreached request telemetry state occasion := by
  intro stages handler
  have same : ∀ next, { route with userStages := stages, handler := handler }.enter next
      (start request telemetry state occasion) = passage := ends
  rw [dispatch_eq_finish, dispatch_eq_finish, ends, same]
  rfl

/-- The exchange after the question what a page of another origin may do: the answer is a
status alone, the state is the one before, and no abort was reported. -/
structure AnsweredPreflight (name : String) (telemetry : Telemetry) (state : State)
    (result : Exchange State) : Prop where
  sent : result.response.sent
  code : result.response.code = 204
  noBody : result.response.body = none
  noStream : result.response.events = none
  stateKept : result.state = state
  quiet : Telemetry.ContinuesQuietly name telemetry result.telemetry

/-- The exchange in which a request reaches the stages of the endpoint: nothing is answered
yet, and the request names its principal and has its parts converted. -/
structure Reached (contract : Contract) (checker : Checker) (request : Request)
    (telemetry : Telemetry) (state : State) (occasion : Occasion)
    (principal : Option Principal) (reached : Exchange State) : Prop where
  unsent : reached.response.sent = false
  noBody : reached.response.body = none
  noStream : reached.response.events = none
  stateKept : reached.state = state
  quiet : Telemetry.ContinuesQuietly contract.name telemetry reached.telemetry
  request : reached.request =
    converted checker { request with
      context := some (Stage.contextOf request occasion)
      contract := some contract
      principal := principal }

/-- What becomes of a request to the route, row by row. A request that asks no preflight
question meets the condition of one of the other rows. -/
structure DecisionTable (route : Route State) (request : Request) (telemetry : Telemetry)
    (state : State) (occasion : Occasion) : Prop where
  preflight : Stage.AsksPreflight request →
    route.Unreached request telemetry state occasion ∧
      AnsweredPreflight route.name telemetry state
        (route.dispatch request telemetry state occasion)
  unauthorized : ¬Stage.AsksPreflight request → ∀ policy identities,
    route.auth = some (policy, identities) →
    (∀ identity, ¬policy.Recognizes identities request identity) →
      route.Unreached request telemetry state occasion ∧
        TurnedAway route.name 401 telemetry state
          (route.dispatch request telemetry state occasion)
  forbidden : ¬Stage.AsksPreflight request → ∀ policy identities identity,
    route.auth = some (policy, identities) →
    policy.Recognizes identities request identity →
    ¬policy.Permits identity.roles identity.permissions →
      route.Unreached request telemetry state occasion ∧
        TurnedAway route.name 403 telemetry state
          (route.dispatch request telemetry state occasion)
  invalid : ¬Stage.AsksPreflight request → ∀ principal issues,
    route.LetsThrough request principal →
    route.contract.options.requestValidation = .error →
    route.compiled.request.parse request.input = .error issues →
      route.Unreached request telemetry state occasion ∧
        TurnedAway route.name 400 telemetry state
          (route.dispatch request telemetry state occasion)
  reached : ¬Stage.AsksPreflight request → ∀ principal,
    route.LetsThrough request principal →
    (route.contract.options.requestValidation = .error →
      ∃ parsed, route.compiled.request.parse request.input = .ok parsed) →
      ∃ exchange, Reached route.contract route.compiled.request request telemetry state occasion
          principal exchange ∧
        route.dispatch request telemetry state occasion =
          route.finish
            (Stage.chain (route.userStages ++ [Stage.handle route.handler]) exchange)
  covered : (∃ policy identities, route.auth = some (policy, identities) ∧
      ((∀ identity, ¬policy.Recognizes identities request identity) ∨
        ∃ identity, policy.Recognizes identities request identity ∧
          ¬policy.Permits identity.roles identity.permissions)) ∨
    ∃ principal, route.LetsThrough request principal

/-- A passage that fails where the caller or the request is checked turns the request
away, whatever would follow. -/
theorem turnedAway_of_judge {status : Nat} (other : ¬Stage.AsksPreflight request)
    (fails : ∀ headers, ∃ principal failure, failure.status = status ∧ ∀ next,
      route.judge next
          (route.arrival request telemetry state occasion headers request.principal) =
        .failed (route.arrival request telemetry state occasion headers principal) failure) :
    route.Unreached request telemetry state occasion ∧
      TurnedAway route.name status telemetry state
        (route.dispatch request telemetry state occasion) := by
  rcases enter_of_other route telemetry state occasion other with ⟨headers, enters⟩
  rcases fails headers with ⟨principal, failure, rfl, stops⟩
  have ends := fun next => (enters next).trans (stops next)
  refine ⟨unreached_of_enter ends, ?_⟩
  rw [dispatch_eq_finish, ends]
  exact turnedAway_of_failed route
    (route.arrival request telemetry state occasion headers principal) failure rfl rfl

theorem answeredPreflight_of_asks (asks : Stage.AsksPreflight request) :
    route.Unreached request telemetry state occasion ∧
      AnsweredPreflight route.name telemetry state
        (route.dispatch request telemetry state occasion) := by
  rcases enter_of_preflight route telemetry state occasion asks with ⟨headers, ends⟩
  refine ⟨unreached_of_enter ends, ?_⟩
  rw [dispatch_eq_finish, ends]
  exact {
    sent := rfl
    code := rfl
    noBody := rfl
    noStream := rfl
    stateKept := rfl
    quiet := checkResponse_quiet _ _ }

theorem reached_of_letsThrough {principal : Option Principal}
    (other : ¬Stage.AsksPreflight request) (passes : route.LetsThrough request principal)
    (fits : route.contract.options.requestValidation = .error →
      ∃ parsed, route.compiled.request.parse request.input = .ok parsed) :
    ∃ exchange,
      Reached route.contract route.compiled.request request telemetry state occasion
          principal exchange ∧
        route.dispatch request telemetry state occasion =
          route.finish
            (Stage.chain (route.userStages ++ [Stage.handle route.handler]) exchange) := by
  rcases enter_of_other route telemetry state occasion other with ⟨headers, enters⟩
  let exchange := route.arrival request telemetry state occasion headers principal
  rcases exists_parse_eq_next route.contract route.compiled.request exchange fits with
    ⟨noted, quiet, goesOn⟩
  have runs := dispatch_eq_finish route request telemetry state occasion
  rw [enters, judge_of_letsThrough passes, goesOn] at runs
  refine ⟨_, ?_, runs⟩
  exact {
    unsent := rfl
    noBody := rfl
    noStream := rfl
    stateKept := rfl
    quiet := quiet
    request := rfl }

/-- Every route decides by the table. -/
theorem decides (route : Route State) (request : Request) (telemetry : Telemetry)
    (state : State) (occasion : Occasion) :
    route.DecisionTable request telemetry state occasion where
  preflight := answeredPreflight_of_asks
  unauthorized other policy identities guarded unknown := by
    apply turnedAway_of_judge other
    intro headers
    exact ⟨request.principal, judge_of_unrecognized guarded unknown⟩
  forbidden other policy identities identity guarded recognized denied := by
    apply turnedAway_of_judge other
    intro headers
    exact ⟨request.principal, judge_of_denied guarded recognized denied⟩
  invalid other principal issues passes strict refused := by
    apply turnedAway_of_judge other
    intro headers
    refine ⟨principal, .invalidRequest issues, rfl, ?_⟩
    intro next
    rw [judge_of_letsThrough passes]
    exact parse_of_refused refused strict next
  reached other principal passes fits := reached_of_letsThrough other passes fits
  covered := by
    cases guarded : route.auth with
    | none => exact .inr ⟨_, .unasked guarded⟩
    | some guard =>
        rcases guard with ⟨policy, identities⟩
        by_cases known : ∃ identity, policy.Recognizes identities request identity
        · rcases known with ⟨identity, recognized⟩
          by_cases permits : policy.Permits identity.roles identity.permissions
          · exact .inr ⟨_, .permitted guarded recognized permits⟩
          · exact .inl ⟨policy, identities, rfl, .inr ⟨identity, recognized, permits⟩⟩
        · exact .inl ⟨policy, identities, rfl, .inl (not_exists.mp known)⟩

end Route

namespace Router

variable {router : Router} {registry extended : Registry State} {method path : String}
  {contract : Contract} {userStages : List (Stage State)} {handler : Handler State}
  {route : Route State}

/-- The route is that of the contract below the router: it runs the given stages and
handler, compares callers with the policy of the contract and the table of the router, and
checks requests against the declared parts with the backend of the router. -/
structure Serves (router : Router) (contract : Contract) (userStages : List (Stage State))
    (handler : Handler State) (route : Route State) : Prop where
  policy : route.auth.map Prod.fst = contract.auth
  identities : ∀ guard ∈ route.auth, router.identities = some guard.2
  checker : Checker.compile router.backend contract.requestSchema = .ok route.compiled.request
  contract : route.contract = contract
  userStages : route.userStages = userStages
  handler : route.handler = handler

theorem authOf_eq_ok {guard : Option (AuthPolicy × Identities)}
    (guarded : router.authOf contract = .ok guard) :
    guard.map Prod.fst = contract.auth ∧
      ∀ pair ∈ guard, router.identities = some pair.2 := by
  rw [authOf] at guarded
  split at guarded
  · next unguarded =>
      cases guarded
      simp [unguarded]
  · next declared listed =>
      cases guarded
      simp [declared, listed]
  · cases guarded

/-- A compilation that succeeds does so however its failure would be worded. -/
theorem compile_of_mapError {backend : Backend} {compiled : CompiledContract}
    {wording : SchemaError → RegistrationFailure}
    (compiles : (contract.compile backend).mapError wording = .ok compiled) :
    contract.compile backend = .ok compiled := by
  cases outcome : contract.compile backend with
  | error fault =>
      rw [outcome] at compiles
      cases compiles
  | ok checkers =>
      rw [outcome] at compiles
      cases compiles
      rfl

/-- The checkers of a route are those of its contract. -/
theorem compile_of_route
    (routed : router.route method path contract userStages handler = .ok route) :
    contract.compile router.backend = .ok route.compiled := by
  rcases exists_of_bind_eq_ok routed with ⟨guard, _, routed⟩
  rcases exists_of_bind_eq_ok routed with ⟨compiled, compiles, routed⟩
  cases routed
  exact compile_of_mapError compiles

theorem serves_of_route
    (routed : router.route method path contract userStages handler = .ok route) :
    router.Serves contract userStages handler route := by
  rcases exists_of_bind_eq_ok routed with ⟨guard, guarded, routed⟩
  rcases exists_of_bind_eq_ok routed with ⟨compiled, compiles, routed⟩
  cases routed
  exact {
    policy := (authOf_eq_ok guarded).1
    identities := (authOf_eq_ok guarded).2
    checker := Contract.compile_request (compile_of_mapError compiles)
    contract := rfl
    userStages := rfl
    handler := rfl }

theorem serves_of_install
    (installed : router.install registry method path contract userStages handler =
      .ok (route, extended)) :
    router.Serves contract userStages handler route :=
  serves_of_route (route_of_install installed)

/-- Every contract installed on a router is served by the decision table of its route. -/
theorem serves_and_decides
    (installed : router.install registry method path contract userStages handler =
      .ok (route, extended))
    (request : Request) (telemetry : Telemetry) (state : State) (occasion : Occasion) :
    router.Serves contract userStages handler route ∧
      route.DecisionTable request telemetry state occasion :=
  ⟨serves_of_install installed, route.decides request telemetry state occasion⟩

/-- A router that knows one guest. -/
def guestRouter : Router where
  basePath := "/billing"
  identities := some [("g", { subject := "guest" })]

/-- A contract for clerks. -/
def clerkContract : Contract where
  name := "list"
  auth := some { method := .bearer, allowedRoles := ["clerk"] }

/-- A guest is known and yet turned away where only clerks are let in. -/
theorem guest_forbidden :
    ∃ route extended,
      guestRouter.install ({} : Registry Nat) "GET" "/invoices" clerkContract []
          (fun exchange => { state := exchange.state + 1 }) = .ok (route, extended) ∧
        Route.TurnedAway "list" 403 {} 0
          (route.dispatch
            { method := "GET", path := "/billing/invoices"
              headers := .object [("authorization", .string "bearer g")] }
            {} 0 ⟨"fresh", 0, 0, by decide⟩) := by
  have installed : guestRouter.install ({} : Registry Nat) "GET" "/invoices" clerkContract []
      (fun exchange => { state := exchange.state + 1 }) = .ok (_, _) := rfl
  have table := (serves_and_decides installed
    { method := "GET", path := "/billing/invoices"
      headers := .object [("authorization", .string "bearer g")] }
    {} 0 ⟨"fresh", 0, 0, by decide⟩).2
  refine ⟨_, _, installed, (table.forbidden ?_ _ _ _ rfl ⟨"g", ?_, "g", ?_, rfl⟩ ?_).2⟩
  · rintro ⟨options, _⟩
    exact absurd options (by decide)
  · exact ⟨"bearer g", rfl, by decide, "bearer ".toList, by decide, by decide⟩
  · rfl
  · rintro ⟨allowed, _, _, _⟩
    simp at allowed

end Router

end ApiContract
