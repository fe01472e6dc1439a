import ApiContract.Proofs.Contract.Declaration
import ApiContract.Proofs.Exchange.Script
import ApiContract.Proofs.Routing.Registration

/-!
# Names of headers in any letter case

The letter case of a header's name counts nowhere: not where a contract declares the header, not
where a request brings it and not where a stage or a handler sets it or looks it up.  Two services
that differ in nothing else register alike, and the routes that they register make the same of
every request.
-/

namespace ApiContract

variable {State : Type}

/-! ## Declared names -/

/-- Two schemas of headers, objects or optional objects, that differ at most in the letter case of
the declared names. -/
inductive Schema.HeadersRecased : Schema → Schema → Prop where
  | object {fields others : List (String × Schema)} {strict : Bool}
      (recased : List.Forall₂ (fun field other =>
        Text.sameIgnoringCase field.1 other.1 ∧ field.2 = other.2) fields others) :
      HeadersRecased (.object fields strict) (.object others strict)
  | optional {inner other : Schema} (recased : HeadersRecased inner other) :
      HeadersRecased (.optional inner) (.optional other)

theorem Schema.withLoweredNames_eq {schema other : Schema}
    (recased : schema.HeadersRecased other) : schema.withLoweredNames = other.withLoweredNames := by
  induction recased with
  | optional _ ih => rw [withLoweredNames, withLoweredNames, ih]
  | @object fields others strict recased =>
      have names : fields.map (fun field => (Text.lowered field.1, field.2)) =
          others.map fun field => (Text.lowered field.1, field.2) := by
        induction recased with
        | nil => rfl
        | cons first _ ih =>
            rw [List.map_cons, List.map_cons, ih, lowered_eq_of_sameIgnoringCase first.1, first.2]
      rw [withLoweredNames, withLoweredNames]
      exact congrArg (Schema.object · strict) names

/-- Two settings of a contract that are the same or declare headers whose names differ at most in
letter case. -/
inductive Setting.Recased : Setting → Setting → Prop where
  | same (setting : Setting) : Recased setting setting
  | requestHeaders {shape other : Shorthand}
      (recased : shape.toSchema.HeadersRecased other.toSchema) :
      Recased (.declare (.request .headers) shape) (.declare (.request .headers) other)
  | responseHeaders {shape other : Shorthand}
      (recased : shape.toSchema.HeadersRecased other.toSchema) :
      Recased (.declare .responseHeaders shape) (.declare .responseHeaders other)

namespace Contract

theorem set_eq {setting other : Setting} (recased : setting.Recased other) (contract : Contract) :
    contract.set setting = contract.set other := by
  cases recased with
  | same => rfl
  | requestHeaders recased =>
      simp only [set, withSchema, withRequestHeaders, Schema.withLoweredNames_eq recased]
  | responseHeaders recased =>
      simp only [set, withSchema, withResponseHeaders, Schema.withLoweredNames_eq recased]

theorem described_eq {settings others : List Setting}
    (recased : List.Forall₂ Setting.Recased settings others) (name : String) :
    described name settings = described name others := by
  rw [described, described]
  generalize ({ name := name } : Contract) = contract
  induction recased generalizing contract with
  | nil => rfl
  | cons first _ ih =>
      rw [List.foldl_cons, List.foldl_cons, set_eq first]
      exact ih _

end Contract

/-! ## Attempts to register -/

/-- Two stages that are the same or follow scripts that differ at most in the letter case of the
names of headers. -/
inductive Stage.Recased : Stage State → Stage State → Prop where
  | same (stage : Stage State) : Recased stage stage
  | scripted {script other : Script State (Turn State)}
      (recased : Script.Recased Turn.Recased script other) : Recased script.stage other.stage

/-- Two handlers that follow scripts that differ at most in the letter case of the names of
headers. -/
def Handler.Recased (handler other : Handler State) : Prop :=
  ∃ script otherScript : Script State (State × Option Failure),
    Script.Recased Eq script otherScript ∧
      handler = script.handler ∧ other = otherScript.handler

/-- Two attempts to register a contract at a place that differ at most in the letter case of the
names of headers. -/
structure Attempt.Recased (attempt other : Attempt State) : Prop where
  router : attempt.router = other.router
  method : attempt.method = other.method
  path : attempt.path = other.path
  contract : ∃ name settings others, List.Forall₂ Setting.Recased settings others ∧
    attempt.contract = .described name settings ∧ other.contract = .described name others
  userStages : List.Forall₂ Stage.Recased attempt.userStages other.userStages
  handler : Handler.Recased attempt.handler other.handler

theorem Attempt.handler_of_route? {attempt : Attempt State} {route : Route State}
    (made : attempt.route? = .ok route) : route.handler = attempt.handler := by
  rcases exists_of_bind_eq_ok made with ⟨auth, _, made⟩
  rcases exists_of_bind_eq_ok made with ⟨compiled, _, made⟩
  cases made
  rfl

namespace Attempt.Recased

variable {attempt other : Attempt State}

theorem contract_eq (recased : attempt.Recased other) : attempt.contract = other.contract := by
  rcases recased.contract with ⟨name, settings, others, same, left, right⟩
  rw [left, right, Contract.described_eq same]

theorem userStages_eq (recased : attempt.Recased other) :
    attempt.userStages = other.userStages := by
  rw [← List.forall₂_eq_eq_eq]
  refine recased.userStages.imp ?_
  rintro _ _ (_ | same)
  · rfl
  · exact Script.stage_eq same

theorem handle_eq (recased : attempt.Recased other) :
    Stage.handle attempt.handler = Stage.handle other.handler := by
  rcases recased.handler with ⟨script, otherScript, same, left, right⟩
  rw [left, right, Script.handle_eq same]

/-- The two attempts make the same route, up to the handler. -/
theorem route?_eq (recased : attempt.Recased other) :
    other.route? = attempt.route?.map fun route => { route with handler := other.handler } := by
  rw [Attempt.route?, Attempt.route?, Router.route, Router.route, recased.router, recased.method,
    recased.path, recased.contract_eq, recased.userStages_eq]
  cases other.router.authOf other.contract with
  | error failure => rfl
  | ok auth => cases other.contract.compile other.router.backend <;> rfl

end Attempt.Recased

/-! ## Routes that answer alike -/

/-- Two routes make the same of requests that differ at most in the letter case of the names of
headers, and what they set in a response is found under its name in any letter case. -/
def Route.AnswersAlike (route other : Route State) : Prop :=
  ∀ (bare : Request) (headers others : List (String × String)),
    List.Forall₂ HeaderRecased headers others →
      ∀ (telemetry : Telemetry) (state : State) (occasion : Occasion),
        let answer := route.dispatch (bare.withHeaders headers) telemetry state occasion
        let otherAnswer := other.dispatch (bare.withHeaders others) telemetry state occasion
        answer = otherAnswer ∧ ∀ name otherName, Text.sameIgnoringCase name otherName →
          answer.response.header? name = otherAnswer.response.header? otherName

/-- The handler of a route counts only for the stage that it makes. -/
theorem Route.answersAlike_of_handle_eq {route : Route State} {handler : Handler State}
    (same : Stage.handle route.handler = Stage.handle handler) :
    route.AnswersAlike { route with handler := handler } := by
  have stages : route.stages = Route.stages { route with handler := handler } := by
    rw [Route.stages, Route.stages, same]
    rfl
  intro bare headers others recased telemetry state occasion answer otherAnswer
  have equal : answer = otherAnswer := by
    simp only [answer, otherAnswer]
    rw [Request.withHeaders_eq recased, Route.dispatch, Route.dispatch, Route.execute,
      Route.execute, stages]
    rfl
  refine ⟨equal, ?_⟩
  intro name otherName same
  rw [equal, Response.header?_eq _ same]

/-- Two outcomes of attempts: the same failure, or routes at one place that answer alike. -/
inductive RegisteredAlike :
    Except RegistrationFailure (Route State) → Except RegistrationFailure (Route State) → Prop where
  | failed (failure : RegistrationFailure) : RegisteredAlike (.error failure) (.error failure)
  | registered {route other : Route State} (place : route.place = other.place)
      (alike : route.AnswersAlike other) : RegisteredAlike (.ok route) (.ok other)

/-- Where the same places are taken, two attempts that differ in letter case have outcomes that are
alike, and afterwards the same places are taken again. -/
theorem Attempt.Recased.run {attempt other : Attempt State} (recased : attempt.Recased other)
    {registry otherRegistry : Registry State} (taken : registry.taken = otherRegistry.taken) :
    RegisteredAlike (attempt.run registry).2 (other.run otherRegistry).2 ∧
      (attempt.run registry).1.taken = (other.run otherRegistry).1.taken := by
  have made := recased.route?_eq
  cases built : attempt.route? with
  | error failure =>
      rw [built] at made
      rw [Attempt.route?] at built made
      rw [Attempt.run, Attempt.run, Router.attempt, Router.attempt, built, made]
      exact ⟨.failed failure, taken⟩
  | ok route =>
      have alike : route.AnswersAlike { route with handler := other.handler } := by
        apply Route.answersAlike_of_handle_eq
        rw [Attempt.handler_of_route? built, recased.handle_eq]
      rw [built] at made
      rw [Attempt.route?] at built made
      rw [Attempt.run, Attempt.run, Router.attempt, Router.attempt, built, made]
      simp only [Except.map, Registry.register, ← taken]
      -- The handler has no part in the place of a route.
      have place : route.place = Route.place { route with handler := other.handler } := rfl
      rw [← place]
      split
      · exact ⟨.failed _, taken⟩
      · exact ⟨.registered place alike, rfl⟩

/-- The letter case of the names of headers counts nowhere: attempts to register that differ in
nothing else have outcomes that are alike, one by one. -/
theorem Registry.outcomes_alike {attempts others : List (Attempt State)}
    (recased : List.Forall₂ Attempt.Recased attempts others) (registry : Registry State) :
    List.Forall₂ RegisteredAlike (registry.outcomes attempts) (registry.outcomes others) := by
  have alike : ∀ otherRegistry : Registry State, registry.taken = otherRegistry.taken →
      List.Forall₂ RegisteredAlike (registry.outcomes attempts)
        (otherRegistry.outcomes others) := by
    induction recased generalizing registry with
    | nil => exact fun _ _ => .nil
    | cons first _ ih =>
        intro otherRegistry taken
        rcases first.run taken with ⟨outcome, taken⟩
        exact .cons outcome (ih _ _ taken)
  exact alike registry rfl

/-! ### An endpoint for tenants -/

/-- An attempt to register an endpoint for tenants, which names a header of the request and one of
the response: where they are declared and where they are looked up and set. -/
def tenantAttempt (tenant ledger askedTenant setLedger : String) : Attempt Nat where
  router := { basePath := "/" }
  method := "GET"
  path := "/tenant"
  contract := .described "tenant"
    [.declare (.request .headers) (.object [(tenant, .full .string)]),
      .declare .responseHeaders (.full (.optional (.object [(ledger, .string)] false)))]
  userStages := []
  handler := Script.handler (.lookUp askedTenant fun found =>
    .respond (.setHeader setLedger (.string (found.getD "none")))
      (.respond .finish (.inspect fun exchange => .finish (exchange.state, none))))

theorem tenantAttempt_recased
    {tenant ledger askedTenant setLedger otherTenant otherLedger otherAsked otherSet : String}
    (tenants : Text.sameIgnoringCase tenant otherTenant)
    (ledgers : Text.sameIgnoringCase ledger otherLedger)
    (asked : Text.sameIgnoringCase askedTenant otherAsked)
    (set : Text.sameIgnoringCase setLedger otherSet) :
    (tenantAttempt tenant ledger askedTenant setLedger).Recased
      (tenantAttempt otherTenant otherLedger otherAsked otherSet) where
  router := rfl
  method := rfl
  path := rfl
  contract := by
    refine ⟨_, _, _, .cons (.requestHeaders ?_) (.cons (.responseHeaders ?_) .nil), rfl, rfl⟩
    · exact .object (.cons ⟨tenants, rfl⟩ .nil)
    · exact .optional (.object (.cons ⟨ledgers, rfl⟩ .nil))
  userStages := .nil
  handler := by
    refine ⟨_, _, .lookUp asked fun found => ?_, rfl, rfl⟩
    exact .respond (.setHeader set) (.respond (.same _) (.inspect fun exchange => .finish rfl))

/-- An endpoint for tenants is registered and answers alike in upper and in lower case. -/
theorem tenantAttempt_outcomes_alike :
    let mixed := tenantAttempt "X-Tenant" "X-Ledger-Version" "X-Tenant" "x-ledger-version"
    let upper := tenantAttempt "X-TENANT" "x-ledger-version" "x-tenant" "X-LEDGER-VERSION"
    List.Forall₂ Attempt.Recased [mixed] [upper] ∧
      List.Forall₂ RegisteredAlike (({} : Registry Nat).outcomes [mixed])
        (({} : Registry Nat).outcomes [upper]) ∧
      (({} : Registry Nat).outcomes [mixed]).map Except.isOk = [true] := by
  intro mixed upper
  have recased : List.Forall₂ Attempt.Recased [mixed] [upper] :=
    .cons (tenantAttempt_recased (by decide) (by decide) (by decide) (by decide)) .nil
  refine ⟨recased, Registry.outcomes_alike recased {}, ?_⟩
  decide +kernel

end ApiContract
