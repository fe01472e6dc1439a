import ApiContract.Proofs.Routing.Correlation

/-!
# What is granted to other origins

A response tells by its headers which pages of other origins may read it: those of one origin,
and then it varies with the origin of the request, or all of them, and then no credentials are
taken.  A cross-origin policy keeps to this except where it lists a star, allows credentials and
has no origin to name in place of the star.
-/

namespace ApiContract

variable {State : Type}

namespace CorsPolicy

/-- The names of the headers by which a response grants something. -/
def grantNames : List String :=
  ["vary", "access-control-allow-origin", "access-control-allow-credentials"]

/-- The headers by which a response to a request grants no more than a policy allows. -/
structure GrantsSoundly (policy : CorsPolicy) (origin : Option String) (response : Response) :
    Prop where
  /-- What is named is the origin of the request, which the policy lists or admits by a star, and
  the response varies with it; or it is a star, which the policy lists, without credentials. -/
  named : ∀ value, ("access-control-allow-origin", value) ∈ response.headers →
    (origin = some value ∧ (value ∈ policy.allowedOrigins ∨ "*" ∈ policy.allowedOrigins) ∧
        ("vary", "origin") ∈ response.headers) ∨
      (value = "*" ∧ "*" ∈ policy.allowedOrigins ∧
        ∀ text, ("access-control-allow-credentials", text) ∉ response.headers)
  notBoth : ¬(("access-control-allow-origin", "*") ∈ response.headers ∧
    ("access-control-allow-credentials", "true") ∈ response.headers)

/-- The policy lists a star and allows credentials, but the request has no origin that could be
named in place of the star. -/
structure LacksOrigin (policy : CorsPolicy) (origin : Option String) : Prop where
  credentials : policy.allowCredentials
  star : "*" ∈ policy.allowedOrigins
  unnamed : origin = none ∨ origin = some "*"

variable {policy : CorsPolicy} {origin : Option String}

/-! ## The origin that is named -/

theorem allowOrigin_none :
    policy.allowOrigin none = if "*" ∈ policy.allowedOrigins then some "*" else none := by
  simp [allowOrigin, allowsAnyOrigin]

theorem allowOrigin_some (own : String) :
    policy.allowOrigin (some own) =
      if "*" ∈ policy.allowedOrigins ∧ policy.allowCredentials then some own
      else if own ∈ policy.allowedOrigins then some own
      else if "*" ∈ policy.allowedOrigins then some "*" else none := by
  simp [allowOrigin, allowsAnyOrigin]

/-- An origin that is named is that of the request. -/
theorem admitted_of_allowOrigin {value : String} (allowed : policy.allowOrigin origin = some value)
    (proper : value ≠ "*") :
    origin = some value ∧ (value ∈ policy.allowedOrigins ∨ "*" ∈ policy.allowedOrigins) := by
  cases origin with
  | none => grind [allowOrigin_none]
  | some own => grind [allowOrigin_some]

/-- A star is listed where it is named, and with credentials it stands for no origin. -/
theorem star_of_allowOrigin (allowed : policy.allowOrigin origin = some "*") :
    "*" ∈ policy.allowedOrigins ∧
      (policy.allowCredentials → origin = none ∨ origin = some "*") := by
  cases origin with
  | none => grind [allowOrigin_none]
  | some own => grind [allowOrigin_some]

theorem LacksOrigin.allowOrigin_eq (lacks : policy.LacksOrigin origin) :
    policy.allowOrigin origin = some "*" := by
  rcases lacks.unnamed with rfl | rfl
  · rw [allowOrigin_none, if_pos lacks.star]
  · rw [allowOrigin_some, if_pos ⟨lacks.star, lacks.credentials⟩]

/-! ## The headers that are set -/

/-- The headers by which the policy grants something to an origin. -/
def granted (policy : CorsPolicy) (origin : Option String) : List (String × String) :=
  match policy.allowOrigin origin with
  | none => []
  | some allowed =>
      (if allowed = "*" then [] else [("vary", "origin")]) ++
        [("access-control-allow-origin", allowed)] ++
        if policy.allowCredentials then [("access-control-allow-credentials", "true")] else []

theorem mem_granted_origin_iff {value : String} :
    ("access-control-allow-origin", value) ∈ policy.granted origin ↔
      policy.allowOrigin origin = some value := by
  cases allowed : policy.allowOrigin origin with
  | none => simp [granted, allowed]
  | some named => simp [granted, allowed, eq_comm (a := value)]

theorem mem_granted_credentials_iff {text : String} :
    ("access-control-allow-credentials", text) ∈ policy.granted origin ↔
      text = "true" ∧ policy.allowCredentials ∧
        ∃ value, policy.allowOrigin origin = some value := by
  cases allowed : policy.allowOrigin origin with
  | none => simp [granted, allowed]
  | some named => simp [granted, allowed, and_comm]

theorem mem_granted_vary {value : String} (allowed : policy.allowOrigin origin = some value)
    (proper : value ≠ "*") : ("vary", "origin") ∈ policy.granted origin := by
  simp [granted, allowed, proper]

/-- A response whose headers of this kind are those that the policy grants keeps to the policy
except where an origin is lacking. -/
theorem grantsSoundly_iff {response : Response}
    (grants : response.headersAmong grantNames = policy.granted origin) :
    policy.GrantsSoundly origin response ↔ ¬policy.LacksOrigin origin := by
  have mem_iff : ∀ name ∈ grantNames, ∀ text,
      (name, text) ∈ response.headers ↔ (name, text) ∈ policy.granted origin := by
    intro name listed text
    rw [← grants, Response.mem_headersAmong, and_iff_left listed]
  have origin_iff := mem_iff "access-control-allow-origin" (by decide)
  have credentials_iff := mem_iff "access-control-allow-credentials" (by decide)
  have vary_iff := mem_iff "vary" (by decide)
  simp only [mem_granted_origin_iff] at origin_iff
  simp only [mem_granted_credentials_iff] at credentials_iff
  constructor
  · intro sound lacks
    apply sound.notBoth
    rw [origin_iff, credentials_iff]
    exact ⟨lacks.allowOrigin_eq, rfl, lacks.credentials, _, lacks.allowOrigin_eq⟩
  · intro proper
    have uncredited : policy.allowOrigin origin = some "*" →
        ∀ text, ("access-control-allow-credentials", text) ∉ response.headers := by
      intro allowed text set
      rcases star_of_allowOrigin allowed with ⟨star, unnamed⟩
      rcases (credentials_iff text).mp set with ⟨_, credentials, _⟩
      exact proper ⟨credentials, star, unnamed credentials⟩
    constructor
    · intro value set
      have allowed := (origin_iff value).mp set
      by_cases isStar : value = "*"
      · subst isStar
        exact .inr ⟨rfl, (star_of_allowOrigin allowed).1, uncredited allowed⟩
      · rcases admitted_of_allowOrigin allowed isStar with ⟨own, admitted⟩
        exact .inl ⟨own, admitted, (vary_iff _).mpr (mem_granted_vary allowed isStar)⟩
    · rintro ⟨set, credited⟩
      exact uncredited ((origin_iff _).mp set) _ credited

end CorsPolicy

open CorsPolicy (grantNames)
open Exchange (KeepsHeaders)

/-! ## Stages -/

namespace Stage

variable {policy : CorsPolicy} {exchange : Exchange State}

/-- Where nothing was granted before, what is granted is what the policy grants. -/
theorem headersAmong_grantOrigin (ungranted : exchange.response.headersAmong grantNames = []) :
    (grantOrigin policy exchange).response.headersAmong grantNames =
      policy.granted (exchange.request.header? "origin") := by
  have listed : ∀ name ∈ grantNames, Text.lowered name = name := by decide
  have sets : ∀ (exchange : Exchange State), ∀ name ∈ grantNames, ∀ text,
      (exchange.setHeader name text).response.headersAmong grantNames =
        (exchange.response.headersAmong grantNames).filter (fun header => header.1 ≠ name) ++
          [(name, text)] := by
    intro exchange name isListed text
    have set := @Response.headersAmong_withHeader grantNames exchange.response name (.string text)
    rw [listed name isListed, if_pos isListed] at set
    exact set
  have vary := fun exchange => sets exchange "vary" (by decide)
  have names := fun exchange => sets exchange "access-control-allow-origin" (by decide)
  have credits := fun exchange => sets exchange "access-control-allow-credentials" (by decide)
  have exposes : ∀ (exchange : Exchange State) text,
      (exchange.setHeader "access-control-expose-headers" text).response.headersAmong grantNames =
        exchange.response.headersAmong grantNames := by
    intro exchange text
    have other : ¬(ResponseOp.setHeader "access-control-expose-headers"
        (.string text)).SetsAmong grantNames :=
      (by decide : Text.lowered "access-control-expose-headers" ∉ grantNames)
    exact exchange.response.headersAmong_apply other
  rw [grantOrigin, CorsPolicy.granted]
  cases policy.allowOrigin (exchange.request.header? "origin") with
  | none => exact ungranted
  | some allowed =>
      by_cases any : allowed = "*" <;> by_cases credited : policy.allowCredentials <;>
        by_cases unexposed : policy.exposedHeaders.isEmpty <;>
          simp [any, credited, unexposed, vary, names, credits, exposes, ungranted]

/-- The answer to a preflight question grants nothing by these headers. -/
theorem keepsHeaders_answerPreflight (policy : CorsPolicy) (exchange : Exchange State) :
    KeepsHeaders grantNames exchange (answerPreflight policy exchange) := by
  have others : ∀ name ∈ ["access-control-allow-methods", "access-control-allow-headers",
      "access-control-max-age"], Text.lowered name ∉ grantNames := by decide
  rw [answerPreflight_eq_setHeaders]
  apply ((KeepsHeaders.refl exchange).andHeaders _).andRespondAll
  · simp [ResponseOp.SetsAmong]
  · intro header set
    exact others header.1 (CorsPolicy.name_of_mem_preflightHeaders set)

/-- A stage of a cross-origin policy that ends the passage or hands on to nothing else grants what
the policy grants. -/
theorem headersAmong_cors (ungranted : exchange.response.headersAmong grantNames = []) :
    (cors policy Passage.done exchange).exchange.response.headersAmong grantNames =
      policy.granted (exchange.request.header? "origin") := by
  rw [← headersAmong_grantOrigin ungranted, cors]
  split
  · exact keepsHeaders_answerPreflight policy _
  · rfl

end Stage

/-! ## Routes -/

namespace Route

variable {route : Route State} {visit : Visit State}

/-- The stages of the endpoint's own leave the headers alone by which a response grants
something. -/
structure LeavesGrants (route : Route State) : Prop where
  userStages : ∀ stage ∈ route.userStages, Stage.Preserves (KeepsHeaders grantNames) stage
  handler : ∀ exchange, ∀ op ∈ (route.handler exchange).ops, ¬op.SetsAmong grantNames

theorem headersAmong_greeted (route : Route State) (visit : Visit State) :
    (route.greeted visit).response.headersAmong grantNames =
      route.cors.granted (visit.request.header? "origin") := by
  refine Stage.headersAmong_grantOrigin (?_ : Response.headersAmong grantNames
    (Response.withHeader {} correlationHeader (.string visit.correlationId)) = [])
  rw [Response.headersAmong_withHeader]
  exact if_neg (by decide)

theorem headersAmong_options (route : Route State) (visit : Visit State) :
    (route.options visit).response.headersAmong grantNames =
      route.cors.granted (visit.request.header? "origin") := by
  rw [← headersAmong_greeted]
  by_cases asks : Stage.AsksPreflight visit.request
  · rw [options_of_preflight asks]
    exact Stage.keepsHeaders_answerPreflight route.cors _
  · rw [options_of_other asks]
    rfl

/-- A settlement sets no headers. -/
theorem headers_settle (route : Route State) (ended : Passage State) :
    (route.settle ended).response.headers = ended.exchange.response.headers := by
  cases sent : ended.exchange.response.sent with
  | true => rw [response_settle_of_sent sent]
  | false =>
      rw [settle]
      cases ended.failure with
      | some failure =>
          dsimp only
          rw [settleFailure_of_unsent failure sent]
      | none =>
          simp [sent, settleSilence, Exchange.respondAll, Exchange.respond, Exchange.log,
            Response.apply, Response.answer]

theorem LeavesGrants.headersAmong_answer (leaves : route.LeavesGrants) (visit : Visit State) :
    (route.answer visit).response.headersAmong grantNames =
      route.cors.granted (visit.request.header? "origin") := by
  rw [← headersAmong_greeted, answer_eq_answerUnder]
  have settles := route.headers_settle
    (route.passage (route.checks route.verdict? ++ route.ownStages) visit)
  have passes : KeepsHeaders grantNames (route.greeted visit)
      (route.passage (route.checks route.verdict? ++ route.ownStages) visit).exchange := by
    by_cases asks : Stage.AsksPreflight visit.request
    · rw [passage_of_preflight asks]
      exact Stage.keepsHeaders_answerPreflight route.cors _
    · rw [passage_of_other asks]
      apply Stage.preserves_chain KeepsHeaders.refl
      rw [List.forall_mem_append]
      exact ⟨preserves_checks .ofResponse .trans route route.verdict?,
        forall_mem_ownStages leaves.userStages
          (Stage.preserves_keepsHeaders_handle leaves.handler)⟩
  rw [← passes, Response.headersAmong, Response.headersAmong, ← settles]
  rfl

/-- A response grants no more than the policy allows exactly where an origin can be named when
credentials are allowed with a star.  This holds of what the policy itself sets, of the answer to
a question about options and of every answer of an endpoint that leaves these headers alone. -/
theorem grantsSoundly_iff_not_lacksOrigin (route : Route State) (visit : Visit State) :
    (∀ exchange : Exchange State, exchange.response.headersAmong grantNames = [] →
      (route.cors.GrantsSoundly (exchange.request.header? "origin")
          (Stage.cors route.cors Passage.done exchange).exchange.response ↔
        ¬route.cors.LacksOrigin (exchange.request.header? "origin"))) ∧
    (route.cors.GrantsSoundly (visit.request.header? "origin") (route.options visit).response ↔
      ¬route.cors.LacksOrigin (visit.request.header? "origin")) ∧
    (route.LeavesGrants →
      (route.cors.GrantsSoundly (visit.request.header? "origin") (route.answer visit).response ↔
        ¬route.cors.LacksOrigin (visit.request.header? "origin"))) := by
  refine ⟨?_, ?_, ?_⟩
  · intro exchange ungranted
    exact CorsPolicy.grantsSoundly_iff (Stage.headersAmong_cors ungranted)
  · exact CorsPolicy.grantsSoundly_iff (route.headersAmong_options visit)
  · intro leaves
    exact CorsPolicy.grantsSoundly_iff (leaves.headersAmong_answer visit)

/-! ### An endpoint for pages of all origins -/

/-- An endpoint whose policy lists a star and allows credentials. -/
def creditedRoute : Route Nat where
  basePath := ""
  path := "/ledger"
  method := "GET"
  contract := { name := "ledger" }
  compiled := { request := .ofNothing .native
                responses := []
                responseHeaders := none }
  cors := { allowCredentials := true }
  auth := none
  userStages := []
  handler := fun exchange => { state := exchange.state, ops := [.sendJson (.ok (.bool true))] }

/-- A request with some headers to the endpoint. -/
def ledgerVisit (headers : List (String × Value)) : Visit Nat where
  request := { method := "GET", path := "/ledger", headers := .object headers }
  state := 0
  occasion := .atStart "fresh"

/-- A page of another origin is named and may send credentials. -/
theorem creditedRoute_grantsSoundly :
    let visit := ledgerVisit [("origin", .string "app.example")]
    creditedRoute.LeavesGrants ∧
      creditedRoute.cors.GrantsSoundly (some "app.example")
        (creditedRoute.answer visit).response := by
  intro visit
  have leaves : creditedRoute.LeavesGrants := by
    constructor
    · simp [creditedRoute]
    · intro exchange op member
      rw [List.mem_singleton.mp member]
      exact (by decide : "content-type" ∉ grantNames)
  refine ⟨leaves, (((grantsSoundly_iff_not_lacksOrigin creditedRoute visit).2.2 leaves).mpr ?_)⟩
  intro lacks
  have unnamed : some "app.example" = none ∨ some "app.example" = some "*" := lacks.unnamed
  simp at unnamed

/-- Without an origin, a star is granted together with credentials. -/
theorem creditedRoute_overgrants :
    ¬creditedRoute.cors.GrantsSoundly none (creditedRoute.answer (ledgerVisit [])).response := by
  intro sound
  exact sound.notBoth (by decide +kernel)

end Route

end ApiContract
