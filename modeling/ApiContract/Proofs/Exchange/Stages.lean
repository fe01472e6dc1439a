import ApiContract.Exchange.Stage

/-!
# What the stages before an endpoint do

The stages that every endpoint has set headers of the response and facts about the
request, and at most one of them ends the passage.  This module says of each of them
what it hands on, so that later proofs need not open it.
-/

namespace ApiContract

variable {State : Type}

namespace Exchange

/-- The exchange with other headers of the response. -/
def withHeaders (exchange : Exchange State) (headers : List (String × String)) :
    Exchange State :=
  { exchange with response := { exchange.response with headers := headers } }

/-- Two exchanges differ at most in the headers of the response. -/
def SameButHeaders (before after : Exchange State) : Prop :=
  ∃ headers, after = before.withHeaders headers

namespace SameButHeaders

variable {before between after other : Exchange State}

theorem refl (exchange : Exchange State) : SameButHeaders exchange exchange :=
  ⟨exchange.response.headers, rfl⟩

theorem trans (first : SameButHeaders before between) (second : SameButHeaders between after) :
    SameButHeaders before after := by
  rcases first with ⟨_, rfl⟩
  rcases second with ⟨headers, rfl⟩
  exact ⟨headers, rfl⟩

theorem setHeader (exchange : Exchange State) (name text : String) :
    SameButHeaders exchange (exchange.setHeader name text) := by
  refine ⟨(exchange.response.withHeader name (.string text)).headers, ?_⟩
  simp [Exchange.setHeader, respond, Response.apply, Telemetry.logAll, withHeaders,
    Response.withHeader]

end SameButHeaders

/-- The exchange with headers set to values, one after the other. -/
def setHeaders (exchange : Exchange State) (headers : List (String × Value)) : Exchange State :=
  exchange.respondAll (headers.map fun header => .setHeader header.1 header.2)

theorem sameButHeaders_setHeaders (exchange : Exchange State) (headers : List (String × Value)) :
    SameButHeaders exchange (exchange.setHeaders headers) := by
  induction headers generalizing exchange with
  | nil => exact .refl exchange
  | cons header rest ih =>
      have first : SameButHeaders exchange (exchange.respond (.setHeader header.1 header.2)) := by
        refine ⟨(exchange.response.withHeader header.1 header.2).headers, ?_⟩
        simp [respond, Response.apply, Telemetry.logAll, withHeaders, Response.withHeader]
      exact first.trans (ih _)

theorem mem_headers_setHeaders {exchange : Exchange State} {headers : List (String × Value)}
    {header : String × String}
    (member : header ∈ (exchange.setHeaders headers).response.headers) :
    header ∈ exchange.response.headers ∨
      ∃ set ∈ headers, header.1 = Text.lowered set.1 := by
  induction headers generalizing exchange with
  | nil => exact .inl member
  | cons first rest ih =>
      have later : header ∈
          (exchange.respond (.setHeader first.1 first.2)).response.headers ∨
            ∃ set ∈ rest, header.1 = Text.lowered set.1 := ih member
      rcases later with before | ⟨set, isSet, named⟩
      · rcases List.mem_append.mp before with kept | added
        · exact .inl (List.mem_filter.mp kept).1
        · rcases List.mem_map.mp added with ⟨text, _, rfl⟩
          exact .inr ⟨first, List.mem_cons_self, rfl⟩
      · exact .inr ⟨set, List.mem_cons_of_mem _ isSet, named⟩

end Exchange

/-! ## Headers of a cross-origin policy -/

namespace CorsPolicy

/-- The headers that name what is granted to an origin. -/
def grants (policy : CorsPolicy) (origin : Option String) : List (String × Value) :=
  match policy.allowOrigin origin with
  | none => []
  | some allowed =>
      (if allowed = "*" then [] else [("vary", .string "origin")]) ++
      [("access-control-allow-origin", .string allowed)] ++
      (if policy.allowCredentials then [("access-control-allow-credentials", .string "true")]
        else []) ++
      if policy.exposedHeaders.isEmpty then []
      else
        [("access-control-expose-headers", .string (", ".intercalate policy.exposedHeaders))]

/-- The headers that answer a preflight question about some headers. -/
def preflightHeaders (policy : CorsPolicy) (wanted : Option String) : List (String × Value) :=
  [("access-control-allow-methods", .string policy.methodsText),
    ("access-control-allow-headers", .string (policy.headersText wanted))] ++
  (policy.maxAgeSeconds.map fun seconds =>
    ("access-control-max-age", .string (Text.decimalText seconds))).toList

variable {policy : CorsPolicy} {header : String × Value}

theorem name_of_mem_grants {origin : Option String} (member : header ∈ policy.grants origin) :
    header.1 ∈ ["vary", "access-control-allow-origin", "access-control-allow-credentials",
      "access-control-expose-headers"] := by
  rw [grants] at member
  split at member
  · cases member
  · simp only [List.mem_append, List.mem_ite_nil_left, List.mem_ite_nil_right,
      List.mem_singleton] at member
    rcases member with ((⟨_, rfl⟩ | rfl) | ⟨_, rfl⟩) | ⟨_, rfl⟩ <;> simp

theorem name_of_mem_preflightHeaders {wanted : Option String}
    (member : header ∈ policy.preflightHeaders wanted) :
    header.1 ∈ ["access-control-allow-methods", "access-control-allow-headers",
      "access-control-max-age"] := by
  simp only [preflightHeaders, List.mem_append, List.mem_cons, List.not_mem_nil, or_false,
    Option.mem_toList, Option.map_eq_some_iff] at member
  rcases member with (rfl | rfl) | ⟨_, _, rfl⟩ <;> simp

end CorsPolicy

namespace Stage

open Exchange

/-! ## What passages preserve -/

/-- A stage preserves a relation when the end of its passage stands in the relation to its
start, provided that what follows has that property. -/
def Preserves (relation : Exchange State → Exchange State → Prop) (stage : Stage State) : Prop :=
  ∀ next, (∀ exchange, relation exchange (next exchange).exchange) →
    ∀ exchange, relation exchange (stage next exchange).exchange

theorem preserves_chain {relation : Exchange State → Exchange State → Prop}
    (reflexive : ∀ exchange, relation exchange exchange) {stages : List (Stage State)}
    (preserving : ∀ stage ∈ stages, Preserves relation stage) (exchange : Exchange State) :
    relation exchange (chain stages exchange).exchange := by
  induction stages generalizing exchange with
  | nil => exact reflexive exchange
  | cons stage rest ih =>
      rcases List.forall_mem_cons.mp preserving with ⟨first, others⟩
      exact first (chain rest) (ih others) exchange

/-! ## Context -/

/-- The context that a request is given: its own correlation id unless it is blank, else
the fresh one. -/
def contextOf (request : Request) (occasion : Occasion) : RequestContext where
  correlationId :=
    ((request.header? correlationHeader).filter fun id => !Text.isBlankText id).getD
      occasion.freshId
  idempotencyKey := request.header? idempotencyHeader

/-- The exchange after its request was given a context. -/
def inContext (exchange : Exchange State) (headers : List (String × String)) :
    Exchange State :=
  { exchange.withHeaders headers with
    request :=
      { exchange.request with
        context := some (contextOf exchange.request exchange.occasion) } }

theorem context_eq (exchange : Exchange State) :
    ∃ headers, ∀ next, context next exchange = next (inContext exchange headers) := by
  let correlationId := (contextOf exchange.request exchange.occasion).correlationId
  rcases SameButHeaders.setHeader exchange correlationHeader correlationId with ⟨headers, same⟩
  refine ⟨headers, ?_⟩
  intro next
  rw [inContext, ← same]
  rfl

/-! ## Cross-origin requests -/

/-- The request asks, for a page of another origin, what the page may do. -/
def AsksPreflight (request : Request) : Prop :=
  request.method = "OPTIONS" ∧
    ∃ wanted, request.header? "access-control-request-method" = some wanted

theorem isPreflight_iff {request : Request} : isPreflight request ↔ AsksPreflight request := by
  simp [isPreflight, AsksPreflight, Option.isSome_iff_exists]

theorem grantOrigin_eq_setHeaders (policy : CorsPolicy) (exchange : Exchange State) :
    grantOrigin policy exchange =
      exchange.setHeaders (policy.grants (exchange.request.header? "origin")) := by
  rw [grantOrigin, CorsPolicy.grants]
  cases policy.allowOrigin (exchange.request.header? "origin") with
  | none => rfl
  | some allowed =>
      by_cases any : allowed = "*" <;> by_cases credited : policy.allowCredentials <;>
        by_cases unexposed : policy.exposedHeaders.isEmpty <;>
          simp [any, credited, unexposed, setHeaders, respondAll, setHeader]

theorem answerPreflight_eq_setHeaders (policy : CorsPolicy) (exchange : Exchange State) :
    answerPreflight policy exchange =
      (exchange.setHeaders (policy.preflightHeaders
        (exchange.request.header? "access-control-request-headers"))).respondAll
          [.setStatus 204, .finish] := by
  rw [answerPreflight, CorsPolicy.preflightHeaders]
  cases policy.maxAgeSeconds with
  | none => rfl
  | some seconds => rfl

theorem sameButHeaders_grantOrigin (policy : CorsPolicy) (exchange : Exchange State) :
    SameButHeaders exchange (grantOrigin policy exchange) := by
  rw [grantOrigin_eq_setHeaders]
  exact sameButHeaders_setHeaders exchange _

/-- The answer to the question what is allowed is a status without a payload. -/
theorem answerPreflight_eq (policy : CorsPolicy) (exchange : Exchange State)
    (unsent : exchange.response.sent = false) :
    ∃ headers, answerPreflight policy exchange =
      { exchange with
        response :=
          { exchange.response with status := some 204, headers := headers, sent := true } } := by
  rcases exchange.sameButHeaders_setHeaders (policy.preflightHeaders
    (exchange.request.header? "access-control-request-headers")) with ⟨headers, same⟩
  refine ⟨headers, ?_⟩
  rw [answerPreflight_eq_setHeaders, same]
  simp [respondAll, respond, Response.apply, Response.answer, withHeaders, unsent,
    Telemetry.logAll]

theorem cors_of_preflight (policy : CorsPolicy) (exchange : Exchange State)
    (asks : AsksPreflight exchange.request) (unsent : exchange.response.sent = false) :
    ∃ headers, ∀ next, cors policy next exchange =
      .done { exchange with
        response :=
          { exchange.response with status := some 204, headers := headers, sent := true } } := by
  rcases sameButHeaders_grantOrigin policy exchange with ⟨granted, same⟩
  rcases answerPreflight_eq policy (exchange.withHeaders granted) unsent with ⟨headers, answered⟩
  have asked : isPreflight (exchange.withHeaders granted).request := isPreflight_iff.mpr asks
  refine ⟨headers, ?_⟩
  intro next
  rw [cors, same]
  dsimp only
  rw [if_pos asked, answered]
  rfl

theorem cors_of_other (policy : CorsPolicy) (exchange : Exchange State)
    (other : ¬AsksPreflight exchange.request) :
    ∃ headers, ∀ next, cors policy next exchange = next (exchange.withHeaders headers) := by
  rcases sameButHeaders_grantOrigin policy exchange with ⟨headers, same⟩
  refine ⟨headers, ?_⟩
  intro next
  rw [cors, same]
  exact if_neg fun asks => other (isPreflight_iff.mp asks)

end Stage

/-! ## Verdicts -/

/-- Lets only those pass on whom the verdict is good. -/
def Stage.permit (verdict : Verdict) : Stage State := fun next exchange =>
  match verdict (exchange.request.header? "authorization") with
  | .error reason => .failed exchange (.unauthorized reason)
  | .ok principal =>
      next { exchange with request := { exchange.request with principal := some principal } }

theorem Stage.auth_eq_permit (policy : AuthPolicy) (identities : Identities) :
    (Stage.auth policy identities : Stage State) = Stage.permit (policy.verdict identities) := rfl

end ApiContract
