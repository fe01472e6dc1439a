import ApiContract.Proofs.Exchange.Authorization
import ApiContract.Proofs.Routing.Options

/-!
# What callers learn from failures

A request that is aborted before anything of the endpoint's own was recorded is answered from
its greeting, the status of the failure and its correlation id.  Neither the reason why a
caller was turned away, nor the issues of a request, nor what a handler has to say can be told
from the response.
-/

namespace ApiContract

variable {State : Type}

/-! ## Callers that no table knows -/

namespace AuthPolicy

variable {policy : AuthPolicy} {identities : Identities} {request : Request}

/-- The ways in which a request fails to show who sent it. -/
inductive Unrecognized (policy : AuthPolicy) (identities : Identities) (request : Request) :
    Prop where
  /-- There is no authorization header, or a blank one. -/
  | missing (absent : ∀ header, request.header? "authorization" = some header →
      Text.isBlankText header)
  /-- The header starts with something else than the scheme. -/
  | otherScheme (header : String) (found : request.header? "authorization" = some header)
      (filled : ¬Text.isBlankText header)
      (other : ∀ start rest, header.toList = start ++ rest →
        start.map Text.asciiLower ≠ policy.method.scheme.toList.map Text.asciiLower)
  /-- A basic credential does not stand for a name and a password. -/
  | undecodable (credential : String) (basic : policy.method = .basic)
      (presents : policy.Presents request credential)
      (broken : ∀ text, Identities.decodeBasic credential ≠ .ok text)
  /-- Nobody is listed under the credential. -/
  | unknown (credential key : String) (presents : policy.Presents request credential)
      (isKey : Identities.credentialKey policy.method credential = .ok key)
      (unlisted : Entries.get? identities key = none)

/-- A request presents one credential at most. -/
theorem eq_of_presents {credential other : String} (presents : policy.Presents request credential)
    (again : policy.Presents request other) : credential = other := by
  rcases presents with ⟨header, found, _, start, shape, same⟩
  rcases again with ⟨header', found', _, start', shape', same'⟩
  rw [found] at found'
  cases found'
  -- The scheme takes the same number of characters in both, so the rest is the same.
  have lengths : start.length = start'.length := by
    have mapped := congrArg List.length (same.trans same'.symm)
    simpa using mapped
  have split := List.append_inj (shape.symm.trans shape') lengths
  exact String.toList_inj.mp split.2

theorem Unrecognized.not_recognizes (unrecognized : policy.Unrecognized identities request)
    (identity : Identity) : ¬policy.Recognizes identities request identity := by
  rintro ⟨credential, presents, key, isKey, listed⟩
  cases unrecognized with
  | missing absent =>
      rcases presents with ⟨header, found, filled, _⟩
      exact filled (absent header found)
  | otherScheme header found filled other =>
      rcases presents with ⟨header', found', _, start, shape, same⟩
      rw [found] at found'
      cases found'
      exact other start credential.toList shape same
  | undecodable credential' basic presents' broken =>
      cases eq_of_presents presents presents'
      rw [basic, Identities.credentialKey] at isKey
      exact broken key isKey
  | unknown credential' key' presents' isKey' unlisted =>
      cases eq_of_presents presents presents'
      rw [isKey] at isKey'
      cases isKey'
      rw [listed] at unlisted
      cases unlisted

end AuthPolicy

/-! ## Aborted visits -/

namespace Route

/-- The visit is aborted with a failure, when the response is still as the stages of every
endpoint leave it and the request has the given correlation id. -/
structure Aborts (route : Route State) (verdict : Option Verdict) (visit : Visit State)
    (failure : Failure) (correlationId : String) : Prop where
  fails : (route.passage (route.checks verdict ++ route.ownStages) visit).failure = some failure
  untouched : (route.passage (route.checks verdict ++ route.ownStages) visit).exchange.response =
    (route.passage (route.checks verdict) visit).exchange.response
  named : (route.passage (route.checks verdict ++ route.ownStages)
    visit).exchange.request.correlationId = correlationId

variable {route : Route State} {verdict verdict' : Option Verdict} {visit here there : Visit State}
  {failure failure' : Failure} {correlationId : String}

theorem Aborts.other (aborts : route.Aborts verdict visit failure correlationId) :
    ¬Stage.AsksPreflight visit.request := by
  intro asks
  have fails := aborts.fails
  rw [passage_of_preflight asks] at fails
  cases fails

theorem Aborts.response_eq (aborts : route.Aborts verdict visit failure correlationId) :
    (route.passage (route.checks verdict ++ route.ownStages) visit).exchange.response =
      (route.greeted visit).response := by
  rw [aborts.untouched, response_passage_checks aborts.other]

/-- What the caller is told when a visit is aborted: the greeting, the status, its reason
phrase and the correlation id. -/
theorem Aborts.response_answerUnder (aborts : route.Aborts verdict visit failure correlationId) :
    (route.answerUnder verdict visit).response =
      { (route.greeted visit).response with
        status := some failure.status
        body := some (.string
          (Failure.withCorrelation (Failure.reason failure.status) correlationId))
        sent := true } := by
  have ends : route.passage (route.checks verdict ++ route.ownStages) visit =
      .failed (route.passage (route.checks verdict ++ route.ownStages) visit).exchange failure := by
    rw [Passage.failed, ← aborts.fails]
  have unsent : (route.passage (route.checks verdict ++ route.ownStages)
      visit).exchange.response.sent = false := by
    rcases route.exists_greeted_eq visit with ⟨headers, greeting⟩
    rw [aborts.response_eq, greeting]
  rw [answerUnder, answerThrough, ends, finish_of_failed failure unsent]
  dsimp only
  rw [aborts.response_eq, aborts.named, Failure.publicMessage]

/-- Two aborted visits that look the same from outside are answered alike when their failures
have one status. -/
theorem Aborts.response_congr (left : route.Aborts verdict here failure correlationId)
    (right : route.Aborts verdict' there failure' correlationId)
    (sameOutside : here.request.SameOutside there.request)
    (sameId : here.correlationId = there.correlationId)
    (sameStatus : failure.status = failure'.status) :
    (route.answerUnder verdict here).response = (route.answerUnder verdict' there).response := by
  have greetings : (route.greeted here).response = (route.greeted there).response :=
    response_greeted_congr rfl sameId sameOutside.origin
  rw [left.response_answerUnder, right.response_answerUnder, greetings, sameStatus]

/-! ## Visits that the checks abort -/

/-- The exchange of a visit that reaches the checks, with the given principal. -/
def attached (route : Route State) (visit : Visit State) (principal : Option Principal) :
    Exchange State :=
  { route.greeted visit with
    request :=
      { visit.request with
        context := some (Stage.contextOf visit.request visit.occasion)
        contract := some route.contract
        principal := principal } }

/-- What follows the contract finds it attached to the request. -/
theorem chain_attach_greeted (later : List (Stage State)) :
    Stage.chain (Stage.attach route.contract :: later) (route.greeted visit) =
      Stage.chain later (route.attached visit visit.request.principal) := by
  have enriched : ({ route.greeted visit with
      request := { (route.greeted visit).request with contract := some route.contract } } :
        Exchange State) = route.attached visit visit.request.principal := by
    rw [request_greeted, attached]
  rw [← enriched]
  rfl

/-- A passage that ends in the checks with the request as it arrived aborts the visit. -/
theorem aborts_of_passage {principal : Option Principal}
    (ends : ∀ own, route.passage (route.checks verdict ++ own) visit =
      .failed (route.attached visit principal) failure) :
    route.Aborts verdict visit failure visit.correlationId := by
  have alone := ends []
  rw [List.append_nil] at alone
  exact {
    fails := by rw [ends]; rfl
    untouched := by rw [ends, alone]
    named := by rw [ends]; rfl }

/-- Whoever the verdict turns away aborts the visit. -/
theorem aborts_of_verdict {judge : Verdict} {reason : AuthFailure}
    (other : ¬Stage.AsksPreflight visit.request)
    (turned : judge (visit.request.header? "authorization") = .error reason) :
    route.Aborts (some judge) visit (.unauthorized reason) visit.correlationId := by
  apply aborts_of_passage
  intro own
  have asked : judge ((route.attached visit visit.request.principal).request.header?
      "authorization") = .error reason := turned
  rw [passage_of_other other, checks]
  simp only [Option.map_some, Option.toList_some, List.cons_append, List.nil_append]
  rw [chain_attach_greeted]
  show Stage.permit judge _ _ = _
  rw [Stage.permit, asked]

/-- The verdict, where one is asked for, lets the request pass with the given principal. -/
inductive Admits (request : Request) : Option Verdict → Option Principal → Prop where
  | unasked : Admits request none request.principal
  | good {judge : Verdict} {principal : Principal}
      (good : judge (request.header? "authorization") = .ok principal) :
      Admits request (some judge) (some principal)

theorem passage_of_admits {principal : Option Principal}
    (other : ¬Stage.AsksPreflight visit.request)
    (admits : Admits visit.request verdict principal) (own : List (Stage State)) :
    route.passage (route.checks verdict ++ own) visit =
      Stage.parse route.contract route.compiled.request (Stage.chain own)
        (route.attached visit principal) := by
  rw [passage_of_other other, checks]
  cases admits with
  | unasked =>
      simp only [Option.map_none, Option.toList_none, List.cons_append, List.nil_append]
      rw [chain_attach_greeted]
      rfl
  | @good judge principal good =>
      have asked : judge ((route.attached visit visit.request.principal).request.header?
          "authorization") = .ok principal := good
      simp only [Option.map_some, Option.toList_some, List.cons_append, List.nil_append]
      rw [chain_attach_greeted]
      show Stage.permit judge _ _ = _
      rw [Stage.permit, asked]
      rfl

/-- An invalid request aborts the visit, where requests are checked strictly. -/
theorem aborts_of_invalid {principal : Option Principal} {issues : List Issue}
    (other : ¬Stage.AsksPreflight visit.request)
    (admits : Admits visit.request verdict principal)
    (strict : route.contract.options.requestValidation = .error)
    (refused : route.compiled.request.parse visit.request.input = .error issues) :
    route.Aborts verdict visit (.invalidRequest issues) visit.correlationId := by
  apply aborts_of_passage
  intro own
  rw [passage_of_admits other admits]
  exact parse_of_refused refused strict _

/-! ## Callers judged by a table -/

variable {policy : AuthPolicy} {identities : Identities}

theorem verdict?_eq (guarded : route.auth = some (policy, identities)) :
    route.verdict? = some (policy.verdict identities) := by
  rw [verdict?, guarded]
  rfl

theorem admits_of_letsThrough {request : Request} {principal : Option Principal}
    (passes : route.LetsThrough request principal) :
    Admits request route.verdict? principal := by
  cases passes with
  | unasked unguarded =>
      rw [verdict?, unguarded]
      exact .unasked
  | permitted guarded recognized permits =>
      rw [verdict?_eq guarded]
      exact .good (Stage.identify_of_permits recognized permits)

/-- The answer to a visit that is aborted unless it asks a preflight question. -/
theorem response_answer_congr {status : Nat} (sameOutside : here.request.SameOutside there.request)
    (sameId : here.correlationId = there.correlationId)
    (left : ¬Stage.AsksPreflight here.request → ∃ failure, failure.status = status ∧
      route.Aborts route.verdict? here failure here.correlationId)
    (right : ¬Stage.AsksPreflight there.request → ∃ failure, failure.status = status ∧
      route.Aborts route.verdict? there failure there.correlationId) :
    (route.answer here).response = (route.answer there).response := by
  -- A preflight question is answered before anyone is judged.
  by_cases asks : Stage.AsksPreflight here.request
  · rw [(route.answersOptions here).preflight asks,
      (route.answersOptions there).preflight (sameOutside.asksPreflight_iff.mp asks)]
    exact response_options_congr rfl sameOutside sameId
  · rcases left asks with ⟨failure, status, aborts⟩
    rcases right fun asksThere => asks (sameOutside.asksPreflight_iff.mpr asksThere) with
      ⟨failure', status', aborts'⟩
    rw [answer_eq_answerUnder, answer_eq_answerUnder]
    exact aborts.response_congr (sameId ▸ aborts') sameOutside sameId
      (status.trans status'.symm)

theorem exists_aborts_of_unrecognized (guarded : route.auth = some (policy, identities))
    (unrecognized : policy.Unrecognized identities visit.request)
    (other : ¬Stage.AsksPreflight visit.request) :
    ∃ failure, failure.status = 401 ∧
      route.Aborts route.verdict? visit failure visit.correlationId := by
  rcases Stage.exists_identify_eq_unauthorized unrecognized.not_recognizes with
    ⟨reason, turned, status⟩
  rw [verdict?_eq guarded]
  exact ⟨.unauthorized reason, status, aborts_of_verdict other turned⟩

theorem exists_aborts_of_denied {identity : Identity}
    (guarded : route.auth = some (policy, identities))
    (known : policy.Recognizes identities visit.request identity)
    (denied : ¬policy.Permits identity.roles identity.permissions)
    (other : ¬Stage.AsksPreflight visit.request) :
    ∃ failure, failure.status = 403 ∧
      route.Aborts route.verdict? visit failure visit.correlationId := by
  rcases Stage.exists_identify_eq_forbidden known denied with ⟨reason, turned⟩
  rw [verdict?_eq guarded]
  exact ⟨.unauthorized (.forbidden reason), rfl, aborts_of_verdict other turned⟩

theorem exists_aborts_of_invalid {principal : Option Principal} {issues : List Issue}
    (strict : route.contract.options.requestValidation = .error)
    (passes : route.LetsThrough visit.request principal)
    (refused : route.compiled.request.parse visit.request.input = .error issues)
    (other : ¬Stage.AsksPreflight visit.request) :
    ∃ failure, failure.status = 400 ∧
      route.Aborts route.verdict? visit failure visit.correlationId :=
  ⟨.invalidRequest issues, rfl,
    aborts_of_invalid other (admits_of_letsThrough passes) strict refused⟩

/-- Nothing but the class of a failure can be told from the response to a visit. -/
structure TellsOnlyStatus (route : Route State) : Prop where
  /-- Visits that are aborted before the endpoint's own stages recorded anything, with failures
  of one status, are answered alike. -/
  aborted : ∀ verdict verdict' here there failure failure' correlationId,
    here.request.SameOutside there.request →
    here.correlationId = there.correlationId →
    route.Aborts verdict here failure correlationId →
    route.Aborts verdict' there failure' correlationId →
    failure.status = failure'.status →
      (route.answerUnder verdict here).response = (route.answerUnder verdict' there).response
  /-- In which way a request fails to show who sent it makes no difference. -/
  unrecognized : ∀ policy identities, route.auth = some (policy, identities) →
    ∀ here there, here.request.SameOutside there.request →
    here.correlationId = there.correlationId →
    policy.Unrecognized identities here.request → policy.Unrecognized identities there.request →
      (route.answer here).response = (route.answer there).response
  /-- Who was denied, and for which role or permission, makes no difference. -/
  denied : ∀ policy identities, route.auth = some (policy, identities) →
    ∀ here there identity identity', here.request.SameOutside there.request →
    here.correlationId = there.correlationId →
    policy.Recognizes identities here.request identity →
    ¬policy.Permits identity.roles identity.permissions →
    policy.Recognizes identities there.request identity' →
    ¬policy.Permits identity'.roles identity'.permissions →
      (route.answer here).response = (route.answer there).response
  /-- What is wrong with an invalid request makes no difference. -/
  invalid : route.contract.options.requestValidation = .error →
    ∀ here there principal principal' issues issues', here.request.SameOutside there.request →
    here.correlationId = there.correlationId →
    route.LetsThrough here.request principal →
    route.compiled.request.parse here.request.input = .error issues →
    route.LetsThrough there.request principal' →
    route.compiled.request.parse there.request.input = .error issues' →
      (route.answer here).response = (route.answer there).response
  /-- What a stage or the handler says about its failure makes no difference. -/
  handler : ∀ here there message message' causes causes' correlationId,
    here.request.SameOutside there.request →
    here.correlationId = there.correlationId →
    route.Aborts route.verdict? here (.handler message causes) correlationId →
    route.Aborts route.verdict? there (.handler message' causes') correlationId →
      (route.answer here).response = (route.answer there).response

theorem tells_only_status (route : Route State) : route.TellsOnlyStatus where
  aborted _ _ _ _ _ _ _ sameOutside sameId left right sameStatus :=
    left.response_congr right sameOutside sameId sameStatus
  unrecognized _ _ guarded _ _ sameOutside sameId left right :=
    response_answer_congr sameOutside sameId (exists_aborts_of_unrecognized guarded left)
      (exists_aborts_of_unrecognized guarded right)
  denied _ _ guarded _ _ _ _ sameOutside sameId known denied known' denied' :=
    response_answer_congr sameOutside sameId (exists_aborts_of_denied guarded known denied)
      (exists_aborts_of_denied guarded known' denied')
  invalid strict _ _ _ _ _ _ sameOutside sameId passes refused passes' refused' :=
    response_answer_congr sameOutside sameId (exists_aborts_of_invalid strict passes refused)
      (exists_aborts_of_invalid strict passes' refused')
  handler _ _ _ _ _ _ _ sameOutside sameId left right := by
    rw [answer_eq_answerUnder, answer_eq_answerUnder]
    exact left.response_congr right sameOutside sameId rfl

/-! ## Two endpoints -/

/-- An endpoint whose callers send a name and a password. -/
def deskRoute : Route Nat where
  basePath := "/billing"
  path := "/desk"
  method := "GET"
  contract := { name := "desk", auth := some { method := .basic } }
  compiled := { request := .ofNothing .native
                responses := []
                responseHeaders := none }
  cors := {}
  auth := some ({ method := .basic }, [("ann:secret", { subject := "ann" })])
  userStages := []
  handler := fun exchange => { state := exchange.state + 1, ops := [.finish] }

/-- An endpoint with a stage that fails with the path of the request for its message. -/
def frailRoute : Route Nat where
  basePath := ""
  path := "/frail/:id"
  method := "GET"
  contract := { name := "frail" }
  compiled := { request := .ofNothing .native
                responses := []
                responseHeaders := none }
  cors := {}
  auth := none
  userStages := [fun _ exchange => .failed exchange (.handler exchange.request.path [])]
  handler := fun exchange => { state := exchange.state + 1, ops := [.finish] }

/-- A visit that brings a correlation id and another header. -/
def namedVisit (path name text : String) : Visit Nat where
  request := { method := "GET", path := path
               headers := .object [(name, .string text), ("x-correlation-id", .string "seen")] }
  state := 0
  occasion := .atStart "fresh"

theorem frailRoute_aborts (path : String) :
    frailRoute.Aborts frailRoute.verdict? (namedVisit path "accept" "any")
      (.handler path []) "seen" where
  fails := rfl
  untouched := rfl
  named := rfl

/-- Neither the way in which credentials are missing nor the message of a failing stage shows. -/
theorem callers_learn_only_status :
    let missing := deskRoute.answer (namedVisit "/billing/desk" "accept" "any")
    let garbled := deskRoute.answer (namedVisit "/billing/desk" "authorization" "basic %")
    missing.response = garbled.response ∧ missing.response.code = 401 ∧
      (frailRoute.answer (namedVisit "/frail/1" "accept" "any")).response =
        (frailRoute.answer (namedVisit "/frail/2" "accept" "any")).response := by
  intro missing garbled
  refine ⟨?_, rfl, ?_⟩
  · apply (tells_only_status deskRoute).unrecognized _ _ rfl
      (namedVisit "/billing/desk" "accept" "any")
      (namedVisit "/billing/desk" "authorization" "basic %") ⟨rfl, rfl, rfl, rfl⟩ rfl
    · apply AuthPolicy.Unrecognized.missing
      intro header found
      cases found
    · apply AuthPolicy.Unrecognized.undecodable "%" rfl
      · exact ⟨"basic %", rfl, by decide, "basic ".toList, by decide, by decide⟩
      · intro text decoded
        cases decoded
  · exact (tells_only_status frailRoute).handler _ _ _ _ _ _ _ ⟨rfl, rfl, rfl, rfl⟩ rfl
      (frailRoute_aborts "/frail/1") (frailRoute_aborts "/frail/2")

end Route

end ApiContract
