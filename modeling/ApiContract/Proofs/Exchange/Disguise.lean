import ApiContract.Proofs.Exchange.Stages
import ApiContract.Routing.Route

/-!
# Requests in disguise

Two requests may differ in a part that the stages of every endpoint neither read nor
replace.  Whatever that part is, these stages do the same to both, and a passage whose
other stages overlook the difference too ends the same way.  This module proves it once
for all such parts.
-/

namespace ApiContract

variable {State Guise : Type} {change : Guise → Request → Request} {here there : Occasion}

/-- A change of requests that the stages of every endpoint do not notice: it leaves alone
what they read, and it may as well be made after they have replaced something. -/
structure Request.Unnoticed (change : Request → Request) : Prop where
  method (request : Request) : (change request).method = request.method
  headers (request : Request) : (change request).headers = request.headers
  input (request : Request) : (change request).input = request.input
  context (request : Request) : (change request).context = request.context
  inContext (request : Request) (context : Option RequestContext) :
    change { request with context := context } = { change request with context := context }
  ofPrincipal (request : Request) (principal : Option Principal) :
    change { request with principal := principal } = { change request with principal := principal }
  withInput (request : Request) (parsed : Value) :
    change (request.withInput parsed) = (change request).withInput parsed

namespace Exchange

/-- Two exchanges, one here and one there, are the same but for the guise of the request. -/
def AlikeUpTo (change : Guise → Request → Request) (here there : Occasion)
    (left right : Exchange State) : Prop :=
  left.occasion = here ∧
    ∃ guise, right = { left with request := change guise left.request, occasion := there }

namespace AlikeUpTo

variable {left right otherLeft otherRight : Exchange State}

theorem response_eq (alike : AlikeUpTo change here there left right) :
    right.response = left.response := by
  rcases alike with ⟨rfl, guise, rfl⟩
  rfl

theorem telemetry_eq (alike : AlikeUpTo change here there left right) :
    right.telemetry = left.telemetry := by
  rcases alike with ⟨rfl, guise, rfl⟩
  rfl

theorem state_eq (alike : AlikeUpTo change here there left right) :
    right.state = left.state := by
  rcases alike with ⟨rfl, guise, rfl⟩
  rfl

theorem header?_eq (unnoticed : ∀ guise, Request.Unnoticed (change guise))
    (alike : AlikeUpTo change here there left right) (name : String) :
    right.request.header? name = left.request.header? name := by
  rcases alike with ⟨rfl, guise, rfl⟩
  rw [Request.header?, Request.header?, (unnoticed guise).headers]

theorem correlationId_eq (unnoticed : ∀ guise, Request.Unnoticed (change guise))
    (alike : AlikeUpTo change here there left right) :
    right.request.correlationId = left.request.correlationId := by
  rcases alike with ⟨rfl, guise, rfl⟩
  rw [Request.correlationId, Request.correlationId, (unnoticed guise).context]

/-- What is replaced in both requests leaves them alike, unless the guise gets in the way. -/
theorem onRequest {replace : Request → Request}
    (commutes : ∀ guise request, change guise (replace request) = replace (change guise request))
    (alike : AlikeUpTo change here there left right) :
    AlikeUpTo change here there { left with request := replace left.request }
      { right with request := replace right.request } := by
  rcases alike with ⟨rfl, guise, rfl⟩
  refine ⟨rfl, guise, ?_⟩
  dsimp only
  rw [commutes]

theorem respond (alike : AlikeUpTo change here there left right) (op : ResponseOp) :
    AlikeUpTo change here there (left.respond op) (right.respond op) := by
  rcases alike with ⟨rfl, guise, rfl⟩
  exact ⟨rfl, guise, rfl⟩

theorem respondAll (alike : AlikeUpTo change here there left right) (ops : List ResponseOp) :
    AlikeUpTo change here there (left.respondAll ops) (right.respondAll ops) := by
  induction ops generalizing left right with
  | nil => exact alike
  | cons op rest ih => exact ih (alike.respond op)

theorem setHeader (alike : AlikeUpTo change here there left right) (name text : String) :
    AlikeUpTo change here there (left.setHeader name text) (right.setHeader name text) :=
  alike.respond _

theorem log (alike : AlikeUpTo change here there left right) (record : LogRecord) :
    AlikeUpTo change here there (left.log record) (right.log record) := by
  rcases alike with ⟨rfl, guise, rfl⟩
  exact ⟨rfl, guise, rfl⟩

theorem count (alike : AlikeUpTo change here there left right) (metric : Metric) :
    AlikeUpTo change here there (left.count metric) (right.count metric) := by
  rcases alike with ⟨rfl, guise, rfl⟩
  exact ⟨rfl, guise, rfl⟩

theorem either (condition : Prop) [Decidable condition]
    (first : AlikeUpTo change here there left right)
    (second : AlikeUpTo change here there otherLeft otherRight) :
    AlikeUpTo change here there (if condition then left else otherLeft)
      (if condition then right else otherRight) := by
  split
  · exact first
  · exact second

theorem unlessSent (alike : AlikeUpTo change here there left right)
    (answered : AlikeUpTo change here there otherLeft otherRight) :
    AlikeUpTo change here there (if left.response.sent then left else otherLeft)
      (if right.response.sent then right else otherRight) := by
  rw [alike.response_eq]
  exact either _ alike answered

end AlikeUpTo

end Exchange

open Exchange (AlikeUpTo)

/-- Two passages end with the same failure, or none, and in exchanges that are alike. -/
def Passage.SameEndUpTo (change : Guise → Request → Request) (here there : Occasion)
    (left right : Passage State) : Prop :=
  right.failure = left.failure ∧ AlikeUpTo change here there left.exchange right.exchange

namespace Stage

/-- Two continuations take exchanges that are alike to the same end. -/
def AgreeUpTo (change : Guise → Request → Request) (here there : Occasion)
    (next next' : Exchange State → Passage State) : Prop :=
  ∀ left right, AlikeUpTo change here there left right →
    Passage.SameEndUpTo change here there (next left) (next' right)

/-- The stage does the same to an exchange here and to one there that are alike: it reads
neither the guise of the request nor anything in which the occasions differ. -/
def Overlooks (change : Guise → Request → Request) (here there : Occasion)
    (stage : Stage State) : Prop :=
  ∀ next next', AgreeUpTo change here there next next' →
    AgreeUpTo change here there (stage next) (stage next')

theorem agreeUpTo_chain {stages : List (Stage State)}
    (overlooking : ∀ stage ∈ stages, Overlooks change here there stage) :
    AgreeUpTo change here there (chain stages) (chain stages) := by
  induction stages with
  | nil =>
      intro left right alike
      exact ⟨rfl, alike⟩
  | cons stage rest ih =>
      have ⟨first, others⟩ := List.forall_mem_cons.mp overlooking
      exact first _ _ (ih others)

/-! ## The stages that every endpoint has -/

section

variable {left right : Exchange State}

theorem alikeUpTo_grantOrigin (unnoticed : ∀ guise, Request.Unnoticed (change guise))
    (policy : CorsPolicy) (alike : AlikeUpTo change here there left right) :
    AlikeUpTo change here there (grantOrigin policy left) (grantOrigin policy right) := by
  rw [grantOrigin_eq_setHeaders, grantOrigin_eq_setHeaders, alike.header?_eq unnoticed]
  exact alike.respondAll _

theorem alikeUpTo_answerPreflight (unnoticed : ∀ guise, Request.Unnoticed (change guise))
    (policy : CorsPolicy) (alike : AlikeUpTo change here there left right) :
    AlikeUpTo change here there (answerPreflight policy left) (answerPreflight policy right) := by
  rw [answerPreflight_eq_setHeaders, answerPreflight_eq_setHeaders, alike.header?_eq unnoticed]
  exact (alike.respondAll _).respondAll _

theorem overlooks_cors (unnoticed : ∀ guise, Request.Unnoticed (change guise))
    (policy : CorsPolicy) : Overlooks change here there (cors policy : Stage State) := by
  intro next next' agree left right alike
  have granted := alikeUpTo_grantOrigin unnoticed policy alike
  have asks : isPreflight (grantOrigin policy right).request =
      isPreflight (grantOrigin policy left).request := by
    have wanted := granted.header?_eq unnoticed "access-control-request-method"
    have method : (grantOrigin policy right).request.method =
        (grantOrigin policy left).request.method := by
      rcases granted with ⟨_, guise, disguised⟩
      rw [disguised]
      exact (unnoticed guise).method _
    rw [isPreflight, isPreflight, wanted, method]
  rw [cors, cors]
  simp only [asks]
  split
  · exact ⟨rfl, alikeUpTo_answerPreflight unnoticed policy granted⟩
  · exact agree _ _ granted

/-- A contract may be attached to a request in any guise that is not the contract. -/
theorem overlooks_attach {contract : Contract}
    (commutes : ∀ guise request, change guise { request with contract := some contract } =
      { change guise request with contract := some contract }) :
    Overlooks change here there (attach contract : Stage State) := by
  intro next next' agree left right alike
  exact agree _ _ (alike.onRequest commutes)

theorem overlooks_permit (unnoticed : ∀ guise, Request.Unnoticed (change guise))
    (verdict : Verdict) : Overlooks change here there (permit verdict : Stage State) := by
  intro next next' agree left right alike
  rw [permit, permit, alike.header?_eq unnoticed]
  cases verdict (left.request.header? "authorization") with
  | error reason => exact ⟨rfl, alike⟩
  | ok principal =>
      exact agree _ _ (alike.onRequest fun guise request =>
        (unnoticed guise).ofPrincipal request (some principal))

theorem alikeUpTo_noteInvalidRequest (unnoticed : ∀ guise, Request.Unnoticed (change guise))
    (contract : Contract) (issues : List Issue)
    (alike : AlikeUpTo change here there left right) :
    AlikeUpTo change here there (noteInvalidRequest contract issues left)
      (noteInvalidRequest contract issues right) := by
  rw [noteInvalidRequest, noteInvalidRequest, alike.correlationId_eq unnoticed]
  exact (alike.log _).count _

theorem overlooks_parse (unnoticed : ∀ guise, Request.Unnoticed (change guise))
    (contract : Contract) (checker : Checker) :
    Overlooks change here there (parse contract checker : Stage State) := by
  intro next next' agree left right alike
  have input : right.request.input = left.request.input := by
    rcases alike with ⟨rfl, guise, rfl⟩
    exact (unnoticed guise).input _
  rw [parse, parse, input]
  cases checker.parse left.request.input with
  | ok parsed =>
      exact agree _ _ (alike.onRequest fun guise request =>
        (unnoticed guise).withInput request parsed)
  | error issues =>
      dsimp only
      cases contract.options.requestValidation with
      | error => exact ⟨rfl, alike⟩
      | warning => exact agree _ _ (alikeUpTo_noteInvalidRequest unnoticed contract issues alike)
      | none => exact agree _ _ alike

/-- A handler that does the same here and there is the same last stage here and there. -/
theorem overlooks_handle {handler : Handler State}
    (overlooking : ∀ left right, AlikeUpTo change here there left right →
      handler right = handler left) :
    Overlooks change here there (handle handler) := by
  intro next next' agree left right alike
  have handled : AlikeUpTo change here there
      ({ left with state := (handler left).state }.respondAll (handler left).ops)
      ({ right with state := (handler left).state }.respondAll (handler left).ops) := by
    apply AlikeUpTo.respondAll
    rcases alike with ⟨rfl, guise, rfl⟩
    exact ⟨rfl, guise, rfl⟩
  rw [handle, handle, overlooking left right alike]
  cases (handler left).failure with
  | none => exact agree _ _ handled
  | some failure => exact ⟨rfl, handled⟩

/-- Only the fresh id tells the occasions apart, and only for a request that needs it. -/
theorem sameEndUpTo_context (unnoticed : ∀ guise, Request.Unnoticed (change guise))
    {next next' : Exchange State → Passage State} (agree : AgreeUpTo change here there next next')
    (alike : AlikeUpTo change here there left right)
    (sameId : (contextOf left.request there).correlationId =
      (contextOf left.request here).correlationId) :
    Passage.SameEndUpTo change here there (context next left) (context next' right) := by
  have named := alike.header?_eq unnoticed correlationHeader
  have keyed := alike.header?_eq unnoticed idempotencyHeader
  have introduced := alike.setHeader correlationHeader (contextOf left.request here).correlationId
  have same : ((right.request.header? correlationHeader).filter fun id =>
      !Text.isBlankText id).getD right.occasion.freshId =
        (contextOf left.request here).correlationId := by
    rw [named, ← sameId]
    rcases alike with ⟨_, guise, rfl⟩
    rfl
  have fresh : ((left.request.header? correlationHeader).filter fun id =>
      !Text.isBlankText id).getD left.occasion.freshId =
        (contextOf left.request here).correlationId := by
    rw [alike.1]
    rfl
  rw [context, context]
  simp only [same, fresh, keyed]
  exact agree _ _ (introduced.onRequest fun guise request => (unnoticed guise).inContext request _)

end

end Stage

/-! ## The end of a passage -/

namespace Route

variable {route : Route State} {left right : Exchange State}

theorem alikeUpTo_settleFailure (unnoticed : ∀ guise, Request.Unnoticed (change guise))
    (failure : Failure) (alike : AlikeUpTo change here there left right) :
    AlikeUpTo change here there (route.settleFailure failure left)
      (route.settleFailure failure right) := by
  have noted := fun record metric => (alike.log record).count metric
  unfold settleFailure
  rw [alike.correlationId_eq unnoticed]
  exact (noted _ _).unlessSent ((noted _ _).respondAll _)

theorem alikeUpTo_settle (unnoticed : ∀ guise, Request.Unnoticed (change guise))
    {left right : Passage State} (same : Passage.SameEndUpTo change here there left right) :
    AlikeUpTo change here there (route.settle left) (route.settle right) := by
  rcases same with ⟨failures, alike⟩
  rw [settle, settle, failures]
  cases left.failure with
  | some failure => exact alikeUpTo_settleFailure unnoticed failure alike
  | none =>
      rw [settleSilence, settleSilence, alike.correlationId_eq unnoticed]
      exact alike.unlessSent ((alike.log _).respondAll _)

end Route

end ApiContract
