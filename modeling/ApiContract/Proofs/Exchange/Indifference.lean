import ApiContract.Proofs.Exchange.Disguise

/-!
# Endpoints that do not read the path

One request may reach an endpoint at two paths and on two occasions.  A stage that reads
neither does the same to both exchanges.  The stages that every endpoint has are of this
kind, except that a request without a correlation id of its own is given the fresh one of
its occasion.
-/

namespace ApiContract

variable {State : Type} {here there : Occasion}

namespace Exchange

/-- The exchange on another occasion and with its request at another path. -/
def moved (exchange : Exchange State) (there : Occasion) (path : String) : Exchange State :=
  { exchange with request := { exchange.request with path := path }, occasion := there }

/-- Two exchanges, one here and one there, are the same but for the path of the request. -/
def Alike (here there : Occasion) (left right : Exchange State) : Prop :=
  left.occasion = here ∧ ∃ path, right = left.moved there path

end Exchange

open Exchange (Alike AlikeUpTo)

/-- Two passages end with the same failure, or none, and in exchanges that are alike. -/
def Passage.SameEnd (here there : Occasion) (left right : Passage State) : Prop :=
  right.failure = left.failure ∧ Alike here there left.exchange right.exchange

namespace Stage

/-- Two continuations take exchanges that are alike to the same end. -/
def Agree (here there : Occasion) (next next' : Exchange State → Passage State) : Prop :=
  ∀ left right, Alike here there left right →
    Passage.SameEnd here there (next left) (next' right)

/-- The stage does the same to an exchange here and to one there that are alike: it does not
read the path of the request, nor anything in which the occasions differ. -/
def IgnoresPath (here there : Occasion) (stage : Stage State) : Prop :=
  ∀ next next', Agree here there next next' → Agree here there (stage next) (stage next')

/-- The request brings a correlation id of its own. -/
def BringsCorrelationId (request : Request) : Prop :=
  ∃ id, request.header? correlationHeader = some id ∧ ¬Text.isBlankText id

/-- The fresh id of the occasion does not matter to a request that brings its own. -/
theorem correlationId_contextOf_of_brings {request : Request}
    (brings : BringsCorrelationId request) (here there : Occasion) :
    (contextOf request there).correlationId = (contextOf request here).correlationId := by
  rcases brings with ⟨id, named, filled⟩
  have kept : ∀ occasion : Occasion, (contextOf request occasion).correlationId = id := by
    intro occasion
    rw [contextOf, named, Option.filter_some, if_pos (by simpa using filled), Option.getD_some]
  rw [kept, kept]

end Stage

/-! ## The path as a guise -/

/-- The request at another path. -/
def Request.atPath (path : String) (request : Request) : Request :=
  { request with path := path }

theorem Request.unnoticed_atPath (path : String) : Unnoticed (atPath path) where
  method _ := rfl
  headers _ := rfl
  input _ := rfl
  context _ := rfl
  inContext _ _ := rfl
  ofPrincipal _ _ := rfl
  withInput _ _ := rfl

namespace Exchange.Alike

variable {left right : Exchange State}

/-- Exchanges that differ in the path differ in a guise of the request. -/
theorem upToPath (alike : Alike here there left right) :
    AlikeUpTo Request.atPath here there left right :=
  alike

theorem response_eq (alike : Alike here there left right) : right.response = left.response :=
  alike.upToPath.response_eq

theorem telemetry_eq (alike : Alike here there left right) : right.telemetry = left.telemetry :=
  alike.upToPath.telemetry_eq

theorem state_eq (alike : Alike here there left right) : right.state = left.state :=
  alike.upToPath.state_eq

theorem correlationId_eq (alike : Alike here there left right) :
    right.request.correlationId = left.request.correlationId :=
  alike.upToPath.correlationId_eq Request.unnoticed_atPath

theorem setHeader (alike : Alike here there left right) (name text : String) :
    Alike here there (left.setHeader name text) (right.setHeader name text) :=
  alike.upToPath.setHeader name text

end Exchange.Alike

/-! ## Endpoints -/

namespace Route

variable {route : Route State}

/-- Neither the stages of the endpoint's own nor its handler read the path of the request, nor
anything in which the occasions differ. -/
structure IgnoresPath (here there : Occasion) (route : Route State) : Prop where
  userStages : ∀ stage ∈ route.userStages, Stage.IgnoresPath here there stage
  handler : ∀ left right, Alike here there left right → route.handler right = route.handler left

/-- All stages but the first do the same here and there. -/
theorem IgnoresPath.stages (ignoring : route.IgnoresPath here there) :
    ∀ stage ∈ route.stages.tail, Stage.Overlooks Request.atPath here there stage := by
  intro stage member
  simp only [Route.stages, builtInStages, List.cons_append, List.tail_cons, List.mem_cons,
    List.mem_append, List.nil_append, Option.mem_toList, Option.map_eq_some_iff,
    List.not_mem_nil, or_false] at member
  rcases member with rfl | rfl | ((⟨_, _, rfl⟩ | rfl) | inUser) | rfl
  · exact Stage.overlooks_cors Request.unnoticed_atPath _
  · exact Stage.overlooks_attach fun _ _ => rfl
  · rw [Stage.auth_eq_permit]
    exact Stage.overlooks_permit Request.unnoticed_atPath _
  · exact Stage.overlooks_parse Request.unnoticed_atPath _ _
  · exact ignoring.userStages stage inUser
  · exact Stage.overlooks_handle ignoring.handler

/-- A request that brings its correlation id has the same answer, the same effect on the state
and the same reports under any path, here and there. -/
theorem alike_dispatch (ignoring : route.IgnoresPath here there) {request : Request}
    (brings : Stage.BringsCorrelationId request) (path : String) (telemetry : Telemetry)
    (state : State) :
    Alike here there (route.dispatch request telemetry state here)
      (route.dispatch { request with path := path } telemetry state there) := by
  have rest := Stage.agreeUpTo_chain ignoring.stages
  have started : AlikeUpTo Request.atPath here there (start request telemetry state here)
      (start { request with path := path } telemetry state there) := ⟨rfl, path, rfl⟩
  have sameId := Stage.correlationId_contextOf_of_brings brings here there
  have settled : Alike here there (route.execute request telemetry state here)
      (route.execute { request with path := path } telemetry state there) :=
    alikeUpTo_settle Request.unnoticed_atPath
      (Stage.sameEndUpTo_context Request.unnoticed_atPath rest started sameId)
  rw [dispatch, dispatch, recorded, recorded, settled.correlationId_eq, settled.response_eq,
    settled.telemetry_eq]
  rcases settled with ⟨occasion, reached, moved⟩
  exact ⟨occasion, reached, by rw [moved]; rfl⟩

end Route

end ApiContract
