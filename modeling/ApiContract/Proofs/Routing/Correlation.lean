import ApiContract.Proofs.Exchange.Headers
import ApiContract.Proofs.Routing.Options

/-!
# Correlation ids

One id ties together all that belongs to a visit.  It is settled before anything else, and
every later part repeats it: the header of the response, the words in which a failure is
told, the warning about an invalid request, the report of an abort and the check of the
response.  An endpoint's own stages take no part in this, provided that they leave the header
and the context of the request alone.
-/

namespace ApiContract

variable {State : Type}

/-- The record names no correlation id but the given one. -/
def LogRecord.NamesOnly (record : LogRecord) (correlationId : String) : Prop :=
  ∀ value, record.details.get? "correlation_id" = some value → value = .string correlationId

/-! ## Telemetry under an id -/

/-- Later telemetry continues earlier telemetry. Each new record is one of the endpoint's own
or names no correlation id but the given one. -/
def Telemetry.ContinuesUnder (own : LogRecord → Prop) (correlationId : String)
    (before after : Telemetry) : Prop :=
  ∃ records, after.logs = before.logs ++ records ∧
    ∀ record ∈ records, own record ∨ record.NamesOnly correlationId

namespace Telemetry.ContinuesUnder

variable {own : LogRecord → Prop} {correlationId : String} {before between after : Telemetry}

theorem refl (telemetry : Telemetry) : ContinuesUnder own correlationId telemetry telemetry :=
  ⟨[], by simp, by simp⟩

theorem trans (first : ContinuesUnder own correlationId before between)
    (second : ContinuesUnder own correlationId between after) :
    ContinuesUnder own correlationId before after := by
  rcases first with ⟨records, logs, naming⟩
  rcases second with ⟨more, moreLogs, stillNaming⟩
  refine ⟨records ++ more, ?_, List.forall_mem_append.mpr ⟨naming, stillNaming⟩⟩
  rw [moreLogs, logs, List.append_assoc]

theorem logAll {records : List LogRecord}
    (naming : ∀ record ∈ records, record.NamesOnly correlationId) (telemetry : Telemetry) :
    ContinuesUnder own correlationId telemetry (telemetry.logAll records) :=
  ⟨records, rfl, fun record member => .inr (naming record member)⟩

theorem log {record : LogRecord} (naming : record.NamesOnly correlationId)
    (telemetry : Telemetry) :
    ContinuesUnder own correlationId telemetry (telemetry.log record) :=
  logAll (List.forall_mem_singleton.mpr naming) telemetry

theorem count (telemetry : Telemetry) (metric : Metric) :
    ContinuesUnder own correlationId telemetry (telemetry.count metric) :=
  ⟨[], by simp [Telemetry.count], by simp⟩

end Telemetry.ContinuesUnder

/-! ## Steps on the response -/

/-- The headers of the response that name a correlation id. -/
def Response.correlations (response : Response) : List (String × String) :=
  response.headers.filter fun header => header.1 = correlationHeader

/-- The step sets the header of the correlation id. -/
def ResponseOp.NamesCorrelation : ResponseOp → Prop
  | .setHeader name _ => Text.lowered name = correlationHeader
  | .setStatus _ | .send _ | .sendJson _ | .finish | .stream _ => False

namespace Response

theorem correlations_eq (response : Response) :
    response.correlations = response.headersAmong [correlationHeader] := by
  simp [correlations, headersAmong]

theorem correlations_apply (response : Response) {op : ResponseOp}
    (other : ¬op.NamesCorrelation) :
    (response.apply op).1.correlations = response.correlations := by
  have unset : ¬op.SetsAmong [correlationHeader] := by
    cases op with
    | setHeader name value => simpa [ResponseOp.SetsAmong, ResponseOp.NamesCorrelation] using other
    | sendJson payload =>
        cases payload with
        | ok json => exact (by decide : "content-type" ∉ [correlationHeader])
        | error reason => exact id
    | _ => exact id
  rw [correlations_eq, correlations_eq, response.headersAmong_apply unset]

theorem namesOnly_of_mem_answer {response : Response} {operation : String}
    {answered : Response → Response} {record : LogRecord}
    (member : record ∈ (response.answer operation answered).2) (correlationId : String) :
    record.NamesOnly correlationId := by
  rw [answer] at member
  split at member
  · rw [List.mem_singleton.mp member]
    intro value named
    cases named
  · cases member

/-- The warning that an answer came too late names no id at all. -/
theorem namesOnly_of_mem_apply {response : Response} {op : ResponseOp} {record : LogRecord}
    (member : record ∈ (response.apply op).2) (correlationId : String) :
    record.NamesOnly correlationId := by
  cases op with
  | setStatus status => cases member
  | setHeader name value => cases member
  | send payload => exact namesOnly_of_mem_answer member correlationId
  | sendJson payload =>
      cases payload with
      | ok json => exact namesOnly_of_mem_answer member correlationId
      | error reason => cases member
  | finish => exact namesOnly_of_mem_answer member correlationId
  | stream events => exact namesOnly_of_mem_answer member correlationId

end Response

/-! ## Exchanges that keep their id -/

namespace Exchange

/-- The id of the request is kept from one exchange to the other, and so is the header that
names it; what was recorded between them names no other id. -/
structure KeepsId (own : LogRecord → Prop) (before after : Exchange State) : Prop where
  sameId : after.request.correlationId = before.request.correlationId
  sameHeader : after.response.correlations = before.response.correlations
  continues : before.telemetry.ContinuesUnder own before.request.correlationId after.telemetry

namespace KeepsId

variable {own : LogRecord → Prop} {before between after other : Exchange State}

theorem refl (exchange : Exchange State) : KeepsId own exchange exchange :=
  ⟨rfl, rfl, .refl _⟩

theorem trans (first : KeepsId own before between) (second : KeepsId own between after) :
    KeepsId own before after where
  sameId := second.sameId.trans first.sameId
  sameHeader := second.sameHeader.trans first.sameHeader
  continues := first.continues.trans (first.sameId ▸ second.continues)

/-- A request that has the same id may take the place of the request. -/
theorem ofRequest (exchange : Exchange State) {request : Request}
    (sameId : request.correlationId = exchange.request.correlationId) :
    KeepsId own exchange { exchange with request := request } :=
  ⟨sameId, rfl, .refl _⟩

theorem either (condition : Prop) [Decidable condition] (first : KeepsId own before after)
    (second : KeepsId own before other) :
    KeepsId own before (if condition then after else other) := by
  split
  · exact first
  · exact second

theorem andRespond (kept : KeepsId own before after) {op : ResponseOp}
    (other : ¬op.NamesCorrelation) : KeepsId own before (after.respond op) := by
  apply kept.trans
  constructor
  · rfl
  · exact after.response.correlations_apply other
  · exact .logAll (fun record member => Response.namesOnly_of_mem_apply member _) _

theorem andRespondAll (kept : KeepsId own before after) {ops : List ResponseOp}
    (others : ∀ op ∈ ops, ¬op.NamesCorrelation) : KeepsId own before (after.respondAll ops) := by
  induction ops generalizing after with
  | nil => exact kept
  | cons op rest ih =>
      rcases List.forall_mem_cons.mp others with ⟨first, rest⟩
      exact ih (kept.andRespond first) rest

theorem andHeaders (kept : KeepsId own before after) {headers : List (String × Value)}
    (others : ∀ header ∈ headers, Text.lowered header.1 ≠ correlationHeader) :
    KeepsId own before (after.setHeaders headers) := by
  apply kept.andRespondAll
  intro op member
  rcases List.mem_map.mp member with ⟨header, listed, rfl⟩
  exact others header listed

theorem andLog (kept : KeepsId own before after) {record : LogRecord}
    (naming : record.NamesOnly after.request.correlationId) :
    KeepsId own before (after.log record) :=
  kept.trans ⟨rfl, rfl, .log naming _⟩

theorem andCount (kept : KeepsId own before after) (metric : Metric) :
    KeepsId own before (after.count metric) :=
  kept.trans ⟨rfl, rfl, .count _ _⟩

end KeepsId

end Exchange

open Exchange (KeepsId)

/-! ## Stages -/

namespace CorsPolicy

theorem names_preflightHeaders (policy : CorsPolicy) (wanted : Option String) :
    ∀ header ∈ policy.preflightHeaders wanted, Text.lowered header.1 ≠ correlationHeader := by
  have others : ∀ name ∈ ["access-control-allow-methods", "access-control-allow-headers",
      "access-control-max-age"], Text.lowered name ≠ correlationHeader := by decide
  intro header member
  exact others header.1 (name_of_mem_preflightHeaders member)

end CorsPolicy

namespace Stage

variable {own : LogRecord → Prop}

theorem keepsId_answerPreflight (policy : CorsPolicy) (exchange : Exchange State) :
    KeepsId own exchange (answerPreflight policy exchange) := by
  rw [answerPreflight_eq_setHeaders]
  apply ((KeepsId.refl exchange).andHeaders (policy.names_preflightHeaders _)).andRespondAll
  simp [ResponseOp.NamesCorrelation]

theorem preserves_keepsId_attach (contract : Contract) :
    Preserves (KeepsId own) (attach contract : Stage State) := by
  intro next kept exchange
  rw [attach]
  refine .trans ?_ (kept _)
  exact .ofRequest exchange rfl

theorem preserves_keepsId_permit (verdict : Verdict) :
    Preserves (KeepsId own) (permit verdict : Stage State) := by
  intro next kept exchange
  rw [permit]
  cases verdict (exchange.request.header? "authorization") with
  | error reason => exact .refl exchange
  | ok principal =>
      refine .trans ?_ (kept _)
      exact .ofRequest exchange rfl

theorem keepsId_noteInvalidRequest (contract : Contract) (issues : List Issue)
    (exchange : Exchange State) :
    KeepsId own exchange (noteInvalidRequest contract issues exchange) := by
  apply KeepsId.andCount
  apply (KeepsId.refl exchange).andLog
  intro value named
  cases named
  rfl

theorem preserves_keepsId_parse (contract : Contract) (checker : Checker) :
    Preserves (KeepsId own) (parse contract checker : Stage State) := by
  intro next kept exchange
  rw [parse]
  cases checker.parse exchange.request.input with
  | ok parsed =>
      refine .trans ?_ (kept _)
      exact .ofRequest exchange rfl
  | error issues =>
      dsimp only
      cases contract.options.requestValidation with
      | error => exact .refl exchange
      | warning => exact (keepsId_noteInvalidRequest contract issues exchange).trans (kept _)
      | none => exact kept exchange

theorem preserves_keepsId_handle {handler : Handler State}
    (others : ∀ exchange, ∀ op ∈ (handler exchange).ops, ¬op.NamesCorrelation) :
    Preserves (KeepsId own) (handle handler) := by
  intro next kept exchange
  have changed : KeepsId own exchange { exchange with state := (handler exchange).state } :=
    ⟨rfl, rfl, .refl _⟩
  have handled := changed.andRespondAll (others exchange)
  rw [handle]
  cases (handler exchange).failure with
  | none => exact handled.trans (kept _)
  | some failure => exact handled

end Stage

/-! ## Visits -/

namespace Route

variable {route : Route State} {own : LogRecord → Prop} {verdict : Option Verdict}
  {visit : Visit State}

/-- The stages of the endpoint's own neither set the header of the correlation id nor change
the id that the request has; what they record themselves is their own. -/
structure LeavesId (own : LogRecord → Prop) (route : Route State) : Prop where
  userStages : ∀ stage ∈ route.userStages, Stage.Preserves (KeepsId own) stage
  handler : ∀ exchange, ∀ op ∈ (route.handler exchange).ops, ¬op.NamesCorrelation

theorem LeavesId.stages (leaves : route.LeavesId own) (verdict : Option Verdict) :
    ∀ stage ∈ route.checks verdict ++ route.ownStages,
      Stage.Preserves (KeepsId own) stage := by
  rw [List.forall_mem_append]
  constructor
  · exact forall_mem_checks (Stage.preserves_keepsId_attach _) Stage.preserves_keepsId_permit
      (Stage.preserves_keepsId_parse _ _) verdict
  · exact forall_mem_ownStages leaves.userStages (Stage.preserves_keepsId_handle leaves.handler)

/-! ### From the greeting to the end of the passage -/

theorem LeavesId.passage (leaves : route.LeavesId own) (verdict : Option Verdict)
    (visit : Visit State) :
    KeepsId own (route.greeted visit)
      (route.passage (route.checks verdict ++ route.ownStages) visit).exchange := by
  by_cases asks : Stage.AsksPreflight visit.request
  · rw [passage_of_preflight asks]
    exact Stage.keepsId_answerPreflight route.cors _
  · rw [passage_of_other asks]
    exact Stage.preserves_chain KeepsId.refl (leaves.stages verdict) _

/-! ### Settlement and the check of the response -/

theorem response_settle_of_sent {ended : Passage State} (sent : ended.exchange.response.sent) :
    (route.settle ended).response = ended.exchange.response := by
  rw [settle]
  cases ended.failure with
  | some failure => simp [settleFailure, Exchange.log, Exchange.count, sent]
  | none => simp [sent]

end Route

end ApiContract
