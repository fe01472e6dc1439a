import ApiContract.Routing.Route

/-!
# How a passage is settled

A passage that ended with a failure is answered in public words and reported once.
The check of the recorded response comes after that; it adds reports of its own, none
of which can be taken for the report of an aborted request.
-/

namespace ApiContract

/-- The record reports that a request to the endpoint of the given name was aborted. -/
def LogRecord.ReportsAbort (name : String) (record : LogRecord) : Prop :=
  ∃ cause, record.message = name ++ " aborted: " ++ cause

/-- The name of the metric that counts aborted requests. -/
def abortedMetric : String := "contract.request.aborted"

namespace Telemetry

/-- Later telemetry continues earlier telemetry without reporting another abort. -/
def ContinuesQuietly (name : String) (before after : Telemetry) : Prop :=
  ∃ logs metrics, after.logs = before.logs ++ logs ∧ after.metrics = before.metrics ++ metrics ∧
    (∀ record ∈ logs, ¬record.ReportsAbort name) ∧
    ∀ metric ∈ metrics, metric.name ≠ abortedMetric

namespace ContinuesQuietly

variable {name : String} {before between after : Telemetry}

theorem refl (telemetry : Telemetry) : ContinuesQuietly name telemetry telemetry :=
  ⟨[], [], by simp, by simp, by simp, by simp⟩

theorem trans (first : ContinuesQuietly name before between)
    (second : ContinuesQuietly name between after) : ContinuesQuietly name before after := by
  rcases first with ⟨firstLogs, firstMetrics, logs, metrics, quietLogs, quietMetrics⟩
  rcases second with ⟨secondLogs, secondMetrics, moreLogs, moreMetrics, stillQuiet, stillSilent⟩
  refine ⟨firstLogs ++ secondLogs, firstMetrics ++ secondMetrics, ?_, ?_, ?_, ?_⟩
  · rw [moreLogs, logs, List.append_assoc]
  · rw [moreMetrics, metrics, List.append_assoc]
  · exact List.forall_mem_append.mpr ⟨quietLogs, stillQuiet⟩
  · exact List.forall_mem_append.mpr ⟨quietMetrics, stillSilent⟩

theorem log {record : LogRecord} (quiet : ¬record.ReportsAbort name) (telemetry : Telemetry) :
    ContinuesQuietly name telemetry (telemetry.log record) :=
  ⟨[record], [], rfl, by simp [Telemetry.log], by simpa using quiet, by simp⟩

theorem count {metric : Metric} (other : metric.name ≠ abortedMetric) (telemetry : Telemetry) :
    ContinuesQuietly name telemetry (telemetry.count metric) :=
  ⟨[], [metric], by simp [Telemetry.count], rfl, by simp, by simpa using other⟩

end ContinuesQuietly

end Telemetry

namespace Route

variable {State : Type} {route : Route State}

/-! ## Reports that are no reports of an abort -/

theorem not_reportsAbort_undeclaredStatus (status : Nat) (name : String) :
    ¬(route.undeclaredStatus status).ReportsAbort name := by
  rintro ⟨cause, message⟩
  -- The report of an abort has a colon, and this one has none.
  have colon : ':' ∈ (route.undeclaredStatus status).message.toList := by
    rw [message]
    simp [String.toList_append]
  simp [undeclaredStatus] at colon

/-- A record that puts a colon after the name of the endpoint is another report. -/
theorem not_reportsAbort_of_colon {record : LogRecord} {name text : String}
    (message : record.message = name ++ text) (colon : text.toList.head? = some ':') :
    ¬record.ReportsAbort name := by
  rintro ⟨cause, reported⟩
  rw [message, String.append_assoc] at reported
  have follows := congrArg String.toList reported
  rw [String.toList_append, String.toList_append, List.append_cancel_left_eq] at follows
  rw [follows, String.toList_append] at colon
  simp at colon

/-! ## The check of the response -/

open Telemetry (ContinuesQuietly)

theorem noteInvalidResponse_quiet (recorded : RecordedResponse) (telemetry : Telemetry)
    (issues : List Issue) :
    ContinuesQuietly route.name telemetry
      (route.noteInvalidResponse recorded telemetry issues) := by
  refine (ContinuesQuietly.log ?_ telemetry).trans (.count ?_ _)
  · exact not_reportsAbort_of_colon (String.append_assoc ..) (by simp [toString])
  · simp [abortedMetric]

theorem foldl_noteInvalidResponse_quiet (recorded : RecordedResponse) (telemetry : Telemetry)
    (found : List (List Issue)) :
    ContinuesQuietly route.name telemetry
      (found.foldl (route.noteInvalidResponse recorded) telemetry) := by
  induction found generalizing telemetry with
  | nil => exact .refl telemetry
  | cons issues rest ih => exact (noteInvalidResponse_quiet recorded telemetry issues).trans (ih _)

/-- The check of a response reports no abort. -/
theorem checkResponse_quiet (recorded : Option RecordedResponse) (telemetry : Telemetry) :
    ContinuesQuietly route.name telemetry (route.checkResponse recorded telemetry) := by
  cases recorded with
  | none => exact .refl telemetry
  | some recorded =>
      rw [checkResponse]
      refine .trans ?_ (foldl_noteInvalidResponse_quiet recorded _ _)
      split
      · exact .log (not_reportsAbort_undeclaredStatus recorded.status route.name) telemetry
      · have nothing : telemetry.logAll [] = telemetry := by simp [Telemetry.logAll]
        rw [nothing]
        exact .refl telemetry

/-! ## Requests that are turned away -/

/-- The exchange after a request that was turned away: the answer names the status and the
correlation id and nothing else, the state is the one before, and the request was reported
as aborted once and counted once. -/
structure TurnedAway (name : String) (status : Nat) (telemetry : Telemetry) (state : State)
    (result : Exchange State) : Prop where
  sent : result.response.sent
  code : result.response.code = status
  body : result.response.body =
    some (.string (Failure.withCorrelation (Failure.reason status) result.request.correlationId))
  noStream : result.response.events = none
  stateKept : result.state = state
  reported : ∃ record : LogRecord, record.ReportsAbort name ∧
    ContinuesQuietly name
      ((telemetry.log record).count
        ⟨abortedMetric, [("contract", name), ("status", Text.decimalText status)]⟩)
      result.telemetry

/-- The record of a failure that ended a passage. -/
def abortRecord (route : Route State) (failure : Failure) (correlationId : String) : LogRecord where
  level := match failure with
    | .handler _ _ => .error
    | _ => .warn
  message := s!"{route.name} aborted: {failure.fullMessage}"
  details := .object [("contract", .string route.name),
    ("correlation_id", .string correlationId),
    ("issues", Stage.issuesJson failure.issues),
    ("status", .ofNat failure.status)]

theorem reportsAbort_abortRecord (failure : Failure) (correlationId : String) :
    (route.abortRecord failure correlationId).ReportsAbort route.name :=
  ⟨failure.fullMessage, rfl⟩

/-- A failure before any answer is reported, counted and answered in public words. -/
theorem settleFailure_of_unsent {exchange : Exchange State} (failure : Failure)
    (unsent : exchange.response.sent = false) :
    route.settleFailure failure exchange =
      { exchange with
        response :=
          { exchange.response with
            status := some failure.status
            body := some (.string (failure.publicMessage exchange.request.correlationId))
            sent := true }
        telemetry :=
          (exchange.telemetry.log
              (route.abortRecord failure exchange.request.correlationId)).count
            ⟨abortedMetric,
              [("contract", route.name), ("status", Text.decimalText failure.status)]⟩ } := by
  cases failure <;>
    simp [settleFailure, abortRecord, Exchange.respondAll, Exchange.respond, Response.apply,
      Response.answer, unsent, Telemetry.logAll, Exchange.log, Exchange.count, abortedMetric]

/-- Settles the end of a passage and checks the response. -/
def finish (route : Route State) (passage : Passage State) : Exchange State :=
  let exchange := route.settle passage
  { exchange with
    telemetry := route.checkResponse (route.recorded exchange) exchange.telemetry }

/-- A failure before any answer turns the request away. -/
theorem turnedAway_of_failed (route : Route State) (exchange : Exchange State)
    (failure : Failure) (unsent : exchange.response.sent = false)
    (noStream : exchange.response.events = none) :
    TurnedAway route.name failure.status exchange.telemetry exchange.state
      (route.finish (.failed exchange failure)) := by
  have settled : route.settle (.failed exchange failure) = route.settleFailure failure exchange :=
    rfl
  rw [finish, settled, settleFailure_of_unsent failure unsent]
  exact {
    sent := rfl
    code := rfl
    body := rfl
    noStream := noStream
    stateKept := rfl
    reported := ⟨_, reportsAbort_abortRecord failure _, checkResponse_quiet _ _⟩ }

end Route

end ApiContract
