import ApiContract.Proofs.Exchange.Finality
import Mathlib.Data.List.Induction

/-!
# The first answer wins

Steps on a fresh response may set its status and its headers as often as they like, but of
the steps that answer only the first one counts.  What a response has recorded is said here by
one optional answer, and a step keeps that answer if there is one and gives its own otherwise.
A run of steps therefore records the first answer among them, and every further answer leaves a
warning.  A payload that has no form as JSON ends its step in an error before the response is
touched, so such a step counts for no answer.
-/

namespace ApiContract

namespace ReplyBody

/-- The payload of a reply that is no stream. -/
def payload? : ReplyBody → Option Value
  | .payload value => some value
  | .empty | .stream _ => none

/-- The events of a stream. -/
def events? : ReplyBody → Option (List StreamEvent)
  | .stream events => some events
  | .empty | .payload _ => none

end ReplyBody

namespace ResponseOp

/-- The step is one of those that are to answer. -/
def isAnswer : ResponseOp → Bool
  | .setStatus _ | .setHeader _ _ => false
  | .send _ | .sendJson _ | .finish | .stream _ => true

/-- The step answers: it is to, and does not end in an error. -/
def answers (op : ResponseOp) : Bool :=
  op.isAnswer && op.error?.isNone

/-- What a step answers with. JSON is answered with as a value. -/
def reply? : ResponseOp → Option ReplyBody
  | .setStatus _ | .setHeader _ _ | .sendJson (.error _) => none
  | .send payload => some (.payload payload)
  | .sendJson (.ok payload) => some (.payload (.ofJson payload))
  | .finish => some .empty
  | .stream events => some (.stream events)

end ResponseOp

namespace Response

variable {response other : Response} {recorded : Option ReplyBody}

/-- What the response has recorded: an answer, or none yet. -/
structure Records (response : Response) (recorded : Option ReplyBody) : Prop where
  sent : response.sent = recorded.isSome
  body : response.body = recorded.bind ReplyBody.payload?
  events : response.events = recorded.bind ReplyBody.events?

namespace Records

theorem fresh : Records {} none :=
  ⟨rfl, rfl, rfl⟩

theorem of_sameAnswer (records : response.Records recorded) (same : other.SameAnswer response) :
    other.Records recorded :=
  ⟨same.sent.trans records.sent, same.body.trans records.body, same.events.trans records.events⟩

theorem answer_of_none (records : response.Records none) (operation : String)
    (answered : Response → Response) :
    response.answer operation answered = ({ answered response with sent := true }, []) := by
  rw [answer, if_neg]
  simp [records.sent]

/-- The first answer is recorded without a warning. -/
theorem apply_of_none (records : response.Records none) (op : ResponseOp) :
    (response.apply op).1.Records op.reply? ∧ (response.apply op).2 = [] := by
  cases op with
  | setStatus status => exact ⟨records.of_sameAnswer ⟨rfl, rfl, rfl⟩, rfl⟩
  | setHeader name value => exact ⟨records.of_sameAnswer ⟨rfl, rfl, rfl⟩, rfl⟩
  | send payload =>
      rw [apply, records.answer_of_none]
      exact ⟨⟨rfl, rfl, records.events⟩, rfl⟩
  | sendJson payload =>
      cases payload with
      | ok json =>
          have marked := records.of_sameAnswer response.sameAnswer_markedAsJson
          rw [apply, marked.answer_of_none]
          exact ⟨⟨rfl, rfl, marked.events⟩, rfl⟩
      | error reason => exact ⟨records, rfl⟩
  | finish =>
      rw [apply, records.answer_of_none]
      exact ⟨⟨rfl, records.body, records.events⟩, rfl⟩
  | stream events =>
      rw [apply, records.answer_of_none]
      exact ⟨⟨rfl, records.body, rfl⟩, rfl⟩

/-- After an answer every further one leaves its warning. -/
theorem apply_of_some {reply : ReplyBody} (records : response.Records (some reply))
    (op : ResponseOp) :
    (response.apply op).1.Records (some reply) ∧
      (response.apply op).2 = op.lateName?.toList.map (response.apply op).1.tooLate := by
  rw [apply_of_sent records.sent]
  exact ⟨records.of_sameAnswer (response.sameAnswer_mark op), rfl⟩

theorem apply (records : response.Records recorded) (op : ResponseOp) :
    (response.apply op).1.Records (recorded.or op.reply?) := by
  cases recorded with
  | none => exact (records.apply_of_none op).1
  | some reply => exact (records.apply_of_some op).1

end Records

/-- What steps make of a fresh response, and the warnings that they leave. -/
def outcome (ops : List ResponseOp) : Response × List LogRecord :=
  ({} : Response).applyAll ops

theorem outcome_concat (ops : List ResponseOp) (op : ResponseOp) :
    outcome (ops ++ [op]) =
      (((outcome ops).1.apply op).1, (outcome ops).2 ++ ((outcome ops).1.apply op).2) := by
  rw [outcome, applyAll_eq_foldl, List.foldl_append]
  rfl

/-- Status and headers may still be set between two answers; JSON that comes second leaves its
content type behind, but not its payload. What has no form as JSON is no answer. -/
example :
    let ops : List ResponseOp := [.setStatus 201, .sendJson (.error "key must be a string"),
      .finish, .setStatus 202, .sendJson (.ok .null)]
    (outcome ops).1.body.isNone ∧ (outcome ops).1.status = some 202 ∧
      (outcome ops).1.headers = [("content-type", "application/json")] ∧
      (outcome ops).2.length = 1 := by
  decide

end Response

end ApiContract
