import ApiContract.Exchange.Response
import Mathlib.Data.List.Forall2

/-!
# Answers that come too late

A response that is sent keeps its answer: no later step changes its body, its stream or the
fact that it is sent, and every step that would answer again leaves one warning.  Status and
headers are not closed in this way.  This module says what each step still marks, which runs
of steps are ignored altogether, and which leave a trace.
-/

namespace ApiContract

namespace ResponseOp

/-- The name by which a step is reported when it comes too late. Steps that give no answer
have none. -/
def lateName? : ResponseOp → Option String
  | .setStatus _ | .setHeader _ _ | .sendJson (.error _) => none
  | .send _ | .sendJson (.ok _) => some "send"
  | .finish => some "end"
  | .stream _ => some "stream"

/-- What a step marks in status and headers, before anyone asks whether it comes too late. -/
def mark (response : Response) : ResponseOp → Response
  | .setStatus status => { response with status := some status }
  | .setHeader name value => response.withHeader name value
  | .sendJson (.ok _) => response.markedAsJson
  | .send _ | .sendJson (.error _) | .finish | .stream _ => response

end ResponseOp

namespace Response

variable {response other : Response}

/-- Two responses have one answer: the same body and the same stream, sent or not. -/
structure SameAnswer (response other : Response) : Prop where
  body : response.body = other.body
  events : response.events = other.events
  sent : response.sent = other.sent

theorem SameAnswer.refl (response : Response) : response.SameAnswer response :=
  ⟨rfl, rfl, rfl⟩

theorem SameAnswer.trans {third : Response} (first : response.SameAnswer other)
    (second : other.SameAnswer third) : response.SameAnswer third :=
  ⟨first.body.trans second.body, first.events.trans second.events, first.sent.trans second.sent⟩

theorem sameAnswer_markedAsJson (response : Response) :
    response.markedAsJson.SameAnswer response := by
  rw [markedAsJson]
  split
  · exact .refl response
  · exact ⟨rfl, rfl, rfl⟩

theorem sameAnswer_mark (response : Response) (op : ResponseOp) :
    (op.mark response).SameAnswer response := by
  cases op with
  | setStatus status => exact ⟨rfl, rfl, rfl⟩
  | setHeader name value => exact ⟨rfl, rfl, rfl⟩
  | sendJson payload =>
      cases payload with
      | ok json => exact response.sameAnswer_markedAsJson
      | error reason => exact .refl response
  | send _ | finish | stream _ => exact .refl response

/-! ## One step on a sent response -/

/-- An answer on a sent response is dropped, and the drop is reported. -/
theorem answer_of_sent (sent : response.sent) (operation : String)
    (answered : Response → Response) :
    response.answer operation answered = (response, [response.tooLate operation]) := by
  rw [answer, if_pos sent]

/-- A step on a sent response marks what it marks, and warns if it would answer. -/
theorem apply_of_sent (sent : response.sent) (op : ResponseOp) :
    response.apply op =
      (op.mark response, op.lateName?.toList.map (op.mark response).tooLate) := by
  have stillSent : response.markedAsJson.sent := by
    rw [response.sameAnswer_markedAsJson.sent]
    exact sent
  cases op with
  | setStatus status => rfl
  | setHeader name value => rfl
  | sendJson payload =>
      cases payload with
      | ok json =>
          rw [apply, answer_of_sent stillSent]
          rfl
      | error reason => rfl
  | send _ | finish | stream _ =>
      rw [apply, answer_of_sent sent]
      rfl

/-! ## Several steps on a sent response -/

/-- What several steps mark, one after the other. -/
def markedBy (response : Response) (ops : List ResponseOp) : Response :=
  ops.foldl ResponseOp.mark response

/-- The warnings of several steps that come too late, in order. -/
def lateWarnings (response : Response) : List ResponseOp → List LogRecord
  | [] => []
  | op :: ops =>
      op.lateName?.toList.map (op.mark response).tooLate ++ lateWarnings (op.mark response) ops

theorem sameAnswer_markedBy (response : Response) (ops : List ResponseOp) :
    (response.markedBy ops).SameAnswer response := by
  induction ops generalizing response with
  | nil => exact .refl response
  | cons op rest ih => exact (ih (op.mark response)).trans (response.sameAnswer_mark op)

/-- A response with the records so far, after one more step. -/
def applyNext (current : Response × List LogRecord) (op : ResponseOp) :
    Response × List LogRecord :=
  ((current.1.apply op).1, current.2 ++ (current.1.apply op).2)

theorem applyAll_eq_foldl (response : Response) (ops : List ResponseOp) :
    response.applyAll ops = ops.foldl applyNext (response, []) :=
  rfl

private theorem foldl_applyNext_of_sent (sent : response.sent) (records : List LogRecord)
    (ops : List ResponseOp) :
    ops.foldl applyNext (response, records) =
      (response.markedBy ops, records ++ response.lateWarnings ops) := by
  induction ops generalizing response records with
  | nil => simp [markedBy, lateWarnings]
  | cons op rest ih =>
      have stillSent : (op.mark response).sent := by
        rw [(response.sameAnswer_mark op).sent]
        exact sent
      rw [List.foldl_cons, applyNext, apply_of_sent sent op, ih stillSent, lateWarnings,
        List.append_assoc]
      rfl

/-- All that steps on a sent response come to: what they mark, and their warnings. -/
theorem applyAll_of_sent (sent : response.sent) (ops : List ResponseOp) :
    response.applyAll ops = (response.markedBy ops, response.lateWarnings ops) := by
  rw [applyAll_eq_foldl, foldl_applyNext_of_sent sent, List.nil_append]

/-- There is one warning for every answer that comes too late, and it names the answer. -/
theorem forall₂_lateWarnings (response : Response) (ops : List ResponseOp) :
    List.Forall₂ (fun record operation => ∃ marked : Response, record = marked.tooLate operation)
      (response.lateWarnings ops) (ops.filterMap ResponseOp.lateName?) := by
  induction ops generalizing response with
  | nil => exact .nil
  | cons op rest ih =>
      rw [lateWarnings]
      cases named : op.lateName? with
      | none =>
          rw [List.filterMap_cons_none named]
          exact ih _
      | some operation =>
          rw [List.filterMap_cons_some named]
          exact .cons ⟨op.mark response, rfl⟩ (ih _)

theorem markedBy_append (response : Response) (earlier later : List ResponseOp) :
    response.markedBy (earlier ++ later) = (response.markedBy earlier).markedBy later :=
  List.foldl_append

theorem lateWarnings_append (response : Response) (earlier later : List ResponseOp) :
    response.lateWarnings (earlier ++ later) =
      response.lateWarnings earlier ++ (response.markedBy earlier).lateWarnings later := by
  induction earlier generalizing response with
  | nil => rfl
  | cons op rest ih =>
      rw [List.cons_append, lateWarnings, ih, lateWarnings, List.append_assoc]
      rfl

/-! ## What is ignored -/

/-- The response ignores steps: they leave it as it is, and all they leave behind is the
warning that an answer came too late. -/
def Ignores (response : Response) (ops : List ResponseOp) (operation : String) : Prop :=
  response.applyAll ops = (response, [response.tooLate operation])

/-- Late steps that mark the response and then warn are ignored just if the mark changes nothing. -/
theorem ignores_iff_of_marked {ops : List ResponseOp} {operation : String} {marked : Response}
    (marks : response.applyAll ops = (marked, [marked.tooLate operation])) :
    response.Ignores ops operation ↔ marked = response := by
  rw [Ignores, marks]
  constructor
  · exact congrArg Prod.fst
  · intro unmarked
    rw [unmarked]

theorem isSome_header?_withHeader (response : Response) (name text : String) :
    ((response.withHeader name (.string text)).header? name).isSome := by
  rw [header?, withHeader, List.lookup_append]
  simp [headerTexts]

/-- JSON that comes too late goes unnoticed just where the content type is set already. -/
theorem markedAsJson_eq_self_iff :
    response.markedAsJson = response ↔ (response.header? "content-type").isSome := by
  constructor
  · intro unmarked
    by_contra unset
    rw [markedAsJson, if_neg unset] at unmarked
    have set := response.isSome_header?_withHeader "content-type" "application/json"
    rw [unmarked] at set
    exact unset set
  · intro set
    rw [markedAsJson, if_pos set]

/-- The response with headers set to values, one after the other. -/
def withHeaders (response : Response) (headers : List (String × Value)) : Response :=
  headers.foldl (fun current header => current.withHeader header.1 header.2) response

theorem withHeaders_eq (response : Response) (status : Option Nat)
    (headers : List (String × Value)) :
    { response with status := status }.withHeaders headers =
      { response with
        status := status
        headers := (response.withHeaders headers).headers } := by
  induction headers generalizing response with
  | nil => rfl
  | cons header rest ih => exact ih (response.withHeader header.1 header.2)

/-- What a reply marks in status and headers. -/
def markedByReply (response : Response) (reply : Reply) : Response :=
  { response with
    status := some reply.status
    headers := (response.withHeaders reply.headers).headers }

theorem markedByReply_eq_self_iff {reply : Reply} :
    response.markedByReply reply = response ↔
      response.status = some reply.status ∧
        (response.withHeaders reply.headers).headers = response.headers := by
  constructor
  · intro unmarked
    have sameHeaders : (response.markedByReply reply).headers = response.headers :=
      congrArg Response.headers unmarked
    exact ⟨(congrArg Response.status unmarked).symm, sameHeaders⟩
  · rintro ⟨sameStatus, sameHeaders⟩
    rw [markedByReply, sameHeaders, ← sameStatus]

end Response

namespace Reply

/-- The name by which the payload of a reply is reported when it comes too late. -/
def operation (reply : Reply) : String :=
  match reply.body with
  | .empty => "end"
  | .payload _ => "send"
  | .stream _ => "stream"

/-- The steps that record status and headers of a reply. -/
def markingOps (reply : Reply) : List ResponseOp :=
  .setStatus reply.status :: reply.headers.map fun (name, value) => .setHeader name value

/-- After the steps that mark a response comes one that answers and marks nothing. -/
theorem exists_ops_eq (reply : Reply) :
    ∃ op : ResponseOp, reply.ops = reply.markingOps ++ [op] ∧
      op.lateName? = some reply.operation ∧ ∀ response, op.mark response = response := by
  rcases reply with ⟨status, headers, body⟩
  cases body with
  | empty => exact ⟨.finish, rfl, rfl, fun _ => rfl⟩
  | payload value => exact ⟨.send value, rfl, rfl, fun _ => rfl⟩
  | stream events => exact ⟨.stream events, rfl, rfl, fun _ => rfl⟩

theorem filterMap_markingOps (reply : Reply) :
    reply.markingOps.filterMap ResponseOp.lateName? = [] := by
  rw [List.filterMap_eq_nil_iff, markingOps, List.forall_mem_cons, List.forall_mem_map]
  exact ⟨rfl, fun _ _ => rfl⟩

end Reply

namespace Response

variable {response : Response}

theorem markedBy_markingOps (response : Response) (reply : Reply) :
    response.markedBy reply.markingOps = response.markedByReply reply := by
  rw [markedBy, Reply.markingOps, List.foldl_cons, List.foldl_map]
  exact response.withHeaders_eq (some reply.status) reply.headers

theorem lateWarnings_markingOps (response : Response) (reply : Reply) :
    response.lateWarnings reply.markingOps = [] := by
  have counted := (response.forall₂_lateWarnings reply.markingOps).length_eq
  rw [reply.filterMap_markingOps] at counted
  exact List.eq_nil_of_length_eq_zero counted

/-- A reply to a sent response marks its status and headers; its payload is dropped with one
warning. -/
theorem applyAll_reply_of_sent (sent : response.sent) (reply : Reply) :
    response.applyAll reply.ops =
      (response.markedByReply reply,
        [(response.markedByReply reply).tooLate reply.operation]) := by
  rcases reply.exists_ops_eq with ⟨op, steps, named, unmarked⟩
  have last : (response.markedByReply reply).lateWarnings [op] =
      [(response.markedByReply reply).tooLate reply.operation] := by
    rw [lateWarnings, named, unmarked]
    rfl
  have marked : (response.markedByReply reply).markedBy [op] = response.markedByReply reply :=
    unmarked _
  rw [applyAll_of_sent sent, steps, markedBy_append, lateWarnings_append,
    lateWarnings_markingOps, markedBy_markingOps, marked, last, List.nil_append]

/-! ## Finality -/

/-- What follows from a response being sent. -/
structure IsFinal (response : Response) : Prop where
  send : ∀ payload, response.Ignores [.send payload] "send"
  finish : response.Ignores [.finish] "end"
  stream : ∀ events, response.Ignores [.stream events] "stream"
  /-- JSON is dropped, but marks the response first. -/
  sendJson : ∀ payload, response.applyAll [.sendJson (.ok payload)] =
    (response.markedAsJson, [response.markedAsJson.tooLate "send"])
  sendJson_ignored_iff : ∀ payload,
    response.Ignores [.sendJson (.ok payload)] "send" ↔ (response.header? "content-type").isSome
  /-- A payload without a form as JSON leaves no trace at all. -/
  sendJson_failed : ∀ reason, response.applyAll [.sendJson (.error reason)] = (response, [])
  /-- The payload of a reply is dropped, but its status and headers are recorded first. -/
  reply : ∀ reply : Reply, response.applyAll reply.ops =
    (response.markedByReply reply, [(response.markedByReply reply).tooLate reply.operation])
  reply_ignored_iff : ∀ reply : Reply, response.Ignores reply.ops reply.operation ↔
    response.status = some reply.status ∧
      (response.withHeaders reply.headers).headers = response.headers
  /-- Whatever follows, body and stream stay, and the response stays sent. -/
  kept : ∀ later, (response.applyAll later).1.SameAnswer response
  /-- Whatever follows, there is one warning for every answer. -/
  warned : ∀ later, List.Forall₂
    (fun record operation => ∃ marked : Response, record = marked.tooLate operation)
    (response.applyAll later).2 (later.filterMap ResponseOp.lateName?)

/-- A response that is sent keeps its answer; late JSON and late replies may still mark its
status and headers. -/
theorem isFinal_of_sent (response : Response) (sent : response.sent) : response.IsFinal where
  send payload := applyAll_of_sent sent [.send payload]
  finish := applyAll_of_sent sent [.finish]
  stream events := applyAll_of_sent sent [.stream events]
  sendJson payload := applyAll_of_sent sent [.sendJson (.ok payload)]
  sendJson_ignored_iff payload := by
    have comes : response.applyAll [.sendJson (.ok payload)] =
        (response.markedAsJson, [response.markedAsJson.tooLate "send"]) :=
      applyAll_of_sent sent [.sendJson (.ok payload)]
    rw [ignores_iff_of_marked comes, markedAsJson_eq_self_iff]
  sendJson_failed _ := rfl
  reply reply := applyAll_reply_of_sent sent reply
  reply_ignored_iff reply := by
    rw [ignores_iff_of_marked (applyAll_reply_of_sent sent reply), markedByReply_eq_self_iff]
  kept later := by
    rw [applyAll_of_sent sent]
    exact response.sameAnswer_markedBy later
  warned later := by
    rw [applyAll_of_sent sent]
    exact response.forall₂_lateWarnings later

/-- A response that reports the creation of something. -/
def created : Response :=
  (({} : Response).applyAll [.setStatus 201, .send (.string "first")]).1

/-- A second reply of the same status is ignored, one of another status is not, and neither
is JSON without a content type. -/
theorem isFinal_created :
    created.Ignores (Reply.ops { status := 201, body := .payload (.string "second") }) "send" ∧
      ¬created.Ignores (Reply.ops { status := 500, body := .payload (.string "second") }) "send" ∧
      ¬created.Ignores [.sendJson (.ok .null)] "send" := by
  have final := isFinal_of_sent created rfl
  refine ⟨(final.reply_ignored_iff _).mpr ⟨rfl, rfl⟩, ?_, ?_⟩
  · intro ignored
    cases ((final.reply_ignored_iff { status := 500, body := .payload (.string "second") }).mp
      ignored).1
  · intro ignored
    cases (final.sendJson_ignored_iff .null).mp ignored

/-- After the end of a response, JSON still sets its content type, and an empty reply its
status. -/
theorem late_answers_leave_marks :
    let ended := (({} : Response).applyAll [.finish]).1
    ended.sent ∧ ended.headers = [] ∧ ended.status = none ∧
      (ended.applyAll [.sendJson (.ok .null)]).1.headers = [("content-type", "application/json")] ∧
      (ended.applyAll (Reply.ops { status := 500 })).1.status = some 500 := by
  decide

end Response

end ApiContract
