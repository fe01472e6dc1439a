import ApiContract.Proofs.Exchange.Stages

/-!
# Headers that are left alone

A step on a response sets at most one header, so that the headers of all other names stay as they
are.  What is said here of some names in lower case holds of a whole passage as soon as no stage
and no handler on its way sets a header of one of these names.
-/

namespace ApiContract

variable {State : Type} {names : List String}

/-- The step sets a header of one of the names, its own name in any letter case. -/
def ResponseOp.SetsAmong (names : List String) : ResponseOp → Prop
  | .setHeader name _ => Text.lowered name ∈ names
  | .sendJson (.ok _) => "content-type" ∈ names
  | .setStatus _ | .send _ | .sendJson (.error _) | .finish | .stream _ => False

namespace Response

/-- The headers of a response that have one of the names, in their order. -/
def headersAmong (names : List String) (response : Response) : List (String × String) :=
  response.headers.filter fun header => header.1 ∈ names

theorem mem_headersAmong {response : Response} {header : String × String} :
    header ∈ response.headersAmong names ↔ header ∈ response.headers ∧ header.1 ∈ names := by
  rw [headersAmong, List.mem_filter, decide_eq_true_iff]

/-- A header that is set takes the place of earlier ones of its name and of no others. -/
theorem headersAmong_withHeader (response : Response) (name : String) (value : Value) :
    (response.withHeader name value).headersAmong names =
      if Text.lowered name ∈ names then
        ((response.headersAmong names).filter fun header => header.1 ≠ Text.lowered name) ++
          (headerTexts value).map fun text => (Text.lowered name, text)
      else response.headersAmong names := by
  have added : ∀ texts : List String,
      (texts.map fun text => (Text.lowered name, text)).filter (fun header => header.1 ∈ names) =
        if Text.lowered name ∈ names then texts.map fun text => (Text.lowered name, text)
        else [] := by
    intro texts
    split
    · next listed => exact List.filter_eq_self.mpr (by simp [listed])
    · next other => exact List.filter_eq_nil_iff.mpr (by simp [other])
  rw [headersAmong, withHeader, List.filter_append, added, List.filter_filter]
  split
  · rw [headersAmong, List.filter_filter]
    simp only [Bool.and_comm]
  · next other =>
      rw [List.append_nil]
      apply List.filter_congr
      intro header _
      by_cases listed : header.1 ∈ names
      · have differ : header.1 ≠ Text.lowered name := fun same => other (same ▸ listed)
        simp [listed, differ]
      · simp [listed]

theorem headersAmong_answer (response : Response) (operation : String)
    {answered : Response → Response}
    (same : ∀ response, (answered response).headers = response.headers) :
    (response.answer operation answered).1.headersAmong names = response.headersAmong names := by
  rw [answer]
  split
  · rfl
  · exact congrArg (List.filter fun header => header.1 ∈ names) (same response)

/-- A step that sets none of the headers leaves them as they are. -/
theorem headersAmong_apply (response : Response) {op : ResponseOp} (other : ¬op.SetsAmong names) :
    (response.apply op).1.headersAmong names = response.headersAmong names := by
  cases op with
  | setStatus status => rfl
  | setHeader name value => exact (response.headersAmong_withHeader name value).trans (if_neg other)
  | send payload => exact response.headersAmong_answer _ fun _ => rfl
  | sendJson payload =>
      cases payload with
      | ok json =>
          have marked : response.markedAsJson.headersAmong names = response.headersAmong names := by
            rw [markedAsJson]
            split
            · rfl
            · exact (response.headersAmong_withHeader "content-type" _).trans (if_neg other)
          rw [← marked]
          exact response.markedAsJson.headersAmong_answer _ fun _ => rfl
      | error reason => rfl
  | finish => exact response.headersAmong_answer _ fun _ => rfl
  | stream events => exact response.headersAmong_answer _ fun _ => rfl

end Response

namespace Exchange

/-- The headers of the names stayed as they were between two exchanges. -/
def KeepsHeaders (names : List String) (before after : Exchange State) : Prop :=
  after.response.headersAmong names = before.response.headersAmong names

namespace KeepsHeaders

variable {before between after : Exchange State}

theorem refl (exchange : Exchange State) : KeepsHeaders names exchange exchange :=
  Eq.refl _

theorem trans (first : KeepsHeaders names before between)
    (second : KeepsHeaders names between after) : KeepsHeaders names before after :=
  Eq.trans second first

/-- Nothing is changed where the response is the same. -/
theorem ofResponse (same : after.response = before.response) : KeepsHeaders names before after :=
  congrArg (Response.headersAmong names) same

theorem andRespondAll (kept : KeepsHeaders names before after) {ops : List ResponseOp}
    (others : ∀ op ∈ ops, ¬op.SetsAmong names) :
    KeepsHeaders names before (after.respondAll ops) := by
  induction ops generalizing after with
  | nil => exact kept
  | cons op rest ih =>
      rcases List.forall_mem_cons.mp others with ⟨first, rest⟩
      exact ih (kept.trans (after.response.headersAmong_apply first)) rest

theorem andHeaders (kept : KeepsHeaders names before after) {headers : List (String × Value)}
    (others : ∀ header ∈ headers, Text.lowered header.1 ∉ names) :
    KeepsHeaders names before (after.setHeaders headers) := by
  apply kept.andRespondAll
  intro op member
  rcases List.mem_map.mp member with ⟨header, listed, rfl⟩
  exact others header listed

end KeepsHeaders

end Exchange

open Exchange (KeepsHeaders)

theorem Stage.preserves_keepsHeaders_handle {handler : Handler State}
    (others : ∀ exchange, ∀ op ∈ (handler exchange).ops, ¬op.SetsAmong names) :
    Stage.Preserves (KeepsHeaders names) (Stage.handle handler) := by
  intro next kept exchange
  have changed : KeepsHeaders names exchange { exchange with state := (handler exchange).state } :=
    .ofResponse rfl
  have handled := changed.andRespondAll (others exchange)
  rw [Stage.handle]
  cases (handler exchange).failure with
  | none => exact handled.trans (kept _)
  | some failure => exact handled

end ApiContract
