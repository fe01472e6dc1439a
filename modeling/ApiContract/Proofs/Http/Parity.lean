import ApiContract.Http.Surface
import ApiContract.Proofs.Entries
import ApiContract.Proofs.Exchange.Indifference
import ApiContract.Routing.Router

/-!
# Calls over the network and calls inside the process

An endpoint may be called inside the process or over the network.  Two builders make the
request that its stages see, and two replays turn the recorded answer into what the caller
gets.  This module proves that, where the stages do not read the path, both ways lead to
the same answer.
-/

namespace ApiContract

/-! ## Texts collected under a name -/

namespace MultiValue

variable {members : Entries Value} {name text : String}

theorem get?_add (members : Entries Value) (name text key : String) :
    Entries.get? (add members name text) key =
      if key = name then
        some (((Entries.get? members name).map (extended · text)).getD (.string text))
      else Entries.get? members key := by
  rw [add]
  cases Entries.get? members name <;> exact Entries.get?_insert ..

/-- The first text under a name stays the first when others follow. -/
theorem first?_extended {value : Value} (first : first? value = some text) (other : String) :
    first? (extended value other) = some text := by
  cases value with
  | string own => exact first
  | array items =>
      cases items with
      | nil => cases first
      | cons item rest => exact first
  | null | bool | number | bigint | date | object => cases first

/-- The first text among the members under a name. -/
def firstAt? (members : Entries Value) (name : String) : Option String :=
  Entries.get? members name >>= first?

theorem firstAt?_add_of_some (found : firstAt? members name = some text) (other more : String) :
    firstAt? (add members other more) name = some text := by
  rcases Option.bind_eq_some_iff.mp found with ⟨value, held, first⟩
  rw [firstAt?, get?_add]
  split
  · next same =>
      rw [← same, held]
      exact first?_extended first more
  · exact found

theorem firstAt?_foldl_of_some (pairs : List (String × String))
    (found : firstAt? members name = some text) :
    firstAt? (pairs.foldl (fun members (name, text) => add members name text) members) name =
      some text := by
  induction pairs generalizing members with
  | nil => exact found
  | cons pair rest ih => exact ih (firstAt?_add_of_some found pair.1 pair.2)

theorem firstAt?_foldl_of_none (pairs : List (String × String))
    (absent : Entries.get? members name = none) :
    firstAt? (pairs.foldl (fun members (name, text) => add members name text) members) name =
      Entries.get? pairs name := by
  induction pairs generalizing members with
  | nil => simp [firstAt?, absent]
  | cons pair rest ih =>
      rw [List.foldl_cons, Entries.get?_cons]
      by_cases same : name = pair.1
      · rw [if_pos same]
        apply firstAt?_foldl_of_some
        rw [firstAt?, get?_add, if_pos same, ← same, absent]
        rfl
      · rw [if_neg same]
        apply ih
        rw [get?_add, if_neg same, absent]

/-- Of collected texts the first under a name is the first that was given for it. -/
theorem firstAt?_collect (pairs : List (String × String)) (name : String) :
    firstAt? (collect pairs) name = Entries.get? pairs name :=
  firstAt?_foldl_of_none pairs rfl

end MultiValue

/-! ## Requests -/

/-- Headers with their names in lower case. -/
def loweredHeaders (headers : List (String × String)) : List (String × String) :=
  headers.map fun (name, text) => (Text.lowered name, text)

theorem loweredHeaders_loweredHeaders (headers : List (String × String)) :
    loweredHeaders (loweredHeaders headers) = loweredHeaders headers := by
  simp [loweredHeaders, Text.lowered_lowered]

theorem Request.foldl_addHeader (headers : List (String × String)) (request : Request)
    {members : Entries Value} (start : request.headers = .object members) :
    headers.foldl (fun request (name, text) => request.addHeader name text) request =
      { request with
        headers := .object ((loweredHeaders headers).foldl
          (fun members (name, text) => MultiValue.add members name text) members) } := by
  induction headers generalizing request members with
  | nil => rw [loweredHeaders, List.map_nil, List.foldl_nil, List.foldl_nil, ← start]
  | cons header rest ih =>
      have added : (request.addHeader header.1 header.2).headers =
          .object (MultiValue.add members (Text.lowered header.1) header.2) := by
        rw [addHeader, start]
        rfl
      exact ih (request.addHeader header.1 header.2) added

namespace LocalCall

/-- The call with the given texts for parameters of the path and of the query and for headers,
and with the value of a JSON body, or null for none. -/
def ofTexts (params query headers : List (String × String)) (json : Option Json) :
    LocalCall where
  params := Entries.ofList (params.map fun (name, text) => (name, .string text))
  query := MultiValue.collect query
  headers := headers
  body := (json.map Value.ofJson).getD .null

end LocalCall

namespace Http

/-- A body carries a JSON value when it reads back as that value. Without one it is empty. -/
def Carries (bytes : List UInt8) : Option Json → Prop
  | none => bytes = []
  | some json => ∃ text, Text.ofUtf8? bytes = some text ∧ Json.read text = .ok json

theorem bodyValue_of_carries {bytes : List UInt8} {json : Option Json}
    (carries : Carries bytes json) : bodyValue bytes = (json.map Value.ofJson).getD .null := by
  cases json with
  | none =>
      cases carries
      rfl
  | some json =>
      rcases carries with ⟨text, decodes, reads⟩
      have filled : bytes.isEmpty = false := by
        cases bytes with
        | nil =>
            have empty : text = "" := by
              cases decodes
              rfl
            rw [empty] at reads
            have fails : Json.read "" = .error ⟨.endInValue, 1, 0⟩ := by
              with_unfolding_all rfl
            rw [fails] at reads
            cases reads
        | cons byte rest => rfl
      rw [bodyValue, filled, decodes]
      simp [reads]

variable {State : Type}

theorem bare_ofTarget (method target : String) {headers : List (String × String)}
    (bytes : List UInt8) (visible : ∀ header ∈ headers, isVisibleText header.2) :
    (WireRequest.ofTarget method target headers bytes).bare =
      { method := method
        path := (WireRequest.ofTarget method target headers bytes).path
        headers := .object (MultiValue.collect (loweredHeaders headers)) } := by
  have kept : (loweredHeaders headers).filter (fun header => isVisibleText header.2) =
      loweredHeaders headers := by
    rw [List.filter_eq_self]
    exact List.forall_mem_map.mpr visible
  have arrived : (WireRequest.ofTarget method target headers bytes).headers =
      loweredHeaders headers := rfl
  rw [WireRequest.bare, arrived, kept, Request.foldl_addHeader _ _ rfl,
    loweredHeaders_loweredHeaders]
  rfl

/-- Both builders make the same request, but for its path. -/
theorem toRequest_ofTarget (route : Route State) (params query : List (String × String))
    (target : String) {headers : List (String × String)} {json : Option Json}
    {bytes : List UInt8} (visible : ∀ header ∈ headers, isVisibleText header.2)
    (carries : Carries bytes json) :
    (WireRequest.ofTarget route.method target headers bytes).toRequest params query =
      { (LocalCall.ofTexts params query headers json).request route with
        path := (WireRequest.ofTarget route.method target headers bytes).path } := by
  have body : bodyValue (WireRequest.ofTarget route.method target headers bytes).body =
      (json.map Value.ofJson).getD .null := bodyValue_of_carries carries
  rw [WireRequest.toRequest, bare_ofTarget _ _ _ visible, body, LocalCall.request,
    Request.foldl_addHeader _ _ rfl]
  rfl

theorem header?_request (call : LocalCall) (route : Route State) (name : String) :
    (call.request route).header? name =
      Entries.get? (loweredHeaders call.headers) (Text.lowered name) := by
  rw [← MultiValue.firstAt?_collect, LocalCall.request, Request.foldl_addHeader _ _ rfl]
  rfl

/-! ## Responses -/

/-- The texts under the name of a header, in order. -/
def textsUnder (headers : List (String × String)) (name : String) : List String :=
  (headers.filter fun header => header.1 = name).map Prod.snd

/-- A recorded response that can travel as it is: it is no stream, its status has three digits,
and its headers are valid on the wire. -/
structure Travels (response : Response) : Prop where
  noStream : response.events = none
  status : 100 ≤ response.code ∧ response.code ≤ 999
  headers : ∀ header ∈ response.headers, isWireName header.1 ∧ isWireValue header.2

/-- A recorded payload that travels as it stands, without being written as JSON. -/
def IsRawText (response : Response) (text : String) : Prop :=
  response.body = some (.string text) ∧ WireResponse.isTextual (response.header? "content-type")

/-- The message says what a caller inside the process is given. -/
structure Conveys (message : WireResponse) (response : Response) : Prop where
  status : message.status = response.toLocal.code
  headers : ∀ header ∈ response.toLocal.headers,
    textsUnder message.headers header.1 = textsUnder response.toLocal.headers header.1
  silence : response.body = none → message.body = .text ""
  rawText : ∀ text, IsRawText response text → message.body = .text text
  json : response.body ≠ none → (∀ text, ¬IsRawText response text) →
    message.body = .text response.toLocal.payload.compact

/-- Headers that are put in place of others of their names are all that a message has under
these names. -/
theorem textsUnder_withHeaders (message : WireResponse) {headers : List (String × String)}
    {header : String × String} (member : header ∈ headers) :
    textsUnder (message.withHeaders headers).headers header.1 =
      textsUnder headers header.1 := by
  have replaced : ((message.headers.filter fun other =>
      !(headers.map Prod.fst).contains other.1).filter fun other => other.1 = header.1) = [] := by
    rw [List.filter_eq_nil_iff]
    intro other kept
    have absent : other.1 ∉ headers.map Prod.fst := by
      simpa [-List.mem_map] using (List.mem_filter.mp kept).2
    rw [decide_eq_true_eq]
    rintro same
    exact absent (same ▸ List.mem_map_of_mem member)
  rw [textsUnder, WireResponse.withHeaders, List.filter_append, replaced, List.nil_append]
  rfl

/-- The message of a recorded payload holds its text or its JSON. -/
theorem body_ofPayload (contentType : Option String) (payload : Value) :
    (WireResponse.ofPayload contentType (some payload)).body = .text payload.toJson.compact ∨
      ∃ text, payload = .string text ∧ WireResponse.isTextual contentType ∧
        (WireResponse.ofPayload contentType (some payload)).body = .text text := by
  cases payload with
  | string text =>
      rw [WireResponse.ofPayload]
      split
      · next textual => exact .inr ⟨text, rfl, textual, rfl⟩
      · exact .inl rfl
  | null | bool | number | bigint | date | array | object => exact .inl rfl

theorem conveys_ofResponse {response : Response} (travels : Travels response) :
    Conveys (.ofResponse response) response := by
  have kept : (response.headers.filter fun (name, text) => isWireName name && isWireValue text) =
      response.headers := by
    rw [List.filter_eq_self]
    intro header member
    rw [Bool.and_eq_true]
    exact travels.headers header member
  have message : WireResponse.ofResponse response =
      { (WireResponse.ofPayload (response.header? "content-type") response.body).withHeaders
          response.headers with
        status := WireResponse.wireStatus response.code } := by
    rw [WireResponse.ofResponse, travels.noStream, kept]
  have body : (WireResponse.ofResponse response).body =
      (WireResponse.ofPayload (response.header? "content-type") response.body).body := by
    rw [message]
    rfl
  refine ⟨?_, ?_, ?_, ?_, ?_⟩
  · rw [message]
    exact if_pos travels.status
  · intro header member
    rw [message]
    exact textsUnder_withHeaders _ member
  · intro silent
    rw [body, silent]
    rfl
  · rintro text ⟨recorded, textual⟩
    rw [body, recorded, WireResponse.ofPayload, if_pos textual]
    rfl
  · intro answered encoded
    rcases Option.ne_none_iff_exists'.mp answered with ⟨payload, recorded⟩
    rw [body, recorded, Response.toLocal, travels.noStream, recorded]
    rcases body_ofPayload (response.header? "content-type") payload with
      json | ⟨text, rfl, textual, _⟩
    · exact json
    · exact absurd ⟨recorded, textual⟩ (encoded text)

/-! ## Both ways -/

/-- A call inside the process and a call over the network that bring the same parts, among them
a correlation id that is not blank, do the same to the service and get the same answer. -/
theorem answerDecoded_conveys_run {route : Route State} {here there : Occasion}
    (ignoring : route.IgnoresPath here there) (params query : List (String × String))
    {headers : List (String × String)} {json : Option Json} {id : String} {bytes : List UInt8}
    {limit : Nat} (target : String) (telemetry : Telemetry) (state : State)
    (visible : ∀ header ∈ headers, isVisibleText header.2)
    (brings : Entries.get? (loweredHeaders headers) correlationHeader = some id)
    (filled : ¬Text.isBlankText id) (carries : Carries bytes json)
    (fits : bytes.length ≤ limit) :
    let exchange := (LocalCall.ofTexts params query headers json).run route telemetry state here
    let served := Endpoint.answerDecoded route limit params query
      (.ofTarget route.method target headers bytes) telemetry state there
    served.telemetry = exchange.telemetry ∧ served.state = exchange.state ∧
      (Travels exchange.response → Conveys served.response exchange.response) := by
  intro exchange served
  let request := (LocalCall.ofTexts params query headers json).request route
  have correlated : Stage.BringsCorrelationId request := by
    refine ⟨id, ?_, filled⟩
    rw [header?_request]
    exact brings
  have alike := Route.alike_dispatch ignoring correlated
    (WireRequest.ofTarget route.method target headers bytes).path telemetry state
  have unlimited : ¬(WireRequest.ofTarget route.method target headers bytes).body.length > limit :=
    Nat.not_lt.mpr fits
  have answered : served =
      ⟨.ofResponse exchange.response, exchange.telemetry, exchange.state⟩ := by
    simp only [served, Endpoint.answerDecoded]
    rw [if_neg unlimited, toRequest_ofTarget route params query target visible carries,
      alike.response_eq, alike.telemetry_eq, alike.state_eq]
    rfl
  rw [answered]
  exact ⟨rfl, rfl, conveys_ofResponse⟩

/-- A contract whose endpoint takes an invoice and a list of choices. -/
def payContract : Contract where
  name := "pay"
  params := some (.ofFields [("id", .string)])
  body := some (.array .boolean)

/-- The endpoint counts its calls and answers with the choices. One of its stages names the
correlation id once more. -/
def payRoute : Route Nat where
  basePath := "/billing"
  path := "/:id/pay"
  method := "POST"
  contract := payContract
  compiled := { request := ⟨.native, payContract.requestSchema, by decide⟩
                responses := []
                responseHeaders := none }
  cors := {}
  auth := none
  userStages := [fun next exchange =>
    next (exchange.setHeader "x-echo" exchange.request.correlationId)]
  handler := fun exchange =>
    { state := exchange.state + 1
      ops := [.setHeader "x-tag" (.array [.string "a", .string "b"]),
        .send exchange.request.body] }

theorem payRoute_ignoresPath (here there : Occasion) : payRoute.IgnoresPath here there := by
  constructor
  · intro stage member
    cases List.mem_singleton.mp member
    intro next next' agree left right alike
    dsimp only
    rw [alike.correlationId_eq]
    exact agree _ _ (alike.setHeader _ _)
  · rintro left _ ⟨_, path, rfl⟩
    rfl

/-- What the endpoint records for two choices. -/
def payAnswer : Response where
  headers := [("x-correlation-id", "seen"), ("access-control-allow-origin", "*"),
    ("access-control-expose-headers", "x-correlation-id"), ("x-echo", "seen"), ("x-tag", "a"),
    ("x-tag", "b")]
  body := some (.array [.bool true, .bool false])
  sent := true

/-- The answer over the network to a call that could also be made inside the process. -/
theorem payRoute_answer :
    let served := Endpoint.answerDecoded payRoute 16 [("id", "7")] [("page", "1"), ("page", "2")]
      (.ofTarget payRoute.method "/billing/7/pay?page=1&page=2" [("X-Correlation-Id", "seen")]
        "[true,false]".toUTF8.toList) {} 0 ⟨"there", ⟨1, 0, by decide⟩⟩
    served.state = 1 ∧ served.response.status = 200 ∧
      textsUnder served.response.headers "x-echo" = ["seen"] ∧
      textsUnder served.response.headers "x-tag" = ["a", "b"] ∧
      served.response.body = .text "[true,false]" := by
  intro served
  let here : Occasion := ⟨"here", ⟨0, 0, by decide⟩⟩
  let choices : Json := .array [.bool true, .bool false]
  have visible : ∀ header ∈ [("X-Correlation-Id", "seen")], isVisibleText header.2 := by decide
  have carries : Carries "[true,false]".toUTF8.toList (some choices) :=
    ⟨"[true,false]", by decide +kernel, by with_unfolding_all rfl⟩
  have fits : "[true,false]".toUTF8.toList.length ≤ 16 := by decide +kernel
  rcases answerDecoded_conveys_run
    (payRoute_ignoresPath here ⟨"there", ⟨1, 0, by decide⟩⟩) [("id", "7")]
    [("page", "1"), ("page", "2")] "/billing/7/pay?page=1&page=2" {} 0 visible rfl (by decide)
    carries fits with ⟨_, counted, conveys⟩
  let exchange := (LocalCall.ofTexts [("id", "7")] [("page", "1"), ("page", "2")]
    [("X-Correlation-Id", "seen")] (some choices)).run payRoute {} 0 here
  have answered : exchange.response = payAnswer := rfl
  have handled : exchange.state = 1 := rfl
  have travels : Travels payAnswer := ⟨rfl, by decide, by decide⟩
  rw [answered] at conveys
  have said : Conveys served.response payAnswer := conveys travels
  have echoed : textsUnder payAnswer.headers "x-echo" = ["seen"] := by decide
  have tagged : textsUnder payAnswer.headers "x-tag" = ["a", "b"] := by decide
  have written : payAnswer.toLocal.payload.compact = "[true,false]" := rfl
  refine ⟨counted.trans handled, said.status, (said.headers ("x-echo", "seen") ?_).trans echoed,
    (said.headers ("x-tag", "a") ?_).trans tagged, (said.json ?_ ?_).trans (by rw [written])⟩
  · simp [payAnswer, Response.toLocal]
  · simp [payAnswer, Response.toLocal]
  · simp [payAnswer]
  · rintro text ⟨raw, _⟩
    cases raw

end Http

end ApiContract
