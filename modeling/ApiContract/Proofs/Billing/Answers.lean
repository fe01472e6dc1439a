import ApiContract.Proofs.Billing.Endpoints
import ApiContract.Proofs.Billing.Shape

/-!
# Answers that fit their contracts

Every answer of a mounted endpoint is checked against the schema that its contract declares
for the status.  This module says which invoices an answer shows, that the check objects just
when one of them has a time in a year that is written with a sign, and that no answer is
objected to as long as all times lie in other years.
-/

namespace ApiContract.Billing

open Schema

/-! ## What the check of an answer looks at -/

/-- What a response says fits the schema that the contract declares for its status. -/
def FitsContract (contract : Contract) (response : Response) : Prop :=
  ∀ value, response.body = some value → ∃ schema converted,
    ByStatus.get? contract.responseSchemas response.code = some schema ∧
      schema.parse value = .ok converted

/-- What the body of a response says, and which invoices it shows. -/
inductive Shows (response : Response) : List Invoice → Prop where
  | invoice (invoice : Invoice) (body : response.body = some (.ofJson invoice.toJson)) :
      Shows response [invoice]
  | invoices (invoices : List Invoice)
      (body : response.body = some (.ofJson (.array (invoices.map Invoice.toJson)))) :
      Shows response invoices
  | problem (text : String)
      (body : response.body = some (.ofJson (.object [("error", .string text)]))) :
      Shows response []
  | plain (text : String) (body : response.body = some (.string text)) : Shows response []
  | nothing (noBody : response.body = none) : Shows response []

/-- How the check judges an answer that shows the given invoices: it objects, and counts this,
just when one of them has a year that is written with a sign. -/
structure Judges (route : Route InvoiceStore) (before : Telemetry)
    (answer : Exchange InvoiceStore) (shown : List Invoice) : Prop where
  fits : (∀ invoice ∈ shown, invoice.HasPlainYears) →
    FitsContract route.contract answer.response ∧ answer.telemetry.misfits = before.misfits
  misfit : (∃ invoice ∈ shown, ¬invoice.HasPlainYears) →
    ¬FitsContract route.contract answer.response ∧
      answer.telemetry.misfits = before.misfits ++ [⟨misfitMetric,
        [("contract", route.name), ("status", Text.decimalText answer.response.code)]⟩]

/-- The route checks its answers natively, and against no headers. -/
structure ChecksNatively (route : Route InvoiceStore) : Prop where
  compiles : route.contract.compile .native = .ok route.compiled
  options : route.contract.options = {}
  noHeaders : route.contract.responseHeaders = none
  failures : ∀ status ∈ [400, 401, 403],
    ByStatus.get? route.contract.responseSchemas status = some .string

variable {router : Router} {route : Route InvoiceStore}

theorem checksNatively_of_mem_install (native : router.backend = .native)
    (member : route ∈ (install router {}).2.routes) : ChecksNatively route := by
  rcases routesTo_of_mem_install member with ⟨endpoint, listed, routed⟩
  have compiles := Router.compile_of_route routed
  rw [native, ← (Router.serves_of_route routed).contract] at compiles
  have contract := (Router.serves_of_route routed).contract
  simp only [endpoints, List.mem_cons, List.not_mem_nil, or_false] at listed
  rcases listed with rfl | rfl | rfl | rfl | rfl <;>
    exact {
      compiles := compiles
      options := by rw [contract]; rfl
      noHeaders := by rw [contract]; rfl
      failures := by
        rw [contract]
        simp only [List.forall_mem_cons]
        exact ⟨rfl, rfl, rfl, List.forall_mem_nil _⟩ }

/-! ## The check of an answer -/

namespace ChecksNatively

variable {answer : Exchange InvoiceStore} {noted : Telemetry}

theorem compiledHeaders (checks : ChecksNatively route) :
    route.compiled.responseHeaders = none := by
  have headers := (Contract.compile_responses checks.compiles).2
  rw [checks.noHeaders] at headers
  exact (Except.ok.inj headers).symm

theorem recorded_eq (checks : ChecksNatively route) (noStream : answer.response.events = none) :
    route.recorded answer = some {
      correlationId := answer.request.correlationId
      status := answer.response.code
      body := answer.response.body
      headers := answer.response.headerValue } := by
  rw [Route.recorded, checks.options, Response.isStreaming, noStream]
  rfl

/-- What is not there is not objected to. -/
theorem checkResponse_of_noBody (checks : ChecksNatively route)
    (noBody : answer.response.body = none) :
    route.checkResponse (route.recorded answer) noted = noted := by
  cases streams : answer.response.events with
  | none =>
      rw [checks.recorded_eq streams]
      exact Route.checkResponse_of_noBody checks.compiledHeaders noBody
  | some events =>
      rw [Route.recorded, Response.isStreaming, streams, if_pos (.inr rfl)]
      rfl

/-- The check of a body against the schema that is declared for the status of the answer. -/
theorem checkResponse_of_declared (checks : ChecksNatively route)
    (noStream : answer.response.events = none) {schema : Schema} {value : Value}
    (declared : ByStatus.get? route.contract.responseSchemas answer.response.code = some schema)
    (body : answer.response.body = some value) :
    (walk .converting schema value).Clean ∧
        route.checkResponse (route.recorded answer) noted = noted ∨
      ¬(walk .converting schema value).Clean ∧
        (route.checkResponse (route.recorded answer) noted).misfits = noted.misfits ++
          [⟨misfitMetric, [("contract", route.name),
            ("status", Text.decimalText answer.response.code)]⟩] := by
  rcases ByStatus.exists_get?_compile (Contract.compile_responses checks.compiles).1 declared with
    ⟨wellFormed, listed⟩
  rw [checks.recorded_eq noStream,
    Route.checkResponse_of_checker checks.compiledHeaders listed body]
  cases parsed : Checker.parse ⟨.native, schema, wellFormed⟩ value with
  | ok converted => exact .inl ⟨(parse_eq_ok_iff.mp parsed).1, rfl⟩
  | error issues =>
      refine .inr ⟨?_, Route.misfits_noteInvalidResponse route _ noted issues⟩
      intro clean
      have accepted : Checker.parse ⟨.native, schema, wellFormed⟩ value = .ok _ :=
        parse_eq_ok_iff.mpr ⟨clean, rfl⟩
      rw [parsed] at accepted
      cases accepted

/-- The judgement of an answer whose body fits just when all times that it shows do. -/
theorem judges (checks : ChecksNatively route) {before : Telemetry} {shown : List Invoice}
    (noStream : answer.response.events = none) {schema : Schema} {value : Value}
    (declared : ByStatus.get? route.contract.responseSchemas answer.response.code = some schema)
    (body : answer.response.body = some value)
    (clean_iff : (walk .converting schema value).Clean ↔
      ∀ invoice ∈ shown, invoice.HasPlainYears)
    (kept : noted.misfits = before.misfits)
    (checked : answer.telemetry = route.checkResponse (route.recorded answer) noted) :
    Judges route before answer shown := by
  have fits_iff : FitsContract route.contract answer.response ↔
      (walk .converting schema value).Clean := by
    constructor
    · intro fits
      rcases fits value body with ⟨other, converted, isDeclared, parsed⟩
      rw [declared] at isDeclared
      cases isDeclared
      exact (parse_eq_ok_iff.mp parsed).1
    · intro clean said isBody
      rw [body] at isBody
      cases isBody
      exact ⟨schema, _, declared, parse_eq_ok_iff.mpr ⟨clean, rfl⟩⟩
  rcases checks.checkResponse_of_declared noStream declared body with
    ⟨clean, silent⟩ | ⟨unclean, counted⟩
  · rw [silent] at checked
    constructor
    · intro _
      exact ⟨fits_iff.mpr clean, checked ▸ kept⟩
    · rintro ⟨invoice, isShown, signed⟩
      exact absurd (clean_iff.mp clean invoice isShown) signed
  · constructor
    · intro plain
      exact absurd (clean_iff.mpr plain) unclean
    · intro _
      rw [checked, counted, kept]
      exact ⟨fun fits => unclean (fits_iff.mp fits), rfl⟩

theorem judges_of_noBody (checks : ChecksNatively route) {before : Telemetry}
    (noBody : answer.response.body = none) (kept : noted.misfits = before.misfits)
    (checked : answer.telemetry = route.checkResponse (route.recorded answer) noted) :
    Judges route before answer [] := by
  rw [checks.checkResponse_of_noBody noBody] at checked
  constructor
  · intro _
    refine ⟨?_, checked ▸ kept⟩
    intro value body
    rw [noBody] at body
    cases body
  · rintro ⟨_, impossible, _⟩
    cases impossible

end ChecksNatively

variable {service : Service InvoiceStore} {arrival : Arrival InvoiceStore}

/-- Every answer of a mounted route shows invoices of the book, and is judged by their times. -/
theorem answer_judged (native : router.backend = .native)
    (member : arrival.route ∈ (install router {}).2.routes)
    (consistent : service.state.Consistent) :
    ∃ shown, Shows (service.answer arrival).response shown ∧
      (∀ invoice ∈ shown, (service.answer arrival).state.get? invoice.id = some invoice) ∧
      Judges arrival.route service.telemetry (service.answer arrival) shown := by
  have checks := checksNatively_of_mem_install native member
  rcases answer_cases member consistent with
    unhandled | ⟨_, _, call, shown, _, _, _, calls⟩
  · rcases unhandled.checked with ⟨noted, kept, checked⟩
    refine ⟨[], ?_⟩
    rcases unhandled.plain with noBody | ⟨text, body, status⟩
    · exact ⟨.nothing noBody, List.forall_mem_nil _, checks.judges_of_noBody noBody kept checked⟩
    · have declared := checks.failures _ status
      have clean : (walk .converting .string (.string text)).Clean := rfl
      exact ⟨.plain text body, List.forall_mem_nil _,
        checks.judges unhandled.noStream declared body (iff_of_true clean (List.forall_mem_nil _))
          kept checked⟩
  · refine ⟨shown, ?_⟩
    rcases calls.replies with ⟨reply, headers, replies, recorded⟩
    have listed := calls.listed
    have checked := calls.checked
    generalize service.answer arrival = answer at recorded listed checked ⊢
    rcases answer with ⟨request, response, telemetry, state, occasion⟩
    cases recorded
    cases replies with
    | invoice invoice declared =>
        exact ⟨.invoice invoice rfl, listed,
          checks.judges rfl declared rfl (by simpa using clean_invoice_iff invoice) rfl checked⟩
    | invoices _ declared =>
        exact ⟨.invoices shown rfl, listed,
          checks.judges rfl declared rfl (clean_invoices_iff shown) rfl checked⟩
    | history events =>
        exact ⟨.nothing rfl, listed, checks.judges_of_noBody rfl rfl checked⟩
    | problem text declared =>
        exact ⟨.problem text rfl, listed,
          checks.judges rfl declared rfl
            (iff_of_true (clean_problem text) (List.forall_mem_nil _)) rfl checked⟩

/-! ## Times in years without a sign -/

/-- The request comes, and records a payment, at a time whose year has four digits without a
sign. -/
def Timely (arrival : Arrival InvoiceStore) : Prop :=
  arrival.occasion.now.HasPlainYear ∧
    (arrival.route.contract = markPaid →
      ∀ time ∈ givenTime? arrival.request, time.HasPlainYear)

/-- All times in the book have years of four digits without a sign. -/
def PlainYears (store : InvoiceStore) : Prop :=
  ∀ id invoice, store.get? id = some invoice → invoice.HasPlainYears

theorem plainYears_run {store : InvoiceStore} (consistent : store.Consistent)
    (plain : PlainYears store) {now payment : Instant} {contract : Contract} {call : BookCall}
    (makes : MakesCall now payment contract call) (nowPlain : now.HasPlainYear)
    (paymentPlain : contract = markPaid → payment.HasPlainYear) :
    PlainYears (call.run store).2 := by
  intro id invoice listed
  -- Either the call made the invoice just now, or it was there and is at most settled.
  cases before : store.get? id with
  | none =>
      rcases BookCall.eq_nextInvoice_of_absent consistent before listed with ⟨_, _, rfl, rfl⟩
      cases makes
      exact ⟨nowPlain, fun _ impossible => by cases impossible⟩
  | some earlier =>
      have plainEarlier := plain id earlier before
      rcases call.get?_run consistent before with stays | ⟨time, rfl, settled⟩
      · rw [stays] at listed
        cases listed
        exact plainEarlier
      · rw [settled] at listed
        cases listed
        cases makes
        refine ⟨plainEarlier.1, ?_⟩
        rintro _ ⟨⟩
        exact paymentPlain rfl

/-- The time that the handler of a payment takes is one of those of the request. -/
theorem paymentTime_hasPlainYear (native : router.backend = .native)
    (member : arrival.route ∈ (install router {}).2.routes)
    (pays : arrival.route.contract = markPaid) (timely : Timely arrival) {parsed : Value}
    (fits : arrival.route.compiled.request.parse arrival.request.input = .ok parsed) :
    (paymentTime (arrival.request.withInput parsed) arrival.occasion.now).HasPlainYear := by
  have compiles := (checksNatively_of_mem_install native member).compiles
  rcases Checker.compile_eq_ok (Contract.compile_request compiles) with ⟨wellFormed, checker⟩
  rw [checker] at fits
  have parses : arrival.route.contract.requestSchema.parse arrival.request.input = .ok parsed :=
    fits
  rw [pays] at parses
  rw [paymentTime_of_parse parses]
  cases given : givenTime? arrival.request with
  | none => exact timely.1
  | some time => exact timely.2 pays time given

/-- What timely requests keep: all times in the book have plain years, and no answer was
objected to. -/
structure Unobjected (service : Service InvoiceStore) : Prop where
  consistent : service.state.Consistent
  plain : PlainYears service.state
  silent : service.telemetry.misfits = []

theorem unobjected_after (native : router.backend = .native)
    (member : arrival.route ∈ (install router {}).2.routes) (timely : Timely arrival)
    (unobjected : Unobjected service) :
    FitsContract arrival.route.contract (service.answer arrival).response ∧
      Unobjected (service.after arrival) := by
  rcases unobjected with ⟨consistent, plain, silent⟩
  have plainAfter : PlainYears (service.answer arrival).state := by
    rcases answer_cases member consistent with
      unhandled | ⟨_, parsed, call, _, _, fits, makes, calls⟩
    · rw [unhandled.state]
      exact plain
    · rw [calls.state]
      refine plainYears_run consistent plain makes timely.1 ?_
      intro pays
      exact paymentTime_hasPlainYear native member pays timely fits
  rcases answer_judged native member consistent with ⟨shown, _, listed, judges⟩
  have allPlain : ∀ invoice ∈ shown, invoice.HasPlainYears :=
    fun invoice isShown => plainAfter _ _ (listed invoice isShown)
  rcases judges.fits allPlain with ⟨fits, kept⟩
  exact ⟨fits, consistent_answer member consistent, plainAfter, kept.trans silent⟩

/-! ## Sequences of requests -/

/-- What the contracts of the endpoints promise of the answer to a request after others. -/
structure HonorsContracts (earlier : List (Arrival InvoiceStore))
    (arrival : Arrival InvoiceStore) : Prop where
  /-- The check objects to the answer just when it shows a year with a sign. -/
  judged : let service := Service.afterAll { state := {} } earlier
    ∃ shown, Shows (service.answer arrival).response shown ∧
      Judges arrival.route service.telemetry (service.answer arrival) shown
  /-- As long as all requests are timely, every answer fits and none is objected to. -/
  timely : (∀ each ∈ earlier ++ [arrival], Timely each) →
    let service := Service.afterAll { state := {} } earlier
    FitsContract arrival.route.contract (service.answer arrival).response ∧
      (service.after arrival).telemetry.misfits = []

theorem honorsContracts_afterAll (native : router.backend = .native)
    (earlier : List (Arrival InvoiceStore)) (arrival : Arrival InvoiceStore)
    (mounted : ∀ each ∈ earlier ++ [arrival], each.route ∈ (install router {}).2.routes) :
    HonorsContracts earlier arrival := by
  rcases List.forall_mem_append.mp mounted with ⟨before, last⟩
  have member := last arrival List.mem_cons_self
  have empty : Unobjected { state := {} } := {
    consistent := InvoiceStore.consistent_empty
    plain := fun _ _ found => by cases found
    silent := rfl }
  constructor
  · rcases answer_judged native member (consistent_afterAll before empty.consistent) with
      ⟨shown, shows, _, judges⟩
    exact ⟨shown, shows, judges⟩
  · intro timely
    rcases List.forall_mem_append.mp timely with ⟨timelyBefore, timelyLast⟩
    have unobjected : Unobjected (Service.afterAll { state := {} } earlier) := by
      refine Service.afterAll_keeps ?_ empty
      intro each isEarlier service holds
      exact (unobjected_after native (before each isEarlier) (timelyBefore each isEarlier) holds).2
    rcases unobjected_after native member (timelyLast arrival List.mem_cons_self) unobjected with
      ⟨fits, after⟩
    exact ⟨fits, after.silent⟩

/-- The answers to an order and to its payment fit. -/
theorem clerk_honored :
    ∃ create pay, (install clerkRouter {}).2.routes[1]? = some create ∧
      (install clerkRouter {}).2.routes[3]? = some pay ∧
      HonorsContracts [clerkCalls orderCall create] (clerkCalls paymentCall pay) ∧
        (Service.afterAll { state := {} }
          [clerkCalls orderCall create, clerkCalls paymentCall pay]).telemetry.misfits = [] := by
  have creates : (install clerkRouter {}).2.routes[1]? = some _ := rfl
  have pays : (install clerkRouter {}).2.routes[3]? = some _ := rfl
  have native : clerkRouter.backend = .native := rfl
  refine ⟨_, _, creates, pays, ?_, ?_⟩
  · apply honorsContracts_afterAll native
    rw [List.singleton_append, List.forall_mem_cons, List.forall_mem_singleton]
    exact ⟨List.mem_of_getElem? creates, List.mem_of_getElem? pays⟩
  · decide +kernel

/-- The payment of the first invoice on the first day of the year 10000. -/
def latePaymentCall : LocalCall :=
  { paymentCall with
    body := .object [("paid_at", .date ⟨253402300800, 0, by decide⟩)] }

/-- The answer to a payment in the year 10000 does not fit, and this is counted. -/
theorem late_payment_misfits :
    ∃ create pay, (install clerkRouter {}).2.routes[1]? = some create ∧
      (install clerkRouter {}).2.routes[3]? = some pay ∧
      (Service.afterAll { state := {} }
          [clerkCalls orderCall create, clerkCalls latePaymentCall pay]).telemetry.misfits =
        [⟨misfitMetric, [("contract", "markPaid"), ("status", "200")]⟩] := by
  have creates : (install clerkRouter {}).2.routes[1]? = some _ := rfl
  have pays : (install clerkRouter {}).2.routes[3]? = some _ := rfl
  refine ⟨_, _, creates, pays, ?_⟩
  decide +kernel

end ApiContract.Billing
