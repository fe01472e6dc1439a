import ApiContract.Billing.Api
import ApiContract.Proofs.Billing.Book
import ApiContract.Proofs.Routing.Service

/-!
# The billing endpoints as calls to the book

A request that reaches the handler of a billing endpoint makes one call to the book and is
told the answer.  This module says which call each endpoint makes and how it replies, and
that every route of the mounted endpoints is one of these.
-/

namespace ApiContract.Billing

/-! ## Calls and replies of the endpoints -/

/-- The endpoint of the contract makes the call, given the time and the time of payment that
a request means. -/
inductive MakesCall (now payment : Instant) : Contract → BookCall → Prop where
  | list (status : Option InvoiceStatus) : MakesCall now payment listInvoices (.list status)
  | create (order : Order) : MakesCall now payment createInvoice (.create order now)
  | get (id : String) : MakesCall now payment getInvoice (.get id)
  | pay (id : String) : MakesCall now payment markPaid (.markPaid id payment)
  | events (id : String) : MakesCall now payment invoiceEvents (.get id)

/-- How an endpoint replies, and which invoices the reply shows: one, a list of them, or none,
under a status for which the contract declares just that. -/
inductive Replies (contract : Contract) : List Invoice → Reply → Prop where
  | invoice {status : Nat} (invoice : Invoice)
      (declared : ByStatus.get? contract.responseSchemas status = some invoiceSchema) :
      Replies contract [invoice] (.json status invoice.toJson)
  | invoices {status : Nat} (invoices : List Invoice)
      (declared : ByStatus.get? contract.responseSchemas status = some (.array invoiceSchema)) :
      Replies contract invoices (.json status (.array (invoices.map Invoice.toJson)))
  | history (events : List StreamEvent) : Replies contract [] { body := .stream events }
  | problem {status : Nat} (text : String)
      (declared : ByStatus.get? contract.responseSchemas status = some problemSchema) :
      Replies contract [] (.json status (.object [("error", .string text)]))

/-- What a handler does is one call to the book and one reply. Where the reply tells of a
failure the call changed nothing, and what it shows is in the book. -/
structure Performs (contract : Contract) (store : InvoiceStore) (handled : Handled InvoiceStore)
    (call : BookCall) (shown : List Invoice) (reply : Reply) : Prop where
  outcome : handled = { state := (call.run store).2, ops := reply.ops }
  replies : Replies contract shown reply
  failed : 400 ≤ reply.status → (call.run store).2 = store
  listed : ∀ invoice ∈ shown, (call.run store).2.get? invoice.id = some invoice

namespace Performs

theorem ofRun {contract : Contract} {store after : InvoiceStore} {handled : Handled InvoiceStore}
    {call : BookCall} {answer : BookAnswer} {shown : List Invoice} {reply : Reply}
    (ran : call.run store = (answer, after))
    (outcome : handled = { state := after, ops := reply.ops })
    (replies : Replies contract shown reply) (failed : 400 ≤ reply.status → after = store)
    (listed : ∀ invoice ∈ shown, after.get? invoice.id = some invoice) :
    Performs contract store handled call shown reply := by
  have becomes : (call.run store).2 = after := by rw [ran]
  rw [← becomes] at outcome failed listed
  exact ⟨outcome, replies, failed, listed⟩

variable {exchange : Exchange InvoiceStore}

theorem ofList (consistent : exchange.state.Consistent) :
    ∃ status shown reply, Performs listInvoices exchange.state (handleList exchange)
      (.list status) shown reply := by
  let status :=
    exchange.request.query.get? "status" >>= Value.asString? >>= InvoiceStatus.ofName?
  refine ⟨status, exchange.state.list status, _, rfl, .invoices _ rfl, fun _ => rfl, ?_⟩
  intro invoice member
  have listed : invoice ∈ exchange.state.list none := by
    rw [InvoiceStore.list_none]
    exact List.mem_of_mem_filter member
  exact consistent.mem_list_none_iff.mp listed

theorem ofCreate (consistent : exchange.state.Consistent) :
    ∃ shown reply, Performs createInvoice exchange.state (handleCreate exchange)
      (.create (orderOf exchange.request) exchange.occasion.now) shown reply := by
  let order := orderOf exchange.request
  let now := exchange.occasion.now
  rcases consistent.create_cases order now with ⟨key, invoice, _, _, listed, found⟩ | ⟨_, made⟩
  · rw [handleCreate, found]
    exact ⟨[invoice], _, .ofRun (BookCall.run_create found) rfl (.invoice invoice rfl)
      (fun _ => rfl) (by simpa using listed)⟩
  · rw [handleCreate, made]
    refine ⟨[exchange.state.nextInvoice order now], _,
      .ofRun (BookCall.run_create made) rfl (.invoice _ rfl) ?_ ?_⟩
    · intro failed
      have status : 400 ≤ 201 := failed
      exact absurd status (by decide)
    · intro shown member
      rw [List.mem_singleton.mp member, InvoiceStore.get?_withNext]
      exact if_pos rfl

theorem ofGet (consistent : exchange.state.Consistent) :
    ∃ shown reply, Performs getInvoice exchange.state (handleGet exchange)
      (.get (idOf exchange.request)) shown reply := by
  rw [handleGet]
  cases found : exchange.state.get? (idOf exchange.request) with
  | none => exact ⟨[], _, rfl, .problem _ rfl, fun _ => rfl, List.forall_mem_nil _⟩
  | some invoice =>
      refine ⟨[invoice], _, rfl, .invoice invoice rfl, fun _ => rfl, ?_⟩
      intro shown member
      rw [List.mem_singleton.mp member, consistent.own _ _ found]
      exact found

theorem ofEvents (exchange : Exchange InvoiceStore) :
    ∃ shown reply, Performs invoiceEvents exchange.state (handleEvents exchange)
      (.get (idOf exchange.request)) shown reply := by
  rw [handleEvents]
  cases exchange.state.get? (idOf exchange.request) with
  | none => exact ⟨[], _, rfl, .problem _ rfl, fun _ => rfl, List.forall_mem_nil _⟩
  | some invoice => exact ⟨[], _, rfl, .history _, fun _ => rfl, List.forall_mem_nil _⟩

theorem ofPayment (consistent : exchange.state.Consistent) :
    ∃ shown reply, Performs markPaid exchange.state (handlePayment exchange)
      (.markPaid (idOf exchange.request) (paymentTime exchange.request exchange.occasion.now))
      shown reply := by
  let id := idOf exchange.request
  let time := paymentTime exchange.request exchange.occasion.now
  rcases consistent.markPaid_cases id time with
    ⟨_, outcome⟩ | ⟨_, _, _, outcome⟩ | ⟨invoice, _, _, _, outcome⟩
  · rw [handlePayment, outcome]
    exact ⟨[], _, .ofRun (BookCall.run_markPaid outcome) rfl (.problem _ rfl) (fun _ => rfl)
      (List.forall_mem_nil _)⟩
  · rw [handlePayment, outcome]
    exact ⟨[], _, .ofRun (BookCall.run_markPaid outcome) rfl (.problem _ rfl) (fun _ => rfl)
      (List.forall_mem_nil _)⟩
  · rw [handlePayment, outcome]
    refine ⟨[invoice.settled time], _,
      .ofRun (BookCall.run_markPaid outcome) rfl (.invoice _ rfl) ?_ ?_⟩
    · intro failed
      have status : 400 ≤ 200 := failed
      exact absurd status (by decide)
    · intro shown member
      rw [List.mem_singleton.mp member, InvoiceStore.get?_withSettled]
      exact if_pos rfl

end Performs

/-! ## Mounted routes -/

/-- The endpoint has the given route below the router. -/
def RoutesTo (router : Router) (route : Route InvoiceStore)
    (endpoint : String × String × Contract × Handler InvoiceStore) : Prop :=
  router.route endpoint.1 endpoint.2.1 endpoint.2.2.1 [] endpoint.2.2.2 = .ok route

variable {router : Router} {route : Route InvoiceStore}

theorem mem_routes_installAll {registry : Registry InvoiceStore}
    {listed : List (String × String × Contract × Handler InvoiceStore)}
    (member : route ∈ (installAll router registry listed).2.routes) :
    route ∈ registry.routes ∨ ∃ endpoint ∈ listed, RoutesTo router route endpoint := by
  induction listed generalizing registry with
  | nil => exact .inl member
  | cons endpoint rest ih =>
      rcases endpoint with ⟨method, path, contract, handler⟩
      let attempt : Attempt InvoiceStore := ⟨router, method, path, contract, [], handler⟩
      rw [installAll] at member
      rcases attempt.run_cases registry with ⟨failure, failed⟩ | ⟨added, routed, _, succeeded⟩
      · have outcome : router.attempt registry method path contract [] handler =
            (registry, .error failure) := failed
        rw [outcome] at member
        exact .inl member
      · have outcome : router.attempt registry method path contract [] handler =
            (registry.extended added, .ok added) := succeeded
        rw [outcome] at member
        rcases ih member with inRegistry | ⟨endpoint, isListed, routes⟩
        · rcases List.mem_append.mp inRegistry with before | last
          · exact .inl before
          · cases List.mem_singleton.mp last
            exact .inr ⟨_, List.mem_cons_self, routed⟩
        · exact .inr ⟨endpoint, List.mem_cons_of_mem _ isListed, routes⟩

/-- Mounting the endpoints at a router registers no other routes. -/
theorem routesTo_of_mem_install (member : route ∈ (install router {}).2.routes) :
    ∃ endpoint ∈ endpoints, RoutesTo router route endpoint := by
  rw [install] at member
  rcases mem_routes_installAll member with before | mounted
  · exact absurd before List.not_mem_nil
  · exact mounted

/-- A mounted route is that of one of the endpoints, which have no stages of their own and
take the usual options. -/
theorem exists_serves (member : route ∈ (install router {}).2.routes) :
    ∃ endpoint ∈ endpoints, router.Serves endpoint.2.2.1 [] endpoint.2.2.2 route ∧
      endpoint.2.2.1.options = {} := by
  rcases routesTo_of_mem_install member with ⟨endpoint, listed, routed⟩
  refine ⟨endpoint, listed, Router.serves_of_route routed, ?_⟩
  simp only [endpoints, List.mem_cons, List.not_mem_nil, or_false] at listed
  rcases listed with rfl | rfl | rfl | rfl | rfl <;> rfl

/-- A request that reaches the handler of a mounted route makes a call to the book. -/
theorem exists_performs (member : route ∈ (install router {}).2.routes)
    {exchange : Exchange InvoiceStore} (consistent : exchange.state.Consistent) :
    ∃ call shown reply,
      MakesCall exchange.occasion.now (paymentTime exchange.request exchange.occasion.now)
          route.contract call ∧
        Performs route.contract exchange.state (route.handler exchange) call shown reply := by
  rcases exists_serves member with ⟨endpoint, listed, serves, _⟩
  rw [serves.contract, serves.handler]
  simp only [endpoints, List.mem_cons, List.not_mem_nil, or_false] at listed
  rcases listed with rfl | rfl | rfl | rfl | rfl
  · rcases Performs.ofList consistent with ⟨status, shown, reply, performs⟩
    exact ⟨_, shown, reply, .list status, performs⟩
  · rcases Performs.ofCreate consistent with ⟨shown, reply, performs⟩
    exact ⟨_, shown, reply, .create _, performs⟩
  · rcases Performs.ofGet consistent with ⟨shown, reply, performs⟩
    exact ⟨_, shown, reply, .get _, performs⟩
  · rcases Performs.ofPayment consistent with ⟨shown, reply, performs⟩
    exact ⟨_, shown, reply, .pay _, performs⟩
  · rcases Performs.ofEvents exchange with ⟨shown, reply, performs⟩
    exact ⟨_, shown, reply, .events _, performs⟩

/-! ## Answers -/

/-- The exchange of a request that was answered before its handler: with a status alone, or
with a failure in plain text. -/
structure Unhandled (route : Route InvoiceStore) (service : Service InvoiceStore)
    (answer : Exchange InvoiceStore) : Prop where
  state : answer.state = service.state
  noStream : answer.response.events = none
  plain : answer.response.body = none ∨
    ∃ text, answer.response.body = some (.string text) ∧ answer.response.code ∈ [400, 401, 403]
  checked : ∃ noted, noted.misfits = service.telemetry.misfits ∧
    answer.telemetry = route.checkResponse (route.recorded answer) noted

/-- The exchange of a request that made a call to the book: the call and the invoices that
the answer shows. -/
structure CallsBook (route : Route InvoiceStore) (service : Service InvoiceStore)
    (call : BookCall) (shown : List Invoice) (answer : Exchange InvoiceStore) : Prop where
  state : answer.state = (call.run service.state).2
  replies : ∃ reply headers, Replies route.contract shown reply ∧
    answer.response = reply.recorded headers
  failed : 400 ≤ answer.response.code → answer.state = service.state
  listed : ∀ invoice ∈ shown, answer.state.get? invoice.id = some invoice
  checked : answer.telemetry = route.checkResponse (route.recorded answer) service.telemetry

variable {service : Service InvoiceStore} {arrival : Arrival InvoiceStore}

/-- A request to a mounted route is answered before its handler, or it was let through with
parts that fit and makes a call to the book. -/
theorem answer_cases (member : arrival.route ∈ (install router {}).2.routes)
    (consistent : service.state.Consistent) :
    Unhandled arrival.route service (service.answer arrival) ∨
      ∃ principal parsed call shown, arrival.route.LetsThrough arrival.request principal ∧
        arrival.route.compiled.request.parse arrival.request.input = .ok parsed ∧
        MakesCall arrival.occasion.now
          (paymentTime (arrival.request.withInput parsed) arrival.occasion.now)
          arrival.route.contract call ∧
        CallsBook arrival.route service call shown (service.answer arrival) := by
  rcases exists_serves member with ⟨endpoint, _, serves, options⟩
  have strict : arrival.route.contract.options.requestValidation = .error := by
    rw [serves.contract, options]
  have ends := Route.ends_dispatch strict serves.userStages arrival.request service.telemetry
    service.state arrival.occasion
  -- The exchange is named, so that the three ends of a request are cases of it.
  rw [Service.answer]
  generalize arrival.route.dispatch arrival.request service.telemetry service.state
    arrival.occasion = answer at ends ⊢
  cases ends with
  | preflight _ headers =>
      left
      rw [Route.finish_of_sent rfl]
      exact {
        state := rfl
        noStream := rfl
        plain := .inl rfl
        checked := ⟨service.telemetry, rfl, rfl⟩ }
  | refused failure status headers principal =>
      left
      rw [Route.finish_of_failed failure rfl]
      let exchange := arrival.route.arrival arrival.request service.telemetry service.state
        arrival.occasion headers principal
      let logged := service.telemetry.log
        (arrival.route.abortRecord failure exchange.request.correlationId)
      let metric : Metric := ⟨abortedMetric,
        [("contract", arrival.route.name), ("status", Text.decimalText failure.status)]⟩
      have otherName : abortedMetric ≠ misfitMetric := by decide
      exact {
        state := rfl
        noStream := rfl
        plain := .inr ⟨_, rfl, status⟩
        checked := ⟨_, @Telemetry.misfits_count metric otherName logged, rfl⟩ }
  | handled principal passes parsed fits headers =>
      right
      let exchange := arrival.route.handedOver arrival.request service.telemetry service.state
        arrival.occasion headers principal parsed
      have consistentThere : exchange.state.Consistent := consistent
      rcases exists_performs member consistentThere with ⟨call, shown, reply, makes, performs⟩
      rcases Route.finish_of_reply performs.outcome rfl rfl rfl with ⟨answered, finished⟩
      rw [finished]
      exact ⟨principal, parsed, call, shown, passes, fits, makes, {
        state := rfl
        replies := ⟨reply, answered, performs.replies, rfl⟩
        failed := performs.failed
        listed := performs.listed
        checked := rfl }⟩

theorem consistent_answer (member : arrival.route ∈ (install router {}).2.routes)
    (consistent : service.state.Consistent) : (service.answer arrival).state.Consistent := by
  rcases answer_cases member consistent with unhandled | ⟨_, _, call, _, _, _, _, calls⟩
  · rw [unhandled.state]
    exact consistent
  · rw [calls.state]
    exact call.consistent_run consistent

/-- The requests to the mounted endpoints lead to a book that calls lead to. -/
theorem consistent_afterAll {arrivals : List (Arrival InvoiceStore)}
    (mounted : ∀ arrival ∈ arrivals, arrival.route ∈ (install router {}).2.routes)
    (consistent : service.state.Consistent) : (service.afterAll arrivals).state.Consistent :=
  @Service.afterAll_keeps _ (fun service => service.state.Consistent) _
    (fun _ member _ before => consistent_answer (mounted _ member) before) _ consistent

/-! ## A clerk -/

/-- A router that knows one clerk. -/
def clerkRouter : Router where
  basePath := "/billing"
  identities := some [("c",
    { subject := "clerk", roles := ["clerk"], permissions := ["billing.write"] })]

/-- The clerk calls a route. -/
def clerkCalls (call : LocalCall) (route : Route InvoiceStore) : Arrival InvoiceStore :=
  let named := { call with headers := [("Authorization", "bearer  c ")] }
  ⟨route, named.request route, ⟨"fresh", 0, 0, by decide⟩⟩

/-- The order of an invoice. -/
def orderCall : LocalCall where
  body := .object [("amount", .number (.ofInt 7)), ("customer", .string "acme")]

/-- The payment of the first invoice. -/
def paymentCall : LocalCall where
  params := [("id", .string "inv-0001")]

end ApiContract.Billing
