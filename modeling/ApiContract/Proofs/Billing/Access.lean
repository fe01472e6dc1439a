import ApiContract.Proofs.Billing.Endpoints

/-!
# Who changes payments

Requests come to the mounted endpoints, one after the other, from callers of whom some are
in the table of identities and some are not.  This module says whose requests change the
payment of an invoice, and that a request which is answered with a failure changes nothing.
-/

namespace ApiContract.Billing

/-- The request carries a credential of the identity: in its authorization header after the
word `Bearer`, whose letters may be of either case, perhaps with blanks around. -/
def Bears (table : Identities) (request : Request) (identity : Identity) : Prop :=
  ∃ header scheme credential, request.header? "authorization" = some header ∧
    header.toList = scheme ++ String.toList credential ∧
    scheme.map Text.asciiLower = "bearer ".toList ∧
    Entries.get? table (Text.trimmed credential) = some identity

/-- The identity is that of someone who records payments. -/
def MayPay (identity : Identity) : Prop :=
  ("clerk" ∈ identity.roles ∨ "admin" ∈ identity.roles) ∧ "billing.write" ∈ identity.permissions

/-- What a request to a mounted endpoint does to the book. -/
structure GuardsPayments (router : Router) (service : Service InvoiceStore)
    (arrival : Arrival InvoiceStore) : Prop where
  /-- An invoice stays as it is, or someone who may do so records its payment. -/
  existing : ∀ id invoice, service.state.get? id = some invoice →
    (service.after arrival).state.get? id = some invoice ∨
      (∃ time, (service.after arrival).state.get? id = some (invoice.settled time)) ∧
        arrival.route.contract = markPaid ∧
        ∃ table identity, router.identities = some table ∧
          Bears table arrival.request identity ∧ MayPay identity
  /-- An invoice that was not there before is not paid. -/
  added : ∀ id invoice, service.state.get? id = none →
    (service.after arrival).state.get? id = some invoice →
    invoice.status = .unpaid ∧ invoice.paidAt = none
  /-- A request that is answered with a failure leaves the book as it is. -/
  failed : 400 ≤ (service.answer arrival).response.code →
    (service.after arrival).state = service.state

variable {router : Router} {service : Service InvoiceStore} {arrival : Arrival InvoiceStore}

/-- Only the endpoint for payments makes the call of a payment. -/
theorem MakesCall.contract_eq {now payment time : Instant} {contract : Contract} {call : BookCall}
    {id : String} (makes : MakesCall now payment contract call)
    (isPayment : call = .markPaid id time) : contract = markPaid := by
  subst isPayment
  cases makes
  rfl

/-- Whoever is let through to the route for payments is someone who may record them. -/
theorem mayPay_of_letsThrough (member : arrival.route ∈ (install router {}).2.routes)
    (pays : arrival.route.contract = markPaid) {principal : Option Principal}
    (passes : arrival.route.LetsThrough arrival.request principal) :
    ∃ table identity, router.identities = some table ∧
      Bears table arrival.request identity ∧ MayPay identity := by
  rcases exists_serves member with ⟨endpoint, _, serves, _⟩
  have policyOf := serves.policy
  rw [← serves.contract, pays] at policyOf
  cases passes with
  | unasked unguarded =>
      rw [unguarded] at policyOf
      cases policyOf
  | permitted guarded recognized permits =>
      have listed := serves.identities _ guarded
      rw [guarded] at policyOf
      cases policyOf
      rcases recognized with
        ⟨credential, ⟨header, found, _, scheme, shape, same⟩, key, isKey, known⟩
      cases isKey
      refine ⟨_, _, listed, ⟨header, scheme, credential, found, shape, same, known⟩, ?_, ?_⟩
      · rcases permits.roleAllowed with none | ⟨role, held, allowed⟩
        · cases none
        · rcases List.mem_cons.mp allowed with rfl | allowed
          · exact .inl held
          · cases List.mem_singleton.mp allowed
            exact .inr held
      · rcases permits.permissionAllowed with none | ⟨permission, held, allowed⟩
        · cases none
        · cases List.mem_singleton.mp allowed
          exact held

/-- A request to a mounted endpoint guards the payments of a book that calls led to. -/
theorem guardsPayments_of_consistent (member : arrival.route ∈ (install router {}).2.routes)
    (consistent : service.state.Consistent) : GuardsPayments router service arrival := by
  have becomes : (service.after arrival).state = (service.answer arrival).state := rfl
  rcases answer_cases member consistent with
    unhandled | ⟨principal, parsed, call, shown, passes, _, makes, calls⟩
  · have kept := becomes.trans unhandled.state
    constructor
    · intro id invoice listed
      rw [kept]
      exact .inl listed
    · intro id invoice absent listed
      rw [kept, absent] at listed
      cases listed
    · intro _
      exact kept
  · rw [calls.state] at becomes
    constructor
    · intro id invoice listed
      rw [becomes]
      rcases call.get?_run consistent listed with stays | ⟨time, isPayment, settled⟩
      · exact .inl stays
      · have pays := makes.contract_eq isPayment
        exact .inr ⟨⟨time, settled⟩, pays, mayPay_of_letsThrough member pays passes⟩
    · intro id invoice absent listed
      rw [becomes] at listed
      rcases BookCall.eq_nextInvoice_of_absent consistent absent listed with ⟨_, _, _, rfl⟩
      exact ⟨rfl, rfl⟩
    · exact calls.failed

/-- Whatever requests came before, each one guards payments. -/
theorem guardsPayments_afterAll (router : Router) (telemetry : Telemetry)
    (earlier : List (Arrival InvoiceStore)) (arrival : Arrival InvoiceStore)
    (mounted : ∀ each ∈ earlier ++ [arrival], each.route ∈ (install router {}).2.routes) :
    GuardsPayments router (Service.afterAll { telemetry, state := {} } earlier) arrival := by
  rcases List.forall_mem_append.mp mounted with ⟨before, last⟩
  exact guardsPayments_of_consistent (last arrival List.mem_cons_self)
    (consistent_afterAll before InvoiceStore.consistent_empty)

/-- The clerk orders an invoice and records its payment. -/
theorem clerk_pays :
    ∃ create pay, (install clerkRouter {}).2.routes[1]? = some create ∧
      (install clerkRouter {}).2.routes[3]? = some pay ∧
      let service := Service.afterAll { state := {} } [clerkCalls orderCall create]
      GuardsPayments clerkRouter service (clerkCalls paymentCall pay) ∧
        (service.state.get? "inv-0001").map Invoice.status = some .unpaid ∧
        ((service.after (clerkCalls paymentCall pay)).state.get? "inv-0001").map Invoice.status =
          some .paid := by
  have creates : (install clerkRouter {}).2.routes[1]? = some _ := rfl
  have pays : (install clerkRouter {}).2.routes[3]? = some _ := rfl
  refine ⟨_, _, creates, pays, ?_, ?_, ?_⟩
  · apply guardsPayments_afterAll
    rw [List.singleton_append, List.forall_mem_cons, List.forall_mem_singleton]
    exact ⟨List.mem_of_getElem? creates, List.mem_of_getElem? pays⟩
  · decide +kernel
  · decide +kernel

end ApiContract.Billing
