import ApiContract.Proofs.Billing.Book

/-!
# Invoices are paid once

Callers compete to record the payment of an invoice, and one of them succeeds.  This module
ties the time of payment that the book has to the one call that succeeded, says what every
further attempt meets, and says that the two lists by status share out the list of all.
-/

namespace ApiContract.Billing

/-- The time of a successful payment of the invoice of the given id. -/
def paymentOf? (id : String) : BookCall × BookAnswer → Option Instant
  | (.markPaid given time, .payment (.paid _)) => if given = id then some time else none
  | _ => none

namespace InvoiceStore

variable {store : InvoiceStore}

/-! ## The lists by status -/

theorem list_some (store : InvoiceStore) (status : InvoiceStatus) :
    store.list (some status) = (store.list none).filter fun invoice => invoice.status = status := by
  rw [list_none]
  rfl

/-- Every invoice is in one of the two lists by status. -/
theorem list_perm (store : InvoiceStore) :
    (store.list none).Perm (store.list (some .unpaid) ++ store.list (some .paid)) := by
  have others : store.list (some .paid) =
      (store.list none).filter fun invoice => !decide (invoice.status = .unpaid) := by
    rw [list_some]
    apply List.filter_congr
    intro invoice _
    cases invoice.status <;> rfl
  rw [others, list_some]
  exact (List.filter_append_perm _ _).symm

theorem list_disjoint (store : InvoiceStore) :
    List.Disjoint (store.list (some .unpaid)) (store.list (some .paid)) := by
  intro invoice unpaid paid
  rw [list_some, List.mem_filter, decide_eq_true_eq] at unpaid paid
  rw [unpaid.2] at paid
  cases paid.2

/-- The list is in order of the ids. -/
theorem Consistent.pairwise_list_none (consistent : store.Consistent) :
    (store.list none).Pairwise fun first second => first.id < second.id := by
  have ascending : (Entries.keys store.invoices).Pairwise (· < ·) :=
    List.pairwise_map.mpr consistent.ascending
  rw [consistent.keys_eq_map_id] at ascending
  exact List.pairwise_map.mp ascending

end InvoiceStore

namespace BookRun

variable {run : BookRun}

/-! ## The times of payment agree with the answers -/

/-- The times of the successful payments of an invoice, in the order of the calls. -/
def paymentsOf (run : BookRun) (id : String) : List Instant :=
  run.history.filterMap (paymentOf? id)

theorem paymentsOf_step (run : BookRun) (call : BookCall) (id : String) :
    (run.step call).paymentsOf id =
      run.paymentsOf id ++ (paymentOf? id (call, (call.run run.store).1)).toList :=
  filterMap_step (paymentOf? id) run call

/-- The time of payment that the book has is that of the payment that succeeded. -/
def Settled (run : BookRun) : Prop :=
  ∀ id, run.paymentsOf id = ((run.store.get? id).bind Invoice.paidAt).toList

/-- A call that settles nothing and changes no time of payment leaves everything settled. -/
theorem Settled.ofOther (settled : run.Settled) {call : BookCall} {answer : BookAnswer}
    {after : InvoiceStore} (outcome : call.run run.store = (answer, after))
    (kept : ∀ id, (after.get? id).bind Invoice.paidAt = (run.store.get? id).bind Invoice.paidAt)
    (unsettling : ∀ id, paymentOf? id (call, answer) = none) : (run.step call).Settled := by
  intro id
  rw [paymentsOf_step, step, outcome, unsettling, Option.toList_none, List.append_nil, settled id]
  exact congrArg Option.toList (kept id).symm

theorem Settled.ofPayment (settled : run.Settled) (consistent : run.store.Consistent)
    {invoice : Invoice} {time : Instant} (listed : run.store.get? invoice.id = some invoice)
    (unpaid : invoice.status = .unpaid)
    (outcome : run.store.markPaid invoice.id time =
      (.paid (invoice.settled time), run.store.withSettled invoice time)) :
    (run.step (.markPaid invoice.id time)).Settled := by
  have answer := BookCall.run_markPaid outcome
  have becomes : (run.step (.markPaid invoice.id time)).store =
      run.store.withSettled invoice time := by
    rw [step, answer]
  have never : invoice.paidAt = none := by
    have paid := consistent.paid_iff invoice.id invoice listed
    rw [unpaid] at paid
    simpa using paid
  intro id
  rw [paymentsOf_step, answer, becomes, InvoiceStore.get?_withSettled, paymentOf?]
  by_cases same : id = invoice.id
  · subst same
    rw [if_pos rfl, if_pos rfl, settled, listed, Option.bind_some, never]
    rfl
  · rw [if_neg same, if_neg (Ne.symm same), settled, Option.toList_none, List.append_nil]

theorem Settled.step (settled : run.Settled) (consistent : run.store.Consistent)
    (call : BookCall) : (run.step call).Settled := by
  cases call with
  | create order now =>
      rcases consistent.create_cases order now with ⟨_, _, _, _, _, found⟩ | ⟨_, made⟩
      · exact settled.ofOther (BookCall.run_create found) (fun _ => rfl) fun _ => rfl
      · refine settled.ofOther (BookCall.run_create made) ?_ fun _ => rfl
        intro id
        rw [InvoiceStore.get?_withNext]
        split
        · next isNext =>
            rw [isNext, consistent.get?_next]
            rfl
        · rfl
  | markPaid id time =>
      rcases consistent.markPaid_cases id time with
        ⟨_, outcome⟩ | ⟨_, _, _, outcome⟩ | ⟨invoice, listed, unpaid, own, outcome⟩
      · exact settled.ofOther (BookCall.run_markPaid outcome) (fun _ => rfl) fun _ => rfl
      · exact settled.ofOther (BookCall.run_markPaid outcome) (fun _ => rfl) fun _ => rfl
      · subst own
        exact settled.ofPayment consistent listed unpaid outcome
  | get id => exact settled.ofOther rfl (fun _ => rfl) fun _ => rfl
  | list status => exact settled.ofOther rfl (fun _ => rfl) fun _ => rfl

theorem settled_ofCalls (calls : List BookCall) : (ofCalls calls).Settled := by
  apply ofCalls_satisfies
  · intro id
    rfl
  · intro run call consistent settled
    exact settled.step consistent call

/-! ## The guarantees -/

/-- What callers can rely on after some calls to a book that was empty. -/
structure PaysOnce (calls : List BookCall) : Prop where
  atMostOne : ∀ id, ((ofCalls calls).paymentsOf id).length ≤ 1
  /-- A further payment of an invoice that nobody has paid succeeds. -/
  first : ∀ id invoice time, (ofCalls calls).store.get? id = some invoice →
    (ofCalls calls).paymentsOf id = [] →
    ∃ after, (ofCalls calls).store.markPaid id time = (.paid (invoice.settled time), after) ∧
      after.get? id = some (invoice.settled time)
  /-- A further payment of an invoice that was paid changes nothing. -/
  repeated : ∀ id time, (ofCalls calls).paymentsOf id ≠ [] →
    (ofCalls calls).store.markPaid id time = (.alreadyPaid, (ofCalls calls).store)
  missing : ∀ id time, (ofCalls calls).store.get? id = none →
    (ofCalls calls).store.markPaid id time = (.notFound, (ofCalls calls).store)
  paid_iff : ∀ id invoice, (ofCalls calls).store.get? id = some invoice →
    (invoice.status = .paid ↔ invoice.paidAt.isSome)
  /-- The time of payment is that of the payment that succeeded. -/
  paidAt : ∀ id invoice, (ofCalls calls).store.get? id = some invoice →
    invoice.paidAt.toList = (ofCalls calls).paymentsOf id
  /-- The list of all has every invoice once, in order of the ids. -/
  ascending : ((ofCalls calls).store.list none).Pairwise fun first second => first.id < second.id
  complete : ∀ invoice, invoice ∈ (ofCalls calls).store.list none ↔
    (ofCalls calls).store.get? invoice.id = some invoice
  /-- The lists by status share it out. -/
  parts : ((ofCalls calls).store.list none).Perm
    ((ofCalls calls).store.list (some .unpaid) ++ (ofCalls calls).store.list (some .paid))
  disjoint : List.Disjoint ((ofCalls calls).store.list (some .unpaid))
    ((ofCalls calls).store.list (some .paid))

/-- Whatever calls are made, in whatever order, invoices are paid once. -/
theorem paysOnce_ofCalls (calls : List BookCall) : PaysOnce calls := by
  have consistent := consistent_ofCalls calls
  have settled := settled_ofCalls calls
  have paidAt : ∀ id invoice, (ofCalls calls).store.get? id = some invoice →
      invoice.paidAt.toList = (ofCalls calls).paymentsOf id := by
    intro id invoice listed
    rw [settled id, listed]
    rfl
  -- An invoice with a payment has a time of payment and is therefore marked as paid.
  have paid_iff : ∀ id invoice, (ofCalls calls).store.get? id = some invoice →
      (invoice.status = .paid ↔ (ofCalls calls).paymentsOf id ≠ []) := by
    intro id invoice listed
    rw [consistent.paid_iff id invoice listed, ← paidAt id invoice listed]
    cases invoice.paidAt <;> simp
  exact {
    atMostOne := by
      intro id
      rw [settled id]
      exact Option.length_toList_le
    first := by
      intro id invoice time listed never
      rcases consistent.markPaid_cases id time with
        ⟨absent, _⟩ | ⟨found, isFound, status, _⟩ | ⟨found, isFound, _, own, outcome⟩
      · rw [listed] at absent
        cases absent
      · exact absurd never ((paid_iff id found isFound).mp status)
      · obtain rfl : invoice = found := Option.some.inj (listed.symm.trans isFound)
        refine ⟨_, outcome, ?_⟩
        rw [InvoiceStore.get?_withSettled]
        exact if_pos own.symm
    repeated := by
      intro id time paid
      rcases consistent.markPaid_cases id time with
        ⟨absent, _⟩ | ⟨_, _, _, outcome⟩ | ⟨found, isFound, status, _, _⟩
      · rw [settled id, absent] at paid
        exact absurd rfl paid
      · exact outcome
      · rw [(paid_iff id found isFound).mpr paid] at status
        cases status
    missing := by
      intro id time absent
      rcases consistent.markPaid_cases id time with
        ⟨_, outcome⟩ | ⟨found, isFound, _, _⟩ | ⟨found, isFound, _, _, _⟩
      · exact outcome
      · rw [absent] at isFound
        cases isFound
      · rw [absent] at isFound
        cases isFound
    paid_iff := consistent.paid_iff
    paidAt
    ascending := consistent.pairwise_list_none
    complete := fun _ => consistent.mem_list_none_iff
    parts := InvoiceStore.list_perm _
    disjoint := InvoiceStore.list_disjoint _ }

end BookRun

end ApiContract.Billing
