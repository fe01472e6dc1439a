import ApiContract.Proofs.Billing.Book

/-!
# Invoices are created once

An order that carries a key is meant to be made once, however often it is sent.  This module
says what callers of a book can rely on after any sequence of calls: the ids that were given
out, one invoice for all orders of one key, and that what was ordered never changes.
-/

namespace ApiContract.Billing

/-- The answer says that an invoice was made. -/
def BookAnswer.isNew : BookAnswer → Bool
  | .ordered _ isNew => isNew
  | _ => false

/-- The id that an order under the given key was answered with, and whether it was new. -/
def answerUnder? (key : String) : BookCall × BookAnswer → Option (String × Bool)
  | (.create order _, .ordered invoice isNew) =>
      if order.key = some key then some (invoice.id, isNew) else none
  | _ => none

namespace BookRun

variable {run : BookRun}

/-- How many orders were answered with a new invoice. -/
def newInvoices (run : BookRun) : Nat :=
  run.history.countP fun event => event.2.isNew

/-- How the orders under a key were answered, one after the other. -/
def answersUnder (run : BookRun) (key : String) : List (String × Bool) :=
  run.history.filterMap (answerUnder? key)

/-- The answers are one new invoice and then the same one again and again. -/
def OneInvoice (id : String) (answers : List (String × Bool)) : Prop :=
  ∃ later, answers = (id, true) :: later ∧ ∀ answer ∈ later, answer = (id, false)

theorem OneInvoice.again {id : String} {answers : List (String × Bool)}
    (one : OneInvoice id answers) : OneInvoice id (answers ++ [(id, false)]) := by
  rcases one with ⟨later, rfl, repeated⟩
  refine ⟨later ++ [(id, false)], rfl, ?_⟩
  intro answer member
  rcases List.mem_append.mp member with earlier | last
  · exact repeated answer earlier
  · exact List.mem_singleton.mp last

/-! ## The counter and the keys agree with the answers -/

/-- The counter and the table of keys say what was answered. -/
structure Counted (run : BookRun) : Prop where
  created : run.store.created = run.newInvoices
  unused : ∀ key, Entries.get? run.store.keys key = none → run.answersUnder key = []
  used : ∀ key id, Entries.get? run.store.keys key = some id → OneInvoice id (run.answersUnder key)

theorem newInvoices_step (run : BookRun) (call : BookCall) :
    (run.step call).newInvoices =
      run.newInvoices + if (call.run run.store).1.isNew then 1 else 0 := by
  rw [newInvoices, newInvoices, step, List.countP_append, List.countP_singleton]

theorem answersUnder_step (run : BookRun) (call : BookCall) (key : String) :
    (run.step call).answersUnder key =
      run.answersUnder key ++ (answerUnder? key (call, (call.run run.store).1)).toList :=
  filterMap_step (answerUnder? key) run call

/-- A call that neither orders nor changes the table of keys leaves everything counted. -/
theorem Counted.ofOther (counted : run.Counted) {call : BookCall} {answer : BookAnswer}
    {after : InvoiceStore} (outcome : call.run run.store = (answer, after))
    (created : after.created = run.store.created) (keys : after.keys = run.store.keys)
    (notNew : answer.isNew = false) (unanswered : ∀ key, answerUnder? key (call, answer) = none) :
    (run.step call).Counted := by
  have becomes : (run.step call).store = after := by rw [step, outcome]
  have answers : ∀ key, (run.step call).answersUnder key = run.answersUnder key := by
    intro key
    rw [answersUnder_step, outcome, unanswered, Option.toList_none, List.append_nil]
  constructor
  · rw [becomes, created, newInvoices_step, outcome, notNew, counted.created]
    rfl
  · intro key absent
    rw [becomes, keys] at absent
    rw [answers, counted.unused key absent]
  · intro key id named
    rw [becomes, keys] at named
    rw [answers]
    exact counted.used key id named

theorem Counted.ofRepeated (counted : run.Counted) {order : Order} {now : Instant} {key : String}
    {invoice : Invoice} (given : order.key = some key)
    (named : Entries.get? run.store.keys key = some invoice.id)
    (found : run.store.create order now = (invoice, false, run.store)) :
    (run.step (.create order now)).Counted := by
  have outcome := BookCall.run_create found
  have stays : (run.step (.create order now)).store = run.store := by rw [step, outcome]
  have answers : ∀ other, (run.step (.create order now)).answersUnder other =
      run.answersUnder other ++ if key = other then [(invoice.id, false)] else [] := by
    intro other
    rw [answersUnder_step, outcome, answerUnder?, given]
    by_cases same : key = other <;> simp [same]
  constructor
  · rw [stays, newInvoices_step, outcome, counted.created]
    rfl
  · intro other absent
    rw [stays] at absent
    rw [answers, counted.unused other absent, if_neg]
    · rfl
    · rintro rfl
      rw [named] at absent
      cases absent
  · intro other id isNamed
    rw [stays] at isNamed
    rw [answers]
    split
    · next same =>
        subst same
        obtain rfl : invoice.id = id := Option.some.inj (named.symm.trans isNamed)
        exact (counted.used key invoice.id named).again
    · rw [List.append_nil]
      exact counted.used other id isNamed

theorem Counted.ofNew (counted : run.Counted) {order : Order} {now : Instant}
    (fresh : ∀ key, order.key = some key → Entries.get? run.store.keys key = none)
    (made : run.store.create order now =
      (run.store.nextInvoice order now, true, run.store.withNext order now)) :
    (run.step (.create order now)).Counted := by
  have outcome := BookCall.run_create made
  have becomes : (run.step (.create order now)).store = run.store.withNext order now := by
    rw [step, outcome]
  have answers : ∀ other, (run.step (.create order now)).answersUnder other =
      run.answersUnder other ++
        if order.key = some other then [((run.store.nextInvoice order now).id, true)] else [] := by
    intro other
    rw [answersUnder_step, outcome, answerUnder?]
    split <;> rfl
  constructor
  · rw [becomes, newInvoices_step, outcome, ← counted.created]
    rfl
  · intro other absent
    rw [becomes, InvoiceStore.get?_keys_withNext] at absent
    split at absent
    · cases absent
    · next unasked => rw [answers, if_neg unasked, counted.unused other absent, List.nil_append]
  · intro other id named
    rw [becomes, InvoiceStore.get?_keys_withNext] at named
    rw [answers]
    split at named
    · next asked =>
        cases named
        rw [if_pos asked, counted.unused other (fresh other asked)]
        exact ⟨[], rfl, List.forall_mem_nil _⟩
    · next unasked =>
        rw [if_neg unasked, List.append_nil]
        exact counted.used other id named

theorem Counted.step (counted : run.Counted) (consistent : run.store.Consistent)
    (call : BookCall) : (run.step call).Counted := by
  cases call with
  | create order now =>
      rcases consistent.create_cases order now with
        ⟨key, invoice, given, named, _, found⟩ | ⟨fresh, made⟩
      · exact counted.ofRepeated given named found
      · exact counted.ofNew fresh made
  | markPaid id time =>
      rcases consistent.markPaid_cases id time with
        ⟨_, outcome⟩ | ⟨_, _, _, outcome⟩ | ⟨invoice, _, _, _, outcome⟩
      · exact counted.ofOther (BookCall.run_markPaid outcome) rfl rfl rfl fun _ => rfl
      · exact counted.ofOther (BookCall.run_markPaid outcome) rfl rfl rfl fun _ => rfl
      · exact counted.ofOther (BookCall.run_markPaid outcome) rfl rfl rfl fun _ => rfl
  | get id => exact counted.ofOther rfl rfl rfl rfl fun _ => rfl
  | list status => exact counted.ofOther rfl rfl rfl rfl fun _ => rfl

theorem counted_ofCalls (calls : List BookCall) : (ofCalls calls).Counted := by
  apply ofCalls_satisfies
  · exact ⟨rfl, fun _ _ => rfl, fun _ _ named => by cases named⟩
  · intro run call consistent counted
    exact counted.step consistent call

/-! ## What was ordered stays -/

/-- The invoice is there, with the same id and what was ordered. -/
def Keeps (store : InvoiceStore) (invoice : Invoice) : Prop :=
  ∃ later, store.get? invoice.id = some later ∧ later.id = invoice.id ∧
    later.customer = invoice.customer ∧ later.amount = invoice.amount ∧
    later.currency = invoice.currency ∧ later.createdAt = invoice.createdAt

theorem Keeps.of_get? {store : InvoiceStore} {invoice : Invoice}
    (listed : store.get? invoice.id = some invoice) : Keeps store invoice :=
  ⟨invoice, listed, rfl, rfl, rfl, rfl, rfl⟩

theorem Keeps.afterCall {store : InvoiceStore} (consistent : store.Consistent) {invoice : Invoice}
    (keeps : Keeps store invoice) (call : BookCall) : Keeps (call.run store).2 invoice := by
  rcases keeps with ⟨later, listed, same⟩
  rcases call.get?_run consistent listed with stays | ⟨time, _, settled⟩
  · exact ⟨later, stays, same⟩
  · exact ⟨later.settled time, settled, same⟩

/-! ## The guarantees -/

/-- What callers can rely on after some calls to a book that was empty. -/
structure CreatesOnce (calls : List BookCall) : Prop where
  /-- Every invoice is listed under its own id, and no two have the same. -/
  distinct : (((ofCalls calls).store.list none).map Invoice.id).Nodup
  own : ∀ id invoice, (ofCalls calls).store.get? id = some invoice → invoice.id = id
  /-- The ids are those of the numbers from one to the number of new invoices. -/
  ids : (((ofCalls calls).store.list none).map Invoice.id).Perm
    ((List.range' 1 (ofCalls calls).newInvoices).map invoiceId)
  named : ∀ key id, Entries.get? (ofCalls calls).store.keys key = some id →
    ∃ invoice, (ofCalls calls).store.get? id = some invoice
  /-- The orders under one key were all answered with one invoice, the first as new. -/
  oneInvoice : ∀ key, (ofCalls calls).answersUnder key = [] ∨
    ∃ id, OneInvoice id ((ofCalls calls).answersUnder key)
  /-- A further order without a key is answered with a new invoice. -/
  keyless : ∀ order now, order.key = none →
    ∃ invoice after, (ofCalls calls).store.create order now = (invoice, true, after) ∧
      (ofCalls calls).store.get? invoice.id = none ∧ after.get? invoice.id = some invoice
  kept : ∀ earlier later, earlier ++ later = calls → ∀ id invoice,
    (ofCalls earlier).store.get? id = some invoice → Keeps (ofCalls calls).store invoice

/-- Whatever calls are made, in whatever order, invoices are created once. -/
theorem createsOnce_ofCalls (calls : List BookCall) : CreatesOnce calls := by
  have consistent := consistent_ofCalls calls
  have counted := counted_ofCalls calls
  have distinct : (((ofCalls calls).store.list none).map Invoice.id).Nodup := by
    rw [← consistent.keys_eq_map_id]
    exact consistent.ascending.nodup_keys
  exact {
    distinct
    own := consistent.own
    ids := by
      have numbers : ((List.range' 1 (ofCalls calls).newInvoices).map invoiceId).Nodup :=
        List.Nodup.map invoiceId_injective List.nodup_range'
      refine (List.perm_ext_iff_of_nodup distinct numbers).mpr ?_
      intro id
      rw [← consistent.keys_eq_map_id, ← Entries.exists_get?_iff, List.mem_map]
      refine (consistent.exists_iff id).trans (exists_congr fun number => ?_)
      rw [counted.created, List.mem_range'_1]
      constructor
      · rintro ⟨positive, bounded, same⟩
        exact ⟨⟨positive, by omega⟩, same⟩
      · rintro ⟨⟨positive, bounded⟩, same⟩
        exact ⟨positive, by omega, same⟩
    named := consistent.named
    oneInvoice := by
      intro key
      cases found : Entries.get? (ofCalls calls).store.keys key with
      | none => exact .inl (counted.unused key found)
      | some id => exact .inr ⟨id, counted.used key id found⟩
    keyless := by
      intro order now keyless
      rcases consistent.create_cases order now with ⟨_, _, given, _⟩ | ⟨_, made⟩
      · rw [keyless] at given
        cases given
      · refine ⟨_, _, made, consistent.get?_next, ?_⟩
        rw [InvoiceStore.get?_withNext]
        exact if_pos rfl
    kept := by
      rintro earlier later rfl id invoice listed
      have before := consistent_ofCalls earlier
      have there : (ofCalls earlier).store.get? invoice.id = some invoice := by
        rwa [before.own id invoice listed]
      have step : ∀ (run : BookRun) call, run.store.Consistent → Keeps run.store invoice →
          Keeps (run.step call).store invoice :=
        fun _ call consistent keeps => keeps.afterCall consistent call
      rw [ofCalls_append]
      exact (afterAll_keeps step before (Keeps.of_get? there) later).2 }

end BookRun

end ApiContract.Billing
