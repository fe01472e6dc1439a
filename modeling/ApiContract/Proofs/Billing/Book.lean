import ApiContract.Billing.Store
import ApiContract.Proofs.Entries
import ApiContract.Proofs.Text.Digits

/-!
# Calls to a book of invoices

Several callers use one book.  Their calls take effect one after the other, in whatever
order they come.  This module says what each call does, what holds of every book that such
calls lead to, and how a property of books and past answers passes to all of them.
-/

namespace ApiContract.Billing

/-- The id of an invoice says its number. -/
theorem invoiceId_injective : Function.Injective invoiceId := by
  intro left right same
  have digits : Text.padLeft 4 '0' (Nat.toDigits 10 left) =
      Text.padLeft 4 '0' (Nat.toDigits 10 right) := by
    have texts := congrArg String.toList same
    rw [invoiceId, invoiceId, String.toList_append, String.toList_append,
      List.append_cancel_left_eq, String.toList_ofList, String.toList_ofList] at texts
    exact texts
  have numbers := congrArg Text.decimalValue digits
  rwa [Text.decimalValue_padLeft, Text.decimalValue_padLeft, Text.decimalValue_toDigits,
    Text.decimalValue_toDigits] at numbers

/-- The invoice after its payment. -/
def Invoice.settled (invoice : Invoice) (time : Instant) : Invoice :=
  { invoice with status := .paid, paidAt := some time }

namespace InvoiceStore

/-! ## What a call does to the book -/

variable {store : InvoiceStore}

/-- The invoice that is made next. -/
def nextInvoice (store : InvoiceStore) (order : Order) (now : Instant) : Invoice where
  id := invoiceId (store.created + 1)
  customer := order.customer
  amount := order.amount
  currency := order.currency
  createdAt := now

/-- The book with the next invoice, under the key of its order if there is one. -/
def withNext (store : InvoiceStore) (order : Order) (now : Instant) : InvoiceStore where
  created := store.created + 1
  invoices :=
    Entries.insert (invoiceId (store.created + 1)) (store.nextInvoice order now) store.invoices
  keys := match order.key with
    | some key => Entries.insert key (invoiceId (store.created + 1)) store.keys
    | none => store.keys

/-- The book with an invoice paid. -/
def withSettled (store : InvoiceStore) (invoice : Invoice) (time : Instant) : InvoiceStore :=
  { store with invoices := Entries.insert invoice.id (invoice.settled time) store.invoices }

theorem get?_withNext (order : Order) (now : Instant) (id : String) :
    (store.withNext order now).get? id =
      if id = invoiceId (store.created + 1) then some (store.nextInvoice order now)
      else store.get? id :=
  Entries.get?_insert ..

theorem get?_withSettled (invoice : Invoice) (time : Instant) (id : String) :
    (store.withSettled invoice time).get? id =
      if id = invoice.id then some (invoice.settled time) else store.get? id :=
  Entries.get?_insert ..

theorem get?_keys_withNext (order : Order) (now : Instant) (key : String) :
    Entries.get? (store.withNext order now).keys key =
      if order.key = some key then some (invoiceId (store.created + 1))
      else Entries.get? store.keys key := by
  rw [withNext]
  cases order.key with
  | none => rfl
  | some given =>
      dsimp only
      rw [Entries.get?_insert]
      simp only [Option.some.injEq, eq_comm]

/-! ## Books that calls lead to -/

/-- What calls keep of a book: its invoices are listed in order of their ids, each under its
own, and have the numbers from one to the last; every key names one of them; and those with
a time of payment are the paid ones. -/
structure Consistent (store : InvoiceStore) : Prop where
  ascending : Entries.Ascending store.invoices
  exists_iff : ∀ id, (∃ invoice, store.get? id = some invoice) ↔
    ∃ number, 0 < number ∧ number ≤ store.created ∧ invoiceId number = id
  own : ∀ id invoice, store.get? id = some invoice → invoice.id = id
  named : ∀ key id, Entries.get? store.keys key = some id → ∃ invoice, store.get? id = some invoice
  paid_iff : ∀ id invoice, store.get? id = some invoice →
    (invoice.status = .paid ↔ invoice.paidAt.isSome)

theorem consistent_empty : Consistent {} where
  ascending := List.Pairwise.nil
  exists_iff id := by
    constructor
    · rintro ⟨_, found⟩
      cases found
    · rintro ⟨number, positive, bounded, _⟩
      exact absurd bounded (Nat.not_le.mpr positive)
  own _ _ found := by cases found
  named _ _ found := by cases found
  paid_iff _ _ found := by cases found

namespace Consistent

theorem get?_next (consistent : store.Consistent) :
    store.get? (invoiceId (store.created + 1)) = none := by
  cases found : store.get? (invoiceId (store.created + 1)) with
  | none => rfl
  | some invoice =>
      rcases (consistent.exists_iff _).mp ⟨invoice, found⟩ with ⟨number, _, bounded, same⟩
      rw [invoiceId_injective same] at bounded
      exact absurd bounded (Nat.not_succ_le_self _)

/-- An order finds the invoice that its key names, or makes the next one. -/
theorem create_cases (consistent : store.Consistent) (order : Order) (now : Instant) :
    (∃ key invoice, order.key = some key ∧ Entries.get? store.keys key = some invoice.id ∧
        store.get? invoice.id = some invoice ∧ store.create order now = (invoice, false, store)) ∨
      (∀ key, order.key = some key → Entries.get? store.keys key = none) ∧
        store.create order now =
          (store.nextInvoice order now, true, store.withNext order now) := by
  rw [create]
  cases found : store.createdUnder? order.key with
  | some invoice =>
      rcases Option.bind_eq_some_iff.mp found with ⟨key, given, found⟩
      rcases Option.bind_eq_some_iff.mp found with ⟨id, isNamed, found⟩
      rw [← consistent.own id invoice found] at isNamed found
      exact .inl ⟨key, invoice, given, isNamed, found, rfl⟩
  | none =>
      refine .inr ⟨?_, rfl⟩
      intro key given
      cases isNamed : Entries.get? store.keys key with
      | none => rfl
      | some id =>
          rcases consistent.named key id isNamed with ⟨invoice, listed⟩
          rw [createdUnder?, given] at found
          dsimp only [bind, Option.bind] at found
          rw [isNamed] at found
          dsimp only at found
          rw [listed] at found
          cases found

/-- A payment finds no invoice, one that is paid, or one that it settles. -/
theorem markPaid_cases (consistent : store.Consistent) (id : String) (time : Instant) :
    store.get? id = none ∧ store.markPaid id time = (.notFound, store) ∨
      (∃ invoice, store.get? id = some invoice ∧ invoice.status = .paid ∧
        store.markPaid id time = (.alreadyPaid, store)) ∨
      ∃ invoice, store.get? id = some invoice ∧ invoice.status = .unpaid ∧ invoice.id = id ∧
        store.markPaid id time =
          (.paid (invoice.settled time), store.withSettled invoice time) := by
  rw [markPaid]
  cases found : store.get? id with
  | none => exact .inl ⟨rfl, rfl⟩
  | some invoice =>
      have own := consistent.own id invoice found
      cases status : invoice.status with
      | paid => exact .inr (.inl ⟨invoice, rfl, status, if_pos status⟩)
      | unpaid =>
          refine .inr (.inr ⟨invoice, rfl, status, own, ?_⟩)
          have unsettled : ¬invoice.status = .paid := by simp [status]
          subst own
          exact if_neg unsettled

theorem withNext (consistent : store.Consistent) (order : Order) (now : Instant) :
    (store.withNext order now).Consistent where
  ascending := Entries.ascending_insert consistent.ascending
  exists_iff id := by
    have created : (store.withNext order now).created = store.created + 1 := rfl
    rw [get?_withNext, created]
    split
    · next isNext =>
        exact iff_of_true ⟨_, rfl⟩ ⟨_, Nat.succ_pos _, Nat.le_refl _, isNext.symm⟩
    · next other =>
        rw [consistent.exists_iff]
        constructor
        · rintro ⟨number, positive, bounded, same⟩
          exact ⟨number, positive, Nat.le_succ_of_le bounded, same⟩
        · rintro ⟨number, positive, bounded, same⟩
          refine ⟨number, positive, ?_, same⟩
          rcases Nat.le_succ_iff.mp bounded with before | last
          · exact before
          · rw [last] at same
            exact absurd same.symm other
  own id invoice found := by
    rw [get?_withNext] at found
    split at found
    · next isNext =>
        cases found
        exact isNext.symm
    · exact consistent.own id invoice found
  named key id found := by
    rw [get?_keys_withNext] at found
    rw [get?_withNext]
    split
    · exact ⟨_, rfl⟩
    · next other =>
        split at found
        · cases found
          exact absurd rfl other
        · exact consistent.named key id found
  paid_iff id invoice found := by
    rw [get?_withNext] at found
    split at found
    · cases found
      simp [nextInvoice]
    · exact consistent.paid_iff id invoice found

theorem withSettled (consistent : store.Consistent) {invoice : Invoice}
    (listed : store.get? invoice.id = some invoice) (time : Instant) :
    (store.withSettled invoice time).Consistent where
  ascending := Entries.ascending_insert consistent.ascending
  exists_iff id := by
    have created : (store.withSettled invoice time).created = store.created := rfl
    rw [created, ← consistent.exists_iff, get?_withSettled]
    split
    · next same =>
        rw [same, listed]
        exact ⟨fun _ => ⟨_, rfl⟩, fun _ => ⟨_, rfl⟩⟩
    · rfl
  own id other found := by
    rw [get?_withSettled] at found
    split at found
    · next same =>
        cases found
        exact same.symm
    · exact consistent.own id other found
  named key id found := by
    rw [get?_withSettled]
    split
    · exact ⟨_, rfl⟩
    · exact consistent.named key id found
  paid_iff id other found := by
    rw [get?_withSettled] at found
    split at found
    · cases found
      simp [Invoice.settled]
    · exact consistent.paid_iff id other found

end Consistent

/-! ## The list of invoices -/

theorem list_none (store : InvoiceStore) : store.list none = store.invoices.map Prod.snd := by
  rw [list]
  exact List.filter_eq_self.mpr fun _ _ => rfl

theorem Consistent.mem_list_none_iff (consistent : store.Consistent) {invoice : Invoice} :
    invoice ∈ store.list none ↔ store.get? invoice.id = some invoice := by
  have distinct := consistent.ascending.nodup_keys
  rw [list_none, List.mem_map]
  constructor
  · rintro ⟨⟨id, listed⟩, isEntry, rfl⟩
    have found : store.get? id = some listed := (Entries.get?_eq_some_iff distinct).mpr isEntry
    rw [consistent.own id listed found]
    exact found
  · intro found
    exact ⟨(invoice.id, invoice), Entries.mem_of_get? found, rfl⟩

/-- The invoices are listed under their own ids. -/
theorem Consistent.keys_eq_map_id (consistent : store.Consistent) :
    Entries.keys store.invoices = (store.list none).map Invoice.id := by
  rw [list_none, Entries.keys, List.map_map]
  apply List.map_congr_left
  intro entry isEntry
  have found := (Entries.get?_eq_some_iff consistent.ascending.nodup_keys).mpr isEntry
  exact (consistent.own entry.1 entry.2 found).symm

end InvoiceStore

/-! ## Sequences of calls -/

/-- A call to a book of invoices. -/
inductive BookCall where
  | create (order : Order) (now : Instant)
  | markPaid (id : String) (time : Instant)
  | get (id : String)
  | list (status : Option InvoiceStatus)

/-- The answer to a call. -/
inductive BookAnswer where
  /-- The invoice of an order, and whether it is new. -/
  | ordered (invoice : Invoice) (isNew : Bool)
  | payment (outcome : PayOutcome)
  | found (invoice : Option Invoice)
  | listed (invoices : List Invoice)

/-- Makes a call: the answer, and the book afterwards. -/
def BookCall.run (store : InvoiceStore) : BookCall → BookAnswer × InvoiceStore
  | .create order now =>
      let (invoice, isNew, store) := store.create order now
      (.ordered invoice isNew, store)
  | .markPaid id time =>
      let (outcome, store) := store.markPaid id time
      (.payment outcome, store)
  | .get id => (.found (store.get? id), store)
  | .list status => (.listed (store.list status), store)

section

variable {store after : InvoiceStore}

theorem BookCall.run_create {order : Order} {now : Instant} {invoice : Invoice} {isNew : Bool}
    (outcome : store.create order now = (invoice, isNew, after)) :
    (BookCall.create order now).run store = (.ordered invoice isNew, after) := by
  rw [BookCall.run, outcome]

theorem BookCall.run_markPaid {id : String} {time : Instant} {result : PayOutcome}
    (outcome : store.markPaid id time = (result, after)) :
    (BookCall.markPaid id time).run store = (.payment result, after) := by
  rw [BookCall.run, outcome]

end

theorem BookCall.consistent_run {store : InvoiceStore} (consistent : store.Consistent)
    (call : BookCall) : (call.run store).2.Consistent := by
  cases call with
  | create order now =>
      rcases consistent.create_cases order now with ⟨_, _, _, _, _, found⟩ | ⟨_, made⟩
      · rw [BookCall.run_create found]
        exact consistent
      · rw [BookCall.run_create made]
        exact consistent.withNext order now
  | markPaid id time =>
      rcases consistent.markPaid_cases id time with
        ⟨_, outcome⟩ | ⟨_, _, _, outcome⟩ | ⟨invoice, listed, _, own, outcome⟩
      · rw [BookCall.run_markPaid outcome]
        exact consistent
      · rw [BookCall.run_markPaid outcome]
        exact consistent
      · rw [BookCall.run_markPaid outcome]
        exact consistent.withSettled (own ▸ listed) time
  | get id => exact consistent
  | list status => exact consistent

/-- A call leaves an invoice as it is, or is the payment that settles it. -/
theorem BookCall.get?_run {store : InvoiceStore} (consistent : store.Consistent) {id : String}
    {invoice : Invoice} (listed : store.get? id = some invoice) (call : BookCall) :
    (call.run store).2.get? id = some invoice ∨
      ∃ time, call = .markPaid id time ∧
        (call.run store).2.get? id = some (invoice.settled time) := by
  cases call with
  | create order now =>
      left
      rcases consistent.create_cases order now with ⟨_, _, _, _, _, found⟩ | ⟨_, made⟩
      · rw [BookCall.run_create found]
        exact listed
      · rw [BookCall.run_create made, InvoiceStore.get?_withNext, if_neg]
        · exact listed
        · rintro rfl
          rw [consistent.get?_next] at listed
          cases listed
  | markPaid given time =>
      rcases consistent.markPaid_cases given time with
        ⟨_, outcome⟩ | ⟨_, _, _, outcome⟩ | ⟨found, isFound, _, own, outcome⟩
      · rw [BookCall.run_markPaid outcome]
        exact .inl listed
      · rw [BookCall.run_markPaid outcome]
        exact .inl listed
      · rw [BookCall.run_markPaid outcome, InvoiceStore.get?_withSettled]
        split
        · next same =>
            obtain rfl : id = given := same.trans own
            obtain rfl : found = invoice := Option.some.inj (isFound.symm.trans listed)
            exact .inr ⟨time, rfl, rfl⟩
        · exact .inl listed
  | get id => exact .inl listed
  | list status => exact .inl listed

/-- An invoice that a call adds is the next one, made from an order. -/
theorem BookCall.eq_nextInvoice_of_absent {store : InvoiceStore} (consistent : store.Consistent)
    {id : String} {invoice : Invoice} (absent : store.get? id = none) {call : BookCall}
    (listed : (call.run store).2.get? id = some invoice) :
    ∃ order now, call = .create order now ∧ invoice = store.nextInvoice order now := by
  have unchanged : store.get? id ≠ some invoice := by
    rw [absent]
    exact (Option.some_ne_none invoice).symm
  cases call with
  | create order now =>
      rcases consistent.create_cases order now with ⟨_, _, _, _, _, found⟩ | ⟨_, made⟩
      · rw [BookCall.run_create found] at listed
        exact absurd listed unchanged
      · rw [BookCall.run_create made, InvoiceStore.get?_withNext] at listed
        split at listed
        · cases listed
          exact ⟨order, now, rfl, rfl⟩
        · exact absurd listed unchanged
  | markPaid given time =>
      rcases consistent.markPaid_cases given time with
        ⟨_, outcome⟩ | ⟨_, _, _, outcome⟩ | ⟨found, isFound, _, own, outcome⟩
      · rw [BookCall.run_markPaid outcome] at listed
        exact absurd listed unchanged
      · rw [BookCall.run_markPaid outcome] at listed
        exact absurd listed unchanged
      · rw [BookCall.run_markPaid outcome, InvoiceStore.get?_withSettled] at listed
        split at listed
        · next same =>
            obtain rfl : id = given := same.trans own
            rw [isFound] at absent
            cases absent
        · exact absurd listed unchanged
  | get id => exact absurd listed unchanged
  | list status => exact absurd listed unchanged

/-- A book and the calls that led to it, each with its answer. -/
structure BookRun where
  store : InvoiceStore := {}
  history : List (BookCall × BookAnswer) := []

namespace BookRun

/-- The run with one more call. -/
def step (run : BookRun) (call : BookCall) : BookRun where
  store := (call.run run.store).2
  history := run.history ++ [(call, (call.run run.store).1)]

/-- The run with more calls, one after the other. -/
def afterAll (run : BookRun) (calls : List BookCall) : BookRun :=
  calls.foldl step run

/-- The run of some calls to a book that was empty. -/
def ofCalls (calls : List BookCall) : BookRun :=
  afterAll {} calls

theorem ofCalls_append (earlier later : List BookCall) :
    ofCalls (earlier ++ later) = (ofCalls earlier).afterAll later :=
  List.foldl_append

/-- What is told of the calls, with one more call. -/
theorem filterMap_step {α : Type} (tells : BookCall × BookAnswer → Option α) (run : BookRun)
    (call : BookCall) :
    (run.step call).history.filterMap tells =
      run.history.filterMap tells ++ (tells (call, (call.run run.store).1)).toList := by
  rw [step, List.filterMap_append]
  cases told : tells (call, (call.run run.store).1) with
  | none => rw [List.filterMap_cons_none told, Option.toList_none, List.filterMap_nil]
  | some value => rw [List.filterMap_cons_some told, Option.toList_some, List.filterMap_nil]

/-- What one call to a consistent book keeps, a sequence of calls keeps. -/
theorem afterAll_keeps {property : BookRun → Prop}
    (kept : ∀ run call, run.store.Consistent → property run → property (run.step call))
    {run : BookRun} (consistent : run.store.Consistent) (holds : property run)
    (calls : List BookCall) :
    (run.afterAll calls).store.Consistent ∧ property (run.afterAll calls) := by
  induction calls generalizing run with
  | nil => exact ⟨consistent, holds⟩
  | cons call rest ih =>
      exact ih (BookCall.consistent_run consistent call) (kept run call consistent holds)

theorem consistent_ofCalls (calls : List BookCall) : (ofCalls calls).store.Consistent :=
  (@afterAll_keeps (fun _ => True) (fun _ _ _ _ => trivial) _ InvoiceStore.consistent_empty
    trivial calls).1

/-- What holds before any call and is kept by each holds of every run. -/
theorem ofCalls_satisfies {property : BookRun → Prop} (initial : property {})
    (kept : ∀ run call, run.store.Consistent → property run → property (run.step call))
    (calls : List BookCall) : property (ofCalls calls) :=
  (afterAll_keeps kept InvoiceStore.consistent_empty initial calls).2

end BookRun

end ApiContract.Billing
