import ApiContract.Billing.Api
import ApiContract.Proofs.Schema.Walk
import ApiContract.Proofs.Time.Reader
import ApiContract.Proofs.Value.Json

/-!
# The shapes of invoices and payments

An invoice is answered as JSON and checked against the schema that the contracts declare for
it.  Whatever its texts and its amount are, they fit; its times fit just when their years
have four digits without a sign.  The time of a payment comes from a request, in any form
that passes for a time.
-/

namespace ApiContract.Billing

open Schema

/-- The years of the creation and of the payment have four digits without a sign. -/
def Invoice.HasPlainYears (invoice : Invoice) : Prop :=
  invoice.createdAt.HasPlainYear ∧ ∀ time ∈ invoice.paidAt, time.HasPlainYear

/-- The members of an invoice as values. -/
def Invoice.members (invoice : Invoice) : Entries Value :=
  let paidAt := (invoice.paidAt.map fun instant =>
    ("paid_at", Value.string (instant.text .exact))).toList
  [("amount", .ofJson (amountJson invoice.amount)),
    ("created_at", .string (invoice.createdAt.text .exact)), ("currency", .string invoice.currency),
    ("customer", .string invoice.customer), ("id", .string invoice.id)] ++ paidAt ++
    [("status", .string invoice.status.name)]

theorem ofJson_toJson (invoice : Invoice) :
    .ofJson invoice.toJson = Value.object invoice.members := by
  rw [Invoice.toJson, Invoice.members]
  cases invoice.paidAt <;> rfl

/-! ## Parts of an invoice -/

/-- What is no number is written as null, which passes for zero. -/
theorem clean_amount (amount : Binary64) :
    (walk .converting .number (.ofJson (amountJson amount))).Clean := by
  rw [walk_number, clean_walkNumber]
  cases amount <;> exact ⟨_, rfl, fun impossible => absurd impossible (by decide)⟩

theorem clean_status (status : InvoiceStatus) :
    (walk .converting statusSchema (.string status.name)).Clean := by
  rw [statusSchema, choice, walk_enumeration, Walked.clean_require]
  cases status <;> rfl

/-- A time fits if its text is read back. -/
theorem clean_time_iff (time : Instant) :
    (walk .converting .date (.string (time.text .exact))).Clean ↔ time.HasPlainYear := by
  have exactly : Instant.Precision.exact = .millis → time.nanoseconds % 1000000 = 0 :=
    fun impossible => by cases impossible
  have passes : WalkMode.converting.date? (.string (time.text .exact)) =
      (Value.readDate (time.text .exact)).map .date := rfl
  rw [walk_date, clean_walkLeaf, passes, Option.isSome_map]
  by_cases plain : time.HasPlainYear
  · rw [Instant.readDate_text plain exactly]
    exact iff_of_true rfl plain
  · rw [Instant.readDate_text_eq_none plain exactly]
    exact iff_of_false Bool.false_ne_true plain

/-- A time that may be left out fits if it is left out or its text is read back. -/
theorem clean_optionalTime_iff (time : Option Instant) :
    (outcome .converting (.optional .date)
      (time.map fun time => .string (time.text .exact))).Clean ↔
        ∀ given ∈ time, given.HasPlainYear := by
  cases time with
  | none =>
      rw [Option.map_none, clean_outcome_none]
      exact iff_of_true rfl fun _ impossible => by cases impossible
  | some time =>
      have present : (Value.string (time.text .exact)).isNull = false := rfl
      rw [Option.map_some, clean_outcome_some, clean_walk_optional_iff, present, clean_time_iff]
      simp

/-! ## The whole invoice -/

theorem clean_invoice_iff (invoice : Invoice) :
    (walk .converting invoiceSchema (.ofJson invoice.toJson)).Clean ↔ invoice.HasPlainYears := by
  have text : ∀ text, (walk .converting .string (.string text)).Clean := fun _ => rfl
  have paidAt : Entries.get? invoice.members "paid_at" =
      invoice.paidAt.map fun time => .string (time.text .exact) := by
    rw [Invoice.members]
    cases invoice.paidAt <;> rfl
  have status : Entries.get? invoice.members "status" = some (.string invoice.status.name) := by
    rw [Invoice.members]
    cases invoice.paidAt <;> rfl
  rw [ofJson_toJson, invoiceSchema, ofFields, clean_walk_object_iff]
  simp only [Value.object.injEq, exists_eq_left', List.forall_mem_cons, asOptional]
  constructor
  · rintro ⟨⟨_, _, _, _, _, created, paid, _⟩, _⟩
    rw [paidAt] at paid
    exact ⟨(clean_time_iff _).mp created, (clean_optionalTime_iff _).mp paid⟩
  · rintro ⟨created, paid⟩
    rw [paidAt, status]
    exact ⟨⟨text _, text _, clean_amount _, text _, clean_status _, (clean_time_iff _).mpr created,
      (clean_optionalTime_iff _).mpr paid, List.forall_mem_nil _⟩,
      fun impossible => absurd impossible (by decide)⟩

theorem clean_invoices_iff (invoices : List Invoice) :
    (walk .converting (.array invoiceSchema)
      (.ofJson (.array (invoices.map Invoice.toJson)))).Clean ↔
        ∀ invoice ∈ invoices, invoice.HasPlainYears := by
  rw [clean_walk_array_iff, Value.ofJson, Value.itemsOfJson_eq_map]
  simp only [Value.array.injEq, exists_eq_left', List.forall_mem_map, clean_invoice_iff]

/-- A problem fits the schema that is declared for problems. -/
theorem clean_problem (text : String) :
    (walk .converting problemSchema (.ofJson (.object [("error", .string text)]))).Clean := by
  rfl

/-! ## The time of a payment -/

/-- The time of payment that a request gives, in any form that passes for a time. -/
def givenTime? (request : Request) : Option Instant :=
  request.body.get? "paid_at" >>= Value.coerceDate

/-- The schema of the body of a payment. -/
def paymentBody : Schema :=
  .optional (.object [("paid_at", .optional .date)] false)

/-- The time under a member that may be missing. -/
def timeOf? : Option Value → Option Instant
  | some (.date time) => some time
  | _ => none

theorem paymentTime_eq (request : Request) (now : Instant) :
    paymentTime request now = (timeOf? (request.body.get? "paid_at")).getD now := by
  rw [paymentTime]
  generalize request.body.get? "paid_at" = given
  cases given with
  | none => rfl
  | some value => cases value <;> rfl

/-- A time that may be left out is taken as what it passes for. -/
theorem timeOf?_walk_optional {given : Value}
    (clean : (walk .converting (.optional .date) given).Clean) :
    timeOf? (some (walk .converting (.optional .date) given).value) = given.coerceDate := by
  cases isNull : given.isNull with
  | true =>
      rw [Value.eq_null_of_isNull isNull]
      rfl
  | false =>
      rw [walk_optional_of_present isNull] at clean ⊢
      rcases exists_value_walkLeaf_of_clean clean with ⟨converted, passes, becomes⟩
      rcases Option.map_eq_some_iff.mp passes with ⟨time, coerced, rfl⟩
      rw [walk_date, becomes, coerced]
      rfl

/-- The time in the body of a payment is taken as what it passes for. -/
theorem timeOf?_walk_paymentBody {body : Value}
    (clean : (walk .converting paymentBody body).Clean) :
    timeOf? ((walk .converting paymentBody body).value.get? "paid_at") =
      body.get? "paid_at" >>= Value.coerceDate := by
  rw [paymentBody] at clean ⊢
  cases isNull : body.isNull with
  | true =>
      rw [Value.eq_null_of_isNull isNull]
      rfl
  | false =>
      rw [walk_optional_of_present isNull] at clean ⊢
      rcases clean_walk_object_iff.mp clean with ⟨members, rfl, fields, _⟩
      have field := fields ("paid_at", .optional .date) List.mem_cons_self
      have becomes := @get?_walkedMembers_of_mem .converting [("paid_at", .optional .date)] false
        members ("paid_at", .optional .date) (by decide) List.mem_cons_self
      rw [value_walk_object, Value.get?, becomes, Value.get?]
      cases given : Entries.get? members "paid_at" with
      | none => rfl
      | some value =>
          rw [given] at field
          exact timeOf?_walk_optional (clean_outcome_some.mp field)

/-- The handler of a payment takes the time that the request gives, or else the present. -/
theorem paymentTime_of_parse {request : Request} {parsed : Value}
    (fits : markPaid.requestSchema.parse request.input = .ok parsed) (now : Instant) :
    paymentTime (request.withInput parsed) now = (givenTime? request).getD now := by
  rcases parse_eq_ok_iff.mp fits with ⟨clean, rfl⟩
  have shape : markPaid.requestSchema =
      .object [("params", idSchema), ("body", paymentBody)] false := rfl
  have declared : ("body", paymentBody) ∈ [("params", idSchema), ("body", paymentBody)] :=
    List.mem_cons_of_mem _ List.mem_cons_self
  rw [shape] at clean ⊢
  rcases clean_walk_object_iff.mp clean with ⟨members, isInput, fields, _⟩
  cases isInput
  have bodyClean : (walk .converting paymentBody request.body).Clean := fields _ declared
  have body : (request.withInput (walk .converting
      (.object [("params", idSchema), ("body", paymentBody)] false) request.input).value).body =
        (walk .converting paymentBody request.body).value := by
    rw [Request.withInput, Request.input, value_walk_object]
    simp only [Value.get?]
    rw [get?_walkedMembers_of_mem (by decide) declared]
    rfl
  rw [paymentTime_eq, body, timeOf?_walk_paymentBody bodyClean, givenTime?]

end ApiContract.Billing
