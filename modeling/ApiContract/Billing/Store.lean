import ApiContract.Entries
import ApiContract.Json.Basic
import ApiContract.Time.Instant

/-!
# A book of invoices

Invoices get ascending numbers.  A creation may carry a key, and a repeated key
gives the first invoice again.  An invoice is paid at most once.
-/

namespace ApiContract.Billing

/-- Whether an invoice is paid. -/
inductive InvoiceStatus where
  | unpaid
  | paid
  deriving DecidableEq

/-- The name of a status. -/
def InvoiceStatus.name : InvoiceStatus → String
  | .unpaid => "open"
  | .paid => "paid"

/-- The status of a name. -/
def InvoiceStatus.ofName? : String → Option InvoiceStatus
  | "open" => some .unpaid
  | "paid" => some .paid
  | _ => none

/-- An invoice. -/
structure Invoice where
  id : String
  customer : String
  amount : Binary64
  currency : String
  status : InvoiceStatus := .unpaid
  createdAt : Instant
  paidAt : Option Instant := none
  deriving DecidableEq

/-- The id of the invoice of a number, with at least four digits. -/
def invoiceId (number : Nat) : String :=
  "inv-" ++ String.ofList (Text.padLeft 4 '0' (Nat.toDigits 10 number))

/-- An instant as JSON, exact to the nanosecond. -/
def instantJson (instant : Instant) : Json :=
  .string (instant.text .exact)

/-- An amount as JSON, written as a fraction even when it is whole. What is not
finite has no amount. -/
def amountJson : Binary64 → Json
  | .finite number => .number (.float number)
  | _ => .null

/-- An invoice as JSON. The time of payment is left out while there is none. -/
def Invoice.toJson (invoice : Invoice) : Json :=
  let paidAt := (invoice.paidAt.map fun instant => ("paid_at", instantJson instant)).toList
  .object <| [("amount", amountJson invoice.amount),
    ("created_at", instantJson invoice.createdAt), ("currency", .string invoice.currency),
    ("customer", .string invoice.customer), ("id", .string invoice.id)] ++ paidAt ++
    [("status", .string invoice.status.name)]

/-- The book: how many invoices were created, the invoices by id, and the ids of those
that were created under a key. -/
structure InvoiceStore where
  /-- A machine word counts the same: every count stores an invoice under an id of its own, so
  memory runs out long before the word does. -/
  created : Nat := 0
  invoices : Entries Invoice := []
  keys : Entries String := []

/-- What an invoice is created from. -/
structure Order where
  customer : String
  amount : Binary64
  currency : String
  key : Option String := none

/-- What becomes of a payment. -/
inductive PayOutcome where
  | paid (invoice : Invoice)
  | alreadyPaid
  | notFound

namespace InvoiceStore

/-- The invoice of an id. -/
def get? (store : InvoiceStore) (id : String) : Option Invoice :=
  Entries.get? store.invoices id

/-- The invoices in order of their ids, all or those of one status. -/
def list (store : InvoiceStore) (status : Option InvoiceStatus) : List Invoice :=
  (store.invoices.map Prod.snd).filter fun invoice =>
    match status with
    | none => true
    | some status => invoice.status = status

/-- The invoice that was created under a key. -/
def createdUnder? (store : InvoiceStore) (key : Option String) : Option Invoice := do
  let id ← Entries.get? store.keys (← key)
  store.get? id

/-- A new invoice, or the one that was created under the key of the order. The truth
value tells whether it is new. -/
def create (store : InvoiceStore) (order : Order) (now : Instant) :
    Invoice × Bool × InvoiceStore :=
  match store.createdUnder? order.key with
  | some invoice => (invoice, false, store)
  | none =>
      let number := store.created + 1
      let invoice : Invoice := {
        id := invoiceId number
        customer := order.customer
        amount := order.amount
        currency := order.currency
        createdAt := now }
      let keys :=
        match order.key with
        | some key => Entries.insert key invoice.id store.keys
        | none => store.keys
      (invoice, true, ⟨number, Entries.insert invoice.id invoice store.invoices, keys⟩)

/-- Marks an invoice as paid at a time. -/
def markPaid (store : InvoiceStore) (id : String) (time : Instant) : PayOutcome × InvoiceStore :=
  match store.get? id with
  | none => (.notFound, store)
  | some invoice =>
      if invoice.status = .paid then (.alreadyPaid, store)
      else
        let invoice := { invoice with status := .paid, paidAt := some time }
        (.paid invoice, { store with invoices := Entries.insert id invoice store.invoices })

end InvoiceStore

end ApiContract.Billing
