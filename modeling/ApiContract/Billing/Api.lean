import ApiContract.Billing.Store
import ApiContract.Routing.Router

/-!
# The billing endpoints

Five contracts over a book of invoices: list, create, fetch, record a payment, and
the history of an invoice as a stream of events.
-/

namespace ApiContract.Billing

/-- The values of an enumeration of texts. -/
def choice (texts : List String) : Schema :=
  .enumeration (texts.map .string)

/-- The names of the statuses. -/
def statusSchema : Schema :=
  choice [InvoiceStatus.unpaid.name, InvoiceStatus.paid.name]

/-- The shape of an invoice. -/
def invoiceSchema : Schema :=
  .ofFields [("id", .string), ("customer", .string), ("amount", .number),
    ("currency", .string), ("status", statusSchema), ("created_at", .date),
    ("paid_at", .asOptional .date)]

/-- The shape of an answer that tells what is wrong. -/
def problemSchema : Schema :=
  .ofFields [("error", .string)]

/-- The shape of the parameters of a path with an id. -/
def idSchema : Schema :=
  .ofFields [("id", .string)]

/-- Lists invoices. -/
def listInvoices : Contract :=
  ({ name := "listInvoices", summary := some "List invoices" } : Contract)
    |>.withQuery (.ofFields [("status", .asOptional statusSchema)])
    |>.withResponse 200 (.array invoiceSchema)

/-- Creates an invoice. -/
def createInvoice : Contract :=
  ({ name := "createInvoice", summary := some "Create an invoice",
     description := some "Honors the `idempotency-key` header." } : Contract)
    |>.withRequestHeaders (.ofFields [(idempotencyHeader, .asOptional .string)])
    |>.withBody (.ofFields [("customer", .string), ("amount", .number),
      ("currency", .asOptional (choice ["EUR", "USD", "GBP"]))])
    |>.withResponse 201 invoiceSchema
    |>.withResponse 200 invoiceSchema

/-- Fetches an invoice. -/
def getInvoice : Contract :=
  ({ name := "getInvoice", summary := some "Fetch one invoice" } : Contract)
    |>.withParams idSchema
    |>.withResponse 200 invoiceSchema
    |>.withResponse 404 problemSchema

/-- Records a payment. -/
def markPaid : Contract :=
  ({ name := "markPaid", summary := some "Record a successful payment" } : Contract)
    |>.withParams idSchema
    |>.withBody (.asOptional (.ofFields [("paid_at", .asOptional .date)]))
    |>.withAuth { method := .bearer, allowedRoles := ["clerk", "admin"],
                  allowedPermissions := ["billing.write"] }
    |>.withResponse 200 invoiceSchema
    |>.withResponse 404 problemSchema
    |>.withResponse 409 problemSchema

/-- Streams the history of an invoice. -/
def invoiceEvents : Contract :=
  ({ name := "invoiceEvents", summary := some "Stream the invoice history" } : Contract)
    |>.withParams idSchema
    |>.withResponse 404 problemSchema

/-- What a handler does that answers with JSON. -/
def answered (store : InvoiceStore) (status : Nat) (payload : Json) : Handled InvoiceStore where
  state := store
  ops := (Reply.json status payload).ops

/-- What a handler does that answers with a problem. -/
def refused (store : InvoiceStore) (status : Nat) (problem : String) : Handled InvoiceStore :=
  answered store status (.object [("error", .string problem)])

/-- What a handler does when there is no invoice of an id. -/
def notFound (store : InvoiceStore) (id : String) : Handled InvoiceStore :=
  refused store 404 s!"invoice '{id}' not found"

/-- The id in the path of a request. -/
def idOf (request : Request) : String :=
  (request.params.get? "id" >>= Value.asString?).getD ""

/-- Lists the invoices, all or those of the status that the query names. -/
def handleList : Handler InvoiceStore := fun exchange =>
  let status :=
    exchange.request.query.get? "status" >>= Value.asString? >>= InvoiceStatus.ofName?
  answered exchange.state 200 (.array ((exchange.state.list status).map Invoice.toJson))

/-- The order that a request makes. -/
def orderOf (request : Request) : Order where
  customer := (request.body.get? "customer" >>= Value.asString?).getD ""
  amount := (request.body.get? "amount" >>= Value.asBinary64?).getD .zero
  currency := (request.body.get? "currency" >>= Value.asString?).getD "EUR"
  key := request.context >>= RequestContext.idempotencyKey

/-- Creates an invoice, or finds the one that was created under the same key. -/
def handleCreate : Handler InvoiceStore := fun exchange =>
  let (invoice, isNew, store) :=
    exchange.state.create (orderOf exchange.request) exchange.occasion.now
  answered store (if isNew then 201 else 200) invoice.toJson

/-- Fetches an invoice. -/
def handleGet : Handler InvoiceStore := fun exchange =>
  let id := idOf exchange.request
  match exchange.state.get? id with
  | some invoice => answered exchange.state 200 invoice.toJson
  | none => notFound exchange.state id

/-- The time of payment that a request gives, or now. -/
def paymentTime (request : Request) (now : Instant) : Instant :=
  match request.body.get? "paid_at" with
  | some (.date instant) => instant
  | _ => now

/-- Records a payment. -/
def handlePayment : Handler InvoiceStore := fun exchange =>
  let id := idOf exchange.request
  let time := paymentTime exchange.request exchange.occasion.now
  match exchange.state.markPaid id time with
  | (.paid invoice, store) => answered store 200 invoice.toJson
  | (.alreadyPaid, store) => refused store 409 s!"invoice '{id}' is already paid"
  | (.notFound, store) => notFound store id

/-- The events in the life of an invoice. -/
def history (invoice : Invoice) : List StreamEvent :=
  let created : StreamEvent :=
    ⟨"created", .object [("amount", .number invoice.amount), ("at", .date invoice.createdAt)]⟩
  match invoice.paidAt with
  | none => [created]
  | some time => [created, ⟨"paid", .object [("at", .date time)]⟩]

/-- Streams the history of an invoice. -/
def handleEvents : Handler InvoiceStore := fun exchange =>
  let id := idOf exchange.request
  match exchange.state.get? id with
  | some invoice =>
      { state := exchange.state
        ops := ({ body := .stream (history invoice) } : Reply).ops }
  | none => notFound exchange.state id

/-- The endpoints in the order of their registration. -/
def endpoints : List (String × String × Contract × Handler InvoiceStore) :=
  [("GET", "/", listInvoices, handleList), ("POST", "/", createInvoice, handleCreate),
    ("GET", "/:id", getInvoice, handleGet), ("POST", "/:id/success", markPaid, handlePayment),
    ("GET", "/:id/events", invoiceEvents, handleEvents)]

/-- Registers endpoints one after the other, up to the first that fails. -/
def installAll (router : Router) (registry : Registry InvoiceStore) :
    List (String × String × Contract × Handler InvoiceStore) →
      Option RegistrationFailure × Registry InvoiceStore
  | [] => (none, registry)
  | (method, path, contract, handler) :: rest =>
      match router.attempt registry method path contract [] handler with
      | (registry, .error failure) => (some failure, registry)
      | (registry, .ok _) => installAll router registry rest

/-- Registers all endpoints through a router. -/
def install (router : Router) (registry : Registry InvoiceStore) :
    Option RegistrationFailure × Registry InvoiceStore :=
  installAll router registry endpoints

end ApiContract.Billing
