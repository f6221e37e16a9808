import Invetrixa.Numbering
import Invetrixa.Library.Runs

/-!
# Invoices and quotes

`InvoiceService`: a document is created with its items, edited while it is a draft, sent, converted
from a quote to an invoice, paid and cancelled. The amounts that follow from its items and its
payments are stored on it.

## Main definitions

- `InvoiceStore` — the tables of the invoices, and what they refer to
- `InvoiceService.create`, `update`, `markAsSent`, `convertToInvoice`, `recordPayment`, `cancel`
- `InvoiceRequest`, `InvoiceStore.step` — the requests, and the store after one
-/

namespace Invetrixa

open Rowstore Requests

inductive DocumentType
  | quote | proforma | invoice
  deriving DecidableEq

inductive DocumentStatus
  | draft | sent | accepted | rejected | expired | paid | partiallyPaid | overdue | cancelled
  deriving DecidableEq

/-- A customer as the invoices see it. -/
structure InvoiceCustomer where
  tenantId : Id
  deletedAt : Option ℕ

structure Invoice where
  documentNumber : String
  documentType : DocumentType
  status : DocumentStatus
  subject : Option String
  subtotal : ℚ
  discountAmount : ℚ
  taxAmount : ℚ
  totalAmount : ℚ
  paidAmount : ℚ
  dueAmount : ℚ
  issueDate : ℕ
  dueDate : Option ℕ
  validUntil : Option ℕ
  paymentTerms : Option String
  notes : Option String
  customerNotes : Option String
  termsConditions : Option String
  sourceDocumentId : Option Id
  customerId : Id
  locationId : Id
  tenantId : Id
  sentAt : Option ℕ
  acceptedAt : Option ℕ
  paidAt : Option ℕ
  cancelledAt : Option ℕ

structure InvoiceItem where
  invoiceId : Id
  productId : Id
  quantity : ℤ
  unitPrice : ℚ
  discountAmount : ℚ
  taxAmount : ℚ
  lineTotal : ℚ
  notes : Option String
  sortOrder : ℤ

structure InvoicePayment where
  invoiceId : Id
  amount : ℚ
  paymentMethod : PaymentMethod

structure InvoiceStore where
  customers : Serial InvoiceCustomer
  locations : Serial Location
  products : Serial Product
  invoices : Serial Invoice
  invoiceItems : Serial InvoiceItem
  invoicePayments : Serial InvoicePayment

namespace InvoiceService

structure CreateInvoiceItemDto where
  productId : Id
  quantity : ℚ
  unitPrice : ℚ
  discountAmount : Option ℚ
  taxAmount : Option ℚ
  notes : Option String
  sortOrder : Option ℚ

structure CreateInvoiceDto where
  documentType : DocumentType
  locationId : Id
  customerId : Id
  subject : Option String
  items : List CreateInvoiceItemDto
  discountAmount : Option ℚ
  dueDate : Option ℕ
  validUntil : Option ℕ
  paymentTerms : Option String
  notes : Option String
  customerNotes : Option String
  termsConditions : Option String

/-- The items that the body may carry as well are not read. -/
structure UpdateInvoiceDto where
  subject : Option String
  discountAmount : Option ℚ
  dueDate : Option ℕ
  validUntil : Option ℕ
  paymentTerms : Option String
  notes : Option String
  customerNotes : Option String
  termsConditions : Option String

structure CreateInvoicePaymentDto where
  method : PaymentMethod
  amount : ℚ

section Helpers

def validateCustomer (tenantId customerId : Id) (s : InvoiceStore) : Except HttpError Unit :=
  match (s.customers.find? customerId).filter fun c => c.tenantId = tenantId ∧ c.deletedAt = none with
  | some _ => .ok ()
  | none => .error (.notFound "Customer not found")

def validateLocation (tenantId locationId : Id) (s : InvoiceStore) : Except HttpError Unit :=
  match (s.locations.find? locationId).filter fun l => l.tenantId = tenantId with
  | some _ => .ok ()
  | none => .error (.notFound "Location not found")

/-- A product that is named twice is found once, and the request refused. -/
def validateAndLoadProducts (tenantId : Id) (productIds : List Id) (s : InvoiceStore) :
    Except HttpError (Table Id Product) :=
  let products := s.products.select fun id p =>
    id ∈ productIds && (p.tenantId = tenantId ∧ p.deletedAt = none)
  if products.rows.length ≠ productIds.length then
    .error (.badRequest "One or more products not found")
  else .ok products

def getDocumentPrefix : DocumentType → String
  | .quote => "QUO"
  | .proforma => "PRO"
  | .invoice => "INV"

/-- `QUO-YYYY-NNNNN` -/
def generateDocumentNumber (clock : Clock) (tenantId : Id) (documentPrefix : String)
    (s : InvoiceStore) : String :=
  nextNumber (documentPrefix ++ "-" ++ toString clock.fullYear ++ "-") 5
    ((s.invoices.rows.filter fun r => r.2.tenantId = tenantId).map fun r => r.2.documentNumber)

structure ProcessedInvoiceItem where
  productId : Id
  quantity : ℚ
  unitPrice : ℚ
  discountAmount : ℚ
  taxAmount : ℚ
  lineTotal : ℚ
  notes : Option String
  sortOrder : ℚ

def processInvoiceItem (item : CreateInvoiceItemDto) (index : ℕ) : ProcessedInvoiceItem :=
  let discountAmount := item.discountAmount.getD 0
  let taxAmount := item.taxAmount.getD 0
  { productId := item.productId
    quantity := item.quantity
    unitPrice := item.unitPrice
    discountAmount
    taxAmount
    lineTotal := item.unitPrice * item.quantity - discountAmount + taxAmount
    notes := item.notes
    sortOrder := item.sortOrder.getD index }

/-- The lines with their totals, and the sum of these. -/
def processInvoiceItems (items : List CreateInvoiceItemDto) : List ProcessedInvoiceItem × ℚ :=
  let processedItems := items.mapIdx fun index item => processInvoiceItem item index
  (processedItems, (processedItems.map ProcessedInvoiceItem.lineTotal).sum)

def validateCanUpdate (status : DocumentStatus) : Except HttpError Unit :=
  if status ≠ .draft then .error (.badRequest "Only draft invoices can be updated") else .ok ()

def validateCanSend (status : DocumentStatus) : Except HttpError Unit :=
  if status ≠ .draft then .error (.badRequest "Only draft invoices can be sent") else .ok ()

def validateCanConvert (documentType : DocumentType) (status : DocumentStatus) :
    Except HttpError Unit :=
  if documentType ≠ .quote then .error (.badRequest "Only quotes can be converted to invoices")
  else if status ≠ .draft ∧ status ≠ .sent then
    .error (.badRequest "Only draft or sent quotes can be converted")
  else .ok ()

def validateCanReceivePayment (documentType : DocumentType) : Except HttpError Unit :=
  if documentType = .quote then .error (.badRequest "Cannot record payments against quotes")
  else .ok ()

def validateCanCancel (status : DocumentStatus) : Except HttpError Unit :=
  if status = .paid ∨ status = .cancelled then .error (.badRequest "Cannot cancel this invoice")
  else .ok ()

end Helpers

section Writes

/-- `invoice.create`, under the unique constraint and the foreign keys. -/
def insertInvoice (invoice : Invoice) (s : InvoiceStore) : Except HttpError (Id × InvoiceStore) :=
  if (s.invoices.rows.any fun r =>
      r.2.documentNumber = invoice.documentNumber ∧ r.2.tenantId = invoice.tenantId) then
    .error (uniqueViolation ["documentNumber", "tenantId"])
  else if (s.customers.find? invoice.customerId).isNone ∨
      (s.locations.find? invoice.locationId).isNone then
    .error invalidReference
  else .ok (s.invoices.next, { s with invoices := s.invoices.create invoice })

/-- `invoice.update` -/
def updateInvoice (id : Id) (f : Invoice → Invoice) (s : InvoiceStore) :
    Except HttpError InvoiceStore :=
  match s.invoices.find? id with
  | none => .error recordNotFound
  | some _ => .ok { s with invoices := s.invoices.modify id f }

/-- `invoiceItem.createMany` -/
def createInvoiceItems (items : List InvoiceItem) (s : InvoiceStore) : InvoiceStore :=
  { s with invoiceItems := items.foldl Serial.create s.invoiceItems }

/-- `invoicePayment.create` -/
def createInvoicePayment (payment : InvoicePayment) (s : InvoiceStore) :
    Except HttpError InvoiceStore :=
  match s.invoices.find? payment.invoiceId with
  | none => .error invalidReference
  | some _ => .ok { s with invoicePayments := s.invoicePayments.create payment }

end Writes

/-- The row of a processed line; its `Int` columns refuse a fraction. -/
def itemRow (db : Database) (invoiceId : Id) (item : ProcessedInvoiceItem) :
    Except HttpError InvoiceItem := do
  let quantity ← intColumn item.quantity
  let sortOrder ← intColumn item.sortOrder
  return { invoiceId
           productId := item.productId
           quantity
           unitPrice := db.decimal item.unitPrice
           discountAmount := db.decimal item.discountAmount
           taxAmount := db.decimal item.taxAmount
           lineTotal := db.decimal item.lineTotal
           notes := item.notes
           sortOrder }

/-- The row of a new document. -/
def newInvoice (db : Database) (clock : Clock) (tenantId : Id) (documentNumber : String)
    (dto : CreateInvoiceDto) (subtotal : ℚ) : Invoice :=
  let discountAmount := dto.discountAmount.getD 0
  let taxAmount := 0
  let totalAmount := subtotal - discountAmount + taxAmount
  { documentNumber
    documentType := dto.documentType
    status := .draft
    subject := dto.subject
    subtotal := db.decimal subtotal
    discountAmount := db.decimal discountAmount
    taxAmount := db.decimal taxAmount
    totalAmount := db.decimal totalAmount
    paidAmount := db.decimal 0
    dueAmount := db.decimal totalAmount
    issueDate := clock.time
    dueDate := dto.dueDate
    validUntil := dto.validUntil
    paymentTerms := dto.paymentTerms
    notes := dto.notes
    customerNotes := dto.customerNotes
    termsConditions := dto.termsConditions
    sourceDocumentId := none
    customerId := dto.customerId
    locationId := dto.locationId
    tenantId
    sentAt := none
    acceptedAt := none
    paidAt := none
    cancelledAt := none }

/-- The checks of `create`. -/
def readCreate (tenantId : Id) (dto : CreateInvoiceDto) (s : InvoiceStore) :
    Except HttpError Unit := do
  validateCustomer tenantId dto.customerId s
  validateLocation tenantId dto.locationId s
  let _ ← validateAndLoadProducts tenantId (dto.items.map CreateInvoiceItemDto.productId) s

def create (db : Database) (clock : Clock) (tenantId : Id) (dto : CreateInvoiceDto)
    (s : InvoiceStore) : Except HttpError (Id × InvoiceStore) := do
  readCreate tenantId dto s
  let (processedItems, subtotal) := processInvoiceItems dto.items
  let documentNumber :=
    generateDocumentNumber clock tenantId (getDocumentPrefix dto.documentType) s
  let (id, s) ← insertInvoice (newInvoice db clock tenantId documentNumber dto subtotal) s
  let items ← processedItems.mapM (itemRow db id)
  return (id, createInvoiceItems items s)

def findInvoiceOrThrow (tenantId id : Id) (s : InvoiceStore) : Except HttpError Invoice :=
  match (s.invoices.find? id).filter fun invoice => invoice.tenantId = tenantId with
  | some invoice => .ok invoice
  | none => .error (.notFound "Invoice not found")

/-- The document as an update writes it: what is not given stays. -/
def edited (db : Database) (dto : UpdateInvoiceDto) (invoice : Invoice) : Invoice :=
  { invoice with
    subject := dto.subject <|> invoice.subject
    discountAmount := (dto.discountAmount.map db.decimal).getD invoice.discountAmount
    dueDate := dto.dueDate <|> invoice.dueDate
    validUntil := dto.validUntil <|> invoice.validUntil
    paymentTerms := dto.paymentTerms <|> invoice.paymentTerms
    notes := dto.notes <|> invoice.notes
    customerNotes := dto.customerNotes <|> invoice.customerNotes
    termsConditions := dto.termsConditions <|> invoice.termsConditions }

/-- The document that `update` works on. -/
def readUpdate (tenantId id : Id) (s : InvoiceStore) : Except HttpError Invoice := do
  let invoice ← findInvoiceOrThrow tenantId id s
  validateCanUpdate invoice.status
  return invoice

def update (db : Database) (tenantId id : Id) (dto : UpdateInvoiceDto) (s : InvoiceStore) :
    Except HttpError (Unit × InvoiceStore) := do
  let _ ← readUpdate tenantId id s
  let s ← updateInvoice id (edited db dto) s
  return ((), s)

def markAsSent (clock : Clock) (tenantId id : Id) (s : InvoiceStore) :
    Except HttpError (Unit × InvoiceStore) := do
  let invoice ← findInvoiceOrThrow tenantId id s
  validateCanSend invoice.status
  let s ← updateInvoice id
    (fun invoice => { invoice with status := .sent, sentAt := some clock.time }) s
  return ((), s)

/-- The invoice that a quote becomes. -/
def convertedInvoice (db : Database) (clock : Clock) (quoteId : Id) (documentNumber : String)
    (quote : Invoice) : Invoice :=
  { quote with
    documentNumber
    documentType := .invoice
    status := .draft
    paidAmount := db.decimal 0
    dueAmount := quote.totalAmount
    issueDate := clock.time
    validUntil := none
    sourceDocumentId := some quoteId
    sentAt := none
    acceptedAt := none
    paidAt := none
    cancelledAt := none }

/-- The items of a document. -/
def itemsOf (invoiceId : Id) (s : InvoiceStore) : List InvoiceItem :=
  (s.invoiceItems.rows.filter fun r => r.2.invoiceId = invoiceId).map Prod.snd

def findQuoteOrThrow (tenantId quoteId : Id) (s : InvoiceStore) : Except HttpError Invoice :=
  match (s.invoices.find? quoteId).filter fun quote => quote.tenantId = tenantId with
  | some quote => .ok quote
  | none => .error (.notFound "Quote not found")

def convertToInvoice (db : Database) (clock : Clock) (tenantId quoteId : Id) (s : InvoiceStore) :
    Except HttpError (Id × InvoiceStore) := do
  let quote ← findQuoteOrThrow tenantId quoteId s
  let items := itemsOf quoteId s
  validateCanConvert quote.documentType quote.status
  let s ← updateInvoice quoteId
    (fun quote => { quote with status := .accepted, acceptedAt := some clock.time }) s
  let documentNumber := generateDocumentNumber clock tenantId "INV" s
  let (id, s) ← insertInvoice (convertedInvoice db clock quoteId documentNumber quote) s
  return (id, createInvoiceItems (items.map fun item => { item with invoiceId := id }) s)

/-- The document once an amount is paid. -/
def paid (db : Database) (clock : Clock) (invoice : Invoice) (amount : ℚ) (row : Invoice) : Invoice :=
  let newPaidAmount := invoice.paidAmount + amount
  let newDueAmount := invoice.totalAmount - newPaidAmount
  let newStatus := if newDueAmount ≤ 0 then DocumentStatus.paid
    else if newPaidAmount > 0 then .partiallyPaid
    else invoice.status
  { row with
    paidAmount := db.decimal newPaidAmount
    dueAmount := db.decimal (if newDueAmount < 0 then 0 else newDueAmount)
    status := newStatus
    paidAt := if newStatus = .paid then some clock.time else row.paidAt }

/-- The document that `recordPayment` works on. -/
def readPayment (tenantId id : Id) (s : InvoiceStore) : Except HttpError Invoice := do
  let invoice ← findInvoiceOrThrow tenantId id s
  validateCanReceivePayment invoice.documentType
  return invoice

def recordPayment (db : Database) (clock : Clock) (tenantId invoiceId : Id)
    (dto : CreateInvoicePaymentDto) (s : InvoiceStore) :
    Except HttpError (Unit × InvoiceStore) := do
  let invoice ← readPayment tenantId invoiceId s
  let s ← createInvoicePayment
    { invoiceId, amount := db.decimal dto.amount, paymentMethod := dto.method } s
  let s ← updateInvoice invoiceId (paid db clock invoice dto.amount) s
  return ((), s)

def cancel (clock : Clock) (tenantId id : Id) (s : InvoiceStore) :
    Except HttpError (Unit × InvoiceStore) := do
  let invoice ← findInvoiceOrThrow tenantId id s
  validateCanCancel invoice.status
  let s ← updateInvoice id
    (fun invoice => { invoice with status := .cancelled, cancelledAt := some clock.time }) s
  return ((), s)

end InvoiceService

open InvoiceService

/-- The requests of the invoice controller. -/
inductive InvoiceRequest
  | create (tenantId : Id) (dto : CreateInvoiceDto)
  | update (tenantId id : Id) (dto : UpdateInvoiceDto)
  | markAsSent (tenantId id : Id)
  | convertToInvoice (tenantId quoteId : Id)
  | recordPayment (tenantId invoiceId : Id) (dto : CreateInvoicePaymentDto)
  | cancel (tenantId id : Id)

/-- The body passes the validation of its DTO. -/
def InvoiceRequest.Valid : InvoiceRequest → Prop
  | .create _ dto => (∀ item ∈ dto.items, 1 ≤ item.quantity ∧ 0 ≤ item.unitPrice ∧
      0 ≤ item.discountAmount.getD 0 ∧ 0 ≤ item.taxAmount.getD 0 ∧ 0 ≤ item.sortOrder.getD 0) ∧
      0 ≤ dto.discountAmount.getD 0
  | .update _ _ dto => 0 ≤ dto.discountAmount.getD 0
  | .recordPayment _ _ dto => 1 / 100 ≤ dto.amount
  | _ => True

instance : DecidablePred InvoiceRequest.Valid := by
  rintro ⟨⟩
  all_goals dsimp only [InvoiceRequest.Valid]; infer_instance

/-- A request that arrives at a moment. -/
structure InvoiceCall where
  clock : Clock
  request : InvoiceRequest

/-- The store after a request. -/
def InvoiceStore.step (db : Database) (call : InvoiceCall) (s : InvoiceStore) : InvoiceStore :=
  if call.request.Valid then
    match call.request with
    | .create tenantId dto => (transaction (create db call.clock tenantId dto) s).2
    | .update tenantId id dto => (transaction (update db tenantId id dto) s).2
    | .markAsSent tenantId id => (transaction (markAsSent call.clock tenantId id) s).2
    | .convertToInvoice tenantId quoteId =>
        (transaction (convertToInvoice db call.clock tenantId quoteId) s).2
    | .recordPayment tenantId invoiceId dto =>
        (transaction (recordPayment db call.clock tenantId invoiceId dto) s).2
    | .cancel tenantId id => (transaction (cancel call.clock tenantId id) s).2
  else s

/-- The store before the first document. -/
def InvoiceStore.initial (customers : Serial InvoiceCustomer) (locations : Serial Location)
    (products : Serial Product) : InvoiceStore where
  customers := customers
  locations := locations
  products := products
  invoices := .empty
  invoiceItems := .empty
  invoicePayments := .empty

end Invetrixa
