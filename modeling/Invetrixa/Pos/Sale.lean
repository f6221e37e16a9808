import Invetrixa.Numbering
import Invetrixa.Stock.Movement

/-!
# Sales

`SaleService` and `PaymentService`: the quick sale, the completion of a cart and the void.

## Main definitions

- `SaleService.create`, `complete`, `void`
- `PaymentService.processPayments`, `calculateChange`
-/

namespace Invetrixa

open Rowstore MovementService

def SaleStatus.text : SaleStatus → String
  | .draft => "DRAFT"
  | .pending => "PENDING"
  | .completed => "COMPLETED"
  | .partiallyPaid => "PARTIALLY_PAID"
  | .voided => "VOIDED"
  | .refunded => "REFUNDED"
  | .partiallyRefunded => "PARTIALLY_REFUNDED"

/-- `Decimal.toFixed(2)` -/
def toFixed2 (x : ℚ) : String :=
  let cents := (|x| * 100 + 1 / 2).floor.toNat
  (if x < 0 then "-" else "") ++ toString (cents / 100) ++ "." ++
    padStart (toString (cents % 100)) 2

/-- The items of a sale (`include: { items: true }`). -/
def Store.itemsOf (s : Store) (saleId : Id) : List (Id × SaleItem) :=
  s.saleItems.rows.filter fun r => r.2.saleId = saleId

/-- `sale.create`, under the unique constraint and the foreign keys. -/
def insertSale (sale : Sale) (s : Store) : Except HttpError (Id × Store) :=
  if (s.sales.rows.any fun r =>
      r.2.saleNumber = sale.saleNumber ∧ r.2.tenantId = sale.tenantId) then
    .error (uniqueViolation ["saleNumber", "tenantId"])
  else if (s.locations.find? sale.locationId).isNone ∨
      sale.terminalId.any (fun id => (s.terminals.find? id).isNone) ∨
      sale.customerId.any (fun id => (s.customers.find? id).isNone) ∨
      sale.sessionId.any (fun id => (s.sessions.find? id).isNone) then
    .error invalidReference
  else .ok (s.sales.next, { s with sales := s.sales.create sale })

/-- `sale.update` -/
def updateSale (id : Id) (f : Sale → Sale) (s : Store) : Except HttpError Store :=
  match s.sales.find? id with
  | none => .error recordNotFound
  | some _ => .ok { s with sales := s.sales.modify id f }

structure PaymentDto where
  method : PaymentMethod
  amount : ℚ

namespace PaymentService

/-- `salePayment.create` -/
def createPayment (db : Database) (saleId : Id) (payment : PaymentDto) (s : Store) :
    Except HttpError Store :=
  match s.sales.find? saleId with
  | none => .error invalidReference
  | some _ => .ok
    { s with
      salePayments := s.salePayments.create
        { saleId, amount := db.decimal payment.amount, method := payment.method } }

def processPayments (db : Database) (saleId : Id) (payments : List PaymentDto) (s : Store) :
    Except HttpError (ℚ × Store) :=
  payments.foldlM (fun (totalPaid, s) payment => do
    let s ← createPayment db saleId payment s
    return (totalPaid + payment.amount, s)) (0, s)

def calculateChange (totalAmount paidAmount : ℚ) : ℚ :=
  if paidAmount > totalAmount then paidAmount - totalAmount else 0

end PaymentService

namespace SaleService

structure CreateSaleItemDto where
  productId : Id
  quantity : ℚ
  unitPrice : Option ℚ
  discountAmount : Option ℚ

structure CreateSaleDto where
  locationId : Id
  sessionId : Option Id
  terminalId : Option Id
  customerId : Option Id
  items : List CreateSaleItemDto
  payments : List PaymentDto
  discountAmount : Option ℚ

structure ProcessedSaleItem where
  productId : Id
  quantity : ℤ
  unitPrice : ℚ
  unitCost : ℚ
  discountAmount : ℚ
  lineTotal : ℚ

structure SaleTotals where
  subtotal : ℚ
  discountAmount : ℚ
  taxAmount : ℚ
  totalAmount : ℚ
  paidAmount : ℚ
  changeAmount : ℚ

def validateLocation (tenantId locationId : Id) (s : Store) : Except HttpError Unit :=
  if (s.locations.find? locationId).map Location.tenantId = some tenantId then .ok ()
  else .error (.notFound "Location not found")

def validateItems (items : List CreateSaleItemDto) : Except HttpError Unit :=
  if items.length = 0 then .error (.badRequest "At least one item is required") else .ok ()

def validatePayments (payments : List PaymentDto) : Except HttpError Unit :=
  if payments.length = 0 then .error (.badRequest "At least one payment is required") else .ok ()

def validatePaymentAmount (totalAmount paidAmount : ℚ) : Except HttpError Unit :=
  if paidAmount < totalAmount then
    .error (.badRequest ("Insufficient payment. Total: " ++ toFixed2 totalAmount ++ ", Paid: " ++
      toFixed2 paidAmount))
  else .ok ()

/-- The product in the map that `loadProducts` builds. -/
def loadedProduct (tenantId productId : Id) (s : Store) : Option Product :=
  (s.products.find? productId).filter fun p => p.tenantId = tenantId

def loadProducts (tenantId : Id) (items : List CreateSaleItemDto) (s : Store) :
    Except HttpError Unit :=
  forM items fun item =>
    match loadedProduct tenantId item.productId s with
    | some _ => .ok ()
    | none => .error (.notFound ("Product " ++ toString item.productId ++ " not found"))

/-- The cost of the oldest layer that still holds something. -/
def loadProductCost (db : Database) (locationId productId : Id) (s : Store) : ℚ :=
  let layers := s.layers.rows.filter fun r =>
    r.2.productId = productId ∧ r.2.locationId = locationId ∧ 0 < r.2.remainingQty
  ((db.orderByCreatedAt .asc layers).head?.map fun r => r.2.unitCost).getD 0

/-- The check of one line, with the quantity as it was requested. -/
def validateSaleItem (tenantId locationId : Id) (s : Store) (item : CreateSaleItemDto) :
    Except HttpError Unit :=
  let available := s.available tenantId item.productId locationId
  if (available : ℚ) < item.quantity then
    let productName := ((loadedProduct tenantId item.productId s).map Product.name).getD "undefined"
    .error (.badRequest ("Insufficient stock for \"" ++ productName ++ "\". Available: " ++
      toString available ++ ", Requested: " ++ toString item.quantity))
  else .ok ()

def validateStockAvailability (tenantId locationId : Id) (items : List CreateSaleItemDto)
    (s : Store) : Except HttpError Unit :=
  forM items (validateSaleItem tenantId locationId s)

def processItem (db : Database) (tenantId locationId : Id) (s : Store)
    (item : CreateSaleItemDto) : ProcessedSaleItem :=
  let minSellingPrice := (loadedProduct tenantId item.productId s).bind Product.minSellingPrice
  -- A unit price of 0 is falsy and counts as not given.
  let unitPrice := if item.unitPrice.getD 0 ≠ 0 then item.unitPrice.getD 0
    else minSellingPrice.getD 0
  let discountAmount := item.discountAmount.getD 0
  let quantity := item.quantity.floor
  { productId := item.productId
    quantity
    unitPrice
    unitCost := loadProductCost db locationId item.productId s
    discountAmount
    lineTotal := unitPrice * quantity - discountAmount * quantity }

def calculateTotals (items : List ProcessedSaleItem) (overallDiscountAmount : Option ℚ)
    (payments : List PaymentDto) : SaleTotals :=
  let subtotal := (items.map ProcessedSaleItem.lineTotal).sum
  let discountAmount := overallDiscountAmount.getD 0
  let totalAmount := subtotal - discountAmount + 0
  let paidAmount := (payments.map PaymentDto.amount).sum
  { subtotal
    discountAmount
    taxAmount := 0
    totalAmount
    paidAmount
    changeAmount := paidAmount - totalAmount }

/-- `saleItem.createMany` -/
def createSaleItems (db : Database) (saleId : Id) (items : List ProcessedSaleItem) (s : Store) :
    Store :=
  { s with
    saleItems := items.foldl (fun t item => t.create
      { saleId
        productId := item.productId
        quantity := item.quantity
        unitPrice := db.decimal item.unitPrice
        unitCost := db.decimal item.unitCost
        discountAmount := db.decimal item.discountAmount
        lineTotal := db.decimal item.lineTotal }) s.saleItems }

/-- `salePayment.createMany` -/
def createPayments (db : Database) (saleId : Id) (payments : List PaymentDto) (s : Store) :
    Store :=
  { s with
    salePayments := payments.foldl (fun t payment => t.create
      { saleId, amount := db.decimal payment.amount, method := payment.method }) s.salePayments }

/-- The sale row of a quick sale. -/
def newSale (db : Database) (clock : Clock) (tenantId : Id) (saleNumber : String)
    (dto : CreateSaleDto) (totals : SaleTotals) : Sale where
  saleNumber := saleNumber
  subtotal := db.decimal totals.subtotal
  discountAmount := db.decimal totals.discountAmount
  taxAmount := db.decimal totals.taxAmount
  totalAmount := db.decimal totals.totalAmount
  paidAmount := db.decimal totals.paidAmount
  changeAmount := db.decimal totals.changeAmount
  status := .completed
  locationId := dto.locationId
  terminalId := dto.terminalId
  customerId := dto.customerId
  sessionId := dto.sessionId
  tenantId := tenantId
  createdAt := clock.time

/-- What the sale of an item list takes out of stock. -/
def saleStockOut (locationId saleId : Id) (items : List (Id × ℤ)) : BulkStockOutDto where
  locationId := locationId
  referenceType := some .sale
  referenceId := some (.id saleId)
  items := items

/-- The checks of `create` and what it computes before the transaction. -/
def readCreate (db : Database) (tenantId : Id) (dto : CreateSaleDto) (s : Store) :
    Except HttpError (List ProcessedSaleItem × SaleTotals) := do
  validateLocation tenantId dto.locationId s
  validateItems dto.items
  validatePayments dto.payments
  loadProducts tenantId dto.items s
  validateStockAvailability tenantId dto.locationId dto.items s
  let processedItems := dto.items.map (processItem db tenantId dto.locationId s)
  let totals := calculateTotals processedItems dto.discountAmount dto.payments
  validatePaymentAmount totals.totalAmount totals.paidAmount
  return (processedItems, totals)

/-- The transaction of `create`; `client` is what `stockOut` validates against. -/
def executeSaleTransaction (db : Database) (clock : Clock) (tenantId : Id) (dto : CreateSaleDto)
    (items : List ProcessedSaleItem) (totals : SaleTotals) (client tx : Store) :
    Except HttpError (Id × Store) := do
  let saleNumber := generateSaleNumber clock tenantId tx
  let (saleId, s) ← insertSale (newSale db clock tenantId saleNumber dto totals) tx
  let s := createSaleItems db saleId items s
  let s := createPayments db saleId dto.payments s
  let (_, s) ← stockOut db tenantId
    (saleStockOut dto.locationId saleId (items.map fun item => (item.productId, item.quantity)))
    client s
  return (saleId, s)

/-- The quick sale. -/
def create (db : Database) (clock : Clock) (tenantId : Id) (dto : CreateSaleDto) (s : Store) :
    Except HttpError (Id × Store) := do
  let (items, totals) ← readCreate db tenantId dto s
  executeSaleTransaction db clock tenantId dto items totals s s

/-- A sale as it was read, with its items. -/
structure SaleWithItems where
  sale : Sale
  items : List (Id × SaleItem)

/-- `findFirst` by id and tenant, with the items. -/
def findSale (tenantId saleId : Id) (s : Store) : Except HttpError SaleWithItems :=
  match s.sales.find? saleId with
  | some sale =>
    if sale.tenantId = tenantId then .ok ⟨sale, s.itemsOf saleId⟩
    else .error (.notFound "Sale not found")
  | none => .error (.notFound "Sale not found")

def findDraftSale (tenantId saleId : Id) (s : Store) : Except HttpError SaleWithItems := do
  let read ← findSale tenantId saleId s
  if read.sale.status ≠ .draft then
    .error (.badRequest ("Sale is already " ++ read.sale.status.text))
  else if read.items.length = 0 then .error (.badRequest "Cannot complete empty sale")
  else return read

def aggregateSaleItems (items : List (Id × SaleItem)) : ℚ × List (Id × ℤ) :=
  ((items.map fun r => r.2.lineTotal).sum, items.map fun r => (r.2.productId, r.2.quantity))

def calculateCompletionTotals (sale : Sale) (subtotal : ℚ) (payments : List PaymentDto) :
    SaleTotals :=
  let totalAmount := subtotal - sale.discountAmount + sale.taxAmount
  let paidAmount := (payments.map PaymentDto.amount).sum
  { subtotal
    discountAmount := sale.discountAmount
    taxAmount := sale.taxAmount
    totalAmount
    paidAmount
    changeAmount := PaymentService.calculateChange totalAmount paidAmount }

/-- An active reservation that was made for a sale. -/
def isReservationOf (saleId : Id) (r : StockReservation) : Bool :=
  r.referenceId = some (.id saleId) ∧ r.referenceType = some "SALE" ∧ r.status = .active

/-- The `updateMany` that marks a sale's reservations; the balances keep their reserved quantity. -/
def fulfillReservations (saleId : Id) (s : Store) : Store :=
  { s with
    reservations := s.reservations.modifyWhere (fun _ r => isReservationOf saleId r)
      fun r => { r with status := .fulfilled } }

/-- What `complete` reads and checks before the transaction. -/
def readComplete (tenantId saleId : Id) (payments : List PaymentDto) (s : Store) :
    Except HttpError (SaleWithItems × SaleTotals) := do
  let read ← findDraftSale tenantId saleId s
  let totals := calculateCompletionTotals read.sale (aggregateSaleItems read.items).1 payments
  validatePaymentAmount totals.totalAmount totals.paidAmount
  return (read, totals)

/-- The transaction of `complete`. -/
def executeCompletionTransaction (db : Database) (tenantId saleId : Id)
    (payments : List PaymentDto) (read : SaleWithItems) (totals : SaleTotals) (client tx : Store) :
    Except HttpError (Unit × Store) := do
  let (_, s) ← PaymentService.processPayments db saleId payments tx
  let (_, s) ← stockOut db tenantId
    (saleStockOut read.sale.locationId saleId (aggregateSaleItems read.items).2) client s
  let s := fulfillReservations saleId s
  let s ← updateSale saleId (fun sale =>
    { sale with
      status := .completed
      paidAmount := db.decimal totals.paidAmount
      changeAmount := db.decimal totals.changeAmount }) s
  return ((), s)

/-- The completion of a cart. -/
def complete (db : Database) (tenantId saleId : Id) (payments : List PaymentDto) (s : Store) :
    Except HttpError (Unit × Store) := do
  let (read, totals) ← readComplete tenantId saleId payments s
  executeCompletionTransaction db tenantId saleId payments read totals s s

/-- What `void` reads and checks. -/
def readVoid (tenantId saleId : Id) (s : Store) : Except HttpError SaleWithItems := do
  let read ← findSale tenantId saleId s
  if read.sale.status ≠ .completed then
    .error (.badRequest ("Cannot void " ++ read.sale.status.text ++ " sale"))
  else return read

/-- The movement that takes a sold item back. -/
def voidMovement (tenantId saleId locationId : Id) (item : SaleItem) : StockMovement where
  movementType := .in
  quantity := item.quantity
  unitCost := item.unitCost
  totalCost := item.unitCost * item.quantity
  referenceType := .sale
  referenceId := some (.id saleId)
  transferId := none
  productId := item.productId
  locationId := locationId
  tenantId := tenantId

/-- The reversal of one item: a movement in and the balance, but no layer. -/
def voidItem (db : Database) (tenantId saleId locationId : Id) (s : Store) (item : SaleItem) :
    Store :=
  let s := createMovement db (voidMovement tenantId saleId locationId item) s
  { s with
    balances := s.balances.modifyWhere
      (fun k b => k = (item.productId, locationId) ∧ b.tenantId = tenantId)
      fun b => { b with onHandQuantity := b.onHandQuantity + item.quantity } }

/-- The transaction of `void`. -/
def executeVoidTransaction (db : Database) (tenantId saleId : Id) (read : SaleWithItems)
    (s : Store) : Except HttpError (Unit × Store) := do
  let s ← updateSale saleId (fun sale => { sale with status := .voided }) s
  return ((), (read.items.map Prod.snd).foldl
    (voidItem db tenantId saleId read.sale.locationId) s)

def void (db : Database) (tenantId saleId : Id) (s : Store) : Except HttpError (Unit × Store) := do
  let read ← readVoid tenantId saleId s
  executeVoidTransaction db tenantId saleId read s

end SaleService

end Invetrixa
