import Invetrixa.Pos.Sale

/-!
# Refunds

`RefundService.createRefund`: money back for a completed sale, with the items taken back into
stock when they are named.

## Main definitions

- `RefundService.createRefund`
-/

namespace Invetrixa

open Rowstore MovementService SaleService

namespace RefundService

structure RefundItemDto where
  saleItemId : Id
  quantity : ℚ

structure CreateRefundDto where
  amount : ℚ
  method : PaymentMethod
  items : Option (List RefundItemDto)

/-- The refunded amount of a sale so far. -/
def totalRefunded (saleId : Id) (s : Store) : ℚ :=
  s.saleRefunds.sum fun _ r => if r.saleId = saleId then r.amount else 0

/-- What `createRefund` reads and checks before the transaction. -/
def readRefund (tenantId saleId : Id) (dto : CreateRefundDto) (s : Store) :
    Except HttpError (SaleWithItems × ℚ) := do
  let read ← findSale tenantId saleId s
  if read.sale.status ≠ .completed ∧ read.sale.status ≠ .partiallyRefunded then
    .error (.badRequest ("Cannot refund sale with status " ++ read.sale.status.text))
  else
    let maxRefundable := read.sale.paidAmount - totalRefunded saleId s - read.sale.changeAmount
    if dto.amount > maxRefundable then
      .error (.badRequest ("Refund amount exceeds maximum refundable amount: " ++
        toFixed2 maxRefundable))
    else return (read, totalRefunded saleId s)

/-- `saleRefund.create`, under the unique constraint and the foreign key. -/
def insertRefund (refund : SaleRefund) (s : Store) : Except HttpError (Id × Store) :=
  if (s.saleRefunds.rows.any fun r =>
      r.2.refundNumber = refund.refundNumber ∧ r.2.tenantId = refund.tenantId) then
    .error (uniqueViolation ["refundNumber", "tenantId"])
  else if (s.sales.find? refund.saleId).isNone then .error invalidReference
  else .ok (s.saleRefunds.next, { s with saleRefunds := s.saleRefunds.create refund })

/-- The returned items, with the sale items they refer to. -/
def findReturnedItems (saleItems : List (Id × SaleItem)) (items : List RefundItemDto) :
    Except HttpError (List (SaleItem × ℚ)) :=
  items.mapM fun refundItem =>
    match saleItems.find? fun i => i.1 = refundItem.saleItemId with
    | some saleItem => .ok (saleItem.2, refundItem.quantity)
    | none => .error (.badRequest ("Sale item " ++ toString refundItem.saleItemId ++
        " not found in this sale"))

/-- A returned item as it is received, at its original cost. -/
def returnedItem (saleItem : SaleItem) (quantity : ℤ) : BulkStockInItemDto where
  productId := saleItem.productId
  quantity := quantity
  unitCost := saleItem.unitCost
  batchId := none

/-- The receipt of returned items. -/
def returnStockIn (locationId refundId : Id) (items : List BulkStockInItemDto) :
    BulkStockInDto where
  locationId := locationId
  referenceType := some .return
  referenceId := some (.id refundId)
  items := items

/-- `stockIn` of the returned items: after its checks, the movements' `Int` column refuses a
fractional quantity. -/
def returnItems (db : Database) (clock : Clock) (tenantId locationId refundId : Id)
    (returned : List (SaleItem × ℚ)) (client tx : Store) : Except HttpError Store := do
  validateStockIn tenantId locationId (returned.map fun r => r.1.productId) client
  let items ← returned.mapM fun r => do
    let quantity ← intColumn r.2
    return returnedItem r.1 quantity
  return (executeStockIn db clock tenantId (returnStockIn locationId refundId items) tx).2

/-- The stock return of a refund, if items are named. -/
def returnStock (db : Database) (clock : Clock) (tenantId refundId : Id) (dto : CreateRefundDto)
    (read : SaleWithItems) (client tx : Store) : Except HttpError Store :=
  if (dto.items.getD []).length > 0 then do
    let returned ← findReturnedItems read.items (dto.items.getD [])
    returnItems db clock tenantId read.sale.locationId refundId returned client tx
  else .ok tx

/-- The transaction of `createRefund`. -/
def executeRefund (db : Database) (clock : Clock) (tenantId saleId : Id) (dto : CreateRefundDto)
    (read : SaleWithItems) (totalRefunded : ℚ) (client tx : Store) :
    Except HttpError (Id × Store) := do
  let (refundId, s) ← insertRefund
    { saleId
      tenantId
      refundNumber := generateRefundNumber clock tenantId tx
      amount := db.decimal dto.amount
      method := dto.method } tx
  let s ← returnStock db clock tenantId refundId dto read client s
  let newTotalRefunded := totalRefunded + dto.amount
  let newStatus := if newTotalRefunded ≥ read.sale.paidAmount - read.sale.changeAmount then
      SaleStatus.refunded
    else SaleStatus.partiallyRefunded
  let s ← updateSale saleId (fun sale => { sale with status := newStatus }) s
  return (refundId, s)

def createRefund (db : Database) (clock : Clock) (tenantId saleId : Id) (dto : CreateRefundDto)
    (s : Store) : Except HttpError (Id × Store) := do
  let (read, totalRefunded) ← readRefund tenantId saleId dto s
  executeRefund db clock tenantId saleId dto read totalRefunded s s

end RefundService

end Invetrixa
