import Invetrixa.Library.Loops
import Invetrixa.Numbering
import Invetrixa.Stock.Movement

/-!
# Stock transfers

`TransferService`: stock leaves one location when a transfer is shipped and arrives at another
when it is received. Every method reads and checks with the plain client and then commits what
it read in a transaction; the two halves are functions of their own.

## Main definitions

- `TransferService.create`, `ship`, `receive`, `cancel`
- `TransferService.shipItem`, `receiveItem`, `cancelItem` — what the loops do for one item
-/

namespace Invetrixa

open Rowstore BalanceService ValuationService StockValidationService

def TransferStatus.text : TransferStatus → String
  | .draft => "DRAFT"
  | .inTransit => "IN_TRANSIT"
  | .completed => "COMPLETED"
  | .cancelled => "CANCELLED"

/-- `stockTransfer.update` -/
def updateTransfer (id : Id) (f : StockTransfer → StockTransfer) (s : Store) : Store :=
  { s with transfers := s.transfers.modify id f }

namespace TransferService

structure TransferItemDto where
  productId : Id
  requestedQuantity : ℤ

structure CreateTransferDto where
  fromLocationId : Id
  toLocationId : Id
  status : Option TransferStatus
  items : List TransferItemDto
  note : Option String

/-- A requested item, nothing shipped or received. -/
def newItem (item : TransferItemDto) : StockTransferItem where
  productId := item.productId
  requestedQuantity := item.requestedQuantity
  shippedQuantity := 0
  receivedQuantity := 0
  shippedUnitCost := none
  shortageReason := none

/-- `stockTransfer.create` with its nested items, under the unique constraints. -/
def insertTransfer (transferNumber : String) (tenantId : Id) (dto : CreateTransferDto)
    (hne : dto.fromLocationId ≠ dto.toLocationId) (s : Store) : Except HttpError (Id × Store) :=
  if (s.transfers.rows.any fun r =>
      r.2.transferNumber = transferNumber ∧ r.2.tenantId = tenantId) then
    .error (uniqueViolation ["transferNumber", "tenantId"])
  else if (dto.items.any fun item => ¬FitsInt item.requestedQuantity) then
    .error valueOutOfRange
  else if ¬Storable dto.note then .error textRefused
  else if hitems : ((dto.items.map newItem).map StockTransferItem.productId).Nodup then
    .ok (s.transfers.next,
      { s with
        transfers := s.transfers.create
          { transferNumber
            status := .draft
            fromLocationId := dto.fromLocationId
            toLocationId := dto.toLocationId
            tenantId
            shippedAt := none
            receivedAt := none
            cancelledAt := none
            items := dto.items.map newItem
            items_nodup := hitems
            locations_ne := hne } })
  else .error (uniqueViolation ["transferId", "productId"])

/-- The first half of `create`: the draft. -/
def createDraft (clock : Clock) (tenantId : Id) (dto : CreateTransferDto) (s : Store) :
    Except HttpError ((Id × String) × Store) :=
  if hne : dto.fromLocationId = dto.toLocationId then
    .error (.badRequest "Source and destination locations must be different")
  else do
    validateLocations s tenantId [dto.fromLocationId, dto.toLocationId]
    validateProducts s tenantId (dto.items.map TransferItemDto.productId)
    let transferNumber := generateTransferNumber clock tenantId s
    let (id, s) ← insertTransfer transferNumber tenantId dto hne s
    return ((id, transferNumber), s)

/-- `findFirst` by id and tenant. -/
def findTransfer (tenantId id : Id) (s : Store) : Except HttpError StockTransfer :=
  match s.transfers.find? id with
  | some transfer =>
    if transfer.tenantId = tenantId then .ok transfer else .error (.notFound "Transfer not found")
  | none => .error (.notFound "Transfer not found")

/-- What `ship` reads and checks. -/
def readShip (tenantId id : Id) (s : Store) : Except HttpError StockTransfer := do
  let transfer ← findTransfer tenantId id s
  if transfer.status ≠ .draft then
    .error (.conflict ("Cannot ship transfer with status " ++ transfer.status.text))
  else
    validateStockAvailability s tenantId transfer.fromLocationId
      (transfer.items.map fun item => (item.productId, item.requestedQuantity))
    return transfer

/-- The movement of a shipped item. -/
def shippedMovement (tenantId id : Id) (transfer : StockTransfer) (item : StockTransferItem)
    (unitCost : ℚ) : StockMovement where
  movementType := .out
  quantity := item.requestedQuantity
  unitCost := unitCost
  totalCost := unitCost * item.requestedQuantity
  referenceType := .transfer
  referenceId := some (.text transfer.transferNumber)
  transferId := some id
  productId := item.productId
  locationId := transfer.fromLocationId
  tenantId := tenantId

/-- The item of a product, shipped in full at a unit cost. -/
def markShipped (db : Database) (item : StockTransferItem) (unitCost : ℚ) (t : StockTransfer) :
    StockTransfer :=
  t.updateItem item.productId fun i =>
    { i with
      shippedQuantity := item.requestedQuantity
      shippedUnitCost := some (db.decimal unitCost) }

/-- One item leaves the source: the average cost before anything is consumed is stored on the
item and booked on the movement, then layers are consumed by the product's method. -/
def shipItem (db : Database) (tenantId id : Id) (transfer : StockTransfer) (s : Store)
    (item : StockTransferItem) : Store :=
  let shippedQty := item.requestedQuantity
  let unitCost := calculateWAC item.productId transfer.fromLocationId tenantId s
  let s := updateTransfer id (markShipped db item unitCost) s
  let s := createMovement db (shippedMovement tenantId id transfer item unitCost) s
  let pricingMethod := resolvePricingMethod item.productId s
  let s := (consumeLayers db item.productId transfer.fromLocationId tenantId shippedQty
    pricingMethod s).2
  updateBalance item.productId transfer.fromLocationId tenantId (-shippedQty) s

/-- A shipped item, table by table. -/
theorem shipItem_eq (db : Database) (tenantId id : Id) (transfer : StockTransfer) (s : Store)
    (item : StockTransferItem) :
    shipItem db tenantId id transfer s item =
      { s with
        transfers := (updateTransfer id (markShipped db item
          (calculateWAC item.productId transfer.fromLocationId tenantId s)) s).transfers
        movements := (createMovement db (shippedMovement tenantId id transfer item
          (calculateWAC item.productId transfer.fromLocationId tenantId s)) s).movements
        layers := (consumeLayers db item.productId transfer.fromLocationId tenantId
          item.requestedQuantity (resolvePricingMethod item.productId s) s).2.layers
        balances := (updateBalance item.productId transfer.fromLocationId tenantId
          (-item.requestedQuantity) s).balances } := by
  simp only [shipItem, consumeLayers_eq]
  rfl

/-- What the transaction of `ship` commits. -/
def commitShip (db : Database) (clock : Clock) (tenantId id : Id) (transfer : StockTransfer)
    (s : Store) : Store :=
  transfer.items.foldl (shipItem db tenantId id transfer)
    (updateTransfer id (fun t => { t with status := .inTransit, shippedAt := some clock.time }) s)

/-- The decimal columns of a shipped item: its unit cost, on itself and on its movement, and what
the movement comes to. -/
def checkCost (db : Database) (tenantId : Id) (transfer : StockTransfer) (s : Store)
    (item : StockTransferItem) : Except HttpError Unit := do
  let unitCost := calculateWAC item.productId transfer.fromLocationId tenantId s
  let _ ← db.decimalColumn 12 unitCost
  let _ ← db.decimalColumn 14 (unitCost * item.requestedQuantity)

/-- The transaction of `ship`, with the costs that the database refuses for their size. -/
def executeShip (db : Database) (clock : Clock) (tenantId id : Id) (transfer : StockTransfer)
    (s : Store) : Except HttpError Store :=
  transfer.items.foldlM
    (fun s item => do
      checkCost db tenantId transfer s item
      return shipItem db tenantId id transfer s item)
    (updateTransfer id (fun t => { t with status := .inTransit, shippedAt := some clock.time }) s)

/-- A shipment that the database takes is committed as it is. -/
theorem executeShip_ok {db : Database} {clock : Clock} {tenantId id : Id}
    {transfer : StockTransfer} {s s' : Store}
    (h : executeShip db clock tenantId id transfer s = .ok s') :
    s' = commitShip db clock tenantId id transfer s :=
  Loops.eq_foldl_of_foldlM_checked h

def ship (db : Database) (clock : Clock) (tenantId id : Id) (s : Store) :
    Except HttpError (String × Store) := do
  let transfer ← readShip tenantId id s
  let s ← executeShip db clock tenantId id transfer s
  return ("Transfer shipped successfully", s)

/-- What an accepted `ship` has read and committed. -/
theorem ship_eq_ok {db : Database} {clock : Clock} {tenantId id : Id} {s s' : Store} {r : String}
    (h : ship db clock tenantId id s = .ok (r, s')) :
    ∃ transfer, readShip tenantId id s = .ok transfer ∧
      commitShip db clock tenantId id transfer s = s' := by
  obtain ⟨transfer, hread, h⟩ := Except.bind_eq_ok_iff.mp h
  obtain ⟨s₁, hcommit, h⟩ := Except.bind_eq_ok_iff.mp h
  obtain rfl := congrArg Prod.snd (Except.ok.inj h)
  exact ⟨transfer, hread, (executeShip_ok hcommit).symm⟩

structure CreateTransferResponse where
  message : String
  transferId : Id
  transferNumber : String

/-- `create`. When the transfer is to be shipped at once and `ship` refuses, the draft stays. -/
def create (db : Database) (clock : Clock) (tenantId : Id) (dto : CreateTransferDto) (s : Store) :
    Except HttpError CreateTransferResponse × Store :=
  match createDraft clock tenantId dto s with
  | .error e => (.error e, s)
  | .ok ((id, transferNumber), s) =>
    if dto.status = some .inTransit then
      match ship db clock tenantId id s with
      | .error e => (.error e, s)
      | .ok (_, s) => (.ok ⟨"Transfer created and shipped successfully", id, transferNumber⟩, s)
    else (.ok ⟨"Transfer created successfully", id, transferNumber⟩, s)

structure ReceiveItemDto where
  productId : Id
  receivedQuantity : ℤ
  shortageReason : Option String

/-- The lookup in `itemMap`; of two entries for one product the later one counts. -/
def received (items : List ReceiveItemDto) (productId : Id) : Option ReceiveItemDto :=
  items.reverse.find? fun i => i.productId = productId

/-- The checks of one item of a received transfer. -/
def validateReceived (s : Store) (items : List ReceiveItemDto) (item : StockTransferItem) :
    Except HttpError Unit :=
  let productName := ((s.products.find? item.productId).map Product.name).getD ""
  match received items item.productId with
  | none => .error (.badRequest ("Missing received quantity for product " ++ productName))
  | some r =>
    if r.receivedQuantity > item.shippedQuantity then
      .error (.badRequest ("Cannot receive more than shipped for product " ++ productName ++
        ". Shipped: " ++ toString item.shippedQuantity ++ ", Received: " ++
        toString r.receivedQuantity))
    else
      let shortage := item.shippedQuantity - r.receivedQuantity
      if shortage > 0 ∧ r.shortageReason.getD "" = "" then
        .error (.badRequest ("Shortage reason required for product " ++ productName ++
          ". Shipped: " ++ toString item.shippedQuantity ++ ", Received: " ++
          toString r.receivedQuantity ++ ", Shortage: " ++ toString shortage))
      else .ok ()

/-- What `receive` reads and checks. -/
def readReceive (tenantId id : Id) (items : List ReceiveItemDto) (s : Store) :
    Except HttpError StockTransfer := do
  let transfer ← findTransfer tenantId id s
  if transfer.status ≠ .inTransit then
    .error (.conflict ("Cannot receive transfer with status " ++ transfer.status.text))
  else
    forM transfer.items (validateReceived s items)
    return transfer

/-- The movement of a received item. -/
def arrivedMovement (tenantId id : Id) (transfer : StockTransfer) (item : StockTransferItem)
    (receivedQty : ℤ) : StockMovement where
  movementType := .in
  quantity := receivedQty
  unitCost := item.shippedUnitCost.getD 0
  totalCost := item.shippedUnitCost.getD 0 * receivedQty
  referenceType := .transfer
  referenceId := some (.text transfer.transferNumber)
  transferId := some id
  productId := item.productId
  locationId := transfer.toLocationId
  tenantId := tenantId

/-- The item of a product, received. -/
def markReceived (item : StockTransferItem) (r : ReceiveItemDto) (t : StockTransfer) :
    StockTransfer :=
  t.updateItem item.productId fun i =>
    { i with
      receivedQuantity := r.receivedQuantity
      shortageReason := r.shortageReason <|> i.shortageReason }

/-- One item arrives at the destination, at the cost stored on it. -/
def receiveItem (db : Database) (clock : Clock) (tenantId id : Id) (items : List ReceiveItemDto)
    (transfer : StockTransfer) (s : Store) (item : StockTransferItem) : Store :=
  match received items item.productId with
  -- Every item was found by the checks on this same snapshot.
  | none => s
  | some r =>
    let receivedQty := r.receivedQuantity
    let s := updateTransfer id (markReceived item r) s
    if receivedQty > 0 then
      recordReceipt db clock (arrivedMovement tenantId id transfer item receivedQty) none s
    else s

/-- The transaction of `receive`. -/
def commitReceive (db : Database) (clock : Clock) (tenantId id : Id) (items : List ReceiveItemDto)
    (transfer : StockTransfer) (s : Store) : Store :=
  transfer.items.foldl (receiveItem db clock tenantId id items transfer)
    (updateTransfer id (fun t => { t with status := .completed, receivedAt := some clock.time }) s)

def receive (db : Database) (clock : Clock) (tenantId id : Id) (items : List ReceiveItemDto)
    (s : Store) : Except HttpError (String × Store) := do
  let transfer ← readReceive tenantId id items s
  return ("Transfer received successfully",
    commitReceive db clock tenantId id items transfer s)

/-- What `cancel` reads and checks. -/
def readCancel (tenantId id : Id) (s : Store) : Except HttpError StockTransfer := do
  let transfer ← findTransfer tenantId id s
  if transfer.status = .completed then
    .error (.conflict "Cannot cancel completed transfer")
  else if transfer.status = .cancelled then
    .error (.conflict "Transfer is already cancelled")
  else return transfer

/-- The movement that takes a shipped item back. -/
def reversalMovement (tenantId id : Id) (transfer : StockTransfer) (item : StockTransferItem) :
    StockMovement where
  movementType := .in
  quantity := item.shippedQuantity
  unitCost := item.shippedUnitCost.getD 0
  totalCost := item.shippedUnitCost.getD 0 * item.shippedQuantity
  referenceType := .adjustment
  referenceId := some (.text ("CANCEL-" ++ transfer.transferNumber))
  transferId := some id
  productId := item.productId
  locationId := transfer.fromLocationId
  tenantId := tenantId

/-- One shipped item goes back to the source. -/
def cancelItem (db : Database) (clock : Clock) (tenantId id : Id) (transfer : StockTransfer)
    (s : Store) (item : StockTransferItem) : Store :=
  if item.shippedQuantity > 0 then
    recordReceipt db clock (reversalMovement tenantId id transfer item) none s
  else s

/-- The transaction of `cancel`. -/
def commitCancel (db : Database) (clock : Clock) (tenantId id : Id) (transfer : StockTransfer)
    (s : Store) : Store :=
  let s := if transfer.status = .inTransit then
      transfer.items.foldl (cancelItem db clock tenantId id transfer) s
    else s
  updateTransfer id (fun t => { t with status := .cancelled, cancelledAt := some clock.time }) s

def cancel (db : Database) (clock : Clock) (tenantId id : Id) (s : Store) :
    Except HttpError (String × Store) := do
  let transfer ← readCancel tenantId id s
  return ("Transfer cancelled successfully", commitCancel db clock tenantId id transfer s)

end TransferService

end Invetrixa
