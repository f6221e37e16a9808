import Invetrixa.Stock.Validation
import Invetrixa.Stock.Valuation

/-!
# Stock movements

`MovementService`: receipts, issues and adjustments. Each validates against what the plain
client sees and then books its lines one after another in a transaction, its own or that of
the caller, so the functions take both stores.

## Main definitions

- `recordReceipt`, `recordIssue` — how one line is booked
- `MovementService.stockIn`, `stockOut`, `adjust`

## Main results

- `executeStockIn_eq` — the two loops of `stockIn` book line by line
-/

namespace Invetrixa

open Rowstore BalanceService ValuationService StockValidationService

/-- `stockMovement.create` -/
def createMovement (db : Database) (movement : StockMovement) (s : Store) : Store :=
  { s with
    movements := s.movements.create
      { movement with
        unitCost := db.decimal movement.unitCost
        totalCost := db.decimal movement.totalCost } }

/-- Stock comes in: the movement, a layer at its unit cost, and the balance. -/
def recordReceipt (db : Database) (clock : Clock) (movement : StockMovement)
    (batchId : Option Id) (s : Store) : Store :=
  let movementId := s.movements.next
  let s := createMovement db movement s
  let s := createLayer db clock movement.productId movement.locationId movement.tenantId
    movement.quantity movement.unitCost movementId batchId s
  updateBalance movement.productId movement.locationId movement.tenantId movement.quantity s

/-- What is issued, and under which reference. -/
structure Issue where
  productId : Id
  quantity : ℤ
  locationId : Id
  tenantId : Id
  referenceType : StockReferenceType
  referenceId : Option Reference

/-- The movement of an issue, at the average cost of what it consumed. -/
def Issue.movement (issue : Issue) (result : LayerConsumptionResult) : StockMovement where
  movementType := .out
  quantity := issue.quantity
  unitCost := if result.consumptions.length > 0 then result.totalCost / issue.quantity else 0
  totalCost := result.totalCost
  referenceType := issue.referenceType
  referenceId := issue.referenceId
  transferId := none
  productId := issue.productId
  locationId := issue.locationId
  tenantId := issue.tenantId

/-- Stock goes out: layers are consumed by the product's method, the movement carries what
they cost, the consumptions are recorded, and the balance goes down. -/
def recordIssue (db : Database) (issue : Issue) (s : Store) : (Id × ℚ) × Store :=
  let pricingMethod := resolvePricingMethod issue.productId s
  let (result, s) := consumeLayers db issue.productId issue.locationId issue.tenantId
    issue.quantity pricingMethod s
  let movementId := s.movements.next
  let s := createMovement db (issue.movement result) s
  let s := createConsumptionRecords db movementId result.consumptions s
  ((movementId, result.totalCost),
    updateBalance issue.productId issue.locationId issue.tenantId (-issue.quantity) s)

section Records

variable (db : Database) (clock : Clock) (s : Store)

/-- A receipt, table by table. -/
theorem recordReceipt_eq (m : StockMovement) (batchId : Option Id) :
    recordReceipt db clock m batchId s =
      { s with
        movements := (createMovement db m s).movements
        layers := (createLayer db clock m.productId m.locationId m.tenantId m.quantity m.unitCost
          s.movements.next batchId s).layers
        balances := (updateBalance m.productId m.locationId m.tenantId m.quantity s).balances } :=
  rfl

/-- The method under which an issue consumes. -/
abbrev Issue.method (i : Issue) (s : Store) : PricingMethod := resolvePricingMethod i.productId s

/-- What the layers of an issue cost. -/
def Issue.consumed (i : Issue) : LayerConsumptionResult :=
  (consumeLayers db i.productId i.locationId i.tenantId i.quantity (i.method s) s).1

/-- An issue, table by table. -/
theorem recordIssue_eq (i : Issue) :
    recordIssue db i s =
      ((s.movements.next, (i.consumed db s).totalCost),
        { s with
          movements := (createMovement db (i.movement (i.consumed db s)) s).movements
          layers := (consumeLayers db i.productId i.locationId i.tenantId i.quantity
            (i.method s) s).2.layers
          consumptions := (createConsumptionRecords db s.movements.next
            (i.consumed db s).consumptions s).consumptions
          balances := (updateBalance i.productId i.locationId i.tenantId (-i.quantity)
            s).balances }) := by
  simp only [recordIssue, Issue.consumed, Issue.method, consumeLayers_eq]
  rfl

end Records

namespace MovementService

structure BulkStockInItemDto where
  productId : Id
  quantity : ℤ
  unitCost : ℚ
  batchId : Option Id

structure BulkStockInDto where
  locationId : Id
  referenceType : Option StockReferenceType
  referenceId : Option Reference
  items : List BulkStockInItemDto

structure BulkStockInResponse where
  message : String
  totalItems : ℕ
  totalQuantity : ℤ
  movementIds : List Id

/-- The movement of one received item. -/
def receivedMovement (tenantId : Id) (dto : BulkStockInDto) (item : BulkStockInItemDto) :
    StockMovement where
  movementType := .in
  quantity := item.quantity
  unitCost := item.unitCost
  totalCost := item.unitCost * item.quantity
  referenceType := dto.referenceType.getD .purchase
  referenceId := dto.referenceId
  transferId := none
  productId := item.productId
  locationId := dto.locationId
  tenantId := tenantId

/-- The layer and the balance of one received item, once its movement is there. -/
def receiveItem (db : Database) (clock : Clock) (tenantId : Id) (dto : BulkStockInDto) (s : Store)
    (x : BulkStockInItemDto × Id) : Store :=
  updateBalance x.1.productId dto.locationId tenantId x.1.quantity
    (createLayer db clock x.1.productId dto.locationId tenantId x.1.quantity x.1.unitCost x.2
      x.1.batchId s)

/-- The transaction of `stockIn`: all movements first, then layers and balances. -/
def executeStockIn (db : Database) (clock : Clock) (tenantId : Id) (dto : BulkStockInDto)
    (s : Store) : BulkStockInResponse × Store :=
  let movementData := dto.items.map (receivedMovement tenantId dto)
  let movementIds := List.range' s.movements.next movementData.length
  let s := movementData.foldl (fun s data => createMovement db data s) s
  let s := (dto.items.zip movementIds).foldl (receiveItem db clock tenantId dto) s
  ({ message := "Successfully received " ++ toString dto.items.length ++ " item(s)"
     totalItems := dto.items.length
     totalQuantity := (dto.items.map BulkStockInItemDto.quantity).sum
     movementIds }, s)

/-- The checks of `stockIn`. -/
def validateStockIn (tenantId locationId : Id) (productIds : List Id) (client : Store) :
    Except HttpError Unit := do
  validateProducts client tenantId productIds
  let _ ← validateLocation client tenantId locationId

/-- What the columns take of a receipt: the quantity and the costs of each item, and what is on hand
after it, which is more than at any moment before. -/
def BulkStockInDto.Fits (db : Database) (dto : BulkStockInDto) (s : Store) : Prop :=
  ∀ item ∈ dto.items, FitsInt item.quantity ∧ db.Fits 12 item.unitCost ∧
    db.Fits 14 (item.unitCost * item.quantity) ∧ FitsInt (s.onHand item.productId dto.locationId)

instance (db : Database) (dto : BulkStockInDto) : DecidablePred (dto.Fits db) :=
  fun _ => inferInstanceAs (Decidable (∀ item ∈ dto.items, _))

def stockIn (db : Database) (clock : Clock) (tenantId : Id) (dto : BulkStockInDto)
    (s : Store) : Except HttpError (BulkStockInResponse × Store) := do
  validateStockIn tenantId dto.locationId (dto.items.map BulkStockInItemDto.productId) s
  let result := executeStockIn db clock tenantId dto s
  if dto.Fits db result.2 then return result else .error valueOutOfRange

/-- An accepted receipt has passed its checks, and is booked. -/
theorem stockIn_ok {db : Database} {clock : Clock} {tenantId : Id} {dto : BulkStockInDto}
    {s s' : Store} {r : BulkStockInResponse} (h : stockIn db clock tenantId dto s = .ok (r, s')) :
    validateStockIn tenantId dto.locationId (dto.items.map BulkStockInItemDto.productId) s =
      .ok () ∧ (executeStockIn db clock tenantId dto s).2 = s' := by
  obtain ⟨_, hvalid, h⟩ := Except.bind_eq_ok_iff.mp h
  dsimp only at h
  split at h
  · exact ⟨hvalid, congrArg Prod.snd (Except.ok.inj h)⟩
  · cases h

structure BulkStockOutDto where
  locationId : Id
  referenceType : Option StockReferenceType
  referenceId : Option Reference
  items : List (Id × ℤ)

structure BulkStockOutResponse where
  message : String
  totalItems : ℕ
  totalQuantity : ℤ
  totalCost : ℚ
  movementIds : List Id

/-- The issue of one released item. -/
def releasedIssue (tenantId : Id) (dto : BulkStockOutDto) (item : Id × ℤ) : Issue where
  productId := item.1
  quantity := item.2
  locationId := dto.locationId
  tenantId := tenantId
  referenceType := dto.referenceType.getD .sale
  referenceId := dto.referenceId

def releaseItem (db : Database) (tenantId : Id) (dto : BulkStockOutDto)
    (x : BulkStockOutResponse × Store) (item : Id × ℤ) : BulkStockOutResponse × Store :=
  let (issued, s) := recordIssue db (releasedIssue tenantId dto item) x.2
  ({ x.1 with
     totalQuantity := x.1.totalQuantity + item.2
     totalCost := x.1.totalCost + issued.2
     movementIds := x.1.movementIds ++ [issued.1] }, s)

/-- The transaction of `stockOut`. -/
def executeStockOut (db : Database) (tenantId : Id) (dto : BulkStockOutDto) (s : Store) :
    BulkStockOutResponse × Store :=
  dto.items.foldl (releaseItem db tenantId dto)
    ({ message := "Successfully released " ++ toString dto.items.length ++ " item(s)"
       totalItems := dto.items.length
       totalQuantity := 0
       totalCost := 0
       movementIds := [] }, s)

/-- The checks of `stockOut`. -/
def validateStockOut (tenantId : Id) (dto : BulkStockOutDto) (client : Store) :
    Except HttpError Unit := do
  validateProducts client tenantId (dto.items.map Prod.fst)
  let _ ← validateLocation client tenantId dto.locationId
  validateStockAvailability client tenantId dto.locationId dto.items

def stockOut (db : Database) (tenantId : Id) (dto : BulkStockOutDto) (client tx : Store) :
    Except HttpError (BulkStockOutResponse × Store) := do
  validateStockOut tenantId dto client
  return executeStockOut db tenantId dto tx

structure BulkStockAdjustItemDto where
  productId : Id
  quantity : ℤ
  unitCost : Option ℚ

structure BulkStockAdjustDto where
  locationId : Id
  items : List BulkStockAdjustItemDto

structure BulkStockAdjustResponse where
  message : String
  totalItems : ℕ
  positiveAdjustments : ℕ
  negativeAdjustments : ℕ
  movementIds : List Id

/-- The movement of a positive adjustment. -/
def foundMovement (tenantId locationId : Id) (item : BulkStockAdjustItemDto) : StockMovement where
  movementType := .in
  quantity := |item.quantity|
  unitCost := item.unitCost.getD 0
  totalCost := item.unitCost.getD 0 * |item.quantity|
  referenceType := .adjustment
  referenceId := none
  transferId := none
  productId := item.productId
  locationId := locationId
  tenantId := tenantId

/-- The issue of a negative adjustment. -/
def lostIssue (tenantId locationId : Id) (item : BulkStockAdjustItemDto) : Issue where
  productId := item.productId
  quantity := |item.quantity|
  locationId := locationId
  tenantId := tenantId
  referenceType := .adjustment
  referenceId := none

def adjustItem (db : Database) (clock : Clock) (tenantId locationId : Id)
    (x : BulkStockAdjustResponse × Store) (item : BulkStockAdjustItemDto) :
    BulkStockAdjustResponse × Store :=
  if 0 < item.quantity then
    ({ x.1 with
       positiveAdjustments := x.1.positiveAdjustments + 1
       movementIds := x.1.movementIds ++ [x.2.movements.next] },
     recordReceipt db clock (foundMovement tenantId locationId item) none x.2)
  else
    let (issued, s) := recordIssue db (lostIssue tenantId locationId item) x.2
    ({ x.1 with
       negativeAdjustments := x.1.negativeAdjustments + 1
       movementIds := x.1.movementIds ++ [issued.1] }, s)

/-- The transaction of `adjust`. -/
def executeAdjust (db : Database) (clock : Clock) (tenantId : Id) (dto : BulkStockAdjustDto)
    (s : Store) : BulkStockAdjustResponse × Store :=
  dto.items.foldl (adjustItem db clock tenantId dto.locationId)
    ({ message := "Successfully adjusted " ++ toString dto.items.length ++ " item(s)"
       totalItems := dto.items.length
       positiveAdjustments := 0
       negativeAdjustments := 0
       movementIds := [] }, s)

/-- The lines of an adjustment that take stock out, with what they take. -/
def negativeItems (dto : BulkStockAdjustDto) : List (Id × ℤ) :=
  (dto.items.filter fun item => item.quantity < 0).map fun item =>
    (item.productId, |item.quantity|)

/-- The checks of `adjust`. -/
def validateAdjust (tenantId : Id) (dto : BulkStockAdjustDto) (client : Store) :
    Except HttpError Unit := do
  validateProducts client tenantId (dto.items.map BulkStockAdjustItemDto.productId)
  let _ ← validateLocation client tenantId dto.locationId
  if (negativeItems dto).length > 0 then
    validateStockAvailability client tenantId dto.locationId (negativeItems dto)
  else return ()

def adjust (db : Database) (clock : Clock) (tenantId : Id) (dto : BulkStockAdjustDto)
    (s : Store) : Except HttpError (BulkStockAdjustResponse × Store) := do
  validateAdjust tenantId dto s
  return executeAdjust db clock tenantId dto s

end MovementService

open MovementService

section Execution

variable {db : Database} {clock : Clock} {tenantId : Id}

/-- Later movements do not disturb the layer and balance of a received item. -/
theorem receiveItem_foldl_createMovement (dto : BulkStockInDto) (ms : List StockMovement)
    (s : Store) (x : BulkStockInItemDto × Id) :
    receiveItem db clock tenantId dto (ms.foldl (fun s m => createMovement db m s) s) x =
      ms.foldl (fun s m => createMovement db m s) (receiveItem db clock tenantId dto s x) := by
  induction ms generalizing s with
  | nil => rfl
  | cons m rest ih => exact ih (createMovement db m s)

/-- Creating all movements first and the layers and balances after comes to the same as booking
one receipt after another. -/
theorem foldl_receiveItem (dto : BulkStockInDto) (items : List BulkStockInItemDto) (s : Store) :
    (items.zip (List.range' s.movements.next items.length)).foldl
        (receiveItem db clock tenantId dto)
        ((items.map (receivedMovement tenantId dto)).foldl (fun s m => createMovement db m s) s) =
      items.foldl (fun s item =>
        recordReceipt db clock (receivedMovement tenantId dto item) item.batchId s) s := by
  induction items generalizing s with
  | nil => rfl
  | cons item rest ih =>
    rw [List.length_cons, List.range'_succ, List.zip_cons_cons, List.map_cons, List.foldl_cons,
      List.foldl_cons, List.foldl_cons, receiveItem_foldl_createMovement]
    exact ih (recordReceipt db clock (receivedMovement tenantId dto item) item.batchId s)

theorem executeStockIn_eq (dto : BulkStockInDto) (s : Store) :
    (executeStockIn db clock tenantId dto s).2 = dto.items.foldl (fun s item =>
      recordReceipt db clock (receivedMovement tenantId dto item) item.batchId s) s := by
  unfold executeStockIn
  dsimp only
  rw [List.length_map, foldl_receiveItem]

/-- A loop that keeps a result beside the store changes the store as its steps do. -/
theorem foldl_store {α β σ : Type*} {f : α × σ → β → α × σ} {g : σ → β → σ}
    (hstep : ∀ x b, (f x b).2 = g x.2 b) (l : List β) (x : α × σ) :
    (l.foldl f x).2 = l.foldl g x.2 := by
  induction l generalizing x with
  | nil => rfl
  | cons b rest ih => rw [List.foldl_cons, List.foldl_cons, ih, hstep]

theorem executeStockOut_eq (dto : BulkStockOutDto) (s : Store) :
    (executeStockOut db tenantId dto s).2 = dto.items.foldl (fun s item =>
      (recordIssue db (releasedIssue tenantId dto item) s).2) s := by
  rw [executeStockOut]
  exact foldl_store (fun x item => by simp only [releaseItem]) _ _

/-- One line of an adjustment, as it books on the store. -/
def adjustLine (db : Database) (clock : Clock) (tenantId locationId : Id) (s : Store)
    (item : BulkStockAdjustItemDto) : Store :=
  if 0 < item.quantity then
    recordReceipt db clock (foundMovement tenantId locationId item) none s
  else (recordIssue db (lostIssue tenantId locationId item) s).2

theorem executeAdjust_eq (dto : BulkStockAdjustDto) (s : Store) :
    (executeAdjust db clock tenantId dto s).2 =
      dto.items.foldl (adjustLine db clock tenantId dto.locationId) s := by
  rw [executeAdjust]
  refine foldl_store (fun x item => ?_) _ _
  by_cases hpos : 0 < item.quantity <;> simp only [adjustItem, adjustLine, hpos, if_true, if_false]

end Execution

end Invetrixa
