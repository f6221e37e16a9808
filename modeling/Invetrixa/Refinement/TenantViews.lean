import Invetrixa.Library.Agreement
import Invetrixa.Refinement.SaleSteps

/-!
# What requests see of other tenants

Two stores that hold the same but for the rows of one tenant. A request of any other tenant is
answered alike on both, and leaves them alike; it has to be handed the same ids in both.

## Main definitions

- `Alike` — the same store but for the rows of a tenant
- `Store.ids` — the ids that are handed out next
- `Twin` — alike, with the same ids to hand out

## Main results

- `Alike.validateStockAvailability`, `Alike.chargedCost` — what others read is the same
- `Twin.recordReceipt`, `Twin.recordIssue`, `Twin.createSale` — what others write keeps the stores
  alike
-/

namespace Invetrixa

open Rowstore Requests BalanceService ValuationService StockValidationService MovementService
  TransferService ReservationService SaleService CartService RefundService CartCleanupService

/-- The sale is there, and not of the tenant. -/
def Store.seesSale (s : Store) (B saleId : Id) : Bool :=
  (s.sales.find? saleId).any fun sale => sale.tenantId ≠ B

/-- What others may learn of a session of the tenant: not how it was reconciled. -/
def maskSession (B : Id) (session : POSSession) : POSSession :=
  if session.tenantId = B then
    { session with closingBalance := none, expectedBalance := none, variance := none }
  else session

/-- The sessions, masked. -/
def Store.maskedSessions (s : Store) (B : Id) : List (Id × POSSession) :=
  s.sessions.rows.map fun r => (r.1, maskSession B r.2)

/-- The same store but for the rows of tenant `B`. Movements and consumptions are not read by any
request and do not count. -/
structure Alike (B : Id) (s s' : Store) : Prop where
  tenants : s.tenants = s'.tenants
  products : s.products = s'.products
  locations : s.locations = s'.locations
  terminals : s.terminals = s'.terminals
  customers : s.customers = s'.customers
  sessions : s.maskedSessions B = s'.maskedSessions B
  balances : ∀ p l, s.tenantOf p ≠ some B → s.balances.find? (p, l) = s'.balances.find? (p, l)
  layers : Table.AgreeOn (fun l => l.tenantId ≠ B) s.layers.toTable s'.layers.toTable
  transfers : Table.AgreeOn (fun t => t.tenantId ≠ B) s.transfers.toTable s'.transfers.toTable
  reservations :
    Table.AgreeOn (fun r => r.tenantId ≠ B) s.reservations.toTable s'.reservations.toTable
  sales : Table.AgreeOn (fun sale => sale.tenantId ≠ B) s.sales.toTable s'.sales.toTable
  saleItems :
    Table.AgreeOn (fun i => s.seesSale B i.saleId) s.saleItems.toTable s'.saleItems.toTable
  salePayments :
    Table.AgreeOn (fun p => s.seesSale B p.saleId) s.salePayments.toTable s'.salePayments.toTable
  saleRefunds : Table.AgreeOn (fun r => r.tenantId ≠ B) s.saleRefunds.toTable s'.saleRefunds.toTable

/-- The ids that the tables hand out next. -/
@[ext]
structure Ids where
  sessions : ℕ
  layers : ℕ
  consumptions : ℕ
  movements : ℕ
  transfers : ℕ
  reservations : ℕ
  sales : ℕ
  saleItems : ℕ
  salePayments : ℕ
  saleRefunds : ℕ
  deriving DecidableEq

def Store.ids (s : Store) : Ids where
  sessions := s.sessions.next
  layers := s.layers.next
  consumptions := s.consumptions.next
  movements := s.movements.next
  transfers := s.transfers.next
  reservations := s.reservations.next
  sales := s.sales.next
  saleItems := s.saleItems.next
  salePayments := s.salePayments.next
  saleRefunds := s.saleRefunds.next

/-- Alike, with the same ids to hand out. -/
structure Twin (B : Id) (s s' : Store) : Prop extends Alike B s s' where
  ids : s.ids = s'.ids

variable {db : Database} {clock : Clock} {B t : Id} {s s' s'' : Store}

section Laws

/-- A row of another tenant is seen. -/
theorem seen_of_eq {x : Id} (hx : x = t) (ht : t ≠ B) : decide (x ≠ B) = true :=
  decide_eq_true (hx ▸ ht)

/-- A row of the tenant is not. -/
theorem hidden_of_eq {x : Id} (hx : x = B) : decide (x ≠ B) = false :=
  decide_eq_false (not_not.mpr hx)

theorem Alike.seesSale (h : Alike B s s') : s.seesSale B = s'.seesSale B := by
  funext saleId
  exact h.sales.any_find? fun _ hsale => hsale

theorem Alike.tenantOf (h : Alike B s s') : s.tenantOf = s'.tenantOf := by
  funext p
  rw [Store.tenantOf, Store.tenantOf, h.products]

theorem Alike.refl (B : Id) (s : Store) : Alike B s s where
  tenants := rfl
  products := rfl
  locations := rfl
  terminals := rfl
  customers := rfl
  sessions := rfl
  balances _ _ _ := rfl
  layers := .refl _ _
  transfers := .refl _ _
  reservations := .refl _ _
  sales := .refl _ _
  saleItems := .refl _ _
  salePayments := .refl _ _
  saleRefunds := .refl _ _

theorem Alike.symm (h : Alike B s s') : Alike B s' s where
  tenants := h.tenants.symm
  products := h.products.symm
  locations := h.locations.symm
  terminals := h.terminals.symm
  customers := h.customers.symm
  sessions := h.sessions.symm
  balances p l hp := (h.balances p l (h.tenantOf ▸ hp)).symm
  layers := h.layers.symm
  transfers := h.transfers.symm
  reservations := h.reservations.symm
  sales := h.sales.symm
  saleItems := h.seesSale ▸ h.saleItems.symm
  salePayments := h.seesSale ▸ h.salePayments.symm
  saleRefunds := h.saleRefunds.symm

theorem Alike.trans (h : Alike B s s') (h' : Alike B s' s'') : Alike B s s'' where
  tenants := h.tenants.trans h'.tenants
  products := h.products.trans h'.products
  locations := h.locations.trans h'.locations
  terminals := h.terminals.trans h'.terminals
  customers := h.customers.trans h'.customers
  sessions := h.sessions.trans h'.sessions
  balances p l hp := (h.balances p l hp).trans (h'.balances p l (h.tenantOf ▸ hp))
  layers := h.layers.trans h'.layers
  transfers := h.transfers.trans h'.transfers
  reservations := h.reservations.trans h'.reservations
  sales := h.sales.trans h'.sales
  saleItems := h.saleItems.trans (h.seesSale ▸ h'.saleItems)
  salePayments := h.salePayments.trans (h.seesSale ▸ h'.salePayments)
  saleRefunds := h.saleRefunds.trans h'.saleRefunds

end Laws

section Reads

variable {p l : Id}

theorem Alike.tenantBalance (h : Alike B s s') (hs : WellFormed s) (hs' : WellFormed s')
    (ht : t ≠ B) (p l : Id) : s.tenantBalance t p l = s'.tenantBalance t p l := by
  by_cases hp : s.tenantOf p = some B
  · -- The rows of a product of the tenant are the tenant's.
    have hnone {s : Store} (hs : WellFormed s) (hp : s.tenantOf p = some B) :
        s.tenantBalance t p l = none := by
      refine Option.filter_eq_none_iff.mpr fun b hb htenant => ht ?_
      have howner : s.tenantOf p = some b.tenantId := hs.balances _ _ hb
      rw [hp] at howner
      rw [← of_decide_eq_true htenant]
      exact (Option.some.inj howner).symm
    rw [hnone hs hp, hnone hs' (h.tenantOf ▸ hp)]
  · rw [Store.tenantBalance, Store.tenantBalance, h.balances p l hp]

theorem Alike.available (h : Alike B s s') (hs : WellFormed s) (hs' : WellFormed s')
    (ht : t ≠ B) (p l : Id) : s.available t p l = s'.available t p l := by
  rw [Store.available, Store.available, h.tenantBalance hs hs' ht]

theorem Alike.onHand (h : Alike B s s') (hp : s.tenantOf p ≠ some B) :
    s.onHand p l = s'.onHand p l := by
  rw [Store.onHand, Store.onHand, h.balances p l hp]

theorem Alike.reserved (h : Alike B s s') (hp : s.tenantOf p ≠ some B) :
    s.reserved p l = s'.reserved p l := by
  rw [Store.reserved, Store.reserved, h.balances p l hp]

theorem Alike.availableLayers (h : Alike B s s') (ht : t ≠ B) (p l : Id) :
    availableLayers p l t s = availableLayers p l t s' := by
  refine h.layers.filter fun r hr => ?_
  obtain ⟨_, _, htenant, _⟩ := of_decide_eq_true hr
  exact seen_of_eq htenant ht

theorem Alike.calculateWAC (h : Alike B s s') (ht : t ≠ B) (p l : Id) :
    calculateWAC p l t s = calculateWAC p l t s' := by
  rw [ValuationService.calculateWAC, ValuationService.calculateWAC, h.availableLayers ht]

theorem Alike.resolvePricingMethod (h : Alike B s s') (p : Id) :
    resolvePricingMethod p s = resolvePricingMethod p s' := by
  rw [ValuationService.resolvePricingMethod, ValuationService.resolvePricingMethod, h.products,
    h.tenants]

theorem Alike.validateProducts (h : Alike B s s') (ids : List Id) :
    validateProducts s t ids = validateProducts s' t ids := by
  rw [StockValidationService.validateProducts, StockValidationService.validateProducts,
    liveProducts, liveProducts, h.products]

theorem Alike.validateLocation (h : Alike B s s') (l : Id) :
    StockValidationService.validateLocation s t l =
      StockValidationService.validateLocation s' t l := by
  rw [StockValidationService.validateLocation, StockValidationService.validateLocation, h.locations]

theorem Alike.validateLocations (h : Alike B s s') (ids : List Id) :
    validateLocations s t ids = validateLocations s' t ids := by
  rw [StockValidationService.validateLocations, StockValidationService.validateLocations]
  simp only [h.validateLocation]

theorem Alike.validateStockAvailability (h : Alike B s s') (hs : WellFormed s)
    (hs' : WellFormed s') (ht : t ≠ B) (l : Id) (items : List (Id × ℤ)) :
    StockValidationService.validateStockAvailability s t l items =
      StockValidationService.validateStockAvailability s' t l items := by
  have hitem : StockValidationService.validateItem s t l =
      StockValidationService.validateItem s' t l := by
    funext item
    rw [StockValidationService.validateItem, StockValidationService.validateItem,
      h.tenantBalance hs hs' ht, h.products]
  rw [StockValidationService.validateStockAvailability, hitem]
  rfl

end Reads

section Stock

variable {p l : Id}

/-- A request answers alike and leaves the stores alike; what it answers does not matter. -/
abbrev Served (B : Id) {α : Type} (x y : α × Store) : Prop := Twin B x.2 y.2

theorem Twin.createMovement (h : Twin B s s') (db : Database) (m : StockMovement) :
    Twin B (createMovement db m s) (createMovement db m s') :=
  { h with ids := congrArg (fun ids : Ids => { ids with movements := ids.movements + 1 }) h.ids }

theorem Twin.createLayer (h : Twin B s s') (p l t : Id) (q : ℤ) (cost : ℚ) (movementId : Id)
    (batchId : Option Id) :
    Twin B (createLayer db clock p l t q cost movementId batchId s)
      (createLayer db clock p l t q cost movementId batchId s') :=
  { h with
    layers := Serial.agreeOn_create_both h.layers (congrArg Ids.layers h.ids) _
    ids := congrArg (fun ids : Ids => { ids with layers := ids.layers + 1 }) h.ids }

theorem Twin.updateBalance (h : Twin B s s') (p' l' t : Id) (q : ℤ) :
    Twin B (updateBalance p' l' t q s) (updateBalance p' l' t q s') :=
  { h with
    balances := by
      intro p l hp
      rw [find?_updateBalance, find?_updateBalance]
      by_cases hk : (p, l) = (p', l')
      · obtain ⟨rfl, rfl⟩ := Prod.mk.inj hk
        rw [if_pos rfl, if_pos rfl, h.balances p l hp]
      · rw [if_neg hk, if_neg hk]
        exact h.balances p l hp
    ids := h.ids }

theorem Twin.recordReceipt (h : Twin B s s') (m : StockMovement) (batchId : Option Id) :
    Twin B (recordReceipt db clock m batchId s) (recordReceipt db clock m batchId s') := by
  have hnext : s.movements.next = s'.movements.next := congrArg Ids.movements h.ids
  unfold Invetrixa.recordReceipt
  dsimp only
  rw [hnext]
  exact ((h.createMovement db m).createLayer _ _ _ _ _ _ _).updateBalance _ _ _ _

theorem agreeOn_drain {visible : ValuationLayer → Bool} {layers layers' : Serial ValuationLayer}
    (hvisible : ∀ (layer : ValuationLayer) (q : ℤ),
      visible { layer with remainingQty := q } = visible layer)
    (h : Table.AgreeOn visible layers.toTable layers'.toTable)
    (ds : List ((Id × ValuationLayer) × ℤ)) :
    Table.AgreeOn visible (drain layers ds).toTable (drain layers' ds).toTable := by
  rw [drain]
  induction ds generalizing layers layers' with
  | nil => exact h
  | cons d rest ih =>
    refine ih (h.modify (k := d.1.1) fun layer => ?_)
    exact hvisible layer _

/-- A draw hands out no ids. -/
theorem ids_drain (s : Store) (ds : List ((Id × ValuationLayer) × ℤ)) :
    ({ s with layers := drain s.layers ds } : Store).ids = s.ids := by
  have hnext (layers : Serial ValuationLayer) : (drain layers ds).next = layers.next := by
    rw [drain]
    induction ds generalizing layers with
    | nil => rfl
    | cons d rest ih => exact ih _
  simp only [Store.ids, hnext]

theorem Alike.consumableLayers (h : Alike B s s') (ht : t ≠ B) (p l : Id)
    (method : PricingMethod) :
    consumableLayers db p l t method s = consumableLayers db p l t method s' := by
  rw [ValuationService.consumableLayers, ValuationService.consumableLayers, h.availableLayers ht]

theorem Alike.chargedCost (h : Alike B s s') (ht : t ≠ B) (p l : Id) (method : PricingMethod) :
    chargedCost p l t method s = chargedCost p l t method s' := by
  funext layer
  simp only [ValuationService.chargedCost]
  rw [h.calculateWAC ht]

theorem Twin.consumeLayers (h : Twin B s s') (db : Database) (ht : t ≠ B) (p l : Id) (q : ℤ)
    (method : PricingMethod) :
    Alongside (Twin B) (consumeLayers db p l t q method s)
      (consumeLayers db p l t q method s') := by
  rw [consumeLayers_eq, consumeLayers_eq, h.consumableLayers ht, h.chargedCost ht]
  refine ⟨rfl, ?_⟩
  exact
    { h with
      layers := agreeOn_drain (fun _ _ => rfl) h.layers _
      ids := (ids_drain s _).trans (h.ids.trans (ids_drain s' _).symm) }

theorem ids_createConsumptionRecords (movementId : Id) (cs : List LayerConsumption) (s : Store) :
    (createConsumptionRecords db movementId cs s).ids =
      { s.ids with consumptions := s.ids.consumptions + cs.length } := by
  simp only [Store.ids, createConsumptionRecords, Serial.next_foldl_create_map]

theorem Twin.createConsumptionRecords (h : Twin B s s') (movementId : Id)
    (cs : List LayerConsumption) :
    Twin B (createConsumptionRecords db movementId cs s)
      (createConsumptionRecords db movementId cs s') :=
  { h with
    ids := by rw [ids_createConsumptionRecords, ids_createConsumptionRecords, h.ids] }

theorem Twin.recordIssue (h : Twin B s s') {i : Issue} (hi : i.tenantId ≠ B) :
    Twin B (recordIssue db i s).2 (recordIssue db i s').2 := by
  have hnext : s.movements.next = s'.movements.next := congrArg Ids.movements h.ids
  have hconsume := h.consumeLayers db hi i.productId i.locationId i.quantity
    (resolvePricingMethod i.productId s)
  rw [Invetrixa.recordIssue, Invetrixa.recordIssue]
  dsimp only
  rw [← h.resolvePricingMethod]
  generalize ValuationService.consumeLayers db i.productId i.locationId i.tenantId i.quantity
    (resolvePricingMethod i.productId s) s = x at hconsume ⊢
  generalize ValuationService.consumeLayers db i.productId i.locationId i.tenantId i.quantity
    (resolvePricingMethod i.productId s) s' = y at hconsume ⊢
  obtain ⟨result, s₁⟩ := x
  obtain ⟨result', s₁'⟩ := y
  obtain ⟨rfl, h₁⟩ := hconsume
  have hnext₁ : s₁.movements.next = s₁'.movements.next := congrArg Ids.movements h₁.ids
  dsimp only
  rw [hnext₁]
  exact ((h₁.createMovement db _).createConsumptionRecords _ _).updateBalance _ _ _ _

end Stock

section Movements

variable {client client' : Store}

theorem Twin.executeStockIn (h : Twin B s s') (dto : BulkStockInDto) :
    Twin B (executeStockIn db clock t dto s).2 (executeStockIn db clock t dto s').2 := by
  rw [executeStockIn_eq, executeStockIn_eq]
  exact foldl_rel h fun item _ _ _ h => h.recordReceipt _ _

theorem Twin.executeStockOut (h : Twin B s s') (ht : t ≠ B) (dto : BulkStockOutDto) :
    Twin B (executeStockOut db t dto s).2 (executeStockOut db t dto s').2 := by
  rw [executeStockOut_eq, executeStockOut_eq]
  exact foldl_rel h fun item _ _ _ h => h.recordIssue ht

theorem Twin.executeAdjust (h : Twin B s s') (ht : t ≠ B) (dto : BulkStockAdjustDto) :
    Twin B (executeAdjust db clock t dto s).2 (executeAdjust db clock t dto s').2 := by
  rw [executeAdjust_eq, executeAdjust_eq]
  refine foldl_rel h fun item _ s s' h => ?_
  rw [adjustLine, adjustLine]
  split
  · exact h.recordReceipt _ _
  · exact h.recordIssue ht

theorem Alike.validateStockIn (h : Alike B s s') (l : Id) (ids : List Id) :
    validateStockIn t l ids s = validateStockIn t l ids s' := by
  rw [MovementService.validateStockIn, MovementService.validateStockIn, h.validateProducts,
    h.validateLocation]

theorem Twin.stockIn (h : Twin B s s') (ht : t ≠ B) (dto : BulkStockInDto) :
    Except.Rel (Served B) (stockIn db clock t dto s) (stockIn db clock t dto s') := by
  refine Except.Rel.bind_eq (h.validateStockIn _ _) fun _ hvalid => ?_
  have hbooked : Twin B (MovementService.executeStockIn db clock t dto s).2
      (MovementService.executeStockIn db clock t dto s').2 := h.executeStockIn dto
  refine Except.Rel.ite_iff (forall₂_congr fun item hitem => ?_) (fun _ => hbooked) fun _ => rfl
  -- The products that pass the checks are not the tenant's, and show what is on hand of them.
  have htenant : s.tenantOf item.productId = some t :=
    validateStockIn_ok hvalid _ (List.mem_map_of_mem hitem)
  rw [hbooked.onHand]
  rw [tenantOf_executeStockIn, htenant]
  intro heq
  exact ht (Option.some.inj heq)

theorem Twin.stockOut (h : Twin B s s') (db : Database) (ht : t ≠ B) (dto : BulkStockOutDto)
    (hclient : Alike B client client') (hc : WellFormed client) (hc' : WellFormed client') :
    Except.Rel (Served B) (stockOut db t dto client s) (stockOut db t dto client' s') := by
  refine Except.Rel.bind_eq ?_ fun _ _ => h.executeStockOut ht dto
  rw [MovementService.validateStockOut, MovementService.validateStockOut]
  rw [hclient.validateProducts, hclient.validateLocation,
    hclient.validateStockAvailability hc hc' ht]

theorem Twin.adjust (h : Twin B s s') (ht : t ≠ B) (hs : WellFormed s) (hs' : WellFormed s')
    (dto : BulkStockAdjustDto) :
    Except.Rel (Served B) (adjust db clock t dto s) (adjust db clock t dto s') := by
  refine Except.Rel.bind_eq ?_ fun _ _ => h.executeAdjust ht dto
  rw [MovementService.validateAdjust, MovementService.validateAdjust, h.validateProducts,
    h.validateLocation, h.validateStockAvailability hs hs' ht]

end Movements

section Transfers

/-- A row that is refused is as good as one that is not there. -/
theorem elim_filter {ρ α : Type} (o : Option ρ) (c : ρ → Prop) [DecidablePred c] (e : HttpError)
    (f : ρ → α) :
    ((o.filter fun r => c r).elim (.error e) fun r => .ok (f r)) =
      o.elim (.error e) fun r => if c r then Except.ok (f r) else .error e := by
  cases o with
  | none => rfl
  | some r =>
    rw [Option.filter_some]
    by_cases hc : c r
    · rw [if_pos (decide_eq_true hc)]
      exact (if_pos hc).symm
    · rw [if_neg (mt of_decide_eq_true hc)]
      exact (if_neg hc).symm

theorem findTransfer_eq (t id : Id) (s : Store) :
    findTransfer t id s =
      ((s.transfers.find? id).filter fun transfer => transfer.tenantId = t).elim
        (.error (.notFound "Transfer not found")) .ok := by
  rw [elim_filter, TransferService.findTransfer]
  cases s.transfers.find? id <;> rfl

theorem Alike.findTransfer (h : Alike B s s') (ht : t ≠ B) (id : Id) :
    findTransfer t id s = findTransfer t id s' := by
  have hfind : (s.transfers.find? id).filter (fun transfer => transfer.tenantId = t) =
      (s'.transfers.find? id).filter fun transfer => transfer.tenantId = t :=
    h.transfers.filter_find? fun transfer htransfer => seen_of_eq (of_decide_eq_true htransfer) ht
  rw [findTransfer_eq, findTransfer_eq, hfind]

theorem Twin.updateTransfer (h : Twin B s s') (id : Id) {f : StockTransfer → StockTransfer}
    (hf : ∀ transfer, (f transfer).tenantId = transfer.tenantId) :
    Twin B (updateTransfer id f s) (updateTransfer id f s') :=
  { h with
    transfers := h.transfers.modify fun transfer => by rw [hf]
    ids := h.ids }

theorem Twin.shipItem (h : Twin B s s') (ht : t ≠ B) (id : Id) (transfer : StockTransfer)
    (item : StockTransferItem) :
    Twin B (shipItem db t id transfer s item) (shipItem db t id transfer s' item) := by
  unfold TransferService.shipItem
  dsimp only
  rw [h.calculateWAC ht]
  set unitCost := calculateWAC item.productId transfer.fromLocationId t s'
  have h₁ := (h.updateTransfer id (f := markShipped db item unitCost) fun _ => rfl).createMovement
    db (shippedMovement t id transfer item unitCost)
  rw [h₁.resolvePricingMethod]
  exact (h₁.consumeLayers db ht _ _ _ _).2.updateBalance _ _ _ _

theorem Twin.executeShip (h : Twin B s s') (ht : t ≠ B) (id : Id) (transfer : StockTransfer) :
    Except.Rel (Twin B) (executeShip db clock t id transfer s)
      (executeShip db clock t id transfer s') := by
  refine foldlM_rel (h.updateTransfer id fun _ => rfl) fun item s s' h => ?_
  refine Except.Rel.bind_eq ?_ fun _ _ => h.shipItem ht id transfer item
  rw [TransferService.checkCost, TransferService.checkCost, h.calculateWAC ht]

theorem Twin.ship (h : Twin B s s') (db : Database) (clock : Clock) (ht : t ≠ B)
    (hs : WellFormed s) (hs' : WellFormed s') (id : Id) :
    Except.Rel (Served B) (ship db clock t id s) (ship db clock t id s') := by
  refine Except.Rel.bind_eq ?_ fun transfer _ =>
    (h.executeShip ht id transfer).bind fun _ _ h => h
  rw [TransferService.readShip, TransferService.readShip, h.findTransfer ht]
  simp only [h.validateStockAvailability hs hs' ht]

theorem Alike.generateTransferNumber (h : Alike B s s') (ht : t ≠ B) :
    generateTransferNumber clock t s = generateTransferNumber clock t s' := by
  rw [Invetrixa.generateTransferNumber, Invetrixa.generateTransferNumber,
    h.transfers.filter fun r hr => seen_of_eq (of_decide_eq_true hr) ht]

theorem Twin.insertTransfer (h : Twin B s s') (ht : t ≠ B) (number : String)
    (dto : CreateTransferDto) (hne : dto.fromLocationId ≠ dto.toLocationId) :
    Except.Rel (Alongside (Twin B)) (insertTransfer number t dto hne s)
      (insertTransfer number t dto hne s') := by
  have hany : (s.transfers.rows.any fun r => r.2.transferNumber = number ∧ r.2.tenantId = t) =
      s'.transfers.rows.any fun r => r.2.transferNumber = number ∧ r.2.tenantId = t := by
    refine h.transfers.any fun r hr => ?_
    exact seen_of_eq (of_decide_eq_true hr).2 ht
  have hnext : s.transfers.next = s'.transfers.next := congrArg Ids.transfers h.ids
  rw [TransferService.insertTransfer, TransferService.insertTransfer, hany]
  refine Except.Rel.ite (fun _ => rfl) fun _ => Except.Rel.ite (fun _ => rfl) fun _ => ?_
  refine Except.Rel.ite (fun _ => rfl) fun _ => ?_
  split
  · exact ⟨hnext,
      { h with
        transfers := Serial.agreeOn_create_both h.transfers hnext _
        ids := congrArg (fun ids : Ids => { ids with transfers := ids.transfers + 1 }) h.ids }⟩
  · exact rfl

theorem Twin.createDraft (h : Twin B s s') (clock : Clock) (ht : t ≠ B)
    (dto : CreateTransferDto) :
    Except.Rel (Alongside (Twin B)) (createDraft clock t dto s) (createDraft clock t dto s') := by
  rw [TransferService.createDraft, TransferService.createDraft]
  split
  · exact rfl
  · next hne =>
    refine Except.Rel.bind_eq (h.validateLocations _) fun _ _ => ?_
    refine Except.Rel.bind_eq (h.validateProducts _) fun _ _ => ?_
    dsimp only
    rw [h.generateTransferNumber ht]
    refine (h.insertTransfer ht _ dto hne).bind ?_
    rintro ⟨id, s₁⟩ ⟨id', s₁'⟩ ⟨rfl, h₁⟩
    exact ⟨rfl, h₁⟩

theorem Twin.receiveItem (h : Twin B s s') (id : Id) (items : List ReceiveItemDto)
    (transfer : StockTransfer) (item : StockTransferItem) :
    Twin B (TransferService.receiveItem db clock t id items transfer s item)
      (TransferService.receiveItem db clock t id items transfer s' item) := by
  rw [TransferService.receiveItem, TransferService.receiveItem]
  split
  · exact h
  · next r _ =>
    have h₁ := h.updateTransfer id (f := markReceived item r) fun _ => rfl
    dsimp only
    split
    · exact h₁.recordReceipt _ _
    · exact h₁

theorem Twin.receive (h : Twin B s s') (ht : t ≠ B) (id : Id) (items : List ReceiveItemDto) :
    Except.Rel (Served B) (receive db clock t id items s) (receive db clock t id items s') := by
  refine Except.Rel.bind_eq ?_ fun transfer _ => ?_
  · unfold TransferService.readReceive
    rw [h.findTransfer ht]
    have hreceived : validateReceived s items = validateReceived s' items := by
      funext item
      rw [validateReceived, validateReceived, h.products]
    rw [hreceived]
  · exact foldl_rel (h.updateTransfer id fun _ => rfl) fun item _ _ _ h =>
      h.receiveItem id items transfer item

theorem Twin.cancel (h : Twin B s s') (ht : t ≠ B) (id : Id) :
    Except.Rel (Served B) (cancel db clock t id s) (cancel db clock t id s') := by
  refine Except.Rel.bind_eq ?_ fun transfer _ => ?_
  · rw [TransferService.readCancel, TransferService.readCancel, h.findTransfer ht]
  · show Twin B (commitCancel db clock t id transfer s) (commitCancel db clock t id transfer s')
    rw [commitCancel]
    refine Twin.updateTransfer ?_ id fun _ => rfl
    split
    · refine foldl_rel h fun item _ s s' h => ?_
      rw [cancelItem, cancelItem]
      split
      · exact h.recordReceipt _ _
      · exact h
    · exact h

end Transfers

section Reservations

variable {id : Id} {r : StockReservation}

theorem findReservation_eq (t id : Id) (s : Store) :
    findReservation t id s =
      ((s.reservations.find? id).filter fun r => r.tenantId = t).elim
        (.error (.notFound "Reservation not found")) .ok := by
  rw [elim_filter, ReservationService.findReservation]
  cases s.reservations.find? id <;> rfl

theorem Alike.findReservation (h : Alike B s s') (ht : t ≠ B) (id : Id) :
    findReservation t id s = findReservation t id s' := by
  have hfind : (s.reservations.find? id).filter (fun r => r.tenantId = t) =
      (s'.reservations.find? id).filter fun r => r.tenantId = t :=
    h.reservations.filter_find? fun r hr => seen_of_eq (of_decide_eq_true hr) ht
  rw [findReservation_eq, findReservation_eq, hfind]

theorem Alike.readCreateReservation (h : Alike B s s') (ht : t ≠ B) (dto : CreateReservationDto) :
    ReservationService.readCreate clock t dto s = ReservationService.readCreate clock t dto s' := by
  rw [ReservationService.readCreate, ReservationService.readCreate, ← h.products, ← h.locations]
  cases hproduct : s.products.find? dto.productId with
  | none => rfl
  | some product =>
    dsimp only
    by_cases hown : product.tenantId = t ∧ product.deletedAt = none
    · have howner : s.tenantOf dto.productId ≠ some B := by
        rw [Store.tenantOf, hproduct, Option.map_some, hown.1]
        exact fun heq => ht (Option.some.inj heq)
      rw [h.onHand howner, h.reserved howner]
    · rw [if_pos hown, if_pos hown]

theorem Twin.reserve (h : Twin B s s') (r : StockReservation) :
    Twin B (reserve r s) (reserve r s') :=
  { h with
    reservations := Serial.agreeOn_create_both h.reservations (congrArg Ids.reservations h.ids) _
    balances := by
      intro p l hp
      show (s.balances.upsert _ _ _).find? _ = (s'.balances.upsert _ _ _).find? _
      rw [Table.find?_upsert, Table.find?_upsert]
      by_cases hk : (p, l) = (r.productId, r.locationId)
      · rw [if_pos hk, if_pos hk, ← hk, h.balances p l hp]
      · rw [if_neg hk, if_neg hk]
        exact h.balances p l hp
    ids := congrArg (fun ids : Ids => { ids with reservations := ids.reservations + 1 }) h.ids }

theorem Twin.createReservation (h : Twin B s s') (clock : Clock) (ht : t ≠ B)
    (dto : CreateReservationDto) :
    Except.Rel (Served B) (ReservationService.create clock t dto s)
      (ReservationService.create clock t dto s') := by
  refine Except.Rel.bind_eq (h.readCreateReservation ht dto) fun _ _ => ?_
  exact Except.Rel.bind_eq rfl fun quantity _ => h.reserve _

theorem Twin.updateReservation (h : Twin B s s') (hr : s.reservations.find? id = some r)
    (ht : r.tenantId ≠ B) {f : StockReservation → StockReservation}
    (hf : ∀ r, (f r).tenantId = r.tenantId) :
    Except.Rel (fun s₁ s₁' => Twin B s₁ s₁' ∧ s₁.tenantOf = s.tenantOf)
      (updateReservation id f s) (updateReservation id f s') := by
  have hr' := (h.reservations.find?_iff (by simpa using ht)).mp hr
  rw [Invetrixa.updateReservation, Invetrixa.updateReservation, hr, hr']
  refine ⟨?_, rfl⟩
  exact
    { h with
      reservations := h.reservations.modify fun r => by rw [hf]
      ids := h.ids }

theorem Twin.incrementReserved (h : Twin B s s') {p : Id} (hp : s.tenantOf p ≠ some B) (l : Id)
    (q : ℤ) :
    Except.Rel (Twin B) (incrementReserved p l q s) (incrementReserved p l q s') := by
  rw [Invetrixa.incrementReserved, Invetrixa.incrementReserved, ← h.balances p l hp]
  split
  · exact rfl
  · exact
      { h with
        balances := by
          intro p' l' hp'
          show (s.balances.modify _ _).find? _ = (s'.balances.modify _ _).find? _
          rw [Table.find?_modify, Table.find?_modify, h.balances p' l' hp']
        ids := h.ids }

/-- A reservation that the tenant finds is of a product of the tenant. -/
theorem tenantOf_of_findReservation (hs : WellFormed s) (ht : t ≠ B)
    (hr : findReservation t id s = .ok r) :
    s.reservations.find? id = some r ∧ r.tenantId ≠ B ∧ s.tenantOf r.productId ≠ some B := by
  obtain ⟨hfind, rfl⟩ := findReservation_ok hr
  have howner := (hs.reservations _ _ hfind).1
  exact ⟨hfind, ht, by rw [howner]; exact fun heq => ht (Option.some.inj heq)⟩

theorem Twin.close (h : Twin B s s') (hs : WellFormed s) (ht : t ≠ B)
    (hr : findReservation t id s = .ok r) (status : ReservationStatus) :
    Except.Rel (Served B) (ReservationService.close id status r s)
      (ReservationService.close id status r s') := by
  obtain ⟨hfind, htenant, hp⟩ := tenantOf_of_findReservation hs ht hr
  rw [ReservationService.close]
  refine Except.Rel.bind (h.updateReservation hfind htenant ?_) fun s₁ s₁' h₁ => ?_
  · exact fun _ => rfl
  · refine Except.Rel.bind (h₁.1.incrementReserved ?_ _ _) fun s₂ s₂' h₂ => h₂
    rw [h₁.2]
    exact hp

theorem Twin.release (h : Twin B s s') (hs : WellFormed s) (ht : t ≠ B) (id : Id) :
    Except.Rel (Served B) (release t id s) (release t id s') := by
  refine Except.Rel.bind_eq ?_ fun r hread => h.close hs ht (readRelease_found hread).1 _
  rw [readRelease, readRelease, h.findReservation ht]

theorem Twin.commitUpdate (h : Twin B s s') (hs : WellFormed s) (ht : t ≠ B)
    (hr : findReservation t id s = .ok r) (dto : UpdateReservationDto) :
    Except.Rel (Served B) (commitUpdate id dto r s) (commitUpdate id dto r s') := by
  obtain ⟨hfind, htenant, hp⟩ := tenantOf_of_findReservation hs ht hr
  unfold ReservationService.commitUpdate
  dsimp only
  rw [← h.onHand hp, ← h.reserved hp]
  refine Except.Rel.ite (fun _ => rfl) fun _ => ?_
  refine Except.Rel.bind (h.updateReservation hfind htenant fun _ => rfl) fun s₁ s₁' h₁ => ?_
  refine Except.Rel.ite (fun _ => ?_) fun _ => h₁.1
  refine Except.Rel.bind (h₁.1.incrementReserved ?_ _ _) fun s₂ s₂' h₂ => h₂
  rw [h₁.2]
  exact hp

theorem Twin.update (h : Twin B s s') (hs : WellFormed s) (ht : t ≠ B) (id : Id)
    (dto : UpdateReservationDto) :
    Except.Rel (Served B) (update clock t id dto s) (update clock t id dto s') := by
  refine Except.Rel.bind_eq ?_ fun r hread => h.commitUpdate hs ht (readUpdate_found hread).1 dto
  rw [readUpdate, readUpdate, h.findReservation ht]

theorem Twin.process (h : Twin B s s') (hs : WellFormed s) (ht : t ≠ B) (id : Id) :
    Except.Rel (Served B) (ReservationQueueProcessor.process clock t id s)
      (ReservationQueueProcessor.process clock t id s') := by
  have hread : ReservationQueueProcessor.readProcess clock t id s =
      ReservationQueueProcessor.readProcess clock t id s' := by
    refine h.reservations.filter_find? fun r hr => ?_
    exact seen_of_eq (of_decide_eq_true hr).1 ht
  rw [ReservationQueueProcessor.process, ReservationQueueProcessor.process, ← hread]
  split
  · exact h
  · next r hread =>
    obtain ⟨hfind, hr⟩ := Option.filter_eq_some_iff.mp hread
    simp only [decide_eq_true_eq] at hr
    refine h.close hs ht (r := r) ?_ _
    rw [ReservationService.findReservation, hfind]
    exact if_pos hr.1

end Reservations

section Sales

variable {saleId : Id} {sale : Sale} {client client' : Store}

/-- What is to be known of a store that a request meets: the rows refer to rows that are there,
and the rows of a sale are of its tenant. -/
structure Consistent (s : Store) : Prop extends WellFormed s where
  payments : s.pos.PaymentsSound
  refunds : s.pos.RefundsSound
  refundsOwned : s.saleRefunds.All fun _ r =>
    ∃ sale, s.sales.find? r.saleId = some sale ∧ sale.tenantId = r.tenantId

theorem seesSale_eq_true (hfind : s.sales.find? saleId = some sale) (ht : sale.tenantId ≠ B) :
    s.seesSale B saleId = true := by
  rw [Store.seesSale, hfind]
  simpa using ht

theorem Alike.find?_sale (h : Alike B s s') (hfind : s.sales.find? saleId = some sale)
    (ht : sale.tenantId ≠ B) : s'.sales.find? saleId = some sale :=
  (h.sales.find?_iff (by simpa using ht)).mp hfind

theorem Alike.itemsOf (h : Alike B s s') (hsee : s.seesSale B saleId = true) :
    s.itemsOf saleId = s'.itemsOf saleId := by
  refine h.saleItems.filter fun r hr => ?_
  rw [of_decide_eq_true hr]
  exact hsee

theorem Alike.generateSaleNumber (h : Alike B s s') (ht : t ≠ B) :
    generateSaleNumber clock t s = generateSaleNumber clock t s' := by
  rw [Invetrixa.generateSaleNumber, Invetrixa.generateSaleNumber,
    h.sales.filter fun r hr => seen_of_eq (of_decide_eq_true hr) ht]

theorem Alike.session_isNone (h : Alike B s s') (id : Id) :
    (s.sessions.find? id).isNone = (s'.sessions.find? id).isNone := by
  have hmasked (s : Store) : (s.sessions.find? id).isNone =
      ((s.maskedSessions B).find? fun r => r.1 = id).isNone := by
    rw [Store.maskedSessions, List.find?_map, Option.isNone_map]
    show ((s.sessions.rows.find? _).map Prod.snd).isNone = _
    rw [Option.isNone_map]
    rfl
  rw [hmasked, h.sessions, ← hmasked]

/-- A new sale has no items and no payments yet. -/
theorem seesSale_create (hs : Consistent s) (sale : Sale) :
    (∀ r ∈ s.saleItems.rows,
      ({ s with sales := s.sales.create sale } : Store).seesSale B r.2.saleId =
        s.seesSale B r.2.saleId) ∧
    ∀ r ∈ s.salePayments.rows,
      ({ s with sales := s.sales.create sale } : Store).seesSale B r.2.saleId =
        s.seesSale B r.2.saleId := by
  have hold {id : Id} {old : Sale} (hfind : s.sales.find? id = some old) :
      ({ s with sales := s.sales.create sale } : Store).seesSale B id = s.seesSale B id := by
    rw [Store.seesSale, Store.seesSale, hfind]
    exact congrArg (Option.any _) (Serial.find?_create_of_some hfind sale)
  constructor
  · intro r hr
    obtain ⟨old, hfind, _⟩ := hs.saleItems _ _ (Table.find?_of_mem_rows hr)
    exact hold hfind
  · intro r hr
    obtain ⟨old, hfind, _⟩ := hs.payments _ _ (Table.find?_of_mem_rows hr)
    exact hold hfind

theorem Twin.insertSale (h : Twin B s s') (hs : Consistent s) (hs' : Consistent s')
    (ht : sale.tenantId ≠ B) :
    Except.Rel (Alongside (Twin B)) (insertSale sale s) (insertSale sale s') := by
  have hany : (s.sales.rows.any fun r =>
      r.2.saleNumber = sale.saleNumber ∧ r.2.tenantId = sale.tenantId) =
      s'.sales.rows.any fun r =>
        r.2.saleNumber = sale.saleNumber ∧ r.2.tenantId = sale.tenantId := by
    refine h.sales.any fun r hr => ?_
    exact seen_of_eq (of_decide_eq_true hr).2 ht
  have hnext : s.sales.next = s'.sales.next := congrArg Ids.sales h.ids
  rw [Invetrixa.insertSale]
  refine Except.Rel.ite_iff (by rw [hany]) (fun _ => rfl) fun _ => ?_
  refine Except.Rel.ite_iff ?_ (fun _ => rfl) fun _ => ⟨hnext, ?_⟩
  · rw [h.locations, h.terminals, h.customers]
    simp only [h.session_isNone]
  have hsales := Serial.agreeOn_create_both h.sales hnext sale
  have hsee : ({ s with sales := s.sales.create sale } : Store).seesSale B =
      ({ s' with sales := s'.sales.create sale } : Store).seesSale B := by
    funext saleId
    exact hsales.any_find? fun _ hsale => hsale
  exact
    { h with
      sales := hsales
      saleItems := h.saleItems.congr_pred (seesSale_create hs sale).1 fun r hr => by
        rw [hsee, (seesSale_create hs' sale).1 r hr, h.seesSale]
      salePayments := h.salePayments.congr_pred (seesSale_create hs sale).2 fun r hr => by
        rw [hsee, (seesSale_create hs' sale).2 r hr, h.seesSale]
      ids := congrArg (fun ids : Ids => { ids with sales := ids.sales + 1 }) h.ids }

theorem Twin.createSaleItems (h : Twin B s s') (db : Database) (saleId : Id)
    (items : List ProcessedSaleItem) :
    Twin B (createSaleItems db saleId items s) (createSaleItems db saleId items s') :=
  have hids (s : Store) : (SaleService.createSaleItems db saleId items s).ids =
      { s.ids with saleItems := s.ids.saleItems + items.length } := by
    simp only [Store.ids, SaleService.createSaleItems, Serial.next_foldl_create_map]
  { h with
    saleItems := Serial.agreeOn_foldl_create_both _ _ h.saleItems (congrArg Ids.saleItems h.ids)
    ids := by rw [hids, hids, h.ids] }

theorem Twin.createPayments (h : Twin B s s') (db : Database) (saleId : Id)
    (payments : List PaymentDto) :
    Twin B (createPayments db saleId payments s) (createPayments db saleId payments s') :=
  have hids (s : Store) : (SaleService.createPayments db saleId payments s).ids =
      { s.ids with salePayments := s.ids.salePayments + payments.length } := by
    simp only [Store.ids, SaleService.createPayments, Serial.next_foldl_create_map]
  { h with
    salePayments := Serial.agreeOn_foldl_create_both _ _ h.salePayments
      (congrArg Ids.salePayments h.ids)
    ids := by rw [hids, hids, h.ids] }

end Sales

section QuickSales

variable {saleId : Id} {client client' : Store}

theorem Alike.loadedProduct (h : Alike B s s') (p : Id) :
    loadedProduct t p s = loadedProduct t p s' := by
  rw [SaleService.loadedProduct, h.products]
  rfl

theorem tenantOf_of_loadedProduct {p : Id} {product : Product}
    (hproduct : loadedProduct t p s = some product) : s.tenantOf p = some t := by
  obtain ⟨hfind, ht⟩ := Option.filter_eq_some_iff.mp hproduct
  rw [Store.tenantOf, hfind, Option.map_some, of_decide_eq_true ht]

theorem Alike.loadProductCost (h : Alike B s s') (hs : WellFormed s) (hs' : WellFormed s') {p : Id}
    (hp : s.tenantOf p ≠ some B) (l : Id) :
    loadProductCost db l p s = loadProductCost db l p s' := by
  have hvisible {s : Store} (hs : WellFormed s) (hp : s.tenantOf p ≠ some B) :
      ∀ r ∈ s.layers.rows, decide (r.2.productId = p ∧ r.2.locationId = l ∧
        0 < r.2.remainingQty) = true → decide (r.2.tenantId ≠ B) = true := by
    intro r hr hselect
    have howner := (hs.layers _ _ (Table.find?_of_mem_rows hr)).2
    rw [(of_decide_eq_true hselect).1] at howner
    rw [decide_eq_true_eq]
    rintro rfl
    exact hp howner
  rw [SaleService.loadProductCost, SaleService.loadProductCost,
    h.layers.filter_of_mem (hvisible hs hp) (hvisible hs' (h.tenantOf ▸ hp))]

theorem Alike.processItem (h : Alike B s s') (hs : WellFormed s) (hs' : WellFormed s') (l : Id)
    {item : CreateSaleItemDto} (hp : s.tenantOf item.productId ≠ some B) :
    processItem db t l s item = processItem db t l s' item := by
  rw [SaleService.processItem, SaleService.processItem, h.loadedProduct,
    h.loadProductCost hs hs' hp]

theorem Alike.readCreateSale (h : Alike B s s') (hs : WellFormed s) (hs' : WellFormed s')
    (ht : t ≠ B) (dto : CreateSaleDto) :
    SaleService.readCreate db t dto s = SaleService.readCreate db t dto s' := by
  have hlocation : SaleService.validateLocation t dto.locationId s =
      SaleService.validateLocation t dto.locationId s' := by
    rw [SaleService.validateLocation, SaleService.validateLocation, h.locations]
  have hproducts : loadProducts t dto.items s = loadProducts t dto.items s' := by
    rw [loadProducts, loadProducts]
    simp only [h.loadedProduct]
  have hstock : SaleService.validateStockAvailability t dto.locationId dto.items s =
      SaleService.validateStockAvailability t dto.locationId dto.items s' := by
    unfold SaleService.validateStockAvailability SaleService.validateSaleItem
    simp only [h.available hs hs' ht, h.loadedProduct]
  rw [SaleService.readCreate, SaleService.readCreate]
  refine Except.bind_congr_ok hlocation fun _ _ => ?_
  refine Except.bind_congr_ok rfl fun _ _ => Except.bind_congr_ok rfl fun _ _ => ?_
  refine Except.bind_congr_ok hproducts fun _ hloaded => ?_
  refine Except.bind_congr_ok hstock fun _ _ => ?_
  -- The products are the tenant's, and so are the layers that their costs are read from.
  have hitems : dto.items.map (SaleService.processItem db t dto.locationId s) =
      dto.items.map (SaleService.processItem db t dto.locationId s') := by
    refine List.map_congr_left fun item hitem => h.processItem hs hs' _ ?_
    have hitem := forM_eq_ok_iff.mp hloaded item hitem
    cases hproduct : SaleService.loadedProduct t item.productId s with
    | none => simp [hproduct] at hitem
    | some product =>
      rw [tenantOf_of_loadedProduct hproduct]
      exact fun heq => ht (Option.some.inj heq)
  dsimp only
  rw [hitems]

theorem Twin.executeSaleTransaction (h : Twin B s s') (hs : Consistent s) (hs' : Consistent s')
    (ht : t ≠ B) (dto : CreateSaleDto) (items : List ProcessedSaleItem) (totals : SaleTotals) :
    Except.Rel (Served B) (executeSaleTransaction db clock t dto items totals s s)
      (executeSaleTransaction db clock t dto items totals s' s') := by
  rw [SaleService.executeSaleTransaction]
  dsimp only
  rw [h.generateSaleNumber ht]
  refine (h.insertSale hs hs' ht).bind ?_
  rintro ⟨saleId, s₁⟩ ⟨saleId', s₁'⟩ ⟨rfl, h₁⟩
  have h₂ := (h₁.createSaleItems db saleId items).createPayments db saleId dto.payments
  exact (h₂.stockOut db ht _ h.toAlike hs.toWellFormed hs'.toWellFormed).bind fun _ _ h₃ => h₃

theorem Twin.createSale (h : Twin B s s') (hs : Consistent s) (hs' : Consistent s') (ht : t ≠ B)
    (dto : CreateSaleDto) :
    Except.Rel (Served B) (SaleService.create db clock t dto s)
      (SaleService.create db clock t dto s') :=
  Except.Rel.bind_eq (h.readCreateSale hs.toWellFormed hs'.toWellFormed ht dto) fun _ _ =>
    h.executeSaleTransaction hs hs' ht dto _ _

end QuickSales

section Completion

variable {saleId : Id} {client client' : Store}

/-- A sale of another tenant is the same. -/
theorem Alike.sale_of_ne (h : Alike B s s') (ht : t ≠ B) (id : Id) :
    ((s.sales.find? id).filter fun sale => sale.tenantId = t) =
      (s'.sales.find? id).filter fun sale => sale.tenantId = t := by
  exact h.sales.filter_find? fun sale hsale => seen_of_eq (of_decide_eq_true hsale) ht

theorem findSale_eq (t saleId : Id) (s : Store) :
    findSale t saleId s =
      ((s.sales.find? saleId).filter fun sale => sale.tenantId = t).elim
        (.error (.notFound "Sale not found")) fun sale => .ok ⟨sale, s.itemsOf saleId⟩ := by
  rw [elim_filter, SaleService.findSale]
  cases s.sales.find? saleId <;> rfl

theorem Alike.findSale (h : Alike B s s') (ht : t ≠ B) (saleId : Id) :
    findSale t saleId s = findSale t saleId s' := by
  rw [findSale_eq, findSale_eq, ← h.sale_of_ne ht]
  cases hsale : (s.sales.find? saleId).filter fun sale => sale.tenantId = t with
  | none => rfl
  | some sale =>
    obtain ⟨hfind, hown⟩ := Option.filter_eq_some_iff.mp hsale
    have hsee : s.seesSale B saleId = true :=
      seesSale_eq_true hfind (of_decide_eq_true hown ▸ ht)
    rw [Option.elim_some, Option.elim_some, h.itemsOf hsee]

theorem seesSale_modify (s : Store) (B id : Id) {f : Sale → Sale}
    (hf : ∀ sale, (f sale).tenantId = sale.tenantId) :
    ({ s with sales := s.sales.modify id f } : Store).seesSale B = s.seesSale B := by
  funext k
  rw [Store.seesSale]
  show ((s.sales.modify id f).toTable.find? k).any _ = _
  rw [Serial.toTable_modify, Table.find?_modify]
  split
  · next hk =>
    subst hk
    rw [Option.any_map]
    congr 1
    funext sale
    simp [hf]
  · rfl

/-- An update of a sale that is seen, or is not there. -/
theorem Twin.updateSale (h : Twin B s s') {sale : Sale} (hfind : s.sales.find? saleId = some sale)
    (ht : sale.tenantId ≠ B) {f : Sale → Sale} (hf : ∀ sale, (f sale).tenantId = sale.tenantId) :
    Except.Rel (Twin B) (updateSale saleId f s) (updateSale saleId f s') := by
  rw [Invetrixa.updateSale, Invetrixa.updateSale, hfind, h.find?_sale hfind ht]
  exact
    { h with
      sales := h.sales.modify fun sale => by rw [hf]
      saleItems := h.saleItems.congr_pred (fun r _ => by rw [seesSale_modify s B saleId hf])
        fun r _ => by rw [seesSale_modify s B saleId hf]
      salePayments := h.salePayments.congr_pred (fun r _ => by rw [seesSale_modify s B saleId hf])
        fun r _ => by rw [seesSale_modify s B saleId hf]
      ids := h.ids }

theorem Twin.processPayments (h : Twin B s s') {sale : Sale}
    (hfind : s.sales.find? saleId = some sale) (ht : sale.tenantId ≠ B)
    (payments : List PaymentDto) :
    Except.Rel (fun x x' => Twin B x.2 x'.2 ∧ x.2.sales = s.sales)
      (PaymentService.processPayments db saleId payments s)
      (PaymentService.processPayments db saleId payments s') := by
  have hloop : Except.Rel (fun x x' : ℚ × Store => x.1 = x'.1 ∧ Twin B x.2 x'.2 ∧
      x.2.sales = s.sales) (PaymentService.processPayments db saleId payments s)
      (PaymentService.processPayments db saleId payments s') := by
    rw [PaymentService.processPayments]
    refine foldlM_rel ⟨rfl, h, rfl⟩ ?_
    rintro payment ⟨paid, s₁⟩ ⟨paid', s₁'⟩ ⟨hpaid, h₁, hsales⟩
    dsimp only at hpaid h₁ hsales ⊢
    subst hpaid
    have hfind₁ : s₁.sales.find? saleId = some sale := by rw [hsales, hfind]
    rw [PaymentService.createPayment, PaymentService.createPayment, hfind₁, h₁.find?_sale hfind₁ ht]
    refine ⟨rfl, ?_, hsales⟩
    exact
      { h₁ with
        salePayments := Serial.agreeOn_create_both h₁.salePayments
          (congrArg Ids.salePayments h₁.ids) _
        ids := congrArg (fun ids : Ids => { ids with salePayments := ids.salePayments + 1 })
          h₁.ids }
  exact hloop.mono fun _ _ hx => hx.2

theorem Twin.fulfillReservations (h : Twin B s s') (saleId : Id) :
    Twin B (fulfillReservations saleId s) (fulfillReservations saleId s') :=
  { h with
    reservations := h.reservations.modifyWhere (fun _ => rfl) (fun _ => rfl)
      fun _ _ _ => ⟨rfl, fun _ => rfl⟩
    ids := h.ids }

theorem sales_of_stockOut {dto : BulkStockOutDto} {r : BulkStockOutResponse}
    (hout : stockOut db t dto client s = .ok (r, s')) : s'.sales = s.sales := by
  obtain ⟨_, _, hout⟩ := Except.bind_eq_ok_iff.mp hout
  obtain rfl := congrArg Prod.snd (Except.ok.inj hout)
  exact congrArg PosTables.sales (pos_executeStockOut dto)

theorem Twin.complete (h : Twin B s s') (hs : Consistent s) (hs' : Consistent s') (ht : t ≠ B)
    (saleId : Id) (payments : List PaymentDto) :
    Except.Rel (Served B) (complete db t saleId payments s) (complete db t saleId payments s') := by
  have hread : readComplete t saleId payments s = readComplete t saleId payments s' := by
    rw [SaleService.readComplete, SaleService.readComplete, findDraftSale, findDraftSale,
      h.findSale ht]
  refine Except.Rel.bind_eq hread ?_
  rintro ⟨read, totals⟩ hread
  obtain ⟨hfind, rfl, _⟩ := readComplete_ok hread
  refine (h.processPayments hfind ht payments).bind ?_
  rintro ⟨paid, s₁⟩ ⟨paid', s₁'⟩ ⟨h₁, hsales₁⟩
  have hout := (h₁.stockOut db ht (saleStockOut read.sale.locationId saleId
    (aggregateSaleItems read.items).2) h.toAlike hs.toWellFormed hs'.toWellFormed).and
      (P := fun x => x.2.sales = s.sales) fun x hx => (sales_of_stockOut hx).trans hsales₁
  refine hout.bind ?_
  rintro ⟨r, s₂⟩ ⟨r', s₂'⟩ ⟨h₂, hsales₂⟩
  have hfind₂ : (SaleService.fulfillReservations saleId s₂).sales.find? saleId =
      some read.sale := by
    rw [show (SaleService.fulfillReservations saleId s₂).sales = s.sales from hsales₂, hfind]
  refine Except.Rel.bind ((Twin.fulfillReservations h₂ saleId).updateSale hfind₂ ht ?_)
    fun _ _ h₃ => h₃
  exact fun _ => rfl

end Completion

section VoidAndRefund

variable {saleId : Id}

theorem Twin.voidItem (h : Twin B s s') (l : Id) (item : SaleItem) :
    Twin B (voidItem db t saleId l s item) (voidItem db t saleId l s' item) :=
  have h₁ := h.createMovement db (voidMovement t saleId l item)
  { h₁ with
    balances := by
      intro p l hp
      show (s.balances.modifyWhere _ _).find? _ = (s'.balances.modifyWhere _ _).find? _
      rw [Table.find?_modifyWhere, Table.find?_modifyWhere, h.balances p l hp]
    ids := h₁.ids }

theorem Twin.void (h : Twin B s s') (ht : t ≠ B) (saleId : Id) :
    Except.Rel (Served B) (void db t saleId s) (void db t saleId s') := by
  have hread : readVoid t saleId s = readVoid t saleId s' := by
    rw [SaleService.readVoid, SaleService.readVoid, h.findSale ht]
  refine Except.Rel.bind_eq hread fun read hread => ?_
  obtain ⟨hfind, rfl, _⟩ := readVoid_ok hread
  refine Except.Rel.bind (h.updateSale hfind ht fun _ => rfl) fun s₁ s₁' h₁ => ?_
  exact foldl_rel (R := Twin B) h₁ fun item _ _ _ h => h.voidItem _ item

theorem Alike.totalRefunded (h : Alike B s s') (hs : Consistent s) (hs' : Consistent s')
    {sale : Sale} (hfind : s.sales.find? saleId = some sale) (ht : sale.tenantId ≠ B) :
    totalRefunded saleId s = totalRefunded saleId s' := by
  have hzero {s : Store} (hs : Consistent s) (hfind : s.sales.find? saleId = some sale) :
      ∀ k r, s.saleRefunds.find? k = some r → decide (r.tenantId ≠ B) = false →
        (if r.saleId = saleId then r.amount else 0) = 0 := by
    intro k r hr hB
    refine if_neg ?_
    rintro rfl
    obtain ⟨sale', hfind', howner⟩ := hs.refundsOwned k r hr
    obtain rfl := Option.some.inj (hfind.symm.trans hfind')
    exact ht (howner.trans (not_not.mp (of_decide_eq_false hB)))
  exact h.saleRefunds.sum (hzero hs hfind) (hzero hs' (h.find?_sale hfind ht))

theorem Alike.generateRefundNumber (h : Alike B s s') (ht : t ≠ B) :
    generateRefundNumber clock t s = generateRefundNumber clock t s' := by
  rw [Invetrixa.generateRefundNumber, Invetrixa.generateRefundNumber,
    h.saleRefunds.filter fun r hr => seen_of_eq (of_decide_eq_true hr) ht]

theorem Twin.insertRefund (h : Twin B s s') {refund : SaleRefund} {sale : Sale}
    (hfind : s.sales.find? refund.saleId = some sale) (hsale : sale.tenantId ≠ B)
    (ht : refund.tenantId ≠ B) :
    Except.Rel (Alongside (Twin B)) (insertRefund refund s) (insertRefund refund s') := by
  have hany : (s.saleRefunds.rows.any fun r =>
      r.2.refundNumber = refund.refundNumber ∧ r.2.tenantId = refund.tenantId) =
      s'.saleRefunds.rows.any fun r =>
        r.2.refundNumber = refund.refundNumber ∧ r.2.tenantId = refund.tenantId := by
    refine h.saleRefunds.any fun r hr => ?_
    exact seen_of_eq (of_decide_eq_true hr).2 ht
  have hnext : s.saleRefunds.next = s'.saleRefunds.next := congrArg Ids.saleRefunds h.ids
  rw [RefundService.insertRefund, RefundService.insertRefund, hfind, h.find?_sale hfind hsale]
  refine Except.Rel.ite_iff (by rw [hany]) (fun _ => rfl) fun _ => ⟨hnext, ?_⟩
  exact
    { h with
      saleRefunds := Serial.agreeOn_create_both h.saleRefunds hnext refund
      ids := congrArg (fun ids : Ids => { ids with saleRefunds := ids.saleRefunds + 1 }) h.ids }

theorem Twin.returnStock (h : Twin B s s') (db : Database) (clock : Clock) (t : Id)
    {client client' : Store} (hclient : Alike B client client') (refundId : Id)
    (dto : CreateRefundDto) (read : SaleWithItems) :
    Except.Rel (Twin B) (returnStock db clock t refundId dto read client s)
      (returnStock db clock t refundId dto read client' s') := by
  rw [RefundService.returnStock]
  refine Except.Rel.ite (fun _ => ?_) fun _ => h
  refine Except.Rel.bind_eq rfl fun returned _ => ?_
  refine Except.Rel.bind_eq (hclient.validateStockIn _ _) fun _ _ => ?_
  exact Except.Rel.bind_eq rfl fun items _ => h.executeStockIn _

theorem sales_of_insertRefund {refund : SaleRefund} {id : Id}
    (hinsert : insertRefund refund s = .ok (id, s')) : s'.sales = s.sales := by
  rw [RefundService.insertRefund] at hinsert
  split at hinsert
  · cases hinsert
  · split at hinsert
    · cases hinsert
    · obtain rfl := congrArg Prod.snd (Except.ok.inj hinsert)
      rfl

theorem Twin.createRefund (h : Twin B s s') (hs : Consistent s) (hs' : Consistent s') (ht : t ≠ B)
    (saleId : Id) (dto : CreateRefundDto) :
    Except.Rel (Served B) (createRefund db clock t saleId dto s)
      (createRefund db clock t saleId dto s') := by
  have hread : readRefund t saleId dto s = readRefund t saleId dto s' := by
    rw [RefundService.readRefund]
    refine Except.bind_congr_ok (h.findSale ht saleId) fun read hread => ?_
    obtain ⟨hfind, rfl, _⟩ := findSale_ok hread
    rw [h.totalRefunded hs hs' hfind ht]
  refine Except.Rel.bind_eq hread ?_
  rintro ⟨read, total⟩ hread
  obtain ⟨hfind, rfl, _⟩ := readRefund_ok hread
  dsimp only
  rw [RefundService.executeRefund, h.generateRefundNumber ht]
  refine Except.Rel.bind ((h.insertRefund hfind ht ht).and (P := fun x => x.2.sales = s.sales)
    fun x hx => sales_of_insertRefund hx) ?_
  rintro ⟨refundId, s₁⟩ ⟨refundId', s₁'⟩ ⟨⟨rfl, h₁⟩, hsales₁⟩
  have hreturn := (h₁.returnStock db clock read.sale.tenantId h.toAlike refundId dto read).and
    (P := fun s₂ => s₂.sales = s.sales) fun s₂ hs₂ =>
      (congrArg PosTables.sales (pos_returnStock hs₂)).trans hsales₁
  refine hreturn.bind fun s₂ s₂' h₂ => ?_
  refine Except.Rel.bind (h₂.1.updateSale (by rw [h₂.2, hfind]) ht ?_) fun _ _ h₃ => h₃
  exact fun _ => rfl

end VoidAndRefund

end Invetrixa
