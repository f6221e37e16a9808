import Invetrixa.Refinement.TenantSteps

/-!
# What requests of a tenant leave alone

A request of a tenant writes rows of that tenant: to everybody else the store looks as before. Of a
sale that the tenant completes this needs that no reservation of another tenant is made for it.

## Main results

- `alike_step` — a request of a tenant that is not about sessions leaves the rows of all others
-/

namespace Invetrixa

open Rowstore Requests BalanceService ValuationService StockValidationService MovementService
  TransferService ReservationService SaleService CartService RefundService

variable {db : Database} {clock : Clock} {B : Id} {s s' s₁ : Store} {p l : Id}

section Stock

/-- The balance of a place of the tenant is written. -/
theorem alike_balances {balances : Table (Id × Id) InventoryBalance}
    (hp : s.tenantOf p = some B)
    (hothers : ∀ k, k ≠ (p, l) → balances.find? k = s.balances.find? k) :
    Alike B { s with balances } s :=
  { Alike.refl B s with
    balances := by
      intro p' l' hp'
      refine hothers _ fun heq => hp' ?_
      obtain ⟨rfl, -⟩ := Prod.mk.inj heq
      exact hp }

theorem alike_createMovement (m : StockMovement) : Alike B (createMovement db m s) s :=
  { Alike.refl B s with }

theorem alike_createConsumptionRecords (movementId : Id) (cs : List LayerConsumption) :
    Alike B (createConsumptionRecords db movementId cs s) s :=
  { Alike.refl B s with }

theorem alike_updateBalance (hp : s.tenantOf p = some B) (t : Id) (q : ℤ) :
    Alike B (updateBalance p l t q s) s :=
  alike_balances (l := l) hp fun k hk => by
    obtain ⟨p', l'⟩ := k
    exact (find?_updateBalance _).trans (if_neg hk)

theorem alike_createLayer (p l : Id) (q : ℤ) (cost : ℚ) (movementId : Id) (batchId : Option Id) :
    Alike B (createLayer db clock p l B q cost movementId batchId s) s :=
  { Alike.refl B s with
    layers := Serial.agreeOn_create (hidden_of_eq rfl) }

theorem alike_recordReceipt {m : StockMovement} (hm : m.tenantId = B)
    (hp : s.tenantOf m.productId = some B) (batchId : Option Id) :
    Alike B (recordReceipt db clock m batchId s) s := by
  unfold recordReceipt
  dsimp only
  rw [hm]
  refine Alike.trans (alike_updateBalance ?_ _ _) ?_
  · exact hp
  · exact (alike_createLayer _ _ _ _ _ _).trans (alike_createMovement m)

/-- Draws from layers of the tenant. -/
theorem agreeOn_drain_own {layers : Serial ValuationLayer}
    {ds : List ((Id × ValuationLayer) × ℤ)}
    (hds : ∀ d ∈ ds, ∀ layer, layers.find? d.1.1 = some layer → layer.tenantId = B) :
    Table.AgreeOn (fun layer => layer.tenantId ≠ B) (drain layers ds).toTable layers.toTable := by
  rw [drain]
  induction ds generalizing layers with
  | nil => exact .refl _ _
  | cons d rest ih =>
    have hd := hds d List.mem_cons_self
    have hfirst : Table.AgreeOn (fun layer => layer.tenantId ≠ B) (layers.modify d.1.1 fun layer =>
        { layer with remainingQty := d.1.2.remainingQty - d.2 }).toTable layers.toTable := by
      rw [Serial.toTable_modify]
      refine Table.agreeOn_modify fun layer hlayer => ?_
      have ht := hd layer hlayer
      exact ⟨hidden_of_eq ht, hidden_of_eq ht⟩
    refine (ih fun d' hd' layer hlayer => ?_).trans hfirst
    rw [Serial.toTable_modify, Table.find?_modify] at hlayer
    split at hlayer
    · obtain ⟨old, hold, rfl⟩ := Option.map_eq_some_iff.mp hlayer
      exact hds d' (List.mem_cons_of_mem _ hd') old hold
    · exact hds d' (List.mem_cons_of_mem _ hd') layer hlayer

theorem alike_consumeLayers (p l : Id) (q : ℤ) (method : PricingMethod) :
    Alike B (consumeLayers db p l B q method s).2 s := by
  rw [consumeLayers_eq]
  exact
    { Alike.refl B s with
      layers := agreeOn_drain_own fun d hd layer hlayer => by
        have hmem := (consumableLayers_perm _ _ _ _ _ _).mem_iff.mp (Lots.mem_of_mem_draw hd)
        obtain ⟨hrow, hselect⟩ := List.mem_filter.mp hmem
        obtain rfl := Option.some.inj (hlayer.symm.trans (Table.find?_of_mem_rows hrow))
        exact (of_decide_eq_true hselect).2.2.1 }

theorem alike_recordIssue {i : Issue} (hi : i.tenantId = B) (hp : s.tenantOf i.productId = some B) :
    Alike B (recordIssue db i s).2 s := by
  rw [recordIssue]
  dsimp only
  rw [hi]
  refine Alike.trans (alike_updateBalance ?_ _ _) ?_
  · rw [consumeLayers_eq]
    exact hp
  · refine Alike.trans (alike_createConsumptionRecords _ _) ?_
    exact Alike.trans (alike_createMovement _) (alike_consumeLayers _ _ _ _)

/-- A loop on rows of the tenant. -/
theorem alike_foldl {β : Type} {f : Store → β → Store} {items : List β}
    (h : ∀ x ∈ items, ∀ s', Alike B s' s → Alike B (f s' x) s') (hs : Alike B s' s) :
    Alike B (items.foldl f s') s := by
  induction items generalizing s' with
  | nil => exact hs
  | cons x rest ih =>
    exact ih (fun y hy => h y (List.mem_cons_of_mem _ hy))
      ((h x List.mem_cons_self s' hs).trans hs)

theorem alike_executeStockIn {dto : BulkStockInDto}
    (hp : ∀ item ∈ dto.items, s.tenantOf item.productId = some B) :
    Alike B (executeStockIn db clock B dto s).2 s := by
  rw [executeStockIn_eq]
  refine alike_foldl (fun item hitem s' hs' =>
    alike_recordReceipt (m := receivedMovement B dto item) rfl ?_ _) (.refl B s)
  rw [hs'.tenantOf]
  exact hp item hitem

theorem alike_executeStockOut {dto : BulkStockOutDto}
    (hp : ∀ item ∈ dto.items, s.tenantOf item.1 = some B) :
    Alike B (executeStockOut db B dto s).2 s := by
  rw [executeStockOut_eq]
  refine alike_foldl (fun item hitem s' hs' => alike_recordIssue rfl ?_) (.refl B s)
  rw [hs'.tenantOf]
  exact hp item hitem

theorem alike_executeAdjust {dto : BulkStockAdjustDto}
    (hp : ∀ item ∈ dto.items, s.tenantOf item.productId = some B) :
    Alike B (executeAdjust db clock B dto s).2 s := by
  rw [executeAdjust_eq]
  refine alike_foldl (fun item hitem s' hs' => ?_) (.refl B s)
  have htenant : s'.tenantOf item.productId = some B := by
    rw [hs'.tenantOf]
    exact hp item hitem
  rw [adjustLine]
  split
  · exact alike_recordReceipt (m := foundMovement B dto.locationId item) rfl htenant _
  · exact alike_recordIssue (i := lostIssue B dto.locationId item) rfl htenant

theorem alike_stockIn {dto : BulkStockInDto} {r : BulkStockInResponse}
    (h : stockIn db clock B dto s = .ok (r, s')) : Alike B s' s := by
  obtain ⟨hvalid, rfl⟩ := stockIn_ok h
  obtain ⟨_, hproducts, _⟩ := Except.bind_eq_ok_iff.mp hvalid
  exact alike_executeStockIn fun item hitem =>
    validateProducts_tenantOf hproducts (List.mem_map_of_mem hitem)

theorem alike_stockOut {dto : BulkStockOutDto} {r : BulkStockOutResponse}
    (h : stockOut db B dto s s = .ok (r, s')) : Alike B s' s := by
  obtain ⟨_, hvalid, h⟩ := Except.bind_eq_ok_iff.mp h
  obtain rfl : (executeStockOut db B dto s).2 = s' := congrArg Prod.snd (Except.ok.inj h)
  exact alike_executeStockOut (validateStockOut_ok hvalid).1

theorem alike_adjust {dto : BulkStockAdjustDto} {r : BulkStockAdjustResponse}
    (h : adjust db clock B dto s = .ok (r, s')) : Alike B s' s := by
  obtain ⟨_, hvalid, h⟩ := Except.bind_eq_ok_iff.mp h
  obtain rfl : (executeAdjust db clock B dto s).2 = s' := congrArg Prod.snd (Except.ok.inj h)
  exact alike_executeAdjust (validateAdjust_ok hvalid).1

end Stock

section Transfers

variable {id : Id} {transfer : StockTransfer}

/-- A transfer of the tenant, if it is there, stays the tenant's. -/
theorem own_transfer (h : Alike B s' s)
    (hown : ∀ t, s.transfers.find? id = some t → t.tenantId = B) :
    ∀ t, s'.transfers.find? id = some t → t.tenantId = B := by
  intro t ht
  by_contra hne
  exact hne (hown t ((h.transfers.find?_iff (by simpa using hne)).mp ht))

theorem alike_updateTransfer (hown : ∀ t, s.transfers.find? id = some t → t.tenantId = B)
    {f : StockTransfer → StockTransfer} (hf : ∀ t, (f t).tenantId = t.tenantId) :
    Alike B (updateTransfer id f s) s :=
  { Alike.refl B s with
    transfers := by
      refine Table.agreeOn_modify fun t ht => ?_
      rw [hf, hown t ht]
      exact ⟨hidden_of_eq rfl, hidden_of_eq rfl⟩ }

theorem alike_shipItem (hown : ∀ t, s.transfers.find? id = some t → t.tenantId = B)
    {item : StockTransferItem} (hp : s.tenantOf item.productId = some B) :
    Alike B (shipItem db B id transfer s item) s := by
  unfold shipItem
  dsimp only
  refine Alike.trans (alike_updateBalance ?_ _ _) ?_
  · rw [consumeLayers_eq]
    exact hp
  · refine Alike.trans (alike_consumeLayers _ _ _ _) ?_
    exact Alike.trans (alike_createMovement _) (alike_updateTransfer hown fun _ => rfl)

theorem alike_commitShip (hown : ∀ t, s.transfers.find? id = some t → t.tenantId = B)
    (hp : ∀ i ∈ transfer.items, s.tenantOf i.productId = some B) :
    Alike B (commitShip db clock B id transfer s) s := by
  refine alike_foldl (fun i hi s' hs' => alike_shipItem (own_transfer hs' hown) ?_)
    (alike_updateTransfer hown fun _ => rfl)
  rw [hs'.tenantOf]
  exact hp i hi

/-- The transfer that the tenant works on, with its items. -/
theorem own_of_find (hs : WellFormed s) (hfind : s.transfers.find? id = some transfer)
    (ht : transfer.tenantId = B) :
    (∀ t, s.transfers.find? id = some t → t.tenantId = B) ∧
      ∀ i ∈ transfer.items, s.tenantOf i.productId = some B := by
  constructor
  · intro t hfind'
    obtain rfl := Option.some.inj (hfind.symm.trans hfind')
    exact ht
  · intro i hi
    rw [← ht]
    exact (hs.transfers id transfer hfind i hi).1

theorem alike_ship (hs : WellFormed s) {r : String} (h : ship db clock B id s = .ok (r, s')) :
    Alike B s' s := by
  obtain ⟨t, hread, rfl⟩ := ship_eq_ok h
  obtain ⟨hfind, ht, _⟩ := readShip_ok hread
  obtain ⟨hown, hp⟩ := own_of_find hs hfind ht
  exact alike_commitShip hown hp

theorem alike_createDraft {dto : CreateTransferDto} {r : Id × String}
    (h : createDraft clock B dto s = .ok (r, s')) : Alike B s' s := by
  obtain ⟨_, _, t, rfl, ht, _⟩ := createDraft_ok h
  exact
    { Alike.refl B s with
      transfers := Serial.agreeOn_create (hidden_of_eq ht) }

theorem alike_createTransfer (hs : WellFormed s) {dto : CreateTransferDto}
    (hvalid : CreateTransferDto.Valid dto) :
    Alike B (TransferService.create db clock B dto s).2 s := by
  refine createTransfer_cases (P := fun x => Alike B x.2 s) (fun _ => .refl B s) ?_ ?_ ?_
  · intro id number s₁ hdraft _
    exact alike_createDraft hdraft
  · intro id number s₁ e hdraft
    exact alike_createDraft hdraft
  · intro id number s₁ message s₂ hdraft _ hship
    exact (alike_ship (wellFormed_createDraft hs hvalid hdraft) hship).trans
      (alike_createDraft hdraft)

theorem alike_receive (hs : WellFormed s) {items : List ReceiveItemDto} {r : String}
    (h : receive db clock B id items s = .ok (r, s')) : Alike B s' s := by
  obtain ⟨t, hread, h⟩ := Except.bind_eq_ok_iff.mp h
  obtain rfl : commitReceive db clock B id items t s = s' :=
    congrArg Prod.snd (Except.ok.inj h)
  obtain ⟨hfind, ht, _⟩ := readReceive_ok hread
  obtain ⟨hown, hp⟩ := own_of_find hs hfind ht
  refine alike_foldl (fun i hi s' hs' => ?_) (alike_updateTransfer hown fun _ => rfl)
  rw [TransferService.receiveItem]
  split
  · exact .refl B s'
  · next r _ =>
    have hitem : Alike B (updateTransfer id (markReceived i r) s') s' :=
      alike_updateTransfer (own_transfer hs' hown) fun _ => rfl
    dsimp only
    split
    · refine Alike.trans (alike_recordReceipt (m := arrivedMovement B id t i r.receivedQuantity)
        rfl ?_ _) hitem
      rw [hitem.tenantOf, hs'.tenantOf]
      exact hp i hi
    · exact hitem

theorem alike_cancel (hs : WellFormed s) {r : String}
    (h : cancel db clock B id s = .ok (r, s')) : Alike B s' s := by
  obtain ⟨t, hread, h⟩ := Except.bind_eq_ok_iff.mp h
  obtain rfl : commitCancel db clock B id t s = s' := congrArg Prod.snd (Except.ok.inj h)
  obtain ⟨hfind, ht, _⟩ := readCancel_ok hread
  obtain ⟨hown, hp⟩ := own_of_find hs hfind ht
  have hback : Alike B (if t.status = .inTransit then
      t.items.foldl (cancelItem db clock B id t) s else s) s := by
    split
    · refine alike_foldl (fun i hi s' hs' => ?_) (.refl B s)
      rw [cancelItem]
      split
      · refine alike_recordReceipt (m := reversalMovement B id t i) rfl ?_ _
        rw [hs'.tenantOf]
        exact hp i hi
      · exact .refl B s'
    · exact .refl B s
  refine Alike.trans (alike_updateTransfer (own_transfer hback hown) ?_) hback
  exact fun _ => rfl

end Transfers

section Reservations

variable {id : Id} {r : StockReservation}

theorem alike_reserve (hr : r.tenantId = B) (hp : s.tenantOf r.productId = some B) :
    Alike B (reserve r s) s :=
  have hbalances : Alike B { s with balances := (reserve r s).balances } s :=
    alike_balances (l := r.locationId) hp fun k hk => by
      show (s.balances.upsert _ _ _).find? k = _
      rw [Table.find?_upsert, if_neg hk]
  { hbalances with
    reservations := Serial.agreeOn_create (hidden_of_eq hr) }

theorem alike_createReservation {dto : CreateReservationDto} {id : Id}
    (h : ReservationService.create clock B dto s = .ok (id, s')) : Alike B s' s := by
  obtain ⟨_, hread, h⟩ := Except.bind_eq_ok_iff.mp h
  obtain ⟨quantity, _, rfl⟩ := commitCreate_ok h
  exact alike_reserve rfl (readCreate_ok hread).1

/-- A reservation of the tenant changes, with the reserved quantity of its place. -/
theorem alike_amend (hs : WellFormed s) (hfind : s.reservations.find? id = some r)
    (hr : r.tenantId = B) {f : StockReservation → StockReservation}
    (hf : ∀ r, (f r).tenantId = r.tenantId) (diff : ℤ) :
    Alike B (book db (.amend id f r.productId r.locationId diff) s) s :=
  have hp : s.tenantOf r.productId = some B := hr ▸ (hs.reservations id r hfind).1
  have hbalances : Alike B
      { s with
        balances := s.balances.modify (r.productId, r.locationId) fun b =>
          { b with reservedQuantity := b.reservedQuantity + diff } } s :=
    alike_balances (l := r.locationId) hp fun k hk => by
      rw [Table.find?_modify, if_neg hk]
  { hbalances with
    reservations := by
      refine Table.agreeOn_modify fun r' hr' => ?_
      obtain rfl := Option.some.inj (hfind.symm.trans hr')
      rw [hf, hr]
      exact ⟨hidden_of_eq rfl, hidden_of_eq rfl⟩ }

theorem alike_updateReservation (hs : WellFormed s) {dto : UpdateReservationDto}
    (h : update clock B id dto s = .ok ((), s')) : Alike B s' s := by
  obtain ⟨r, hread, h⟩ := Except.bind_eq_ok_iff.mp h
  obtain ⟨hfind, hr⟩ := findReservation_ok (readUpdate_found hread).1
  obtain ⟨rfl, _⟩ := commitUpdate_ok .exact h
  refine alike_amend hs hfind hr ?_ _
  exact fun _ => rfl

theorem alike_release (hs : WellFormed s) (h : release B id s = .ok ((), s')) :
    Alike B s' s := by
  obtain ⟨r, hread, h⟩ := Except.bind_eq_ok_iff.mp h
  obtain ⟨hfind, hr⟩ := findReservation_ok (readRelease_found hread).1
  obtain ⟨rfl, _⟩ := close_ok .exact h
  refine alike_amend hs hfind hr ?_ _
  exact fun _ => rfl

theorem alike_process (hs : WellFormed s)
    (h : ReservationQueueProcessor.process clock B id s = .ok ((), s')) : Alike B s' s := by
  rw [ReservationQueueProcessor.process] at h
  split at h
  · obtain rfl := congrArg Prod.snd (Except.ok.inj h)
    exact .refl B s
  · next r hread =>
    obtain ⟨hfind, hr⟩ := Option.filter_eq_some_iff.mp hread
    obtain ⟨rfl, _⟩ := close_ok .exact h
    refine alike_amend hs hfind (of_decide_eq_true hr).1 ?_ _
    exact fun _ => rfl

end Reservations

section Sales

variable {saleId cartId itemId : Id} {sale : Sale}

/-- A sale of the tenant is not seen. -/
theorem seesSale_own (hfind : s.sales.find? saleId = some sale) (ht : sale.tenantId = B) :
    s.seesSale B saleId = false := by
  rw [Store.seesSale, hfind]
  simpa using ht

/-- The tables of the sales are written so that others see no difference. -/
theorem alike_sales {sales : Serial Sale} {saleItems : Serial SaleItem}
    {salePayments : Serial SalePayment}
    (hsales : Table.AgreeOn (fun sale => sale.tenantId ≠ B) sales.toTable s.sales.toTable)
    (hitems : Table.AgreeOn (fun i => ({ s with sales } : Store).seesSale B i.saleId)
      saleItems.toTable s.saleItems.toTable)
    (hpayments : Table.AgreeOn (fun p => ({ s with sales } : Store).seesSale B p.saleId)
      salePayments.toTable s.salePayments.toTable) :
    Alike B { s with sales, saleItems, salePayments } s :=
  { Alike.refl B s with
    sales := hsales
    saleItems := hitems
    salePayments := hpayments }

/-- A sale of the tenant is rewritten. -/
theorem alike_modifySale (hown : ∀ sale, s.sales.find? saleId = some sale → sale.tenantId = B)
    {f : Sale → Sale} (hf : ∀ sale, (f sale).tenantId = sale.tenantId) :
    Alike B { s with sales := s.sales.modify saleId f } s := by
  refine alike_sales ?_ (.refl _ _) (.refl _ _)
  rw [Serial.toTable_modify]
  refine Table.agreeOn_modify fun sale hsale => ?_
  rw [hf, hown sale hsale]
  exact ⟨hidden_of_eq rfl, hidden_of_eq rfl⟩

/-- A sale of the tenant, if it is there, stays the tenant's. -/
theorem own_sale (h : Alike B s' s)
    (hown : ∀ sale, s.sales.find? saleId = some sale → sale.tenantId = B) :
    ∀ sale, s'.sales.find? saleId = some sale → sale.tenantId = B := by
  intro sale hsale
  by_contra hne
  exact hne (hown sale (h.find?_sale hsale hne))

theorem own_of_sale (hfind : s.sales.find? saleId = some sale) (ht : sale.tenantId = B) :
    ∀ sale, s.sales.find? saleId = some sale → sale.tenantId = B := by
  intro sale' hfind'
  obtain rfl := Option.some.inj (hfind.symm.trans hfind')
  exact ht

theorem alike_createCart {dto : CreateCartDto} {id : Id}
    (h : createCart clock B dto s = .ok (id, s')) : Alike B s' s := by
  obtain ⟨_, rfl⟩ := insertSale_ok h
  exact alike_sales (Serial.agreeOn_create (hidden_of_eq rfl)) (.refl _ _)
    (.refl _ _)

theorem alike_soldStore {dto : CreateSaleDto} {items : List ProcessedSaleItem}
    {totals : SaleTotals} : Alike B (soldStore db clock B dto items totals s) s := by
  have hown : ({ s with sales := s.sales.create (newSale db clock B
      (generateSaleNumber clock B s) dto totals) } : Store).seesSale B s.sales.next = false :=
    seesSale_own ((Serial.find?_create _).trans (if_pos rfl)) rfl
  refine alike_sales (s := s) (Serial.agreeOn_create (hidden_of_eq rfl)) ?_ ?_
  · exact Serial.agreeOn_foldl_create fun _ _ => hown
  · exact Serial.agreeOn_foldl_create fun _ _ => hown

theorem alike_createSale {dto : CreateSaleDto} {id : Id}
    (h : SaleService.create db clock B dto s = .ok (id, s')) : Alike B s' s := by
  obtain ⟨⟨items, totals⟩, hread, h⟩ := Except.bind_eq_ok_iff.mp h
  obtain ⟨_, hvalid, rfl⟩ := executeSaleTransaction_ok h
  refine Alike.trans (alike_executeStockOut ?_) alike_soldStore
  exact (validateStockOut_ok hvalid).1

/-- Reservations for a sale of the tenant are the tenant's. -/
theorem alike_fulfillReservations (hspare : s.Spares B saleId) :
    Alike B (fulfillReservations saleId s) s := by
  have hagree : Table.AgreeOn (fun r : StockReservation => r.tenantId ≠ B)
      (s.reservations.toTable.modifyWhere (fun _ r => isReservationOf saleId r)
        fun r => { r with status := .fulfilled }) s.reservations.toTable := by
    refine Table.agreeOn_modifyWhere fun r hr hof => ?_
    have hown := hspare r hr hof
    exact ⟨hidden_of_eq hown, hidden_of_eq hown⟩
  exact { Alike.refl B s with reservations := hagree }

theorem alike_complete {payments : List PaymentDto}
    (hspare : ∀ sale ∈ s.sales.find? saleId, sale.tenantId = B → s.Spares B saleId)
    (h : SaleService.complete db B saleId payments s = .ok ((), s')) : Alike B s' s := by
  obtain ⟨⟨read, totals⟩, hread, h⟩ := Except.bind_eq_ok_iff.mp h
  obtain ⟨hfind, ht, _⟩ := readComplete_ok hread
  have hspare := hspare read.sale hfind ht
  obtain ⟨hvalid, hupdate⟩ := executeCompletionTransaction_ok h
  have hpaid : Alike B (createPayments db saleId payments s) s :=
    alike_sales (.refl _ _) (.refl _ _)
      (Serial.agreeOn_foldl_create fun _ _ => seesSale_own hfind ht)
  have hout : Alike B (executeStockOut db B (completionOut saleId read)
      (createPayments db saleId payments s)).2 s :=
    Alike.trans (alike_executeStockOut (validateStockOut_ok hvalid).1) hpaid
  have hframe := executeStockOut_frame db B (completionOut saleId read)
    (createPayments db saleId payments s)
  generalize (executeStockOut db B (completionOut saleId read)
    (createPayments db saleId payments s)).2 = s₂ at hupdate hout hframe
  have hsales : s₂.sales = s.sales := hframe.2.1
  have hfind₂ : s₂.sales.find? saleId = some read.sale := by rw [hsales, hfind]
  have hspare₂ : s₂.Spares B saleId := by
    rw [Store.Spares, hframe.1]
    exact hspare
  obtain ⟨rfl, _⟩ := updateSale_ok hupdate
  refine Alike.trans (alike_modifySale (s := fulfillReservations saleId s₂)
    (own_of_sale hfind₂ ht) ?_) ?_
  · exact fun _ => rfl
  · exact (alike_fulfillReservations hspare₂).trans hout

theorem alike_voidItem {l : Id} {item : SaleItem} (hp : s.tenantOf item.productId = some B) :
    Alike B (voidItem db B saleId l s item) s := by
  refine Alike.trans (alike_balances (p := item.productId) (l := l)
    (s := createMovement db (voidMovement B saleId l item) s) hp fun k hk => ?_)
    (alike_createMovement _)
  rw [Table.find?_modifyWhere]
  cases hb : (createMovement db (voidMovement B saleId l item) s).balances.find? k with
  | none => rfl
  | some b => simp [hk]

theorem alike_void (hs : WellFormed s) (h : SaleService.void db B saleId s = .ok ((), s')) :
    Alike B s' s := by
  obtain ⟨read, hread, h⟩ := Except.bind_eq_ok_iff.mp h
  obtain ⟨hfind, ht, _, hitems⟩ := readVoid_ok hread
  obtain ⟨s₁, hupdate, h⟩ := Except.bind_eq_ok_iff.mp h
  obtain rfl : (read.items.map Prod.snd).foldl (voidItem db B saleId read.sale.locationId) s₁ =
    s' := congrArg Prod.snd (Except.ok.inj h)
  obtain ⟨rfl, _⟩ := updateSale_ok hupdate
  refine alike_foldl (fun item hitem s' hs' => alike_voidItem ?_)
    (alike_modifySale (own_of_sale hfind ht) fun _ => rfl)
  rw [hitems] at hitem
  obtain ⟨r, hr, rfl⟩ := List.mem_map.mp hitem
  rw [hs'.tenantOf, ← ht]
  exact (itemsOf_sound hs hfind hr).1

/-- A refund gives stock of the tenant back. -/
theorem alike_returnStock {client : Store} (hclient : s.tenantOf = client.tenantOf) {refundId : Id}
    {dto : CreateRefundDto} {read : SaleWithItems}
    (h : returnStock db clock B refundId dto read client s = .ok s') : Alike B s' s := by
  obtain rfl | ⟨items, rfl, hitems⟩ := returnStock_ok h
  · exact .refl B s'
  · refine alike_executeStockIn fun item hitem => ?_
    rw [hclient]
    exact (hitems item hitem).1

theorem alike_createRefund {dto : CreateRefundDto} {id : Id}
    (h : createRefund db clock B saleId dto s = .ok (id, s')) : Alike B s' s := by
  obtain ⟨⟨read, total⟩, hread, h⟩ := Except.bind_eq_ok_iff.mp h
  obtain ⟨hfind, ht, _⟩ := readRefund_ok hread
  obtain ⟨s₁, hreturn, rfl⟩ := executeRefund_ok h
  have hback := (alike_returnStock (by rfl) hreturn).trans
    (show Alike B { s with saleRefunds := s.saleRefunds.create _ } s from
      { Alike.refl B s with
        saleRefunds := Serial.agreeOn_create (hidden_of_eq rfl) })
  refine Alike.trans (alike_modifySale (own_sale hback (own_of_sale hfind ht)) ?_) hback
  exact fun _ => rfl

/-- The items of a cart of the tenant are written, and its totals. -/
theorem alike_writeCart {saleItems : Serial SaleItem} {cart : Sale}
    (hfind : s.sales.find? cartId = some cart) (ht : cart.tenantId = B)
    (hitems : Table.AgreeOn (fun i => s.seesSale B i.saleId) saleItems.toTable s.saleItems.toTable)
    (h : recalculateCart db cartId { s with saleItems } = .ok s') : Alike B s' s := by
  obtain ⟨_, _, h⟩ := recalculateCart_eq_ok_iff.mp h
  obtain ⟨rfl, _⟩ := updateSale_ok h
  refine Alike.trans (alike_modifySale (s := { s with saleItems }) (own_of_sale hfind ht) ?_)
    (alike_sales (.refl _ _) hitems (.refl _ _))
  exact fun _ => rfl

/-- The item of a cart of the tenant is written. -/
theorem alike_modifyItem {cart : Sale} {item : SaleItem}
    (hfind : s.sales.find? cartId = some cart) (ht : cart.tenantId = B)
    (hitem : s.saleItems.find? itemId = some item) (hsale : item.saleId = cartId)
    {f : SaleItem → SaleItem} (hf : ∀ i, (f i).saleId = i.saleId) :
    Table.AgreeOn (fun i => s.seesSale B i.saleId) (s.saleItems.modify itemId f).toTable
      s.saleItems.toTable := by
  rw [Serial.toTable_modify]
  refine Table.agreeOn_modify fun i hi => ?_
  obtain rfl := Option.some.inj (hitem.symm.trans hi)
  rw [hf, hsale]
  exact ⟨seesSale_own hfind ht, seesSale_own hfind ht⟩

theorem alike_commitAddItem {cart : Sale} {dto : AddCartItemDto} {product : Product}
    (hfind : s.sales.find? cartId = some cart) (ht : cart.tenantId = B)
    (h : commitAddItem db cartId dto product (findExistingItem cartId dto.productId s) s =
      .ok ((), s')) : Alike B s' s := by
  have hown := seesSale_own hfind ht
  obtain ⟨itemId, item, _, hitem, _, hrecalc⟩ | ⟨_, _, _, hrecalc⟩ := commitAddItem_ok h
  · obtain ⟨hitem, hsale⟩ := findExistingItem_eq_some hitem
    refine alike_writeCart hfind ht (alike_modifyItem hfind ht hitem hsale ?_) hrecalc
    exact fun _ => rfl
  · exact alike_writeCart hfind ht (Serial.agreeOn_create hown) hrecalc

theorem alike_transaction {α : Type} {f : Store → Except HttpError (α × Store)}
    (h : ∀ a s', f s = .ok (a, s') → Alike B s' s) : Alike B (transaction f s).2 s :=
  transaction_preserves (I := fun s' => Alike B s' s) (.refl B s) h

theorem alike_addItem {dto : AddCartItemDto} :
    Alike B (addItem db clock B cartId dto s).2 s := by
  refine addItem_cases (P := fun x => Alike B x.2 s) (fun _ => .refl B s) ?_
  intro cart product id s₁ hread hcreate
  obtain ⟨⟨hfind, ht, _⟩, _⟩ := readAddItem_ok hread
  have hfind₁ : s₁.sales.find? cartId = some cart := by
    obtain ⟨_, _, rfl⟩ := createReservation_ok hcreate
    exact hfind
  exact (alike_transaction fun _ s' h => alike_commitAddItem hfind₁ ht h).trans
    (alike_createReservation hcreate)

theorem alike_releaseEach (hs : WellFormed s) (ids : List Id) :
    Alike B (releaseEach B ids s).2 s := by
  have hboth : Alike B (releaseEach B ids s).2 s ∧ WellFormed (releaseEach B ids s).2 := by
    refine releaseEach_preserves (I := fun s' => Alike B s' s ∧ WellFormed s')
      ⟨.refl B s, hs⟩ ?_ ids
    rintro id s₁ s₂ ⟨h₁, hs₁⟩ hrelease
    exact ⟨(alike_release hs₁ hrelease).trans h₁, wellFormed_release hs₁ hrelease⟩
  exact hboth.1

theorem alike_updateItem (hs : WellFormed s) {dto : UpdateCartItemDto} :
    Alike B (updateItem db clock B cartId itemId dto s).2 s := by
  refine updateItem_cases (P := fun x => Alike B x.2 s) (fun _ => .refl B s) ?_ ?_
  · intro cart item e _
    exact alike_releaseEach hs _
  · intro cart item id s₁ s₂ hread heach hcreate
    obtain ⟨hitem, hsale, hfind, ht, _⟩ := readUpdateItem_ok hread
    have hrelease : Alike B (releaseReservations B cartId item.productId s).2 s :=
      alike_releaseEach hs _
    rw [heach] at hrelease
    obtain ⟨hsales, hitems⟩ := releaseEach_ok hs heach
    have hkept : s₂.sales = s₁.sales ∧ s₂.saleItems = s₁.saleItems := by
      obtain ⟨_, _, rfl⟩ := createReservation_ok hcreate
      exact ⟨rfl, rfl⟩
    have hfind₂ : s₂.sales.find? cartId = some cart := by rw [hkept.1, hsales, hfind]
    have hitem₂ : s₂.saleItems.find? itemId = some item := by rw [hkept.2, hitems, hitem]
    refine (alike_transaction fun _ s' h => ?_).trans
      ((alike_createReservation hcreate).trans hrelease)
    obtain ⟨quantity, _, hrecalc⟩ := commitUpdateItem_ok h
    refine alike_writeCart hfind₂ ht (alike_modifyItem hfind₂ ht hitem₂ hsale ?_) hrecalc
    exact fun _ => rfl

theorem alike_removeItem (hs : WellFormed s) :
    Alike B (removeItem db B cartId itemId s).2 s := by
  refine removeItem_cases (P := fun x => Alike B x.2 s) (fun _ => .refl B s) ?_ ?_
  · intro item e _
    exact alike_releaseEach hs _
  · intro item s₁ hread heach
    obtain ⟨hitem, hsale, cart, hfind, ht, _⟩ := readRemoveItem_ok hread
    have hrelease : Alike B (releaseReservations B cartId item.productId s).2 s :=
      alike_releaseEach hs _
    rw [heach] at hrelease
    obtain ⟨hsales, hitems⟩ := releaseEach_ok hs heach
    have hfind₁ : s₁.sales.find? cartId = some cart := by rw [hsales, hfind]
    have hitem₁ : s₁.saleItems.find? itemId = some item := by rw [hitems, hitem]
    refine (alike_transaction fun _ s' h => ?_).trans hrelease
    refine alike_writeCart hfind₁ ht ?_ (commitRemoveItem_ok h)
    rw [Serial.toTable_deleteWhere]
    refine Table.agreeOn_deleteWhere fun r hr hid => ?_
    obtain rfl := of_decide_eq_true hid
    obtain rfl := Option.some.inj (hitem₁.symm.trans (Table.find?_of_mem_rows hr))
    rw [hsale]
    exact seesSale_own hfind₁ ht

end Sales

section Requests

variable {call : Call}

theorem alike_answer {α : Type} {f : Store → Except HttpError (α × Store)}
    (h : ∀ a s', f s = .ok (a, s') → Alike B s' s) :
    Alike B (answer (transaction f s)).2 s := alike_transaction h

/-- A request of the tenant writes rows of the tenant only. -/
theorem alike_step (hs : WellFormed s) (hspare : call.Spares s B)
    (hcall : call.request.tenantId = some B) (hother : ¬call.request.OfSessions) :
    Alike B (step db call s) s := by
  refine step_preserves_of_valid (P := fun s' => Alike B s' s) (.refl B s) fun hvalid => ?_
  obtain ⟨clock, request⟩ := call
  cases request with
  -- The cleanup is no request of the tenant, and those about sessions are excepted; every other
  -- one is refused or writes rows of the tenant only.
  | cleanupCarts => cases hcall
  | openSession => exact absurd trivial hother
  | closeSession => exact absurd trivial hother
  | createTransfer t dto =>
    obtain rfl := Option.some.inj hcall
    exact alike_createTransfer hs hvalid
  | addCartItem t cartId dto =>
    obtain rfl := Option.some.inj hcall
    exact alike_addItem
  | updateCartItem t cartId itemId dto =>
    obtain rfl := Option.some.inj hcall
    exact alike_updateItem hs
  | removeCartItem t cartId itemId =>
    obtain rfl := Option.some.inj hcall
    exact alike_removeItem hs
  | stockIn t dto =>
    obtain rfl := Option.some.inj hcall
    exact alike_answer fun _ _ h => alike_stockIn h
  | stockReturn t dto =>
    obtain rfl := Option.some.inj hcall
    exact alike_answer fun _ _ h => alike_stockIn h
  | stockOut t dto =>
    obtain rfl := Option.some.inj hcall
    exact alike_answer (f := fun s => stockOut db t dto s s) fun _ _ h => alike_stockOut h
  | adjust t dto =>
    obtain rfl := Option.some.inj hcall
    exact alike_answer fun _ _ h => alike_adjust h
  | shipTransfer t id =>
    obtain rfl := Option.some.inj hcall
    exact alike_answer fun _ _ h => alike_ship hs h
  | receiveTransfer t id items =>
    obtain rfl := Option.some.inj hcall
    exact alike_answer fun _ _ h => alike_receive hs h
  | cancelTransfer t id =>
    obtain rfl := Option.some.inj hcall
    exact alike_answer fun _ _ h => alike_cancel hs h
  | createReservation t dto =>
    obtain rfl := Option.some.inj hcall
    exact alike_answer fun _ _ h => alike_createReservation h
  | updateReservation t id dto =>
    obtain rfl := Option.some.inj hcall
    exact alike_answer fun _ _ h => alike_updateReservation hs h
  | releaseReservation t id =>
    obtain rfl := Option.some.inj hcall
    exact alike_answer fun _ _ h => alike_release hs h
  | expireReservation t id =>
    obtain rfl := Option.some.inj hcall
    exact alike_answer fun _ _ h => alike_process hs h
  | createCart t dto =>
    obtain rfl := Option.some.inj hcall
    exact alike_answer fun _ _ h => alike_createCart h
  | createSale t dto =>
    obtain rfl := Option.some.inj hcall
    exact alike_answer fun _ _ h => alike_createSale h
  | completeSale t saleId payments =>
    obtain rfl := Option.some.inj hcall
    exact alike_answer fun _ _ h => alike_complete (hspare rfl) h
  | voidSale t saleId =>
    obtain rfl := Option.some.inj hcall
    exact alike_answer fun _ _ h => alike_void hs h
  | createRefund t saleId dto =>
    obtain rfl := Option.some.inj hcall
    exact alike_answer fun _ _ h => alike_createRefund h

end Requests

end Invetrixa
