import Invetrixa.Library.Loops
import Invetrixa.Correctness.Valuation
import Invetrixa.Refinement.SaleSteps

/-!
# What a sale costs

A quick sale records on each item the unit cost of the oldest lot at hand, and a cart records
none, nor does its completion; the movements out carry what the lots that are taken are charged
at, by the pricing method. Where every lot that a sale takes is charged at what is recorded for
its product, the items of each completed sale cost what its movements out do. The first sale that
takes a newer lot at another cost, or completes a cart of goods that cost something, breaks this.

## Main definitions

- `Store.itemCost`, `Store.costOut` — the cost of a sale on its items and on its movements
- `Booking.ChargedAt` — the lots of an issue are charged at recorded unit costs
- `CostsRecorded` — the condition on a request

## Main results

- `costOut_executeStockOut` — what a stock-out adds to the cost of its sale
- `itemCost_eq_costOut`, `cart_costs_nothing`
-/

namespace Invetrixa

open Rowstore Requests MovementService ValuationService SaleService

/-- What the items of a sale cost. -/
def PosTables.itemCost (t : PosTables) (saleId : Id) : ℚ :=
  t.saleItems.sum fun _ i => if i.saleId = saleId then i.unitCost * i.quantity else 0

def Store.itemCost (s : Store) (saleId : Id) : ℚ := s.pos.itemCost saleId

/-- What the movements out that were booked for a sale cost. -/
def Store.costOut (s : Store) (saleId : Id) : ℚ :=
  s.movements.sum fun _ m =>
    if m.movementType = .out ∧ m.referenceType = .sale ∧ m.referenceId = some (.id saleId) then
      m.totalCost else 0

/-- Every lot that an issue takes is charged at the unit cost recorded for its product, and unless
this is nothing there are lots for all that it takes. -/
def Booking.ChargedAt (db : Database) (unitCost : Id → ℚ) (s : Store) : Booking → Prop
  | .issue i =>
      (∀ d ∈ Lots.draw layerSize (i.layers db s) i.quantity,
        chargedCost i.productId i.locationId i.tenantId (i.method s) s d.1.2 =
          unitCost i.productId) ∧
      (unitCost i.productId ≠ 0 → i.quantity ≤ Lots.total layerSize (i.layers db s))
  | _ => True

instance (db : Database) (unitCost : Id → ℚ) (s : Store) :
    DecidablePred (Booking.ChargedAt db unitCost s) := by
  rintro ⟨⟩
  all_goals dsimp only [Booking.ChargedAt]; infer_instance

/-- The sale that a removal is booked for. -/
def BulkStockOutDto.soldFor (dto : BulkStockOutDto) : Option Id :=
  match dto.referenceType.getD .sale, dto.referenceId with
  | .sale, some (.id saleId) => some saleId
  | _, _ => none

/-- What a removal books. -/
def BulkStockOutDto.bookings (tenantId : Id) (dto : BulkStockOutDto) : List Booking :=
  dto.items.map fun item => .issue (releasedIssue tenantId dto item)

/-- The removal that a quick sale makes. -/
def CreateSaleDto.stockOut (s : Store) (dto : SaleService.CreateSaleDto) : BulkStockOutDto :=
  saleStockOut dto.locationId s.sales.next
    (dto.items.map fun item => (item.productId, item.quantity.floor))

/-- What a quick sale records as the unit cost of a product: that of its oldest lot. -/
def CreateSaleDto.recordedCost (db : Database) (s : Store) (dto : SaleService.CreateSaleDto)
    (productId : Id) : ℚ :=
  db.decimal (loadProductCost db dto.locationId productId s)

/-- A reference that a completed sale has or may get: that of a cart, of a completed sale, or none
that is in use. -/
def Store.MayCount (s : Store) (saleId : Id) : Prop :=
  s.sales.next ≤ saleId ∨ ∃ sale ∈ s.sales.find? saleId,
    sale.status = .draft ∨ sale.status = .completed

instance (s : Store) (saleId : Id) : Decidable (s.MayCount saleId) :=
  inferInstanceAs (Decidable (_ ∨ _))

/-- The lots that a quick sale takes are charged at the unit cost of the oldest of its product, and
those that are taken for a cart, or otherwise under the reference of a sale, at nothing. -/
def Request.CostsRecorded (db : Database) (s : Store) : Request → Prop
  | .createSale tenantId dto =>
      EachBooking db (Booking.ChargedAt db (CreateSaleDto.recordedCost db s dto))
        (BulkStockOutDto.bookings tenantId (CreateSaleDto.stockOut s dto)) s
  | .completeSale tenantId saleId _ => ∀ sale ∈ s.sales.find? saleId,
      EachBooking db (Booking.ChargedAt db fun _ => 0)
        (BulkStockOutDto.bookings tenantId (completionOut saleId ⟨sale, s.itemsOf saleId⟩)) s
  | .stockOut tenantId dto => ∀ saleId ∈ BulkStockOutDto.soldFor dto, s.MayCount saleId →
      EachBooking db (Booking.ChargedAt db fun _ => 0) (BulkStockOutDto.bookings tenantId dto) s
  | _ => True

instance (db : Database) (s : Store) : DecidablePred (Request.CostsRecorded db s) := by
  rintro ⟨⟩
  all_goals dsimp only [Request.CostsRecorded]; infer_instance

/-- A request whose checks pass takes only lots that are charged at what is recorded. -/
def CostsRecorded (db : Database) (s : Store) (call : Call) : Prop :=
  Passes db s call → call.request.CostsRecorded db s

instance (db : Database) (s : Store) (call : Call) : Decidable (CostsRecorded db s call) :=
  inferInstanceAs (Decidable (_ → _))

variable {db : Database} {c : Catalogue} {clock : Clock} {tenantId saleId : Id} {s s' : Store}
  {call : Call} {unitCost : Id → ℚ}

section Movements

theorem costOut_createMovement (m : StockMovement) :
    (createMovement db m s).costOut saleId = s.costOut saleId +
      if m.movementType = .out ∧ m.referenceType = .sale ∧ m.referenceId = some (.id saleId) then
        db.decimal m.totalCost else 0 := by
  simp only [Store.costOut, createMovement, Serial.sum_create]

theorem costOut_createMovement_of_not {m : StockMovement}
    (h : ¬(m.movementType = .out ∧ m.referenceType = .sale ∧ m.referenceId = some (.id saleId))) :
    (createMovement db m s).costOut saleId = s.costOut saleId := by
  rw [costOut_createMovement, if_neg h]
  exact add_zero _

/-- An issue adds what its lots are charged at to the cost of its sale. -/
theorem costOut_issue (i : Issue) :
    (book db (.issue i) s).costOut saleId = s.costOut saleId +
      if i.referenceType = .sale ∧ i.referenceId = some (.id saleId) then
        db.decimal (i.consumed db s).totalCost else 0 := by
  have hmovement : (book db (.issue i) s).costOut saleId =
      (createMovement db (i.movement (i.consumed db s)) s).costOut saleId := by
    simp only [book, recordIssue_eq]
    rfl
  rw [hmovement, costOut_createMovement]
  congr 1
  exact if_congr ⟨fun h => h.2, fun h => ⟨rfl, h⟩⟩ rfl rfl

/-- A booking that takes nothing out for a sale keeps the cost of all sales. -/
theorem costOut_book {b : Booking} (h : b.Unsold) (hb : b.Guard s) :
    (book db b s).costOut saleId = s.costOut saleId := by
  cases b with
  | receipt clock m batchId =>
    refine costOut_createMovement_of_not (m := m) fun hout => ?_
    exact absurd (hb.1.symm.trans hout.1) (by decide)
  | issue i =>
    rw [costOut_issue, if_neg fun hsale => h ⟨hsale.1, saleId, hsale.2⟩]
    exact add_zero _
  | shipItem tenantId id transfer item =>
    simp only [book, TransferService.shipItem_eq]
    refine costOut_createMovement_of_not (m := TransferService.shippedMovement tenantId id transfer
      item _) ?_
    rintro ⟨_, hsale, _⟩
    cases hsale
  | voidItem tenantId id locationId item =>
    refine costOut_createMovement_of_not (m := voidMovement tenantId id locationId item) ?_
    rintro ⟨hout, _⟩
    cases hout
  | expireCarts read =>
    rw [book, releaseReservedQuantities_eq]
    rfl
  | _ => rfl

/-- What a charged issue costs. -/
theorem consumed_of_chargedAt {i : Issue} (hq : 0 ≤ i.quantity)
    (h : Booking.ChargedAt db unitCost s (.issue i)) :
    (i.consumed db s).totalCost = unitCost i.productId * i.quantity := by
  have hcost : (i.consumed db s).totalCost = unitCost i.productId *
      Lots.taken layerSize (i.layers db s) i.quantity := by
    have hdrawn : Lots.cost layerSize
        (fun r => chargedCost i.productId i.locationId i.tenantId (i.method s) s r.2)
        (i.layers db s) i.quantity =
        unitCost i.productId * Lots.taken layerSize (i.layers db s) i.quantity := by
      apply Lots.cost_of_drawn
      exact h.1
    rw [Issue.consumed, consumeLayers_eq, ← hdrawn]
    rfl
  have htaken : Lots.taken layerSize (i.layers db s) i.quantity =
      min i.quantity (Lots.total layerSize (i.layers db s)) :=
    Lots.taken_eq_min consumableLayers_size_nonneg hq
  rw [hcost, htaken]
  by_cases hzero : unitCost i.productId = 0
  · rw [hzero, zero_mul, zero_mul]
  · rw [min_eq_left (h.2 hzero)]

theorem soldFor_eq_some_iff {dto : BulkStockOutDto} :
    BulkStockOutDto.soldFor dto = some saleId ↔
      dto.referenceType.getD .sale = .sale ∧ dto.referenceId = some (.id saleId) := by
  rw [BulkStockOutDto.soldFor]
  split
  · next id htype href => simp [htype, href]
  · next hother =>
    refine ⟨fun h => (by cases h), fun h => ?_⟩
    exact (hother saleId h.1 h.2).elim

/-- A removal changes the cost of no sale but its own. -/
theorem costOut_executeStockOut_of_ne {dto : BulkStockOutDto}
    (h : BulkStockOutDto.soldFor dto ≠ some saleId) :
    (executeStockOut db tenantId dto s).2.costOut saleId = s.costOut saleId := by
  rw [executeStockOut_eq]
  refine Loops.view_foldl (fun s : Store => s.costOut saleId) (fun s item _ => ?_) s
  have hother : ¬((releasedIssue tenantId dto item).referenceType = .sale ∧
      (releasedIssue tenantId dto item).referenceId = some (.id saleId)) :=
    fun hsale => h (soldFor_eq_some_iff.mpr hsale)
  refine (costOut_issue (releasedIssue tenantId dto item)).trans ?_
  rw [if_neg hother]
  exact add_zero _

/-- A removal whose lots are charged at recorded costs adds these to the cost of its sale. -/
theorem costOut_executeStockOut {dto : BulkStockOutDto}
    (hfor : BulkStockOutDto.soldFor dto = some saleId)
    (hq : ∀ item ∈ dto.items, 0 ≤ item.2)
    (hfits : ∀ p (n : ℤ), db.decimal (unitCost p * n) = unitCost p * n)
    (hcharged : EachBooking db (Booking.ChargedAt db unitCost)
      (BulkStockOutDto.bookings tenantId dto) s) :
    (executeStockOut db tenantId dto s).2.costOut saleId =
      s.costOut saleId + (dto.items.map fun item => unitCost item.1 * item.2).sum := by
  rw [executeStockOut_eq]
  rw [BulkStockOutDto.bookings] at hcharged
  generalize dto.items = items at hq hcharged ⊢
  induction items generalizing s with
  | nil => exact (add_zero _).symm
  | cons item rest ih =>
    obtain ⟨hhead, hrest⟩ := hcharged
    have hissue : (book db (.issue (releasedIssue tenantId dto item)) s).costOut saleId =
        s.costOut saleId + unitCost item.1 * item.2 := by
      have hmine : (releasedIssue tenantId dto item).referenceType = .sale ∧
          (releasedIssue tenantId dto item).referenceId = some (.id saleId) :=
        soldFor_eq_some_iff.mp hfor
      rw [costOut_issue, if_pos hmine, consumed_of_chargedAt (hq item List.mem_cons_self) hhead]
      exact congrArg (s.costOut saleId + ·) (hfits item.1 item.2)
    rw [List.foldl_cons, List.map_cons, List.sum_cons, ← add_assoc, ← hissue]
    exact ih (fun x hx => hq x (List.mem_cons_of_mem _ hx)) hrest

/-- What a removal takes does not depend on the tables of the point of sale. -/
theorem eachBooking_writeSales {dto : BulkStockOutDto} (sales : Serial Sale)
    (saleItems : Serial SaleItem) (salePayments : Serial SalePayment)
    (saleRefunds : Serial SaleRefund)
    (h : EachBooking db (Booking.ChargedAt db unitCost) (BulkStockOutDto.bookings tenantId dto) s) :
    EachBooking db (Booking.ChargedAt db unitCost) (BulkStockOutDto.bookings tenantId dto)
      { s with sales, saleItems, salePayments, saleRefunds } := by
  unfold BulkStockOutDto.bookings at h ⊢
  generalize dto.items = items at h ⊢
  induction items generalizing s with
  | nil => trivial
  | cons item rest ih =>
    refine ⟨h.1, ?_⟩
    have hcommute : book db (.issue (releasedIssue tenantId dto item))
        { s with sales, saleItems, salePayments, saleRefunds } =
        { book db (.issue (releasedIssue tenantId dto item)) s with
          sales, saleItems, salePayments, saleRefunds } := by
      simp only [book, recordIssue_eq, Issue.consumed, consumeLayers_eq]
      rfl
    rw [hcommute]
    exact ih h.2

end Movements

/-- The bookings that take nothing out for a sale. -/
abbrev unsoldBooking : Discipline := ⟨False, False, Booking.Unsold, fun _ h => h.unsold⟩

/-- A request that sells nothing keeps the cost of all sales. -/
theorem costOut_step_of_not_sells (hs : WellFormed s) (hcall : ¬call.request.Sells) :
    (step db call s).costOut saleId = s.costOut saleId := by
  have hbooks : Books db unsoldBooking s (step db call s) := by
    refine books_step hs False.elim False.elim (fun b hb => ?_) fun _ _ b hb => ?_
    · rcases hb with hb | hb | hb
      · exact hb.unsold
      · exact hb.2.unsold
      · exact hb.2.2.resolve_right hcall
    · rcases hb with hb | hb
      · exact hb.unsold
      · cases b with
        | shipItem => trivial
        | _ => exact hb.elim
  exact Runs.invariant (I := fun s' : Store => s'.costOut saleId = s.costOut saleId) hbooks rfl
    fun s' b h hb => (costOut_book hb.2.2.2 hb.1).trans h

section Items

variable {t t' : PosTables} {id : Id}

/-- No item of the sale has a cost. -/
def PosTables.Costless (t : PosTables) (saleId : Id) : Prop :=
  t.saleItems.All fun _ i => i.saleId = saleId → i.unitCost = 0

theorem itemCost_of_costless (h : t.Costless saleId) : t.itemCost saleId = 0 := by
  refine Table.sum_eq_zero fun k i hi => ?_
  split
  · next hsale => rw [h k i hi hsale, zero_mul]
  · rfl

/-- A sale costs what its items do. -/
theorem itemCost_of_filter
    (h : (t'.saleItems.rows.filter fun r => r.2.saleId = saleId) =
      t.saleItems.rows.filter fun r => r.2.saleId = saleId) :
    t'.itemCost saleId = t.itemCost saleId := by
  have hsum : ∀ t : PosTables, t.itemCost saleId =
      ((t.saleItems.rows.filter fun r => r.2.saleId = saleId).map fun r =>
        r.2.unitCost * (r.2.quantity : ℚ)).sum := by
    intro t
    rw [Table.sum_filter _ fun _ (i : SaleItem) => i.unitCost * (i.quantity : ℚ)]
    simp only [PosTables.itemCost, decide_eq_true_eq]
  rw [hsum, hsum, h]

theorem costless_of_filter
    (h : (t'.saleItems.rows.filter fun r => r.2.saleId = saleId) =
      t.saleItems.rows.filter fun r => r.2.saleId = saleId) (hcost : t.Costless saleId) :
    t'.Costless saleId := by
  intro k i hi hsale
  have hmem : (k, i) ∈ t'.saleItems.rows.filter fun r => r.2.saleId = saleId :=
    List.mem_filter.mpr ⟨Table.mem_rows_of_find? hi, decide_eq_true hsale⟩
  rw [h] at hmem
  exact hcost k i (Table.find?_of_mem_rows (List.mem_filter.mp hmem).1) hsale

/-- The request makes a sale, or a sale of a cart. -/
def Request.Completes : Request → Prop
  | .createSale _ _ | .completeSale _ _ _ => True
  | _ => False

/-- Requests that complete no sale give no cart a cost. -/
theorem costless_step (h : SaleStep db s call t) (hcall : ¬call.request.Completes)
    (hcost : s.pos.Costless id) : t.Costless id := by
  cases h with
  | sold => exact absurd trivial hcall
  | completed => exact absurd trivial hcall
  | written _ cartId cart saleItems hcart hdraft hedit =>
    by_cases hid : id = cartId
    · rw [hid] at hcost ⊢
      exact hedit.cartWritten.costs hcost
    · exact costless_of_filter (t := s.pos) (hedit.cartWritten.others id hid) hcost
  | cleaned clock hkept => exact hcost.deleteWhere _
  | _ => exact hcost

/-- Requests that complete no sale keep what the items of a completed one cost. -/
theorem itemCost_step (h : SaleStep db s call t) (hcall : ¬call.request.Completes) {sale sale' : Sale}
    (hfind : s.sales.find? id = some sale) (hsale : sale.status ≠ .draft)
    (hkept : t.sales.find? id = some sale') : t.itemCost id = s.pos.itemCost id := by
  cases h with
  | sold => exact absurd trivial hcall
  | completed => exact absurd trivial hcall
  | written _ cartId cart saleItems hcart hdraft hedit =>
    refine itemCost_of_filter (hedit.cartWritten.others id fun hid => hsale ?_)
    rw [hid] at hfind
    rw [Option.some.inj (hfind.symm.trans hcart), hdraft]
  | cleaned clock hrefunds =>
    have hnot := (Option.filter_eq_some_iff.mp
      ((Table.find?_deleteWhere _).symm.trans hkept)).2
    have hzero : ∀ k (i : SaleItem), s.saleItems.find? k = some i →
        decide (i.saleId ∈ CartCleanupService.abandonedCarts clock s) = true →
        (if i.saleId = id then i.unitCost * (i.quantity : ℚ) else 0) = 0 := by
      intro k i _ hdeleted
      refine if_neg fun hid => ?_
      rw [hid] at hdeleted
      simp [of_decide_eq_true hdeleted] at hnot
    exact Table.sum_deleteWhere hzero
  | _ => rfl

end Items

/-- What holds of the costs of sales: those of a completed sale agree, and neither a cart nor an id
that is not in use has any. -/
structure CostsSound (t : PosTables) (costOut : Id → ℚ) : Prop where
  completed : ∀ id sale, t.sales.find? id = some sale → sale.status = .completed →
    t.itemCost id = costOut id
  draft : ∀ id sale, t.sales.find? id = some sale → sale.status = .draft →
    t.Costless id ∧ costOut id = 0
  fresh : ∀ id, t.sales.next ≤ id → t.Costless id ∧ costOut id = 0

section Steps

variable {t : PosTables}

/-- Requests that complete no sale, and take out nothing that counts. -/
theorem costsSound_step (hI : CostsSound s.pos s.costOut) (h : SaleStep db s call t)
    (hcall : ¬call.request.Completes) (hcost : ∀ id, s.MayCount id → s'.costOut id = s.costOut id) :
    CostsSound t s'.costOut := by
  constructor
  · intro id sale' hfind hcompleted
    cases h.row hfind with
    | opened clock tenantId dto _ _ hrow => rw [hrow] at hcompleted; cases hcompleted
    | sold clock tenantId dto totals hsold => rw [hsold] at hcall; exact absurd trivial hcall
    | completed clock tenantId payments sale hcomplete =>
      rw [hcomplete] at hcall
      exact absurd trivial hcall
    | settled sale _ _ _ hafter => exact absurd hcompleted hafter.2
    | kept sale hold _ hstatus =>
      have hbefore : sale.status = .completed := hstatus ▸ hcompleted
      rw [itemCost_step h hcall hold (by rw [hbefore]; decide) hfind,
        hcost id (.inr ⟨sale, hold, .inr hbefore⟩)]
      exact hI.completed id sale hold hbefore
  · intro id sale' hfind hdraft
    cases h.row hfind with
    | opened clock tenantId dto _ hid _ =>
      obtain ⟨hcostless, hzero⟩ := hI.fresh id hid.ge
      exact ⟨costless_step h hcall hcostless, (hcost id (.inl hid.ge)).trans hzero⟩
    | sold clock tenantId dto totals _ _ _ hrow => rw [hrow] at hdraft; cases hdraft
    | completed clock tenantId payments sale _ _ _ _ _ hstatus =>
      rw [hstatus] at hdraft
      cases hdraft
    | settled sale _ _ _ hafter => exact absurd hdraft hafter.1
    | kept sale hold _ hstatus =>
      have hbefore : sale.status = .draft := hstatus ▸ hdraft
      obtain ⟨hcostless, hzero⟩ := hI.draft id sale hold hbefore
      exact ⟨costless_step h hcall hcostless,
        (hcost id (.inr ⟨sale, hold, .inl hbefore⟩)).trans hzero⟩
  · intro id hid
    have hnext : s.sales.next ≤ id := h.next.trans hid
    obtain ⟨hcostless, hzero⟩ := hI.fresh id hnext
    exact ⟨costless_step h hcall hcostless, (hcost id (.inl hnext)).trans hzero⟩

/-- The items of a quick sale cost what is recorded on them, and those of the others stay. -/
theorem itemCost_soldStore {dto : SaleService.CreateSaleDto} {items : List ProcessedSaleItem}
    {totals : SaleTotals} (id : Id) :
    (soldStore db clock tenantId dto items totals s).pos.itemCost id = s.pos.itemCost id +
      if s.sales.next = id then
        (items.map fun item => db.decimal item.unitCost * (item.quantity : ℚ)).sum else 0 := by
  have hsum := Serial.sum_foldl_create (t := s.saleItems)
    (fun item : ProcessedSaleItem => SaleItem.mk s.sales.next item.productId item.quantity
      (db.decimal item.unitPrice) (db.decimal item.unitCost) (db.decimal item.discountAmount)
      (db.decimal item.lineTotal))
    (fun i : SaleItem => if i.saleId = id then i.unitCost * (i.quantity : ℚ) else 0) items
  refine hsum.trans ?_
  by_cases hid : s.sales.next = id
  · simp only [hid, if_true]
    rfl
  · simp only [hid, if_false, List.map_const', List.sum_replicate, nsmul_zero]
    rfl

/-- A quick sale whose lots are charged at what is recorded. -/
theorem costsSound_sold (hdecimal : ∀ x (n : ℤ), db.decimal (db.decimal x * n) = db.decimal x * n)
    (hI : CostsSound s.pos s.costOut) {dto : SaleService.CreateSaleDto}
    {items : List ProcessedSaleItem} {totals : SaleTotals}
    (hitems : items = dto.items.map (processItem db tenantId dto.locationId s))
    (hq : ∀ item ∈ dto.items, 0 ≤ item.quantity.floor)
    (hcharged : EachBooking db (Booking.ChargedAt db (CreateSaleDto.recordedCost db s dto))
      (BulkStockOutDto.bookings tenantId (CreateSaleDto.stockOut s dto)) s) :
    CostsSound (soldStore db clock tenantId dto items totals s).pos
      (executeStockOut db tenantId (CreateSaleDto.stockOut s dto)
        (soldStore db clock tenantId dto items totals s)).2.costOut := by
  set sold := soldStore db clock tenantId dto items totals s
  -- The other sales keep their items and their movements.
  have hothers : ∀ id, s.sales.next ≠ id →
      (executeStockOut db tenantId (CreateSaleDto.stockOut s dto) sold).2.costOut id =
        s.costOut id :=
    fun id hid => costOut_executeStockOut_of_ne fun hfor => hid (Option.some.inj hfor)
  have hcostless : ∀ id, s.sales.next ≠ id → s.pos.Costless id → sold.pos.Costless id := by
    intro id hid hcost
    exact Serial.All_foldl_create (P := fun i : SaleItem => i.saleId = id → i.unitCost = 0) items hcost
      fun item _ hsale => absurd hsale hid
  have hold : ∀ {id sale}, s.sales.find? id = some sale → s.sales.next ≠ id := by
    rintro id sale hfind rfl
    rw [Serial.find?_next] at hfind
    cases hfind
  constructor
  · intro id sale hfind hcompleted
    rcases Serial.find?_create_cases hfind with hfound | ⟨hid, _⟩
    · rw [itemCost_soldStore, if_neg (hold hfound), hothers id (hold hfound),
        ← hI.completed id sale hfound hcompleted]
      exact add_zero _
    · obtain ⟨hcostless, hzero⟩ := hI.fresh id hid.ge
      have hfor : BulkStockOutDto.soldFor (CreateSaleDto.stockOut s dto) = some id :=
        congrArg some hid.symm
      have hquantity : ∀ item ∈ (CreateSaleDto.stockOut s dto).items, 0 ≤ item.2 := by
        intro x hx
        obtain ⟨item, hmem, rfl⟩ := List.mem_map.mp hx
        exact hq item hmem
      have hsold : EachBooking db (Booking.ChargedAt db (CreateSaleDto.recordedCost db s dto))
          (BulkStockOutDto.bookings tenantId (CreateSaleDto.stockOut s dto)) sold :=
        eachBooking_writeSales (s := s) sold.sales sold.saleItems sold.salePayments sold.saleRefunds
          hcharged
      have hout := costOut_executeStockOut hfor hquantity (fun p n => hdecimal _ n) hsold
      have hsame : sold.costOut id = 0 := hzero
      rw [itemCost_soldStore, if_pos hid.symm, itemCost_of_costless hcostless, hout, hsame, hitems,
        CreateSaleDto.stockOut, saleStockOut, List.map_map, List.map_map]
      rfl
  · intro id sale hfind hdraft
    rcases Serial.find?_create_cases hfind with hfound | ⟨_, hrow⟩
    · obtain ⟨hcost, hzero⟩ := hI.draft id sale hfound hdraft
      exact ⟨hcostless id (hold hfound) hcost, (hothers id (hold hfound)).trans hzero⟩
    · rw [hrow] at hdraft
      cases hdraft
  · intro id hid
    have hlt : s.sales.next < id := hid
    obtain ⟨hcost, hzero⟩ := hI.fresh id hlt.le
    exact ⟨hcostless id hlt.ne hcost, (hothers id hlt.ne).trans hzero⟩

/-- Removals at no cost add none. -/
theorem costOut_executeStockOut_costless
    (hdecimal : ∀ x (n : ℤ), db.decimal (db.decimal x * n) = db.decimal x * n)
    {dto : BulkStockOutDto} (hq : ∀ item ∈ dto.items, 0 ≤ item.2)
    (hcharged : BulkStockOutDto.soldFor dto = some saleId →
      EachBooking db (Booking.ChargedAt db fun _ => 0) (BulkStockOutDto.bookings tenantId dto) s) :
    (executeStockOut db tenantId dto s).2.costOut saleId = s.costOut saleId := by
  by_cases hfor : BulkStockOutDto.soldFor dto = some saleId
  · have hzero : ∀ (_ : Id) (n : ℤ), db.decimal (0 * n) = 0 * n := by
      intro _ n
      have h := hdecimal 0 0
      simp only [Int.cast_zero, mul_zero] at h
      rw [zero_mul, h]
    rw [costOut_executeStockOut hfor hq hzero (hcharged hfor)]
    simp
  · exact costOut_executeStockOut_of_ne hfor

/-- The completion of a cart of goods that are charged at nothing. -/
theorem costsSound_completed
    (hdecimal : ∀ x (n : ℤ), db.decimal (db.decimal x * n) = db.decimal x * n)
    (hs : WellFormed s) (hI : CostsSound s.pos s.costOut) {payments : List PaymentDto}
    {read : SaleWithItems} {totals : SaleTotals}
    (hread : readComplete tenantId saleId payments s = .ok (read, totals))
    (hcharged : EachBooking db (Booking.ChargedAt db fun _ => 0)
      (BulkStockOutDto.bookings tenantId (completionOut saleId read)) s)
    (h : executeCompletionTransaction db tenantId saleId payments read totals s s = .ok ((), s')) :
    CostsSound s'.pos s'.costOut := by
  obtain ⟨hfind, _, hdraft, hitems, _⟩ := readComplete_ok hread
  have hq : ∀ item ∈ (completionOut saleId read).items, 0 ≤ item.2 := by
    intro x hx
    obtain ⟨r, hr, rfl⟩ := List.mem_map.mp hx
    exact (itemsOf_sound hs hfind (hitems ▸ hr)).2.1
  have hcost : ∀ id, s'.costOut id = s.costOut id := by
    intro id
    obtain ⟨_, hupdate⟩ := executeCompletionTransaction_ok h
    obtain ⟨rfl, _⟩ := updateSale_ok hupdate
    refine costOut_executeStockOut_costless hdecimal hq fun _ => ?_
    exact eachBooking_writeSales (s := s) s.sales s.saleItems
      (createPayments db saleId payments s).salePayments s.saleRefunds hcharged
  have hsame : s'.costOut = s.costOut := funext hcost
  rw [pos_executeCompletionTransaction h, hsame]
  constructor
  · intro id sale hsale hcompleted
    rcases Table.find?_modify_cases hsale with ⟨_, hold⟩ | ⟨rfl, sale₀, hold, rfl⟩
    · exact hI.completed id sale hold hcompleted
    · obtain rfl := Option.some.inj (hold.symm.trans hfind)
      obtain ⟨hcostless, hzero⟩ := hI.draft id read.sale hold hdraft
      exact (itemCost_of_costless hcostless).trans hzero.symm
  · intro id sale hsale hstatus
    rcases Table.find?_modify_cases hsale with ⟨_, hold⟩ | ⟨rfl, sale₀, hold, rfl⟩
    · exact hI.draft id sale hold hstatus
    · cases hstatus
  · exact hI.fresh

/-- Requests that meet the condition keep the costs of sales sound. -/
theorem costsSound_of_costsRecorded
    (hdecimal : ∀ x (n : ℤ), db.decimal (db.decimal x * n) = db.decimal x * n)
    (hs : WellFormed s) (hI : CostsSound s.pos s.costOut) (hok : CostsRecorded db s call) :
    CostsSound (step db call s).pos (step db call s).costOut := by
  obtain ⟨clock, request⟩ := call
  cases request with
  | createSale tenantId dto =>
    refine step_preserves_of_serve (P := fun s' : Store => CostsSound s'.pos s'.costOut)
      (SaleService.create db clock tenantId dto) rfl hI fun id s' hvalid h => ?_
    have hcharged := hok ⟨hvalid, passes_createSale h⟩
    obtain ⟨⟨items, totals⟩, hread, h⟩ := Except.bind_eq_ok_iff.mp h
    obtain ⟨hitems, _⟩ := readCreateSale_ok hread
    obtain ⟨_, _, rfl⟩ := executeSaleTransaction_ok h
    have hout : saleStockOut dto.locationId s.sales.next
        (items.map fun item => (item.productId, item.quantity)) = CreateSaleDto.stockOut s dto := by
      rw [hitems, List.map_map]
      rfl
    rw [hout, pos_executeStockOut]
    refine costsSound_sold hdecimal hI hitems (fun item hitem => ?_) hcharged
    exact Int.floor_nonneg.mpr (le_trans (by norm_num) (hvalid.1 item hitem).1)
  | completeSale tenantId saleId payments =>
    refine step_preserves_of_serve (P := fun s' : Store => CostsSound s'.pos s'.costOut)
      (SaleService.complete db tenantId saleId payments) rfl hI fun _ s' hvalid h => ?_
    have hcharged := hok ⟨hvalid, passes_completeSale h⟩
    obtain ⟨⟨read, totals⟩, hread, h⟩ := Except.bind_eq_ok_iff.mp h
    obtain ⟨hfind, _, _, hitems, _⟩ := readComplete_ok hread
    refine costsSound_completed hdecimal hs hI hread ?_ h
    have hread : read = ⟨read.sale, s.itemsOf saleId⟩ := by rw [← hitems]
    rw [hread]
    exact hcharged read.sale hfind
  | stockOut tenantId dto =>
    -- Stock taken out by hand may name a sale as its reference.
    refine costsSound_step hI (saleStep hs) id ?_
    refine step_preserves_of_serve
      (P := fun s' : Store => ∀ id, s.MayCount id → s'.costOut id = s.costOut id)
      (fun s => stockOut db tenantId dto s s) rfl (fun _ _ => rfl) fun _ s' hvalid h id hcounts => ?_
    have hcharged := hok ⟨hvalid, isOk_of_bind h⟩
    obtain ⟨_, _, h⟩ := Except.bind_eq_ok_iff.mp h
    obtain rfl : (executeStockOut db tenantId dto s).2 = s' := congrArg Prod.snd (Except.ok.inj h)
    exact costOut_executeStockOut_costless hdecimal
      (fun item hitem => zero_le_one.trans (hvalid item hitem))
      fun hfor => hcharged id hfor hcounts
  | _ =>
    exact costsSound_step hI (saleStep hs) id fun _ _ => costOut_step_of_not_sells hs id

end Steps

/-- In every run in which sales take only lots that are charged at what is recorded: the items of a
completed sale cost what its movements out do. -/
theorem itemCost_eq_costOut
    (hdecimal : ∀ x (n : ℤ), db.decimal (db.decimal x * n) = db.decimal x * n)
    (h : ReachableBy db (CostsRecorded db) c s) {sale : Sale}
    (hfind : s.sales.find? saleId = some sale) (hcompleted : sale.status = .completed) :
    s.itemCost saleId = s.costOut saleId := by
  have hboth : WellFormed s ∧ CostsSound s.pos s.costOut := by
    refine Runs.invariant (I := fun s : Store => WellFormed s ∧ CostsSound s.pos s.costOut) h ?_ ?_
    · refine ⟨wellFormed_initial c, fun _ _ h => (by cases h), fun _ _ h => (by cases h), ?_⟩
      exact fun _ _ => ⟨fun _ _ h => (by cases h), rfl⟩
    · rintro s call ⟨hs, hI⟩ hok
      exact ⟨wellFormed_step hs, costsSound_of_costsRecorded hdecimal hs hI hok⟩
  exact hboth.2.completed saleId sale hfind hcompleted

/-- Ten received at one cost, and two of them sold. -/
def soldFromOneLot : List Call :=
  [⟨⟨0, 2024⟩, .stockIn 0 ⟨0, none, none, [⟨0, 10, 3 / 2, none⟩]⟩⟩,
    ⟨⟨1, 2024⟩, .createSale 0
      ⟨0, none, none, none, [⟨0, 2, some 5, none⟩], [⟨.cash, 10⟩], none⟩⟩]

def oneLotStore : Store := serveAll .scale4 soldFromOneLot (Store.initial (.shop .fifo))

def oneLotSale : Sale := (oneLotStore.sales.find? 0).get (by decide +kernel)

theorem itemCost_eq_costOut_oneLot : oneLotStore.itemCost 0 = oneLotStore.costOut 0 :=
  have hrun : ReachableBy .scale4 (CostsRecorded .scale4) (.shop .fifo) oneLotStore :=
    runs_serveAll (by decide +kernel)
  have hfind : oneLotStore.sales.find? 0 = some oneLotSale := (Option.some_get _).symm
  itemCost_eq_costOut Database.scale4_mul_int hrun hfind (by decide +kernel)

/-- The cart of one from ten is completed. -/
def completedCart : Store :=
  serveAll .exact (openCart ++ [⟨⟨3, 2024⟩, .completeSale 0 0 [⟨.cash, 5⟩]⟩])
    (Store.initial (.shop .fifo))

/-- Two lots are received at different costs, and one sale takes from both. -/
def takenFromTwoLots : Store :=
  serveAll .exact
    [⟨⟨0, 2024⟩, .stockIn 0 ⟨0, none, none, [⟨0, 1, 1, none⟩]⟩⟩,
      ⟨⟨1, 2024⟩, .stockIn 0 ⟨0, none, none, [⟨0, 1, 3, none⟩]⟩⟩,
      ⟨⟨2, 2024⟩, .createSale 0
        ⟨0, none, none, none, [⟨0, 2, some 5, none⟩], [⟨.cash, 10⟩], none⟩⟩]
    (Store.initial (.shop .fifo))

/-- The items of a completed cart are recorded at no cost at all, and those of a sale from two lots
at the cost of the older one. -/
theorem cart_costs_nothing :
    (Reachable .exact (.shop .fifo) completedCart ∧
      (completedCart.sales.find? 0).map Sale.status = some .completed ∧
      completedCart.itemCost 0 = 0 ∧ completedCart.costOut 0 = 1) ∧
    Reachable .exact (.shop .fifo) takenFromTwoLots ∧
      (takenFromTwoLots.sales.find? 0).map Sale.status = some .completed ∧
      takenFromTwoLots.itemCost 0 = 2 ∧ takenFromTwoLots.costOut 0 = 4 :=
  ⟨⟨reachable_serveAll _ _ _, by decide +kernel, by decide +kernel, by decide +kernel⟩,
    reachable_serveAll _ _ _, by decide +kernel, by decide +kernel, by decide +kernel⟩

end Invetrixa
