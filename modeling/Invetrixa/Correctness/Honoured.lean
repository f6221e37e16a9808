import Invetrixa.Correctness.Checkout
import Invetrixa.Correctness.Races
import Invetrixa.Refinement.SaleSteps

/-!
# Reservations are honoured

Whatever takes stock or promises it looks first at what is on hand and not reserved. The reserved
quantity may be left too high, by the completion of a cart, but nothing leaves it below the active
reservations. So what is promised is there, as long as no request names a product twice.

## Main definitions

- `Store.Honours` — the counter covers the active reservations, and the stock the counter
- `Gains` — stock comes in, and nothing is promised
- `PosTables.CartsDistinct` — a cart has each product once

## Main results

- `honours_step`, `reservations_honoured`
-/

namespace Invetrixa

open Rowstore Requests MovementService TransferService SaleService CartService RefundService

/-- No reservation is of a negative quantity, the reserved quantity of a place covers its active
reservations, and what is reserved is on hand. -/
structure Store.Honours (s : Store) : Prop where
  quantities : s.reservations.All fun _ r => 0 ≤ r.quantity
  counted : ∀ p l, s.activeQty p l ≤ s.reserved p l
  stocked : ∀ p l, s.reserved p l ≤ s.onHand p l

/-- No place has less than before, and the reservations with their counter stay. -/
structure Gains (s s' : Store) : Prop where
  onHand : ∀ p l, s.onHand p l ≤ s'.onHand p l
  reserved : ∀ p l, s'.reserved p l = s.reserved p l
  reservations : s'.reservations = s.reservations

variable {db : Database} {c : Catalogue} {clock : Clock} {tenantId : Id} {s s' : Store}

section Gains

theorem Gains.refl (s : Store) : Gains s s := ⟨fun _ _ => le_rfl, fun _ _ => rfl, rfl⟩

theorem Gains.trans {s'' : Store} (h : Gains s s') (h' : Gains s' s'') : Gains s s'' where
  onHand p l := (h.onHand p l).trans (h'.onHand p l)
  reserved p l := (h'.reserved p l).trans (h.reserved p l)
  reservations := h'.reservations.trans h.reservations

/-- Balances and reservations are all that counts. -/
theorem gains_of_balances (hb : s'.balances = s.balances)
    (hr : s'.reservations = s.reservations) : Gains s s' where
  onHand p l := by rw [Store.onHand, Store.onHand, hb]
  reserved p l := by rw [Store.reserved, Store.reserved, hb]
  reservations := hr

/-- A loop gains when each of its turns does. -/
theorem gains_foldl {β : Type} {f : Store → β → Store} {items : List β}
    (h : ∀ x ∈ items, ∀ s, Gains s (f s x)) : Gains s (items.foldl f s) := by
  induction items generalizing s with
  | nil => exact Gains.refl s
  | cons x rest ih =>
    exact (h x List.mem_cons_self s).trans (ih fun y hy => h y (List.mem_cons_of_mem _ hy))

theorem gains_recordReceipt {m : StockMovement} {batchId : Option Id} (hq : 0 ≤ m.quantity) :
    Gains s (recordReceipt db clock m batchId s) where
  onHand p l := by
    rw [recordReceipt_eq]
    show _ ≤
      (BalanceService.updateBalance m.productId m.locationId m.tenantId m.quantity s).onHand p l
    rw [onHand_updateBalance (.inl hq)]
    split
    · omega
    · omega
  reserved p l := reserved_updateBalance
  reservations := rfl

theorem gains_voidItem {saleId locationId : Id} {item : SaleItem} (hq : 0 ≤ item.quantity) :
    Gains s (voidItem db tenantId saleId locationId s item) where
  onHand p l := by
    simp only [Store.onHand, voidItem, Table.find?_modifyWhere]
    show _ ≤ ((((s.balances.find? (p, l)).map _).map InventoryBalance.onHandQuantity).getD 0)
    cases s.balances.find? (p, l) with
    | none => exact le_rfl
    | some b =>
      simp only [Option.map_some, Option.getD_some]
      split
      · exact le_add_of_nonneg_right hq
      · exact le_rfl
  reserved p l := reserved_voidItem _ _ _ _
  reservations := rfl

theorem gains_executeStockIn {dto : BulkStockInDto} (hq : ∀ item ∈ dto.items, 0 ≤ item.quantity) :
    Gains s (executeStockIn db clock tenantId dto s).2 := by
  rw [executeStockIn_eq]
  exact gains_foldl fun item hitem s => gains_recordReceipt (hq item hitem)

theorem gains_commitReceive {id : Id} {items : List ReceiveItemDto} {t : StockTransfer} :
    Gains s (commitReceive db clock tenantId id items t s) := by
  have hmark : Gains s (updateTransfer id (fun t =>
      { t with status := .completed, receivedAt := some clock.time }) s) :=
    gains_of_balances rfl rfl
  refine hmark.trans (gains_foldl fun item _ s => ?_)
  rw [TransferService.receiveItem]
  split
  · exact Gains.refl s
  · next r _ =>
    have hitem : Gains s (updateTransfer id (markReceived item r) s) := gains_of_balances rfl rfl
    dsimp only
    split
    · next hpos => exact hitem.trans (gains_recordReceipt (le_of_lt hpos))
    · exact hitem

theorem gains_commitCancel {id : Id} {t : StockTransfer} :
    Gains s (commitCancel db clock tenantId id t s) := by
  have hback : Gains s (if t.status = .inTransit then
      t.items.foldl (cancelItem db clock tenantId id t) s else s) := by
    split
    · refine gains_foldl fun item _ s => ?_
      rw [cancelItem]
      split
      · next hpos => exact gains_recordReceipt (le_of_lt hpos)
      · exact Gains.refl s
    · exact Gains.refl s
  exact hback.trans (gains_of_balances rfl rfl)

/-- What is returned comes back in the quantities that are named. -/
theorem gains_returnStock {refundId : Id} {dto : CreateRefundDto} {read : SaleWithItems}
    {client : Store} (hq : ∀ item ∈ dto.items.getD [], 0 ≤ item.quantity)
    (h : returnStock db clock tenantId refundId dto read client s = .ok s') : Gains s s' := by
  obtain rfl | ⟨items, rfl, hitems⟩ := returnStock_ok h
  · exact Gains.refl s'
  · refine gains_executeStockIn fun item hitem => ?_
    obtain ⟨_, asked, hasked, heq⟩ := hitems item hitem
    have hnonneg := hq asked hasked
    rw [← heq] at hnonneg
    exact_mod_cast hnonneg

theorem Store.Honours.gains (h : s.Honours) (hgains : Gains s s') : s'.Honours where
  quantities := hgains.reservations ▸ h.quantities
  counted p l := by
    rw [hgains.reserved, Store.activeQty, hgains.reservations]
    exact h.counted p l
  stocked p l := by
    rw [hgains.reserved]
    exact (h.stocked p l).trans (hgains.onHand p l)

end Gains

section Takes

/-- Lines for different places fit when each is available at its own. -/
theorem linesFit_of_distinct {lines : List Line}
    (hnodup : (lines.map fun line => (line.productId, line.locationId)).Nodup)
    (havail : ∀ line ∈ lines, s.reserved line.productId line.locationId ≤
      s.onHand line.productId line.locationId + line.quantity) : LinesFit s lines := by
  have hnet : ∀ line ∈ lines, netChange lines line.productId line.locationId = line.quantity := by
    clear havail
    induction lines with
    | nil => exact fun _ h => (by cases h)
    | cons first rest ih =>
      rw [List.map_cons, List.nodup_cons] at hnodup
      have happart : ∀ line ∈ rest, ¬(line.productId = first.productId ∧
          line.locationId = first.locationId) := by
        rintro line hline ⟨hp, hl⟩
        apply hnodup.1
        rw [← hp, ← hl]
        exact List.mem_map_of_mem hline
      intro line hline
      rcases List.mem_cons.mp hline with rfl | hrest
      · show line.change _ _ + netChange rest _ _ = _
        rw [netChange_eq_zero happart, add_zero]
        exact if_pos ⟨rfl, rfl⟩
      · show first.change _ _ + netChange rest _ _ = _
        have hother : ¬(first.productId = line.productId ∧ first.locationId = line.locationId) :=
          fun heq => happart line hrest ⟨heq.1.symm, heq.2.symm⟩
        rw [ih hnodup.2 line hrest, Line.change, if_neg hother, zero_add]
  intro line hline
  rw [hnet line hline]
  exact havail line hline

/-- What is available to a tenant is on hand and not reserved. -/
theorem reserved_add_le_onHand {p l : Id} {q : ℤ} (h : s.Honours)
    (havail : q ≤ s.available tenantId p l) : s.reserved p l + q ≤ s.onHand p l := by
  by_cases hpos : 0 < s.available tenantId p l
  · obtain ⟨b, hb, _, heq⟩ := exists_balance_of_available_pos hpos
    have hreserved : s.reserved p l = b.reservedQuantity := by rw [Store.reserved, hb]; rfl
    have honHand : s.onHand p l = b.onHandQuantity := by rw [Store.onHand, hb]; rfl
    omega
  · have hplace := h.stocked p l
    omega

/-- Lines that fit are taken from what is not promised. -/
theorem Store.Honours.takes {lines : List Line} (h : s.Honours) (htakes : Takes s s' lines)
    (hfit : LinesFit s lines) (hquantities : s'.reservations.All fun _ r => 0 ≤ r.quantity)
    (hactive : ∀ p l, s'.activeQty p l ≤ s.activeQty p l) : s'.Honours where
  quantities := hquantities
  counted p l := by
    rw [htakes.reserved]
    exact (hactive p l).trans (h.counted p l)
  stocked p l := by
    rw [htakes.onHand, htakes.reserved]
    by_cases hline : ∃ line ∈ lines, line.productId = p ∧ line.locationId = l
    · obtain ⟨line, hmem, rfl, rfl⟩ := hline
      exact hfit line hmem
    · rw [netChange_eq_zero fun line hmem hpl => hline ⟨line, hmem, hpl⟩, add_zero]
      exact h.stocked p l

end Takes

section Reservations

open ReservationService

variable {id : Id}

/-- A promise of what is not promised yet. -/
theorem Store.Honours.reserve (h : s.Honours) {r : StockReservation} (hactive : r.status = .active)
    (hq : 0 ≤ r.quantity)
    (havail : r.quantity ≤
      s.onHand r.productId r.locationId - s.reserved r.productId r.locationId) :
    (ReservationService.reserve r s).Honours where
  quantities := Serial.All_create h.quantities hq
  counted p l := by
    rw [reserved_reserve, activeQty_reserve hactive]
    exact add_le_add_left (h.counted p l) _
  stocked p l := by
    have hplace := h.stocked p l
    rw [reserved_reserve, onHand_reserve]
    split
    · next hpl =>
      obtain ⟨rfl, rfl⟩ := hpl
      omega
    · omega

/-- A promise is changed by no more than what is not promised yet. -/
theorem Store.Honours.amend (h : s.Honours) {f : StockReservation → StockReservation} {p' l' : Id}
    {diff : ℤ} (hguard : Booking.Guard s (.amend id f p' l' diff))
    (hq : ∀ r, 0 ≤ r.quantity → 0 ≤ (f r).quantity)
    (havail : 0 < diff → diff ≤ s.onHand p' l' - s.reserved p' l') :
    (book db (.amend id f p' l' diff) s).Honours where
  quantities := Table.All.modify h.quantities fun r _ hr => hq r hr
  counted p l := by
    rw [reserved_amend hguard.1, activeQty_amend hguard]
    exact add_le_add_left (h.counted p l) _
  stocked p l := by
    have hplace := h.stocked p l
    have honHand : (book db (.amend id f p' l' diff) s).onHand p l = s.onHand p l := by
      refine onHand_of_map (find?_amend id f p' l' diff) fun b => ?_
      split <;> rfl
    rw [reserved_amend hguard.1, honHand]
    split
    · next hpl =>
      obtain ⟨rfl, rfl⟩ := hpl
      by_cases hpos : 0 < diff
      · have hfits := havail hpos
        omega
      · omega
    · omega

theorem Store.Honours.create (h : s.Honours) {dto : CreateReservationDto} (hq : 0 ≤ dto.quantity)
    (hok : ReservationService.create clock tenantId dto s = .ok (id, s')) : s'.Honours := by
  obtain ⟨_, hread, hok⟩ := Except.bind_eq_ok_iff.mp hok
  obtain ⟨quantity, hint, hok⟩ := Except.bind_eq_ok_iff.mp hok
  obtain ⟨rfl, rfl⟩ := Prod.mk.inj (Except.ok.inj hok)
  have havail := (readCreate_ok hread).2
  rw [intColumn_ok hint] at hq havail
  refine h.reserve rfl ?_ ?_
  · exact_mod_cast hq
  · exact_mod_cast havail

theorem Store.Honours.update (h : s.Honours) (hs : WellFormed s) {dto : UpdateReservationDto}
    (hvalid : UpdateReservationDto.Valid dto)
    (hok : ReservationService.update clock tenantId id dto s = .ok ((), s')) : s'.Honours := by
  obtain ⟨r, hread, hok⟩ := Except.bind_eq_ok_iff.mp hok
  obtain ⟨hfind, hactive⟩ := readUpdate_ok hread
  obtain ⟨rfl, _, havail⟩ := commitUpdate_ok .exact hok
  refine h.amend (guard_amend hs hfind ⟨rfl, rfl, rfl⟩ (share_updateData hactive)) ?_ havail
  intro r' hr'
  show 0 ≤ dto.quantity.getD r'.quantity
  cases hquantity : dto.quantity with
  | none => exact hr'
  | some q =>
    rw [UpdateReservationDto.Valid, hquantity] at hvalid
    exact zero_le_one.trans hvalid

/-- A promise that is closed is taken back whole. -/
theorem Store.Honours.close (h : s.Honours) (hs : WellFormed s) {status : ReservationStatus}
    {r : StockReservation} (hstatus : status ≠ .active)
    (hfind : s.reservations.find? id = some r) (hactive : r.status = .active)
    (hok : ReservationService.close id status r s = .ok ((), s')) : s'.Honours := by
  obtain ⟨rfl, _⟩ := close_ok .exact hok
  refine h.amend (guard_amend hs hfind ⟨rfl, rfl, rfl⟩ (share_close hstatus hactive))
    (fun _ hr => hr) fun hpos => ?_
  have hq := h.quantities id r hfind
  omega

theorem Store.Honours.release (h : s.Honours) (hs : WellFormed s)
    (hok : ReservationService.release tenantId id s = .ok ((), s')) : s'.Honours := by
  obtain ⟨r, hread, hok⟩ := Except.bind_eq_ok_iff.mp hok
  obtain ⟨hfind, hactive⟩ := readRelease_ok hread
  exact h.close hs (by decide) hfind hactive hok

theorem Store.Honours.process (h : s.Honours) (hs : WellFormed s)
    (hok : ReservationQueueProcessor.process clock tenantId id s = .ok ((), s')) : s'.Honours := by
  rw [ReservationQueueProcessor.process] at hok
  split at hok
  · obtain rfl := congrArg Prod.snd (Except.ok.inj hok)
    exact h
  · next r hread =>
    obtain ⟨hfind, hactive⟩ := readProcess_eq_some hread
    exact h.close hs (by decide) hfind hactive hok

theorem heldAt_nonneg (h : s.reservations.All fun _ r => 0 ≤ r.quantity)
    (sel : StockReservation → Bool) (p l : Id) :
    0 ≤ heldAt ((s.reservations.rows.filter fun r => sel r.2).map Prod.snd) p l := by
  rw [heldAt_filter]
  refine Table.sum_nonneg fun k r hr => ?_
  split
  · split
    · exact h k r hr
    · exact le_rfl
  · exact le_rfl

/-- The promises of abandoned carts are taken back together. -/
theorem Store.Honours.expireCarts (h : s.Honours) (hs : WellFormed s)
    {read : CartCleanupService.Abandoned} (hread : Booking.Guard s (.expireCarts read)) :
    (book db (.expireCarts read) s).Honours where
  quantities := by
    rw [book, releaseReservedQuantities_eq]
    exact Table.All.modifyWhere h.quantities fun _ _ hr _ => hr
  counted p l := by
    rw [reserved_expireCarts hs hread, activeQty_expireCarts hread]
    exact sub_le_sub_right (h.counted p l) _
  stocked p l := by
    have hfind := find?_releaseReservedQuantities _ _
      (expireCarts_tenants hs hread) (p := p) (l := l)
    have honHand : (book db (.expireCarts read) s).onHand p l = s.onHand p l :=
      onHand_of_map hfind fun _ => rfl
    have hheld : 0 ≤ heldAt read.reservations p l := by
      rw [show read.reservations = _ from hread]
      exact heldAt_nonneg h.quantities _ p l
    have hplace := h.stocked p l
    rw [reserved_expireCarts hs hread, honHand]
    omega

theorem Store.Honours.cleanup (h : s.Honours) (hs : WellFormed s)
    {r : CartCleanupService.CleanupResult}
    (hok : CartCleanupService.cleanupAbandonedCarts clock s = .ok (r, s')) : s'.Honours := by
  rw [CartCleanupService.cleanupAbandonedCarts] at hok
  split at hok
  · obtain rfl := congrArg Prod.snd (Except.ok.inj hok)
    exact h
  · next read hread =>
    obtain ⟨_, hguard⟩ := readCleanup_eq_some hread
    obtain ⟨s₁, hdelete, hok⟩ := Except.bind_eq_ok_iff.mp hok
    obtain rfl : s₁ = s' := congrArg Prod.snd (Except.ok.inj hok)
    obtain ⟨_, rfl⟩ := deleteCarts_ok hdelete
    have hexpired : (book .exact (.expireCarts read) s).Honours := h.expireCarts hs hguard
    exact hexpired.gains (gains_of_balances rfl rfl)

end Reservations

section Carts

variable {cartId itemId : Id}

/-- A transaction keeps what its successful runs keep. -/
theorem honours_transaction {α : Type} {f : Store → Except HttpError (α × Store)} (h : s.Honours)
    (hrun : ∀ a s', f s = .ok (a, s') → s'.Honours) : (transaction f s).2.Honours :=
  transaction_preserves (I := Store.Honours) h hrun

/-- The totals of a cart, after its items. -/
theorem gains_recalculateCart {saleItems : Serial SaleItem}
    (h : recalculateCart db cartId { s with saleItems } = .ok s') : Gains s s' := by
  obtain ⟨_, _, h⟩ := recalculateCart_eq_ok_iff.mp h
  obtain ⟨rfl, _⟩ := updateSale_ok h
  exact gains_of_balances rfl rfl

theorem gains_commitAddItem {dto : AddCartItemDto} {product : Product}
    {existing : Option (Id × SaleItem)}
    (h : commitAddItem db cartId dto product existing s = .ok ((), s')) : Gains s s' := by
  obtain ⟨_, _, _, _, _, hrecalc⟩ | ⟨_, _, _, hrecalc⟩ := commitAddItem_ok h
  · exact gains_recalculateCart hrecalc
  · exact gains_recalculateCart hrecalc

theorem gains_commitUpdateItem {dto : UpdateCartItemDto} {item : SaleItem}
    (h : commitUpdateItem db cartId itemId dto item s = .ok ((), s')) : Gains s s' := by
  obtain ⟨_, _, hrecalc⟩ := commitUpdateItem_ok h
  exact gains_recalculateCart hrecalc

theorem gains_commitRemoveItem (h : commitRemoveItem db cartId itemId s = .ok ((), s')) :
    Gains s s' :=
  gains_recalculateCart (commitRemoveItem_ok h)

theorem honours_addItem (h : s.Honours) {dto : AddCartItemDto} (hq : 0 ≤ dto.quantity) :
    (addItem db clock tenantId cartId dto s).2.Honours := by
  refine addItem_cases (P := fun x => x.2.Honours) (fun _ => h) ?_
  intro cart product id s₁ _ hcreate
  have h₁ : s₁.Honours := h.create hq hcreate
  exact honours_transaction h₁ fun _ s' hok => h₁.gains (gains_commitAddItem hok)

theorem honours_releaseEach (h : s.Honours) (hs : WellFormed s) (ids : List Id) :
    (releaseEach tenantId ids s).2.Honours := by
  have hboth : (releaseEach tenantId ids s).2.Honours ∧
      WellFormed (releaseEach tenantId ids s).2 := by
    refine releaseEach_preserves (I := fun s => s.Honours ∧ WellFormed s) ⟨h, hs⟩ ?_ ids
    rintro id s s₁ ⟨h, hs⟩ hrelease
    have hbooks : Books .exact anyBooking s s₁ := books_release hs hrelease
    exact ⟨h.release hs hrelease, (hbooks.keeps hs).1⟩
  exact hboth.1

theorem honours_updateItem (h : s.Honours) (hs : WellFormed s) {dto : UpdateCartItemDto}
    (hq : 0 ≤ dto.quantity) :
    (updateItem db clock tenantId cartId itemId dto s).2.Honours := by
  refine updateItem_cases (P := fun x => x.2.Honours) (fun _ => h) ?_ ?_
  · intro cart item e _
    exact honours_releaseEach h hs _
  · intro cart item id s₁ s₂ _ heach hcreate
    have hrelease : (releaseReservations tenantId cartId item.productId s).2.Honours :=
      honours_releaseEach h hs _
    rw [heach] at hrelease
    have h₂ : s₂.Honours := hrelease.create hq hcreate
    exact honours_transaction h₂ fun _ s' hok => h₂.gains (gains_commitUpdateItem hok)

theorem honours_removeItem (h : s.Honours) (hs : WellFormed s) :
    (removeItem db tenantId cartId itemId s).2.Honours := by
  refine removeItem_cases (P := fun x => x.2.Honours) (fun _ => h) ?_ ?_
  · intro item e _
    exact honours_releaseEach h hs _
  · intro item s₁ _ heach
    have hrelease : (releaseReservations tenantId cartId item.productId s).2.Honours :=
      honours_releaseEach h hs _
    rw [heach] at hrelease
    exact honours_transaction hrelease fun _ s' hok => hrelease.gains (gains_commitRemoveItem hok)

end Carts

section DistinctItems

variable {saleId : Id} {t t' : PosTables}

/-- The sale is a cart. -/
def PosTables.Draft (t : PosTables) (saleId : Id) : Prop :=
  ∃ sale, t.sales.find? saleId = some sale ∧ sale.status = .draft

/-- No two items of a cart are of one product. -/
def PosTables.CartsDistinct (t : PosTables) : Prop :=
  ∀ k i k' i', t.saleItems.find? k = some i → t.saleItems.find? k' = some i' →
    t.Draft i.saleId → i.saleId = i'.saleId → i.productId = i'.productId → k = k'

/-- Carts that were carts before, with items that were theirs before. -/
theorem cartsDistinct_of_rows (h : t.CartsDistinct)
    (hrows : ∀ k i', t'.saleItems.find? k = some i' → t'.Draft i'.saleId → t.Draft i'.saleId ∧
      ∃ i, t.saleItems.find? k = some i ∧ i.saleId = i'.saleId ∧ i.productId = i'.productId) :
    t'.CartsDistinct := by
  intro k i k' i' hi hi' hdraft hsale hproduct
  obtain ⟨hold, j, hj, hjsale, hjproduct⟩ := hrows k i hi hdraft
  obtain ⟨_, j', hj', hjsale', hjproduct'⟩ := hrows k' i' hi' (hsale ▸ hdraft)
  refine h k j k' j' hj hj' (hjsale.symm ▸ hold) ?_ ?_
  · rw [hjsale, hjsale', hsale]
  · rw [hjproduct, hjproduct', hproduct]

/-- A sale that was there and is a cart was a cart before. -/
theorem draft_before {call : Call} (h : SaleStep db s call t) (hdraft : t.Draft saleId)
    (hold : ∃ sale, s.sales.find? saleId = some sale) : s.pos.Draft saleId := by
  obtain ⟨sale', hfind, hstatus⟩ := hdraft
  have hnext : saleId ≠ s.sales.next := by
    rintro rfl
    obtain ⟨sale, hsale⟩ := hold
    rw [Serial.find?_next] at hsale
    cases hsale
  have hrow := h.row hfind
  cases hrow with
  | opened _ _ _ _ hid _ => exact absurd hid hnext
  | sold _ _ _ _ _ _ hid _ => exact absurd hid hnext
  | kept sale hsale _ hsame => exact ⟨sale, hsale, hsame ▸ hstatus⟩
  | completed _ _ _ _ _ _ _ _ _ hafter =>
    rw [hafter] at hstatus
    cases hstatus
  | settled _ _ _ _ hafter => exact absurd hstatus hafter.1

/-- An addition looks for the product in the cart before it makes a new item of it. -/
theorem cartsDistinct_added {cartId : Id} {i : SaleItem} (hI : s.pos.CartsDistinct)
    (hnone : findExistingItem cartId i.productId s = none) (hsale : i.saleId = cartId)
    (hbefore : ∀ k j, s.saleItems.find? k = some j → t.Draft j.saleId → s.pos.Draft j.saleId)
    (ht : t.saleItems = s.saleItems.create i) : t.CartsDistinct := by
  have hnew : ∀ k j, s.saleItems.find? k = some j → j.saleId = i.saleId →
      j.productId ≠ i.productId := by
    intro k j hj hjsale hproduct
    have hmem : (k, j) ∈ s.itemsOf cartId :=
      List.mem_filter.mpr ⟨Table.mem_rows_of_find? hj, decide_eq_true (hjsale.trans hsale)⟩
    exact absurd (decide_eq_true hproduct) (List.find?_eq_none.mp hnone _ hmem)
  intro k j k' j' hj hj' hdraft hsame hproduct
  rw [ht] at hj hj'
  rcases Serial.find?_create_cases hj with hold | ⟨rfl, rfl⟩
  · rcases Serial.find?_create_cases hj' with hold' | ⟨rfl, rfl⟩
    · exact hI k j k' j' hold hold' (hbefore k j hold hdraft) hsame hproduct
    · exact absurd hproduct (hnew k j hold hsame)
  · rcases Serial.find?_create_cases hj' with hold' | ⟨rfl, _⟩
    · exact absurd hproduct.symm (hnew k' j' hold' hsame.symm)
    · rfl

/-- An edit keeps the sale and the product of each item, or adds an item of a product that the cart
does not have. -/
theorem CartEdit.rows {cartId : Id} {request : Request} {items : Serial SaleItem}
    (h : CartEdit db s cartId request items) :
    (∀ k i', items.find? k = some i' → ∃ i, s.saleItems.find? k = some i ∧
      i.saleId = i'.saleId ∧ i.productId = i'.productId) ∨
    ∃ i, items = s.saleItems.create i ∧ i.saleId = cartId ∧
      findExistingItem cartId i.productId s = none := by
  cases h with
  | merged =>
    refine .inl fun k i' hi' => ?_
    rcases Table.find?_modify_cases hi' with ⟨_, hold⟩ | ⟨rfl, i, hold, rfl⟩
    · exact ⟨i', hold, rfl, rfl⟩
    · exact ⟨i, hold, rfl, rfl⟩
  | added _ _ _ _ _ hnone _ => exact .inr ⟨_, rfl, rfl, hnone⟩
  | updated =>
    refine .inl fun k i' hi' => ?_
    rcases Table.find?_modify_cases hi' with ⟨_, hold⟩ | ⟨rfl, i, hold, rfl⟩
    · exact ⟨i', hold, rfl, rfl⟩
    · exact ⟨i, hold, rfl, rfl⟩
  | removed =>
    refine .inl fun k i' hi' => ⟨i', ?_, rfl, rfl⟩
    exact (Option.filter_eq_some_iff.mp ((Table.find?_deleteWhere _).symm.trans hi')).1

/-- Requests keep the products of carts distinct. -/
theorem cartsDistinct_step {call : Call} (hs : WellFormed s) (hI : s.pos.CartsDistinct)
    (h : SaleStep db s call t) : t.CartsDistinct := by
  have hbefore : ∀ k i, s.saleItems.find? k = some i → t.Draft i.saleId →
      s.pos.Draft i.saleId := by
    intro k i hi hdraft
    obtain ⟨sale, hsale, _⟩ := hs.saleItems k i hi
    exact draft_before h hdraft ⟨sale, hsale⟩
  -- Where no item is added, each was there before with its sale and its product.
  have hrows : (∀ k i', t.saleItems.find? k = some i' → ∃ i, s.saleItems.find? k = some i ∧
      i.saleId = i'.saleId ∧ i.productId = i'.productId) → t.CartsDistinct := by
    intro hitems
    refine cartsDistinct_of_rows hI fun k i' hi' hdraft => ?_
    obtain ⟨i, hi, hsale, hproduct⟩ := hitems k i' hi'
    exact ⟨hsale ▸ hbefore k i hi (hsale ▸ hdraft), i, hi, hsale, hproduct⟩
  cases h with
  | kept => exact hI
  | opened => exact hrows fun k i' hi' => ⟨i', hi', rfl, rfl⟩
  | written _ cartId cart saleItems hfind hdraft hedit =>
    rcases hedit.rows with hitems | ⟨i, rfl, hsale, hnone⟩
    · exact hrows hitems
    · exact cartsDistinct_added hI hnone hsale hbefore rfl
  | sold clock tenantId dto items totals hpasses hread =>
    -- The new items belong to the new sale, which is no cart.
    refine cartsDistinct_of_rows hI fun k i' hi' hdraft => ?_
    by_cases hnext : i'.saleId = s.sales.next
    · obtain ⟨sale, hfind, hstatus⟩ := hdraft
      have hnew : (s.sales.create (newSale db clock tenantId
          (generateSaleNumber clock tenantId s) dto totals)).find? i'.saleId = some sale := hfind
      rw [hnext, Serial.find?_create, if_pos rfl] at hnew
      obtain rfl := Option.some.inj hnew
      cases hstatus
    · have hkept : ((soldStore db clock tenantId dto items totals s).saleItems.find? k).filter
          (fun j => j.saleId = i'.saleId) =
            (s.saleItems.find? k).filter (fun j => j.saleId = i'.saleId) := by
        refine Serial.filter_find?_foldl_create
          (p := fun _ (j : SaleItem) => decide (j.saleId = i'.saleId)) items (fun _ _ _ _ => ?_) k
        exact decide_eq_false fun heq : s.sales.next = i'.saleId => hnext heq.symm
      obtain ⟨hold, _⟩ := Option.filter_eq_some_iff.mp
        (hkept.symm.trans (Option.filter_eq_some_iff.mpr ⟨hi', decide_eq_true rfl⟩))
      exact ⟨hbefore k i' hold hdraft, i', hold, rfl, rfl⟩
  | completed => exact hrows fun k i' hi' => ⟨i', hi', rfl, rfl⟩
  | voided => exact hrows fun k i' hi' => ⟨i', hi', rfl, rfl⟩
  | refunded => exact hrows fun k i' hi' => ⟨i', hi', rfl, rfl⟩
  | cleaned =>
    exact hrows fun k i' hi' => ⟨i', (Option.filter_eq_some_iff.mp
      ((Table.find?_deleteWhere _).symm.trans hi')).1, rfl, rfl⟩

/-- The products of a cart, one by one. -/
theorem nodup_products (h : s.pos.CartsDistinct) (hdraft : s.pos.Draft saleId) :
    ((s.itemsOf saleId).map fun r => r.2.productId).Nodup := by
  have hrows : (s.itemsOf saleId).Nodup :=
    (List.Nodup.of_map Prod.fst s.saleItems.nodup).filter _
  refine List.Nodup.map_on (fun x hx y hy heq => ?_) hrows
  obtain ⟨hfind, hsale⟩ := mem_itemsOf hx
  obtain ⟨hfind', hsale'⟩ := mem_itemsOf hy
  have hkey : x.1 = y.1 :=
    h x.1 x.2 y.1 y.2 hfind hfind' (hsale.symm ▸ hdraft) (hsale.trans hsale'.symm) heq
  rw [hkey] at hfind
  exact Prod.ext hkey (Option.some.inj (hfind.symm.trans hfind'))

end DistinctItems

section Requests

variable {call : Call} {saleId : Id}

/-- No product is named twice in a request that takes stock. -/
def Request.Distinct : Request → Prop
  | .stockOut _ dto => (dto.items.map Prod.fst).Nodup
  | .adjust _ dto => (dto.items.map BulkStockAdjustItemDto.productId).Nodup
  | .createSale _ dto => (dto.items.map CreateSaleItemDto.productId).Nodup
  | _ => True

instance : DecidablePred Request.Distinct := by
  rintro ⟨⟩
  all_goals dsimp only [Request.Distinct]; infer_instance

/-- Lines of different products at one location, each of which takes what is available. -/
theorem linesFit_of_available (tenantId : Id) {β : Type} {items : List β} {product : β → Id}
    {quantity : β → ℤ} {locationId : Id} (h : s.Honours) (hnodup : (items.map product).Nodup)
    (havail : ∀ x ∈ items, quantity x < 0 →
      -quantity x ≤ s.available tenantId (product x) locationId) :
    LinesFit s (items.map fun x => ⟨product x, locationId, quantity x⟩) := by
  apply linesFit_of_distinct
  · rw [List.map_map]
    refine List.Nodup.of_map Prod.fst ?_
    rw [List.map_map]
    exact hnodup
  · intro line hline
    obtain ⟨x, hx, rfl⟩ := List.mem_map.mp hline
    by_cases hneg : quantity x < 0
    · have hplace := reserved_add_le_onHand h (havail x hx hneg)
      show s.reserved (product x) locationId ≤ s.onHand (product x) locationId + quantity x
      omega
    · have hplace := h.stocked (product x) locationId
      show s.reserved (product x) locationId ≤ s.onHand (product x) locationId + quantity x
      omega

theorem reservations_executeAdjust {dto : BulkStockAdjustDto} :
    (executeAdjust db clock tenantId dto s).2.reservations = s.reservations := by
  rw [executeAdjust_eq]
  induction dto.items generalizing s with
  | nil => rfl
  | cons item rest ih =>
    rw [List.foldl_cons, ih, adjustLine]
    split
    · rfl
    · rw [recordIssue_eq]

theorem reservations_commitShip {id : Id} {t : StockTransfer} :
    (commitShip db clock tenantId id t s).reservations = s.reservations := by
  have hmarked : ∀ items : List StockTransferItem, ∀ s : Store,
      (items.foldl (shipItem db tenantId id t) s).reservations = s.reservations := by
    intro items
    induction items with
    | nil => exact fun _ => rfl
    | cons item rest ih =>
      intro s
      rw [List.foldl_cons, ih, shipItem_eq]
  exact hmarked _ _

/-- What is taken from the balances alone. -/
theorem Store.Honours.takesOnly {lines : List Line} (h : s.Honours) (htakes : Takes s s' lines)
    (hfit : LinesFit s lines) (hr : s'.reservations = s.reservations) : s'.Honours := by
  refine h.takes htakes hfit (hr ▸ h.quantities) fun p l => ?_
  rw [Store.activeQty, hr]
  exact le_rfl

/-- A completion takes its items from what is not promised, and its promises away. -/
theorem Store.Honours.complete (h : s.Honours) (hs : WellFormed s) (hI : s.pos.CartsDistinct)
    {payments : List PaymentDto}
    (hok : SaleService.complete db tenantId saleId payments s = .ok ((), s')) : s'.Honours := by
  have htakes := takes_complete hs hok
  have havail := fun sale (hsale : s.sales.find? saleId = some sale) =>
    available_of_complete hok hsale
  obtain ⟨⟨read, totals⟩, hread, hok⟩ := Except.bind_eq_ok_iff.mp hok
  obtain ⟨hfind, _, hdraft, _⟩ := readComplete_ok hread
  have hfit : LinesFit s (s.saleLines saleId) := by
    rw [Store.saleLines, hfind]
    refine linesFit_of_available tenantId h (nodup_products hI ⟨read.sale, hfind, hdraft⟩)
      fun r hr _ => ?_
    rw [neg_neg]
    exact havail read.sale hfind r hr
  obtain ⟨_, hupdate⟩ := executeCompletionTransaction_ok hok
  obtain ⟨rfl, _⟩ := updateSale_ok hupdate
  set out := (executeStockOut db tenantId (completionOut saleId read)
    (createPayments db saleId payments s)).2
  have hsame : out.reservations = s.reservations := (executeStockOut_frame db tenantId _ _).1
  have hquantities : out.reservations.All fun _ r => 0 ≤ r.quantity := hsame ▸ h.quantities
  refine h.takes htakes hfit (Table.All.modifyWhere hquantities fun _ _ hr _ => hr) fun p l => ?_
  have hactive : (fulfillReservations saleId out).activeQty p l = out.activeQty p l -
      heldAt ((out.reservations.rows.filter fun r => isReservationOf saleId r.2).map Prod.snd) p l :=
    activeQty_modifyWhere (isReservationOf saleId) .fulfilled (fun r hr => ?_) (by decide)
  · have hheld := heldAt_nonneg hquantities (isReservationOf saleId) p l
    have hout : out.activeQty p l = s.activeQty p l := by rw [Store.activeQty, hsame]; rfl
    show (fulfillReservations saleId out).activeQty p l ≤ s.activeQty p l
    omega
  · simp only [isReservationOf, Bool.decide_and, Bool.and_eq_true, decide_eq_true_eq] at hr
    exact hr.2.2

theorem Store.Honours.stockIn (h : s.Honours) {dto : BulkStockInDto} {r : BulkStockInResponse}
    (hvalid : BulkStockInDto.Valid dto)
    (hok : MovementService.stockIn db clock tenantId dto s = .ok (r, s')) : s'.Honours := by
  obtain ⟨_, rfl⟩ := stockIn_ok hok
  exact h.gains (gains_executeStockIn fun item hitem => zero_le_one.trans (hvalid item hitem).1)

theorem Store.Honours.stockOut (h : s.Honours) {dto : BulkStockOutDto} {r : BulkStockOutResponse}
    (hvalid : BulkStockOutDto.Valid dto) (hdistinct : (dto.items.map Prod.fst).Nodup)
    (hok : MovementService.stockOut db tenantId dto s s = .ok (r, s')) : s'.Honours := by
  obtain ⟨_, hread, hok⟩ := Except.bind_eq_ok_iff.mp hok
  obtain rfl : (executeStockOut db tenantId dto s).2 = s' := congrArg Prod.snd (Except.ok.inj hok)
  have havail := (validateStockOut_ok hread).2
  refine h.takesOnly (takes_executeStockOut fun item hitem => .inr ?_) ?_
    (executeStockOut_frame db tenantId dto s).1
  · exact hasBalance_of_available (lt_of_lt_of_le one_pos (hvalid item hitem)) (havail item hitem)
  · refine linesFit_of_available tenantId h hdistinct fun item hitem _ => ?_
    rw [neg_neg]
    exact havail item hitem

theorem Store.Honours.adjust (h : s.Honours) {dto : BulkStockAdjustDto}
    {r : BulkStockAdjustResponse}
    (hdistinct : (dto.items.map BulkStockAdjustItemDto.productId).Nodup)
    (hok : MovementService.adjust db clock tenantId dto s = .ok (r, s')) : s'.Honours := by
  obtain ⟨_, hread, hok⟩ := Except.bind_eq_ok_iff.mp hok
  obtain rfl : (executeAdjust db clock tenantId dto s).2 = s' :=
    congrArg Prod.snd (Except.ok.inj hok)
  have havail := (validateAdjust_ok hread).2
  refine h.takesOnly (takes_executeAdjust fun item hitem => ?_) ?_ reservations_executeAdjust
  · by_cases hneg : item.quantity < 0
    · exact .inr (hasBalance_of_available (neg_pos.mpr hneg) (havail item hitem hneg))
    · exact .inl (not_lt.mp hneg)
  · exact linesFit_of_available tenantId h hdistinct havail

theorem Store.Honours.createSale (h : s.Honours) {dto : CreateSaleDto} {id : Id}
    (hvalid : CreateSaleDto.Valid dto)
    (hdistinct : (dto.items.map CreateSaleItemDto.productId).Nodup)
    (hok : SaleService.create db clock tenantId dto s = .ok (id, s')) : s'.Honours := by
  have htakes := takes_createSale
    (fun item hitem => lt_of_lt_of_le (by norm_num) (hvalid.1 item hitem).1) hok
  obtain ⟨⟨items, totals⟩, hread, hok⟩ := Except.bind_eq_ok_iff.mp hok
  obtain ⟨_, _, _, havail⟩ := readCreateSale_ok hread
  obtain ⟨_, _, rfl⟩ := executeSaleTransaction_ok hok
  refine h.takesOnly htakes ?_ (executeStockOut_frame db tenantId _ _).1
  refine linesFit_of_available tenantId h hdistinct fun item hitem _ => ?_
  -- The quantity that leaves is what was asked for, or less by a part of one.
  rw [neg_neg]
  exact_mod_cast (Int.floor_le item.quantity).trans (havail item hitem)

theorem Store.Honours.ship (h : s.Honours) (hs : WellFormed s) {id : Id} {r : String}
    (hok : TransferService.ship db clock tenantId id s = .ok (r, s')) : s'.Honours := by
  obtain ⟨t, hread, rfl⟩ := ship_eq_ok hok
  obtain ⟨hfind, _, _, havail⟩ := readShip_ok hread
  refine h.takesOnly (takes_commitShip fun i hi => .inr ?_) ?_ reservations_commitShip
  · exact hasBalance_of_available (hs.transfers id t hfind i hi).2.1 (havail i hi)
  · refine linesFit_of_available tenantId h t.items_nodup fun i hi _ => ?_
    rw [neg_neg]
    exact havail i hi

theorem Store.Honours.createTransfer (h : s.Honours) (hs : WellFormed s) {dto : CreateTransferDto}
    (hq : ∀ item ∈ dto.items, 0 < item.requestedQuantity) :
    (TransferService.create db clock tenantId dto s).2.Honours := by
  have hdrafted {s₁ : Store} {r : Id × String}
      (hdraft : createDraft clock tenantId dto s = .ok (r, s₁)) : s₁.Honours := by
    obtain ⟨_, _, t, rfl, _⟩ := createDraft_ok hdraft
    exact h.gains (gains_of_balances rfl rfl)
  refine createTransfer_cases (P := fun x => x.2.Honours) (fun _ => h) ?_ ?_ ?_
  · intro id number s₁ hdraft _
    exact hdrafted hdraft
  · intro id number s₁ e hdraft
    exact hdrafted hdraft
  · intro id number s₁ message s₂ hdraft _ hship
    have hbooks : Books .exact anyBooking s s₁ := books_createDraft (fun _ _ => trivial) hq hdraft
    exact (hdrafted hdraft).ship (hbooks.keeps hs).1 hship

theorem Store.Honours.void (h : s.Honours) (hs : WellFormed s)
    (hok : SaleService.void db tenantId saleId s = .ok ((), s')) : s'.Honours := by
  obtain ⟨read, hread, hok⟩ := Except.bind_eq_ok_iff.mp hok
  obtain ⟨hfind, _, _, hitems⟩ := readVoid_ok hread
  obtain ⟨s₁, hupdate, hok⟩ := Except.bind_eq_ok_iff.mp hok
  obtain rfl := congrArg Prod.snd (Except.ok.inj hok)
  obtain ⟨rfl, _⟩ := updateSale_ok hupdate
  have hmark : Gains s
      { s with sales := s.sales.modify saleId fun sale => { sale with status := .voided } } :=
    gains_of_balances rfl rfl
  refine (h.gains hmark).gains (gains_foldl fun item hitem s => ?_)
  rw [hitems] at hitem
  obtain ⟨r, hr, rfl⟩ := List.mem_map.mp hitem
  exact gains_voidItem (itemsOf_sound hs hfind hr).2.1

theorem Store.Honours.refund (h : s.Honours) {dto : CreateRefundDto} {id : Id}
    (hvalid : CreateRefundDto.Valid dto)
    (hok : RefundService.createRefund db clock tenantId saleId dto s = .ok (id, s')) :
    s'.Honours := by
  obtain ⟨⟨read, total⟩, _, hok⟩ := Except.bind_eq_ok_iff.mp hok
  obtain ⟨s₁, hreturn, rfl⟩ := executeRefund_ok hok
  have hinserted (refund : SaleRefund) :
      Gains s { s with saleRefunds := s.saleRefunds.create refund } :=
    gains_of_balances rfl rfl
  have hreturned := gains_returnStock (fun item hitem => zero_le_one.trans (hvalid.2 item hitem))
    hreturn
  exact ((h.gains (hinserted _)).gains hreturned).gains (gains_of_balances rfl rfl)

/-- A request whose products are distinct keeps what is promised on hand. -/
theorem honours_step (hs : WellFormed s) (hI : s.pos.CartsDistinct)
    (hdistinct : call.request.Distinct) (h : s.Honours) : (step db call s).Honours := by
  obtain ⟨clock, request⟩ := call
  cases request with
  | stockIn tenantId dto =>
    exact step_preserves_of_serve (stockIn db clock tenantId dto) rfl h
      fun _ _ hvalid hok => h.stockIn hvalid hok
  | stockReturn tenantId dto =>
    refine step_preserves_of_serve
      (stockIn db clock tenantId { dto with referenceType := some .return }) rfl h
      fun _ _ hvalid hok => ?_
    have hitems : BulkStockInDto.Valid { dto with referenceType := some .return } := hvalid
    exact h.stockIn hitems hok
  | stockOut tenantId dto =>
    exact step_preserves_of_serve (fun s => stockOut db tenantId dto s s) rfl h
      fun _ _ hvalid hok => h.stockOut hvalid hdistinct hok
  | adjust tenantId dto =>
    exact step_preserves_of_serve (adjust db clock tenantId dto) rfl h
      fun _ _ _ hok => h.adjust hdistinct hok
  | createTransfer tenantId dto =>
    exact step_preserves_of_valid h fun hvalid => h.createTransfer hs hvalid.2
  | shipTransfer tenantId id =>
    exact step_preserves_of_serve (ship db clock tenantId id) rfl h
      fun _ _ _ hok => h.ship hs hok
  | receiveTransfer tenantId id items =>
    refine step_preserves_of_serve (receive db clock tenantId id items) rfl h fun _ s' _ hok => ?_
    obtain ⟨t, _, hok⟩ := Except.bind_eq_ok_iff.mp hok
    obtain rfl := congrArg Prod.snd (Except.ok.inj hok)
    exact h.gains gains_commitReceive
  | cancelTransfer tenantId id =>
    refine step_preserves_of_serve (cancel db clock tenantId id) rfl h fun _ s' _ hok => ?_
    obtain ⟨t, _, hok⟩ := Except.bind_eq_ok_iff.mp hok
    obtain rfl := congrArg Prod.snd (Except.ok.inj hok)
    exact h.gains gains_commitCancel
  | createReservation tenantId dto =>
    exact step_preserves_of_serve (ReservationService.create clock tenantId dto) rfl h
      fun _ _ hvalid hok => h.create (zero_le_one.trans hvalid.2) hok
  | updateReservation tenantId id dto =>
    exact step_preserves_of_serve (ReservationService.update clock tenantId id dto) rfl h
      fun _ _ hvalid hok => h.update hs hvalid hok
  | releaseReservation tenantId id =>
    exact step_preserves_of_serve (ReservationService.release tenantId id) rfl h
      fun _ _ _ hok => h.release hs hok
  | expireReservation tenantId id =>
    exact step_preserves_of_serve (ReservationQueueProcessor.process clock tenantId id) rfl h
      fun _ _ _ hok => h.process hs hok
  | createCart tenantId dto =>
    -- a cart holds nothing yet, so the balances are those before
    refine step_preserves_of_serve (createCart clock tenantId dto) rfl h fun _ s' _ hok => ?_
    obtain ⟨_, rfl⟩ := insertSale_ok hok
    exact h.gains (gains_of_balances rfl rfl)
  | addCartItem tenantId cartId dto =>
    exact step_preserves_of_valid h fun hvalid => honours_addItem h (zero_le_one.trans hvalid.1)
  | updateCartItem tenantId cartId itemId dto =>
    exact step_preserves_of_valid h fun hvalid => honours_updateItem h hs (zero_le_one.trans hvalid.1)
  | removeCartItem tenantId cartId itemId =>
    exact step_preserves_of_valid h fun _ => honours_removeItem h hs
  | createSale tenantId dto =>
    exact step_preserves_of_serve (SaleService.create db clock tenantId dto) rfl h
      fun _ _ hvalid hok => h.createSale hvalid hdistinct hok
  | completeSale tenantId saleId payments =>
    exact step_preserves_of_serve (SaleService.complete db tenantId saleId payments) rfl h
      fun _ _ _ hok => h.complete hs hI hok
  | voidSale tenantId saleId =>
    exact step_preserves_of_serve (SaleService.void db tenantId saleId) rfl h
      fun _ _ _ hok => h.void hs hok
  | createRefund tenantId saleId dto =>
    exact step_preserves_of_serve (RefundService.createRefund db clock tenantId saleId dto) rfl h
      fun _ _ hvalid hok => h.refund hvalid hok
  | openSession tenantId dto =>
    -- a session holds no stock
    refine step_preserves_of_serve (SessionService.open db clock tenantId dto) rfl h
      fun _ s' _ hok => h.gains ?_
    obtain ⟨_, _, hok⟩ := Except.bind_eq_ok_iff.mp hok
    rw [SessionService.insertSession] at hok
    split at hok
    · cases hok
    · obtain ⟨_, rfl⟩ := Prod.mk.inj (Except.ok.inj hok)
      exact gains_of_balances rfl rfl
  | closeSession tenantId sessionId dto =>
    refine step_preserves_of_serve (SessionService.close db tenantId sessionId dto) rfl h
      fun _ s' _ hok => h.gains ?_
    obtain ⟨_, _, hok⟩ := Except.bind_eq_ok_iff.mp hok
    obtain ⟨_, rfl⟩ := Prod.mk.inj (Except.ok.inj hok)
    exact gains_of_balances rfl rfl
  | cleanupCarts =>
    exact step_preserves_of_serve (CartCleanupService.cleanupAbandonedCarts clock) rfl h
      fun _ _ _ hok => h.cleanup hs hok

theorem honours_initial (c : Catalogue) : (Store.initial c).Honours where
  quantities := fun _ _ hr => (by cases hr)
  counted _ _ := le_rfl
  stocked _ _ := le_rfl

/-- The requests of a run name no product twice. -/
abbrev DistinctProducts (_ : Store) (call : Call) : Prop := call.request.Distinct

theorem honours_of_reachable (h : ReachableBy db DistinctProducts c s) : s.Honours := by
  have hall : WellFormed s ∧ s.pos.CartsDistinct ∧ s.Honours := by
    refine Runs.invariant (I := fun s : Store => WellFormed s ∧ s.pos.CartsDistinct ∧ s.Honours) h
      ⟨wellFormed_initial c, fun _ _ _ _ hi => (by cases hi), honours_initial c⟩ ?_
    rintro s call ⟨hs, hI, h⟩ hdistinct
    exact ⟨wellFormed_step hs, cartsDistinct_step hs hI (saleStep hs),
      honours_step hs hI hdistinct h⟩
  exact hall.2.2

theorem activeQty_nonneg (h : s.Honours) (p l : Id) : 0 ≤ s.activeQty p l := by
  refine Table.sum_nonneg fun k r hr => ?_
  split
  · exact h.quantities k r hr
  · exact le_rfl

/-- In every run whose requests name no product twice, every balance has its reserved quantity
between nothing and what is on hand, and the active reservations of a place are never of more
than is on hand there. -/
theorem reservations_honoured (h : ReachableBy db DistinctProducts c s) :
    NoOversell s ∧ ∀ p l, s.activeQty p l ≤ s.onHand p l := by
  have hs := honours_of_reachable h
  constructor
  · rw [noOversell_iff]
    intro p l
    exact ⟨(activeQty_nonneg hs p l).trans (hs.counted p l), hs.stocked p l⟩
  · intro p l
    exact (hs.counted p l).trans (hs.stocked p l)

/-- Of ten received, two are put into a cart and one is reserved; then the cart is completed, and
five more are taken. -/
def twoPromises : List Call :=
  [⟨⟨0, 2024⟩, .stockIn 0 ⟨0, none, none, [⟨0, 10, 1, none⟩]⟩⟩,
    ⟨⟨1, 2024⟩, .createCart 0 ⟨0, none, none, none⟩⟩,
    ⟨⟨2, 2024⟩, .addCartItem 0 0 ⟨0, 2, some 3, none, none⟩⟩,
    ⟨⟨3, 2024⟩, .createReservation 0 ⟨0, 0, 1, 100, none, none⟩⟩,
    ⟨⟨4, 2024⟩, .completeSale 0 0 [⟨.cash, 6⟩]⟩,
    ⟨⟨5, 2024⟩, .stockOut 0 ⟨0, none, none, [(0, 5)]⟩⟩]

def twoPromisesStore : Store := serveAll .exact twoPromises (Store.initial (.shop .fifo))

theorem reservations_honoured_twoPromises :
    NoOversell twoPromisesStore ∧ twoPromisesStore.activeQty 0 0 ≤ twoPromisesStore.onHand 0 0 ∧
      twoPromisesStore.reserved 0 0 = 3 ∧ twoPromisesStore.onHand 0 0 = 3 :=
  have hrun : ReachableBy .exact DistinctProducts (.shop .fifo) twoPromisesStore :=
    runs_serveAll (by decide +kernel)
  ⟨(reservations_honoured hrun).1, (reservations_honoured hrun).2 0 0, by decide +kernel⟩

end Requests

end Invetrixa
