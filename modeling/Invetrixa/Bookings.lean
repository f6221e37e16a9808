import Invetrixa.Server

/-!
# Bookings

Everything a request writes is a sequence of bookings: stock received or issued, an item shipped
or taken back, a reservation made, amended, fulfilled or expired, a transfer or the sales tables
rewritten. This module says once what each booking does to the quantities the tables record, and
which facts about the store all bookings keep.

## Main definitions

- `Booking`, `book` — the bookings and what they write
- `Booking.Guard` — what a request has made sure of when it books
- `Booking.change` — what a booking adds to the on-hand quantity of a place
- `WellFormed` — what holds of every store a request meets

## Main results

- `onHand_book`, `netMoved_book`, `layerQty_book` — balance, movements and layers change alike
- `reserved_sub_activeQty_book` — reserved quantity and active reservations change alike
- `wellFormed_book`
-/

namespace Invetrixa

open Rowstore BalanceService ValuationService TransferService CartCleanupService

inductive Booking
  /-- stock comes in with a layer: purchase, return, adjustment, transfer received or cancelled -/
  | receipt (clock : Clock) (movement : StockMovement) (batchId : Option Id)
  /-- stock goes out: sale, removal, adjustment -/
  | issue (issue : Issue)
  /-- an item of a transfer goes out -/
  | shipItem (tenantId id : Id) (transfer : StockTransfer) (item : StockTransferItem)
  /-- an item of a voided sale comes back -/
  | voidItem (tenantId saleId locationId : Id) (item : SaleItem)
  | reserve (reservation : StockReservation)
  /-- a reservation changes, and the reserved quantity of its place by `diff` -/
  | amend (id : Id) (f : StockReservation → StockReservation) (productId locationId : Id) (diff : ℤ)
  | fulfill (saleId : Id)
  | expireCarts (read : Abandoned)
  | createTransfer (transfer : StockTransfer)
  | updateTransfer (id : Id) (f : StockTransfer → StockTransfer)
  | writeSales (sales : Serial Sale) (saleItems : Serial SaleItem)
      (salePayments : Serial SalePayment) (saleRefunds : Serial SaleRefund)
  | writeSessions (sessions : Serial POSSession)

/-- What a booking writes. -/
def book (db : Database) : Booking → Store → Store
  | .receipt clock movement batchId, s => recordReceipt db clock movement batchId s
  | .issue i, s => (recordIssue db i s).2
  | .shipItem tenantId id transfer item, s => shipItem db tenantId id transfer s item
  | .voidItem tenantId saleId locationId item, s =>
      SaleService.voidItem db tenantId saleId locationId s item
  | .reserve reservation, s => ReservationService.reserve reservation s
  | .amend id f productId locationId diff, s =>
      { s with
        reservations := s.reservations.modify id f
        balances := s.balances.modify (productId, locationId) fun b =>
          { b with reservedQuantity := b.reservedQuantity + diff } }
  | .fulfill saleId, s => SaleService.fulfillReservations saleId s
  | .expireCarts read, s =>
      releaseReservedQuantities read.reservations (expireReservations read.cartIds s)
  | .createTransfer transfer, s => { s with transfers := s.transfers.create transfer }
  | .updateTransfer id f, s => updateTransfer id f s
  | .writeSales sales saleItems salePayments saleRefunds, s =>
      { s with sales, saleItems, salePayments, saleRefunds }
  | .writeSessions sessions, s => { s with sessions }

/-- The tenant owns the product and has a balance row for it at the location. -/
def Store.Stocked (s : Store) (tenantId productId locationId : Id) : Prop :=
  s.tenantOf productId = some tenantId ∧ s.HasBalance productId locationId

def ReservationSound (s : Store) (r : StockReservation) : Prop :=
  s.Stocked r.tenantId r.productId r.locationId

def TransferSound (s : Store) (t : StockTransfer) : Prop :=
  ∀ i ∈ t.items, s.tenantOf i.productId = some t.tenantId ∧ 0 < i.requestedQuantity ∧
    0 ≤ i.shippedQuantity

/-- An item belongs to a sale, whose tenant owns the product. In a cart its quantity is
positive; once sold, the product has a balance row at the location of the sale. -/
def SaleItemSound (s : Store) (i : SaleItem) : Prop :=
  ∃ sale, s.sales.find? i.saleId = some sale ∧ s.tenantOf i.productId = some sale.tenantId ∧
    0 ≤ i.quantity ∧ (sale.status = .draft → 0 < i.quantity) ∧
    (sale.status ≠ .draft → s.HasBalance i.productId sale.locationId)

/-- Every row belongs to the tenant of its product, and refers to rows that are there. -/
structure WellFormed (s : Store) : Prop where
  balances : s.balances.All fun k b => s.tenantOf k.1 = some b.tenantId
  layers : LayersSound s
  movements : s.movements.All fun _ m => s.tenantOf m.productId = some m.tenantId
  reservations : s.reservations.All fun _ r => ReservationSound s r
  transfers : s.transfers.All fun _ t => TransferSound s t
  saleItems : s.saleItems.All fun _ i => SaleItemSound s i

/-- The share of a reservation in the reserved quantity. -/
def StockReservation.share (r : StockReservation) : ℤ :=
  if r.status = .active then r.quantity else 0

/-- No session is lost, and each keeps its tenant and its terminal. -/
def KeepsTills (sessions sessions' : Serial POSSession) : Prop :=
  ∀ id session, sessions.find? id = some session → ∃ session', sessions'.find? id = some session' ∧
    session'.tenantId = session.tenantId ∧ session'.terminalId = session.terminalId

theorem KeepsTills.refl (sessions : Serial POSSession) : KeepsTills sessions sessions :=
  fun _ session h => ⟨session, h, rfl, rfl⟩

theorem KeepsTills.trans {t₁ t₂ t₃ : Serial POSSession} (h : KeepsTills t₁ t₂)
    (h' : KeepsTills t₂ t₃) : KeepsTills t₁ t₃ := by
  intro id session hfind
  obtain ⟨session₂, hfind₂, htenant₂, hterminal₂⟩ := h id session hfind
  obtain ⟨session₃, hfind₃, htenant₃, hterminal₃⟩ := h' id session₂ hfind₂
  exact ⟨session₃, hfind₃, htenant₃.trans htenant₂, hterminal₃.trans hterminal₂⟩

/-- What a request has made sure of when it makes a booking. -/
def Booking.Guard (s : Store) : Booking → Prop
  | .receipt _ m _ => m.movementType = .in ∧ 0 ≤ m.quantity ∧
      s.tenantOf m.productId = some m.tenantId
  | .issue i => 0 ≤ i.quantity ∧ s.Stocked i.tenantId i.productId i.locationId
  | .shipItem tenantId _ transfer item => 0 ≤ item.requestedQuantity ∧
      s.Stocked tenantId item.productId transfer.fromLocationId
  | .voidItem tenantId _ locationId item => 0 ≤ item.quantity ∧
      s.Stocked tenantId item.productId locationId
  | .reserve r => r.status = .active ∧ s.tenantOf r.productId = some r.tenantId
  | .amend id f productId locationId diff => s.HasBalance productId locationId ∧
      ∃ r, s.reservations.find? id = some r ∧ r.productId = productId ∧
        r.locationId = locationId ∧ (f r).productId = productId ∧ (f r).locationId = locationId ∧
        (f r).tenantId = r.tenantId ∧ diff = (f r).share - r.share
  | .fulfill _ => True
  | .expireCarts read => read.reservations =
      (s.reservations.rows.filter fun r => isCartReservation read.cartIds r.2).map Prod.snd
  | .createTransfer t => TransferSound s t
  | .updateTransfer id f => ∀ t, s.transfers.find? id = some t → TransferSound s (f t)
  | .writeSales sales saleItems salePayments saleRefunds => saleItems.All fun _ i =>
      SaleItemSound { s with sales, saleItems, salePayments, saleRefunds } i
  | .writeSessions sessions => KeepsTills s.sessions sessions

/-- A signed quantity of a product at a location. -/
structure Line where
  productId : Id
  locationId : Id
  quantity : ℤ

/-- What a line adds to the on-hand quantity of a product at a location. -/
def Line.change (line : Line) (p l : Id) : ℤ :=
  if line.productId = p ∧ line.locationId = l then line.quantity else 0

/-- A line that takes stock out finds it on hand. -/
def Line.Covered (onHand : Id → Id → ℤ) (line : Line) : Prop :=
  0 ≤ line.quantity ∨ 0 ≤ onHand line.productId line.locationId + line.quantity

instance (onHand : Id → Id → ℤ) (line : Line) : Decidable (line.Covered onHand) :=
  inferInstanceAs (Decidable (_ ∨ _))

/-- The line of a booking that moves stock. -/
def Booking.line : Booking → Option Line
  | .receipt _ m _ => some ⟨m.productId, m.locationId, m.quantity⟩
  | .issue i => some ⟨i.productId, i.locationId, -i.quantity⟩
  | .shipItem _ _ transfer item =>
      some ⟨item.productId, transfer.fromLocationId, -item.requestedQuantity⟩
  | .voidItem _ _ locationId item => some ⟨item.productId, locationId, item.quantity⟩
  | _ => none

/-- What a booking adds to the on-hand quantity of a product at a location. -/
def Booking.change (p l : Id) (b : Booking) : ℤ := (b.line.map fun line => line.change p l).getD 0

/-- The signed quantity of a movement. -/
def StockMovement.signed (m : StockMovement) : ℤ :=
  match m.movementType with
  | .in => m.quantity
  | .out => -m.quantity

/-- The movements in minus the movements out of a product at a location. -/
def Store.netMoved (s : Store) (p l : Id) : ℤ :=
  s.movements.sum fun _ m => if m.productId = p ∧ m.locationId = l then m.signed else 0

variable {db : Database} {s : Store} {b : Booking} {p l : Id}

section Frame

/-- What a later store keeps of an earlier one: the products, and the balance rows. -/
structure Extends (s s' : Store) : Prop where
  tenantOf : s'.tenantOf = s.tenantOf
  hasBalance : ∀ p l, s.HasBalance p l → s'.HasBalance p l

theorem Extends.stocked {s' : Store} (h : Extends s s') {t : Id} (hs : s.Stocked t p l) :
    s'.Stocked t p l :=
  ⟨by rw [h.tenantOf]; exact hs.1, h.hasBalance _ _ hs.2⟩

theorem Extends.transferSound {s' : Store} (h : Extends s s') {t : StockTransfer}
    (ht : TransferSound s t) : TransferSound s' t := by
  intro i hi
  rw [h.tenantOf]
  exact ht i hi

theorem Extends.saleItemSound {s' : Store} (h : Extends s s') (hsales : s'.sales = s.sales)
    {i : SaleItem} (hi : SaleItemSound s i) : SaleItemSound s' i := by
  obtain ⟨sale, hfind, ht, hq, hdraft, hsold⟩ := hi
  refine ⟨sale, by rwa [hsales], by rwa [h.tenantOf], hq, hdraft, fun hne => ?_⟩
  exact h.hasBalance _ _ (hsold hne)

theorem tenantOf_book (b : Booking) : (book db b s).tenantOf = s.tenantOf := by
  cases b with
  | issue i => simp only [book, recordIssue_eq]; rfl
  | shipItem => simp only [book, shipItem_eq]; rfl
  | expireCarts read => rw [book, releaseReservedQuantities_eq]; rfl
  | _ => rfl

end Frame

section Balances

/-- The tenants that the reservations of a well-formed store name own the balances. -/
theorem expireCarts_tenants (hs : WellFormed s) {read : Abandoned}
    (hread : Booking.Guard s (.expireCarts read)) :
    ∀ r ∈ read.reservations, ∀ b,
      (expireReservations read.cartIds s).balances.find? (r.productId, r.locationId) = some b →
        b.tenantId = r.tenantId := by
  intro r hr b hb
  rw [show read.reservations = _ from hread] at hr
  obtain ⟨⟨id, r'⟩, hmem, rfl⟩ := List.mem_map.mp hr
  have hrow := (hs.reservations _ _ (Table.find?_of_mem_rows (List.mem_filter.mp hmem).1)).1
  exact Option.some.inj ((hs.balances _ _ hb).symm.trans hrow)

theorem onHand_of_map {s' : Store} {f : InventoryBalance → InventoryBalance}
    (hfind : s'.balances.find? (p, l) = (s.balances.find? (p, l)).map f)
    (hf : ∀ b, (f b).onHandQuantity = b.onHandQuantity) : s'.onHand p l = s.onHand p l := by
  rw [Store.onHand, Store.onHand, hfind]
  cases s.balances.find? (p, l) with
  | none => rfl
  | some b => exact hf b

theorem reserved_of_map {s' : Store} {f : InventoryBalance → InventoryBalance}
    (hfind : s'.balances.find? (p, l) = (s.balances.find? (p, l)).map f)
    (hf : ∀ b, (f b).reservedQuantity = b.reservedQuantity) : s'.reserved p l = s.reserved p l := by
  rw [Store.reserved, Store.reserved, hfind]
  cases s.balances.find? (p, l) with
  | none => rfl
  | some b => exact hf b

/-- The balance of a voided item's place takes the quantity back, if it is the tenant's. -/
theorem onHand_voidItem (hs : WellFormed s) {tenantId saleId locationId : Id} {item : SaleItem}
    (hplace : s.Stocked tenantId item.productId locationId) :
    (SaleService.voidItem db tenantId saleId locationId s item).onHand p l =
      s.onHand p l + if item.productId = p ∧ locationId = l then item.quantity else 0 := by
  rw [Store.onHand, Store.onHand]
  simp only [SaleService.voidItem, Table.find?_modifyWhere]
  obtain ⟨b, hb⟩ := Option.isSome_iff_exists.mp hplace.2
  have ht : b.tenantId = tenantId := Option.some.inj ((hs.balances _ _ hb).symm.trans hplace.1)
  by_cases hpl : item.productId = p ∧ locationId = l
  · obtain ⟨rfl, rfl⟩ := hpl
    have hb' : (createMovement db (SaleService.voidMovement tenantId saleId locationId item)
        s).balances.find? (item.productId, locationId) = some b := hb
    simp [hb, hb', ht]
  · have hne : ¬(p, l) = (item.productId, locationId) := fun heq =>
      hpl ⟨(Prod.ext_iff.mp heq).1.symm, (Prod.ext_iff.mp heq).2.symm⟩
    simp only [hne, false_and, decide_false, Bool.false_eq_true, if_false, Option.map_id', hpl,
      add_zero]
    rfl

theorem onHand_reserve (r : StockReservation) :
    (ReservationService.reserve r s).onHand p l = s.onHand p l := by
  rw [Store.onHand, Store.onHand]
  simp only [ReservationService.reserve, Table.find?_upsert]
  by_cases hpl : (p, l) = (r.productId, r.locationId)
  · rw [if_pos hpl, hpl]
    cases s.balances.find? (r.productId, r.locationId) <;> rfl
  · rw [if_neg hpl]

theorem find?_amend (id : Id) (f : StockReservation → StockReservation) (p' l' : Id) (diff : ℤ) :
    (book db (.amend id f p' l' diff) s).balances.find? (p, l) =
      (s.balances.find? (p, l)).map fun b => if p' = p ∧ l' = l then
        { b with reservedQuantity := b.reservedQuantity + diff } else b := by
  simp only [book, Table.find?_modify]
  by_cases hpl : p' = p ∧ l' = l
  · obtain ⟨rfl, rfl⟩ := hpl
    simp
  · have hne : ¬(p, l) = (p', l') := fun heq =>
      hpl ⟨(Prod.ext_iff.mp heq).1.symm, (Prod.ext_iff.mp heq).2.symm⟩
    simp [hpl, hne]

/-- The on-hand quantity changes by what the booking says, and by nothing else. -/
theorem onHand_book (hs : WellFormed s) (hb : b.Guard s) :
    (book db b s).onHand p l = s.onHand p l + b.change p l := by
  cases b with
  | receipt clock m batchId => exact onHand_updateBalance (.inl hb.2.1)
  | issue i =>
    simp only [book, recordIssue_eq]
    exact (onHand_updateBalance (.inr hb.2.2))
  | shipItem tenantId id transfer item =>
    simp only [book, shipItem_eq]
    exact (onHand_updateBalance (.inr hb.2.2))
  | voidItem tenantId saleId locationId item => exact onHand_voidItem hs hb.2
  | reserve r => exact (onHand_reserve r).trans (add_zero _).symm
  | amend id f p' l' diff =>
    refine (onHand_of_map (find?_amend id f p' l' diff) fun b => ?_).trans (add_zero _).symm
    split <;> rfl
  | expireCarts read =>
    have hfind := find?_releaseReservedQuantities _ _ (expireCarts_tenants hs hb) (p := p) (l := l)
    exact (onHand_of_map hfind fun _ => rfl).trans (add_zero _).symm
  | _ => exact (add_zero _).symm

end Balances

section Movements

theorem netMoved_createMovement (m : StockMovement) :
    (createMovement db m s).netMoved p l =
      s.netMoved p l + if m.productId = p ∧ m.locationId = l then m.signed else 0 := by
  simp only [Store.netMoved, createMovement, Serial.sum_create, StockMovement.signed]

/-- The movements account for every change of an on-hand quantity. -/
theorem netMoved_book (hb : b.Guard s) :
    (book db b s).netMoved p l = s.netMoved p l + b.change p l := by
  cases b with
  | receipt clock m batchId =>
    have hsigned : m.signed = m.quantity := by rw [StockMovement.signed, hb.1]
    exact (netMoved_createMovement m).trans (by rw [hsigned]; rfl)
  | issue i =>
    simp only [book, recordIssue_eq]
    exact netMoved_createMovement _
  | shipItem tenantId id transfer item =>
    simp only [book, shipItem_eq]
    exact netMoved_createMovement _
  | voidItem tenantId saleId locationId item => exact netMoved_createMovement _
  | expireCarts read =>
    rw [book, releaseReservedQuantities_eq]
    exact (add_zero _).symm
  | _ => exact (add_zero _).symm

end Movements

section Layers

/-- The booking takes no more than is on hand, and puts nothing back without a layer. -/
def Booking.Covered (onHand : Id → Id → ℤ) : Booking → Prop
  | .issue i => Line.Covered onHand ⟨i.productId, i.locationId, -i.quantity⟩
  | .shipItem _ _ transfer item =>
      Line.Covered onHand ⟨item.productId, transfer.fromLocationId, -item.requestedQuantity⟩
  | .voidItem _ _ _ item => item.quantity ≤ 0
  | _ => True

theorem layerQty_receipt {clock : Clock} (m : StockMovement) (batchId : Option Id) :
    (recordReceipt db clock m batchId s).layerQty p l =
      s.layerQty p l + if m.productId = p ∧ m.locationId = l then m.quantity else 0 := by
  simp only [Store.layerQty, recordReceipt_eq, createLayer, Serial.sum_create]

theorem layerValue_receipt {clock : Clock} (m : StockMovement) (batchId : Option Id) :
    (recordReceipt db clock m batchId s).layerValue p l = s.layerValue p l +
      if m.productId = p ∧ m.locationId = l then db.decimal m.unitCost * m.quantity else 0 := by
  simp only [Store.layerValue, recordReceipt_eq, createLayer, Serial.sum_create]

/-- Where balances and layers agree, the layers hold all that a covered issue asks for. -/
theorem taken_of_covered (hs : WellFormed s) (hagree : ∀ p l, s.onHand p l = s.layerQty p l)
    {t : Id} {q : ℤ} {method : PricingMethod} (ht : s.tenantOf p = some t) (hq : 0 ≤ q)
    (hcovered : Line.Covered s.onHand ⟨p, l, -q⟩) :
    Lots.taken layerSize (consumableLayers db p l t method s) q = q := by
  have hnonneg : 0 ≤ s.layerQty p l := by
    refine Table.sum_nonneg fun k v hv => ?_
    split
    · exact (hs.layers k v hv).1
    · exact le_rfl
  have hcases : 0 ≤ -q ∨ 0 ≤ s.layerQty p l + -q := hagree p l ▸ hcovered
  rw [taken_consumableLayers hs.layers ht hq]
  omega

/-- Where balances and layers agree, a covered issue takes its quantity out of the layers. -/
theorem layerQty_consumeLayers_of_covered (hs : WellFormed s)
    (hagree : ∀ p l, s.onHand p l = s.layerQty p l) {p' l' t : Id} {q : ℤ}
    {method : PricingMethod} (ht : s.tenantOf p' = some t) (hq : 0 ≤ q)
    (hcovered : Line.Covered s.onHand ⟨p', l', -q⟩) :
    (consumeLayers db p' l' t q method s).2.layerQty p l =
      s.layerQty p l + Line.change ⟨p', l', -q⟩ p l := by
  rw [layerQty_consumeLayers, taken_of_covered hs hagree ht hq hcovered]
  simp only [Line.change]
  split <;> omega

/-- Where balances and layers agree, a covered booking changes both alike. -/
theorem layerQty_book (hs : WellFormed s) (hagree : ∀ p l, s.onHand p l = s.layerQty p l)
    (hb : b.Guard s) (hcovered : b.Covered s.onHand) :
    (book db b s).layerQty p l = s.layerQty p l + b.change p l := by
  cases b with
  | receipt clock m batchId => exact layerQty_receipt m batchId
  | issue i =>
    simp only [book, recordIssue_eq]
    exact layerQty_consumeLayers_of_covered hs hagree hb.2.1 hb.1 hcovered
  | shipItem tenantId id transfer item =>
    simp only [book, shipItem_eq]
    exact layerQty_consumeLayers_of_covered hs hagree hb.2.1 hb.1 hcovered
  | voidItem tenantId saleId locationId item =>
    have hzero : item.quantity = 0 := le_antisymm hcovered hb.1
    have hchange : Booking.change p l (.voidItem tenantId saleId locationId item) = 0 := by
      simp [Booking.change, Booking.line, Line.change, hzero]
    rw [hchange, add_zero]
    rfl
  | expireCarts read =>
    rw [book, releaseReservedQuantities_eq]
    exact (add_zero _).symm
  | _ => exact (add_zero _).symm

end Layers

section Reservations

/-- A sale is fulfilled only when none of its reservations is active any more. -/
def Booking.Settled (s : Store) : Booking → Prop
  | .fulfill saleId => s.reservations.All fun _ r => ¬SaleService.isReservationOf saleId r
  | _ => True

theorem activeQty_eq_sum_share :
    s.activeQty p l = s.reservations.sum fun _ r =>
      if r.productId = p ∧ r.locationId = l then r.share else 0 := by
  rw [Store.activeQty]
  refine Table.sum_congr fun _ r _ => ?_
  by_cases hpl : r.productId = p ∧ r.locationId = l
  · simp [hpl, StockReservation.share]
  · rw [if_neg hpl, if_neg fun h => hpl ⟨h.1, h.2.1⟩]

/-- What the selected rows hold, as a sum over the table. -/
theorem heldAt_filter (sel : StockReservation → Bool) :
    heldAt ((s.reservations.rows.filter fun r => sel r.2).map Prod.snd) p l =
      s.reservations.sum fun _ r =>
        if sel r then if r.productId = p ∧ r.locationId = l then r.quantity else 0 else 0 := by
  rw [heldAt, List.map_map]
  exact Table.sum_filter (fun r => sel r.2) fun _ (r : StockReservation) =>
    if r.productId = p ∧ r.locationId = l then r.quantity else 0

/-- Reservations that stop being active take their quantities out of the active ones. -/
theorem activeQty_modifyWhere (sel : StockReservation → Bool) (status : ReservationStatus)
    (hsel : ∀ r, sel r = true → r.status = .active) (hstatus : status ≠ .active) :
    ({ s with
        reservations := s.reservations.modifyWhere (fun _ r => sel r)
          fun r => { r with status } } : Store).activeQty p l =
      s.activeQty p l -
        heldAt ((s.reservations.rows.filter fun r => sel r.2).map Prod.snd) p l := by
  rw [eq_sub_iff_add_eq, heldAt_filter]
  simp only [Store.activeQty, Serial.toTable_modifyWhere, Table.sum_modifyWhere]
  rw [← Table.sum_add]
  refine Table.sum_congr fun _ r _ => ?_
  by_cases hr : sel r = true
  · simp [hr, hsel r hr, hstatus]
  · simp [hr]

theorem reserved_reserve (r : StockReservation) :
    (ReservationService.reserve r s).reserved p l =
      s.reserved p l + if r.productId = p ∧ r.locationId = l then r.quantity else 0 := by
  rw [Store.reserved, Store.reserved]
  simp only [ReservationService.reserve, Table.find?_upsert]
  by_cases hpl : r.productId = p ∧ r.locationId = l
  · obtain ⟨rfl, rfl⟩ := hpl
    cases s.balances.find? (r.productId, r.locationId) <;> simp
  · have hne : ¬(p, l) = (r.productId, r.locationId) := fun heq =>
      hpl ⟨(Prod.ext_iff.mp heq).1.symm, (Prod.ext_iff.mp heq).2.symm⟩
    simp [hpl, hne]

theorem activeQty_reserve {r : StockReservation} (hr : r.status = .active) :
    (ReservationService.reserve r s).activeQty p l =
      s.activeQty p l + if r.productId = p ∧ r.locationId = l then r.quantity else 0 := by
  simp [Store.activeQty, ReservationService.reserve, hr]

theorem reserved_amend {id p' l' : Id} {f : StockReservation → StockReservation} {diff : ℤ}
    (hrow : s.HasBalance p' l') :
    (book db (.amend id f p' l' diff) s).reserved p l =
      s.reserved p l + if p' = p ∧ l' = l then diff else 0 := by
  rw [Store.reserved, Store.reserved, find?_amend]
  by_cases hpl : p' = p ∧ l' = l
  · obtain ⟨rfl, rfl⟩ := hpl
    obtain ⟨b, hb⟩ := Option.isSome_iff_exists.mp hrow
    simp [hb]
  · simp [hpl]

theorem activeQty_amend {id p' l' : Id} {f : StockReservation → StockReservation} {diff : ℤ}
    (hb : Booking.Guard s (.amend id f p' l' diff)) :
    (book db (.amend id f p' l' diff) s).activeQty p l =
      s.activeQty p l + if p' = p ∧ l' = l then diff else 0 := by
  obtain ⟨_, r, hr, rfl, rfl, hp, hl, _, rfl⟩ := hb
  rw [activeQty_eq_sum_share, activeQty_eq_sum_share]
  simp only [book, Serial.toTable_modify]
  rw [Table.sum_modify hr, hp, hl]
  split <;> omega

/-- Where no reservation of the place is held, nothing need be there to give back to. -/
theorem heldAt_eq_zero {rs : List StockReservation}
    (h : ∀ r ∈ rs, ¬(r.productId = p ∧ r.locationId = l)) : heldAt rs p l = 0 := by
  refine List.sum_eq_zero fun x hx => ?_
  obtain ⟨r, hr, rfl⟩ := List.mem_map.mp hx
  exact if_neg (h r hr)

theorem reserved_expireCarts (hs : WellFormed s) {read : Abandoned}
    (hread : Booking.Guard s (.expireCarts read)) :
    (book db (.expireCarts read) s).reserved p l =
      s.reserved p l - heldAt read.reservations p l := by
  have hfind := find?_releaseReservedQuantities _ _ (expireCarts_tenants hs hread) (p := p) (l := l)
  rw [Store.reserved, Store.reserved, book, hfind]
  cases hb : s.balances.find? (p, l) with
  | some b => simp [expireReservations, hb]
  | none =>
    have hzero : heldAt read.reservations p l = 0 := by
      refine heldAt_eq_zero fun r hr hpl => ?_
      rw [show read.reservations = _ from hread] at hr
      obtain ⟨⟨id, r'⟩, hmem, rfl⟩ := List.mem_map.mp hr
      have hrow :=
        (hs.reservations _ _ (Table.find?_of_mem_rows (List.mem_filter.mp hmem).1)).2
      rw [Store.HasBalance, hpl.1, hpl.2, hb] at hrow
      exact absurd hrow (by simp)
    simp [expireReservations, hb, hzero]

theorem activeQty_expireCarts {read : Abandoned}
    (hread : Booking.Guard s (.expireCarts read)) :
    (book db (.expireCarts read) s).activeQty p l =
      s.activeQty p l - heldAt read.reservations p l := by
  rw [book, releaseReservedQuantities_eq, show read.reservations = _ from hread]
  refine activeQty_modifyWhere (isCartReservation read.cartIds) .expired ?_ (by decide)
  intro r hr
  obtain ⟨cartId, _, hr⟩ := List.any_eq_true.mp hr
  simp only [SaleService.isReservationOf, Bool.decide_and, Bool.and_eq_true,
    decide_eq_true_eq] at hr
  exact hr.2.2

theorem reserved_voidItem (tenantId saleId locationId : Id) (item : SaleItem) :
    (SaleService.voidItem db tenantId saleId locationId s item).reserved p l = s.reserved p l := by
  refine reserved_of_map (Table.find?_modifyWhere _ _) fun b => ?_
  split <;> rfl

/-- Reserved quantity and active reservations change alike, unless a sale is fulfilled while
reservations of it are active. -/
theorem reserved_sub_activeQty_book (hs : WellFormed s) (hb : b.Guard s) (hsettled : b.Settled s) :
    (book db b s).reserved p l - (book db b s).activeQty p l =
      s.reserved p l - s.activeQty p l := by
  cases b with
  | receipt clock m batchId =>
    have hreserved : (book db (.receipt clock m batchId) s).reserved p l = s.reserved p l :=
      reserved_updateBalance
    rw [hreserved]
    rfl
  | issue i =>
    simp only [book, recordIssue_eq]
    exact congrArg (· - s.activeQty p l) reserved_updateBalance
  | shipItem tenantId id transfer item =>
    simp only [book, shipItem_eq]
    exact congrArg (· - s.activeQty p l) reserved_updateBalance
  | voidItem tenantId saleId locationId item =>
    exact congrArg (· - s.activeQty p l) (reserved_voidItem tenantId saleId locationId item)
  | reserve r =>
    rw [book, reserved_reserve, activeQty_reserve hb.1]
    omega
  | amend id f p' l' diff =>
    rw [reserved_amend hb.1, activeQty_amend hb]
    omega
  -- A fulfilment leaves the reserved quantity alone, so nothing may be active of the sale.
  | fulfill saleId =>
    have hsame : (book db (.fulfill saleId) s).activeQty p l = s.activeQty p l := by
      rw [Store.activeQty]
      simp only [book, SaleService.fulfillReservations, Serial.toTable_modifyWhere,
        Table.sum_modifyWhere]
      refine Table.sum_congr fun k r hr => ?_
      rw [if_neg (by simpa using hsettled k r hr)]
    rw [hsame]
    rfl
  | expireCarts read =>
    rw [reserved_expireCarts hs hb, activeQty_expireCarts hb]
    omega
  | _ => rfl

end Reservations

/-- Bookings keep the tills of sessions. -/
theorem keepsTills_book (db : Database) (hb : b.Guard s) :
    KeepsTills s.sessions (book db b s).sessions := by
  cases b with
  | issue i =>
    simp only [book, recordIssue_eq]
    exact .refl _
  | shipItem tenantId id transfer item =>
    simp only [book, shipItem_eq]
    exact .refl _
  | expireCarts read =>
    rw [book, releaseReservedQuantities_eq]
    exact .refl _
  | writeSessions sessions => exact hb
  | _ => exact .refl _

section WellFormed

theorem hasBalance_of_map {s' : Store} {f : InventoryBalance → InventoryBalance}
    (hfind : s'.balances.find? (p, l) = (s.balances.find? (p, l)).map f) (h : s.HasBalance p l) :
    s'.HasBalance p l := by
  rw [Store.HasBalance, hfind, Option.isSome_map]
  exact h

theorem hasBalance_reserve {r : StockReservation}
    (h : s.HasBalance p l ∨ (p, l) = (r.productId, r.locationId)) :
    (ReservationService.reserve r s).HasBalance p l := by
  simp only [Store.HasBalance, ReservationService.reserve, Table.find?_upsert]
  by_cases hpl : (p, l) = (r.productId, r.locationId)
  · rw [if_pos hpl, Option.isSome_some]
  · rw [if_neg hpl]
    exact h.resolve_right hpl

/-- No booking removes a balance row. -/
theorem hasBalance_book (hs : WellFormed s) (hb : b.Guard s) (h : s.HasBalance p l) :
    (book db b s).HasBalance p l := by
  cases b with
  | receipt => exact hasBalance_updateBalance h
  | issue i =>
    simp only [book, recordIssue_eq]
    exact hasBalance_updateBalance h
  | shipItem =>
    simp only [book, shipItem_eq]
    exact hasBalance_updateBalance h
  | voidItem => exact hasBalance_of_map (Table.find?_modifyWhere _ _) h
  | reserve r => exact hasBalance_reserve (.inl h)
  | amend id f p' l' diff => exact hasBalance_of_map (find?_amend id f p' l' diff) h
  | expireCarts read =>
    have hfind := find?_releaseReservedQuantities _ _ (expireCarts_tenants hs hb) (p := p) (l := l)
    exact hasBalance_of_map hfind h
  | _ => exact h

theorem extends_book (db : Database) (hs : WellFormed s) (hb : b.Guard s) :
    Extends s (book db b s) :=
  ⟨tenantOf_book b, fun _ _ => hasBalance_book hs hb⟩

theorem balances_updateBalance (hs : WellFormed s) {p' l' t : Id} {q : ℤ}
    (ht : s.tenantOf p' = some t) :
    (updateBalance p' l' t q s).balances.All fun k b => s.tenantOf k.1 = some b.tenantId :=
  hs.balances.upsert (fun _ => ht) fun _ _ hrow => hrow

theorem balances_book (hs : WellFormed s) (hb : b.Guard s) :
    (book db b s).balances.All fun k b => s.tenantOf k.1 = some b.tenantId := by
  cases b with
  | receipt clock m batchId => exact balances_updateBalance hs hb.2.2
  | issue i =>
    simp only [book, recordIssue_eq]
    exact balances_updateBalance hs hb.2.1
  | shipItem tenantId id transfer item =>
    simp only [book, shipItem_eq]
    exact balances_updateBalance hs hb.2.1
  | voidItem => exact hs.balances.modifyWhere fun _ _ hrow _ => hrow
  | reserve r => exact hs.balances.upsert (fun _ => hb.2) fun _ _ hrow => hrow
  | amend => exact hs.balances.modify fun _ _ hrow => hrow
  | expireCarts read =>
    intro k x hx
    have hfind := find?_releaseReservedQuantities _ _ (expireCarts_tenants hs hb) (p := k.1)
      (l := k.2)
    obtain ⟨x₀, hx₀, rfl⟩ := Option.map_eq_some_iff.mp (hfind.symm.trans hx)
    exact hs.balances k x₀ hx₀
  | _ => exact hs.balances

theorem layersSound_of_layers {s' : Store} (hlayers : s'.layers = s.layers)
    (htenant : s'.tenantOf = s.tenantOf) (h : LayersSound s) : LayersSound s' := by
  rw [LayersSound, hlayers, htenant]
  exact h

theorem layersSound_book (hs : WellFormed s) (hb : b.Guard s) : LayersSound (book db b s) := by
  cases b with
  | receipt clock m batchId =>
    exact Serial.All_create hs.layers ⟨hb.2.1, hb.2.2⟩
  | issue i =>
    refine layersSound_of_layers (s := (consumeLayers db i.productId i.locationId i.tenantId
      i.quantity (i.method s) s).2) ?_ ?_ (layersSound_consumeLayers hs.layers)
    · simp only [book, recordIssue_eq]
    · rw [tenantOf_book, consumeLayers_eq]
      rfl
  | shipItem tenantId id transfer item =>
    refine layersSound_of_layers (s := (consumeLayers db item.productId transfer.fromLocationId
      tenantId item.requestedQuantity (resolvePricingMethod item.productId s) s).2) ?_ ?_
      (layersSound_consumeLayers hs.layers)
    · simp only [book, shipItem_eq]
    · rw [tenantOf_book, consumeLayers_eq]
      rfl
  | expireCarts read =>
    rw [book, releaseReservedQuantities_eq]
    exact hs.layers
  | _ => exact hs.layers

theorem movements_book (hs : WellFormed s) (hb : b.Guard s) :
    (book db b s).movements.All fun _ m => s.tenantOf m.productId = some m.tenantId := by
  cases b with
  | receipt clock m batchId => exact Serial.All_create hs.movements hb.2.2
  | issue i =>
    simp only [book, recordIssue_eq]
    exact Serial.All_create hs.movements hb.2.1
  | shipItem tenantId id transfer item =>
    simp only [book, shipItem_eq]
    exact Serial.All_create hs.movements hb.2.1
  | voidItem tenantId saleId locationId item => exact Serial.All_create hs.movements hb.2.1
  | expireCarts read =>
    rw [book, releaseReservedQuantities_eq]
    exact hs.movements
  | _ => exact hs.movements

/-- The reservations after a booking, on the balances of the moment before it. -/
theorem reservations_book (hs : WellFormed s) (hb : b.Guard s) :
    (book db b s).reservations.All fun _ r => ReservationSound (book db b s) r := by
  have hext := extends_book db hs hb
  have hold : s.reservations.All fun _ r => ReservationSound (book db b s) r :=
    hs.reservations.imp fun _ _ => hext.stocked
  cases b with
  | issue i =>
    simp only [book, recordIssue_eq] at hold ⊢
    exact hold
  | shipItem =>
    simp only [book, shipItem_eq] at hold ⊢
    exact hold
  | reserve r => exact Serial.All_create hold ⟨hb.2, hasBalance_reserve (.inr rfl)⟩
  | amend id f p' l' diff =>
    obtain ⟨_, r, hr, rfl, rfl, hp, hl, ht, _⟩ := hb
    refine hold.modify fun r' hr' hsound => ?_
    obtain rfl := Option.some.inj (hr.symm.trans hr')
    rw [ReservationSound, hp, hl, ht]
    exact hsound
  | fulfill saleId => exact hold.modifyWhere fun _ _ hsound _ => hsound
  | expireCarts read =>
    have hrows : (book db (.expireCarts read) s).reservations =
        (expireReservations read.cartIds s).reservations := by
      rw [book, releaseReservedQuantities_eq]
    rw [hrows]
    exact hold.modifyWhere fun _ _ hsound _ => hsound
  | _ => exact hold

/-- A shipped item has its requested quantity under way. -/
theorem transferSound_updateItem {t : StockTransfer} {productId : Id}
    {f : StockTransferItem → StockTransferItem} (ht : TransferSound s t)
    (hf : ∀ i, 0 < i.requestedQuantity → 0 ≤ i.shippedQuantity →
      0 < (f i).requestedQuantity ∧ 0 ≤ (f i).shippedQuantity) :
    TransferSound s (t.updateItem productId f) := by
  intro i hi
  obtain ⟨i₀, hi₀, rfl⟩ := List.mem_map.mp hi
  obtain ⟨htenant, hreq, hship⟩ := ht i₀ hi₀
  by_cases hp : i₀.productId = productId
  · rw [if_pos hp]
    exact ⟨hp ▸ htenant, hf i₀ hreq hship⟩
  · rw [if_neg hp]
    exact ⟨htenant, hreq, hship⟩

theorem transfers_book (hs : WellFormed s) (hb : b.Guard s) :
    (book db b s).transfers.All fun _ t => TransferSound s t := by
  cases b with
  | issue i =>
    simp only [book, recordIssue_eq]
    exact hs.transfers
  | shipItem tenantId id transfer item =>
    simp only [book, shipItem_eq]
    refine hs.transfers.modify fun t _ ht => ?_
    exact transferSound_updateItem ht fun i hreq _ => ⟨hreq, hb.1⟩
  | createTransfer t => exact Serial.All_create hs.transfers hb
  | updateTransfer id f => exact hs.transfers.modify fun t ht _ => hb t ht
  | expireCarts read =>
    rw [book, releaseReservedQuantities_eq]
    exact hs.transfers
  | _ => exact hs.transfers

theorem saleItems_book (hs : WellFormed s) (hb : b.Guard s) :
    (book db b s).saleItems.All fun _ i => SaleItemSound (book db b s) i := by
  have hext := extends_book db hs hb
  have hold (hsales : (book db b s).sales = s.sales) :
      s.saleItems.All fun _ i => SaleItemSound (book db b s) i :=
    hs.saleItems.imp fun _ _ => hext.saleItemSound hsales
  cases b with
  | issue i =>
    simp only [book, recordIssue_eq] at hold ⊢
    exact hold trivial
  | shipItem =>
    simp only [book, shipItem_eq] at hold ⊢
    exact hold trivial
  | expireCarts read =>
    rw [book, releaseReservedQuantities_eq] at hold ⊢
    exact hold rfl
  | writeSales sales saleItems salePayments saleRefunds => exact hb
  | _ => exact hold rfl

/-- Bookings keep the store well formed. -/
theorem wellFormed_book (hs : WellFormed s) (hb : b.Guard s) : WellFormed (book db b s) where
  balances := by
    rw [tenantOf_book]
    exact balances_book hs hb
  layers := layersSound_book hs hb
  movements := by
    rw [tenantOf_book]
    exact movements_book hs hb
  reservations := reservations_book hs hb
  transfers := (transfers_book hs hb).imp fun _ _ => (extends_book db hs hb).transferSound
  saleItems := saleItems_book hs hb

end WellFormed

end Invetrixa
