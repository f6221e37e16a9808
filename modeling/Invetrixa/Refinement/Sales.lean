import Invetrixa.Refinement.Stock
import Invetrixa.Refinement.Reservations

/-!
# Sales as bookings

Carts, quick sales, completions, voids, refunds, sessions and the cleanup of carts: what their
accepted checks say about the store, and the bookings they make.

## Main results

- `books_createSale`, `books_completeSale`, `books_voidSale`, `books_createRefund`
- `books_addItem`, `books_updateItem`, `books_removeItem`, `books_cleanup`
-/

namespace Invetrixa

open Rowstore Requests MovementService SaleService

variable {db : Database} {d : Discipline} {clock : Clock} {tenantId : Id} {s s' : Store}

/-- A rewrite of the sales tables that leaves every item sound. -/
theorem books_writeSales (hd : ∀ b : Booking, b.Apart → b.Unsold → d.permits b)
    {sales : Serial Sale} {saleItems : Serial SaleItem}
    {salePayments : Serial SalePayment} {saleRefunds : Serial SaleRefund}
    (hsound : saleItems.All fun _ i =>
      SaleItemSound { s with sales, saleItems, salePayments, saleRefunds } i) :
    Books db d s { s with sales, saleItems, salePayments, saleRefunds } :=
  Books.single (b := .writeSales sales saleItems salePayments saleRefunds)
    ⟨hsound, fun _ => trivial, fun _ => trivial, hd _ trivial trivial⟩

theorem insertSale_ok {sale : Sale} {id : Id} (h : insertSale sale s = .ok (id, s')) :
    id = s.sales.next ∧ s' = { s with sales := s.sales.create sale } := by
  obtain ⟨_, h⟩ := Except.ite_error_eq_ok_iff.mp h
  obtain ⟨_, h⟩ := Except.ite_error_eq_ok_iff.mp h
  obtain ⟨rfl, rfl⟩ := Prod.mk.inj (Except.ok.inj h)
  exact ⟨rfl, rfl⟩

theorem updateSale_ok {id : Id} {f : Sale → Sale} (h : updateSale id f s = .ok s') :
    s' = { s with sales := s.sales.modify id f } ∧ ∃ sale, s.sales.find? id = some sale := by
  rw [updateSale] at h
  cases hfind : s.sales.find? id with
  | none => simp [hfind] at h
  | some sale =>
    simp only [hfind] at h
    exact ⟨(Except.ok.inj h).symm, sale, rfl⟩

/-- A new sale disturbs no item: its id is not in use. -/
theorem saleItemSound_createSale {i : SaleItem} (sale : Sale) (hi : SaleItemSound s i) :
    SaleItemSound { s with sales := s.sales.create sale } i := by
  obtain ⟨sale', hfind, hrest⟩ := hi
  refine ⟨sale', ?_, hrest⟩
  have hne : i.saleId ≠ s.sales.next := by
    intro heq
    rw [heq, Serial.find?_next] at hfind
    cases hfind
  rw [Serial.find?_create, if_neg hne]
  exact hfind

/-- An updated sale keeps its items sound if it keeps its tenant and location, and its items
have balance rows when it stops being a cart. -/
theorem saleItemSound_updateSale {i : SaleItem} {id : Id} {f : Sale → Sale}
    (hi : SaleItemSound s i)
    (hf : ∀ sale, s.sales.find? id = some sale → i.saleId = id →
      (f sale).tenantId = sale.tenantId ∧ (f sale).locationId = sale.locationId ∧
      ((f sale).status = .draft → sale.status = .draft) ∧
      ((f sale).status ≠ .draft → sale.status ≠ .draft ∨
        s.HasBalance i.productId sale.locationId)) :
    SaleItemSound { s with sales := s.sales.modify id f } i := by
  obtain ⟨sale, hfind, ht, hq, hdraft, hsold⟩ := hi
  by_cases hid : i.saleId = id
  · obtain ⟨htenant, hlocation, hstatus, hrow⟩ := hf sale (hid ▸ hfind) hid
    refine ⟨f sale, ?_, by rw [htenant]; exact ht, hq, fun h => hdraft (hstatus h), fun h => ?_⟩
    · rw [Serial.toTable_modify, Table.find?_modify, if_pos hid, hfind, Option.map_some]
    · rw [hlocation]
      exact (hrow h).elim hsold fun hrow => hrow
  · refine ⟨sale, ?_, ht, hq, hdraft, hsold⟩
    rw [Serial.toTable_modify, Table.find?_modify, if_neg hid]
    exact hfind

theorem books_createCart (hd : ∀ b : Booking, b.Apart → b.Unsold → d.permits b)
    (hs : WellFormed s) {dto : CartService.CreateCartDto} {id : Id}
    (h : CartService.createCart clock tenantId dto s = .ok (id, s')) : Books db d s s' := by
  obtain ⟨_, rfl⟩ := insertSale_ok h
  exact books_writeSales hd (hs.saleItems.imp fun _ _ => saleItemSound_createSale _)

theorem mem_itemsOf {saleId : Id} {r : Id × SaleItem} (h : r ∈ s.itemsOf saleId) :
    s.saleItems.find? r.1 = some r.2 ∧ r.2.saleId = saleId := by
  obtain ⟨hmem, hr⟩ := List.mem_filter.mp h
  exact ⟨Table.find?_of_mem_rows hmem, by simpa using hr⟩

theorem findSale_ok {saleId : Id} {read : SaleWithItems}
    (h : findSale tenantId saleId s = .ok read) :
    s.sales.find? saleId = some read.sale ∧ read.sale.tenantId = tenantId ∧
      read.items = s.itemsOf saleId := by
  rw [findSale] at h
  cases hfind : s.sales.find? saleId with
  | none => simp [hfind] at h
  | some sale =>
    simp only [hfind] at h
    split at h
    · next ht =>
      obtain rfl := Except.ok.inj h
      exact ⟨rfl, ht, rfl⟩
    · cases h

/-- What the items of a sale that was read are known to be. -/
theorem itemsOf_sound (hs : WellFormed s) {saleId : Id} {sale : Sale}
    (hsale : s.sales.find? saleId = some sale) {r : Id × SaleItem} (hr : r ∈ s.itemsOf saleId) :
    s.tenantOf r.2.productId = some sale.tenantId ∧ 0 ≤ r.2.quantity ∧
      (sale.status = .draft → 0 < r.2.quantity) ∧
      (sale.status ≠ .draft → s.HasBalance r.2.productId sale.locationId) := by
  obtain ⟨hfind, rfl⟩ := mem_itemsOf hr
  obtain ⟨sale', hsale', hrest⟩ := hs.saleItems _ _ hfind
  obtain rfl := Option.some.inj (hsale.symm.trans hsale')
  exact hrest

theorem forM_validateSaleItem_ok {locationId : Id} {items : List CreateSaleItemDto}
    (h : SaleService.validateStockAvailability tenantId locationId items s = .ok ()) :
    ∀ item ∈ items, item.quantity ≤ (s.available tenantId item.productId locationId : ℤ) := by
  intro item hitem
  have hitem := forM_eq_ok_iff.mp h item hitem
  rw [validateSaleItem] at hitem
  dsimp only at hitem
  split at hitem
  · cases hitem
  · next havail => exact not_lt.mp havail

theorem paid_of_validate {totalAmount paidAmount : ℚ}
    (h : validatePaymentAmount totalAmount paidAmount = .ok ()) : totalAmount ≤ paidAmount := by
  rw [validatePaymentAmount] at h
  split at h
  · cases h
  · next hle => exact not_lt.mp hle

/-- The lines of a quick sale. -/
def CreateSaleDto.lines (dto : SaleService.CreateSaleDto) : List Line :=
  dto.items.map fun item => ⟨item.productId, dto.locationId, -item.quantity.floor⟩

/-- The items that a quick sale processes are the requested ones, with whole quantities. -/
theorem readCreateSale_ok {dto : SaleService.CreateSaleDto} {items : List ProcessedSaleItem}
    {totals : SaleTotals} (h : SaleService.readCreate db tenantId dto s = .ok (items, totals)) :
    items = dto.items.map (processItem db tenantId dto.locationId s) ∧
      totals = calculateTotals items dto.discountAmount dto.payments ∧
      totals.totalAmount ≤ totals.paidAmount ∧
      ∀ item ∈ dto.items,
        item.quantity ≤ (s.available tenantId item.productId dto.locationId : ℤ) := by
  obtain ⟨_, _, h⟩ := Except.bind_eq_ok_iff.mp h
  obtain ⟨_, _, h⟩ := Except.bind_eq_ok_iff.mp h
  obtain ⟨_, _, h⟩ := Except.bind_eq_ok_iff.mp h
  obtain ⟨_, _, h⟩ := Except.bind_eq_ok_iff.mp h
  obtain ⟨_, havail, h⟩ := Except.bind_eq_ok_iff.mp h
  obtain ⟨_, hpaid, h⟩ := Except.bind_eq_ok_iff.mp h
  obtain ⟨rfl, rfl⟩ := Prod.mk.inj (Except.ok.inj h)
  exact ⟨rfl, rfl, paid_of_validate hpaid, forM_validateSaleItem_ok havail⟩

/-- The store of a quick sale before stock goes out. -/
def soldStore (db : Database) (clock : Clock) (tenantId : Id) (dto : SaleService.CreateSaleDto)
    (items : List ProcessedSaleItem) (totals : SaleTotals) (s : Store) : Store :=
  createPayments db s.sales.next dto.payments (createSaleItems db s.sales.next items
    { s with
      sales := s.sales.create
        (newSale db clock tenantId (generateSaleNumber clock tenantId s) dto totals) })

/-- The transaction of a quick sale writes the sale and takes its items out of stock. -/
theorem executeSaleTransaction_ok {dto : SaleService.CreateSaleDto}
    {items : List ProcessedSaleItem} {totals : SaleTotals} {id : Id}
    (h : executeSaleTransaction db clock tenantId dto items totals s s = .ok (id, s')) :
    id = s.sales.next ∧
      validateStockOut tenantId (saleStockOut dto.locationId s.sales.next
        (items.map fun item => (item.productId, item.quantity))) s = .ok () ∧
      s' = (executeStockOut db tenantId (saleStockOut dto.locationId s.sales.next
        (items.map fun item => (item.productId, item.quantity)))
          (soldStore db clock tenantId dto items totals s)).2 := by
  obtain ⟨⟨id', s₁⟩, hinsert, h⟩ := Except.bind_eq_ok_iff.mp h
  obtain ⟨rfl, rfl⟩ := insertSale_ok hinsert
  obtain ⟨⟨r, s₂⟩, hout, h⟩ := Except.bind_eq_ok_iff.mp h
  obtain ⟨rfl, rfl⟩ := Prod.mk.inj (Except.ok.inj h)
  obtain ⟨_, hvalid, hout⟩ := Except.bind_eq_ok_iff.mp hout
  exact ⟨rfl, hvalid, (congrArg Prod.snd (Except.ok.inj hout)).symm⟩

theorem books_createSale (hd : ∀ b : Booking, b.Apart → d.permits b)
    (hs : WellFormed s) {dto : SaleService.CreateSaleDto} {id : Id}
    (hq : ∀ item ∈ dto.items, 0 < item.quantity)
    (h : SaleService.create db clock tenantId dto s = .ok (id, s'))
    (hcovered : d.covered → LinesCovered s.onHand (CreateSaleDto.lines dto)) :
    Books db d s s' := by
  obtain ⟨⟨items, totals⟩, hread, h⟩ := Except.bind_eq_ok_iff.mp h
  obtain ⟨hitems, _, _, havail⟩ := readCreateSale_ok hread
  obtain ⟨_, hvalid, rfl⟩ := executeSaleTransaction_ok h
  obtain ⟨htenant, _⟩ := validateStockOut_ok hvalid
  have hitem : ∀ item ∈ items, 0 ≤ item.quantity ∧
      s.Stocked tenantId item.productId dto.locationId := by
    intro item hitem
    have ht := htenant _ (List.mem_map_of_mem hitem)
    rw [hitems] at hitem
    obtain ⟨item₀, hitem₀, rfl⟩ := List.mem_map.mp hitem
    have hpos := hq item₀ hitem₀
    refine ⟨Int.floor_nonneg.mpr hpos.le, stocked_of_available ht ?_⟩
    exact_mod_cast lt_of_lt_of_le hpos (havail item₀ hitem₀)
  set sold := soldStore db clock tenantId dto items totals s
  have hwrite : Books db d s sold := by
    refine books_writeSales (fun b hb _ => hd b hb) ?_
    have hold : s.saleItems.All fun _ i => SaleItemSound sold i :=
      hs.saleItems.imp fun _ i hi => saleItemSound_createSale _ hi
    refine Serial.All_foldl_create items hold fun item hmem => ?_
    obtain ⟨hqty, ht, hrow⟩ := hitem item hmem
    exact ⟨newSale db clock tenantId (generateSaleNumber clock tenantId s) dto totals,
      (Serial.find?_create _).trans (if_pos rfl), ht, hqty,
      fun h => (by cases h), fun _ => hrow⟩
  -- The goods are issued after the sale and its items are written.
  refine hwrite.trans (books_executeStockOut (hwrite.keeps hs).1 ?_ ?_ (fun _ => hd _ trivial)
    fun hcov => ?_)
  · intro x hx
    obtain ⟨item, hmem, rfl⟩ := List.mem_map.mp hx
    exact (hitem item hmem).1
  · intro x hx
    obtain ⟨item, hmem, rfl⟩ := List.mem_map.mp hx
    exact (hitem item hmem).2
  · have hlines : BulkStockOutDto.lines (saleStockOut dto.locationId s.sales.next
        (items.map fun item => (item.productId, item.quantity))) = CreateSaleDto.lines dto := by
      simp only [BulkStockOutDto.lines, saleStockOut, CreateSaleDto.lines, hitems, List.map_map]
      rfl
    rw [hlines]
    exact hcovered hcov

/-! ### Completion, void and refund -/

/-- Payments made one by one are the payments of `createMany`. -/
theorem processPayments_ok {saleId : Id} {payments : List PaymentDto} {total : ℚ}
    (h : PaymentService.processPayments db saleId payments s = .ok (total, s')) :
    s' = createPayments db saleId payments s := by
  rw [PaymentService.processPayments] at h
  have hgeneral : ∀ (start : ℚ) (s : Store),
      payments.foldlM (fun (x : ℚ × Store) payment => do
        let s ← PaymentService.createPayment db saleId payment x.2
        return (x.1 + payment.amount, s)) (start, s) = .ok (total, s') →
      s' = createPayments db saleId payments s := by
    clear h
    induction payments with
    | nil =>
      intro start s h
      exact (congrArg Prod.snd (Except.ok.inj h)).symm
    | cons payment rest ih =>
      intro start s h
      rw [List.foldlM_cons] at h
      obtain ⟨⟨start₁, s₁⟩, hfirst, h⟩ := Except.bind_eq_ok_iff.mp h
      obtain ⟨s₂, hcreate, hfirst⟩ := Except.bind_eq_ok_iff.mp hfirst
      obtain ⟨rfl, rfl⟩ := Prod.mk.inj (Except.ok.inj hfirst)
      rw [PaymentService.createPayment] at hcreate
      split at hcreate
      · cases hcreate
      · obtain rfl := Except.ok.inj hcreate
        exact ih _ _ h
  exact hgeneral 0 s h

/-- The lines of the items of a sale, out of stock. -/
def Store.saleLines (s : Store) (saleId : Id) : List Line :=
  match s.sales.find? saleId with
  | none => []
  | some sale => (s.itemsOf saleId).map fun r => ⟨r.2.productId, sale.locationId, -r.2.quantity⟩

theorem readComplete_ok {saleId : Id} {payments : List PaymentDto} {read : SaleWithItems}
    {totals : SaleTotals} (h : readComplete tenantId saleId payments s = .ok (read, totals)) :
    s.sales.find? saleId = some read.sale ∧ read.sale.tenantId = tenantId ∧
      read.sale.status = .draft ∧ read.items = s.itemsOf saleId ∧ s.itemsOf saleId ≠ [] ∧
      totals = calculateCompletionTotals read.sale (aggregateSaleItems read.items).1 payments ∧
      totals.totalAmount ≤ totals.paidAmount := by
  obtain ⟨read', hdraft, h⟩ := Except.bind_eq_ok_iff.mp h
  obtain ⟨_, hpaid, h⟩ := Except.bind_eq_ok_iff.mp h
  obtain ⟨rfl, rfl⟩ := Prod.mk.inj (Except.ok.inj h)
  obtain ⟨read'', hsale, hdraft⟩ := Except.bind_eq_ok_iff.mp hdraft
  by_cases hstatus : read''.sale.status = .draft
  · rw [if_neg (not_not.mpr hstatus)] at hdraft
    split at hdraft
    · cases hdraft
    · next hempty =>
      obtain rfl := Except.ok.inj hdraft
      obtain ⟨hfind, ht, hitems⟩ := findSale_ok hsale
      refine ⟨hfind, ht, hstatus, hitems, fun hnil => hempty ?_, rfl, paid_of_validate hpaid⟩
      rw [hitems, hnil]
      rfl
  · rw [if_pos hstatus] at hdraft
    cases hdraft

/-- What a completion keeps of the payments is the total. -/
theorem change_le_paid {totalAmount paidAmount : ℚ} (htotal : 0 ≤ totalAmount)
    (hpaid : totalAmount ≤ paidAmount) :
    PaymentService.calculateChange totalAmount paidAmount ≤ paidAmount := by
  rw [PaymentService.calculateChange]
  split
  · linarith
  · linarith

/-- The removal that a completion makes. -/
def completionOut (saleId : Id) (read : SaleWithItems) : BulkStockOutDto :=
  saleStockOut read.sale.locationId saleId (aggregateSaleItems read.items).2

/-- The transaction of a completion: payments, the removal, and then the reservations and the
sale are marked. -/
theorem executeCompletionTransaction_ok {client : Store} {saleId : Id} {payments : List PaymentDto}
    {read : SaleWithItems} {totals : SaleTotals}
    (h : executeCompletionTransaction db tenantId saleId payments read totals client s =
      .ok ((), s')) :
    validateStockOut tenantId (completionOut saleId read) client = .ok () ∧
      updateSale saleId (fun sale =>
        { sale with
          status := .completed
          paidAmount := db.decimal totals.paidAmount
          changeAmount := db.decimal totals.changeAmount })
        (fulfillReservations saleId
          (executeStockOut db tenantId (completionOut saleId read)
            (createPayments db saleId payments s)).2) = .ok s' := by
  obtain ⟨⟨total, s₁⟩, hpay, h⟩ := Except.bind_eq_ok_iff.mp h
  obtain rfl := processPayments_ok hpay
  obtain ⟨⟨r, s₂⟩, hout, h⟩ := Except.bind_eq_ok_iff.mp h
  obtain ⟨s₃, hupdate, h⟩ := Except.bind_eq_ok_iff.mp h
  obtain rfl : s₃ = s' := congrArg Prod.snd (Except.ok.inj h)
  obtain ⟨_, hvalid, hout⟩ := Except.bind_eq_ok_iff.mp hout
  obtain rfl : (executeStockOut db tenantId (completionOut saleId read)
      (createPayments db saleId payments s)).2 = s₂ := congrArg Prod.snd (Except.ok.inj hout)
  exact ⟨hvalid, hupdate⟩

/-- Stock lines write neither reservations nor sales. -/
theorem executeStockOut_frame (db : Database) (tenantId : Id) (dto : BulkStockOutDto)
    (s : Store) :
    (executeStockOut db tenantId dto s).2.reservations = s.reservations ∧
      (executeStockOut db tenantId dto s).2.sales = s.sales ∧
      (executeStockOut db tenantId dto s).2.saleItems = s.saleItems ∧
      (executeStockOut db tenantId dto s).2.saleRefunds = s.saleRefunds := by
  rw [executeStockOut_eq]
  induction dto.items generalizing s with
  | nil => exact ⟨rfl, rfl, rfl, rfl⟩
  | cons item rest ih =>
    rw [List.foldl_cons]
    obtain ⟨hreservations, hsales, hitems, hrefunds⟩ :=
      ih (recordIssue db (releasedIssue tenantId dto item) s).2
    rw [hreservations, hsales, hitems, hrefunds, recordIssue_eq]
    exact ⟨rfl, rfl, rfl, rfl⟩

theorem books_fulfill (hd : ∀ b : Booking, b.Apart → b.Unsold → d.permits b)
    {saleId : Id}
    (hsettled : d.settled → s.reservations.All fun _ r => ¬isReservationOf saleId r) :
    Books db d s (fulfillReservations saleId s) :=
  Books.single (b := .fulfill saleId)
    ⟨trivial, fun _ => trivial, hsettled, hd _ trivial trivial⟩

theorem books_completeSale (hd : ∀ b : Booking, b.Apart → d.permits b)
    (hs : WellFormed s) {saleId : Id} {payments : List PaymentDto}
    (h : SaleService.complete db tenantId saleId payments s = .ok ((), s'))
    (hcovered : d.covered → LinesCovered s.onHand (s.saleLines saleId))
    (hsettled : d.settled → s.reservations.All fun _ r => ¬isReservationOf saleId r) :
    Books db d s s' := by
  have hapart : ∀ b : Booking, b.Apart → b.Unsold → d.permits b := fun b hb _ => hd b hb
  obtain ⟨⟨read, totals⟩, hread, h⟩ := Except.bind_eq_ok_iff.mp h
  obtain ⟨hfind, ht, hdraft, hitems, _⟩ := readComplete_ok hread
  obtain ⟨hvalid, hupdate⟩ := executeCompletionTransaction_ok h
  obtain ⟨htenant, havail⟩ := validateStockOut_ok hvalid
  have hlines : (completionOut saleId read).items = (s.itemsOf saleId).map fun r =>
      (r.2.productId, r.2.quantity) := by rw [← hitems]; rfl
  have hpos : ∀ r ∈ s.itemsOf saleId, 0 < r.2.quantity := fun r hr =>
    (itemsOf_sound hs hfind hr).2.2.1 hdraft
  have hstocked : ∀ r ∈ s.itemsOf saleId,
      s.Stocked tenantId r.2.productId read.sale.locationId := by
    intro r hr
    have hmem : (r.2.productId, r.2.quantity) ∈ (completionOut saleId read).items :=
      hlines ▸ List.mem_map_of_mem hr
    exact stocked_of_available (htenant _ hmem) (lt_of_lt_of_le (hpos r hr) (havail _ hmem))
  -- The payments, then the removal.
  set paid := createPayments db saleId payments s
  have hpay : Books db d s paid := books_writeSales hapart hs.saleItems
  have hs₁ := (hpay.keeps hs).1
  have hout : Books db d paid (executeStockOut db tenantId (completionOut saleId read) paid).2 := by
    refine books_executeStockOut hs₁ (fun item hitem => ?_) (fun item hitem => ?_)
      (fun _ => hd _ trivial) fun hcov => ?_
    · rw [hlines] at hitem
      obtain ⟨r, hr, rfl⟩ := List.mem_map.mp hitem
      exact (hpos r hr).le
    · rw [hlines] at hitem
      obtain ⟨r, hr, rfl⟩ := List.mem_map.mp hitem
      exact hstocked r hr
    · have hsame : BulkStockOutDto.lines (completionOut saleId read) = s.saleLines saleId := by
        rw [BulkStockOutDto.lines, hlines, Store.saleLines, hfind, List.map_map]
        rfl
      rw [hsame]
      exact hcovered hcov
  -- The reservations and the sale are marked.
  set s₂ := (executeStockOut db tenantId (completionOut saleId read) paid).2 with hs₂
  have hframe := executeStockOut_frame db tenantId (completionOut saleId read) paid
  rw [← hs₂] at hframe
  have hfulfill : Books db d s₂ (fulfillReservations saleId s₂) :=
    books_fulfill hapart fun hset => by rw [hframe.1]; exact hsettled hset
  have hrun := (hpay.trans hout).trans hfulfill
  obtain ⟨hs₃, hext⟩ := hrun.keeps hs
  obtain ⟨rfl, _⟩ := updateSale_ok hupdate
  refine hrun.trans (books_writeSales hapart ?_)
  intro k i hi
  refine saleItemSound_updateSale (hs₃.saleItems k i hi) fun sale hsale hid => ?_
  refine ⟨rfl, rfl, fun h => (by cases h), fun _ => .inr ?_⟩
  have hsales : (fulfillReservations saleId s₂).sales = s.sales := hframe.2.1
  rw [hsales, hfind] at hsale
  obtain rfl := Option.some.inj hsale
  have hi' : s.saleItems.find? k = some i := by
    have hsaleItems : (fulfillReservations saleId s₂).saleItems = s.saleItems := hframe.2.2.1
    rwa [hsaleItems] at hi
  have hmem : (k, i) ∈ s.itemsOf saleId :=
    List.mem_filter.mpr ⟨Table.mem_rows_of_find? hi', by simpa using hid⟩
  exact (hext.stocked (hstocked _ hmem)).2

theorem readVoid_ok {saleId : Id} {read : SaleWithItems}
    (h : readVoid tenantId saleId s = .ok read) :
    s.sales.find? saleId = some read.sale ∧ read.sale.tenantId = tenantId ∧
      read.sale.status = .completed ∧ read.items = s.itemsOf saleId := by
  obtain ⟨read', hsale, h⟩ := Except.bind_eq_ok_iff.mp h
  by_cases hstatus : read'.sale.status = .completed
  · rw [if_neg (not_not.mpr hstatus)] at h
    obtain rfl := Except.ok.inj h
    obtain ⟨hfind, ht, hitems⟩ := findSale_ok hsale
    exact ⟨hfind, ht, hstatus, hitems⟩
  · rw [if_pos hstatus] at h
    cases h

/-- A sale that is not a cart may change its status to another one that is not. -/
theorem books_updateStatus (hd : ∀ b : Booking, b.Apart → b.Unsold → d.permits b)
    (hs : WellFormed s) {saleId : Id} {f : Sale → Sale}
    (hf : ∀ sale, s.sales.find? saleId = some sale → sale.status ≠ .draft ∧
      (f sale).status ≠ .draft ∧ (f sale).tenantId = sale.tenantId ∧
      (f sale).locationId = sale.locationId) :
    Books db d s { s with sales := s.sales.modify saleId f } := by
  refine books_writeSales hd (hs.saleItems.imp fun _ i hi => ?_)
  refine saleItemSound_updateSale hi fun sale hsale _ => ?_
  obtain ⟨hnot, hnot', ht, hl⟩ := hf sale hsale
  exact ⟨ht, hl, fun h => absurd h hnot', fun _ => .inl hnot⟩

theorem books_voidSale (hd : ∀ b : Booking, b.Apart → b.Unsold → d.permits b)
    (hs : WellFormed s) {saleId : Id}
    (h : SaleService.void db tenantId saleId s = .ok ((), s'))
    (hcovered : d.covered → ∀ r ∈ s.itemsOf saleId, r.2.quantity ≤ 0) : Books db d s s' := by
  obtain ⟨read, hread, h⟩ := Except.bind_eq_ok_iff.mp h
  obtain ⟨hfind, ht, hstatus, hitems⟩ := readVoid_ok hread
  obtain ⟨s₁, hupdate, h⟩ := Except.bind_eq_ok_iff.mp h
  obtain rfl : (read.items.map Prod.snd).foldl
      (voidItem db tenantId saleId read.sale.locationId) s₁ = s' :=
    congrArg Prod.snd (Except.ok.inj h)
  obtain ⟨rfl, _⟩ := updateSale_ok hupdate
  have hmark : Books db d s
      { s with sales := s.sales.modify saleId fun sale => { sale with status := .voided } } := by
    refine books_updateStatus hd hs fun sale hsale => ?_
    obtain rfl := Option.some.inj (hfind.symm.trans hsale)
    exact ⟨by rw [hstatus]; decide, nofun, rfl, rfl⟩
  refine hmark.trans (Books.foldl (hmark.keeps hs).1 fun item hitem s' _ hext => ?_)
  rw [hitems] at hitem
  obtain ⟨r, hr, rfl⟩ := List.mem_map.mp hitem
  obtain ⟨htenant, hq, _, hrow⟩ := itemsOf_sound hs hfind hr
  have hstocked : s.Stocked tenantId r.2.productId read.sale.locationId :=
    ⟨ht ▸ htenant, hrow (by rw [hstatus]; decide)⟩
  exact Books.single (b := .voidItem tenantId saleId read.sale.locationId r.2)
    ⟨⟨hq, hext.stocked hstocked⟩, fun hcov => hcovered hcov r hr, fun _ => trivial,
      hd _ trivial trivial⟩

theorem insertRefund_ok {refund : SaleRefund} {id : Id}
    (h : RefundService.insertRefund refund s = .ok (id, s')) :
    s' = { s with saleRefunds := s.saleRefunds.create refund } := by
  obtain ⟨_, h⟩ := Except.ite_error_eq_ok_iff.mp h
  obtain ⟨_, h⟩ := Except.ite_error_eq_ok_iff.mp h
  exact (congrArg Prod.snd (Except.ok.inj h)).symm

/-- What a loop that may fail returns comes from its arguments. -/
theorem mem_of_mapM_ok {α β ε : Type} {f : α → Except ε β} {l : List α} {l' : List β}
    (h : l.mapM f = .ok l') {y : β} (hy : y ∈ l') : ∃ x ∈ l, f x = .ok y := by
  have hpairs := Except.forall₂_of_mapM_ok h
  obtain ⟨i, hi, rfl⟩ := List.mem_iff_getElem.mp hy
  have hil : i < l.length := hpairs.length_eq ▸ hi
  exact ⟨l[i], List.getElem_mem hil, hpairs.get hil hi⟩

/-- Every returned item names an item of the sale, with the quantity of the request. -/
theorem findReturnedItems_ok {saleItems : List (Id × SaleItem)}
    {items : List RefundService.RefundItemDto} {returned : List (SaleItem × ℚ)}
    (h : RefundService.findReturnedItems saleItems items = .ok returned) {r : SaleItem × ℚ}
    (hr : r ∈ returned) :
    (∃ k, (k, r.1) ∈ saleItems) ∧ ∃ item ∈ items, r.2 = item.quantity := by
  obtain ⟨item, hitem, hfound⟩ := mem_of_mapM_ok h hr
  split at hfound
  · next found hfind =>
    obtain rfl := Except.ok.inj hfound
    exact ⟨⟨found.1, List.mem_of_find?_eq_some hfind⟩, item, hitem, rfl⟩
  · cases hfound

theorem executeStockIn_sales (dto : BulkStockInDto) (s : Store) :
    (executeStockIn db clock tenantId dto s).2.sales = s.sales := by
  rw [executeStockIn_eq]
  apply Loops.view_foldl Store.sales
  exact fun _ _ _ => rfl

/-- A refund returns nothing, or receives products of the tenant in quantities that it names. -/
theorem returnStock_ok {refundId : Id} {dto : RefundService.CreateRefundDto} {read : SaleWithItems}
    {client : Store}
    (h : RefundService.returnStock db clock tenantId refundId dto read client s = .ok s') :
    s' = s ∨ ∃ items : List BulkStockInItemDto,
      s' = (executeStockIn db clock tenantId
        (RefundService.returnStockIn read.sale.locationId refundId items) s).2 ∧
      ∀ item ∈ items, client.tenantOf item.productId = some tenantId ∧
        ∃ asked ∈ dto.items.getD [], (item.quantity : ℚ) = asked.quantity := by
  rw [RefundService.returnStock] at h
  split at h
  · obtain ⟨returned, hfound, h⟩ := Except.bind_eq_ok_iff.mp h
    obtain ⟨_, hvalid, h⟩ := Except.bind_eq_ok_iff.mp h
    obtain ⟨items, hmap, h⟩ := Except.bind_eq_ok_iff.mp h
    refine .inr ⟨items, (Except.ok.inj h).symm, fun item hitem => ?_⟩
    obtain ⟨r, hr, hitem⟩ := mem_of_mapM_ok hmap hitem
    obtain ⟨quantity, hint, hitem⟩ := Except.bind_eq_ok_iff.mp hitem
    obtain rfl := Except.ok.inj hitem
    obtain ⟨_, asked, hasked, heq⟩ := findReturnedItems_ok hfound hr
    refine ⟨validateStockIn_ok hvalid _ (List.mem_map_of_mem hr), asked, hasked, ?_⟩
    rw [← heq, intColumn_ok hint]
    rfl
  · exact .inl (Except.ok.inj h).symm

theorem books_returnStock {client : Store} (hs : WellFormed s)
    (hclient : s.tenantOf = client.tenantOf) {refundId : Id}
    {dto : RefundService.CreateRefundDto} {read : SaleWithItems}
    (hq : ∀ item ∈ dto.items.getD [], 0 ≤ item.quantity)
    (h : RefundService.returnStock db clock tenantId refundId dto read client s = .ok s') :
    Books db d s s' := by
  obtain rfl | ⟨items, rfl, hitems⟩ := returnStock_ok h
  · exact Books.refl s'
  · refine books_executeStockIn hs (fun item hitem => ?_) fun item hitem => ?_
    · obtain ⟨_, asked, hasked, heq⟩ := hitems item hitem
      have hnonneg := hq asked hasked
      rw [← heq] at hnonneg
      exact_mod_cast hnonneg
    · rw [hclient]
      exact (hitems item hitem).1

/-- The transaction of a refund writes it, returns what it names, and marks the sale. -/
theorem executeRefund_ok {saleId id : Id} {dto : RefundService.CreateRefundDto}
    {read : SaleWithItems} {total : ℚ} {client : Store}
    (h : RefundService.executeRefund db clock tenantId saleId dto read total client s =
      .ok (id, s')) :
    ∃ s₁, RefundService.returnStock db clock tenantId id dto read client
        { s with
          saleRefunds := s.saleRefunds.create
            { saleId
              tenantId
              refundNumber := generateRefundNumber clock tenantId s
              amount := db.decimal dto.amount
              method := dto.method } } = .ok s₁ ∧
      s' = { s₁ with
        sales := s₁.sales.modify saleId fun sale =>
          { sale with
            status := if total + dto.amount ≥ read.sale.paidAmount - read.sale.changeAmount then
                SaleStatus.refunded
              else SaleStatus.partiallyRefunded } } := by
  obtain ⟨⟨refundId, s₁⟩, hinsert, h⟩ := Except.bind_eq_ok_iff.mp h
  obtain ⟨s₂, hreturn, h⟩ := Except.bind_eq_ok_iff.mp h
  obtain ⟨s₃, hupdate, h⟩ := Except.bind_eq_ok_iff.mp h
  obtain ⟨rfl, rfl⟩ := Prod.mk.inj (Except.ok.inj h)
  obtain rfl := insertRefund_ok hinsert
  exact ⟨s₂, hreturn, (updateSale_ok hupdate).1⟩

/-- A refund is for a sale that is completed and not yet refunded in full. -/
theorem readRefund_ok {saleId : Id} {dto : RefundService.CreateRefundDto} {read : SaleWithItems}
    {total : ℚ} (h : RefundService.readRefund tenantId saleId dto s = .ok (read, total)) :
    s.sales.find? saleId = some read.sale ∧ read.sale.tenantId = tenantId ∧
      (read.sale.status = .completed ∨ read.sale.status = .partiallyRefunded) ∧
      read.items = s.itemsOf saleId ∧ total = RefundService.totalRefunded saleId s ∧
      dto.amount ≤ read.sale.paidAmount - total - read.sale.changeAmount := by
  obtain ⟨read', hsale, h⟩ := Except.bind_eq_ok_iff.mp h
  dsimp only at h
  by_cases hstatus : read'.sale.status ≠ .completed ∧ read'.sale.status ≠ .partiallyRefunded
  · rw [if_pos hstatus] at h
    cases h
  · rw [if_neg hstatus] at h
    split at h
    · cases h
    · next hle =>
      obtain ⟨rfl, rfl⟩ := Prod.mk.inj (Except.ok.inj h)
      obtain ⟨hfind, ht, hitems⟩ := findSale_ok hsale
      refine ⟨hfind, ht, ?_, hitems, rfl, not_lt.mp hle⟩
      rwa [not_and_or, not_not, not_not] at hstatus

theorem books_createRefund (hd : ∀ b : Booking, b.Apart → b.Unsold → d.permits b)
    (hs : WellFormed s) {saleId : Id}
    {dto : RefundService.CreateRefundDto} {id : Id}
    (hq : ∀ item ∈ dto.items.getD [], 0 ≤ item.quantity)
    (h : RefundService.createRefund db clock tenantId saleId dto s = .ok (id, s')) :
    Books db d s s' := by
  obtain ⟨⟨read, total⟩, hread, h⟩ := Except.bind_eq_ok_iff.mp h
  obtain ⟨hfind, _, hstatus, _⟩ := readRefund_ok hread
  have hdraft : read.sale.status ≠ .draft := by rcases hstatus with h | h <;> rw [h] <;> decide
  obtain ⟨s₁, hreturn, rfl⟩ := executeRefund_ok h
  have hrefund (refund : SaleRefund) :
      Books db d s { s with saleRefunds := s.saleRefunds.create refund } :=
    books_writeSales hd hs.saleItems
  have hback := (hrefund _).trans (books_returnStock ((hrefund _).keeps hs).1 rfl hq hreturn)
  -- The returned items change neither the sale nor its status.
  have hsales : s₁.sales = s.sales := by
    obtain rfl | ⟨items, rfl, _⟩ := returnStock_ok hreturn
    · rfl
    · exact executeStockIn_sales _ _
  refine hback.trans (books_updateStatus hd (hback.keeps hs).1 fun sale hsale => ?_)
  rw [hsales, hfind] at hsale
  obtain rfl := Option.some.inj hsale
  refine ⟨hdraft, ?_, rfl, rfl⟩
  dsimp only
  split <;> decide

/-! ### Sessions -/

theorem books_openSession {dto : SessionService.OpenSessionDto} {id : Id}
    (h : SessionService.open db clock tenantId dto s = .ok (id, s')) : Books db d s s' := by
  obtain ⟨_, _, h⟩ := Except.bind_eq_ok_iff.mp h
  rw [SessionService.insertSession] at h
  split at h
  · cases h
  · obtain ⟨_, rfl⟩ := Prod.mk.inj (Except.ok.inj h)
    refine Books.single (b := .writeSessions _)
      ⟨fun id session hfind => ⟨session, ?_, rfl, rfl⟩, fun _ => trivial, fun _ => trivial,
        d.permits_plain _ trivial⟩
    exact Serial.find?_create_of_some hfind _

theorem books_closeSession {sessionId : Id} {dto : SessionService.CloseSessionDto}
    {r : SessionService.CloseSessionResponse}
    (h : SessionService.close db tenantId sessionId dto s = .ok (r, s')) : Books db d s s' := by
  obtain ⟨_, _, h⟩ := Except.bind_eq_ok_iff.mp h
  obtain ⟨_, rfl⟩ := Prod.mk.inj (Except.ok.inj h)
  refine Books.single (b := .writeSessions _)
    ⟨fun id session hfind => ?_, fun _ => trivial, fun _ => trivial, d.permits_plain _ trivial⟩
  rw [Serial.toTable_modify, Table.find?_modify]
  by_cases hid : id = sessionId
  · rw [if_pos hid, hfind]
    exact ⟨_, rfl, rfl, rfl⟩
  · rw [if_neg hid]
    exact ⟨session, hfind, rfl, rfl⟩

/-! ### The cleanup of carts -/

/-- The carts that are deleted have no refunds. -/
theorem deleteCarts_ok {cartIds : List Id} (h : CartCleanupService.deleteCarts cartIds s = .ok s') :
    (∀ r ∈ s.saleRefunds.rows, r.2.saleId ∉ cartIds) ∧
      s' = { s with
        saleItems := s.saleItems.deleteWhere fun _ i => i.saleId ∈ cartIds
        sales := s.sales.deleteWhere fun id _ => id ∈ cartIds
        salePayments := s.salePayments.deleteWhere fun _ p => p.saleId ∈ cartIds } := by
  rw [CartCleanupService.deleteCarts] at h
  split at h
  · cases h
  · next hnone =>
    refine ⟨fun r hr hmem => hnone ?_, (Except.ok.inj h).symm⟩
    exact List.any_eq_true.mpr ⟨r, hr, decide_eq_true hmem⟩

theorem books_deleteCarts (hd : ∀ b : Booking, b.Apart → b.Unsold → d.permits b)
    (hs : WellFormed s) {cartIds : List Id}
    (h : CartCleanupService.deleteCarts cartIds s = .ok s') : Books db d s s' := by
  obtain ⟨_, rfl⟩ := deleteCarts_ok h
  refine books_writeSales hd ?_
  intro k i hi
  rw [Serial.toTable_deleteWhere, Table.find?_deleteWhere] at hi
  obtain ⟨hfind, hkept⟩ := Option.mem_filter_iff.mp hi
  obtain ⟨sale, hsale, hrest⟩ := hs.saleItems k i hfind
  refine ⟨sale, ?_, hrest⟩
  rw [Serial.toTable_deleteWhere, Table.find?_deleteWhere, hsale]
  exact Option.filter_some_pos hkept

/-- The job reads the carts that are too old, and all reservations made for them. -/
theorem readCleanup_eq_some {read : CartCleanupService.Abandoned}
    (h : CartCleanupService.readCleanup clock s = some read) :
    read.cartIds = CartCleanupService.abandonedCarts clock s ∧
      Booking.Guard s (.expireCarts read) := by
  unfold CartCleanupService.readCleanup at h
  dsimp only at h
  split at h
  · cases h
  · rw [← Option.some.inj h]
    exact ⟨rfl, rfl⟩

theorem books_cleanup (hd : ∀ b : Booking, b.Apart → b.Unsold → d.permits b)
    (hs : WellFormed s) {r : CartCleanupService.CleanupResult}
    (h : CartCleanupService.cleanupAbandonedCarts clock s = .ok (r, s')) : Books db d s s' := by
  rw [CartCleanupService.cleanupAbandonedCarts] at h
  split at h
  · obtain rfl := congrArg Prod.snd (Except.ok.inj h)
    exact Books.refl s
  · next read hread =>
    obtain ⟨_, hguard⟩ := readCleanup_eq_some hread
    obtain ⟨s₁, hdelete, h⟩ := Except.bind_eq_ok_iff.mp h
    obtain rfl : s₁ = s' := congrArg Prod.snd (Except.ok.inj h)
    have hexpire : Books db d s (book db (.expireCarts read) s) :=
      Books.single ⟨hguard, fun _ => trivial, fun _ => trivial, hd _ trivial trivial⟩
    exact hexpire.trans (books_deleteCarts hd (hexpire.keeps hs).1 hdelete)

/-! ### Carts -/

open CartService

theorem books_transaction {α : Type} {f : Store → Except HttpError (α × Store)}
    (h : ∀ a s', f s = .ok (a, s') → Books db d s s') : Books db d s (transaction f s).2 :=
  transaction_preserves (I := Books db d s) (Books.refl s) h

theorem getCartOrThrow_ok {cartId : Id} {cart : Sale}
    (h : getCartOrThrow tenantId cartId s = .ok cart) :
    s.sales.find? cartId = some cart ∧ cart.tenantId = tenantId ∧ cart.status = .draft := by
  rw [getCartOrThrow] at h
  cases hfind : s.sales.find? cartId with
  | none => simp [hfind] at h
  | some cart' =>
    simp only [hfind] at h
    split at h
    · next hcart =>
      obtain rfl := Except.ok.inj h
      exact ⟨rfl, hcart⟩
    · cases h

/-- The totals of a cart are written if they fit their columns. -/
theorem recalculateCart_eq_ok_iff {cartId : Id} : recalculateCart db cartId s = .ok s' ↔
    db.Fits 15 ((s.itemsOf cartId).map fun r => r.2.lineTotal).sum ∧
    db.Fits 15 (((s.itemsOf cartId).map fun r => r.2.lineTotal).sum -
      ((s.sales.find? cartId).map Sale.discountAmount).getD 0 + 0) ∧
    updateSale cartId (fun sale =>
      { sale with
        subtotal := db.decimal ((s.itemsOf cartId).map fun r => r.2.lineTotal).sum
        totalAmount := db.decimal (((s.itemsOf cartId).map fun r => r.2.lineTotal).sum -
          ((s.sales.find? cartId).map Sale.discountAmount).getD 0 + 0) }) s = .ok s' := by
  constructor
  · intro h
    obtain ⟨subtotal, hsubtotal, h⟩ := Except.bind_eq_ok_iff.mp h
    obtain ⟨totalAmount, htotal, h⟩ := Except.bind_eq_ok_iff.mp h
    obtain ⟨rfl, hfits⟩ := Database.decimalColumn_eq_ok_iff.mp hsubtotal
    obtain ⟨rfl, hfits'⟩ := Database.decimalColumn_eq_ok_iff.mp htotal
    exact ⟨hfits, hfits', h⟩
  · rintro ⟨hfits, hfits', h⟩
    exact Except.bind_eq_ok_iff.mpr ⟨_, Database.decimalColumn_eq_ok_iff.mpr ⟨rfl, hfits⟩,
      Except.bind_eq_ok_iff.mpr ⟨_, Database.decimalColumn_eq_ok_iff.mpr ⟨rfl, hfits'⟩, h⟩⟩

/-- The items of a cart are rewritten soundly, and its totals after them. -/
theorem books_writeCart (hd : ∀ b : Booking, b.Apart → b.Unsold → d.permits b)
    {cartId : Id} {saleItems : Serial SaleItem}
    (hitems : saleItems.All fun _ i => SaleItemSound s i)
    (h : recalculateCart db cartId { s with saleItems } = .ok s') : Books db d s s' := by
  obtain ⟨_, _, h⟩ := recalculateCart_eq_ok_iff.mp h
  obtain ⟨rfl, _⟩ := updateSale_ok h
  refine books_writeSales hd (hitems.imp fun _ i hi => ?_)
  exact saleItemSound_updateSale hi fun _ _ _ => ⟨rfl, rfl, fun h => h, fun h => .inl h⟩

theorem updateSaleItem_ok {id : Id} {f : SaleItem → SaleItem}
    (h : updateSaleItem id f s = .ok s') :
    s' = { s with saleItems := s.saleItems.modify id f } := by
  rw [updateSaleItem] at h
  split at h
  · cases h
  · exact (Except.ok.inj h).symm

theorem createSaleItem_ok {item : SaleItem} (h : createSaleItem item s = .ok s') :
    s' = { s with saleItems := s.saleItems.create item } := by
  rw [createSaleItem] at h
  split at h
  · cases h
  · exact (Except.ok.inj h).symm

theorem deleteSaleItem_ok {id : Id} (h : deleteSaleItem id s = .ok s') :
    s' = { s with saleItems := s.saleItems.deleteWhere fun k _ => k = id } := by
  rw [deleteSaleItem] at h
  split at h
  · cases h
  · exact (Except.ok.inj h).symm

/-- An item of a cart keeps sound under a new positive quantity. -/
theorem saleItemSound_setQuantity {cartId : Id} {cart : Sale} {i i' : SaleItem}
    (hcart : s.sales.find? cartId = some cart) (hdraft : cart.status = .draft)
    (hsale : i.saleId = cartId) (hi : SaleItemSound s i) (hsame : i'.saleId = i.saleId)
    (hproduct : i'.productId = i.productId) (hq : 0 < i'.quantity) : SaleItemSound s i' := by
  obtain ⟨sale, hfind, ht, _⟩ := hi
  obtain rfl := Option.some.inj (hcart.symm.trans (hsale ▸ hfind))
  exact ⟨cart, hsame ▸ hfind, hproduct ▸ ht, hq.le, fun _ => hq, fun h => absurd hdraft h⟩

theorem findExistingItem_eq_some {cartId productId : Id} {r : Id × SaleItem}
    (h : findExistingItem cartId productId s = some r) :
    s.saleItems.find? r.1 = some r.2 ∧ r.2.saleId = cartId :=
  mem_itemsOf (List.mem_of_find?_eq_some h)

/-- What the columns of a line have taken, and the write that followed. -/
theorem lineColumns_ok {x unitPrice discountAmount lineTotal : ℚ} {notes : Option String}
    {write : ℤ → ℚ → ℚ → ℚ → Except HttpError (Unit × Store)}
    (h : (do
      let quantity ← int4Column x
      let unitPrice ← db.decimalColumn 15 unitPrice
      let discountAmount ← db.decimalColumn 15 discountAmount
      let lineTotal ← db.decimalColumn 15 lineTotal
      let _ ← textColumn notes
      write quantity unitPrice discountAmount lineTotal) = .ok ((), s')) :
    ∃ quantity : ℤ, x = quantity ∧ write quantity (db.decimal unitPrice)
      (db.decimal discountAmount) (db.decimal lineTotal) = .ok ((), s') := by
  obtain ⟨quantity, hint, h⟩ := Except.bind_eq_ok_iff.mp h
  obtain ⟨_, hprice, h⟩ := Except.bind_eq_ok_iff.mp h
  obtain ⟨_, hdiscount, h⟩ := Except.bind_eq_ok_iff.mp h
  obtain ⟨_, hline, h⟩ := Except.bind_eq_ok_iff.mp h
  obtain ⟨_, _, h⟩ := Except.bind_eq_ok_iff.mp h
  obtain ⟨rfl, _⟩ := Database.decimalColumn_eq_ok_iff.mp hprice
  obtain ⟨rfl, _⟩ := Database.decimalColumn_eq_ok_iff.mp hdiscount
  obtain ⟨rfl, _⟩ := Database.decimalColumn_eq_ok_iff.mp hline
  exact ⟨quantity, (int4Column_eq_ok_iff.mp hint).1, h⟩

/-- The item that `addItem` puts into a cart. -/
theorem commitAddItem_ok {cartId : Id} {dto : AddCartItemDto} {product : Product}
    {existing : Option (Id × SaleItem)}
    (h : commitAddItem db cartId dto product existing s = .ok ((), s')) :
    (∃ itemId item, ∃ newQty : ℤ, existing = some (itemId, item) ∧
      (item.quantity : ℚ) + dto.quantity = newQty ∧
      recalculateCart db cartId { s with
        saleItems := s.saleItems.modify itemId fun i =>
          { i with
            quantity := newQty
            lineTotal := db.decimal (db.lineTotal item.unitPrice item.discountAmount newQty) } } =
        .ok s') ∨
    (existing = none ∧ ∃ quantity : ℤ, dto.quantity = quantity ∧
      recalculateCart db cartId { s with
        saleItems := s.saleItems.create
          { saleId := cartId
            productId := dto.productId
            quantity
            unitPrice := db.decimal
              (db.amount (dto.unitPrice.getD (product.minSellingPrice.getD 0)))
            unitCost := 0
            discountAmount := db.decimal (db.amount (dto.discountAmount.getD 0))
            lineTotal := db.decimal
              (db.lineTotal (dto.unitPrice.getD (product.minSellingPrice.getD 0))
                (dto.discountAmount.getD 0) dto.quantity) } } = .ok s') := by
  simp only [commitAddItem] at h
  split at h
  · next itemId item =>
    obtain ⟨newQty, hint, h⟩ := Except.bind_eq_ok_iff.mp h
    obtain ⟨lineTotal, hline, h⟩ := Except.bind_eq_ok_iff.mp h
    obtain ⟨s₁, hwrite, h⟩ := Except.bind_eq_ok_iff.mp h
    obtain ⟨s₂, hrecalc, h⟩ := Except.bind_eq_ok_iff.mp h
    obtain rfl : s₂ = s' := congrArg Prod.snd (Except.ok.inj h)
    obtain rfl := updateSaleItem_ok hwrite
    obtain ⟨hsum, _⟩ := int4Column_eq_ok_iff.mp hint
    obtain ⟨rfl, _⟩ := Database.decimalColumn_eq_ok_iff.mp hline
    rw [hsum] at hrecalc
    exact .inl ⟨itemId, item, newQty, rfl, hsum, hrecalc⟩
  · obtain ⟨quantity, hquantity, h⟩ := lineColumns_ok h
    obtain ⟨s₁, hwrite, h⟩ := Except.bind_eq_ok_iff.mp h
    obtain ⟨s₂, hrecalc, h⟩ := Except.bind_eq_ok_iff.mp h
    obtain rfl : s₂ = s' := congrArg Prod.snd (Except.ok.inj h)
    obtain rfl := createSaleItem_ok hwrite
    exact .inr ⟨rfl, quantity, hquantity, hrecalc⟩

/-- The item that `updateItem` rewrites. -/
theorem commitUpdateItem_ok {cartId itemId : Id} {dto : UpdateCartItemDto} {item : SaleItem}
    (h : commitUpdateItem db cartId itemId dto item s = .ok ((), s')) :
    ∃ quantity : ℤ, dto.quantity = quantity ∧
      recalculateCart db cartId { s with
        saleItems := s.saleItems.modify itemId fun i =>
          { i with
            quantity
            unitPrice := db.decimal (db.amount (dto.unitPrice.getD item.unitPrice))
            discountAmount := db.decimal (db.amount (dto.discountAmount.getD item.discountAmount))
            lineTotal := db.decimal (db.lineTotal (dto.unitPrice.getD item.unitPrice)
              (dto.discountAmount.getD item.discountAmount) dto.quantity) } } = .ok s' := by
  obtain ⟨quantity, hquantity, h⟩ := lineColumns_ok h
  obtain ⟨s₁, hwrite, h⟩ := Except.bind_eq_ok_iff.mp h
  obtain ⟨s₂, hrecalc, h⟩ := Except.bind_eq_ok_iff.mp h
  obtain rfl : s₂ = s' := congrArg Prod.snd (Except.ok.inj h)
  obtain rfl := updateSaleItem_ok hwrite
  exact ⟨quantity, hquantity, hrecalc⟩

/-- The item that `removeItem` deletes. -/
theorem commitRemoveItem_ok {cartId itemId : Id}
    (h : commitRemoveItem db cartId itemId s = .ok ((), s')) :
    recalculateCart db cartId
      { s with saleItems := s.saleItems.deleteWhere fun k _ => k = itemId } = .ok s' := by
  obtain ⟨s₁, hdelete, h⟩ := Except.bind_eq_ok_iff.mp h
  obtain ⟨s₂, hrecalc, h⟩ := Except.bind_eq_ok_iff.mp h
  obtain rfl : s₂ = s' := congrArg Prod.snd (Except.ok.inj h)
  obtain rfl := deleteSaleItem_ok hdelete
  exact hrecalc

theorem books_commitAddItem (hd : ∀ b : Booking, b.Apart → b.Unsold → d.permits b)
    (hs : WellFormed s) {cartId : Id} {cart : Sale} {dto : AddCartItemDto}
    {product : Product} (hcart : s.sales.find? cartId = some cart) (hdraft : cart.status = .draft)
    (ht : s.tenantOf dto.productId = some cart.tenantId) (hq : 0 < dto.quantity)
    (h : commitAddItem db cartId dto product (findExistingItem cartId dto.productId s) s =
      .ok ((), s')) : Books db d s s' := by
  obtain ⟨itemId, item, newQty, hexisting, hsum, hrecalc⟩ | ⟨_, quantity, hquantity, hrecalc⟩ :=
    commitAddItem_ok h
  · obtain ⟨hitem, hsale⟩ := findExistingItem_eq_some hexisting
    have hnew : 0 < newQty := by
      obtain ⟨_, _, _, hnonneg, _⟩ := hs.saleItems itemId item hitem
      have hcast : (0 : ℚ) ≤ item.quantity := by exact_mod_cast hnonneg
      exact_mod_cast (show (0 : ℚ) < newQty by rw [← hsum]; exact add_pos_of_nonneg_of_pos hcast hq)
    refine books_writeCart hd (hs.saleItems.modify fun i hi hsound => ?_) hrecalc
    obtain rfl := Option.some.inj (hitem.symm.trans hi)
    exact saleItemSound_setQuantity hcart hdraft hsale hsound rfl rfl hnew
  · have hnew : 0 < quantity := by
      exact_mod_cast (show (0 : ℚ) < quantity from hquantity ▸ hq)
    refine books_writeCart hd (Serial.All_create hs.saleItems ?_) hrecalc
    exact ⟨cart, hcart, ht, hnew.le, fun _ => hnew, fun h => absurd hdraft h⟩

theorem createReservation_ok {dto : ReservationService.CreateReservationDto} {id : Id}
    (h : ReservationService.create clock tenantId dto s = .ok (id, s')) :
    ∃ quantity : ℤ, id = s.reservations.next ∧
      s' = ReservationService.reserve
        (ReservationService.newReservation tenantId dto quantity) s := by
  obtain ⟨_, _, h⟩ := Except.bind_eq_ok_iff.mp h
  exact commitCreate_ok h

theorem readAddItem_ok {cartId : Id} {dto : AddCartItemDto} {cart : Sale} {product : Product}
    (h : readAddItem tenantId cartId dto s = .ok (cart, product)) :
    (s.sales.find? cartId = some cart ∧ cart.tenantId = tenantId ∧ cart.status = .draft) ∧
      s.tenantOf dto.productId = some tenantId := by
  obtain ⟨cart', hcart, h⟩ := Except.bind_eq_ok_iff.mp h
  split at h
  · cases h
  · next product' hproduct =>
    obtain ⟨rfl, rfl⟩ := Prod.mk.inj (Except.ok.inj h)
    refine ⟨getCartOrThrow_ok hcart, ?_⟩
    obtain ⟨hfind, hp⟩ := Option.mem_filter_iff.mp
      (show product' ∈ loadedProduct tenantId dto.productId s from hproduct)
    rw [Store.tenantOf, hfind, Option.map_some, of_decide_eq_true hp]

theorem readAddItem_product {cartId : Id} {dto : AddCartItemDto} {cart : Sale} {product : Product}
    (h : readAddItem tenantId cartId dto s = .ok (cart, product)) :
    loadedProduct tenantId dto.productId s = some product := by
  obtain ⟨cart', hcart, h⟩ := Except.bind_eq_ok_iff.mp h
  split at h
  · cases h
  · next product' hproduct =>
    obtain ⟨rfl, rfl⟩ := Prod.mk.inj (Except.ok.inj h)
    exact hproduct

/-- An item is refused, or written after stock is reserved for it. -/
theorem addItem_cases {P : Except HttpError Unit × Store → Prop} {cartId : Id}
    {dto : AddCartItemDto} (hrefused : ∀ e, P (.error e, s))
    (hreserved : ∀ cart product id s₁, readAddItem tenantId cartId dto s = .ok (cart, product) →
      ReservationService.create clock tenantId
        (cartReservation clock cartId cart.locationId dto.productId dto.quantity) s =
          .ok (id, s₁) →
      P (transaction (commitAddItem db cartId dto product
        (findExistingItem cartId dto.productId s₁)) s₁)) :
    P (addItem db clock tenantId cartId dto s) := by
  rw [addItem]
  cases hread : readAddItem tenantId cartId dto s with
  | error e => exact hrefused e
  | ok x =>
    obtain ⟨cart, product⟩ := x
    dsimp only
    cases hcreate : ReservationService.create clock tenantId
        (cartReservation clock cartId cart.locationId dto.productId dto.quantity) s with
    | error e =>
      rw [transaction_of_error hcreate]
      exact hrefused e
    | ok y =>
      obtain ⟨id, s₁⟩ := y
      rw [transaction_of_ok hcreate]
      exact hreserved cart product id s₁ hread hcreate

theorem books_addItem (hd : ∀ b : Booking, b.Apart → b.Unsold → d.permits b)
    (hs : WellFormed s) {cartId : Id} {dto : AddCartItemDto}
    (hq : 0 < dto.quantity) : Books db d s (addItem db clock tenantId cartId dto s).2 := by
  refine addItem_cases (P := fun x => Books db d s x.2) (fun _ => Books.refl s) ?_
  intro cart product id s₁ hread hcreate
  obtain ⟨⟨hcart, ht, hdraft⟩, htenant⟩ := readAddItem_ok hread
  have hreserve : Books db d s s₁ := books_createReservation hcreate
  obtain ⟨hs₁, hext⟩ := hreserve.keeps hs
  have hcart₁ : s₁.sales.find? cartId = some cart := by
    obtain ⟨_, _, rfl⟩ := createReservation_ok hcreate
    exact hcart
  refine hreserve.trans (books_transaction fun _ s' h => ?_)
  refine books_commitAddItem hd hs₁ hcart₁ hdraft ?_ hq h
  rw [hext.tenantOf, ht]
  exact htenant

/-- Releases write no sales. -/
theorem release_sales {id : Id} (h : ReservationService.release tenantId id s = .ok ((), s')) :
    s'.sales = s.sales ∧ s'.saleItems = s.saleItems := by
  obtain ⟨r, _, h⟩ := Except.bind_eq_ok_iff.mp h
  obtain ⟨rfl, _⟩ := close_ok .exact h
  exact ⟨rfl, rfl⟩

/-- What each release keeps, a loop of releases keeps. -/
theorem releaseEach_preserves {I : Store → Prop} (hs : I s)
    (hrelease : ∀ id s s', I s → ReservationService.release tenantId id s = .ok ((), s') → I s')
    (ids : List Id) : I (releaseEach tenantId ids s).2 := by
  induction ids generalizing s with
  | nil => exact hs
  | cons id rest ih =>
    rw [releaseEach]
    cases hid : ReservationService.release tenantId id s with
    | error e =>
      rw [transaction_of_error hid]
      exact hs
    | ok x =>
      obtain ⟨⟨⟩, s₁⟩ := x
      rw [transaction_of_ok hid]
      exact ih (hrelease id s s₁ hs hid)

theorem books_releaseEach (hs : WellFormed s) (ids : List Id) :
    Books db d s (releaseEach tenantId ids s).2 ∧
      (releaseEach tenantId ids s).2.sales = s.sales ∧
      (releaseEach tenantId ids s).2.saleItems = s.saleItems := by
  refine releaseEach_preserves
    (I := fun s' => Books db d s s' ∧ s'.sales = s.sales ∧ s'.saleItems = s.saleItems)
    ⟨Books.refl s, rfl, rfl⟩ ?_ ids
  rintro id s₁ s₂ ⟨hbooks, hsales, hitems⟩ hrelease
  obtain ⟨hsales₂, hitems₂⟩ := release_sales hrelease
  refine ⟨hbooks.trans ?_, hsales₂.trans hsales, hitems₂.trans hitems⟩
  exact books_release (hbooks.keeps hs).1 hrelease

theorem findItem_ok {cartId itemId : Id} {message : String} {item : SaleItem}
    (h : findItem cartId itemId message s = .ok item) :
    s.saleItems.find? itemId = some item ∧ item.saleId = cartId := by
  rw [findItem] at h
  cases hfind : s.saleItems.find? itemId with
  | none => simp [hfind] at h
  | some item' =>
    simp only [hfind] at h
    split at h
    · next hsale =>
      obtain rfl := Except.ok.inj h
      exact ⟨rfl, hsale⟩
    · cases h

theorem readUpdateItem_ok {cartId itemId : Id} {cart : Sale} {item : SaleItem}
    (h : readUpdateItem tenantId cartId itemId s = .ok (cart, item)) :
    s.saleItems.find? itemId = some item ∧ item.saleId = cartId ∧
      s.sales.find? cartId = some cart ∧ cart.tenantId = tenantId ∧ cart.status = .draft := by
  obtain ⟨cart', hcart, h⟩ := Except.bind_eq_ok_iff.mp h
  obtain ⟨item', hitem, h⟩ := Except.bind_eq_ok_iff.mp h
  obtain ⟨rfl, rfl⟩ := Prod.mk.inj (Except.ok.inj h)
  obtain ⟨hitem, hsale⟩ := findItem_ok hitem
  exact ⟨hitem, hsale, getCartOrThrow_ok hcart⟩

theorem readRemoveItem_ok {cartId itemId : Id} {item : SaleItem}
    (h : readRemoveItem tenantId cartId itemId s = .ok item) :
    s.saleItems.find? itemId = some item ∧ item.saleId = cartId ∧
      ∃ cart, s.sales.find? cartId = some cart ∧ cart.tenantId = tenantId ∧
        cart.status = .draft := by
  obtain ⟨cart, hcart, hitem⟩ := Except.bind_eq_ok_iff.mp h
  obtain ⟨hitem, hsale⟩ := findItem_ok hitem
  exact ⟨hitem, hsale, cart, getCartOrThrow_ok hcart⟩

/-- A new quantity is refused, or is refused once the reservations are given back, or is written
after as much is reserved again. -/
theorem updateItem_cases {P : Except HttpError Unit × Store → Prop} {cartId itemId : Id}
    {dto : UpdateCartItemDto} (hrefused : ∀ e, P (.error e, s))
    (hreleased : ∀ cart item e, readUpdateItem tenantId cartId itemId s = .ok (cart, item) →
      P (.error e, (releaseReservations tenantId cartId item.productId s).2))
    (hreserved : ∀ cart item id s₁ s₂, readUpdateItem tenantId cartId itemId s = .ok (cart, item) →
      releaseReservations tenantId cartId item.productId s = (.ok (), s₁) →
      ReservationService.create clock tenantId
        (cartReservation clock cartId cart.locationId item.productId dto.quantity) s₁ =
          .ok (id, s₂) →
      P (transaction (commitUpdateItem db cartId itemId dto item) s₂)) :
    P (updateItem db clock tenantId cartId itemId dto s) := by
  rw [updateItem]
  cases hread : readUpdateItem tenantId cartId itemId s with
  | error e => exact hrefused e
  | ok x =>
    obtain ⟨cart, item⟩ := x
    have hreleased := fun e => hreleased cart item e hread
    dsimp only
    cases heach : releaseReservations tenantId cartId item.productId s with
    | mk answer s₁ =>
      rw [heach] at hreleased
      cases answer with
      | error e => exact hreleased e
      | ok u =>
        dsimp only
        cases hcreate : ReservationService.create clock tenantId
            (cartReservation clock cartId cart.locationId item.productId dto.quantity) s₁ with
        | error e =>
          rw [transaction_of_error hcreate]
          exact hreleased e
        | ok y =>
          obtain ⟨id, s₂⟩ := y
          rw [transaction_of_ok hcreate]
          exact hreserved cart item id s₁ s₂ hread heach hcreate

/-- A removal is refused, or is refused once a reservation is not given back, or the item goes
after its reservations. -/
theorem removeItem_cases {P : Except HttpError Unit × Store → Prop} {cartId itemId : Id}
    (hrefused : ∀ e, P (.error e, s))
    (hreleased : ∀ item e, readRemoveItem tenantId cartId itemId s = .ok item →
      P (.error e, (releaseReservations tenantId cartId item.productId s).2))
    (hremoved : ∀ item s₁, readRemoveItem tenantId cartId itemId s = .ok item →
      releaseReservations tenantId cartId item.productId s = (.ok (), s₁) →
      P (transaction (commitRemoveItem db cartId itemId) s₁)) :
    P (removeItem db tenantId cartId itemId s) := by
  rw [removeItem]
  cases hread : readRemoveItem tenantId cartId itemId s with
  | error e => exact hrefused e
  | ok item =>
    have hreleased := fun e => hreleased item e hread
    dsimp only
    cases heach : releaseReservations tenantId cartId item.productId s with
    | mk answer s₁ =>
      rw [heach] at hreleased
      cases answer with
      | error e => exact hreleased e
      | ok u => exact hremoved item s₁ hread heach

theorem books_commitUpdateItem (hd : ∀ b : Booking, b.Apart → b.Unsold → d.permits b)
    (hs : WellFormed s) {cartId itemId : Id} {cart : Sale}
    {item : SaleItem} {dto : UpdateCartItemDto} (hcart : s.sales.find? cartId = some cart)
    (hdraft : cart.status = .draft) (hitem : s.saleItems.find? itemId = some item)
    (hsale : item.saleId = cartId) (hq : 0 < dto.quantity)
    (h : commitUpdateItem db cartId itemId dto item s = .ok ((), s')) : Books db d s s' := by
  obtain ⟨quantity, hquantity, hrecalc⟩ := commitUpdateItem_ok h
  have hnew : 0 < quantity := by
    exact_mod_cast (show (0 : ℚ) < quantity from hquantity ▸ hq)
  refine books_writeCart hd (hs.saleItems.modify fun i hi hsound => ?_) hrecalc
  obtain rfl := Option.some.inj (hitem.symm.trans hi)
  exact saleItemSound_setQuantity hcart hdraft hsale hsound rfl rfl hnew

theorem books_updateItem (hd : ∀ b : Booking, b.Apart → b.Unsold → d.permits b)
    (hs : WellFormed s) {cartId itemId : Id} {dto : UpdateCartItemDto}
    (hq : 0 < dto.quantity) :
    Books db d s (updateItem db clock tenantId cartId itemId dto s).2 := by
  refine updateItem_cases (P := fun x => Books db d s x.2) (fun _ => Books.refl s) ?_ ?_
  · intro cart item e _
    exact (books_releaseEach hs _).1
  · intro cart item id s₁ s₂ hread heach hcreate
    obtain ⟨hitem, hsale, hcart, _, hdraft⟩ := readUpdateItem_ok hread
    obtain ⟨hrelease, hsales, hitems⟩ := books_releaseEach (d := d) hs
      (cartReservations tenantId cartId item.productId s)
    rw [show releaseEach tenantId _ s = (.ok (), s₁) from heach] at hrelease hsales hitems
    have hreserve : Books db d s s₂ := hrelease.trans (books_createReservation hcreate)
    obtain ⟨_, _, rfl⟩ := createReservation_ok hcreate
    refine hreserve.trans (books_transaction fun _ s' h => ?_)
    exact books_commitUpdateItem hd (hreserve.keeps hs).1 (hsales ▸ hcart) hdraft
      (hitems ▸ hitem) hsale hq h

theorem books_removeItem (hd : ∀ b : Booking, b.Apart → b.Unsold → d.permits b)
    (hs : WellFormed s) {cartId itemId : Id} :
    Books db d s (removeItem db tenantId cartId itemId s).2 := by
  refine removeItem_cases (P := fun x => Books db d s x.2) (fun _ => Books.refl s) ?_ ?_
  · intro item e _
    exact (books_releaseEach hs _).1
  · intro item s₁ _ heach
    have hrelease : Books db d s (releaseReservations tenantId cartId item.productId s).2 :=
      (books_releaseEach hs _).1
    rw [heach] at hrelease
    refine hrelease.trans (books_transaction fun _ s' h => ?_)
    exact books_writeCart hd ((hrelease.keeps hs).1.saleItems.deleteWhere _) (commitRemoveItem_ok h)

end Invetrixa
