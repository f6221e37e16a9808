import Invetrixa.Refinement.Books

/-!
# Stock requests as bookings

Receipts, removals, adjustments and transfers: what their accepted checks say about the store,
and the bookings they make.

## Main results

- `books_stockIn`, `books_stockOut`, `books_adjust`
- `books_createTransfer`, `books_ship`, `books_receiveTransfer`, `books_cancelTransfer`
-/

namespace Invetrixa

open Rowstore Requests StockValidationService MovementService TransferService

variable {db : Database} {d : Discipline} {clock : Clock} {tenantId : Id} {s s' : Store}

/-- A receipt of a product of the tenant. -/
theorem books_receipt {m : StockMovement} (batchId : Option Id) (hin : m.movementType = .in)
    (hq : 0 ≤ m.quantity) (ht : s.tenantOf m.productId = some m.tenantId)
    (hpermits : d.permits (.receipt clock m batchId)) :
    Books db d s (recordReceipt db clock m batchId s) :=
  Books.single (b := .receipt clock m batchId)
    ⟨⟨hin, hq, ht⟩, fun _ => trivial, fun _ => trivial, hpermits⟩

theorem validateStockIn_ok {locationId : Id} {productIds : List Id}
    (h : validateStockIn tenantId locationId productIds s = .ok ()) :
    ∀ i ∈ productIds, s.tenantOf i = some tenantId := by
  intro i hi
  obtain ⟨_, hproducts, _⟩ := Except.bind_eq_ok_iff.mp h
  exact validateProducts_tenantOf hproducts hi

theorem tenantOf_executeStockIn (dto : BulkStockInDto) :
    (executeStockIn db clock tenantId dto s).2.tenantOf = s.tenantOf := by
  rw [executeStockIn_eq]
  refine Loops.view_foldl Store.tenantOf (fun s item _ => ?_) s
  rfl

theorem books_executeStockIn (hs : WellFormed s) {dto : BulkStockInDto}
    (hq : ∀ item ∈ dto.items, 0 ≤ item.quantity)
    (ht : ∀ item ∈ dto.items, s.tenantOf item.productId = some tenantId) :
    Books db d s (executeStockIn db clock tenantId dto s).2 := by
  rw [executeStockIn_eq]
  refine Books.foldl hs fun item hitem s' _ hext => ?_
  refine books_receipt item.batchId rfl (hq item hitem) ?_ (d.permits_plain _ rfl)
  rw [hext.tenantOf]
  exact ht item hitem

theorem books_stockIn (hs : WellFormed s) {dto : BulkStockInDto} {r : BulkStockInResponse}
    (hq : ∀ item ∈ dto.items, 0 ≤ item.quantity)
    (h : stockIn db clock tenantId dto s = .ok (r, s')) : Books db d s s' := by
  obtain ⟨hvalid, rfl⟩ := stockIn_ok h
  refine books_executeStockIn hs hq fun item hitem => ?_
  exact validateStockIn_ok hvalid _ (List.mem_map_of_mem hitem)

/-- A positive available quantity is that of a stocked product. -/
theorem stocked_of_available {productId locationId : Id}
    (ht : s.tenantOf productId = some tenantId)
    (h : 0 < s.available tenantId productId locationId) :
    s.Stocked tenantId productId locationId := by
  obtain ⟨b, hb, _⟩ := exists_balance_of_available_pos h
  exact ⟨ht, by rw [Store.HasBalance, hb]; rfl⟩

/-- A removal is booked for a sale if its reference is one. -/
def BulkStockOutDto.ForSale (dto : BulkStockOutDto) : Prop :=
  dto.referenceType.getD .sale = .sale ∧ ∃ saleId, dto.referenceId = some (.id saleId)

/-- The lines of a removal. -/
def BulkStockOutDto.lines (dto : BulkStockOutDto) : List Line :=
  dto.items.map fun item => ⟨item.1, dto.locationId, -item.2⟩

theorem books_executeStockOut (hs : WellFormed s) {dto : BulkStockOutDto}
    (hq : ∀ item ∈ dto.items, 0 ≤ item.2)
    (hstocked : ∀ item ∈ dto.items, s.Stocked tenantId item.1 dto.locationId)
    (hpermits : ∀ item, d.permits (.issue (releasedIssue tenantId dto item)))
    (hcovered : d.covered → LinesCovered s.onHand (BulkStockOutDto.lines dto)) :
    Books db d s (executeStockOut db tenantId dto s).2 := by
  rw [executeStockOut_eq]
  exact books_lines (fun item => .issue (releasedIssue tenantId dto item))
    (fun item => ⟨item.1, dto.locationId, -item.2⟩) hs (fun _ _ => rfl) (fun _ _ _ h => h)
    (fun item hitem => ⟨hq item hitem, hstocked item hitem⟩)
    (fun item _ => hpermits item) hcovered

/-- What accepted removals have made sure of: the products are the tenant's, and each line
alone is covered by the available quantity. -/
theorem validateStockOut_ok {dto : BulkStockOutDto}
    (h : validateStockOut tenantId dto s = .ok ()) :
    (∀ item ∈ dto.items, s.tenantOf item.1 = some tenantId) ∧
      ∀ item ∈ dto.items, item.2 ≤ s.available tenantId item.1 dto.locationId := by
  obtain ⟨_, hproducts, h⟩ := Except.bind_eq_ok_iff.mp h
  obtain ⟨_, _, h⟩ := Except.bind_eq_ok_iff.mp h
  exact ⟨fun item hitem => validateProducts_tenantOf hproducts (List.mem_map_of_mem hitem),
    validateStockAvailability_ok_iff.mp h⟩

theorem books_stockOut (hs : WellFormed s) {dto : BulkStockOutDto} {r : BulkStockOutResponse}
    (hq : ∀ item ∈ dto.items, 0 < item.2) (h : stockOut db tenantId dto s s = .ok (r, s'))
    (hsale : BulkStockOutDto.ForSale dto → ∀ b : Booking, b.Apart → d.permits b)
    (hcovered : d.covered → LinesCovered s.onHand (BulkStockOutDto.lines dto)) :
    Books db d s s' := by
  obtain ⟨_, hvalid, h⟩ := Except.bind_eq_ok_iff.mp h
  obtain rfl : (executeStockOut db tenantId dto s).2 = s' :=
    congrArg Prod.snd (Except.ok.inj h)
  obtain ⟨htenant, havail⟩ := validateStockOut_ok hvalid
  refine books_executeStockOut hs (fun item hitem => (hq item hitem).le) (fun item hitem => ?_)
    (fun item => ?_) hcovered
  · exact stocked_of_available (htenant item hitem)
      (lt_of_lt_of_le (hq item hitem) (havail item hitem))
  · by_cases hsold : BulkStockOutDto.ForSale dto
    · exact hsale hsold _ trivial
    · exact d.permits_plain _ hsold

/-- The lines of an adjustment. -/
def BulkStockAdjustDto.lines (dto : BulkStockAdjustDto) : List Line :=
  dto.items.map fun item => ⟨item.productId, dto.locationId, item.quantity⟩

/-- The booking of one adjusted item. -/
def adjustBooking (clock : Clock) (tenantId locationId : Id) (item : BulkStockAdjustItemDto) :
    Booking :=
  if 0 < item.quantity then .receipt clock (foundMovement tenantId locationId item) none
  else .issue (lostIssue tenantId locationId item)

theorem adjustLine_eq (clock : Clock) (tenantId locationId : Id) (s : Store)
    (item : BulkStockAdjustItemDto) :
    adjustLine db clock tenantId locationId s item =
      book db (adjustBooking clock tenantId locationId item) s := by
  rw [adjustLine, adjustBooking]
  split <;> rfl

/-- What accepted adjustments have made sure of. -/
theorem validateAdjust_ok {dto : BulkStockAdjustDto}
    (h : validateAdjust tenantId dto s = .ok ()) :
    (∀ item ∈ dto.items, s.tenantOf item.productId = some tenantId) ∧
      ∀ item ∈ dto.items, item.quantity < 0 →
        -item.quantity ≤ s.available tenantId item.productId dto.locationId := by
  obtain ⟨_, hproducts, h⟩ := Except.bind_eq_ok_iff.mp h
  obtain ⟨_, _, h⟩ := Except.bind_eq_ok_iff.mp h
  refine ⟨fun item hitem => validateProducts_tenantOf hproducts (List.mem_map_of_mem hitem),
    fun item hitem hneg => ?_⟩
  have hmem : (item.productId, |item.quantity|) ∈ negativeItems dto :=
    List.mem_map.mpr ⟨item, List.mem_filter.mpr ⟨hitem, by simpa using hneg⟩, rfl⟩
  rw [if_pos (List.length_pos_of_mem hmem)] at h
  have havail := validateStockAvailability_ok_iff.mp h _ hmem
  rwa [abs_of_neg hneg] at havail

theorem books_executeAdjust (hs : WellFormed s) {dto : BulkStockAdjustDto}
    (htenant : ∀ item ∈ dto.items, s.tenantOf item.productId = some tenantId)
    (hstocked : ∀ item ∈ dto.items, ¬0 < item.quantity →
      s.Stocked tenantId item.productId dto.locationId)
    (hcovered : d.covered → LinesCovered s.onHand (BulkStockAdjustDto.lines dto)) :
    Books db d s (executeAdjust db clock tenantId dto s).2 := by
  have hloop : adjustLine db clock tenantId dto.locationId = fun s item =>
      book db (adjustBooking clock tenantId dto.locationId item) s :=
    funext₂ (adjustLine_eq clock tenantId dto.locationId)
  rw [executeAdjust_eq, hloop]
  refine books_lines _ (fun item => ⟨item.productId, dto.locationId, item.quantity⟩) hs
    (fun item _ => ?_) (fun item _ onHand h => ?_) (fun item hitem => ?_) (fun item _ => ?_)
    hcovered
  · rw [adjustBooking]
    split
    · next hpos => simp [Booking.line, foundMovement, abs_of_pos hpos]
    · next hneg => simp [Booking.line, lostIssue, abs_of_nonpos (not_lt.mp hneg)]
  · rw [adjustBooking]
    split
    · trivial
    · next hneg => simpa [Booking.Covered, lostIssue, abs_of_nonpos (not_lt.mp hneg)] using h
  · rw [adjustBooking]
    split
    · exact ⟨rfl, abs_nonneg _, htenant item hitem⟩
    · next hneg => exact ⟨abs_nonneg _, hstocked item hitem hneg⟩
  · apply d.permits_plain
    rw [adjustBooking]
    split
    · exact rfl
    · rintro ⟨hsale, _⟩
      cases hsale

theorem books_adjust (hs : WellFormed s) {dto : BulkStockAdjustDto} {r : BulkStockAdjustResponse}
    (hq : ∀ item ∈ dto.items, item.quantity ≠ 0)
    (h : adjust db clock tenantId dto s = .ok (r, s'))
    (hcovered : d.covered → LinesCovered s.onHand (BulkStockAdjustDto.lines dto)) :
    Books db d s s' := by
  obtain ⟨_, hvalid, h⟩ := Except.bind_eq_ok_iff.mp h
  obtain rfl : (executeAdjust db clock tenantId dto s).2 = s' :=
    congrArg Prod.snd (Except.ok.inj h)
  obtain ⟨htenant, havail⟩ := validateAdjust_ok hvalid
  refine books_executeAdjust hs htenant (fun item hitem hpos => ?_) hcovered
  have hneg : item.quantity < 0 := lt_of_le_of_ne (not_lt.mp hpos) (hq item hitem)
  exact stocked_of_available (htenant item hitem)
    (lt_of_lt_of_le (neg_pos.mpr hneg) (havail item hitem hneg))

theorem findTransfer_ok {id : Id} {t : StockTransfer} (h : findTransfer tenantId id s = .ok t) :
    s.transfers.find? id = some t ∧ t.tenantId = tenantId := by
  rw [findTransfer] at h
  cases hfind : s.transfers.find? id with
  | none => simp [hfind] at h
  | some t' =>
    simp only [hfind] at h
    split at h
    · next ht =>
      obtain rfl := Except.ok.inj h
      exact ⟨rfl, ht⟩
    · cases h

theorem readShip_ok {id : Id} {t : StockTransfer} (h : readShip tenantId id s = .ok t) :
    s.transfers.find? id = some t ∧ t.tenantId = tenantId ∧ t.status = .draft ∧
      ∀ i ∈ t.items, i.requestedQuantity ≤ s.available tenantId i.productId t.fromLocationId := by
  obtain ⟨t', hfind, h⟩ := Except.bind_eq_ok_iff.mp h
  by_cases hstatus : t'.status = .draft
  · rw [if_neg (not_not.mpr hstatus)] at h
    obtain ⟨_, havail, h⟩ := Except.bind_eq_ok_iff.mp h
    obtain rfl := Except.ok.inj h
    obtain ⟨hfind, ht⟩ := findTransfer_ok hfind
    exact ⟨hfind, ht, hstatus, fun i hi =>
      validateStockAvailability_ok_iff.mp havail _ (List.mem_map_of_mem hi)⟩
  · rw [if_pos hstatus] at h
    cases h

theorem readReceive_ok {id : Id} {items : List ReceiveItemDto} {t : StockTransfer}
    (h : readReceive tenantId id items s = .ok t) :
    s.transfers.find? id = some t ∧ t.tenantId = tenantId ∧ t.status = .inTransit ∧
      ∀ i ∈ t.items, validateReceived s items i = .ok () := by
  obtain ⟨t', hfind, h⟩ := Except.bind_eq_ok_iff.mp h
  by_cases hstatus : t'.status = .inTransit
  · rw [if_neg (not_not.mpr hstatus)] at h
    obtain ⟨_, hvalid, h⟩ := Except.bind_eq_ok_iff.mp h
    obtain rfl := Except.ok.inj h
    obtain ⟨hfind, ht⟩ := findTransfer_ok hfind
    exact ⟨hfind, ht, hstatus, forM_eq_ok_iff.mp hvalid⟩
  · rw [if_pos hstatus] at h
    cases h

theorem readCancel_ok {id : Id} {t : StockTransfer} (h : readCancel tenantId id s = .ok t) :
    s.transfers.find? id = some t ∧ t.tenantId = tenantId ∧
      (t.status = .draft ∨ t.status = .inTransit) := by
  obtain ⟨t', hfind, h⟩ := Except.bind_eq_ok_iff.mp h
  split at h
  · cases h
  · split at h
    · cases h
    · next hcompleted hcancelled =>
      obtain rfl := Except.ok.inj h
      obtain ⟨hfind, ht⟩ := findTransfer_ok hfind
      refine ⟨hfind, ht, ?_⟩
      cases hst : t'.status with
      | draft => exact .inl rfl
      | inTransit => exact .inr rfl
      | completed => exact absurd hst hcompleted
      | cancelled => exact absurd hst hcancelled

/-- A transfer row is rewritten without touching its items. -/
theorem books_updateTransfer (hd : ∀ b : Booking, b.OfTransfer → d.permits b)
    (hs : WellFormed s) {id : Id}
    {f : StockTransfer → StockTransfer}
    (hf : ∀ t, TransferSound s t → TransferSound s (f t)) :
    Books db d s (updateTransfer id f s) :=
  Books.single (b := .updateTransfer id f)
    ⟨fun t ht => hf t (hs.transfers id t ht), fun _ => trivial, fun _ => trivial, hd _ trivial⟩

/-- The lines of a shipment. -/
def StockTransfer.lines (t : StockTransfer) : List Line :=
  t.items.map fun i => ⟨i.productId, t.fromLocationId, -i.requestedQuantity⟩

theorem books_commitShip (hd : ∀ b : Booking, b.OfTransfer ∨ b.ShipsItem → d.permits b)
    (hs : WellFormed s) {id : Id} {t : StockTransfer}
    (hq : ∀ i ∈ t.items, 0 ≤ i.requestedQuantity)
    (hstocked : ∀ i ∈ t.items, s.Stocked tenantId i.productId t.fromLocationId)
    (hcovered : d.covered → LinesCovered s.onHand t.lines) :
    Books db d s (commitShip db clock tenantId id t s) := by
  have hmark : Books db d s (updateTransfer id (fun t =>
      { t with status := .inTransit, shippedAt := some clock.time }) s) :=
    books_updateTransfer (fun b hb => hd b (.inl hb)) hs fun _ ht => ht
  refine hmark.trans (books_lines (fun i => .shipItem tenantId id t i)
    (fun i => ⟨i.productId, t.fromLocationId, -i.requestedQuantity⟩) (hmark.keeps hs).1
    (fun _ _ => rfl) (fun _ _ _ h => h) (fun i hi => ?_) (fun _ _ => hd _ (.inr trivial))
    hcovered)
  exact ⟨hq i hi, hstocked i hi⟩

theorem books_ship (hd : ∀ b : Booking, b.OfTransfer ∨ b.ShipsItem → d.permits b)
    (hs : WellFormed s) {id : Id} {r : String}
    (h : ship db clock tenantId id s = .ok (r, s'))
    (hcovered : ∀ t, s.transfers.find? id = some t → d.covered → LinesCovered s.onHand t.lines) :
    Books db d s s' := by
  obtain ⟨t, hread, rfl⟩ := ship_eq_ok h
  obtain ⟨hfind, ht, _, havail⟩ := readShip_ok hread
  have hsound := hs.transfers id t hfind
  refine books_commitShip hd hs (fun i hi => (hsound i hi).2.1.le) (fun i hi => ?_)
    (hcovered t hfind)
  exact stocked_of_available (ht ▸ (hsound i hi).1)
    (lt_of_lt_of_le (hsound i hi).2.1 (havail i hi))

theorem createDraft_ok {dto : CreateTransferDto} {r : Id × String}
    (h : createDraft clock tenantId dto s = .ok (r, s')) :
    (∀ item ∈ dto.items, s.tenantOf item.productId = some tenantId) ∧
      r.1 = s.transfers.next ∧
      ∃ t : StockTransfer, s' = { s with transfers := s.transfers.create t } ∧
        t.tenantId = tenantId ∧ (t.status = .draft ∧ t.shippedAt = none) ∧
        t.fromLocationId = dto.fromLocationId ∧ t.items = dto.items.map newItem := by
  rw [createDraft] at h
  split at h
  · cases h
  · obtain ⟨_, _, h⟩ := Except.bind_eq_ok_iff.mp h
    obtain ⟨_, hproducts, h⟩ := Except.bind_eq_ok_iff.mp h
    obtain ⟨⟨id, s₁⟩, hinsert, h⟩ := Except.bind_eq_ok_iff.mp h
    obtain ⟨rfl, rfl⟩ := Prod.mk.inj (Except.ok.inj h)
    rw [insertTransfer] at hinsert
    obtain ⟨_, hinsert⟩ := Except.ite_error_eq_ok_iff.mp hinsert
    obtain ⟨_, hinsert⟩ := Except.ite_error_eq_ok_iff.mp hinsert
    obtain ⟨_, hinsert⟩ := Except.ite_error_eq_ok_iff.mp hinsert
    split at hinsert
    · obtain ⟨rfl, rfl⟩ := Prod.mk.inj (Except.ok.inj hinsert)
      exact ⟨fun item hitem => validateProducts_tenantOf hproducts (List.mem_map_of_mem hitem),
        rfl, _, rfl, rfl, ⟨rfl, rfl⟩, rfl, rfl⟩
    · cases hinsert

theorem books_createDraft (hd : ∀ b : Booking, b.OfTransfer → d.permits b)
    {dto : CreateTransferDto} {r : Id × String}
    (hq : ∀ item ∈ dto.items, 0 < item.requestedQuantity)
    (h : createDraft clock tenantId dto s = .ok (r, s')) : Books db d s s' := by
  obtain ⟨htenant, _, t, rfl, ht, _, _, hitems⟩ := createDraft_ok h
  refine Books.single (b := .createTransfer t)
    ⟨fun i hi => ?_, fun _ => trivial, fun _ => trivial, hd _ trivial⟩
  rw [hitems] at hi
  obtain ⟨item, hitem, rfl⟩ := List.mem_map.mp hi
  exact ⟨ht ▸ htenant item hitem, hq item hitem, le_rfl⟩

/-- The lines of a transfer that is shipped when it is created. -/
def CreateTransferDto.lines (dto : CreateTransferDto) : List Line :=
  dto.items.map fun item => ⟨item.productId, dto.fromLocationId, -item.requestedQuantity⟩

/-- The transfer of a draft has the lines of the request. -/
theorem find?_createDraft {dto : CreateTransferDto} {r : Id × String}
    (h : createDraft clock tenantId dto s = .ok (r, s')) :
    ∃ t, s'.transfers.find? r.1 = some t ∧ t.lines = CreateTransferDto.lines dto := by
  obtain ⟨_, hid, t, rfl, _, _, hfrom, hitems⟩ := createDraft_ok h
  refine ⟨t, ?_, ?_⟩
  · rw [hid, Serial.find?_create, if_pos rfl]
  · rw [StockTransfer.lines, hitems, hfrom, List.map_map]
    rfl

/-- A transfer is refused, or stays a draft: because this was asked for, or because it is not
shipped; or it is shipped. -/
theorem createTransfer_cases {P : Except HttpError CreateTransferResponse × Store → Prop}
    {dto : CreateTransferDto} (hrefused : ∀ e, P (.error e, s))
    (hdrafted : ∀ id number s₁, createDraft clock tenantId dto s = .ok ((id, number), s₁) →
      dto.status ≠ some .inTransit →
      P (.ok ⟨"Transfer created successfully", id, number⟩, s₁))
    (hunshipped : ∀ id number s₁ e, createDraft clock tenantId dto s = .ok ((id, number), s₁) →
      P (.error e, s₁))
    (hshipped : ∀ id number s₁ message s₂,
      createDraft clock tenantId dto s = .ok ((id, number), s₁) →
      dto.status = some .inTransit → ship db clock tenantId id s₁ = .ok (message, s₂) →
      P (.ok ⟨"Transfer created and shipped successfully", id, number⟩, s₂)) :
    P (TransferService.create db clock tenantId dto s) := by
  rw [TransferService.create]
  cases hdraft : createDraft clock tenantId dto s with
  | error e => exact hrefused e
  | ok x =>
    obtain ⟨⟨id, number⟩, s₁⟩ := x
    dsimp only
    by_cases hstatus : dto.status = some .inTransit
    · rw [if_pos hstatus]
      cases hship : ship db clock tenantId id s₁ with
      | error e => exact hunshipped id number s₁ e hdraft
      | ok y =>
        obtain ⟨message, s₂⟩ := y
        exact hshipped id number s₁ message s₂ hdraft hstatus hship
    · rw [if_neg hstatus]
      exact hdrafted id number s₁ hdraft hstatus

theorem books_createTransfer (hd : ∀ b : Booking, b.OfTransfer → d.permits b)
    (hs : WellFormed s) {dto : CreateTransferDto}
    (hships : (TransferService.create db clock tenantId dto s).1.isOk →
      dto.status = some .inTransit → ∀ b : Booking, b.OfTransfer ∨ b.ShipsItem → d.permits b)
    (hq : ∀ item ∈ dto.items, 0 < item.requestedQuantity)
    (hcovered : d.covered → (TransferService.create db clock tenantId dto s).1.isOk →
      dto.status = some .inTransit → LinesCovered s.onHand (CreateTransferDto.lines dto)) :
    Books db d s (TransferService.create db clock tenantId dto s).2 := by
  revert hships hcovered
  refine createTransfer_cases (P := fun x =>
    (x.1.isOk → dto.status = some .inTransit →
      ∀ b : Booking, b.OfTransfer ∨ b.ShipsItem → d.permits b) →
    (d.covered → x.1.isOk → dto.status = some .inTransit →
      LinesCovered s.onHand (CreateTransferDto.lines dto)) →
    Books db d s x.2) ?_ ?_ ?_ ?_
  · intro e _ _
    exact Books.refl s
  · intro id number s₁ hdraft _ _ _
    exact books_createDraft hd hq hdraft
  · intro id number s₁ e hdraft _ _
    exact books_createDraft hd hq hdraft
  · intro id number s₁ message s₂ hdraft hstatus hship hships hcovered
    have hbooks : Books db d s s₁ := books_createDraft hd hq hdraft
    obtain ⟨t, hfind, hlines⟩ := find?_createDraft hdraft
    refine hbooks.trans (books_ship (hships rfl hstatus) (hbooks.keeps hs).1 hship ?_)
    intro t' hfind' hcov
    obtain rfl := Option.some.inj (hfind.symm.trans hfind')
    obtain ⟨_, _, _, rfl, _⟩ := createDraft_ok hdraft
    rw [hlines]
    exact hcovered hcov rfl hstatus

theorem books_receiveTransfer (hd : ∀ b : Booking, b.OfTransfer → d.permits b)
    (hs : WellFormed s) {id : Id}
    {items : List ReceiveItemDto} {r : String}
    (h : receive db clock tenantId id items s = .ok (r, s')) : Books db d s s' := by
  obtain ⟨t, hread, h⟩ := Except.bind_eq_ok_iff.mp h
  obtain rfl : commitReceive db clock tenantId id items t s = s' :=
    congrArg Prod.snd (Except.ok.inj h)
  obtain ⟨hfind, ht, _, _⟩ := readReceive_ok hread
  have hsound := hs.transfers id t hfind
  have hmark : Books db d s (updateTransfer id (fun t =>
      { t with status := .completed, receivedAt := some clock.time }) s) :=
    books_updateTransfer hd hs fun _ ht => ht
  refine hmark.trans (Books.foldl (hmark.keeps hs).1 fun i hi s' hs' hext => ?_)
  have htenant : s'.tenantOf i.productId = some tenantId := by
    rw [hext.tenantOf, ← ht]
    exact (hsound i hi).1
  rw [TransferService.receiveItem]
  split
  · exact Books.refl s'
  · next r _ =>
    have hitem : Books db d s' (updateTransfer id (markReceived i r) s') :=
      books_updateTransfer hd hs' fun _ hsound =>
        transferSound_updateItem hsound fun _ hreq hship => ⟨hreq, hship⟩
    dsimp only
    split
    · next hpos => exact hitem.trans (books_receipt none rfl hpos.le htenant (hd _ trivial))
    · exact hitem

theorem books_cancelTransfer (hd : ∀ b : Booking, b.OfTransfer → d.permits b)
    (hs : WellFormed s) {id : Id} {r : String}
    (h : cancel db clock tenantId id s = .ok (r, s')) : Books db d s s' := by
  obtain ⟨t, hread, h⟩ := Except.bind_eq_ok_iff.mp h
  obtain rfl : commitCancel db clock tenantId id t s = s' := congrArg Prod.snd (Except.ok.inj h)
  obtain ⟨hfind, ht, _⟩ := readCancel_ok hread
  have hsound := hs.transfers id t hfind
  have hback : Books db d s (if t.status = .inTransit then
      t.items.foldl (cancelItem db clock tenantId id t) s else s) := by
    split
    · refine Books.foldl hs fun i hi s' _ hext => ?_
      rw [cancelItem]
      split
      · refine books_receipt none rfl (hsound i hi).2.2 ?_ (hd _ trivial)
        rw [hext.tenantOf]
        exact (hsound i hi).1.trans (congrArg some ht)
      · exact Books.refl s'
    · exact Books.refl s
  exact hback.trans (books_updateTransfer hd (hback.keeps hs).1 fun _ ht => ht)

end Invetrixa
