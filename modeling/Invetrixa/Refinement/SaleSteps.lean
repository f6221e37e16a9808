import Invetrixa.Refinement.Step

/-!
# What requests do to sales

The rows of sales, with their items, payments and refunds, change in seven ways: a cart is opened
or rewritten, a sale is made, completed, voided or refunded, or abandoned carts are deleted. This
module says once what each of them writes and what its checks have made sure of.

## Main definitions

- `PosTables`, `Store.pos` — the tables of the point of sale
- `CartEdit` — what the edits of a cart write
- `SaleStep` — the seven ways

## Main results

- `saleStep` — every request is one of them, or keeps the tables
-/

namespace Invetrixa

open Rowstore Requests MovementService SaleService CartService RefundService CartCleanupService

/-- Sales with their items, payments and refunds. -/
@[ext]
structure PosTables where
  sales : Serial Sale
  saleItems : Serial SaleItem
  salePayments : Serial SalePayment
  saleRefunds : Serial SaleRefund

def Store.pos (s : Store) : PosTables where
  sales := s.sales
  saleItems := s.saleItems
  salePayments := s.salePayments
  saleRefunds := s.saleRefunds

/-- Sales deleted with their items and payments. -/
def PosTables.without (t : PosTables) (saleIds : List Id) : PosTables :=
  { t with
    saleItems := t.saleItems.deleteWhere fun _ i => i.saleId ∈ saleIds
    sales := t.sales.deleteWhere fun id _ => id ∈ saleIds
    salePayments := t.salePayments.deleteWhere fun _ p => p.saleId ∈ saleIds }

/-- A cart's items are rewritten. Those of other sales stay, and no item gets a cost. -/
structure CartWritten (cartId : Id) (items items' : Serial SaleItem) : Prop where
  others : ∀ saleId, saleId ≠ cartId →
    (items'.rows.filter fun r => r.2.saleId = saleId) =
      items.rows.filter fun r => r.2.saleId = saleId
  costs : (items.All fun _ i => i.saleId = cartId → i.unitCost = 0) →
    items'.All fun _ i => i.saleId = cartId → i.unitCost = 0

/-- The line totals of a sale together. -/
def lineTotals (saleId : Id) (items : Serial SaleItem) : ℚ :=
  ((items.rows.filter fun r => r.2.saleId = saleId).map fun r => r.2.lineTotal).sum

/-- What an accepted edit of a cart makes of the items, with what its checks have made sure of. -/
inductive CartEdit (db : Database) (s : Store) (cartId : Id) : Request → Serial SaleItem → Prop
  | merged (tenantId : Id) (dto : AddCartItemDto) (itemId : Id) (item : SaleItem) (newQty : ℤ)
      (hitem : findExistingItem cartId dto.productId s = some (itemId, item))
      (hquantity : item.quantity + dto.quantity = newQty) :
      CartEdit db s cartId (.addCartItem tenantId cartId dto)
        (s.saleItems.modify itemId fun i =>
          { i with
            quantity := newQty
            lineTotal := db.decimal (db.lineTotal item.unitPrice item.discountAmount newQty) })
  | added (tenantId : Id) (dto : AddCartItemDto) (product : Product) (quantity : ℤ)
      (hproduct : loadedProduct tenantId dto.productId s = some product)
      (hnone : findExistingItem cartId dto.productId s = none)
      (hquantity : dto.quantity = quantity) :
      CartEdit db s cartId (.addCartItem tenantId cartId dto)
        (s.saleItems.create
          { saleId := cartId
            productId := dto.productId
            quantity
            unitPrice := db.decimal
              (db.amount (dto.unitPrice.getD (product.minSellingPrice.getD 0)))
            unitCost := 0
            discountAmount := db.decimal (db.amount (dto.discountAmount.getD 0))
            lineTotal := db.decimal
              (db.lineTotal (dto.unitPrice.getD (product.minSellingPrice.getD 0))
                (dto.discountAmount.getD 0) dto.quantity) })
  | updated (tenantId itemId : Id) (dto : UpdateCartItemDto) (item : SaleItem) (quantity : ℤ)
      (hitem : s.saleItems.find? itemId = some item) (hsale : item.saleId = cartId)
      (hquantity : dto.quantity = quantity) :
      CartEdit db s cartId (.updateCartItem tenantId cartId itemId dto)
        (s.saleItems.modify itemId fun i =>
          { i with
            quantity
            unitPrice := db.decimal (db.amount (dto.unitPrice.getD item.unitPrice))
            discountAmount := db.decimal (db.amount (dto.discountAmount.getD item.discountAmount))
            lineTotal := db.decimal (db.lineTotal (dto.unitPrice.getD item.unitPrice)
              (dto.discountAmount.getD item.discountAmount) dto.quantity) })
  | removed (tenantId itemId : Id) (item : SaleItem)
      (hitem : s.saleItems.find? itemId = some item) (hsale : item.saleId = cartId) :
      CartEdit db s cartId (.removeCartItem tenantId cartId itemId)
        (s.saleItems.deleteWhere fun k _ => k = itemId)

/-- The tables once a cart has these items. -/
def Store.recalculated (db : Database) (s : Store) (cartId : Id) (cart : Sale)
    (saleItems : Serial SaleItem) : PosTables :=
  { s.pos with
    sales := s.sales.modify cartId fun sale =>
      { sale with
        subtotal := db.decimal (lineTotals cartId saleItems)
        totalAmount := db.decimal (lineTotals cartId saleItems - cart.discountAmount + 0) }
    saleItems }

/-- A completed sale. -/
def markCompleted (db : Database) (totals : SaleTotals) (sale : Sale) : Sale :=
  { sale with
    status := .completed
    paidAmount := db.decimal totals.paidAmount
    changeAmount := db.decimal totals.changeAmount }

/-- The status of a sale once an amount is refunded. -/
def refundStatus (sale : Sale) (totalRefunded amount : ℚ) : SaleStatus :=
  if totalRefunded + amount ≥ sale.paidAmount - sale.changeAmount then .refunded
  else .partiallyRefunded

theorem refundStatus_refunded (sale : Sale) (totalRefunded amount : ℚ) :
    refundStatus sale totalRefunded amount = .refunded ∨
      refundStatus sale totalRefunded amount = .partiallyRefunded := by
  rw [refundStatus]
  split
  · exact .inl rfl
  · exact .inr rfl

/-- The part of a sale that stays once it is made. -/
def Sale.header (sale : Sale) : Sale :=
  { sale with subtotal := 0, totalAmount := 0, paidAmount := 0, changeAmount := 0, status := .draft }

/-- What a request does to the sales, with what its checks have made sure of. -/
inductive SaleStep (db : Database) (s : Store) : Call → PosTables → Prop
  | kept (call : Call) : SaleStep db s call s.pos
  | opened (clock : Clock) (tenantId : Id) (dto : CreateCartDto) :
      SaleStep db s ⟨clock, .createCart tenantId dto⟩
        { s.pos with
          sales := s.sales.create
            (newCart clock tenantId (generateSaleNumber clock tenantId s) dto) }
  | written (call : Call) (cartId : Id) (cart : Sale) (saleItems : Serial SaleItem)
      (hfind : s.sales.find? cartId = some cart) (hdraft : cart.status = .draft)
      (hedit : CartEdit db s cartId call.request saleItems) :
      SaleStep db s call (s.recalculated db cartId cart saleItems)
  | sold (clock : Clock) (tenantId : Id) (dto : CreateSaleDto) (items : List ProcessedSaleItem)
      (totals : SaleTotals) (hpasses : Passes db s ⟨clock, .createSale tenantId dto⟩)
      (hread : readCreate db tenantId dto s = .ok (items, totals)) :
      SaleStep db s ⟨clock, .createSale tenantId dto⟩
        (soldStore db clock tenantId dto items totals s).pos
  | completed (clock : Clock) (tenantId saleId : Id) (payments : List PaymentDto)
      (read : SaleWithItems) (totals : SaleTotals)
      (hpasses : Passes db s ⟨clock, .completeSale tenantId saleId payments⟩)
      (hread : readComplete tenantId saleId payments s = .ok (read, totals)) :
      SaleStep db s ⟨clock, .completeSale tenantId saleId payments⟩
        { s.pos with
          sales := s.sales.modify saleId (markCompleted db totals)
          salePayments := (createPayments db saleId payments s).salePayments }
  | voided (clock : Clock) (tenantId saleId : Id) (read : SaleWithItems)
      (hread : readVoid tenantId saleId s = .ok read) :
      SaleStep db s ⟨clock, .voidSale tenantId saleId⟩
        { s.pos with
          sales := s.sales.modify saleId fun sale => { sale with status := .voided } }
  | refunded (clock : Clock) (tenantId saleId : Id) (dto : CreateRefundDto) (read : SaleWithItems)
      (total : ℚ) (hvalid : CreateRefundDto.Valid dto)
      (hread : readRefund tenantId saleId dto s = .ok (read, total)) :
      SaleStep db s ⟨clock, .createRefund tenantId saleId dto⟩
        { s.pos with
          sales := s.sales.modify saleId fun sale =>
            { sale with status := refundStatus read.sale total dto.amount }
          saleRefunds := s.saleRefunds.create
            { saleId
              tenantId
              refundNumber := generateRefundNumber clock tenantId s
              amount := db.decimal dto.amount
              method := dto.method } }
  | cleaned (clock : Clock)
      (hkept : ∀ r ∈ s.saleRefunds.rows, r.2.saleId ∉ abandonedCarts clock s) :
      SaleStep db s ⟨clock, .cleanupCarts⟩ (s.pos.without (abandonedCarts clock s))

variable {db : Database} {clock : Clock} {tenantId saleId cartId : Id} {s s' : Store} {call : Call}

section Kept

/-- The bookings that leave the sales alone. -/
def Booking.KeepsSales : Booking → Prop
  | .writeSales .. => False
  | _ => True

theorem Booking.Plain.keepsSales {b : Booking} (h : b.Plain) : b.KeepsSales := by
  cases b with
  | writeSales => exact h.elim
  | _ => trivial

theorem pos_book {b : Booking} (h : b.KeepsSales) : (book db b s).pos = s.pos := by
  cases b with
  | issue i => simp only [book, recordIssue_eq]; rfl
  | shipItem => simp only [book, TransferService.shipItem_eq]; rfl
  | expireCarts read => rw [book, releaseReservedQuantities_eq]; rfl
  | writeSales => exact h.elim
  | _ => rfl

/-- A request that is not about sales keeps them. -/
theorem pos_step_of_not_ofSales (hs : WellFormed s) (hcall : ¬call.request.OfSales) :
    (step db call s).pos = s.pos := by
  have hbooks : Books db ⟨False, False, Booking.KeepsSales, fun _ h => h.keepsSales⟩ s
      (step db call s) := by
    refine books_step hs False.elim False.elim (fun b hb => ?_) fun _ _ b hb => ?_
    · rcases hb with hb | hb | hb
      · exact hb.keepsSales
      · cases b with
        | writeSales => exact hb.2.elim
        | _ => trivial
      · exact absurd hb.1 hcall
    · cases b with
      | writeSales => exact (hb.elim id id).elim
      | _ => trivial
  exact Runs.invariant (I := fun s' => s'.pos = s.pos) hbooks rfl
    fun s' b h hb => (pos_book hb.2.2.2).trans h

theorem pos_executeStockOut (dto : BulkStockOutDto) :
    (executeStockOut db tenantId dto s).2.pos = s.pos := by
  rw [executeStockOut_eq]
  refine Loops.view_foldl Store.pos (fun s item _ => ?_) s
  rw [recordIssue_eq]
  rfl

theorem pos_executeStockIn (dto : BulkStockInDto) :
    (executeStockIn db clock tenantId dto s).2.pos = s.pos := by
  rw [executeStockIn_eq]
  apply Loops.view_foldl Store.pos
  exact fun _ _ _ => rfl

theorem pos_voidItems (locationId : Id) (items : List SaleItem) :
    (items.foldl (voidItem db tenantId saleId locationId) s).pos = s.pos := by
  induction items generalizing s with
  | nil => rfl
  | cons item rest ih => exact ih

theorem pos_releaseEach (ids : List Id) : (releaseEach tenantId ids s).2.pos = s.pos := by
  refine releaseEach_preserves (I := fun s' => s'.pos = s.pos) rfl ?_ ids
  intro id s₁ s₂ hpos hrelease
  obtain ⟨r, _, hclose⟩ := Except.bind_eq_ok_iff.mp hrelease
  obtain ⟨rfl, _⟩ := close_ok .exact hclose
  exact hpos

theorem pos_createReservation {dto : ReservationService.CreateReservationDto} {id : Id}
    (h : ReservationService.create clock tenantId dto s = .ok (id, s')) : s'.pos = s.pos := by
  obtain ⟨_, _, rfl⟩ := createReservation_ok h
  rfl

end Kept

section Carts

variable {items : Serial SaleItem} {itemId : Id} {item : SaleItem}

/-- An item of the cart is rewritten. -/
theorem cartWritten_modify {f : SaleItem → SaleItem} (hfind : items.find? itemId = some item)
    (hsale : item.saleId = cartId)
    (hf : ∀ i, (f i).saleId = i.saleId ∧ (f i).unitCost = i.unitCost) :
    CartWritten cartId items (items.modify itemId f) := by
  constructor
  · intro saleId hne
    refine Table.filter_modifyWhere fun k i hi hk => ?_
    obtain rfl : k = itemId := of_decide_eq_true hk
    obtain rfl := Option.some.inj (hfind.symm.trans (Table.find?_of_mem_rows hi))
    have hother : ¬item.saleId = saleId := hsale ▸ hne.symm
    exact ⟨decide_eq_false hother, decide_eq_false ((hf item).1 ▸ hother)⟩
  · intro hcosts
    refine Table.All.modify hcosts fun i _ hi => ?_
    rw [(hf i).1, (hf i).2]
    exact hi

/-- An item without cost is added to the cart. -/
theorem cartWritten_create (hsale : item.saleId = cartId) (hcost : item.unitCost = 0) :
    CartWritten cartId items (items.create item) := by
  constructor
  · intro saleId hne
    have hother : ¬item.saleId = saleId := hsale ▸ hne.symm
    simp [Serial.create, List.filter_append, hother]
  · intro hcosts
    exact Serial.All_create hcosts fun _ => hcost

/-- An item of the cart is removed. -/
theorem cartWritten_delete (hfind : items.find? itemId = some item) (hsale : item.saleId = cartId) :
    CartWritten cartId items (items.deleteWhere fun k _ => k = itemId) := by
  constructor
  · intro saleId hne
    simp only [Serial.deleteWhere, Table.deleteWhere, List.filter_filter]
    refine List.filter_congr fun r hr => ?_
    by_cases hk : r.1 = itemId
    · have hrow := Table.find?_of_mem_rows hr
      rw [hk, hfind] at hrow
      have hother : ¬r.2.saleId = saleId := by
        rw [← Option.some.inj hrow, hsale]
        exact hne.symm
      simp [hother]
    · simp [hk]
  · exact fun hcosts => Table.All.deleteWhere hcosts _

/-- An edit of a cart leaves the items of other sales, and gives none a cost. -/
theorem CartEdit.cartWritten {request : Request} (h : CartEdit db s cartId request items) :
    CartWritten cartId s.saleItems items := by
  cases h with
  | merged tenantId dto itemId item newQty hitem hquantity =>
    obtain ⟨hfind, hsale⟩ := findExistingItem_eq_some hitem
    exact cartWritten_modify hfind hsale fun _ => ⟨rfl, rfl⟩
  | added => exact cartWritten_create rfl rfl
  | updated tenantId itemId dto item quantity hitem hsale hquantity =>
    exact cartWritten_modify hitem hsale fun _ => ⟨rfl, rfl⟩
  | removed tenantId itemId item hitem hsale => exact cartWritten_delete hitem hsale

/-- An edit of a cart leaves the selected items, if none of the cart is selected. -/
theorem CartEdit.filter_find? {request : Request} (h : CartEdit db s cartId request items)
    {p : SaleItem → Bool} (hp : ∀ i, i.saleId = cartId → p i = false) (k : Id) :
    (items.find? k).filter p = (s.saleItems.find? k).filter p := by
  cases h with
  | merged tenantId dto itemId item newQty hitem hquantity =>
    obtain ⟨hfind, hsale⟩ := findExistingItem_eq_some hitem
    refine Table.filter_find?_modify fun i hi => ?_
    obtain rfl := Option.some.inj (hi.symm.trans hfind)
    exact ⟨hp _ hsale, hp _ hsale⟩
  | added => exact Serial.filter_find?_create (p := fun _ => p) (hp _ rfl) k
  | updated tenantId itemId dto item quantity hitem hsale hquantity =>
    refine Table.filter_find?_modify fun i hi => ?_
    obtain rfl := Option.some.inj (hi.symm.trans hitem)
    exact ⟨hp _ hsale, hp _ hsale⟩
  | removed tenantId itemId item hitem hsale =>
    refine Table.filter_find?_deleteWhere fun k' i hi hdeleted => ?_
    obtain rfl := of_decide_eq_true hdeleted
    obtain rfl := Option.some.inj (hi.symm.trans hitem)
    exact hp _ hsale

/-- A request that edits a cart is refused and keeps the sales, or is accepted and edits it. -/
inductive CartEdited (db : Database) (s : Store) (cartId : Id) (request : Request)
    (x : Except HttpError Unit × Store) : Prop
  | refused (e : HttpError) (hanswer : x.1 = .error e) (hpos : x.2.pos = s.pos)
  | edited (cart : Sale) (saleItems : Serial SaleItem) (hanswer : x.1 = .ok ())
      (hfind : s.sales.find? cartId = some cart) (hdraft : cart.status = .draft)
      (hedit : CartEdit db s cartId request saleItems)
      (hpos : x.2.pos = s.recalculated db cartId cart saleItems)

variable {request : Request}

/-- The last write of a cart request: its totals, after its items. -/
theorem pos_recalculateCart {s₁ : Store} {cart : Sale} {saleItems : Serial SaleItem}
    (hpos : s₁.pos = s.pos) (hfind : s.sales.find? cartId = some cart)
    (h : recalculateCart db cartId { s₁ with saleItems } = .ok s') :
    s'.pos = s.recalculated db cartId cart saleItems := by
  obtain ⟨_, _, h⟩ := recalculateCart_eq_ok_iff.mp h
  obtain ⟨rfl, _⟩ := updateSale_ok h
  have hsales : s₁.sales = s.sales := congrArg PosTables.sales hpos
  have hpayments : s₁.salePayments = s.salePayments := congrArg PosTables.salePayments hpos
  have hrefunds : s₁.saleRefunds = s.saleRefunds := congrArg PosTables.saleRefunds hpos
  simp only [Store.pos, Store.recalculated, lineTotals, hsales, hpayments, hrefunds, hfind]
  rfl

/-- The last transaction of a cart request, after what keeps the sales. -/
theorem cartEdited_transaction {f : Store → Except HttpError (Unit × Store)} {s₁ : Store}
    {cart : Sale} (hpos : s₁.pos = s.pos) (hfind : s.sales.find? cartId = some cart)
    (hdraft : cart.status = .draft)
    (h : ∀ s', f s₁ = .ok ((), s') → ∃ saleItems, CartEdit db s cartId request saleItems ∧
      recalculateCart db cartId { s₁ with saleItems } = .ok s') :
    CartEdited db s cartId request (transaction f s₁) := by
  cases hf : f s₁ with
  | error e =>
    rw [transaction_of_error hf]
    exact .refused e rfl hpos
  | ok x =>
    obtain ⟨⟨⟩, s'⟩ := x
    obtain ⟨saleItems, hedit, hrecalc⟩ := h s' hf
    rw [transaction_of_ok hf]
    exact .edited cart saleItems rfl hfind hdraft hedit (pos_recalculateCart hpos hfind hrecalc)

theorem cartEdited_addItem {dto : AddCartItemDto} :
    CartEdited db s cartId (.addCartItem tenantId cartId dto)
      (addItem db clock tenantId cartId dto s) := by
  refine addItem_cases (fun e => .refused e rfl rfl) fun cart product id s₁ hread hcreate => ?_
  obtain ⟨⟨hcart, _, hdraft⟩, _⟩ := readAddItem_ok hread
  have hproduct := readAddItem_product hread
  have hpos := pos_createReservation hcreate
  have hitems : s₁.saleItems = s.saleItems := congrArg PosTables.saleItems hpos
  -- The reservation is a transaction before: the cart is read after it, with the same items.
  have hexisting : findExistingItem cartId dto.productId s₁ =
      findExistingItem cartId dto.productId s := by
    rw [findExistingItem, Store.itemsOf, hitems]
    rfl
  rw [hexisting]
  refine cartEdited_transaction hpos hcart hdraft fun s' h => ?_
  obtain ⟨itemId, item, newQty, hfound, hsum, hrecalc⟩ | ⟨hnone, quantity, hquantity, hrecalc⟩ :=
    commitAddItem_ok h
  · rw [hitems] at hrecalc
    exact ⟨_, .merged tenantId dto itemId item newQty hfound hsum, hrecalc⟩
  · rw [hitems] at hrecalc
    exact ⟨_, .added tenantId dto product quantity hproduct hnone hquantity, hrecalc⟩

theorem cartEdited_updateItem {dto : UpdateCartItemDto} :
    CartEdited db s cartId (.updateCartItem tenantId cartId itemId dto)
      (updateItem db clock tenantId cartId itemId dto s) := by
  refine updateItem_cases (fun e => .refused e rfl rfl) ?_ ?_
  · intro cart item e _
    exact .refused e rfl (pos_releaseEach _)
  · intro cart item id s₁ s₂ hread heach hcreate
    obtain ⟨hitem, hsale, hcart, _, hdraft⟩ := readUpdateItem_ok hread
    have hpos : (releaseReservations tenantId cartId item.productId s).2.pos = s.pos :=
      pos_releaseEach _
    rw [heach] at hpos
    have hpos₂ : s₂.pos = s.pos := (pos_createReservation hcreate).trans hpos
    have hitems : s₂.saleItems = s.saleItems := congrArg PosTables.saleItems hpos₂
    refine cartEdited_transaction hpos₂ hcart hdraft fun s' h => ?_
    obtain ⟨quantity, hquantity, hrecalc⟩ := commitUpdateItem_ok h
    rw [hitems] at hrecalc
    exact ⟨_, .updated tenantId itemId dto item quantity hitem hsale hquantity, hrecalc⟩

theorem cartEdited_removeItem :
    CartEdited db s cartId (.removeCartItem tenantId cartId itemId)
      (removeItem db tenantId cartId itemId s) := by
  refine removeItem_cases (fun e => .refused e rfl rfl) ?_ ?_
  · intro item e _
    exact .refused e rfl (pos_releaseEach _)
  · intro item s₁ hread heach
    obtain ⟨hitem, hsale, cart, hcart, _, hdraft⟩ := readRemoveItem_ok hread
    have hpos : (releaseReservations tenantId cartId item.productId s).2.pos = s.pos :=
      pos_releaseEach _
    rw [heach] at hpos
    have hitems : s₁.saleItems = s.saleItems := congrArg PosTables.saleItems hpos
    refine cartEdited_transaction hpos hcart hdraft fun s' h => ?_
    have hrecalc := commitRemoveItem_ok h
    rw [hitems] at hrecalc
    exact ⟨_, .removed tenantId itemId item hitem hsale, hrecalc⟩

theorem saleStep_of_pos (hpos : s'.pos = s.pos) : SaleStep db s call s'.pos :=
  hpos ▸ .kept call

/-- A transaction of which every successful run is one of the ways. -/
theorem saleStep_transaction {α : Type} {f : Store → Except HttpError (α × Store)} {s₁ : Store}
    (hpos : s₁.pos = s.pos)
    (h : ∀ (a : α) (s' : Store), f s₁ = .ok (a, s') → SaleStep db s call s'.pos) :
    SaleStep db s call (transaction f s₁).2.pos :=
  transaction_preserves (I := fun s' : Store => SaleStep db s call s'.pos) (saleStep_of_pos hpos) h

theorem saleStep_of_edited {x : Except HttpError Unit × Store}
    (h : CartEdited db s cartId call.request x) : SaleStep db s call x.2.pos := by
  cases h with
  | refused e hanswer hpos => exact saleStep_of_pos hpos
  | edited cart saleItems hanswer hfind hdraft hedit hpos =>
    rw [hpos]
    exact .written call cartId cart saleItems hfind hdraft hedit

end Carts

section Sales

variable {client : Store} {payments : List PaymentDto} {read : SaleWithItems} {totals : SaleTotals}

/-- The transaction of a completion, whatever was read before it. -/
theorem pos_executeCompletionTransaction
    (h : executeCompletionTransaction db tenantId saleId payments read totals client s =
      .ok ((), s')) :
    s'.pos =
      { s.pos with
        sales := s.sales.modify saleId (markCompleted db totals)
        salePayments := (createPayments db saleId payments s).salePayments } := by
  obtain ⟨_, hupdate⟩ := executeCompletionTransaction_ok h
  obtain ⟨rfl, _⟩ := updateSale_ok hupdate
  have hpos : (executeStockOut db tenantId (completionOut saleId read)
      (createPayments db saleId payments s)).2.pos = (createPayments db saleId payments s).pos :=
    pos_executeStockOut _
  show ({ (executeStockOut db tenantId (completionOut saleId read)
      (createPayments db saleId payments s)).2.pos with
    sales := (executeStockOut db tenantId (completionOut saleId read)
      (createPayments db saleId payments s)).2.pos.sales.modify saleId (markCompleted db totals) } :
      PosTables) = _
  rw [hpos]
  rfl

/-- The transaction of a void, whatever was read before it. -/
theorem pos_executeVoidTransaction
    (h : executeVoidTransaction db tenantId saleId read s = .ok ((), s')) :
    s'.pos =
      { s.pos with
        sales := s.sales.modify saleId fun sale => { sale with status := .voided } } := by
  obtain ⟨s₁, hupdate, h⟩ := Except.bind_eq_ok_iff.mp h
  obtain rfl := congrArg Prod.snd (Except.ok.inj h)
  obtain ⟨rfl, _⟩ := updateSale_ok hupdate
  exact pos_voidItems _ _

theorem pos_returnStock {refundId : Id} {dto : CreateRefundDto}
    (h : returnStock db clock tenantId refundId dto read client s = .ok s') : s'.pos = s.pos := by
  obtain rfl | ⟨items, rfl, _⟩ := returnStock_ok h
  · rfl
  · exact pos_executeStockIn _

/-- The transaction of a refund, whatever was read before it. -/
theorem pos_executeRefund {dto : CreateRefundDto} {total : ℚ} {id : Id}
    (h : executeRefund db clock tenantId saleId dto read total client s = .ok (id, s')) :
    s'.pos =
      { s.pos with
        sales := s.sales.modify saleId fun sale =>
          { sale with status := refundStatus read.sale total dto.amount }
        saleRefunds := s.saleRefunds.create
          { saleId
            tenantId
            refundNumber := generateRefundNumber clock tenantId s
            amount := db.decimal dto.amount
            method := dto.method } } := by
  obtain ⟨s₁, hreturn, rfl⟩ := executeRefund_ok h
  have hpos := pos_returnStock hreturn
  show ({ s₁.pos with
    sales := s₁.pos.sales.modify saleId fun sale =>
      { sale with status := refundStatus read.sale total dto.amount } } : PosTables) = _
  rw [hpos]
  rfl

/-- The transaction of the cleanup, on the carts that were read before it. -/
theorem pos_commitCleanup {read : Abandoned} {r : CleanupResult}
    (h : commitCleanup read s = .ok (r, s')) :
    (∀ r ∈ s.saleRefunds.rows, r.2.saleId ∉ read.cartIds) ∧
      s'.pos = s.pos.without read.cartIds := by
  obtain ⟨s₁, hdelete, h⟩ := Except.bind_eq_ok_iff.mp h
  obtain rfl : s₁ = s' := congrArg Prod.snd (Except.ok.inj h)
  obtain ⟨hkept, rfl⟩ := deleteCarts_ok hdelete
  rw [releaseReservedQuantities_eq] at hkept ⊢
  exact ⟨hkept, rfl⟩

/-- The job deletes the carts it finds, if it finds any and none has a refund. -/
theorem pos_cleanup {r : CleanupResult} (h : cleanupAbandonedCarts clock s = .ok (r, s')) :
    s'.pos = s.pos ∨ ((∀ r ∈ s.saleRefunds.rows, r.2.saleId ∉ abandonedCarts clock s) ∧
      s'.pos = s.pos.without (abandonedCarts clock s)) := by
  rw [cleanupAbandonedCarts] at h
  split at h
  · obtain rfl := congrArg Prod.snd (Except.ok.inj h)
    exact .inl rfl
  · next read hread =>
    obtain ⟨hids, _⟩ := readCleanup_eq_some hread
    exact .inr (hids ▸ pos_commitCleanup h)

theorem saleStep_cleanup {r : CleanupResult}
    (h : cleanupAbandonedCarts clock s = .ok (r, s')) :
    SaleStep db s ⟨clock, .cleanupCarts⟩ s'.pos := by
  rcases pos_cleanup h with hpos | ⟨hkept, hpos⟩
  · exact saleStep_of_pos hpos
  · rw [hpos]
    exact .cleaned clock hkept

end Sales

/-- A request does to the sales one of the things listed. -/
theorem saleStep (hs : WellFormed s) : SaleStep db s call (step db call s).pos := by
  by_cases hcall : call.request.OfSales
  · refine step_preserves_of_valid (P := fun s' => SaleStep db s call s'.pos) (.kept call)
      fun hvalid => ?_
    obtain ⟨clock, request⟩ := call
    cases request with
    | stockOut tenantId dto =>
      refine saleStep_transaction rfl fun _ s' h => saleStep_of_pos ?_
      obtain ⟨_, _, h⟩ := Except.bind_eq_ok_iff.mp h
      obtain rfl : (executeStockOut db tenantId dto s).2 = s' := congrArg Prod.snd (Except.ok.inj h)
      exact pos_executeStockOut dto
    | createCart tenantId dto =>
      refine saleStep_transaction rfl fun _ s' h => ?_
      obtain ⟨_, rfl⟩ := insertSale_ok h
      exact .opened clock tenantId dto
    | addCartItem => exact saleStep_of_edited cartEdited_addItem
    | updateCartItem => exact saleStep_of_edited cartEdited_updateItem
    | removeCartItem => exact saleStep_of_edited cartEdited_removeItem
    | createSale tenantId dto =>
      refine saleStep_transaction rfl fun _ s' h => ?_
      have hpasses : Passes db s ⟨clock, .createSale tenantId dto⟩ := ⟨hvalid, passes_createSale h⟩
      obtain ⟨⟨items, totals⟩, hread, h⟩ := Except.bind_eq_ok_iff.mp h
      obtain ⟨_, _, rfl⟩ := executeSaleTransaction_ok h
      rw [pos_executeStockOut]
      exact .sold clock tenantId dto items totals hpasses hread
    | completeSale tenantId saleId payments =>
      refine saleStep_transaction rfl fun _ s' h => ?_
      have hpasses : Passes db s ⟨clock, .completeSale tenantId saleId payments⟩ :=
        ⟨hvalid, passes_completeSale h⟩
      obtain ⟨⟨read, totals⟩, hread, h⟩ := Except.bind_eq_ok_iff.mp h
      rw [pos_executeCompletionTransaction h]
      exact .completed clock tenantId saleId payments read totals hpasses hread
    | voidSale tenantId saleId =>
      refine saleStep_transaction rfl fun _ s' h => ?_
      obtain ⟨read, hread, h⟩ := Except.bind_eq_ok_iff.mp h
      rw [pos_executeVoidTransaction h]
      exact .voided clock tenantId saleId read hread
    | createRefund tenantId saleId dto =>
      refine saleStep_transaction rfl fun _ s' h => ?_
      obtain ⟨⟨read, total⟩, hread, h⟩ := Except.bind_eq_ok_iff.mp h
      rw [pos_executeRefund h]
      exact .refunded clock tenantId saleId dto read total hvalid hread
    | cleanupCarts => exact saleStep_transaction rfl fun _ s' h => saleStep_cleanup h
    | _ => exact hcall.elim
  · rw [pos_step_of_not_ofSales hs hcall]
    exact .kept call

section Accepted

/-- What an accepted quick sale leaves. -/
theorem pos_of_accepted_createSale {dto : CreateSaleDto}
    (h : Accepted db s ⟨clock, .createSale tenantId dto⟩) :
    ∃ items totals, readCreate db tenantId dto s = .ok (items, totals) ∧
      (step db ⟨clock, .createSale tenantId dto⟩ s).pos =
        (soldStore db clock tenantId dto items totals s).pos := by
  obtain ⟨_, id, hsale⟩ := ok_of_accepted (SaleService.create db clock tenantId dto) rfl h
  obtain ⟨⟨items, totals⟩, hread, hsale⟩ := Except.bind_eq_ok_iff.mp hsale
  obtain ⟨_, _, hstep⟩ := executeSaleTransaction_ok hsale
  refine ⟨items, totals, hread, ?_⟩
  rw [hstep, pos_executeStockOut]

/-- What an accepted completion leaves. -/
theorem pos_of_accepted_completeSale {payments : List PaymentDto}
    (h : Accepted db s ⟨clock, .completeSale tenantId saleId payments⟩) :
    ∃ read totals, readComplete tenantId saleId payments s = .ok (read, totals) ∧
      (step db ⟨clock, .completeSale tenantId saleId payments⟩ s).pos =
        { s.pos with
          sales := s.sales.modify saleId (markCompleted db totals)
          salePayments := (createPayments db saleId payments s).salePayments } := by
  obtain ⟨_, _, hsale⟩ :=
    ok_of_accepted (SaleService.complete db tenantId saleId payments) rfl h
  obtain ⟨⟨read, totals⟩, hread, hsale⟩ := Except.bind_eq_ok_iff.mp hsale
  exact ⟨read, totals, hread, pos_executeCompletionTransaction hsale⟩

end Accepted

section Rows

/-- What a request has done to a row of the sales that is there after it: it was made, or it was
there before and keeps all but its amounts and its status, which changes on completion, and from
then on only away from it. -/
inductive RowStep (db : Database) (s : Store) (call : Call) (id : Id) (sale' : Sale) : Prop
  | opened (clock : Clock) (tenantId : Id) (dto : CreateCartDto)
      (hcall : call = ⟨clock, .createCart tenantId dto⟩) (hid : id = s.sales.next)
      (hrow : sale' = newCart clock tenantId (generateSaleNumber clock tenantId s) dto)
  | sold (clock : Clock) (tenantId : Id) (dto : CreateSaleDto) (totals : SaleTotals)
      (hcall : call = ⟨clock, .createSale tenantId dto⟩) (hpasses : Passes db s call)
      (hid : id = s.sales.next)
      (hrow : sale' = newSale db clock tenantId (generateSaleNumber clock tenantId s) dto totals)
  | kept (sale : Sale) (hfind : s.sales.find? id = some sale) (hheader : sale'.header = sale.header)
      (hstatus : sale'.status = sale.status)
  | completed (clock : Clock) (tenantId : Id) (payments : List PaymentDto) (sale : Sale)
      (hcall : call = ⟨clock, .completeSale tenantId id payments⟩) (hpasses : Passes db s call)
      (hfind : s.sales.find? id = some sale) (hdraft : sale.status = .draft)
      (hheader : sale'.header = sale.header) (hstatus : sale'.status = .completed)
  | settled (sale : Sale) (hfind : s.sales.find? id = some sale)
      (hheader : sale'.header = sale.header) (hbefore : sale.status ≠ .draft)
      (hafter : sale'.status ≠ .draft ∧ sale'.status ≠ .completed)

variable {t : PosTables} {id : Id} {sale' : Sale}

theorem SaleStep.row (h : SaleStep db s call t) (hfind : t.sales.find? id = some sale') :
    RowStep db s call id sale' := by
  cases h with
  | kept => exact .kept sale' hfind rfl rfl
  | opened clock tenantId dto =>
    rcases Serial.find?_create_cases hfind with hold | ⟨hid, hrow⟩
    · exact .kept sale' hold rfl rfl
    · exact .opened clock tenantId dto rfl hid hrow
  | written _ cartId cart saleItems hcart hdraft hedit =>
    rcases Table.find?_modify_cases hfind with ⟨_, hold⟩ | ⟨rfl, sale, hold, rfl⟩
    · exact .kept sale' hold rfl rfl
    · exact .kept sale hold rfl rfl
  | sold clock tenantId dto items totals hpasses hread =>
    rcases Serial.find?_create_cases hfind with hold | ⟨hid, hrow⟩
    · exact .kept sale' hold rfl rfl
    · exact .sold clock tenantId dto totals rfl hpasses hid hrow
  | completed clock tenantId saleId payments read totals hpasses hread =>
    rcases Table.find?_modify_cases hfind with ⟨_, hold⟩ | ⟨rfl, sale, hold, rfl⟩
    · exact .kept sale' hold rfl rfl
    · obtain ⟨hfind', _, hdraft, _⟩ := readComplete_ok hread
      obtain rfl := Option.some.inj (hold.symm.trans hfind')
      exact .completed clock tenantId payments read.sale rfl hpasses hold hdraft rfl rfl
  | voided clock tenantId saleId read hread =>
    rcases Table.find?_modify_cases hfind with ⟨_, hold⟩ | ⟨rfl, sale, hold, rfl⟩
    · exact .kept sale' hold rfl rfl
    · obtain ⟨hfind', _, hstatus, _⟩ := readVoid_ok hread
      obtain rfl := Option.some.inj (hold.symm.trans hfind')
      exact .settled read.sale hold rfl (by rw [hstatus]; decide) ⟨nofun, nofun⟩
  | refunded clock tenantId saleId dto read total hvalid hread =>
    rcases Table.find?_modify_cases hfind with ⟨_, hold⟩ | ⟨rfl, sale, hold, rfl⟩
    · exact .kept sale' hold rfl rfl
    · obtain ⟨hfind', _, hstatus, _⟩ := readRefund_ok hread
      obtain rfl := Option.some.inj (hold.symm.trans hfind')
      have hbefore : read.sale.status ≠ .draft := by rcases hstatus with h | h <;> rw [h] <;> decide
      refine .settled read.sale hold rfl hbefore ?_
      rcases refundStatus_refunded read.sale total dto.amount with h | h <;> simp [h]
  | cleaned clock hkept =>
    have hold := (Option.filter_eq_some_iff.mp ((Table.find?_deleteWhere _).symm.trans hfind)).1
    exact .kept sale' hold rfl rfl

/-- A sale that is there keeps its id: the numbers of new sales are higher. -/
theorem SaleStep.next (h : SaleStep db s call t) : s.sales.next ≤ t.sales.next := by
  cases h with
  | opened => exact Nat.le_succ _
  | sold => exact Nat.le_succ _
  | _ => exact le_refl _

end Rows

section Runs

variable {c : Catalogue} {ok : Store → Call → Prop}

/-- The rule for runs of requests: what holds of the empty tables and is kept by each step holds of
the sales of every store that is reached. The stores before and after a step are well formed. -/
theorem pos_invariant_of_step {I : PosTables → Prop} (h : ReachableBy db ok c s)
    (hinit : I (Store.initial c).pos)
    (hstep : ∀ s call, WellFormed s → WellFormed (step db call s) → I s.pos → ok s call →
      SaleStep db s call (step db call s).pos → I (step db call s).pos) :
    I s.pos := by
  have hboth : WellFormed s ∧ I s.pos := by
    refine Runs.invariant (I := fun s : Store => WellFormed s ∧ I s.pos) h
      ⟨wellFormed_initial c, hinit⟩ ?_
    rintro s call ⟨hs, hI⟩ hok
    have hs' : WellFormed (step db call s) := wellFormed_step hs
    exact ⟨hs', hstep s call hs hs' hI hok (saleStep hs)⟩
  exact hboth.2

/-- The same, where each of the ways keeps it. -/
theorem pos_invariant {I : PosTables → Prop} (h : ReachableBy db ok c s)
    (hinit : I (Store.initial c).pos)
    (hstep : ∀ s call t, WellFormed s → I s.pos → ok s call → SaleStep db s call t → I t) :
    I s.pos :=
  pos_invariant_of_step h hinit fun s call hs _ hI hok hsale => hstep s call _ hs hI hok hsale

/-- A refund keeps its sale, which nothing but a refund has happened to since. -/
def PosTables.RefundsSound (t : PosTables) : Prop :=
  t.saleRefunds.All fun _ r => ∃ sale, t.sales.find? r.saleId = some sale ∧
    (sale.status = .refunded ∨ sale.status = .partiallyRefunded)

/-- A rewrite of one sale that no refund is of. -/
theorem refundsSound_modify (h : s.pos.RefundsSound) {sale : Sale} {f : Sale → Sale}
    (hfind : s.sales.find? saleId = some sale)
    (hstatus : ¬(sale.status = .refunded ∨ sale.status = .partiallyRefunded)) :
    s.saleRefunds.All fun _ r => ∃ sale, (s.sales.modify saleId f).find? r.saleId = some sale ∧
      (sale.status = .refunded ∨ sale.status = .partiallyRefunded) := by
  intro k r hr
  obtain ⟨sale', hfind', hrefunded⟩ := h k r hr
  refine ⟨sale', ?_, hrefunded⟩
  rw [Serial.toTable_modify, Table.find?_modify, if_neg, ← hfind']
  · rfl
  · intro heq
    rw [heq] at hfind'
    obtain rfl := Option.some.inj (hfind.symm.trans hfind')
    exact hstatus hrefunded

/-- Requests keep refunds sound. -/
theorem refundsSound_step {t : PosTables} (hI : s.pos.RefundsSound) (h : SaleStep db s call t) :
    t.RefundsSound := by
  cases h with
  | kept => exact hI
  | opened clock tenantId dto =>
    refine hI.imp fun _ r ⟨sale, hfind, hstatus⟩ => ⟨sale, ?_, hstatus⟩
    exact Serial.find?_create_of_some hfind _
  | sold clock tenantId dto items totals hpasses hread =>
    refine hI.imp fun _ r ⟨sale, hfind, hstatus⟩ => ⟨sale, ?_, hstatus⟩
    exact Serial.find?_create_of_some hfind _
  | written _ cartId cart saleItems hfind hdraft hedit =>
    exact refundsSound_modify hI hfind (by rw [hdraft]; decide)
  | completed clock tenantId saleId payments read totals hpasses hread =>
    obtain ⟨hfind, _, hdraft, _⟩ := readComplete_ok hread
    exact refundsSound_modify hI hfind (by rw [hdraft]; decide)
  | voided clock tenantId saleId read hread =>
    obtain ⟨hfind, _, hstatus, _⟩ := readVoid_ok hread
    exact refundsSound_modify hI hfind (by rw [hstatus]; decide)
  | refunded clock tenantId saleId dto read total hvalid hread =>
    obtain ⟨hfind, _⟩ := readRefund_ok hread
    have hrefunded := refundStatus_refunded read.sale total dto.amount
    have hsale : ((s.sales.modify saleId fun sale =>
        { sale with status := refundStatus read.sale total dto.amount }).toTable.find? saleId) =
        some { read.sale with status := refundStatus read.sale total dto.amount } := by
      rw [Serial.toTable_modify, Table.find?_modify, if_pos rfl, hfind]
      rfl
    refine Serial.All_create (hI.imp fun _ r ⟨sale, hfind', hstatus⟩ => ?_) ⟨_, hsale, hrefunded⟩
    by_cases hr : r.saleId = saleId
    · refine ⟨{ read.sale with status := refundStatus read.sale total dto.amount }, ?_, hrefunded⟩
      rw [hr]
      exact hsale
    · refine ⟨sale, ?_, hstatus⟩
      rw [Serial.toTable_modify, Table.find?_modify, if_neg hr]
      exact hfind'
  | cleaned clock hkept =>
    intro k r hr
    obtain ⟨sale, hfind, hstatus⟩ := hI k r hr
    refine ⟨sale, (Table.find?_deleteWhere _).trans ?_, hstatus⟩
    have hmem := hkept _ (Table.mem_rows_of_find? hr)
    rw [hfind]
    exact Option.filter_some_pos (by simpa using hmem)

theorem refundsSound_of_reachable (h : ReachableBy db ok c s) : s.pos.RefundsSound :=
  pos_invariant h (fun _ _ hr => (by cases hr)) fun _ _ _ _ hI _ => refundsSound_step hI

/-- The sale is there and is not a cart. -/
def PosTables.Settled (t : PosTables) (saleId : Id) : Prop :=
  ∃ sale, t.sales.find? saleId = some sale ∧ sale.status ≠ .draft

/-- Payments are of sales that are not carts. -/
def PosTables.PaymentsSound (t : PosTables) : Prop :=
  t.salePayments.All fun _ p => t.Settled p.saleId

theorem settled_create {k : Id} (h : s.pos.Settled k) (sale : Sale) :
    ({ s.pos with sales := s.sales.create sale } : PosTables).Settled k := by
  obtain ⟨sale', hfind, hstatus⟩ := h
  exact ⟨sale', Serial.find?_create_of_some hfind _, hstatus⟩

theorem settled_modify {k : Id} (h : s.pos.Settled k) {f : Sale → Sale}
    (hf : ∀ sale, (f sale).status = sale.status ∨ (f sale).status ≠ .draft) :
    ({ s.pos with sales := s.sales.modify saleId f } : PosTables).Settled k := by
  obtain ⟨sale, hfind, hstatus⟩ := h
  have hrow : (s.sales.modify saleId f).find? k = if k = saleId then some (f sale) else some sale := by
    rw [Serial.toTable_modify, Table.find?_modify]
    show (if k = saleId then (s.sales.find? k).map f else s.sales.find? k) = _
    rw [show s.sales.find? k = some sale from hfind, Option.map_some]
  by_cases hk : k = saleId
  · refine ⟨f sale, hrow.trans (if_pos hk), ?_⟩
    rcases hf sale with hsame | hother
    · rwa [hsame]
    · exact hother
  · exact ⟨sale, hrow.trans (if_neg hk), hstatus⟩

theorem paymentsSound_without {t : PosTables} (h : t.PaymentsSound) (saleIds : List Id) :
    (t.without saleIds).PaymentsSound := by
  intro k p hp
  obtain ⟨hp, hmem⟩ := Option.filter_eq_some_iff.mp ((Table.find?_deleteWhere _).symm.trans hp)
  obtain ⟨sale, hfind, hstatus⟩ := h k p hp
  refine ⟨sale, (Table.find?_deleteWhere _).trans ?_, hstatus⟩
  rw [hfind]
  exact Option.filter_some_pos hmem

/-- Requests keep payments sound. -/
theorem paymentsSound_step {t : PosTables} (hI : s.pos.PaymentsSound) (h : SaleStep db s call t) :
    t.PaymentsSound := by
  cases h with
  | kept => exact hI
  | opened clock tenantId dto => exact hI.imp fun _ p hp => settled_create hp _
  | written _ cartId cart saleItems hfind hdraft hedit =>
    exact hI.imp fun _ p hp => settled_modify hp fun _ => .inl rfl
  | sold clock tenantId dto items totals hpasses hread =>
    refine Serial.All_foldl_create (P := fun p : SalePayment => PosTables.Settled
      (soldStore db clock tenantId dto items totals s).pos p.saleId) dto.payments
      (hI.imp fun _ p hp => settled_create hp _) fun payment _ => ?_
    exact ⟨_, (Serial.find?_create _).trans (if_pos rfl), nofun⟩
  | completed clock tenantId saleId payments read totals hpasses hread =>
    obtain ⟨hfind, _⟩ := readComplete_ok hread
    have hcompleted : (s.sales.modify saleId (markCompleted db totals)).find? saleId =
        some (markCompleted db totals read.sale) := by
      rw [Serial.toTable_modify, Table.find?_modify, if_pos rfl, hfind]
      rfl
    refine Serial.All_foldl_create (P := fun p : SalePayment => PosTables.Settled
      { s.pos with sales := s.sales.modify saleId (markCompleted db totals) } p.saleId) payments
      (hI.imp fun _ p hp => settled_modify hp fun _ => .inr nofun) fun payment _ => ?_
    exact ⟨_, hcompleted, nofun⟩
  | voided clock tenantId saleId read hread =>
    exact hI.imp fun _ p hp => settled_modify hp fun _ => .inr nofun
  | refunded clock tenantId saleId dto read total hvalid hread =>
    refine hI.imp fun _ p hp => settled_modify hp fun _ => .inr ?_
    rcases refundStatus_refunded read.sale total dto.amount with h | h <;> simp [h]
  | cleaned clock hkept => exact paymentsSound_without hI _

theorem paymentsSound_of_reachable (h : ReachableBy db ok c s) : s.pos.PaymentsSound :=
  pos_invariant h (fun _ _ hp => (by cases hp)) fun _ _ _ _ hI _ => paymentsSound_step hI

end Runs

end Invetrixa
