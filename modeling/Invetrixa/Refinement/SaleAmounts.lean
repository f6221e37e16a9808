import Invetrixa.Refinement.SaleSteps

/-!
# The amounts of sales

The totals of a sale are computed in three places: after each edit of a cart, for a quick sale, and
when a cart is completed. Where the amounts of the requests are such as the columns keep, the totals
agree with the items, and what was paid with the payments, in every store that is reached.

## Main definitions

- `paymentTotal` — what was paid for a sale
- `MoneyKept` — the amounts of a request are such as the columns keep
- `PosTables.MoneySound` — the amounts of sales agree with their items and payments

## Main results

- `cartEdit_lines` — an edit of a cart keeps the law of each line
- `moneySound_step`, `moneySound_of_reachable`
-/

namespace Invetrixa

open Rowstore Requests SaleService CartService RefundService

/-- The column keeps an amount as it is. -/
abbrev Database.Keeps (db : Database) (x : ℚ) : Prop := db.decimal x = x

/-- The columns keep the price and the discount of a line, and numbers compute what it comes to. -/
def Database.Computes (db : Database) (price discount quantity : ℚ) : Prop :=
  db.decimal (db.amount price) = price ∧ db.decimal (db.amount discount) = discount ∧
    db.decimal (db.lineTotal price discount quantity) = (price - discount) * quantity

instance (db : Database) (price discount quantity : ℚ) :
    Decidable (db.Computes price discount quantity) := inferInstanceAs (Decidable (_ ∧ _))

/-- The payments of a sale together. -/
def paymentTotal (saleId : Id) (payments : Serial SalePayment) : ℚ :=
  payments.sum fun _ p => if p.saleId = saleId then p.amount else 0

/-- Prices, discounts and payments of the request are such as the columns keep, and numbers compute
the line of a cart that it writes. -/
def Request.MoneyKept (db : Database) (s : Store) : Request → Prop
  | .createSale tenantId dto =>
      (∀ item ∈ dto.items,
        db.Keeps (processItem db tenantId dto.locationId s item).unitPrice ∧
          db.Keeps (item.discountAmount.getD 0)) ∧
        db.Keeps (dto.discountAmount.getD 0) ∧ ∀ payment ∈ dto.payments, db.Keeps payment.amount
  | .addCartItem tenantId cartId dto => match findExistingItem cartId dto.productId s with
    | some (_, item) =>
      db.Computes item.unitPrice item.discountAmount (item.quantity + dto.quantity)
    | none => ∀ product ∈ loadedProduct tenantId dto.productId s,
      db.Computes (dto.unitPrice.getD (product.minSellingPrice.getD 0))
        (dto.discountAmount.getD 0) dto.quantity
  | .updateCartItem _ _ itemId dto => ∀ item ∈ s.saleItems.find? itemId,
      db.Computes (dto.unitPrice.getD item.unitPrice)
        (dto.discountAmount.getD item.discountAmount) dto.quantity
  | .completeSale _ _ payments => ∀ payment ∈ payments, db.Keeps payment.amount
  | _ => True

instance (db : Database) (s : Store) : DecidablePred (Request.MoneyKept db s) := by
  rintro ⟨⟩
  all_goals dsimp only [Request.MoneyKept]
  case addCartItem tenantId cartId dto =>
    cases findExistingItem cartId dto.productId s <;> dsimp only <;> infer_instance
  all_goals infer_instance

def MoneyKept (db : Database) (s : Store) (call : Call) : Prop := call.request.MoneyKept db s

instance (db : Database) (s : Store) (call : Call) : Decidable (MoneyKept db s call) :=
  inferInstanceAs (Decidable (call.request.MoneyKept db s))

/-- Price and discount of a line are kept, and the line comes to their difference for each piece. -/
structure SaleItem.LineLaw (db : Database) (item : SaleItem) : Prop where
  price : db.Keeps item.unitPrice
  discount : db.Keeps item.discountAmount
  total : item.lineTotal = (item.unitPrice - item.discountAmount) * item.quantity

/-- The totals of a sale agree with its items. -/
structure Sale.Totalled (db : Database) (items : Serial SaleItem) (id : Id) (sale : Sale) :
    Prop where
  subtotal : sale.subtotal = lineTotals id items
  discount : db.Keeps sale.discountAmount
  tax : sale.taxAmount = 0
  total : sale.totalAmount = sale.subtotal - sale.discountAmount + sale.taxAmount

/-- What was paid for a sale is what its payments add up to, and the change what is over. -/
structure Sale.Paid (payments : Serial SalePayment) (id : Id) (sale : Sale) : Prop where
  paid : sale.paidAmount = paymentTotal id payments
  change : sale.changeAmount = sale.paidAmount - sale.totalAmount
  covered : 0 ≤ sale.changeAmount

/-- What holds of the sales: every line and every total follows, and whatever is no cart is paid. -/
structure PosTables.MoneySound (db : Database) (t : PosTables) : Prop where
  lines : t.saleItems.All fun _ i => i.LineLaw db
  totals : t.sales.All fun id sale => sale.Totalled db t.saleItems id
  paid : t.sales.All fun id sale => sale.status ≠ .draft → sale.Paid t.salePayments id

variable {db : Database} {c : Catalogue} {tenantId saleId cartId id : Id} {s s' : Store}
  {call : Call} {t : PosTables} {sale : Sale} {items : Serial SaleItem} {item : SaleItem}

section Sums

theorem lineTotals_eq_sum : lineTotals id items =
    items.sum fun _ i => if i.saleId = id then i.lineTotal else 0 := by
  rw [lineTotals, Table.sum_filter _ fun _ (i : SaleItem) => i.lineTotal]
  simp only [decide_eq_true_eq]

/-- An id that is not in use has no items. -/
theorem itemsOf_next (hs : WellFormed s) : s.itemsOf s.sales.next = [] := by
  refine List.filter_eq_nil_iff.mpr fun r hr heq => ?_
  obtain ⟨sale, hfind, _⟩ := hs.saleItems r.1 r.2 (Table.find?_of_mem_rows hr)
  rw [of_decide_eq_true heq, Serial.find?_next] at hfind
  cases hfind

theorem lineTotals_eq_itemsOf (s : Store) (id : Id) : lineTotals id s.saleItems =
    ((s.itemsOf id).map fun x => x.2.lineTotal).sum := rfl

theorem lineTotals_next (hs : WellFormed s) : lineTotals s.sales.next s.saleItems = 0 := by
  rw [lineTotals_eq_itemsOf, itemsOf_next hs]
  rfl

/-- The items of a sale, by the values of the rows. -/
theorem map_itemsOf (s : Store) (id : Id) : (s.itemsOf id).map Prod.snd =
    (s.saleItems.rows.map Prod.snd).filter fun i => i.saleId = id := by
  rw [List.filter_map]
  rfl

/-- An item that is rewritten changes what the lines of its sale come to. -/
theorem lineTotals_modify {itemId : Id} (hfind : items.find? itemId = some item)
    (hsale : item.saleId = id) {f : SaleItem → SaleItem} (hf : (f item).saleId = item.saleId) :
    lineTotals id (items.modify itemId f) =
      lineTotals id items + ((f item).lineTotal - item.lineTotal) := by
  rw [lineTotals_eq_sum, lineTotals_eq_sum]
  refine (Table.sum_modify hfind f _).trans ?_
  rw [hf, if_pos hsale, if_pos hsale]
  ring

theorem lineTotals_create (hsale : item.saleId = id) :
    lineTotals id (items.create item) = lineTotals id items + item.lineTotal := by
  rw [lineTotals_eq_sum, lineTotals_eq_sum, Serial.sum_create, if_pos hsale]

theorem lineTotals_delete {itemId : Id} (hfind : items.find? itemId = some item)
    (hsale : item.saleId = id) :
    lineTotals id (items.deleteWhere fun k _ => k = itemId) =
      lineTotals id items + -item.lineTotal := by
  rw [lineTotals_eq_sum, lineTotals_eq_sum]
  refine (Table.sum_delete hfind _).trans ?_
  rw [if_pos hsale, sub_eq_add_neg]

/-- Items that are deleted were not of the sale. -/
theorem lineTotals_deleteWhere {p : Id → SaleItem → Bool}
    (h : ∀ k i, items.find? k = some i → p k i = true → i.saleId ≠ id) :
    lineTotals id (items.deleteWhere p) = lineTotals id items := by
  rw [lineTotals_eq_sum, lineTotals_eq_sum]
  exact Table.sum_deleteWhere fun k i hi hp => if_neg (h k i hi hp)

theorem paymentTotal_deleteWhere {payments : Serial SalePayment} {p : Id → SalePayment → Bool}
    (h : ∀ k x, payments.find? k = some x → p k x = true → x.saleId ≠ id) :
    paymentTotal id (payments.deleteWhere p) = paymentTotal id payments :=
  Table.sum_deleteWhere fun k x hx hp => if_neg (h k x hx hp)

/-- The items of a quick sale add their totals to it. -/
theorem lineTotals_createSaleItems (rows : List ProcessedSaleItem) :
    lineTotals id (createSaleItems db saleId rows s).saleItems = lineTotals id s.saleItems +
      if saleId = id then (rows.map fun row => db.decimal row.lineTotal).sum else 0 := by
  rw [lineTotals_eq_sum, lineTotals_eq_sum]
  refine (Serial.sum_foldl_create _ (fun i : SaleItem =>
    if i.saleId = id then i.lineTotal else 0) rows).trans ?_
  congr 1
  by_cases hid : saleId = id
  · simp only [hid, if_true]
  · simp [hid]

/-- The row of an item of a quick sale. -/
def soldItem (db : Database) (saleId : Id) (row : ProcessedSaleItem) : SaleItem where
  saleId := saleId
  productId := row.productId
  quantity := row.quantity
  unitPrice := db.decimal row.unitPrice
  unitCost := db.decimal row.unitCost
  discountAmount := db.decimal row.discountAmount
  lineTotal := db.decimal row.lineTotal

/-- The items of a quick sale are those of the request. -/
theorem itemsOf_sold (hs : WellFormed s) {clock : Clock} {dto : CreateSaleDto}
    {rows : List ProcessedSaleItem} {totals : SaleTotals}
    (hitems : s'.saleItems = (soldStore db clock tenantId dto rows totals s).saleItems) :
    (s'.itemsOf s.sales.next).map Prod.snd = rows.map (soldItem db s.sales.next) := by
  have hcreated : s'.saleItems.rows.map Prod.snd =
      s.saleItems.rows.map Prod.snd ++ rows.map (soldItem db s.sales.next) := by
    rw [hitems]
    exact Serial.map_snd_foldl_create (soldItem db s.sales.next) rows
  have hnew : ((rows.map (soldItem db s.sales.next)).filter fun i => i.saleId = s.sales.next) =
      rows.map (soldItem db s.sales.next) := by
    refine List.filter_eq_self.mpr fun i hi => ?_
    obtain ⟨row, _, rfl⟩ := List.mem_map.mp hi
    exact decide_eq_true rfl
  rw [map_itemsOf, hcreated, List.filter_append, ← map_itemsOf, itemsOf_next hs, hnew]
  rfl

theorem paymentTotal_eq_zero (h : t.PaymentsSound) (hsale : ¬t.Settled id) :
    paymentTotal id t.salePayments = 0 := by
  refine Table.sum_eq_zero fun k p hp => if_neg ?_
  rintro rfl
  exact hsale (h k p hp)

theorem paymentTotal_createPayments (payments : List PaymentDto) :
    paymentTotal id (createPayments db saleId payments s).salePayments =
      paymentTotal id s.salePayments +
      if saleId = id then (payments.map fun payment => db.decimal payment.amount).sum else 0 := by
  refine (Serial.sum_foldl_create _ (fun p : SalePayment =>
    if p.saleId = id then p.amount else 0) payments).trans ?_
  congr 1
  by_cases hid : saleId = id
  · simp only [hid, if_true]
  · simp [hid]

theorem lineTotals_of_filter {items' : Serial SaleItem}
    (h : (items'.rows.filter fun r => r.2.saleId = id) =
      items.rows.filter fun r => r.2.saleId = id) :
    lineTotals id items' = lineTotals id items := by
  rw [lineTotals, h, lineTotals]

theorem Sale.Totalled.congr {items' : Serial SaleItem} (h : sale.Totalled db items id)
    (hlines : lineTotals id items' = lineTotals id items) : sale.Totalled db items' id :=
  ⟨h.subtotal.trans hlines.symm, h.discount, h.tax, h.total⟩

theorem Sale.Paid.congr {payments payments' : Serial SalePayment} (h : sale.Paid payments id)
    (hpaid : paymentTotal id payments' = paymentTotal id payments) : sale.Paid payments' id :=
  ⟨h.paid.trans hpaid.symm, h.change, h.covered⟩

end Sums

section Rows

/-- A settled sale gets another status. -/
theorem moneySound_status (hI : s.pos.MoneySound db) (hfind : s.sales.find? saleId = some sale)
    (hstatus : sale.status ≠ .draft) (status : SaleStatus) (saleRefunds : Serial SaleRefund) :
    ({ s.pos with
      sales := s.sales.modify saleId fun sale => { sale with status }
      saleRefunds } : PosTables).MoneySound db := by
  have htotals := Table.All.modify (k := saleId) (f := fun sale => { sale with status }) hI.totals
    fun _ _ h => ⟨h.subtotal, h.discount, h.tax, h.total⟩
  refine ⟨hI.lines, htotals, Table.All.modify hI.paid fun sale' hsale' h _ => ?_⟩
  obtain rfl := Option.some.inj (hsale'.symm.trans hfind)
  obtain ⟨hpaid, hchange, hcovered⟩ := h hstatus
  exact ⟨hpaid, hchange, hcovered⟩

/-- Abandoned carts are deleted with their items and payments. -/
theorem moneySound_without (hI : t.MoneySound db) (saleIds : List Id) :
    (t.without saleIds).MoneySound db := by
  have hkept {k : Id} {sale : Sale} (hfind : (t.without saleIds).sales.find? k = some sale) :
      t.sales.find? k = some sale ∧ k ∉ saleIds := by
    obtain ⟨hold, hmem⟩ := Option.filter_eq_some_iff.mp
      ((Table.find?_deleteWhere _).symm.trans hfind)
    exact ⟨hold, by simpa using hmem⟩
  refine ⟨hI.lines.deleteWhere _, fun k sale hfind => ?_, fun k sale hfind hstatus => ?_⟩
  · obtain ⟨hold, hmem⟩ := hkept hfind
    refine (hI.totals k sale hold).congr (lineTotals_deleteWhere fun _ i _ hdeleted => ?_)
    rintro rfl
    exact hmem (of_decide_eq_true hdeleted)
  · obtain ⟨hold, hmem⟩ := hkept hfind
    refine (hI.paid k sale hold hstatus).congr (paymentTotal_deleteWhere fun _ p _ hdeleted => ?_)
    rintro rfl
    exact hmem (of_decide_eq_true hdeleted)

end Rows

section Steps

variable (hsub : ∀ x y, db.decimal x = x → db.decimal y = y → db.decimal (x - y) = x - y)

include hsub

/-- The total of a line whose price and discount are kept. -/
theorem decimal_line {price discount : ℚ} (hprice : db.Keeps price) (hdiscount : db.Keeps discount)
    (quantity : ℤ) :
    db.decimal (price * quantity - discount * quantity) = (price - discount) * quantity := by
  rw [sub_mul]
  exact hsub _ _ (decimal_mul_int hsub hprice quantity) (decimal_mul_int hsub hdiscount quantity)

theorem SaleItem.LineLaw.keeps (h : item.LineLaw db) : db.Keeps item.lineTotal := by
  rw [Database.Keeps, h.total]
  exact decimal_mul_int hsub (hsub _ _ h.price h.discount) item.quantity

theorem keeps_lineTotals (h : items.All fun _ i => i.LineLaw db) (id : Id) :
    db.Keeps (lineTotals id items) := by
  refine decimal_sum hsub fun x hx => ?_
  obtain ⟨row, hrow, rfl⟩ := List.mem_map.mp hx
  exact (h row.1 row.2 (Table.find?_of_mem_rows (List.mem_of_mem_filter hrow))).keeps hsub

theorem keeps_totalAmount (h : t.MoneySound db) (hfind : t.sales.find? id = some sale) :
    db.Keeps sale.totalAmount := by
  obtain ⟨hsubtotal, hdiscount, htax, htotal⟩ := h.totals id sale hfind
  rw [Database.Keeps, htotal, htax, add_zero, hsubtotal]
  exact hsub _ _ (keeps_lineTotals hsub h.lines id) hdiscount

omit hsub in
/-- An edit of a cart keeps the law of each line. -/
theorem cartEdit_lines {request : Request} (h : CartEdit db s cartId request items)
    (hlines : s.saleItems.All fun _ i => i.LineLaw db) (hkept : request.MoneyKept db s) :
    items.All fun _ i => i.LineLaw db := by
  cases h with
  | merged tenantId dto itemId item newQty hitem hquantity =>
    obtain ⟨hfind, _⟩ := findExistingItem_eq_some hitem
    have hlaw := hlines itemId item hfind
    refine Table.All.modify hlines fun i hi hlaw' => ?_
    obtain rfl := Option.some.inj (hi.symm.trans hfind)
    simp only [Request.MoneyKept, hitem, hquantity] at hkept
    exact ⟨hlaw.price, hlaw.discount, hkept.2.2⟩
  | added tenantId dto product quantity hproduct hnone hquantity =>
    simp only [Request.MoneyKept, hnone] at hkept
    obtain ⟨hprice, hdiscount, htotal⟩ := hkept product hproduct
    refine Serial.All_create hlines ⟨db.decimal_idem _, db.decimal_idem _, ?_⟩
    dsimp only
    rw [hprice, hdiscount, htotal, hquantity]
  | updated tenantId itemId dto item quantity hitem hsale hquantity =>
    obtain ⟨hprice, hdiscount, htotal⟩ := hkept item hitem
    refine Table.All.modify hlines fun i hi _ => ⟨db.decimal_idem _, db.decimal_idem _, ?_⟩
    dsimp only
    rw [hprice, hdiscount, htotal, hquantity]
  | removed tenantId itemId item hitem hsale => exact hlines.deleteWhere _

/-- The totals of a cart after an edit. -/
theorem moneySound_written {cart : Sale} {request : Request} (hI : s.pos.MoneySound db)
    (hkept : request.MoneyKept db s) (hfind : s.sales.find? cartId = some cart)
    (hdraft : cart.status = .draft) (hedit : CartEdit db s cartId request items) :
    (s.recalculated db cartId cart items).MoneySound db := by
  have hlines := cartEdit_lines hedit hI.lines hkept
  have hkeeps := keeps_lineTotals hsub hlines cartId
  refine ⟨hlines, fun k sale' hsale' => ?_, fun k sale' hsale' => ?_⟩
  · rcases Table.find?_modify_cases hsale' with ⟨hne, hold⟩ | ⟨rfl, sale, hold, rfl⟩
    · exact (hI.totals k sale' hold).congr (lineTotals_of_filter (hedit.cartWritten.others k hne))
    · obtain rfl := Option.some.inj (hold.symm.trans hfind)
      have htotalled := hI.totals k sale hold
      refine ⟨hkeeps, htotalled.discount, htotalled.tax, ?_⟩
      dsimp only
      rw [add_zero, htotalled.tax, add_zero, hkeeps]
      exact hsub _ _ hkeeps htotalled.discount
  · rcases Table.find?_modify_cases hsale' with ⟨_, hold⟩ | ⟨rfl, sale, hold, rfl⟩
    · exact hI.paid k sale' hold
    · obtain rfl := Option.some.inj (hold.symm.trans hfind)
      exact fun hstatus => absurd hdraft hstatus

/-- What a quick sale computes of its lines, where their prices and discounts are kept. -/
theorem processed_line {dto : CreateSaleDto}
    (hlines : ∀ item ∈ dto.items,
      db.Keeps (processItem db tenantId dto.locationId s item).unitPrice ∧
        db.Keeps (item.discountAmount.getD 0)) {row : ProcessedSaleItem}
    (hrow : row ∈ dto.items.map (processItem db tenantId dto.locationId s)) :
    db.Keeps row.unitPrice ∧ db.Keeps row.discountAmount ∧
      db.decimal row.lineTotal = (row.unitPrice - row.discountAmount) * row.quantity ∧
      db.Keeps row.lineTotal := by
  obtain ⟨item, hitem, rfl⟩ := List.mem_map.mp hrow
  obtain ⟨hprice, hdiscount⟩ := hlines item hitem
  have hline := decimal_line hsub hprice hdiscount item.quantity.floor
  refine ⟨hprice, hdiscount, hline, hline.trans ?_⟩
  exact sub_mul _ _ _

/-- A quick sale, with the totals of its lines and what was paid. -/
theorem moneySound_sold (hs : WellFormed s) (hpayments : s.pos.PaymentsSound)
    (hI : s.pos.MoneySound db) {clock : Clock} {dto : CreateSaleDto}
    {rows : List ProcessedSaleItem} {totals : SaleTotals}
    (hkept : (Request.createSale tenantId dto).MoneyKept db s)
    (hread : readCreate db tenantId dto s = .ok (rows, totals)) :
    (soldStore db clock tenantId dto rows totals s).pos.MoneySound db := by
  obtain ⟨rfl, rfl, hcovered, _⟩ := readCreateSale_ok hread
  obtain ⟨hlines, hdiscount, hpaid⟩ := hkept
  generalize hrows : dto.items.map (processItem db tenantId dto.locationId s) = rows at hcovered ⊢
  have hrow : ∀ row ∈ rows, db.Keeps row.unitPrice ∧ db.Keeps row.discountAmount ∧
      db.decimal row.lineTotal = (row.unitPrice - row.discountAmount) * row.quantity ∧
      db.Keeps row.lineTotal := fun row hmem => processed_line hsub hlines (hrows ▸ hmem)
  have hsubtotal : db.Keeps (rows.map ProcessedSaleItem.lineTotal).sum := by
    refine decimal_sum hsub fun x hx => ?_
    obtain ⟨row, hmem, rfl⟩ := List.mem_map.mp hx
    exact (hrow row hmem).2.2.2
  have hpaidSum : db.Keeps (dto.payments.map PaymentDto.amount).sum := by
    refine decimal_sum hsub fun x hx => ?_
    obtain ⟨payment, hmem, rfl⟩ := List.mem_map.mp hx
    exact hpaid payment hmem
  -- the items and payments of the new sale belong to no sale that there was
  have hnext (k : Id) (sale : Sale) (hfind : s.sales.find? k = some sale) : s.sales.next ≠ k := by
    rintro rfl
    rw [Serial.find?_next] at hfind
    cases hfind
  have htotal := hsub _ _ hsubtotal hdiscount
  refine ⟨?_, fun k sale' hsale' => ?_, fun k sale' hsale' => ?_⟩
  · refine Serial.All_foldl_create (P := SaleItem.LineLaw db) rows hI.lines fun row hmem => ?_
    obtain ⟨hprice, hdisc, hline, _⟩ := hrow row hmem
    refine ⟨db.decimal_idem _, db.decimal_idem _, ?_⟩
    rw [hprice, hdisc]
    exact hline
  · rcases Serial.find?_create_cases hsale' with hold | ⟨rfl, rfl⟩
    · refine (hI.totals k sale' hold).congr ((lineTotals_createSaleItems (s := s) rows).trans ?_)
      rw [if_neg (hnext k sale' hold), add_zero]
      rfl
    · refine ⟨?_, db.decimal_idem _, decimal_zero hsub, ?_⟩
      · refine Eq.trans ?_ (lineTotals_createSaleItems (s := s) rows).symm
        rw [if_pos rfl, lineTotals_next hs, zero_add]
        exact hsubtotal.trans (congrArg List.sum
          (List.map_congr_left fun row hmem => (hrow row hmem).2.2.2.symm))
      · simp only [newSale, calculateTotals, add_zero]
        rw [htotal, hsubtotal, hdiscount, decimal_zero hsub, add_zero]
  · rcases Serial.find?_create_cases hsale' with hold | ⟨rfl, rfl⟩
    · intro hstatus
      refine (hI.paid k sale' hold hstatus).congr ((paymentTotal_createPayments _).trans ?_)
      rw [if_neg (hnext k sale' hold), add_zero]
      rfl
    · intro _
      have hnone : paymentTotal s.sales.next s.salePayments = 0 :=
        paymentTotal_eq_zero hpayments fun ⟨sale, hfind, _⟩ => hnext _ sale hfind rfl
      refine ⟨?_, ?_, ?_⟩
      · refine Eq.trans ?_ (paymentTotal_createPayments (s := s) dto.payments).symm
        rw [if_pos rfl, hnone, zero_add]
        exact hpaidSum.trans (congrArg List.sum
          (List.map_congr_left fun payment hmem => (hpaid payment hmem).symm))
      · simp only [newSale, calculateTotals, add_zero]
        rw [hsub _ _ hpaidSum htotal, hpaidSum, htotal]
      · simp only [newSale, calculateTotals, add_zero] at hcovered ⊢
        rw [hsub _ _ hpaidSum htotal]
        exact sub_nonneg.mpr hcovered

/-- A cart that is completed is paid by the payments of the request. -/
theorem moneySound_completed (hpayments : s.pos.PaymentsSound) (hI : s.pos.MoneySound db)
    {payments : List PaymentDto} {read : SaleWithItems} {totals : SaleTotals}
    (hkept : ∀ payment ∈ payments, db.Keeps payment.amount)
    (hread : readComplete tenantId saleId payments s = .ok (read, totals)) :
    ({ s.pos with
      sales := s.sales.modify saleId (markCompleted db totals)
      salePayments := (createPayments db saleId payments s).salePayments } :
      PosTables).MoneySound db := by
  obtain ⟨hfind, _, hdraft, hitems, _, rfl, hcovered⟩ := readComplete_ok hread
  have htotalled : read.sale.Totalled db s.saleItems saleId := hI.totals saleId read.sale hfind
  -- The completion adds up the items again, and comes to the total of the cart.
  have htotal : (calculateCompletionTotals read.sale (aggregateSaleItems read.items).1
      payments).totalAmount = read.sale.totalAmount := by
    rw [hitems, htotalled.total, htotalled.subtotal]
    rfl
  have hkeepsTotal : db.Keeps read.sale.totalAmount := keeps_totalAmount hsub hI hfind
  have hpaidSum : db.Keeps (payments.map PaymentDto.amount).sum := by
    refine decimal_sum hsub fun x hx => ?_
    obtain ⟨payment, hmem, rfl⟩ := List.mem_map.mp hx
    exact hkept payment hmem
  rw [htotal] at hcovered
  have hchange : db.decimal (calculateCompletionTotals read.sale
      (aggregateSaleItems read.items).1 payments).changeAmount =
      (payments.map PaymentDto.amount).sum - read.sale.totalAmount := by
    have hover : PaymentService.calculateChange read.sale.totalAmount
        (payments.map PaymentDto.amount).sum =
        (payments.map PaymentDto.amount).sum - read.sale.totalAmount := by
      unfold PaymentService.calculateChange
      split
      · rfl
      · next hle => exact (sub_eq_zero.mpr (le_antisymm (not_lt.mp hle) hcovered)).symm
    rw [← hsub _ _ hpaidSum hkeepsTotal, ← hover, ← htotal]
    rfl
  refine ⟨hI.lines, fun k sale' hsale' => ?_, fun k sale' hsale' => ?_⟩
  · rcases Table.find?_modify_cases hsale' with ⟨_, hold⟩ | ⟨rfl, sale, hold, rfl⟩
    · exact hI.totals k sale' hold
    · have h := hI.totals k sale hold
      exact ⟨h.subtotal, h.discount, h.tax, h.total⟩
  · rcases Table.find?_modify_cases hsale' with ⟨hne, hold⟩ | ⟨rfl, sale, hold, rfl⟩
    · intro hstatus
      refine (hI.paid k sale' hold hstatus).congr ((paymentTotal_createPayments _).trans ?_)
      rw [if_neg hne.symm, add_zero]
      rfl
    · intro _
      obtain rfl := Option.some.inj (hold.symm.trans hfind)
      have hnone : paymentTotal k s.salePayments = 0 := by
        refine paymentTotal_eq_zero hpayments fun ⟨sale, hsale, hstatus⟩ => hstatus ?_
        rw [← Option.some.inj (hold.symm.trans hsale), hdraft]
      refine ⟨?_, ?_, ?_⟩
      · refine Eq.trans ?_ (paymentTotal_createPayments (s := s) payments).symm
        rw [if_pos rfl, hnone, zero_add]
        exact hpaidSum.trans (congrArg List.sum
          (List.map_congr_left fun payment hmem => (hkept payment hmem).symm))
      · exact hchange.trans (congrArg (· - read.sale.totalAmount) hpaidSum.symm)
      · exact (sub_nonneg.mpr hcovered).trans_eq hchange.symm

/-- Requests keep the law of lines, totals and payments. -/
theorem moneySound_step (hs : WellFormed s) (hpayments : s.pos.PaymentsSound)
    (hI : s.pos.MoneySound db) (hkept : MoneyKept db s call) (h : SaleStep db s call t) :
    t.MoneySound db := by
  cases h with
  | kept => exact hI
  | opened clock tenantId dto =>
    refine ⟨hI.lines, Serial.All_create hI.totals ?_,
      Serial.All_create hI.paid fun hstatus => absurd rfl hstatus⟩
    exact ⟨(lineTotals_next hs).symm, decimal_zero hsub, rfl, by norm_num [newCart]⟩
  | written _ cartId cart saleItems hfind hdraft hedit =>
    exact moneySound_written hsub hI hkept hfind hdraft hedit
  | sold clock tenantId dto rows totals hpasses hread =>
    exact moneySound_sold hsub hs hpayments hI hkept hread
  | completed clock tenantId saleId payments read totals hpasses hread =>
    exact moneySound_completed hsub hpayments hI hkept hread
  | voided clock tenantId saleId read hread =>
    obtain ⟨hfind, _, hstatus, _⟩ := readVoid_ok hread
    exact moneySound_status hI hfind (by rw [hstatus]; decide) _ _
  | refunded clock tenantId saleId dto read total hvalid hread =>
    obtain ⟨hfind, _, hstatus, _⟩ := readRefund_ok hread
    exact moneySound_status hI hfind (by rcases hstatus with h | h <;> rw [h] <;> decide) _ _
  | cleaned clock hrefunds => exact moneySound_without hI _

/-- In every run in which the amounts are kept, the sales are sound. -/
theorem moneySound_of_reachable (h : ReachableBy db (MoneyKept db) c s) : s.pos.MoneySound db := by
  have hboth : s.pos.PaymentsSound ∧ s.pos.MoneySound db := by
    refine pos_invariant (I := fun t => t.PaymentsSound ∧ t.MoneySound db) h ?_ ?_
    · exact ⟨fun _ _ hfind => (by cases hfind), fun _ _ hfind => (by cases hfind),
        fun _ _ hfind => (by cases hfind), fun _ _ hfind => (by cases hfind)⟩
    · rintro s call t hs ⟨hpayments, hI⟩ hkept hstep
      exact ⟨paymentsSound_step hpayments hstep, moneySound_step hsub hs hpayments hI hkept hstep⟩
  exact hboth.2

end Steps

end Invetrixa
