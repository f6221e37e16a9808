import Invetrixa.Correctness.MoneyLaw

/-!
# Negative amounts

Discounts are at least zero, but nothing compares them with the price of their line or with the
subtotal. In every run in which no discount exceeds what it is taken off, no line and no total is
negative and no more change is given than was paid. A quick sale whose discount exceeds its price
has the till pay out money.

## Main definitions

- `FairlyPriced` — no discount of the request exceeds what it is taken off
- `Request.WithinPrices` — the same of the items that a request sells
- `Sale.Nonneg` — line totals, total and what the till keeps are at least zero

## Main results

- `fairLines_edit`, `fair_step` — what requests keep
- `sale_amounts_nonneg`, `till_pays_out`
-/

namespace Invetrixa

open Rowstore Requests SaleService CartService RefundService

/-- No discount of a quick sale exceeds what it is taken off: the price of a line of which something
is sold, or the subtotal. -/
def CreateSaleDto.FairlyPriced (db : Database) (tenantId : Id) (dto : CreateSaleDto) (s : Store) :
    Prop :=
  (∀ row ∈ dto.items.map (processItem db tenantId dto.locationId s),
    0 < row.quantity → row.discountAmount ≤ row.unitPrice) ∧
  dto.discountAmount.getD 0 ≤ ((dto.items.map (processItem db tenantId dto.locationId s)).map
    fun row : ProcessedSaleItem => (row.unitPrice - row.discountAmount) * row.quantity).sum

instance (db : Database) (tenantId : Id) (dto : CreateSaleDto) (s : Store) :
    Decidable (CreateSaleDto.FairlyPriced db tenantId dto s) := inferInstanceAs (Decidable (_ ∧ _))

/-- No discount of the request exceeds what it is taken off. -/
def Request.FairlyPriced (db : Database) (s : Store) : Request → Prop
  | .createSale tenantId dto => CreateSaleDto.FairlyPriced db tenantId dto s
  | .addCartItem tenantId cartId dto => findExistingItem cartId dto.productId s = none →
      ∀ product ∈ loadedProduct tenantId dto.productId s,
        dto.discountAmount.getD 0 ≤ dto.unitPrice.getD (product.minSellingPrice.getD 0)
  | .updateCartItem _ _ itemId dto => ∀ item ∈ s.saleItems.find? itemId,
      dto.discountAmount.getD item.discountAmount ≤ dto.unitPrice.getD item.unitPrice
  | _ => True

instance (db : Database) (s : Store) : DecidablePred (Request.FairlyPriced db s) := by
  rintro ⟨⟩
  all_goals dsimp only [Request.FairlyPriced]; infer_instance

def FairlyPriced (db : Database) (s : Store) (call : Call) : Prop := call.request.FairlyPriced db s

instance (db : Database) (s : Store) (call : Call) : Decidable (FairlyPriced db s call) :=
  inferInstanceAs (Decidable (call.request.FairlyPriced db s))

/-- No item that the request sells has a discount above its price, nor the sale one above its
subtotal. -/
def Request.WithinPrices (db : Database) (s : Store) : Request → Prop
  | .createSale tenantId dto => CreateSaleDto.FairlyPriced db tenantId dto s
  | .completeSale _ saleId _ => ∀ x ∈ s.itemsOf saleId, x.2.discountAmount ≤ x.2.unitPrice
  | _ => True

/-- No line of the sale comes to less than zero, nor does the sale, and no more change is given than
was paid. -/
structure Sale.Nonneg (t : PosTables) (id : Id) (sale : Sale) : Prop where
  lines : ∀ k i, t.saleItems.find? k = some i → i.saleId = id → 0 ≤ i.lineTotal
  total : 0 ≤ sale.totalAmount
  change : sale.changeAmount ≤ sale.paidAmount

/-- A line is not negative, and has no discount above its price if anything of it is sold. -/
structure SaleItem.Fair (item : SaleItem) : Prop where
  total : 0 ≤ item.lineTotal
  discount : 0 < item.quantity → item.discountAmount ≤ item.unitPrice

/-- A total is not negative, and a sale that is no cart keeps something of what was paid. -/
structure Sale.Fair (sale : Sale) : Prop where
  total : 0 ≤ sale.totalAmount
  change : sale.status ≠ .draft → sale.changeAmount ≤ sale.paidAmount

/-- Every line and every sale is fair. -/
structure PosTables.Fair (t : PosTables) : Prop where
  lines : t.saleItems.All fun _ i => i.Fair
  sales : t.sales.All fun _ sale => sale.Fair

/-- A cart has no discount and no tax of its own. -/
def PosTables.CartsPlain (t : PosTables) : Prop := t.sales.All fun _ sale =>
  sale.status = .draft → sale.discountAmount = 0 ∧ sale.taxAmount = 0

variable {db : Database} {c : Catalogue} {tenantId cartId saleId : Id} {s s' : Store} {call : Call}
  {t : PosTables} {sale : Sale} {items : Serial SaleItem} {item : SaleItem}

/-- Carts get their discount when they are opened, and none then. -/
theorem cartsPlain_step (hI : s.pos.CartsPlain) (h : SaleStep db s call t) : t.CartsPlain := by
  intro k sale hfind hstatus
  cases h.row hfind with
  | opened clock tenantId dto hcall hid hrow =>
    rw [hrow]
    exact ⟨rfl, rfl⟩
  | sold clock tenantId dto totals hcall hpasses hid hrow =>
    rw [hrow] at hstatus
    cases hstatus
  | kept before hbefore hheader hsame =>
    obtain ⟨hdiscount, htax⟩ := hI k before hbefore (hsame ▸ hstatus)
    have hdiscount' := congrArg Sale.discountAmount hheader
    have htax' := congrArg Sale.taxAmount hheader
    exact ⟨hdiscount'.trans hdiscount, htax'.trans htax⟩
  | completed clock tenantId payments before hcall hpasses hbefore hdraft hheader hcompleted =>
    rw [hcompleted] at hstatus
    cases hstatus
  | settled before hbefore hheader hnot hafter => exact absurd hstatus hafter.1

theorem cartsPlain_of_reachable {ok : Store → Call → Prop} (h : ReachableBy db ok c s) :
    s.pos.CartsPlain :=
  pos_invariant h (fun _ _ hfind => (by cases hfind)) fun _ _ _ _ hI _ => cartsPlain_step hI

section Steps

variable (hdecimal : Monotone db.decimal) (hzero : db.decimal 0 = 0)

include hdecimal hzero

theorem decimal_nonneg {x : ℚ} (hx : 0 ≤ x) : 0 ≤ db.decimal x := by
  rw [← hzero]
  exact hdecimal hx

/-- A line of a quick sale without excessive discount is fair. -/
theorem fair_soldLine {price discount : ℚ} {quantity : ℤ} (hquantity : 0 ≤ quantity)
    (hfair : 0 < quantity → discount ≤ price) :
    0 ≤ db.decimal (price * quantity - discount * quantity) := by
  refine decimal_nonneg hdecimal hzero ?_
  rw [← sub_mul]
  rcases hquantity.eq_or_lt with hnone | hsome
  · rw [← hnone, Int.cast_zero, mul_zero]
  · exact mul_nonneg (sub_nonneg.mpr (hfair hsome)) (Int.cast_nonneg hquantity)

/-- A line of a cart without excessive discount is fair. -/
theorem fair_line {price discount : ℚ} {quantity : ℤ} (hquantity : 0 ≤ quantity)
    (hfair : 0 < quantity → discount ≤ price) :
    0 ≤ db.decimal (db.lineTotal price discount quantity) := by
  refine decimal_nonneg hdecimal hzero ?_
  rcases hquantity.eq_or_lt with hnone | hsome
  · rw [← hnone, Int.cast_zero, db.lineTotal_zero]
  · exact db.lineTotal_nonneg (Int.cast_nonneg hquantity) (hfair hsome)

/-- An edit of a cart keeps lines fair. -/
theorem fairLines_edit {request : Request} (h : CartEdit db s cartId request items)
    (hlines : s.saleItems.All fun _ i => i.Fair) (hok : request.FairlyPriced db s)
    (hbefore : s.saleItems.All fun _ i => i.saleId = cartId → 0 < i.quantity)
    (hafter : items.All fun _ i => 0 ≤ i.quantity) : items.All fun _ i => i.Fair := by
  cases h with
  | merged tenantId dto itemId item newQty hitem hquantity =>
    obtain ⟨hfind, hsale⟩ := findExistingItem_eq_some hitem
    have hdiscount := (hlines itemId item hfind).discount (hbefore itemId item hfind hsale)
    have hnewQty : 0 ≤ newQty := hafter itemId _ (Serial.find?_modify_of_some hfind _)
    refine Table.All.modify hlines fun i hi _ => ?_
    obtain rfl := Option.some.inj (hi.symm.trans hfind)
    exact ⟨fair_line hdecimal hzero hnewQty fun _ => hdiscount, fun _ => hdiscount⟩
  | added tenantId dto product quantity hproduct hnone hquantity =>
    have hdiscount := hok hnone product hproduct
    have hnewQty : 0 ≤ quantity := hafter _ _ ((Serial.find?_create _).trans (if_pos rfl))
    refine Serial.All_create hlines ⟨?_, fun _ => hdecimal (db.amount_mono hdiscount)⟩
    rw [hquantity]
    exact fair_line hdecimal hzero hnewQty fun _ => hdiscount
  | updated tenantId itemId dto item quantity hitem hsale hquantity =>
    have hdiscount := hok item hitem
    have hnewQty : 0 ≤ quantity := hafter itemId _ (Serial.find?_modify_of_some hitem _)
    refine Table.All.modify hlines fun i hi _ => ⟨?_, fun _ => hdecimal (db.amount_mono hdiscount)⟩
    dsimp only
    rw [hquantity]
    exact fair_line hdecimal hzero hnewQty fun _ => hdiscount
  | removed tenantId itemId item hitem hsale => exact hlines.deleteWhere _

omit hdecimal hzero in
theorem lineTotals_nonneg (h : items.All fun _ i => i.Fair) (id : Id) : 0 ≤ lineTotals id items := by
  rw [lineTotals_eq_sum]
  refine Table.sum_nonneg fun k i hi => ?_
  split
  · exact (h k i hi).total
  · exact le_refl 0

/-- An edit of a cart keeps lines and total fair. -/
theorem fair_written {cart : Sale} {request : Request} (hI : s.pos.Fair)
    (hok : request.FairlyPriced db s) (hs : WellFormed s) (hplain : s.pos.CartsPlain)
    (hafter : items.All fun _ i => 0 ≤ i.quantity) (hfind : s.sales.find? cartId = some cart)
    (hdraft : cart.status = .draft) (hedit : CartEdit db s cartId request items) :
    (s.recalculated db cartId cart items).Fair := by
  have hbefore : s.saleItems.All fun _ i => i.saleId = cartId → 0 < i.quantity := by
    rintro k i hi rfl
    obtain ⟨sale, hsale, _, _, hpos, _⟩ := hs.saleItems k i hi
    obtain rfl := Option.some.inj (hsale.symm.trans hfind)
    exact hpos hdraft
  have hlines := fairLines_edit hdecimal hzero hedit hI.lines hok hbefore hafter
  refine ⟨hlines, Table.All.modify hI.sales fun sale hsale _ => ⟨?_, fun hstatus => ?_⟩⟩
  · obtain ⟨hdiscount, _⟩ := hplain cartId cart hfind hdraft
    refine decimal_nonneg hdecimal hzero ?_
    rw [hdiscount, sub_zero, add_zero]
    exact lineTotals_nonneg hlines cartId
  · obtain rfl := Option.some.inj (hsale.symm.trans hfind)
    exact absurd hdraft hstatus

/-- A quick sale without excessive discounts is fair. -/
theorem fair_sold (hI : s.pos.Fair) {clock : Clock} {dto : CreateSaleDto}
    {rows : List ProcessedSaleItem} {totals : SaleTotals} (hvalid : CreateSaleDto.Valid dto)
    (hok : CreateSaleDto.FairlyPriced db tenantId dto s)
    (hread : readCreate db tenantId dto s = .ok (rows, totals)) :
    (soldStore db clock tenantId dto rows totals s).pos.Fair := by
  obtain ⟨rfl, rfl, hcovered, _⟩ := readCreateSale_ok hread
  obtain ⟨hlines, hoverall⟩ := hok
  have htotal : 0 ≤ (calculateTotals (dto.items.map (processItem db tenantId dto.locationId s))
      dto.discountAmount dto.payments).totalAmount := by
    have hsubtotal : ((dto.items.map (processItem db tenantId dto.locationId s)).map
        ProcessedSaleItem.lineTotal) =
        (dto.items.map (processItem db tenantId dto.locationId s)).map
          fun row : ProcessedSaleItem => (row.unitPrice - row.discountAmount) * row.quantity := by
      refine List.map_congr_left fun row hrow => ?_
      obtain ⟨item, _, rfl⟩ := List.mem_map.mp hrow
      exact (sub_mul _ _ _).symm
    dsimp only [calculateTotals]
    rw [hsubtotal, add_zero]
    exact sub_nonneg.mpr hoverall
  refine ⟨?_, Serial.All_create hI.sales ⟨decimal_nonneg hdecimal hzero htotal, fun _ => ?_⟩⟩
  · refine Serial.All_foldl_create (P := SaleItem.Fair) _ hI.lines fun row hrow => ?_
    have hfair := hlines row hrow
    obtain ⟨item, hitem, rfl⟩ := List.mem_map.mp hrow
    have hquantity : 0 ≤ item.quantity.floor :=
      Int.floor_nonneg.mpr (le_trans (by norm_num) (hvalid.1 item hitem).1)
    exact ⟨fair_soldLine hdecimal hzero hquantity hfair, fun hsome => hdecimal (hfair hsome)⟩
  · exact hdecimal (sub_le_self _ htotal)

omit hzero in
/-- The completion of a fair cart is fair. -/
theorem fair_completed (hI : s.pos.Fair) (hplain : s.pos.CartsPlain) {payments : List PaymentDto}
    {read : SaleWithItems} {totals : SaleTotals}
    (hread : readComplete tenantId saleId payments s = .ok (read, totals))
    (salePayments : Serial SalePayment) :
    ({ s.pos with
      sales := s.sales.modify saleId (markCompleted db totals)
      salePayments } : PosTables).Fair := by
  obtain ⟨hfind, _, hdraft, hitems, _, rfl, hcovered⟩ := readComplete_ok hread
  obtain ⟨hdiscount, htax⟩ := hplain saleId read.sale hfind hdraft
  have htotal : 0 ≤ (calculateCompletionTotals read.sale (aggregateSaleItems read.items).1
      payments).totalAmount := by
    dsimp only [calculateCompletionTotals]
    rw [hdiscount, htax, sub_zero, add_zero, hitems]
    exact lineTotals_nonneg hI.lines saleId
  refine ⟨hI.lines, Table.All.modify hI.sales fun sale _ hfair => ⟨hfair.total, fun _ => ?_⟩⟩
  exact hdecimal (change_le_paid htotal hcovered)

/-- Requests without excessive discounts keep lines and sales fair. -/
theorem fair_step (hs : WellFormed s) (hafter : t.saleItems.All fun _ i => 0 ≤ i.quantity)
    (hplain : s.pos.CartsPlain) (hI : s.pos.Fair) (hok : FairlyPriced db s call)
    (h : SaleStep db s call t) : t.Fair := by
  cases h with
  | kept => exact hI
  | opened clock tenantId dto =>
    exact ⟨hI.lines, Serial.All_create hI.sales ⟨le_refl 0, fun hstatus => absurd rfl hstatus⟩⟩
  | written _ cartId cart saleItems hfind hdraft hedit =>
    exact fair_written hdecimal hzero hI hok hs hplain hafter hfind hdraft hedit
  | sold clock tenantId dto rows totals hpasses hread =>
    exact fair_sold hdecimal hzero hI hpasses.1 hok hread
  | completed clock tenantId saleId payments read totals hpasses hread =>
    exact fair_completed hdecimal hI hplain hread _
  | voided clock tenantId saleId read hread =>
    obtain ⟨hfind, _, hstatus, _⟩ := readVoid_ok hread
    refine ⟨hI.lines, Table.All.modify hI.sales fun sale hsale hfair => ⟨hfair.total, fun _ => ?_⟩⟩
    obtain rfl := Option.some.inj (hsale.symm.trans hfind)
    exact hfair.change (by rw [hstatus]; decide)
  | refunded clock tenantId saleId dto read total hvalid hread =>
    obtain ⟨hfind, _, hstatus, _⟩ := readRefund_ok hread
    refine ⟨hI.lines, Table.All.modify hI.sales fun sale hsale hfair => ⟨hfair.total, fun _ => ?_⟩⟩
    obtain rfl := Option.some.inj (hsale.symm.trans hfind)
    exact hfair.change (by rcases hstatus with h | h <;> rw [h] <;> decide)
  | cleaned clock hrefunds => exact ⟨hI.lines.deleteWhere _, hI.sales.deleteWhere _⟩

/-- In every run without excessive discounts, lines and sales are fair. -/
theorem fair_of_reachable (h : ReachableBy db (FairlyPriced db) c s) : s.pos.Fair := by
  have hboth : s.pos.CartsPlain ∧ s.pos.Fair := by
    refine pos_invariant_of_step (I := fun t => t.CartsPlain ∧ t.Fair) h ?_ ?_
    · exact ⟨fun _ _ hfind => (by cases hfind), fun _ _ hfind => (by cases hfind),
        fun _ _ hfind => (by cases hfind)⟩
    · rintro s call hs hs' ⟨hplain, hI⟩ hok hstep
      refine ⟨cartsPlain_step hplain hstep, ?_⟩
      refine fair_step hdecimal hzero hs (fun k i hi => ?_) hplain hI hok hstep
      obtain ⟨sale, _, _, hquantity, _⟩ := hs'.saleItems k i hi
      exact hquantity
  exact hboth.2

end Steps

section Kept

/-- Where the law of lines and totals holds, only lines and total matter. -/
theorem nonneg_iff (hsound : s.pos.MoneySound db) (hfind : s.sales.find? saleId = some sale)
    (hstatus : sale.status ≠ .draft) : sale.Nonneg s.pos saleId ↔
      (∀ x ∈ s.itemsOf saleId, 0 ≤ x.2.lineTotal) ∧ 0 ≤ sale.totalAmount := by
  obtain ⟨_, hchange, _⟩ := hsound.paid saleId sale hfind hstatus
  have hkeeps : sale.changeAmount ≤ sale.paidAmount ↔ 0 ≤ sale.totalAmount := by
    rw [hchange]
    exact sub_le_self_iff _
  constructor
  · rintro ⟨hlines, htotal, _⟩
    refine ⟨fun x hx => ?_, htotal⟩
    obtain ⟨hitem, hsale⟩ := mem_itemsOf hx
    exact hlines x.1 x.2 hitem hsale
  · rintro ⟨hlines, htotal⟩
    refine ⟨fun k i hi hsale => ?_, htotal, hkeeps.mpr htotal⟩
    exact hlines (k, i) (List.mem_filter.mpr ⟨Table.mem_rows_of_find? hi, decide_eq_true hsale⟩)

theorem line_nonneg_iff {price discount : ℚ} {quantity : ℤ} (hquantity : 0 ≤ quantity) :
    0 ≤ (price - discount) * quantity ↔ (0 < quantity → discount ≤ price) := by
  rcases hquantity.eq_or_lt with hnone | hsome
  · simp [← hnone]
  · rw [mul_nonneg_iff_of_pos_right (Int.cast_pos.mpr hsome), sub_nonneg]
    exact ⟨fun h _ => h, fun h => h hsome⟩

/-- A quick sale with kept amounts is negative nowhere exactly when no discount is excessive. -/
theorem sold_nonneg_iff
    (hsub : ∀ x y, db.decimal x = x → db.decimal y = y → db.decimal (x - y) = x - y)
    (hs : WellFormed s) {clock : Clock} {dto : CreateSaleDto}
    (hkept : (Request.createSale tenantId dto).MoneyKept db s)
    (hsound : (step db ⟨clock, .createSale tenantId dto⟩ s).pos.MoneySound db)
    (h : Accepted db s ⟨clock, .createSale tenantId dto⟩)
    (hfind : (step db ⟨clock, .createSale tenantId dto⟩ s).sales.find? s.sales.next = some sale) :
    sale.Nonneg (step db ⟨clock, .createSale tenantId dto⟩ s).pos s.sales.next ↔
      CreateSaleDto.FairlyPriced db tenantId dto s := by
  obtain ⟨hvalid, _⟩ := passes_of_accepted h
  obtain ⟨rows, totals, hread, hpos⟩ := pos_of_accepted_createSale h
  generalize step db ⟨clock, .createSale tenantId dto⟩ s = s' at hsound hfind hpos ⊢
  obtain ⟨hrows, rfl, _⟩ := readCreateSale_ok hread
  obtain ⟨hkeeps, hdiscount, _⟩ := hkept
  have hitems := itemsOf_sold hs (congrArg PosTables.saleItems hpos)
  have hsale : newSale db clock tenantId (generateSaleNumber clock tenantId s) dto
      (calculateTotals rows dto.discountAmount dto.payments) = sale := by
    have hnew : (s.sales.create (newSale db clock tenantId (generateSaleNumber clock tenantId s) dto
        (calculateTotals rows dto.discountAmount dto.payments))).find? s.sales.next = some sale :=
      (congrArg (fun t : Serial Sale => t.find? s.sales.next)
        (congrArg PosTables.sales hpos)).symm.trans hfind
    rwa [Serial.find?_create, if_pos rfl, Option.some_inj] at hnew
  -- what the database keeps of a line is what was calculated
  have hline (row : ProcessedSaleItem) (hrow : row ∈ rows) : 0 ≤ row.quantity ∧
      (soldItem db s.sales.next row).lineTotal =
        (row.unitPrice - row.discountAmount) * row.quantity := by
    rw [hrows] at hrow
    obtain ⟨_, _, hline, _⟩ := processed_line hsub hkeeps hrow
    obtain ⟨item, hitem, rfl⟩ := List.mem_map.mp hrow
    exact ⟨Int.floor_nonneg.mpr (le_trans (by norm_num) (hvalid.1 item hitem).1), hline⟩
  have htotal : sale.totalAmount =
      (rows.map fun row : ProcessedSaleItem =>
        (row.unitPrice - row.discountAmount) * row.quantity).sum -
        dto.discountAmount.getD 0 := by
    obtain ⟨hsubtotal, _, htax, htotal⟩ := hsound.totals s.sales.next sale hfind
    have hlines : lineTotals s.sales.next s'.saleItems =
        (rows.map fun row : ProcessedSaleItem =>
          (row.unitPrice - row.discountAmount) * row.quantity).sum := by
      have hvalues : lineTotals s.sales.next s'.saleItems =
          (((s'.itemsOf s.sales.next).map Prod.snd).map SaleItem.lineTotal).sum := by
        rw [List.map_map]
        rfl
      rw [hvalues, hitems, List.map_map]
      exact congrArg List.sum (List.map_congr_left fun row hrow => (hline row hrow).2)
    have hoverall : sale.discountAmount = dto.discountAmount.getD 0 := by
      rw [← hsale]
      exact hdiscount
    rw [htotal, htax, hsubtotal.trans hlines, hoverall, add_zero]
  -- a sale is not sold as a draft
  have hstatus : sale.status ≠ .draft := by
    rw [← hsale]
    exact nofun
  rw [nonneg_iff hsound hfind hstatus, htotal, sub_nonneg, CreateSaleDto.FairlyPriced, ← hrows]
  refine and_congr_left fun _ => ?_
  rw [← List.forall_mem_map (f := Prod.snd) (P := fun i : SaleItem => 0 ≤ i.lineTotal), hitems,
    List.forall_mem_map]
  refine forall₂_congr fun row hrow => ?_
  obtain ⟨hquantity, hvalue⟩ := hline row hrow
  rw [hvalue]
  exact line_nonneg_iff hquantity

/-- A completed cart is negative nowhere exactly when no item has an excessive discount. -/
theorem completed_nonneg_iff (hs : WellFormed s) (hplain : s.pos.CartsPlain) {clock : Clock}
    {payments : List PaymentDto}
    (hsound : (step db ⟨clock, .completeSale tenantId saleId payments⟩ s).pos.MoneySound db)
    (h : Accepted db s ⟨clock, .completeSale tenantId saleId payments⟩)
    (hfind : (step db ⟨clock, .completeSale tenantId saleId payments⟩ s).sales.find? saleId =
      some sale) :
    sale.Nonneg (step db ⟨clock, .completeSale tenantId saleId payments⟩ s).pos saleId ↔
      ∀ x ∈ s.itemsOf saleId, x.2.discountAmount ≤ x.2.unitPrice := by
  obtain ⟨read, totals, hread, hpos⟩ := pos_of_accepted_completeSale h
  generalize step db ⟨clock, .completeSale tenantId saleId payments⟩ s = s' at hsound hfind hpos ⊢
  obtain ⟨hcart, _, hdraft, _⟩ := readComplete_ok hread
  have hsaleItems : s'.saleItems = s.saleItems := congrArg PosTables.saleItems hpos
  have hitems : s'.itemsOf saleId = s.itemsOf saleId := by
    rw [Store.itemsOf, hsaleItems]
    rfl
  have hsale : markCompleted db totals read.sale = sale := by
    have hmarked : (s.sales.modify saleId (markCompleted db totals)).find? saleId = some sale :=
      (congrArg (fun t : Serial Sale => t.find? saleId)
        (congrArg PosTables.sales hpos)).symm.trans hfind
    rwa [Serial.find?_modify_of_some hcart, Option.some_inj] at hmarked
  obtain ⟨hdiscount, htax⟩ := hplain saleId read.sale hcart hdraft
  have hline (x : Id × SaleItem) (hx : x ∈ s.itemsOf saleId) :
      0 ≤ x.2.lineTotal ↔ x.2.discountAmount ≤ x.2.unitPrice := by
    obtain ⟨_, hquantity, hpositive, _⟩ := itemsOf_sound hs hcart hx
    obtain ⟨hitem, _⟩ := mem_itemsOf hx
    have hitem' : s'.saleItems.find? x.1 = some x.2 :=
      (congrArg (fun t : Serial SaleItem => t.find? x.1) hsaleItems).trans hitem
    rw [(hsound.lines x.1 x.2 hitem').total, line_nonneg_iff hquantity]
    exact ⟨fun h => h (hpositive hdraft), fun h _ => h⟩
  have htotal : sale.totalAmount = ((s.itemsOf saleId).map fun x => x.2.lineTotal).sum := by
    obtain ⟨hsubtotal, _, _, htotal⟩ := hsound.totals saleId sale hfind
    have hlines : sale.subtotal = ((s.itemsOf saleId).map fun x => x.2.lineTotal).sum := by
      rw [← hitems]
      exact hsubtotal
    rw [htotal, hlines, ← hsale]
    dsimp only [markCompleted]
    rw [hdiscount, htax, sub_zero, add_zero]
  have hstatus : sale.status ≠ .draft := by
    rw [← hsale]
    intro hdrafted
    cases hdrafted
  rw [nonneg_iff hsound hfind hstatus, hitems]
  constructor
  · exact fun h x hx => (hline x hx).mp (h.1 x hx)
  · intro h
    have hlines (x : Id × SaleItem) (hx : x ∈ s.itemsOf saleId) : 0 ≤ x.2.lineTotal :=
      (hline x hx).mpr (h x hx)
    refine ⟨hlines, ?_⟩
    rw [htotal]
    refine List.sum_nonneg fun y hy => ?_
    obtain ⟨x, hx, rfl⟩ := List.mem_map.mp hy
    exact hlines x hx

end Kept

/-- In every run in which no discount exceeds what it is taken off, no sale has a negative amount.
With amounts such as the columns keep, a quick sale or a completed cart has none exactly when no
discount of what it sells is excessive. -/
theorem sale_amounts_nonneg
    (hsub : ∀ x y, db.decimal x = x → db.decimal y = y → db.decimal (x - y) = x - y)
    (hdecimal : Monotone db.decimal) :
    (ReachableBy db (FairlyPriced db) c s → ∀ id sale, s.sales.find? id = some sale →
      sale.status ≠ .draft → sale.Nonneg s.pos id) ∧
    (ReachableBy db (MoneyKept db) c s → ∀ call saleId sale, MoneyKept db s call →
      call.request.sold s = some saleId → Accepted db s call →
      (step db call s).sales.find? saleId = some sale →
        (sale.Nonneg (step db call s).pos saleId ↔ call.request.WithinPrices db s)) := by
  constructor
  · intro hreach id sale hfind hstatus
    have hfair := fair_of_reachable hdecimal (decimal_zero hsub) hreach
    obtain ⟨htotal, hchange⟩ := hfair.sales id sale hfind
    exact ⟨fun k i hi _ => (hfair.lines k i hi).total, htotal, hchange hstatus⟩
  · intro hreach call saleId sale hkept hsold h hfind
    have hs : WellFormed s := wellFormed_of_reachable hreach
    have hnext : ReachableBy db (MoneyKept db) c (step db call s) :=
      Relation.ReflTransGen.tail hreach ⟨call, hkept, rfl⟩
    have hsound := moneySound_of_reachable hsub hnext
    obtain ⟨clock, request⟩ := call
    cases request with
    | createSale tenantId dto =>
      obtain rfl := Option.some.inj hsold
      exact sold_nonneg_iff hsub hs hkept hsound h hfind
    | completeSale tenantId id payments =>
      obtain rfl := Option.some.inj hsold
      exact completed_nonneg_iff hs (cartsPlain_of_reachable hreach) hsound h hfind
    | _ => cases hsold

/-- Ten received, one sold for nothing, and two in a cart at a discount. -/
def discountedCart : Store :=
  serveAll .scale4
    [⟨⟨0, 2024⟩, .stockIn 0 ⟨0, none, none, [⟨0, 10, 1, none⟩]⟩⟩,
      ⟨⟨1, 2024⟩, .createSale 0 ⟨0, none, none, none, [⟨0, 1, some 5, some 5⟩], [⟨.cash, 1⟩], none⟩⟩,
      ⟨⟨2, 2024⟩, .createCart 0 ⟨0, none, none, none⟩⟩,
      ⟨⟨3, 2024⟩, .addCartItem 0 1 ⟨0, 2, some 5, some 1, none⟩⟩] (Store.initial (.shop .fifo))

def discountedCartPaid : Call := ⟨⟨4, 2024⟩, .completeSale 0 1 [⟨.cash, 10⟩]⟩

theorem sale_amounts_nonneg_discounted :
    (∀ id sale, discountedCart.sales.find? id = some sale → sale.status ≠ .draft →
      sale.Nonneg discountedCart.pos id) ∧
    ∀ sale, (step .scale4 discountedCartPaid discountedCart).sales.find? 1 = some sale →
      (sale.Nonneg (step .scale4 discountedCartPaid discountedCart).pos 1 ↔
        discountedCartPaid.request.WithinPrices .scale4 discountedCart) :=
  have hpriced : ReachableBy .scale4 (FairlyPriced .scale4) (.shop .fifo) discountedCart :=
    runs_serveAll (by decide +kernel)
  have hkept : ReachableBy .scale4 (MoneyKept .scale4) (.shop .fifo) discountedCart :=
    runs_serveAll (by decide +kernel)
  have hlaw := sale_amounts_nonneg Database.scale4_sub Database.scale4_mono
  ⟨hlaw.1 hpriced, fun sale => hlaw.2 hkept discountedCartPaid 1 sale (by decide +kernel)
    (by decide +kernel) (by decide +kernel)⟩

/-- Ten pieces are on hand. -/
def tenReceived : Store :=
  step .scale4 ⟨⟨0, 2024⟩, .stockIn 0 ⟨0, none, none, [⟨0, 10, 1, none⟩]⟩⟩
    (Store.initial (.shop .fifo))

/-- A piece at five, with eight taken off, is paid with one. -/
def paidOut : Call :=
  ⟨⟨1, 2024⟩, .createSale 0 ⟨0, none, none, none, [⟨0, 1, some 5, some 8⟩], [⟨.cash, 1⟩], none⟩⟩

/-- The line and the sale come to less than zero, and the till pays out more than it was given. -/
theorem till_pays_out :
    Reachable .scale4 (.shop .fifo) tenReceived ∧ Accepted .scale4 tenReceived paidOut ∧
    ((step .scale4 paidOut tenReceived).saleItems.find? 0).map SaleItem.lineTotal = some (-3) ∧
    ((step .scale4 paidOut tenReceived).sales.find? 0).map
      (fun sale => (sale.totalAmount, sale.paidAmount, sale.changeAmount)) = some (-3, 1, 4) :=
  ⟨reachable_serveAll _ _ [_], by decide +kernel, by decide +kernel, by decide +kernel⟩

end Invetrixa
