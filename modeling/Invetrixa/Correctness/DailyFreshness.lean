import Invetrixa.Correctness.DailyBalance
import Invetrixa.Library.Views

/-!
# The freshness of daily summaries

A summary depends on the sales that were created on its day, and on the payments and refunds that
were processed on it. A quick sale and a refund dispatch a job for that day, a void dispatches none,
and a completion one for the day on which its cart was created. Where the database answers the query
of each job, summaries are fresh in every run in which each void, and each completion on a later
day, finds a job for its day waiting. PostgreSQL refuses the query, and then only a run in which
nothing is sold has all its summaries, of which there are none.

## Main definitions

- `touches` — the summaries that a request may change
- `Reported` — two stores have the same rows for a summary
- `ReportStore.Refreshed` — what a request changes is dispatched, or waits already
- `ReportStore.UpToDate` — what is stored is what would be computed now
- `ReportStore.SellsNothing` — an event is no accepted sale

## Main results

- `reported_step` — a request leaves the rows of all summaries that it does not touch
- `summaries_fresh` — for a database that answers the query
- `summaries_upToDate_iff`, `cup_leaves_no_summary` — for PostgreSQL
-/

namespace Invetrixa

open Rowstore Requests Views SaleService CartService RefundService CartCleanupService PosQueueService
  ReportingService

/-- The summaries that a request may change. -/
def touches (call : Call) (s : Store) : List UpdateDailySalesJobData :=
  match call.request with
  | .createSale tenantId dto => [dispatchUpdateDailySales tenantId dto.locationId call.clock.time]
  | .completeSale tenantId saleId payments =>
      (s.sales.find? saleId).toList.flatMap fun sale =>
        dispatchUpdateDailySales tenantId sale.locationId sale.createdAt ::
          payments.map fun _ =>
            dispatchUpdateDailySales tenantId sale.locationId call.clock.time
  | .voidSale tenantId saleId =>
      (s.sales.find? saleId).toList.map fun sale =>
        dispatchUpdateDailySales tenantId sale.locationId sale.createdAt
  | .createRefund tenantId saleId _ =>
      (s.sales.find? saleId).toList.map fun sale =>
        dispatchUpdateDailySales tenantId sale.locationId call.clock.time
  | _ => []

/-- The columns of a sale that are added up. -/
def Sale.figures (sale : Sale) : ℚ × ℚ × ℚ :=
  (sale.totalAmount, sale.discountAmount, sale.taxAmount)

def SaleItem.figures (item : SaleItem) : ℤ × ℚ := (item.quantity, item.unitCost)

/-- The sale counts for a summary. -/
def countsIn (key : UpdateDailySalesJobData) (t : PosTables) (saleId : Id) : Bool :=
  (t.sales.find? saleId).any (isCounted key)

/-- Two stores have the same rows for a summary. -/
structure Reported (key : UpdateDailySalesJobData) (x x' : StampedStore) : Prop where
  sales : ∀ id, ((x'.store.sales.find? id).filter (isCounted key)).map Sale.figures =
    ((x.store.sales.find? id).filter (isCounted key)).map Sale.figures
  items : ∀ id,
    ((x'.store.saleItems.find? id).filter fun i => countsIn key x'.store.pos i.saleId) =
      (x.store.saleItems.find? id).filter fun i => countsIn key x.store.pos i.saleId
  payments : ∀ id, (x'.store.salePayments.find? id).filter (isPaid key x' id) =
    (x.store.salePayments.find? id).filter (isPaid key x id)
  refunds : ∀ id, (x'.store.saleRefunds.find? id).filter (isRefunded key x' id) =
    (x.store.saleRefunds.find? id).filter (isRefunded key x id)

/-- Some sale, payment or refund counts for the summary. -/
def Counts (key : UpdateDailySalesJobData) (x : StampedStore) : Prop :=
  (∃ id sale, x.store.sales.find? id = some sale ∧ isCounted key sale = true) ∨
  (∃ id payment, x.store.salePayments.find? id = some payment ∧ isPaid key x id payment = true) ∨
  ∃ id refund, x.store.saleRefunds.find? id = some refund ∧ isRefunded key x id refund = true

variable {db : Database} {c : Catalogue} {queryRaw : ℚ → Except HttpError ℚ} {r : ReportStore}
  {s : Store} {call : Call} {t : PosTables} {x x' : StampedStore} {key : UpdateDailySalesJobData}
  {id : Id} {sale : Sale}

section Reported

theorem sum_of_reported (h : Reported key x x') :
    sumCOGS key x' = sumCOGS key x ∧ sumRefunds key x' = sumRefunds key x ∧
      ∀ p, sumPayments key x' p = sumPayments key x p := by
  refine ⟨?_, ?_, fun p => ?_⟩
  · exact Table.sum_eq_of_filter (p := fun _ i => countsIn key x'.store.pos i.saleId)
      (q := fun _ i => countsIn key x.store.pos i.saleId) (f := SaleItem.figures)
      (fun k => congrArg (Option.map SaleItem.figures) (h.items k)) fun y => y.1 * y.2
  · exact Table.sum_eq_of_filter (p := isRefunded key x') (q := isRefunded key x)
      (f := SaleRefund.amount) (fun k => congrArg (Option.map SaleRefund.amount) (h.refunds k)) id
  · have hsum := Table.sum_eq_of_filter (p := isPaid key x') (q := isPaid key x)
      (f := fun payment : SalePayment => if p payment.method then payment.amount else 0)
      (fun k => congrArg (Option.map _) (h.payments k)) id
    rw [sumPayments, sumPayments]
    simp only [Bool.and_eq_true, ite_and]
    exact hsum

theorem sumSales_of_reported (h : Reported key x x') (column : Sale → ℚ) (g : ℚ × ℚ × ℚ → ℚ)
    (hg : ∀ sale, column sale = g sale.figures) : sumSales key x' column = sumSales key x column := by
  rw [sumSales, sumSales]
  simp only [hg]
  exact Table.sum_eq_of_filter (p := fun _ sale => isCounted key sale)
    (q := fun _ sale => isCounted key sale) h.sales g

theorem countSales_of_reported (h : Reported key x x') : countSales key x' = countSales key x :=
  Table.sum_eq_of_filter (p := fun _ sale => isCounted key sale)
    (q := fun _ sale => isCounted key sale) h.sales fun _ => 1

/-- With the same rows, the same summary is computed. -/
theorem summarize_of_reported (h : Reported key x x') :
    summarize db queryRaw key x' = summarize db queryRaw key x := by
  obtain ⟨hcogs, hrefunds, hpayments⟩ := sum_of_reported h
  rw [summarize, summarize]
  rw [hcogs, hrefunds, hpayments, hpayments, hpayments, hpayments, hpayments,
    countSales_of_reported h, sumSales_of_reported h Sale.totalAmount Prod.fst fun _ => rfl,
    sumSales_of_reported h Sale.discountAmount (fun y => y.2.1) fun _ => rfl,
    sumSales_of_reported h Sale.taxAmount (fun y => y.2.2) fun _ => rfl]

/-- With the same rows, the same summaries have something to count. -/
theorem counts_of_reported (h : Reported key x x') (hcounts : Counts key x') : Counts key x := by
  rcases hcounts with ⟨id, sale, hfind, hp⟩ | ⟨id, payment, hfind, hp⟩ | ⟨id, refund, hfind, hp⟩
  · have hsome := h.sales id
    rw [hfind, Option.filter_some_pos hp, Option.map_some] at hsome
    obtain ⟨sale', hfilter, _⟩ := Option.map_eq_some_iff.mp hsome.symm
    obtain ⟨hfind', hp'⟩ := Option.filter_eq_some_iff.mp hfilter
    exact .inl ⟨id, sale', hfind', hp'⟩
  · have hsome := h.payments id
    rw [hfind, Option.filter_some_pos hp] at hsome
    obtain ⟨hfind', hp'⟩ := Option.filter_eq_some_iff.mp hsome.symm
    exact .inr (.inl ⟨id, payment, hfind', hp'⟩)
  · have hsome := h.refunds id
    rw [hfind, Option.filter_some_pos hp] at hsome
    obtain ⟨hfind', hp'⟩ := Option.filter_eq_some_iff.mp hsome.symm
    exact .inr (.inr ⟨id, refund, hfind', hp'⟩)

end Reported

section Steps

theorem within_iff {date time : ℕ} : within date time = true ↔ dateStr time = date := by
  rw [within, decide_eq_true_eq]
  show date * 86400000 ≤ time ∧ time < date * 86400000 + 86400000 ↔ time / 86400000 = date
  omega

theorem key_of_within {tenantId locationId : Id} {time : ℕ} (htenant : tenantId = key.tenantId)
    (hlocation : locationId = key.locationId) (hday : within key.date time = true) :
    dispatchUpdateDailySales tenantId locationId time = key := by
  rw [dispatchUpdateDailySales, htenant, hlocation, within_iff.mp hday]

/-- A sale counts for the summary of its place and of the day of its creation. -/
theorem key_of_isCounted (h : isCounted key sale = true) :
    dispatchUpdateDailySales sale.tenantId sale.locationId sale.createdAt = key := by
  rw [isCounted] at h
  obtain ⟨⟨hplaced, _⟩, hday⟩ := Bool.and_eq_true_iff.mp h |>.imp_left Bool.and_eq_true_iff.mp
  obtain ⟨htenant, hlocation⟩ := of_decide_eq_true hplaced
  exact key_of_within htenant hlocation hday

theorem isCounted_eq_false (hstatus : sale.status = .draft ∨ sale.status = .voided) :
    isCounted key sale = false := by
  rw [isCounted]
  rcases hstatus with hstatus | hstatus <;> simp [hstatus]

/-- A sale that a request counts anew, or no longer, counts for a summary that it touches. -/
theorem isCounted_eq_false_of_touches {tenantId locationId : Id} {date : ℕ}
    (hsale : sale.tenantId = tenantId ∧ sale.locationId = locationId ∧ sale.createdAt = date)
    (hkey : key ≠ dispatchUpdateDailySales tenantId locationId date) :
    isCounted key sale = false := by
  obtain ⟨rfl, rfl, rfl⟩ := hsale
  exact Bool.eq_false_iff.mpr fun h => hkey (key_of_isCounted h).symm

/-- The abandoned carts are carts. -/
theorem draft_of_abandoned {clock : Clock} (h : id ∈ abandonedCarts clock s)
    (hfind : s.sales.find? id = some sale) : sale.status = .draft := by
  obtain ⟨row, hrow, rfl⟩ := List.mem_map.mp h
  obtain ⟨hmem, hdraft⟩ := List.mem_filter.mp hrow
  obtain rfl := Option.some.inj (hfind.symm.trans (Table.find?_of_mem_rows hmem))
  exact (of_decide_eq_true hdraft).1

/-- The sales that count for a summary that the request does not touch. -/
theorem sales_reported (h : SaleStep db s call t) (hkey : key ∉ touches call s) (id : Id) :
    ((t.sales.find? id).filter (isCounted key)).map Sale.figures =
      ((s.sales.find? id).filter (isCounted key)).map Sale.figures := by
  cases h with
  | kept => rfl
  | opened clock tenantId dto =>
    exact congrArg _ (Serial.filter_find?_create (p := fun _ => isCounted key)
      (isCounted_eq_false (.inl rfl)) id)
  | written _ cartId cart saleItems hfind hdraft hedit =>
    refine congrArg _ (Table.filter_find?_modify fun sale hsale => ?_)
    obtain rfl := Option.some.inj (hfind.symm.trans hsale)
    exact ⟨isCounted_eq_false (.inl hdraft), isCounted_eq_false (.inl hdraft)⟩
  | sold clock tenantId dto rows totals hpasses hread =>
    refine congrArg _ (Serial.filter_find?_create (p := fun _ => isCounted key) ?_ id)
    exact isCounted_eq_false_of_touches ⟨rfl, rfl, rfl⟩ (List.ne_of_not_mem_cons hkey)
  | completed clock tenantId saleId payments read totals hpasses hread =>
    obtain ⟨hfind, htenant, hdraft, _⟩ := readComplete_ok hread
    refine congrArg _ (Table.filter_find?_modify fun sale hsale => ?_)
    obtain rfl := Option.some.inj (hfind.symm.trans hsale)
    refine ⟨isCounted_eq_false (.inl hdraft), ?_⟩
    refine isCounted_eq_false_of_touches ⟨htenant, rfl, rfl⟩ ?_
    rintro rfl
    exact hkey (by simp [touches, hfind, markCompleted])
  | voided clock tenantId saleId read hread =>
    obtain ⟨hfind, htenant, _⟩ := readVoid_ok hread
    refine congrArg _ (Table.filter_find?_modify fun sale hsale => ?_)
    obtain rfl := Option.some.inj (hfind.symm.trans hsale)
    refine ⟨isCounted_eq_false_of_touches ⟨htenant, rfl, rfl⟩ ?_, isCounted_eq_false (.inr rfl)⟩
    rintro rfl
    exact hkey (by simp [touches, hfind])
  | refunded clock tenantId saleId dto read total hvalid hread =>
    obtain ⟨hfind, _, hstatus, _⟩ := readRefund_ok hread
    have hrow : (s.sales.modify saleId fun sale =>
        { sale with status := refundStatus read.sale total dto.amount }).find? id =
        if id = saleId then (s.sales.find? id).map fun sale =>
          { sale with status := refundStatus read.sale total dto.amount }
        else s.sales.find? id := Table.find?_modify _
    dsimp only
    rw [hrow]
    split
    · next hid =>
      subst hid
      -- a refunded sale still counts: nothing but its status has changed
      have hcounted : isCounted key
          { read.sale with status := refundStatus read.sale total dto.amount } =
          isCounted key read.sale := by
        rw [isCounted, isCounted, isPlaced, isPlaced]
        rcases refundStatus_refunded read.sale total dto.amount with hnew | hnew <;>
          rcases hstatus with hold | hold <;> simp [hnew, hold]
      rw [hfind, Option.map_some]
      cases hp : isCounted key read.sale with
      | true =>
        rw [Option.filter_some_pos hp, Option.filter_some_pos (hcounted.trans hp)]
        rfl
      | false => rw [Option.filter_some_neg hp, Option.filter_some_neg (hcounted.trans hp)]
    · rfl
  | cleaned clock hrefunds =>
    refine congrArg _ (Table.filter_find?_deleteWhere fun k sale hfind hdeleted => ?_)
    exact isCounted_eq_false (.inl (draft_of_abandoned (of_decide_eq_true hdeleted) hfind))

theorem countsIn_reported (h : SaleStep db s call t) (hkey : key ∉ touches call s) (id : Id) :
    countsIn key t id = countsIn key s.pos id := by
  have hsome := congrArg Option.isSome (sales_reported h hkey id)
  rwa [Option.isSome_map, Option.isSome_map, Option.isSome_filter, Option.isSome_filter] at hsome

theorem countsIn_of_find? (hfind : s.sales.find? id = some sale) :
    countsIn key s.pos id = isCounted key sale :=
  (congrArg (Option.any (isCounted key)) hfind).trans Option.any_some

/-- The items of the sales that count for a summary that the request does not touch. -/
theorem items_reported (h : SaleStep db s call t) (hkey : key ∉ touches call s) (id : Id) :
    ((t.saleItems.find? id).filter fun i => countsIn key t i.saleId) =
      (s.saleItems.find? id).filter fun i => countsIn key s.pos i.saleId := by
  have hcounts : (fun i : SaleItem => countsIn key t i.saleId) =
      fun i => countsIn key s.pos i.saleId :=
    funext fun i => countsIn_reported h hkey i.saleId
  rw [hcounts]
  cases h with
  | written _ cartId cart saleItems hfind hdraft hedit =>
    refine hedit.filter_find? ?_ id
    rintro i rfl
    exact (countsIn_of_find? hfind).trans (isCounted_eq_false (.inl hdraft))
  | sold clock tenantId dto rows totals hpasses hread =>
    refine Serial.filter_find?_foldl_create
      (p := fun _ (i : SaleItem) => countsIn key s.pos i.saleId)
      rows (fun _ _ row _ => ?_) id
    exact congrArg (Option.any (isCounted key)) s.sales.find?_next
  | cleaned clock hrefunds =>
    refine Table.filter_find?_deleteWhere fun k i hi hdeleted => ?_
    have hmem : i.saleId ∈ abandonedCarts clock s := of_decide_eq_true hdeleted
    show (s.sales.find? i.saleId).any (isCounted key) = false
    cases hfind : s.sales.find? i.saleId with
    | none => rfl
    | some sale => exact isCounted_eq_false (.inl (draft_of_abandoned hmem hfind))
  | _ => rfl

/-- A sale that is no cart keeps its place. -/
theorem place_kept (h : SaleStep db s call t) (hfind : s.sales.find? id = some sale)
    (hstatus : sale.status ≠ .draft) : ∃ sale', t.sales.find? id = some sale' ∧
      sale'.tenantId = sale.tenantId ∧ sale'.locationId = sale.locationId := by
  have hmodify {k : Id} {f : Sale → Sale} (hf : ∀ sale, (f sale).tenantId = sale.tenantId ∧
      (f sale).locationId = sale.locationId) : ∃ sale', (s.sales.modify k f).find? id =
        some sale' ∧ sale'.tenantId = sale.tenantId ∧ sale'.locationId = sale.locationId := by
    have hrow : (s.sales.modify k f).find? id = if id = k then some (f sale) else some sale := by
      refine (Table.find?_modify f).trans ?_
      rw [hfind]
      rfl
    by_cases hid : id = k
    · exact ⟨f sale, hrow.trans (if_pos hid), hf sale⟩
    · exact ⟨sale, hrow.trans (if_neg hid), rfl, rfl⟩
  cases h with
  | kept => exact ⟨sale, hfind, rfl, rfl⟩
  | opened => exact ⟨sale, Serial.find?_create_of_some hfind _, rfl, rfl⟩
  | sold => exact ⟨sale, Serial.find?_create_of_some hfind _, rfl, rfl⟩
  | written => exact hmodify fun _ => ⟨rfl, rfl⟩
  | completed => exact hmodify fun _ => ⟨rfl, rfl⟩
  | voided => exact hmodify fun _ => ⟨rfl, rfl⟩
  | refunded => exact hmodify fun _ => ⟨rfl, rfl⟩
  | cleaned clock hrefunds =>
    have hnot : id ∉ abandonedCarts clock s := fun hmem => hstatus (draft_of_abandoned hmem hfind)
    refine ⟨sale, (Table.find?_deleteWhere _).trans ?_, rfl, rfl⟩
    show (s.sales.find? id).filter _ = some sale
    rw [hfind]
    exact Option.filter_some_pos (by simp [hnot])

/-- A row that is there keeps its moment. -/
theorem stamp_of_find? {ρ : Type} {rows : Serial ρ} {row : ρ} (hfind : rows.find? id = some row)
    (time : ℕ) (processedAt : Id → ℕ) : stamp rows.next time processedAt id = processedAt id :=
  if_pos (rows.lt_next id (List.mem_map.mpr ⟨(id, row), Table.mem_rows_of_find? hfind, rfl⟩))

/-- A payment counts for a summary. -/
def paidIn (key : UpdateDailySalesJobData) (t : PosTables) (paidAt : Id → ℕ) (id : Id)
    (payment : SalePayment) : Bool :=
  (t.sales.find? payment.saleId).any (isPlaced key) && within key.date (paidAt id)

/-- A refund counts for a summary. -/
def refundedIn (key : UpdateDailySalesJobData) (t : PosTables) (refundedAt : Id → ℕ) (id : Id)
    (refund : SaleRefund) : Bool :=
  refund.tenantId = key.tenantId && within key.date (refundedAt id) &&
    (t.sales.find? refund.saleId).any fun sale => sale.locationId = key.locationId

/-- A payment of a sale counts on the day it is processed. -/
theorem key_of_paidIn {paidAt : Id → ℕ} {payment : SalePayment}
    (hfind : t.sales.find? payment.saleId = some sale)
    (h : paidIn key t paidAt id payment = true) :
    dispatchUpdateDailySales sale.tenantId sale.locationId (paidAt id) = key := by
  obtain ⟨hplaced, hday⟩ := Bool.and_eq_true_iff.mp h
  rw [hfind, Option.any_some] at hplaced
  obtain ⟨htenant, hlocation⟩ := of_decide_eq_true hplaced
  exact key_of_within htenant hlocation hday

/-- Predicates that agree on the row select the same. -/
theorem filter_congr_of_some {α : Type} {o : Option α} {p q : α → Bool}
    (h : ∀ a, o = some a → p a = q a) : o.filter p = o.filter q := by
  cases o with
  | none => rfl
  | some a => simp only [Option.filter, h a rfl]

/-- A payment that was there counts as before. -/
theorem paidIn_kept (h : SaleStep db s call t) {payment : SalePayment}
    (hsale : s.sales.find? payment.saleId = some sale) (hstatus : sale.status ≠ .draft)
    {paidAt paidAt' : Id → ℕ} (hstamp : paidAt' id = paidAt id) :
    paidIn key t paidAt' id payment = paidIn key s.pos paidAt id payment := by
  obtain ⟨sale', hsale', htenant, hlocation⟩ := place_kept h hsale hstatus
  have hplaced : isPlaced key sale' = isPlaced key sale := by
    rw [isPlaced, isPlaced, htenant, hlocation]
  have hany' : (t.sales.find? payment.saleId).any (isPlaced key) = isPlaced key sale' := by
    rw [hsale', Option.any_some]
  have hany : (s.pos.sales.find? payment.saleId).any (isPlaced key) = isPlaced key sale :=
    (congrArg (Option.any (isPlaced key)) hsale).trans Option.any_some
  rw [paidIn, paidIn, hstamp, hany', hany, hplaced]

/-- The payments that count for a summary that the request does not touch. -/
theorem payments_reported (hpayments : s.pos.PaymentsSound) (h : SaleStep db s call t)
    (hkey : key ∉ touches call s) (paidAt : Id → ℕ) (id : Id) :
    (t.salePayments.find? id).filter
        (paidIn key t (stamp s.salePayments.next call.clock.time paidAt) id) =
      (s.salePayments.find? id).filter (paidIn key s.pos paidAt id) := by
  have hkept : (s.salePayments.find? id).filter
      (paidIn key t (stamp s.salePayments.next call.clock.time paidAt) id) =
      (s.salePayments.find? id).filter (paidIn key s.pos paidAt id) := by
    refine filter_congr_of_some fun payment hfind => ?_
    obtain ⟨sale, hsale, hstatus⟩ := hpayments id payment hfind
    exact paidIn_kept h hsale hstatus (stamp_of_find? hfind call.clock.time paidAt)
  -- What is left to show is that no new payment falls on a day that the request does not touch.
  refine Eq.trans ?_ hkept
  have hnew {k : Id} {time : ℕ} (hk : s.salePayments.next ≤ k) :
      stamp s.salePayments.next time paidAt k = time := if_neg (Nat.not_lt.mpr hk)
  cases h with
  | sold clock tenantId dto rows totals hpasses hread =>
    refine Serial.filter_find?_foldl_create (p := paidIn key _ _) dto.payments
      (fun k hk payment _ => Bool.eq_false_iff.mpr fun hpaid => ?_) id
    have hsale : (soldStore db clock tenantId dto rows totals s).pos.sales.find? s.sales.next =
        some (newSale db clock tenantId (generateSaleNumber clock tenantId s) dto totals) :=
      (Serial.find?_create _).trans (if_pos rfl)
    have hkeyOf := key_of_paidIn hsale hpaid
    rw [hnew hk] at hkeyOf
    exact hkey (List.mem_singleton.mpr hkeyOf.symm)
  | completed clock tenantId saleId payments read totals hpasses hread =>
    obtain ⟨hfind, htenant, _⟩ := readComplete_ok hread
    refine Serial.filter_find?_foldl_create (p := paidIn key _ _) payments
      (fun k hk payment hmem => Bool.eq_false_iff.mpr fun hpaid => ?_) id
    have hsale : (s.sales.modify saleId (markCompleted db totals)).find? saleId =
        some (markCompleted db totals read.sale) := Serial.find?_modify_of_some hfind _
    have hkeyOf := key_of_paidIn hsale hpaid
    rw [hnew hk] at hkeyOf
    refine hkey (List.mem_flatMap.mpr ⟨read.sale, by simp [hfind], List.mem_cons_of_mem _ ?_⟩)
    exact List.mem_map.mpr ⟨payment, hmem, htenant ▸ hkeyOf⟩
  | cleaned clock hrefunds =>
    refine Table.filter_find?_deleteWhere fun k payment hfind hdeleted => ?_
    obtain ⟨sale, hsale, hstatus⟩ := hpayments k payment hfind
    exact absurd (draft_of_abandoned (of_decide_eq_true hdeleted) hsale) hstatus
  | _ => rfl

/-- The refunds that count for a summary that the request does not touch. -/
theorem refunds_reported (hrefunds : s.pos.RefundsSound) (h : SaleStep db s call t)
    (hkey : key ∉ touches call s) (refundedAt : Id → ℕ) (id : Id) :
    (t.saleRefunds.find? id).filter
        (refundedIn key t (stamp s.saleRefunds.next call.clock.time refundedAt) id) =
      (s.saleRefunds.find? id).filter (refundedIn key s.pos refundedAt id) := by
  have hkept : (s.saleRefunds.find? id).filter
      (refundedIn key t (stamp s.saleRefunds.next call.clock.time refundedAt) id) =
      (s.saleRefunds.find? id).filter (refundedIn key s.pos refundedAt id) := by
    cases hfind : s.saleRefunds.find? id with
    | none => rfl
    | some refund =>
      obtain ⟨sale, hsale, hstatus⟩ := hrefunds id refund hfind
      have hdraft : sale.status ≠ .draft := by rcases hstatus with h | h <;> rw [h] <;> decide
      obtain ⟨sale', hsale', _, hlocation⟩ := place_kept h hsale hdraft
      have hrefunded : refundedIn key t (stamp s.saleRefunds.next call.clock.time refundedAt) id
          refund = refundedIn key s.pos refundedAt id refund := by
        rw [refundedIn, refundedIn, stamp_of_find? hfind, hsale, hsale', Option.any_some,
          Option.any_some, hlocation]
      simp only [Option.filter, hrefunded]
  refine Eq.trans ?_ hkept
  cases h with
  | refunded clock tenantId saleId dto read total hvalid hread =>
    obtain ⟨hfind, _⟩ := readRefund_ok hread
    refine Serial.filter_find?_create (p := refundedIn key _ _)
      (Bool.eq_false_iff.mpr fun hrefunded => ?_) id
    obtain ⟨hboth, hlocation⟩ := Bool.and_eq_true_iff.mp hrefunded
    obtain ⟨htenant, hday⟩ := Bool.and_eq_true_iff.mp hboth
    have hsale : (s.sales.modify saleId fun sale =>
        { sale with status := refundStatus read.sale total dto.amount }).find? saleId =
        some { read.sale with status := refundStatus read.sale total dto.amount } :=
      Serial.find?_modify_of_some hfind _
    dsimp only at hlocation
    rw [hsale, Option.any_some] at hlocation
    rw [stamp, if_neg (lt_irrefl _)] at hday
    have hkeyOf := key_of_within (of_decide_eq_true htenant) (of_decide_eq_true hlocation) hday
    exact hkey (List.mem_map.mpr ⟨read.sale, by simp [hfind], hkeyOf⟩)
  | _ => rfl

/-- A step of the sales' tables leaves the rows of the summaries that the request does not touch. -/
theorem reported_of_saleStep (hpayments : x.store.pos.PaymentsSound)
    (hrefunds : x.store.pos.RefundsSound) (h : SaleStep db x.store call (step db call x.store).pos)
    (hkey : key ∉ touches call x.store) : Reported key x (x.step db call) where
  sales := sales_reported h hkey
  items := items_reported h hkey
  payments := payments_reported hpayments h hkey x.paidAt
  refunds := refunds_reported hrefunds h hkey x.refundedAt

/-- A request that touches summaries is accepted or keeps the store. -/
theorem accepted_or_kept_of_touches (hkey : key ∈ touches call s) :
    Accepted db s call ∨ step db call s = s := by
  have hserved {α : Type} (f : Store → Except HttpError (α × Store))
      (hserve : serve db call.clock call.request s = answer (transaction f s)) :
      Accepted db s call ∨ step db call s = s :=
    (step_cases_of_serve f hserve (P := fun _ => True) fun _ _ _ _ => trivial).symm.imp_left
      And.left
  obtain ⟨clock, request⟩ := call
  cases request with
  | createSale tenantId dto => exact hserved _ rfl
  | completeSale tenantId saleId payments => exact hserved _ rfl
  | voidSale tenantId saleId => exact hserved _ rfl
  | createRefund tenantId saleId dto => exact hserved _ rfl
  | _ => cases hkey

/-- A request leaves the rows of all summaries, except those that it touches when it is accepted. -/
theorem reported_step (hs : Reachable db c x.store)
    (hkey : Accepted db x.store call → key ∉ touches call x.store) :
    Reported key x (x.step db call) := by
  have hpayments := paymentsSound_of_reachable hs
  have hrefunds := refundsSound_of_reachable hs
  have hsale : SaleStep db x.store call (step db call x.store).pos :=
    saleStep (wellFormed_of_reachable hs)
  by_cases htouched : key ∈ touches call x.store
  · rcases accepted_or_kept_of_touches htouched with haccepted | hkept
    · exact absurd htouched (hkey haccepted)
    · -- The store is kept as by a request that touches nothing, at the same moment.
      have hidle : SaleStep db x.store ⟨call.clock, .cleanupCarts⟩ (step db call x.store).pos :=
        hkept.symm ▸ SaleStep.kept _
      exact ⟨sales_reported hidle (List.not_mem_nil), items_reported hidle (List.not_mem_nil),
        payments_reported hpayments hidle (List.not_mem_nil) x.paidAt,
        refunds_reported hrefunds hidle (List.not_mem_nil) x.refundedAt⟩
  · exact reported_of_saleStep hpayments hrefunds hsale htouched

end Steps

/-- A job for the location of the sale and the day of a moment is waiting. -/
def ReportStore.Waiting (tenantId saleId : Id) (date : Sale → ℕ) (r : ReportStore) : Prop :=
  ∀ sale ∈ r.stamped.store.sales.find? saleId,
    dispatchUpdateDailySales tenantId sale.locationId (date sale) ∈ r.jobs

instance (tenantId saleId : Id) (date : Sale → ℕ) (r : ReportStore) :
    Decidable (r.Waiting tenantId saleId date) :=
  inferInstanceAs (Decidable (∀ sale ∈ r.stamped.store.sales.find? saleId, _))

/-- The day of the request is the one on which the sale was created. -/
def ReportStore.SameDate (clock : Clock) (saleId : Id) (r : ReportStore) : Prop :=
  ∀ sale ∈ r.stamped.store.sales.find? saleId, dateStr sale.createdAt = dateStr clock.time

instance (clock : Clock) (saleId : Id) (r : ReportStore) : Decidable (r.SameDate clock saleId) :=
  inferInstanceAs (Decidable (∀ sale ∈ r.stamped.store.sales.find? saleId, _))

/-- A void finds a job for the day of its sale waiting, and a completion with payments on a later day
than that of its cart finds one for the day of the payments. -/
def ReportStore.Awaited (r : ReportStore) : Call → Prop
  | ⟨_, .voidSale tenantId saleId⟩ => r.Waiting tenantId saleId Sale.createdAt
  | ⟨clock, .completeSale tenantId saleId payments⟩ =>
      payments = [] ∨ r.SameDate clock saleId ∨ r.Waiting tenantId saleId fun _ => clock.time
  | _ => True

instance (r : ReportStore) : DecidablePred r.Awaited
  | ⟨_, .voidSale tenantId saleId⟩ =>
      inferInstanceAs (Decidable (r.Waiting tenantId saleId Sale.createdAt))
  | ⟨clock, .completeSale tenantId saleId payments⟩ =>
      inferInstanceAs (Decidable (payments = [] ∨ r.SameDate clock saleId ∨
        r.Waiting tenantId saleId fun _ => clock.time))
  | ⟨_, .stockIn _ _⟩ | ⟨_, .stockReturn _ _⟩ | ⟨_, .stockOut _ _⟩ | ⟨_, .adjust _ _⟩
  | ⟨_, .createTransfer _ _⟩ | ⟨_, .shipTransfer _ _⟩ | ⟨_, .receiveTransfer _ _ _⟩
  | ⟨_, .cancelTransfer _ _⟩ | ⟨_, .createReservation _ _⟩ | ⟨_, .updateReservation _ _ _⟩
  | ⟨_, .releaseReservation _ _⟩ | ⟨_, .expireReservation _ _⟩ | ⟨_, .createCart _ _⟩
  | ⟨_, .addCartItem _ _ _⟩ | ⟨_, .updateCartItem _ _ _ _⟩ | ⟨_, .removeCartItem _ _ _⟩
  | ⟨_, .createSale _ _⟩ | ⟨_, .createRefund _ _ _⟩ | ⟨_, .openSession _ _⟩
  | ⟨_, .closeSession _ _ _⟩ | ⟨_, .cleanupCarts⟩ => isTrue trivial

/-- What an accepted request changes and dispatches no job for is awaited, and the database answers
the raw query of every job. -/
def ReportStore.Refreshed (db : Database) (queryRaw : ℚ → Except HttpError ℚ) (r : ReportStore) :
    ReportEvent → Prop
  | .call call => Accepted db r.stamped.store call → r.Awaited call
  | .work i => ∀ job ∈ r.jobs[i]?, (queryRaw (sumCOGS job r.stamped)).isOk = true

instance (db : Database) (queryRaw : ℚ → Except HttpError ℚ) (r : ReportStore) :
    DecidablePred (r.Refreshed db queryRaw)
  | .call call => inferInstanceAs (Decidable (Accepted db r.stamped.store call → r.Awaited call))
  | .work i => inferInstanceAs (Decidable (∀ job ∈ r.jobs[i]?, _))

/-- What is stored for a key is the summary that would be computed now, and every key with a sale, a
payment or a refund that counts has one. -/
def ReportStore.UpToDate (db : Database) (queryRaw : ℚ → Except HttpError ℚ) (r : ReportStore) :
    Prop :=
  ∀ key, (∀ summary, r.summaries.find? key = some summary →
      summarize db queryRaw key r.stamped = .ok summary) ∧
    (Counts key r.stamped → ∃ summary, r.summaries.find? key = some summary)

section Runs

/-- What an accepted request touches is dispatched or was waiting. -/
theorem touches_subset (haccepted : Accepted db r.stamped.store call) (hawaited : r.Awaited call) :
    touches call r.stamped.store ⊆ r.jobs ++ dispatches db call r.stamped.store := by
  intro key hkey
  rw [dispatches, if_pos haccepted]
  obtain ⟨clock, request⟩ := call
  cases request with
  | createSale tenantId dto => exact List.mem_append_right _ hkey
  | createRefund tenantId saleId dto =>
    refine List.mem_append_right _ ?_
    dsimp only [touches] at hkey ⊢
    rwa [Option.toList_map]
  | voidSale tenantId saleId =>
    obtain ⟨sale, hsale, rfl⟩ := List.mem_map.mp hkey
    exact List.mem_append_left _ (hawaited sale (Option.mem_toList.mp hsale))
  | completeSale tenantId saleId payments =>
    obtain ⟨sale, hsale, hkey⟩ := List.mem_flatMap.mp hkey
    rw [Option.mem_toList] at hsale
    have hcreated : dispatchUpdateDailySales tenantId sale.locationId sale.createdAt ∈
        ((r.stamped.store.sales.find? saleId).map fun sale =>
          dispatchUpdateDailySales tenantId sale.locationId sale.createdAt).toList :=
      Option.mem_toList.mpr (Option.mem_map_of_mem _ hsale)
    -- The day on which the sale was made gets a job; a payment on another day needs one that
    -- waits already.
    rcases List.mem_cons.mp hkey with rfl | hpaid
    · exact List.mem_append_right _ hcreated
    · obtain ⟨payment, hmem, rfl⟩ := List.mem_map.mp hpaid
      rcases hawaited with rfl | hsame | hwaiting
      · cases hmem
      · have hday : dispatchUpdateDailySales tenantId sale.locationId clock.time =
            dispatchUpdateDailySales tenantId sale.locationId sale.createdAt := by
          rw [dispatchUpdateDailySales, dispatchUpdateDailySales, hsame sale hsale]
        exact List.mem_append_right _ (hday ▸ hcreated)
      · exact List.mem_append_left _ (hwaiting sale hsale)
  | _ => cases hkey

/-- The summaries are those of the tables, wherever no job is waiting. -/
def ReportStore.IsFresh (db : Database) (queryRaw : ℚ → Except HttpError ℚ) (r : ReportStore) :
    Prop :=
  Fresh (fun key x summary => summarize db queryRaw key x = .ok summary)
    (fun key x => ¬Counts key x) r.stamped r.summaries r.jobs

theorem reachable_exec {e : ReportEvent} (hs : Reachable db c r.stamped.store) :
    Reachable db c (r.exec db queryRaw e).stamped.store := by
  cases e with
  | call call => exact Relation.ReflTransGen.tail hs ⟨call, trivial, rfl⟩
  | work i =>
    rw [stamped_work]
    exact hs

theorem isFresh_initial : (ReportStore.initial c).IsFresh db queryRaw := by
  refine fresh_empty fun key hcounts => ?_
  rcases hcounts with ⟨id, sale, hfind, _⟩ | ⟨id, payment, hfind, _⟩ | ⟨id, refund, hfind, _⟩
  · cases hfind
  · cases hfind
  · cases hfind

theorem isFresh_exec {e : ReportEvent} (hs : Reachable db c r.stamped.store)
    (h : r.IsFresh db queryRaw) (hok : r.Refreshed db queryRaw e) :
    (r.exec db queryRaw e).IsFresh db queryRaw := by
  cases e with
  | call call =>
    have hreported (key : UpdateDailySalesJobData)
        (hkey : key ∉ r.jobs ++ dispatches db call r.stamped.store) :
        Reported key r.stamped (r.stamped.step db call) :=
      reported_step hs fun haccepted htouched =>
        hkey (touches_subset haccepted (hok haccepted) htouched)
    -- A key that no job is waiting for is not touched, so its summary still shows the day.
    refine Fresh.change h (List.subset_append_left _ _) ?_ ?_
    · intro key summary hkey hshows
      exact (summarize_of_reported (hreported key hkey)).trans hshows
    · intro key hkey hblank hcounts
      exact hblank (counts_of_reported (hreported key hkey) hcounts)
  | work i =>
    cases hjob : r.jobs[i]? with
    | none =>
      have hexec : r.exec db queryRaw (.work i) = r := by
        rw [ReportStore.exec]
        simp only [hjob]
      rwa [hexec]
    | some job =>
      obtain ⟨totalCOGS, hanswer⟩ := isOk_iff.mp (hok job (Option.mem_def.mpr hjob))
      obtain ⟨summary, hsummary⟩ : ∃ summary, summarize db queryRaw job r.stamped = .ok summary := by
        rw [summarize, hanswer]
        exact ⟨_, rfl⟩
      have hexec : r.exec db queryRaw (.work i) = { r with
          jobs := r.jobs.eraseIdx i
          summaries := r.summaries.upsert job summary fun _ => summary } := by
        simp only [ReportStore.exec, generateDailySummary]
        simp only [hjob, hsummary]
        rfl
      rw [hexec]
      exact Fresh.refresh h hjob hsummary

end Runs

/-- In every run whose voids, and whose completions on a later day than that of the cart, find a job
for the day waiting, and whose jobs get an answer: once all jobs have run, the summaries are those
that would be computed now, and every day with a sale, a payment or a refund that counts has one. -/
theorem summaries_fresh
    (hreach : Runs (ReportStore.exec db queryRaw) (ReportStore.Refreshed db queryRaw) (.initial c) r)
    (hjobs : r.jobs = []) : r.UpToDate db queryRaw := by
  have hboth : Reachable db c r.stamped.store ∧ r.IsFresh db queryRaw := by
    refine Runs.invariant (I := fun r : ReportStore => Reachable db c r.stamped.store ∧
      r.IsFresh db queryRaw) hreach ⟨Relation.ReflTransGen.refl, isFresh_initial⟩ ?_
    rintro r e ⟨hs, hfresh⟩ hok
    exact ⟨reachable_exec hs, isFresh_exec hs hfresh hok⟩
  intro key
  obtain ⟨hshown, hmissing⟩ := hboth.2 key (hjobs ▸ List.not_mem_nil)
  refine ⟨hshown, fun hcounts => ?_⟩
  cases hfind : r.summaries.find? key with
  | none => exact absurd hcounts (hmissing hfind)
  | some summary => exact ⟨summary, rfl⟩

section Sales

/-- A quick sale, or the completion of a cart. -/
def Request.MakesSale : Request → Prop
  | .createSale _ _ | .completeSale _ _ _ => True
  | _ => False

instance : DecidablePred Request.MakesSale := by
  rintro ⟨⟩
  all_goals dsimp only [Request.MakesSale]; infer_instance

/-- The event is not a sale that is accepted. -/
def ReportStore.SellsNothing (db : Database) (r : ReportStore) : ReportEvent → Prop
  | .call call => ¬(Accepted db r.stamped.store call ∧ call.request.MakesSale)
  | .work _ => True

instance (db : Database) (r : ReportStore) : DecidablePred (r.SellsNothing db)
  | .call call => inferInstanceAs (Decidable (¬(Accepted db r.stamped.store call ∧ _)))
  | .work _ => isTrue trivial

/-- Nothing has been sold, and no job is waiting. -/
structure ReportStore.Idle (r : ReportStore) : Prop where
  carts : r.stamped.store.sales.All fun _ sale => sale.status = .draft
  jobs : r.jobs = []

theorem idle_initial : (ReportStore.initial c).Idle where
  carts _ _ hfind := by cases hfind
  jobs := rfl

/-- A sale that is refused keeps the store. -/
theorem step_of_refused_sale (hsells : call.request.MakesSale) (hrefused : ¬Accepted db s call) :
    step db call s = s := by
  have hserved {α : Type} (f : Store → Except HttpError (α × Store))
      (hserve : serve db call.clock call.request s = answer (transaction f s)) :
      step db call s = s :=
    (step_cases_of_serve f hserve (P := fun _ => True) fun _ _ _ _ => trivial).resolve_right
      fun h => hrefused h.1
  obtain ⟨clock, request⟩ := call
  cases request with
  | createSale tenantId dto => exact hserved _ rfl
  | completeSale tenantId saleId payments => exact hserved _ rfl
  | _ => exact hsells.elim

/-- Among carts only, no sale can be voided or refunded. -/
theorem not_accepted_of_carts (hcarts : s.sales.All fun _ sale => sale.status = .draft) :
    (∀ clock tenantId saleId, ¬Accepted db s ⟨clock, .voidSale tenantId saleId⟩) ∧
    ∀ clock tenantId saleId dto, ¬Accepted db s ⟨clock, .createRefund tenantId saleId dto⟩ := by
  constructor
  · intro clock tenantId saleId h
    obtain ⟨_, _, hvoid⟩ := ok_of_accepted (SaleService.void db tenantId saleId) rfl h
    obtain ⟨read, hread, _⟩ := Except.bind_eq_ok_iff.mp hvoid
    obtain ⟨hfind, _, hstatus, _⟩ := readVoid_ok hread
    exact nomatch hstatus.symm.trans (hcarts saleId read.sale hfind)
  · intro clock tenantId saleId dto h
    obtain ⟨_, _, hrefund⟩ := ok_of_accepted (createRefund db clock tenantId saleId dto) rfl h
    obtain ⟨⟨read, total⟩, hread, _⟩ := Except.bind_eq_ok_iff.mp hrefund
    obtain ⟨hfind, _, hstatus, _⟩ := readRefund_ok hread
    have hdraft := hcarts saleId read.sale hfind
    rcases hstatus with hstatus | hstatus
    · exact nomatch hstatus.symm.trans hdraft
    · exact nomatch hstatus.symm.trans hdraft

/-- Where nothing has been sold, and nothing is, no void or completion has to find a job. -/
theorem refreshed_of_idle (queryRaw : ℚ → Except HttpError ℚ) {e : ReportEvent} (h : r.Idle)
    (hok : r.SellsNothing db e) : r.Refreshed db queryRaw e := by
  cases e with
  | call call =>
    intro haccepted
    obtain ⟨clock, request⟩ := call
    cases request with
    | voidSale tenantId saleId =>
      exact absurd haccepted ((not_accepted_of_carts h.carts).1 clock tenantId saleId)
    | completeSale tenantId saleId payments => exact absurd ⟨haccepted, trivial⟩ hok
    | _ => trivial
  | work i =>
    intro job hjob
    rw [h.jobs] at hjob
    cases hjob

/-- Nothing is sold by an event that is no accepted sale. -/
theorem idle_exec {e : ReportEvent} (hs : Reachable db c r.stamped.store) (h : r.Idle)
    (hok : r.SellsNothing db e) : (r.exec db queryRaw e).Idle := by
  cases e with
  | call call =>
    constructor
    case carts =>
      by_cases hsells : call.request.MakesSale
      · have hkept := step_of_refused_sale hsells fun haccepted => hok ⟨haccepted, hsells⟩
        show (step db call r.stamped.store).sales.All _
        rw [hkept]
        exact h.carts
      · intro id sale hfind
        have hstep : SaleStep db r.stamped.store call (step db call r.stamped.store).pos :=
          saleStep (wellFormed_of_reachable hs)
        cases hstep.row hfind with
        | opened clock tenantId dto hcall hid hrow =>
          rw [hrow]
          rfl
        | kept sale' hfind' hheader hstatus => rw [hstatus, h.carts id sale' hfind']
        | settled sale' hfind' hheader hbefore => exact absurd (h.carts id sale' hfind') hbefore
        | sold clock tenantId dto totals hcall => exact absurd (hcall ▸ trivial) hsells
        | completed clock tenantId payments sale' hcall => exact absurd (hcall ▸ trivial) hsells
    case jobs =>
      have hdispatches : dispatches db call r.stamped.store = [] := by
        rw [dispatches]
        split
        · next haccepted =>
          obtain ⟨clock, request⟩ := call
          cases request with
          | createSale tenantId dto => exact absurd ⟨haccepted, trivial⟩ hok
          | completeSale tenantId saleId payments => exact absurd ⟨haccepted, trivial⟩ hok
          | createRefund tenantId saleId dto =>
            exact absurd haccepted ((not_accepted_of_carts h.carts).2 clock tenantId saleId dto)
          | _ => rfl
        · rfl
      show r.jobs ++ dispatches db call r.stamped.store = []
      rw [h.jobs, hdispatches]
      rfl
  | work i =>
    have hkept : r.exec db queryRaw (.work i) = r := by
      simp only [ReportStore.exec, h.jobs, List.getElem?_nil]
    rwa [hkept]

/-- A sale that is accepted counts for the summary of its place and day. -/
theorem exists_counts_of_sells (haccepted : Accepted db s call) (hsells : call.request.MakesSale) :
    ∃ key id sale, (step db call s).sales.find? id = some sale ∧ isCounted key sale = true := by
  have hday (sale : Sale) (hstatus : sale.status = .completed) :
      isCounted (dispatchUpdateDailySales sale.tenantId sale.locationId sale.createdAt) sale =
        true := by
    have hwithin : within (dateStr sale.createdAt) sale.createdAt = true := within_iff.mpr rfl
    simp [isCounted, isPlaced, dispatchUpdateDailySales, hstatus, hwithin]
  obtain ⟨clock, request⟩ := call
  cases request with
  | createSale tenantId dto =>
    obtain ⟨items, totals, _, hpos⟩ := pos_of_accepted_createSale haccepted
    refine ⟨_, s.sales.next, _, ?_, hday
      (newSale db clock tenantId (generateSaleNumber clock tenantId s) dto totals) rfl⟩
    show (step db _ s).pos.sales.find? _ = _
    rw [hpos]
    exact (Serial.find?_create _).trans (if_pos rfl)
  | completeSale tenantId saleId payments =>
    obtain ⟨read, totals, hread, hpos⟩ := pos_of_accepted_completeSale haccepted
    obtain ⟨hfind, _⟩ := readComplete_ok hread
    refine ⟨_, saleId, _, ?_, hday (markCompleted db totals read.sale) rfl⟩
    show (step db _ s).pos.sales.find? _ = _
    rw [hpos]
    exact Serial.find?_modify_of_some hfind _
  | _ => exact hsells.elim

end Sales

/-- The worker runs a job. -/
def ReportEvent.IsWork : ReportEvent → Prop
  | .call _ => False
  | .work _ => True

/-- In every run in which no sale is accepted, the summaries are up to date, and with one request
more, whichever jobs run then, they are exactly if that is no accepted sale either. -/
theorem summaries_upToDate_iff
    (hreach : Runs (ReportStore.exec db postgres) (ReportStore.SellsNothing db) (.initial c) r) :
    r.UpToDate db postgres ∧
      ∀ r', Runs (ReportStore.exec db postgres) (fun _ e => e.IsWork)
        (r.exec db postgres (.call call)) r' →
        (r'.UpToDate db postgres ↔ r.SellsNothing db (.call call)) := by
  have hidle (r : ReportStore)
      (h : Runs (ReportStore.exec db postgres) (ReportStore.SellsNothing db) (.initial c) r) :
      r.UpToDate db postgres := by
    obtain ⟨hrefreshed, _, hidle⟩ : Runs (ReportStore.exec db postgres)
        (ReportStore.Refreshed db postgres) (.initial c) r ∧
          Reachable db c r.stamped.store ∧ r.Idle := by
      refine Runs.invariant (I := fun r : ReportStore => Runs (ReportStore.exec db postgres)
        (ReportStore.Refreshed db postgres) (.initial c) r ∧
          Reachable db c r.stamped.store ∧ r.Idle) h
        ⟨Relation.ReflTransGen.refl, Relation.ReflTransGen.refl, idle_initial⟩ ?_
      rintro r e ⟨hrefreshed, hs, hidle⟩ hok
      have hstep := refreshed_of_idle postgres hidle hok
      exact ⟨Relation.ReflTransGen.tail hrefreshed ⟨e, hstep, rfl⟩, reachable_exec hs,
        idle_exec hs hidle hok⟩
    exact summaries_fresh hrefreshed hidle.jobs
  refine ⟨hidle r hreach, fun r' hwork => ⟨fun hfresh hsells => ?_, fun hok => ?_⟩⟩
  · -- The sale counts whichever jobs run, and no summary shows it.
    have hstamped : r'.stamped = (r.exec db postgres (.call call)).stamped := by
      refine Runs.invariant (I := fun r' : ReportStore =>
        r'.stamped = (r.exec db postgres (.call call)).stamped) hwork rfl fun r' e hsame he => ?_
      cases e with
      | call => exact he.elim
      | work i => rw [stamped_work, hsame]
    have hempty : r'.summaries = .empty := by
      have hall : Runs (ReportStore.exec db postgres) (fun _ _ => True) (.initial c) r' :=
        ((hreach.mono fun _ _ _ => trivial).tail ⟨.call call, trivial, rfl⟩).trans
          (hwork.mono fun _ _ _ => trivial)
      exact ReportStore.summaries_eq_empty hall
    obtain ⟨key, id, sale, hfind, hcounted⟩ := exists_counts_of_sells hsells.1 hsells.2
    obtain ⟨summary, hstored⟩ := (hfresh key).2 (.inl ⟨id, sale, hstamped ▸ hfind, hcounted⟩)
    rw [hempty] at hstored
    cases hstored
  · refine hidle r' ((hreach.tail ⟨.call call, hok, rfl⟩).trans (hwork.mono fun _ e he => ?_))
    cases e with
    | call => exact he.elim
    | work => trivial

/-- Goods are received, a cup is put into a cart, and a quick sale is refused for its payment. -/
def cupInCart : ReportStore :=
  ReportStore.execAll .scale4 postgres
    [.call ⟨⟨0, 2024⟩, .stockIn 0 ⟨0, none, none, [⟨0, 10, 1, none⟩]⟩⟩,
      .call ⟨⟨1, 2024⟩, .createCart 0 ⟨0, none, none, none⟩⟩,
      .call ⟨⟨2, 2024⟩, .addCartItem 0 0 ⟨0, 1, some 5, none, none⟩⟩,
      .call ⟨⟨3, 2024⟩, .createSale 0
        ⟨0, none, none, none, [⟨0, 1, some 5, none⟩], [⟨.cash, 1⟩], none⟩⟩]
    (.initial .till)

/-- The completion of the cart. -/
def completeCup : Call := ⟨⟨4, 2024⟩, .completeSale 0 0 [⟨.cash, 5⟩]⟩

theorem summaries_upToDate_iff_cupInCart :
    cupInCart.UpToDate .scale4 postgres ∧
      ∀ r', Runs (ReportStore.exec .scale4 postgres) (fun _ e => e.IsWork)
        (cupInCart.exec .scale4 postgres (.call completeCup)) r' →
        (r'.UpToDate .scale4 postgres ↔ cupInCart.SellsNothing .scale4 (.call completeCup)) :=
  have hreach : Runs (ReportStore.exec .scale4 postgres) (ReportStore.SellsNothing .scale4)
      (.initial .till) cupInCart := Runs.of_allMeet (by decide +kernel)
  summaries_upToDate_iff hreach

/-- A cup is sold and its job has run: the sale counts for the day, which has no summary. -/
theorem cup_leaves_no_summary :
    Runs (ReportStore.exec .scale4 postgres) (fun _ _ => True) (.initial .till) cupSold ∧
    cupSold.jobs = [] ∧ ¬cupSold.UpToDate .scale4 postgres := by
  refine ⟨Runs.of_allMeet (by decide +kernel), by decide +kernel, fun hfresh => ?_⟩
  have hnone : cupSold.summaries.find? firstDay = none := by decide +kernel
  have hcounted : ((cupSold.stamped.store.sales.find? 0).any (isCounted firstDay)) = true := by
    decide +kernel
  obtain ⟨sale, hfind, hsale⟩ := (Option.any_eq_true _ _).mp hcounted
  obtain ⟨summary, hstored⟩ := (hfresh firstDay).2 (.inl ⟨0, sale, hfind, hsale⟩)
  rw [hnone] at hstored
  cases hstored

end Invetrixa
