import Invetrixa.Pos.Reporting
import Invetrixa.Refinement.SaleAmounts

/-!
# The balance of a daily summary

Revenue counts the sales of a day that are not voided, the totals by method count all payments of
the day. Of sales that are completed on the day they are created, the payments less the change come
to the revenue exactly when nothing was paid for a sale that has been voided since. They never do in
a summary that is written, because the raw query for the cost of the sales is refused.

## Main definitions

- `ReportStore.Kept` — the amounts of a request are such as the columns keep
- `StampedStore.SameDay` — sales are created and paid on the same day
- `VoidedOn` — the voided sales of a day
- `Balances` — the summary of a day is written, and balances

## Main results

- `sum_payments` — the payments of a day are those of its sales
- `balances_iff` — what a summary that balances takes, of the database and of the sales
- `daily_summary_never_written`, `cup_without_summary`
-/

namespace Invetrixa

open Rowstore Requests SaleService ReportingService

/-- The amounts of the request are such as the columns keep. -/
def ReportStore.Kept (db : Database) (r : ReportStore) : ReportEvent → Prop
  | .call call => MoneyKept db r.stamped.store call
  | .work _ => True

instance (db : Database) (r : ReportStore) : DecidablePred (r.Kept db)
  | .call call => inferInstanceAs (Decidable (MoneyKept db r.stamped.store call))
  | .work _ => isTrue trivial

/-- The sales of the place are paid on the day when, and only when, they are created on it. -/
def StampedStore.SameDay (key : UpdateDailySalesJobData) (s : StampedStore) : Prop :=
  ∀ k payment sale, s.store.salePayments.find? k = some payment →
    s.store.sales.find? payment.saleId = some sale → isPlaced key sale = true →
    within key.date (s.paidAt k) = within key.date sale.createdAt

/-- The change given on the sales that count. -/
def changeGiven (key : UpdateDailySalesJobData) (s : StampedStore) : ℚ :=
  sumSales key s Sale.changeAmount

/-- The totals by method, less the change given and the revenue. -/
def DailySalesSummary.balance (summary : DailySalesSummary) (key : UpdateDailySalesJobData)
    (s : StampedStore) : ℚ :=
  summary.cashTotal + summary.cardTotal + summary.bkashTotal + summary.nagadTotal +
    summary.otherTotal - changeGiven key s - summary.totalRevenue

/-- The summary that is written for the key balances. -/
def Balances (db : Database) (queryRaw : ℚ → Except HttpError ℚ) (key : UpdateDailySalesJobData)
    (r : ReportStore) : Prop :=
  ∃ r' summary, generateDailySummary db queryRaw key r = .ok r' ∧
    r'.summaries.find? key = some summary ∧ summary.balance key r.stamped = 0

/-- A sale of the place that was created on the day. -/
def isOfDay (key : UpdateDailySalesJobData) (sale : Sale) : Bool :=
  isPlaced key sale && within key.date sale.createdAt

/-- A sale of the day that has been voided. -/
def VoidedOn (key : UpdateDailySalesJobData) (sale : Sale) : Prop :=
  isOfDay key sale = true ∧ sale.status = .voided

instance (key : UpdateDailySalesJobData) (sale : Sale) : Decidable (VoidedOn key sale) :=
  inferInstanceAs (Decidable (_ ∧ _))

/-- Payments are kept amounts that are not negative. -/
def PosTables.PaymentsLawful (db : Database) (t : PosTables) : Prop :=
  t.salePayments.All fun _ p => 0 ≤ p.amount ∧ db.Keeps p.amount

/-- A sale is a cart, or completed, and then perhaps voided or refunded. -/
def PosTables.Progressed (t : PosTables) : Prop := t.sales.All fun _ sale =>
  sale.status = .draft ∨ sale.status = .voided ∨
    sale.status = .completed ∨ sale.status = .partiallyRefunded ∨ sale.status = .refunded

variable {db : Database} {c : Catalogue} {queryRaw : ℚ → Except HttpError ℚ} {r r' : ReportStore}
  {s : Store} {call : Call} {t : PosTables} {key : UpdateDailySalesJobData}

section Invariants

/-- A job leaves the database as it is. -/
theorem stamped_work (i : ℕ) : (r.exec db queryRaw (.work i)).stamped = r.stamped := by
  rw [ReportStore.exec]
  dsimp only
  split
  · rfl
  · rw [generateDailySummary]
    cases summarize db queryRaw _ r.stamped with
    | error e => rfl
    | ok summary => rfl

/-- The requests among the events are a run of the server. -/
theorem reachable_of_events {ok : ReportStore → ReportEvent → Prop} {ok' : Store → Call → Prop}
    (h : Runs (ReportStore.exec db queryRaw) ok (.initial c) r)
    (hok : ∀ r call, ok r (.call call) → ok' r.stamped.store call) :
    ReachableBy db ok' c r.stamped.store := by
  refine Runs.invariant (I := fun r : ReportStore => ReachableBy db ok' c r.stamped.store) h
    Relation.ReflTransGen.refl fun r e hr he => ?_
  cases e with
  | call call => exact Relation.ReflTransGen.tail hr ⟨call, hok r call he, rfl⟩
  | work i =>
    rw [stamped_work]
    exact hr

theorem paymentsLawful_step (hI : s.pos.PaymentsLawful db) (hkept : MoneyKept db s call)
    (h : SaleStep db s call t) : t.PaymentsLawful db := by
  cases h with
  | sold clock tenantId dto rows totals hpasses hread =>
    refine Serial.All_foldl_create (P := fun p : SalePayment => 0 ≤ p.amount ∧ db.Keeps p.amount)
      dto.payments hI fun payment hmem => ?_
    have hkeeps : db.Keeps payment.amount := hkept.2.2 payment hmem
    refine ⟨?_, db.decimal_idem _⟩
    dsimp only
    rw [hkeeps]
    exact le_trans (by norm_num) (hpasses.1.2.1 payment hmem)
  | completed clock tenantId saleId payments read totals hpasses hread =>
    refine Serial.All_foldl_create (P := fun p : SalePayment => 0 ≤ p.amount ∧ db.Keeps p.amount)
      payments hI fun payment hmem => ?_
    have hkeeps : db.Keeps payment.amount := hkept payment hmem
    refine ⟨?_, db.decimal_idem _⟩
    dsimp only
    rw [hkeeps]
    exact hpasses.1 payment hmem
  | cleaned clock hrefunds => exact hI.deleteWhere _
  | _ => exact hI

theorem progressed_step (hI : s.pos.Progressed) (h : SaleStep db s call t) : t.Progressed := by
  cases h with
  | kept => exact hI
  | opened clock tenantId dto => exact Serial.All_create hI (.inl rfl)
  | written _ cartId cart saleItems hfind hdraft hedit =>
    exact Table.All.modify hI fun _ _ h => h
  | sold clock tenantId dto rows totals hpasses hread =>
    exact Serial.All_create hI (.inr (.inr (.inl rfl)))
  | completed clock tenantId saleId payments read totals hpasses hread =>
    exact Table.All.modify hI fun _ _ _ => .inr (.inr (.inl rfl))
  | voided clock tenantId saleId read hread =>
    exact Table.All.modify hI fun _ _ _ => .inr (.inl rfl)
  | refunded clock tenantId saleId dto read total hvalid hread =>
    refine Table.All.modify hI fun _ _ _ => .inr (.inr (.inr ?_))
    exact (refundStatus_refunded read.sale total dto.amount).symm
  | cleaned clock hrefunds => exact Table.All.deleteWhere hI _

theorem paymentsLawful_of_reachable (h : ReachableBy db (MoneyKept db) c s) :
    s.pos.PaymentsLawful db :=
  pos_invariant h (fun _ _ hp => (by cases hp)) fun _ _ _ _ hI hkept => paymentsLawful_step hI hkept

theorem progressed_of_reachable {ok : Store → Call → Prop} (h : ReachableBy db ok c s) :
    s.pos.Progressed :=
  pos_invariant h (fun _ _ hfind => (by cases hfind)) fun _ _ _ _ hI _ => progressed_step hI

end Invariants

section Sums

variable {x : StampedStore}

/-- The totals by method are together the payments of the day. -/
theorem sum_methods (key : UpdateDailySalesJobData) (x : StampedStore) :
    sumPayments key x (· = .cash) + sumPayments key x (· = .card) + sumPayments key x (· = .bkash) +
      sumPayments key x (· = .nagad) + sumPayments key x isOther =
    x.store.salePayments.sum fun id payment =>
      if isPaid key x id payment then payment.amount else 0 := by
  simp only [sumPayments]
  rw [← Table.sum_add, ← Table.sum_add, ← Table.sum_add, ← Table.sum_add]
  refine Table.sum_congr fun id payment _ => ?_
  by_cases hpaid : isPaid key x id payment = true
  · simp only [hpaid]
    cases payment.method <;> simp [isOther]
  · simp [hpaid]

/-- The payments of a day are those of the sales of the day. -/
theorem sum_payments (hpayments : x.store.pos.PaymentsSound) (hsame : x.SameDay key) :
    (x.store.salePayments.sum fun id payment =>
      if isPaid key x id payment then payment.amount else 0) =
    x.store.sales.sum fun id sale =>
      if isOfDay key sale then paymentTotal id x.store.salePayments else 0 := by
  have hrow (k : Id) (payment : SalePayment) (hfind : x.store.salePayments.find? k = some payment) :
      (if isPaid key x k payment then payment.amount else 0) =
        x.store.sales.sum fun id sale =>
          if id = payment.saleId ∧ isOfDay key sale = true then payment.amount else 0 := by
    obtain ⟨sale, hsale, _⟩ := hpayments k payment hfind
    rw [Table.sum_ite_key_and]
    have hsale' : x.store.sales.find? payment.saleId = some sale := hsale
    unfold isPaid isOfDay
    rw [hsale', Option.any_some, Option.any_some]
    by_cases hplaced : isPlaced key sale = true
    · rw [hsame k payment sale hfind hsale' hplaced]
    · simp [hplaced]
  rw [Table.sum_congr hrow, Table.sum_comm]
  refine Table.sum_congr fun id sale _ => ?_
  rw [paymentTotal]
  by_cases hday : isOfDay key sale = true
  · simp only [hday, and_true, if_true, eq_comm]
  · simp [hday, Table.sum_eq_zero]

/-- The payments of a day are the change and the revenue of the sales that count, and what was paid
for the voided ones. -/
theorem sum_payments_of_reachable
    (hsub : ∀ x y, db.decimal x = x → db.decimal y = y → db.decimal (x - y) = x - y)
    (h : ReachableBy db (MoneyKept db) c x.store) (hsame : x.SameDay key) :
    (x.store.salePayments.sum fun id payment =>
      if isPaid key x id payment then payment.amount else 0) =
    changeGiven key x + sumSales key x Sale.totalAmount +
      x.store.sales.sum fun _ sale => if VoidedOn key sale then sale.paidAmount else 0 := by
  have hpayments := paymentsSound_of_reachable h
  have hsound := moneySound_of_reachable hsub h
  rw [sum_payments hpayments hsame, changeGiven, sumSales, sumSales, ← Table.sum_add,
    ← Table.sum_add]
  refine Table.sum_congr fun id sale hfind => ?_
  -- A cart has no payments; what a sale was paid is its total and the change.
  by_cases hdraft : sale.status = .draft
  · have hnone : paymentTotal id x.store.salePayments = 0 := by
      refine paymentTotal_eq_zero hpayments ?_
      rintro ⟨sale', hfind', hstatus⟩
      obtain rfl := Option.some.inj (hfind.symm.trans hfind')
      exact hstatus hdraft
    simp [hnone, isCounted, VoidedOn, hdraft]
  · obtain ⟨hpaid, hchange, _⟩ := hsound.paid id sale hfind hdraft
    have hpaid' : sale.paidAmount = sale.changeAmount + sale.totalAmount := by
      rw [hchange, sub_add_cancel]
    have hpaid'' : paymentTotal id x.store.salePayments = sale.paidAmount := hpaid.symm
    rw [hpaid'']
    unfold isCounted VoidedOn isOfDay
    rcases progressed_of_reachable h id sale hfind with hstatus | hstatus | hstatus
    · exact absurd hstatus hdraft
    · simp [hstatus]
    · have hnot : sale.status ≠ .voided := by
        rcases hstatus with hstatus | hstatus | hstatus <;> rw [hstatus] <;> decide
      simp only [hstatus, hnot, decide_true, Bool.and_true, and_false, if_false, add_zero]
      split
      · exact hpaid'
      · exact (add_zero 0).symm

theorem keeps_sum
    (hsub : ∀ x y, db.decimal x = x → db.decimal y = y → db.decimal (x - y) = x - y)
    {κ ρ : Type*} [DecidableEq κ] {t : Table κ ρ} {g : κ → ρ → ℚ}
    (hg : ∀ k r, t.find? k = some r → db.Keeps (g k r)) : db.Keeps (t.sum g) := by
  refine decimal_sum hsub fun x hx => ?_
  obtain ⟨row, hrow, rfl⟩ := List.mem_map.mp hx
  exact hg row.1 row.2 (Table.find?_of_mem_rows hrow)

theorem keeps_sumPayments
    (hsub : ∀ x y, db.decimal x = x → db.decimal y = y → db.decimal (x - y) = x - y)
    (h : ReachableBy db (MoneyKept db) c x.store) (p : PaymentMethod → Bool) :
    db.Keeps (sumPayments key x p) := by
  refine keeps_sum hsub fun k payment hfind => ?_
  obtain ⟨_, hkeeps⟩ := paymentsLawful_of_reachable h k payment hfind
  split
  · exact hkeeps
  · exact decimal_zero hsub

theorem keeps_sumSales
    (hsub : ∀ x y, db.decimal x = x → db.decimal y = y → db.decimal (x - y) = x - y)
    (h : ReachableBy db (MoneyKept db) c x.store) :
    db.Keeps (sumSales key x Sale.totalAmount) := by
  refine keeps_sum hsub fun k sale hfind => ?_
  split
  · exact keeps_totalAmount hsub (moneySound_of_reachable hsub h) hfind
  · exact decimal_zero hsub

end Sums

/-- In every run with amounts such as the columns keep, on a day on which the sales of the place are
both created and completed: a summary that balances is written exactly if the database answers the
raw query, and nothing was paid for any voided sale of the day. -/
theorem balances_iff
    (hsub : ∀ x y, db.decimal x = x → db.decimal y = y → db.decimal (x - y) = x - y)
    (hreach : Runs (ReportStore.exec db queryRaw) (ReportStore.Kept db) (.initial c) r)
    (hsame : r.stamped.SameDay key) :
    Balances db queryRaw key r ↔
      (∃ totalCOGS, queryRaw (sumCOGS key r.stamped) = .ok totalCOGS) ∧
        ∀ id sale, r.stamped.store.sales.find? id = some sale → VoidedOn key sale →
          sale.paidAmount = 0 := by
  have hstore : ReachableBy db (MoneyKept db) c r.stamped.store :=
    reachable_of_events hreach fun _ _ hkept => hkept
  have hcolumns (totalCOGS : ℚ) (hanswer : queryRaw (sumCOGS key r.stamped) = .ok totalCOGS) :
      ∃ summary, generateDailySummary db queryRaw key r =
          .ok { r with summaries := r.summaries.upsert key summary fun _ => summary } ∧
        (summary.balance key r.stamped = 0 ↔
          ∀ id sale, r.stamped.store.sales.find? id = some sale → VoidedOn key sale →
            sale.paidAmount = 0) := by
    rw [generateDailySummary, summarize, hanswer]
    refine ⟨_, rfl, ?_⟩
    dsimp only [DailySalesSummary.balance]
    rw [keeps_sumPayments hsub hstore, keeps_sumPayments hsub hstore, keeps_sumPayments hsub hstore,
      keeps_sumPayments hsub hstore, keeps_sumPayments hsub hstore, keeps_sumSales hsub hstore,
      sum_methods, sum_payments_of_reachable hsub hstore hsame, add_assoc, add_sub_cancel_left,
      add_sub_cancel_left, Table.sum_eq_zero_iff]
    · -- The difference is what is kept of voided sales, a sum of amounts that are not negative.
      refine forall₃_congr fun id sale _ => ?_
      rw [ite_eq_right_iff]
    · intro id sale hfind
      split
      · next hvoided =>
        have hsound := moneySound_of_reachable hsub hstore
        have hpaid := (hsound.paid id sale hfind (by rw [hvoided.2]; decide)).paid
        rw [hpaid]
        refine Table.sum_nonneg fun k payment hpayment => ?_
        obtain ⟨hnonneg, _⟩ := paymentsLawful_of_reachable hstore k payment hpayment
        split
        · exact hnonneg
        · exact le_refl 0
      · exact le_refl 0
  constructor
  · rintro ⟨r', summary, hwritten, hstored, hbalance⟩
    obtain ⟨_, hsummary, _⟩ := Except.bind_eq_ok_iff.mp hwritten
    obtain ⟨totalCOGS, hanswer, _⟩ := Except.bind_eq_ok_iff.mp hsummary
    obtain ⟨summary', hwritten', hiff⟩ := hcolumns totalCOGS hanswer
    obtain rfl := Except.ok.inj (hwritten.symm.trans hwritten')
    obtain rfl := Option.some.inj (hstored.symm.trans ((Table.find?_upsert_const _).trans
      (if_pos rfl)))
    exact ⟨⟨totalCOGS, hanswer⟩, hiff.mp hbalance⟩
  · rintro ⟨⟨totalCOGS, hanswer⟩, hvoided⟩
    obtain ⟨summary, hwritten, hiff⟩ := hcolumns totalCOGS hanswer
    exact ⟨_, summary, hwritten, (Table.find?_upsert_const _).trans (if_pos rfl), hiff.mpr hvoided⟩

/-- In every run, whatever is sold, voided and given back: a summary that balances is never written,
for any tenant, location and day, since none is written at all. -/
theorem daily_summary_never_written {ok : ReportStore → ReportEvent → Prop}
    (hreach : Runs (ReportStore.exec db postgres) ok (.initial c) r) :
    ¬Balances db postgres key r ∧ r.summaries = .empty := by
  refine ⟨?_, ReportStore.summaries_eq_empty hreach⟩
  rintro ⟨r', summary, hwritten, _⟩
  rw [generateDailySummary_eq_error] at hwritten
  cases hwritten

/-- The first day at the front of the shop. -/
def firstDay : UpdateDailySalesJobData := ⟨0, 0, 0⟩

/-- Two cups at five are sold, one of them paid with a ten note; five are given back the next day,
and the jobs of both days run. -/
def cupsOfDay : ReportStore :=
  ReportStore.execAll .scale4 postgres
    [.call ⟨⟨0, 2024⟩, .stockIn 0 ⟨0, none, none, [⟨0, 10, 1, none⟩]⟩⟩,
      .call ⟨⟨1, 2024⟩, .createSale 0
        ⟨0, none, none, none, [⟨0, 1, some 5, none⟩], [⟨.cash, 10⟩], none⟩⟩,
      .call ⟨⟨2, 2024⟩, .createSale 0
        ⟨0, none, none, none, [⟨0, 1, some 5, none⟩], [⟨.card, 2⟩, ⟨.rocket, 3⟩], none⟩⟩,
      .work 0,
      .call ⟨⟨millisecondsPerDay, 2024⟩, .createRefund 0 0 ⟨5, .cash, none⟩⟩, .work 0, .work 0]
    (.initial .till)

theorem daily_summary_never_written_cups :
    ¬Balances .scale4 postgres firstDay cupsOfDay ∧ cupsOfDay.summaries = .empty :=
  have hreach : Runs (ReportStore.exec .scale4 postgres) (ReportStore.Kept .scale4) (.initial .till)
      cupsOfDay := Runs.of_allMeet (by decide +kernel)
  daily_summary_never_written hreach

/-- A cup at five is sold, and the job of the day runs. -/
def cupSold : ReportStore :=
  ReportStore.execAll .scale4 postgres
    [.call ⟨⟨0, 2024⟩, .stockIn 0 ⟨0, none, none, [⟨0, 10, 1, none⟩]⟩⟩,
      .call ⟨⟨1, 2024⟩, .createSale 0
        ⟨0, none, none, none, [⟨0, 1, some 5, none⟩], [⟨.cash, 5⟩], none⟩⟩,
      .work 0]
    (.initial .till)

/-- The sale counts, with its payment, and there is no summary that shows it. -/
theorem cup_without_summary :
    Runs (ReportStore.exec .scale4 postgres) (ReportStore.Kept .scale4) (.initial .till) cupSold ∧
    sumSales firstDay cupSold.stamped Sale.totalAmount = 5 ∧
    sumPayments firstDay cupSold.stamped (· = .cash) = 5 ∧
    ¬Balances .scale4 postgres firstDay cupSold := by
  refine ⟨Runs.of_allMeet (by decide +kernel), by decide +kernel, by decide +kernel, ?_⟩
  rintro ⟨r', summary, hwritten, _⟩
  rw [generateDailySummary_eq_error] at hwritten
  cases hwritten

end Invetrixa
