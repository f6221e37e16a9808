import Invetrixa.Library.Sql
import Invetrixa.Server

/-!
# Daily sales summaries

`ReportingService.generateDailySummary`, the jobs that `PosQueueService` dispatches for it, and the
worker that runs them. Payments and refunds get the moment of their creation as `processedAt`.
A summary is kept for each day, location and tenant, and is computed anew by each job. One of its
columns comes from a raw query, which the database has to answer; `postgres` is the answer of
PostgreSQL, which refuses the query as it is written.

## Main definitions

- `UpdateDailySalesJobData`, `DailySalesSummary` — the key of a summary, and its columns
- `StampedStore`, `ReportStore` — the database with the moments, and with summaries and jobs
- `ReportingService.summarize`, `generateDailySummary`
- `ReportingService.cogsConditions`, `postgres` — the raw query and the answer to it
- `ReportStore.exec` — a request with what it dispatches, or a job that runs

## Main results

- `ReportingService.postgres_eq_error` — the raw query is refused
- `ReportStore.summaries_eq_empty` — and no summary is ever written
-/

namespace Invetrixa

open Rowstore

/-- A day in UTC, as `YYYY-MM-DD` names it, counted from the first of January 1970. -/
abbrev Day := ℕ

/-- The data of a job, which are also the unique key of a summary. -/
structure UpdateDailySalesJobData where
  tenantId : Id
  locationId : Id
  date : Day
  deriving DecidableEq

structure DailySalesSummary where
  totalSales : ℕ
  totalRevenue : ℚ
  totalCOGS : ℚ
  totalDiscount : ℚ
  totalTax : ℚ
  totalRefunds : ℚ
  cashTotal : ℚ
  cardTotal : ℚ
  bkashTotal : ℚ
  nagadTotal : ℚ
  otherTotal : ℚ
  deriving DecidableEq

/-- The database with the `processedAt` of payments and refunds under their ids. -/
structure StampedStore where
  store : Store
  paidAt : Id → ℕ
  refundedAt : Id → ℕ

/-- The summaries, and the jobs that have been dispatched and have not run. -/
structure ReportStore where
  stamped : StampedStore
  summaries : Table UpdateDailySalesJobData DailySalesSummary
  jobs : List UpdateDailySalesJobData

def millisecondsPerDay : ℕ := 24 * 60 * 60 * 1000

namespace PosQueueService

/-- `date.toISOString().split('T')[0]` -/
def dateStr (date : ℕ) : Day := date / millisecondsPerDay

/-- The job for a location and the day of a moment. -/
def dispatchUpdateDailySales (tenantId locationId : Id) (date : ℕ) : UpdateDailySalesJobData :=
  ⟨tenantId, locationId, dateStr date⟩

/-- The jobs that a request dispatches once it has committed. -/
def dispatches (db : Database) (call : Call) (s : Store) : List UpdateDailySalesJobData :=
  if Accepted db s call then
    match call.request with
    | .createSale tenantId dto =>
        -- The sale is created at the moment of the request.
        [dispatchUpdateDailySales tenantId dto.locationId call.clock.time]
    | .completeSale tenantId saleId _ =>
        ((s.sales.find? saleId).map fun sale =>
          dispatchUpdateDailySales tenantId sale.locationId sale.createdAt).toList
    | .createRefund tenantId saleId _ =>
        ((s.sales.find? saleId).map fun sale =>
          dispatchUpdateDailySales tenantId sale.locationId call.clock.time).toList
    | _ => []
  else []

end PosQueueService

namespace ReportingService

/-- `new Date(date)` -/
def targetDate (date : Day) : ℕ := date * millisecondsPerDay

/-- One day later. -/
def nextDate (date : Day) : ℕ := targetDate date + millisecondsPerDay

/-- A moment of the day: `gte: targetDate, lt: nextDate`. -/
def within (date : Day) (time : ℕ) : Bool := targetDate date ≤ time ∧ time < nextDate date

/-- A sale of the tenant at the location. -/
def isPlaced (key : UpdateDailySalesJobData) (sale : Sale) : Bool :=
  sale.tenantId = key.tenantId ∧ sale.locationId = key.locationId

/-- The sales that the aggregates and the raw query count. -/
def isCounted (key : UpdateDailySalesJobData) (sale : Sale) : Bool :=
  isPlaced key sale &&
    (sale.status = .completed ∨ sale.status = .partiallyRefunded ∨ sale.status = .refunded) &&
    within key.date sale.createdAt

/-- The refunds of the day. -/
def isRefunded (key : UpdateDailySalesJobData) (s : StampedStore) (id : Id) (refund : SaleRefund) :
    Bool :=
  refund.tenantId = key.tenantId && within key.date (s.refundedAt id) &&
    (s.store.sales.find? refund.saleId).any fun sale => sale.locationId = key.locationId

/-- The payments of the day, all of which are completed. -/
def isPaid (key : UpdateDailySalesJobData) (s : StampedStore) (id : Id) (payment : SalePayment) :
    Bool :=
  (s.store.sales.find? payment.saleId).any (isPlaced key) && within key.date (s.paidAt id)

/-- `sale.aggregate`: the number of sales that count. -/
def countSales (key : UpdateDailySalesJobData) (s : StampedStore) : ℕ :=
  s.store.sales.sum fun _ sale => if isCounted key sale then 1 else 0

/-- `sale.aggregate`: the sum of a column. -/
def sumSales (key : UpdateDailySalesJobData) (s : StampedStore) (column : Sale → ℚ) : ℚ :=
  s.store.sales.sum fun _ sale => if isCounted key sale then column sale else 0

/-- The sum that the raw query asks for. -/
def sumCOGS (key : UpdateDailySalesJobData) (s : StampedStore) : ℚ :=
  s.store.saleItems.sum fun _ item =>
    if (s.store.sales.find? item.saleId).any (isCounted key) then item.quantity * item.unitCost
    else 0

/-- `saleRefund.aggregate` -/
def sumRefunds (key : UpdateDailySalesJobData) (s : StampedStore) : ℚ :=
  s.store.saleRefunds.sum fun id refund => if isRefunded key s id refund then refund.amount else 0

/-- `salePayment.groupBy`: the sum of the payments by the methods that `p` selects. -/
def sumPayments (key : UpdateDailySalesJobData) (s : StampedStore) (p : PaymentMethod → Bool) : ℚ :=
  s.store.salePayments.sum fun id payment =>
    if isPaid key s id payment && p payment.method then payment.amount else 0

/-- The methods without a total of their own. -/
def isOther : PaymentMethod → Bool
  | .cash | .card | .bkash | .nagad => false
  | _ => true

/-- The conditions of the raw query. The list belongs to `IN`, so that the cast after it is one of
the whole test. -/
def cogsConditions : Sql.Expr :=
  Sql.conj (.compare "=" (.column "s.tenantId" .text) (.parameter 1))
    [.compare "=" (.column "s.locationId" .text) (.parameter 2),
      .cast (.isIn (.column "s.status" (.enum "SaleStatus"))
        ["COMPLETED", "PARTIALLY_REFUNDED", "REFUNDED"]) (.enum "SaleStatus"),
      .compare ">=" (.column "s.createdAt" .timestamp) (.parameter 3),
      .compare "<" (.column "s.createdAt" .timestamp) (.parameter 4)]

/-- A raw query that the database refuses (P2010), for which the exception filter has no case. -/
def rawQueryFailed : HttpError := .internal "Database operation failed"

/-- The answer of PostgreSQL to the raw query: the sum it asks for, if its conditions are taken. -/
def postgres (totalCOGS : ℚ) : Except HttpError ℚ :=
  if cogsConditions.typeOf = .ok .boolean then .ok totalCOGS else .error rawQueryFailed

/-- The raw query casts a condition to the type of a status, which PostgreSQL refuses. -/
theorem postgres_eq_error (totalCOGS : ℚ) : postgres totalCOGS = .error rawQueryFailed := by
  refine if_neg fun htype => ?_
  obtain ⟨_, hconditions⟩ := Sql.boolean_of_typeOf_conj (List.cons_ne_nil _ _) htype
  have hcast := hconditions _ (List.mem_cons_of_mem _ List.mem_cons_self)
  rw [Sql.Expr.typeOf_cast_enum rfl] at hcast
  cases hcast

/-- The columns of a summary. The answer of the database to the raw query is a parameter: it is the
sum that is asked for, or an error. -/
def summarize (db : Database) (queryRaw : ℚ → Except HttpError ℚ) (key : UpdateDailySalesJobData)
    (s : StampedStore) : Except HttpError DailySalesSummary := do
  let totalCOGS ← queryRaw (sumCOGS key s)
  return {
    totalSales := countSales key s
    totalRevenue := db.decimal (sumSales key s Sale.totalAmount)
    totalCOGS := db.decimal totalCOGS
    totalDiscount := db.decimal (sumSales key s Sale.discountAmount)
    totalTax := db.decimal (sumSales key s Sale.taxAmount)
    totalRefunds := db.decimal (sumRefunds key s)
    cashTotal := db.decimal (sumPayments key s (· = .cash))
    cardTotal := db.decimal (sumPayments key s (· = .card))
    bkashTotal := db.decimal (sumPayments key s (· = .bkash))
    nagadTotal := db.decimal (sumPayments key s (· = .nagad))
    otherTotal := db.decimal (sumPayments key s isOther) }

/-- Compute the summary of a key, and store it. -/
def generateDailySummary (db : Database) (queryRaw : ℚ → Except HttpError ℚ)
    (key : UpdateDailySalesJobData) (r : ReportStore) : Except HttpError ReportStore := do
  let summary ← summarize db queryRaw key r.stamped
  return { r with summaries := r.summaries.upsert key summary fun _ => summary }

/-- A summary whose raw query is refused is not written. -/
theorem generateDailySummary_eq_error (db : Database) (key : UpdateDailySalesJobData)
    (r : ReportStore) : generateDailySummary db postgres key r = .error rawQueryFailed := by
  rw [generateDailySummary, summarize, postgres_eq_error]
  rfl

end ReportingService

/-- The rows from `next` on are created at a moment. -/
def stamp (next time : ℕ) (processedAt : Id → ℕ) (id : Id) : ℕ :=
  if id < next then processedAt id else time

/-- The database after a request, whose payments and refunds get its moment. -/
def StampedStore.step (db : Database) (call : Call) (s : StampedStore) : StampedStore where
  store := Invetrixa.step db call s.store
  paidAt := stamp s.store.salePayments.next call.clock.time s.paidAt
  refundedAt := stamp s.store.saleRefunds.next call.clock.time s.refundedAt

inductive ReportEvent
  /-- a request, with what it dispatches -/
  | call (call : Call)
  /-- the worker runs one of the jobs -/
  | work (i : ℕ)

namespace ReportStore

/-- Neither sales nor summaries. -/
def initial (c : Catalogue) : ReportStore := ⟨⟨Store.initial c, fun _ => 0, fun _ => 0⟩, .empty, []⟩

/-- A job runs once; one that fails is not tried again. -/
def exec (db : Database) (queryRaw : ℚ → Except HttpError ℚ) (e : ReportEvent) (r : ReportStore) :
    ReportStore :=
  match e with
  | .call call =>
    { r with
      stamped := r.stamped.step db call
      jobs := r.jobs ++ PosQueueService.dispatches db call r.stamped.store }
  | .work i =>
    match r.jobs[i]? with
    | none => r
    | some job =>
      let r := { r with jobs := r.jobs.eraseIdx i }
      match ReportingService.generateDailySummary db queryRaw job r with
      | .ok r => r
      | .error _ => r

/-- No summary is ever written. -/
theorem summaries_eq_empty {db : Database} {c : Catalogue} {ok : ReportStore → ReportEvent → Prop}
    {r : ReportStore}
    (h : Requests.Runs (ReportStore.exec db ReportingService.postgres) ok (.initial c) r) :
    r.summaries = .empty := by
  refine Requests.Runs.invariant (I := fun r : ReportStore => r.summaries = .empty) h rfl
    fun r e hempty _ => ?_
  cases e with
  | call call => exact hempty
  | work i =>
    rw [exec]
    dsimp only
    split
    · exact hempty
    · rw [ReportingService.generateDailySummary_eq_error]
      exact hempty

/-- The reports after a list of events. -/
def execAll (db : Database) (queryRaw : ℚ → Except HttpError ℚ) (events : List ReportEvent)
    (r : ReportStore) : ReportStore :=
  events.foldl (fun r e => r.exec db queryRaw e) r

end ReportStore

end Invetrixa
