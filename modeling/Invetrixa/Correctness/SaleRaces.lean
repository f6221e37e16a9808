import Invetrixa.Library.Loops
import Invetrixa.Refinement.SaleSteps

/-!
# Sales under interleaved requests

A completion, a void and a refund each read the sale with the plain client, check its status and
what has been refunded of it, and commit in a transaction that reads the sale no more. As long as
a completion still finds a cart, a void a completed sale, and a refund one that is not voided and
of which the amount is left, payments and stock are recorded once, stock is taken back once, and
no more is refunded than was paid. Two completions that both read the cart before either commits
record it twice.

## Main definitions

- `SaleRequest`, `Settlement` — the requests on one sale, and what each has read when it commits
- `SaleHistory` — a store with an account of the completions and voids that took effect
- `Timely` — the condition on a transaction

## Main results

- `recorded_of_interleaved` — what the completions and voids of a history have left in the tables
- `settled_once`, `completed_twice`
-/

namespace Invetrixa

open Rowstore Requests MovementService SaleService RefundService

/-- The requests that settle a sale. -/
inductive SaleRequest
  | complete (tenantId : Id) (payments : List PaymentDto)
  | void (tenantId : Id)
  | refund (clock : Clock) (tenantId : Id) (dto : CreateRefundDto)

/-- A request that has read and not yet committed, with what it has read. -/
inductive Settlement
  | complete (tenantId : Id) (payments : List PaymentDto) (read : SaleWithItems)
      (totals : SaleTotals)
  | void (tenantId : Id) (read : SaleWithItems)
  | refund (clock : Clock) (tenantId : Id) (dto : CreateRefundDto) (read : SaleWithItems)
      (total : ℚ)

/-- The read of a request, with its checks. -/
def SaleRequest.read (saleId : Id) (s : Store) : SaleRequest → Option Settlement
  | .complete tenantId payments => (readComplete tenantId saleId payments s).toOption.map fun x =>
      .complete tenantId payments x.1 x.2
  | .void tenantId => (readVoid tenantId saleId s).toOption.map (.void tenantId)
  | .refund clock tenantId dto => (readRefund tenantId saleId dto s).toOption.map fun x =>
      .refund clock tenantId dto x.1 x.2

namespace Settlement

/-- The transaction of a request. -/
def commit (db : Database) (saleId : Id) (s : Store) : Settlement → Except HttpError (Unit × Store)
  | .complete tenantId payments read totals =>
    executeCompletionTransaction db tenantId saleId payments read totals s s
  | .void tenantId read => executeVoidTransaction db tenantId saleId read s
  | .refund clock tenantId dto read total => do
    let (_, s) ← executeRefund db clock tenantId saleId dto read total s s
    return ((), s)

/-- The checks that a transaction makes itself let it pass. -/
def passes (db : Database) (saleId : Id) (s : Store) : Settlement → Bool
  | .complete tenantId _ read _ => (validateStockOut tenantId (completionOut saleId read) s).isOk
  | .void _ _ => true
  | .refund clock tenantId dto read _ => Except.isOk do
    let (refundId, s') ← insertRefund
      { saleId
        tenantId
        refundNumber := generateRefundNumber clock tenantId s
        amount := db.decimal dto.amount
        method := dto.method } s
    returnStock db clock tenantId refundId dto read s s'

/-- The payments of a completion. -/
def completions : Settlement → List (List PaymentDto)
  | .complete _ payments _ _ => [payments]
  | _ => []

def voids : Settlement → ℕ
  | .void _ _ => 1
  | _ => 0

/-- What was read, the items in particular. -/
def sale : Settlement → SaleWithItems
  | .complete _ _ read _ | .void _ read | .refund _ _ _ read _ => read

end Settlement

/-- A store, the payments of the completions that took effect, and how many voids did. -/
structure SaleHistory where
  store : Store
  completions : List (List PaymentDto)
  voids : ℕ

/-- The requests on one sale, in two steps. A transaction that fails writes nothing. -/
def saleRequests (db : Database) (saleId : Id) : ReadCommit SaleHistory SaleRequest Settlement where
  read r h := r.read saleId h.store
  commit _ w h :=
    match w.commit db saleId h.store with
    | .ok (_, store) => ⟨store, h.completions ++ w.completions, h.voids + w.voids⟩
    | .error _ => h

/-- Nothing is in flight and nothing has taken effect. -/
abbrev SaleHistory.start (s : Store) : ReadCommit.Config SaleHistory SaleRequest Settlement :=
  ⟨⟨s, [], 0⟩, []⟩

/-- The transaction comes in time: a completion finds a cart, a void a completed sale, and a refund
one that is not voided and of which the amount is left. Where the transaction's own checks refuse
it nothing is asked. -/
def Timely (db : Database) (saleId : Id) (s : Store) (w : Settlement) : Prop :=
  w.passes db saleId s = true → ∀ sale ∈ s.sales.find? saleId,
    match w with
    | .complete _ _ _ _ => sale.status = .draft
    | .void _ _ => sale.status = .completed
    | .refund _ _ dto _ _ => sale.status ≠ .voided ∧
        totalRefunded saleId s + db.decimal dto.amount ≤ sale.paidAmount - sale.changeAmount

instance (db : Database) (saleId : Id) (s : Store) (w : Settlement) :
    Decidable (Timely db saleId s w) := by
  obtain ⟨⟩ := w
  all_goals dsimp only [Timely]; infer_instance

/-- The payments of a sale. -/
def Store.paymentsOf (s : Store) (saleId : Id) : List SalePayment :=
  (s.salePayments.rows.filter fun r => r.2.saleId = saleId).map Prod.snd

/-- How many movements of a type are recorded for a sale and a product. -/
def Store.saleMoves (s : Store) (saleId : Id) (type : StockMovementType) (p : Id) : ℕ :=
  s.movements.sum fun _ m =>
    if m.referenceType = .sale ∧ m.referenceId = some (.id saleId) ∧ m.movementType = type ∧
      m.productId = p then 1 else 0

/-- How many items of a product a sale has. -/
def Store.itemCount (s : Store) (saleId p : Id) : ℕ :=
  (s.itemsOf saleId).countP fun r => r.2.productId = p

/-- The history explains the tables: the payments of the completions were added, and each item was
taken out of stock once for each completion and put back once for each void. -/
structure Recorded (db : Database) (saleId : Id) (s₀ : Store) (h : SaleHistory) : Prop where
  saleItems : h.store.saleItems = s₀.saleItems
  payments : h.store.paymentsOf saleId = s₀.paymentsOf saleId ++
    h.completions.flatten.map fun payment =>
      { saleId, amount := db.decimal payment.amount, method := payment.method }
  out : ∀ p, h.store.saleMoves saleId .out p =
    s₀.saleMoves saleId .out p + h.completions.length * s₀.itemCount saleId p
  «in» : ∀ p, h.store.saleMoves saleId .in p =
    s₀.saleMoves saleId .in p + h.voids * s₀.itemCount saleId p

variable {db : Database} {c : Catalogue} {clock : Clock} {tenantId saleId p : Id}
  {s s' s₀ : Store} {sale₀ : Sale} {w w' : Settlement} {type : StockMovementType}

section Recording

theorem saleMoves_createMovement (m : StockMovement) :
    (createMovement db m s).saleMoves saleId type p = s.saleMoves saleId type p +
      if m.referenceType = .sale ∧ m.referenceId = some (.id saleId) ∧ m.movementType = type ∧
        m.productId = p then 1 else 0 := by
  simp only [Store.saleMoves, createMovement, Serial.sum_create]

/-- A loop that makes one movement of a type for each item of a sale. -/
theorem saleMoves_foldl {β : Type} {f : Store → β → Store} {product : β → Id}
    {made : StockMovementType}
    (hf : ∀ (s : Store) (x : β), (f s x).saleMoves saleId type p = s.saleMoves saleId type p +
      if made = type ∧ product x = p then 1 else 0) (items : List β) (s : Store) :
    (items.foldl f s).saleMoves saleId type p = s.saleMoves saleId type p +
      if made = type then items.countP fun x => product x = p else 0 := by
  induction items generalizing s with
  | nil => simp
  | cons x rest ih =>
    rw [List.foldl_cons, ih, hf, List.countP_cons, add_assoc]
    congr 1
    by_cases hmade : made = type
    · simp [hmade, add_comm]
    · simp [hmade]

theorem saleMoves_saleStockOut (locationId : Id) (items : List (Id × ℤ)) :
    (executeStockOut db tenantId (saleStockOut locationId saleId items) s).2.saleMoves saleId type p =
      s.saleMoves saleId type p +
        if .out = type then items.countP fun x => x.1 = p else 0 := by
  rw [executeStockOut_eq]
  refine saleMoves_foldl (fun s x => ?_) items s
  rw [recordIssue_eq]
  refine (saleMoves_createMovement _).trans ?_
  congr 1
  refine if_congr ?_ rfl rfl
  exact ⟨fun h => h.2.2, fun h => ⟨rfl, rfl, h⟩⟩

theorem saleMoves_voidItems (locationId : Id) (items : List SaleItem) :
    (items.foldl (voidItem db tenantId saleId locationId) s).saleMoves saleId type p =
      s.saleMoves saleId type p +
        if .in = type then items.countP fun i => i.productId = p else 0 := by
  refine saleMoves_foldl (fun s i => ?_) items s
  refine (saleMoves_createMovement _).trans ?_
  congr 1
  refine if_congr ?_ rfl rfl
  exact ⟨fun h => h.2.2, fun h => ⟨rfl, rfl, h⟩⟩

/-- Returned goods come in under the refund, not under the sale. -/
theorem saleMoves_returnStock {refundId : Id} {dto : CreateRefundDto} {read : SaleWithItems}
    {client : Store} (h : returnStock db clock tenantId refundId dto read client s = .ok s') :
    s'.saleMoves saleId type p = s.saleMoves saleId type p := by
  obtain rfl | ⟨items, rfl, _⟩ := returnStock_ok h
  · rfl
  · rw [executeStockIn_eq]
    refine Loops.view_foldl (fun s : Store => s.saleMoves saleId type p) (fun s item _ => ?_) s
    refine (saleMoves_createMovement _).trans ?_
    rw [if_neg fun hsale => by cases hsale.1]
    exact Nat.add_zero _

theorem paymentsOf_createPayments (payments : List PaymentDto) :
    (createPayments db saleId payments s).paymentsOf saleId = s.paymentsOf saleId ++
      payments.map fun payment =>
        { saleId, amount := db.decimal payment.amount, method := payment.method } := by
  unfold Store.paymentsOf createPayments
  dsimp only
  generalize s.salePayments = t
  induction payments generalizing t with
  | nil => simp
  | cons payment rest ih =>
    rw [List.foldl_cons, ih]
    simp [Serial.create, List.filter_append]

/-- What a transaction writes to the tables of the point of sale. -/
def Settlement.tables (db : Database) (saleId : Id) (s : Store) : Settlement → PosTables
  | .complete _ payments _ totals =>
    { s.pos with
      sales := s.sales.modify saleId (markCompleted db totals)
      salePayments := (createPayments db saleId payments s).salePayments }
  | .void _ _ =>
    { s.pos with sales := s.sales.modify saleId fun sale => { sale with status := .voided } }
  | .refund clock tenantId dto read total =>
    { s.pos with
      sales := s.sales.modify saleId fun sale =>
        { sale with status := refundStatus read.sale total dto.amount }
      saleRefunds := s.saleRefunds.create
        { saleId
          tenantId
          refundNumber := generateRefundNumber clock tenantId s
          amount := db.decimal dto.amount
          method := dto.method } }

/-- A transaction that succeeds has passed its checks. -/
theorem settlement_ok (h : w.commit db saleId s = .ok ((), s')) :
    w.passes db saleId s = true ∧ s'.pos = w.tables db saleId s := by
  cases w with
  | complete tenantId payments read totals =>
    refine ⟨?_, pos_executeCompletionTransaction h⟩
    exact isOk_iff.mpr ⟨(), (executeCompletionTransaction_ok h).1⟩
  | void tenantId read => exact ⟨rfl, pos_executeVoidTransaction h⟩
  | refund clock tenantId dto read total =>
    obtain ⟨⟨id, s₁⟩, hrefund, hs₁⟩ := Except.bind_eq_ok_iff.mp h
    obtain rfl : s₁ = s' := congrArg Prod.snd (Except.ok.inj hs₁)
    refine ⟨?_, pos_executeRefund hrefund⟩
    obtain ⟨x, hinsert, hrefund⟩ := Except.bind_eq_ok_iff.mp hrefund
    obtain ⟨s₂, hreturn, _⟩ := Except.bind_eq_ok_iff.mp hrefund
    exact isOk_iff.mpr ⟨s₂, Except.bind_eq_ok_iff.mpr ⟨x, hinsert, hreturn⟩⟩

/-- How often a transaction moves the items it has read. -/
def Settlement.moves (w : Settlement) : StockMovementType → ℕ
  | .out => w.completions.length
  | .in => w.voids

theorem saleMoves_commit (h : w.commit db saleId s = .ok ((), s')) :
    s'.saleMoves saleId type p = s.saleMoves saleId type p +
      w.moves type * w.sale.items.countP fun r => r.2.productId = p := by
  cases w with
  | complete tenantId payments read totals =>
    obtain ⟨_, hupdate⟩ := executeCompletionTransaction_ok h
    obtain ⟨rfl, _⟩ := updateSale_ok hupdate
    refine (saleMoves_saleStockOut read.sale.locationId _).trans ?_
    congr 1
    rw [aggregateSaleItems, List.countP_map]
    cases type with
    | «in» => simp [Settlement.moves, Settlement.voids]
    | out => simp [Settlement.moves, Settlement.completions, Settlement.sale, Function.comp_def]
  | void tenantId read =>
    obtain ⟨s₁, hupdate, h⟩ := Except.bind_eq_ok_iff.mp h
    obtain rfl := congrArg Prod.snd (Except.ok.inj h)
    obtain ⟨rfl, _⟩ := updateSale_ok hupdate
    refine (saleMoves_voidItems _ _).trans ?_
    congr 1
    rw [List.countP_map]
    cases type with
    | «in» => simp [Settlement.moves, Settlement.voids, Settlement.sale, Function.comp_def]
    | out => simp [Settlement.moves, Settlement.completions]
  | refund clock tenantId dto read total =>
    obtain ⟨⟨id, s₁⟩, hrefund, hs₁⟩ := Except.bind_eq_ok_iff.mp h
    obtain rfl : s₁ = s' := congrArg Prod.snd (Except.ok.inj hs₁)
    obtain ⟨s₂, hreturn, rfl⟩ := executeRefund_ok hrefund
    -- A refund moves goods under its own id, not under that of the sale.
    have hnone : Settlement.moves (.refund clock tenantId dto read total) type = 0 := by
      cases type <;> rfl
    rw [hnone, zero_mul]
    exact (saleMoves_returnStock hreturn :)

/-- What was read of a sale whose items stay. -/
theorem items_of_read {r : SaleRequest} (h : r.read saleId s = some w) :
    w.sale.items = s.itemsOf saleId := by
  cases r with
  | complete tenantId payments =>
    obtain ⟨x, hread, rfl⟩ := Option.map_eq_some_iff.mp h
    exact (readComplete_ok (Except.toOption_eq_some_iff.mp hread)).2.2.2.1
  | void tenantId =>
    obtain ⟨x, hread, rfl⟩ := Option.map_eq_some_iff.mp h
    exact (readVoid_ok (Except.toOption_eq_some_iff.mp hread)).2.2.2
  | refund clock tenantId dto =>
    obtain ⟨x, hread, rfl⟩ := Option.map_eq_some_iff.mp h
    exact (readRefund_ok (Except.toOption_eq_some_iff.mp hread)).2.2.2.1

theorem recorded_commit {h : SaleHistory} {r : SaleRequest} (hrecorded : Recorded db saleId s₀ h)
    (hitems : w.sale.items = s₀.itemsOf saleId) :
    Recorded db saleId s₀ ((saleRequests db saleId).commit r w h) := by
  simp only [saleRequests]
  split
  · next _ store hcommit =>
    have hpos := (settlement_ok hcommit).2
    refine ⟨?_, ?_, fun p => ?_, fun p => ?_⟩
    · refine Eq.trans (congrArg PosTables.saleItems hpos) (Eq.trans ?_ hrecorded.saleItems)
      cases w <;> rfl
    · have hpayments : store.salePayments = (w.tables db saleId h.store).salePayments :=
        congrArg PosTables.salePayments hpos
      have hsame : store.paymentsOf saleId = h.store.paymentsOf saleId ++
          w.completions.flatten.map fun payment =>
            { saleId, amount := db.decimal payment.amount, method := payment.method } := by
        rw [Store.paymentsOf, Store.paymentsOf, hpayments]
        cases w with
        | complete tenantId payments read totals =>
          exact (paymentsOf_createPayments payments).trans (by simp [Settlement.completions]; rfl)
        | _ => exact (List.append_nil _).symm
      dsimp only
      rw [hsame, hrecorded.payments, List.flatten_append, List.map_append, List.append_assoc]
    · dsimp only
      rw [saleMoves_commit hcommit, hrecorded.out, hitems, List.length_append, add_mul, add_assoc]
      rfl
    · dsimp only
      rw [saleMoves_commit hcommit, hrecorded.in, hitems, add_mul, add_assoc]
      rfl
  · exact hrecorded

/-- In every interleaving the history explains the tables. -/
theorem recorded_of_interleaved {ok : SaleHistory → SaleRequest → Settlement → Prop}
    {config : ReadCommit.Config SaleHistory SaleRequest Settlement}
    (h : (saleRequests db saleId).Interleaved ok (SaleHistory.start s₀) config) :
    Recorded db saleId s₀ config.state := by
  refine (ReadCommit.Interleaved.invariant (I := Recorded db saleId s₀)
    (K := fun _ _ (w : Settlement) => w.sale.items = s₀.itemsOf saleId) h
    ⟨rfl, by simp, fun p => by simp, fun p => by simp⟩ (fun _ hx => (by cases hx))
    (fun a r w ha hread => ?_) (fun a r w ha hw _ => recorded_commit ha hw)
    fun _ _ _ _ _ _ _ _ hw => hw).1
  rw [items_of_read hread, Store.itemsOf, ha.saleItems]
  rfl

end Recording

section Timing

/-- What the items of a sale come to, less its discount. -/
def Store.saleTotal (s : Store) (saleId : Id) (sale : Sale) : ℚ :=
  (aggregateSaleItems (s.itemsOf saleId)).1 - sale.discountAmount + sale.taxAmount

/-- No more is refunded of the sale than was paid and kept; and if it is still a cart, its total
is not negative. -/
structure Refundable (s : Store) (saleId : Id) (sale : Sale) : Prop where
  refunded : totalRefunded saleId s ≤ sale.paidAmount - sale.changeAmount
  total : sale.status = .draft → 0 ≤ s.saleTotal saleId sale

/-- Whether the sale's payments and stock have been recorded, by its status. -/
def SaleStatus.recorded (status : SaleStatus) : ℕ := if status = .draft then 0 else 1

theorem recorded_eq_zero {status : SaleStatus} (h : status.recorded = 0) : status = .draft := by
  by_contra hne
  rw [SaleStatus.recorded, if_neg hne] at h
  cases h

/-- Whether its stock has been taken back. -/
def SaleStatus.reversed (status : SaleStatus) : ℕ := if status = .voided then 1 else 0

theorem recorded_le_one (status : SaleStatus) : status.recorded ≤ 1 := by
  rw [SaleStatus.recorded]
  split <;> decide

theorem reversed_le_one (status : SaleStatus) : status.reversed ≤ 1 := by
  rw [SaleStatus.reversed]
  split <;> decide

/-- The row of the sale tells the history. -/
structure Told (saleId : Id) (s₀ : Store) (sale₀ : Sale) (h : SaleHistory) (sale : Sale) : Prop where
  find : h.store.sales.find? saleId = some sale
  discount : sale.discountAmount = sale₀.discountAmount
  tax : sale.taxAmount = sale₀.taxAmount
  saleItems : h.store.saleItems = s₀.saleItems
  completions : h.completions.length + sale₀.status.recorded = sale.status.recorded
  voids : h.voids + sale₀.status.reversed = sale.status.reversed
  refunds : ∀ r ∈ h.store.saleRefunds.rows, r.2.saleId = saleId →
    sale.status = .refunded ∨ sale.status = .partiallyRefunded
  refunded : totalRefunded saleId h.store ≤ sale.paidAmount - sale.changeAmount

/-- What a request in flight may rely on. -/
def Reads (s₀ : Store) (saleId : Id) (sale₀ : Sale) (s : Store) : Settlement → Prop
  | .complete _ _ _ totals =>
      totals.totalAmount = s₀.saleTotal saleId sale₀ ∧ totals.totalAmount ≤ totals.paidAmount ∧
      totals.changeAmount = PaymentService.calculateChange totals.totalAmount totals.paidAmount
  | .void _ _ | .refund _ _ _ _ _ => ∀ sale ∈ s.sales.find? saleId, sale.status ≠ .draft

theorem told_start (hreach : Reachable db c s₀) (hfind : s₀.sales.find? saleId = some sale₀)
    (hstart : Refundable s₀ saleId sale₀) : Told saleId s₀ sale₀ ⟨s₀, [], 0⟩ sale₀ where
  find := hfind
  discount := rfl
  tax := rfl
  saleItems := rfl
  completions := Nat.zero_add _
  voids := Nat.zero_add _
  refunds := by
    rintro ⟨k, r⟩ hr rfl
    obtain ⟨sale, hsale, hstatus⟩ :=
      refundsSound_of_reachable hreach k r (Table.find?_of_mem_rows hr)
    obtain rfl := Option.some.inj (hfind.symm.trans hsale)
    exact hstatus
  refunded := hstart.refunded

theorem reads_of_read {h : SaleHistory} {sale : Sale} {r : SaleRequest}
    (htold : Told saleId s₀ sale₀ h sale) (hread : r.read saleId h.store = some w) :
    Reads s₀ saleId sale₀ h.store w := by
  cases r with
  | complete tenantId payments =>
    obtain ⟨⟨read, totals⟩, hr, rfl⟩ := Option.map_eq_some_iff.mp hread
    obtain ⟨hfind, _, _, hitems, _, rfl, hpaid⟩ :=
      readComplete_ok (Except.toOption_eq_some_iff.mp hr)
    obtain rfl := Option.some.inj (htold.find.symm.trans hfind)
    refine ⟨?_, hpaid, rfl⟩
    have hitemsOf : h.store.itemsOf saleId = s₀.itemsOf saleId := by
      rw [Store.itemsOf, htold.saleItems]
      rfl
    simp only [calculateCompletionTotals, Store.saleTotal, htold.discount, htold.tax, hitems,
      hitemsOf]
  | void tenantId =>
    obtain ⟨read, hr, rfl⟩ := Option.map_eq_some_iff.mp hread
    obtain ⟨hfind, _, hstatus, _⟩ := readVoid_ok (Except.toOption_eq_some_iff.mp hr)
    intro sale hsale
    obtain rfl := Option.some.inj (hfind.symm.trans hsale)
    rw [hstatus]
    decide
  | refund clock tenantId dto =>
    obtain ⟨⟨read, total⟩, hr, rfl⟩ := Option.map_eq_some_iff.mp hread
    obtain ⟨hfind, _, hstatus, _⟩ := readRefund_ok (Except.toOption_eq_some_iff.mp hr)
    intro sale hsale
    obtain rfl := Option.some.inj (hfind.symm.trans hsale)
    rcases hstatus with h | h <;> rw [h] <;> decide

theorem totalRefunded_eq_zero (h : ∀ r ∈ s.saleRefunds.rows, r.2.saleId ≠ saleId) :
    totalRefunded saleId s = 0 :=
  Table.sum_eq_zero fun k r hr => if_neg (h (k, r) (Table.mem_rows_of_find? hr))

/-- A transaction in time lets the row go on telling the history. -/
theorem told_commit (hdecimal : Monotone db.decimal) (hstart : Refundable s₀ saleId sale₀)
    {h : SaleHistory} {sale : Sale} (htold : Told saleId s₀ sale₀ h sale)
    (hreads : Reads s₀ saleId sale₀ h.store w) (htime : Timely db saleId h.store w)
    (hcommit : w.commit db saleId h.store = .ok ((), s')) :
    ∃ sale', sale'.status ≠ .draft ∧
      Told saleId s₀ sale₀ ⟨s', h.completions ++ w.completions, h.voids + w.voids⟩ sale' := by
  obtain ⟨hpasses, hpos⟩ := settlement_ok hcommit
  have hsales : s'.sales = (w.tables db saleId h.store).sales := congrArg PosTables.sales hpos
  have hitems : s'.saleItems = (w.tables db saleId h.store).saleItems :=
    congrArg PosTables.saleItems hpos
  have hrefunds : s'.saleRefunds = (w.tables db saleId h.store).saleRefunds :=
    congrArg PosTables.saleRefunds hpos
  have hstatus := htime hpasses sale htold.find
  have hmark (f : Sale → Sale) (hf : s'.sales = h.store.sales.modify saleId f) :
      s'.sales.find? saleId = some (f sale) := by
    rw [hf, Serial.toTable_modify, Table.find?_modify, if_pos rfl, htold.find]
    rfl
  cases w with
  | complete tenantId payments read totals =>
    -- a draft has been completed, voided and refunded by nobody
    have hdraft : sale.status = .draft := hstatus
    have hcompletions : h.completions.length + sale₀.status.recorded = 0 :=
      htold.completions.trans (by rw [hdraft]; rfl)
    have hvoids : h.voids + sale₀.status.reversed = 0 := htold.voids.trans (by rw [hdraft]; rfl)
    have hnone : ∀ r ∈ h.store.saleRefunds.rows, r.2.saleId ≠ saleId := by
      intro r hr heq
      have hrefunded := htold.refunds r hr heq
      rw [hdraft] at hrefunded
      exact absurd hrefunded (by decide)
    refine ⟨markCompleted db totals sale, nofun, hmark _ hsales, htold.discount, htold.tax,
      hitems.trans htold.saleItems, ?_, hvoids, ?_, ?_⟩
    · show (h.completions ++ [payments]).length + _ = 1
      rw [List.length_append, List.length_singleton]
      omega
    · rw [hrefunds]
      exact fun r hr heq => absurd heq (hnone r hr)
    · have hzero : totalRefunded saleId s' = 0 := by
        apply totalRefunded_eq_zero
        rw [hrefunds]
        exact hnone
      obtain ⟨htotal, hpaid, hchange⟩ := hreads
      have hcart : sale₀.status = .draft := recorded_eq_zero (by omega)
      rw [hzero, sub_nonneg]
      refine hdecimal ?_
      rw [hchange]
      exact change_le_paid (htotal ▸ hstart.total hcart) hpaid
  | void tenantId read =>
    -- a completed sale has no refunds, so a voided one has none either
    have hcompleted : sale.status = .completed := hstatus
    have hvoids : h.voids + sale₀.status.reversed = 0 :=
      htold.voids.trans (by rw [hcompleted]; rfl)
    refine ⟨{ sale with status := .voided }, nofun, hmark _ hsales, htold.discount, htold.tax,
      hitems.trans htold.saleItems, ?_, ?_, ?_, ?_⟩
    · show (h.completions ++ []).length + _ = _
      rw [List.append_nil, htold.completions, hcompleted]
      rfl
    · show h.voids + 1 + _ = 1
      omega
    · rw [hrefunds]
      intro r hr heq
      have hrefunded := htold.refunds r hr heq
      rw [hcompleted] at hrefunded
      exact absurd hrefunded (by decide)
    · rw [totalRefunded, hrefunds]
      exact htold.refunded
  | refund clock tenantId dto read total =>
    -- a refund leaves both counts, and was in time for what is left of the payment
    obtain ⟨hvoided, hleft⟩ := hstatus
    have hdraft := hreads sale htold.find
    have hrefunded := refundStatus_refunded read.sale total dto.amount
    refine ⟨{ sale with status := refundStatus read.sale total dto.amount }, ?_, hmark _ hsales,
      htold.discount, htold.tax, hitems.trans htold.saleItems, ?_, ?_, fun _ _ _ => hrefunded, ?_⟩
    · rcases hrefunded with h | h <;> simp [h]
    · show (h.completions ++ []).length + _ = _
      rw [List.append_nil, htold.completions, SaleStatus.recorded, if_neg hdraft]
      rcases hrefunded with h | h <;> simp only [h] <;> rfl
    · show h.voids + 0 + _ = _
      rw [add_zero, htold.voids, SaleStatus.reversed, if_neg hvoided]
      rcases hrefunded with h | h <;> simp only [h] <;> rfl
    · have hsum : totalRefunded saleId s' =
          totalRefunded saleId h.store + db.decimal dto.amount := by
        rw [totalRefunded, totalRefunded, hrefunds]
        exact (Serial.sum_create _ _).trans (by rw [if_pos rfl])
      rw [hsum]
      exact hleft

/-- In every interleaving in which each transaction comes in time: the completions and voids are
what the tables record of payments and of stock taken out and put back; the sale is completed once
unless it was before, and voided once unless it was before; a voided sale has no refunds; and no
more is refunded than was paid and kept. -/
theorem settled_once (hdecimal : Monotone db.decimal) (hreach : Reachable db c s₀)
    (hfind : s₀.sales.find? saleId = some sale₀) (hstart : Refundable s₀ saleId sale₀)
    {config : ReadCommit.Config SaleHistory SaleRequest Settlement}
    (h : (saleRequests db saleId).Interleaved (fun h _ w => Timely db saleId h.store w)
      (SaleHistory.start s₀) config) :
    Recorded db saleId s₀ config.state ∧
      config.state.completions.length ≤ (if sale₀.status = .draft then 1 else 0) ∧
      config.state.voids ≤ (if sale₀.status = .voided then 0 else 1) ∧
      ∃ sale, config.state.store.sales.find? saleId = some sale ∧
        (0 < config.state.voids ∨ sale₀.status = .voided →
          ∀ r ∈ config.state.store.saleRefunds.rows, r.2.saleId ≠ saleId) ∧
        totalRefunded saleId config.state.store ≤ sale.paidAmount - sale.changeAmount := by
  -- every commit tells the history on, and what is in flight stays true to the sale it read
  have hinv : ∃ sale, Told saleId s₀ sale₀ config.state sale := by
    refine (ReadCommit.Interleaved.invariant
      (I := fun h : SaleHistory => ∃ sale, Told saleId s₀ sale₀ h sale)
      (K := fun (h : SaleHistory) _ w => Reads s₀ saleId sale₀ h.store w) h
      ⟨sale₀, told_start hreach hfind hstart⟩ (fun _ hx => (by cases hx)) ?_ ?_ ?_).1
    · rintro h r w ⟨sale, htold⟩ hread
      exact reads_of_read htold hread
    · rintro h r w ⟨sale, htold⟩ hreads htime
      simp only [saleRequests]
      split
      · next _ store hcommit =>
        obtain ⟨sale', _, htold'⟩ := told_commit hdecimal hstart htold hreads htime hcommit
        exact ⟨sale', htold'⟩
      · exact ⟨sale, htold⟩
    · rintro h r w r' w' ⟨sale, htold⟩ hreads htime hreads'
      simp only [saleRequests]
      split
      · next _ store hcommit =>
        obtain ⟨sale', hdraft, htold'⟩ := told_commit hdecimal hstart htold hreads htime hcommit
        have hnot : ∀ sale ∈ store.sales.find? saleId, sale.status ≠ .draft := by
          intro sale'' hsale
          obtain rfl := Option.some.inj (htold'.find.symm.trans hsale)
          exact hdraft
        cases w' with
        | complete => exact hreads'
        | void => exact hnot
        | refund => exact hnot
      · exact hreads'
  obtain ⟨sale, htold⟩ := hinv
  have hcompletions := htold.completions
  have hvoids := htold.voids
  refine ⟨recorded_of_interleaved h, ?_, ?_, sale, htold.find, ?_, htold.refunded⟩
  · have hone := recorded_le_one sale.status
    split
    · omega
    · next hcart =>
      rw [show sale₀.status.recorded = 1 from if_neg hcart] at hcompletions
      omega
  · have hone := reversed_le_one sale.status
    split
    · next hvoided =>
      rw [show sale₀.status.reversed = 1 from if_pos hvoided] at hvoids
      omega
    · omega
  · intro hvoided r hr heq
    have hstatus : sale.status = .voided := by
      by_contra hne
      simp only [SaleStatus.reversed, if_neg hne] at hvoids
      rcases hvoided with hpos | hstart
      · omega
      · simp [hstart] at hvoids
    have hrefunded := htold.refunds r hr heq
    rw [hstatus] at hrefunded
    exact absurd hrefunded (by decide)

/-- The row of the cart. -/
def cartRow : Sale := (cartStore.sales.find? 0).get (by decide +kernel)

/-- The cart is completed, and two refunds that together make up the total both read before either
commits. -/
def completedAndRefunded : ReadCommit.Config SaleHistory SaleRequest Settlement :=
  (saleRequests .exact 0).execAll
    [.read (.complete 0 [⟨.cash, 5⟩]), .commit 0, .read (.refund ⟨3, 2024⟩ 0 ⟨2, .cash, none⟩),
      .read (.refund ⟨4, 2024⟩ 0 ⟨3, .cash, none⟩), .commit 1, .commit 0]
    (SaleHistory.start cartStore)

theorem settled_once_completedAndRefunded :
    Recorded .exact 0 cartStore completedAndRefunded.state ∧
      completedAndRefunded.state.completions.length ≤ (if cartRow.status = .draft then 1 else 0) ∧
      completedAndRefunded.state.voids ≤ (if cartRow.status = .voided then 0 else 1) ∧
      ∃ sale, completedAndRefunded.state.store.sales.find? 0 = some sale ∧
        (0 < completedAndRefunded.state.voids ∨ cartRow.status = .voided →
          ∀ r ∈ completedAndRefunded.state.store.saleRefunds.rows, r.2.saleId ≠ 0) ∧
        totalRefunded 0 completedAndRefunded.state.store ≤ sale.paidAmount - sale.changeAmount :=
  have hreach : Reachable .exact (.shop .fifo) cartStore := reachable_serveAll _ _ _
  settled_once monotone_id hreach (Option.some_get _).symm
    ⟨by decide +kernel, fun _ => by decide +kernel⟩
    (ReadCommit.interleaved_execAll (by decide +kernel))

/-- Two completions of one cart that both read it before either commits. -/
def twoCompletions : ReadCommit.Config SaleHistory SaleRequest Settlement :=
  (saleRequests .exact 0).execAll
    [.read (.complete 0 [⟨.cash, 5⟩]), .read (.complete 0 [⟨.cash, 5⟩]), .commit 0, .commit 0]
    (SaleHistory.start cartStore)

/-- The one item of the cart is paid twice and taken out of stock twice. -/
theorem completed_twice :
    Reachable .exact (.shop .fifo) cartStore ∧
      (saleRequests .exact 0).Interleaved (fun _ _ _ => True) (SaleHistory.start cartStore)
        twoCompletions ∧
      twoCompletions.inFlight = [] ∧ twoCompletions.state.completions.length = 2 ∧
      cartStore.itemCount 0 0 = 1 ∧ cartStore.saleMoves 0 .out 0 = 0 ∧
      twoCompletions.state.store.saleMoves 0 .out 0 = 2 ∧
      (twoCompletions.state.store.paymentsOf 0).length = 2 :=
  ⟨reachable_serveAll _ _ _, ReadCommit.interleaved_execAll (by decide +kernel),
    by decide +kernel⟩

end Timing

end Invetrixa
