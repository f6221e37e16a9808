import Invetrixa.Refinement.SaleSteps

/-!
# The cash drawer

Closing a session expects in the drawer its opening balance and the cash payments of those of its
sales that are completed at that moment. What its sales have left there is what they took in cash,
less the change that was given and the cash that was refunded. The two agree in every run in which
sales of the session are paid to the amount, a refund gives back in cash all that was paid in cash,
and a sale is voided only if nothing of it is left. The first sale that is paid with change breaks
this, and so does the first partial refund.

## Main definitions

- `PosTables.cashLeft` — what a sale has left in the drawer
- `Store.drawer` — what should be in the drawer of a session
- `DrawerKept` — the condition on a request

## Main results

- `cashReceived_eq` — the aggregate, sale by sale
- `expectedBalance_eq_drawer`, `drawer_short_of_change`
-/

namespace Invetrixa

open Rowstore Requests SaleService RefundService SessionService

/-- What was paid for a sale in cash. -/
def PosTables.cashPaid (t : PosTables) (saleId : Id) : ℚ :=
  t.salePayments.sum fun _ p => if p.saleId = saleId ∧ p.method = .cash then p.amount else 0

/-- What was refunded of a sale in cash. -/
def PosTables.cashRefunded (t : PosTables) (saleId : Id) : ℚ :=
  t.saleRefunds.sum fun _ r => if r.saleId = saleId ∧ r.method = .cash then r.amount else 0

/-- What a sale has left in the drawer. A void records no money; `handedBack` says whether the
customer gets it back. -/
def PosTables.cashLeft (handedBack : Bool) (t : PosTables) (saleId : Id) (sale : Sale) : ℚ :=
  if handedBack = true ∧ sale.status = .voided then 0
  else t.cashPaid saleId - sale.changeAmount - t.cashRefunded saleId

/-- What should be in the drawer of a session: what was there when it was opened, and what its
sales have left. -/
def Store.drawer (handedBack : Bool) (s : Store) (sessionId : Id) (session : POSSession) : ℚ :=
  session.openingBalance + s.sales.sum fun id sale =>
    if sale.sessionId = some sessionId then s.pos.cashLeft handedBack id sale else 0

/-- What a quick sale comes to. -/
def CreateSaleDto.totals (db : Database) (tenantId : Id) (s : Store)
    (dto : SaleService.CreateSaleDto) : SaleTotals :=
  calculateTotals (dto.items.map (processItem db tenantId dto.locationId s)) dto.discountAmount
    dto.payments

/-- A quick sale in the session and the completion of a cart of it are paid to the amount, a sale
of it is voided if the money is handed back or none was paid in cash, and a refund of it leaves
nothing of the sale in the drawer. -/
def Request.DrawerKept (db : Database) (handedBack : Bool) (sessionId : Id) (s : Store) :
    Request → Prop
  | .createSale tenantId dto => dto.sessionId = some sessionId →
      db.decimal (CreateSaleDto.totals db tenantId s dto).changeAmount = 0
  | .completeSale _ saleId payments => ∀ sale ∈ s.sales.find? saleId,
      sale.sessionId = some sessionId →
      db.decimal (calculateCompletionTotals sale
        (aggregateSaleItems (s.itemsOf saleId)).1 payments).changeAmount = 0
  | .voidSale _ saleId => ∀ sale ∈ s.sales.find? saleId, sale.sessionId = some sessionId →
      handedBack = true ∨ s.pos.cashPaid saleId = 0
  | .createRefund _ saleId dto => ∀ sale ∈ s.sales.find? saleId,
      sale.sessionId = some sessionId →
      s.pos.cashPaid saleId = sale.changeAmount + s.pos.cashRefunded saleId +
        if dto.method = .cash then db.decimal dto.amount else 0
  | _ => True

instance (db : Database) (handedBack : Bool) (sessionId : Id) (s : Store) :
    DecidablePred (Request.DrawerKept db handedBack sessionId s) := by
  rintro ⟨⟩
  all_goals dsimp only [Request.DrawerKept]; infer_instance

/-- The condition on a request whose checks pass. -/
def DrawerKept (db : Database) (handedBack : Bool) (sessionId : Id) (s : Store) (call : Call) :
    Prop :=
  Passes db s call → call.request.DrawerKept db handedBack sessionId s

instance (db : Database) (handedBack : Bool) (sessionId : Id) (s : Store) (call : Call) :
    Decidable (DrawerKept db handedBack sessionId s call) :=
  inferInstanceAs (Decidable (_ → _))

variable {db : Database} {c : Catalogue} {handedBack : Bool} {tenantId sessionId saleId : Id}
  {s s' : Store} {call : Call} {t t' : PosTables} {sale : Sale}

/-- The aggregate of `close` is the sum of what was paid in cash over the completed sales. -/
theorem cashReceived_eq (sessionId : Id) (s : Store) :
    cashReceived sessionId s = s.sales.sum fun id sale =>
      if countsFor sessionId sale = true then s.pos.cashPaid id else 0 := by
  have hpayment : ∀ p : SalePayment,
      (if (s.sales.find? p.saleId).any (countsFor sessionId) = true ∧ p.method = .cash then p.amount
        else 0) = s.sales.sum fun id sale =>
          if countsFor sessionId sale = true then
            if p.saleId = id ∧ p.method = .cash then p.amount else 0
          else 0 := by
    intro p
    by_cases hcash : p.method = .cash
    · simp only [hcash, and_true]
      rw [← Table.sum_ite_key_and p.saleId (countsFor sessionId) p.amount]
      refine Table.sum_congr fun id sale _ => ?_
      rw [ite_and]
      by_cases hid : id = p.saleId
      · simp [hid]
      · simp [hid, Ne.symm hid]
    · simp [hcash, Table.sum]
  have hswap : (s.salePayments.sum fun _ p => s.sales.sum fun id sale =>
      if countsFor sessionId sale = true then
        if p.saleId = id ∧ p.method = .cash then p.amount else 0
      else 0) = s.sales.sum fun id sale =>
        if countsFor sessionId sale = true then s.pos.cashPaid id else 0 := by
    rw [Table.sum_comm]
    refine Table.sum_congr fun id sale _ => ?_
    by_cases hcounts : countsFor sessionId sale = true
    · simp only [hcounts, if_true]
      rfl
    · simp [hcounts, Table.sum]
  rw [← hswap]
  exact Table.sum_congr fun _ p _ => hpayment p

/-- What a sale has left in the drawer is what `close` counts of it. -/
def PosTables.BalancedAt (handedBack : Bool) (t : PosTables) (saleId : Id) (sale : Sale) : Prop :=
  t.cashLeft handedBack saleId sale = if sale.status = .completed then t.cashPaid saleId else 0

/-- The sales of a session are balanced. -/
def PosTables.Balanced (handedBack : Bool) (sessionId : Id) (t : PosTables) : Prop :=
  ∀ id sale, t.sales.find? id = some sale → sale.sessionId = some sessionId →
    t.BalancedAt handedBack id sale

/-- Where the sales are balanced, the drawer holds what `close` expects. -/
theorem drawer_of_balanced (h : s.pos.Balanced handedBack sessionId) (session : POSSession) :
    s.drawer handedBack sessionId session =
      session.openingBalance + cashReceived sessionId s := by
  rw [Store.drawer, cashReceived_eq]
  congr 1
  refine Table.sum_congr fun id sale hfind => ?_
  by_cases hsession : sale.sessionId = some sessionId
  · have hcounts : countsFor sessionId sale = true ↔ sale.status = .completed := by
      simp [countsFor, hsession]
    rw [if_pos hsession, h id sale hfind hsession]
    exact (if_congr hcounts rfl rfl).symm
  · have hcounts : ¬countsFor sessionId sale = true := by simp [countsFor, hsession]
    rw [if_neg hsession, if_neg hcounts]

section Frame

theorem BalancedAt.congr {sale sale' : Sale} (h : t.BalancedAt handedBack saleId sale)
    (hpaid : t'.cashPaid saleId = t.cashPaid saleId)
    (hrefunded : t'.cashRefunded saleId = t.cashRefunded saleId)
    (hchange : sale'.changeAmount = sale.changeAmount) (hstatus : sale'.status = sale.status) :
    t'.BalancedAt handedBack saleId sale' := by
  unfold PosTables.BalancedAt PosTables.cashLeft at h ⊢
  rw [hpaid, hrefunded, hchange, hstatus]
  exact h

/-- A completed sale is balanced when no change was given and nothing refunded. -/
theorem balancedAt_of_completed (hstatus : sale.status = .completed) (hchange : sale.changeAmount = 0)
    (hrefunded : t.cashRefunded saleId = 0) : t.BalancedAt handedBack saleId sale := by
  rw [PosTables.BalancedAt, PosTables.cashLeft, if_pos hstatus, if_neg, hchange, hrefunded,
    sub_zero, sub_zero]
  rintro ⟨_, hvoided⟩
  rw [hstatus] at hvoided
  cases hvoided

/-- Of a balanced completed sale no more change was given than was taken back by refunds. -/
theorem change_of_balancedAt (h : t.BalancedAt handedBack saleId sale)
    (hstatus : sale.status = .completed) : sale.changeAmount + t.cashRefunded saleId = 0 := by
  rw [PosTables.BalancedAt, PosTables.cashLeft] at h
  rw [if_pos hstatus, if_neg] at h
  · linarith
  · rintro ⟨_, hvoided⟩
    rw [hstatus] at hvoided
    cases hvoided

/-- A sale with nothing left of it is balanced. -/
theorem balancedAt_of_left (hstatus : sale.status ≠ .completed)
    (h : t.cashPaid saleId = sale.changeAmount + t.cashRefunded saleId) :
    t.BalancedAt handedBack saleId sale := by
  rw [PosTables.BalancedAt, PosTables.cashLeft, if_neg hstatus, h]
  split
  · rfl
  · ring

/-- Nothing was paid in cash for a sale without payments. -/
theorem cashPaid_eq_zero (h : t.PaymentsSound) (hsale : ¬t.Settled saleId) :
    t.cashPaid saleId = 0 := by
  refine Table.sum_eq_zero fun k p hp => if_neg ?_
  rintro ⟨rfl, _⟩
  exact hsale (h k p hp)

/-- Nothing was refunded of a sale that is not there, or has the status of one not refunded. -/
theorem cashRefunded_eq_zero (h : t.RefundsSound)
    (hsale : ∀ sale, t.sales.find? saleId = some sale →
      ¬(sale.status = .refunded ∨ sale.status = .partiallyRefunded)) :
    t.cashRefunded saleId = 0 := by
  refine Table.sum_eq_zero fun k r hr => if_neg ?_
  rintro ⟨rfl, _⟩
  obtain ⟨sale, hfind, hstatus⟩ := h k r hr
  exact hsale sale hfind hstatus

/-- Payments of one sale are no payments of another. -/
theorem cashPaid_createPayments (payments : List PaymentDto) {id : Id} (hid : saleId ≠ id) :
    (createPayments db saleId payments s).pos.cashPaid id = s.pos.cashPaid id := by
  have hsum := Serial.sum_foldl_create (t := s.salePayments)
    (fun payment : PaymentDto => SalePayment.mk saleId (db.decimal payment.amount) payment.method)
    (fun p : SalePayment => if p.saleId = id ∧ p.method = .cash then p.amount else 0) payments
  refine hsum.trans ?_
  have hzero : (payments.map fun payment : PaymentDto =>
      if saleId = id ∧ payment.method = .cash then db.decimal payment.amount else 0).sum = 0 := by
    simp [hid]
  exact (congrArg _ hzero).trans (add_zero _)

end Frame

/-- Requests that meet the condition keep the sales of the session balanced. -/
theorem balanced_step (hrefunds : s.pos.RefundsSound) (hpayments : s.pos.PaymentsSound)
    (hI : s.pos.Balanced handedBack sessionId) (hok : DrawerKept db handedBack sessionId s call)
    (h : SaleStep db s call t) : t.Balanced handedBack sessionId := by
  -- An id that is not in use has neither payments nor refunds.
  have hnone : ∀ {id}, id = s.sales.next → s.pos.cashPaid id = 0 ∧ s.pos.cashRefunded id = 0 := by
    rintro id rfl
    have hnext : ∀ sale, s.pos.sales.find? s.sales.next ≠ some sale := by
      intro sale hfind
      rw [show s.pos.sales.find? s.sales.next = none from s.sales.find?_next] at hfind
      cases hfind
    exact ⟨cashPaid_eq_zero hpayments fun ⟨sale, hfind, _⟩ => hnext sale hfind,
      cashRefunded_eq_zero hrefunds fun sale hfind => absurd hfind (hnext sale)⟩
  intro id sale' hfind hsession
  cases h with
  | kept => exact hI id sale' hfind hsession
  | opened clock tenantId dto =>
    rcases Serial.find?_create_cases hfind with hold | ⟨hid, rfl⟩
    · exact hI id sale' hold hsession
    · obtain ⟨hpaid, hrefunded⟩ := hnone hid
      refine balancedAt_of_left nofun ?_
      show s.pos.cashPaid id = 0 + s.pos.cashRefunded id
      rw [hpaid, hrefunded, add_zero]
  | written _ cartId cart saleItems hcart hdraft hedit =>
    rcases Table.find?_modify_cases hfind with ⟨_, hold⟩ | ⟨rfl, sale, hold, rfl⟩
    · exact hI id sale' hold hsession
    · exact BalancedAt.congr (hI id sale hold hsession) rfl rfl rfl rfl
  | sold clock tenantId dto items totals hpasses hread =>
    rcases Serial.find?_create_cases hfind with hold | ⟨hid, rfl⟩
    · have hne : s.sales.next ≠ id := by
        rintro rfl
        rw [Serial.find?_next] at hold
        cases hold
      exact BalancedAt.congr (hI id sale' hold hsession) (cashPaid_createPayments _ hne) rfl rfl rfl
    · obtain ⟨rfl, rfl, _⟩ := readCreateSale_ok hread
      refine balancedAt_of_completed rfl ?_ (hnone hid).2
      exact hok hpasses hsession
  | completed clock tenantId saleId payments read totals hpasses hread =>
    obtain ⟨hcart, _, hdraft, hitems, _, htotals, _⟩ := readComplete_ok hread
    rcases Table.find?_modify_cases hfind with ⟨hne, hold⟩ | ⟨rfl, sale, hold, rfl⟩
    · exact BalancedAt.congr (hI id sale' hold hsession) (cashPaid_createPayments _ hne.symm)
        rfl rfl rfl
    · obtain rfl := Option.some.inj (hold.symm.trans hcart)
      refine balancedAt_of_completed rfl ?_ ?_
      · have hchange := hok hpasses read.sale hold hsession
        rw [← hitems, ← htotals] at hchange
        exact hchange
      · refine cashRefunded_eq_zero (t := s.pos) hrefunds fun sale hsale => ?_
        obtain rfl := Option.some.inj (hsale.symm.trans hold)
        rw [hdraft]
        decide
  | voided clock tenantId saleId read hread =>
    obtain ⟨hvoided, _, hstatus, _⟩ := readVoid_ok hread
    rcases Table.find?_modify_cases hfind with ⟨_, hold⟩ | ⟨rfl, sale, hold, rfl⟩
    · exact hI id sale' hold hsession
    · obtain rfl := Option.some.inj (hold.symm.trans hvoided)
      have hpasses : Passes db s ⟨clock, .voidSale tenantId id⟩ := ⟨trivial, isOk_iff.mpr ⟨_, hread⟩⟩
      rcases hok hpasses read.sale hold hsession with hback | hpaid
      · rw [PosTables.BalancedAt, PosTables.cashLeft, if_pos ⟨hback, rfl⟩, if_neg nofun]
      · refine balancedAt_of_left nofun (hpaid.trans ?_)
        exact (change_of_balancedAt (hI id read.sale hold hsession) hstatus).symm
  | refunded clock tenantId saleId dto read total hvalid hread =>
    obtain ⟨hrefunded, _⟩ := readRefund_ok hread
    have hcreated : ∀ id, PosTables.cashRefunded
        { s.pos with
          sales := s.sales.modify saleId fun sale =>
            { sale with status := refundStatus read.sale total dto.amount }
          saleRefunds := s.saleRefunds.create
            { saleId
              tenantId
              refundNumber := generateRefundNumber clock tenantId s
              amount := db.decimal dto.amount
              method := dto.method } } id = s.pos.cashRefunded id +
        if saleId = id ∧ dto.method = .cash then db.decimal dto.amount else 0 :=
      fun id => Serial.sum_create _ _
    rcases Table.find?_modify_cases hfind with ⟨hne, hold⟩ | ⟨rfl, sale, hold, rfl⟩
    · refine BalancedAt.congr (hI id sale' hold hsession) rfl ?_ rfl rfl
      rw [hcreated, if_neg fun hsale => hne hsale.1.symm, add_zero]
    · obtain rfl := Option.some.inj (hold.symm.trans hrefunded)
      refine balancedAt_of_left ?_ ?_
      · rcases refundStatus_refunded read.sale total dto.amount with h | h <;> simp [h]
      · rw [hcreated, ← add_assoc]
        refine (hok ⟨hvalid, rfl⟩ read.sale hold hsession).trans ?_
        simp
  | cleaned clock hkept =>
    obtain ⟨hold, hmem⟩ := Option.filter_eq_some_iff.mp
      ((Table.find?_deleteWhere _).symm.trans hfind)
    refine BalancedAt.congr (hI id sale' hold hsession) ?_ rfl rfl rfl
    have hzero : ∀ k (p : SalePayment), s.salePayments.find? k = some p →
        decide (p.saleId ∈ CartCleanupService.abandonedCarts clock s) = true →
        (if p.saleId = id ∧ p.method = .cash then p.amount else 0) = 0 := by
      intro k p _ hdeleted
      refine if_neg ?_
      rintro ⟨rfl, _⟩
      simp [of_decide_eq_true hdeleted] at hmem
    exact Table.sum_deleteWhere hzero

/-- In every run in which the drawer is kept: a session is closed with the expected balance that
its sales have left in the drawer. -/
theorem expectedBalance_eq_drawer (h : ReachableBy db (DrawerKept db handedBack sessionId) c s)
    {dto : CloseSessionDto} {response : CloseSessionResponse}
    (hclose : close db tenantId sessionId dto s = .ok (response, s')) :
    ∃ session, s.sessions.find? sessionId = some session ∧
      s'.sessions.find? sessionId = some response.session ∧
      response.session.expectedBalance =
        some (db.decimal (s.drawer handedBack sessionId session)) := by
  have hsound : s.pos.RefundsSound ∧ s.pos.PaymentsSound ∧
      s.pos.Balanced handedBack sessionId := by
    refine pos_invariant (I := fun t => t.RefundsSound ∧ t.PaymentsSound ∧
      t.Balanced handedBack sessionId) h ?_ ?_
    · exact ⟨fun _ _ h => (by cases h), fun _ _ h => (by cases h), fun _ _ h => (by cases h)⟩
    · rintro s call t _ ⟨hrefunds, hpayments, hbalanced⟩ hok hstep
      exact ⟨refundsSound_step hrefunds hstep, paymentsSound_step hpayments hstep,
        balanced_step hrefunds hpayments hbalanced hok hstep⟩
  obtain ⟨session, hread, hclose⟩ := Except.bind_eq_ok_iff.mp hclose
  obtain ⟨rfl, rfl⟩ := Prod.mk.inj (Except.ok.inj hclose)
  have hfind : s.sessions.find? sessionId = some session := by
    rw [readClose] at hread
    split at hread
    · cases hread
    · next session' hsession =>
      obtain ⟨_, hread⟩ := Except.ite_error_eq_ok_iff.mp hread
      obtain rfl := Except.ok.inj hread
      exact (Option.filter_eq_some_iff.mp hsession).1
  refine ⟨session, hfind, ?_, ?_⟩
  · rw [Serial.toTable_modify, Table.find?_modify, if_pos rfl, hfind]
    rfl
  · rw [drawer_of_balanced hsound.2.2]
    rfl

/-- Ten cups of tea, and a session opened with a hundred in the drawer. -/
def openTill : List Call :=
  [⟨⟨0, 2024⟩, .stockIn 0 ⟨0, none, none, [⟨0, 10, 1, none⟩]⟩⟩,
    ⟨⟨1, 2024⟩, .openSession 0 ⟨0, 100⟩⟩]

/-- A cup is sold in the session, for five, with these payments. -/
def sellCup (payments : List PaymentDto) : Call :=
  ⟨⟨2, 2024⟩, .createSale 0 ⟨0, some 0, some 0, none, [⟨0, 1, some 5, none⟩], payments, none⟩⟩

/-- One cup is paid to the amount, and another one refunded in full. -/
def keptTill : Store :=
  serveAll .exact
    (openTill ++ [sellCup [⟨.cash, 5⟩], sellCup [⟨.cash, 3⟩, ⟨.card, 2⟩],
      ⟨⟨3, 2024⟩, .createRefund 0 1 ⟨3, .cash, none⟩⟩])
    (Store.initial .till)

def keptTillClosed : CloseSessionResponse × Store :=
  (close .exact 0 0 ⟨105⟩ keptTill).toOption.get (by decide +kernel)

theorem expectedBalance_eq_drawer_keptTill : ∃ session, keptTill.sessions.find? 0 = some session ∧
    keptTillClosed.2.sessions.find? 0 = some keptTillClosed.1.session ∧
    keptTillClosed.1.session.expectedBalance =
      some (Database.exact.decimal (keptTill.drawer true 0 session)) :=
  have hrun : ReachableBy .exact (DrawerKept .exact true 0) .till keptTill :=
    runs_serveAll (by decide +kernel)
  have hclose : close .exact 0 0 ⟨105⟩ keptTill = .ok (keptTillClosed.1, keptTillClosed.2) :=
    Except.toOption_eq_some_iff.mp (Option.some_get _).symm
  expectedBalance_eq_drawer hrun hclose

/-- A cup is paid with a note of ten. -/
def paidWithChange : Store :=
  serveAll .exact (openTill ++ [sellCup [⟨.cash, 10⟩]]) (Store.initial .till)

/-- A cup is paid to the amount, and two of the five are refunded. -/
def partlyRefunded : Store :=
  serveAll .exact
    (openTill ++ [sellCup [⟨.cash, 5⟩], ⟨⟨3, 2024⟩, .createRefund 0 0 ⟨2, .cash, none⟩⟩])
    (Store.initial .till)

/-- The change that was given is expected to be there, and what is left of a sale that was refunded
in part is not, whether or not voids hand money back. -/
theorem drawer_short_of_change :
    (Reachable .exact .till paidWithChange ∧
      ([true, false].map fun handedBack =>
        (paidWithChange.sessions.find? 0).map (paidWithChange.drawer handedBack 0)) =
        [some 105, some 105] ∧
      (close .exact 0 0 ⟨105⟩ paidWithChange).toOption.map
        (fun r => r.1.session.expectedBalance) = some (some 110)) ∧
    Reachable .exact .till partlyRefunded ∧
      ([true, false].map fun handedBack =>
        (partlyRefunded.sessions.find? 0).map (partlyRefunded.drawer handedBack 0)) =
        [some 103, some 103] ∧
      (close .exact 0 0 ⟨103⟩ partlyRefunded).toOption.map
        (fun r => r.1.session.expectedBalance) = some (some 100) :=
  ⟨⟨reachable_serveAll _ _ _, by decide +kernel, by decide +kernel⟩,
    reachable_serveAll _ _ _, by decide +kernel, by decide +kernel⟩

end Invetrixa
