import Invetrixa.Correctness.Returns
import Mathlib.Tactic.Linarith

/-!
# What refunds pay back

A refund is compared with what is left of the payment of its sale, and the status follows from the
sum. Both are computed from the amount as it was requested, while the refund that is stored has the
amount as its column rounds it. So the refunds of a sale never exceed what was paid less the change,
and the status agrees with them unless an amount below the rest is rounded up to it.

## Main definitions

- `RefundLaw` — what a refund may do to its sale
- `NotRoundedUp` — the condition on a refund

## Main results

- `refundLaw_iff` — one refund
- `refunds_lawful_iff`, `refund_rounded_up`
-/

namespace Invetrixa

open Rowstore Requests SaleService RefundService

/-- What the shop keeps of the payments of a sale. -/
def Sale.received (sale : Sale) : ℚ := sale.paidAmount - sale.changeAmount

/-- A refused refund changes nothing, and a refund of a sale that is refunded is refused. An
accepted one leaves the refunds within what was received, and the sale refunded exactly when they
are all of it. -/
structure RefundLaw (db : Database) (saleId : Id) (s : Store) (r : RefundCall) : Prop where
  refused : ¬Accepted db s (r.call saleId) → step db (r.call saleId) s = s
  closed : ∀ sale, s.sales.find? saleId = some sale → sale.status = .refunded →
    ¬Accepted db s (r.call saleId)
  accepted : Accepted db s (r.call saleId) → ∃ sale,
    (step db (r.call saleId) s).sales.find? saleId = some sale ∧
      totalRefunded saleId (step db (r.call saleId) s) ≤ sale.received ∧
      sale.status = if totalRefunded saleId (step db (r.call saleId) s) = sale.received then
        .refunded else .partiallyRefunded

/-- The amount of an accepted refund is not one below the rest that the column rounds to it. -/
def NotRoundedUp (db : Database) (saleId : Id) (s : Store) (r : RefundCall) : Prop :=
  Accepted db s (r.call saleId) → ∀ sale ∈ s.sales.find? saleId,
    ¬(r.dto.amount < sale.received - totalRefunded saleId s ∧
      db.decimal r.dto.amount = sale.received - totalRefunded saleId s)

instance (db : Database) (saleId : Id) (s : Store) (r : RefundCall) :
    Decidable (NotRoundedUp db saleId s r) :=
  inferInstanceAs (Decidable (_ → ∀ sale ∈ s.sales.find? saleId, _))

/-- Payments, change and refunds are such as their columns keep. -/
structure PosTables.PaidKept (db : Database) (t : PosTables) : Prop where
  sales : t.sales.All fun _ sale =>
    db.decimal sale.paidAmount = sale.paidAmount ∧ db.decimal sale.changeAmount = sale.changeAmount
  refunds : t.saleRefunds.All fun _ r => db.decimal r.amount = r.amount

variable {db : Database} {c : Catalogue} {saleId : Id} {s : Store} {call : Call} {t : PosTables}
  {r : RefundCall}

section Kept

theorem paidKept_step (hzero : db.decimal 0 = 0) (hI : s.pos.PaidKept db)
    (h : SaleStep db s call t) : t.PaidKept db := by
  have hsales : s.sales.All fun _ sale => db.decimal sale.paidAmount = sale.paidAmount ∧
    db.decimal sale.changeAmount = sale.changeAmount := hI.sales
  cases h with
  | kept => exact hI
  | opened clock tenantId dto => exact ⟨Serial.All_create hsales ⟨hzero, hzero⟩, hI.refunds⟩
  | written _ cartId cart saleItems hfind hdraft hedit =>
    exact ⟨Table.All.modify hsales fun _ _ hsale => hsale, hI.refunds⟩
  | sold clock tenantId dto items totals hpasses hread =>
    exact ⟨Serial.All_create hsales ⟨db.decimal_idem _, db.decimal_idem _⟩, hI.refunds⟩
  | completed clock tenantId saleId payments read totals hpasses hread =>
    exact ⟨Table.All.modify hsales fun _ _ _ => ⟨db.decimal_idem _, db.decimal_idem _⟩, hI.refunds⟩
  | voided clock tenantId saleId read hread =>
    exact ⟨Table.All.modify hsales fun _ _ hsale => hsale, hI.refunds⟩
  | refunded clock tenantId saleId dto read total hvalid hread =>
    exact ⟨Table.All.modify hsales fun _ _ hsale => hsale,
      Serial.All_create hI.refunds (db.decimal_idem _)⟩
  | cleaned clock hkept => exact ⟨hsales.deleteWhere _, hI.refunds⟩

theorem paidKept_of_reachable (hzero : db.decimal 0 = 0) {ok : Store → Call → Prop}
    (h : ReachableBy db ok c s) : s.pos.PaidKept db :=
  pos_invariant h ⟨fun _ _ hfind => (by cases hfind), fun _ _ hfind => (by cases hfind)⟩
    fun _ _ _ _ hI _ => paidKept_step hzero hI

/-- What is left to refund is such as the columns keep. -/
theorem decimal_rest
    (hsub : ∀ x y, db.decimal x = x → db.decimal y = y → db.decimal (x - y) = x - y)
    (hkept : s.pos.PaidKept db) {sale : Sale} (hfind : s.sales.find? saleId = some sale) :
    db.decimal (sale.received - totalRefunded saleId s) =
      sale.received - totalRefunded saleId s := by
  obtain ⟨hpaid, hchange⟩ := hkept.sales saleId sale hfind
  refine hsub _ _ (hsub _ _ hpaid hchange) ?_
  refine decimal_sum hsub fun x hx => ?_
  obtain ⟨row, hrow, rfl⟩ := List.mem_map.mp hx
  dsimp only
  split
  · exact hkept.refunds row.1 row.2 (Table.find?_of_mem_rows hrow)
  · exact decimal_zero hsub

end Kept

section Refunds

/-- What an accepted refund leaves: the sale with its new status, and its refunds with the new one
among them. -/
theorem refund_of_accepted (h : Accepted db s (r.call saleId)) :
    ∃ sale, s.sales.find? saleId = some sale ∧ sale.status ≠ .refunded ∧
      r.dto.amount ≤ sale.received - totalRefunded saleId s ∧
      (step db (r.call saleId) s).sales.find? saleId =
        some { sale with
          status := refundStatus sale (totalRefunded saleId s) r.dto.amount } ∧
      totalRefunded saleId (step db (r.call saleId) s) =
        totalRefunded saleId s + db.decimal r.dto.amount := by
  obtain ⟨_, id, hrefund⟩ :=
    ok_of_accepted (createRefund db r.clock r.tenantId saleId r.dto) rfl h
  obtain ⟨⟨read, total⟩, hread, hrefund⟩ := Except.bind_eq_ok_iff.mp hrefund
  obtain ⟨hfind, _, hstatus, _, rfl, hle⟩ := readRefund_ok hread
  have hpos := pos_executeRefund hrefund
  have hsales := congrArg PosTables.sales hpos
  have hrefunds := congrArg PosTables.saleRefunds hpos
  refine ⟨read.sale, hfind, ?_, ?_, ?_, ?_⟩
  · rcases hstatus with h | h <;> rw [h] <;> decide
  · rw [Sale.received]
    linarith
  · refine (congrArg (fun t : Serial Sale => t.find? saleId) hsales).trans ?_
    exact Serial.find?_modify_of_some hfind _
  · have hsum := congrArg (fun t : Serial SaleRefund =>
      t.sum fun _ r => if r.saleId = saleId then r.amount else 0) hrefunds
    refine hsum.trans ((Serial.sum_create _ _).trans ?_)
    rw [if_pos rfl]
    rfl

/-- The status of a refund is that of the refunds stored, unless the column rounds the amount up to
the rest. -/
theorem refundStatus_eq_iff {sale : Sale} {total amount : ℚ}
    (hrest : db.decimal (sale.received - total) = sale.received - total)
    (hle : amount ≤ sale.received - total) :
    (refundStatus sale total amount =
      if total + db.decimal amount = sale.received then .refunded else .partiallyRefunded) ↔
    ¬(amount < sale.received - total ∧ db.decimal amount = sale.received - total) := by
  have hstored : total + db.decimal amount = sale.received ↔
      db.decimal amount = sale.received - total := by
    constructor
    · intro h
      linarith
    · intro h
      linarith
  have hwhole : total + amount ≥ sale.paidAmount - sale.changeAmount ↔
      amount = sale.received - total := by
    rw [Sale.received] at hle ⊢
    constructor
    · intro h
      linarith
    · intro h
      linarith
  unfold refundStatus
  rw [if_congr hwhole rfl rfl, if_congr hstored rfl rfl]
  by_cases hamount : amount = sale.received - total
  · rw [if_pos hamount, if_pos (by rw [hamount, hrest])]
    exact iff_of_true rfl fun h => h.1.ne hamount
  · have hlt : amount < sale.received - total := lt_of_le_of_ne hle hamount
    rw [if_neg hamount]
    by_cases hround : db.decimal amount = sale.received - total
    · rw [if_pos hround]
      exact iff_of_false nofun fun h => h ⟨hlt, hround⟩
    · rw [if_neg hround]
      exact iff_of_true rfl fun h => hround h.2

/-- A refund of a sale of a store in which amounts are kept obeys the law exactly when its amount is
not rounded up to the rest. -/
theorem refundLaw_iff
    (hsub : ∀ x y, db.decimal x = x → db.decimal y = y → db.decimal (x - y) = x - y)
    (hdecimal : Monotone db.decimal) (hkept : s.pos.PaidKept db) :
    RefundLaw db saleId s r ↔ NotRoundedUp db saleId s r := by
  constructor
  · intro hlaw haccepted sale hsale
    obtain ⟨sale', hfind, _, hle, hfind', htotal⟩ := refund_of_accepted haccepted
    obtain rfl := Option.some.inj (hfind.symm.trans hsale)
    obtain ⟨sale'', hfind'', _, hstatus⟩ := hlaw.accepted haccepted
    obtain rfl := Option.some.inj (hfind'.symm.trans hfind'')
    rw [htotal] at hstatus
    exact (refundStatus_eq_iff (decimal_rest hsub hkept hfind) hle).mp hstatus
  · intro hok
    refine ⟨fun hrefused => ?_, fun sale hsale hstatus haccepted => ?_, fun haccepted => ?_⟩
    · have hcases : step db (r.call saleId) s = s ∨ Accepted db s (r.call saleId) ∧ True :=
        step_cases_of_serve (createRefund db r.clock r.tenantId saleId r.dto) rfl
          fun _ _ _ _ => trivial
      exact hcases.resolve_right fun h => hrefused h.1
    · obtain ⟨sale', hfind, hopen, _⟩ := refund_of_accepted haccepted
      obtain rfl := Option.some.inj (hfind.symm.trans hsale)
      exact hopen hstatus
    · obtain ⟨sale, hfind, _, hle, hfind', htotal⟩ := refund_of_accepted haccepted
      have hrest := decimal_rest hsub hkept hfind
      refine ⟨_, hfind', ?_, ?_⟩
      · -- The rest is kept, so that rounding does not take the amount past it.
        have hround : db.decimal r.dto.amount ≤ sale.received - totalRefunded saleId s :=
          (hdecimal hle).trans_eq hrest
        rw [htotal]
        show totalRefunded saleId s + db.decimal r.dto.amount ≤ sale.received
        linarith
      · rw [htotal]
        exact (refundStatus_eq_iff hrest hle).mpr (hok haccepted sale hfind)

/-- In every run of refunds of a sale, each obeys the law exactly when no accepted one has an amount
below the rest that is rounded up to it. -/
theorem refunds_lawful_iff
    (hsub : ∀ x y, db.decimal x = x → db.decimal y = y → db.decimal (x - y) = x - y)
    (hdecimal : Monotone db.decimal) (hreach : Reachable db c s) (rs : List RefundCall) :
    Runs.AllMeet (fun r s => step db (r.call saleId) s) (RefundLaw db saleId) rs s ↔
      Runs.AllMeet (fun r s => step db (r.call saleId) s) (NotRoundedUp db saleId) rs s := by
  induction rs generalizing s with
  | nil => exact Iff.rfl
  | cons r rest ih =>
    have hkept := paidKept_of_reachable (decimal_zero hsub) hreach
    have hnext : Reachable db c (step db (r.call saleId) s) :=
      hreach.tail ⟨r.call saleId, trivial, rfl⟩
    exact and_congr (refundLaw_iff hsub hdecimal hkept) (ih hnext)

/-- Two cups for ten are refunded in two parts, and once more. -/
def cupRefunds : List RefundCall :=
  [⟨⟨2, 2024⟩, 0, ⟨4, .cash, none⟩⟩, ⟨⟨3, 2024⟩, 0, ⟨7, .cash, none⟩⟩,
    ⟨⟨4, 2024⟩, 0, ⟨6, .cash, none⟩⟩, ⟨⟨5, 2024⟩, 0, ⟨0, .cash, none⟩⟩]

/-- The two cups, with columns of four decimals. -/
def cupsRounded : Store :=
  serveAll .scale4
    [⟨⟨0, 2024⟩, .stockIn 0 ⟨0, none, none, [⟨0, 10, 1, none⟩]⟩⟩,
      ⟨⟨1, 2024⟩, .createSale 0 ⟨0, none, none, none, [⟨0, 2, some 5, none⟩], [⟨.cash, 10⟩], none⟩⟩]
    (Store.initial .till)

theorem refunds_lawful_iff_cups :
    Runs.AllMeet (fun r s => step .scale4 (r.call 0) s) (RefundLaw .scale4 0) cupRefunds
        cupsRounded ↔
      Runs.AllMeet (fun r s => step .scale4 (r.call 0) s) (NotRoundedUp .scale4 0) cupRefunds
        cupsRounded :=
  have hreach : Reachable .scale4 .till cupsRounded := reachable_serveAll _ _ _
  refunds_lawful_iff Database.scale4_sub Database.scale4_mono hreach cupRefunds

/-- A refund of a hundred-thousandth less than the ten that were paid. -/
def almostAll : RefundCall := ⟨⟨2, 2024⟩, 0, ⟨999999 / 100000, .cash, none⟩⟩

/-- The refund is stored as ten, and the sale is refunded in part only. -/
theorem refund_rounded_up :
    Reachable .scale4 .till cupsRounded ∧ Accepted .scale4 cupsRounded (almostAll.call 0) ∧
    (cupsRounded.sales.find? 0).map Sale.received = some 10 ∧
    totalRefunded 0 (step .scale4 (almostAll.call 0) cupsRounded) = 10 ∧
    ((step .scale4 (almostAll.call 0) cupsRounded).sales.find? 0).map Sale.status =
      some .partiallyRefunded :=
  ⟨reachable_serveAll _ _ _, by decide +kernel, by decide +kernel, by decide +kernel,
    by decide +kernel⟩

end Refunds

end Invetrixa
