import Invetrixa.Refinement.SaleAmounts

/-!
# The money of a completed sale

With exact amounts, the totals that are stored on a sale agree with its items and its payments
whenever a quick sale or the completion of a cart is accepted, after any requests.

## Main definitions

- `Database.Exact` — amounts are exact numbers
- `Sale.MoneyLaw` — the amounts of a sale agree with its items and payments

## Main results

- `moneyLaw_of_reachable` — every sale that is no cart
- `moneyLaw_of_accepted`
-/

namespace Invetrixa

open Rowstore Requests SaleService

/-- Amounts are exact: neither a column nor number arithmetic rounds them. -/
structure Database.Exact (db : Database) : Prop where
  decimal : ∀ x, db.decimal x = x
  round : ∀ x, db.numbers.round x = x
  numeral : ∀ x, db.numbers.numeral x = x

/-- Each item comes to its price less its discount for each piece, the subtotal to the items, the
total to the subtotal less the discount and with the tax, what was paid to the payments, and the
change to what was paid above the total. -/
structure Sale.MoneyLaw (t : PosTables) (id : Id) (sale : Sale) : Prop where
  lines : ∀ k i, t.saleItems.find? k = some i → i.saleId = id →
    i.lineTotal = (i.unitPrice - i.discountAmount) * i.quantity
  subtotal : sale.subtotal = lineTotals id t.saleItems
  total : sale.totalAmount = sale.subtotal - sale.discountAmount + sale.taxAmount
  paid : sale.paidAmount = paymentTotal id t.salePayments
  change : sale.changeAmount = sale.paidAmount - sale.totalAmount
  covered : 0 ≤ sale.changeAmount

/-- The sale that a request completes. -/
def Request.sold (s : Store) : Request → Option Id
  | .createSale _ _ => some s.sales.next
  | .completeSale _ saleId _ => some saleId
  | _ => none

variable {db : Database} {c : Catalogue} {saleId : Id} {s : Store} {call : Call} {sale : Sale}

/-- A sale that a request has completed is there. -/
theorem completed_of_accepted (hsold : call.request.sold s = some saleId)
    (h : Accepted db s call) :
    ∃ sale, (step db call s).sales.find? saleId = some sale ∧ sale.status = .completed := by
  obtain ⟨clock, request⟩ := call
  cases request with
  | createSale tenantId dto =>
    obtain rfl := Option.some.inj hsold
    obtain ⟨items, totals, _, hpos⟩ := pos_of_accepted_createSale h
    have hsales := congrArg PosTables.sales hpos
    refine ⟨_, (congrArg (fun t : Serial Sale => t.find? s.sales.next) hsales).trans
      ((Serial.find?_create _).trans (if_pos rfl)), rfl⟩
  | completeSale tenantId id payments =>
    obtain rfl := Option.some.inj hsold
    obtain ⟨read, totals, hread, hpos⟩ := pos_of_accepted_completeSale h
    obtain ⟨hfind, _⟩ := readComplete_ok hread
    have hsales := congrArg PosTables.sales hpos
    refine ⟨markCompleted db totals read.sale,
      (congrArg (fun t : Serial Sale => t.find? id) hsales).trans ?_, rfl⟩
    exact Serial.find?_modify_of_some hfind _
  | _ => cases hsold

theorem Database.Exact.computes (h : db.Exact) (price discount quantity : ℚ) :
    db.Computes price discount quantity := by
  simp only [Database.Computes, Database.lineTotal, Database.amount, h.decimal, h.round, h.numeral,
    sub_mul, and_self]

/-- With exact amounts, every sale that is no cart obeys the law. -/
theorem moneyLaw_of_reachable (hexact : db.Exact) (hreach : Reachable db c s)
    (hfind : s.sales.find? saleId = some sale) (hstatus : sale.status ≠ .draft) :
    sale.MoneyLaw s.pos saleId := by
  have hkept : ReachableBy db (MoneyKept db) c s := by
    refine hreach.mono fun s call _ => ?_
    obtain ⟨clock, request⟩ := call
    cases request with
    | createSale =>
      exact ⟨fun _ _ => ⟨hexact.decimal _, hexact.decimal _⟩, hexact.decimal _,
        fun _ _ => hexact.decimal _⟩
    | addCartItem tenantId cartId dto =>
      simp only [MoneyKept, Request.MoneyKept]
      split
      · exact hexact.computes _ _ _
      · exact fun _ _ => hexact.computes _ _ _
    | updateCartItem => exact fun _ _ => hexact.computes _ _ _
    | completeSale => exact fun _ _ => hexact.decimal _
    | _ => trivial
  have hsound := moneySound_of_reachable (fun _ _ _ _ => hexact.decimal _) hkept
  obtain ⟨hsubtotal, _, _, htotal⟩ := hsound.totals saleId sale hfind
  obtain ⟨hpaid, hchange, hcovered⟩ := hsound.paid saleId sale hfind hstatus
  exact ⟨fun k i hi _ => (hsound.lines k i hi).total, hsubtotal, htotal, hpaid, hchange, hcovered⟩

/-- With exact amounts, every accepted quick sale and every accepted completion of a cart leaves a
completed sale that obeys the law. -/
theorem moneyLaw_of_accepted (hexact : db.Exact) (hreach : Reachable db c s)
    (hsold : call.request.sold s = some saleId) (h : Accepted db s call) :
    ∃ sale, (step db call s).sales.find? saleId = some sale ∧ sale.status = .completed ∧
      sale.MoneyLaw (step db call s).pos saleId := by
  obtain ⟨sale, hfind, hstatus⟩ := completed_of_accepted hsold h
  have hnext : Reachable db c (step db call s) := hreach.tail ⟨call, trivial, rfl⟩
  refine ⟨sale, hfind, hstatus, moneyLaw_of_reachable hexact hnext hfind ?_⟩
  rw [hstatus]
  decide

/-- A cart with one item, to which another piece of the same product and a piece of another product
are added; the discount of the first item is raised, and the second item is removed again. -/
def editedCart : Store :=
  serveAll .exact
    [⟨⟨3, 2024⟩, .stockIn 0 ⟨0, none, none, [⟨1, 4, 2, none⟩]⟩⟩,
      ⟨⟨4, 2024⟩, .addCartItem 0 0 ⟨0, 1, some 9, none, none⟩⟩,
      ⟨⟨5, 2024⟩, .addCartItem 0 0 ⟨1, 1, some 7, none, none⟩⟩,
      ⟨⟨6, 2024⟩, .updateCartItem 0 0 0 ⟨3, none, some 1, none⟩⟩,
      ⟨⟨7, 2024⟩, .removeCartItem 0 0 1⟩] cartStore

/-- Three pieces at four are paid with ten in cash and five by card. -/
def editedCartPaid : Call := ⟨⟨8, 2024⟩, .completeSale 0 0 [⟨.cash, 10⟩, ⟨.card, 5⟩]⟩

theorem moneyLaw_of_accepted_editedCart :
    ∃ sale, (step .exact editedCartPaid editedCart).sales.find? 0 = some sale ∧
      sale.status = .completed ∧ sale.MoneyLaw (step .exact editedCartPaid editedCart).pos 0 :=
  have hcart : Reachable .exact (.shop .fifo) cartStore := reachable_serveAll _ _ _
  have hreach : Reachable .exact (.shop .fifo) editedCart :=
    Relation.ReflTransGen.trans hcart (runs_serveAll (by decide +kernel))
  moneyLaw_of_accepted ⟨fun _ => rfl, fun _ => rfl, fun _ => rfl⟩ hreach rfl (by decide +kernel)

end Invetrixa
