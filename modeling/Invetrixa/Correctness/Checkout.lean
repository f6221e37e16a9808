import Invetrixa.Correctness.Oversell

/-!
# Checking out a reserved cart

A completion takes the items of a cart out of stock with the removal that other requests use, and
marks the reservations of the cart as fulfilled. The removal counts every reservation against
what is available, those of the cart included, and nobody lowers the reserved quantity: a cart
whose items are reserved for it never has the outcome that the reservation stands for.

## Main definitions

- `ReservedCart` — a draft cart covered by its own reservations and paid for
- `CheckedOut` — what the completion of such a cart is to do

## Main results

- `takes_complete`, `available_of_complete` — what a completion does and when
- `reserved_cart_not_checked_out`, `reserved_cart_refused`
-/

namespace Invetrixa

open Rowstore Requests MovementService SaleService

/-- What the active reservations of a cart hold of a product at a location. -/
def Store.cartReserved (s : Store) (saleId p l : Id) : ℤ :=
  s.reservations.sum fun _ r =>
    if isReservationOf saleId r ∧ r.productId = p ∧ r.locationId = l then r.quantity else 0

/-- What the items of a cart come to of a product. -/
def Store.cartQty (s : Store) (saleId p : Id) : ℤ :=
  ((s.itemsOf saleId).map fun r => if r.2.productId = p then r.2.quantity else 0).sum

/-- A draft cart of the tenant whose items are covered by its own active reservations and whose
total is paid. -/
structure ReservedCart (s : Store) (tenantId saleId : Id) (payments : List PaymentDto)
    (sale : Sale) : Prop where
  find : s.sales.find? saleId = some sale
  tenant : sale.tenantId = tenantId
  draft : sale.status = .draft
  covered : ∀ r ∈ s.itemsOf saleId,
    r.2.quantity ≤ s.cartReserved saleId r.2.productId sale.locationId
  paid : ((s.itemsOf saleId).map fun r => r.2.lineTotal).sum - sale.discountAmount +
    sale.taxAmount ≤ (payments.map PaymentDto.amount).sum

/-- The completion succeeds, the cart is completed, and at its location each product is down by
what the cart takes and its reserved quantity by what the cart had reserved. -/
structure CheckedOut (db : Database) (s : Store) (tenantId saleId : Id)
    (payments : List PaymentDto) (sale : Sale) (s' : Store) : Prop where
  succeeds : complete db tenantId saleId payments s = .ok ((), s')
  completed : ∃ sale', s'.sales.find? saleId = some sale' ∧ sale'.status = .completed
  onHand : ∀ p, s'.onHand p sale.locationId = s.onHand p sale.locationId - s.cartQty saleId p
  reserved : ∀ p, s'.reserved p sale.locationId =
    s.reserved p sale.locationId - s.cartReserved saleId p sale.locationId

variable {db : Database} {c : Catalogue} {tenantId saleId : Id} {payments : List PaymentDto}
  {sale : Sale} {s s' : Store}

/-- A completion takes each line only from what nobody has reserved, the cart included. -/
theorem available_of_complete (h : complete db tenantId saleId payments s = .ok ((), s'))
    (hsale : s.sales.find? saleId = some sale) :
    ∀ r ∈ s.itemsOf saleId,
      r.2.quantity ≤ s.available tenantId r.2.productId sale.locationId := by
  obtain ⟨⟨read, totals⟩, hread, h⟩ := Except.bind_eq_ok_iff.mp h
  obtain ⟨hfind, _, _, hitems, _⟩ := readComplete_ok hread
  obtain rfl := Option.some.inj (hsale.symm.trans hfind)
  obtain ⟨hvalid, _⟩ := executeCompletionTransaction_ok h
  intro r hr
  rw [← hitems] at hr
  exact (validateStockOut_ok hvalid).2 _ (List.mem_map_of_mem hr)

/-- A completion books the lines of the cart, and leaves what is reserved. -/
theorem takes_complete (hs : WellFormed s)
    (h : complete db tenantId saleId payments s = .ok ((), s')) :
    Takes s s' (s.saleLines saleId) := by
  have havail := fun sale (hsale : s.sales.find? saleId = some sale) =>
    available_of_complete h hsale
  obtain ⟨⟨read, totals⟩, hread, h⟩ := Except.bind_eq_ok_iff.mp h
  obtain ⟨hfind, _, hdraft, hitems, _⟩ := readComplete_ok hread
  obtain ⟨_, hupdate⟩ := executeCompletionTransaction_ok h
  obtain ⟨rfl, _⟩ := updateSale_ok hupdate
  have hlines : s.saleLines saleId = BulkStockOutDto.lines (completionOut saleId read) := by
    rw [Store.saleLines, hfind, ← hitems]
    simp only [BulkStockOutDto.lines, completionOut, saleStockOut, aggregateSaleItems, List.map_map]
    rfl
  rw [hlines]
  have hrow : ∀ item ∈ (completionOut saleId read).items, item.2 ≤ 0 ∨
      (createPayments db saleId payments s).HasBalance item.1
        (completionOut saleId read).locationId := by
    intro item hitem
    obtain ⟨r, hr, rfl⟩ := List.mem_map.mp hitem
    rw [hitems] at hr
    have hpos := (itemsOf_sound hs hfind hr).2.2.1 hdraft
    exact .inr (hasBalance_of_available hpos (havail read.sale hfind r hr))
  exact (takes_executeStockOut hrow).congr rfl rfl

/-- A completed cart has something in it. -/
theorem itemsOf_ne_nil_of_complete (h : complete db tenantId saleId payments s = .ok ((), s')) :
    s.itemsOf saleId ≠ [] := by
  obtain ⟨⟨read, totals⟩, hread, _⟩ := Except.bind_eq_ok_iff.mp h
  exact (readComplete_ok hread).2.2.2.2.1

/-- In no reachable state has the completion of a reserved cart the outcome that its reservations
stand for, whatever is in the cart and however it is paid: either it is refused, or what was
reserved for the cart stays reserved. -/
theorem reserved_cart_not_checked_out (h : Reachable db c s)
    (hcart : ReservedCart s tenantId saleId payments sale) :
    ¬∃ s', CheckedOut db s tenantId saleId payments sale s' := by
  rintro ⟨s', hout⟩
  have hs := wellFormed_of_reachable h
  obtain ⟨r, hr⟩ := List.exists_mem_of_ne_nil _ (itemsOf_ne_nil_of_complete hout.succeeds)
  have hpos := (itemsOf_sound hs hcart.find hr).2.2.1 hcart.draft
  have hcovered := hcart.covered r hr
  have hkept := (takes_complete hs hout.succeeds).reserved r.2.productId sale.locationId
  have hlowered := hout.reserved r.2.productId
  omega

/-- Five received, all of them put into a cart. -/
def lastFive : List Call :=
  [⟨⟨0, 2024⟩, .stockIn 0 ⟨0, none, none, [⟨0, 5, 1, none⟩]⟩⟩,
    ⟨⟨1, 2024⟩, .createCart 0 ⟨0, none, none, none⟩⟩,
    ⟨⟨2, 2024⟩, .addCartItem 0 0 ⟨0, 5, some 3, none, none⟩⟩]

def lastFiveStore : Store := serveAll .exact lastFive (Store.initial (.shop .fifo))

/-- The cart as it stands. -/
def lastFiveCart : Sale := (lastFiveStore.sales.find? 0).get (by decide +kernel)

theorem reservedCart_lastFive : ReservedCart lastFiveStore 0 0 [⟨.cash, 15⟩] lastFiveCart where
  find := (Option.some_get _).symm
  tenant := by decide +kernel
  draft := by decide +kernel
  covered := by decide +kernel
  paid := by decide +kernel

theorem reserved_cart_not_checked_out_lastFive :
    ¬∃ s', CheckedOut .exact lastFiveStore 0 0 [⟨.cash, 15⟩] lastFiveCart s' :=
  have hreach : Reachable .exact (.shop .fifo) lastFiveStore := reachable_serveAll _ _ _
  reserved_cart_not_checked_out hreach reservedCart_lastFive

/-- All five are on hand and reserved for the cart, and its completion finds none available. -/
theorem reserved_cart_refused :
    Reachable .exact (.shop .fifo) lastFiveStore ∧
      ReservedCart lastFiveStore 0 0 [⟨.cash, 15⟩] lastFiveCart ∧
      lastFiveStore.onHand 0 0 = 5 ∧ lastFiveStore.cartReserved 0 0 0 = 5 ∧
      (complete .exact 0 0 [⟨.cash, 15⟩] lastFiveStore).isOk = false :=
  ⟨reachable_serveAll _ _ _, reservedCart_lastFive, by decide +kernel⟩

end Invetrixa
