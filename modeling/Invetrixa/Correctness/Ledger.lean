import Invetrixa.Refinement.Step

/-!
# Balances, movements and layers

The on-hand quantity of a place is recorded three times: as a counter, as movements in and out,
and as what remains in the valuation layers. The counter and the movements agree in every store
the requests can reach. The counter and the layers agree as long as no request takes more of a
place than is there, line after line, and no sale with something in it is voided.

## Main results

- `balance_eq_ledger`
- `onHand_eq_layerQty`, `void_leaves_stock_without_layer`
-/

namespace Invetrixa

open Rowstore MovementService

/-- The on-hand quantity of a tenant's balance row, 0 without one. -/
def Store.tenantOnHand (s : Store) (tenantId p l : Id) : ℤ :=
  ((s.tenantBalance tenantId p l).map InventoryBalance.onHandQuantity).getD 0

/-- The quantities of a tenant's movements of one type, of a product at a location. -/
def Store.movedQty (s : Store) (movementType : StockMovementType) (tenantId p l : Id) : ℤ :=
  s.movements.sum fun _ m =>
    if m.tenantId = tenantId ∧ m.productId = p ∧ m.locationId = l ∧
      m.movementType = movementType then m.quantity else 0

variable {db : Database} {c : Catalogue} {s : Store} {tenantId p l : Id}

section Tenant

/-- Of its own product a tenant sees the whole balance. -/
theorem tenantOnHand_of_owner (hs : WellFormed s) (ht : s.tenantOf p = some tenantId) :
    s.tenantOnHand tenantId p l = s.onHand p l := by
  rw [Store.tenantOnHand, Store.tenantBalance, Store.onHand]
  cases hb : s.balances.find? (p, l) with
  | none => rfl
  | some b =>
    have hown : b.tenantId = tenantId := Option.some.inj ((hs.balances _ b hb).symm.trans ht)
    simp [Option.filter, hown]

/-- Of the product of another tenant it sees nothing. -/
theorem tenantOnHand_of_other (hs : WellFormed s) (ht : s.tenantOf p ≠ some tenantId) :
    s.tenantOnHand tenantId p l = 0 := by
  rw [Store.tenantOnHand, Store.tenantBalance]
  cases hb : s.balances.find? (p, l) with
  | none => rfl
  | some b =>
    have hother : b.tenantId ≠ tenantId := by
      intro heq
      exact ht (heq ▸ hs.balances _ b hb)
    simp [Option.filter, hother]

/-- All movements of a product are its tenant's. -/
theorem movedQty_of_owner (hs : WellFormed s) (ht : s.tenantOf p = some tenantId) :
    s.movedQty .in tenantId p l - s.movedQty .out tenantId p l = s.netMoved p l := by
  rw [sub_eq_iff_eq_add]
  simp only [Store.movedQty, Store.netMoved]
  rw [← Table.sum_add]
  refine Table.sum_congr fun k m hm => ?_
  by_cases hpl : m.productId = p ∧ m.locationId = l
  · obtain ⟨rfl, rfl⟩ := hpl
    have hown : m.tenantId = tenantId :=
      Option.some.inj ((hs.movements k m hm).symm.trans ht)
    cases htype : m.movementType with
    | «in» => simp [hown, htype, StockMovement.signed]
    | out => simp [hown, htype, StockMovement.signed]
  · have hmiss (movementType : StockMovementType) : ¬(m.tenantId = tenantId ∧ m.productId = p ∧
        m.locationId = l ∧ m.movementType = movementType) := fun h => hpl ⟨h.2.1, h.2.2.1⟩
    rw [if_neg (hmiss .in), if_neg hpl, if_neg (hmiss .out), add_zero]

theorem movedQty_of_other (hs : WellFormed s) (ht : s.tenantOf p ≠ some tenantId)
    (movementType : StockMovementType) : s.movedQty movementType tenantId p l = 0 := by
  refine Table.sum_eq_zero fun k m hm => ?_
  refine if_neg ?_
  rintro ⟨rfl, rfl, _⟩
  exact ht (hs.movements k m hm)

end Tenant

section Ledger

/-- The counter and the movements of every place start alike and change alike. -/
theorem onHand_eq_netMoved (h : Reachable db c s) (p l : Id) :
    s.onHand p l = s.netMoved p l := by
  refine runs_invariant (d := anyBooking) (I := fun s => s.onHand p l = s.netMoved p l) h
    (wellFormed_initial c) rfl (fun _ _ _ => False.elim) (fun _ _ _ => False.elim)
    (fun _ _ _ _ _ => trivial) (fun _ _ _ _ _ _ _ => trivial) fun s b hs hI hb => ?_
  rw [onHand_book hs hb.1, netMoved_book hb.1, hI]

/-- In every reachable store, for every tenant, product and location, the on-hand quantity is
what came in minus what went out. -/
theorem balance_eq_ledger (h : Reachable db c s) (tenantId p l : Id) :
    s.tenantOnHand tenantId p l =
      s.movedQty .in tenantId p l - s.movedQty .out tenantId p l := by
  have hs := wellFormed_of_reachable h
  by_cases ht : s.tenantOf p = some tenantId
  · rw [tenantOnHand_of_owner hs ht, movedQty_of_owner hs ht]
    exact onHand_eq_netMoved h p l
  · rw [tenantOnHand_of_other hs ht, movedQty_of_other hs ht, movedQty_of_other hs ht, sub_self]

/-- Ten received, then four sold. -/
def soldFour : List Call :=
  [⟨⟨0, 2024⟩, .stockIn 0 ⟨0, none, none, [⟨0, 10, 1, none⟩]⟩⟩,
    ⟨⟨1, 2024⟩, .createSale 0
      ⟨0, none, none, none, [⟨0, 4, some 3, none⟩], [⟨.cash, 12⟩], none⟩⟩]

/-- The store of the shop after ten are received and four sold. -/
def soldFourStore (method : PricingMethod) : Store :=
  serveAll .exact soldFour (Store.initial (.shop method))

theorem balance_eq_ledger_soldFour :
    (soldFourStore .fifo).tenantOnHand 0 0 0 = 6 ∧
      (soldFourStore .fifo).tenantOnHand 0 0 0 =
        (soldFourStore .fifo).movedQty .in 0 0 0 - (soldFourStore .fifo).movedQty .out 0 0 0 :=
  ⟨by decide +kernel, balance_eq_ledger (reachable_serveAll _ _ _) 0 0 0⟩

end Ledger

section Layers

/-- In every run in which the lines of each request are covered and no sale with something in
it is voided, what is on hand is what remains in the layers. -/
theorem onHand_eq_layerQty (h : ReachableBy db (Covered db) c s) (p l : Id) :
    s.onHand p l = s.layerQty p l := by
  have hall : ∀ p l, s.onHand p l = s.layerQty p l := by
    refine runs_invariant (d := { anyBooking with covered := True })
      (I := fun s => ∀ p l, s.onHand p l = s.layerQty p l) h (wellFormed_initial c)
      (fun _ _ => rfl) (fun _ _ hok _ => hok) (fun _ _ _ => False.elim) (fun _ _ _ _ _ => trivial)
      (fun _ _ _ _ _ _ _ => trivial) fun s b hs hI hb p l => ?_
    rw [onHand_book hs hb.1, layerQty_book hs hI hb.1 (hb.2.1 trivial), hI]
  exact hall p l

theorem onHand_eq_layerQty_soldFour :
    (soldFourStore .fifo).onHand 0 0 = (soldFourStore .fifo).layerQty 0 0 ∧
      (soldFourStore .fifo).onHand 0 0 = 6 :=
  have hrun : ReachableBy .exact (Covered .exact) (.shop .fifo) (soldFourStore .fifo) :=
    runs_serveAll (by decide +kernel)
  ⟨onHand_eq_layerQty hrun 0 0, by decide +kernel⟩

/-- The store after the sale of four is voided as well. -/
def voidedStore : Store :=
  serveAll .exact (soldFour ++ [⟨⟨2, 2024⟩, .voidSale 0 0⟩]) (Store.initial (.shop .fifo))

/-- The voided goods are on hand again and in no layer. -/
theorem void_leaves_stock_without_layer :
    Reachable .exact (.shop .fifo) voidedStore ∧
      voidedStore.onHand 0 0 = 10 ∧ voidedStore.layerQty 0 0 = 6 :=
  ⟨reachable_serveAll _ _ _, by decide +kernel⟩

end Layers

end Invetrixa
