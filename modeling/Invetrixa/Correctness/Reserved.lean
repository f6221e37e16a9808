import Invetrixa.Refinement.Step

/-!
# Reserved quantities and active reservations

The reserved quantity of a place is a counter that five services keep by hand. It equals the
active reservations of the place as long as no cart is completed while it holds active
reservations: a completion fulfills them and leaves the counter as it was.

## Main results

- `reserved_eq_activeQty`, `completion_leaves_reserved`
-/

namespace Invetrixa

open Rowstore Requests

variable {db : Database} {c : Catalogue} {s s' : Store}

/-- At every place what is reserved is what the active reservations hold. -/
def Store.ReservedAgrees (s : Store) : Prop := ∀ p l, s.reserved p l = s.activeQty p l

/-- Requests that complete no cart with active reservations keep the agreement. -/
theorem reservedAgrees_of_runs (hs : WellFormed s) (hagree : s.ReservedAgrees)
    (h : Runs (step db) (Settled db) s s') : s'.ReservedAgrees := by
  intro p l
  refine runs_invariant (d := { anyBooking with settled := True })
    (I := fun s => s.reserved p l = s.activeQty p l) h hs (hagree p l)
    (fun _ _ _ => False.elim) (fun _ _ hok _ => hok) (fun _ _ _ _ _ => trivial)
    (fun _ _ _ _ _ _ _ => trivial) fun s b hs hI hb => ?_
  have hdiff : (book db b s).reserved p l - (book db b s).activeQty p l =
      s.reserved p l - s.activeQty p l := reserved_sub_activeQty_book hs hb.1 (hb.2.2.1 trivial)
  omega

/-- In every run in which no cart is completed while it has active reservations, the reserved
quantity of a place is what its active reservations hold. -/
theorem reserved_eq_activeQty (h : ReachableBy db (Settled db) c s) (p l : Id) :
    s.reserved p l = s.activeQty p l :=
  reservedAgrees_of_runs (wellFormed_initial c) (fun _ _ => rfl) h p l

/-- Ten received, five of them put into a cart. -/
def reservedCart : List Call :=
  [⟨⟨0, 2024⟩, .stockIn 0 ⟨0, none, none, [⟨0, 10, 1, none⟩]⟩⟩,
    ⟨⟨1, 2024⟩, .createCart 0 ⟨0, none, none, none⟩⟩,
    ⟨⟨2, 2024⟩, .addCartItem 0 0 ⟨0, 5, some 3, none, none⟩⟩]

def reservedCartStore : Store := serveAll .exact reservedCart (Store.initial (.shop .fifo))

theorem reserved_eq_activeQty_reservedCart :
    reservedCartStore.reserved 0 0 = reservedCartStore.activeQty 0 0 ∧
      reservedCartStore.reserved 0 0 = 5 :=
  have hrun : ReachableBy .exact (Settled .exact) (.shop .fifo) reservedCartStore :=
    runs_serveAll (by decide +kernel)
  ⟨reserved_eq_activeQty hrun 0 0, by decide +kernel⟩

/-- The store after the cart is completed as well. -/
def completedCartStore : Store :=
  serveAll .exact (reservedCart ++ [⟨⟨3, 2024⟩, .completeSale 0 0 [⟨.cash, 15⟩]⟩])
    (Store.initial (.shop .fifo))

/-- No reservation is active any more and the goods are gone, but five stay reserved. -/
theorem completion_leaves_reserved :
    Reachable .exact (.shop .fifo) completedCartStore ∧ completedCartStore.onHand 0 0 = 5 ∧
      completedCartStore.activeQty 0 0 = 0 ∧ completedCartStore.reserved 0 0 = 5 :=
  ⟨reachable_serveAll _ _ _, by decide +kernel⟩

end Invetrixa
