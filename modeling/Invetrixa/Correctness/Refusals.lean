import Invetrixa.Correctness.CartHolds

/-!
# What a refused request leaves behind

Most requests are one transaction after their checks, and leave the store as it was when they are
refused. The requests on the items of a cart are several transactions in a row, and a transfer that
is to be shipped at once is created before it is shipped. What is left behind when a later one of
them is refused is in reservations and transfers: nothing is booked, sold or paid by a request that
is refused.

## Main definitions

- `Leftover` — what a refused request may leave

## Main results

- `addItem_refused`, `updateItem_refused`, `removeItem_refused`
- `refused_leaves`
-/

namespace Invetrixa

open Rowstore Requests TransferService ReservationService CartService SaleService

variable {db : Database} {c : Catalogue} {clock : Clock} {tenantId cartId itemId : Id}
  {s s' : Store} {call : Call}

/-- What a refused request may leave: nothing; the draft of a transfer that was to be shipped at
once, and is not; or what the requests on the items of a cart have reserved or given back before
they are refused. An item that is added was reserved, and does not fit its columns. One that is
updated has its reservations given back, if its new quantity cannot be reserved then, and exchanged
for a new one, if it does not fit. One that is removed has them given back, if the totals without it
do not fit. -/
inductive Leftover (db : Database) (s : Store) (call : Call) : Store → Prop
  | nothing : Leftover db s call s
  | draft (tenantId : Id) (dto : CreateTransferDto) (t : StockTransfer) (e : HttpError)
      (hrequest : call.request = .createTransfer tenantId dto)
      (hstatus : dto.status = some .inTransit)
      (hdraft : t.tenantId = tenantId ∧ t.status = .draft ∧ t.items = dto.items.map newItem)
      (hship : ship db call.clock tenantId s.transfers.next
        { s with transfers := s.transfers.create t } = .error e) :
      Leftover db s call { s with transfers := s.transfers.create t }
  | reserved (tenantId cartId : Id) (dto : AddCartItemDto) (cart : Sale) (product : Product) (q : ℤ)
      (hrequest : call.request = .addCartItem tenantId cartId dto)
      (hread : readAddItem tenantId cartId dto s = .ok (cart, product))
      (hquantity : dto.quantity = q)
      (hfits : ¬AddFits db s.pos cartId dto product (findExistingItem cartId dto.productId s)) :
      Leftover db s call (reserve (heldRow call.clock cart cartId dto.productId q) s)
  | released (tenantId cartId itemId : Id) (dto : UpdateCartItemDto) (cart : Sale) (item : SaleItem)
      (s' : Store) (hrequest : call.request = .updateCartItem tenantId cartId itemId dto)
      (hread : readUpdateItem tenantId cartId itemId s = .ok (cart, item))
      (hgiven : GivenBack s s' (CartService.cartReservations tenantId cartId item.productId s))
      (hnot : ¬Reservable s' tenantId cart.locationId item.productId 0 dto.quantity) :
      Leftover db s call s'
  | exchanged (tenantId cartId itemId : Id) (dto : UpdateCartItemDto) (cart : Sale)
      (item : SaleItem) (s' : Store) (q : ℤ)
      (hrequest : call.request = .updateCartItem tenantId cartId itemId dto)
      (hread : readUpdateItem tenantId cartId itemId s = .ok (cart, item))
      (hgiven : GivenBack s s' (CartService.cartReservations tenantId cartId item.productId s))
      (hquantity : dto.quantity = q) (hfits : ¬UpdateFits db s.pos cartId dto item) :
      Leftover db s call (reserve (heldRow call.clock cart cartId item.productId q) s')
  | unheld (tenantId cartId itemId : Id) (item : SaleItem) (s' : Store)
      (hrequest : call.request = .removeCartItem tenantId cartId itemId)
      (hread : readRemoveItem tenantId cartId itemId s = .ok item)
      (hgiven : GivenBack s s' (CartService.cartReservations tenantId cartId item.productId s))
      (hfits : ¬s.pos.TotalsFit db cartId (-item.lineTotal)) :
      Leftover db s call s'

/-- A transaction that is refused leaves nothing. -/
theorem step_of_refused {α : Type} (f : Store → Except HttpError (α × Store))
    (hrefused : ¬Accepted db s call)
    (hserve : serve db call.clock call.request s = answer (transaction f s)) :
    step db call s = s := by
  have hcases := step_cases_of_serve f hserve (P := fun _ => True) fun _ _ _ _ => trivial
  exact hcases.resolve_right fun h => hrefused h.1

theorem leftover_createTransfer {dto : CreateTransferDto} {e : HttpError}
    (hrequest : call.request = .createTransfer tenantId dto)
    (h : TransferService.create db call.clock tenantId dto s = (.error e, s')) :
    Leftover db s call s' := by
  rw [TransferService.create] at h
  split at h
  · obtain ⟨_, rfl⟩ := Prod.mk.inj h
    exact .nothing
  · next id number s₁ hdraft =>
    obtain ⟨_, hid, t, rfl, htenant, hstatus, _, hitems⟩ := createDraft_ok hdraft
    obtain rfl : id = s.transfers.next := hid
    split at h
    · next hship =>
      split at h
      · next e' hrefused =>
        obtain ⟨_, rfl⟩ := Prod.mk.inj h
        exact .draft tenantId dto t e' hrequest hship ⟨htenant, hstatus.1, hitems⟩ hrefused
      · cases (Prod.mk.inj h).1
    · cases (Prod.mk.inj h).1

theorem addItem_refused {dto : AddCartItemDto} {e : HttpError}
    (hrequest : call.request = .addCartItem tenantId cartId dto)
    (h : addItem db call.clock tenantId cartId dto s = (.error e, s')) : Leftover db s call s' := by
  cases hread : readAddItem tenantId cartId dto s with
  | error e' =>
    rw [addItem, hread] at h
    obtain ⟨_, rfl⟩ := Prod.mk.inj h
    exact .nothing
  | ok x =>
    obtain ⟨cart, product⟩ := x
    obtain ⟨_, e', hrun⟩ | ⟨_, q, hq, ⟨hfits, e', hrun⟩ | ⟨_, s₁, hrun, _⟩⟩ :=
      addItem_outcome db call.clock hread
    · obtain ⟨_, rfl⟩ := Prod.mk.inj (h.symm.trans hrun)
      exact .nothing
    · obtain ⟨_, rfl⟩ := Prod.mk.inj (h.symm.trans hrun)
      exact .reserved tenantId cartId dto cart product q hrequest hread hq hfits
    · cases (Prod.mk.inj (h.symm.trans hrun)).1

theorem updateItem_refused (hs : WellFormed s) {dto : UpdateCartItemDto} {e : HttpError}
    (hrequest : call.request = .updateCartItem tenantId cartId itemId dto)
    (h : updateItem db call.clock tenantId cartId itemId dto s = (.error e, s')) :
    Leftover db s call s' := by
  cases hread : readUpdateItem tenantId cartId itemId s with
  | error e' =>
    rw [updateItem, hread] at h
    obtain ⟨_, rfl⟩ := Prod.mk.inj h
    exact .nothing
  | ok x =>
    obtain ⟨cart, item⟩ := x
    obtain ⟨s₁, hgiven, ⟨hnot, e', hrun⟩ | ⟨_, q, hq, ⟨hfits, e', hrun⟩ | ⟨_, s₂, hrun, _⟩⟩⟩ :=
      updateItem_outcome db call.clock hs hread
    · obtain ⟨_, rfl⟩ := Prod.mk.inj (h.symm.trans hrun)
      exact .released tenantId cartId itemId dto cart item s' hrequest hread hgiven hnot
    · obtain ⟨_, rfl⟩ := Prod.mk.inj (h.symm.trans hrun)
      exact .exchanged tenantId cartId itemId dto cart item s₁ q hrequest hread hgiven hq hfits
    · cases (Prod.mk.inj (h.symm.trans hrun)).1

theorem removeItem_refused (hs : WellFormed s) {e : HttpError}
    (hrequest : call.request = .removeCartItem tenantId cartId itemId)
    (h : removeItem db tenantId cartId itemId s = (.error e, s')) : Leftover db s call s' := by
  cases hread : readRemoveItem tenantId cartId itemId s with
  | error e' =>
    rw [removeItem, hread] at h
    obtain ⟨_, rfl⟩ := Prod.mk.inj h
    exact .nothing
  | ok item =>
    obtain ⟨s₁, hgiven, ⟨hfits, e', hrun⟩ | ⟨_, s₂, hrun, _⟩⟩ :=
      removeItem_outcome db hs hread
    · obtain ⟨_, rfl⟩ := Prod.mk.inj (h.symm.trans hrun)
      exact .unheld tenantId cartId itemId item s' hrequest hread hgiven hfits
    · cases (Prod.mk.inj (h.symm.trans hrun)).1

/-- A refused request leaves what its refusals leave. -/
theorem leftover_of_errors (hrefused : ¬Accepted db s call)
    (h : ∀ e s', handle db call s = (.error e, s') → Leftover db s call s') :
    Leftover db s call (step db call s) := by
  rw [step]
  rw [Accepted] at hrefused
  generalize handle db call s = result at h hrefused ⊢
  obtain ⟨answer, s'⟩ := result
  cases answer with
  | ok _ => exact absurd rfl hrefused
  | error e => exact h e s' rfl

/-- In every reachable store a refused request, whatever it is, leaves everything as it was, but
for the draft of a transfer that was to be shipped at once, or for the reservations of the item of
a cart that were made or given back before the request was refused. -/
theorem refused_leaves (h : Reachable db c s) (hrefused : ¬Accepted db s call) :
    Leftover db s call (step db call s) := by
  have hs := wellFormed_of_reachable h
  obtain ⟨clock, request⟩ := call
  by_cases hvalid : request.Valid
  · have hhandle : handle db ⟨clock, request⟩ s = serve db clock request s := if_pos hvalid
    have htransaction {α : Type} (f : Store → Except HttpError (α × Store))
        (hserve : serve db clock request s = answer (transaction f s)) :
        Leftover db s ⟨clock, request⟩ (step db ⟨clock, request⟩ s) := by
      rw [step_of_refused f hrefused hserve]
      exact .nothing
    cases request with
    | stockIn tenantId dto => exact htransaction (MovementService.stockIn db clock tenantId dto) rfl
    | stockReturn tenantId dto =>
      exact htransaction
        (MovementService.stockIn db clock tenantId { dto with referenceType := some .return }) rfl
    | stockOut tenantId dto =>
      exact htransaction (fun s => MovementService.stockOut db tenantId dto s s) rfl
    | adjust tenantId dto => exact htransaction (MovementService.adjust db clock tenantId dto) rfl
    | createTransfer tenantId dto =>
      refine leftover_of_errors hrefused fun e s' herror => ?_
      rw [hhandle] at herror
      obtain ⟨hanswer, rfl⟩ := Prod.mk.inj herror
      cases hcreate : TransferService.create db clock tenantId dto s with
      | mk answer s₁ =>
        rw [hcreate] at hanswer
        cases answer with
        | error e' => exact leftover_createTransfer rfl hcreate
        | ok _ => cases hanswer
    | shipTransfer tenantId id => exact htransaction (ship db clock tenantId id) rfl
    | receiveTransfer tenantId id items =>
      exact htransaction (receive db clock tenantId id items) rfl
    | cancelTransfer tenantId id => exact htransaction (cancel db clock tenantId id) rfl
    | createReservation tenantId dto =>
      exact htransaction (ReservationService.create clock tenantId dto) rfl
    | updateReservation tenantId id dto => exact htransaction (update clock tenantId id dto) rfl
    | releaseReservation tenantId id => exact htransaction (release tenantId id) rfl
    | expireReservation tenantId id =>
      exact htransaction (ReservationQueueProcessor.process clock tenantId id) rfl
    | createCart tenantId dto => exact htransaction (createCart clock tenantId dto) rfl
    | addCartItem tenantId cartId dto =>
      refine leftover_of_errors hrefused fun e s' herror => ?_
      exact addItem_refused rfl (hhandle.symm.trans herror)
    | updateCartItem tenantId cartId itemId dto =>
      refine leftover_of_errors hrefused fun e s' herror => ?_
      exact updateItem_refused hs rfl (hhandle.symm.trans herror)
    | removeCartItem tenantId cartId itemId =>
      refine leftover_of_errors hrefused fun e s' herror => ?_
      exact removeItem_refused hs rfl (hhandle.symm.trans herror)
    | createSale tenantId dto => exact htransaction (SaleService.create db clock tenantId dto) rfl
    | completeSale tenantId saleId payments =>
      exact htransaction (SaleService.complete db tenantId saleId payments) rfl
    | voidSale tenantId saleId => exact htransaction (SaleService.void db tenantId saleId) rfl
    | createRefund tenantId saleId dto =>
      exact htransaction (RefundService.createRefund db clock tenantId saleId dto) rfl
    | openSession tenantId dto => exact htransaction (SessionService.open db clock tenantId dto) rfl
    | closeSession tenantId sessionId dto =>
      exact htransaction (SessionService.close db tenantId sessionId dto) rfl
    | cleanupCarts => exact htransaction (CartCleanupService.cleanupAbandonedCarts clock) rfl
  · refine leftover_of_errors hrefused fun e s' herror => ?_
    rw [handle, if_neg hvalid] at herror
    obtain ⟨_, rfl⟩ := Prod.mk.inj herror
    exact .nothing

/-- More is asked for than there is, and what the cart had is given back. -/
theorem refused_leaves_twoInCart :
    Leftover .exact twoInCartStore (updateTwoInCart 20)
      (step .exact (updateTwoInCart 20) twoInCartStore) ∧
    (step .exact (updateTwoInCart 20) twoInCartStore).reserved 0 0 ≠
      twoInCartStore.reserved 0 0 := by
  have hreachable : Reachable .exact (.shop .fifo) twoInCartStore :=
    reachable_serveAll .exact (.shop .fifo) twoInCart
  exact ⟨refused_leaves hreachable (by decide +kernel), by decide +kernel⟩

end Invetrixa
