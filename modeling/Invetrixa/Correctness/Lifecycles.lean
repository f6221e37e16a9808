import Invetrixa.Library.Evolution
import Invetrixa.Correctness.CartHolds
import Invetrixa.Correctness.TransferConservation

/-!
# What is closed stays as it is

Reservations, sessions and transfers go through a life of their own and end: a reservation is
released, fulfilled or expires, a session is closed, a transfer is completed or cancelled. As long
as they live some of their data is fixed, and from their end on all of it is. No request brings
one of them back or rewrites it, whatever it is and whether or not it is accepted.

## Main definitions

- `reservationLife`, `sessionLife`, `transferLife` — what may become of a row
- `Store.dealings` — the reservations and the sessions

## Main results

- `livesOn_step`, `evolves_transfers_step` — one request
- `lives_runs`
-/

namespace Invetrixa

open Rowstore Requests ReservationService CartService SaleService MovementService TransferService
  CartCleanupService

variable {db : Database} {c : Catalogue} {clock : Clock} {tenantId : Id} {s s' : Store}
  {call : Call} {ok : Store → Call → Prop}

section Lives

/-- A reservation keeps its place and its tenant, and all of it once it is not active. -/
def reservationLife : Evolution StockReservation where
  Selected _ := True
  Becomes r r' := r'.productId = r.productId ∧ r'.locationId = r.locationId ∧
    r'.tenantId = r.tenantId ∧ (r.status ≠ .active → r' = r)
  refl _ _ := ⟨rfl, rfl, rfl, fun _ => rfl⟩
  trans r r' r'' := by
    rintro ⟨hproduct, hlocation, htenant, hclosed⟩ ⟨hproduct', hlocation', htenant', hclosed'⟩
    refine ⟨hproduct'.trans hproduct, hlocation'.trans hlocation, htenant'.trans htenant, ?_⟩
    intro hstatus
    have hsame : r' = r := hclosed hstatus
    rw [hclosed' (hsame ▸ hstatus), hsame]
  selected _ _ _ _ := trivial

/-- A session keeps its number, its terminal and what was in the drawer at first, and all of it
once it is closed. -/
def sessionLife : Evolution POSSession where
  Selected _ := True
  Becomes x x' := x'.sessionNumber = x.sessionNumber ∧ x'.openingBalance = x.openingBalance ∧
    x'.terminalId = x.terminalId ∧ x'.tenantId = x.tenantId ∧ (x.status ≠ .open → x' = x)
  refl _ _ := ⟨rfl, rfl, rfl, rfl, fun _ => rfl⟩
  trans x x' x'' := by
    rintro ⟨hnumber, hopening, hterminal, htenant, hclosed⟩
      ⟨hnumber', hopening', hterminal', htenant', hclosed'⟩
    refine ⟨hnumber'.trans hnumber, hopening'.trans hopening, hterminal'.trans hterminal,
      htenant'.trans htenant, ?_⟩
    intro hstatus
    have hsame : x' = x := hclosed hstatus
    rw [hclosed' (hsame ▸ hstatus), hsame]
  selected _ _ _ _ := trivial

/-- The transfer is over. -/
def StockTransfer.Over (t : StockTransfer) : Prop := t.status = .completed ∨ t.status = .cancelled

/-- A transfer keeps its number, its route and its tenant, goes on only once it is shipped, and
keeps all of it once it is over. -/
def transferLife : Evolution StockTransfer where
  Selected _ := True
  Becomes t t' := t'.transferNumber = t.transferNumber ∧ t'.fromLocationId = t.fromLocationId ∧
    t'.toLocationId = t.toLocationId ∧ t'.tenantId = t.tenantId ∧
    (t.status = .inTransit → t'.status ≠ .draft) ∧ (t.Over → t' = t)
  refl t _ := ⟨rfl, rfl, rfl, rfl, fun h => by rw [h]; decide, fun _ => rfl⟩
  trans t t' t'' := by
    rintro ⟨hnumber, hfrom, hto, htenant, hshipped, hover⟩
      ⟨hnumber', hfrom', hto', htenant', hshipped', hover'⟩
    refine ⟨hnumber'.trans hnumber, hfrom'.trans hfrom, hto'.trans hto, htenant'.trans htenant,
      ?_, ?_⟩
    · intro hstatus
      cases hstatus' : t'.status with
      | draft => exact absurd hstatus' (hshipped hstatus)
      | inTransit => exact hshipped' hstatus'
      | completed => rw [hover' (.inl hstatus'), hstatus']; decide
      | cancelled => rw [hover' (.inr hstatus'), hstatus']; decide
    · intro h
      have hsame : t' = t := hover h
      rw [hover' (hsame ▸ h), hsame]
  selected _ _ _ _ := trivial

/-- The reservations and the sessions live on from one store to the next. -/
structure LivesOn (s s' : Store) : Prop where
  reservations : s.reservations.Evolves reservationLife s'.reservations.toTable
  sessions : s.sessions.Evolves sessionLife s'.sessions.toTable

theorem LivesOn.trans {s'' : Store} (h : LivesOn s s') (h' : LivesOn s' s'') : LivesOn s s'' :=
  ⟨h.reservations.trans h'.reservations, h.sessions.trans h'.sessions⟩

/-- The reservations and the sessions. -/
def Store.dealings (s : Store) : Serial StockReservation × Serial POSSession :=
  (s.reservations, s.sessions)

theorem LivesOn.of_dealings (h : s'.dealings = s.dealings) : LivesOn s s' := by
  obtain ⟨hreservations, hsessions⟩ := Prod.mk.inj h
  constructor
  · rw [hreservations]
    exact Table.Evolves.refl _ _
  · rw [hsessions]
    exact Table.Evolves.refl _ _

theorem LivesOn.refl (s : Store) : LivesOn s s := .of_dealings rfl

end Lives

section Aside

/-- The store that a computation returns at its end. -/
theorem store_of_return {α : Type} {a : α} {x : α × Store}
    (h : (pure x : Except HttpError (α × Store)) = .ok (a, s')) : s' = x.2 :=
  (congrArg Prod.snd (Except.ok.inj h)).symm

/-- Stock moves past reservations and sessions. -/
theorem dealings_executeStockIn (dto : BulkStockInDto) :
    (executeStockIn db clock tenantId dto s).2.dealings = s.dealings := by
  rw [executeStockIn_eq]
  apply Loops.view_foldl Store.dealings
  exact fun _ _ _ => rfl

theorem dealings_recordIssue (i : Issue) : (recordIssue db i s).2.dealings = s.dealings := by
  rw [recordIssue_eq]
  rfl

theorem dealings_executeStockOut (dto : BulkStockOutDto) :
    (executeStockOut db tenantId dto s).2.dealings = s.dealings := by
  rw [executeStockOut_eq]
  exact Loops.view_foldl Store.dealings (fun _ _ _ => dealings_recordIssue _) s

theorem dealings_executeAdjust (dto : BulkStockAdjustDto) :
    (executeAdjust db clock tenantId dto s).2.dealings = s.dealings := by
  rw [executeAdjust_eq]
  refine Loops.view_foldl Store.dealings ?_ s
  intro s item _
  rw [adjustLine]
  split
  · rfl
  · exact dealings_recordIssue _

theorem dealings_commitShip (id : Id) (t : StockTransfer) :
    (commitShip db clock tenantId id t s).dealings = s.dealings := by
  refine Loops.view_foldl Store.dealings ?_ (updateTransfer id _ s)
  intro s item _
  rw [shipItem_eq]
  rfl

theorem dealings_commitReceive (id : Id) (items : List ReceiveItemDto) (t : StockTransfer) :
    (commitReceive db clock tenantId id items t s).dealings = s.dealings := by
  refine Loops.view_foldl Store.dealings ?_ (updateTransfer id _ s)
  intro s item _
  rw [TransferService.receiveItem]
  split
  · rfl
  · dsimp only
    split <;> rfl

theorem dealings_commitCancel (id : Id) (t : StockTransfer) :
    (commitCancel db clock tenantId id t s).dealings = s.dealings := by
  have hback : (if t.status = .inTransit then
      t.items.foldl (cancelItem db clock tenantId id t) s else s).dealings = s.dealings := by
    split
    · refine Loops.view_foldl Store.dealings ?_ s
      intro s item _
      rw [cancelItem]
      split <;> rfl
    · rfl
  exact hback

/-- Requests that only move stock leave reservations and sessions as they are. -/
theorem dealings_of_stock (hstock : call.request.OfStock) :
    (step db call s).dealings = s.dealings := by
  obtain ⟨clock, request⟩ := call
  have hstep {α : Type} (f : Store → Except HttpError (α × Store))
      (hserve : serve db clock request s = answer (transaction f s))
      (hrun : ∀ a s', f s = .ok (a, s') → s'.dealings = s.dealings) :
      (step db ⟨clock, request⟩ s).dealings = s.dealings :=
    step_preserves_of_serve (P := fun s' => s'.dealings = s.dealings) f hserve rfl
      fun a s' _ hok => hrun a s' hok
  cases request with
  | stockIn tenantId dto =>
    refine hstep (stockIn db clock tenantId dto) rfl fun _ s' hok => ?_
    obtain ⟨_, rfl⟩ := stockIn_ok hok
    exact dealings_executeStockIn dto
  | stockReturn tenantId dto =>
    refine hstep (stockIn db clock tenantId { dto with referenceType := some .return }) rfl
      fun _ s' hok => ?_
    obtain ⟨_, rfl⟩ := stockIn_ok hok
    exact dealings_executeStockIn _
  | stockOut tenantId dto =>
    refine hstep (fun s => stockOut db tenantId dto s s) rfl fun _ s' hok => ?_
    obtain ⟨_, _, hok⟩ := Except.bind_eq_ok_iff.mp hok
    rw [store_of_return hok]
    exact dealings_executeStockOut dto
  | adjust tenantId dto =>
    refine hstep (adjust db clock tenantId dto) rfl fun _ s' hok => ?_
    obtain ⟨_, _, hok⟩ := Except.bind_eq_ok_iff.mp hok
    rw [store_of_return hok]
    exact dealings_executeAdjust dto
  | createTransfer tenantId dto =>
    have hdrafted {s₁ : Store} {r : Id × String}
        (hdraft : createDraft clock tenantId dto s = .ok (r, s₁)) : s₁.dealings = s.dealings := by
      obtain ⟨_, _, _, rfl, _⟩ := createDraft_ok hdraft
      rfl
    refine step_preserves_of_valid (P := fun s' => s'.dealings = s.dealings) rfl fun _ => ?_
    show (TransferService.create db clock tenantId dto s).2.dealings = s.dealings
    apply createTransfer_cases (P := fun x => x.2.dealings = s.dealings)
    · exact fun _ => rfl
    · exact fun _ _ _ hdraft _ => hdrafted hdraft
    · exact fun _ _ _ _ hdraft => hdrafted hdraft
    · intro id number s₁ message s₂ hdraft _ hship
      obtain ⟨t', _, rfl⟩ := ship_eq_ok hship
      rw [← hdrafted hdraft]
      exact dealings_commitShip id t'
  | shipTransfer tenantId id =>
    refine hstep (ship db clock tenantId id) rfl fun _ s' hok => ?_
    obtain ⟨t, _, rfl⟩ := ship_eq_ok hok
    exact dealings_commitShip id t
  | receiveTransfer tenantId id items =>
    refine hstep (receive db clock tenantId id items) rfl fun _ s' hok => ?_
    obtain ⟨t, _, hok⟩ := Except.bind_eq_ok_iff.mp hok
    rw [store_of_return hok]
    exact dealings_commitReceive id items t
  | cancelTransfer tenantId id =>
    refine hstep (cancel db clock tenantId id) rfl fun _ s' hok => ?_
    obtain ⟨t, _, hok⟩ := Except.bind_eq_ok_iff.mp hok
    rw [store_of_return hok]
    exact dealings_commitCancel id t
  | _ => exact hstock.elim

end Aside

section Reservations

variable {id : Id} {r : StockReservation}

/-- Reservations that are active are rewritten where they are. -/
theorem livesOn_modifyWhere {p : StockReservation → Bool} {f : StockReservation → StockReservation}
    (hp : ∀ r, p r = true → r.status = .active)
    (hf : ∀ r, (f r).productId = r.productId ∧ (f r).locationId = r.locationId ∧
      (f r).tenantId = r.tenantId)
    (hreservations : s'.reservations = s.reservations.modifyWhere (fun _ r => p r) f)
    (hsessions : s'.sessions = s.sessions) : LivesOn s s' := by
  constructor
  · rw [hreservations, Serial.toTable_modifyWhere]
    apply Table.evolves_modifyWhere
    intro _ r _ hr _
    obtain ⟨hproduct, hlocation, htenant⟩ := hf r
    exact ⟨hproduct, hlocation, htenant, fun hclosed => absurd (hp r hr) hclosed⟩
  · rw [hsessions]
    exact Table.Evolves.refl _ _

/-- An active reservation is amended where it is. -/
theorem livesOn_amend {f : StockReservation → StockReservation} {p l : Id} {diff : ℤ}
    (hfind : s.reservations.find? id = some r) (hactive : r.status = .active)
    (hf : (f r).productId = r.productId ∧ (f r).locationId = r.locationId ∧
      (f r).tenantId = r.tenantId) : LivesOn s (book db (.amend id f p l diff) s) := by
  refine ⟨Serial.evolves_modify ?_, Table.Evolves.refl _ _⟩
  intro r' hfind' _
  obtain rfl := Option.some.inj (hfind.symm.trans hfind')
  exact ⟨hf.1, hf.2.1, hf.2.2, fun hclosed => absurd hactive hclosed⟩

theorem livesOn_create {dto : CreateReservationDto}
    (h : ReservationService.create clock tenantId dto s = .ok (id, s')) : LivesOn s s' := by
  obtain ⟨_, _, h⟩ := Except.bind_eq_ok_iff.mp h
  obtain ⟨quantity, _, rfl⟩ := commitCreate_ok h
  exact ⟨Serial.evolves_create _, Table.Evolves.refl _ _⟩

theorem livesOn_update {dto : UpdateReservationDto}
    (h : ReservationService.update clock tenantId id dto s = .ok ((), s')) : LivesOn s s' := by
  obtain ⟨r, hread, h⟩ := Except.bind_eq_ok_iff.mp h
  obtain ⟨hfind, hactive⟩ := readUpdate_ok hread
  obtain ⟨rfl, _⟩ := commitUpdate_ok .exact h
  exact livesOn_amend hfind hactive ⟨rfl, rfl, rfl⟩

theorem livesOn_close {status : ReservationStatus} (hfind : s.reservations.find? id = some r)
    (hactive : r.status = .active) (h : close id status r s = .ok ((), s')) : LivesOn s s' := by
  obtain ⟨rfl, _⟩ := close_ok .exact h
  exact livesOn_amend hfind hactive ⟨rfl, rfl, rfl⟩

theorem livesOn_release (h : release tenantId id s = .ok ((), s')) : LivesOn s s' := by
  obtain ⟨r, hread, h⟩ := Except.bind_eq_ok_iff.mp h
  obtain ⟨hfind, hactive⟩ := readRelease_ok hread
  exact livesOn_close hfind hactive h

theorem livesOn_process (h : ReservationQueueProcessor.process clock tenantId id s = .ok ((), s')) :
    LivesOn s s' := by
  rw [ReservationQueueProcessor.process] at h
  split at h
  · obtain rfl : s' = s := store_of_return h
    exact LivesOn.refl s'
  · next r hread =>
    obtain ⟨hfind, hactive⟩ := readProcess_eq_some hread
    exact livesOn_close hfind hactive h

theorem livesOn_releaseEach (ids : List Id) : LivesOn s (releaseEach tenantId ids s).2 := by
  apply releaseEach_preserves (LivesOn.refl s)
  exact fun _ _ _ h hrelease => h.trans (livesOn_release hrelease)

end Reservations

section Sales

variable {cartId itemId saleId id : Id}

/-- A transaction of which every successful run lives on. -/
theorem livesOn_transaction {α : Type} {f : Store → Except HttpError (α × Store)} {s₁ : Store}
    (h : LivesOn s s₁) (hrun : ∀ a s', f s₁ = .ok (a, s') → s'.dealings = s₁.dealings) :
    LivesOn s (transaction f s₁).2 :=
  transaction_preserves (I := LivesOn s) h fun a s' hf => h.trans (.of_dealings (hrun a s' hf))

theorem dealings_recalculateCart {saleItems : Serial SaleItem}
    (h : recalculateCart db cartId { s with saleItems } = .ok s') : s'.dealings = s.dealings := by
  obtain ⟨_, _, h⟩ := recalculateCart_eq_ok_iff.mp h
  obtain ⟨rfl, _⟩ := updateSale_ok h
  rfl

theorem livesOn_addItem (dto : AddCartItemDto) :
    LivesOn s (addItem db clock tenantId cartId dto s).2 := by
  apply addItem_cases (P := fun x => LivesOn s x.2)
  · exact fun _ => LivesOn.refl s
  · intro cart product id s₁ _ hcreate
    apply livesOn_transaction (livesOn_create hcreate)
    intro _ s' h
    obtain ⟨_, _, _, _, _, hrecalc⟩ | ⟨_, _, _, hrecalc⟩ := commitAddItem_ok h
    · exact dealings_recalculateCart hrecalc
    · exact dealings_recalculateCart hrecalc

theorem livesOn_updateItem (dto : UpdateCartItemDto) :
    LivesOn s (updateItem db clock tenantId cartId itemId dto s).2 := by
  apply updateItem_cases (P := fun x => LivesOn s x.2)
  · exact fun _ => LivesOn.refl s
  · exact fun _ _ _ _ => livesOn_releaseEach _
  · intro cart item id s₁ s₂ _ heach hcreate
    have hreleased : LivesOn s (releaseReservations tenantId cartId item.productId s).2 :=
      livesOn_releaseEach _
    rw [heach] at hreleased
    apply livesOn_transaction (hreleased.trans (livesOn_create hcreate))
    intro _ s' h
    obtain ⟨_, _, hrecalc⟩ := commitUpdateItem_ok h
    exact dealings_recalculateCart hrecalc

theorem livesOn_removeItem : LivesOn s (removeItem db tenantId cartId itemId s).2 := by
  apply removeItem_cases (P := fun x => LivesOn s x.2)
  · exact fun _ => LivesOn.refl s
  · exact fun _ _ _ => livesOn_releaseEach _
  · intro item s₁ _ heach
    have hreleased : LivesOn s (releaseReservations tenantId cartId item.productId s).2 :=
      livesOn_releaseEach _
    rw [heach] at hreleased
    apply livesOn_transaction hreleased
    exact fun _ s' h => dealings_recalculateCart (commitRemoveItem_ok h)

theorem livesOn_createSale {dto : CreateSaleDto}
    (h : SaleService.create db clock tenantId dto s = .ok (id, s')) : LivesOn s s' := by
  obtain ⟨⟨items, totals⟩, _, h⟩ := Except.bind_eq_ok_iff.mp h
  obtain ⟨_, _, rfl⟩ := executeSaleTransaction_ok h
  exact .of_dealings (dealings_executeStockOut _)

/-- A completion fulfils what was active for the cart. -/
theorem livesOn_complete {payments : List PaymentDto}
    (h : SaleService.complete db tenantId saleId payments s = .ok ((), s')) : LivesOn s s' := by
  obtain ⟨⟨read, totals⟩, _, h⟩ := Except.bind_eq_ok_iff.mp h
  obtain ⟨_, hupdate⟩ := executeCompletionTransaction_ok h
  obtain ⟨rfl, _⟩ := updateSale_ok hupdate
  set out := (executeStockOut db tenantId (completionOut saleId read)
    (createPayments db saleId payments s)).2
  have hout : LivesOn s out := .of_dealings (dealings_executeStockOut _)
  have hfulfilled : LivesOn out (fulfillReservations saleId out) :=
    livesOn_modifyWhere (p := isReservationOf saleId)
      (f := fun r => { r with status := .fulfilled })
      (fun r hr => (of_decide_eq_true hr).2.2) (fun _ => ⟨rfl, rfl, rfl⟩) rfl rfl
  exact hout.trans (hfulfilled.trans (.of_dealings rfl))

theorem livesOn_void (h : SaleService.void db tenantId saleId s = .ok ((), s')) :
    LivesOn s s' := by
  obtain ⟨read, _, h⟩ := Except.bind_eq_ok_iff.mp h
  obtain ⟨s₁, hupdate, h⟩ := Except.bind_eq_ok_iff.mp h
  obtain ⟨rfl, _⟩ := updateSale_ok hupdate
  rw [store_of_return h]
  apply LivesOn.of_dealings
  apply (Loops.view_foldl (f := voidItem db tenantId saleId read.sale.locationId) Store.dealings
    (fun _ _ _ => rfl) _).trans
  rfl

theorem livesOn_refund {dto : RefundService.CreateRefundDto}
    (h : RefundService.createRefund db clock tenantId saleId dto s = .ok (id, s')) :
    LivesOn s s' := by
  obtain ⟨⟨read, total⟩, _, h⟩ := Except.bind_eq_ok_iff.mp h
  obtain ⟨s₁, hreturn, rfl⟩ := executeRefund_ok h
  apply LivesOn.of_dealings
  show s₁.dealings = s.dealings
  obtain rfl | ⟨items, rfl, _⟩ := returnStock_ok hreturn
  · rfl
  · exact dealings_executeStockIn _

/-- The cleanup expires what was active for the carts it deletes. -/
theorem livesOn_cleanup {r : CleanupResult}
    (h : cleanupAbandonedCarts clock s = .ok (r, s')) : LivesOn s s' := by
  rw [cleanupAbandonedCarts] at h
  split at h
  · obtain rfl : s' = s := store_of_return h
    exact LivesOn.refl s'
  · next read _ =>
    obtain ⟨s₁, hdelete, h⟩ := Except.bind_eq_ok_iff.mp h
    obtain ⟨_, rfl⟩ := deleteCarts_ok hdelete
    rw [store_of_return h, releaseReservedQuantities_eq]
    apply livesOn_modifyWhere (p := isCartReservation read.cartIds)
      (f := fun r => { r with status := .expired })
    · intro r hr
      obtain ⟨cartId, _, hr⟩ := List.any_eq_true.mp hr
      exact (of_decide_eq_true hr).2.2
    · exact fun _ => ⟨rfl, rfl, rfl⟩
    · rfl
    · rfl

end Sales

section Sessions

open SessionService

theorem livesOn_open {dto : OpenSessionDto} {id : Id}
    (h : SessionService.open db clock tenantId dto s = .ok (id, s')) : LivesOn s s' := by
  obtain ⟨_, _, h⟩ := Except.bind_eq_ok_iff.mp h
  obtain ⟨_, h⟩ := Except.ite_error_eq_ok_iff.mp h
  rw [store_of_return h]
  exact ⟨Table.Evolves.refl _ _, Serial.evolves_create _⟩

/-- A session that is closed was open. -/
theorem livesOn_closeSession {dto : CloseSessionDto} {sessionId : Id} {r : CloseSessionResponse}
    (h : SessionService.close db tenantId sessionId dto s = .ok (r, s')) : LivesOn s s' := by
  obtain ⟨session, hread, h⟩ := Except.bind_eq_ok_iff.mp h
  rw [store_of_return h]
  refine ⟨Table.Evolves.refl _ _, Serial.evolves_modify ?_⟩
  intro x hx _
  refine ⟨rfl, rfl, rfl, rfl, fun hclosed => ?_⟩
  rw [readClose, hx] at hread
  cases htenant : (some x).filter fun session => session.tenantId = tenantId with
  | none => simp [htenant] at hread
  | some x' =>
    obtain ⟨hsome, _⟩ := Option.filter_eq_some_iff.mp htenant
    obtain rfl := Option.some.inj hsome
    simp [htenant, hclosed] at hread

end Sessions

/-- No request rewrites a reservation or a session that is closed. -/
theorem livesOn_step : LivesOn s (step db call s) := by
  by_cases hstock : call.request.OfStock
  · exact .of_dealings (dealings_of_stock hstock)
  have hstep {α : Type} {clock : Clock} {request : Request}
      (f : Store → Except HttpError (α × Store))
      (hserve : serve db clock request s = answer (transaction f s))
      (hrun : ∀ a s', f s = .ok (a, s') → LivesOn s s') :
      LivesOn s (step db ⟨clock, request⟩ s) :=
    step_preserves_of_serve f hserve (LivesOn.refl s) fun a s' _ hok => hrun a s' hok
  obtain ⟨clock, request⟩ := call
  cases request with
  | createReservation tenantId dto =>
    exact hstep (ReservationService.create clock tenantId dto) rfl fun _ _ h => livesOn_create h
  | updateReservation tenantId id dto =>
    exact hstep (ReservationService.update clock tenantId id dto) rfl fun _ _ h => livesOn_update h
  | releaseReservation tenantId id =>
    exact hstep (ReservationService.release tenantId id) rfl fun _ _ h => livesOn_release h
  | expireReservation tenantId id =>
    exact hstep (ReservationQueueProcessor.process clock tenantId id) rfl
      fun _ _ h => livesOn_process h
  | createCart tenantId dto =>
    refine hstep (createCart clock tenantId dto) rfl fun _ s' h => ?_
    obtain ⟨_, rfl⟩ := insertSale_ok h
    exact .of_dealings rfl
  | addCartItem tenantId cartId dto =>
    exact step_preserves_of_valid (LivesOn.refl s) fun _ => livesOn_addItem dto
  | updateCartItem tenantId cartId itemId dto =>
    exact step_preserves_of_valid (LivesOn.refl s) fun _ => livesOn_updateItem dto
  | removeCartItem tenantId cartId itemId =>
    exact step_preserves_of_valid (LivesOn.refl s) fun _ => livesOn_removeItem
  | createSale tenantId dto =>
    exact hstep (SaleService.create db clock tenantId dto) rfl fun _ _ h => livesOn_createSale h
  | completeSale tenantId saleId payments =>
    exact hstep (SaleService.complete db tenantId saleId payments) rfl
      fun _ _ h => livesOn_complete h
  | voidSale tenantId saleId =>
    exact hstep (SaleService.void db tenantId saleId) rfl fun _ _ h => livesOn_void h
  | createRefund tenantId saleId dto =>
    exact hstep (RefundService.createRefund db clock tenantId saleId dto) rfl
      fun _ _ h => livesOn_refund h
  | openSession tenantId dto =>
    exact hstep (SessionService.open db clock tenantId dto) rfl fun _ _ h => livesOn_open h
  | closeSession tenantId sessionId dto =>
    exact hstep (SessionService.close db tenantId sessionId dto) rfl
      fun _ _ h => livesOn_closeSession h
  | cleanupCarts =>
    exact hstep (cleanupAbandonedCarts clock) rfl fun _ _ h => livesOn_cleanup h
  | _ => exact absurd trivial hstock

section Transfers

variable {id : Id} {t t' : StockTransfer}

/-- A transfer that gets a new row, of the same life. -/
theorem evolves_of_moved (hmoved : Moved id t t' s s') (hbecomes : transferLife.Becomes t t') :
    s.transfers.Evolves transferLife s'.transfers.toTable := by
  intro k r hr _
  by_cases hk : k = id
  · subst hk
    obtain rfl := Option.some.inj (hmoved.before.symm.trans hr)
    exact ⟨t', hmoved.after, hbecomes⟩
  · exact ⟨r, (hmoved.others k hk).trans hr, transferLife.refl r trivial⟩

/-- What the header of a transfer says of its life. -/
theorem becomes_of_header (t : StockTransfer) {u : StockTransfer} (hheader : t'.header = u.header)
    (hnumber : u.transferNumber = t.transferNumber) (hfrom : u.fromLocationId = t.fromLocationId)
    (hto : u.toLocationId = t.toLocationId) (htenant : u.tenantId = t.tenantId)
    (hstatus : u.status ≠ .draft) (hover : ¬t.Over) : transferLife.Becomes t t' := by
  have hfield {α : Type} (f : StockTransfer → α) : f t'.header = f u.header := congrArg f hheader
  refine ⟨(hfield StockTransfer.transferNumber).trans hnumber,
    (hfield StockTransfer.fromLocationId).trans hfrom,
    (hfield StockTransfer.toLocationId).trans hto, (hfield StockTransfer.tenantId).trans htenant,
    fun _ => ?_, fun h => absurd h hover⟩
  exact fun h => hstatus ((hfield StockTransfer.status).symm.trans h)

/-- A transition moves a transfer that is not over. -/
theorem evolves_commits (h : Commits db s s') :
    s.transfers.Evolves transferLife s'.transfers.toTable := by
  cases h with
  | ship clock tenantId id t hfind hstatus hrows =>
    obtain ⟨t', hmoved, hheader⟩ := moved_commitShip db clock tenantId t hfind
    apply evolves_of_moved hmoved
    apply becomes_of_header t hheader rfl rfl rfl rfl (by simp)
    rintro (h | h) <;> simp [hstatus] at h
  | receive clock tenantId id items t hfind hstatus hnamed =>
    obtain ⟨t', hmoved, hheader⟩ := moved_commitReceive db clock tenantId items t hfind
    apply evolves_of_moved hmoved
    apply becomes_of_header t hheader rfl rfl rfl rfl (by simp)
    rintro (h | h) <;> simp [hstatus] at h
  | cancel clock tenantId id t hfind hstatus =>
    apply evolves_of_moved (moved_commitCancel db clock tenantId t hfind)
    refine ⟨rfl, rfl, rfl, rfl, fun _ => by simp, ?_⟩
    rintro (h | h) <;> simp [h] at hstatus

/-- No request rewrites a transfer that is over. -/
theorem evolves_transfers_step (hs : WellFormed s) :
    s.transfers.Evolves transferLife (step db call s).transfers.toTable := by
  by_cases hcall : call.request.IsTransfer
  · obtain ⟨s₁, hdraft, hcommit⟩ := drafts_commits_of_step db hs hcall
    have hdrafted : s.transfers.Evolves transferLife s₁.transfers.toTable := by
      obtain rfl | ⟨t, _, _, _, rfl⟩ := hdraft
      · exact Table.Evolves.refl _ _
      · exact Serial.evolves_create _
    obtain hsame | hcommit := hcommit
    · rw [hsame]
      exact hdrafted
    · exact hdrafted.trans (evolves_commits hcommit)
  · rw [transfers_step hs hcall]
    exact Table.Evolves.refl _ _

end Transfers

/-- Along every run of requests, whatever they are, reservations, sessions and transfers live
their lives: what is fixed of them stays, and those that are closed stay as they are. -/
theorem lives_runs (h : Reachable db c s) (hrun : Runs (step db) ok s s') :
    s.reservations.Evolves reservationLife s'.reservations.toTable ∧
      s.sessions.Evolves sessionLife s'.sessions.toTable ∧
      s.transfers.Evolves transferLife s'.transfers.toTable := by
  have hall : WellFormed s' ∧ LivesOn s s' ∧
      s.transfers.Evolves transferLife s'.transfers.toTable := by
    refine Runs.invariant (I := fun s' => WellFormed s' ∧ LivesOn s s' ∧
      s.transfers.Evolves transferLife s'.transfers.toTable) hrun
      ⟨wellFormed_of_reachable h, LivesOn.refl s, Table.Evolves.refl _ _⟩ ?_
    rintro s₁ call ⟨hs, hlives, htransfers⟩ _
    exact ⟨wellFormed_step hs, hlives.trans livesOn_step,
      htransfers.trans (evolves_transfers_step hs)⟩
  exact ⟨hall.2.1.reservations, hall.2.1.sessions, hall.2.2⟩

/-- Two of what was received are on their way. -/
def shippedTwo : Store :=
  serveAll .exact [⟨⟨0, 2024⟩, .stockIn 0 ⟨0, none, none, [⟨0, 10, 1, none⟩]⟩⟩,
    ⟨⟨1, 2024⟩, .createTransfer 0 ⟨0, 1, some .inTransit, [⟨0, 2⟩], none⟩⟩] (Store.initial (.shop .fifo))

/-- They arrive, and then somebody tries to cancel the transfer. -/
def arrivedAndCancelled : List Call :=
  [⟨⟨2, 2024⟩, .receiveTransfer 0 0 [⟨0, 2, none⟩]⟩, ⟨⟨3, 2024⟩, .cancelTransfer 0 0⟩]

theorem lives_runs_shippedTwo :
    shippedTwo.transfers.Evolves transferLife
      (serveAll .exact arrivedAndCancelled shippedTwo).transfers.toTable ∧
    ((serveAll .exact arrivedAndCancelled shippedTwo).transfers.find? 0).map StockTransfer.status =
      some .completed := by
  have hrun : Runs (step .exact) (fun _ _ => True) shippedTwo
      (serveAll .exact arrivedAndCancelled shippedTwo) := runs_serveAll (by decide +kernel)
  exact ⟨(lives_runs (reachable_serveAll _ _ _) hrun).2.2, by decide +kernel⟩

end Invetrixa
