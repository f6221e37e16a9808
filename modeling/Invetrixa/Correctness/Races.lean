import Invetrixa.Correctness.Oversell

/-!
# Availability under interleaved requests

A new reservation, a removal and a shipment read what is available with the plain client and
commit in a transaction of their own, which does not look at the balance again. A commit keeps
the balances from being oversold exactly when what it takes is available at its own moment,
whatever was available when its request looked.

## Main definitions

- `StockRequest`, `PendingTake` — the requests, and what each is about to take
- `Fits` — what a commit takes is available when it is made

## Main results

- `noOversell_commit_iff` — the step
- `no_oversell_of_fits`, `two_reservations_oversell`
-/

namespace Invetrixa

open Rowstore Requests MovementService TransferService

/-- The requests that take what is available. -/
inductive StockRequest
  | reserve (clock : Clock) (tenantId : Id) (dto : ReservationService.CreateReservationDto)
  | stockOut (tenantId : Id) (dto : BulkStockOutDto)
  | ship (clock : Clock) (tenantId id : Id)

/-- A request that has found enough available and not yet committed. -/
inductive PendingTake
  | reserve (tenantId : Id) (dto : ReservationService.CreateReservationDto)
  | stockOut (tenantId : Id) (dto : BulkStockOutDto)
  | ship (clock : Clock) (tenantId id : Id) (transfer : StockTransfer)

/-- The validation of the body and the read of a request. -/
def StockRequest.read (s : Store) : StockRequest → Option PendingTake
  | .reserve clock tenantId dto =>
    if CreateReservationDto.Valid dto then
      (ReservationService.readCreate clock tenantId dto s).toOption.map fun _ =>
        .reserve tenantId dto
    else none
  | .stockOut tenantId dto =>
    if BulkStockOutDto.Valid dto then
      (validateStockOut tenantId dto s).toOption.map fun _ => .stockOut tenantId dto
    else none
  | .ship clock tenantId id =>
      (readShip tenantId id s).toOption.map (.ship clock tenantId id)

/-- The transaction of a request. -/
def PendingTake.commit (db : Database) (s : Store) : PendingTake → Store
  | .reserve tenantId dto => (transaction (ReservationService.commitCreate tenantId dto) s).2
  | .stockOut tenantId dto => (executeStockOut db tenantId dto s).2
  | .ship clock tenantId id transfer => commitShip db clock tenantId id transfer s

/-- The requests in two steps. -/
def stockRequests (db : Database) : ReadCommit Store StockRequest PendingTake where
  read r s := r.read s
  commit _ w s := w.commit db s

/-- What a commit takes of a place, over all its lines, is available there when it commits. -/
def Fits (s : Store) : PendingTake → Prop
  | .reserve _ dto => dto.quantity ≤
      (s.onHand dto.productId dto.locationId - s.reserved dto.productId dto.locationId : ℤ)
  | .stockOut _ dto => LinesFit s (BulkStockOutDto.lines dto)
  | .ship _ _ _ transfer => LinesFit s transfer.lines

instance (s : Store) (w : PendingTake) : Decidable (Fits s w) := by
  obtain ⟨⟩ := w
  all_goals dsimp only [Fits]; infer_instance

/-- What a request in flight may rely on: a reservation is of a positive whole quantity, and the
lines that take something out have their balance rows. -/
def PendingTake.Ready (s : Store) : PendingTake → Prop
  | .reserve _ dto => CreateReservationDto.Valid dto
  | .stockOut _ dto => ∀ item ∈ dto.items, item.2 ≤ 0 ∨ s.HasBalance item.1 dto.locationId
  | .ship _ _ _ transfer => ∀ i ∈ transfer.items,
      i.requestedQuantity ≤ 0 ∨ s.HasBalance i.productId transfer.fromLocationId

variable {db : Database} {clock : Clock} {tenantId transferId : Id} {s : Store} {w : PendingTake}

section Step

theorem takes_commitShip {t : StockTransfer}
    (hrow : ∀ i ∈ t.items, i.requestedQuantity ≤ 0 ∨ s.HasBalance i.productId t.fromLocationId) :
    Takes s (commitShip db clock tenantId transferId t s) t.lines := by
  set marked := updateTransfer transferId (fun t =>
    { t with status := .inTransit, shippedAt := some clock.time }) s with hmarked
  have hrow' : ∀ i ∈ t.items,
      0 ≤ -i.requestedQuantity ∨ marked.HasBalance i.productId t.fromLocationId :=
    fun i hi => (hrow i hi).imp_left neg_nonneg.mpr
  have htakes : Takes marked (t.items.foldl (shipItem db tenantId transferId t) marked)
      t.lines := by
    apply takes_foldl (t := fun _ => tenantId) _ hrow'
    intro s item
    rw [shipItem_eq]
  exact htakes.congr rfl rfl

/-- The row that `create` inserts, for a valid body. -/
theorem commitCreate_of_valid {dto : ReservationService.CreateReservationDto}
    (hvalid : CreateReservationDto.Valid dto) :
    (PendingTake.reserve tenantId dto).commit db s =
      ReservationService.reserve
        (ReservationService.newReservation tenantId dto dto.quantity.num) s := by
  have hcolumn : intColumn dto.quantity = .ok dto.quantity.num := if_pos hvalid.1
  simp only [PendingTake.commit, ReservationService.commitCreate, hcolumn, transaction, bind,
    Except.bind]
  rfl

theorem hasBalance_commit (hw : w.Ready s) {p l : Id} (h : s.HasBalance p l) :
    (w.commit db s).HasBalance p l := by
  cases w with
  | reserve tenantId dto =>
    rw [commitCreate_of_valid hw]
    exact hasBalance_reserve (.inl h)
  | stockOut tenantId dto => exact (takes_executeStockOut hw).hasBalance p l h
  | ship clock tenantId id transfer => exact (takes_commitShip hw).hasBalance p l h

/-- A new reservation keeps the balances from being oversold exactly if it is available. -/
theorem noOversell_reserve_iff (hs : NoOversell s) {r : StockReservation} (hq : 0 ≤ r.quantity) :
    NoOversell (ReservationService.reserve r s) ↔
      r.quantity ≤ s.onHand r.productId r.locationId - s.reserved r.productId r.locationId := by
  rw [noOversell_iff] at hs ⊢
  constructor
  · intro h
    have hplace := (h r.productId r.locationId).2
    rw [reserved_reserve, onHand_reserve, if_pos ⟨rfl, rfl⟩] at hplace
    omega
  · intro havail p l
    rw [reserved_reserve, onHand_reserve]
    have hpl := hs p l
    split
    · next hplace =>
      obtain ⟨rfl, rfl⟩ := hplace
      omega
    · omega

/-- A commit keeps the balances from being oversold exactly if it fits. -/
theorem noOversell_commit_iff (hs : NoOversell s) (hw : w.Ready s) :
    NoOversell (w.commit db s) ↔ Fits s w := by
  cases w with
  | reserve tenantId dto =>
    have hnum : dto.quantity = (dto.quantity.num : ℚ) := ((Rat.den_eq_one_iff _).mp hw.1).symm
    have hpos : 0 ≤ dto.quantity.num := Rat.num_nonneg.mpr (zero_le_one.trans hw.2)
    rw [commitCreate_of_valid hw, noOversell_reserve_iff hs hpos]
    show _ ↔ dto.quantity ≤ _
    rw [hnum, Int.cast_le]
    rfl
  | stockOut tenantId dto => exact noOversell_iff_of_takes hs (takes_executeStockOut hw)
  | ship clock tenantId id transfer => exact noOversell_iff_of_takes hs (takes_commitShip hw)

/-- A read finds what its commit will rely on. -/
theorem ready_of_read {request : StockRequest} (h : request.read s = some w) : w.Ready s := by
  cases request with
  | reserve clock tenantId dto =>
    simp only [StockRequest.read] at h
    split at h
    · next hvalid =>
      obtain ⟨_, _, rfl⟩ := Option.map_eq_some_iff.mp h
      exact hvalid
    · cases h
  | stockOut tenantId dto =>
    simp only [StockRequest.read] at h
    split at h
    · next hvalid =>
      obtain ⟨_, hok, rfl⟩ := Option.map_eq_some_iff.mp h
      intro item hitem
      exact .inr (hasBalance_of_available (lt_of_lt_of_le one_pos (hvalid item hitem))
        ((validateStockOut_ok (Except.toOption_eq_some_iff.mp hok)).2 item hitem))
    · cases h
  | ship clock tenantId id =>
    obtain ⟨t, hok, rfl⟩ := Option.map_eq_some_iff.mp h
    obtain ⟨_, _, _, havail⟩ := readShip_ok (Except.toOption_eq_some_iff.mp hok)
    intro i hi
    by_cases hpos : 0 < i.requestedQuantity
    · exact .inr (hasBalance_of_available hpos (havail i hi))
    · exact .inl (not_lt.mp hpos)

theorem ready_commit {w' : PendingTake} (hw : w.Ready s) (hw' : w'.Ready s) :
    w'.Ready (w.commit db s) := by
  cases w' with
  | reserve tenantId dto => exact hw'
  | stockOut tenantId dto =>
    exact fun item hitem => (hw' item hitem).imp_right (hasBalance_commit hw)
  | ship clock tenantId id transfer =>
    exact fun i hi => (hw' i hi).imp_right (hasBalance_commit hw)

end Step

section Runs

variable {config : ReadCommit.Config Store StockRequest PendingTake}

/-- In every interleaving whose commits fit, no state reached is oversold; and of the requests
then in flight exactly those that fit keep it so. -/
theorem no_oversell_of_fits (hs : NoOversell s)
    (h : (stockRequests db).Interleaved (fun s _ w => Fits s w) ⟨s, []⟩ config) :
    NoOversell config.state ∧ ∀ x ∈ config.inFlight,
      (NoOversell ((stockRequests db).commit x.1 x.2 config.state) ↔ Fits config.state x.2) := by
  obtain ⟨hstate, hflight⟩ := ReadCommit.Interleaved.invariant (I := NoOversell)
    (K := fun s _ (w : PendingTake) => w.Ready s) h hs (fun _ hx => (by cases hx))
    (fun s request w _ hread => ready_of_read hread)
    (fun s request w hs hw hfits => (noOversell_commit_iff hs hw).mpr hfits)
    fun s request w request' w' _ hw _ hw' => ready_commit hw hw'
  exact ⟨hstate, fun x hx => noOversell_commit_iff hstate (hflight x hx)⟩

/-- A reservation of Tea at the front. -/
def reservation (quantity : ℚ) : StockRequest :=
  .reserve ⟨1, 2024⟩ 0 ⟨0, 0, quantity, 100, none, none⟩

/-- Five on hand, and reservations of two and of three in flight together. -/
def bothFit : ReadCommit.Config Store StockRequest PendingTake :=
  (stockRequests .exact).execAll
    [.read (reservation 2), .read (reservation 3), .commit 1, .commit 0] ⟨fiveStore, []⟩

theorem no_oversell_of_fits_bothFit :
    NoOversell bothFit.state ∧ bothFit.state.reserved 0 0 = 5 :=
  ⟨(no_oversell_of_fits (by decide +kernel)
    (ReadCommit.interleaved_execAll (by decide +kernel) :
      (stockRequests .exact).Interleaved (fun s _ w => Fits s w) ⟨fiveStore, []⟩ bothFit)).1,
    by decide +kernel⟩

/-- Five on hand, and two reservations of five that both read before either commits. -/
def bothFive : ReadCommit.Config Store StockRequest PendingTake :=
  (stockRequests .exact).execAll
    [.read (reservation 5), .read (reservation 5), .commit 0, .commit 0] ⟨fiveStore, []⟩

/-- Both are accepted: ten are reserved of five. -/
theorem two_reservations_oversell :
    NoOversell fiveStore ∧
      (stockRequests .exact).Interleaved (fun _ _ _ => True) ⟨fiveStore, []⟩ bothFive ∧
      ¬NoOversell bothFive.state ∧ bothFive.state.reserved 0 0 = 10 ∧
      bothFive.state.onHand 0 0 = 5 :=
  ⟨by decide +kernel, ReadCommit.interleaved_execAll (by decide +kernel), by decide +kernel⟩

end Runs

end Invetrixa
