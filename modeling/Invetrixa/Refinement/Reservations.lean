import Invetrixa.Refinement.Books

/-!
# Reservation requests as bookings

What the reads of the reservation service and of the expiry job have checked, and what their
transactions write: a new reservation, or an amended one.

## Main results

- `commitUpdate_ok`, `close_ok` — the transactions, on any store
- `books_createReservation`, `books_updateReservation`, `books_release`, `books_process`
-/

namespace Invetrixa

open Rowstore Requests ReservationService

variable {db : Database} {d : Discipline} {clock : Clock} {tenantId : Id} {s s' : Store}

/-- The checks of `create` pass exactly for a product and a location of the tenant, a quantity that
is available, and a time that is still to come. -/
theorem readCreate_eq_ok_iff {dto : CreateReservationDto} :
    ReservationService.readCreate clock tenantId dto s = .ok () ↔
      ((s.products.find? dto.productId).any fun p => p.tenantId = tenantId ∧ p.deletedAt = none) ∧
      (s.locations.find? dto.locationId).map Location.tenantId = some tenantId ∧
      dto.quantity ≤ (s.onHand dto.productId dto.locationId -
        s.reserved dto.productId dto.locationId : ℤ) ∧ clock.time < dto.expiresAt := by
  rw [ReservationService.readCreate]
  cases s.products.find? dto.productId with
  | none => simp
  | some product =>
    simp only [Option.any_some, decide_eq_true_eq]
    by_cases hproduct : product.tenantId = tenantId ∧ product.deletedAt = none
    · rw [if_neg (not_not.mpr hproduct), iff_true_intro hproduct, true_and]
      by_cases hlocation : (s.locations.find? dto.locationId).map Location.tenantId = some tenantId
      · rw [if_neg (not_not.mpr hlocation), iff_true_intro hlocation, true_and]
        by_cases havail : dto.quantity ≤ (s.onHand dto.productId dto.locationId -
            s.reserved dto.productId dto.locationId : ℤ)
        · rw [if_neg (not_lt.mpr havail), iff_true_intro havail, true_and]
          by_cases hexpiry : clock.time < dto.expiresAt
          · rw [if_neg (not_le.mpr hexpiry), iff_true_intro hexpiry, iff_true_intro rfl]
          · rw [if_pos (not_lt.mp hexpiry)]
            exact ⟨fun h => (by cases h), fun h => absurd h hexpiry⟩
        · rw [if_pos (not_le.mp havail)]
          exact ⟨fun h => (by cases h), fun h => absurd h.1 havail⟩
      · rw [if_pos hlocation]
        exact ⟨fun h => (by cases h), fun h => absurd h.1 hlocation⟩
    · rw [if_pos hproduct]
      exact ⟨fun h => (by cases h), fun h => absurd h.1 hproduct⟩

theorem readCreate_ok {dto : CreateReservationDto}
    (h : ReservationService.readCreate clock tenantId dto s = .ok ()) :
    s.tenantOf dto.productId = some tenantId ∧
      dto.quantity ≤ (s.onHand dto.productId dto.locationId -
        s.reserved dto.productId dto.locationId : ℤ) := by
  obtain ⟨hproduct, _, havail, _⟩ := readCreate_eq_ok_iff.mp h
  refine ⟨?_, havail⟩
  obtain ⟨product, hfind, hp⟩ := (Option.any_eq_true _ _).mp hproduct
  rw [Store.tenantOf, hfind, Option.map_some, (of_decide_eq_true hp).1]

theorem commitCreate_ok {dto : CreateReservationDto} {id : Id}
    (h : commitCreate tenantId dto s = .ok (id, s')) :
    ∃ quantity : ℤ, id = s.reservations.next ∧
      s' = reserve (newReservation tenantId dto quantity) s := by
  obtain ⟨quantity, _, h⟩ := Except.bind_eq_ok_iff.mp h
  obtain ⟨rfl, rfl⟩ := Prod.mk.inj (Except.ok.inj h)
  exact ⟨quantity, rfl, rfl⟩

theorem books_createReservation {dto : CreateReservationDto} {id : Id}
    (h : ReservationService.create clock tenantId dto s = .ok (id, s')) : Books db d s s' := by
  obtain ⟨_, hread, h⟩ := Except.bind_eq_ok_iff.mp h
  obtain ⟨quantity, _, rfl⟩ := commitCreate_ok h
  exact Books.single (b := .reserve (newReservation tenantId dto quantity))
    ⟨⟨rfl, (readCreate_ok hread).1⟩, fun _ => trivial, fun _ => trivial,
      d.permits_plain _ trivial⟩

theorem updateReservation_ok {id : Id} {f : StockReservation → StockReservation}
    (h : updateReservation id f s = .ok s') :
    s' = { s with reservations := s.reservations.modify id f } ∧
      ∃ r, s.reservations.find? id = some r := by
  rw [updateReservation] at h
  cases hr : s.reservations.find? id with
  | none => simp [hr] at h
  | some r =>
    simp only [hr] at h
    exact ⟨(Except.ok.inj h).symm, r, rfl⟩

theorem incrementReserved_ok {p l : Id} {diff : ℤ} (h : incrementReserved p l diff s = .ok s') :
    s' = { s with
        balances := s.balances.modify (p, l) fun b =>
          { b with reservedQuantity := b.reservedQuantity + diff } } ∧ s.HasBalance p l := by
  rw [incrementReserved] at h
  cases hb : s.balances.find? (p, l) with
  | none => simp [hb] at h
  | some b =>
    simp only [hb] at h
    exact ⟨(Except.ok.inj h).symm, by rw [Store.HasBalance, hb]; rfl⟩

/-- The transaction that takes a reservation out of the active ones amends it. -/
theorem close_ok (db : Database) {id : Id} {status : ReservationStatus} {r : StockReservation}
    (h : close id status r s = .ok ((), s')) :
    s' = book db (.amend id (fun r => { r with status }) r.productId r.locationId (-r.quantity)) s ∧
      ∃ r', s.reservations.find? id = some r' := by
  obtain ⟨s₁, hupdate, h⟩ := Except.bind_eq_ok_iff.mp h
  obtain ⟨s₂, hbalance, h⟩ := Except.bind_eq_ok_iff.mp h
  obtain rfl : s₂ = s' := congrArg Prod.snd (Except.ok.inj h)
  obtain ⟨rfl, hfind⟩ := updateReservation_ok hupdate
  obtain ⟨rfl, _⟩ := incrementReserved_ok hbalance
  exact ⟨rfl, hfind⟩

/-- The transaction of `update` amends the reservation, by the difference to what was read. -/
theorem commitUpdate_ok (db : Database) {id : Id} {dto : UpdateReservationDto}
    {r : StockReservation} (h : commitUpdate id dto r s = .ok ((), s')) :
    s' = book db (.amend id (updateData dto) r.productId r.locationId (quantityDiff dto r)) s ∧
      (∃ r', s.reservations.find? id = some r') ∧
      (0 < quantityDiff dto r → quantityDiff dto r ≤
        s.onHand r.productId r.locationId - s.reserved r.productId r.locationId) := by
  unfold commitUpdate at h
  dsimp only at h
  by_cases havail : quantityDiff dto r > 0 ∧ s.onHand r.productId r.locationId -
      s.reserved r.productId r.locationId < quantityDiff dto r
  · rw [if_pos havail] at h
    cases h
  · rw [if_neg havail] at h
    obtain ⟨s₁, hupdate, h⟩ := Except.bind_eq_ok_iff.mp h
    obtain ⟨rfl, hfind⟩ := updateReservation_ok hupdate
    refine ⟨?_, hfind, fun hpos => not_lt.mp fun hlt => havail ⟨hpos, hlt⟩⟩
    by_cases hzero : quantityDiff dto r = 0
    · rw [if_neg (not_not.mpr hzero)] at h
      obtain rfl := congrArg Prod.snd (Except.ok.inj h)
      simp only [book, hzero, add_zero]
      rw [Table.modify_eq_self fun _ _ => rfl]
    · rw [if_pos hzero] at h
      obtain ⟨s₂, hbalance, h⟩ := Except.bind_eq_ok_iff.mp h
      obtain rfl : s₂ = s' := congrArg Prod.snd (Except.ok.inj h)
      exact (incrementReserved_ok hbalance).1

theorem findReservation_ok {id : Id} {r : StockReservation}
    (h : findReservation tenantId id s = .ok r) :
    s.reservations.find? id = some r ∧ r.tenantId = tenantId := by
  rw [findReservation] at h
  cases hfind : s.reservations.find? id with
  | none => simp [hfind] at h
  | some r' =>
    simp only [hfind] at h
    split at h
    · next ht =>
      obtain rfl := Except.ok.inj h
      exact ⟨rfl, ht⟩
    · cases h

theorem readUpdate_found {id : Id} {dto : UpdateReservationDto} {r : StockReservation}
    (h : readUpdate clock tenantId id dto s = .ok r) :
    findReservation tenantId id s = .ok r ∧ r.status = .active := by
  obtain ⟨_, h⟩ := Except.ite_error_eq_ok_iff.mp h
  obtain ⟨r', hfind, h⟩ := Except.bind_eq_ok_iff.mp h
  obtain ⟨hactive, h⟩ := Except.ite_error_eq_ok_iff.mp h
  obtain ⟨_, h⟩ := Except.ite_error_eq_ok_iff.mp h
  obtain rfl := Except.ok.inj h
  exact ⟨hfind, not_not.mp hactive⟩

theorem readUpdate_ok {id : Id} {dto : UpdateReservationDto} {r : StockReservation}
    (h : readUpdate clock tenantId id dto s = .ok r) :
    s.reservations.find? id = some r ∧ r.status = .active :=
  ⟨(findReservation_ok (readUpdate_found h).1).1, (readUpdate_found h).2⟩

theorem readRelease_found {id : Id} {r : StockReservation}
    (h : readRelease tenantId id s = .ok r) :
    findReservation tenantId id s = .ok r ∧ r.status = .active := by
  obtain ⟨r', hfind, h⟩ := Except.bind_eq_ok_iff.mp h
  split at h
  · cases h
  · next hactive =>
    obtain rfl := Except.ok.inj h
    exact ⟨hfind, not_not.mp hactive⟩

theorem readRelease_ok {id : Id} {r : StockReservation}
    (h : readRelease tenantId id s = .ok r) :
    s.reservations.find? id = some r ∧ r.status = .active :=
  ⟨(findReservation_ok (readRelease_found h).1).1, (readRelease_found h).2⟩

/-- A reservation that is there may be amended where it is. -/
theorem guard_amend (hs : WellFormed s) {id : Id} {f : StockReservation → StockReservation}
    {diff : ℤ} {r : StockReservation} (hfind : s.reservations.find? id = some r)
    (hplace : (f r).productId = r.productId ∧ (f r).locationId = r.locationId ∧
      (f r).tenantId = r.tenantId) (hdiff : diff = (f r).share - r.share) :
    Booking.Guard s (.amend id f r.productId r.locationId diff) :=
  ⟨(hs.reservations id r hfind).2, r, hfind, rfl, rfl, hplace.1, hplace.2.1, hplace.2.2, hdiff⟩

/-- Amending a reservation as it is. -/
theorem books_amend (hs : WellFormed s) {id : Id} {f : StockReservation → StockReservation}
    {diff : ℤ} {r : StockReservation} (hfind : s.reservations.find? id = some r)
    (hplace : (f r).productId = r.productId ∧ (f r).locationId = r.locationId ∧
      (f r).tenantId = r.tenantId) (hdiff : diff = (f r).share - r.share) :
    Books db d s (book db (.amend id f r.productId r.locationId diff) s) :=
  Books.single ⟨guard_amend hs hfind hplace hdiff, fun _ => trivial, fun _ => trivial,
    d.permits_plain _ trivial⟩

/-- An active reservation that is closed gives its quantity back. -/
theorem share_close {status : ReservationStatus} {r : StockReservation}
    (hstatus : status ≠ .active) (hactive : r.status = .active) :
    -r.quantity = StockReservation.share { r with status } - r.share := by
  simp [StockReservation.share, hactive, hstatus]

/-- An active reservation that is updated changes by the difference that is written. -/
theorem share_updateData {dto : UpdateReservationDto} {r : StockReservation}
    (hactive : r.status = .active) :
    quantityDiff dto r = (updateData dto r).share - r.share := by
  have hshare : (updateData dto r).share = dto.quantity.getD r.quantity := by
    simp [StockReservation.share, updateData, hactive]
  rw [hshare, StockReservation.share, if_pos hactive, quantityDiff]
  cases dto.quantity with
  | none => simp
  | some q => rfl

theorem books_close (hs : WellFormed s) {id : Id} {status : ReservationStatus}
    {r : StockReservation} (hstatus : status ≠ .active) (hfind : s.reservations.find? id = some r)
    (hactive : r.status = .active) (h : close id status r s = .ok ((), s')) : Books db d s s' := by
  obtain ⟨rfl, _⟩ := close_ok db h
  exact books_amend hs hfind ⟨rfl, rfl, rfl⟩ (share_close hstatus hactive)

theorem books_updateReservation (hs : WellFormed s) {id : Id} {dto : UpdateReservationDto}
    (h : update clock tenantId id dto s = .ok ((), s')) : Books db d s s' := by
  obtain ⟨r, hread, h⟩ := Except.bind_eq_ok_iff.mp h
  obtain ⟨hfind, hactive⟩ := readUpdate_ok hread
  obtain ⟨rfl, _⟩ := commitUpdate_ok db h
  exact books_amend hs hfind ⟨rfl, rfl, rfl⟩ (share_updateData hactive)

theorem books_release (hs : WellFormed s) {id : Id}
    (h : release tenantId id s = .ok ((), s')) : Books db d s s' := by
  obtain ⟨r, hread, h⟩ := Except.bind_eq_ok_iff.mp h
  obtain ⟨hfind, hactive⟩ := readRelease_ok hread
  exact books_close hs (by decide) hfind hactive h

theorem readProcess_eq_some {id : Id} {r : StockReservation}
    (h : ReservationQueueProcessor.readProcess clock tenantId id s = some r) :
    s.reservations.find? id = some r ∧ r.status = .active := by
  obtain ⟨hfind, hr⟩ := Option.mem_filter_iff.mp
    (show r ∈ ReservationQueueProcessor.readProcess clock tenantId id s from h)
  simp only [decide_eq_true_eq] at hr
  exact ⟨hfind, hr.2.1⟩

theorem books_process (hs : WellFormed s) {id : Id}
    (h : ReservationQueueProcessor.process clock tenantId id s = .ok ((), s')) :
    Books db d s s' := by
  rw [ReservationQueueProcessor.process] at h
  split at h
  · obtain rfl := congrArg Prod.snd (Except.ok.inj h)
    exact Books.refl s
  · next r hread =>
    obtain ⟨hfind, hactive⟩ := readProcess_eq_some hread
    exact books_close hs (by decide) hfind hactive h

end Invetrixa
