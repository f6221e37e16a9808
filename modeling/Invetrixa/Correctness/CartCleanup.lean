import Invetrixa.Correctness.Reserved

/-!
# What the cleanup of carts releases

The reservations of all abandoned carts are grouped by a text of product and location. Each balance
that has reservations among them is written once, by all that they hold, and no other balance is.

## Main definitions

- `ReleasesExactly` — each balance gives back once what a list of reservations holds of it
- `CleansExactly` — the cleanup gives back what the reservations hold that it marks as expired

## Main results

- `releasesExactly`
- `cleanup_releases_exactly`
-/

namespace Invetrixa

open Rowstore Requests CartCleanupService

variable {rs : List StockReservation} {us : List (String × BalanceUpdate)} {s s' : Store}
  {clock : Clock} {p l : Id}

/-- The updates that are written for a list of reservations. -/
def balanceUpdates (rs : List StockReservation) : List BalanceUpdate :=
  (rs.foldl addUpdate []).map Prod.snd

/-- The balance that an update is for. -/
def CartCleanupService.BalanceUpdate.place (u : BalanceUpdate) : Id × Id :=
  (u.productId, u.locationId)

/-- A list of reservations is given back: to each balance that has some once, all that they hold of
it, and nothing else is written. -/
structure ReleasesExactly (rs : List StockReservation) (s : Store) : Prop where
  once : ((balanceUpdates rs).map BalanceUpdate.place).Nodup
  places : ∀ place, place ∈ (balanceUpdates rs).map BalanceUpdate.place ↔
    ∃ r ∈ rs, (r.productId, r.locationId) = place
  quantities : ∀ u ∈ balanceUpdates rs, u.quantity = heldAt rs u.productId u.locationId
  untouched : ∀ p l, (∀ r ∈ rs, ¬(r.productId = p ∧ r.locationId = l)) →
    (releaseReservedQuantities rs s).balances.find? (p, l) = s.balances.find? (p, l)
  released : ∀ p l, (releaseReservedQuantities rs s).balances.find? (p, l) =
    (s.balances.find? (p, l)).map fun b =>
      { b with reservedQuantity := b.reservedQuantity - heldAt rs p l }
  rest : releaseReservedQuantities rs s =
    { s with balances := (releaseReservedQuantities rs s).balances }

/-- The active reservations of the carts that are too old. -/
def abandonedReservations (clock : Clock) (s : Store) : List StockReservation :=
  (s.reservations.rows.filter fun r => isCartReservation (abandonedCarts clock s) r.2).map Prod.snd

/-- The reservations of the carts that are too old expire, and what they hold is given back. -/
structure CleansExactly (clock : Clock) (s s' : Store) : Prop where
  expired : ∀ id, s'.reservations.find? id = (s.reservations.find? id).map fun r =>
    if isCartReservation (abandonedCarts clock s) r then { r with status := .expired } else r
  released : ∀ p l, s'.balances.find? (p, l) = (s.balances.find? (p, l)).map fun b =>
    { b with reservedQuantity := b.reservedQuantity - heldAt (abandonedReservations clock s) p l }

section Updates

theorem grouped_foldl_addUpdate (h : Grouped us) (rs : List StockReservation) :
    Grouped (rs.foldl addUpdate us) := by
  induction rs generalizing us with
  | nil => exact h
  | cons r rest ih => exact ih (grouped_addUpdate h r)

theorem grouped_nil : Grouped [] := ⟨nofun, List.nodup_nil⟩

/-- The turn of a reservation leaves an entry under its key, and every entry that was there. -/
theorem mem_keys_addUpdate {key : String} (r : StockReservation)
    (h : key = balanceKey r.productId r.locationId ∨ key ∈ us.map Prod.fst) :
    key ∈ (addUpdate us r).map Prod.fst := by
  rw [addUpdate]
  dsimp only
  split
  · next hany =>
    have hmem : key ∈ us.map Prod.fst := by
      rcases h with rfl | h
      · exact any_key_iff.mp hany
      · exact h
    obtain ⟨u, hu, rfl⟩ := List.mem_map.mp hmem
    refine List.mem_map.mpr ⟨_, List.mem_map_of_mem hu, ?_⟩
    split <;> rfl
  · rw [List.map_append, List.mem_append]
    rcases h with rfl | h
    · exact .inr (List.mem_singleton.mpr rfl)
    · exact .inl h

theorem mem_keys_foldl_addUpdate {key : String}
    (h : (∃ r ∈ rs, key = balanceKey r.productId r.locationId) ∨ key ∈ us.map Prod.fst) :
    key ∈ (rs.foldl addUpdate us).map Prod.fst := by
  induction rs generalizing us with
  | nil => exact h.resolve_left fun ⟨_, hr, _⟩ => nomatch hr
  | cons r rest ih =>
    apply ih
    rcases h with ⟨r', hr', hkey⟩ | h
    · rcases List.mem_cons.mp hr' with rfl | hr'
      · exact .inr (mem_keys_addUpdate _ (.inl hkey))
      · exact .inl ⟨r', hr', hkey⟩
    · exact .inr (mem_keys_addUpdate r (.inr h))

/-- Entries under different keys are for different balances. -/
theorem Grouped.nodup_places (h : Grouped us) :
    ((us.map Prod.snd).map BalanceUpdate.place).Nodup := by
  have hkeys : us.map Prod.fst =
      ((us.map Prod.snd).map BalanceUpdate.place).map fun place => balanceKey place.1 place.2 := by
    rw [List.map_map, List.map_map]
    exact List.map_congr_left h.keys
  exact List.Nodup.of_map _ (hkeys ▸ h.nodup)

/-- Where each balance has one update, the update is all that is given back to it. -/
theorem releasedAt_of_mem {us : List BalanceUpdate} (hnodup : (us.map BalanceUpdate.place).Nodup)
    {u : BalanceUpdate} (hu : u ∈ us) : releasedAt us u.productId u.locationId = u.quantity := by
  have hothers : ∀ vs : List BalanceUpdate, u.place ∉ vs.map BalanceUpdate.place →
      releasedAt vs u.productId u.locationId = 0 := by
    intro vs hnone
    refine List.sum_eq_zero fun x hx => ?_
    obtain ⟨v, hv, rfl⟩ := List.mem_map.mp hx
    refine if_neg fun hplace => hnone (List.mem_map.mpr ⟨v, hv, ?_⟩)
    exact Prod.ext hplace.1 hplace.2
  induction us with
  | nil => cases hu
  | cons v rest ih =>
    obtain ⟨hfirst, hrest⟩ := List.nodup_cons.mp hnodup
    have hcons : releasedAt (v :: rest) u.productId u.locationId =
        (if v.productId = u.productId ∧ v.locationId = u.locationId then v.quantity else 0) +
          releasedAt rest u.productId u.locationId := List.sum_cons
    rw [hcons]
    rcases List.mem_cons.mp hu with rfl | hu
    · rw [if_pos ⟨rfl, rfl⟩, hothers rest hfirst, add_zero]
    · have hother : ¬(v.productId = u.productId ∧ v.locationId = u.locationId) := fun hplace =>
        hfirst (List.mem_map.mpr ⟨u, hu, (Prod.ext hplace.1 hplace.2).symm⟩)
      rw [if_neg hother, zero_add, ih hrest hu]

theorem mem_places_iff {place : Id × Id} :
    place ∈ (balanceUpdates rs).map BalanceUpdate.place ↔
      ∃ r ∈ rs, (r.productId, r.locationId) = place := by
  constructor
  · intro h
    obtain ⟨u, hu, rfl⟩ := List.mem_map.mp h
    obtain ⟨entry, hentry, rfl⟩ := List.mem_map.mp hu
    obtain ⟨r, hr, hproduct, hlocation, -⟩ := mem_foldl_addUpdate hentry
    exact ⟨r, hr, Prod.ext hproduct.symm hlocation.symm⟩
  · rintro ⟨r, hr, rfl⟩
    have hkey : balanceKey r.productId r.locationId ∈ (rs.foldl addUpdate []).map Prod.fst :=
      mem_keys_foldl_addUpdate (.inl ⟨r, hr, rfl⟩)
    obtain ⟨entry, hentry, heq⟩ := List.mem_map.mp hkey
    have hgrouped := grouped_foldl_addUpdate grouped_nil rs
    obtain ⟨hproduct, hlocation⟩ := balanceKey_inj ((hgrouped.keys entry hentry).symm.trans heq)
    exact List.mem_map.mpr ⟨entry.2, List.mem_map_of_mem hentry, Prod.ext hproduct hlocation⟩

/-- Updates for other balances leave a balance as it is. -/
theorem find?_foldl_releaseQuantity_of_not_mem {us : List BalanceUpdate}
    (h : (p, l) ∉ us.map BalanceUpdate.place) (s : Store) :
    (us.foldl releaseQuantity s).balances.find? (p, l) = s.balances.find? (p, l) := by
  induction us generalizing s with
  | nil => rfl
  | cons u rest ih =>
    obtain ⟨hu, hrest⟩ := not_or.mp (mt List.mem_cons.mpr h)
    rw [List.foldl_cons, ih hrest, releaseQuantity, Table.find?_modifyWhere]
    refine (Option.map_congr fun b _ => ?_).trans Option.map_id'
    rw [if_neg fun hmatch => hu (of_decide_eq_true hmatch).1]

/-- Reservations that name the tenants of their balances are given back exactly. -/
theorem releasesExactly (htenant : ∀ r ∈ rs, ∀ b,
    s.balances.find? (r.productId, r.locationId) = some b → b.tenantId = r.tenantId) :
    ReleasesExactly rs s where
  once := (grouped_foldl_addUpdate grouped_nil rs).nodup_places
  places _ := mem_places_iff
  quantities u hu := by
    rw [← releasedAt_foldl_addUpdate]
    exact (releasedAt_of_mem (grouped_foldl_addUpdate grouped_nil rs).nodup_places hu).symm
  untouched p l hnone := by
    refine find?_foldl_releaseQuantity_of_not_mem (fun hmem => ?_) s
    obtain ⟨r, hr, hplace⟩ := mem_places_iff.mp hmem
    exact hnone r hr (Prod.ext_iff.mp hplace)
  released _ _ := find?_releaseReservedQuantities rs s htenant
  rest := releaseReservedQuantities_eq rs s

end Updates

section Cleanup

variable {result : CleanupResult}

/-- A cleanup without an abandoned cart changes nothing; any other makes the booking. -/
theorem cleanup_ok (h : cleanupAbandonedCarts clock s = .ok (result, s')) :
    abandonedCarts clock s = [] ∧ s' = s ∨
      ∃ read, Booking.Guard s (.expireCarts read) ∧ read.cartIds = abandonedCarts clock s ∧
        s'.balances = (book .exact (.expireCarts read) s).balances ∧
        s'.reservations = (book .exact (.expireCarts read) s).reservations := by
  rw [cleanupAbandonedCarts] at h
  split at h
  · next hnone =>
    refine .inl ⟨?_, (congrArg Prod.snd (Except.ok.inj h)).symm⟩
    unfold readCleanup at hnone
    dsimp only at hnone
    split at hnone
    · next hlength => exact List.eq_nil_of_length_eq_zero hlength
    · cases hnone
  · next read hread =>
    obtain ⟨hids, hguard⟩ := readCleanup_eq_some hread
    obtain ⟨s₁, hdelete, hok⟩ := Except.bind_eq_ok_iff.mp h
    obtain rfl : s₁ = s' := congrArg Prod.snd (Except.ok.inj hok)
    obtain ⟨_, rfl⟩ := deleteCarts_ok hdelete
    exact .inr ⟨read, hguard, hids, rfl, rfl⟩

theorem cleansExactly (hs : WellFormed s) (h : cleanupAbandonedCarts clock s = .ok (result, s')) :
    CleansExactly clock s s' := by
  rcases cleanup_ok h with ⟨hnone, rfl⟩ | ⟨read, hguard, hids, hbalances, hreservations⟩
  · have hcarts : ∀ r, isCartReservation (abandonedCarts clock s') r = false := fun _ => by
      rw [hnone]
      rfl
    refine ⟨fun id => ?_, fun p l => ?_⟩
    · simp [hcarts]
    · simp [abandonedReservations, hcarts, heldAt]
  · have hread : read.reservations = abandonedReservations clock s := by
      rw [abandonedReservations, ← hids]
      exact hguard
    refine ⟨fun id => ?_, fun p l => ?_⟩
    · rw [hreservations, book, releaseReservedQuantities_eq, ← hids]
      exact Table.find?_modifyWhere _ _
    · rw [hbalances, ← hread]
      exact find?_releaseReservedQuantities _ _ (expireCarts_tenants hs hguard)

/-- What is reserved and what active reservations hold fall by the same. -/
theorem reservedAgrees_cleanup (hs : WellFormed s) (hagree : s.ReservedAgrees)
    (h : cleanupAbandonedCarts clock s = .ok (result, s')) : s'.ReservedAgrees := by
  rcases cleanup_ok h with ⟨_, rfl⟩ | ⟨read, hguard, _, hbalances, hreservations⟩
  · exact hagree
  · intro p l
    calc s'.reserved p l = (book .exact (.expireCarts read) s).reserved p l := by
          rw [Store.reserved, hbalances]
          rfl
      _ = s.reserved p l - heldAt read.reservations p l := reserved_expireCarts hs hguard
      _ = s.activeQty p l - heldAt read.reservations p l := by rw [hagree p l]
      _ = (book .exact (.expireCarts read) s).activeQty p l := (activeQty_expireCarts hguard).symm
      _ = s'.activeQty p l := by
          rw [Store.activeQty, ← hreservations]
          rfl

/-- Each balance gives back once what the reservations of a list hold of it; and from any store
that the server reaches, a cleanup gives back what the reservations hold that it expires, so that
the reserved quantities still agree with the active reservations if they did. -/
theorem cleanup_releases_exactly :
    (∀ (rs : List StockReservation) (s : Store),
      (∀ r ∈ rs, ∀ b, s.balances.find? (r.productId, r.locationId) = some b →
        b.tenantId = r.tenantId) → ReleasesExactly rs s) ∧
    ∀ (db : Database) (c : Catalogue) (s : Store) (clock : Clock), Reachable db c s →
      (∀ result s', cleanupAbandonedCarts clock s = .ok (result, s') → CleansExactly clock s s') ∧
        (s.ReservedAgrees →
          (transaction (cleanupAbandonedCarts clock) s).2.ReservedAgrees) := by
  refine ⟨fun rs s htenant => releasesExactly htenant, fun db c s clock hreach => ⟨?_, ?_⟩⟩
  · intro result s' h
    exact cleansExactly (wellFormed_of_reachable hreach) h
  · intro hagree
    rw [transaction]
    split
    · next result s' h => exact reservedAgrees_cleanup (wellFormed_of_reachable hreach) hagree h
    · exact hagree

/-- Ten received, five of them put into a cart, and a day later the cart is cleaned up. -/
theorem cleanup_releases_exactly_reservedCart :
    ReleasesExactly [⟨5, 0, .active, none, none, 0, 0, 0⟩] reservedCartStore ∧
      (transaction (cleanupAbandonedCarts ⟨86400002, 2024⟩) reservedCartStore).2.ReservedAgrees ∧
      (transaction (cleanupAbandonedCarts ⟨86400002, 2024⟩) reservedCartStore).2.reserved 0 0 =
        0 := by
  have hreach : Reachable .exact (.shop .fifo) reservedCartStore := reachable_serveAll _ _ _
  have hsettled : ReachableBy .exact (Settled .exact) (.shop .fifo) reservedCartStore :=
    runs_serveAll (by decide +kernel)
  refine ⟨cleanup_releases_exactly.1 _ _ ?_, ?_, by decide +kernel⟩
  · intro r hr b hb
    obtain rfl := List.mem_singleton.mp hr
    have howner : (reservedCartStore.balances.find? (0, 0)).map InventoryBalance.tenantId =
        some 0 := by
      decide +kernel
    exact Option.some.inj ((congrArg (Option.map InventoryBalance.tenantId) hb).symm.trans howner)
  · exact (cleanup_releases_exactly.2 .exact (.shop .fifo) _ _ hreach).2
      (reserved_eq_activeQty hsettled)

end Cleanup

end Invetrixa
