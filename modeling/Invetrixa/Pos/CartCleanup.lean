import Invetrixa.Library.Uuids
import Invetrixa.Pos.Sale

/-!
# Cleanup of abandoned carts

`CartCleanupService`: carts older than a day are deleted and their reservations expire. The job
reads the carts and the reservations first and writes in a transaction.

## Main definitions

- `CartCleanupService.cleanupAbandonedCarts`
- `CartCleanupService.releaseReservedQuantities`

## Main results

- `find?_releaseReservedQuantities` — the grouping by place gives back what was reserved there
-/

namespace Invetrixa

open Rowstore

namespace CartCleanupService

def CART_MAX_AGE_HOURS : ℕ := 24

/-- The carts that are too old. -/
def abandonedCarts (clock : Clock) (s : Store) : List Id :=
  (s.sales.rows.filter fun r => r.2.status = .draft ∧
    r.2.createdAt + CART_MAX_AGE_HOURS * 60 * 60 * 1000 < clock.time).map Prod.fst

/-- An active reservation made for one of the carts. -/
def isCartReservation (cartIds : List Id) (r : StockReservation) : Bool :=
  cartIds.any fun cartId => SaleService.isReservationOf cartId r

/-- What the job reads: the carts and their reservations. -/
structure Abandoned where
  cartIds : List Id
  reservations : List StockReservation

/-- What the job reads before its transaction; nothing without an abandoned cart. -/
def readCleanup (clock : Clock) (s : Store) : Option Abandoned :=
  let cartIds := abandonedCarts clock s
  if cartIds.length = 0 then none
  else some
    { cartIds
      reservations := (s.reservations.rows.filter fun r => isCartReservation cartIds r.2).map
        Prod.snd }

/-- What is given back to one balance. -/
structure BalanceUpdate where
  productId : Id
  locationId : Id
  tenantId : Id
  quantity : ℤ

/-- The key under which the job groups reservations: the texts of two ids, which have hyphens
themselves, with a hyphen between. -/
def balanceKey (productId locationId : Id) : String :=
  Uuids.text productId ++ "-" ++ Uuids.text locationId

/-- One turn of the grouping loop, on the entries of the map in the order of insertion. -/
def addUpdate (updates : List (String × BalanceUpdate)) (res : StockReservation) :
    List (String × BalanceUpdate) :=
  let key := balanceKey res.productId res.locationId
  if updates.any fun u => u.1 = key then
    updates.map fun u =>
      if u.1 = key then (u.1, { u.2 with quantity := u.2.quantity + res.quantity }) else u
  else updates ++
    [(key, { productId := res.productId
             locationId := res.locationId
             tenantId := res.tenantId
             quantity := res.quantity })]

/-- `inventoryBalance.updateMany` for one group. -/
def releaseQuantity (s : Store) (update : BalanceUpdate) : Store :=
  { s with
    balances := s.balances.modifyWhere
      (fun k b => k = (update.productId, update.locationId) ∧ b.tenantId = update.tenantId)
      fun b => { b with reservedQuantity := b.reservedQuantity - update.quantity } }

def releaseReservedQuantities (reservations : List StockReservation) (s : Store) : Store :=
  ((reservations.foldl addUpdate []).map Prod.snd).foldl releaseQuantity s

structure CleanupResult where
  cartsDeleted : ℕ
  reservationsReleased : ℕ

/-- Mark the carts' reservations as expired, whatever they are by now. -/
def expireReservations (cartIds : List Id) (s : Store) : Store :=
  { s with
    reservations := s.reservations.modifyWhere (fun _ r => isCartReservation cartIds r)
      fun r => { r with status := .expired } }

/-- `saleItem.deleteMany` and `sale.deleteMany`: payments go with their sale, a refund keeps it. -/
def deleteCarts (cartIds : List Id) (s : Store) : Except HttpError Store :=
  if (s.saleRefunds.rows.any fun r => r.2.saleId ∈ cartIds) then .error invalidReference
  else .ok
    { s with
      saleItems := s.saleItems.deleteWhere fun _ i => i.saleId ∈ cartIds
      sales := s.sales.deleteWhere fun id _ => id ∈ cartIds
      salePayments := s.salePayments.deleteWhere fun _ p => p.saleId ∈ cartIds }

/-- The transaction of the job. -/
def commitCleanup (read : Abandoned) (s : Store) : Except HttpError (CleanupResult × Store) := do
  let count := (s.reservations.rows.filter fun r => isCartReservation read.cartIds r.2).length
  let s := expireReservations read.cartIds s
  let s := releaseReservedQuantities read.reservations s
  let s ← deleteCarts read.cartIds s
  return (⟨read.cartIds.length, count⟩, s)

def cleanupAbandonedCarts (clock : Clock) (s : Store) :
    Except HttpError (CleanupResult × Store) :=
  match readCleanup clock s with
  | none => .ok (⟨0, 0⟩, s)
  | some read => commitCleanup read s

end CartCleanupService

open CartCleanupService

/-- Distinct places have distinct keys. -/
theorem balanceKey_inj {p l p' l' : Id} (h : balanceKey p l = balanceKey p' l') :
    p = p' ∧ l = l' :=
  Uuids.text_join_inj h

section Grouping

variable {p l : Id}

/-- What a list of reservations holds of a product at a location. -/
def heldAt (rs : List StockReservation) (p l : Id) : ℤ :=
  (rs.map fun r => if r.productId = p ∧ r.locationId = l then r.quantity else 0).sum

/-- What a list of updates gives back of a product at a location. -/
def releasedAt (us : List BalanceUpdate) (p l : Id) : ℤ :=
  (us.map fun u => if u.productId = p ∧ u.locationId = l then u.quantity else 0).sum

/-- The entries of the map: each under the key of its place, no key twice. -/
structure Grouped (us : List (String × BalanceUpdate)) : Prop where
  keys : ∀ u ∈ us, u.1 = balanceKey u.2.productId u.2.locationId
  nodup : (us.map Prod.fst).Nodup

/-- Adding to the entry of a place adds to what is given back there. -/
theorem releasedAt_increment {us : List (String × BalanceUpdate)} (h : Grouped us)
    {r : StockReservation} (hmem : balanceKey r.productId r.locationId ∈ us.map Prod.fst) :
    releasedAt ((us.map fun u => if u.1 = balanceKey r.productId r.locationId then
      (u.1, { u.2 with quantity := u.2.quantity + r.quantity }) else u).map Prod.snd) p l =
    releasedAt (us.map Prod.snd) p l +
      if r.productId = p ∧ r.locationId = l then r.quantity else 0 := by
  induction us with
  | nil => cases hmem
  | cons u rest ih =>
    have hnodup := List.nodup_cons.mp h.nodup
    have hrest : Grouped rest := ⟨fun v hv => h.keys v (List.mem_cons_of_mem _ hv), hnodup.2⟩
    simp only [List.map_cons, releasedAt, List.sum_cons] at ih ⊢
    by_cases hu : u.1 = balanceKey r.productId r.locationId
    · -- This is the entry of the place; its key does not occur again.
      have hsame : (rest.map fun v => if v.1 = balanceKey r.productId r.locationId then
          (v.1, { v.2 with quantity := v.2.quantity + r.quantity }) else v) = rest := by
        conv_rhs => rw [← List.map_id rest]
        refine List.map_congr_left fun v hv => ?_
        rw [if_neg, id]
        intro hkey
        exact hnodup.1 (List.mem_map.mpr ⟨v, hv, hkey.trans hu.symm⟩)
      obtain ⟨hp, hl⟩ := balanceKey_inj ((h.keys u List.mem_cons_self).symm.trans hu)
      rw [if_pos hu, hsame, hp, hl]
      dsimp only
      split <;> omega
    · have hmem : balanceKey r.productId r.locationId ∈ rest.map Prod.fst := by
        rcases List.mem_cons.mp hmem with heq | hmem
        · exact absurd heq.symm hu
        · exact hmem
      rw [if_neg hu, ih hrest hmem]
      omega

theorem any_key_iff {us : List (String × BalanceUpdate)} {key : String} :
    (us.any fun u => u.1 = key) = true ↔ key ∈ us.map Prod.fst := by
  rw [List.any_eq_true, List.mem_map]
  refine exists_congr fun u => and_congr_right fun _ => ?_
  exact decide_eq_true_iff

theorem grouped_addUpdate {us : List (String × BalanceUpdate)} (h : Grouped us)
    (r : StockReservation) : Grouped (addUpdate us r) := by
  rw [addUpdate]
  dsimp only
  split
  · constructor
    · intro u hu
      obtain ⟨v, hv, rfl⟩ := List.mem_map.mp hu
      by_cases hkey : v.1 = balanceKey r.productId r.locationId
      · simpa [hkey] using hkey ▸ h.keys v hv
      · simpa [hkey] using h.keys v hv
    · have hkeys : (us.map fun u => if u.1 = balanceKey r.productId r.locationId then
          (u.1, { u.2 with quantity := u.2.quantity + r.quantity }) else u).map Prod.fst =
          us.map Prod.fst := by
        rw [List.map_map]
        refine List.map_congr_left fun u _ => ?_
        by_cases hkey : u.1 = balanceKey r.productId r.locationId <;> simp [hkey]
      rw [hkeys]
      exact h.nodup
  · next hnone =>
    constructor
    · intro u hu
      rcases List.mem_append.mp hu with hu | hu
      · exact h.keys u hu
      · obtain rfl := List.mem_singleton.mp hu
        rfl
    · rw [List.map_append, List.map_singleton]
      refine h.nodup.append (List.nodup_singleton _) ?_
      rw [List.disjoint_singleton]
      exact fun hmem => hnone (any_key_iff.mpr hmem)

theorem releasedAt_addUpdate {us : List (String × BalanceUpdate)} (h : Grouped us)
    (r : StockReservation) :
    releasedAt ((addUpdate us r).map Prod.snd) p l = releasedAt (us.map Prod.snd) p l +
      if r.productId = p ∧ r.locationId = l then r.quantity else 0 := by
  rw [addUpdate]
  dsimp only
  split
  · next hkey => exact releasedAt_increment h (any_key_iff.mp hkey)
  · simp [releasedAt]

/-- The grouping loses nothing: at every place the updates give back what the reservations
hold. -/
theorem releasedAt_foldl_addUpdate (rs : List StockReservation) :
    releasedAt ((rs.foldl addUpdate []).map Prod.snd) p l = heldAt rs p l := by
  have hgeneral : ∀ us, Grouped us → releasedAt ((rs.foldl addUpdate us).map Prod.snd) p l =
      releasedAt (us.map Prod.snd) p l + heldAt rs p l := by
    induction rs with
    | nil => simp [heldAt]
    | cons r rest ih =>
      intro us hus
      rw [List.foldl_cons, ih _ (grouped_addUpdate hus r), releasedAt_addUpdate hus]
      simp only [heldAt, List.map_cons, List.sum_cons]
      omega
  rw [hgeneral [] ⟨by simp, List.nodup_nil⟩]
  simp [releasedAt]

/-- Every update is for the place and the tenant of some reservation. -/
theorem mem_foldl_addUpdate {rs : List StockReservation} {u : String × BalanceUpdate}
    (hu : u ∈ rs.foldl addUpdate []) :
    ∃ r ∈ rs, u.2.productId = r.productId ∧ u.2.locationId = r.locationId ∧
      u.2.tenantId = r.tenantId := by
  have hgeneral : ∀ us, u ∈ rs.foldl addUpdate us →
      (∃ v ∈ us, u.2.productId = v.2.productId ∧ u.2.locationId = v.2.locationId ∧
        u.2.tenantId = v.2.tenantId) ∨
      ∃ r ∈ rs, u.2.productId = r.productId ∧ u.2.locationId = r.locationId ∧
        u.2.tenantId = r.tenantId := by
    clear hu
    induction rs with
    | nil => exact fun us hu => .inl ⟨u, hu, rfl, rfl, rfl⟩
    | cons r rest ih =>
      intro us hu
      rcases ih (addUpdate us r) hu with ⟨v, hv, hplace⟩ | ⟨r', hr', hplace⟩
      · rw [addUpdate] at hv
        dsimp only at hv
        split at hv
        · obtain ⟨w, hw, rfl⟩ := List.mem_map.mp hv
          refine .inl ⟨w, hw, ?_⟩
          by_cases hkey : w.1 = balanceKey r.productId r.locationId <;> simpa [hkey] using hplace
        · rcases List.mem_append.mp hv with hv | hv
          · exact .inl ⟨v, hv, hplace⟩
          · obtain rfl := List.mem_singleton.mp hv
            exact .inr ⟨r, List.mem_cons_self, hplace⟩
      · exact .inr ⟨r', List.mem_cons_of_mem _ hr', hplace⟩
  rcases hgeneral [] hu with ⟨v, hv, _⟩ | h
  · cases hv
  · exact h

/-- Updates for the tenants that own the balances lower each balance by what they name. -/
theorem find?_foldl_releaseQuantity (us : List BalanceUpdate) (s : Store)
    (htenant : ∀ u ∈ us, ∀ b, s.balances.find? (u.productId, u.locationId) = some b →
      b.tenantId = u.tenantId) :
    (us.foldl releaseQuantity s).balances.find? (p, l) =
      (s.balances.find? (p, l)).map fun b =>
        { b with reservedQuantity := b.reservedQuantity - releasedAt us p l } := by
  induction us generalizing s with
  | nil =>
    cases hb : s.balances.find? (p, l) <;> simp [releasedAt, hb]
  | cons u rest ih =>
    have hfind : ∀ k, (releaseQuantity s u).balances.find? k = (s.balances.find? k).map fun b =>
        if k = (u.productId, u.locationId) ∧ b.tenantId = u.tenantId then
          { b with reservedQuantity := b.reservedQuantity - u.quantity } else b := by
      intro k
      simp only [releaseQuantity, Table.find?_modifyWhere, decide_eq_true_eq]
    -- A release changes no tenant, so the next one finds the tenant it names.
    have hstep : ∀ v ∈ rest, ∀ b,
        (releaseQuantity s u).balances.find? (v.productId, v.locationId) = some b →
          b.tenantId = v.tenantId := by
      intro v hv b hb
      rw [hfind] at hb
      obtain ⟨b₀, hb₀, rfl⟩ := Option.map_eq_some_iff.mp hb
      have := htenant v (List.mem_cons_of_mem _ hv) b₀ hb₀
      split <;> exact this
    rw [List.foldl_cons, ih _ hstep, hfind, Option.map_map]
    cases hb : s.balances.find? (p, l) with
    | none => rfl
    | some b =>
      simp only [Option.map_some, Function.comp_apply, releasedAt, List.map_cons, List.sum_cons,
        Option.some.injEq]
      by_cases hpl : u.productId = p ∧ u.locationId = l
      · obtain ⟨rfl, rfl⟩ := hpl
        simp [htenant u List.mem_cons_self b hb, sub_sub]
      · have hne : ¬(p, l) = (u.productId, u.locationId) := fun heq =>
          hpl ⟨(Prod.ext_iff.mp heq).1.symm, (Prod.ext_iff.mp heq).2.symm⟩
        simp [hpl, hne]

/-- The release lowers each balance by what the reservations hold there. -/
theorem find?_releaseReservedQuantities (rs : List StockReservation) (s : Store)
    (htenant : ∀ r ∈ rs, ∀ b, s.balances.find? (r.productId, r.locationId) = some b →
      b.tenantId = r.tenantId) :
    (releaseReservedQuantities rs s).balances.find? (p, l) =
      (s.balances.find? (p, l)).map fun b =>
        { b with reservedQuantity := b.reservedQuantity - heldAt rs p l } := by
  rw [releaseReservedQuantities, find?_foldl_releaseQuantity, releasedAt_foldl_addUpdate]
  intro u hu b hb
  obtain ⟨v, hv, rfl⟩ := List.mem_map.mp hu
  obtain ⟨r, hr, hp, hl, ht⟩ := mem_foldl_addUpdate hv
  rw [ht]
  exact htenant r hr b (hp ▸ hl ▸ hb)

/-- The release writes nothing but balances. -/
theorem releaseReservedQuantities_eq (rs : List StockReservation) (s : Store) :
    releaseReservedQuantities rs s =
      { s with balances := (releaseReservedQuantities rs s).balances } := by
  have hfold : ∀ (us : List BalanceUpdate) (s : Store), us.foldl releaseQuantity s =
      { s with balances := (us.foldl releaseQuantity s).balances } := by
    intro us
    induction us with
    | nil => exact fun _ => rfl
    | cons u rest ih =>
      intro s
      rw [List.foldl_cons, ih (releaseQuantity s u)]
      rfl
  exact hfold _ s

end Grouping
end Invetrixa
