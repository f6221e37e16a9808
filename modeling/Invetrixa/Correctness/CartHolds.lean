import Invetrixa.Correctness.Honoured
import Invetrixa.Refinement.SaleAmounts

/-!
# What is held for a cart

Adding an item reserves first, removing one releases, and only then is the item written, in a
transaction that refuses amounts too large for their columns and notes the column cannot hold: the
reservation made or given up before stays so. An update releases what it held before it asks for
the new quantity, so the cart stands uncovered when that is refused as well.

## Main definitions

- `CartsCovered` — each cart has what is held for it
- `Request.Granted` — an update asks for no more than is free once its own hold is, and what is
  written fits its columns
- `GivenBack` — a store after reservations are released

## Main results

- `givenBack_releaseEach` — the loop of releases
- `carts_covered_iff`, `update_refused_uncovers`
-/

namespace Invetrixa

open Rowstore Requests ReservationService CartService SaleService MovementService TransferService

/-- What a reservation holds of a product for a cart. -/
def StockReservation.heldFor (r : StockReservation) (cartId p : Id) : ℤ :=
  if r.status = .active ∧ r.referenceId = some (.id cartId) ∧ r.productId = p then r.quantity else 0

/-- What the active reservations made for a cart hold of a product. -/
def Store.cartHeld (s : Store) (cartId p : Id) : ℤ :=
  s.reservations.sum fun _ r => r.heldFor cartId p

/-- Of each product a cart has what is held for it. -/
def CartsCovered (s : Store) : Prop :=
  ∀ cartId cart, s.sales.find? cartId = some cart → cart.status = .draft →
    ∀ p, s.cartQty cartId p = s.cartHeld cartId p

/-- The reservation is made for a cart of its tenant, at the location of the cart. -/
def ForCart (s : Store) (r : StockReservation) : Prop :=
  ∃ cartId cart, r.referenceId = some (.id cartId) ∧ r.referenceType = some "SALE" ∧
    s.sales.find? cartId = some cart ∧ cart.tenantId = r.tenantId ∧ cart.locationId = r.locationId

/-- All reservations are made for carts. -/
def Store.HeldForCarts (s : Store) : Prop := s.reservations.All fun _ r => ForCart s r

/-- A quantity of a product that can be reserved for a cart once so much is free that was held. -/
def Reservable (s : Store) (tenantId locationId productId : Id) (freed : ℤ) (quantity : ℚ) : Prop :=
  ((s.products.find? productId).any fun p => p.tenantId = tenantId ∧ p.deletedAt = none) ∧
  (s.locations.find? locationId).map Location.tenantId = some tenantId ∧
  quantity ≤ (s.onHand productId locationId - s.reserved productId locationId + freed : ℤ) ∧
  quantity.den = 1

instance (s : Store) (tenantId locationId productId : Id) (freed : ℤ) (quantity : ℚ) :
    Decidable (Reservable s tenantId locationId productId freed quantity) :=
  inferInstanceAs (Decidable (_ ∧ _))

/-- The totals of a cart fit their columns once its lines come to so much more. -/
def PosTables.TotalsFit (db : Database) (t : PosTables) (cartId : Id) (change : ℚ) : Prop :=
  db.Fits 15 (lineTotals cartId t.saleItems + change) ∧
  db.Fits 15 (lineTotals cartId t.saleItems + change -
    ((t.sales.find? cartId).map Sale.discountAmount).getD 0)

/-- Quantity and total of a line that came to something else before fit their columns, and so do
the totals of its cart. -/
def PosTables.LineFits (db : Database) (t : PosTables) (cartId : Id) (quantity total before : ℚ) :
    Prop :=
  FitsInt quantity.num ∧ db.Fits 15 total ∧ t.TotalsFit db cartId (db.decimal total - before)

/-- A price and a discount fit their columns. -/
def Database.PricesFit (db : Database) (price discount : ℚ) : Prop :=
  db.Fits 15 (db.amount price) ∧ db.Fits 15 (db.amount discount)

/-- What is written of a line that is added fits its columns. -/
def AddFits (db : Database) (t : PosTables) (cartId : Id) (dto : AddCartItemDto)
    (product : Product) : Option (Id × SaleItem) → Prop
  | some (_, item) =>
    t.LineFits db cartId (item.quantity + dto.quantity)
      (db.lineTotal item.unitPrice item.discountAmount (item.quantity + dto.quantity))
      item.lineTotal
  | none =>
    let unitPrice := dto.unitPrice.getD (product.minSellingPrice.getD 0)
    let discountAmount := dto.discountAmount.getD 0
    Storable dto.notes ∧ db.PricesFit unitPrice discountAmount ∧
      t.LineFits db cartId dto.quantity (db.lineTotal unitPrice discountAmount dto.quantity) 0

/-- What is written of a line that is updated fits its columns. -/
def UpdateFits (db : Database) (t : PosTables) (cartId : Id) (dto : UpdateCartItemDto)
    (item : SaleItem) : Prop :=
  let unitPrice := dto.unitPrice.getD item.unitPrice
  let discountAmount := dto.discountAmount.getD item.discountAmount
  Storable dto.notes ∧ db.PricesFit unitPrice discountAmount ∧
    t.LineFits db cartId dto.quantity (db.lineTotal unitPrice discountAmount dto.quantity)
      item.lineTotal

instance (db : Database) (t : PosTables) (cartId : Id) : DecidablePred (t.TotalsFit db cartId) :=
  fun _ => inferInstanceAs (Decidable (_ ∧ _))

instance (db : Database) (t : PosTables) (cartId : Id) (quantity total before : ℚ) :
    Decidable (t.LineFits db cartId quantity total before) := inferInstanceAs (Decidable (_ ∧ _))

instance (db : Database) (price discount : ℚ) : Decidable (db.PricesFit price discount) :=
  inferInstanceAs (Decidable (_ ∧ _))

instance (db : Database) (t : PosTables) (cartId : Id) (dto : AddCartItemDto) (product : Product) :
    DecidablePred (AddFits db t cartId dto product)
  | some _ => inferInstanceAs (Decidable (PosTables.LineFits ..))
  | none => inferInstanceAs (Decidable (_ ∧ _))

instance (db : Database) (t : PosTables) (cartId : Id) (dto : UpdateCartItemDto)
    (item : SaleItem) : Decidable (UpdateFits db t cartId dto item) :=
  inferInstanceAs (Decidable (_ ∧ _))

variable {db : Database} {c : Catalogue} {clock : Clock} {tenantId cartId itemId p l : Id}
  {s s' : Store}

section Releases

/-- The reservation is for one cart at most. -/
theorem cartId_eq {r : StockReservation} {cartId' : Id} (h : r.referenceId = some (.id cartId))
    (h' : r.referenceId = some (.id cartId')) : cartId' = cartId := by
  rw [h] at h'
  injection h' with h'
  injection h' with h'
  exact h'.symm

/-- What is closed holds nothing. -/
theorem heldFor_released (r : StockReservation) (cartId p : Id) :
    StockReservation.heldFor { r with status := .released } cartId p = 0 :=
  if_neg fun h => nomatch h.1

/-- Reservations are released and no longer count as reserved; all else is as it was. -/
structure GivenBack (s s' : Store) (ids : List Id) : Prop where
  wellFormed : WellFormed s'
  reservations : ∀ k, s'.reservations.find? k = (s.reservations.find? k).map fun r =>
    if k ∈ ids then { r with status := .released } else r
  counter : ∀ p l, s'.reserved p l - s'.activeQty p l = s.reserved p l - s.activeQty p l
  onHand : ∀ p l, s'.onHand p l = s.onHand p l
  others : s' = { s with reservations := s'.reservations, balances := s'.balances }

/-- An active reservation of the tenant. -/
def Releasable (s : Store) (tenantId id : Id) : Prop :=
  ∃ r, s.reservations.find? id = some r ∧ r.tenantId = tenantId ∧ r.status = .active

theorem GivenBack.refl (hs : WellFormed s) : GivenBack s s [] := by
  refine ⟨hs, fun k => ?_, fun _ _ => rfl, fun _ _ => rfl, rfl⟩
  simp

theorem GivenBack.cons {s₁ : Store} {id : Id} {ids : List Id} (h : GivenBack s s₁ [id])
    (h' : GivenBack s₁ s' ids) : GivenBack s s' (id :: ids) := by
  refine ⟨h'.wellFormed, fun k => ?_, fun p l => (h'.counter p l).trans (h.counter p l),
    fun p l => (h'.onHand p l).trans (h.onHand p l), ?_⟩
  · rw [h'.reservations, h.reservations, Option.map_map]
    refine congrArg (Option.map · _) (funext fun r => ?_)
    by_cases hk : k = id
    · simp [hk]
    · simp [hk]
  · rw [h'.others, h.others]

/-- An active reservation can be released. -/
theorem givenBack_release (hs : WellFormed s) {id : Id} (h : Releasable s tenantId id) :
    ∃ s', release tenantId id s = .ok ((), s') ∧ GivenBack s s' [id] := by
  obtain ⟨r, hfind, htenant, hactive⟩ := h
  have hread : readRelease tenantId id s = .ok r := by
    simp [readRelease, findReservation, hfind, htenant, hactive, bind, Except.bind, pure,
      Except.pure]
  obtain ⟨b, hb⟩ := Option.isSome_iff_exists.mp (hs.reservations id r hfind).2
  -- the release is one booking, which lowers the status and the reserved quantity together
  have hclose : close id .released r s = .ok ((), book .exact (.amend id
      (fun r => { r with status := .released }) r.productId r.locationId (-r.quantity)) s) := by
    simp [close, updateReservation, incrementReserved, hfind, hb, bind, Except.bind, book, pure,
      Except.pure]
  have hguard : Booking.Guard s (.amend id (fun r => { r with status := .released }) r.productId
      r.locationId (-r.quantity)) :=
    guard_amend hs hfind ⟨rfl, rfl, rfl⟩ (share_close (by decide) hactive)
  refine ⟨_, Except.bind_eq_ok_iff.mpr ⟨r, hread, hclose⟩, wellFormed_book hs hguard, ?_, ?_, ?_,
    rfl⟩
  · intro k
    refine (Table.find?_modify _).trans ?_
    by_cases hk : k = id
    · simp [hk]
    · simp [hk]
  · exact fun p l => reserved_sub_activeQty_book hs hguard trivial
  · intro p l
    refine onHand_of_map (find?_amend id _ r.productId r.locationId (-r.quantity)) fun b => ?_
    split <;> rfl

/-- A loop of releases goes through, if no reservation is named twice. -/
theorem givenBack_releaseEach (hs : WellFormed s) {ids : List Id} (hnodup : ids.Nodup)
    (h : ∀ id ∈ ids, Releasable s tenantId id) :
    ∃ s', releaseEach tenantId ids s = (.ok (), s') ∧ GivenBack s s' ids := by
  induction ids generalizing s with
  | nil => exact ⟨s, rfl, .refl hs⟩
  | cons id rest ih =>
    obtain ⟨hid, hrest⟩ := List.nodup_cons.mp hnodup
    obtain ⟨s₁, hrelease, hfirst⟩ := givenBack_release hs (h id List.mem_cons_self)
    have hstill : ∀ id' ∈ rest, Releasable s₁ tenantId id' := by
      intro id' hid'
      obtain ⟨r, hfind, hr⟩ := h id' (List.mem_cons_of_mem _ hid')
      have hne : id' ≠ id := fun heq => hid (heq ▸ hid')
      refine ⟨r, ?_, hr⟩
      rw [hfirst.reservations, hfind, Option.map_some, if_neg (by simpa using hne)]
    obtain ⟨s₂, hrun, hlater⟩ := ih hfirst.wellFormed hrest hstill
    refine ⟨s₂, ?_, hfirst.cons hlater⟩
    rw [releaseEach, transaction_of_ok hrelease]
    exact hrun

/-- What a cart has reserved of a product can be given back. -/
theorem releaseReservations_ok (hs : WellFormed s) (tenantId cartId productId : Id) :
    ∃ s', releaseReservations tenantId cartId productId s = (.ok (), s') ∧
      GivenBack s s' (CartService.cartReservations tenantId cartId productId s) := by
  apply givenBack_releaseEach hs
  · exact s.reservations.nodup.sublist (List.filter_sublist.map _)
  · intro id hid
    obtain ⟨⟨k, r⟩, hmem, rfl⟩ := List.mem_map.mp hid
    obtain ⟨hrow, hsel⟩ := List.mem_filter.mp hmem
    obtain ⟨hof, htenant, _⟩ := of_decide_eq_true hsel
    obtain ⟨_, _, hactive⟩ := of_decide_eq_true hof
    exact ⟨r, Table.find?_of_mem_rows hrow, htenant, hactive⟩

/-- The reservations of a product at a location that are active for a cart. -/
def AllHeldFor (s : Store) (ids : List Id) (cartId p l : Id) : Prop :=
  ∀ id ∈ ids, ∃ r, s.reservations.find? id = some r ∧ r.status = .active ∧
    r.referenceId = some (.id cartId) ∧ r.productId = p ∧ r.locationId = l

/-- The reserved quantity of the location falls with what is held for the cart. -/
theorem GivenBack.counter_cartHeld {ids : List Id} (h : GivenBack s s' ids)
    (hids : AllHeldFor s ids cartId p l) :
    s'.reserved p l - s'.cartHeld cartId p = s.reserved p l - s.cartHeld cartId p := by
  have hcounter := h.counter p l
  have hsums : s'.activeQty p l + s.cartHeld cartId p =
      s.activeQty p l + s'.cartHeld cartId p := by
    rw [activeQty_eq_sum_share, activeQty_eq_sum_share, Store.cartHeld, Store.cartHeld,
      Table.sum_of_find? h.reservations, Table.sum_of_find? h.reservations, ← Table.sum_add,
      ← Table.sum_add]
    refine Table.sum_congr fun k r hr => ?_
    by_cases hk : k ∈ ids
    · obtain ⟨r', hr', hactive, href, hproduct, hlocation⟩ := hids k hk
      obtain rfl := Option.some.inj (hr.symm.trans hr')
      simp [StockReservation.share, StockReservation.heldFor, hk, hactive, href, hproduct,
        hlocation]
    · simp [hk]
  omega

/-- What is held for other carts, or of other products, stays. -/
theorem GivenBack.cartHeld_of_ne {ids : List Id} (h : GivenBack s s' ids)
    (hids : AllHeldFor s ids cartId p l) {cartId' p' : Id} (hne : ¬(cartId' = cartId ∧ p' = p)) :
    s'.cartHeld cartId' p' = s.cartHeld cartId' p' := by
  refine (Table.sum_of_find? h.reservations _).trans (Table.sum_congr fun k r hr => ?_)
  by_cases hk : k ∈ ids
  · obtain ⟨r', hr', hactive, href, hproduct, _⟩ := hids k hk
    obtain rfl := Option.some.inj (hr.symm.trans hr')
    have hother : r.heldFor cartId' p' = 0 :=
      if_neg fun ⟨_, href', hproduct'⟩ => hne ⟨cartId_eq href href', hproduct'.symm.trans hproduct⟩
    rw [if_pos hk, heldFor_released, hother]
  · rw [if_neg hk]

/-- Nothing is held any more once all reservations of the cart are released. -/
theorem GivenBack.cartHeld_eq_zero {ids : List Id} (h : GivenBack s s' ids)
    (hall : ∀ k r, s.reservations.find? k = some r → r.status = .active →
      r.referenceId = some (.id cartId) → r.productId = p → k ∈ ids) :
    s'.cartHeld cartId p = 0 := by
  refine (Table.sum_of_find? h.reservations _).trans (Table.sum_eq_zero fun k r hr => ?_)
  by_cases hk : k ∈ ids
  · rw [if_pos hk, heldFor_released]
  · rw [if_neg hk]
    exact if_neg fun ⟨hactive, href, hproduct⟩ => hk (hall k r hr hactive href hproduct)

/-- The store once a cart has given up what it holds of a product at its location. -/
structure GivenUp (s s' : Store) (cartId p l : Id) : Prop where
  given : ∃ ids, GivenBack s s' ids
  held : s'.cartHeld cartId p = 0
  reserved : s'.reserved p l = s.reserved p l - s.cartHeld cartId p
  others : ∀ cartId' p', ¬(cartId' = cartId ∧ p' = p) →
    s'.cartHeld cartId' p' = s.cartHeld cartId' p'

/-- Where all reservations are made for carts, a cart gives up all that it holds of a product. -/
theorem GivenBack.givenUp (hours : s.HeldForCarts) {cart : Sale}
    (hfind : s.sales.find? cartId = some cart) (htenant : cart.tenantId = tenantId)
    (h : GivenBack s s' (CartService.cartReservations tenantId cartId p s)) :
    GivenUp s s' cartId p cart.locationId := by
  have hids : AllHeldFor s (CartService.cartReservations tenantId cartId p s) cartId p
      cart.locationId := by
    intro id hid
    obtain ⟨⟨k, r⟩, hmem, rfl⟩ := List.mem_map.mp hid
    obtain ⟨hrow, hsel⟩ := List.mem_filter.mp hmem
    obtain ⟨hof, _, hp⟩ := of_decide_eq_true hsel
    obtain ⟨href, _, hactive⟩ := of_decide_eq_true hof
    obtain ⟨cartId', cart', href', _, hfind', _, hlocation⟩ :=
      hours k r (Table.find?_of_mem_rows hrow)
    obtain rfl := cartId_eq href href'
    obtain rfl := Option.some.inj (hfind.symm.trans hfind')
    exact ⟨r, Table.find?_of_mem_rows hrow, hactive, href, hp, hlocation.symm⟩
  have hheld : s'.cartHeld cartId p = 0 := by
    refine h.cartHeld_eq_zero fun k r hr hactive href hp => ?_
    obtain ⟨cartId', cart', href', htype, hfind', ht, _⟩ := hours k r hr
    obtain rfl := cartId_eq href href'
    obtain rfl := Option.some.inj (hfind.symm.trans hfind')
    refine List.mem_map.mpr ⟨(k, r), List.mem_filter.mpr ⟨Table.mem_rows_of_find? hr, ?_⟩, rfl⟩
    exact decide_eq_true ⟨decide_eq_true ⟨href, htype, hactive⟩, ht.symm.trans htenant, hp⟩
  have hcounter := h.counter_cartHeld hids
  exact ⟨⟨_, h⟩, hheld, by omega, fun _ _ hne => h.cartHeld_of_ne hids hne⟩

/-- What was held is free now, and nothing else has changed that a reservation depends on. -/
theorem GivenUp.reservable_iff {l : Id} {quantity : ℚ} (h : GivenUp s s' cartId p l) :
    Reservable s' tenantId l p 0 quantity ↔
      Reservable s tenantId l p (s.cartHeld cartId p) quantity := by
  obtain ⟨ids, hgiven⟩ := h.given
  have hfree : s'.onHand p l - s'.reserved p l + 0 =
      s.onHand p l - s.reserved p l + s.cartHeld cartId p := by
    rw [hgiven.onHand, h.reserved]
    omega
  have hproducts : s'.products = s.products := by rw [hgiven.others]
  have hlocations : s'.locations = s.locations := by rw [hgiven.others]
  rw [Reservable, Reservable, hfree, hproducts, hlocations]

end Releases

section Grants

variable {productId locationId : Id} {quantity : ℚ}

/-- A cart's reservation is granted exactly if the product and the location are the tenant's, and
a whole quantity is asked for that is available. -/
theorem create_isOk_iff :
    (∃ r, ReservationService.create clock tenantId
      (cartReservation clock cartId locationId productId quantity) s = .ok r) ↔
    Reservable s tenantId locationId productId 0 quantity := by
  have hexpiry : clock.time < clock.time + 30 * 60 * 1000 := Nat.lt_add_of_pos_right (by decide)
  rw [Reservable, add_zero]
  constructor
  · rintro ⟨⟨id, s'⟩, hok⟩
    obtain ⟨_, hok, hcommit⟩ := Except.bind_eq_ok_iff.mp hok
    obtain ⟨q, hint, _⟩ := Except.bind_eq_ok_iff.mp hcommit
    obtain ⟨hproduct, hlocation, havail, _⟩ := readCreate_eq_ok_iff.mp hok
    refine ⟨hproduct, hlocation, havail, ?_⟩
    rw [show quantity = q from intColumn_ok hint]
    rfl
  · rintro ⟨hproduct, hlocation, havail, hden⟩
    exact ⟨_, Except.bind_eq_ok_iff.mpr
      ⟨(), readCreate_eq_ok_iff.mpr ⟨hproduct, hlocation, havail, hexpiry⟩,
        Except.bind_eq_ok_iff.mpr ⟨quantity.num, if_pos hden, rfl⟩⟩⟩

/-- A granted reservation is of the quantity that was asked for. -/
theorem create_ok {id : Id} (h : ReservationService.create clock tenantId
    (cartReservation clock cartId locationId productId quantity) s = .ok (id, s')) :
    ∃ q : ℤ, quantity = q ∧ s' = reserve (newReservation tenantId
      (cartReservation clock cartId locationId productId quantity) q) s := by
  obtain ⟨_, _, h⟩ := Except.bind_eq_ok_iff.mp h
  obtain ⟨q, hint, h⟩ := Except.bind_eq_ok_iff.mp h
  exact ⟨q, intColumn_ok hint, (congrArg Prod.snd (Except.ok.inj h)).symm⟩

/-- The reservation of a quantity for a cart. -/
abbrev heldRow (clock : Clock) (cart : Sale) (cartId productId : Id) (q : ℤ) : StockReservation :=
  newReservation cart.tenantId (cartReservation clock cartId cart.locationId productId q) q

theorem cartHeld_create {cart : Sale} {q : ℤ}
    (h : s'.reservations = s.reservations.create (heldRow clock cart cartId productId q))
    (cartId' p : Id) : s'.cartHeld cartId' p =
      s.cartHeld cartId' p + if cartId = cartId' ∧ productId = p then q else 0 := by
  rw [Store.cartHeld, h]
  refine (Serial.sum_create _ _).trans (congrArg (s.cartHeld cartId' p + ·) ?_)
  refine if_congr ⟨?_, ?_⟩ rfl rfl
  · rintro ⟨_, href, rfl⟩
    injection href with href
    injection href with href
    exact ⟨href, rfl⟩
  · rintro ⟨rfl, rfl⟩
    exact ⟨rfl, rfl, rfl⟩

end Grants

section Items

variable {items : Serial SaleItem} {i : SaleItem}

/-- What items come to for a sale and a product. -/
def itemQty (items : Serial SaleItem) (saleId p : Id) : ℤ :=
  items.sum fun _ i => if i.saleId = saleId ∧ i.productId = p then i.quantity else 0

theorem cartQty_eq (s : Store) (saleId p : Id) :
    s.cartQty saleId p = itemQty s.saleItems saleId p := by
  refine (Table.sum_filter (fun r => decide (r.2.saleId = saleId)) fun _ (i : SaleItem) =>
    if i.productId = p then i.quantity else 0).trans ?_
  refine Table.sum_congr fun _ (i : SaleItem) _ => ?_
  rw [ite_and]
  simp only [decide_eq_true_eq]

theorem itemQty_create (i : SaleItem) (saleId p : Id) :
    itemQty (items.create i) saleId p =
      itemQty items saleId p + if i.saleId = saleId ∧ i.productId = p then i.quantity else 0 :=
  Serial.sum_create _ _

theorem itemQty_modify (hfind : items.find? itemId = some i) {f : SaleItem → SaleItem}
    (hsale : (f i).saleId = i.saleId) (hproduct : (f i).productId = i.productId) (saleId p : Id) :
    itemQty (items.modify itemId f) saleId p = itemQty items saleId p +
      if i.saleId = saleId ∧ i.productId = p then (f i).quantity - i.quantity else 0 := by
  refine (Table.sum_modify hfind f _).trans ?_
  rw [hsale, hproduct]
  show itemQty items saleId p - _ + _ = _
  split
  · omega
  · omega

theorem itemQty_delete (hfind : items.find? itemId = some i) (saleId p : Id) :
    itemQty (items.deleteWhere fun k _ => k = itemId) saleId p = itemQty items saleId p -
      if i.saleId = saleId ∧ i.productId = p then i.quantity else 0 := by
  exact Table.sum_delete hfind _

/-- The one item of a product in a cart is all there is of it. -/
theorem itemQty_of_distinct (h : s.pos.CartsDistinct) (hfind : s.saleItems.find? itemId = some i)
    (hdraft : s.pos.Draft i.saleId) : itemQty s.saleItems i.saleId i.productId = i.quantity := by
  have hkey : itemQty s.saleItems i.saleId i.productId =
      s.saleItems.sum fun k j => if k = itemId then j.quantity else 0 := by
    refine Table.sum_congr fun k j hj => if_congr ⟨fun hsame => ?_, ?_⟩ rfl rfl
    · exact h k j itemId i hj hfind (hsame.1 ▸ hdraft) hsame.1 hsame.2
    · rintro rfl
      obtain rfl := Option.some.inj (hj.symm.trans hfind)
      exact ⟨rfl, rfl⟩
  rw [hkey, Table.sum_ite_key hfind fun _ j => j.quantity]

end Items

section Writes

variable {cart : Sale} {item : SaleItem}

theorem updateSaleItem_eq (h : s.saleItems.find? itemId = some item) (f : SaleItem → SaleItem) :
    updateSaleItem itemId f s = .ok { s with saleItems := s.saleItems.modify itemId f } := by
  rw [updateSaleItem, h]

theorem createSaleItem_eq (h : s.sales.find? item.saleId = some cart) :
    createSaleItem item s = .ok { s with saleItems := s.saleItems.create item } := by
  rw [createSaleItem, h]

theorem deleteSaleItem_eq (h : s.saleItems.find? itemId = some item) :
    deleteSaleItem itemId s =
      .ok { s with saleItems := s.saleItems.deleteWhere fun k _ => k = itemId } := by
  rw [deleteSaleItem, h]

/-- The totals of a cart are written exactly if they fit, by what its lines come to more. -/
theorem recalculateCart_isOk_iff (h : s.sales.find? cartId = some cart)
    {saleItems : Serial SaleItem} {change : ℚ}
    (hchange : lineTotals cartId saleItems = lineTotals cartId s.saleItems + change) :
    (∃ s', recalculateCart db cartId { s with saleItems } = .ok s') ↔
      s.pos.TotalsFit db cartId change := by
  have hsum : ((Store.itemsOf { s with saleItems } cartId).map fun r => r.2.lineTotal).sum =
      lineTotals cartId s.saleItems + change := hchange
  constructor
  · rintro ⟨s', hok⟩
    obtain ⟨hsubtotal, htotal, _⟩ := recalculateCart_eq_ok_iff.mp hok
    rw [hsum] at hsubtotal htotal
    rw [add_zero] at htotal
    exact ⟨hsubtotal, htotal⟩
  · rintro ⟨hsubtotal, htotal⟩
    have hwrite (f : Sale → Sale) : updateSale cartId f { s with saleItems } =
        .ok { s with saleItems, sales := s.sales.modify cartId f } := by
      rw [updateSale]
      dsimp only
      rw [h]
    refine ⟨_, recalculateCart_eq_ok_iff.mpr ⟨?_, ?_, hwrite _⟩⟩
    · rw [hsum]
      exact hsubtotal
    · rw [hsum, add_zero]
      exact htotal

/-- A value that a column is asked to keep, before what follows. -/
theorem decimalColumn_bind_isOk_iff {digits : ℕ} {x : ℚ}
    {f : ℚ → Except HttpError (Unit × Store)} :
    (∃ s', (db.decimalColumn digits x >>= f) = .ok ((), s')) ↔
      db.Fits digits x ∧ ∃ s', f (db.decimal x) = .ok ((), s') := by
  constructor
  · rintro ⟨s', hok⟩
    obtain ⟨y, hcolumn, hok⟩ := Except.bind_eq_ok_iff.mp hok
    obtain ⟨rfl, hfits⟩ := Database.decimalColumn_eq_ok_iff.mp hcolumn
    exact ⟨hfits, s', hok⟩
  · rintro ⟨hfits, s', hok⟩
    exact ⟨s', Except.bind_eq_ok_iff.mpr
      ⟨_, Database.decimalColumn_eq_ok_iff.mpr ⟨rfl, hfits⟩, hok⟩⟩

theorem int4Column_bind_isOk_iff {x : ℚ} {n : ℤ} (hx : x = n)
    {f : ℤ → Except HttpError (Unit × Store)} :
    (∃ s', (int4Column x >>= f) = .ok ((), s')) ↔ FitsInt x.num ∧ ∃ s', f n = .ok ((), s') := by
  obtain rfl := hx
  constructor
  · rintro ⟨s', hok⟩
    obtain ⟨m, hcolumn, hok⟩ := Except.bind_eq_ok_iff.mp hok
    obtain ⟨hsame, hfits⟩ := int4Column_eq_ok_iff.mp hcolumn
    obtain rfl : n = m := Int.cast_injective hsame
    exact ⟨hfits, s', hok⟩
  · rintro ⟨hfits, s', hok⟩
    exact ⟨s', Except.bind_eq_ok_iff.mpr ⟨n, int4Column_eq_ok_iff.mpr ⟨rfl, hfits⟩, hok⟩⟩

theorem textColumn_bind_isOk_iff {text : Option String}
    {f : Option String → Except HttpError (Unit × Store)} :
    (∃ s', (textColumn text >>= f) = .ok ((), s')) ↔ Storable text ∧ ∃ s', f text = .ok ((), s') := by
  constructor
  · rintro ⟨s', hok⟩
    obtain ⟨kept, hcolumn, hwrite⟩ := Except.bind_eq_ok_iff.mp hok
    obtain ⟨rfl, hstorable⟩ := textColumn_eq_ok_iff.mp hcolumn
    exact ⟨hstorable, s', hwrite⟩
  · rintro ⟨hstorable, s', hok⟩
    exact ⟨s', Except.bind_eq_ok_iff.mpr ⟨_, textColumn_eq_ok_iff.mpr ⟨rfl, hstorable⟩, hok⟩⟩

/-- An item that is written, and the totals after it. -/
theorem writeItem_isOk_iff {write : Except HttpError Store} {saleItems : Serial SaleItem}
    (hwrite : write = .ok { s with saleItems }) (hcart : s.sales.find? cartId = some cart)
    {change : ℚ}
    (hchange : lineTotals cartId saleItems = lineTotals cartId s.saleItems + change) :
    (∃ s', (do
      let s ← write
      let s ← recalculateCart db cartId s
      return ((), s)) = .ok ((), s')) ↔ s.pos.TotalsFit db cartId change := by
  rw [← recalculateCart_isOk_iff hcart hchange, hwrite]
  constructor
  · rintro ⟨s', hok⟩
    obtain ⟨s₁, hs₁, hok⟩ := Except.bind_eq_ok_iff.mp hok
    obtain rfl := Except.ok.inj hs₁
    obtain ⟨s₂, hrecalc, _⟩ := Except.bind_eq_ok_iff.mp hok
    exact ⟨s₂, hrecalc⟩
  · rintro ⟨s₂, hrecalc⟩
    exact ⟨s₂, Except.bind_eq_ok_iff.mpr
      ⟨_, rfl, Except.bind_eq_ok_iff.mpr ⟨s₂, hrecalc, rfl⟩⟩⟩

/-- The last transaction of `addItem` goes through exactly if what it writes fits. -/
theorem commitAddItem_isOk_iff (db : Database) {dto : AddCartItemDto} (product : Product) {q : ℤ}
    (hq : dto.quantity = q) (hcart : s.sales.find? cartId = some cart) :
    (∃ s', commitAddItem db cartId dto product (findExistingItem cartId dto.productId s) s =
      .ok ((), s')) ↔
    AddFits db s.pos cartId dto product (findExistingItem cartId dto.productId s) := by
  cases hexisting : findExistingItem cartId dto.productId s with
  | some r =>
    obtain ⟨itemId, item⟩ := r
    obtain ⟨hitem, hsale⟩ := findExistingItem_eq_some hexisting
    have hsum : (item.quantity : ℚ) + dto.quantity = ((item.quantity + q : ℤ) : ℚ) := by
      rw [hq]
      push_cast
      rfl
    simp only [commitAddItem]
    rw [int4Column_bind_isOk_iff hsum, decimalColumn_bind_isOk_iff,
      writeItem_isOk_iff (updateSaleItem_eq hitem _) hcart (lineTotals_modify hitem hsale rfl)]
    rfl
  | none =>
    simp only [commitAddItem]
    rw [int4Column_bind_isOk_iff hq, decimalColumn_bind_isOk_iff, decimalColumn_bind_isOk_iff,
      decimalColumn_bind_isOk_iff, textColumn_bind_isOk_iff,
      writeItem_isOk_iff (createSaleItem_eq hcart) hcart (lineTotals_create rfl), AddFits,
      Database.PricesFit, PosTables.LineFits, sub_zero]
    tauto

/-- The last transaction of `updateItem` goes through exactly if what it writes fits. -/
theorem commitUpdateItem_isOk_iff (db : Database) {dto : UpdateCartItemDto} {q : ℤ}
    (hq : dto.quantity = q) (hcart : s.sales.find? cartId = some cart)
    (hitem : s.saleItems.find? itemId = some item) (hsale : item.saleId = cartId) :
    (∃ s', commitUpdateItem db cartId itemId dto item s = .ok ((), s')) ↔
      UpdateFits db s.pos cartId dto item := by
  simp only [commitUpdateItem]
  rw [int4Column_bind_isOk_iff hq, decimalColumn_bind_isOk_iff, decimalColumn_bind_isOk_iff,
    decimalColumn_bind_isOk_iff, textColumn_bind_isOk_iff,
    writeItem_isOk_iff (updateSaleItem_eq hitem _) hcart (lineTotals_modify hitem hsale rfl),
    UpdateFits, Database.PricesFit, PosTables.LineFits]
  tauto

/-- The last transaction of `removeItem` goes through exactly if what it writes fits. -/
theorem commitRemoveItem_isOk_iff (db : Database) (hcart : s.sales.find? cartId = some cart)
    (hitem : s.saleItems.find? itemId = some item) (hsale : item.saleId = cartId) :
    (∃ s', commitRemoveItem db cartId itemId s = .ok ((), s')) ↔
      s.pos.TotalsFit db cartId (-item.lineTotal) := by
  simp only [commitRemoveItem]
  rw [writeItem_isOk_iff (deleteSaleItem_eq hitem) hcart (lineTotals_delete hitem hsale)]

end Writes

section Outcomes

/-- Items and reservations stay. -/
structure Untouched (s s' : Store) : Prop where
  items : s'.saleItems = s.saleItems
  reservations : s'.reservations = s.reservations

/-- What holds of the stores that cart requests meet. -/
structure CartsHeld (s : Store) : Prop where
  wellFormed : WellFormed s
  distinct : s.pos.CartsDistinct
  ours : s.HeldForCarts
  covered : CartsCovered s

/-- A transaction goes through or leaves its store. -/
theorem transaction_outcome {f : Store → Except HttpError (Unit × Store)} {fits : Prop}
    (h : (∃ s', f s = .ok ((), s')) ↔ fits) :
    (¬fits ∧ ∃ e, transaction f s = (.error e, s)) ∨
      (fits ∧ ∃ s', f s = .ok ((), s') ∧ transaction f s = (.ok (), s')) := by
  cases hf : f s with
  | error e =>
    refine .inl ⟨fun hfits => ?_, e, transaction_of_error hf⟩
    obtain ⟨s', hok⟩ := h.mpr hfits
    cases hf.symm.trans hok
  | ok x => exact .inr ⟨h.mp ⟨x.2, hf⟩, x.2, rfl, transaction_of_ok hf⟩

/-- An item that is added is reserved if it can be, and written then if it fits. -/
theorem addItem_outcome (db : Database) (clock : Clock) {dto : AddCartItemDto} {cart : Sale}
    {product : Product}
    (hread : readAddItem tenantId cartId dto s = .ok (cart, product)) :
    (¬Reservable s tenantId cart.locationId dto.productId 0 dto.quantity ∧
      ∃ e, addItem db clock tenantId cartId dto s = (.error e, s)) ∨
    (Reservable s tenantId cart.locationId dto.productId 0 dto.quantity ∧
      ∃ q : ℤ, dto.quantity = q ∧
      ((¬AddFits db s.pos cartId dto product (findExistingItem cartId dto.productId s) ∧
        ∃ e, addItem db clock tenantId cartId dto s =
          (.error e, reserve (heldRow clock cart cartId dto.productId q) s)) ∨
      (AddFits db s.pos cartId dto product (findExistingItem cartId dto.productId s) ∧
        ∃ s', addItem db clock tenantId cartId dto s = (.ok (), s') ∧
          s'.reservations =
            s.reservations.create (heldRow clock cart cartId dto.productId q)))) := by
  obtain ⟨⟨hcart, htenant, _⟩, _⟩ := readAddItem_ok hread
  have hiff := @create_isOk_iff clock tenantId cartId s dto.productId cart.locationId dto.quantity
  rw [addItem, hread]
  dsimp only
  cases hcreate : ReservationService.create clock tenantId
      (cartReservation clock cartId cart.locationId dto.productId dto.quantity) s with
  | error e =>
    rw [transaction_of_error hcreate]
    refine .inl ⟨fun hreservable => ?_, e, rfl⟩
    obtain ⟨r, hr⟩ := hiff.mpr hreservable
    cases hcreate.symm.trans hr
  | ok x =>
    have hreservable := hiff.mp ⟨x, hcreate⟩
    obtain ⟨id, s₁⟩ := x
    obtain ⟨q, hq, hs₁⟩ := create_ok hcreate
    rw [transaction_of_ok hcreate]
    replace hs₁ : s₁ = reserve (heldRow clock cart cartId dto.productId q) s := by
      rw [hs₁, hq, heldRow, htenant]
    subst hs₁
    refine .inr ⟨hreservable, q, hq, ?_⟩
    obtain ⟨hno, hrun⟩ | ⟨hfits, s', hcommit, hrun⟩ := transaction_outcome
      (commitAddItem_isOk_iff db product hq
        (show (reserve (heldRow clock cart cartId dto.productId q) s).sales.find? cartId =
          some cart from hcart))
    · exact .inl ⟨hno, hrun⟩
    · exact .inr ⟨hfits, s', hrun, (gains_commitAddItem hcommit).reservations⟩

/-- An update gives up what the cart holds of the product, reserves the new quantity if it can be
then, and writes the item if it fits. -/
theorem updateItem_outcome (db : Database) (clock : Clock) (hs : WellFormed s)
    {dto : UpdateCartItemDto} {cart : Sale} {item : SaleItem}
    (hread : readUpdateItem tenantId cartId itemId s = .ok (cart, item)) :
    ∃ s₁, GivenBack s s₁ (CartService.cartReservations tenantId cartId item.productId s) ∧
      ((¬Reservable s₁ tenantId cart.locationId item.productId 0 dto.quantity ∧
        ∃ e, updateItem db clock tenantId cartId itemId dto s = (.error e, s₁)) ∨
      (Reservable s₁ tenantId cart.locationId item.productId 0 dto.quantity ∧
        ∃ q : ℤ, dto.quantity = q ∧
        ((¬UpdateFits db s.pos cartId dto item ∧
          ∃ e, updateItem db clock tenantId cartId itemId dto s =
            (.error e, reserve (heldRow clock cart cartId item.productId q) s₁)) ∨
        (UpdateFits db s.pos cartId dto item ∧
          ∃ s', updateItem db clock tenantId cartId itemId dto s = (.ok (), s') ∧
            s'.reservations =
              s₁.reservations.create (heldRow clock cart cartId item.productId q))))) := by
  obtain ⟨hitem, hsale, hcart, htenant, _⟩ := readUpdateItem_ok hread
  obtain ⟨s₁, hrelease, hgiven⟩ := releaseReservations_ok hs tenantId cartId item.productId
  have hpos : s₁.pos = s.pos := by
    rw [hgiven.others]
    rfl
  refine ⟨s₁, hgiven, ?_⟩
  have hiff := @create_isOk_iff clock tenantId cartId s₁ item.productId cart.locationId dto.quantity
  rw [updateItem, hread]
  dsimp only
  rw [hrelease]
  dsimp only
  cases hcreate : ReservationService.create clock tenantId
      (cartReservation clock cartId cart.locationId item.productId dto.quantity) s₁ with
  | error e =>
    rw [transaction_of_error hcreate]
    refine .inl ⟨fun hreservable => ?_, e, rfl⟩
    obtain ⟨r, hr⟩ := hiff.mpr hreservable
    cases hcreate.symm.trans hr
  | ok x =>
    have hreservable := hiff.mp ⟨x, hcreate⟩
    obtain ⟨id, s₂⟩ := x
    obtain ⟨q, hq, hs₂⟩ := create_ok hcreate
    rw [transaction_of_ok hcreate]
    replace hs₂ : s₂ = reserve (heldRow clock cart cartId item.productId q) s₁ := by
      rw [hs₂, hq, heldRow, htenant]
    subst hs₂
    refine .inr ⟨hreservable, q, hq, ?_⟩
    have hcart₂ : (reserve (heldRow clock cart cartId item.productId q) s₁).sales.find? cartId =
        some cart := (congrArg (fun t : PosTables => t.sales.find? cartId) hpos).trans hcart
    have hitem₂ : (reserve (heldRow clock cart cartId item.productId q) s₁).saleItems.find? itemId =
        some item := (congrArg (fun t : PosTables => t.saleItems.find? itemId) hpos).trans hitem
    have hcommits := commitUpdateItem_isOk_iff db hq hcart₂ hitem₂ hsale
    rw [show (reserve (heldRow clock cart cartId item.productId q) s₁).pos = s.pos from hpos]
      at hcommits
    obtain ⟨hno, hrun⟩ | ⟨hfits, s', hcommit, hrun⟩ := transaction_outcome hcommits
    · exact .inl ⟨hno, hrun⟩
    · exact .inr ⟨hfits, s', hrun, (gains_commitUpdateItem hcommit).reservations⟩

/-- A removal gives up what the cart holds of the product, and deletes the item if the totals
without it fit. -/
theorem removeItem_outcome (db : Database) (hs : WellFormed s) {item : SaleItem}
    (hread : readRemoveItem tenantId cartId itemId s = .ok item) :
    ∃ s₁, GivenBack s s₁ (CartService.cartReservations tenantId cartId item.productId s) ∧
      ((¬s.pos.TotalsFit db cartId (-item.lineTotal) ∧
        ∃ e, removeItem db tenantId cartId itemId s = (.error e, s₁)) ∨
      (s.pos.TotalsFit db cartId (-item.lineTotal) ∧
        ∃ s', removeItem db tenantId cartId itemId s = (.ok (), s') ∧
          s'.reservations = s₁.reservations)) := by
  obtain ⟨hitem, hsale, cart, hcart, _⟩ := readRemoveItem_ok hread
  obtain ⟨s₁, hrelease, hgiven⟩ := releaseReservations_ok hs tenantId cartId item.productId
  have hpos : s₁.pos = s.pos := by
    rw [hgiven.others]
    rfl
  have hcommits := commitRemoveItem_isOk_iff db (s := s₁)
    ((congrArg (fun t : PosTables => t.sales.find? cartId) hpos).trans hcart)
    ((congrArg (fun t : PosTables => t.saleItems.find? itemId) hpos).trans hitem) hsale
  rw [hpos] at hcommits
  refine ⟨s₁, hgiven, ?_⟩
  rw [removeItem, hread]
  dsimp only
  rw [hrelease]
  obtain ⟨hno, hrun⟩ | ⟨hfits, s', hcommit, hrun⟩ := transaction_outcome hcommits
  · exact .inl ⟨hno, hrun⟩
  · exact .inr ⟨hfits, s', hrun, (gains_commitRemoveItem hcommit).reservations⟩

end Outcomes

section Steps

variable {cart : Sale} {items : Serial SaleItem} {call : Call}

/-- Reservations stay those of carts while the sales keep their tenant and location. -/
theorem ForCart.mono {r : StockReservation} (h : ForCart s r)
    (hsales : ∀ id sale, s.sales.find? id = some sale → ∃ sale', s'.sales.find? id = some sale' ∧
      sale'.tenantId = sale.tenantId ∧ sale'.locationId = sale.locationId) : ForCart s' r := by
  obtain ⟨cartId, cart, href, htype, hfind, htenant, hlocation⟩ := h
  obtain ⟨cart', hfind', ht, hl⟩ := hsales cartId cart hfind
  exact ⟨cartId, cart', href, htype, hfind', ht.trans htenant, hl.trans hlocation⟩

theorem sales_recalculated (hpos : s'.pos = s.recalculated db cartId cart items) (id : Id)
    (sale : Sale) (hfind : s.sales.find? id = some sale) :
    ∃ sale', s'.sales.find? id = some sale' ∧ sale'.tenantId = sale.tenantId ∧
      sale'.locationId = sale.locationId ∧ sale'.status = sale.status := by
  have hsales : s'.sales = _ := congrArg PosTables.sales hpos
  rw [hsales]
  by_cases hid : id = cartId
  · rw [hid] at hfind ⊢
    exact ⟨_, Serial.find?_modify_of_some hfind _, rfl, rfl, rfl⟩
  · refine ⟨sale, (Table.find?_modify _).trans ?_, rfl, rfl, rfl⟩
    rw [if_neg hid]
    exact hfind

theorem forCart_recalculated (hpos : s'.pos = s.recalculated db cartId cart items)
    {r : StockReservation} (h : ForCart s r) : ForCart s' r := by
  refine h.mono fun id sale hsale => ?_
  obtain ⟨sale', hsale', ht, hl, _⟩ := sales_recalculated hpos id sale hsale
  exact ⟨sale', hsale', ht, hl⟩

/-- What is reserved for the cart that is edited. -/
theorem forCart_heldRow (hpos : s'.pos = s.recalculated db cartId cart items)
    (hfind : s.sales.find? cartId = some cart) (p : Id) (q : ℤ) :
    ForCart s' (heldRow clock cart cartId p q) := by
  obtain ⟨cart', hcart', ht, hl, _⟩ := sales_recalculated hpos cartId cart hfind
  exact ⟨cartId, cart', rfl, rfl, hcart', ht, hl⟩

/-- An edit that changes items and holds alike keeps carts covered. -/
theorem covered_of_edit (h : CartsCovered s) (hpos : s'.pos = s.recalculated db cartId cart items)
    (hchange : ∀ cartId' p', itemQty items cartId' p' - itemQty s.saleItems cartId' p' =
      s'.cartHeld cartId' p' - s.cartHeld cartId' p') : CartsCovered s' := by
  intro cartId' cart' hfind hdraft p'
  have hsales : s'.sales = _ := congrArg PosTables.sales hpos
  have hitems : s'.saleItems = items := congrArg PosTables.saleItems hpos
  have hbefore : s.cartQty cartId' p' = s.cartHeld cartId' p' := by
    rw [hsales] at hfind
    rcases Table.find?_modify_cases hfind with ⟨_, hold⟩ | ⟨_, sale, hold, rfl⟩
    · exact h cartId' cart' hold hdraft p'
    · exact h cartId' sale hold hdraft p'
  have hdiff := hchange cartId' p'
  rw [cartQty_eq] at hbefore ⊢
  rw [hitems]
  omega

theorem GivenUp.ours {p l : Id} (h : GivenUp s s' cartId p l) (hours : s.HeldForCarts) :
    s'.reservations.All fun _ r => ForCart s r := by
  obtain ⟨ids, hgiven⟩ := h.given
  intro k r hr
  rw [hgiven.reservations] at hr
  obtain ⟨r₀, hr₀, rfl⟩ := Option.map_eq_some_iff.mp hr
  split
  · exact hours k r₀ hr₀
  · exact hours k r₀ hr₀

/-- What an item of a covered cart comes to is held for it. -/
theorem cartHeld_of_item (h : CartsHeld s) {item : SaleItem}
    (hitem : s.saleItems.find? itemId = some item) (hcart : s.sales.find? item.saleId = some cart)
    (hdraft : cart.status = .draft) : s.cartHeld item.saleId item.productId = item.quantity := by
  rw [← h.covered item.saleId cart hcart hdraft, cartQty_eq]
  exact itemQty_of_distinct h.distinct hitem ⟨cart, hcart, hdraft⟩

/-- What a cart request is to keep. -/
structure KeepsHolds (s s' : Store) (accepted : Prop) : Prop where
  ours : s'.HeldForCarts
  covered : CartsCovered s'
  refused : ¬accepted → Untouched s s'

theorem keepsHolds_refl (h : CartsHeld s) (accepted : Prop) : KeepsHolds s s accepted :=
  ⟨h.ours, h.covered, fun _ => ⟨rfl, rfl⟩⟩

theorem keepsHolds_addItem (h : CartsHeld s) {dto : AddCartItemDto} {product : Product}
    (hread : readAddItem tenantId cartId dto s = .ok (cart, product))
    (hgranted : Reservable s tenantId cart.locationId dto.productId 0 dto.quantity →
      AddFits db s.pos cartId dto product (findExistingItem cartId dto.productId s)) :
    KeepsHolds s (addItem db clock tenantId cartId dto s).2
      ((addItem db clock tenantId cartId dto s).1 = .ok ()) := by
  obtain ⟨_, e, hrun⟩ | ⟨hreservable, q, hq, ⟨hno, _⟩ | ⟨_, s', hrun, hheld⟩⟩ :=
    addItem_outcome db clock hread
  · rw [hrun]
    exact keepsHolds_refl h _
  · exact absurd (hgranted hreservable) hno
  · have hedited : CartEdited db s cartId (.addCartItem tenantId cartId dto)
        (addItem db clock tenantId cartId dto s) := cartEdited_addItem
    obtain ⟨⟨hfind, _⟩, _⟩ := readAddItem_ok hread
    rw [hrun] at hedited ⊢
    cases hedited with
    | refused e hanswer _ => cases hanswer
    | edited cart' saleItems _ hfind' hdraft hedit hpos =>
      obtain rfl := Option.some.inj (hfind.symm.trans hfind')
      refine ⟨?_, covered_of_edit h.covered hpos fun cartId' p' => ?_, fun hno => absurd rfl hno⟩
      · rw [Store.HeldForCarts, hheld]
        exact Serial.All_create (h.ours.imp fun _ _ hr => forCart_recalculated hpos hr)
          (forCart_heldRow hpos hfind _ q)
      · rw [cartHeld_create hheld]
        cases hedit with
        | merged _ _ itemId item newQty hitem hquantity =>
          obtain ⟨hitem', hsale⟩ := findExistingItem_eq_some hitem
          have hproduct : item.productId = dto.productId := by
            have hfound := List.find?_some
              (show (s.itemsOf cartId).find? (fun r => r.2.productId = dto.productId) = _ from hitem)
            exact of_decide_eq_true hfound
          have hsum : newQty - item.quantity = q := by
            rw [hq] at hquantity
            have hcast : item.quantity + q = newQty := by exact_mod_cast hquantity
            omega
          rw [itemQty_modify hitem' rfl rfl, hsale, hproduct]
          show _ + (if _ then newQty - item.quantity else 0) - _ = _
          rw [hsum]
          omega
        | added _ _ product quantity _ _ hquantity =>
          have hcast : quantity = q := by exact_mod_cast hquantity.symm.trans hq
          rw [itemQty_create]
          show _ + (if cartId = cartId' ∧ dto.productId = p' then quantity else 0) - _ = _
          rw [hcast]
          omega

/-- An update that asks for a reservable quantity, at amounts that fit. -/
theorem keepsHolds_updateItem (h : CartsHeld s) {dto : UpdateCartItemDto} {item : SaleItem}
    (hread : readUpdateItem tenantId cartId itemId s = .ok (cart, item))
    (hgranted : Reservable s tenantId cart.locationId item.productId
      (s.cartHeld cartId item.productId) dto.quantity)
    (hfits : UpdateFits db s.pos cartId dto item) :
    KeepsHolds s (updateItem db clock tenantId cartId itemId dto s).2
      ((updateItem db clock tenantId cartId itemId dto s).1 = .ok ()) := by
  obtain ⟨hitem, rfl, hfind, htenant, _⟩ := readUpdateItem_ok hread
  obtain ⟨s₁, hgivenBack, houtcome⟩ :=
    updateItem_outcome db clock h.wellFormed hread
  have hgiven := hgivenBack.givenUp h.ours hfind htenant
  rw [hgiven.reservable_iff] at houtcome
  obtain ⟨hno, _⟩ | ⟨_, q, hq, ⟨hno, _⟩ | ⟨_, s', hrun, hheld⟩⟩ := houtcome
  · exact absurd hgranted hno
  · exact absurd hfits hno
  · have hedited : CartEdited db s item.saleId (.updateCartItem tenantId item.saleId itemId dto)
        (updateItem db clock tenantId item.saleId itemId dto s) := cartEdited_updateItem
    rw [hrun] at hedited ⊢
    cases hedited with
    | refused e hanswer _ => cases hanswer
    | edited cart' saleItems _ hfind' hdraft hedit hpos =>
      obtain rfl := Option.some.inj (hfind.symm.trans hfind')
      refine ⟨?_, covered_of_edit h.covered hpos fun cartId' p' => ?_, fun hno => absurd rfl hno⟩
      · rw [Store.HeldForCarts, hheld]
        exact Serial.All_create ((hgiven.ours h.ours).imp fun _ _ hr => forCart_recalculated hpos hr)
          (forCart_heldRow hpos hfind _ q)
      · have hbefore := cartHeld_of_item h hitem hfind hdraft
        cases hedit with
        | updated _ _ _ item' quantity hitem' _ hquantity =>
          obtain rfl := Option.some.inj (hitem.symm.trans hitem')
          have hcast : quantity = q := by exact_mod_cast hquantity.symm.trans hq
          rw [itemQty_modify hitem rfl rfl, cartHeld_create hheld]
          show _ + (if _ then quantity - item.quantity else 0) - _ = _
          by_cases hplace : item.saleId = cartId' ∧ item.productId = p'
          · obtain ⟨rfl, rfl⟩ := hplace
            rw [if_pos ⟨rfl, rfl⟩, if_pos ⟨rfl, rfl⟩, hgiven.held, hbefore, hcast]
            omega
          · rw [if_neg hplace, if_neg hplace,
              hgiven.others cartId' p' fun heq => hplace ⟨heq.1.symm, heq.2.symm⟩]
            omega

/-- A removal after which the totals fit. -/
theorem keepsHolds_removeItem (h : CartsHeld s) {item : SaleItem}
    (hread : readRemoveItem tenantId cartId itemId s = .ok item)
    (hfits : s.pos.TotalsFit db cartId (-item.lineTotal)) :
    KeepsHolds s (removeItem db tenantId cartId itemId s).2
      ((removeItem db tenantId cartId itemId s).1 = .ok ()) := by
  obtain ⟨hitem, rfl, cart, hfind, htenant, _⟩ := readRemoveItem_ok hread
  obtain ⟨s₁, hgivenBack, ⟨hno, _⟩ | ⟨_, s', hrun, hheld⟩⟩ :=
    removeItem_outcome db h.wellFormed hread
  · exact absurd hfits hno
  · have hgiven := hgivenBack.givenUp h.ours hfind htenant
    have hedited : CartEdited db s item.saleId (.removeCartItem tenantId item.saleId itemId)
        (removeItem db tenantId item.saleId itemId s) := cartEdited_removeItem
    rw [hrun] at hedited ⊢
    cases hedited with
    | refused e hanswer _ => cases hanswer
    | edited cart' saleItems _ hfind' hdraft hedit hpos =>
      obtain rfl := Option.some.inj (hfind.symm.trans hfind')
      refine ⟨?_, covered_of_edit h.covered hpos fun cartId' p' => ?_, fun hno => absurd rfl hno⟩
      · rw [Store.HeldForCarts, hheld]
        exact (hgiven.ours h.ours).imp fun _ _ hr => forCart_recalculated hpos hr
      · have hbefore := cartHeld_of_item h hitem hfind hdraft
        have hsame : s'.cartHeld cartId' p' = s₁.cartHeld cartId' p' := by
          rw [Store.cartHeld, hheld]
          rfl
        cases hedit with
        | removed _ _ item' hitem' _ =>
          obtain rfl := Option.some.inj (hitem.symm.trans hitem')
          rw [itemQty_delete hitem, hsame]
          -- The hold of the item goes with the item; other places of the cart keep theirs.
          by_cases hplace : item.saleId = cartId' ∧ item.productId = p'
          · obtain ⟨rfl, rfl⟩ := hplace
            rw [if_pos ⟨rfl, rfl⟩, hgiven.held, hbefore]
            omega
          · rw [if_neg hplace, hgiven.others cartId' p' fun heq => hplace ⟨heq.1.symm, heq.2.symm⟩]
            omega

/-- A cart that has given up its hold of an item that it has is not as it was. -/
theorem GivenUp.touched (h : CartsHeld s) {item : SaleItem} {l : Id}
    (hitem : s.saleItems.find? itemId = some item) (hfind : s.sales.find? item.saleId = some cart)
    (hdraft : cart.status = .draft) (hgiven : GivenUp s s' item.saleId item.productId l) :
    ¬Untouched s s' := by
  intro huntouched
  have hsame : s'.cartHeld item.saleId item.productId = s.cartHeld item.saleId item.productId := by
    rw [Store.cartHeld, huntouched.reservations]
    rfl
  obtain ⟨sale, hsale, _, _, hpos, _⟩ := h.wellFormed.saleItems itemId item hitem
  obtain rfl := Option.some.inj (hfind.symm.trans hsale)
  have hpositive := hpos hdraft
  rw [hgiven.held, cartHeld_of_item h hitem hfind hdraft] at hsame
  omega

/-- A store with a reservation more than one whose reservations were at most given back is not as
it was. -/
theorem touched_of_reserve {s₁ : Store} (r : StockReservation)
    (hrows : ∀ k, s.reservations.find? k ≠ none → s₁.reservations.find? k ≠ none) :
    ¬Untouched s (reserve r s₁) := by
  intro huntouched
  have hnew : s.reservations.find? s₁.reservations.next = some r := by
    rw [← huntouched.reservations]
    exact (Serial.find?_create r).trans (if_pos rfl)
  refine hrows s₁.reservations.next ?_ (Serial.find?_next s₁.reservations)
  rw [hnew]
  exact nofun

/-- A new cart is empty, and nothing is held for it. -/
theorem keepsHolds_createCart (h : CartsHeld s) {dto : CreateCartDto} {id : Id}
    (hok : createCart clock tenantId dto s = .ok (id, s')) :
    s'.HeldForCarts ∧ CartsCovered s' := by
  obtain ⟨_, rfl⟩ := insertSale_ok hok
  have hsales : ∀ id sale, s.sales.find? id = some sale → ∃ sale',
      (s.sales.create (newCart clock tenantId (generateSaleNumber clock tenantId s) dto)).find? id =
        some sale' ∧ sale'.tenantId = sale.tenantId ∧ sale'.locationId = sale.locationId :=
    fun id sale hfind => ⟨sale, Serial.find?_create_of_some hfind _, rfl, rfl⟩
  refine ⟨h.ours.imp fun _ r hr => hr.mono hsales, fun cartId cart hfind hdraft p => ?_⟩
  rcases Serial.find?_create_cases hfind with hold | ⟨rfl, _⟩
  · exact h.covered cartId cart hold hdraft p
  · have hitems : itemQty s.saleItems s.sales.next p = 0 := by
      refine Table.sum_eq_zero fun k i hi => if_neg fun hsame => ?_
      obtain ⟨sale, hsale, _⟩ := h.wellFormed.saleItems k i hi
      rw [hsame.1, Serial.find?_next] at hsale
      cases hsale
    have hheld : s.cartHeld s.sales.next p = 0 := by
      refine Table.sum_eq_zero fun k r hr => if_neg fun hsame => ?_
      obtain ⟨cartId, cart, href, _, hsale, _⟩ := h.ours k r hr
      obtain rfl := cartId_eq hsame.2.1 href
      rw [Serial.find?_next] at hsale
      cases hsale
    refine (cartQty_eq _ _ _).trans (hitems.trans hheld.symm)

end Steps

section Runs

variable {call : Call}

/-- The requests for carts. -/
def Request.OfCarts : Request → Prop
  | .createCart _ _ | .addCartItem _ _ _ | .updateCartItem _ _ _ _ | .removeCartItem _ _ _ => True
  | _ => False

/-- The requests that move stock in, out or between locations. -/
def Request.OfStock : Request → Prop
  | .stockIn _ _ | .stockReturn _ _ | .stockOut _ _ | .adjust _ _ | .createTransfer _ _
  | .shipTransfer _ _ | .receiveTransfer _ _ _ | .cancelTransfer _ _ => True
  | _ => False

/-- What was read meets a condition, if it was found. -/
def IfRead {α : Type} (p : α → Prop) : Except HttpError α → Prop
  | .ok a => p a
  | .error _ => True

/-- What is written of a line fits its columns, once it can be reserved; an update of an item that
the cart has asks for a quantity that can be. -/
def Request.Granted (db : Database) (s : Store) : Request → Prop
  | .addCartItem tenantId cartId dto => IfRead (fun x : Sale × Product =>
      Reservable s tenantId x.1.locationId dto.productId 0 dto.quantity →
        AddFits db s.pos cartId dto x.2 (findExistingItem cartId dto.productId s))
      (readAddItem tenantId cartId dto s)
  | .updateCartItem tenantId cartId itemId dto => IfRead (fun x : Sale × SaleItem =>
      Reservable s tenantId x.1.locationId x.2.productId (s.cartHeld cartId x.2.productId)
        dto.quantity ∧ UpdateFits db s.pos cartId dto x.2)
      (readUpdateItem tenantId cartId itemId s)
  | .removeCartItem tenantId cartId itemId => IfRead (fun item : SaleItem =>
      s.pos.TotalsFit db cartId (-item.lineTotal)) (readRemoveItem tenantId cartId itemId s)
  | _ => True

instance : DecidablePred Request.OfCarts := by
  rintro ⟨⟩
  all_goals dsimp only [Request.OfCarts]; infer_instance

instance : DecidablePred Request.OfStock := by
  rintro ⟨⟩
  all_goals dsimp only [Request.OfStock]; infer_instance

instance {α : Type} (p : α → Prop) [DecidablePred p] : DecidablePred (IfRead p)
  | .ok a => inferInstanceAs (Decidable (p a))
  | .error _ => isTrue trivial

instance (db : Database) (s : Store) : DecidablePred (Request.Granted db s) := by
  rintro ⟨⟩
  all_goals dsimp only [Request.Granted]; infer_instance

/-- The runs of cart requests that are granted, with stock moving in between. -/
def CartRun (db : Database) (s : Store) (call : Call) : Prop :=
  call.request.OfStock ∨
    (call.request.OfCarts ∧ (call.request.Valid → call.request.Granted db s))

instance (db : Database) (s : Store) (call : Call) : Decidable (CartRun db s call) :=
  inferInstanceAs (Decidable (_ ∨ _))

/-- Stock moves past the carts and their reservations. -/
theorem reservations_of_stock (hstock : call.request.OfStock) :
    (step db call s).reservations = s.reservations := by
  obtain ⟨clock, request⟩ := call
  have hstep {α : Type} (f : Store → Except HttpError (α × Store))
      (hserve : serve db clock request s = answer (transaction f s))
      (hrun : ∀ a s', request.Valid → f s = .ok (a, s') → s'.reservations = s.reservations) :
      (step db ⟨clock, request⟩ s).reservations = s.reservations :=
    step_preserves_of_serve (P := fun s' => s'.reservations = s.reservations) f hserve rfl hrun
  cases request with
  | stockIn tenantId dto =>
    refine hstep (stockIn db clock tenantId dto) rfl fun _ s' hvalid hok => ?_
    obtain ⟨_, rfl⟩ := stockIn_ok hok
    exact (gains_executeStockIn fun item hitem =>
      zero_le_one.trans (hvalid item hitem).1).reservations
  | stockReturn tenantId dto =>
    refine hstep (stockIn db clock tenantId { dto with referenceType := some .return }) rfl
      fun _ s' hvalid hok => ?_
    obtain ⟨_, rfl⟩ := stockIn_ok hok
    have hitems : BulkStockInDto.Valid { dto with referenceType := some .return } := hvalid
    exact (gains_executeStockIn fun item hitem =>
      zero_le_one.trans (hitems item hitem).1).reservations
  | stockOut tenantId dto =>
    refine hstep (fun s => stockOut db tenantId dto s s) rfl fun _ s' _ hok => ?_
    obtain ⟨_, _, hok⟩ := Except.bind_eq_ok_iff.mp hok
    obtain rfl : (executeStockOut db tenantId dto s).2 = s' :=
      congrArg Prod.snd (Except.ok.inj hok)
    exact (executeStockOut_frame db tenantId dto s).1
  | adjust tenantId dto =>
    refine hstep (adjust db clock tenantId dto) rfl fun _ s' _ hok => ?_
    obtain ⟨_, _, hok⟩ := Except.bind_eq_ok_iff.mp hok
    obtain rfl : (executeAdjust db clock tenantId dto s).2 = s' :=
      congrArg Prod.snd (Except.ok.inj hok)
    exact reservations_executeAdjust
  | createTransfer tenantId dto =>
    -- Two transactions: the draft, and the shipment if it is asked for at once.
    have hdrafted {s₁ : Store} {r : Id × String}
        (hdraft : createDraft clock tenantId dto s = .ok (r, s₁)) :
        s₁.reservations = s.reservations := by
      obtain ⟨_, _, _, rfl, _⟩ := createDraft_ok hdraft
      rfl
    refine step_preserves_of_valid (P := fun s' => s'.reservations = s.reservations) rfl fun _ => ?_
    show (TransferService.create db clock tenantId dto s).2.reservations = s.reservations
    refine createTransfer_cases (P := fun x => x.2.reservations = s.reservations)
      (fun _ => rfl) ?_ ?_ ?_
    · intro id number s₁ hdraft _
      exact hdrafted hdraft
    · intro id number s₁ e hdraft
      exact hdrafted hdraft
    · intro id number s₁ message s₂ hdraft _ hship
      obtain ⟨t', _, rfl⟩ := ship_eq_ok hship
      rw [← hdrafted hdraft]
      exact reservations_commitShip
  | shipTransfer tenantId id =>
    refine hstep (ship db clock tenantId id) rfl fun _ s' _ hok => ?_
    obtain ⟨t, _, rfl⟩ := ship_eq_ok hok
    exact reservations_commitShip
  | receiveTransfer tenantId id items =>
    refine hstep (receive db clock tenantId id items) rfl fun _ s' _ hok => ?_
    obtain ⟨t, _, hok⟩ := Except.bind_eq_ok_iff.mp hok
    obtain rfl : commitReceive db clock tenantId id items t s = s' :=
      congrArg Prod.snd (Except.ok.inj hok)
    exact gains_commitReceive.reservations
  | cancelTransfer tenantId id =>
    refine hstep (cancel db clock tenantId id) rfl fun _ s' _ hok => ?_
    obtain ⟨t, _, hok⟩ := Except.bind_eq_ok_iff.mp hok
    obtain rfl : commitCancel db clock tenantId id t s = s' :=
      congrArg Prod.snd (Except.ok.inj hok)
    exact gains_commitCancel.reservations
  | _ => exact hstock.elim

theorem pos_of_stock (hs : WellFormed s) (hstock : call.request.OfStock) :
    (step db call s).pos = s.pos := by
  by_cases hsales : call.request.OfSales
  · obtain ⟨clock, request⟩ := call
    cases request with
    | stockOut tenantId dto =>
      refine step_preserves_of_serve (P := fun s' => s'.pos = s.pos)
        (fun s => stockOut db tenantId dto s s) rfl rfl fun _ s' _ hok => ?_
      obtain ⟨_, _, hok⟩ := Except.bind_eq_ok_iff.mp hok
      obtain rfl : (executeStockOut db tenantId dto s).2 = s' :=
        congrArg Prod.snd (Except.ok.inj hok)
      exact pos_executeStockOut dto
    | stockIn => exact hsales.elim
    | stockReturn => exact hsales.elim
    | adjust => exact hsales.elim
    | createTransfer => exact hsales.elim
    | shipTransfer => exact hsales.elim
    | receiveTransfer => exact hsales.elim
    | cancelTransfer => exact hsales.elim
    | _ => exact hstock.elim
  · exact pos_step_of_not_ofSales hs hsales

/-- The same sales and reservations have the same carts covered. -/
theorem keepsHolds_of_frame (h : CartsHeld s) (hreservations : s'.reservations = s.reservations)
    (hpos : s'.pos = s.pos) : s'.HeldForCarts ∧ CartsCovered s' := by
  have hsales : s'.sales = s.sales := congrArg PosTables.sales hpos
  have hitems : s'.saleItems = s.saleItems := congrArg PosTables.saleItems hpos
  constructor
  · intro k r hr
    rw [hreservations] at hr
    refine (h.ours k r hr).mono fun id sale hsale => ⟨sale, ?_, rfl, rfl⟩
    rw [hsales]
    exact hsale
  · intro cartId cart hfind hdraft p
    rw [hsales] at hfind
    rw [Store.cartQty, Store.itemsOf, hitems, Store.cartHeld, hreservations]
    exact h.covered cartId cart hfind hdraft p

/-- A cart request that is granted. -/
theorem keepsHolds_step (h : CartsHeld s) (hcarts : call.request.OfCarts)
    (hgranted : call.request.Valid → call.request.Granted db s) :
    KeepsHolds s (step db call s) (Accepted db s call) := by
  by_cases hvalid : call.request.Valid
  · have hhandle : handle db call s = serve db call.clock call.request s := if_pos hvalid
    rw [step, Accepted, hhandle]
    replace hgranted := hgranted hvalid
    obtain ⟨clock, request⟩ := call
    cases request with
    | createCart tenantId dto =>
      cases hok : createCart clock tenantId dto s with
      | error e =>
        simp only [serve, transaction_of_error hok, answer]
        exact keepsHolds_refl h _
      | ok x =>
        obtain ⟨id, s'⟩ := x
        obtain ⟨hours, hcovered⟩ := keepsHolds_createCart h hok
        simp only [serve, transaction_of_ok hok, answer]
        exact ⟨hours, hcovered, fun hno => absurd rfl hno⟩
    | addCartItem tenantId cartId dto =>
      cases hread : readAddItem tenantId cartId dto s with
      | error e =>
        simp only [serve, addItem, hread]
        exact keepsHolds_refl h _
      | ok x =>
        rw [Request.Granted, hread] at hgranted
        exact keepsHolds_addItem h hread hgranted
    | updateCartItem tenantId cartId itemId dto =>
      cases hread : readUpdateItem tenantId cartId itemId s with
      | error e =>
        simp only [serve, updateItem, hread]
        exact keepsHolds_refl h _
      | ok x =>
        rw [Request.Granted, hread] at hgranted
        exact keepsHolds_updateItem h hread hgranted.1 hgranted.2
    | removeCartItem tenantId cartId itemId =>
      cases hread : readRemoveItem tenantId cartId itemId s with
      | error e =>
        simp only [serve, removeItem, hread]
        exact keepsHolds_refl h _
      | ok item =>
        rw [Request.Granted, hread] at hgranted
        exact keepsHolds_removeItem h hread hgranted
    | _ => exact hcarts.elim
  · have hrefused : handle db call s = (.error (.badRequest "Bad Request"), s) := if_neg hvalid
    rw [step, hrefused]
    exact keepsHolds_refl h _

theorem cartsHeld_step (h : CartsHeld s) (hrun : CartRun db s call) : CartsHeld (step db call s) := by
  have hkept : (step db call s).HeldForCarts ∧ CartsCovered (step db call s) := by
    rcases hrun with hstock | ⟨hcarts, hgranted⟩
    · exact keepsHolds_of_frame h (reservations_of_stock hstock) (pos_of_stock h.wellFormed hstock)
    · obtain ⟨hours, hcovered, _⟩ := keepsHolds_step h hcarts hgranted
      exact ⟨hours, hcovered⟩
  exact ⟨wellFormed_step h.wellFormed,
    cartsDistinct_step h.wellFormed h.distinct (saleStep h.wellFormed), hkept.1, hkept.2⟩

theorem cartsHeld_of_run (h : ReachableBy db (CartRun db) c s) : CartsHeld s := by
  refine Runs.invariant (I := CartsHeld) h ⟨wellFormed_initial c, ?_, ?_, ?_⟩
    fun _ _ h hrun => cartsHeld_step h hrun
  · exact fun _ _ _ _ hi => (by cases hi)
  · exact fun _ _ hr => (by cases hr)
  · exact fun _ _ _ _ _ => rfl

/-- A valid cart request that is not granted is refused, and touches items or reservations. -/
theorem touched_of_not_granted (h : CartsHeld s) (hcarts : call.request.OfCarts)
    (hvalid : call.request.Valid) (hno : ¬call.request.Granted db s) :
    ¬Accepted db s call ∧ ¬Untouched s (step db call s) := by
  have hhandle : handle db call s = serve db call.clock call.request s := if_pos hvalid
  obtain ⟨clock, request⟩ := call
  have hrefused {x : Except HttpError Unit × Store} {e : HttpError} {s₁ : Store}
      (hserve : serve db clock request s = x) (hrun : x = (.error e, s₁))
      (htouched : ¬Untouched s s₁) :
      ¬Accepted db s ⟨clock, request⟩ ∧ ¬Untouched s (step db ⟨clock, request⟩ s) := by
    rw [Accepted, step, hhandle]
    dsimp only
    rw [hserve, hrun]
    refine ⟨fun hok => ?_, htouched⟩
    cases hok
  cases request with
  | createCart => exact absurd trivial hno
  | addCartItem tenantId cartId dto =>
    rw [Request.Granted] at hno
    cases hread : readAddItem tenantId cartId dto s with
    | error e => exact absurd (hread ▸ trivial) hno
    | ok x =>
      obtain ⟨cart, product⟩ := x
      rw [hread] at hno
      obtain ⟨hyes, hnot⟩ := Classical.not_imp.mp hno
      obtain ⟨hnot', _⟩ | ⟨_, q, _, ⟨_, e, hrun⟩ | ⟨hfits, _⟩⟩ :=
        addItem_outcome db clock hread
      · exact absurd hyes hnot'
      · exact hrefused rfl hrun (touched_of_reserve _ fun _ => id)
      · exact absurd hfits hnot
  | updateCartItem tenantId cartId itemId dto =>
    rw [Request.Granted] at hno
    cases hread : readUpdateItem tenantId cartId itemId s with
    | error e => exact absurd (hread ▸ trivial) hno
    | ok x =>
      obtain ⟨cart, item⟩ := x
      rw [hread] at hno
      obtain ⟨hitem, rfl, hfind, htenant, hdraft⟩ := readUpdateItem_ok hread
      obtain ⟨s₁, hgivenBack, houtcome⟩ :=
        updateItem_outcome db clock h.wellFormed hread
      have hgiven := hgivenBack.givenUp h.ours hfind htenant
      rw [hgiven.reservable_iff] at houtcome
      obtain ⟨_, e, hrun⟩ | ⟨hyes, q, _, ⟨_, e, hrun⟩ | ⟨hfits, _⟩⟩ := houtcome
      · exact hrefused rfl hrun (hgiven.touched h hitem hfind hdraft)
      · refine hrefused rfl hrun (touched_of_reserve _ fun k hk => ?_)
        rw [hgivenBack.reservations]
        simpa using hk
      · exact absurd ⟨hyes, hfits⟩ hno
  | removeCartItem tenantId cartId itemId =>
    rw [Request.Granted] at hno
    cases hread : readRemoveItem tenantId cartId itemId s with
    | error e => exact absurd (hread ▸ trivial) hno
    | ok item =>
      rw [hread] at hno
      obtain ⟨hitem, rfl, cart, hfind, htenant, hdraft⟩ := readRemoveItem_ok hread
      obtain ⟨s₁, hgivenBack, ⟨_, e, hrun⟩ | ⟨hfits, _⟩⟩ :=
        removeItem_outcome db h.wellFormed hread
      · have hgiven := hgivenBack.givenUp h.ours hfind htenant
        exact hrefused rfl hrun (hgiven.touched h hitem hfind hdraft)
      · exact absurd hfits hno
  | _ => exact hcarts.elim

/-- In every run of cart requests that are granted, with stock moving in between, each cart has what
is held for it. A further cart request keeps it so, and touches nothing when it is refused, exactly
if it is granted as well. -/
theorem carts_covered_iff (h : ReachableBy db (CartRun db) c s) (hcarts : call.request.OfCarts) :
    CartsCovered s ∧
      ((CartsCovered (step db call s) ∧ (¬Accepted db s call → Untouched s (step db call s))) ↔
        (call.request.Valid → call.request.Granted db s)) := by
  have hheld := cartsHeld_of_run h
  refine ⟨hheld.covered, ?_, fun hgranted => ?_⟩
  · rintro ⟨_, huntouched⟩ hvalid
    by_contra hno
    obtain ⟨hrefused, htouched⟩ := touched_of_not_granted hheld hcarts hvalid hno
    exact htouched (huntouched hrefused)
  · have hkept := keepsHolds_step hheld hcarts hgranted
    exact ⟨hkept.covered, hkept.refused⟩

/-- Five received, and two of them in a cart. -/
def twoInCart : List Call :=
  [⟨⟨0, 2024⟩, .stockIn 0 ⟨0, none, none, [⟨0, 5, 1, none⟩]⟩⟩,
    ⟨⟨1, 2024⟩, .createCart 0 ⟨0, none, none, none⟩⟩,
    ⟨⟨2, 2024⟩, .addCartItem 0 0 ⟨0, 2, some 3, none, none⟩⟩]

def twoInCartStore : Store := serveAll .exact twoInCart (Store.initial (.shop .fifo))

/-- The item of the cart in another quantity. -/
def updateTwoInCart (quantity : ℚ) : Call :=
  ⟨⟨3, 2024⟩, .updateCartItem 0 0 0 ⟨quantity, none, none, none⟩⟩

theorem carts_covered_iff_twoInCart :
    CartsCovered twoInCartStore ∧
      ((CartsCovered (step .exact (updateTwoInCart 5) twoInCartStore) ∧
        (¬Accepted .exact twoInCartStore (updateTwoInCart 5) →
          Untouched twoInCartStore (step .exact (updateTwoInCart 5) twoInCartStore))) ↔
        ((updateTwoInCart 5).request.Valid →
          (updateTwoInCart 5).request.Granted .exact twoInCartStore)) :=
  have hrun : ReachableBy .exact (CartRun .exact) (.shop .fifo) twoInCartStore :=
    runs_serveAll (by decide +kernel)
  carts_covered_iff hrun trivial

/-- Six of five are asked for: the update is refused, and the two that are still in the cart are
not held for it any more. -/
theorem update_refused_uncovers :
    ReachableBy .exact (CartRun .exact) (.shop .fifo) twoInCartStore ∧
      (updateTwoInCart 6).request.OfCarts ∧ (updateTwoInCart 6).request.Valid ∧
      ¬Accepted .exact twoInCartStore (updateTwoInCart 6) ∧
      twoInCartStore.cartQty 0 0 = 2 ∧ twoInCartStore.cartHeld 0 0 = 2 ∧
      (step .exact (updateTwoInCart 6) twoInCartStore).cartQty 0 0 = 2 ∧
      (step .exact (updateTwoInCart 6) twoInCartStore).cartHeld 0 0 = 0 ∧
      ((step .exact (updateTwoInCart 6) twoInCartStore).sales.find? 0).map Sale.status =
        some .draft ∧
      ¬CartsCovered (step .exact (updateTwoInCart 6) twoInCartStore) := by
  have hitems : (step .exact (updateTwoInCart 6) twoInCartStore).cartQty 0 0 = 2 := by
    decide +kernel
  have hheld : (step .exact (updateTwoInCart 6) twoInCartStore).cartHeld 0 0 = 0 := by
    decide +kernel
  have hdraft : ((step .exact (updateTwoInCart 6) twoInCartStore).sales.find? 0).map Sale.status =
      some .draft := by decide +kernel
  refine ⟨runs_serveAll (by decide +kernel), trivial, by decide +kernel, by decide +kernel,
    by decide +kernel, by decide +kernel, hitems, hheld, hdraft, fun hcovered => ?_⟩
  obtain ⟨cart, hfind, hstatus⟩ := Option.map_eq_some_iff.mp hdraft
  have hsame := hcovered 0 cart hfind hstatus 0
  rw [hitems, hheld] at hsame
  cases hsame

end Runs

end Invetrixa
