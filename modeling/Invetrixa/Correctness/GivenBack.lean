import Invetrixa.Correctness.Reserved

/-!
# Reservations under interleaved requests

An update, a release, the expiry job and the cleanup of carts each read reservations with the
plain client and write in a transaction of their own, which does not read them again. Between
the two any other of them may commit. As long as every transaction still finds what its request
has read, each reservation is given back exactly once and the reserved quantities stay what the
active reservations hold; two releases that both read before either commits give the same
quantity back twice.

## Main definitions

- `ReservationRequest`, `PendingWrite` — the requests, and what each has read when it commits
- `Audited` — a store with an account of what was added to the reserved quantities, and for which
  reservation
- `AsRead` — the transaction finds what its request has read

## Main results

- `commit_ok` — what a transaction writes, whatever has become of the rows
- `given_back_once`, `released_twice`
-/

namespace Invetrixa

open Rowstore Requests ReservationService ReservationQueueProcessor CartCleanupService

/-- The requests that change reservations which are there. -/
inductive ReservationRequest
  | update (clock : Clock) (tenantId id : Id) (dto : UpdateReservationDto)
  | release (tenantId id : Id)
  | expire (clock : Clock) (tenantId id : Id)
  | cleanup (clock : Clock)

/-- A request that has read and not yet committed, with the rows it has read. -/
inductive PendingWrite
  | update (id : Id) (dto : UpdateReservationDto) (reservation : StockReservation)
  | release (id : Id) (reservation : StockReservation)
  | expire (id : Id) (reservation : StockReservation)
  | cleanup (cartIds : List Id) (reservations : List (Id × StockReservation))

/-- The active reservations of carts (`findMany` of the cleanup). -/
def cartReservations (cartIds : List Id) (s : Store) : List (Id × StockReservation) :=
  s.reservations.rows.filter fun r => isCartReservation cartIds r.2

/-- The read of a request, with its checks. -/
def ReservationRequest.read (s : Store) : ReservationRequest → Option PendingWrite
  | .update clock tenantId id dto =>
      (readUpdate clock tenantId id dto s).toOption.map (.update id dto)
  | .release tenantId id => (readRelease tenantId id s).toOption.map (.release id)
  | .expire clock tenantId id => (readProcess clock tenantId id s).map (.expire id)
  | .cleanup clock => (readCleanup clock s).map fun read =>
      .cleanup read.cartIds (cartReservations read.cartIds s)

/-- The transaction of a request. -/
def PendingWrite.commit (s : Store) : PendingWrite → Except HttpError (Unit × Store)
  | .update id dto r => commitUpdate id dto r s
  | .release id r => commitRelease id r s
  | .expire id r => commitProcess id r s
  | .cleanup cartIds rows => do
      let (_, s) ← commitCleanup ⟨cartIds, rows.map Prod.snd⟩ s
      return ((), s)

/-- What a transaction adds to reserved quantities, with the reservation it adds it for. -/
def PendingWrite.postings : PendingWrite → List ((Id × StockReservation) × ℤ)
  | .update id dto r => [((id, r), quantityDiff dto r)]
  | .release id r => [((id, r), -r.quantity)]
  | .expire id r => [((id, r), -r.quantity)]
  | .cleanup _ rows => rows.map fun r => (r, -r.2.quantity)

/-- What postings add for one reservation. -/
def postedTo (postings : List ((Id × StockReservation) × ℤ)) (id : Id) : ℤ :=
  (postings.map fun x => if x.1.1 = id then x.2 else 0).sum

/-- What postings add at one place. -/
def postedAt (postings : List ((Id × StockReservation) × ℤ)) (p l : Id) : ℤ :=
  (postings.map fun x =>
    if x.1.2.productId = p ∧ x.1.2.locationId = l then x.2 else 0).sum

/-- A store, and for each reservation what transactions have added to the reserved quantities on
its behalf. -/
structure Audited where
  store : Store
  posted : Id → ℤ

/-- The requests on reservations, in two steps. A transaction that fails writes nothing. -/
def reservationRequests : ReadCommit Audited ReservationRequest PendingWrite where
  read r s := r.read s.store
  commit _ w s :=
    match w.commit s.store with
    | .ok (_, store) => ⟨store, fun id => s.posted id + postedTo w.postings id⟩
    | .error _ => s

/-- Nothing is in flight and nothing has been posted. -/
abbrev Audited.start (s : Store) : ReadCommit.Config Audited ReservationRequest PendingWrite :=
  ⟨⟨s, fun _ => 0⟩, []⟩

/-- The transaction finds the reservations as its request has read them: the one it closes is
active with the quantity that was read, and so is the one whose quantity it sets, unless the
quantity is left alone or the increase is refused; the carts hold what they held. -/
def AsRead (s : Store) : PendingWrite → Prop
  | .update id dto r =>
    (0 < quantityDiff dto r ∧
      s.onHand r.productId r.locationId - s.reserved r.productId r.locationId <
        quantityDiff dto r) ∨
    ∀ r' ∈ s.reservations.find? id,
      (r'.status = .active ∧ (dto.quantity = none ∨ r'.quantity = r.quantity)) ∨
      (r'.status ≠ .active ∧ quantityDiff dto r = 0)
  | .release id r | .expire id r =>
    ∀ r' ∈ s.reservations.find? id, r'.status = .active ∧ r'.quantity = r.quantity
  | .cleanup cartIds rows =>
    (cartReservations cartIds s).map (fun r => (r.1, r.2.quantity)) =
      rows.map fun r => (r.1, r.2.quantity)

instance (s : Store) (w : PendingWrite) : Decidable (AsRead s w) := by
  obtain ⟨⟩ := w
  all_goals dsimp only [AsRead]; infer_instance

variable {db : Database} {s s' : Store} {w : PendingWrite} {p l : Id}

section Commit

/-- What a transaction makes of a reservation. -/
def PendingWrite.rewrite : PendingWrite → Id → StockReservation → StockReservation
  | .update id dto _, k, r => if k = id then updateData dto r else r
  | .release id _, k, r => if k = id then { r with status := .released } else r
  | .expire id _, k, r => if k = id then { r with status := .expired } else r
  | .cleanup cartIds _, _, r =>
      if isCartReservation cartIds r then { r with status := .expired } else r

/-- The reservations that were read belong to the tenants of the balances. -/
def PendingWrite.Owned (s : Store) (w : PendingWrite) : Prop :=
  ∀ x ∈ w.postings, ∀ b,
    s.balances.find? (x.1.2.productId, x.1.2.locationId) = some b → b.tenantId = x.1.2.tenantId

theorem postedAt_singleton (x : Id × StockReservation) (q : ℤ) :
    postedAt [(x, q)] p l = if x.2.productId = p ∧ x.2.locationId = l then q else 0 := by
  simp [postedAt]

theorem postedAt_cleanup (cartIds : List Id) (rows : List (Id × StockReservation)) :
    postedAt (PendingWrite.cleanup cartIds rows).postings p l =
      -heldAt (rows.map Prod.snd) p l := by
  simp only [postedAt, heldAt, PendingWrite.postings, List.map_map]
  rw [List.sum_neg, List.map_map]
  congr 1
  refine List.map_congr_left fun r _ => ?_
  simp only [Function.comp_apply]
  split <;> simp

/-- A transaction that amends one reservation. -/
theorem find?_of_amend {id : Id} {f : StockReservation → StockReservation} {r : StockReservation}
    {diff : ℤ} (h : s' = book db (.amend id f r.productId r.locationId diff) s) :
    (∀ k, s'.reservations.find? k = (s.reservations.find? k).map fun r =>
        if k = id then f r else r) ∧
      ∀ p l, s'.balances.find? (p, l) = (s.balances.find? (p, l)).map fun b =>
        { b with reservedQuantity := b.reservedQuantity + postedAt [((id, r), diff)] p l } := by
  subst h
  constructor
  · intro k
    show (s.reservations.modify id f).toTable.find? k = _
    rw [Serial.toTable_modify, Table.find?_modify]
    by_cases hk : k = id <;> simp [hk]
  · intro p l
    rw [find?_amend]
    congr 1
    funext b
    rw [postedAt_singleton]
    dsimp only
    split <;> simp

/-- What a transaction writes: the reservations it names, and at each place what it posts. -/
theorem commit_ok (howned : w.Owned s) (h : w.commit s = .ok ((), s')) :
    (∀ k, s'.reservations.find? k = (s.reservations.find? k).map (w.rewrite k)) ∧
      ∀ p l, s'.balances.find? (p, l) = (s.balances.find? (p, l)).map fun b =>
        { b with reservedQuantity := b.reservedQuantity + postedAt w.postings p l } := by
  cases w with
  | update id dto r => exact find?_of_amend (commitUpdate_ok .exact h).1
  | release id r => exact find?_of_amend (close_ok .exact h).1
  | expire id r => exact find?_of_amend (close_ok .exact h).1
  | cleanup cartIds rows =>
    obtain ⟨⟨result, s₁⟩, hcommit, h⟩ := Except.bind_eq_ok_iff.mp h
    obtain rfl : s₁ = s' := congrArg Prod.snd (Except.ok.inj h)
    obtain ⟨s₂, hdelete, hcommit⟩ := Except.bind_eq_ok_iff.mp hcommit
    obtain rfl : s₂ = s₁ := congrArg Prod.snd (Except.ok.inj hcommit)
    obtain ⟨_, rfl⟩ := deleteCarts_ok hdelete
    constructor
    · intro k
      show (releaseReservedQuantities (rows.map Prod.snd)
        (expireReservations cartIds s)).reservations.find? k = _
      rw [releaseReservedQuantities_eq]
      exact Table.find?_modifyWhere _ _
    · intro p l
      have hfind := find?_releaseReservedQuantities (rows.map Prod.snd)
        (expireReservations cartIds s) (p := p) (l := l) ?_
      · refine hfind.trans ?_
        rw [postedAt_cleanup]
        rfl
      · intro r hr b hb
        obtain ⟨x, hx, rfl⟩ := List.mem_map.mp hr
        exact howned (x, -x.2.quantity) (List.mem_map.mpr ⟨x, hx, rfl⟩) b hb

end Commit

section Accounts

variable {postings : List ((Id × StockReservation) × ℤ)} {s₀ : Store}

/-- The reservation is still there, at the place and for the tenant it was read with. -/
def InPlace (s₀ : Store) (x : Id × StockReservation) : Prop :=
  ∃ r₀, s₀.reservations.find? x.1 = some r₀ ∧ r₀.productId = x.2.productId ∧
    r₀.locationId = x.2.locationId ∧ r₀.tenantId = x.2.tenantId

/-- What is posted at a place is what is posted for the reservations of the place. -/
theorem sum_postedTo (h : ∀ x ∈ postings, InPlace s₀ x.1) (p l : Id) :
    (s₀.reservations.sum fun id r =>
      if r.productId = p ∧ r.locationId = l then postedTo postings id else 0) =
      postedAt postings p l := by
  induction postings with
  | nil => exact Table.sum_eq_zero fun _ _ _ => by simp [postedTo]
  | cons x rest ih =>
    have ih := ih fun y hy => h y (List.mem_cons_of_mem _ hy)
    obtain ⟨r₀, hr₀, hp, hl, _⟩ := h x List.mem_cons_self
    have hsplit : (s₀.reservations.sum fun id r =>
        if r.productId = p ∧ r.locationId = l then postedTo (x :: rest) id else 0) =
        s₀.reservations.sum fun id r =>
          (if id = x.1.1 then (if r.productId = p ∧ r.locationId = l then x.2 else 0) else 0) +
            if r.productId = p ∧ r.locationId = l then postedTo rest id else 0 := by
      refine Table.sum_congr fun id r _ => ?_
      simp only [postedTo, List.map_cons, List.sum_cons]
      by_cases hpl : r.productId = p ∧ r.locationId = l
      · by_cases hid : id = x.1.1
        · simp [hpl, hid]
        · simp [hpl, hid, Ne.symm hid]
      · simp [hpl]
    rw [hsplit, Table.sum_add, Table.sum_ite_key hr₀ fun _ r =>
      if r.productId = p ∧ r.locationId = l then x.2 else 0, ih, hp, hl]
    simp [postedAt]

/-- The rows stay: reservations at their places, balances with their tenants. -/
structure SameRows (s₀ s : Store) : Prop where
  reservations : ∀ id r₀, s₀.reservations.find? id = some r₀ →
    ∃ r, s.reservations.find? id = some r ∧ r.productId = r₀.productId ∧
      r.locationId = r₀.locationId ∧ r.tenantId = r₀.tenantId
  only : ∀ id r, s.reservations.find? id = some r → ∃ r₀, s₀.reservations.find? id = some r₀
  balances : ∀ k, (s.balances.find? k).map InventoryBalance.tenantId =
    (s₀.balances.find? k).map InventoryBalance.tenantId

theorem SameRows.refl (s : Store) : SameRows s s where
  reservations _ r h := ⟨r, h, rfl, rfl, rfl⟩
  only _ r h := ⟨r, h⟩
  balances _ := rfl

theorem SameRows.inPlace (h : SameRows s₀ s) {id : Id} {r : StockReservation}
    (hr : s.reservations.find? id = some r) : InPlace s₀ (id, r) := by
  obtain ⟨r₀, hr₀⟩ := h.only id r hr
  obtain ⟨r', hr', hp, hl, ht⟩ := h.reservations id r₀ hr₀
  obtain rfl := Option.some.inj (hr.symm.trans hr')
  exact ⟨r₀, hr₀, hp.symm, hl.symm, ht.symm⟩

theorem SameRows.commit (h : SameRows s₀ s) (howned : w.Owned s)
    (hcommit : w.commit s = .ok ((), s')) : SameRows s₀ s' := by
  obtain ⟨hreservations, hbalances⟩ := commit_ok howned hcommit
  have hplace : ∀ k r, (w.rewrite k r).productId = r.productId ∧
      (w.rewrite k r).locationId = r.locationId ∧ (w.rewrite k r).tenantId = r.tenantId := by
    intro k r
    cases w
    all_goals
      simp only [PendingWrite.rewrite]
      split <;> exact ⟨rfl, rfl, rfl⟩
  constructor
  · intro id r₀ hr₀
    obtain ⟨r, hr, hp, hl, ht⟩ := h.reservations id r₀ hr₀
    have hsame := hplace id r
    exact ⟨w.rewrite id r, by rw [hreservations, hr, Option.map_some], hsame.1.trans hp,
      hsame.2.1.trans hl, hsame.2.2.trans ht⟩
  · intro id r' hr'
    rw [hreservations] at hr'
    obtain ⟨r, hr, _⟩ := Option.map_eq_some_iff.mp hr'
    exact h.only id r hr
  · intro k
    rw [hbalances k.1 k.2, Option.map_map]
    exact h.balances k

/-- What is read are reservations as they are. -/
theorem find?_of_read {request : ReservationRequest} (hread : request.read s = some w) :
    ∀ x ∈ w.postings, s.reservations.find? x.1.1 = some x.1.2 := by
  intro x hx
  cases request with
  | update clock tenantId id dto =>
    obtain ⟨r, hr, rfl⟩ := Option.map_eq_some_iff.mp hread
    obtain rfl := List.mem_singleton.mp hx
    exact (readUpdate_ok (Except.toOption_eq_some_iff.mp hr)).1
  | release tenantId id =>
    obtain ⟨r, hr, rfl⟩ := Option.map_eq_some_iff.mp hread
    obtain rfl := List.mem_singleton.mp hx
    exact (readRelease_ok (Except.toOption_eq_some_iff.mp hr)).1
  | expire clock tenantId id =>
    obtain ⟨r, hr, rfl⟩ := Option.map_eq_some_iff.mp hread
    obtain rfl := List.mem_singleton.mp hx
    exact (readProcess_eq_some hr).1
  | cleanup clock =>
    obtain ⟨read, hr, rfl⟩ := Option.map_eq_some_iff.mp hread
    obtain ⟨row, hrow, rfl⟩ := List.mem_map.mp hx
    exact Table.find?_of_mem_rows (List.mem_filter.mp hrow).1

/-- The reservations in flight are those of the tenants that own the balances. -/
theorem owned_of_inPlace (hs : WellFormed s₀) (hrows : SameRows s₀ s)
    (hw : ∀ x ∈ w.postings, InPlace s₀ x.1) : w.Owned s := by
  intro x hx b hb
  obtain ⟨r₀, hr₀, hp, hl, ht⟩ := hw x hx
  have hsame := hrows.balances (x.1.2.productId, x.1.2.locationId)
  rw [hb, Option.map_some] at hsame
  obtain ⟨b₀, hb₀, htenant⟩ := Option.map_eq_some_iff.mp hsame.symm
  have howner := (hs.reservations _ _ hr₀).1
  rw [hp, hs.balances _ _ hb₀, ht] at howner
  exact htenant.symm.trans (Option.some.inj howner)

/-- The reserved quantities change by what is posted. -/
theorem reserved_commit (hs : WellFormed s₀) (hrows : SameRows s₀ s)
    (hw : ∀ x ∈ w.postings, InPlace s₀ x.1) (hcommit : w.commit s = .ok ((), s')) (p l : Id) :
    s'.reserved p l = s.reserved p l + postedAt w.postings p l := by
  rw [Store.reserved, Store.reserved, (commit_ok (owned_of_inPlace hs hrows hw) hcommit).2]
  cases hb : s.balances.find? (p, l) with
  | some b => rfl
  | none =>
    -- Reservations that were read have a balance row, so none of them is of this place.
    have hzero : postedAt w.postings p l = 0 := by
      refine List.sum_eq_zero fun q hq => ?_
      obtain ⟨x, hx, rfl⟩ := List.mem_map.mp hq
      refine if_neg ?_
      rintro ⟨rfl, rfl⟩
      obtain ⟨r₀, hr₀, hp, hl, _⟩ := hw x hx
      have hrow := (hs.reservations _ _ hr₀).2
      have hsame := hrows.balances (x.1.2.productId, x.1.2.locationId)
      rw [hb, Option.map_none] at hsame
      rw [Store.HasBalance, hp, hl, Option.map_eq_none_iff.mp hsame.symm] at hrow
      cases hrow
    simp [hzero]

/-- The reserved quantities are what they were at the start and what was posted since. -/
structure Accounted (s₀ : Store) (a : Audited) : Prop where
  rows : SameRows s₀ a.store
  reserved : ∀ p l, a.store.reserved p l = s₀.reserved p l +
    s₀.reservations.sum fun id r =>
      if r.productId = p ∧ r.locationId = l then a.posted id else 0

theorem Accounted.start (s : Store) : Accounted s ⟨s, fun _ => 0⟩ where
  rows := SameRows.refl s
  reserved p l := by
    rw [Table.sum_eq_zero fun _ _ _ => ite_self 0, add_zero]

theorem Accounted.commit (hs : WellFormed s₀) {a : Audited} (h : Accounted s₀ a)
    {request : ReservationRequest} (hw : ∀ x ∈ w.postings, InPlace s₀ x.1) :
    Accounted s₀ (reservationRequests.commit request w a) := by
  simp only [reservationRequests]
  split
  · next _ store hcommit =>
    refine ⟨h.rows.commit (owned_of_inPlace hs h.rows hw) hcommit, fun p l => ?_⟩
    dsimp only
    rw [reserved_commit hs h.rows hw hcommit, h.reserved, add_assoc, ← sum_postedTo hw,
      ← Table.sum_add]
    congr 1
    refine Table.sum_congr fun id r _ => ?_
    split
    · rfl
    · exact add_zero 0
  · exact h

end Accounts

section Shares

variable {s₀ : Store}

theorem postedTo_singleton (x : Id × StockReservation) (q : ℤ) (id : Id) :
    postedTo [(x, q)] id = if x.1 = id then q else 0 := by
  simp [postedTo]

/-- Of carts that hold what was read, each reservation is posted with its quantity. -/
theorem postedTo_cleanup {cartIds : List Id} {rows : List (Id × StockReservation)}
    (h : AsRead s (.cleanup cartIds rows)) {id : Id} {r : StockReservation}
    (hr : s.reservations.find? id = some r) :
    postedTo (PendingWrite.cleanup cartIds rows).postings id =
      if isCartReservation cartIds r then -r.quantity else 0 := by
  have hpairs : postedTo (PendingWrite.cleanup cartIds rows).postings id =
      ((rows.map fun x => (x.1, x.2.quantity)).map fun y => if y.1 = id then -y.2 else 0).sum := by
    simp only [postedTo, PendingWrite.postings, List.map_map]
    rfl
  have hread : (cartReservations cartIds s).map (fun x => (x.1, x.2.quantity)) =
      rows.map fun x => (x.1, x.2.quantity) := h
  rw [hpairs, ← hread, List.map_map]
  have hsum := Table.sum_filter (t := s.reservations.toTable)
    (fun x => isCartReservation cartIds x.2)
    fun (k : Id) (x : StockReservation) => if k = id then -x.quantity else 0
  refine hsum.trans ?_
  have hswap : (s.reservations.sum fun k x => if isCartReservation cartIds x then
      (if k = id then -x.quantity else 0) else 0) =
      s.reservations.sum fun k x => if k = id then
        (if isCartReservation cartIds x then -x.quantity else 0) else 0 := by
    refine Table.sum_congr fun k x _ => ?_
    by_cases hk : k = id
    · simp [hk]
    · simp [hk]
  exact hswap.trans (Table.sum_ite_key hr fun _ x =>
    if isCartReservation cartIds x then -x.quantity else 0)

/-- A transaction that finds what was read changes the share of each reservation by what it
posts for it. -/
theorem share_rewrite (h : AsRead s w) (hcommit : w.commit s = .ok ((), s')) {id : Id}
    {r : StockReservation} (hr : s.reservations.find? id = some r) :
    (w.rewrite id r).share - r.share = postedTo w.postings id := by
  -- A release and an expiry hand back the quantity that was read, which the row still has.
  have hclose (id' : Id) (read : StockReservation) (status : ReservationStatus)
      (hstatus : status ≠ .active)
      (hread : ∀ r' ∈ s.reservations.find? id', r'.status = .active ∧ r'.quantity = read.quantity) :
      (if id = id' then { r with status } else r).share - r.share =
        postedTo [((id', read), -read.quantity)] id := by
    rw [postedTo_singleton]
    by_cases hid : id = id'
    · subst hid
      obtain ⟨hactive, hq⟩ := hread r hr
      simp [StockReservation.share, hactive, hstatus, hq]
    · simp [hid, Ne.symm hid]
  cases w with
  | update id' dto read =>
    obtain ⟨_, _, havail⟩ := commitUpdate_ok .exact hcommit
    have hfound := h.resolve_left fun hrefused => not_le.mpr hrefused.2 (havail hrefused.1)
    simp only [PendingWrite.rewrite, PendingWrite.postings, postedTo_singleton]
    by_cases hid : id = id'
    · subst hid
      rw [if_pos rfl, if_pos rfl]
      rcases hfound r hr with ⟨hactive, hq⟩ | ⟨hinactive, hzero⟩
      · have hshare : (updateData dto r).share = dto.quantity.getD r.quantity := by
          simp [StockReservation.share, updateData, hactive]
        rw [hshare, StockReservation.share, if_pos hactive, quantityDiff]
        cases hdto : dto.quantity with
        | none => simp
        | some q =>
          rw [hdto] at hq
          simp only [Option.getD_some, hq.resolve_left (by simp)]
      · rw [hzero]
        simp [StockReservation.share, updateData, hinactive]
    · simp [hid, Ne.symm hid]
  | release id' read => exact hclose id' read .released (by decide) h
  | expire id' read => exact hclose id' read .expired (by decide) h
  | cleanup cartIds rows =>
    rw [postedTo_cleanup h hr]
    simp only [PendingWrite.rewrite]
    split
    · next hcart =>
      have hactive : r.status = .active := by
        obtain ⟨cartId, _, hof⟩ := List.any_eq_true.mp hcart
        simp only [SaleService.isReservationOf, Bool.decide_and, Bool.and_eq_true,
          decide_eq_true_eq] at hof
        exact hof.2.2
      simp [StockReservation.share, hactive]
    · exact sub_self _

/-- For each reservation, what was posted is what its share has changed by. -/
def Balanced (s₀ : Store) (a : Audited) : Prop :=
  ∀ id r₀ r, s₀.reservations.find? id = some r₀ → a.store.reservations.find? id = some r →
    a.posted id = r.share - r₀.share

theorem Balanced.commit (hs : WellFormed s₀) {a : Audited} (haccounted : Accounted s₀ a)
    (h : Balanced s₀ a) {request : ReservationRequest}
    (hw : ∀ x ∈ w.postings, InPlace s₀ x.1) (hread : AsRead a.store w) :
    Balanced s₀ (reservationRequests.commit request w a) := by
  simp only [reservationRequests]
  split
  · next _ store hcommit =>
    intro id r₀ r' hr₀ hr'
    dsimp only at hr' ⊢
    rw [(commit_ok (owned_of_inPlace hs haccounted.rows hw) hcommit).1] at hr'
    obtain ⟨r, hr, rfl⟩ := Option.map_eq_some_iff.mp hr'
    have hshare := share_rewrite hread hcommit hr
    have hposted := h id r₀ r hr₀ hr
    omega
  · exact h

end Shares

section Runs

variable {c : Catalogue} {s₀ : Store}
  {config : ReadCommit.Config Audited ReservationRequest PendingWrite}

/-- The active reservations hold what they held at the start and what was posted since. -/
theorem activeQty_of_balanced {a : Audited} (hrows : SameRows s₀ a.store) (h : Balanced s₀ a)
    (p l : Id) :
    a.store.activeQty p l = s₀.activeQty p l + s₀.reservations.sum fun id r =>
      if r.productId = p ∧ r.locationId = l then a.posted id else 0 := by
  have hfind : ∀ k, a.store.reservations.find? k =
      (s₀.reservations.find? k).map fun r₀ => (a.store.reservations.find? k).getD r₀ := by
    intro k
    cases hr₀ : s₀.reservations.find? k with
    | some r₀ =>
      obtain ⟨r, hr, _⟩ := hrows.reservations k r₀ hr₀
      simp [hr]
    | none =>
      cases hr : a.store.reservations.find? k with
      | none => rfl
      | some r =>
        obtain ⟨r₀, hr₀'⟩ := hrows.only k r hr
        rw [hr₀] at hr₀'
        cases hr₀'
  rw [activeQty_eq_sum_share, activeQty_eq_sum_share, Table.sum_of_find? hfind, ← Table.sum_add]
  refine Table.sum_congr fun k r₀ hr₀ => ?_
  obtain ⟨r, hr, hp, hl, _⟩ := hrows.reservations k r₀ hr₀
  have hposted := h k r₀ r hr₀ hr
  rw [hr, Option.getD_some, hp, hl]
  split <;> omega

/-- In every interleaving the account of what was posted explains the reserved quantities. -/
theorem accounted_of_interleaved {ok : Audited → ReservationRequest → PendingWrite → Prop}
    (hs : WellFormed s₀) (h : reservationRequests.Interleaved ok (Audited.start s₀) config) :
    Accounted s₀ config.state := by
  refine (ReadCommit.Interleaved.invariant (I := Accounted s₀)
    (K := fun _ _ (w : PendingWrite) => ∀ x ∈ w.postings, InPlace s₀ x.1) h (Accounted.start s₀)
    (fun _ hx => (by cases hx)) (fun a request w ha hread x hx => ?_)
    (fun a request w ha hw _ => ha.commit hs hw) fun _ _ _ _ _ _ _ _ hw => hw).1
  exact ha.rows.inPlace (find?_of_read hread x hx)

theorem balanced_of_interleaved (hs : WellFormed s₀)
    (h : reservationRequests.Interleaved (fun a _ w => AsRead a.store w) (Audited.start s₀)
      config) : Balanced s₀ config.state := by
  refine (ReadCommit.Interleaved.invariant (I := fun a => Accounted s₀ a ∧ Balanced s₀ a)
    (K := fun _ _ (w : PendingWrite) => ∀ x ∈ w.postings, InPlace s₀ x.1) h ⟨Accounted.start s₀, ?_⟩
    (fun _ hx => (by cases hx)) (fun a request w ha hread x hx => ?_)
    (fun a request w ha hw hread => ⟨ha.1.commit hs hw, Balanced.commit hs ha.1 ha.2 hw hread⟩)
    fun _ _ _ _ _ _ _ _ hw => hw).1.2
  · intro id r₀ r hr₀ hr
    obtain rfl := Option.some.inj (hr₀.symm.trans hr)
    exact (sub_self _).symm
  · exact ha.1.rows.inPlace (find?_of_read hread x hx)

/-- In every interleaving in which each transaction finds what its request has read: what is
posted for a reservation that is no longer active gives back what it held, what is posted for
one that is active is the net of its edits, and the reserved quantities are what the active
reservations hold. -/
theorem given_back_once (hreach : Reachable db c s₀)
    (hagree : s₀.ReservedAgrees)
    (h : reservationRequests.Interleaved (fun a _ w => AsRead a.store w) (Audited.start s₀)
      config) :
    (∀ id r₀, s₀.reservations.find? id = some r₀ →
      ∃ r, config.state.store.reservations.find? id = some r ∧
        (r.status ≠ .active → config.state.posted id = -r₀.share) ∧
        (r.status = .active → config.state.posted id = r.quantity - r₀.share)) ∧
    ∀ p l, config.state.store.reserved p l = config.state.store.activeQty p l := by
  have hs := wellFormed_of_reachable hreach
  have haccounted := accounted_of_interleaved hs h
  have hbalanced := balanced_of_interleaved hs h
  constructor
  · intro id r₀ hr₀
    obtain ⟨r, hr, _⟩ := haccounted.rows.reservations id r₀ hr₀
    have hposted := hbalanced id r₀ r hr₀ hr
    refine ⟨r, hr, fun hinactive => ?_, fun hactive => ?_⟩
    · rw [hposted, StockReservation.share, if_neg hinactive, zero_sub]
    · rw [hposted, StockReservation.share, if_pos hactive]
  · intro p l
    rw [haccounted.reserved, activeQty_of_balanced haccounted.rows hbalanced, hagree]

/-- Ten received, and reservations of five and three. -/
def twoReservations : List Call :=
  [⟨⟨0, 2024⟩, .stockIn 0 ⟨0, none, none, [⟨0, 10, 1, none⟩]⟩⟩,
    ⟨⟨1, 2024⟩, .createReservation 0 ⟨0, 0, 5, 100, none, none⟩⟩,
    ⟨⟨2, 2024⟩, .createReservation 0 ⟨0, 0, 3, 100, none, none⟩⟩]

def heldStore : Store := serveAll .exact twoReservations (Store.initial (.shop .fifo))

/-- Both requests read before either commits: an update and a release of different
reservations. -/
def updateAndRelease : ReadCommit.Config Audited ReservationRequest PendingWrite :=
  reservationRequests.execAll
    [.read (.update ⟨3, 2024⟩ 0 0 ⟨some 6, none, none, none⟩), .read (.release 0 1), .commit 1,
      .commit 0]
    (Audited.start heldStore)

theorem given_back_once_updateAndRelease :
    (∀ id r₀, heldStore.reservations.find? id = some r₀ →
      ∃ r, updateAndRelease.state.store.reservations.find? id = some r ∧
        (r.status ≠ .active → updateAndRelease.state.posted id = -r₀.share) ∧
        (r.status = .active → updateAndRelease.state.posted id = r.quantity - r₀.share)) ∧
    ∀ p l, updateAndRelease.state.store.reserved p l = updateAndRelease.state.store.activeQty p l :=
  have hreach : Reachable .exact (.shop .fifo) heldStore := reachable_serveAll _ _ _
  have hrun : ReachableBy .exact (Settled .exact) (.shop .fifo) heldStore :=
    runs_serveAll (by decide +kernel)
  given_back_once hreach
    (reservedAgrees_of_runs (wellFormed_initial _) (fun _ _ => rfl) hrun)
    (ReadCommit.interleaved_execAll (by decide +kernel))

/-- Two releases of one reservation that both read before either commits. -/
def twoReleases : ReadCommit.Config Audited ReservationRequest PendingWrite :=
  reservationRequests.execAll [.read (.release 0 0), .read (.release 0 0), .commit 0, .commit 0]
    (Audited.start heldStore)

/-- The five of the reservation are given back twice. -/
theorem released_twice :
    Reachable .exact (.shop .fifo) heldStore ∧
      reservationRequests.Interleaved (fun _ _ _ => True) (Audited.start heldStore) twoReleases ∧
      twoReleases.inFlight = [] ∧ twoReleases.state.posted 0 = -10 ∧
      twoReleases.state.store.reserved 0 0 = -2 ∧ twoReleases.state.store.activeQty 0 0 = 3 :=
  ⟨reachable_serveAll _ _ _, ReadCommit.interleaved_execAll (by decide +kernel),
    by decide +kernel⟩

end Runs

end Invetrixa
