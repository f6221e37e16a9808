import Invetrixa.Correctness.TransferConservation

/-!
# Transfers under interleaved requests

Shipping, receiving and cancelling a transfer each read its row and check its status with the
plain client, and commit in a transaction that looks at the status no more. As long as a shipment
commits before any other has, and goods come in while none have come in before, the stock of each
item is taken once and put back or delivered once. Two shipments that both read the draft before
either commits take it twice.

## Main definitions

- `TransferRequest`, `transferRequests` — the requests on one transfer, in two steps
- `Store.transferMoves` — how often a transfer has moved a product
- `InTime` — the condition on a transaction

## Main results

- `transferMoves_commit` — what a transaction adds to the movements of the transfer
- `moved_once`, `shipped_twice`
-/

namespace Invetrixa

open Rowstore Requests TransferService

/-- The requests that move the goods of a transfer. -/
inductive TransferRequest
  | ship (clock : Clock) (tenantId : Id)
  | receive (clock : Clock) (tenantId : Id) (items : List ReceiveItemDto)
  | cancel (clock : Clock) (tenantId : Id)

namespace TransferRequest

/-- What a request reads and checks before its transaction. -/
def read (id : Id) (s : Store) : TransferRequest → Option StockTransfer
  | .ship _ tenantId => (readShip tenantId id s).toOption
  | .receive _ tenantId items => (readReceive tenantId id items s).toOption
  | .cancel _ tenantId => (readCancel tenantId id s).toOption

/-- The transaction of a request, on the transfer it has read. -/
def commit (db : Database) (id : Id) (s : Store) (t : StockTransfer) : TransferRequest → Store
  | .ship clock tenantId => commitShip db clock tenantId id t s
  | .receive clock tenantId items => commitReceive db clock tenantId id items t s
  | .cancel clock tenantId => commitCancel db clock tenantId id t s

/-- What a transaction puts into stock for an item, at the destination or back at the source. -/
def arriving (t : StockTransfer) (i : StockTransferItem) : TransferRequest → ℤ
  | .ship _ _ => 0
  | .receive _ _ items => ((received items i.productId).map ReceiveItemDto.receivedQuantity).getD 0
  | .cancel _ _ => if t.status = .inTransit then i.shippedQuantity else 0

/-- A transaction makes a movement of an item. -/
def Moves (t : StockTransfer) (type : StockMovementType) (i : StockTransferItem) :
    TransferRequest → Prop
  | .ship _ _ => type = .out
  | r => type = .in ∧ 0 < r.arriving t i

instance (t : StockTransfer) (type : StockMovementType) (i : StockTransferItem)
    (r : TransferRequest) : Decidable (r.Moves t type i) := by
  obtain ⟨⟩ := r
  all_goals dsimp only [Moves]; infer_instance

end TransferRequest

/-- The requests on one transfer, in two steps. -/
def transferRequests (db : Database) (id : Id) :
    ReadCommit Store TransferRequest StockTransfer where
  read r s := r.read id s
  commit r t s := r.commit db id s t

/-- How many movements of a type a transfer has made of a product. -/
def Store.transferMoves (s : Store) (id : Id) (type : StockMovementType) (p : Id) : ℕ :=
  s.movements.sum fun _ m =>
    if m.transferId = some id ∧ m.movementType = type ∧ m.productId = p then 1 else 0

/-- The transaction comes in time: it ships what has not been shipped; and where it puts an item
into stock, the transfer is still on its way, or nothing of the item has been put into stock for
it. -/
def InTime (id : Id) (s : Store) (t : StockTransfer) : TransferRequest → Prop
  | .ship _ _ => ∀ u ∈ s.transfers.find? id, u.shippedAt = none
  | r => (∀ u ∈ s.transfers.find? id, u.status = .inTransit) ∨
      ∀ i ∈ t.items, 0 < r.arriving t i → s.transferMoves id .in i.productId = 0

instance (id : Id) (s : Store) (t : StockTransfer) (r : TransferRequest) :
    Decidable (InTime id s t r) := by
  obtain ⟨⟩ := r
  all_goals dsimp only [InTime]; infer_instance

variable {db : Database} {c : Catalogue} {clock : Clock} {tenantId id k p : Id} {s s' : Store}
  {t t' u : StockTransfer} {i : StockTransferItem} {r r' : TransferRequest}
  {type : StockMovementType}

section Moves

theorem transferMoves_createMovement (m : StockMovement) :
    (createMovement db m s).transferMoves k type p = s.transferMoves k type p +
      if m.transferId = some k ∧ m.movementType = type ∧ m.productId = p then 1 else 0 := by
  simp only [Store.transferMoves, createMovement, Serial.sum_create]

/-- A movement of an item is made if the transaction makes one. -/
theorem transferMoves_of_movement {m : StockMovement} (hid : m.transferId = some id)
    (hp : m.productId = i.productId) (hmoves : r.Moves t type i ↔ m.movementType = type) :
    (createMovement db m s).transferMoves k type p = s.transferMoves k type p +
      if id = k ∧ i.productId = p ∧ r.Moves t type i then 1 else 0 := by
  rw [transferMoves_createMovement]
  congr 1
  refine if_congr ?_ rfl rfl
  rw [hid, hp, hmoves, Option.some.injEq]
  exact and_congr_right fun _ => and_comm

/-- No movement of an item is made if the transaction makes none. -/
theorem transferMoves_of_not_moves (h : s'.movements = s.movements) (hmoves : ¬r.Moves t type i) :
    s'.transferMoves k type p = s.transferMoves k type p +
      if id = k ∧ i.productId = p ∧ r.Moves t type i then 1 else 0 := by
  rw [if_neg fun h => hmoves h.2.2, add_zero, Store.transferMoves, h]
  rfl

theorem transferMoves_shipItem (clock : Clock) :
    (shipItem db tenantId id t s i).transferMoves k type p = s.transferMoves k type p +
      if id = k ∧ i.productId = p ∧ (TransferRequest.ship clock tenantId).Moves t type i
        then 1 else 0 := by
  rw [shipItem_eq]
  exact transferMoves_of_movement (m := shippedMovement tenantId id t i _) rfl rfl eq_comm

theorem transferMoves_receiveItem {items : List ReceiveItemDto} :
    (TransferService.receiveItem db clock tenantId id items t s i).transferMoves k type p =
      s.transferMoves k type p +
        if id = k ∧ i.productId = p ∧ (TransferRequest.receive clock tenantId items).Moves t type i
          then 1 else 0 := by
  have harriving : (TransferRequest.receive clock tenantId items).arriving t i =
      ((received items i.productId).map ReceiveItemDto.receivedQuantity).getD 0 := rfl
  rw [TransferService.receiveItem]
  split
  · next hnone =>
    rw [hnone, Option.map_none, Option.getD_none] at harriving
    exact transferMoves_of_not_moves rfl fun h => absurd h.2 (by simp [harriving])
  · next x hsome =>
    rw [hsome, Option.map_some, Option.getD_some] at harriving
    dsimp only
    split
    · next hpos =>
      refine transferMoves_of_movement (s := updateTransfer id (markReceived i x) s)
        (m := arrivedMovement tenantId id t i x.receivedQuantity) rfl rfl ⟨fun h => h.1.symm, ?_⟩
      rintro rfl
      exact ⟨rfl, harriving ▸ hpos⟩
    · next hneg => exact transferMoves_of_not_moves rfl fun h => hneg (harriving ▸ h.2)

theorem transferMoves_cancelItem (hstatus : t.status = .inTransit) :
    (cancelItem db clock tenantId id t s i).transferMoves k type p = s.transferMoves k type p +
      if id = k ∧ i.productId = p ∧ (TransferRequest.cancel clock tenantId).Moves t type i
        then 1 else 0 := by
  have harriving : (TransferRequest.cancel clock tenantId).arriving t i = i.shippedQuantity :=
    if_pos hstatus
  rw [cancelItem]
  split
  · next hpos =>
    refine transferMoves_of_movement (m := reversalMovement tenantId id t i) rfl rfl
      ⟨fun h => h.1.symm, ?_⟩
    rintro rfl
    exact ⟨rfl, harriving ▸ hpos⟩
  · next hneg => exact transferMoves_of_not_moves rfl fun h => hneg (harriving ▸ h.2)

/-- The items of a transfer are about different products, so that a loop over them makes at most
one movement of each. -/
theorem transferMoves_foldl {f : Store → StockTransferItem → Store}
    (hf : ∀ s i, (f s i).transferMoves k type p = s.transferMoves k type p +
      if id = k ∧ i.productId = p ∧ r.Moves t type i then 1 else 0) (s : Store) :
    (t.items.foldl f s).transferMoves k type p = s.transferMoves k type p +
      if id = k ∧ ∃ i ∈ t.items, i.productId = p ∧ r.Moves t type i then 1 else 0 := by
  have hother : ∀ s i, i.productId ≠ p →
      (f s i).transferMoves k type p = s.transferMoves k type p := fun s i hp => by
    rw [hf, if_neg fun h => hp h.2.1, add_zero]
  cases h : t.itemOf p with
  | none =>
    have hnone := itemOf_eq_none_iff.mp h
    rw [if_neg fun ⟨_, i, hi, hp, _⟩ => hnone i hi hp, add_zero]
    exact Loops.view_foldl (fun s : Store => s.transferMoves k type p)
      (fun s i hi => hother s i (hnone i hi)) s
  | some i =>
    obtain ⟨hi, hp⟩ := itemOf_eq_some_iff.mp h
    obtain ⟨s', hbefore, hafter⟩ := Loops.exists_view_foldl
      (fun s : Store => s.transferMoves k type p) hother t.items_nodup hi hp s
    rw [hafter, hf, hbefore]
    congr 1
    refine if_congr (and_congr_right fun _ => ?_) rfl rfl
    refine ⟨fun ⟨_, hmoves⟩ => ⟨i, hi, hp, hmoves⟩, fun ⟨j, hj, hp', hmoves⟩ => ?_⟩
    obtain rfl := Option.some.inj (h.symm.trans (itemOf_eq_some_iff.mpr ⟨hj, hp'⟩))
    exact ⟨hp, hmoves⟩

/-- What a transaction adds to the movements of a transfer: one out for each item it ships, one in
for each item of which something comes in. -/
theorem transferMoves_commit (db : Database) (id : Id) (s : Store) (t : StockTransfer)
    (r : TransferRequest) (k : Id) (type : StockMovementType) (p : Id) :
    (r.commit db id s t).transferMoves k type p = s.transferMoves k type p +
      if id = k ∧ ∃ i ∈ t.items, i.productId = p ∧ r.Moves t type i then 1 else 0 := by
  cases r with
  | ship clock tenantId => exact transferMoves_foldl (fun _ _ => transferMoves_shipItem clock) _
  | receive clock tenantId items => exact transferMoves_foldl (fun _ _ => transferMoves_receiveItem) _
  | cancel clock tenantId =>
    by_cases hstatus : t.status = .inTransit
    · have hback : (TransferRequest.cancel clock tenantId).commit db id s t =
          updateTransfer id (fun t => { t with status := .cancelled, cancelledAt := some clock.time })
            (t.items.foldl (cancelItem db clock tenantId id t) s) := by
        simp only [TransferRequest.commit, commitCancel, if_pos hstatus]
      rw [hback]
      exact transferMoves_foldl (fun _ _ => transferMoves_cancelItem hstatus) s
    · have hsame : (commitCancel db clock tenantId id t s).movements = s.movements := by
        simp only [commitCancel, if_neg hstatus]
        rfl
      have hnone : ∀ i, ¬(TransferRequest.cancel clock tenantId).Moves t type i := fun i h =>
        absurd h.2 (by simp [TransferRequest.arriving, hstatus])
      have hstays : ¬(id = k ∧ ∃ i ∈ t.items, i.productId = p ∧
          (TransferRequest.cancel clock tenantId).Moves t type i) := by
        rintro ⟨_, i, _, _, h⟩
        exact hnone i h
      rw [if_neg hstays, add_zero]
      exact congrArg (fun m : Serial StockMovement => m.sum _) hsame

end Moves

section Once

/-- What a transaction makes of the row of the transfer, its items apart. -/
def TransferRequest.mark (t : StockTransfer) : TransferRequest → StockTransfer
  | .ship clock _ => { t with status := .inTransit, shippedAt := some clock.time }
  | .receive clock _ _ => { t with status := .completed, receivedAt := some clock.time }
  | .cancel clock _ => { t with status := .cancelled, cancelledAt := some clock.time }

theorem moved_commit (db : Database) (u : StockTransfer) (r : TransferRequest)
    (hfind : s.transfers.find? id = some t) :
    ∃ t', Moved id t t' s (r.commit db id s u) ∧ t'.status = (r.mark t).status ∧
      t'.shippedAt = (r.mark t).shippedAt := by
  cases r with
  | ship clock tenantId =>
    obtain ⟨t', hmoved, hheader⟩ := moved_commitShip db clock tenantId u hfind
    exact ⟨t', hmoved, (congrArg StockTransfer.status hheader :),
      (congrArg StockTransfer.shippedAt hheader :)⟩
  | receive clock tenantId items =>
    obtain ⟨t', hmoved, hheader⟩ := moved_commitReceive db clock tenantId items u hfind
    exact ⟨t', hmoved, (congrArg StockTransfer.status hheader :),
      (congrArg StockTransfer.shippedAt hheader :)⟩
  | cancel clock tenantId => exact ⟨_, moved_commitCancel db clock tenantId u hfind, rfl, rfl⟩

/-- The goods of each item have left at most once and come in at most once: not at all before the
transfer is shipped, and not in while it is on its way. -/
structure MovedOnce (s : Store) (id : Id) : Prop where
  out : ∀ p, s.transferMoves id .out p ≤ 1
  «in» : ∀ p, s.transferMoves id .in p ≤ 1
  unshipped : (∀ t ∈ s.transfers.find? id, t.shippedAt = none) →
    ∀ type p, s.transferMoves id type p = 0
  inTransit : ∀ t ∈ s.transfers.find? id, t.status = .inTransit →
    t.shippedAt.isSome ∧ ∀ p, s.transferMoves id .in p = 0

/-- What a request in flight may rely on: the transfer stays, and it has been shipped if anything
of it is to come in. -/
def ShippedIfArriving (id : Id) (s : Store) (r : TransferRequest) (u : StockTransfer) : Prop :=
  ∃ t, s.transfers.find? id = some t ∧ ((∃ i ∈ u.items, 0 < r.arriving u i) → t.shippedAt.isSome)

theorem shippedIfArriving_of_read (h : MovedOnce s id) (hread : r.read id s = some u) :
    s.transfers.find? id = some u ∧ ShippedIfArriving id s r u := by
  cases r with
  | ship clock tenantId =>
    obtain ⟨hfind, _⟩ := readShip_ok (Except.toOption_eq_some_iff.mp hread)
    exact ⟨hfind, u, hfind, fun ⟨_, _, h⟩ => absurd h (lt_irrefl 0)⟩
  | receive clock tenantId items =>
    obtain ⟨hfind, _, hstatus, _⟩ := readReceive_ok (Except.toOption_eq_some_iff.mp hread)
    exact ⟨hfind, u, hfind, fun _ => (h.inTransit u hfind hstatus).1⟩
  | cancel clock tenantId =>
    obtain ⟨hfind, _, hstatus⟩ := readCancel_ok (Except.toOption_eq_some_iff.mp hread)
    refine ⟨hfind, u, hfind, fun ⟨i, _, hi⟩ => ?_⟩
    simp only [TransferRequest.arriving] at hi
    split at hi
    · next htransit => exact (h.inTransit u hfind htransit).1
    · exact absurd hi (lt_irrefl 0)

/-- Transactions do not undo a shipment. -/
theorem shippedAt_mark (h : t.shippedAt.isSome) : (r.mark t).shippedAt.isSome := by
  cases r with
  | ship clock tenantId => rfl
  | _ => exact h

theorem shippedIfArriving_commit (h : ShippedIfArriving id s r' t') :
    ShippedIfArriving id (r.commit db id s u) r' t' := by
  obtain ⟨t, hfind, hshipped⟩ := h
  obtain ⟨t₁, hmoved, _, hshippedAt⟩ := moved_commit db u r hfind
  refine ⟨t₁, hmoved.after, fun h => ?_⟩
  rw [hshippedAt]
  exact shippedAt_mark (hshipped h)

/-- A transaction in time moves the goods of an item only if they have not been moved before. -/
theorem transferMoves_eq_zero (h : MovedOnce s id) (htime : InTime id s u r) (hi : i ∈ u.items)
    (hmoves : r.Moves u type i) : s.transferMoves id type i.productId = 0 := by
  have hin : ∀ htype : type = .in, (∀ t ∈ s.transfers.find? id, t.status = .inTransit) ∨
      s.transferMoves id .in i.productId = 0 → s.transferMoves id type i.productId = 0 := by
    rintro rfl (htransit | hzero)
    · cases hfind : s.transfers.find? id with
      | none => exact h.unshipped (by simp [hfind]) _ _
      | some t => exact (h.inTransit t hfind (htransit t hfind)).2 _
    · exact hzero
  cases r with
  | ship clock tenantId => exact h.unshipped htime type i.productId
  | receive clock tenantId items => exact hin hmoves.1 (htime.imp_right fun h => h i hi hmoves.2)
  | cancel clock tenantId => exact hin hmoves.1 (htime.imp_right fun h => h i hi hmoves.2)

/-- A transaction in time keeps the goods moved at most once. -/
theorem movedOnce_commit (h : MovedOnce s id) (hrely : ShippedIfArriving id s r u)
    (htime : InTime id s u r) : MovedOnce (r.commit db id s u) id := by
  obtain ⟨t, hfind, hshipped⟩ := hrely
  obtain ⟨t', hmoved, hstatus, hshippedAt⟩ := moved_commit db u r hfind
  have hle : ∀ type p, s.transferMoves id type p ≤ 1 →
      (r.commit db id s u).transferMoves id type p ≤ 1 := by
    intro type p hone
    rw [transferMoves_commit]
    split
    · next hmoves =>
      obtain ⟨_, i, hi, rfl, hmoves⟩ := hmoves
      rw [transferMoves_eq_zero h htime hi hmoves]
    · exact hone
  refine ⟨fun p => hle .out p (h.out p), fun p => hle .in p (h.in p), fun hnone type p => ?_,
    fun t₁ ht₁ htransit => ?_⟩
  · -- The row was not shipped before either, and nothing can come in.
    have hunshipped : (r.mark t).shippedAt = none := hshippedAt.symm.trans (hnone t' hmoved.after)
    have hzero : s.transferMoves id type p = 0 := by
      refine h.unshipped (fun t₀ ht₀ => ?_) type p
      obtain rfl := Option.some.inj (hfind.symm.trans ht₀)
      by_contra hsome
      have := shippedAt_mark (r := r) (Option.isSome_iff_ne_none.mpr hsome)
      rw [hunshipped] at this
      cases this
    rw [transferMoves_commit, hzero, if_neg]
    rintro ⟨_, i, hi, _, hmoves⟩
    cases r with
    | ship clock tenantId => cases hunshipped
    | receive clock tenantId items =>
      have := hshipped ⟨i, hi, hmoves.2⟩
      rw [show t.shippedAt = none from hunshipped] at this
      cases this
    | cancel clock tenantId =>
      have := hshipped ⟨i, hi, hmoves.2⟩
      rw [show t.shippedAt = none from hunshipped] at this
      cases this
  · -- Only a shipment leaves the transfer on its way.
    obtain rfl := Option.some.inj (hmoved.after.symm.trans ht₁)
    rw [hstatus] at htransit
    cases r with
    | ship clock tenantId =>
      refine ⟨by rw [hshippedAt]; rfl, fun p => ?_⟩
      rw [transferMoves_commit, h.unshipped htime, if_neg]
      rintro ⟨_, i, _, _, hmoves⟩
      cases hmoves
    | receive clock tenantId items => cases htransit
    | cancel clock tenantId => cases htransit

end Once

section Runs

variable {call : Call} {config : ReadCommit.Config Store TransferRequest StockTransfer}

theorem movedOnce_of_same (h : MovedOnce s id)
    (hrow : s'.transfers.find? id = s.transfers.find? id)
    (hmoves : ∀ type p, s'.transferMoves id type p = s.transferMoves id type p) :
    MovedOnce s' id where
  out p := hmoves .out p ▸ h.out p
  «in» p := hmoves .in p ▸ h.in p
  unshipped hnone type p := (hmoves type p).trans (h.unshipped (hrow ▸ hnone) type p)
  inTransit t ht htransit :=
    have hold := h.inTransit t (hrow ▸ ht) htransit
    ⟨hold.1, fun p => (hmoves .in p).trans (hold.2 p)⟩

/-- Bookings that have nothing to do with a transfer make no movement for one. -/
theorem transferMoves_book {b : Booking} (h : b.Apart) :
    (book db b s).transferMoves id type p = s.transferMoves id type p := by
  have hcreate : ∀ m : StockMovement, m.transferId = none →
      (createMovement db m s).transferMoves id type p = s.transferMoves id type p := by
    intro m hm
    simp [transferMoves_createMovement, hm]
  cases b with
  | receipt clock m batchId => exact hcreate m h
  | issue i =>
    simp only [book, recordIssue_eq]
    exact hcreate _ rfl
  | voidItem tenantId saleId locationId item => exact hcreate _ rfl
  | expireCarts read => rw [book, releaseReservedQuantities_eq]; rfl
  | shipItem => exact h.elim
  | createTransfer => exact h.elim
  | updateTransfer => exact h.elim
  | _ => rfl

theorem transferMoves_step (hs : WellFormed s) (hcall : ¬call.request.IsTransfer) :
    (step db call s).transferMoves id type p = s.transferMoves id type p :=
  Runs.invariant (I := fun s' => s'.transferMoves id type p = s.transferMoves id type p)
    (books_apart hs hcall) rfl fun _ _ h hb => (transferMoves_book hb.2.2.2).trans h

theorem movedOnce_of_drafts (h : ∀ id, MovedOnce s id) (hdraft : Drafts s s') (id : Id) :
    MovedOnce s' id := by
  obtain ⟨t, hstatus, hshippedAt, _, rfl⟩ := hdraft
  by_cases hid : id = s.transfers.next
  · have hzero : ∀ type p, s.transferMoves id type p = 0 := by
      refine (h id).unshipped fun t ht => ?_
      rw [hid, Serial.find?_next] at ht
      cases ht
    have hrow : (s.transfers.create t).find? id = some t := by
      rw [Serial.find?_create, if_pos hid]
    refine ⟨fun p => (hzero .out p).trans_le zero_le_one, fun p =>
      (hzero .in p).trans_le zero_le_one, fun _ => hzero, fun t' ht' htransit => ?_⟩
    obtain rfl := Option.some.inj (hrow.symm.trans ht')
    rw [hstatus] at htransit
    cases htransit
  · refine movedOnce_of_same (h id) ?_ fun _ _ => rfl
    rw [Serial.find?_create, if_neg hid]

/-- A transition that reads and commits at once is a transaction in time. -/
theorem exists_commit_of_commits (hlawful : TransfersLawful s) (h : Commits db s s') :
    ∃ id t r, s.transfers.find? id = some t ∧ s' = TransferRequest.commit db id s t r ∧
      InTime id s t r ∧ ShippedIfArriving id s r t := by
  have hrow : ∀ {id : Id} {t : StockTransfer} {P : StockTransfer → Prop},
      s.transfers.find? id = some t → P t → ∀ u ∈ s.transfers.find? id, P u := by
    intro id t P hfind ht u hu
    obtain rfl := Option.some.inj (hfind.symm.trans hu)
    exact ht
  cases h with
  | ship clock tenantId id t hfind hstatus =>
    exact ⟨id, t, .ship clock tenantId, hfind, rfl,
      hrow (P := fun u => u.shippedAt = none) hfind ((hlawful id t hfind).draft hstatus),
      t, hfind, fun ⟨_, _, h⟩ => absurd h (lt_irrefl 0)⟩
  | receive clock tenantId id items t hfind hstatus =>
    exact ⟨id, t, .receive clock tenantId items, hfind, rfl,
      .inl (hrow (P := fun u => u.status = .inTransit) hfind hstatus),
      t, hfind, fun _ => (hlawful id t hfind).shippedAt (.inl hstatus)⟩
  | cancel clock tenantId id t hfind hstatus =>
    refine ⟨id, t, .cancel clock tenantId, hfind, rfl, ?_, t, hfind, ?_⟩
    · rcases hstatus with hstatus | hstatus
      · refine .inr fun i _ hi => absurd hi ?_
        simp [TransferRequest.arriving, hstatus]
      · exact .inl (hrow (P := fun u => u.status = .inTransit) hfind hstatus)
    · rintro ⟨i, _, hi⟩
      rcases hstatus with hstatus | hstatus
      · simp [TransferRequest.arriving, hstatus] at hi
      · exact (hlawful id t hfind).shippedAt (.inl hstatus)

theorem movedOnce_of_commits (hlawful : TransfersLawful s) (h : ∀ id, MovedOnce s id)
    (hcommit : Commits db s s') (k : Id) : MovedOnce s' k := by
  obtain ⟨id, t, r, hfind, rfl, htime, hrely⟩ := exists_commit_of_commits hlawful hcommit
  by_cases hk : k = id
  · subst hk
    exact movedOnce_commit (h k) hrely htime
  · obtain ⟨t', hmoved, _⟩ := moved_commit db t r hfind
    refine movedOnce_of_same (h k) (hmoved.others k hk) fun type p => ?_
    rw [transferMoves_commit, if_neg fun h => hk h.1.symm, add_zero]

/-- In every reachable store the goods of each transfer have left and come in at most once. -/
theorem movedOnce_of_reachable (h : Reachable db c s) (id : Id) : MovedOnce s id := by
  have hall : (WellFormed s ∧ TransfersLawful s) ∧ ∀ id, MovedOnce s id := by
    refine Runs.invariant (I := fun s => (WellFormed s ∧ TransfersLawful s) ∧
      ∀ id, MovedOnce s id) h ⟨⟨wellFormed_initial c, fun _ _ hr => (by cases hr)⟩, fun id => ?_⟩ ?_
    · exact ⟨fun _ => Nat.zero_le 1, fun _ => Nat.zero_le 1, fun _ _ _ => rfl, fun _ ht => nomatch ht⟩
    rintro s call ⟨⟨hs, hlawful⟩, hmoved⟩ _
    refine ⟨⟨wellFormed_step hs, lawful_step hs hlawful⟩, fun id => ?_⟩
    by_cases hcall : call.request.IsTransfer
    · obtain ⟨s₁, hdraft, hcommit⟩ := drafts_commits_of_step db hs hcall
      have hfirst : TransfersLawful s₁ ∧ ∀ id, MovedOnce s₁ id := by
        rcases hdraft with rfl | hdraft
        · exact ⟨hlawful, hmoved⟩
        · exact ⟨transfersLawful_of_drafts hlawful hdraft, movedOnce_of_drafts hmoved hdraft⟩
      rcases hcommit with hsame | hcommit
      · rw [hsame]
        exact hfirst.2 id
      · exact movedOnce_of_commits hfirst.1 hfirst.2 hcommit id
    · refine movedOnce_of_same (hmoved id) ?_ fun _ _ => transferMoves_step hs hcall
      rw [transfers_step hs hcall]
  exact hall.2 id

/-- In every interleaving of shipments, receipts and cancellations of one transfer whose
transactions come in time, the goods of each item are taken from the source at most once, and
delivered or taken back at most once. -/
theorem moved_once (hs : Reachable db c s)
    (h : (transferRequests db id).Interleaved (fun s r t => InTime id s t r) ⟨s, []⟩ config) :
    ∀ p, config.state.transferMoves id .out p ≤ 1 ∧ config.state.transferMoves id .in p ≤ 1 := by
  have hmoved : MovedOnce config.state id := by
    refine (ReadCommit.Interleaved.invariant (I := fun s => MovedOnce s id)
      (K := ShippedIfArriving id) h (movedOnce_of_reachable hs id) (fun _ hx => nomatch hx)
      (fun s r u hs hread => (shippedIfArriving_of_read hs hread).2)
      (fun s r u hs hrely htime => movedOnce_commit hs hrely htime) ?_).1
    exact fun s r u r' u' _ _ _ hrely => shippedIfArriving_commit hrely
  exact fun p => ⟨hmoved.out p, hmoved.in p⟩

/-- The store of the shop with ten received and a draft that takes four of them. -/
def draftStore : Store :=
  serveAll .exact
    [⟨⟨0, 2024⟩, .stockIn 0 ⟨0, none, none, [⟨0, 10, 1, none⟩]⟩⟩,
      ⟨⟨1, 2024⟩, .createTransfer 0 ⟨0, 1, none, [⟨0, 4⟩], none⟩⟩]
    (Store.initial (.shop .fifo))

/-- A receipt reads while the transfer is on its way and commits; a cancellation that has read the
draft commits only then. -/
def receivedThenCancelled : ReadCommit.Config Store TransferRequest StockTransfer :=
  (transferRequests .exact 0).execAll
    [.read (.ship ⟨2, 2024⟩ 0), .read (.cancel ⟨3, 2024⟩ 0), .commit 0,
      .read (.receive ⟨4, 2024⟩ 0 [⟨0, 4, none⟩]), .commit 1, .commit 0]
    ⟨draftStore, []⟩

theorem moved_once_receivedThenCancelled :
    receivedThenCancelled.state.transferMoves 0 .out 0 ≤ 1 ∧
      receivedThenCancelled.state.transferMoves 0 .in 0 ≤ 1 :=
  have hreach : Reachable .exact (.shop .fifo) draftStore := reachable_serveAll _ _ _
  moved_once hreach (ReadCommit.interleaved_execAll (by decide +kernel)) 0

/-- Two shipments that both read the draft before either commits. -/
def twoShipments : ReadCommit.Config Store TransferRequest StockTransfer :=
  (transferRequests .exact 0).execAll
    [.read (.ship ⟨2, 2024⟩ 0), .read (.ship ⟨3, 2024⟩ 0), .commit 0, .commit 0] ⟨draftStore, []⟩

/-- The four of the draft are taken from the source twice. -/
theorem shipped_twice :
    Reachable .exact (.shop .fifo) draftStore ∧
      (transferRequests .exact 0).Interleaved (fun _ _ _ => True) ⟨draftStore, []⟩ twoShipments ∧
      twoShipments.inFlight = [] ∧ twoShipments.state.transferMoves 0 .out 0 = 2 ∧
      twoShipments.state.onHand 0 0 = 2 :=
  ⟨reachable_serveAll _ _ _, ReadCommit.interleaved_execAll (by decide +kernel),
    by decide +kernel⟩

end Runs

end Invetrixa
