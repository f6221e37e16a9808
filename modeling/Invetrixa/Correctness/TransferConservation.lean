import Invetrixa.Refinement.Transfers

/-!
# Goods in transfer

The goods of a transfer are at the source, on their way, or at the destination, and what does not
arrive is recorded as a shortage. A request for a transfer adds a draft, or commits one of three
transitions, or both; each keeps the sum of these quantities.

## Main definitions

- `Drafts`, `Commits` — what a request for a transfer does
- `StockTransfer.Lawful` — the quantities of a transfer fit its status
- `Store.accounted` — on hand, on the way, and short

## Main results

- `drafts_commits_of_step` — a request adds a draft, or commits a transition, or both
- `accounted_commits`, `lawful_commits` — what a transition keeps
- `transfers_conserve`
-/

namespace Invetrixa

open Rowstore Requests TransferService

variable {db : Database} {c : Catalogue} {clock : Clock} {tenantId id p l : Id} {s s' s₀ s₁ : Store}
  {t t' : StockTransfer} {i : StockTransferItem} {call : Call}

section Transitions

/-- A draft is added, nothing of it shipped or received. -/
def Drafts (s s' : Store) : Prop :=
  ∃ t : StockTransfer, t.status = .draft ∧ t.shippedAt = none ∧
    (∀ i ∈ t.items, i.shippedQuantity = 0 ∧ i.receivedQuantity = 0) ∧
    s' = { s with transfers := s.transfers.create t }

/-- A transition of a transfer is committed, with what its checks have made sure of. -/
inductive Commits (db : Database) (s : Store) : Store → Prop
  | ship (clock : Clock) (tenantId id : Id) (t : StockTransfer)
      (hfind : s.transfers.find? id = some t) (hstatus : t.status = .draft)
      (hrows : ∀ i ∈ t.items, 0 ≤ i.requestedQuantity ∧
        s.HasBalance i.productId t.fromLocationId) :
      Commits db s (commitShip db clock tenantId id t s)
  | receive (clock : Clock) (tenantId id : Id) (items : List ReceiveItemDto) (t : StockTransfer)
      (hfind : s.transfers.find? id = some t) (hstatus : t.status = .inTransit)
      (hnamed : ∀ i ∈ t.items, ∃ r, received items i.productId = some r ∧
        0 ≤ r.receivedQuantity ∧ r.receivedQuantity ≤ i.shippedQuantity) :
      Commits db s (commitReceive db clock tenantId id items t s)
  | cancel (clock : Clock) (tenantId id : Id) (t : StockTransfer)
      (hfind : s.transfers.find? id = some t)
      (hstatus : t.status = .draft ∨ t.status = .inTransit) :
      Commits db s (commitCancel db clock tenantId id t s)

theorem commits_of_ship {m : String} (hs : WellFormed s)
    (h : ship db clock tenantId id s = .ok (m, s')) : Commits db s s' := by
  obtain ⟨t, hread, rfl⟩ := ship_eq_ok h
  obtain ⟨hfind, ht, hstatus, havail⟩ := readShip_ok hread
  refine .ship clock tenantId id t hfind hstatus fun i hi => ?_
  obtain ⟨htenant, hpos, _⟩ := hs.transfers id t hfind i hi
  exact ⟨hpos.le, (stocked_of_available (ht ▸ htenant) (lt_of_lt_of_le hpos (havail i hi))).2⟩

theorem commits_of_receive {m : String} {items : List ReceiveItemDto}
    (hvalid : ReceiveItemsValid items)
    (h : receive db clock tenantId id items s = .ok (m, s')) : Commits db s s' := by
  obtain ⟨t, hread, _⟩ := Except.bind_eq_ok_iff.mp h
  obtain ⟨hfind, _, _, _⟩ := readReceive_ok hread
  obtain ⟨rfl, hstatus, hnamed⟩ := receive_ok h hfind
  refine .receive clock tenantId id items t hfind hstatus fun i hi => ?_
  obtain ⟨r, hr, hle⟩ := hnamed i hi
  have hmem : r ∈ items := List.mem_reverse.mp (List.mem_of_find?_eq_some hr)
  exact ⟨r, hr, hvalid.2 r hmem, hle⟩

theorem commits_of_cancel {m : String} (h : cancel db clock tenantId id s = .ok (m, s')) :
    Commits db s s' := by
  obtain ⟨t, hread, _⟩ := Except.bind_eq_ok_iff.mp h
  obtain ⟨hfind, _, _⟩ := readCancel_ok hread
  obtain ⟨rfl, hstatus⟩ := cancel_ok h hfind
  exact .cancel clock tenantId id t hfind hstatus

theorem drafts_of_createDraft {dto : CreateTransferDto} {r : Id × String}
    (h : createDraft clock tenantId dto s = .ok (r, s')) : Drafts s s' := by
  obtain ⟨_, _, t, rfl, _, ⟨hstatus, hshippedAt⟩, _, hitems⟩ := createDraft_ok h
  refine ⟨t, hstatus, hshippedAt, fun i hi => ?_, rfl⟩
  rw [hitems] at hi
  obtain ⟨item, _, rfl⟩ := List.mem_map.mp hi
  exact ⟨rfl, rfl⟩

/-- Creating a transfer adds a draft if it adds anything, and ships it if that was asked for. -/
theorem drafts_commits_of_create {dto : CreateTransferDto} (hs : WellFormed s)
    (hvalid : CreateTransferDto.Valid dto) :
    ∃ s₁, (s₁ = s ∨ Drafts s s₁) ∧
      ((TransferService.create db clock tenantId dto s).2 = s₁ ∨
        Commits db s₁ (TransferService.create db clock tenantId dto s).2) := by
  refine createTransfer_cases
    (P := fun x => ∃ s₁, (s₁ = s ∨ Drafts s s₁) ∧ (x.2 = s₁ ∨ Commits db s₁ x.2)) ?_ ?_ ?_ ?_
  · intro e
    exact ⟨s, .inl rfl, .inl rfl⟩
  · intro id number s₁ hdraft _
    exact ⟨s₁, .inr (drafts_of_createDraft hdraft), .inl rfl⟩
  · intro id number s₁ e hdraft
    exact ⟨s₁, .inr (drafts_of_createDraft hdraft), .inl rfl⟩
  · intro id number s₁ message s₂ hdraft _ hship
    have hbooks : Books db anyBooking s s₁ :=
      books_createDraft (fun _ _ => trivial) (fun item hitem => hvalid.2 item hitem) hdraft
    exact ⟨s₁, .inr (drafts_of_createDraft hdraft),
      .inr (commits_of_ship (hbooks.keeps hs).1 hship)⟩

/-- A request for a transfer adds a draft, or commits a transition, or both, or does nothing. -/
theorem drafts_commits_of_step (db : Database) (hs : WellFormed s)
    (hcall : call.request.IsTransfer) :
    ∃ s₁, (s₁ = s ∨ Drafts s s₁) ∧ (step db call s = s₁ ∨ Commits db s₁ (step db call s)) := by
  obtain ⟨clock, request⟩ := call
  cases request with
  | createTransfer tenantId dto =>
    exact step_preserves_of_valid
      (P := fun s' => ∃ s₁, (s₁ = s ∨ Drafts s s₁) ∧ (s' = s₁ ∨ Commits db s₁ s'))
      ⟨s, .inl rfl, .inl rfl⟩ fun hvalid => drafts_commits_of_create hs hvalid
  | shipTransfer tenantId id =>
    have h : step db ⟨clock, .shipTransfer tenantId id⟩ s = s ∨ (_ ∧ Commits db s _) :=
      step_cases_of_serve (ship db clock tenantId id) rfl fun _ _ _ h => commits_of_ship hs h
    exact ⟨s, .inl rfl, h.imp_right And.right⟩
  | receiveTransfer tenantId id items =>
    have h : step db ⟨clock, .receiveTransfer tenantId id items⟩ s = s ∨ (_ ∧ Commits db s _) :=
      step_cases_of_serve (receive db clock tenantId id items) rfl
        fun _ _ hvalid h => commits_of_receive hvalid h
    exact ⟨s, .inl rfl, h.imp_right And.right⟩
  | cancelTransfer tenantId id =>
    have h : step db ⟨clock, .cancelTransfer tenantId id⟩ s = s ∨ (_ ∧ Commits db s _) :=
      step_cases_of_serve (cancel db clock tenantId id) rfl fun _ _ _ h => commits_of_cancel h
    exact ⟨s, .inl rfl, h.imp_right And.right⟩
  | _ => exact hcall.elim

end Transitions

section Lawful

/-- The quantities of a transfer fit its status: nothing is shipped before it is shipped and all
that was requested after, and something is received only on completion, no more than was
shipped. -/
structure StockTransfer.Lawful (t : StockTransfer) : Prop where
  draft : t.status = .draft → t.shippedAt = none
  shippedAt : t.status = .inTransit ∨ t.status = .completed → t.shippedAt.isSome
  unshipped : t.shippedAt = none → ∀ i ∈ t.items, i.shippedQuantity = 0
  shipped : t.shippedAt.isSome → ∀ i ∈ t.items, i.shippedQuantity = i.requestedQuantity
  unreceived : t.status ≠ .completed → ∀ i ∈ t.items, i.receivedQuantity = 0
  bounds : ∀ i ∈ t.items, 0 ≤ i.receivedQuantity ∧ i.receivedQuantity ≤ i.shippedQuantity

def TransfersLawful (s : Store) : Prop := s.transfers.All fun _ t => t.Lawful

theorem transfersLawful_of_drafts (h : TransfersLawful s) (hdraft : Drafts s s') :
    TransfersLawful s' := by
  obtain ⟨t, hstatus, hshippedAt, hitems, rfl⟩ := hdraft
  refine Serial.All_create h ⟨fun _ => hshippedAt, ?_, fun _ i hi => (hitems i hi).1, ?_,
    fun _ i hi => (hitems i hi).2, fun i hi => ?_⟩
  · rw [hstatus]
    rintro (h | h) <;> cases h
  · rw [hshippedAt]
    exact fun h => (by cases h)
  · rw [(hitems i hi).1, (hitems i hi).2]
    exact ⟨le_rfl, le_rfl⟩

theorem transfersLawful_of_moved (h : TransfersLawful s) (hmoved : Moved id t t' s s')
    (ht' : t'.Lawful) : TransfersLawful s' := by
  intro k r hr
  by_cases hk : k = id
  · subst hk
    obtain rfl := Option.some.inj (hmoved.after.symm.trans hr)
    exact ht'
  · rw [hmoved.others k hk] at hr
    exact h k r hr

/-- Transitions keep transfers lawful. -/
theorem lawful_commits (h : TransfersLawful s) (hcommit : Commits db s s') :
    TransfersLawful s' := by
  cases hcommit with
  | ship clock tenantId id t hfind hstatus hrows =>
    obtain ⟨t', hmoved, hheader⟩ := moved_commitShip db clock tenantId t hfind
    have hstatus' : t'.status = .inTransit := congrArg StockTransfer.status hheader
    have hshippedAt : t'.shippedAt = some clock.time := congrArg StockTransfer.shippedAt hheader
    -- Nothing of a draft has come in, so that what is shipped bounds what is received.
    have hunreceived := (h id t hfind).unreceived (by rw [hstatus]; decide)
    have hitems : ∀ j ∈ t'.items, j.shippedQuantity = j.requestedQuantity ∧
        j.receivedQuantity = 0 ∧ 0 ≤ j.requestedQuantity := by
      intro j hj
      obtain ⟨i, hi, rfl⟩ := (mem_items_commitShip hmoved).mp hj
      exact ⟨rfl, hunreceived i hi, (hrows i hi).1⟩
    refine transfersLawful_of_moved h hmoved ⟨?_, fun _ => ?_, ?_, fun _ j hj => (hitems j hj).1,
      fun _ j hj => (hitems j hj).2.1, fun j hj => ?_⟩
    · rw [hstatus']
      exact fun h => (by cases h)
    · rw [hshippedAt]
      rfl
    · rw [hshippedAt]
      exact fun h => (by cases h)
    · obtain ⟨hshipped, hreceived, hrequested⟩ := hitems j hj
      omega
  | receive clock tenantId id items t hfind hstatus hnamed =>
    obtain ⟨t', hmoved, hheader⟩ := moved_commitReceive db clock tenantId items t hfind
    have hlawful := h id t hfind
    have hstatus' : t'.status = .completed := congrArg StockTransfer.status hheader
    have hshippedAt : t'.shippedAt = t.shippedAt := (congrArg StockTransfer.shippedAt hheader :)
    have hshipped := hlawful.shippedAt (.inl hstatus)
    have hitems : ∀ j ∈ t'.items, j.shippedQuantity = j.requestedQuantity ∧
        0 ≤ j.receivedQuantity ∧ j.receivedQuantity ≤ j.shippedQuantity := by
      intro j hj
      -- The request names every item, so that each row is rewritten with the quantity it names.
      have hfound : ∀ i ∈ t.items, ∃ r, received items i.productId = some r := fun i hi =>
        (hnamed i hi).imp fun _ hr => hr.1
      obtain ⟨i, hi, r, hr, rfl⟩ := mem_items_commitReceive hmoved hfound hj
      obtain ⟨r', hr', hbounds⟩ := hnamed i hi
      obtain rfl := Option.some.inj (hr.symm.trans hr')
      exact ⟨hlawful.shipped hshipped i hi, hbounds⟩
    refine transfersLawful_of_moved h hmoved ⟨?_, fun _ => ?_, ?_, fun _ j hj => (hitems j hj).1,
      fun h => absurd hstatus' h, fun j hj => (hitems j hj).2⟩
    · rw [hstatus']
      exact fun h => (by cases h)
    · rwa [hshippedAt]
    · rw [hshippedAt]
      exact fun h => absurd hshipped (by simp [h])
  | cancel clock tenantId id t hfind hstatus =>
    have hlawful := h id t hfind
    refine transfersLawful_of_moved h (moved_commitCancel db clock tenantId t hfind) ⟨?_, ?_,
      hlawful.unshipped, hlawful.shipped, fun _ => hlawful.unreceived ?_, hlawful.bounds⟩
    · exact fun h => (by cases h)
    · rintro (h | h) <;> cases h
    · rcases hstatus with hstatus | hstatus <;> rw [hstatus] <;> decide

theorem transfers_eq_book {b : Booking} (h : b.Apart) :
    (book db b s).transfers = s.transfers := by
  cases b with
  | issue i => simp only [book, recordIssue_eq]
  | expireCarts read => rw [book, releaseReservedQuantities_eq]; rfl
  | shipItem => exact h.elim
  | createTransfer => exact h.elim
  | updateTransfer => exact h.elim
  | _ => rfl

/-- Requests for anything but a transfer leave the transfers alone. -/
theorem transfers_step (hs : WellFormed s) (hcall : ¬call.request.IsTransfer) :
    (step db call s).transfers = s.transfers := by
  exact Runs.invariant (I := fun s' => s'.transfers = s.transfers) (books_apart hs hcall) rfl
    fun s' b h hb => (transfers_eq_book hb.2.2.2).trans h

theorem lawful_step (hs : WellFormed s) (h : TransfersLawful s) :
    TransfersLawful (step db call s) := by
  by_cases hcall : call.request.IsTransfer
  · obtain ⟨s₁, hdraft, hcommit⟩ := drafts_commits_of_step db hs hcall
    have hlawful : TransfersLawful s₁ := by
      rcases hdraft with rfl | hdraft
      · exact h
      · exact transfersLawful_of_drafts h hdraft
    rcases hcommit with hsame | hcommit
    · rwa [hsame]
    · exact lawful_commits hlawful hcommit
  · rw [TransfersLawful]
    rwa [transfers_step hs hcall]

/-- In every reachable store every transfer is lawful. -/
theorem transfersLawful_of_reachable (h : Reachable db c s) : TransfersLawful s := by
  have hboth : WellFormed s ∧ TransfersLawful s := by
    refine Runs.invariant (I := fun s => WellFormed s ∧ TransfersLawful s) h
      ⟨wellFormed_initial c, fun _ _ hr => (by cases hr)⟩ ?_
    exact fun s call hs _ => ⟨wellFormed_step hs.1, lawful_step hs.1 hs.2⟩
  exact hboth.2

end Lawful

section Conservation

/-- What the items of a transfer record of a product. -/
def StockTransfer.quantity (t : StockTransfer) (q : StockTransferItem → ℤ) (p : Id) : ℤ :=
  (t.items.map fun i => if i.productId = p then q i else 0).sum

/-- What is on its way of a product. -/
def Store.inTransit (s : Store) (p : Id) : ℤ :=
  s.transfers.sum fun _ t =>
    if t.status = .inTransit then t.quantity StockTransferItem.shippedQuantity p else 0

/-- What has been shipped of a product and has not arrived. -/
def Store.shortages (s : Store) (p : Id) : ℤ :=
  s.transfers.sum fun _ t => if t.status = .completed then
    t.quantity (fun i => i.shippedQuantity - i.receivedQuantity) p else 0

/-- What is on hand, on its way or short of a product. -/
def Store.accounted (s : Store) (p : Id) : ℤ := s.totalOnHand p + s.inTransit p + s.shortages p

/-- The items of a transfer under their products. -/
def StockTransfer.table (t : StockTransfer) : Table Id StockTransferItem where
  rows := t.items.map fun i => (i.productId, i)
  nodup := by
    rw [List.map_map]
    exact t.items_nodup

theorem quantity_eq (q : StockTransferItem → ℤ) :
    t.quantity q p = ((t.itemOf p).map q).getD 0 := by
  have hsum : t.quantity q p = t.table.sum fun k i => if k = p then q i else 0 := by
    simp only [StockTransfer.quantity, Table.sum, StockTransfer.table, List.map_map]
    rfl
  cases h : t.itemOf p with
  | none =>
    refine List.sum_eq_zero fun x hx => ?_
    obtain ⟨i, hi, rfl⟩ := List.mem_map.mp hx
    exact if_neg (itemOf_eq_none_iff.mp h i hi)
  | some i =>
    obtain ⟨hi, rfl⟩ := itemOf_eq_some_iff.mp h
    rw [hsum, Table.sum_ite_key (Table.find?_of_mem_rows (List.mem_map.mpr ⟨i, hi, rfl⟩))]
    rfl

/-- The share of a transfer in what is on its way or short. -/
def StockTransfer.outstanding (t : StockTransfer) (p : Id) : ℤ :=
  (if t.status = .inTransit then t.quantity StockTransferItem.shippedQuantity p else 0) +
    if t.status = .completed then
      t.quantity (fun i => i.shippedQuantity - i.receivedQuantity) p else 0

theorem accounted_eq :
    s.accounted p = s.totalOnHand p + s.transfers.sum fun _ t => t.outstanding p := by
  simp only [Store.accounted, Store.inTransit, Store.shortages, StockTransfer.outstanding,
    Table.sum_add, add_assoc]

/-- A transition keeps what is accounted for if what it adds on hand is what the transfer has
less outstanding. -/
theorem accounted_of_moved (hmoved : Moved id t t' s s')
    (h : s'.totalOnHand p + t'.outstanding p = s.totalOnHand p + t.outstanding p) :
    s'.accounted p = s.accounted p := by
  have hrows : ∀ k, s'.transfers.find? k = if k = id then some t' else s.transfers.find? k := by
    intro k
    by_cases hk : k = id
    · rw [if_pos hk, hk, hmoved.after]
    · rw [if_neg hk, hmoved.others k hk]
  have hsum := Table.sum_of_find?_ite hmoved.before hrows fun _ (t : StockTransfer) =>
    t.outstanding p
  rw [accounted_eq, accounted_eq, hsum]
  omega

/-- A draft is not outstanding. -/
theorem accounted_of_drafts (h : Drafts s s') : s'.accounted p = s.accounted p := by
  obtain ⟨t, hstatus, _, _, rfl⟩ := h
  have hnone : t.outstanding p = 0 := by simp [StockTransfer.outstanding, hstatus]
  rw [accounted_eq, accounted_eq, Serial.sum_create, hnone, add_zero]
  rfl

/-- Transitions keep what is on hand, on its way or short of each product. -/
theorem accounted_commits (h : TransfersLawful s) (hcommit : Commits db s s') :
    s'.accounted p = s.accounted p := by
  cases hcommit with
  | ship clock tenantId id t hfind hstatus hrows =>
    obtain ⟨t', hmoved, hheader⟩ := moved_commitShip db clock tenantId t hfind
    have hstatus' : t'.status = .inTransit := congrArg StockTransfer.status hheader
    refine accounted_of_moved hmoved ?_
    -- What leaves the shelf is outstanding from now on.
    simp only [StockTransfer.outstanding, hstatus, hstatus', quantity_eq, itemOf_commitShip hmoved]
    cases hitem : t.itemOf p with
    | none =>
      rw [totalOnHand_of_goods (goods_commitShip_of_none hitem)]
      simp
    | some i =>
      obtain ⟨hi, hp⟩ := itemOf_eq_some_iff.mp hitem
      rw [totalOnHand_commitShip hitem (hp ▸ (hrows i hi).2)]
      simp [shippedItem]
  | receive clock tenantId id items t hfind hstatus hnamed =>
    obtain ⟨t', hmoved, hheader⟩ := moved_commitReceive db clock tenantId items t hfind
    have hstatus' : t'.status = .completed := congrArg StockTransfer.status hheader
    refine accounted_of_moved hmoved ?_
    simp only [StockTransfer.outstanding, hstatus, hstatus', quantity_eq]
    cases hitem : t.itemOf p with
    | none =>
      rw [itemOf_commitReceive_of_none hmoved hitem,
        totalOnHand_of_goods (goods_commitReceive_of_none hitem)]
      simp
    | some i =>
      obtain ⟨hi, hp⟩ := itemOf_eq_some_iff.mp hitem
      obtain ⟨r, hr, hnonneg, _⟩ := hnamed i hi
      rw [hp] at hr
      rw [totalOnHand_commitReceive hitem hr, itemOf_commitReceive hmoved hitem hr,
        max_eq_right hnonneg]
      simp [receivedItem]
  | cancel clock tenantId id t hfind hstatus =>
    refine accounted_of_moved (moved_commitCancel db clock tenantId t hfind) ?_
    -- A draft has moved nothing; what is on its way goes back.
    rcases hstatus with hdraft | hstatus
    · have hsame : (commitCancel db clock tenantId id t s).totalOnHand p = s.totalOnHand p := by
        refine totalOnHand_of_goods ((goods_commitCancel t).trans ?_)
        rw [if_neg (by rw [hdraft]; decide)]
      simp [StockTransfer.outstanding, hdraft, hsame]
    · simp only [StockTransfer.outstanding, hstatus, quantity_eq]
      cases hitem : t.itemOf p with
      | none =>
        rw [totalOnHand_of_goods (goods_commitCancel_of_none hitem)]
        simp
      | some i =>
        obtain ⟨hi, _⟩ := itemOf_eq_some_iff.mp hitem
        obtain ⟨hreceived, hshipped⟩ := (h id t hfind).bounds i hi
        rw [totalOnHand_commitCancel hstatus hitem, max_eq_right (hreceived.trans hshipped)]
        simp

end Conservation

section Stock

/-- Balances, layers and movements are the same. -/
structure SameStock (s s' : Store) : Prop where
  balances : s'.balances = s.balances
  layers : s'.layers = s.layers
  consumptions : s'.consumptions = s.consumptions
  movements : s'.movements = s.movements

/-- The transitions that move stock. -/
inductive TransferStatus.MovesStock : TransferStatus → TransferStatus → Prop
  | ship : MovesStock .draft .inTransit
  | receive : MovesStock .inTransit .completed
  | cancel : MovesStock .inTransit .cancelled

/-- Stock changes only when a transfer is shipped, received, or cancelled on its way. -/
def StockMovesWithTransfer (s s' : Store) : Prop :=
  SameStock s s' ∨ ∃ id t t', Moved id t t' s s' ∧ TransferStatus.MovesStock t.status t'.status

/-- Each transition moves one transfer, which is a draft or on its way, and moves stock unless it
cancels a draft. -/
theorem moved_of_commits (hcommit : Commits db s s') :
    ∃ id t t', Moved id t t' s s' ∧ (t.status = .draft ∨ t.status = .inTransit) ∧
      (SameStock s s' ∨ TransferStatus.MovesStock t.status t'.status) := by
  cases hcommit with
  | ship clock tenantId id t hfind hstatus hrows =>
    obtain ⟨t', hmoved, hheader⟩ := moved_commitShip db clock tenantId t hfind
    have hstatus' : t'.status = .inTransit := congrArg StockTransfer.status hheader
    refine ⟨id, t, t', hmoved, .inl hstatus, .inr ?_⟩
    rw [hstatus, hstatus']
    exact .ship
  | receive clock tenantId id items t hfind hstatus hnamed =>
    obtain ⟨t', hmoved, hheader⟩ := moved_commitReceive db clock tenantId items t hfind
    have hstatus' : t'.status = .completed := congrArg StockTransfer.status hheader
    refine ⟨id, t, t', hmoved, .inr hstatus, .inr ?_⟩
    rw [hstatus, hstatus']
    exact .receive
  | cancel clock tenantId id t hfind hstatus =>
    refine ⟨id, t, _, moved_commitCancel db clock tenantId t hfind, hstatus, ?_⟩
    rcases hstatus with hstatus | hstatus
    · left
      simp only [commitCancel, hstatus]
      exact ⟨rfl, rfl, rfl, rfl⟩
    · right
      rw [hstatus]
      exact .cancel

/-- A transfer that is completed or cancelled keeps its row. -/
def KeepsClosed (s s' : Store) : Prop :=
  ∀ id t, s.transfers.find? id = some t → t.status = .completed ∨ t.status = .cancelled →
    s'.transfers.find? id = some t

theorem keepsClosed_of_drafts (h : Drafts s s') : KeepsClosed s s' := by
  obtain ⟨t, _, _, _, rfl⟩ := h
  intro id t' hfind _
  rw [Serial.find?_create, if_neg]
  · exact hfind
  · rintro rfl
    rw [Serial.find?_next] at hfind
    cases hfind

theorem keepsClosed_of_commits (hcommit : Commits db s s') : KeepsClosed s s' := by
  obtain ⟨id, t, t', hmoved, hopen, _⟩ := moved_of_commits hcommit
  intro k r hr hclosed
  rw [hmoved.others k, hr]
  rintro rfl
  obtain rfl := Option.some.inj (hmoved.before.symm.trans hr)
  rcases hopen with h | h <;> rw [h] at hclosed <;> rcases hclosed with h | h <;> cases h

theorem KeepsClosed.trans {s'' : Store} (h : KeepsClosed s s') (h' : KeepsClosed s' s'') :
    KeepsClosed s s'' :=
  fun id t hfind hclosed => h' id t (h id t hfind hclosed) hclosed

end Stock

section Runs

/-- The quantities of each item: what is received is at most what is shipped, and what is shipped
is what was requested, from the moment of shipping on. -/
def QuantitiesAgree (s : Store) : Prop :=
  s.transfers.All fun _ t =>
    (t.status = .inTransit ∨ t.status = .completed → t.shippedAt.isSome) ∧
    ∀ i ∈ t.items, 0 ≤ i.receivedQuantity ∧ i.receivedQuantity ≤ i.shippedQuantity ∧
      (t.shippedAt.isSome → i.shippedQuantity = i.requestedQuantity)

theorem quantitiesAgree_of_lawful (h : TransfersLawful s) : QuantitiesAgree s := by
  intro id t hfind
  have hlawful := h id t hfind
  exact ⟨hlawful.shippedAt, fun i hi => ⟨(hlawful.bounds i hi).1, (hlawful.bounds i hi).2,
    fun hshipped => hlawful.shipped hshipped i hi⟩⟩

/-- One request for a transfer. -/
theorem keeps_of_transfer (hs : WellFormed s) (hlawful : TransfersLawful s)
    (hcall : call.request.IsTransfer) :
    (∀ p, (step db call s).accounted p = s.accounted p) ∧ KeepsClosed s (step db call s) := by
  obtain ⟨s₁, hdraft, hcommit⟩ := drafts_commits_of_step db hs hcall
  have hfirst : TransfersLawful s₁ ∧ (∀ p, s₁.accounted p = s.accounted p) ∧ KeepsClosed s s₁ := by
    rcases hdraft with rfl | hdraft
    · exact ⟨hlawful, fun _ => rfl, fun _ _ hfind _ => hfind⟩
    · exact ⟨transfersLawful_of_drafts hlawful hdraft, fun _ => accounted_of_drafts hdraft,
        keepsClosed_of_drafts hdraft⟩
  obtain ⟨hlawful₁, haccounted, hclosed⟩ := hfirst
  rcases hcommit with hsame | hcommit
  · rw [hsame]
    exact ⟨haccounted, hclosed⟩
  · refine ⟨fun p => ?_, hclosed.trans (keepsClosed_of_commits hcommit)⟩
    rw [accounted_commits hlawful₁ hcommit, haccounted]

theorem stockMoves_of_transfer (hs : WellFormed s) (hcall : call.request.IsTransfer) :
    ∃ s₁, (s₁ = s ∨ Drafts s s₁) ∧ StockMovesWithTransfer s₁ (step db call s) := by
  obtain ⟨s₁, hdraft, hcommit⟩ := drafts_commits_of_step db hs hcall
  refine ⟨s₁, hdraft, ?_⟩
  rcases hcommit with hsame | hcommit
  · rw [hsame]
    exact .inl ⟨rfl, rfl, rfl, rfl⟩
  · obtain ⟨id, t, t', hmoved, _, hstock⟩ := moved_of_commits hcommit
    exact hstock.imp_right fun hmoves => ⟨id, t, t', hmoved, hmoves⟩

/-- In every run of requests for transfers from a reachable store: what is on hand, on its way or
short of each product stays the same; the quantities of all items agree; stock changes only when
a transfer, be it one drafted by the same request, is shipped, received, or cancelled on its way;
and completed and cancelled transfers stay as they are. -/
theorem transfers_conserve (hs₀ : Reachable db c s₀)
    (h : Runs (step db) (fun _ call => call.request.IsTransfer) s₀ s) :
    (∀ p, s.totalOnHand p + s.inTransit p + s.shortages p =
      s₀.totalOnHand p + s₀.inTransit p + s₀.shortages p) ∧
    QuantitiesAgree s ∧
    (∀ call : Call, call.request.IsTransfer → ∃ s₁, (s₁ = s ∨ Drafts s s₁) ∧
      StockMovesWithTransfer s₁ (step db call s)) ∧
    KeepsClosed s₀ s := by
  have hrun : (WellFormed s ∧ TransfersLawful s) ∧ (∀ p, s.accounted p = s₀.accounted p) ∧
      KeepsClosed s₀ s := by
    refine Runs.invariant (I := fun s => (WellFormed s ∧ TransfersLawful s) ∧
      (∀ p, s.accounted p = s₀.accounted p) ∧ KeepsClosed s₀ s) h
      ⟨⟨wellFormed_of_reachable hs₀, transfersLawful_of_reachable hs₀⟩, fun _ => rfl,
        fun _ _ hfind _ => hfind⟩ ?_
    rintro s call ⟨⟨hs, hlawful⟩, haccounted, hclosed⟩ hcall
    obtain ⟨hsame, hkept⟩ := keeps_of_transfer hs hlawful hcall
    exact ⟨⟨wellFormed_step hs, lawful_step hs hlawful⟩,
      fun p => (hsame p).trans (haccounted p), hclosed.trans hkept⟩
  obtain ⟨⟨hs, hlawful⟩, haccounted, hclosed⟩ := hrun
  exact ⟨haccounted, quantitiesAgree_of_lawful hlawful,
    fun call hcall => stockMoves_of_transfer hs hcall, hclosed⟩

/-- Ten received, then three transfers of them: one received with a shortage of one, one
cancelled on its way, one still on its way. -/
def threeTransfers : List Call :=
  [⟨⟨1, 2024⟩, .createTransfer 0 ⟨0, 1, some .inTransit, [⟨0, 4⟩], none⟩⟩,
    ⟨⟨2, 2024⟩, .createTransfer 0 ⟨0, 1, none, [⟨0, 3⟩], none⟩⟩,
    ⟨⟨3, 2024⟩, .receiveTransfer 0 0 [⟨0, 3, some "broken"⟩]⟩,
    ⟨⟨4, 2024⟩, .shipTransfer 0 1⟩,
    ⟨⟨5, 2024⟩, .cancelTransfer 0 1⟩,
    ⟨⟨6, 2024⟩, .createTransfer 0 ⟨0, 1, some .inTransit, [⟨0, 2⟩], none⟩⟩]

/-- The store of the shop with ten received at the first location. -/
def tenReceivedStore : Store :=
  serveAll .exact [⟨⟨0, 2024⟩, .stockIn 0 ⟨0, none, none, [⟨0, 10, 1, none⟩]⟩⟩]
    (Store.initial (.shop .fifo))

theorem transfers_conserve_three :
    (serveAll .exact threeTransfers tenReceivedStore).totalOnHand 0 = 7 ∧
      (serveAll .exact threeTransfers tenReceivedStore).inTransit 0 = 2 ∧
      (serveAll .exact threeTransfers tenReceivedStore).shortages 0 = 1 ∧
      QuantitiesAgree (serveAll .exact threeTransfers tenReceivedStore) :=
  have hrun : Runs (step .exact) (fun _ call => call.request.IsTransfer) tenReceivedStore
      (serveAll .exact threeTransfers tenReceivedStore) := runs_serveAll (by decide +kernel)
  ⟨by decide +kernel, by decide +kernel, by decide +kernel,
    (transfers_conserve (reachable_serveAll _ _ _) hrun).2.1⟩

end Runs

end Invetrixa
