import Invetrixa.Refinement.SaleSteps

/-!
# The cleanup of carts between other requests

The job scans for carts that are too old, then reads their reservations, and then deletes the
carts by the ids of its scan, in a transaction that looks at their status no more. Between these
steps any other request may be served. As long as no cart has been completed between the scan and
the transaction, only carts past the limit are deleted, with their items, and no payment is. A
cart that is completed in between is deleted with its items and payments.

## Main definitions

- `CleanupEvent`, `CleanupRun` — the steps of jobs and other requests in any order
- `Cleanup.Spares` — what a transaction of the job may delete
- `Undisturbed` — the condition on a transaction of the job

## Main results

- `readCleanup_eq` — the two reads of the job, with nothing in between
- `sales_spared`, `completed_sale_deleted`
-/

namespace Invetrixa

open Rowstore Requests CartCleanupService

/-- The active reservations of carts, the second read of the job. -/
def heldReservations (cartIds : List Id) (s : Store) : List StockReservation :=
  (s.reservations.rows.filter fun r => isCartReservation cartIds r.2).map Prod.snd

/-- What the job reads is what its two reads return one after the other. -/
theorem readCleanup_eq (clock : Clock) (s : Store) :
    readCleanup clock s = if (abandonedCarts clock s).length = 0 then none
      else some ⟨abandonedCarts clock s, heldReservations (abandonedCarts clock s) s⟩ := rfl

/-- What happens: a request is served, or a job makes its first read, its second, or its
transaction. Jobs are named by their position. -/
inductive CleanupEvent
  | call (call : Call)
  | scan (clock : Clock)
  | readReservations (i : ℕ)
  | commit (i : ℕ)

/-- A transaction of a job: when the job began, and the store before and after. -/
structure Cleanup where
  clock : Clock
  before : Store
  after : Store

/-- The store, the jobs after their first and after their second read, the sales that were
completed, and the transactions of the jobs so far. -/
structure CleanupRun where
  store : Store
  scanned : List (Clock × List Id)
  read : List (Clock × Abandoned)
  completed : List Id
  cleanups : List Cleanup

/-- The cart that a request completes. -/
def completedBy (db : Database) (s : Store) (call : Call) : List Id :=
  match call.request with
  | .completeSale _ saleId _ => if Passes db s call then [saleId] else []
  | _ => []

/-- The transaction of a job that is served as one request. -/
def cleanupBy (db : Database) (s : Store) (call : Call) : List Cleanup :=
  match call.request with
  | .cleanupCarts => [⟨call.clock, s, step db call s⟩]
  | _ => []

/-- The run after an event. A scan that finds nothing ends its job. -/
def CleanupRun.exec (db : Database) (e : CleanupEvent) (r : CleanupRun) : CleanupRun :=
  match e with
  | .call call =>
    { r with
      store := step db call r.store
      completed := r.completed ++ completedBy db r.store call
      cleanups := r.cleanups ++ cleanupBy db r.store call }
  | .scan clock =>
    let cartIds := abandonedCarts clock r.store
    if cartIds.length = 0 then r else { r with scanned := r.scanned ++ [(clock, cartIds)] }
  | .readReservations i =>
    match r.scanned[i]? with
    | none => r
    | some (clock, cartIds) =>
      { r with
        scanned := r.scanned.eraseIdx i
        read := r.read ++ [(clock, ⟨cartIds, heldReservations cartIds r.store⟩)] }
  | .commit i =>
    match r.read[i]? with
    | none => r
    | some (clock, read) =>
      let store := (transaction (commitCleanup read) r.store).2
      { r with
        store
        read := r.read.eraseIdx i
        cleanups := r.cleanups ++ [⟨clock, r.store, store⟩] }

/-- No job is under way. -/
def CleanupRun.start (s : Store) : CleanupRun := ⟨s, [], [], [], []⟩

/-- A sale is past the limit at a moment. -/
def Sale.PastLimit (sale : Sale) (time : ℕ) : Prop :=
  sale.createdAt + CART_MAX_AGE_HOURS * 60 * 60 * 1000 < time

/-- The transaction deletes carts that were past the limit when the job began, so that they still
are, and their items; and no payment. -/
structure Cleanup.Spares (x : Cleanup) : Prop where
  sales : ∀ id sale, x.before.sales.find? id = some sale → x.after.sales.find? id = none →
    sale.status = .draft ∧ ∀ time, x.clock.time ≤ time → sale.PastLimit time
  saleItems : ∀ k i, x.before.saleItems.find? k = some i → x.after.saleItems.find? k = none →
    ∃ sale, x.before.sales.find? i.saleId = some sale ∧ sale.status = .draft
  salePayments : ∀ k, x.after.salePayments.find? k = x.before.salePayments.find? k

/-- No cart of the job has been completed since its scan, or a refund of one of them makes the
transaction fail. -/
def Undisturbed (r : CleanupRun) : CleanupEvent → Prop
  | .commit i => ∀ x ∈ r.read[i]?, (∀ row ∈ r.store.saleRefunds.rows, row.2.saleId ∉ x.2.cartIds) →
      ∀ id ∈ x.2.cartIds, id ∉ r.completed
  | _ => True

instance (r : CleanupRun) (e : CleanupEvent) : Decidable (Undisturbed r e) := by
  obtain ⟨⟩ := e
  all_goals dsimp only [Undisturbed]; infer_instance

variable {db : Database} {c : Catalogue} {s s' : Store} {r : CleanupRun} {clock : Clock}
  {saleIds : List Id} {id : Id}

section Spared

/-- Nothing is deleted where the tables stay. -/
theorem spares_of_pos (hpos : s'.pos = s.pos) : Cleanup.Spares ⟨clock, s, s'⟩ where
  sales id sale hbefore hafter := by
    have hsales : s'.sales = s.sales := congrArg PosTables.sales hpos
    rw [hsales, hbefore] at hafter
    cases hafter
  saleItems k i hbefore hafter := by
    have hitems : s'.saleItems = s.saleItems := congrArg PosTables.saleItems hpos
    rw [hitems, hbefore] at hafter
    cases hafter
  salePayments k := by
    have hpayments : s'.salePayments = s.salePayments := congrArg PosTables.salePayments hpos
    rw [hpayments]

/-- A deleted row is one that was selected. -/
theorem of_find?_deleteWhere {ρ : Type} {t : Serial ρ} {p : Id → ρ → Bool} {k : Id} {row : ρ}
    (hbefore : t.find? k = some row) (hafter : (t.deleteWhere p).find? k = none) :
    p k row = true := by
  rw [Serial.toTable_deleteWhere, Table.find?_deleteWhere, hbefore, Option.filter_eq_none_iff]
    at hafter
  simpa using hafter row rfl

/-- Carts past the limit may be deleted with all that is theirs: they have no payments. -/
theorem spares_of_without (hs : WellFormed s) (hpayments : s.pos.PaymentsSound)
    (hpos : s'.pos = s.pos.without saleIds)
    (hids : ∀ id ∈ saleIds, ∀ sale, s.sales.find? id = some sale →
      sale.PastLimit clock.time ∧ sale.status = .draft) : Cleanup.Spares ⟨clock, s, s'⟩ where
  sales id sale hbefore hafter := by
    have hsales : s'.sales = (s.pos.without saleIds).sales := congrArg PosTables.sales hpos
    rw [hsales] at hafter
    have hmem : id ∈ saleIds := of_decide_eq_true (of_find?_deleteWhere hbefore hafter)
    obtain ⟨hpast, hdraft⟩ := hids id hmem sale hbefore
    exact ⟨hdraft, fun time htime => lt_of_lt_of_le hpast htime⟩
  saleItems k i hbefore hafter := by
    have hitems : s'.saleItems = (s.pos.without saleIds).saleItems :=
      congrArg PosTables.saleItems hpos
    rw [hitems] at hafter
    have hmem : i.saleId ∈ saleIds := of_decide_eq_true (of_find?_deleteWhere hbefore hafter)
    obtain ⟨sale, hsale, _⟩ := hs.saleItems k i hbefore
    exact ⟨sale, hsale, (hids _ hmem sale hsale).2⟩
  salePayments k := by
    have hafter : s'.salePayments = (s.pos.without saleIds).salePayments :=
      congrArg PosTables.salePayments hpos
    rw [hafter]
    refine (Table.find?_deleteWhere _).trans ?_
    show Option.filter _ (s.salePayments.find? k) = _
    cases hbefore : s.salePayments.find? k with
    | none => rfl
    | some p =>
      obtain ⟨sale, hsale, hnot⟩ := hpayments k p hbefore
      have hmem : p.saleId ∉ saleIds := fun hmem => hnot (hids _ hmem sale hsale).2
      exact Option.filter_some_pos (by simpa using hmem)

theorem mem_abandonedCarts (h : id ∈ abandonedCarts clock s) :
    id < s.sales.next ∧ ∀ sale, s.sales.find? id = some sale →
      sale.PastLimit clock.time ∧ sale.status = .draft := by
  obtain ⟨⟨k, sale⟩, hmem, rfl⟩ := List.mem_map.mp h
  obtain ⟨hrow, hsel⟩ := List.mem_filter.mp hmem
  obtain ⟨hdraft, hpast⟩ := of_decide_eq_true hsel
  refine ⟨s.sales.lt_next _ (List.mem_map_of_mem hrow), fun sale' hsale' => ?_⟩
  obtain rfl := Option.some.inj ((Table.find?_of_mem_rows hrow).symm.trans hsale')
  exact ⟨hpast, hdraft⟩

/-- A job that is served as one request spares what it must. -/
theorem spares_cleanupBy (hs : WellFormed s) (hpayments : s.pos.PaymentsSound) {call : Call} :
    ∀ x ∈ cleanupBy db s call, x.Spares := by
  obtain ⟨clock, request⟩ := call
  cases request with
  | cleanupCarts =>
    intro x hx
    obtain rfl := List.mem_singleton.mp hx
    show Cleanup.Spares ⟨clock, s, (transaction (cleanupAbandonedCarts clock) s).2⟩
    refine transaction_preserves (I := fun s' : Store => Cleanup.Spares ⟨clock, s, s'⟩)
      (spares_of_pos rfl) fun _ s' h => ?_
    rcases pos_cleanup h with hpos | ⟨_, hpos⟩
    · exact spares_of_pos hpos
    · exact spares_of_without hs hpayments hpos fun id hid => (mem_abandonedCarts hid).2
  | _ => exact fun _ hx => (by cases hx)

end Spared

section Watched

/-- A cart that a job has scanned: if it is still there it is past the limit, and still a cart
unless it has been completed. -/
def Watched (r : CleanupRun) (clock : Clock) (id : Id) : Prop :=
  id < r.store.sales.next ∧ ∀ sale, r.store.sales.find? id = some sale →
    sale.PastLimit clock.time ∧ (sale.status = .draft ∨ id ∈ r.completed)

theorem watched_call (hs : WellFormed r.store) (h : Watched r clock id) (call : Call) :
    Watched (r.exec db (.call call)) clock id := by
  have hstep : SaleStep db r.store call (step db call r.store).pos := saleStep hs
  refine ⟨lt_of_lt_of_le h.1 hstep.next, fun sale' hfind => ?_⟩
  have hold {sale : Sale} (hfind : r.store.sales.find? id = some sale)
      (hheader : sale'.header = sale.header) : sale'.PastLimit clock.time ∧
        (sale.status = .draft ∨ id ∈ r.completed) := by
    obtain ⟨hpast, hstatus⟩ := h.2 sale hfind
    have hcreated : sale'.createdAt = sale.createdAt := (congrArg Sale.createdAt hheader :)
    refine ⟨?_, hstatus⟩
    rw [Sale.PastLimit, hcreated]
    exact hpast
  cases hstep.row hfind with
  | opened _ _ _ _ hid => exact absurd (hid ▸ h.1) (lt_irrefl _)
  | sold _ _ _ _ _ _ hid => exact absurd (hid ▸ h.1) (lt_irrefl _)
  | kept sale hfind' hheader hstatus =>
    obtain ⟨hpast, hdraft⟩ := hold hfind' hheader
    rw [hstatus]
    exact ⟨hpast, hdraft.imp_right fun h => List.mem_append_left _ h⟩
  | completed _ tenantId payments sale hcall hpasses hfind' hdraft hheader =>
    refine ⟨(hold hfind' hheader).1, .inr (List.mem_append_right _ ?_)⟩
    subst hcall
    have hby : completedBy db r.store ⟨_, .completeSale tenantId id payments⟩ = [id] :=
      if_pos hpasses
    exact hby ▸ List.mem_singleton_self id
  | settled sale hfind' hheader hbefore =>
    obtain ⟨hpast, hdraft⟩ := hold hfind' hheader
    exact ⟨hpast, .inr (List.mem_append_left _ (hdraft.resolve_left hbefore))⟩

/-- Where no sale is changed, what is watched stays so. -/
theorem watched_of_find {r' : CleanupRun} (h : Watched r clock id)
    (hnext : r'.store.sales.next = r.store.sales.next)
    (hfind : ∀ sale, r'.store.sales.find? id = some sale → r.store.sales.find? id = some sale)
    (hcompleted : r'.completed = r.completed) : Watched r' clock id := by
  refine ⟨hnext ▸ h.1, fun sale hsale => ?_⟩
  rw [hcompleted]
  exact h.2 sale (hfind sale hsale)

end Watched

section Runs

theorem find?_without {sale : Sale}
    (h : (s.pos.without saleIds).sales.find? id = some sale) : s.sales.find? id = some sale :=
  (Option.filter_eq_some_iff.mp ((Table.find?_deleteWhere _).symm.trans h)).1

theorem wellFormed_releaseQuantity (hs : WellFormed s) (update : BalanceUpdate) :
    WellFormed (releaseQuantity s update) where
  balances := hs.balances.modifyWhere fun _ _ hrow _ => hrow
  layers := hs.layers
  movements := hs.movements
  reservations := hs.reservations.imp fun _ _ h =>
    ⟨h.1, hasBalance_of_map (Table.find?_modifyWhere _ _) h.2⟩
  transfers := hs.transfers
  saleItems := hs.saleItems.imp fun _ _ ⟨sale, hsale, ht, hq, hdraft, hrow⟩ =>
    ⟨sale, hsale, ht, hq, hdraft, fun h => hasBalance_of_map (Table.find?_modifyWhere _ _) (hrow h)⟩

/-- The transaction of the job keeps the store well formed, whatever it has read. -/
theorem wellFormed_commitCleanup (hs : WellFormed s) {read : Abandoned} {result : CleanupResult}
    (h : commitCleanup read s = .ok (result, s')) : WellFormed s' := by
  obtain ⟨s₁, hdelete, h⟩ := Except.bind_eq_ok_iff.mp h
  obtain rfl : s₁ = s' := congrArg Prod.snd (Except.ok.inj h)
  have hexpired : WellFormed (expireReservations read.cartIds s) :=
    { hs with reservations := hs.reservations.modifyWhere fun _ _ hsound _ => hsound }
  have hreleased : WellFormed (releaseReservedQuantities read.reservations
      (expireReservations read.cartIds s)) := by
    rw [releaseReservedQuantities]
    generalize (read.reservations.foldl addUpdate []).map Prod.snd = updates
    generalize expireReservations read.cartIds s = s₀ at hexpired
    induction updates generalizing s₀ with
    | nil => exact hexpired
    | cons update rest ih => exact ih _ (wellFormed_releaseQuantity hexpired update)
  have hbooks : Books .exact anyBooking _ s₁ :=
    books_deleteCarts (fun _ _ _ => trivial) hreleased hdelete
  exact (hbooks.keeps hreleased).1

/-- What holds at every moment of a run. -/
structure CleanupRun.Sound (r : CleanupRun) : Prop where
  wellFormed : WellFormed r.store
  payments : r.store.pos.PaymentsSound
  scanned : ∀ x ∈ r.scanned, ∀ id ∈ x.2, Watched r x.1 id
  read : ∀ x ∈ r.read, ∀ id ∈ x.2.cartIds, Watched r x.1 id
  cleanups : ∀ x ∈ r.cleanups, x.Spares

theorem sound_start (h : Reachable db c s) : (CleanupRun.start s).Sound where
  wellFormed := wellFormed_of_reachable h
  payments := paymentsSound_of_reachable h
  scanned _ hx := by cases hx
  read _ hx := by cases hx
  cleanups _ hx := by cases hx

/-- A transaction of a job, in a run where it is undisturbed. -/
theorem sound_commit (hr : r.Sound) {i : ℕ} (h : Undisturbed r (.commit i)) :
    (r.exec db (.commit i)).Sound := by
  simp only [CleanupRun.exec]
  split
  · exact hr
  · next _ clock read hread =>
    have hwatched := hr.read _ (List.mem_of_getElem? hread)
    rw [transaction]
    split
    · next result store hcommit =>
      obtain ⟨hkept, hpos⟩ := pos_commitCleanup hcommit
      -- The carts that were read are still abandoned when they are deleted.
      have hids := h _ hread hkept
      have hspares : Cleanup.Spares ⟨clock, r.store, store⟩ := by
        refine spares_of_without hr.wellFormed hr.payments hpos fun id hid sale hsale => ?_
        obtain ⟨hpast, hdraft⟩ := (hwatched id hid).2 sale hsale
        exact ⟨hpast, hdraft.resolve_right (hids id hid)⟩
      have hsales : store.sales = (r.store.pos.without read.cartIds).sales :=
        congrArg PosTables.sales hpos
      have hkeep {clock : Clock} {id : Id} (hw : Watched r clock id) (r' : CleanupRun)
          (hstore : r'.store = store) (hcompleted : r'.completed = r.completed) :
          Watched r' clock id := by
        refine watched_of_find hw ?_ (fun sale hsale => ?_) hcompleted
        · rw [hstore, hsales]
          rfl
        · rw [hstore, hsales] at hsale
          exact find?_without hsale
      refine ⟨wellFormed_commitCleanup hr.wellFormed hcommit, ?_, fun x hx id hid => ?_,
        fun x hx id hid => ?_, fun x hx => ?_⟩
      · rw [hpos]
        exact paymentsSound_without hr.payments _
      · exact hkeep (hr.scanned x hx id hid) _ rfl rfl
      · exact hkeep (hr.read x (List.mem_of_mem_eraseIdx hx) id hid) _ rfl rfl
      · rcases List.mem_append.mp hx with hx | hx
        · exact hr.cleanups x hx
        · obtain rfl := List.mem_singleton.mp hx
          exact hspares
    · refine ⟨hr.wellFormed, hr.payments, hr.scanned, fun x hx => ?_, fun x hx => ?_⟩
      · exact hr.read x (List.mem_of_mem_eraseIdx hx)
      · rcases List.mem_append.mp hx with hx | hx
        · exact hr.cleanups x hx
        · obtain rfl := List.mem_singleton.mp hx
          exact spares_of_pos rfl

theorem sound_exec (hr : r.Sound) {e : CleanupEvent} (h : Undisturbed r e) :
    (r.exec db e).Sound := by
  cases e with
  | call call =>
    have hstep : SaleStep db r.store call (step db call r.store).pos := saleStep hr.wellFormed
    refine ⟨wellFormed_step hr.wellFormed, paymentsSound_step hr.payments hstep,
      fun x hx id hid => watched_call hr.wellFormed (hr.scanned x hx id hid) call,
      fun x hx id hid => watched_call hr.wellFormed (hr.read x hx id hid) call, fun x hx => ?_⟩
    rcases List.mem_append.mp hx with hx | hx
    · exact hr.cleanups x hx
    · exact spares_cleanupBy hr.wellFormed hr.payments x hx
  | scan clock =>
    simp only [CleanupRun.exec]
    split
    · exact hr
    · refine ⟨hr.wellFormed, hr.payments, fun x hx => ?_, hr.read, hr.cleanups⟩
      rcases List.mem_append.mp hx with hx | hx
      · exact hr.scanned x hx
      · obtain rfl := List.mem_singleton.mp hx
        intro id hid
        -- A cart that is scanned is abandoned at that moment.
        obtain ⟨hnext, hrow⟩ := mem_abandonedCarts hid
        exact ⟨hnext, fun sale hsale => ⟨(hrow sale hsale).1, .inl (hrow sale hsale).2⟩⟩
  | readReservations i =>
    simp only [CleanupRun.exec]
    split
    · exact hr
    · next _ clock cartIds hscanned =>
      refine ⟨hr.wellFormed, hr.payments, fun x hx => ?_, fun x hx => ?_, hr.cleanups⟩
      · exact hr.scanned x (List.mem_of_mem_eraseIdx hx)
      · rcases List.mem_append.mp hx with hx | hx
        · exact hr.read x hx
        · obtain rfl := List.mem_singleton.mp hx
          exact hr.scanned _ (List.mem_of_getElem? hscanned)
  | commit i => exact sound_commit hr h

/-- In every run in which the transactions of the jobs are undisturbed, each of them deletes only
carts that are past the limit, their items, and no payment. -/
theorem sales_spared (hreach : Reachable db c s)
    (h : Runs (CleanupRun.exec db) Undisturbed (CleanupRun.start s) r) :
    ∀ x ∈ r.cleanups, x.Spares :=
  (Runs.invariant (I := CleanupRun.Sound) h (sound_start hreach)
    fun _ _ hr hok => sound_exec hr hok).cleanups

/-- A day later a job scans the cart, an item is added to it, and the job deletes it. -/
def cartAddedTo : CleanupRun :=
  [.scan ⟨86400002, 2024⟩, .call ⟨⟨86400003, 2024⟩, .addCartItem 0 0 ⟨0, 1, some 5, none, none⟩⟩,
    .readReservations 0, .commit 0].foldl (fun r e => r.exec .exact e) (CleanupRun.start cartStore)

/-- The transaction of that job. -/
def cartAddedToCleanup : Cleanup := cartAddedTo.cleanups.head (by decide +kernel)

theorem sales_spared_cartAddedTo : cartAddedToCleanup.Spares :=
  have hreach : Reachable .exact (.shop .fifo) cartStore := reachable_serveAll _ _ _
  have hrun : Runs (CleanupRun.exec .exact) Undisturbed (CleanupRun.start cartStore) cartAddedTo :=
    Runs.of_allMeet (by decide +kernel)
  sales_spared hreach hrun cartAddedToCleanup (List.head_mem _)

/-- The cart is completed between the scan and the transaction. -/
def cartCompleted : CleanupRun :=
  [.scan ⟨86400002, 2024⟩, .call ⟨⟨86400003, 2024⟩, .completeSale 0 0 [⟨.cash, 5⟩]⟩,
    .readReservations 0, .commit 0].foldl (fun r e => r.exec .exact e) (CleanupRun.start cartStore)

/-- The completed sale is deleted, and its payment with it. -/
theorem completed_sale_deleted :
    Reachable .exact (.shop .fifo) cartStore ∧
      Runs (CleanupRun.exec .exact) (fun _ _ => True) (CleanupRun.start cartStore) cartCompleted ∧
      ∃ x ∈ cartCompleted.cleanups, (x.before.sales.find? 0).map Sale.status = some .completed ∧
        x.before.salePayments.rows.length = 1 ∧ (x.after.sales.find? 0).isNone ∧
        x.after.salePayments.rows.length = 0 :=
  ⟨reachable_serveAll _ _ _, Runs.of_allMeet (by decide +kernel), by decide +kernel⟩

end Runs

end Invetrixa
