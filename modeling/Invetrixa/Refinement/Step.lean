import Invetrixa.Refinement.Sales

/-!
# Requests as bookings

A request of a well-formed store is a run of bookings, whatever it is and whether or not it is
accepted. Conditions that some bookings need are conditions on the request here.

## Main definitions

- `Request.lines` — the lines of a request that takes stock out, in the order of booking
- `Passes` — the checks of a request let it pass
- `Covered`, `Settled` — the conditions on a request that match those on bookings

## Main results

- `books_step` — a request is a run of bookings
- `wellFormed_of_reachable` — every reachable store is well formed
-/

namespace Invetrixa

open Rowstore Requests StockValidationService MovementService TransferService

variable {db : Database} {d : Discipline} {s s' : Store} {call : Call}

/-- The lines of a request that takes stock out, in the order in which it books them. -/
def Request.lines (s : Store) : Request → List Line
  | .stockOut _ dto => BulkStockOutDto.lines dto
  | .adjust _ dto => BulkStockAdjustDto.lines dto
  | .createTransfer _ dto =>
    if dto.status = some .inTransit then CreateTransferDto.lines dto else []
  | .shipTransfer _ id => ((s.transfers.find? id).map StockTransfer.lines).getD []
  | .createSale _ dto => CreateSaleDto.lines dto
  | .completeSale _ saleId _ => s.saleLines saleId
  | _ => []

/-- The request voids a sale with something in it. -/
def Request.VoidsGoods (s : Store) : Request → Prop
  | .voidSale _ saleId => ∃ r ∈ s.itemsOf saleId, 0 < r.2.quantity
  | _ => False

instance (s : Store) : DecidablePred (Request.VoidsGoods s) := by
  rintro ⟨⟩
  all_goals dsimp only [Request.VoidsGoods]; infer_instance

/-- The checks that a request makes on the store it meets before it takes or puts anything back
let it pass. -/
def Request.passes (db : Database) (clock : Clock) (s : Store) : Request → Bool
  | .stockOut tenantId dto => (validateStockOut tenantId dto s).isOk
  | .adjust tenantId dto => (validateAdjust tenantId dto s).isOk
  | .createTransfer tenantId dto =>
    (createDraft clock tenantId dto s).isOk && (decide (dto.status ≠ some .inTransit) ||
      (validateStockAvailability s tenantId dto.fromLocationId
        (dto.items.map fun item => (item.productId, item.requestedQuantity))).isOk)
  | .shipTransfer tenantId id => (readShip tenantId id s).isOk
  | .createSale tenantId dto =>
    match SaleService.readCreate db tenantId dto s with
    | .ok (items, totals) =>
      (insertSale (SaleService.newSale db clock tenantId
        (generateSaleNumber clock tenantId s) dto totals) s).isOk &&
      (validateStockOut tenantId (SaleService.saleStockOut dto.locationId s.sales.next
        (items.map fun item => (item.productId, item.quantity))) s).isOk
    | .error _ => false
  | .completeSale tenantId saleId payments =>
    match SaleService.readComplete tenantId saleId payments s with
    | .ok (read, _) => (validateStockOut tenantId (completionOut saleId read) s).isOk
    | .error _ => false
  | .voidSale tenantId saleId => (SaleService.readVoid tenantId saleId s).isOk
  | _ => true

/-- The body is valid and the checks of the request pass. -/
def Passes (db : Database) (s : Store) (call : Call) : Prop :=
  call.request.Valid ∧ call.request.passes db call.clock s = true

instance (s : Store) (call : Call) : Decidable (Passes db s call) :=
  inferInstanceAs (Decidable (_ ∧ _))

/-- A request whose checks pass has each of its lines covered by what is on hand once the lines
before it are booked, and does not void a sale with something in it. -/
def Covered (db : Database) (s : Store) (call : Call) : Prop :=
  Passes db s call → LinesCovered s.onHand (call.request.lines s) ∧ ¬call.request.VoidsGoods s

instance (s : Store) (call : Call) : Decidable (Covered db s call) :=
  inferInstanceAs (Decidable (_ → _))

/-- The request completes a cart that still has active reservations. -/
def Request.CompletesReserved (s : Store) : Request → Prop
  | .completeSale _ saleId _ =>
      ∃ r ∈ s.reservations.rows, SaleService.isReservationOf saleId r.2 = true
  | _ => False

instance (s : Store) : DecidablePred (Request.CompletesReserved s) := by
  rintro ⟨⟩
  all_goals dsimp only [Request.CompletesReserved]; infer_instance

/-- A request whose checks pass does not complete a cart with active reservations. -/
def Settled (db : Database) (s : Store) (call : Call) : Prop :=
  Passes db s call → ¬call.request.CompletesReserved s

instance (s : Store) (call : Call) : Decidable (Settled db s call) :=
  inferInstanceAs (Decidable (_ → _))

/-- The request is one of the four that a transfer goes through. -/
def Request.IsTransfer : Request → Prop
  | .createTransfer _ _ | .shipTransfer _ _ | .receiveTransfer _ _ _ | .cancelTransfer _ _ => True
  | _ => False

instance : DecidablePred Request.IsTransfer := by
  rintro ⟨⟩
  all_goals dsimp only [Request.IsTransfer]; infer_instance

/-- The request ships a transfer, perhaps one that it creates. -/
def Request.Ships : Request → Prop
  | .createTransfer _ dto => dto.status = some .inTransit
  | .shipTransfer _ _ => True
  | _ => False

instance : DecidablePred Request.Ships := by
  rintro ⟨⟩
  all_goals dsimp only [Request.Ships]; infer_instance

/-- The request is about carts, sales or refunds, or takes stock out for a sale. -/
def Request.OfSales : Request → Prop
  | .stockOut _ dto => BulkStockOutDto.ForSale dto
  | .createCart _ _ | .addCartItem _ _ _ | .updateCartItem _ _ _ _ | .removeCartItem _ _ _
  | .createSale _ _ | .completeSale _ _ _ | .voidSale _ _ | .createRefund _ _ _
  | .cleanupCarts => True
  | _ => False

/-- The request takes stock out for a sale. -/
def Request.Sells : Request → Prop
  | .stockOut _ dto => BulkStockOutDto.ForSale dto
  | .createSale _ _ | .completeSale _ _ _ => True
  | _ => False

/-- What a request may book if it does not ship: only requests for transfers have to do with
transfers, and only those of the point of sale with sales. -/
def Request.MayBook (request : Request) (b : Booking) : Prop :=
  b.Plain ∨ (request.IsTransfer ∧ b.OfTransfer) ∨
    (request.OfSales ∧ b.Apart ∧ (b.Unsold ∨ request.Sells))

section Passes

variable {tenantId : Id} {clock : Clock}

/-- A computation that another one starts with succeeds if both do. -/
theorem isOk_of_bind {α β : Type} {x : Except HttpError α} {f : α → Except HttpError β} {b : β}
    (h : (x >>= f) = .ok b) : x.isOk = true := by
  obtain ⟨a, rfl, _⟩ := Except.bind_eq_ok_iff.mp h
  rfl

/-- An answer is the outcome without its body. -/
theorem answer_ok_iff {α : Type} {x : Except HttpError α × Store} :
    (answer x).1 = .ok () ↔ x.1.isOk = true := by
  obtain ⟨result, s⟩ := x
  cases result with
  | ok a => exact iff_of_true rfl rfl
  | error e => exact iff_of_false nofun nofun

/-- An accepted transaction is a successful run of its body. -/
theorem ok_of_answer {α : Type} {f : Store → Except HttpError (α × Store)}
    (h : (answer (transaction f s)).1 = .ok ()) : ∃ a s', f s = .ok (a, s') := by
  rw [transaction] at h
  split at h
  · next a s' hf => exact ⟨a, s', hf⟩
  · cases h

theorem passes_createTransfer {dto : CreateTransferDto}
    (h : (TransferService.create db clock tenantId dto s).1.isOk = true) :
    (Request.createTransfer tenantId dto).passes db clock s = true := by
  revert h
  refine createTransfer_cases (P := fun x => x.1.isOk = true →
    (Request.createTransfer tenantId dto).passes db clock s = true) ?_ ?_ ?_ ?_
  · intro e h
    cases h
  · intro id number s₁ hdraft hstatus _
    simp [Request.passes, hdraft, hstatus, Except.isOk, Except.toBool]
  · intro id number s₁ e _ h
    cases h
  · intro id number s₁ message s₂ hdraft _ hship _
    obtain ⟨_, rfl, t, rfl, _, _, hfrom, hitems⟩ := createDraft_ok hdraft
    obtain ⟨t', hread, _⟩ := Except.bind_eq_ok_iff.mp hship
    obtain ⟨hfind, _, _, havail⟩ := readShip_ok hread
    rw [Serial.find?_create, if_pos rfl] at hfind
    obtain rfl := Option.some.inj hfind
    have hcheck : validateStockAvailability s tenantId dto.fromLocationId
        (dto.items.map fun item => (item.productId, item.requestedQuantity)) = .ok () := by
      refine validateStockAvailability_ok_iff.mpr fun item hitem => ?_
      obtain ⟨item', hitem', rfl⟩ := List.mem_map.mp hitem
      have hline := havail (newItem item') (hitems ▸ List.mem_map_of_mem hitem')
      rwa [hfrom] at hline
    simp only [Request.passes, hdraft, hcheck]
    exact Bool.or_true _

theorem passes_createSale {dto : SaleService.CreateSaleDto} {r : Id × Store}
    (h : SaleService.create db clock tenantId dto s = .ok r) :
    (Request.createSale tenantId dto).passes db clock s = true := by
  obtain ⟨⟨items, totals⟩, hread, h⟩ := Except.bind_eq_ok_iff.mp h
  obtain ⟨id, s'⟩ := r
  obtain ⟨_, hvalid, _⟩ := executeSaleTransaction_ok h
  simp only [Request.passes, hread, isOk_of_bind h, hvalid]
  rfl

theorem passes_completeSale {saleId : Id} {payments : List PaymentDto} {r : Unit × Store}
    (h : SaleService.complete db tenantId saleId payments s = .ok r) :
    (Request.completeSale tenantId saleId payments).passes db clock s = true := by
  obtain ⟨⟨read, totals⟩, hread, h⟩ := Except.bind_eq_ok_iff.mp h
  obtain ⟨hvalid, _⟩ := executeCompletionTransaction_ok h
  simp only [Request.passes, hread, hvalid]
  rfl

/-- An accepted request has passed its checks. -/
theorem passes_of_accepted (h : Accepted db s call) : Passes db s call := by
  rw [Accepted, handle] at h
  by_cases hvalid : call.request.Valid
  · rw [if_pos hvalid] at h
    refine ⟨hvalid, ?_⟩
    obtain ⟨clock, request⟩ := call
    cases request with
    | stockOut tenantId dto =>
      obtain ⟨_, _, hok⟩ := ok_of_answer h
      exact isOk_of_bind hok
    | adjust tenantId dto =>
      obtain ⟨_, _, hok⟩ := ok_of_answer h
      exact isOk_of_bind hok
    | createTransfer tenantId dto => exact passes_createTransfer (answer_ok_iff.mp h)
    | shipTransfer tenantId id =>
      obtain ⟨_, _, hok⟩ := ok_of_answer h
      exact isOk_of_bind hok
    | createSale tenantId dto =>
      obtain ⟨_, _, hok⟩ := ok_of_answer h
      exact passes_createSale hok
    | completeSale tenantId saleId payments =>
      obtain ⟨_, _, hok⟩ := ok_of_answer h
      exact passes_completeSale hok
    | voidSale tenantId saleId =>
      obtain ⟨_, _, hok⟩ := ok_of_answer h
      exact isOk_of_bind hok
    | _ => rfl
  · rw [if_neg hvalid] at h
    cases h

theorem isOk_iff {α : Type} {x : Except HttpError α} : x.isOk = true ↔ ∃ a, x = .ok a := by
  cases x with
  | ok a => exact ⟨fun _ => ⟨a, rfl⟩, fun _ => rfl⟩
  | error e => exact ⟨fun h => (by cases h), fun ⟨_, h⟩ => (by cases h)⟩

/-- A request that is one transaction of `f`: it is accepted when `f` succeeds, and then its store
is what `f` makes of the old one, which else stays. -/
theorem accepted_iff_of_serve {α : Type} (f : Store → Except HttpError (α × Store))
    (hserve : serve db call.clock call.request s = answer (transaction f s))
    (hvalid : call.request.Valid) :
    (Accepted db s call ↔ (f s).isOk = true) ∧
      (∀ a s', f s = .ok (a, s') → step db call s = s') ∧
      (¬Accepted db s call → step db call s = s) := by
  have hhandle : handle db call s = answer (transaction f s) := (if_pos hvalid).trans hserve
  rw [Accepted, step, hhandle]
  cases hf : f s with
  | ok r =>
    obtain ⟨a, s'⟩ := r
    rw [transaction_of_ok hf]
    refine ⟨⟨fun _ => rfl, fun _ => rfl⟩, ?_, fun hno => absurd rfl hno⟩
    intro a' s'' heq
    exact congrArg Prod.snd (Except.ok.inj heq)
  | error e =>
    rw [transaction_of_error hf]
    exact ⟨⟨fun h => (by cases h), fun h => (by cases h)⟩, fun _ _ h => (by cases h), fun _ => rfl⟩

/-- An accepted request that is one transaction of `f` has a valid body, and its store is what `f`
makes of the old one. -/
theorem ok_of_accepted {α : Type} (f : Store → Except HttpError (α × Store))
    (hserve : serve db call.clock call.request s = answer (transaction f s))
    (h : Accepted db s call) :
    call.request.Valid ∧ ∃ a, f s = .ok (a, step db call s) := by
  have hvalid := (passes_of_accepted h).1
  obtain ⟨hok, hstep, _⟩ := accepted_iff_of_serve f hserve hvalid
  obtain ⟨⟨a, s'⟩, hf⟩ := isOk_iff.mp (hok.mp h)
  exact ⟨hvalid, a, hf.trans (by rw [hstep a s' hf])⟩

/-- A request whose body is not valid leaves the store as it is. -/
theorem step_preserves_of_valid {P : Store → Prop} (hs : P s)
    (hserve : call.request.Valid → P (serve db call.clock call.request s).2) :
    P (step db call s) := by
  rw [step, handle]
  split
  · next hvalid => exact hserve hvalid
  · exact hs

/-- A request that is one transaction of `f` keeps the store, or is accepted and has what `f`
makes of it. -/
theorem step_cases_of_serve {α : Type} (f : Store → Except HttpError (α × Store))
    (hserve : serve db call.clock call.request s = answer (transaction f s)) {P : Store → Prop}
    (hrun : ∀ a s', call.request.Valid → f s = .ok (a, s') → P s') :
    step db call s = s ∨ (Accepted db s call ∧ P (step db call s)) := by
  by_cases hvalid : call.request.Valid
  · obtain ⟨hok, hstep, hrefused⟩ := accepted_iff_of_serve f hserve hvalid
    by_cases haccepted : Accepted db s call
    · obtain ⟨⟨a, s'⟩, hf⟩ := isOk_iff.mp (hok.mp haccepted)
      exact .inr ⟨haccepted, hstep a s' hf ▸ hrun a s' hvalid hf⟩
    · exact .inl (hrefused haccepted)
  · exact .inl (congrArg Prod.snd (show handle db call s = _ from if_neg hvalid))

/-- What a store has, and the result of every successful run, the store after the request has. -/
theorem step_preserves_of_serve {α : Type} (f : Store → Except HttpError (α × Store))
    (hserve : serve db call.clock call.request s = answer (transaction f s)) {P : Store → Prop}
    (hs : P s) (hrun : ∀ a s', call.request.Valid → f s = .ok (a, s') → P s') :
    P (step db call s) := by
  rcases step_cases_of_serve f hserve hrun with hsame | ⟨_, hresult⟩
  · rwa [hsame]
  · exact hresult

end Passes

/-- A transaction books when its successful runs do. -/
theorem books_answer {α : Type} {f : Store → Except HttpError (α × Store)}
    (h : ∀ a s', f s = .ok (a, s') → (answer (transaction f s)).1 = .ok () → Books db d s s') :
    Books db d s (answer (transaction f s)).2 := by
  refine transaction_preserves (I := Books db d s) (Books.refl s) fun a s' hf => h a s' hf ?_
  rw [transaction_of_ok hf]
  rfl

/-- A request is a run of bookings. -/
theorem books_step (hs : WellFormed s) (hcovered : d.covered → Covered db s call)
    (hsettled : d.settled → Settled db s call)
    (hpermits : ∀ b, call.request.MayBook b → d.permits b)
    (hships : Passes db s call → call.request.Ships →
      ∀ b : Booking, b.OfTransfer ∨ b.ShipsItem → d.permits b) :
    Books db d s (step db call s) := by
  -- an accepted request has passed its checks, so what is assumed of those holds of it
  replace hcovered : d.covered → (handle db call s).1 = .ok () →
      LinesCovered s.onHand (call.request.lines s) ∧ ¬call.request.VoidsGoods s :=
    fun hd hok => hcovered hd (passes_of_accepted hok)
  replace hsettled : d.settled → (handle db call s).1 = .ok () →
      ¬call.request.CompletesReserved s :=
    fun hd hok => hsettled hd (passes_of_accepted hok)
  replace hships : (handle db call s).1 = .ok () → call.request.Ships →
      ∀ b : Booking, b.OfTransfer ∨ b.ShipsItem → d.permits b :=
    fun hok => hships (passes_of_accepted hok)
  -- what the discipline permits, by the kind of the request
  have htransfer : call.request.IsTransfer → ∀ b : Booking, b.OfTransfer → d.permits b :=
    fun h b hb => hpermits b (.inr (.inl ⟨h, hb⟩))
  have hsales : call.request.OfSales → ∀ b : Booking, b.Apart → b.Unsold → d.permits b :=
    fun h b hb hunsold => hpermits b (.inr (.inr ⟨h, hb, .inl hunsold⟩))
  have hsells : call.request.OfSales → call.request.Sells → ∀ b : Booking, b.Apart → d.permits b :=
    fun h hsells b hb => hpermits b (.inr (.inr ⟨h, hb, .inr hsells⟩))
  rw [step]
  by_cases hvalid : call.request.Valid
  · have hserve : handle db call s = serve db call.clock call.request s := if_pos hvalid
    rw [hserve] at hcovered hsettled hships ⊢
    obtain ⟨clock, request⟩ := call
    cases request with
    | stockIn tenantId dto =>
      exact books_answer fun _ _ h _ => books_stockIn hs
        (fun item hitem => le_trans (by decide) (hvalid item hitem).1) h
    | stockReturn tenantId dto =>
      refine books_answer fun _ _ h _ => books_stockIn hs ?_ h
      exact fun item hitem => le_trans (by decide) (hvalid item hitem).1
    | stockOut tenantId dto =>
      exact books_answer fun _ _ h hok => books_stockOut hs (fun item hitem => hvalid item hitem) h
        (fun hsold => hsells hsold hsold) fun hd => (hcovered hd hok).1
    | adjust tenantId dto =>
      exact books_answer fun _ _ h hok => books_adjust hs
        (fun item hitem => (hvalid item hitem).1) h fun hd => (hcovered hd hok).1
    | createTransfer tenantId dto =>
      have haccepted : (TransferService.create db clock tenantId dto s).1.isOk →
          (serve db clock (.createTransfer tenantId dto) s).1 = .ok () := answer_ok_iff.mpr
      refine books_createTransfer (htransfer trivial) hs (fun hok => hships (haccepted hok))
        (fun item hitem => hvalid.2 item hitem) fun hd hok hstatus => ?_
      have hlines := (hcovered hd (haccepted hok)).1
      rwa [Request.lines, if_pos hstatus] at hlines
    | shipTransfer tenantId id =>
      refine books_answer fun _ _ h hok =>
        books_ship (hships hok trivial) hs h fun t ht hd => ?_
      have hlines := (hcovered hd hok).1
      rwa [Request.lines, ht] at hlines
    | receiveTransfer tenantId id items =>
      exact books_answer fun _ _ h _ => books_receiveTransfer (htransfer trivial) hs h
    | cancelTransfer tenantId id =>
      exact books_answer fun _ _ h _ => books_cancelTransfer (htransfer trivial) hs h
    | createReservation tenantId dto =>
      exact books_answer fun _ _ h _ => books_createReservation h
    | updateReservation tenantId id dto =>
      exact books_answer fun _ _ h _ => books_updateReservation hs h
    | releaseReservation tenantId id => exact books_answer fun _ _ h _ => books_release hs h
    | expireReservation tenantId id => exact books_answer fun _ _ h _ => books_process hs h
    | createCart tenantId dto =>
      exact books_answer fun _ _ h _ => books_createCart (hsales trivial) hs h
    | addCartItem tenantId cartId dto =>
      exact books_addItem (hsales trivial) hs (lt_of_lt_of_le one_pos hvalid.1)
    | updateCartItem tenantId cartId itemId dto =>
      exact books_updateItem (hsales trivial) hs (lt_of_lt_of_le one_pos hvalid.1)
    | removeCartItem tenantId cartId itemId => exact books_removeItem (hsales trivial) hs
    | createSale tenantId dto =>
      exact books_answer fun _ _ h hok => books_createSale (hsells trivial trivial) hs
        (fun item hitem => lt_of_lt_of_le (by norm_num) (hvalid.1 item hitem).1) h
        fun hd => (hcovered hd hok).1
    | completeSale tenantId saleId payments =>
      refine books_answer fun _ _ h hok => books_completeSale (hsells trivial trivial) hs h
        (fun hd => (hcovered hd hok).1)
        fun hd id r hr hof => ?_
      exact hsettled hd hok ⟨(id, r), Table.mem_rows_of_find? hr, hof⟩
    | voidSale tenantId saleId =>
      refine books_answer fun _ _ h hok => books_voidSale (hsales trivial) hs h
        fun hd r hr => ?_
      exact not_lt.mp fun hpos => (hcovered hd hok).2 ⟨r, hr, hpos⟩
    | createRefund tenantId saleId dto =>
      exact books_answer fun _ _ h _ => books_createRefund (hsales trivial) hs
        (fun item hitem => zero_le_one.trans (hvalid.2 item hitem)) h
    | openSession tenantId dto => exact books_answer fun _ _ h _ => books_openSession h
    | closeSession tenantId sessionId dto =>
      exact books_answer fun _ _ h _ => books_closeSession h
    | cleanupCarts => exact books_answer fun _ _ h _ => books_cleanup (hsales trivial) hs h
  · have hrefused : handle db call s = (.error (.badRequest "Bad Request"), s) := if_neg hvalid
    rw [hrefused]
    exact Books.refl s

/-- The bookings that have nothing to do with a transfer. -/
abbrev apartBooking : Discipline := ⟨False, False, Booking.Apart, fun _ h => h.apart⟩

/-- A request for anything but a transfer has nothing to do with transfers. -/
theorem books_apart (hs : WellFormed s) (hcall : ¬call.request.IsTransfer) :
    Books db apartBooking s (step db call s) := by
  refine books_step hs False.elim False.elim (fun b hb => ?_) fun _ hships => ?_
  · rcases hb with hb | hb | hb
    · exact hb.apart
    · exact absurd hb.1 hcall
    · exact hb.2.1
  · obtain ⟨clock, request⟩ := call
    cases request with
    | createTransfer => exact absurd trivial hcall
    | shipTransfer => exact absurd trivial hcall
    | _ => exact hships.elim

section Reachable

variable {c : Catalogue} {ok : Store → Call → Prop}

theorem wellFormed_initial (c : Catalogue) : WellFormed (Store.initial c) where
  balances _ _ h := by cases h
  layers _ _ h := by cases h
  movements _ _ h := by cases h
  reservations _ _ h := by cases h
  transfers _ _ h := by cases h
  saleItems _ _ h := by cases h

/-- No condition on the bookings. -/
abbrev anyBooking : Discipline := ⟨False, False, fun _ => True, fun _ _ => trivial⟩

/-- Requests keep the store well formed. -/
theorem wellFormed_step (hs : WellFormed s) : WellFormed (step db call s) :=
  have hbooks : Books db anyBooking s (step db call s) :=
    books_step hs False.elim False.elim (fun _ _ => trivial) fun _ _ _ _ => trivial
  (hbooks.keeps hs).1

/-- Requests keep the tills of sessions. -/
theorem keepsTills_step (hs : WellFormed s) :
    KeepsTills s.sessions (step db call s).sessions := by
  have hbooks : Books db anyBooking s (step db call s) :=
    books_step hs False.elim False.elim (fun _ _ => trivial) fun _ _ _ _ => trivial
  exact Runs.invariant (I := fun s' : Store => KeepsTills s.sessions s'.sessions) hbooks (.refl _)
    fun s' b h hb => h.trans (keepsTills_book db hb.1)

theorem wellFormed_of_reachable (h : ReachableBy db ok c s) : WellFormed s :=
  Runs.invariant h (wellFormed_initial c) fun _ _ hs _ => wellFormed_step hs

/-- The rule for runs of requests: what a well-formed store has and every booking of a discipline
keeps holds of every store reached from it by requests that meet its conditions. -/
theorem runs_invariant {I : Store → Prop} (h : Runs (step db) ok s s') (hs : WellFormed s)
    (hinit : I s)
    (hcovered : ∀ s call, ok s call → d.covered → Covered db s call)
    (hsettled : ∀ s call, ok s call → d.settled → Settled db s call)
    (hpermits : ∀ s call, ok s call → ∀ b, call.request.MayBook b → d.permits b)
    (hships : ∀ s call, ok s call → Passes db s call → call.request.Ships →
      ∀ b : Booking, b.OfTransfer ∨ b.ShipsItem → d.permits b)
    (hbook : ∀ s b, WellFormed s → I s → b.Admitted d s → I (book db b s)) : I s' := by
  have hboth : WellFormed s' ∧ I s' := by
    refine Runs.invariant (I := fun s => WellFormed s ∧ I s) h ⟨hs, hinit⟩ ?_
    rintro s call ⟨hs, hI⟩ hok
    refine ⟨wellFormed_step hs, ?_⟩
    have hbooks : Books db d s (step db call s) :=
      books_step hs (hcovered s call hok) (hsettled s call hok) (hpermits s call hok)
        (hships s call hok)
    have hrun := Runs.invariant (I := fun s => WellFormed s ∧ I s) hbooks ⟨hs, hI⟩
      fun s b hsI hb => ⟨wellFormed_book hsI.1 hb.1, hbook s b hsI.1 hsI.2 hb⟩
    exact hrun.2
  exact hboth.2

end Reachable

end Invetrixa
