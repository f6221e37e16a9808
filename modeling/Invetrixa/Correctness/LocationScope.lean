import Invetrixa.Access.Guard
import Invetrixa.Correctness.Oversell

/-!
# Location scope

An assignment at a location counts where the header of a request names that location. What the
request books is at the location of its body, or of the transfer it names, and nothing compares
the two: a user whose assignments are all at one location changes balances of another by sending
the header of the one and the body of the other.

## Main definitions

- `ConfinedTo` — all assignments of a user in a tenant are at one location
- `OtherLocationsKept` — no balance row of another location has changed
- `BooksAtHeader` — what a request books is at the location of its header, or comes to nothing
- `Posts` — the balance rows after lines are booked

## Main results

- `posts_foldl` — what a loop of stock lines does to the balance rows
- `other_locations_kept_iff`, `books_elsewhere`
-/

namespace Invetrixa

open Rowstore Requests BalanceService MovementService TransferService ReservationService

/-- The user has assignments at the location only, if any. -/
def ConfinedTo (access : AccessStore) (userId tenantId L : Id) : Prop :=
  ∀ r ∈ access.assignments.rows, r.2.userId = userId → r.2.tenantId = tenantId →
    r.2.accessScope = .location ∧ r.2.locationId = some L

instance (access : AccessStore) (userId tenantId L : Id) :
    Decidable (ConfinedTo access userId tenantId L) :=
  inferInstanceAs (Decidable (∀ r ∈ access.assignments.rows, _))

/-- No balance row of a location other than `L` is made, changed or lost. -/
def OtherLocationsKept (L : Id) (s s' : Store) : Prop :=
  ∀ p l, l ≠ L → s'.balances.find? (p, l) = s.balances.find? (p, l)

/-- The lines of a receipt. -/
def BulkStockInDto.lines (dto : BulkStockInDto) : List Line :=
  dto.items.map fun item => ⟨item.productId, dto.locationId, item.quantity⟩

/-- The lines of a cancellation: what was shipped goes back. -/
def StockTransfer.returnedLines (t : StockTransfer) : List Line :=
  if t.status = .inTransit then
    (t.items.filter fun i => 0 < i.shippedQuantity).map fun i =>
      ⟨i.productId, t.fromLocationId, i.shippedQuantity⟩
  else []

/-- Where a request books, and how much: on hand, or reserved. -/
def StockEndpoint.lines (s : Store) : StockEndpoint → List Line
  | .stockIn dto | .stockReturn dto => BulkStockInDto.lines dto
  | .stockOut dto => BulkStockOutDto.lines dto
  | .adjust dto => BulkStockAdjustDto.lines dto
  | .createTransfer dto =>
    if dto.status = some .inTransit then CreateTransferDto.lines dto else []
  | .shipTransfer id => ((s.transfers.find? id).map StockTransfer.lines).getD []
  | .cancelTransfer id => ((s.transfers.find? id).map StockTransfer.returnedLines).getD []
  | .createReservation dto => [⟨dto.productId, dto.locationId, dto.quantity.num⟩]

/-- The place of a line has a row, to which the lines together add nothing. -/
def Line.Nets (s : Store) (lines : List Line) (line : Line) : Prop :=
  (s.balances.find? (line.productId, line.locationId)).isSome = true ∧
    netChange lines line.productId line.locationId = 0

instance (s : Store) (lines : List Line) (line : Line) : Decidable (line.Nets s lines) :=
  inferInstanceAs (Decidable (_ ∧ _))

/-- Each line of the request is at the location of its header, or the lines at its place come to
nothing there. -/
def BooksAtHeader (s : Store) (call : StockCall) : Prop :=
  ∀ line ∈ call.request.lines s, call.locationId = some line.locationId ∨
    line.Nets s (call.request.lines s)

instance (s : Store) (call : StockCall) : Decidable (BooksAtHeader s call) :=
  inferInstanceAs (Decidable (∀ line ∈ call.request.lines s, _))

/-- The lines have something to do with the place. -/
def TouchedBy (lines : List Line) (p l : Id) : Prop :=
  ∃ line ∈ lines, line.productId = p ∧ line.locationId = l

/-- The balance rows of `s'` are those of `s` with the lines booked on them: what a row has on hand
changes by what they add, and a place without one gets a row by the lines there. -/
structure Posts (s s' : Store) (lines : List Line) : Prop where
  some : ∀ p l b, s.balances.find? (p, l) = some b →
    s'.balances.find? (p, l) =
      some { b with onHandQuantity := b.onHandQuantity + netChange lines p l }
  none : ∀ p l, s.balances.find? (p, l) = none →
    ((s'.balances.find? (p, l)).isSome = true ↔ TouchedBy lines p l)

/-- Which balance rows the lines leave alone. -/
def RowsKept (s s' : Store) (lines : List Line) : Prop :=
  ∀ p l, s'.balances.find? (p, l) = s.balances.find? (p, l) ↔
    (TouchedBy lines p l → (s.balances.find? (p, l)).isSome = true ∧ netChange lines p l = 0)

variable {db : Database} {clock : Clock} {tenantId : Id} {s s' : Store}

section Lines

theorem touchedBy_append {lines lines' : List Line} {p l : Id} :
    TouchedBy (lines ++ lines') p l ↔ TouchedBy lines p l ∨ TouchedBy lines' p l := by
  simp only [TouchedBy, List.mem_append, or_and_right, exists_or]

theorem touchedBy_singleton {line : Line} {p l : Id} :
    TouchedBy [line] p l ↔ line.productId = p ∧ line.locationId = l := by
  simp [TouchedBy]

theorem ne_place {line : Line} {p l : Id} (h : ¬(line.productId = p ∧ line.locationId = l)) :
    (p, l) ≠ (line.productId, line.locationId) :=
  fun heq => h ⟨(Prod.ext_iff.mp heq).1.symm, (Prod.ext_iff.mp heq).2.symm⟩

end Lines

namespace Posts

variable {lines lines' : List Line}

theorem of_balances (h : s'.balances = s.balances) : Posts s s' [] where
  some p l b hb := by
    rw [h, hb]
    simp [netChange]
  none p l hnone := by
    rw [h, hnone]
    simp [TouchedBy]

theorem trans {s₁ s₂ : Store} (h : Posts s s₁ lines) (h' : Posts s₁ s₂ lines') :
    Posts s s₂ (lines ++ lines') where
  some p l b hb := by
    rw [h'.some p l _ (h.some p l b hb), netChange_append, add_assoc]
  none p l hnone := by
    rw [touchedBy_append, ← h.none p l hnone]
    cases hmiddle : s₁.balances.find? (p, l) with
    | none => simpa using h'.none p l hmiddle
    | some b => simp [h'.some p l b hmiddle]

theorem congr (h : Posts s s' lines) {s₁ s₂ : Store} (h₁ : s₁.balances = s.balances)
    (h₂ : s₂.balances = s'.balances) : Posts s₁ s₂ lines where
  some := by
    rw [h₁, h₂]
    exact h.some
  none := by
    rw [h₁, h₂]
    exact h.none

/-- One line on the balances. -/
theorem updateBalance (line : Line) :
    Posts s (BalanceService.updateBalance line.productId line.locationId tenantId line.quantity s)
      [line] where
  some p l b hb := by
    rw [find?_updateBalance, netChange_singleton, Line.change]
    by_cases hpl : line.productId = p ∧ line.locationId = l
    · obtain ⟨rfl, rfl⟩ := hpl
      simp [hb]
    · rw [if_neg (ne_place hpl), if_neg hpl, hb, add_zero]
  none p l hnone := by
    rw [find?_updateBalance, touchedBy_singleton]
    by_cases hpl : line.productId = p ∧ line.locationId = l
    · obtain ⟨rfl, rfl⟩ := hpl
      simp
    · simp [ne_place hpl, hpl, hnone]

/-- A row stays as it is if no line touches its place, or if it is there and the lines come to
nothing. -/
theorem rowsKept (h : Posts s s' lines) : RowsKept s s' lines := by
  intro p l
  cases hrow : s.balances.find? (p, l) with
  | none =>
    rw [← Option.not_isSome_iff_eq_none, h.none p l hrow]
    simp
  | some b =>
    rw [h.some p l b hrow]
    have hsame : (Option.some { b with onHandQuantity := b.onHandQuantity + netChange lines p l } =
        Option.some b) ↔ netChange lines p l = 0 := by
      constructor
      · intro heq
        have honHand := congrArg InventoryBalance.onHandQuantity (Option.some.inj heq)
        exact add_eq_left.mp honHand
      · intro hzero
        rw [hzero, add_zero]
    rw [hsame]
    constructor
    · exact fun hzero _ => ⟨rfl, hzero⟩
    · intro hnets
      by_cases htouched : TouchedBy lines p l
      · exact (hnets htouched).2
      · exact netChange_eq_zero fun line hline hpl => htouched ⟨line, hline, hpl⟩

end Posts

/-- What a loop does to the balance rows, when each of its steps books a line. -/
theorem posts_foldl {β : Type} {f : Store → β → Store} {line : β → Line} {items : List β}
    (hf : ∀ s x, Posts s (f s x) [line x]) : Posts s (items.foldl f s) (items.map line) := by
  induction items generalizing s with
  | nil => exact Posts.of_balances rfl
  | cons x rest ih => exact (hf s x).trans ih

theorem posts_recordReceipt (m : StockMovement) (batchId : Option Id) :
    Posts s (recordReceipt db clock m batchId s) [⟨m.productId, m.locationId, m.quantity⟩] :=
  (Posts.updateBalance ⟨m.productId, m.locationId, m.quantity⟩).congr rfl rfl

theorem posts_recordIssue (i : Issue) :
    Posts s (recordIssue db i s).2 [⟨i.productId, i.locationId, -i.quantity⟩] := by
  rw [recordIssue_eq]
  exact (Posts.updateBalance ⟨i.productId, i.locationId, -i.quantity⟩).congr rfl rfl

section Services

theorem posts_stockIn {dto : BulkStockInDto} {r : BulkStockInResponse}
    (h : stockIn db clock tenantId dto s = .ok (r, s')) :
    Posts s s' (BulkStockInDto.lines dto) := by
  obtain ⟨_, rfl⟩ := stockIn_ok h
  rw [executeStockIn_eq]
  exact posts_foldl fun s item =>
    posts_recordReceipt (receivedMovement tenantId dto item) item.batchId

theorem posts_stockOut {dto : BulkStockOutDto} {r : BulkStockOutResponse}
    (h : stockOut db tenantId dto s s = .ok (r, s')) :
    Posts s s' (BulkStockOutDto.lines dto) := by
  obtain ⟨_, _, h⟩ := Except.bind_eq_ok_iff.mp h
  obtain rfl : (executeStockOut db tenantId dto s).2 = s' :=
    congrArg Prod.snd (Except.ok.inj h)
  rw [executeStockOut_eq]
  exact posts_foldl fun s item => posts_recordIssue (releasedIssue tenantId dto item)

theorem posts_adjustLine (locationId : Id) (item : BulkStockAdjustItemDto) :
    Posts s (adjustLine db clock tenantId locationId s item)
      [⟨item.productId, locationId, item.quantity⟩] := by
  rw [adjustLine]
  split
  · next hpos =>
    have hquantity : (foundMovement tenantId locationId item).quantity = item.quantity :=
      abs_of_pos hpos
    rw [← hquantity]
    exact posts_recordReceipt (foundMovement tenantId locationId item) none
  · next hneg =>
    have hquantity : -(lostIssue tenantId locationId item).quantity = item.quantity :=
      neg_eq_iff_eq_neg.mpr (abs_of_nonpos (not_lt.mp hneg))
    rw [← hquantity]
    exact posts_recordIssue (lostIssue tenantId locationId item)

theorem posts_adjust {dto : BulkStockAdjustDto} {r : BulkStockAdjustResponse}
    (h : adjust db clock tenantId dto s = .ok (r, s')) :
    Posts s s' (BulkStockAdjustDto.lines dto) := by
  obtain ⟨_, _, h⟩ := Except.bind_eq_ok_iff.mp h
  obtain rfl : (executeAdjust db clock tenantId dto s).2 = s' :=
    congrArg Prod.snd (Except.ok.inj h)
  rw [executeAdjust_eq]
  exact posts_foldl fun s item => posts_adjustLine dto.locationId item

theorem posts_shipItem (id : Id) (t : StockTransfer) (item : StockTransferItem) :
    Posts s (shipItem db tenantId id t s item)
      [⟨item.productId, t.fromLocationId, -item.requestedQuantity⟩] := by
  rw [shipItem_eq]
  exact (Posts.updateBalance ⟨item.productId, t.fromLocationId, -item.requestedQuantity⟩).congr
    rfl rfl

theorem posts_ship {id : Id} {r : String} (h : ship db clock tenantId id s = .ok (r, s')) :
    ∃ t, s.transfers.find? id = some t ∧ Posts s s' t.lines := by
  obtain ⟨t, hread, rfl⟩ := ship_eq_ok h
  refine ⟨t, (readShip_ok hread).1, ?_⟩
  have hitems : Posts
      (updateTransfer id (fun t => { t with status := .inTransit, shippedAt := some clock.time }) s)
      (commitShip db clock tenantId id t s) t.lines :=
    posts_foldl fun s item => posts_shipItem id t item
  exact hitems.congr rfl rfl

/-- A transfer is shipped at once, or nothing is booked. -/
theorem posts_createTransfer {dto : CreateTransferDto}
    (h : (TransferService.create db clock tenantId dto s).1.isOk = true) :
    Posts s (TransferService.create db clock tenantId dto s).2
      (if dto.status = some .inTransit then CreateTransferDto.lines dto else []) := by
  revert h
  refine createTransfer_cases (P := fun x => x.1.isOk = true → Posts s x.2
    (if dto.status = some .inTransit then CreateTransferDto.lines dto else [])) ?_ ?_ ?_ ?_
  · intro e h
    cases h
  · intro id number s₁ hdraft hstatus _
    obtain ⟨_, _, t, rfl, _⟩ := createDraft_ok hdraft
    rw [if_neg hstatus]
    exact Posts.of_balances rfl
  · intro id number s₁ e _ h
    cases h
  · intro id number s₁ message s₂ hdraft hstatus hship _
    obtain ⟨t, hfind, hlines⟩ := find?_createDraft hdraft
    obtain ⟨t', hfind', hposts⟩ := posts_ship hship
    obtain rfl := Option.some.inj (hfind.symm.trans hfind')
    obtain ⟨_, _, _, rfl, _⟩ := createDraft_ok hdraft
    rw [if_pos hstatus, ← hlines]
    exact hposts.congr rfl rfl

/-- Of the items only those that were shipped are booked. -/
theorem posts_cancelItems (id : Id) (t : StockTransfer) (items : List StockTransferItem) :
    Posts s (items.foldl (cancelItem db clock tenantId id t) s)
      ((items.filter fun i => 0 < i.shippedQuantity).map fun i =>
        ⟨i.productId, t.fromLocationId, i.shippedQuantity⟩) := by
  induction items generalizing s with
  | nil => exact Posts.of_balances rfl
  | cons item rest ih =>
    rw [List.foldl_cons, cancelItem]
    by_cases hshipped : item.shippedQuantity > 0
    · rw [if_pos hshipped, List.filter_cons_of_pos (by simpa using hshipped), List.map_cons]
      exact (posts_recordReceipt (reversalMovement tenantId id t item) none).trans ih
    · rw [if_neg hshipped, List.filter_cons_of_neg (by simpa using hshipped)]
      exact ih

theorem posts_cancel {id : Id} {r : String} (h : cancel db clock tenantId id s = .ok (r, s')) :
    ∃ t, s.transfers.find? id = some t ∧ Posts s s' t.returnedLines := by
  obtain ⟨t, hread, h⟩ := Except.bind_eq_ok_iff.mp h
  obtain rfl : commitCancel db clock tenantId id t s = s' := congrArg Prod.snd (Except.ok.inj h)
  refine ⟨t, (readCancel_ok hread).1, ?_⟩
  rw [commitCancel, StockTransfer.returnedLines]
  by_cases hstatus : t.status = .inTransit
  · rw [if_pos hstatus, if_pos hstatus]
    exact (posts_cancelItems id t t.items).congr rfl rfl
  · rw [if_neg hstatus, if_neg hstatus]
    exact Posts.of_balances rfl

/-- A reservation of something changes the row of its place, or makes it. -/
theorem rowsKept_reserve {r : StockReservation} (hq : r.quantity ≠ 0) :
    RowsKept s (reserve r s) [⟨r.productId, r.locationId, r.quantity⟩] := by
  intro p l
  rw [touchedBy_singleton, netChange_singleton, Line.change]
  simp only [reserve, Table.find?_upsert]
  by_cases hpl : r.productId = p ∧ r.locationId = l
  · obtain ⟨rfl, rfl⟩ := hpl
    rw [if_pos rfl, if_pos ⟨rfl, rfl⟩]
    refine iff_of_false (fun hsame => ?_) fun hnets => hq (hnets ⟨rfl, rfl⟩).2
    cases hrow : s.balances.find? (r.productId, r.locationId) with
    | none => simp [hrow] at hsame
    | some b =>
      rw [hrow] at hsame
      have hreserved := congrArg InventoryBalance.reservedQuantity (Option.some.inj hsame)
      exact hq (add_eq_left.mp hreserved)
  · have hne : (p, l) ≠ (r.productId, r.locationId) :=
      @ne_place ⟨r.productId, r.locationId, r.quantity⟩ p l hpl
    rw [if_neg hne]
    exact iff_of_true rfl fun htouched => absurd htouched hpl

theorem rowsKept_createReservation {dto : CreateReservationDto} {id : Id}
    (hvalid : CreateReservationDto.Valid dto)
    (h : ReservationService.create clock tenantId dto s = .ok (id, s')) :
    RowsKept s s' [⟨dto.productId, dto.locationId, dto.quantity.num⟩] := by
  obtain ⟨_, _, h⟩ := Except.bind_eq_ok_iff.mp h
  obtain ⟨quantity, hquantity, h⟩ := Except.bind_eq_ok_iff.mp h
  obtain ⟨_, rfl⟩ := Prod.mk.inj (Except.ok.inj h)
  have hcast : dto.quantity = quantity := intColumn_ok hquantity
  have hnum : dto.quantity.num = quantity := by rw [hcast, Rat.num_intCast]
  have hpos : 1 ≤ quantity := by
    have hone := hvalid.2
    rw [hcast] at hone
    exact_mod_cast hone
  rw [hnum]
  have hne : (newReservation tenantId dto quantity).quantity ≠ 0 := by
    show quantity ≠ 0
    omega
  exact rowsKept_reserve hne

/-- Which balance rows an accepted request leaves alone. -/
theorem rowsKept_of_accepted {request : StockEndpoint}
    (h : Accepted db s ⟨clock, request.toRequest tenantId⟩) :
    RowsKept s (step db ⟨clock, request.toRequest tenantId⟩ s) (request.lines s) := by
  cases request with
  | stockIn dto =>
    obtain ⟨_, r, hrun⟩ := ok_of_accepted (stockIn db clock tenantId dto) rfl h
    exact (posts_stockIn hrun).rowsKept
  | stockReturn dto =>
    obtain ⟨_, r, hrun⟩ := ok_of_accepted
      (stockIn db clock tenantId { dto with referenceType := some .return }) rfl h
    exact (posts_stockIn hrun).rowsKept
  | stockOut dto =>
    obtain ⟨_, r, hrun⟩ := ok_of_accepted (fun s => stockOut db tenantId dto s s) rfl h
    exact (posts_stockOut hrun).rowsKept
  | adjust dto =>
    obtain ⟨_, r, hrun⟩ := ok_of_accepted (adjust db clock tenantId dto) rfl h
    exact (posts_adjust hrun).rowsKept
  | createTransfer dto =>
    have hvalid := (passes_of_accepted h).1
    have hhandle : handle db ⟨clock, .createTransfer tenantId dto⟩ s =
        answer (TransferService.create db clock tenantId dto s) := if_pos hvalid
    have hok : (TransferService.create db clock tenantId dto s).1.isOk = true :=
      answer_ok_iff.mp (hhandle ▸ h)
    have hstep : step db ⟨clock, .createTransfer tenantId dto⟩ s =
        (TransferService.create db clock tenantId dto s).2 := congrArg Prod.snd hhandle
    show RowsKept s (step db ⟨clock, .createTransfer tenantId dto⟩ s) _
    rw [hstep]
    exact (posts_createTransfer hok).rowsKept
  | shipTransfer id =>
    obtain ⟨_, r, hrun⟩ := ok_of_accepted (ship db clock tenantId id) rfl h
    obtain ⟨t, hfind, hposts⟩ := posts_ship hrun
    rw [StockEndpoint.lines, hfind]
    exact hposts.rowsKept
  | cancelTransfer id =>
    obtain ⟨_, r, hrun⟩ := ok_of_accepted (cancel db clock tenantId id) rfl h
    obtain ⟨t, hfind, hposts⟩ := posts_cancel hrun
    rw [StockEndpoint.lines, hfind]
    exact hposts.rowsKept
  | createReservation dto =>
    obtain ⟨hvalid, id, hrun⟩ := ok_of_accepted (ReservationService.create clock tenantId dto) rfl h
    exact rowsKept_createReservation hvalid hrun

end Services

section Scope

variable {access : AccessStore} {call : StockCall} {L : Id}

/-- A user confined to a location passes the guard with the header of that location only. -/
theorem ConfinedTo.locationId (hconfined : ConfinedTo access call.userId tenantId L)
    (h : AccessControlGuard.canActivate call access = .ok tenantId) :
    call.locationId = some L := by
  obtain ⟨_, k, a, hfind, huser, htenant, happlies⟩ := AccessControlGuard.canActivate_ok h
  obtain ⟨hscope, hlocation⟩ :=
    hconfined (k, a) (Table.mem_rows_of_find? hfind) huser htenant
  rw [AccessControlService.appliesAt, hscope] at happlies
  exact (of_decide_eq_true happlies).symm.trans hlocation

/-- The rows of other locations are left alone exactly if each line at such a location comes to
nothing. -/
theorem otherLocationsKept_iff {lines : List Line} (h : RowsKept s s' lines) :
    OtherLocationsKept L s s' ↔ ∀ line ∈ lines, line.locationId = L ∨ line.Nets s lines := by
  constructor
  · intro hkept line hline
    by_cases hL : line.locationId = L
    · exact .inl hL
    · exact .inr ((h line.productId line.locationId).mp (hkept _ _ hL) ⟨line, hline, rfl, rfl⟩)
  · intro hlines p l hL
    refine (h p l).mpr ?_
    rintro ⟨line, hline, rfl, rfl⟩
    exact (hlines line hline).resolve_left hL

/-- An accepted request of a user who is confined to a location leaves the balance rows of all
other locations alone exactly if what it books is at the location of its header. -/
theorem other_locations_kept_iff (htenant : call.tenantId = some tenantId)
    (hconfined : ConfinedTo access call.userId tenantId L)
    (haccepted : (handleStockCall db access call s).1 = .ok ()) :
    OtherLocationsKept L s (handleStockCall db access call s).2 ↔ BooksAtHeader s call := by
  obtain ⟨t, hguard, hserved, hstore⟩ := handleStockCall_ok haccepted
  obtain rfl : tenantId = t :=
    Option.some.inj (htenant.symm.trans (AccessControlGuard.canActivate_ok hguard).1)
  rw [hstore, otherLocationsKept_iff (rowsKept_of_accepted hserved), BooksAtHeader,
    hconfined.locationId hguard]
  refine forall₂_congr fun line _ => or_congr_left ?_
  exact ⟨fun h => congrArg some h.symm, fun h => (Option.some.inj h).symm⟩

/-- A keeper of the front of the shop, who may book stock there. -/
def frontKeeper : AccessStore :=
  { AccessStore.initial (Serial.empty.create "keeper@shop")
      (Serial.empty.create ⟨"Stock", ["stock.movement.create", "stock.movement.view"]⟩) with
    tenants := Serial.empty.create ⟨"Shop", false⟩
    memberships := [(0, 0)]
    roles := Serial.empty.create ⟨"Keeper", 0⟩
    rolePermissions := Serial.empty.create ⟨0, 0, ["stock.movement.create"]⟩
    assignments := Serial.empty.create ⟨0, 0, 0, .location, some 0, none⟩
    locations := (Serial.empty.create ⟨none, "front@shop", "1", 0⟩).create
      ⟨none, "back@shop", "2", 0⟩ }

/-- Ten of a product received at a location, under the header of the front. -/
def receiveAt (locationId : Id) : StockCall :=
  ⟨⟨0, 2024⟩, 0, some 0, some 0, .stockIn ⟨locationId, none, none, [⟨0, 10, 1, none⟩]⟩⟩

theorem other_locations_kept_iff_front :
    (handleStockCall .exact frontKeeper (receiveAt 0) (Store.initial (.shop .fifo))).1 = .ok () ∧
      OtherLocationsKept 0 (Store.initial (.shop .fifo))
        (handleStockCall .exact frontKeeper (receiveAt 0) (Store.initial (.shop .fifo))).2 :=
  have haccepted :
      (handleStockCall .exact frontKeeper (receiveAt 0) (Store.initial (.shop .fifo))).1 =
        .ok () := by decide +kernel
  have hconfined : ConfinedTo frontKeeper (receiveAt 0).userId 0 0 := by decide +kernel
  have hheader : BooksAtHeader (Store.initial (.shop .fifo)) (receiveAt 0) := by decide +kernel
  ⟨haccepted, (other_locations_kept_iff rfl hconfined haccepted).mpr hheader⟩

/-- The keeper of the front books a receipt at the back: the guard looks at the header, the
service at the body. -/
theorem books_elsewhere :
    ConfinedTo frontKeeper (receiveAt 1).userId 0 0 ∧
      (handleStockCall .exact frontKeeper (receiveAt 1) (Store.initial (.shop .fifo))).1 =
        .ok () ∧
      ¬OtherLocationsKept 0 (Store.initial (.shop .fifo))
        (handleStockCall .exact frontKeeper (receiveAt 1) (Store.initial (.shop .fifo))).2 := by
  refine ⟨by decide +kernel, by decide +kernel, fun hkept => ?_⟩
  have hmade : ((handleStockCall .exact frontKeeper (receiveAt 1)
      (Store.initial (.shop .fifo))).2.balances.find? (0, 1)).isSome = true := by decide +kernel
  rw [hkept 0 1 (by decide)] at hmade
  exact absurd hmade (by decide +kernel)

end Scope

end Invetrixa
