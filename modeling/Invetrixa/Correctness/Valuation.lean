import Invetrixa.Refinement.Step

/-!
# What movements cost and what layers are worth

A receipt books its cost and opens a layer that is worth as much. An issue books what its layers
are charged at and takes out what they are worth by themselves: under FIFO and LIFO the two are
the same by definition, under MOVING_AVERAGE only when the layers drawn happen to cost the
average. With exact arithmetic the costs of the movements add up to the value of the layers in
every run whose issues under MOVING_AVERAGE draw at the average.

## Main definitions

- `Booking.WithinLayers` — an issue takes no more than the layers hold
- `Booking.AtAverage` — the layers an issue draws cost the average it is charged at
- `Movements` — requests that only move stock, booking by booking

## Main results

- `netCost_book` — one booking
- `netCost_eq_layerValue`, `average_drifts`
-/

namespace Invetrixa

open Rowstore Requests BalanceService ValuationService MovementService

/-- The cost of the movements of one type, of a product at a location. -/
def Store.movedCost (s : Store) (movementType : StockMovementType) (p l : Id) : ℚ :=
  s.movements.sum fun _ m =>
    if m.productId = p ∧ m.locationId = l ∧ m.movementType = movementType then m.totalCost else 0

/-- The layers an issue draws from, in its order. -/
def Issue.layers (db : Database) (i : Issue) (s : Store) : List (Id × ValuationLayer) :=
  consumableLayers db i.productId i.locationId i.tenantId (i.method s) s

/-- What the layers that an issue draws cost by themselves. -/
def Issue.drawnCost (db : Database) (i : Issue) (s : Store) : ℚ :=
  Lots.cost layerSize (fun r => r.2.unitCost) (i.layers db s) i.quantity

/-- An issue takes no more than the layers of its place hold. -/
def Booking.WithinLayers (s : Store) : Booking → Prop
  | .issue i => i.quantity ≤ s.layerQty i.productId i.locationId
  | _ => True

/-- If an issue is charged at the moving average, the layers it draws cost as much. -/
def Booking.AtAverage (db : Database) (s : Store) : Booking → Prop
  | .issue i => i.method s = .movingAverage →
      i.drawnCost db s = calculateWAC i.productId i.locationId i.tenantId s * i.quantity
  | _ => True

/-- What a request that moves stock books, line by line. -/
def Call.bookings (call : Call) : List Booking :=
  match call.request with
  | .stockIn tenantId dto => dto.items.map fun item =>
      .receipt call.clock (receivedMovement tenantId dto item) item.batchId
  | .stockOut tenantId dto => dto.items.map fun item => .issue (releasedIssue tenantId dto item)
  | .adjust tenantId dto => dto.items.map (adjustBooking call.clock tenantId dto.locationId)
  | _ => []

/-- `P` holds of each booking of a list where it is made. -/
def EachBooking (db : Database) (P : Store → Booking → Prop) : List Booking → Store → Prop
  | [], _ => True
  | b :: rest, s => P s b ∧ EachBooking db P rest (book db b s)

/-- The request only moves stock, and each of its bookings meets `P` if its checks pass. -/
def Movements (db : Database) (P : Store → Booking → Prop) (s : Store) (call : Call) : Prop :=
  (match call.request with
    | .stockIn _ _ | .stockOut _ _ | .adjust _ _ => True
    | _ => False) ∧
  (Passes db s call → EachBooking db P call.bookings s)

section Decide

variable {db : Database}

instance (s : Store) : DecidablePred (Booking.WithinLayers s) := by
  rintro ⟨⟩
  all_goals dsimp only [Booking.WithinLayers]; infer_instance

instance (s : Store) : DecidablePred (Booking.AtAverage db s) := by
  rintro ⟨⟩
  all_goals dsimp only [Booking.AtAverage]; infer_instance

instance decidableEachBooking {P : Store → Booking → Prop} [∀ s b, Decidable (P s b)] :
    (bs : List Booking) → (s : Store) → Decidable (EachBooking db P bs s)
  | [], _ => isTrue trivial
  | b :: rest, s =>
    have := decidableEachBooking (P := P) rest (book db b s)
    inferInstanceAs (Decidable (_ ∧ _))

instance {P : Store → Booking → Prop} [∀ s b, Decidable (P s b)] (s : Store) (call : Call) :
    Decidable (Movements db P s call) := by
  obtain ⟨clock, ⟨⟩⟩ := call
  all_goals dsimp only [Movements]; infer_instance

end Decide

variable {db : Database} {c : Catalogue} {clock : Clock} {tenantId : Id} {s s' : Store}
  {b : Booking} {p l : Id}

section Costs

/-- What came in cost more than what went out, by this much. -/
def Store.netCost (s : Store) (p l : Id) : ℚ := s.movedCost .in p l - s.movedCost .out p l

theorem netCost_createMovement (m : StockMovement) :
    (createMovement db m s).netCost p l = s.netCost p l +
      if m.productId = p ∧ m.locationId = l then
        (match m.movementType with
          | .in => db.decimal m.totalCost
          | .out => -db.decimal m.totalCost)
      else 0 := by
  simp only [Store.netCost, Store.movedCost, createMovement, Serial.sum_create]
  by_cases hpl : m.productId = p ∧ m.locationId = l
  · cases htype : m.movementType with
    | «in» =>
      simp [hpl]
      ring
    | out =>
      simp [hpl]
      ring
  · have hmiss : ∀ movementType, ¬(m.productId = p ∧ m.locationId = l ∧
        m.movementType = movementType) := fun _ h => hpl ⟨h.1, h.2.1⟩
    simp [hmiss, hpl]

/-- What an issue is charged is what its layers cost by themselves, under MOVING_AVERAGE if they
cost the average. -/
theorem consumed_totalCost (hs : WellFormed s) {i : Issue} (hb : Booking.Guard s (.issue i))
    (hwithin : Booking.WithinLayers s (.issue i)) (haverage : Booking.AtAverage db s (.issue i)) :
    (i.consumed db s).totalCost = i.drawnCost db s := by
  rw [Issue.consumed, consumeLayers_eq]
  cases hmethod : i.method s with
  | movingAverage =>
    have htaken : Lots.taken layerSize (i.layers db s) i.quantity = i.quantity := by
      have hmin : Lots.taken layerSize (i.layers db s) i.quantity =
          min i.quantity (s.layerQty i.productId i.locationId) :=
        taken_consumableLayers hs.layers hb.2.1 hb.1
      rwa [min_eq_left hwithin] at hmin
    have hdrawn := haverage hmethod
    rw [hdrawn, ← htaken, ← Lots.cost_const, htaken, Issue.layers, hmethod]
    rfl
  | fifo =>
    rw [Issue.drawnCost, Issue.layers, hmethod]
    rfl
  | lifo =>
    rw [Issue.drawnCost, Issue.layers, hmethod]
    rfl

/-- A receipt that costs its unit cost for each unit. -/
def Booking.Costed : Booking → Prop
  | .receipt _ m _ => m.totalCost = m.unitCost * m.quantity
  | .issue _ => True
  | _ => False

/-- A booking changes the cost of the movements and the value of the layers alike. -/
theorem netCost_book (hexact : ∀ x, db.decimal x = x) (hs : WellFormed s) (hb : b.Guard s)
    (hcosted : b.Costed) (hwithin : b.WithinLayers s) (haverage : b.AtAverage db s) :
    (book db b s).netCost p l - (book db b s).layerValue p l =
      s.netCost p l - s.layerValue p l := by
  cases b with
  | receipt clock m batchId =>
    have hcost : (book db (.receipt clock m batchId) s).netCost p l = s.netCost p l +
        if m.productId = p ∧ m.locationId = l then m.unitCost * m.quantity else 0 := by
      refine (netCost_createMovement m).trans ?_
      rw [hb.1, hexact, show m.totalCost = _ from hcosted]
    rw [hcost, book, layerValue_receipt, hexact]
    ring
  | issue i =>
    have hcost : (book db (.issue i) s).netCost p l = s.netCost p l +
        if i.productId = p ∧ i.locationId = l then -i.drawnCost db s else 0 := by
      simp only [book, recordIssue_eq]
      refine (netCost_createMovement (i.movement (i.consumed db s))).trans ?_
      simp only [Issue.movement, hexact, consumed_totalCost hs hb hwithin haverage]
    have hvalue : (book db (.issue i) s).layerValue p l = s.layerValue p l -
        if i.productId = p ∧ i.locationId = l then i.drawnCost db s else 0 := by
      simp only [book, recordIssue_eq]
      exact layerValue_consumeLayers
    rw [hcost, hvalue]
    split <;> ring
  | _ => exact hcosted.elim

end Costs

section Runs

/-- The costs of the movements add up to the value of the layers. -/
def CostsAgree (s : Store) : Prop := ∀ p l, s.netCost p l = s.layerValue p l

/-- Within its layers, and at the average. -/
abbrev FairlyCharged (db : Database) (s : Store) (b : Booking) : Prop :=
  b.WithinLayers s ∧ b.AtAverage db s

/-- The loop over the bookings of a request. -/
theorem costsAgree_bookings (hexact : ∀ x, db.decimal x = x) {bs : List Booking}
    (hs : WellFormed s) (hagree : CostsAgree s) (hbs : ∀ b ∈ bs, b.Guard s ∧ b.Costed)
    (heach : EachBooking db (FairlyCharged db) bs s) :
    CostsAgree (bs.foldl (fun s b => book db b s) s) := by
  induction bs generalizing s with
  | nil => exact hagree
  | cons b rest ih =>
    obtain ⟨hguard, hcosted⟩ := hbs b List.mem_cons_self
    obtain ⟨⟨hwithin, haverage⟩, heach⟩ := heach
    have hext := extends_book db hs hguard
    refine ih (wellFormed_book hs hguard) (fun p l => ?_) (fun b' hb' => ?_) heach
    · have hdiff : (book db b s).netCost p l - (book db b s).layerValue p l = _ :=
        netCost_book hexact hs hguard hcosted hwithin haverage
      rw [hagree, sub_self] at hdiff
      exact sub_eq_zero.mp hdiff
    · obtain ⟨hguard', hcosted'⟩ := hbs b' (List.mem_cons_of_mem _ hb')
      refine ⟨?_, hcosted'⟩
      cases b' with
      | receipt => exact guard_of_extends rfl hext hguard'
      | issue => exact guard_of_extends rfl hext hguard'
      | _ => exact hcosted'.elim

/-- The bookings are made one after another, each with its guard met before the first. -/
structure MakesBookings (db : Database) (s : Store) (bs : List Booking) (s' : Store) : Prop where
  store : s' = bs.foldl (fun s b => book db b s) s
  guards : ∀ b ∈ bs, b.Guard s ∧ b.Costed

theorem bookings_stockIn {dto : BulkStockInDto} {r : BulkStockInResponse}
    (hvalid : BulkStockInDto.Valid dto) (h : stockIn db clock tenantId dto s = .ok (r, s')) :
    MakesBookings db s (Call.mk clock (.stockIn tenantId dto)).bookings s' := by
  obtain ⟨hv, rfl⟩ := stockIn_ok h
  constructor
  · rw [executeStockIn_eq, Call.bookings, List.foldl_map]
    rfl
  · intro b hb
    obtain ⟨item, hitem, rfl⟩ := List.mem_map.mp hb
    refine ⟨⟨rfl, le_trans (by decide) (hvalid item hitem).1, ?_⟩, rfl⟩
    exact validateStockIn_ok hv _ (List.mem_map_of_mem hitem)

theorem bookings_stockOut {dto : BulkStockOutDto} {r : BulkStockOutResponse}
    (hvalid : BulkStockOutDto.Valid dto) (h : stockOut db tenantId dto s s = .ok (r, s')) :
    MakesBookings db s (Call.mk clock (.stockOut tenantId dto)).bookings s' := by
  obtain ⟨_, hv, h⟩ := Except.bind_eq_ok_iff.mp h
  obtain rfl : (executeStockOut db tenantId dto s).2 = s' := congrArg Prod.snd (Except.ok.inj h)
  obtain ⟨htenant, havail⟩ := validateStockOut_ok hv
  constructor
  · rw [executeStockOut_eq, Call.bookings, List.foldl_map]
    rfl
  · intro b hb
    obtain ⟨item, hitem, rfl⟩ := List.mem_map.mp hb
    have hpos : 0 < item.2 := hvalid item hitem
    exact ⟨⟨hpos.le, stocked_of_available (htenant item hitem)
      (lt_of_lt_of_le hpos (havail item hitem))⟩, trivial⟩

theorem bookings_adjust {dto : BulkStockAdjustDto} {r : BulkStockAdjustResponse}
    (hvalid : BulkStockAdjustDto.Valid dto) (h : adjust db clock tenantId dto s = .ok (r, s')) :
    MakesBookings db s (Call.mk clock (.adjust tenantId dto)).bookings s' := by
  obtain ⟨_, hv, h⟩ := Except.bind_eq_ok_iff.mp h
  obtain rfl : (executeAdjust db clock tenantId dto s).2 = s' := congrArg Prod.snd (Except.ok.inj h)
  obtain ⟨htenant, havail⟩ := validateAdjust_ok hv
  constructor
  · rw [executeAdjust_eq, Call.bookings, List.foldl_map]
    exact congrArg (fun f => dto.items.foldl f s)
      (funext₂ (adjustLine_eq clock tenantId dto.locationId))
  · intro b hb
    obtain ⟨item, hitem, rfl⟩ := List.mem_map.mp hb
    rw [adjustBooking]
    split
    · next hpos => exact ⟨⟨rfl, abs_nonneg _, htenant item hitem⟩, rfl⟩
    · next hpos =>
      have hneg : item.quantity < 0 := lt_of_le_of_ne (not_lt.mp hpos) (hvalid item hitem).1
      exact ⟨⟨abs_nonneg _, stocked_of_available (htenant item hitem)
        (lt_of_lt_of_le (neg_pos.mpr hneg) (havail item hitem hneg))⟩, trivial⟩

/-- A request that moves stock changes nothing, or is accepted and makes its bookings one after
another, each with its guard met. -/
theorem step_eq_bookings {P : Store → Booking → Prop} {call : Call}
    (hmoves : Movements db P s call) :
    step db call s = s ∨
      (Accepted db s call ∧ MakesBookings db s call.bookings (step db call s)) := by
  obtain ⟨clock, request⟩ := call
  cases request with
  | stockIn tenantId dto =>
    refine step_cases_of_serve (P := MakesBookings db s _) (stockIn db clock tenantId dto) rfl ?_
    exact fun _ _ hvalid h => bookings_stockIn hvalid h
  | stockOut tenantId dto =>
    refine step_cases_of_serve (P := MakesBookings db s _)
      (fun s => stockOut db tenantId dto s s) rfl ?_
    exact fun _ _ hvalid h => bookings_stockOut hvalid h
  | adjust tenantId dto =>
    refine step_cases_of_serve (P := MakesBookings db s _) (adjust db clock tenantId dto) rfl ?_
    exact fun _ _ hvalid h => bookings_adjust hvalid h
  | _ => exact hmoves.1.elim

/-- In every run that receives, removes and adjusts stock with exact arithmetic, in which no issue
exceeds the layers at hand and those charged at the moving average draw layers that cost as
much, the costs of the movements in minus those of the movements out are what the layers are
worth. -/
theorem netCost_eq_layerValue (hexact : ∀ x, db.decimal x = x)
    (h : ReachableBy db (Movements db (FairlyCharged db)) c s) (p l : Id) :
    s.movedCost .in p l - s.movedCost .out p l = s.layerValue p l := by
  have hboth : WellFormed s ∧ CostsAgree s := by
    refine Runs.invariant (I := fun s => WellFormed s ∧ CostsAgree s) h
      ⟨wellFormed_initial c, fun _ _ => sub_zero 0⟩ ?_
    rintro s call ⟨hs, hagree⟩ hmoves
    refine ⟨wellFormed_step hs, ?_⟩
    rcases step_eq_bookings hmoves with hsame | ⟨haccepted, hbooks⟩
    · rwa [hsame]
    · rw [hbooks.store]
      exact costsAgree_bookings hexact hs hagree hbooks.guards
        (hmoves.2 (passes_of_accepted haccepted))
  exact hboth.2 p l

/-- Ten received at one and ten at two, in one layer each. -/
def receivedTwice : List Call :=
  [⟨⟨0, 2024⟩, .stockIn 0 ⟨0, none, none, [⟨0, 10, 1, none⟩]⟩⟩,
    ⟨⟨1, 2024⟩, .stockIn 0 ⟨0, none, none, [⟨0, 10, 2, none⟩]⟩⟩]

/-- The removal of some of them. -/
def removeTea (quantity : ℤ) : Call := ⟨⟨2, 2024⟩, .stockOut 0 ⟨0, none, none, [(0, quantity)]⟩⟩

/-- The store of a shop with a pricing method after a removal. -/
def removedStore (method : PricingMethod) (quantity : ℤ) : Store :=
  serveAll .exact (receivedTwice ++ [removeTea quantity]) (Store.initial (.shop method))

theorem netCost_eq_layerValue_all :
    (removedStore .movingAverage 20).movedCost .in 0 0 -
        (removedStore .movingAverage 20).movedCost .out 0 0 =
      (removedStore .movingAverage 20).layerValue 0 0 ∧
    (removedStore .movingAverage 20).movedCost .out 0 0 = 30 :=
  have hrun : ReachableBy .exact (Movements .exact (FairlyCharged .exact)) (.shop .movingAverage)
      (removedStore .movingAverage 20) := runs_serveAll (by decide +kernel)
  ⟨netCost_eq_layerValue (fun _ => rfl) hrun 0 0, by decide +kernel⟩

/-- Of layers at one and at two, ten are charged at the average of one and a half and taken out
of the layer at one: of the thirty that came in fifteen went out and twenty are left. -/
theorem average_drifts :
    ReachableBy .exact (Movements .exact Booking.WithinLayers) (.shop .movingAverage)
      (removedStore .movingAverage 10) ∧
    (removedStore .movingAverage 10).movedCost .in 0 0 = 30 ∧
    (removedStore .movingAverage 10).movedCost .out 0 0 = 15 ∧
    (removedStore .movingAverage 10).layerValue 0 0 = 20 :=
  ⟨runs_serveAll (by decide +kernel), by decide +kernel⟩

end Runs

end Invetrixa
