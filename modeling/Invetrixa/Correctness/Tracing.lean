import Invetrixa.Correctness.Ledger

/-!
# Tracing issues to their lots

Every issue of stock writes down which layers it has taken its quantity from. Of an outgoing
movement these records make up the quantity, and of a layer they make up what is gone from it, as
long as no request takes more of a place than is there and no transfer is shipped: shipping takes
from the layers and writes nothing down.

## Main definitions

- `Store.consumedBy`, `Store.consumedOf` — what is recorded for a movement, and of a layer
- `Store.Traced` — the records account for every movement out and for every layer
- `Traceable` — the condition on a request

## Main results

- `traced_book` — bookings that ship nothing keep the records complete
- `traced_of_reachable`, `shipped_untraced`
-/

namespace Invetrixa

open Rowstore Requests ValuationService

/-- The quantities recorded for a movement. -/
def Store.consumedBy (s : Store) (movementId : Id) : ℤ :=
  s.consumptions.sum fun _ c => if c.stockMovementId = movementId then c.quantity else 0

/-- The quantities recorded of a layer. -/
def Store.consumedOf (s : Store) (layerId : Id) : ℤ :=
  s.consumptions.sum fun _ c => if c.valuationLayerId = layerId then c.quantity else 0

/-- What is recorded accounts for every movement out and for every layer. -/
def Store.Traced (s : Store) : Prop :=
  (s.movements.All fun k m => m.movementType = .out → s.consumedBy k = m.quantity) ∧
    s.layers.All fun k l => l.originalQty - l.remainingQty = s.consumedOf k

/-- Nothing is recorded for a movement or of a layer that is not there. -/
def Store.RecordsKnown (s : Store) : Prop :=
  (∀ k, s.movements.next ≤ k → s.consumedBy k = 0) ∧
    ∀ k, s.layers.next ≤ k → s.consumedOf k = 0

/-- The lines of a request whose checks pass are covered, and it does not ship a transfer. -/
def Traceable (db : Database) (s : Store) (call : Call) : Prop :=
  Covered db s call ∧ (Passes db s call → ¬call.request.Ships)

instance (db : Database) (s : Store) (call : Call) : Decidable (Traceable db s call) :=
  inferInstanceAs (Decidable (_ ∧ (_ → _)))

/-- Bookings of covered lines that ship nothing. -/
abbrev tracedBooking : Discipline :=
  ⟨True, False, fun b => ¬b.ShipsItem, fun _ h => h.apart.not_shipsItem⟩

variable {db : Database} {c : Catalogue} {s s' : Store} {k p l tenantId : Id} {q : ℤ}
  {method : PricingMethod} {b : Booking}

section Records

/-- What the recording of a draw adds to a sum over the records. -/
theorem sum_createConsumptionRecords (movementId : Id) (ds : List LayerConsumption)
    (g : ℕ → ValuationLayerConsumption → ℤ) (hg : ∀ i j c, g i c = g j c) :
    (createConsumptionRecords db movementId ds s).consumptions.sum g =
      s.consumptions.sum g +
        (ds.map fun d => g 0 ⟨d.quantity, db.decimal d.unitCost, d.layerId, movementId⟩).sum := by
  simp only [createConsumptionRecords]
  generalize s.consumptions = rows
  induction ds generalizing rows with
  | nil => simp
  | cons d rest ih =>
    rw [List.foldl_cons, ih, Serial.sum_create, List.map_cons, List.sum_cons, add_assoc,
      hg rows.next 0]

/-- What a draw takes from one layer. -/
def drawnFrom (ds : List ((Id × ValuationLayer) × ℤ)) (k : Id) : ℤ :=
  (ds.map fun d => if d.1.1 = k then d.2 else 0).sum

theorem drawnFrom_eq_zero {ds : List ((Id × ValuationLayer) × ℤ)} (h : ∀ d ∈ ds, d.1.1 ≠ k) :
    drawnFrom ds k = 0 := by
  refine List.sum_eq_zero fun x hx => ?_
  obtain ⟨d, hd, rfl⟩ := List.mem_map.mp hx
  exact if_neg (h d hd)

/-- A draw adds no layer. -/
theorem next_drain {layers : Serial ValuationLayer} (ds : List ((Id × ValuationLayer) × ℤ)) :
    (drain layers ds).next = layers.next := by
  induction ds generalizing layers with
  | nil => rfl
  | cons d rest ih => exact ih.trans (Serial.next_modify layers _ _)

end Records

section Bookings

/-- What an issue draws. -/
def Issue.draw (db : Database) (i : Issue) (s : Store) : List ((Id × ValuationLayer) × ℤ) :=
  Lots.draw layerSize
    (consumableLayers db i.productId i.locationId i.tenantId (i.method s) s) i.quantity

/-- A sum over the records after an issue. -/
theorem sum_consumptions_recordIssue (i : Issue) (g : ℕ → ValuationLayerConsumption → ℤ)
    (hg : ∀ i j c, g i c = g j c) :
    (recordIssue db i s).2.consumptions.sum g = s.consumptions.sum g +
      ((i.draw db s).map fun d => g 0 ⟨d.2, db.decimal (chargedCost i.productId i.locationId
        i.tenantId (i.method s) s d.1.2), d.1.1, s.movements.next⟩).sum := by
  have hconsumed : (i.consumed db s).consumptions = (i.draw db s).map fun d =>
      ⟨d.1.1, d.2, chargedCost i.productId i.locationId i.tenantId (i.method s) s d.1.2,
        chargedCost i.productId i.locationId i.tenantId (i.method s) s d.1.2 * d.2⟩ := by
    rw [Issue.consumed, consumeLayers_eq]
    rfl
  rw [recordIssue_eq]
  refine (sum_createConsumptionRecords _ _ g hg).trans ?_
  rw [hconsumed, List.map_map]
  rfl

/-- An issue records for its own movement all that it draws. -/
theorem consumedBy_recordIssue (i : Issue) (k : Id) :
    (recordIssue db i s).2.consumedBy k = s.consumedBy k +
      if k = s.movements.next then ((i.draw db s).map Prod.snd).sum else 0 := by
  refine (sum_consumptions_recordIssue i _ fun _ _ _ => rfl).trans ?_
  congr 1
  by_cases hk : k = s.movements.next
  · subst hk
    simp only [if_true]
  · simp [hk, Ne.symm hk]

/-- An issue records of each layer what it draws from it. -/
theorem consumedOf_recordIssue (i : Issue) (k : Id) :
    (recordIssue db i s).2.consumedOf k = s.consumedOf k + drawnFrom (i.draw db s) k :=
  sum_consumptions_recordIssue i _ fun _ _ _ => rfl

theorem mem_draw {i : Issue} {d : (Id × ValuationLayer) × ℤ} (hd : d ∈ i.draw db s) :
    s.layers.find? d.1.1 = some d.1.2 :=
  (mem_consumableLayers (Lots.mem_of_mem_draw hd)).1

/-- A covered issue leaves the records complete. -/
theorem traced_recordIssue (hs : WellFormed s) (hagree : ∀ p l, s.onHand p l = s.layerQty p l)
    {i : Issue} (hguard : Booking.Guard s (.issue i)) (hcovered : Booking.Covered s.onHand (.issue i))
    (h : s.Traced) (hknown : s.RecordsKnown) :
    (recordIssue db i s).2.Traced ∧ (recordIssue db i s).2.RecordsKnown := by
  have htaken : ((i.draw db s).map Prod.snd).sum = i.quantity :=
    taken_of_covered hs hagree hguard.2.1 hguard.1 hcovered
  have hmovements : (recordIssue db i s).2.movements =
      (createMovement db (i.movement (i.consumed db s)) s).movements := by
    rw [recordIssue_eq]
  have hlayers : (recordIssue db i s).2.layers = drain s.layers (i.draw db s) := by
    rw [recordIssue_eq, consumeLayers_eq]
    rfl
  -- A layer that is yet to come has not been drawn from.
  have hdrawn : ∀ k, s.layers.next ≤ k → drawnFrom (i.draw db s) k = 0 := by
    intro k hk
    refine drawnFrom_eq_zero fun d hd heq => ?_
    subst heq
    have hlt := s.layers.lt_next _ (List.mem_map_of_mem (Table.mem_rows_of_find? (mem_draw hd)))
    exact absurd hlt (not_lt.mpr hk)
  refine ⟨⟨fun k m hm hout => ?_, fun k layer hlayer => ?_⟩, fun k hk => ?_, fun k hk => ?_⟩
  · rw [hmovements, createMovement, Serial.find?_create] at hm
    rw [consumedBy_recordIssue]
    split at hm
    · next hnext =>
      obtain rfl := Option.some.inj hm
      rw [if_pos hnext, htaken, hknown.1 k hnext.ge, zero_add]
      rfl
    · next hnext => rw [if_neg hnext, add_zero, h.1 k m hm hout]
  · have hnodup : ((i.draw db s).map fun d => d.1.1).Nodup :=
      draw_keys_nodup consumableLayers_keys_nodup _
    rw [hlayers, find?_drain hnodup fun _ hd => mem_draw hd] at hlayer
    obtain ⟨layer₀, hlayer₀, rfl⟩ := Option.map_eq_some_iff.mp hlayer
    have hold : layer₀.originalQty - layer₀.remainingQty = s.consumedOf k := h.2 k layer₀ hlayer₀
    show layer₀.originalQty - (layer₀.remainingQty - drawnFrom (i.draw db s) k) = _
    rw [consumedOf_recordIssue]
    omega
  · rw [hmovements] at hk
    have hlt : s.movements.next < k := hk
    rw [consumedBy_recordIssue, hknown.1 k hlt.le, if_neg hlt.ne']
    rfl
  · rw [hlayers, next_drain] at hk
    rw [consumedOf_recordIssue, hknown.2 k hk, hdrawn k hk]
    rfl

theorem traced_recordReceipt {clock : Clock} {m : StockMovement} {batchId : Option Id}
    (hin : m.movementType = .in) (h : s.Traced) (hknown : s.RecordsKnown) :
    (recordReceipt db clock m batchId s).Traced ∧
      (recordReceipt db clock m batchId s).RecordsKnown := by
  rw [recordReceipt_eq]
  refine ⟨⟨Serial.All_create h.1 fun hout => ?_, Serial.All_create h.2 ?_⟩,
    fun k hk => hknown.1 k ?_, fun k hk => hknown.2 k ?_⟩
  · rw [hin] at hout
    cases hout
  · exact (sub_self m.quantity).trans (hknown.2 _ le_rfl).symm
  · exact (Nat.le_succ _).trans hk
  · exact (Nat.le_succ _).trans hk

/-- Covered bookings that ship nothing leave the records complete. -/
theorem traced_book (hs : WellFormed s) (hagree : ∀ p l, s.onHand p l = s.layerQty p l)
    (hb : b.Guard s) (hcovered : b.Covered s.onHand) (hships : ¬b.ShipsItem)
    (h : s.Traced) (hknown : s.RecordsKnown) :
    (book db b s).Traced ∧ (book db b s).RecordsKnown := by
  cases b with
  | receipt clock m batchId => exact traced_recordReceipt hb.1 h hknown
  | issue i => exact traced_recordIssue hs hagree hb hcovered h hknown
  | shipItem => exact absurd trivial hships
  | voidItem tenantId saleId locationId item =>
    refine ⟨⟨Serial.All_create h.1 fun hout => ?_, h.2⟩, fun k hk => hknown.1 k ?_, hknown.2⟩
    · cases hout
    · exact (Nat.le_succ _).trans hk
  | expireCarts read =>
    rw [book, releaseReservedQuantities_eq]
    exact ⟨h, hknown⟩
  | _ => exact ⟨h, hknown⟩

end Bookings

section Runs

/-- In every run of requests that cover their lines and ship no transfer, the records of each
movement out make up its quantity, and those of each layer what is gone from it. -/
theorem traced_of_reachable (h : ReachableBy db (Traceable db) c s) : s.Traced := by
  have hall : (∀ p l, s.onHand p l = s.layerQty p l) ∧ s.Traced ∧ s.RecordsKnown := by
    refine runs_invariant (d := tracedBooking)
      (I := fun s => (∀ p l, s.onHand p l = s.layerQty p l) ∧ s.Traced ∧ s.RecordsKnown) h
      (wellFormed_initial c) ?_ (fun _ _ hok _ => hok.1) (fun _ _ _ => False.elim)
      (fun s call _ b hb => ?_) (fun s call hok hpasses hships => absurd hships (hok.2 hpasses))
      fun s b hs hI hb => ?_
    · exact ⟨fun _ _ => rfl, ⟨fun _ _ h => (nomatch h), fun _ _ h => (nomatch h)⟩,
        ⟨fun _ _ => rfl, fun _ _ => rfl⟩⟩
    · rcases hb with hb | hb | hb
      · exact hb.apart.not_shipsItem
      · exact hb.2.not_shipsItem
      · exact hb.2.1.not_shipsItem
    · refine ⟨fun p l => ?_, traced_book hs hI.1 hb.1 (hb.2.1 trivial) hb.2.2.2 hI.2.1 hI.2.2⟩
      rw [onHand_book hs hb.1, layerQty_book hs hI.1 hb.1 (hb.2.1 trivial), hI.1]
  exact hall.2.1

/-- Two receipts, a sale out of both, a removal, and a transfer that is cancelled as a draft. -/
def soldFromTwoLots : List Call :=
  [⟨⟨0, 2024⟩, .stockIn 0 ⟨0, none, none, [⟨0, 5, 1, none⟩]⟩⟩,
    ⟨⟨1, 2024⟩, .stockIn 0 ⟨0, none, none, [⟨0, 5, 2, none⟩]⟩⟩,
    ⟨⟨2, 2024⟩, .createSale 0
      ⟨0, none, none, none, [⟨0, 7, some 3, none⟩], [⟨.cash, 21⟩], none⟩⟩,
    ⟨⟨3, 2024⟩, .stockOut 0 ⟨0, none, none, [(0, 2)]⟩⟩,
    ⟨⟨4, 2024⟩, .createTransfer 0 ⟨0, 1, none, [⟨0, 1⟩], none⟩⟩,
    ⟨⟨5, 2024⟩, .cancelTransfer 0 0⟩]

def soldFromTwoLotsStore : Store := serveAll .exact soldFromTwoLots (Store.initial (.shop .fifo))

theorem traced_of_reachable_soldFromTwoLots :
    soldFromTwoLotsStore.Traced ∧ soldFromTwoLotsStore.consumedBy 2 = 7 ∧
      soldFromTwoLotsStore.consumedOf 0 = 5 ∧ soldFromTwoLotsStore.consumedOf 1 = 4 :=
  have hrun : ReachableBy .exact (Traceable .exact) (.shop .fifo) soldFromTwoLotsStore :=
    runs_serveAll (by decide +kernel)
  ⟨traced_of_reachable hrun, by decide +kernel⟩

/-- The store of the shop after ten are received and four of them shipped. -/
def fourShippedStore : Store :=
  serveAll .exact
    [⟨⟨0, 2024⟩, .stockIn 0 ⟨0, none, none, [⟨0, 10, 1, none⟩]⟩⟩,
      ⟨⟨1, 2024⟩, .createTransfer 0 ⟨0, 1, some .inTransit, [⟨0, 4⟩], none⟩⟩]
    (Store.initial (.shop .fifo))

/-- The four are gone from the layer, and nothing is recorded for them. -/
theorem shipped_untraced :
    Reachable .exact (.shop .fifo) fourShippedStore ∧ ¬fourShippedStore.Traced ∧
      (fourShippedStore.movements.find? 1).map (fun m => (m.movementType, m.quantity)) =
        some (.out, 4) ∧
      (fourShippedStore.layers.find? 0).map (fun l => (l.originalQty, l.remainingQty)) =
        some (10, 6) ∧
      fourShippedStore.consumedBy 1 = 0 ∧ fourShippedStore.consumedOf 0 = 0 := by
  have hmovement : (fourShippedStore.movements.find? 1).map
      (fun m => (m.movementType, m.quantity)) = some (.out, 4) := by decide +kernel
  have hnone : fourShippedStore.consumedBy 1 = 0 := by decide +kernel
  refine ⟨reachable_serveAll _ _ _, fun htraced => ?_, hmovement, by decide +kernel, hnone,
    by decide +kernel⟩
  obtain ⟨m, hm, hout⟩ := Option.map_eq_some_iff.mp hmovement
  have hquantity := htraced.1 1 m hm (congrArg Prod.fst hout)
  rw [hnone, show m.quantity = 4 from congrArg Prod.snd hout] at hquantity
  cases hquantity

end Runs

end Invetrixa
