import Invetrixa.Correctness.Valuation
import Invetrixa.Refinement.Transfers

/-!
# What a transfer is worth

Shipping stores on each item the average cost of all layers at the source, and draws layers in
the order of the product's method at what they cost by themselves. A receipt or a cancellation
opens a layer at the stored cost. Value is therefore kept exactly by those transfers whose items
draw layers that cost the average.

## Main definitions

- `KeepsValue` — shipping records the value it removes, and it arrives or comes back in full
- `StockTransferItem.DrawnAtAverage` — the layers an item draws cost the average of all

## Main results

- `keepsValue_iff`, `shipping_adds_value`
-/

namespace Invetrixa

open Rowstore Requests ValuationService TransferService

variable {db : Database} {clock : Clock} {tenantId id p l : Id} {s s₁ : Store}
  {t t₁ : StockTransfer} {i : StockTransferItem}

/-- What was shipped of an item, at the unit cost stored on it. -/
def StockTransferItem.shippedValue (i : StockTransferItem) : ℚ :=
  i.shippedQuantity * i.shippedUnitCost.getD 0

/-- A store before and after a transfer is shipped: the value recorded on each item is what left
the layers of the source; when all that was shipped is received, the two locations are together
worth what they were before; and when the transfer is cancelled, the source is. -/
structure KeepsValue (db : Database) (id : Id) (t : StockTransfer) (s s₁ : Store) : Prop where
  recorded : ∃ t₁, s₁.transfers.find? id = some t₁ ∧ ∀ i ∈ t₁.items,
    i.shippedValue = s.layerValue i.productId t.fromLocationId -
      s₁.layerValue i.productId t.fromLocationId
  received : ∀ clock tenantId items r s₂, receive db clock tenantId id items s₁ = .ok (r, s₂) →
    (∀ t₁, s₁.transfers.find? id = some t₁ → ∀ i ∈ t₁.items, ∀ r,
      received items i.productId = some r → r.receivedQuantity = i.shippedQuantity) →
    ∀ p, s₂.layerValue p t.fromLocationId + s₂.layerValue p t.toLocationId =
      s.layerValue p t.fromLocationId + s.layerValue p t.toLocationId
  cancelled : ∀ clock tenantId r s₂, cancel db clock tenantId id s₁ = .ok (r, s₂) →
    ∀ p, s₂.layerValue p t.fromLocationId = s.layerValue p t.fromLocationId

/-- The layers an item draws cost as much as its quantity does at the average of all layers of
its product at the source, as far as the decimal column keeps this average. -/
def StockTransferItem.DrawnAtAverage (db : Database) (tenantId : Id) (t : StockTransfer)
    (s : Store) (i : StockTransferItem) : Prop :=
  Lots.cost layerSize (fun r => r.2.unitCost) (i.layers db tenantId t s) i.requestedQuantity =
    db.decimal (Lots.value layerSize (fun r => r.2.unitCost) (i.layers db tenantId t s) /
      Lots.total layerSize (i.layers db tenantId t s)) * i.requestedQuantity

instance : DecidablePred (StockTransferItem.DrawnAtAverage db tenantId t s) := fun i => by
  rw [StockTransferItem.DrawnAtAverage]
  infer_instance

/-- The weighted average cost is the value of the layers over their size. -/
theorem calculateWAC_eq (db : Database) (method : PricingMethod) :
    calculateWAC p l tenantId s =
      Lots.value layerSize (fun r => r.2.unitCost)
          (consumableLayers db p l tenantId method s) /
        Lots.total layerSize (consumableLayers db p l tenantId method s) := by
  have hperm := consumableLayers_perm db p l tenantId method s
  have hvalue : Lots.value layerSize (fun r => r.2.unitCost)
      (consumableLayers db p l tenantId method s) =
      ((availableLayers p l tenantId s).map fun r => r.2.unitCost * (r.2.remainingQty : ℚ)).sum :=
    (hperm.map _).sum_eq
  have htotal : Lots.total layerSize (consumableLayers db p l tenantId method s) =
      ((availableLayers p l tenantId s).map fun r => r.2.remainingQty).sum :=
    (hperm.map _).sum_eq
  have hnonneg : 0 ≤ Lots.total layerSize (consumableLayers db p l tenantId method s) :=
    Lots.total_nonneg consumableLayers_size_nonneg
  rw [htotal] at hnonneg
  rw [hvalue, htotal, calculateWAC]
  dsimp only
  split
  · next hempty =>
    rw [List.length_eq_zero_iff.mp hempty]
    simp
  · split
    · rfl
    · next hpos =>
      rw [le_antisymm (not_lt.mp hpos) hnonneg]
      simp

/-- The value recorded on an item is what its layers cost if they cost the average. -/
theorem shippedValue_eq_iff :
    (shippedItem db tenantId t s i).shippedValue =
        Lots.cost layerSize (fun r => r.2.unitCost) (i.layers db tenantId t s)
          i.requestedQuantity ↔
      i.DrawnAtAverage db tenantId t s := by
  simp only [StockTransferItem.shippedValue, shippedItem, StockTransferItem.DrawnAtAverage,
    Option.getD_some, StockTransferItem.layers,
    calculateWAC_eq db (resolvePricingMethod i.productId s)]
  rw [mul_comm, eq_comm]

/-- An item is worth its recorded value again where it arrives. -/
theorem arrivedValue_eq (h : i.DrawnAtAverage db tenantId t s) :
    db.decimal ((shippedItem db tenantId t s i).shippedUnitCost.getD 0) *
        (max 0 i.requestedQuantity : ℤ) =
      Lots.cost layerSize (fun r => r.2.unitCost) (i.layers db tenantId t s)
        i.requestedQuantity := by
  have hvalue := shippedValue_eq_iff.mpr h
  simp only [StockTransferItem.shippedValue, shippedItem, Option.getD_some] at hvalue ⊢
  rw [db.decimal_idem]
  rcases le_total i.requestedQuantity 0 with hq | hq
  · -- Nothing is drawn, and nothing arrives.
    rw [max_eq_left hq, Lots.cost, Lots.draw_of_nonpos _ hq]
    simp
  · rw [max_eq_right hq, mul_comm, hvalue]

section Kinds

/-- An item whose layers all cost the same, an amount the column holds, is drawn at the average. -/
theorem drawnAtAverage_of_const {c : ℚ} (hc : db.decimal c = c) (hq : 0 < i.requestedQuantity)
    (hcost : ∀ r ∈ i.layers db tenantId t s, r.2.unitCost = c)
    (hfits : i.requestedQuantity ≤ Lots.total layerSize (i.layers db tenantId t s)) :
    i.DrawnAtAverage db tenantId t s := by
  have hnonneg : ∀ r ∈ i.layers db tenantId t s, 0 ≤ layerSize r := consumableLayers_size_nonneg
  have htotal : (Lots.total layerSize (i.layers db tenantId t s) : ℚ) ≠ 0 :=
    Int.cast_ne_zero.mpr (hq.trans_le hfits).ne'
  have hdrawn : ∀ q, 0 ≤ q → q ≤ Lots.total layerSize (i.layers db tenantId t s) →
      Lots.cost layerSize (fun r => r.2.unitCost) (i.layers db tenantId t s) q = c * q := by
    intro q hq hle
    rw [Lots.cost_congr hcost, Lots.cost_const, Lots.taken_eq_min hnonneg hq, min_eq_left hle]
  have hvalue := Lots.cost_eq_value_of_total_le (fun r => r.2.unitCost) hnonneg le_rfl
  rw [hdrawn _ (Lots.total_nonneg hnonneg) le_rfl] at hvalue
  rw [StockTransferItem.DrawnAtAverage, hdrawn _ hq.le hfits, ← hvalue,
    mul_div_cancel_right₀ _ htotal, hc]

/-- An item that takes all there is at the source is drawn at the average, if the column holds
it. -/
theorem drawnAtAverage_of_all
    (hq : i.requestedQuantity = Lots.total layerSize (i.layers db tenantId t s))
    (hpos : 0 < i.requestedQuantity)
    (hc : db.decimal (Lots.value layerSize (fun r => r.2.unitCost) (i.layers db tenantId t s) /
        Lots.total layerSize (i.layers db tenantId t s)) =
      Lots.value layerSize (fun r => r.2.unitCost) (i.layers db tenantId t s) /
        Lots.total layerSize (i.layers db tenantId t s)) :
    i.DrawnAtAverage db tenantId t s := by
  have hnonneg : ∀ r ∈ i.layers db tenantId t s, 0 ≤ layerSize r := consumableLayers_size_nonneg
  have htotal : (Lots.total layerSize (i.layers db tenantId t s) : ℚ) ≠ 0 :=
    Int.cast_ne_zero.mpr (hq ▸ hpos).ne'
  rw [StockTransferItem.DrawnAtAverage, hc, hq, Lots.cost_eq_value_of_total_le _ hnonneg le_rfl,
    div_mul_cancel₀ _ htotal]

end Kinds

section Shipped

/-- What shipping takes from the layers of an item at the source. -/
theorem removed_commitShip (clock : Clock) (id : Id) (hi : i ∈ t.items) :
    s.layerValue i.productId t.fromLocationId -
        (commitShip db clock tenantId id t s).layerValue i.productId t.fromLocationId =
      Lots.cost layerSize (fun r => r.2.unitCost) (i.layers db tenantId t s)
        i.requestedQuantity := by
  have hitem := itemOf_eq_some_iff.mpr ⟨hi, rfl⟩
  rw [layerValue_commitShip hitem, if_pos rfl, sub_sub_cancel]

/-- Each item records the value that leaves its layers exactly if it is drawn at the average. -/
theorem recorded_iff (hmoved : Moved id t t₁ s (commitShip db clock tenantId id t s)) :
    (∀ i ∈ t₁.items, i.shippedValue = s.layerValue i.productId t.fromLocationId -
        (commitShip db clock tenantId id t s).layerValue i.productId t.fromLocationId) ↔
      ∀ i ∈ t.items, i.DrawnAtAverage db tenantId t s := by
  constructor
  · intro h i hi
    have hrecorded := h _ ((mem_items_commitShip hmoved).mpr ⟨i, hi, rfl⟩)
    exact shippedValue_eq_iff.mp (hrecorded.trans (removed_commitShip (i := i) clock id hi))
  · intro h i₁ hi₁
    obtain ⟨i, hi, rfl⟩ := (mem_items_commitShip hmoved).mp hi₁
    exact (shippedValue_eq_iff.mpr (h i hi)).trans (removed_commitShip clock id hi).symm

end Shipped

section Arrived

variable {s₂ : Store} {m : String}

/-- Items drawn at the average bring their value with them when all of it is received. -/
theorem received_of_drawnAtAverage (hdrawn : ∀ i ∈ t.items, i.DrawnAtAverage db tenantId t s)
    (hmoved : Moved id t t₁ s (commitShip db clock tenantId id t s))
    (hlocations : t₁.fromLocationId = t.fromLocationId ∧ t₁.toLocationId = t.toLocationId)
    {clock' : Clock} {tenantId' : Id} {items : List ReceiveItemDto}
    (h : receive db clock' tenantId' id items (commitShip db clock tenantId id t s) = .ok (m, s₂))
    (hfull : ∀ i ∈ t₁.items, ∀ r, received items i.productId = some r →
      r.receivedQuantity = i.shippedQuantity) (p : Id) :
    s₂.layerValue p t.fromLocationId + s₂.layerValue p t.toLocationId =
      s.layerValue p t.fromLocationId + s.layerValue p t.toLocationId := by
  obtain ⟨rfl, _, hnamed⟩ := receive_ok h hmoved.after
  have hitem₁ := itemOf_commitShip hmoved p
  cases hitem : t.itemOf p with
  | none =>
    rw [hitem, Option.map_none] at hitem₁
    have hvalue : ∀ l, (commitReceive db clock' tenantId' id items t₁
        (commitShip db clock tenantId id t s)).layerValue p l = s.layerValue p l :=
      layerValue_of_goods
        ((goods_commitReceive_of_none hitem₁).trans (goods_commitShip_of_none hitem))
    rw [hvalue, hvalue]
  | some i =>
    rw [hitem, Option.map_some] at hitem₁
    obtain ⟨hi, rfl⟩ := itemOf_eq_some_iff.mp hitem
    obtain ⟨hi₁, _⟩ := itemOf_eq_some_iff.mp hitem₁
    obtain ⟨r, hr, _⟩ := hnamed _ hi₁
    have hall : r.receivedQuantity = i.requestedQuantity := hfull _ hi₁ r hr
    rw [layerValue_commitReceive hitem₁ hr, layerValue_commitReceive hitem₁ hr,
      layerValue_commitShip hitem, layerValue_commitShip hitem, hall, hlocations.2,
      arrivedValue_eq (hdrawn i hi), if_pos rfl, if_pos rfl, if_neg t.locations_ne,
      if_neg t.locations_ne.symm]
    ring

/-- Items drawn at the average bring their value back when the transfer is cancelled. -/
theorem cancelled_of_drawnAtAverage (hdrawn : ∀ i ∈ t.items, i.DrawnAtAverage db tenantId t s)
    (hmoved : Moved id t t₁ s (commitShip db clock tenantId id t s))
    (hstatus : t₁.status = .inTransit) (hlocation : t₁.fromLocationId = t.fromLocationId)
    {clock' : Clock} {tenantId' : Id}
    (h : cancel db clock' tenantId' id (commitShip db clock tenantId id t s) = .ok (m, s₂))
    (p : Id) : s₂.layerValue p t.fromLocationId = s.layerValue p t.fromLocationId := by
  obtain ⟨rfl, _⟩ := cancel_ok h hmoved.after
  have hitem₁ := itemOf_commitShip hmoved p
  cases hitem : t.itemOf p with
  | none =>
    rw [hitem, Option.map_none] at hitem₁
    exact layerValue_of_goods
      ((goods_commitCancel_of_none hitem₁).trans (goods_commitShip_of_none hitem)) _
  | some i =>
    rw [hitem, Option.map_some] at hitem₁
    obtain ⟨hi, rfl⟩ := itemOf_eq_some_iff.mp hitem
    rw [layerValue_commitCancel hstatus hitem₁, layerValue_commitShip hitem, hlocation,
      if_pos rfl, if_pos rfl]
    have hback := arrivedValue_eq (hdrawn i hi)
    rw [show (shippedItem db tenantId t s i).shippedQuantity = i.requestedQuantity from rfl, hback,
      sub_add_cancel]

end Arrived

/-- For every layer state, transfer and pricing method: a shipped transfer keeps value exactly if
each of its items draws layers that cost, together, its quantity at the average. -/
theorem keepsValue_iff {m : String} (hship : ship db clock tenantId id s = .ok (m, s₁))
    (hfind : s.transfers.find? id = some t) :
    KeepsValue db id t s s₁ ↔ ∀ i ∈ t.items, i.DrawnAtAverage db tenantId t s := by
  obtain ⟨rfl, _⟩ := ship_ok hship hfind
  obtain ⟨t₁, hmoved, hheader⟩ := moved_commitShip db clock tenantId t hfind
  have hstatus : t₁.status = .inTransit := congrArg StockTransfer.status hheader
  have hfrom : t₁.fromLocationId = t.fromLocationId :=
    (congrArg StockTransfer.fromLocationId hheader :)
  have hto : t₁.toLocationId = t.toLocationId := (congrArg StockTransfer.toLocationId hheader :)
  constructor
  · rintro ⟨⟨t₂, hfind₂, hrecorded⟩, _, _⟩
    obtain rfl := Option.some.inj (hmoved.after.symm.trans hfind₂)
    exact (recorded_iff hmoved).mp hrecorded
  · intro hdrawn
    refine ⟨⟨t₁, hmoved.after, (recorded_iff hmoved).mpr hdrawn⟩, ?_, ?_⟩
    · intro clock' tenantId' items m' s₂ hreceive hfull
      exact received_of_drawnAtAverage hdrawn hmoved ⟨hfrom, hto⟩ hreceive
        (hfull t₁ hmoved.after)
    · intro clock' tenantId' m' s₂ hcancel
      exact cancelled_of_drawnAtAverage hdrawn hmoved hstatus hfrom hcancel

/-- Ten received at one, ten at two, and a transfer of some of them drafted. -/
def draftedTransfer (quantity : ℤ) : List Call :=
  receivedTwice ++ [⟨⟨2, 2024⟩, .createTransfer 0 ⟨0, 1, none, [⟨0, quantity⟩], none⟩⟩]

def shippedTransfer (quantity : ℤ) : List Call :=
  draftedTransfer quantity ++ [⟨⟨3, 2024⟩, .shipTransfer 0 0⟩]

def receiveTen : Call := ⟨⟨4, 2024⟩, .receiveTransfer 0 0 [⟨0, 10, none⟩]⟩

def cancelTen : Call := ⟨⟨4, 2024⟩, .cancelTransfer 0 0⟩

/-- The store of a shop with a pricing method after some requests. -/
abbrev shopStore (method : PricingMethod) (calls : List Call) : Store :=
  serveAll .exact calls (Store.initial (.shop method))

/-- All twenty are shipped: value is kept. -/
theorem keepsValue_all :
    ∃ m t s₁, ship .exact ⟨3, 2024⟩ 0 0 (shopStore .fifo (draftedTransfer 20)) = .ok (m, s₁) ∧
      (shopStore .fifo (draftedTransfer 20)).transfers.find? 0 = some t ∧
      KeepsValue .exact 0 t (shopStore .fifo (draftedTransfer 20)) s₁ := by
  obtain ⟨⟨m, s₁⟩, hship⟩ := isOk_iff.mp
    (show (ship .exact ⟨3, 2024⟩ 0 0 (shopStore .fifo (draftedTransfer 20))).isOk = true by
      decide +kernel)
  have hfind : (shopStore .fifo (draftedTransfer 20)).transfers.find? 0 =
      some (((shopStore .fifo (draftedTransfer 20)).transfers.find? 0).get (by decide +kernel)) :=
    (Option.some_get _).symm
  exact ⟨m, _, s₁, hship, hfind, (keepsValue_iff hship hfind).mpr (by decide +kernel)⟩

/-- Ten of them are shipped under FIFO, which draws the ten that cost one each: fifteen are
recorded for a value of ten, and five more than before are there once the transfer is received in
full or cancelled. -/
theorem shipping_adds_value :
    AllMeet .exact (Accepted .exact) (shippedTransfer 10) (Store.initial (.shop .fifo)) ∧
      Accepted .exact (shopStore .fifo (shippedTransfer 10)) receiveTen ∧
      Accepted .exact (shopStore .fifo (shippedTransfer 10)) cancelTen ∧
      ((shopStore .fifo (shippedTransfer 10)).transfers.find? 0).map
        (fun t => t.items.map StockTransferItem.shippedValue) = some [15] ∧
      (shopStore .fifo (draftedTransfer 10)).layerValue 0 0 -
        (shopStore .fifo (shippedTransfer 10)).layerValue 0 0 = 10 ∧
      (shopStore .fifo (draftedTransfer 10)).layerValue 0 0 +
        (shopStore .fifo (draftedTransfer 10)).layerValue 0 1 = 30 ∧
      (shopStore .fifo (shippedTransfer 10 ++ [receiveTen])).layerValue 0 0 +
        (shopStore .fifo (shippedTransfer 10 ++ [receiveTen])).layerValue 0 1 = 35 ∧
      (shopStore .fifo (shippedTransfer 10 ++ [cancelTen])).layerValue 0 0 = 35 := by
  decide +kernel

end Invetrixa
