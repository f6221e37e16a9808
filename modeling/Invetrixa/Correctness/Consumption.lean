import Invetrixa.Server

/-!
# What an issue consumes

`consumeLayers` takes exactly what it is asked for, layer after layer in the order of the pricing
method, and charges each layer its own cost or, under MOVING_AVERAGE, the average of all. Taking
the same quantity in two goes leaves the same layers; it costs the same as long as the average is
not touched by what the first go takes.

## Main results

- `consumeLayers_exact` — what is consumed, from which layers, and at which cost
- `consumeLayers_split_iff` — when two issues cost what one costs
- `average_moves_between_issues` — two units out of two layers of different cost
-/

namespace Invetrixa

open Rowstore ValuationService

variable {db : Database} {productId locationId tenantId : Id} {method : PricingMethod}
  {quantity : ℤ} {s : Store}

/-- The layers a product at a location has are consumed exactly. -/
structure ConsumesExactly (productId locationId tenantId : Id) (method : PricingMethod)
    (quantity : ℤ) (s : Store) (result : LayerConsumptionResult) (s' : Store) : Prop where
  quantity : (result.consumptions.map LayerConsumption.quantity).sum = quantity
  /-- each layer is named once, and holds that much less afterwards -/
  named_once : (result.consumptions.map LayerConsumption.layerId).Nodup
  lowered : ∀ c ∈ result.consumptions, ∃ layer, s.layers.find? c.layerId = some layer ∧
    s'.layers.find? c.layerId =
      some { layer with remainingQty := layer.remainingQty - c.quantity } ∧
    0 ≤ layer.remainingQty - c.quantity
  unchanged : ∀ k ∉ result.consumptions.map LayerConsumption.layerId,
    s'.layers.find? k = s.layers.find? k
  only_layers : { s' with layers := s.layers } = s
  /-- the first layers in the order of the method, all but the last one emptied -/
  in_order : ∃ layers : List (Id × ValuationLayer),
    layers.Perm (availableLayers productId locationId tenantId s) ∧
    layers.Pairwise (fun a b => (consumptionOrder method).before a.2.createdAt b.2.createdAt) ∧
    result.consumptions.map LayerConsumption.layerId <+: layers.map Prod.fst
  emptied : ∀ c ∈ result.consumptions.dropLast,
    (s'.layers.find? c.layerId).map ValuationLayer.remainingQty = some 0
  lineCost : ∀ c ∈ result.consumptions, c.lineCost = c.unitCost * c.quantity
  totalCost : result.totalCost =
    (result.consumptions.map fun c => (c.quantity : ℚ) * c.unitCost).sum
  /-- FIFO and LIFO charge each layer its own cost -/
  own_cost : method ≠ .movingAverage → ∀ c ∈ result.consumptions,
    (s.layers.find? c.layerId).map ValuationLayer.unitCost = some c.unitCost
  /-- MOVING_AVERAGE charges the average of all layers, which lies between their costs -/
  average : method = .movingAverage → ∀ c ∈ result.consumptions,
    c.unitCost = ((availableLayers productId locationId tenantId s).map
        fun r => r.2.unitCost * (r.2.remainingQty : ℚ)).sum /
      (((availableLayers productId locationId tenantId s).map fun r => r.2.remainingQty).sum : ℤ)
  between : method = .movingAverage → ∀ c ∈ result.consumptions,
    (∃ r ∈ availableLayers productId locationId tenantId s, r.2.unitCost ≤ c.unitCost) ∧
      ∃ r ∈ availableLayers productId locationId tenantId s, c.unitCost ≤ r.2.unitCost

section Exact

theorem availableLayers_pos : ∀ r ∈ availableLayers productId locationId tenantId s,
    0 < layerSize r :=
  fun _ hr => (mem_availableLayers hr).2.2.2

theorem consumableLayers_pos : ∀ r ∈ consumableLayers db productId locationId tenantId method s,
    0 < layerSize r :=
  fun _ hr => (mem_consumableLayers hr).2.2.2

/-- The cost that is calculated is the average price of the layers. -/
theorem calculateWAC_eq_average
    (hne : availableLayers productId locationId tenantId s ≠ []) :
    calculateWAC productId locationId tenantId s =
      Lots.average layerSize (fun r => r.2.unitCost)
        (availableLayers productId locationId tenantId s) := by
  have hpos : 0 < ((availableLayers productId locationId tenantId s).map
      fun r => r.2.remainingQty).sum := Lots.total_pos hne availableLayers_pos
  simp only [calculateWAC, List.length_eq_zero_iff]
  rw [if_neg hne, if_pos hpos]
  rfl

/-- The layers at hand hold what is available, in whatever order. -/
theorem total_consumable (db : Database) (method : PricingMethod) :
    Lots.total layerSize (consumableLayers db productId locationId tenantId method s) =
      getAvailableQuantity productId locationId tenantId s :=
  ((consumableLayers_perm db productId locationId tenantId method s).map layerSize).sum_eq

/-- A draw takes what is available. -/
theorem taken_consumable (db : Database) (method : PricingMethod) (hq : 0 ≤ quantity)
    (hle : quantity ≤ getAvailableQuantity productId locationId tenantId s) :
    Lots.taken layerSize (consumableLayers db productId locationId tenantId method s) quantity =
      quantity := by
  rw [Lots.taken_eq_min consumableLayers_size_nonneg hq, total_consumable, min_eq_left hle]

/-- The consumption names the layers drawn. -/
theorem mem_consumptions {c : LayerConsumption}
    (hc : c ∈ (consumeLayers db productId locationId tenantId quantity method s).1.consumptions) :
    ∃ d ∈ Lots.draw layerSize (consumableLayers db productId locationId tenantId method s) quantity,
      c = ⟨d.1.1, d.2, chargedCost productId locationId tenantId method s d.1.2,
        chargedCost productId locationId tenantId method s d.1.2 * d.2⟩ := by
  rw [consumeLayers_eq] at hc
  obtain ⟨d, hd, rfl⟩ := List.mem_map.mp hc
  exact ⟨d, hd, rfl⟩

theorem layerIds_consumptions :
    (consumeLayers db productId locationId tenantId quantity method s).1.consumptions.map
        LayerConsumption.layerId =
      (Lots.draw layerSize (consumableLayers db productId locationId tenantId method s)
        quantity).map fun d => d.1.1 := by
  rw [consumeLayers_eq]
  exact List.map_map

/-- A layer after the consumption. -/
theorem find?_consumeLayers (k : Id) :
    (consumeLayers db productId locationId tenantId quantity method s).2.layers.find? k =
      (s.layers.find? k).map fun v =>
        { v with remainingQty := v.remainingQty - Lots.takenFrom Prod.fst (Lots.draw layerSize
          (consumableLayers db productId locationId tenantId method s) quantity) k } := by
  rw [consumeLayers_eq]
  exact find?_drain (draw_keys_nodup consumableLayers_keys_nodup quantity)
    (fun d hd => (mem_consumableLayers (Lots.mem_of_mem_draw hd)).1) k

/-- A layer that is drawn from, before and after. -/
theorem find?_consumed {d : (Id × ValuationLayer) × ℤ} (hd : d ∈ Lots.draw layerSize
      (consumableLayers db productId locationId tenantId method s) quantity) :
    s.layers.find? d.1.1 = some d.1.2 ∧
      (consumeLayers db productId locationId tenantId quantity method s).2.layers.find? d.1.1 =
        some { d.1.2 with remainingQty := d.1.2.remainingQty - d.2 } := by
  have hrow := (mem_consumableLayers (Lots.mem_of_mem_draw hd)).1
  refine ⟨hrow, ?_⟩
  rw [find?_consumeLayers, hrow, Option.map_some,
    Lots.takenFrom_of_mem (draw_keys_nodup consumableLayers_keys_nodup quantity) hd]

end Exact

/-- The layers of a product at a location are consumed exactly, for every quantity that they
hold. -/
theorem consumeLayers_exact (db : Database) (productId locationId tenantId : Id)
    (method : PricingMethod) {quantity : ℤ} (s : Store) (hq : 0 ≤ quantity)
    (hle : quantity ≤ getAvailableQuantity productId locationId tenantId s) :
    ConsumesExactly productId locationId tenantId method quantity s
      (consumeLayers db productId locationId tenantId quantity method s).1
      (consumeLayers db productId locationId tenantId quantity method s).2 where
  quantity := by
    have htaken := taken_consumable db method hq hle
    rw [consumeLayers_eq]
    simpa [Lots.taken, Function.comp_def] using htaken
  named_once := by
    rw [layerIds_consumptions]
    exact draw_keys_nodup consumableLayers_keys_nodup quantity
  lowered := by
    intro c hc
    obtain ⟨d, hd, rfl⟩ := mem_consumptions hc
    obtain ⟨hrow, hrow'⟩ := find?_consumed hd
    exact ⟨d.1.2, hrow, hrow',
      sub_nonneg.mpr (Lots.draw_bounds consumableLayers_size_nonneg hd).2⟩
  unchanged := by
    intro k hk
    rw [layerIds_consumptions] at hk
    rw [find?_consumeLayers, Lots.takenFrom_eq_zero fun d hd heq =>
      hk (List.mem_map.mpr ⟨d, hd, heq⟩)]
    simp
  only_layers := by
    rw [consumeLayers_eq]
  in_order := by
    refine ⟨_, consumableLayers_perm db productId locationId tenantId method s,
      db.orderByCreatedAt_sorted _ _, ?_⟩
    have hdraw : (Lots.draw layerSize (consumableLayers db productId locationId tenantId method s)
        quantity).map Prod.fst <+: consumableLayers db productId locationId tenantId method s :=
      Lots.draw_prefix
    have hprefix := hdraw.map Prod.fst
    rw [List.map_map] at hprefix
    rw [layerIds_consumptions]
    exact hprefix
  emptied := by
    intro c hc
    rw [consumeLayers_eq] at hc
    rw [← List.map_dropLast] at hc
    obtain ⟨d, hd, rfl⟩ := List.mem_map.mp hc
    obtain ⟨_, hrow'⟩ := find?_consumed (List.mem_of_mem_dropLast hd)
    rw [hrow', Option.map_some, Lots.draw_emptied hd, sub_self]
  lineCost := by
    intro c hc
    obtain ⟨d, _, rfl⟩ := mem_consumptions hc
    rfl
  totalCost := by
    rw [consumeLayers_eq, List.map_map]
    refine congrArg List.sum (List.map_congr_left fun d _ => ?_)
    exact mul_comm _ _
  own_cost := by
    intro hmethod c hc
    obtain ⟨d, hd, rfl⟩ := mem_consumptions hc
    rw [(find?_consumed hd).1]
    cases method with
    | movingAverage => exact absurd rfl hmethod
    | fifo => rfl
    | lifo => rfl
  average := by
    rintro rfl c hc
    obtain ⟨d, hd, rfl⟩ := mem_consumptions hc
    have hmem := (consumableLayers_perm _ _ _ _ _ _).mem_iff.mp (Lots.mem_of_mem_draw hd)
    exact calculateWAC_eq_average (List.ne_nil_of_mem hmem)
  between := by
    rintro rfl c hc
    obtain ⟨d, hd, rfl⟩ := mem_consumptions hc
    have hmem := (consumableLayers_perm _ _ _ _ _ _).mem_iff.mp (Lots.mem_of_mem_draw hd)
    have hne := List.ne_nil_of_mem hmem
    have hcost : calculateWAC productId locationId tenantId s = _ := calculateWAC_eq_average hne
    simp only [chargedCost, hcost]
    exact ⟨Lots.exists_le_average hne availableLayers_pos,
      Lots.exists_average_le hne availableLayers_pos⟩

/-- Two layers, of one unit at 10 and one at 20, to run examples on. -/
def twoLayers : Store :=
  let layer : ValuationLayer :=
    { productId := 0, locationId := 0, tenantId := 0, originalQty := 1, remainingQty := 1,
      unitCost := 10, sourceMovementId := none, batchId := none, createdAt := 0 }
  { Store.initial (.shop .movingAverage) with
    layers := (Serial.empty.create layer).create { layer with unitCost := 20, createdAt := 1 } }

theorem consumeLayers_exact_twoLayers :
    ConsumesExactly 0 0 0 .lifo 2 twoLayers
      (consumeLayers Database.exact 0 0 0 2 .lifo twoLayers).1
      (consumeLayers Database.exact 0 0 0 2 .lifo twoLayers).2 :=
  consumeLayers_exact Database.exact 0 0 0 .lifo twoLayers (by decide) (by decide +kernel)

/-! ## Two issues and one -/

/-- Two issues in turn leave the layers and cost what one issue of both quantities does. -/
structure SplitsEvenly (db : Database) (productId locationId tenantId : Id)
    (method : PricingMethod) (a b : ℤ) (s : Store) : Prop where
  layers : ∀ k,
    ((consumeLayers db productId locationId tenantId b method
      (consumeLayers db productId locationId tenantId a method s).2).2.layers.find? k).map
        ValuationLayer.remainingQty =
    ((consumeLayers db productId locationId tenantId (a + b) method s).2.layers.find? k).map
      ValuationLayer.remainingQty
  cost :
    (consumeLayers db productId locationId tenantId a method s).1.totalCost +
      (consumeLayers db productId locationId tenantId b method
        (consumeLayers db productId locationId tenantId a method s).2).1.totalCost =
    (consumeLayers db productId locationId tenantId (a + b) method s).1.totalCost

/-- A layer that holds another quantity. -/
def resizeLayer (r : Id × ValuationLayer) (n : ℤ) : Id × ValuationLayer :=
  (r.1, { r.2 with remainingQty := n })

/-- The second issue takes the units that come next in the order the first has read. -/
def TakesNext (db : Database) (productId locationId tenantId : Id) (method : PricingMethod)
    (a b : ℤ) (s : Store) : Prop :=
  (Lots.draw layerSize (consumableLayers db productId locationId tenantId method
    (consumeLayers db productId locationId tenantId a method s).2) b).Perm
  (Lots.draw layerSize (Lots.leftover layerSize resizeLayer
    (consumableLayers db productId locationId tenantId method s) a) b)

/-- The units that an issue takes cost, at the costs of their own layers, what they are charged at
the average. -/
def DrawsAtAverage (db : Database) (productId locationId tenantId : Id) (a : ℤ) (s : Store) :
    Prop :=
  Lots.cost layerSize (fun r => r.2.unitCost)
      (consumableLayers db productId locationId tenantId .movingAverage s) a =
    calculateWAC productId locationId tenantId s * a

section Split

theorem resizable_layers : Lots.Resizable layerSize Prod.fst resizeLayer :=
  ⟨fun _ _ => rfl, fun _ _ => rfl, fun _ => rfl⟩

theorem mem_availableLayers_iff {r : Id × ValuationLayer} :
    r ∈ availableLayers productId locationId tenantId s ↔ s.layers.find? r.1 = some r.2 ∧
      (r.2.productId = productId ∧ r.2.locationId = locationId ∧ r.2.tenantId = tenantId) ∧
        0 < r.2.remainingQty := by
  simp only [availableLayers, List.mem_filter, Table.find?_eq_some_iff, decide_eq_true_eq,
    and_assoc]

theorem takenFrom_nonneg (db : Database) (productId locationId tenantId : Id)
    (method : PricingMethod) (quantity : ℤ) (s : Store) (k : Id) :
    0 ≤ Lots.takenFrom Prod.fst (Lots.draw layerSize
      (consumableLayers db productId locationId tenantId method s) quantity) k := by
  apply Lots.takenFrom_nonneg
  exact fun d hd => (Lots.draw_bounds consumableLayers_size_nonneg hd).1

/-- What the layers of a place hold after an issue is what the draw has left. -/
theorem perm_leftover (db : Database) (productId locationId tenantId : Id)
    (method : PricingMethod) (a : ℤ) (s : Store) :
    (consumableLayers db productId locationId tenantId method
      (consumeLayers db productId locationId tenantId a method s).2).Perm
    (Lots.leftover layerSize resizeLayer
      (consumableLayers db productId locationId tenantId method s) a) := by
  have hkeys : ((consumableLayers db productId locationId tenantId method s).map
      Prod.fst).Nodup := consumableLayers_keys_nodup
  refine (consumableLayers_perm _ _ _ _ _ _).trans ?_
  refine (List.perm_ext_iff_of_nodup ?_ ?_).mpr fun y => ?_
  · exact (List.Nodup.of_map Prod.fst (Table.nodup _)).filter _
  · exact List.Nodup.of_map Prod.fst
      (hkeys.sublist (Lots.keys_leftover resizable_layers a).sublist)
  · rw [mem_availableLayers_iff, find?_consumeLayers,
      Lots.mem_leftover_iff resizable_layers hkeys consumableLayers_pos]
    constructor
    · rintro ⟨hrow, hplace, hpos⟩
      obtain ⟨v, hv, hy⟩ := Option.map_eq_some_iff.mp hrow
      rw [← hy] at hplace hpos
      have htaken := takenFrom_nonneg db productId locationId tenantId method a s y.1
      dsimp only at hpos
      refine ⟨(y.1, v), (consumableLayers_perm _ _ _ _ _ _).mem_iff.mpr
        (mem_availableLayers_iff.mpr ⟨hv, hplace, by dsimp only; omega⟩), ?_, sub_pos.mp hpos⟩
      exact Prod.ext rfl hy.symm
    · rintro ⟨x, hx, rfl, hlt⟩
      obtain ⟨hrow, hplace, _⟩ :=
        mem_availableLayers_iff.mp ((consumableLayers_perm _ _ _ _ _ _).mem_iff.mp hx)
      refine ⟨?_, hplace, sub_pos.mpr hlt⟩
      dsimp only [resizeLayer]
      rw [hrow, Option.map_some]

variable {a b : ℤ}

/-- Layers of different moments are read in one order. -/
theorem takesNext_of_distinct
    (hdistinct : (availableLayers productId locationId tenantId s).Pairwise
      fun x y => x.2.createdAt ≠ y.2.createdAt) :
    TakesNext db productId locationId tenantId method a b s := by
  have hmoment : Lots.Resizable layerSize (fun r => r.2.createdAt) resizeLayer :=
    ⟨fun _ _ => rfl, fun _ _ => rfl, fun _ => rfl⟩
  set layers := consumableLayers db productId locationId tenantId method s with hlayers
  have hmoments : (layers.map fun r => r.2.createdAt).Nodup :=
    ((consumableLayers_perm _ _ _ _ _ _).map _).nodup_iff.mpr (List.pairwise_map.mpr hdistinct)
  have hleft := Lots.keys_leftover hmoment a (l := layers)
  have hsorted : (Lots.leftover layerSize resizeLayer layers a).Pairwise
      fun x y => (consumptionOrder method).before x.2.createdAt y.2.createdAt := by
    have hall : (layers.map fun r => r.2.createdAt).Pairwise
        fun x y => (consumptionOrder method).before x y :=
      List.pairwise_map.mpr (db.orderByCreatedAt_sorted _ _)
    exact List.pairwise_map.mp (hall.sublist hleft.sublist)
  have hperm := perm_leftover db productId locationId tenantId method a s
  have heq : consumableLayers db productId locationId tenantId method
      (consumeLayers db productId locationId tenantId a method s).2 =
      Lots.leftover layerSize resizeLayer layers a := by
    refine hperm.eq_of_pairwise ?_ (db.orderByCreatedAt_sorted _ _) hsorted
    intro x y hx hy hxy hyx
    refine List.inj_on_of_nodup_map (hmoments.sublist hleft.sublist) (hperm.mem_iff.mp hx) hy ?_
    cases hmethod : consumptionOrder method with
    | asc =>
      rw [hmethod] at hxy hyx
      exact le_antisymm hxy hyx
    | desc =>
      rw [hmethod] at hxy hyx
      exact le_antisymm hyx hxy
  rw [TakesNext, heq]

/-- A layer after two issues and after one, each by what its own draws take from it. -/
theorem remainingQty_split (ha : 0 ≤ a) (hb : 0 ≤ b) (k : Id) :
    (consumeLayers db productId locationId tenantId (a + b) method s).2.layers.find? k =
      ((consumeLayers db productId locationId tenantId a method s).2.layers.find? k).map fun v =>
        { v with
          remainingQty := v.remainingQty - Lots.takenFrom Prod.fst
            (Lots.draw layerSize (Lots.leftover layerSize resizeLayer
              (consumableLayers db productId locationId tenantId method s) a) b) k } := by
  have hadd : ∀ (r : Id × ValuationLayer) (m n : ℤ), (if r.1 = k then m + n else 0) =
      (if r.1 = k then m else 0) + if r.1 = k then n else 0 := by
    intro r m n
    split
    · rfl
    · exact (add_zero 0).symm
  have hsplit := Lots.sum_draw_add resizable_layers
    (l := consumableLayers db productId locationId tenantId method s)
    (f := fun r n => if r.1 = k then n else 0) hadd (fun _ _ => rfl) consumableLayers_pos ha hb
  rw [find?_consumeLayers, find?_consumeLayers, Option.map_map]
  refine congrArg (Option.map · _) (funext fun v => ?_)
  simp only [Function.comp_def, Lots.takenFrom, hsplit, sub_sub]

/-- The layers are the same after two issues exactly if the second takes the next units. -/
theorem layers_split_iff (ha : 0 ≤ a) (hb : 0 ≤ b) :
    (∀ k, ((consumeLayers db productId locationId tenantId b method
        (consumeLayers db productId locationId tenantId a method s).2).2.layers.find? k).map
          ValuationLayer.remainingQty =
      ((consumeLayers db productId locationId tenantId (a + b) method s).2.layers.find? k).map
        ValuationLayer.remainingQty) ↔
      TakesNext db productId locationId tenantId method a b s := by
  have hperm := perm_leftover db productId locationId tenantId method a s
  constructor
  · intro h
    refine Lots.draw_perm_of_takenFrom hperm consumableLayers_keys_nodup consumableLayers_pos
      fun k => ?_
    have hk := h k
    rw [remainingQty_split ha hb, find?_consumeLayers] at hk
    cases hrow : (consumeLayers db productId locationId tenantId a method s).2.layers.find? k with
    | none =>
      have hnot : ∀ x ∈ consumableLayers db productId locationId tenantId method
          (consumeLayers db productId locationId tenantId a method s).2, x.1 ≠ k := by
        rintro x hx rfl
        rw [(mem_consumableLayers hx).1] at hrow
        cases hrow
      rw [Lots.takenFrom_eq_zero fun d hd => hnot d.1 (Lots.mem_of_mem_draw hd),
        Lots.takenFrom_eq_zero fun d hd =>
          hnot d.1 (hperm.mem_iff.mpr (Lots.mem_of_mem_draw hd))]
    | some v =>
      rw [hrow] at hk
      exact sub_right_injective (Option.some.inj hk)
  · intro h k
    rw [remainingQty_split ha hb, find?_consumeLayers,
      show Lots.takenFrom Prod.fst _ k = Lots.takenFrom Prod.fst _ k from (h.map _).sum_eq]

/-- The total that an issue is charged. -/
theorem totalCost_consumeLayers :
    (consumeLayers db productId locationId tenantId quantity method s).1.totalCost =
      Lots.cost layerSize (fun r => chargedCost productId locationId tenantId method s r.2)
        (consumableLayers db productId locationId tenantId method s) quantity := by
  rw [consumeLayers_eq]

theorem totalCost_average (hq : 0 ≤ quantity)
    (hle : quantity ≤ getAvailableQuantity productId locationId tenantId s) :
    (consumeLayers db productId locationId tenantId quantity .movingAverage s).1.totalCost =
      calculateWAC productId locationId tenantId s * quantity := by
  have htaken := taken_consumable db .movingAverage hq hle
  calc
    _ = Lots.cost layerSize (fun _ => calculateWAC productId locationId tenantId s)
        (consumableLayers db productId locationId tenantId .movingAverage s) quantity :=
      totalCost_consumeLayers
    _ = calculateWAC productId locationId tenantId s * Lots.taken layerSize
        (consumableLayers db productId locationId tenantId .movingAverage s) quantity :=
      Lots.cost_const _
    _ = calculateWAC productId locationId tenantId s * quantity := by rw [htaken]

/-- At the average cost the layers are worth what they are worth. -/
theorem calculateWAC_mul_available (productId locationId tenantId : Id) (s : Store)
    (db : Database) (method : PricingMethod) :
    calculateWAC productId locationId tenantId s *
        getAvailableQuantity productId locationId tenantId s =
      Lots.value layerSize (fun r => r.2.unitCost)
        (consumableLayers db productId locationId tenantId method s) := by
  have hvalue : Lots.value layerSize (fun r => r.2.unitCost)
      (consumableLayers db productId locationId tenantId method s) =
      Lots.value layerSize (fun r => r.2.unitCost)
        (availableLayers productId locationId tenantId s) :=
    ((consumableLayers_perm _ _ _ _ _ _).map _).sum_eq
  rw [hvalue]
  by_cases hne : availableLayers productId locationId tenantId s = []
  · simp [getAvailableQuantity, hne, Lots.value]
  · rw [calculateWAC_eq_average hne]
    exact Lots.average_mul_total hne availableLayers_pos

/-- What is available after an issue, which takes all there is if that is less. -/
theorem getAvailableQuantity_consumeLayers_min (ha : 0 ≤ a) :
    getAvailableQuantity productId locationId tenantId
        (consumeLayers db productId locationId tenantId a method s).2 =
      getAvailableQuantity productId locationId tenantId s -
        min a (getAvailableQuantity productId locationId tenantId s) := by
  have htaken := Lots.taken_eq_min (l := consumableLayers db productId locationId tenantId method s)
    consumableLayers_size_nonneg ha
  have hsum := Lots.sum_leftover (q := a) resizable_layers (f := fun _ n => n)
    (l := consumableLayers db productId locationId tenantId method s)
    (fun _ _ _ => rfl) (fun _ _ => rfl) consumableLayers_pos
  have hperm := ((perm_leftover db productId locationId tenantId method a s).map layerSize).sum_eq
  rw [total_consumable] at htaken
  rw [← total_consumable db method, ← htaken, ← total_consumable db method]
  exact hperm.trans hsum

/-- What is available after an issue that is covered. -/
theorem getAvailableQuantity_consumeLayers (ha : 0 ≤ a)
    (hle : a ≤ getAvailableQuantity productId locationId tenantId s) :
    getAvailableQuantity productId locationId tenantId
        (consumeLayers db productId locationId tenantId a method s).2 =
      getAvailableQuantity productId locationId tenantId s - a := by
  rw [getAvailableQuantity_consumeLayers_min ha, min_eq_left hle]

/-- Units of a layer are worth what their parts are worth. -/
theorem worth_add (r : Id × ValuationLayer) (m n : ℤ) :
    r.2.unitCost * ((m + n : ℤ) : ℚ) = r.2.unitCost * (m : ℚ) + r.2.unitCost * (n : ℚ) := by
  rw [Int.cast_add]
  exact mul_add _ _ _

/-- What the layers are worth after an issue. -/
theorem value_consumeLayers :
    Lots.value layerSize (fun r => r.2.unitCost)
        (consumableLayers db productId locationId tenantId method
          (consumeLayers db productId locationId tenantId a method s).2) =
      Lots.value layerSize (fun r => r.2.unitCost)
          (consumableLayers db productId locationId tenantId method s) -
        Lots.cost layerSize (fun r => r.2.unitCost)
          (consumableLayers db productId locationId tenantId method s) a := by
  have hsum := Lots.sum_leftover (q := a) resizable_layers
    (l := consumableLayers db productId locationId tenantId method s)
    (f := fun r n => r.2.unitCost * (n : ℚ)) worth_add (fun _ _ => rfl) consumableLayers_pos
  exact ((perm_leftover db productId locationId tenantId method a s).map _).sum_eq.trans hsum

/-- Two issues at the average cost what one does exactly if the first takes units that cost the
average, or the second takes nothing. -/
theorem cost_split_average_iff (ha : 0 ≤ a) (hb : 0 ≤ b)
    (hab : a + b ≤ getAvailableQuantity productId locationId tenantId s) :
    ((consumeLayers db productId locationId tenantId a .movingAverage s).1.totalCost +
        (consumeLayers db productId locationId tenantId b .movingAverage
          (consumeLayers db productId locationId tenantId a .movingAverage s).2).1.totalCost =
      (consumeLayers db productId locationId tenantId (a + b) .movingAverage s).1.totalCost) ↔
      b = 0 ∨ DrawsAtAverage db productId locationId tenantId a s := by
  have havail : getAvailableQuantity productId locationId tenantId
      (consumeLayers db productId locationId tenantId a .movingAverage s).2 =
      getAvailableQuantity productId locationId tenantId s - a :=
    getAvailableQuantity_consumeLayers ha (by omega)
  have hbefore := calculateWAC_mul_available productId locationId tenantId s db .movingAverage
  have hafter := calculateWAC_mul_available productId locationId tenantId
    (consumeLayers db productId locationId tenantId a .movingAverage s).2 db .movingAverage
  rw [value_consumeLayers, ← hbefore, havail] at hafter
  rw [totalCost_average ha (by omega), totalCost_average hb (by omega),
    totalCost_average (by omega) hab, DrawsAtAverage]
  -- The average before and after the first issue; the value left is spread over what is left.
  set w := calculateWAC productId locationId tenantId s
  set w' := calculateWAC productId locationId tenantId
    (consumeLayers db productId locationId tenantId a .movingAverage s).2
  push_cast at hafter ⊢
  constructor
  · intro h
    rcases hb.eq_or_lt with rfl | hpos
    · exact .inl rfl
    · -- the second issue takes something, so the average has not moved
      have hb' : (b : ℚ) ≠ 0 := by exact_mod_cast hpos.ne'
      have heq : w' = w := mul_right_cancel₀ hb' (by linarith)
      rw [heq] at hafter
      exact .inr (by linarith)
  · rintro (rfl | hdrawn)
    · simp
    · rw [hdrawn] at hafter
      rcases hb.eq_or_lt with rfl | hpos
      · simp
      · have hleft : (getAvailableQuantity productId locationId tenantId s : ℚ) - a ≠ 0 := by
          have hne : getAvailableQuantity productId locationId tenantId s - a ≠ 0 := by omega
          exact_mod_cast hne
        have heq : w' = w := mul_right_cancel₀ hleft (by linarith)
        rw [heq]
        ring

/-- When each layer is charged its own cost, two issues that leave the right layers cost what one
does. -/
theorem cost_split_own (hmethod : method ≠ .movingAverage) (ha : 0 ≤ a) (hb : 0 ≤ b)
    (hnext : TakesNext db productId locationId tenantId method a b s) :
    (consumeLayers db productId locationId tenantId a method s).1.totalCost +
        (consumeLayers db productId locationId tenantId b method
          (consumeLayers db productId locationId tenantId a method s).2).1.totalCost =
      (consumeLayers db productId locationId tenantId (a + b) method s).1.totalCost := by
  have hcharged : ∀ s, chargedCost productId locationId tenantId method s =
      ValuationLayer.unitCost := by
    intro s
    cases method with
    | movingAverage => exact absurd rfl hmethod
    | fifo => rfl
    | lifo => rfl
  have hsplit := Lots.sum_draw_add resizable_layers
    (l := consumableLayers db productId locationId tenantId method s)
    (f := fun r n => r.2.unitCost * (n : ℚ)) worth_add (fun _ _ => rfl) consumableLayers_pos ha hb
  rw [totalCost_consumeLayers, totalCost_consumeLayers, totalCost_consumeLayers, hcharged,
    hcharged]
  refine Eq.trans (congrArg (_ + ·) ?_) hsplit.symm
  exact (hnext.map _).sum_eq

end Split

/-- Splitting an issue changes neither the layers nor the cost, exactly if the second part takes
the units that come next and, under MOVING_AVERAGE, the first part has taken units that cost the
average. -/
theorem consumeLayers_split_iff {a b : ℤ} (ha : 0 ≤ a) (hb : 0 ≤ b)
    (hab : a + b ≤ getAvailableQuantity productId locationId tenantId s) :
    SplitsEvenly db productId locationId tenantId method a b s ↔
      TakesNext db productId locationId tenantId method a b s ∧
        (method = .movingAverage → b = 0 ∨ DrawsAtAverage db productId locationId tenantId a s) := by
  constructor
  · rintro ⟨hlayers, hcost⟩
    refine ⟨(layers_split_iff ha hb).mp hlayers, ?_⟩
    rintro rfl
    exact (cost_split_average_iff ha hb hab).mp hcost
  · rintro ⟨hnext, haverage⟩
    refine ⟨(layers_split_iff ha hb).mpr hnext, ?_⟩
    by_cases hmethod : method = .movingAverage
    · subst hmethod
      exact (cost_split_average_iff ha hb hab).mpr (haverage rfl)
    · exact cost_split_own hmethod ha hb hnext

theorem consumeLayers_split_iff_lifo :
    SplitsEvenly Database.exact 0 0 0 .lifo 1 1 twoLayers :=
  (consumeLayers_split_iff (by decide) (by decide) (by decide +kernel)).mpr
    ⟨takesNext_of_distinct (by decide +kernel), by rintro ⟨⟩⟩

/-- Two units issued one by one cost 15 and 20, together 30. -/
theorem average_moves_between_issues :
    2 ≤ getAvailableQuantity 0 0 0 twoLayers ∧
      ¬SplitsEvenly Database.exact 0 0 0 .movingAverage 1 1 twoLayers := by
  refine ⟨by decide +kernel, fun h => ?_⟩
  have hcost := h.cost
  revert hcost
  decide +kernel

end Invetrixa
