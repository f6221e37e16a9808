import Invetrixa.Schema
import Invetrixa.Library.Lots

/-!
# Balances and valuation layers

`BalanceService.updateBalance` and `ValuationService`: the counter of a product at a location
and the layers that say at which cost the stock came in.

## Main definitions

- `BalanceService.updateBalance`
- `ValuationService.consumeLayers`, `calculateWAC`, `createLayer`, `createConsumptionRecords`

## Main results

- `consumeLayers_eq` — consumption is a draw from the layers in the order of the method
- `layerQty_consumeLayers`, `layerValue_consumeLayers` — what it does to the layer totals
-/

namespace Invetrixa

open Rowstore

namespace BalanceService

/-- Create the balance row of a product at a location, or add to its on-hand quantity. -/
def updateBalance (productId locationId tenantId : Id) (quantityChange : ℤ) (s : Store) : Store :=
  { s with
    balances := s.balances.upsert (productId, locationId)
      { tenantId, onHandQuantity := max 0 quantityChange, reservedQuantity := 0 }
      fun b => { b with onHandQuantity := b.onHandQuantity + quantityChange } }

end BalanceService

/-- A product has a balance row at a location. -/
def Store.HasBalance (s : Store) (productId locationId : Id) : Prop :=
  (s.balances.find? (productId, locationId)).isSome

section Balance

variable {s : Store} {p' l' t p l : Id} {q : ℤ}

open BalanceService

theorem find?_updateBalance (k : Id × Id) :
    (updateBalance p' l' t q s).balances.find? k =
      if k = (p', l') then some (((s.balances.find? (p', l')).map fun b =>
        { b with onHandQuantity := b.onHandQuantity + q }).getD
          { tenantId := t, onHandQuantity := max 0 q, reservedQuantity := 0 })
      else s.balances.find? k :=
  Table.find?_upsert _ _

/-- A negative change is booked in full only on an existing row. -/
theorem onHand_updateBalance (h : 0 ≤ q ∨ s.HasBalance p' l') :
    (updateBalance p' l' t q s).onHand p l =
      s.onHand p l + if p' = p ∧ l' = l then q else 0 := by
  rw [Store.onHand, Store.onHand, find?_updateBalance]
  by_cases hpl : p' = p ∧ l' = l
  · obtain ⟨rfl, rfl⟩ := hpl
    cases hb : s.balances.find? (p', l') with
    | none =>
      have hq : 0 ≤ q := by simpa [Store.HasBalance, hb] using h
      simp [hq]
    | some b => simp
  · have hne : ¬(p, l) = (p', l') := fun heq => hpl ⟨(Prod.ext_iff.mp heq).1.symm,
      (Prod.ext_iff.mp heq).2.symm⟩
    simp [hpl, hne]

theorem reserved_updateBalance :
    (updateBalance p' l' t q s).reserved p l = s.reserved p l := by
  rw [Store.reserved, Store.reserved, find?_updateBalance]
  by_cases hpl : (p, l) = (p', l')
  · obtain ⟨rfl, rfl⟩ := Prod.ext_iff.mp hpl
    cases s.balances.find? (p, l) <;> simp
  · rw [if_neg hpl]

theorem hasBalance_updateBalance (h : s.HasBalance p l) :
    (updateBalance p' l' t q s).HasBalance p l := by
  unfold Store.HasBalance at h ⊢
  rw [find?_updateBalance]
  by_cases hpl : (p, l) = (p', l')
  · simp [hpl]
  · rwa [if_neg hpl]

end Balance

/-- One layer consumed by an issue. -/
structure LayerConsumption where
  layerId : Id
  quantity : ℤ
  unitCost : ℚ
  lineCost : ℚ

structure LayerConsumptionResult where
  totalCost : ℚ
  consumptions : List LayerConsumption

namespace ValuationService

/-- Product, then tenant, then FIFO. -/
def resolvePricingMethod (productId : Id) (s : Store) : PricingMethod :=
  match s.products.find? productId with
  | none => .fifo
  | some product =>
    (product.pricingMethod <|>
      (s.tenants.find? product.tenantId).map Tenant.defaultPricingMethod).getD .fifo

/-- The layers of a product at a location that still hold something. -/
def availableLayers (productId locationId tenantId : Id) (s : Store) :
    List (Id × ValuationLayer) :=
  s.layers.rows.filter fun r => r.2.productId = productId ∧ r.2.locationId = locationId ∧
    r.2.tenantId = tenantId ∧ 0 < r.2.remainingQty

/-- The weighted average cost of a product at a location. -/
def calculateWAC (productId locationId tenantId : Id) (s : Store) : ℚ :=
  let layers := availableLayers productId locationId tenantId s
  if layers.length = 0 then 0
  else
    let totalValue := (layers.map fun r => r.2.unitCost * (r.2.remainingQty : ℚ)).sum
    let totalQty := (layers.map fun r => r.2.remainingQty).sum
    if 0 < totalQty then totalValue / totalQty else 0

/-- What the layers of a product at a location hold together. -/
def getAvailableQuantity (productId locationId tenantId : Id) (s : Store) : ℤ :=
  ((availableLayers productId locationId tenantId s).map fun r => r.2.remainingQty).sum

/-- The order in which a method consumes layers. MOVING_AVERAGE keeps books in FIFO order. -/
def consumptionOrder : PricingMethod → SortOrder
  | .lifo => .desc
  | .fifo | .movingAverage => .asc

/-- The loop over the layers that were read: each gives what it has until enough is taken. -/
def consumeLoop (unitCostOf : ValuationLayer → ℚ) :
    List (Id × ValuationLayer) → ℤ → LayerConsumptionResult → Store →
      LayerConsumptionResult × Store
  | [], _, result, s => (result, s)
  | (id, layer) :: rest, remainingToConsume, result, s =>
    if remainingToConsume ≤ 0 then (result, s)
    else
      let consumeQty := min remainingToConsume layer.remainingQty
      let unitCost := unitCostOf layer
      let lineCost := unitCost * consumeQty
      consumeLoop unitCostOf rest (remainingToConsume - consumeQty)
        { totalCost := result.totalCost + lineCost
          consumptions := result.consumptions ++ [⟨id, consumeQty, unitCost, lineCost⟩] }
        { s with
          layers := s.layers.modify id fun l =>
            { l with remainingQty := layer.remainingQty - consumeQty } }

/-- The unit cost an issue charges for a layer: the average for MOVING_AVERAGE, which is read
before anything is consumed, else the layer's own. -/
def chargedCost (productId locationId tenantId : Id) (method : PricingMethod) (s : Store)
    (layer : ValuationLayer) : ℚ :=
  match method with
  | .movingAverage => calculateWAC productId locationId tenantId s
  | .fifo | .lifo => layer.unitCost

/-- The layers in the order in which a method consumes them. -/
def consumableLayers (db : Database) (productId locationId tenantId : Id) (method : PricingMethod)
    (s : Store) : List (Id × ValuationLayer) :=
  db.orderByCreatedAt (consumptionOrder method) (availableLayers productId locationId tenantId s)

def consumeLayers (db : Database) (productId locationId tenantId : Id) (quantity : ℤ)
    (method : PricingMethod) (s : Store) : LayerConsumptionResult × Store :=
  consumeLoop (chargedCost productId locationId tenantId method s)
    (consumableLayers db productId locationId tenantId method s) quantity ⟨0, []⟩ s

def createConsumptionRecords (db : Database) (movementId : Id)
    (consumptions : List LayerConsumption) (s : Store) : Store :=
  { s with
    consumptions := consumptions.foldl (fun t c => t.create
      { quantity := c.quantity
        unitCost := db.decimal c.unitCost
        valuationLayerId := c.layerId
        stockMovementId := movementId }) s.consumptions }

def createLayer (db : Database) (clock : Clock) (productId locationId tenantId : Id)
    (quantity : ℤ) (unitCost : ℚ) (sourceMovementId : Id) (batchId : Option Id) (s : Store) :
    Store :=
  { s with
    layers := s.layers.create
      { productId, locationId, tenantId
        originalQty := quantity
        remainingQty := quantity
        unitCost := db.decimal unitCost
        sourceMovementId := some sourceMovementId
        batchId
        createdAt := clock.time } }

end ValuationService

open ValuationService

/-- The layers keep their books: nothing is consumed twice, and each belongs to the tenant of
its product. -/
def LayersSound (s : Store) : Prop :=
  s.layers.All fun _ l => 0 ≤ l.remainingQty ∧ s.tenantOf l.productId = some l.tenantId

/-- The size of a layer as a lot. -/
abbrev layerSize (r : Id × ValuationLayer) : ℤ := r.2.remainingQty

/-- What a draw leaves of the layers it touches. -/
def drain (layers : Serial ValuationLayer) (ds : List ((Id × ValuationLayer) × ℤ)) :
    Serial ValuationLayer :=
  ds.foldl (fun t d => t.modify d.1.1 fun l => { l with remainingQty := d.1.2.remainingQty - d.2 })
    layers

/-- The loop draws from the layers as from lots. -/
theorem consumeLoop_eq (u : ValuationLayer → ℚ) (rows : List (Id × ValuationLayer)) (q : ℤ)
    (result : LayerConsumptionResult) (s : Store) :
    consumeLoop u rows q result s =
      ({ totalCost := result.totalCost + Lots.cost layerSize (fun r => u r.2) rows q
         consumptions := result.consumptions ++ (Lots.draw layerSize rows q).map fun d =>
           ⟨d.1.1, d.2, u d.1.2, u d.1.2 * d.2⟩ },
       { s with layers := drain s.layers (Lots.draw layerSize rows q) }) := by
  induction rows generalizing q result s with
  | nil => simp [consumeLoop, Lots.cost, Lots.draw, drain]
  | cons r rest ih =>
    obtain ⟨id, layer⟩ := r
    by_cases hq : q ≤ 0
    · simp [consumeLoop, Lots.cost, Lots.draw, drain, hq]
    · simp only [consumeLoop, hq, if_false, ih]
      simp [Lots.cost, Lots.draw, drain, hq, layerSize, add_assoc]

variable {db : Database} {productId locationId tenantId p l : Id} {method : PricingMethod}
  {quantity : ℤ} {s : Store}

theorem mem_availableLayers {r : Id × ValuationLayer}
    (h : r ∈ availableLayers productId locationId tenantId s) :
    s.layers.find? r.1 = some r.2 ∧ r.2.productId = productId ∧ r.2.locationId = locationId ∧
      0 < r.2.remainingQty := by
  obtain ⟨hmem, hr⟩ := List.mem_filter.mp h
  simp only [decide_eq_true_eq] at hr
  exact ⟨Table.find?_of_mem_rows hmem, hr.1, hr.2.1, hr.2.2.2⟩

theorem consumableLayers_perm (db : Database) (productId locationId tenantId : Id)
    (method : PricingMethod) (s : Store) :
    (consumableLayers db productId locationId tenantId method s).Perm
      (availableLayers productId locationId tenantId s) :=
  db.orderByCreatedAt_perm _ _

theorem mem_consumableLayers {r : Id × ValuationLayer}
    (h : r ∈ consumableLayers db productId locationId tenantId method s) :
    s.layers.find? r.1 = some r.2 ∧ r.2.productId = productId ∧ r.2.locationId = locationId ∧
      0 < r.2.remainingQty :=
  mem_availableLayers ((consumableLayers_perm _ _ _ _ _ _).mem_iff.mp h)

theorem consumableLayers_size_nonneg :
    ∀ r ∈ consumableLayers db productId locationId tenantId method s, 0 ≤ layerSize r :=
  fun _ hr => (mem_consumableLayers hr).2.2.2.le

theorem consumableLayers_keys_nodup :
    ((consumableLayers db productId locationId tenantId method s).map Prod.fst).Nodup := by
  refine ((consumableLayers_perm _ _ _ _ _ _).map Prod.fst).nodup_iff.mpr ?_
  exact s.layers.nodup.sublist (List.filter_sublist.map _)

theorem draw_keys_nodup {rows : List (Id × ValuationLayer)} (h : (rows.map Prod.fst).Nodup)
    (q : ℤ) : ((Lots.draw layerSize rows q).map fun d => d.1.1).Nodup := by
  have hprefix : (Lots.draw layerSize rows q).map Prod.fst <+: rows := Lots.draw_prefix
  have hsub := hprefix.sublist.map Prod.fst
  rw [List.map_map] at hsub
  exact h.sublist hsub

/-- `consumeLayers` is a draw from the layers at hand, in the order of the method. -/
theorem consumeLayers_eq :
    consumeLayers db productId locationId tenantId quantity method s =
      ({ totalCost := Lots.cost layerSize
           (fun r => chargedCost productId locationId tenantId method s r.2)
           (consumableLayers db productId locationId tenantId method s) quantity
         consumptions := (Lots.draw layerSize
           (consumableLayers db productId locationId tenantId method s) quantity).map fun d =>
             ⟨d.1.1, d.2, chargedCost productId locationId tenantId method s d.1.2,
               chargedCost productId locationId tenantId method s d.1.2 * d.2⟩ },
       { s with layers := drain s.layers (Lots.draw layerSize
           (consumableLayers db productId locationId tenantId method s) quantity) }) := by
  rw [consumeLayers, consumeLoop_eq]
  simp

/-- A layer after a draw from layers that are there. -/
theorem find?_drain {layers : Serial ValuationLayer} {ds : List ((Id × ValuationLayer) × ℤ)}
    (hnodup : (ds.map fun d => d.1.1).Nodup) (hrow : ∀ d ∈ ds, layers.find? d.1.1 = some d.1.2)
    (k : Id) :
    (drain layers ds).find? k = (layers.find? k).map fun v =>
      { v with remainingQty := v.remainingQty - Lots.takenFrom Prod.fst ds k } := by
  induction ds generalizing layers with
  | nil => simp [drain, Lots.takenFrom]
  | cons d rest ih =>
    obtain ⟨hnot, hrest⟩ := List.nodup_cons.mp hnodup
    have hkey : ∀ d' ∈ rest, d'.1.1 ≠ d.1.1 := fun d' hd' heq =>
      hnot (List.mem_map.mpr ⟨d', hd', heq⟩)
    have hd := hrow d List.mem_cons_self
    rw [drain, List.foldl_cons, ← drain, ih hrest, Lots.takenFrom_cons, Serial.toTable_modify,
      Table.find?_modify]
    · by_cases hk : k = d.1.1
      · subst hk
        rw [if_pos rfl, if_pos rfl, Lots.takenFrom_eq_zero hkey, hd]
        simp
      · rw [if_neg hk, if_neg (Ne.symm hk), zero_add]
    · intro d' hd'
      rw [Serial.toTable_modify, Table.find?_modify, if_neg (hkey d' hd')]
      exact hrow d' (List.mem_cons_of_mem _ hd')

/-- A sum over the layers after a draw. -/
theorem sum_drain {M : Type*} [AddCommGroup M] (g : ℕ → ValuationLayer → M) (q : ℤ) :
    (drain s.layers (Lots.draw layerSize
      (consumableLayers db productId locationId tenantId method s) q)).sum g =
    s.layers.sum g + ((Lots.draw layerSize
      (consumableLayers db productId locationId tenantId method s) q).map fun d =>
        g d.1.1 { d.1.2 with remainingQty := d.1.2.remainingQty - d.2 } - g d.1.1 d.1.2).sum := by
  rw [drain, Serial.toTable_foldl_modify]
  exact Table.sum_foldl_modify (fun d : (Id × ValuationLayer) × ℤ => d.1.1) (fun d => d.1.2) _ g _
    (draw_keys_nodup consumableLayers_keys_nodup q)
    fun d hd => (mem_consumableLayers (Lots.mem_of_mem_draw hd)).1

/-- A summand that depends on the place alone and is linear in the quantity changes by what is
drawn from the layers of that place. -/
theorem sum_drain_linear {M : Type*} [AddCommGroup M] {g : ℕ → ValuationLayer → M}
    {w : ValuationLayer → ℤ → M} (q : ℤ)
    (hhit : ∀ k v a, productId = p ∧ locationId = l → v.productId = productId →
      v.locationId = locationId →
      g k { v with remainingQty := v.remainingQty - a } - g k v = -w v a)
    (hmiss : ∀ k v a, ¬(productId = p ∧ locationId = l) → v.productId = productId →
      v.locationId = locationId →
      g k { v with remainingQty := v.remainingQty - a } - g k v = 0) :
    (drain s.layers (Lots.draw layerSize
      (consumableLayers db productId locationId tenantId method s) q)).sum g =
    s.layers.sum g - if productId = p ∧ locationId = l then
      ((Lots.draw layerSize (consumableLayers db productId locationId tenantId method s) q).map
        fun d => w d.1.2 d.2).sum
      else 0 := by
  rw [sum_drain, sub_eq_add_neg, add_right_inj]
  set ds := Lots.draw layerSize (consumableLayers db productId locationId tenantId method s) q
    with hds
  have hplace : ∀ d ∈ ds, d.1.2.productId = productId ∧ d.1.2.locationId = locationId := by
    intro d hd
    have hrow := mem_consumableLayers (Lots.mem_of_mem_draw hd)
    exact ⟨hrow.2.1, hrow.2.2.1⟩
  by_cases hpl : productId = p ∧ locationId = l
  · have hneg : ds.map (fun d => g d.1.1 { d.1.2 with remainingQty := d.1.2.remainingQty - d.2 } -
        g d.1.1 d.1.2) = (ds.map fun d => w d.1.2 d.2).map Neg.neg := by
      rw [List.map_map]
      exact List.map_congr_left fun d hd =>
        hhit _ _ _ hpl (hplace d hd).1 (hplace d hd).2
    rw [if_pos hpl, hneg, ← List.sum_neg]
  · have hzero : ds.map (fun d => g d.1.1 { d.1.2 with remainingQty := d.1.2.remainingQty - d.2 } -
        g d.1.1 d.1.2) = ds.map fun _ => (0 : M) :=
      List.map_congr_left fun d hd => hmiss _ _ _ hpl (hplace d hd).1 (hplace d hd).2
    rw [if_neg hpl, hzero]
    simp

/-- Consumption lowers the layer quantity of its own product and location by what it draws. -/
theorem layerQty_consumeLayers :
    (consumeLayers db productId locationId tenantId quantity method s).2.layerQty p l =
      s.layerQty p l - if productId = p ∧ locationId = l then
        Lots.taken layerSize (consumableLayers db productId locationId tenantId method s) quantity
      else 0 := by
  rw [consumeLayers_eq]
  refine sum_drain_linear (w := fun _ a => a) quantity ?_ ?_
  · rintro k v a ⟨rfl, rfl⟩ rfl rfl
    simp
  · intro k v a hpl rfl rfl
    simp [hpl]

/-- Consumption lowers the layer value of its own product and location by the layers' own cost
of what it draws, whatever it charges. -/
theorem layerValue_consumeLayers :
    (consumeLayers db productId locationId tenantId quantity method s).2.layerValue p l =
      s.layerValue p l - if productId = p ∧ locationId = l then
        Lots.cost layerSize (fun r => r.2.unitCost)
          (consumableLayers db productId locationId tenantId method s) quantity
      else 0 := by
  rw [consumeLayers_eq]
  refine sum_drain_linear (w := fun v a => v.unitCost * a) quantity ?_ ?_
  · rintro k v a ⟨rfl, rfl⟩ rfl rfl
    simp only [and_self, if_true]
    push_cast
    ring
  · intro k v a hpl rfl rfl
    simp [hpl]

/-- Under sound layers the layers at hand hold the layer quantity of the place. -/
theorem total_consumableLayers (hs : LayersSound s) (ht : s.tenantOf productId = some tenantId) :
    Lots.total layerSize (consumableLayers db productId locationId tenantId method s) =
      s.layerQty productId locationId := by
  rw [Lots.total, ((consumableLayers_perm db productId locationId tenantId method s).map _).sum_eq,
    availableLayers, Table.sum_filter _ fun _ (v : ValuationLayer) => v.remainingQty]
  refine Table.sum_congr fun k v hv => ?_
  obtain ⟨hnonneg, htenant⟩ := hs k v hv
  by_cases hpl : v.productId = productId ∧ v.locationId = locationId
  · obtain ⟨rfl, rfl⟩ := hpl
    obtain rfl : v.tenantId = tenantId := Option.some.inj (htenant.symm.trans ht)
    by_cases hpos : 0 < v.remainingQty
    · simp [hpos]
    · simp [hpos]
      omega
  · simp only [decide_eq_true_eq]
    rw [if_neg hpl, if_neg fun h => hpl ⟨h.1, h.2.1⟩]

/-- Under sound layers consumption takes the quantity asked for, or all there is. -/
theorem taken_consumableLayers (hs : LayersSound s) (ht : s.tenantOf productId = some tenantId)
    (hq : 0 ≤ quantity) :
    Lots.taken layerSize (consumableLayers db productId locationId tenantId method s) quantity =
      min quantity (s.layerQty productId locationId) := by
  rw [Lots.taken_eq_min consumableLayers_size_nonneg hq, total_consumableLayers hs ht]

theorem layersSound_consumeLayers (hs : LayersSound s) :
    LayersSound (consumeLayers db productId locationId tenantId quantity method s).2 := by
  rw [consumeLayers_eq, LayersSound, drain, Serial.toTable_foldl_modify]
  refine Table.All.foldl_modify _ hs (draw_keys_nodup consumableLayers_keys_nodup quantity)
    (fun d hd => (mem_consumableLayers (Lots.mem_of_mem_draw hd)).1) fun d hd hrow => ?_
  have hbounds := Lots.draw_bounds consumableLayers_size_nonneg hd
  exact ⟨sub_nonneg.mpr hbounds.2, hrow.2⟩

end Invetrixa
