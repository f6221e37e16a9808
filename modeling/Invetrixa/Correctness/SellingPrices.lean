import Invetrixa.Catalog.Pricing
import Invetrixa.Correctness.CategoryLinks
import Invetrixa.Library.Clamping
import Invetrixa.Server
import Mathlib.Tactic.Linarith

/-!
# Selling prices and their bounds

A price is raised to the floor of its product and then lowered to the ceiling. Nothing keeps a floor
from being stored above the ceiling, and then the price is below the floor.

## Main definitions

- `PricedCatalog.PricesSoundly` — the prices of a product are within its bounds, rise with the
  average cost, and are those that are calculated from that cost
- `PricingSettings.BoundsInOrder` — the floor is not above the ceiling

## Main results

- `sellingPrice_eq` — the price is the marked-up cost, clamped
- `selling_prices_sound_iff`, `price_below_floor`
-/

namespace Invetrixa

open Rowstore Requests PricingService ProductService ValuationService Clamping

variable {casing : Casing} {warehouse : Warehouse} {db : Database} {s s' : PricedCatalog}
  {tenantId id locationId : Id} {books : Store} {p : PricingSettings} {result : SellingPriceResult}

/-- The floor is not above the ceiling, where there are both. -/
def PricingSettings.BoundsInOrder (p : PricingSettings) : Prop :=
  InOrder p.minSellingPrice p.maxSellingPrice

instance (p : PricingSettings) : Decidable p.BoundsInOrder :=
  inferInstanceAs (Decidable (InOrder _ _))

/-- No mark-up is negative. -/
def PricingSettings.MarksUp (p : PricingSettings) : Prop := ∀ v ∈ p.markupValue, 0 ≤ v

/-- The prices of a product: at every location and with all layers of stock there is one, within
the bounds, calculated from the average cost, and higher costs do not make it lower. -/
structure PricedCatalog.PricesSoundly (s : PricedCatalog) (tenantId id : Id) : Prop where
  priced : ∀ locationId books, ∃ result,
    calculateSellingPrice id locationId tenantId books s = .ok result
  bounded : ∀ locationId books result,
    calculateSellingPrice id locationId tenantId books s = .ok result →
      (∀ floor ∈ (s.pricing id).minSellingPrice, floor ≤ result.sellingPrice) ∧
        ∀ ceiling ∈ (s.pricing id).maxSellingPrice, result.sellingPrice ≤ ceiling
  monotone : ∀ locationId locationId' books books' result result',
    calculateSellingPrice id locationId tenantId books s = .ok result →
      calculateSellingPrice id locationId' tenantId books' s = .ok result' →
        calculateWAC id locationId tenantId books ≤ calculateWAC id locationId' tenantId books' →
          result.sellingPrice ≤ result'.sellingPrice
  fromCost : ∀ locationId books result,
    calculateSellingPrice id locationId tenantId books s = .ok result →
      result.sellingPrice = calculateFromCost (calculateWAC id locationId tenantId books)
        (s.pricing id).markupType (s.pricing id).markupValue (s.pricing id).minSellingPrice
        (s.pricing id).maxSellingPrice

/-- A request leaves the bounds of the products in order that it writes. -/
def KeepsBoundsInOrder (db : Database) (s : PricedCatalog) : PricedCall → Prop
  | .create _ _ pricing => (pricing.columns db).BoundsInOrder
  | .update _ id _ changes => (changes.columns db (s.pricing id)).BoundsInOrder
  | .remove _ _ _ | .category _ => True

section Prices

theorem calculateFromCost_eq (cost : ℚ) (p : PricingSettings) :
    calculateFromCost cost p.markupType p.markupValue p.minSellingPrice p.maxSellingPrice =
      clamp p.minSellingPrice p.maxSellingPrice
        (applyMarkup cost p.markupType p.markupValue) := by
  obtain ⟨markupType, markupValue, minSellingPrice, maxSellingPrice⟩ := p
  cases minSellingPrice <;> cases maxSellingPrice <;> rfl

/-- The price is the marked-up cost, clamped: that a column is tested for truth makes no
difference, since each value is an object. -/
theorem sellingPrice_eq (cost : ℚ) (p : PricingSettings) :
    (sellingPriceResult cost p).sellingPrice =
      clamp p.minSellingPrice p.maxSellingPrice
        (applyMarkup cost p.markupType p.markupValue) := by
  obtain ⟨markupType, markupValue, minSellingPrice, maxSellingPrice⟩ := p
  cases markupValue <;> cases minSellingPrice <;> cases maxSellingPrice <;> rfl

/-- A mark-up that is not negative keeps the order of costs. -/
theorem applyMarkup_mono (hp : p.MarksUp) :
    Monotone fun cost => applyMarkup cost p.markupType p.markupValue := by
  obtain ⟨markupType, markupValue, minSellingPrice, maxSellingPrice⟩ := p
  intro cost cost' hle
  cases markupType with
  | none => exact hle
  | some markupType =>
    cases markupValue with
    | none =>
      cases markupType <;> exact hle
    | some v =>
      have hv : 0 ≤ v := hp v rfl
      cases markupType with
      | percent =>
        have hfactor : 0 ≤ 1 + v / 100 := by positivity
        exact mul_le_mul_of_nonneg_right hle hfactor
      | fixedAmount => exact add_le_add_left hle v
      | manual => exact le_rfl

/-- A product of the tenant is priced by its columns and its cost. -/
theorem calculateSellingPrice_eq_iff (hlive : (liveProduct tenantId id s.catalog).isSome) :
    calculateSellingPrice id locationId tenantId books s = .ok result ↔
      sellingPriceResult (calculateWAC id locationId tenantId books) (s.pricing id) = result := by
  obtain ⟨product, hproduct⟩ := Option.isSome_iff_exists.mp hlive
  rw [calculateSellingPrice, hproduct]
  exact ⟨Except.ok.inj, congrArg Except.ok⟩

/-- Where no mark-up is negative, the prices of a product are sound exactly if its bounds are in
order. -/
theorem pricesSoundly_iff (hlive : (liveProduct tenantId id s.catalog).isSome)
    (hmarkup : (s.pricing id).MarksUp) :
    s.PricesSoundly tenantId id ↔ (s.pricing id).BoundsInOrder := by
  constructor
  · intro h
    -- any location and any layers will do
    obtain ⟨result, hresult⟩ := h.priced 0 (Store.initial (.shop .fifo))
    have hwithin := h.bounded _ _ result hresult
    obtain rfl := (calculateSellingPrice_eq_iff hlive).mp hresult
    rw [sellingPrice_eq] at hwithin
    exact within_clamp_iff.mp hwithin
  · intro horder
    refine ⟨fun locationId books => ?_, fun locationId books result h => ?_,
      fun locationId locationId' books books' result result' h h' hcost => ?_,
      fun locationId books result h => ?_⟩
    · exact ⟨_, (calculateSellingPrice_eq_iff hlive).mpr rfl⟩
    · obtain rfl := (calculateSellingPrice_eq_iff hlive).mp h
      rw [sellingPrice_eq]
      exact within_clamp_iff.mpr horder
    · obtain rfl := (calculateSellingPrice_eq_iff hlive).mp h
      obtain rfl := (calculateSellingPrice_eq_iff hlive).mp h'
      rw [sellingPrice_eq, sellingPrice_eq]
      exact clamp_mono _ _ (applyMarkup_mono hmarkup hcost)
    · obtain rfl := (calculateSellingPrice_eq_iff hlive).mp h
      rw [sellingPrice_eq, calculateFromCost_eq]

end Prices

section Runs

/-- A request writes the columns of new products, or of the one that it updates. -/
theorem pricing_cases (casing : Casing) (warehouse : Warehouse) (db : Database) (call : PricedCall)
    (s : PricedCatalog) (id : Id) :
    (servePriced casing warehouse db call s).pricing id = s.pricing id ∨
      (∃ tenantId dto pricing, call = .create tenantId dto pricing ∧
        (servePriced casing warehouse db call s).pricing id = pricing.columns db) ∨
      ∃ tenantId dto changes, call = .update tenantId id dto changes ∧
        (servePriced casing warehouse db call s).pricing id =
          changes.columns db (s.pricing id) := by
  cases call with
  | create tenantId dto pricing =>
    by_cases hold : id < s.catalog.products.next
    · exact .inl (if_pos hold)
    · exact .inr (.inl ⟨tenantId, dto, pricing, rfl, if_neg hold⟩)
  | update tenantId id' dto changes =>
    rw [servePriced, updatePriced]
    cases ProductService.update casing tenantId id' dto s.catalog with
    | mk answer catalog =>
      cases answer with
      | error e => exact .inl rfl
      | ok answer =>
        by_cases hid : id = id'
        · subst hid
          exact .inr (.inr ⟨tenantId, dto, changes, rfl, Function.update_self ..⟩)
        · exact .inl (Function.update_of_ne hid ..)
  | remove tenantId now id' => exact .inl rfl
  | category call => exact .inl rfl

/-- A column that a request gives is not negative. -/
theorem decimalColumn_nonneg (hdecimal : ∀ x, 0 ≤ x → 0 ≤ db.decimal x) (x : Option NNRat) :
    ∀ v ∈ decimalColumn db x, 0 ≤ v := by
  intro v hv
  obtain ⟨w, _, rfl⟩ := Option.map_eq_some_iff.mp hv
  exact hdecimal w w.coe_nonneg

theorem marksUp_servePriced (hdecimal : ∀ x, 0 ≤ x → 0 ≤ db.decimal x)
    (hs : ∀ id, (s.pricing id).MarksUp) (call : PricedCall) (id : Id) :
    ((servePriced casing warehouse db call s).pricing id).MarksUp := by
  rcases pricing_cases casing warehouse db call s id with heq | ⟨_, _, pricing, _, heq⟩ |
    ⟨_, _, changes, _, heq⟩
  · exact heq ▸ hs id
  · exact heq ▸ decimalColumn_nonneg hdecimal pricing.markupValue
  · rw [heq]
    intro v hv
    rw [PricingChanges.columns] at hv
    cases hvalue : changes.markupValue with
    | none =>
      rw [hvalue] at hv
      exact hs id v hv
    | some x =>
      rw [hvalue] at hv
      exact decimalColumn_nonneg hdecimal x v hv

/-- No mark-up is ever negative. -/
theorem marksUp_of_runs {ok : PricedCatalog → PricedCall → Prop}
    (hdecimal : ∀ x, 0 ≤ x → 0 ≤ db.decimal x)
    (h : Runs (servePriced casing warehouse db) ok .empty s) (id : Id) :
    (s.pricing id).MarksUp := by
  refine Runs.invariant (I := fun s : PricedCatalog => ∀ id, (s.pricing id).MarksUp) h ?_ ?_ id
  · exact fun _ _ hv => nomatch hv
  · exact fun s call hs _ id => marksUp_servePriced hdecimal hs call id

/-- Requests that leave the bounds in order that they write leave all bounds in order. -/
theorem boundsInOrder_of_runs
    (h : Runs (servePriced casing warehouse db) (KeepsBoundsInOrder db) .empty s) (id : Id) :
    (s.pricing id).BoundsInOrder := by
  refine Runs.invariant (I := fun s : PricedCatalog => ∀ id, (s.pricing id).BoundsInOrder) h
    ?_ ?_ id
  · exact fun _ _ hfloor => nomatch hfloor
  · intro s call hs hkeeps id
    rcases pricing_cases casing warehouse db call s id with heq | ⟨_, _, pricing, rfl, heq⟩ |
      ⟨_, _, changes, rfl, heq⟩
    · exact heq ▸ hs id
    · exact heq ▸ hkeeps
    · exact heq ▸ hkeeps

/-- In every run the prices of a product are sound exactly if its floor is not above its ceiling,
and so they are in a run whose requests leave the bounds in order that they write. -/
theorem selling_prices_sound_iff (casing : Casing) (warehouse : Warehouse) (db : Database)
    (hdecimal : ∀ x, 0 ≤ x → 0 ≤ db.decimal x) :
    (∀ s, Runs (servePriced casing warehouse db) (fun _ _ => True) .empty s →
      ∀ tenantId id, (liveProduct tenantId id s.catalog).isSome →
        (s.PricesSoundly tenantId id ↔ (s.pricing id).BoundsInOrder)) ∧
    ∀ s, Runs (servePriced casing warehouse db) (KeepsBoundsInOrder db) .empty s →
      ∀ tenantId id, (liveProduct tenantId id s.catalog).isSome → s.PricesSoundly tenantId id := by
  constructor
  · intro s h tenantId id hlive
    exact pricesSoundly_iff hlive (marksUp_of_runs hdecimal h id)
  · intro s h tenantId id hlive
    exact (pricesSoundly_iff hlive (marksUp_of_runs hdecimal h id)).mpr (boundsInOrder_of_runs h id)

/-- A category, and tea in it, at a price between two bounds. -/
def teaBetween (floor ceiling : Option NNRat) : List PricedCall :=
  [.category ⟨0, 0, .create ⟨"Drinks", none, none⟩⟩,
    .create 0
      { name := "Tea"
        sku := none
        slug := none
        categoryIds := [0]
        variants := []
        initialStock := [] }
      ⟨some .percent, some 50, floor, ceiling⟩]

def teaCatalog (floor ceiling : Option NNRat) : PricedCatalog :=
  (teaBetween floor ceiling).foldl (fun s call => servePriced .ascii .open .scale4 call s) .empty

theorem scale4_nonneg : ∀ x, 0 ≤ x → 0 ≤ Database.scale4.decimal x := by
  intro x hx
  have hzero : roundToScale4 0 = 0 := by simpa using roundToScale4_of_int 0
  calc (0 : ℚ) = roundToScale4 0 := hzero.symm
    _ ≤ roundToScale4 x := roundToScale4_mono hx

theorem runs_teaCatalog (floor ceiling : Option NNRat) :
    Runs (servePriced .ascii .open .scale4) (fun _ _ => True) .empty (teaCatalog floor ceiling) :=
  Runs.of_allMeet (Runs.allMeet_true (teaBetween floor ceiling))

theorem selling_prices_sound_iff_tea :
    (teaCatalog (some 50) (some 200)).PricesSoundly 0 0 := by
  refine ((selling_prices_sound_iff .ascii .open .scale4 scale4_nonneg).1 _
    (runs_teaCatalog (some 50) (some 200)) 0 0 ?_).mpr ?_
  · decide +kernel
  · decide +kernel

/-- A floor of a hundred is stored above a ceiling of fifty, and tea without stock costs fifty. -/
theorem price_below_floor :
    ¬∀ s, Runs (servePriced .ascii .open .scale4) (fun _ _ => True) .empty s →
      ∀ tenantId id, (liveProduct tenantId id s.catalog).isSome → s.PricesSoundly tenantId id := by
  intro h
  have hlive : (liveProduct 0 0 (teaCatalog (some 100) (some 50)).catalog).isSome := by
    decide +kernel
  have hsound := h _ (runs_teaCatalog (some 100) (some 50)) 0 0 hlive
  have hprice : (calculateSellingPrice 0 0 0 (Store.initial (.shop .fifo))
      (teaCatalog (some 100) (some 50))).map SellingPriceResult.sellingPrice = .ok 50 := by
    decide +kernel
  obtain ⟨result, hresult⟩ := hsound.priced 0 (Store.initial (.shop .fifo))
  have hfloor : ((teaCatalog (some 100) (some 50)).pricing 0).minSellingPrice = some 100 := by
    decide +kernel
  have hbelow := (hsound.bounded _ _ result hresult).1 100 hfloor
  rw [hresult] at hprice
  rw [Except.ok.inj hprice] at hbelow
  exact absurd hbelow (by decide +kernel)

end Runs

end Invetrixa
