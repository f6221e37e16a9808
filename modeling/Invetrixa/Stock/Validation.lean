import Invetrixa.Schema
import Invetrixa.Library.Runs
import Mathlib.Data.List.Dedup

/-!
# Stock validation

The checks of `StockValidationService`, which the stock services make on the plain client
before they open a transaction, and what an accepted check says about the store.

## Main definitions

- `StockValidationService.validateProducts`, `validateLocation`, `validateLocations`
- `StockValidationService.validateStockAvailability`
- `Store.available` — on-hand minus reserved, as the tenant sees it
-/

namespace Invetrixa

open Rowstore

/-- The balance row the tenant sees for a product at a location. -/
def Store.tenantBalance (s : Store) (tenantId productId locationId : Id) :
    Option InventoryBalance :=
  (s.balances.find? (productId, locationId)).filter fun b => b.tenantId = tenantId

/-- On-hand minus reserved quantity of a tenant's balance row, 0 without one. -/
def Store.available (s : Store) (tenantId productId locationId : Id) : ℤ :=
  ((s.tenantBalance tenantId productId locationId).map fun b =>
    b.onHandQuantity - b.reservedQuantity).getD 0

namespace StockValidationService

variable (s : Store)

/-- The ids in order of first occurrence (`[...new Set(ids)]`). -/
def unique : List Id → List Id
  | [] => []
  | i :: rest => i :: (unique rest).filter (· ≠ i)

/-- The live products of the tenant among the given ids. -/
def liveProducts (tenantId : Id) (ids : List Id) : List (Id × Product) :=
  s.products.rows.filter fun r => r.1 ∈ ids ∧ r.2.tenantId = tenantId ∧ r.2.deletedAt = none

def validateProducts (tenantId : Id) (productIds : List Id) : Except HttpError Unit :=
  let uniqueProductIds := unique productIds
  let products := liveProducts s tenantId uniqueProductIds
  if products.length ≠ uniqueProductIds.length then
    let missingIds := uniqueProductIds.filter fun i => i ∉ products.map Prod.fst
    .error (.notFound ("Products not found: " ++ ", ".intercalate (missingIds.map toString)))
  else
    let variableProducts := products.filter fun r => r.2.productType = .variable
    if variableProducts.length > 0 then
      let names := ", ".intercalate (variableProducts.map fun r => r.2.name)
      .error (.badRequest ("Cannot perform stock operations on parent products: " ++ names ++
        ". Stock should be managed on variant products."))
    else .ok ()

def validateLocation (tenantId locationId : Id) : Except HttpError Location :=
  match s.locations.find? locationId with
  | some location =>
    if location.tenantId = tenantId ∧ location.status = .active then .ok location
    else .error (.notFound "Location not found.")
  | none => .error (.notFound "Location not found.")

def validateLocations (tenantId : Id) (locationIds : List Id) : Except HttpError Unit :=
  forM (unique locationIds) fun locationId =>
    match validateLocation s tenantId locationId with
    | .ok _ => .ok ()
    | .error _ => .error (.notFound ("Location not found: " ++ toString locationId))

/-- The check of one line against the balances as they are before the request. -/
def validateItem (tenantId locationId : Id) (item : Id × ℤ) : Except HttpError Unit :=
  let balance := s.tenantBalance tenantId item.1 locationId
  let onHand := (balance.map InventoryBalance.onHandQuantity).getD 0
  let reserved := (balance.map InventoryBalance.reservedQuantity).getD 0
  let available := onHand - reserved
  if available < item.2 then
    let productName := match balance with
      | some _ => ((s.products.find? item.1).map Product.name).getD (toString item.1)
      | none => toString item.1
    .error (.badRequest ("Insufficient stock for \"" ++ productName ++ "\". On-hand: " ++
      toString onHand ++ ", Reserved: " ++ toString reserved ++ ", Available: " ++
      toString available ++ ", Requested: " ++ toString item.2))
  else .ok ()

def validateStockAvailability (tenantId locationId : Id) (items : List (Id × ℤ)) :
    Except HttpError Unit :=
  forM items (validateItem s tenantId locationId)

end StockValidationService

open StockValidationService

variable {s : Store} {tenantId locationId : Id}

/-- A loop of checks succeeds when every check does. -/
theorem forM_eq_ok_iff {α ε : Type} {f : α → Except ε Unit} {l : List α} :
    forM l f = .ok () ↔ ∀ a ∈ l, f a = .ok () := by
  induction l with
  | nil => simp [List.forM_nil, pure, Except.pure]
  | cons a rest ih =>
    rw [List.forM_cons, Except.bind_eq_ok_iff, List.forall_mem_cons, ← ih]
    exact ⟨fun ⟨_, ha, hrest⟩ => ⟨ha, hrest⟩, fun ⟨ha, hrest⟩ => ⟨(), ha, hrest⟩⟩

theorem mem_unique {i : Id} {l : List Id} : i ∈ unique l ↔ i ∈ l := by
  induction l with
  | nil => rfl
  | cons j rest ih =>
    by_cases hij : i = j
    · simp [unique, hij]
    · simp [unique, ih, hij]

theorem nodup_unique (l : List Id) : (unique l).Nodup := by
  induction l with
  | nil => exact List.nodup_nil
  | cons j rest ih =>
    exact List.nodup_cons.mpr ⟨fun h => of_decide_eq_true (List.mem_filter.mp h).2 rfl,
      ih.filter _⟩

/-- Validated products exist, belong to the tenant, are not deleted and have no variants. -/
theorem validateProducts_ok_iff {productIds : List Id} :
    validateProducts s tenantId productIds = .ok () ↔
      ∀ i ∈ productIds, ∃ p, s.products.find? i = some p ∧
        (p.tenantId = tenantId ∧ p.deletedAt = none) ∧ p.productType ≠ .variable := by
  have hfound : (liveProducts s tenantId (unique productIds)).length = (unique productIds).length ↔
      ∀ i ∈ productIds, ∃ p, s.products.find? i = some p ∧
        p.tenantId = tenantId ∧ p.deletedAt = none := by
    have h := Table.length_select_keys_eq_iff s.products.toTable (unique productIds)
      fun _ p => decide (p.tenantId = tenantId ∧ p.deletedAt = none)
    simp only [Table.select, ← Bool.decide_and, nodup_unique, true_and, mem_unique,
      decide_eq_true_eq] at h
    simpa only [liveProducts, mem_unique] using h
  have hvariable : (((liveProducts s tenantId (unique productIds)).filter fun r =>
        r.2.productType = .variable).length > 0) ↔
      ∃ i ∈ productIds, ∃ p, s.products.find? i = some p ∧
        (p.tenantId = tenantId ∧ p.deletedAt = none) ∧ p.productType = .variable := by
    rw [gt_iff_lt, List.length_pos_iff_exists_mem]
    simp only [liveProducts, List.mem_filter, mem_unique, decide_eq_true_eq]
    constructor
    · rintro ⟨r, ⟨hr, hi, hlive⟩, hv⟩
      exact ⟨r.1, hi, r.2, Table.find?_of_mem_rows hr, hlive, hv⟩
    · rintro ⟨i, hi, p, hp, hlive, hv⟩
      exact ⟨(i, p), ⟨Table.mem_rows_of_find? hp, hi, hlive⟩, hv⟩
  simp only [validateProducts, Except.ite_error_eq_ok_iff, ne_eq, not_not, and_true, hfound,
    hvariable]
  constructor
  · rintro ⟨hall, hnone⟩ i hi
    obtain ⟨p, hp, hlive⟩ := hall i hi
    exact ⟨p, hp, hlive, fun hv => hnone ⟨i, hi, p, hp, hlive, hv⟩⟩
  · intro hall
    refine ⟨fun i hi => ?_, ?_⟩
    · obtain ⟨p, hp, hlive, _⟩ := hall i hi
      exact ⟨p, hp, hlive⟩
    · rintro ⟨i, hi, p, hp, _, hv⟩
      obtain ⟨p', hp', _, hnot⟩ := hall i hi
      rw [hp] at hp'
      exact hnot (Option.some.inj hp' ▸ hv)

theorem validateProducts_ok {productIds : List Id}
    (h : validateProducts s tenantId productIds = .ok ()) {i : Id} (hi : i ∈ productIds) :
    ∃ p, s.products.find? i = some p ∧ p.tenantId = tenantId ∧ p.deletedAt = none := by
  obtain ⟨p, hp, hlive, _⟩ := validateProducts_ok_iff.mp h i hi
  exact ⟨p, hp, hlive⟩

theorem validateProducts_tenantOf {productIds : List Id}
    (h : validateProducts s tenantId productIds = .ok ()) {i : Id} (hi : i ∈ productIds) :
    s.tenantOf i = some tenantId := by
  obtain ⟨p, hp, ht, _⟩ := validateProducts_ok h hi
  simp [Store.tenantOf, hp, ht]

/-- A line passes exactly when the tenant's available quantity covers it alone. -/
theorem validateItem_ok_iff {item : Id × ℤ} :
    validateItem s tenantId locationId item = .ok () ↔
      item.2 ≤ s.available tenantId item.1 locationId := by
  have havail : s.available tenantId item.1 locationId =
      ((s.tenantBalance tenantId item.1 locationId).map InventoryBalance.onHandQuantity).getD 0 -
      ((s.tenantBalance tenantId item.1 locationId).map
        InventoryBalance.reservedQuantity).getD 0 := by
    rw [Store.available]
    cases s.tenantBalance tenantId item.1 locationId <;> simp
  simp only [validateItem]
  rw [← havail]
  by_cases hlt : s.available tenantId item.1 locationId < item.2
  · simp [hlt]
  · simp [hlt, not_lt.mp hlt]

theorem validateStockAvailability_ok_iff {items : List (Id × ℤ)} :
    validateStockAvailability s tenantId locationId items = .ok () ↔
      ∀ item ∈ items, item.2 ≤ s.available tenantId item.1 locationId := by
  rw [validateStockAvailability, forM_eq_ok_iff]
  exact forall₂_congr fun item _ => validateItem_ok_iff

/-- A positive available quantity is that of a balance row of the tenant. -/
theorem exists_balance_of_available_pos {productId : Id}
    (h : 0 < s.available tenantId productId locationId) :
    ∃ b, s.balances.find? (productId, locationId) = some b ∧ b.tenantId = tenantId ∧
      s.available tenantId productId locationId = b.onHandQuantity - b.reservedQuantity := by
  unfold Store.available at h ⊢
  cases hb : s.tenantBalance tenantId productId locationId with
  | none => simp [hb] at h
  | some b =>
    obtain ⟨hfind, ht⟩ := Option.mem_filter_iff.mp (show b ∈ s.tenantBalance _ _ _ from hb)
    exact ⟨b, hfind, by simpa using ht, by simp⟩

end Invetrixa
