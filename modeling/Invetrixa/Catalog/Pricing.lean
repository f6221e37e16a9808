import Invetrixa.Catalog.Product
import Invetrixa.Stock.Valuation
import Mathlib.Data.NNRat.Defs

/-!
# Selling prices

`PricingService`, and the columns that it reads, which `ProductService.create` and `update` write:
a rule for the mark-up, a floor and a ceiling. Nothing else of the catalogue depends on them, so
they stand beside it.

## Main definitions

- `PricedCatalog` — the catalogue with the pricing columns of its products
- `PricingService.calculateSellingPrice`, `calculateBulkSellingPrices`, `calculateFromCost`
- `servePriced` — products are created and updated with their pricing columns
-/

namespace Invetrixa

open Rowstore Requests

inductive MarkupType
  | percent | fixedAmount | manual
  deriving DecidableEq

/-- The pricing columns of a product. -/
structure PricingSettings where
  markupType : Option MarkupType
  markupValue : Option ℚ
  minSellingPrice : Option ℚ
  maxSellingPrice : Option ℚ
  deriving DecidableEq

/-- The catalogue, and under the id of each product its pricing columns. -/
structure PricedCatalog where
  catalog : CatalogStore
  pricing : Id → PricingSettings

def PricedCatalog.empty : PricedCatalog := ⟨.empty, fun _ => ⟨none, none, none, none⟩⟩

structure SellingPriceResult where
  cost : ℚ
  sellingPrice : ℚ
  markupType : Option MarkupType
  markupValue : Option ℚ
  margin : ℚ
  marginPercent : ℚ
  deriving DecidableEq

/-- `Math.round` -/
def mathRound (x : ℚ) : ℤ := ⌊x + 1 / 2⌋

namespace PricingService

def applyMarkup (cost : ℚ) (markupType : Option MarkupType) (markupValue : Option ℚ) : ℚ :=
  match markupType, markupValue with
  | none, _ | _, none => cost
  | some .percent, some markupValue => cost * (1 + markupValue / 100)
  | some .fixedAmount, some markupValue => cost + markupValue
  | some .manual, some markupValue => markupValue

/-- Whether JavaScript takes a decimal column for true: a value is an object, zero as well. -/
def truthyDecimal (x : Option ℚ) : Bool := x.isSome

/-- `Number` of a decimal column -/
def number (x : Option ℚ) : ℚ := x.getD 0

/-- The answer about a product whose cost is known. -/
def sellingPriceResult (cost : ℚ) (product : PricingSettings) : SellingPriceResult :=
  let markupValue := if truthyDecimal product.markupValue then some (number product.markupValue)
    else none
  let sellingPrice := applyMarkup cost product.markupType markupValue
  let sellingPrice := if truthyDecimal product.minSellingPrice then
    max sellingPrice (number product.minSellingPrice) else sellingPrice
  let sellingPrice := if truthyDecimal product.maxSellingPrice then
    min sellingPrice (number product.maxSellingPrice) else sellingPrice
  let margin := sellingPrice - cost
  let marginPercent := if 0 < cost then margin / cost * 100 else 0
  { cost
    sellingPrice
    markupType := product.markupType
    markupValue
    margin
    marginPercent := mathRound (marginPercent * 100) / 100 }

def calculateSellingPrice (productId locationId tenantId : Id) (books : Store)
    (s : PricedCatalog) : Except HttpError SellingPriceResult :=
  match ProductService.liveProduct tenantId productId s.catalog with
  | none => .error (.notFound "Product not found")
  | some _ => .ok (sellingPriceResult
      (ValuationService.calculateWAC productId locationId tenantId books) (s.pricing productId))

/-- The products that have a price, each once. -/
def calculateBulkSellingPrices (productIds : List Id) (locationId tenantId : Id) (books : Store)
    (s : PricedCatalog) : List (Id × SellingPriceResult) :=
  productIds.eraseDups.filterMap fun productId =>
    match calculateSellingPrice productId locationId tenantId books s with
    | .ok result => some (productId, result)
    | .error _ => none

/-- The price from a cost that is given. A bound is left out if it is null or undefined. -/
def calculateFromCost (cost : ℚ) (markupType : Option MarkupType)
    (markupValue minPrice maxPrice : Option ℚ) : ℚ :=
  let sellingPrice := applyMarkup cost markupType markupValue
  let sellingPrice := match minPrice with
    | some minPrice => max sellingPrice minPrice
    | none => sellingPrice
  match maxPrice with
  | some maxPrice => min sellingPrice maxPrice
  | none => sellingPrice

end PricingService

/-- The pricing fields of a new product. `NumberField` takes numbers from zero on. -/
structure PricingDto where
  markupType : Option MarkupType
  markupValue : Option NNRat
  minSellingPrice : Option NNRat
  maxSellingPrice : Option NNRat

/-- The pricing fields of an update: left out, null or a value. -/
structure PricingChanges where
  markupType : Option (Option MarkupType)
  markupValue : Option (Option NNRat)
  minSellingPrice : Option (Option NNRat)
  maxSellingPrice : Option (Option NNRat)

/-- What a decimal column keeps of a number. -/
def decimalColumn (db : Database) (x : Option NNRat) : Option ℚ :=
  x.map fun v : NNRat => db.decimal (v : ℚ)

/-- The columns of a new product. -/
def PricingDto.columns (db : Database) (dto : PricingDto) : PricingSettings where
  markupType := dto.markupType
  markupValue := decimalColumn db dto.markupValue
  minSellingPrice := decimalColumn db dto.minSellingPrice
  maxSellingPrice := decimalColumn db dto.maxSellingPrice

/-- The columns after an update. -/
def PricingChanges.columns (db : Database) (changes : PricingChanges) (p : PricingSettings) :
    PricingSettings where
  markupType := changes.markupType.getD p.markupType
  markupValue := (changes.markupValue.map (decimalColumn db)).getD p.markupValue
  minSellingPrice := (changes.minSellingPrice.map (decimalColumn db)).getD p.minSellingPrice
  maxSellingPrice := (changes.maxSellingPrice.map (decimalColumn db)).getD p.maxSellingPrice

namespace ProductService

variable (casing : Casing) (warehouse : Warehouse) (db : Database)

/-- `create`: the product and its variants all get the pricing columns of the request. -/
def createPriced (tenantId : Id) (dto : CreateProductDto) (pricing : PricingDto)
    (s : PricedCatalog) : Except HttpError Id × PricedCatalog :=
  let (answer, catalog) := create casing warehouse tenantId dto s.catalog
  (answer, ⟨catalog, fun id =>
    if id < s.catalog.products.next then s.pricing id else pricing.columns db⟩)

/-- `update`: the pricing columns are written with the others, if the update goes through. -/
def updatePriced (tenantId id : Id) (dto : UpdateProductDto) (changes : PricingChanges)
    (s : PricedCatalog) : Except HttpError Unit × PricedCatalog :=
  match update casing tenantId id dto s.catalog with
  | (.ok answer, catalog) =>
    (.ok answer, ⟨catalog, Function.update s.pricing id (changes.columns db (s.pricing id))⟩)
  | (.error e, catalog) => (.error e, { s with catalog })

end ProductService

/-- A request to the catalogue, with the pricing fields of a product. -/
inductive PricedCall
  | create (tenantId : Id) (dto : CreateProductDto) (pricing : PricingDto)
  | update (tenantId id : Id) (dto : UpdateProductDto) (changes : PricingChanges)
  | remove (tenantId now id : ℕ)
  | category (call : CategoryCall)

/-- The catalogue after a request. -/
def servePriced (casing : Casing) (warehouse : Warehouse) (db : Database) (call : PricedCall)
    (s : PricedCatalog) : PricedCatalog :=
  match call with
  | .create tenantId dto pricing =>
    (ProductService.createPriced casing warehouse db tenantId dto pricing s).2
  | .update tenantId id dto changes =>
    (ProductService.updatePriced casing db tenantId id dto changes s).2
  | .remove tenantId now id =>
    { s with catalog := (ProductService.remove now tenantId id s.catalog).2 }
  | .category call => { s with catalog := serveCategory casing call s.catalog }

/-- The call of the catalogue without prices. -/
def PricedCall.catalogCall : PricedCall → CatalogCall
  | .create tenantId dto _ => .product ⟨tenantId, 0, .create dto⟩
  | .update tenantId id dto _ => .product ⟨tenantId, 0, .update id dto⟩
  | .remove tenantId now id => .product ⟨tenantId, now, .remove id⟩
  | .category call => .category call

/-- Prices do not change what the catalogue does. -/
theorem catalog_servePriced (casing : Casing) (warehouse : Warehouse) (db : Database)
    (call : PricedCall) (s : PricedCatalog) :
    (servePriced casing warehouse db call s).catalog =
      serveCatalog casing warehouse call.catalogCall s.catalog := by
  cases call with
  | create tenantId dto pricing =>
    simp only [servePriced, ProductService.createPriced, PricedCall.catalogCall, serveCatalog,
      serveProduct, bind]
    cases ProductService.create casing warehouse tenantId dto s.catalog with
    | mk answer catalog => cases answer <;> rfl
  | update tenantId id dto changes =>
    simp only [servePriced, ProductService.updatePriced, PricedCall.catalogCall, serveCatalog,
      serveProduct]
    cases ProductService.update casing tenantId id dto s.catalog with
    | mk answer catalog => cases answer <;> rfl
  | remove tenantId now id => rfl
  | category call => rfl

end Invetrixa
