import Invetrixa.Schema
import Invetrixa.Text
import Invetrixa.Library.Fresh

/-!
# The catalogue

The tables of products and categories, and the services that find them a slug and an SKU. Prices,
descriptions, images and codes are left out. The slug and SKU columns have no unique index: a text
is free when no row of the tenant has it, deleted rows included.

## Main definitions

- `CatalogStore` — the tables
- `SlugService.createSlug`, `SkuService.createSku`, `createVariantSku`
-/

namespace Invetrixa

open Rowstore

structure ProductCategory where
  name : String
  slug : String
  parentId : Option Id
  tenantId : Id
  deletedAt : Option ℕ
  deriving DecidableEq

/-- A row of `products`, as the catalogue sees it. -/
structure CatalogProduct where
  name : String
  slug : Option String
  sku : String
  productType : ProductType
  parentId : Option Id
  tenantId : Id
  deletedAt : Option ℕ
  deriving DecidableEq

/-- A product in a category; the pair is unique. -/
structure ProductCategoryProduct where
  productId : Id
  categoryId : Id
  deriving DecidableEq

/-- The values of an attribute of a product; the product and the key are unique together. -/
structure ProductAttributeValue where
  productId : Id
  key : String
  values : List String
  deriving DecidableEq

/-- Stock that a product is created with, as it is handed to `MovementService.stockIn`. -/
structure InitialStock where
  productId : Id
  locationId : Id
  quantity : ℤ
  unitCost : ℚ
  deriving DecidableEq

structure CatalogStore where
  categories : Serial ProductCategory
  products : Serial CatalogProduct
  links : Serial ProductCategoryProduct
  attributeValues : Serial ProductAttributeValue
  initialStock : Serial InitialStock

def CatalogStore.empty : CatalogStore :=
  ⟨Serial.empty, Serial.empty, Serial.empty, Serial.empty, Serial.empty⟩

/-- The case mappings of JavaScript. -/
structure Casing where
  toLowerCase : String → String
  toUpperCase : String → String

/-- The case mappings on ASCII letters, to run examples on. -/
def Casing.ascii : Casing where
  toLowerCase text := String.ofList (text.toList.map Char.toLower)
  toUpperCase text := String.ofList (text.toList.map Char.toUpper)

def generateSlug (casing : Casing) (text : String) : String :=
  let kept := (trim (casing.toLowerCase text)).toList.filter fun c =>
    isWordChar c || isWhiteSpace c || c = '-'
  String.ofList (dropEdges (replaceRuns (· = '-') false (replaceRuns isWhiteSpace false kept)))

def sanitizeSku (casing : Casing) (sku : String) : String :=
  let replaced := (trim (casing.toUpperCase sku)).toList.map fun c =>
    if isWordChar c || c = '-' then c else '-'
  String.ofList (dropEdges (replaceRuns (· = '-') false replaced))

def generateSkuFromName (casing : Casing) (text : String) : String := sanitizeSku casing text

/-- A text, or the text with the first number that is not taken (`ensureUnique` of slugs,
`ensureUniqueWithSuffix` of SKUs). -/
def ensureUnique (taken : List String) (text : String) : String :=
  Fresh.firstFree taken (Fresh.suffixed text)

theorem ensureUnique_not_mem (taken : List String) (text : String) :
    ensureUnique taken text ∉ taken :=
  Fresh.firstFree_not_mem (Fresh.suffixed_injective text) taken

namespace CatalogStore

/-- The slugs that products of a tenant have, but for one. -/
def productSlugs (tenantId : Id) (excludeId : Option Id) (s : CatalogStore) : List String :=
  (s.products.rows.filter fun r => r.2.tenantId = tenantId ∧ excludeId ≠ some r.1).filterMap
    fun r => r.2.slug

/-- The slugs that categories of a tenant have, but for one. -/
def categorySlugs (tenantId : Id) (excludeId : Option Id) (s : CatalogStore) : List String :=
  (s.categories.rows.filter fun r => r.2.tenantId = tenantId ∧ excludeId ≠ some r.1).map
    fun r => r.2.slug

/-- The SKUs that products of a tenant have, but for one. -/
def skus (tenantId : Id) (excludeId : Option Id) (s : CatalogStore) : List String :=
  (s.products.rows.filter fun r => r.2.tenantId = tenantId ∧ excludeId ≠ some r.1).map
    fun r => r.2.sku

end CatalogStore

/-- A slug by the slug or the name that is given. -/
def SlugService.createSlug (casing : Casing) (taken : List String) (slug name : Option String) :
    Except HttpError String :=
  match truthy slug, truthy name with
  | some slug, _ => .ok (ensureUnique taken (generateSlug casing slug))
  | none, some name => .ok (ensureUnique taken (generateSlug casing name))
  | none, none => .error (.internal "Either slug or name must be provided")

theorem SlugService.createSlug_not_mem {casing : Casing} {taken : List String}
    {slug name : Option String} {text : String}
    (h : createSlug casing taken slug name = .ok text) : text ∉ taken := by
  rw [createSlug] at h
  split at h
  · obtain rfl := Except.ok.inj h
    exact ensureUnique_not_mem _ _
  · obtain rfl := Except.ok.inj h
    exact ensureUnique_not_mem _ _
  · cases h

structure AttributeDto where
  key : String
  values : List String
  deriving DecidableEq

namespace SkuService

def createSku (casing : Casing) (taken : List String) (baseSku : String) : String :=
  ensureUnique taken (sanitizeSku casing baseSku)

/-- `text.substring(0, n)`, which counts a character beyond the basic plane as two. Half of one
stands for the whole: in an SKU both are replaced. -/
def takeUnits : ℕ → List Char → List Char
  | 0, _ => []
  | _, [] => []
  | n + 1, c :: rest => c :: takeUnits (if 0x10000 ≤ c.toNat then n - 1 else n) rest

/-- The first three characters of each attribute's first value, or the number of the variant. -/
def generateVariantSkuSuffix (casing : Casing) (attributes : List AttributeDto) (index : ℕ) :
    String :=
  if attributes = [] then "V" ++ toString (index + 1)
  else "-".intercalate (attributes.map fun a =>
    sanitizeSku casing (String.ofList (takeUnits 3 (a.values.headD "").toList)))

def createVariantSku (casing : Casing) (taken : List String) (parentSku : String)
    (attributes : List AttributeDto) (index : ℕ) : String :=
  ensureUnique taken (parentSku ++ "-" ++ generateVariantSkuSuffix casing attributes index)

end SkuService

end Invetrixa
