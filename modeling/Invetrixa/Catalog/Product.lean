import Invetrixa.Catalog.Category
import Invetrixa.Library.Handlers

/-!
# Products

`ProductService`: a product alone, or a product with variants that are created beside it in one
transaction. SKUs and slugs are looked up before the rows are written, by a connection that does
not see what the transaction has written. Whether stock can be received at a location is left to a
`Warehouse`.

## Main definitions

- `ProductService.create`, `createSimpleProduct`, `createWithExplicitVariants`
- `ProductService.update`, `remove`
-/

namespace Invetrixa

open Rowstore Requests

structure InitialStockInput where
  locationId : Id
  quantity : ℤ
  unitCost : ℚ
  deriving DecidableEq

structure VariantDto where
  name : Option String
  sku : Option String
  attributes : List AttributeDto
  initialStock : List InitialStockInput

structure CreateProductDto where
  name : String
  sku : Option String
  slug : Option String
  categoryIds : List Id
  variants : List VariantDto
  initialStock : List InitialStockInput

structure UpdateProductDto where
  name : Option String
  sku : Option String
  slug : Option String
  categoryIds : Option (List Id)

/-- Whether `MovementService.stockIn` takes items for a location of a tenant. -/
structure Warehouse where
  stockIn : (tenantId locationId : Id) → List InitialStock → Except HttpError Unit

/-- What a service does with the catalogue. -/
abbrev CatalogHandler (α : Type) : Type := Handler CatalogStore HttpError α

namespace ProductService

/-- A row of `products` is written, under the next id. -/
def insertProduct (row : CatalogProduct) (s : CatalogStore) :
    Except HttpError (Id × CatalogStore) := do
  column 255 row.name
  column 255 (row.slug.getD "")
  column 100 row.sku
  return (s.products.next, { s with products := s.products.create row })

/-- Links are written; a pair is unique, and its category is there. -/
def insertLinks (links : List ProductCategoryProduct) (s : CatalogStore) :
    Except HttpError CatalogStore :=
  if ¬links.Nodup ∨ ∃ link ∈ links, link ∈ s.links.rows.map Prod.snd then
    .error (uniqueViolation ["productId", "categoryId"])
  else if ∃ link ∈ links, (s.categories.find? link.categoryId).isNone then .error invalidReference
  else .ok { s with links := links.foldl Serial.create s.links }

/-- Attribute values are written; the product and the key are unique together. -/
def insertAttributeValues (values : List ProductAttributeValue) (s : CatalogStore) :
    Except HttpError CatalogStore :=
  if ¬(values.map fun v => (v.productId, v.key)).Nodup ∨ ∃ v ∈ values, (v.productId, v.key) ∈
      s.attributeValues.rows.map fun r => (r.2.productId, r.2.key) then
    .error (uniqueViolation ["productId", "key"])
  else .ok { s with attributeValues := values.foldl Serial.create s.attributeValues }

/-- The links of a product to its categories. -/
def categoryLinks (categoryIds : List Id) (productId : Id) : List ProductCategoryProduct :=
  categoryIds.map fun categoryId => { productId, categoryId }

/-- A receipt of stock, if the warehouse takes it. -/
def stockIn (warehouse : Warehouse) (tenantId locationId : Id) (items : List InitialStock) :
    CatalogHandler Unit :=
  Handler.atomically fun s => do
    warehouse.stockIn tenantId locationId items
    return (⟨⟩, { s with initialStock := items.foldl Serial.create s.initialStock })

/-- The items of a product for a location. -/
def stockAt (productId locationId : Id) (initialStock : List InitialStockInput) :
    List InitialStock :=
  (initialStock.filter fun item => item.locationId = locationId).map fun item =>
    { productId, locationId, quantity := item.quantity, unitCost := item.unitCost }

/-- One receipt for each location, in the order in which the locations come first. -/
def createInitialStock (warehouse : Warehouse) (tenantId productId : Id)
    (initialStock : List InitialStockInput) : CatalogHandler Unit :=
  go ((initialStock.map InitialStockInput.locationId).eraseDups)
where
  go : List Id → CatalogHandler Unit
    | [] => return ⟨⟩
    | locationId :: rest => do
      stockIn warehouse tenantId locationId (stockAt productId locationId initialStock)
      go rest

/-- The row of a product that is no variant. -/
def productRow (productType : ProductType) (tenantId : Id) (dto : CreateProductDto)
    (sku slug : String) : CatalogProduct :=
  { name := dto.name, slug := some slug, sku, productType, parentId := none, tenantId
    deletedAt := none }

/-- A product alone. -/
def createSimpleProduct (casing : Casing) (warehouse : Warehouse) (tenantId : Id)
    (dto : CreateProductDto) (sku : String) : CatalogHandler Id := do
  let slug ← Handler.read fun s =>
    SlugService.createSlug casing (s.productSlugs tenantId none) dto.slug (some dto.name)
  let productId ← Handler.atomically fun s => do
    let (productId, s) ← insertProduct (productRow .simple tenantId dto sku slug) s
    let s ← insertLinks (categoryLinks dto.categoryIds productId) s
    return (productId, s)
  createInitialStock warehouse tenantId productId dto.initialStock
  return productId

/-- The SKUs of the variants, each by the rows that are there before any of them is written. -/
def variantSkus (casing : Casing) (tenantId : Id) (sku : String) (variants : List VariantDto)
    (s : CatalogStore) : List String :=
  variants.mapIdx fun i v =>
    match truthy v.sku with
    | some given => SkuService.createSku casing (s.skus tenantId none) given
    | none => SkuService.createVariantSku casing (s.skus tenantId none) sku v.attributes i

def variantName (dto : CreateProductDto) (v : VariantDto) (variantSku : String) : String :=
  v.name.getD
    (if v.attributes ≠ [] then
      dto.name ++ " - " ++ " ".intercalate (v.attributes.map fun a => a.values.headD "")
    else dto.name ++ " - " ++ variantSku)

/-- All the values of each key, over all variants. -/
def aggregateAttributeValues (variants : List VariantDto) : List AttributeDto :=
  let attributes := variants.flatMap VariantDto.attributes
  (attributes.map AttributeDto.key).eraseDups.map fun key =>
    { key
      values := ((attributes.filter fun a => a.key = key).flatMap AttributeDto.values).eraseDups }

/-- What is looked up before the transaction and in it, by the rows that are there before. -/
structure VariantPlan where
  skus : List String
  parentSlug : String
  slugs : List String

def planVariants (casing : Casing) (tenantId : Id) (dto : CreateProductDto) (sku : String)
    (s : CatalogStore) : Except HttpError VariantPlan := do
  let skus := variantSkus casing tenantId sku dto.variants s
  let parentSlug ←
    SlugService.createSlug casing (s.productSlugs tenantId none) dto.slug (some dto.name)
  let slugs ← (dto.variants.zip skus).mapM fun (v, variantSku) =>
    SlugService.createSlug casing (s.productSlugs tenantId none) none
      (some (variantName dto v variantSku))
  return { skus, parentSlug, slugs }

/-- The row of a variant. -/
def variantRow (tenantId : Id) (dto : CreateProductDto) (parentId : Id)
    (x : VariantDto × String × String) : CatalogProduct :=
  { name := variantName dto x.1 x.2.1
    slug := some x.2.2
    sku := x.2.1
    productType := .variant
    parentId := some parentId
    tenantId
    deletedAt := none }

/-- The rows of the variants are written one after another. -/
def insertVariants : List CatalogProduct → CatalogStore → Except HttpError CatalogStore
  | [], s => .ok s
  | row :: rest, s => do
    let (_, s) ← insertProduct row s
    insertVariants rest s

/-- The variants as they are read back, by parent and SKU. -/
def createdVariants (tenantId parentId : Id) (skus : List String) (s : CatalogStore) :
    List (Id × CatalogProduct) :=
  s.products.rows.filter fun r =>
    r.2.sku ∈ skus ∧ r.2.tenantId = tenantId ∧ r.2.parentId = some parentId

/-- The id of a SKU in the map: of two rows with one SKU, the later. -/
def skuToId (created : List (Id × CatalogProduct)) (sku : String) : Option Id :=
  (created.reverse.find? fun r => r.2.sku = sku).map Prod.fst

/-- The attribute values of the variants. -/
def variantAttributeValues (variants : List VariantDto) (skus : List String)
    (created : List (Id × CatalogProduct)) : List ProductAttributeValue :=
  (variants.zip skus).flatMap fun (v, sku) =>
    match skuToId created sku with
    | none => []
    | some productId => v.attributes.map fun a => { productId, key := a.key, values := a.values }

/-- The transaction of `createWithExplicitVariants`. -/
def commitVariants (tenantId : Id) (dto : CreateProductDto) (sku : String) (plan : VariantPlan)
    (s : CatalogStore) : Except HttpError ((Id × List (Id × CatalogProduct)) × CatalogStore) := do
  let (parentId, s) ← insertProduct (productRow .variable tenantId dto sku plan.parentSlug) s
  let s ← insertLinks (categoryLinks dto.categoryIds parentId) s
  let s ← insertAttributeValues ((aggregateAttributeValues dto.variants).map fun a =>
    { productId := parentId, key := a.key, values := a.values }) s
  let s ← insertVariants
    ((dto.variants.zip (plan.skus.zip plan.slugs)).map (variantRow tenantId dto parentId)) s
  let created := createdVariants tenantId parentId plan.skus s
  let s ← insertAttributeValues (variantAttributeValues dto.variants plan.skus created) s
  let s ← insertLinks (created.flatMap fun r => categoryLinks dto.categoryIds r.1) s
  return ((parentId, created), s)

/-- The initial stock of a variant: of two rows with one SKU, it goes to the earlier. -/
def createStockOf (warehouse : Warehouse) (tenantId : Id) (created : List (Id × CatalogProduct))
    (v : VariantDto) (sku : String) : CatalogHandler Unit :=
  match created.find? fun r => r.2.sku = sku with
  | none => pure ⟨⟩
  | some r => createInitialStock warehouse tenantId r.1 v.initialStock

def createVariantStock (warehouse : Warehouse) (tenantId : Id)
    (created : List (Id × CatalogProduct)) : List (VariantDto × String) → CatalogHandler Unit
  | [] => return ⟨⟩
  | (v, sku) :: rest => do
    createStockOf warehouse tenantId created v sku
    createVariantStock warehouse tenantId created rest

/-- A product with its variants. The plan and the transaction see the same rows. -/
def createWithExplicitVariants (casing : Casing) (warehouse : Warehouse) (tenantId : Id)
    (dto : CreateProductDto) (sku : String) : CatalogHandler Id := do
  let plan ← Handler.read (planVariants casing tenantId dto sku)
  let (parentId, created) ← Handler.atomically (commitVariants tenantId dto sku plan)
  createVariantStock warehouse tenantId created (dto.variants.zip plan.skus)
  return parentId

/-- The SKU of a new product. -/
def newSku (casing : Casing) (tenantId : Id) (dto : CreateProductDto) (s : CatalogStore) : String :=
  SkuService.createSku casing (s.skus tenantId none)
    (dto.sku.getD (generateSkuFromName casing dto.name))

def create (casing : Casing) (warehouse : Warehouse) (tenantId : Id) (dto : CreateProductDto) :
    CatalogHandler Id := do
  let sku ← Handler.read fun s => .ok (newSku casing tenantId dto s)
  Handler.read (CategoryService.validateCategoryIds tenantId dto.categoryIds)
  if dto.variants ≠ [] then createWithExplicitVariants casing warehouse tenantId dto sku
  else createSimpleProduct casing warehouse tenantId dto sku

/-- What an update has looked up: the new SKU and slug, if they change. -/
structure ProductUpdate where
  sku : Option String
  slug : Option String

/-- A product of a tenant that is not deleted. -/
def liveProduct (tenantId id : Id) (s : CatalogStore) : Option CatalogProduct :=
  (s.products.find? id).filter fun p => p.tenantId = tenantId ∧ p.deletedAt = none

def readUpdate (casing : Casing) (tenantId id : Id) (dto : UpdateProductDto) (s : CatalogStore) :
    Except HttpError ProductUpdate :=
  match liveProduct tenantId id s with
  | none => .error (.notFound "Product not found.")
  | some existing => do
    let sku := (dto.sku.filter (· ≠ existing.sku)).map
      (SkuService.createSku casing (s.skus tenantId (some id)))
    let slug ←
      if dto.slug.isSome ∨ truthy dto.name ≠ none then
        some <$> SlugService.createSlug casing (s.productSlugs tenantId (some id)) dto.slug dto.name
      else .ok none
    return { sku, slug }

/-- The links of a product are replaced. -/
def replaceLinks (id : Id) (categoryIds : Option (List Id)) (s : CatalogStore) :
    Except HttpError CatalogStore :=
  match categoryIds with
  | none => .ok s
  | some categoryIds => insertLinks (categoryLinks categoryIds id)
      { s with links := s.links.deleteWhere fun _ link => link.productId = id }

/-- The transaction of `update`. -/
def commitUpdate (id : Id) (dto : UpdateProductDto) (update : ProductUpdate) (s : CatalogStore) :
    Except HttpError (Unit × CatalogStore) := do
  let s ← replaceLinks id dto.categoryIds s
  column 255 (dto.name.getD "")
  column 255 (update.slug.getD "")
  column 100 (update.sku.getD "")
  return (⟨⟩, { s with
    products := s.products.modify id fun p =>
      { p with
        name := dto.name.getD p.name
        slug := update.slug.or p.slug
        sku := update.sku.getD p.sku } })

def update (casing : Casing) (tenantId id : Id) (dto : UpdateProductDto) : CatalogHandler Unit := do
  let update ← Handler.read (readUpdate casing tenantId id dto)
  Handler.atomically (commitUpdate id dto update)

/-- The live variants of a product. -/
def variants (id : Id) (s : CatalogStore) : List (Id × CatalogProduct) :=
  s.products.rows.filter fun r => r.2.parentId = some id ∧ r.2.deletedAt = none

def readRemove (tenantId id : Id) (s : CatalogStore) : Except HttpError Unit :=
  if (liveProduct tenantId id s).isNone then .error (.notFound "Product not found.")
  else if 0 < (variants id s).length then
    .error (.conflict "Cannot delete product with active variants. Delete variants first.")
  else .ok ⟨⟩

def commitRemove (now id : ℕ) (s : CatalogStore) : CatalogStore :=
  { s with products := s.products.modify id fun p => { p with deletedAt := some now } }

def remove (now tenantId id : ℕ) : CatalogHandler Unit := do
  Handler.read (readRemove tenantId id)
  Handler.write (commitRemove now id)

end ProductService

inductive ProductRequest
  | create (dto : CreateProductDto)
  | update (id : Id) (dto : UpdateProductDto)
  | remove (id : Id)

structure ProductCall where
  tenantId : Id
  now : ℕ
  request : ProductRequest

def serveProduct (casing : Casing) (warehouse : Warehouse) (call : ProductCall) :
    CatalogHandler Unit :=
  match call.request with
  | .create dto => do
    let _ ← ProductService.create casing warehouse call.tenantId dto
    return ⟨⟩
  | .update id dto => ProductService.update casing call.tenantId id dto
  | .remove id => ProductService.remove call.now call.tenantId id

/-- A request to the catalogue. -/
inductive CatalogCall
  | product (call : ProductCall)
  | category (call : CategoryCall)

/-- The store after a request. -/
def serveCatalog (casing : Casing) (warehouse : Warehouse) (call : CatalogCall)
    (s : CatalogStore) : CatalogStore :=
  match call with
  | .product call => (serveProduct casing warehouse call s).2
  | .category call => serveCategory casing call s

end Invetrixa
