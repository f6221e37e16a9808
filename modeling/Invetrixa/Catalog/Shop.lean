import Invetrixa.Catalog.Product
import Invetrixa.Library.Groups
import Invetrixa.Stock.Movement

/-!
# A product and its first stock

`ProductService.create` on the catalogue and the books of the stock together: the product and its
variants are written in one transaction, and then `MovementService.stockIn` receives their stock, in
a transaction for each product and location.

## Main definitions

- `Shop` — the catalogue and the books, which share the products
- `Receipt` — what one `stockIn` receives
- `Shop.create`
-/

namespace Invetrixa

open Rowstore Requests MovementService ProductService

/-- A product as the stock sees it; a receipt does not read its prices. -/
def CatalogProduct.toProduct (p : CatalogProduct) : Product where
  name := p.name
  productType := p.productType
  pricingMethod := none
  minSellingPrice := none
  tenantId := p.tenantId
  deletedAt := p.deletedAt

/-- The foreign key of variants: the product of a variant is there. -/
def ParentsThere (products : Serial CatalogProduct) : Prop :=
  ∀ r ∈ products.rows, ∀ id ∈ r.2.parentId, id < products.next

instance (products : Serial CatalogProduct) : Decidable (ParentsThere products) :=
  inferInstanceAs (Decidable (∀ r ∈ products.rows, ∀ id ∈ r.2.parentId, _))

/-- The foreign key of balances: the product of a balance is there. -/
def BalancesThere (products : Serial CatalogProduct) (books : Store) : Prop :=
  ∀ r ∈ books.balances.rows, r.1.1 < products.next

instance (products : Serial CatalogProduct) (books : Store) :
    Decidable (BalancesThere products books) :=
  inferInstanceAs (Decidable (∀ r ∈ books.balances.rows, _))

/-- The catalogue and the books of the stock. The products of the books are those of the
catalogue. -/
structure Shop where
  catalog : CatalogStore
  books : Store
  parents : ParentsThere catalog.products
  balances : BalancesThere catalog.products books

/-- What a service does with both. -/
abbrev ShopHandler (α : Type) : Type := Handler Shop HttpError α

namespace Shop

/-- The tables of the stock. -/
def store (s : Shop) : Store :=
  { s.books with products := s.catalog.products.map CatalogProduct.toProduct }

/-- A transaction of the catalogue. -/
def commitCatalog {α : Type} (f : CatalogStore → Except HttpError (α × CatalogStore)) :
    ShopHandler α :=
  Handler.atomically fun s => do
    let (a, catalog) ← f s.catalog
    if h : ParentsThere catalog.products ∧ BalancesThere catalog.products s.books then
      .ok (a, ⟨catalog, s.books, h.1, h.2⟩)
    else .error invalidReference

/-- Items of one product for one location. -/
structure Receipt where
  productId : Id
  locationId : Id
  items : List InitialStockInput

def Receipt.dto (receipt : Receipt) : BulkStockInDto where
  locationId := receipt.locationId
  referenceType := some .adjustment
  referenceId := some (.id receipt.productId)
  items := receipt.items.map fun item => ⟨receipt.productId, item.quantity, item.unitCost, none⟩

section Creation

variable (casing : Casing) (db : Database) (clock : Clock) (tenantId : Id)

def receive (receipt : Receipt) : ShopHandler Unit :=
  Handler.atomically fun s => do
    let (_, books) ← MovementService.stockIn db clock tenantId receipt.dto s.store
    if balances : BalancesThere s.catalog.products books then
      .ok (⟨⟩, { s with books, balances })
    else .error invalidReference

def receiveAll : List Receipt → ShopHandler Unit
  | [] => return ⟨⟩
  | receipt :: rest => do
    receive db clock tenantId receipt
    receiveAll rest

/-- The stock of a product, by location. -/
def receipts (productId : Id) (initialStock : List InitialStockInput) : List Receipt :=
  (Groups.groupBy InitialStockInput.locationId initialStock).map fun g => ⟨productId, g.1, g.2⟩

def createInitialStock (productId : Id) (initialStock : List InitialStockInput) :
    ShopHandler Unit :=
  receiveAll db clock tenantId (receipts productId initialStock)

/-- The row of a product alone and its links. -/
def commitSimple (dto : CreateProductDto) (sku slug : String) (s : CatalogStore) :
    Except HttpError (Id × CatalogStore) := do
  let (productId, s) ← insertProduct (productRow .simple tenantId dto sku slug) s
  let s ← insertLinks (categoryLinks dto.categoryIds productId) s
  return (productId, s)

/-- A product alone. -/
def createSimpleProduct (dto : CreateProductDto) (sku : String) : ShopHandler Id := do
  let slug ← Handler.read fun s =>
    SlugService.createSlug casing (s.catalog.productSlugs tenantId none) dto.slug (some dto.name)
  let productId ← commitCatalog (commitSimple tenantId dto sku slug)
  createInitialStock db clock tenantId productId dto.initialStock
  return productId

/-- The initial stock of a variant, which is found by its SKU. -/
def createStockOf (created : List (Id × CatalogProduct)) (v : VariantDto) (sku : String) :
    ShopHandler Unit :=
  match created.find? fun r => r.2.sku = sku with
  | none => pure ⟨⟩
  | some r => createInitialStock db clock tenantId r.1 v.initialStock

def createVariantStock (created : List (Id × CatalogProduct)) :
    List (VariantDto × String) → ShopHandler Unit
  | [] => return ⟨⟩
  | (v, sku) :: rest => do
    createStockOf db clock tenantId created v sku
    createVariantStock created rest

/-- A product with its variants. -/
def createWithExplicitVariants (dto : CreateProductDto) (sku : String) : ShopHandler Id := do
  let plan ← Handler.read fun s => planVariants casing tenantId dto sku s.catalog
  let (parentId, created) ← commitCatalog (commitVariants tenantId dto sku plan)
  createVariantStock db clock tenantId created (dto.variants.zip plan.skus)
  return parentId

def create (dto : CreateProductDto) : ShopHandler Id := do
  let sku ← Handler.read fun s => .ok (newSku casing tenantId dto s.catalog)
  Handler.read fun s => CategoryService.validateCategoryIds tenantId dto.categoryIds s.catalog
  if dto.variants ≠ [] then createWithExplicitVariants casing db clock tenantId dto sku
  else createSimpleProduct casing db clock tenantId dto sku

end Creation

end Shop

end Invetrixa
