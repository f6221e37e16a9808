import Invetrixa.Common.Pagination
import Invetrixa.Library.Handlers
import Invetrixa.Text

/-!
# Balance reports

What `BalanceService` reads off the balances of a tenant: a page of them, all of a product, all at
a location, and those below the reorder level of their product. The names and codes that the
reports repeat are left out; where a query searches them, they are looked up.

## Main definitions

- `Listings` — the columns that only the reports read
- `BalanceService.findAll`, `findByProduct`, `findByLocation`, `findLowStock`
-/

namespace Invetrixa

open Rowstore

/-- What the reports read besides the tables of the store, and how texts are compared. -/
structure Listings where
  sku : Id → String
  reorderLevel : Id → ℤ
  code : Id → Option String
  /-- `contains` with `mode: 'insensitive'` -/
  contains : String → String → Bool
  ilike : String → String → Bool

/-- A balance with its key. -/
abbrev BalanceRow : Type := (Id × Id) × InventoryBalance

structure QueryBalanceDto extends PaginationQueryDto where
  productId : Option Id
  locationId : Option Id
  search : Option String

structure QueryLowStockDto extends PaginationQueryDto where
  locationId : Option Id
  search : Option String

structure BalanceItem where
  productId : Id
  locationId : Id
  onHandQuantity : ℤ
  reservedQuantity : ℤ
  availableQuantity : ℤ
  isLowStock : Bool

/-- What is at a place, in a report on its product or on its location. -/
structure StockLine where
  /-- the location in a report on a product, the product in one on a location -/
  id : Id
  onHandQuantity : ℤ
  reservedQuantity : ℤ
  availableQuantity : ℤ
  deriving DecidableEq

structure ProductBalanceSummary where
  productId : Id
  totalOnHand : ℤ
  totalReserved : ℤ
  totalAvailable : ℤ
  locations : List StockLine
  deriving DecidableEq

structure LocationBalanceSummary where
  locationId : Id
  totalUnits : ℤ
  productCount : ℕ
  products : List StockLine
  deriving DecidableEq

structure LowStockItem where
  productId : Id
  locationId : Id
  onHandQuantity : ℤ
  reorderLevel : ℤ
  shortage : ℤ
  deriving DecidableEq

structure ReportPage (α : Type) where
  data : List α
  meta' : PaginationMeta

namespace BalanceService

section Search

variable (x : Listings) (s : Store)

/-- Whether a search finds a place by its product or its location. -/
def searchFinds (term : String) (place : Id × Id) : Bool :=
  ((s.products.find? place.1).any fun p => x.contains p.name term) ||
    x.contains (x.sku place.1) term ||
    ((s.locations.find? place.2).any fun l => x.contains l.name term) ||
    (x.code place.2).any fun code => x.contains code term

def buildFilter (tenantId : Id) (query : QueryBalanceDto) (r : BalanceRow) : Bool :=
  r.2.tenantId = tenantId ∧ (∀ id ∈ query.productId, r.1.1 = id) ∧
    (∀ id ∈ query.locationId, r.1.2 = id) ∧
    ∀ search ∈ truthy query.search, searchFinds x s (trim search) r.1

/-- `isLowStock`; a reorder level of zero is none. -/
def isLowStock (reorderLevel : ℤ) (b : InventoryBalance) : Bool :=
  reorderLevel ≠ 0 ∧ b.onHandQuantity < reorderLevel

def balanceItem (r : BalanceRow) : BalanceItem where
  productId := r.1.1
  locationId := r.1.2
  onHandQuantity := r.2.onHandQuantity
  reservedQuantity := r.2.reservedQuantity
  availableQuantity := r.2.onHandQuantity - r.2.reservedQuantity
  isLowStock := isLowStock (x.reorderLevel r.1.1) r.2

/-- How the database orders balances by a field in one query, if they have the field. -/
structure BalanceOrder where
  orderBy : String × SortType → Option (List BalanceRow → List BalanceRow)
  perm : ∀ field order, orderBy field = some order → ∀ rows, (order rows).Perm rows

/-- A page of the balances that match. -/
def findAll (db : BalanceOrder) (tenantId : Id) (query : QueryBalanceDto) :
    Except HttpError (ReportPage BalanceItem) :=
  let (paginationPrismaQuery, paginationData) := getPagination query.toPaginationQueryDto
  let rows := s.balances.rows.filter (buildFilter x s tenantId query)
  match db.orderBy paginationPrismaQuery.orderBy with
  | none => .error queryValidationError
  | some order => .ok {
      data := (((order rows).drop paginationPrismaQuery.skip).take
        paginationPrismaQuery.take).map (balanceItem x)
      meta' := generatePaginationMeta paginationData rows.length }

end Search

section Summaries

variable (s : Store)

def stockLine (id : Id) (b : InventoryBalance) : StockLine :=
  ⟨id, b.onHandQuantity, b.reservedQuantity, b.onHandQuantity - b.reservedQuantity⟩

def findByProduct (tenantId productId : Id) : Except HttpError ProductBalanceSummary :=
  match (s.products.find? productId).filter fun p =>
      p.tenantId = tenantId ∧ p.deletedAt = none with
  | none => .error (.notFound "Product not found")
  | some _ =>
    let balances := s.balances.rows.filter fun r => r.1.1 = productId ∧ r.2.tenantId = tenantId
    let locations := balances.map fun b => stockLine b.1.2 b.2
    .ok {
      productId
      totalOnHand := locations.foldl (fun sum l => sum + l.onHandQuantity) 0
      totalReserved := locations.foldl (fun sum l => sum + l.reservedQuantity) 0
      totalAvailable := locations.foldl (fun sum l => sum + l.availableQuantity) 0
      locations }

def findByLocation (tenantId locationId : Id) : Except HttpError LocationBalanceSummary :=
  match (s.locations.find? locationId).filter fun l => l.tenantId = tenantId with
  | none => .error (.notFound "Location not found")
  | some _ =>
    let balances := s.balances.rows.filter fun r => r.1.2 = locationId ∧ r.2.tenantId = tenantId
    let products := balances.map fun b => stockLine b.1.1 b.2
    .ok {
      locationId
      totalUnits := products.foldl (fun sum p => sum + p.onHandQuantity) 0
      productCount := products.length
      products }

end Summaries

section LowStock

variable (x : Listings) (s : Store)

/-- The `WHERE` of the query, over a balance joined with its product and its location. -/
def lowStockWhere (tenantId : Id) (query : QueryLowStockDto) (r : BalanceRow) (p : Product) :
    Bool :=
  r.2.tenantId = tenantId ∧ 0 < x.reorderLevel r.1.1 ∧ p.deletedAt = none ∧
    r.2.onHandQuantity < x.reorderLevel r.1.1 ∧ (∀ id ∈ query.locationId, r.1.2 = id) ∧
    ∀ search ∈ truthy query.search, x.ilike p.name ("%" ++ search ++ "%") = true ∨
      x.ilike (x.sku r.1.1) ("%" ++ search ++ "%") = true

def lowStockItem (r : BalanceRow) : LowStockItem where
  productId := r.1.1
  locationId := r.1.2
  onHandQuantity := r.2.onHandQuantity
  reorderLevel := x.reorderLevel r.1.1
  shortage := x.reorderLevel r.1.1 - r.2.onHandQuantity

/-- The rows that the query joins and selects. -/
def lowStockItems (tenantId : Id) (query : QueryLowStockDto) : List LowStockItem :=
  (s.balances.rows.filter fun r =>
    (s.products.find? r.1.1).any (lowStockWhere x tenantId query r) ∧
      (s.locations.find? r.1.2).isSome).map (lowStockItem x)

/-- The order that the query asks for: the largest shortage first. -/
def ByShortage (a b : LowStockItem) : Prop := b.shortage ≤ a.shortage

instance : DecidableRel ByShortage :=
  fun a b => inferInstanceAs (Decidable (b.shortage ≤ a.shortage))

/-- How the database arranges the rows of one query. -/
structure ShortageOrder where
  arrange : List LowStockItem → List LowStockItem
  arranged : ∀ items, Paging.Arranged ByShortage items (arrange items)

def findLowStock (order : ShortageOrder) (tenantId : Id) (query : QueryLowStockDto) :
    ReportPage LowStockItem :=
  let offset := (query.page - 1) * query.limit
  let items := lowStockItems x s tenantId query
  { data := ((order.arrange items).drop offset).take query.limit
    meta' := generatePaginationMeta ⟨query.page, query.limit, offset⟩ items.length }

end LowStock

end BalanceService

end Invetrixa
