import Invetrixa.Library.Paging
import Invetrixa.Schema

/-!
# Pagination

The query of a list endpoint, what `getPagination` makes of it, and the endpoint that hands this to
the database. An order by one field leaves open how rows with equal keys stand, and each query may
have them another way.

## Main definitions

- `getPagination`, `generatePaginationMeta`
- `SortKey` — a field that rows are sorted by
- `RowOrder` — how the database orders rows in one query
- `ListEndpoint.findAll` — one page
- `ReservationService.listEndpoint`, `TransferService.listEndpoint`
-/

namespace Invetrixa

open Rowstore

inductive SortType
  | asc | desc
  deriving DecidableEq

/-- A query as its validation lets it through. -/
structure PaginationQueryDto where
  page : ℕ
  limit : ℕ
  sort : Option SortType
  sortBy : Option String
  one_le_page : 1 ≤ page
  one_le_limit : 1 ≤ limit
  limit_le : limit ≤ 100

/-- The same query for another page. -/
def PaginationQueryDto.forPage (queries : PaginationQueryDto) (i : ℕ) : PaginationQueryDto :=
  { queries with page := i + 1, one_le_page := Nat.le_add_left 1 i }

structure PrismaPaginationQuery where
  skip : ℕ
  take : ℕ
  orderBy : String × SortType

structure PaginationData where
  page : ℕ
  limit : ℕ
  skip : ℕ

def getPagination (queries : PaginationQueryDto) : PrismaPaginationQuery × PaginationData :=
  let sort := queries.sort.getD .desc
  let sortBy := queries.sortBy.getD "createdAt"
  let safeLimit := min queries.limit 100
  let safePage := max 1 queries.page
  (⟨(safePage - 1) * safeLimit, safeLimit, (sortBy, sort)⟩,
    ⟨safePage, safeLimit, (safePage - 1) * safeLimit⟩)

structure PaginationMeta where
  page : ℕ
  limit : ℕ
  take : ℕ
  total : ℕ
  skip : ℕ
  totalPages : ℕ
  hasNextPage : Bool
  hasPreviousPage : Bool

def generatePaginationMeta (data : PaginationData) (total : ℕ) : PaginationMeta :=
  let totalPages := Paging.pageCount data.limit total
  { page := data.page
    limit := data.limit
    take := data.limit
    total
    skip := data.skip
    totalPages
    hasNextPage := data.page < totalPages
    hasPreviousPage := 1 < data.page }

/-- A field that rows are sorted by, by the order of its values. -/
structure SortKey (ρ : Type) where
  le : ρ → ρ → Bool
  total : ∀ a b, le a b = true ∨ le b a = true
  trans : ∀ a b c, le a b = true → le b c = true → le a c = true

namespace SortKey

variable {ρ : Type}

/-- A field that holds a number. -/
def ofNat (field : ρ → ℕ) : SortKey ρ where
  le a b := field a ≤ field b
  total a b := by simpa using Nat.le_total (field a) (field b)
  trans a b c hab hbc := by
    rw [decide_eq_true_eq] at hab hbc ⊢
    exact hab.trans hbc

/-- The field in one direction or the other. -/
def directed (key : SortKey ρ) : SortType → SortKey ρ
  | .asc => key
  | .desc =>
    { le := fun a b => key.le b a
      total := fun a b => key.total b a
      trans := fun a b c hab hbc => key.trans c b a hbc hab }

/-- A row may stand before another one. -/
def Before (key : SortKey ρ) (a b : Id × ρ) : Prop := key.le a.2 b.2 = true

instance (key : SortKey ρ) : DecidableRel key.Before := fun _ _ => inferInstanceAs (Decidable (_ = _))

theorem before_refl (key : SortKey ρ) (a : Id × ρ) : key.Before a a := (key.total a.2 a.2).elim id id

theorem before_trans (key : SortKey ρ) (a b c : Id × ρ) (hab : key.Before a b)
    (hbc : key.Before b c) : key.Before a c := key.trans a.2 b.2 c.2 hab hbc

/-- Rows sorted by a field. -/
def sort (key : SortKey ρ) (rows : List (Id × ρ)) : List (Id × ρ) := rows.insertionSort key.Before

theorem arranged_sort (key : SortKey ρ) (rows : List (Id × ρ)) :
    Paging.Arranged key.Before rows (key.sort rows) where
  perm := List.perm_insertionSort _ _
  sorted := by
    have : Std.Total key.Before := ⟨fun a b => key.total a.2 b.2⟩
    have : IsTrans (Id × ρ) key.Before := ⟨key.before_trans⟩
    exact List.pairwise_insertionSort _ _

end SortKey

/-- How the database orders rows in one query, rows with equal keys as it likes. -/
structure RowOrder (ρ : Type) where
  arrange : SortKey ρ → List (Id × ρ) → List (Id × ρ)
  arranged : ∀ key rows, Paging.Arranged key.Before rows (arrange key rows)

/-- Rows with equal keys as they are stored. -/
def RowOrder.stored (ρ : Type) : RowOrder ρ := ⟨SortKey.sort, SortKey.arranged_sort⟩

/-- Rows with equal keys the other way round. -/
def RowOrder.reversed (ρ : Type) : RowOrder ρ where
  arrange key rows := key.sort rows.reverse
  arranged key rows :=
    ⟨(key.arranged_sort rows.reverse).perm.trans rows.reverse_perm,
      (key.arranged_sort rows.reverse).sorted⟩

/-- A list endpoint: the fields that its model can be sorted by, and an order of its own where it
does not take that of `getPagination`. -/
structure ListEndpoint (ρ : Type) where
  fields : String → Option (SortKey ρ)
  orderBy : Option (Option String → Option SortType → String × SortType)

structure Paged (ρ : Type) where
  data : List (Id × ρ)
  meta' : PaginationMeta

namespace ListEndpoint

variable {ρ : Type} (endpoint : ListEndpoint ρ)

/-- The field and direction that a query is answered in; a field that the model does not have is
refused. -/
def sortKey (queries : PaginationQueryDto) : Except HttpError (SortKey ρ) :=
  let (field, sort) := match endpoint.orderBy with
    | none => (getPagination queries).1.orderBy
    | some orderBy => orderBy queries.sortBy queries.sort
  match endpoint.fields field with
  | none => .error queryValidationError
  | some key => .ok (key.directed sort)

/-- One page: `findMany` and `count`. -/
def findAll (order : RowOrder ρ) (where' : ρ → Bool) (queries : PaginationQueryDto)
    (t : Table Id ρ) : Except HttpError (Paged ρ) := do
  let (paginationPrismaQuery, paginationData) := getPagination queries
  let key ← endpoint.sortKey queries
  let rows := t.rows.filter fun r => where' r.2
  return {
    data := ((order.arrange key rows).drop paginationPrismaQuery.skip).take
      paginationPrismaQuery.take
    meta' := generatePaginationMeta paginationData rows.length }

/-- The first pages, each by a query of its own. -/
def pages (orders : ℕ → RowOrder ρ) (where' : ρ → Bool) (queries : PaginationQueryDto) (n : ℕ)
    (t : Table Id ρ) : Except HttpError (List (Paged ρ)) :=
  (List.range n).mapM fun i => endpoint.findAll (orders i) where' (queries.forPage i) t

end ListEndpoint

/-- Only some fields are allowed. -/
def ReservationService.buildOrderBy (sortBy : Option String) (sort : Option SortType) :
    String × SortType :=
  let validSortFields := ["createdAt", "expiresAt", "quantity", "status"]
  let field := if sortBy.getD "" ∈ validSortFields then sortBy.getD "" else "createdAt"
  (field, sort.getD .desc)

def ReservationService.listEndpoint {ρ : Type} (fields : String → Option (SortKey ρ)) :
    ListEndpoint ρ := ⟨fields, some buildOrderBy⟩

def TransferService.listEndpoint {ρ : Type} (fields : String → Option (SortKey ρ)) :
    ListEndpoint ρ := ⟨fields, none⟩

end Invetrixa
