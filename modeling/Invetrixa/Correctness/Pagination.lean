import Invetrixa.Common.Pagination
import Invetrixa.Library.Runs

/-!
# Paging

A list endpoint skips and takes rows of an order by one field. Each page is a query of its own, and
rows with equal keys may stand another way in it: where such rows are on both sides of the end of a
page, one of them can be shown twice and another not at all.

## Main definitions

- `CoversOnce` — the pages together are the matching rows
- `NextPageExact` — the flag of a next page tells whether there is one
- `TieFree` — no rows with equal keys on both sides of the end of a page

## Main results

- `findAll_eq_ok_iff`, `pages_eq_ok_iff` — what a page and a run of pages hold
- `pages_cover_iff`, `twins_repeated`
-/

namespace Invetrixa

open Rowstore ListEndpoint

section Statement

variable {ρ : Type} (endpoint : ListEndpoint ρ) (where' : ρ → Bool) (queries : PaginationQueryDto)
  (t : Table Id ρ)

/-- The rows that match. -/
def matching : List (Id × ρ) := t.rows.filter fun r => where' r.2

/-- The pages up to the number that a page reports are together the matching rows, each once,
however the database orders the rows in each query. -/
def CoversOnce : Prop :=
  ∀ (orders : ℕ → RowOrder ρ) (order : RowOrder ρ) (first : Paged ρ) (results : List (Paged ρ)),
    endpoint.findAll order where' queries t = .ok first →
      endpoint.pages orders where' queries first.meta'.totalPages t = .ok results →
        (results.flatMap Paged.data).Perm (matching where' t)

/-- A page reports a next page exactly if a later page is not empty. -/
def NextPageExact : Prop :=
  ∀ (orders : ℕ → RowOrder ρ) (order : RowOrder ρ) (result : Paged ρ),
    endpoint.findAll order where' queries t = .ok result →
      (result.meta'.hasNextPage = true ↔ ∃ i, queries.page ≤ i ∧ ∃ later,
        endpoint.findAll (orders i) where' (queries.forPage i) t = .ok later ∧ later.data ≠ [])

/-- Where the matching rows are sorted, the row after the end of a page has a key other than the row
before it. -/
def TieFree (key : SortKey ρ) : Prop :=
  Paging.BoundariesStrict key.Before queries.limit (key.sort (matching where' t))

end Statement

section Pages

variable {ρ : Type} {endpoint : ListEndpoint ρ} {where' : ρ → Bool} {queries : PaginationQueryDto}
  {t : Table Id ρ} {order : RowOrder ρ} {orders : ℕ → RowOrder ρ} {result : Paged ρ}
  {results : List (Paged ρ)} {key : SortKey ρ} {n : ℕ}

/-- A page in terms of the pages of the ordered rows. -/
theorem findAll_eq (hkey : endpoint.sortKey queries = .ok key) :
    endpoint.findAll order where' queries t = .ok
      { data := Paging.page queries.limit (order.arrange key (matching where' t)) (queries.page - 1)
        meta' := generatePaginationMeta
          ⟨queries.page, queries.limit, (queries.page - 1) * queries.limit⟩
          (matching where' t).length } := by
  have hlimit : min queries.limit 100 = queries.limit := min_eq_left queries.limit_le
  have hpage : max 1 queries.page = queries.page := max_eq_right queries.one_le_page
  simp only [findAll, getPagination, hkey, hlimit, hpage]
  rfl

theorem sortKey_forPage (i : ℕ) :
    endpoint.sortKey (queries.forPage i) = endpoint.sortKey queries := rfl

/-- The page `i`, counted from zero, in an order by a key. -/
def pageAt (order : RowOrder ρ) (where' : ρ → Bool) (queries : PaginationQueryDto) (t : Table Id ρ)
    (key : SortKey ρ) (i : ℕ) : Paged ρ where
  data := Paging.page queries.limit (order.arrange key (matching where' t)) i
  meta' := generatePaginationMeta ⟨i + 1, queries.limit, i * queries.limit⟩ (matching where' t).length

theorem findAll_forPage (hkey : endpoint.sortKey queries = .ok key) (i : ℕ) :
    endpoint.findAll order where' (queries.forPage i) t =
      .ok (pageAt order where' queries t key i) :=
  findAll_eq ((sortKey_forPage i).trans hkey)

/-- A field that the model does not have is refused on every page. -/
theorem findAll_eq_error {e : HttpError} (hkey : endpoint.sortKey queries = .error e) :
    endpoint.findAll order where' queries t = .error e := by
  simp only [findAll, hkey]
  rfl

theorem pages_eq (hkey : endpoint.sortKey queries = .ok key) (n : ℕ) :
    endpoint.pages orders where' queries n t =
      .ok ((List.range n).map fun i => pageAt (orders i) where' queries t key i) := by
  have hpage : ∀ i page, endpoint.findAll (orders i) where' (queries.forPage i) t = .ok page ↔
      True ∧ page = pageAt (orders i) where' queries t key i := by
    intro i page
    rw [findAll_forPage hkey, true_and]
    exact ⟨fun h => (Except.ok.inj h).symm, fun h => congrArg Except.ok h.symm⟩
  exact (Except.mapM_eq_ok_iff hpage).mpr ⟨fun _ _ => trivial, rfl⟩

open Classical in
/-- The database may have the rows in any arrangement that is sorted by the key. -/
theorem exists_rowOrder {rows l : List (Id × ρ)} (h : Paging.Arranged key.Before rows l) :
    ∃ order : RowOrder ρ, order.arrange key rows = l := by
  refine ⟨⟨fun key' rows' => if key' = key ∧ rows' = rows then l else key'.sort rows', ?_⟩, ?_⟩
  · intro key' rows'
    split_ifs with hsame
    · obtain ⟨rfl, rfl⟩ := hsame
      exact h
    · exact key'.arranged_sort rows'
  · exact if_pos ⟨rfl, rfl⟩

/-- Whatever the orders of the queries, the pages cover the rows exactly if no tie crosses the end
of a page. -/
theorem coversOnce_iff (hkey : endpoint.sortKey queries = .ok key) :
    CoversOnce endpoint where' queries t ↔ TieFree where' queries t key := by
  have hnodup : (matching where' t).Nodup := (List.Nodup.of_map _ t.nodup).filter _
  have htied := Paging.perm_iff_boundariesStrict queries.one_le_limit hnodup key.before_refl
    key.before_trans (key.arranged_sort (matching where' t))
  have hdata : ∀ orders : ℕ → RowOrder ρ, ((List.range (Paging.pageCount queries.limit
        (matching where' t).length)).map fun i =>
          pageAt (orders i) where' queries t key i).flatMap Paged.data =
      (List.range (Paging.pageCount queries.limit (matching where' t).length)).flatMap fun i =>
        Paging.page queries.limit ((orders i).arrange key (matching where' t)) i :=
    fun orders => List.flatMap_map _ _ _
  rw [TieFree, ← htied]
  constructor
  · intro hcovers orders horders
    -- each arrangement is that of some order of the database
    choose rowOrders hrowOrders using fun i => exists_rowOrder (horders i)
    have hperm : (((List.range (Paging.pageCount queries.limit (matching where' t).length)).map
        fun i => pageAt (rowOrders i) where' queries t key i).flatMap Paged.data).Perm
          (matching where' t) :=
      hcovers rowOrders (rowOrders 0) _ _ (findAll_eq hkey) (pages_eq hkey _)
    rw [hdata] at hperm
    simpa only [hrowOrders] using hperm
  · intro hall rowOrders order first results hfirst hresults
    rw [findAll_eq hkey] at hfirst
    obtain rfl := Except.ok.inj hfirst
    rw [pages_eq hkey] at hresults
    obtain rfl := Except.ok.inj hresults
    exact (hdata rowOrders).symm ▸ hall _ fun i => (rowOrders i).arranged key _

theorem nextPageExact : NextPageExact endpoint where' queries t := by
  intro orders order result hresult
  cases hkey : endpoint.sortKey queries with
  | error e =>
    rw [findAll_eq_error hkey] at hresult
    cases hresult
  | ok key =>
    rw [findAll_eq hkey] at hresult
    obtain rfl := Except.ok.inj hresult
    have hlater : ∀ i, (pageAt (orders i) where' queries t key i).data ≠ [] ↔
        i < Paging.pageCount queries.limit (matching where' t).length := by
      intro i
      rw [pageAt, Paging.page_ne_nil_iff queries.one_le_limit,
        ((orders i).arranged key _).perm.length_eq]
    simp only [generatePaginationMeta, decide_eq_true_eq]
    constructor
    · intro hnext
      exact ⟨queries.page, le_rfl, _, findAll_forPage hkey _, (hlater _).mpr hnext⟩
    · rintro ⟨i, hi, later, hfind, hdata⟩
      rw [findAll_forPage hkey] at hfind
      obtain rfl := Except.ok.inj hfind
      exact hi.trans_lt ((hlater i).mp hdata)

/-- Paging covers every row once and reports its next pages right, whatever the order in which the
database has rows with equal keys, exactly if the query asks for a field that the model does not
have, which is refused, or no rows with equal keys are on both sides of the end of a page. -/
theorem pages_cover_iff {ρ : Type} (endpoint : ListEndpoint ρ) (where' : ρ → Bool)
    (queries : PaginationQueryDto) (t : Table Id ρ) :
    CoversOnce endpoint where' queries t ∧ NextPageExact endpoint where' queries t ↔
      ∀ key, endpoint.sortKey queries = .ok key → TieFree where' queries t key := by
  constructor
  · rintro ⟨hcovers, _⟩ key hkey
    exact (coversOnce_iff hkey).mp hcovers
  · intro hfree
    refine ⟨?_, nextPageExact⟩
    cases hkey : endpoint.sortKey queries with
    | error e =>
      intro _ order first _ hfirst
      rw [findAll_eq_error hkey] at hfirst
      cases hfirst
    | ok key => exact (coversOnce_iff hkey).mpr (hfree key hkey)

/-- Transfers that were made in one batch. -/
def twins : Table Id ℕ := ⟨[(0, 5), (1, 5)], by decide⟩

/-- Pages of one row each, the latest first. -/
def oneByOne : PaginationQueryDto := ⟨1, 1, none, none, le_rfl, le_rfl, by decide⟩

/-- The rows by the time at which they were made, and by nothing else. -/
def byCreatedAt (field : String) : Option (SortKey ℕ) :=
  if field = "createdAt" then some (SortKey.ofNat id) else none

/-- The order changes from the first query to the next. -/
def turning (i : ℕ) : RowOrder ℕ := if i = 0 then .stored ℕ else .reversed ℕ

/-- The first of two rows made at one time is shown on both pages, and the second on neither. -/
theorem twins_repeated :
    ¬CoversOnce (TransferService.listEndpoint byCreatedAt) (fun _ => true) oneByOne twins := by
  have hkey : (TransferService.listEndpoint byCreatedAt).sortKey oneByOne =
      .ok ((SortKey.ofNat id).directed .desc) := rfl
  have hpages : ∀ n, n = 2 → ∃ results, (TransferService.listEndpoint byCreatedAt).pages turning
      (fun _ => true) oneByOne n twins = .ok results ∧
        (results.flatMap Paged.data).map Prod.fst = [0, 0] := by
    rintro _ rfl
    exact ⟨_, pages_eq hkey 2, rfl⟩
  obtain ⟨results, hok, hids⟩ := hpages (Paging.pageCount 1 2) (by norm_num [Paging.pageCount])
  intro hcovers
  have hperm := (hcovers turning (.stored ℕ) _ results (findAll_eq hkey) hok).map Prod.fst
  rw [hids] at hperm
  exact absurd hperm (by decide)

end Pages

end Invetrixa
