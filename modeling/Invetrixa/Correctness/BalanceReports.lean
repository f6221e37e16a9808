import Invetrixa.Correctness.Ledger
import Invetrixa.Library.Totals
import Invetrixa.Stock.Balance

/-!
# Balance reports and the ledger

The reports on a product, on a location and on what is low are read off the counters. In every
store that the requests can reach they are what the movements say, place by place and in total.

## Main definitions

- `ProductReport`, `LocationReport` — what a report says if it says what the movements do
- `IsLow` — what is below its reorder level

## Main results

- `balance_reports_agree` — both reports agree with the movements and with each other
- `lowStock_lists_ledger` — the pages of what is low hold what is low by the movements
-/

namespace Invetrixa

open Rowstore BalanceService

/-- A report on a product: each location with a balance once, at what the movements of the product
there come to, and in total what all of its movements come to. -/
structure ProductReport (s : Store) (r : ProductBalanceSummary) : Prop where
  once : (r.locations.map StockLine.id).Nodup
  lines : ∀ line ∈ r.locations, line.onHandQuantity = s.netMoved r.productId line.id ∧
    line.availableQuantity = line.onHandQuantity - line.reservedQuantity
  complete : ∀ l, l ∉ r.locations.map StockLine.id → s.netMoved r.productId l = 0
  total : r.totalOnHand =
    s.movements.sum fun _ m => if m.productId = r.productId then m.signed else 0
  available : r.totalAvailable = r.totalOnHand - r.totalReserved

/-- A report on a location: each product of the tenant with a balance once, and in total what all
movements of the tenant there come to. -/
structure LocationReport (tenantId : Id) (s : Store) (r : LocationBalanceSummary) : Prop where
  once : (r.products.map StockLine.id).Nodup
  count : r.productCount = r.products.length
  lines : ∀ line ∈ r.products, line.onHandQuantity = s.netMoved line.id r.locationId ∧
    line.availableQuantity = line.onHandQuantity - line.reservedQuantity
  complete : ∀ p, s.tenantOf p = some tenantId → p ∉ r.products.map StockLine.id →
    s.netMoved p r.locationId = 0
  total : r.totalUnits = s.movements.sum fun _ m =>
    if m.locationId = r.locationId ∧ m.tenantId = tenantId then m.signed else 0

section Rows

variable {db : Database} {c : Catalogue} {s : Store} {tenantId p l : Id}

theorem foldl_add_eq {α : Type} (f : α → ℤ) (xs : List α) :
    xs.foldl (fun sum x => sum + f x) 0 = (xs.map f).sum := by
  rw [List.sum_eq_foldl, List.foldl_map]

/-- A balance row says what the movements of its place do. -/
theorem onHandQuantity_eq (h : Reachable db c s) {b : InventoryBalance}
    (hb : s.balances.find? (p, l) = some b) : b.onHandQuantity = s.netMoved p l := by
  rw [← onHand_eq_netMoved h, Store.onHand, hb]
  rfl

theorem netMoved_of_no_row (h : Reachable db c s) (hb : s.balances.find? (p, l) = none) :
    s.netMoved p l = 0 := by
  rw [← onHand_eq_netMoved h, Store.onHand, hb]
  rfl

/-- The rows selected by one half of the key have distinct other halves. -/
theorem nodup_halves {q : (Id × Id) × InventoryBalance → Bool} {half : Id × Id → Id}
    (hq : ∀ r r', q r = true → q r' = true → half r.1 = half r'.1 → r.1 = r'.1) :
    ((s.balances.rows.filter q).map fun r => half r.1).Nodup := by
  have hkeys : ((s.balances.rows.filter q).map Prod.fst).Nodup :=
    s.balances.nodup.sublist (List.filter_sublist.map _)
  rw [List.nodup_iff_pairwise_ne, List.pairwise_map] at hkeys ⊢
  refine hkeys.imp_of_mem fun hr hr' hne heq => hne ?_
  exact hq _ _ (List.mem_filter.mp hr).2 (List.mem_filter.mp hr').2 heq

theorem sum_movements_of_product {ls : List Id} (hnodup : ls.Nodup)
    (hzero : ∀ l, l ∉ ls → s.netMoved p l = 0) :
    (s.movements.sum fun _ m => if m.productId = p then m.signed else 0) =
      (ls.map (s.netMoved p)).sum := by
  have hpart : ∀ l, (s.movements.sum fun _ m =>
      if m.locationId = l then if m.productId = p then m.signed else 0 else 0) =
        s.netMoved p l := by
    intro l
    apply Table.sum_congr
    intro k m _
    by_cases hl : m.locationId = l <;> by_cases hp : m.productId = p <;> simp [hl, hp]
  rw [Totals.sum_eq_sum_by_key (fun _ m => m.locationId) hnodup]
  · simp only [hpart]
  · intro l hl
    rw [hpart]
    exact hzero l hl

theorem sum_movements_at_location (hs : WellFormed s) {ps : List Id} (hnodup : ps.Nodup)
    (howned : ∀ p ∈ ps, s.tenantOf p = some tenantId)
    (hzero : ∀ p, s.tenantOf p = some tenantId → p ∉ ps → s.netMoved p l = 0) :
    (s.movements.sum fun _ m =>
      if m.locationId = l ∧ m.tenantId = tenantId then m.signed else 0) =
        (ps.map fun p => s.netMoved p l).sum := by
  have hpart : ∀ p, (s.movements.sum fun _ m => if m.productId = p then
      if m.locationId = l ∧ m.tenantId = tenantId then m.signed else 0 else 0) =
        if s.tenantOf p = some tenantId then s.netMoved p l else 0 := by
    intro p
    split
    · next hown =>
      apply Table.sum_congr
      intro k m hm
      by_cases hp : m.productId = p
      · have htenant : m.tenantId = tenantId :=
          Option.some.inj ((hs.movements k m hm).symm.trans (hp ▸ hown))
        simp [hp, htenant]
      · simp [hp]
    · next hother =>
      apply Table.sum_eq_zero
      intro k m hm
      by_cases hp : m.productId = p
      · have htenant : m.tenantId ≠ tenantId := by
          rintro rfl
          exact hother (hp ▸ hs.movements k m hm)
        simp [htenant]
      · simp [hp]
  rw [Totals.sum_eq_sum_by_key (fun _ m => m.productId) hnodup]
  · simp only [hpart]
    congr 1
    apply List.map_congr_left
    intro p hp
    rw [if_pos (howned p hp)]
  · intro p hp
    rw [hpart]
    split
    · next hown => exact hzero p hown hp
    · rfl

end Rows

section Summaries

variable {db : Database} {c : Catalogue} {s : Store} {tenantId p l : Id}

/-- The lines of the rows that one half of the key selects, in a report on that half. -/
structure LinesOf (s : Store) (tenantId : Id) (place : Id → Id × Id) (lines : List StockLine) :
    Prop where
  once : (lines.map StockLine.id).Nodup
  mem_iff : ∀ line, line ∈ lines ↔ ∃ b, s.balances.find? (place line.id) = some b ∧
    b.tenantId = tenantId ∧ line = stockLine line.id b

theorem linesOf_map {place : Id → Id × Id} {half : Id × Id → Id}
    {q : (Id × Id) × InventoryBalance → Bool}
    (hq : ∀ r, q r = true ↔ r.1 = place (half r.1) ∧ r.2.tenantId = tenantId)
    (hplace : ∀ id, half (place id) = id) :
    LinesOf s tenantId place
      ((s.balances.rows.filter q).map fun b => stockLine (half b.1) b.2) where
  once := by
    rw [List.map_map]
    apply nodup_halves
    intro r r' hr hr' heq
    rw [((hq r).mp hr).1, ((hq r').mp hr').1, heq]
  mem_iff line := by
    rw [List.mem_map]
    constructor
    · rintro ⟨r, hr, rfl⟩
      obtain ⟨hmem, hselected⟩ := List.mem_filter.mp hr
      obtain ⟨hkey, htenant⟩ := (hq r).mp hselected
      refine ⟨r.2, ?_, htenant, rfl⟩
      show s.balances.find? (place (half r.1)) = some r.2
      rw [← hkey]
      exact Table.find?_of_mem_rows hmem
    · rintro ⟨b, hfind, htenant, hline⟩
      refine ⟨(place line.id, b), List.mem_filter.mpr ⟨Table.mem_rows_of_find? hfind, ?_⟩, ?_⟩
      · rw [hq, hplace]
        exact ⟨rfl, htenant⟩
      · rw [hplace]
        exact hline.symm

theorem findByProduct_ok {r : ProductBalanceSummary} (hr : findByProduct s tenantId p = .ok r) :
    s.tenantOf p = some tenantId ∧ r.productId = p ∧
      LinesOf s tenantId (fun l => (p, l)) r.locations ∧
      r.totalOnHand = (r.locations.map StockLine.onHandQuantity).sum ∧
      r.totalReserved = (r.locations.map StockLine.reservedQuantity).sum ∧
      r.totalAvailable = (r.locations.map StockLine.availableQuantity).sum := by
  rw [findByProduct] at hr
  split at hr
  · cases hr
  · next product hproduct =>
    obtain ⟨hfind, hlive⟩ := Option.filter_eq_some_iff.mp hproduct
    obtain rfl := Except.ok.inj hr
    refine ⟨?_, rfl, ?_, foldl_add_eq _ _, foldl_add_eq _ _, foldl_add_eq _ _⟩
    · rw [Store.tenantOf, hfind, Option.map_some]
      exact congrArg some (of_decide_eq_true hlive).1
    · apply linesOf_map
      · intro r
        rw [decide_eq_true_eq, Prod.ext_iff]
        simp
      · exact fun _ => rfl

theorem findByLocation_ok {r : LocationBalanceSummary} (hr : findByLocation s tenantId l = .ok r) :
    r.locationId = l ∧ LinesOf s tenantId (fun p => (p, l)) r.products ∧
      r.totalUnits = (r.products.map StockLine.onHandQuantity).sum ∧
      r.productCount = r.products.length := by
  rw [findByLocation] at hr
  split at hr
  · cases hr
  · obtain rfl := Except.ok.inj hr
    refine ⟨rfl, ?_, foldl_add_eq _ _, rfl⟩
    apply linesOf_map
    · intro r
      rw [decide_eq_true_eq, Prod.ext_iff]
      simp
    · exact fun _ => rfl

section Lines

variable {place : Id → Id × Id} {lines : List StockLine}

/-- The lines of a report say what the movements do. -/
theorem LinesOf.netMoved (h : Reachable db c s) (hlines : LinesOf s tenantId place lines) :
    ∀ line ∈ lines, line.onHandQuantity = s.netMoved (place line.id).1 (place line.id).2 ∧
      line.availableQuantity = line.onHandQuantity - line.reservedQuantity := by
  intro line hline
  obtain ⟨b, hb, _, heq⟩ := (hlines.mem_iff line).mp hline
  rw [heq]
  exact ⟨onHandQuantity_eq h hb, rfl⟩

/-- A place of the tenant without a line has no balance. -/
theorem LinesOf.no_row (hs : WellFormed s) (hlines : LinesOf s tenantId place lines) {id : Id}
    (hown : s.tenantOf (place id).1 = some tenantId) (hid : id ∉ lines.map StockLine.id) :
    s.balances.find? (place id) = none := by
  cases hb : s.balances.find? (place id) with
  | none => rfl
  | some b =>
    have htenant : b.tenantId = tenantId :=
      Option.some.inj ((hs.balances _ b hb).symm.trans hown)
    have hmem : stockLine id b ∈ lines := (hlines.mem_iff _).mpr ⟨b, hb, htenant, rfl⟩
    exact absurd (List.mem_map_of_mem hmem) hid

theorem LinesOf.sum_onHand (h : Reachable db c s) (hlines : LinesOf s tenantId place lines) :
    (lines.map StockLine.onHandQuantity).sum =
      ((lines.map StockLine.id).map fun id => s.netMoved (place id).1 (place id).2).sum := by
  rw [List.map_map]
  congr 1
  apply List.map_congr_left
  intro line hline
  exact (hlines.netMoved h line hline).1

end Lines

theorem productReport {r : ProductBalanceSummary} (h : Reachable db c s)
    (hr : findByProduct s tenantId p = .ok r) : ProductReport s r := by
  have hs := wellFormed_of_reachable h
  obtain ⟨hown, rfl, hlines, honHand, hreserved, havailable⟩ := findByProduct_ok hr
  have hcomplete : ∀ l, l ∉ r.locations.map StockLine.id → s.netMoved r.productId l = 0 :=
    fun l hl => netMoved_of_no_row h (hlines.no_row hs hown hl)
  constructor
  · exact hlines.once
  · exact hlines.netMoved h
  · exact hcomplete
  · rw [honHand, hlines.sum_onHand h, sum_movements_of_product hlines.once hcomplete]
  · rw [honHand, hreserved, havailable, eq_sub_iff_add_eq, ← List.sum_map_add]
    congr 1
    apply List.map_congr_left
    intro line hline
    have hline' := (hlines.netMoved h line hline).2
    omega

theorem locationReport {r : LocationBalanceSummary} (h : Reachable db c s)
    (hr : findByLocation s tenantId l = .ok r) : LocationReport tenantId s r := by
  have hs := wellFormed_of_reachable h
  obtain ⟨rfl, hlines, hunits, hcount⟩ := findByLocation_ok hr
  have hcomplete : ∀ p, s.tenantOf p = some tenantId → p ∉ r.products.map StockLine.id →
      s.netMoved p r.locationId = 0 :=
    fun p hown hp => netMoved_of_no_row h (hlines.no_row hs hown hp)
  constructor
  · exact hlines.once
  · exact hcount
  · exact hlines.netMoved h
  · exact hcomplete
  · rw [hunits, hlines.sum_onHand h, sum_movements_at_location hs hlines.once ?_ hcomplete]
    intro p hp
    obtain ⟨line, hline, rfl⟩ := List.mem_map.mp hp
    obtain ⟨b, hb, htenant, _⟩ := (hlines.mem_iff line).mp hline
    rw [hs.balances _ b hb, htenant]

/-- In every reachable store, the report on a product and the report on a location are what the
movements say, and a place has the same figures in both. -/
theorem balance_reports_agree (h : Reachable db c s) (tenantId : Id) :
    (∀ p r, findByProduct s tenantId p = .ok r → ProductReport s r) ∧
    (∀ l r, findByLocation s tenantId l = .ok r → LocationReport tenantId s r) ∧
    ∀ p l r q, findByProduct s tenantId p = .ok r → findByLocation s tenantId l = .ok q →
      ∀ onHand reserved available, ⟨l, onHand, reserved, available⟩ ∈ r.locations ↔
        ⟨p, onHand, reserved, available⟩ ∈ q.products := by
  refine ⟨fun p r => productReport h, fun l r => locationReport h, ?_⟩
  intro p l r q hr hq onHand reserved available
  obtain ⟨_, _, hlines, _⟩ := findByProduct_ok hr
  obtain ⟨_, hlines', _⟩ := findByLocation_ok hq
  rw [hlines.mem_iff, hlines'.mem_iff]
  simp [stockLine]

theorem balance_reports_agree_soldFour :
    (∃ r, findByProduct (soldFourStore .fifo) 0 0 = .ok r ∧
      r.totalOnHand = 6 ∧ ProductReport (soldFourStore .fifo) r) ∧
    ∃ r, findByLocation (soldFourStore .fifo) 0 0 = .ok r ∧
      r.totalUnits = 6 ∧ LocationReport 0 (soldFourStore .fifo) r := by
  obtain ⟨hproduct, hlocation, _⟩ :=
    balance_reports_agree (reachable_serveAll .exact (.shop .fifo) soldFour) 0
  have honProduct : findByProduct (soldFourStore .fifo) 0 0 =
      .ok ⟨0, 6, 0, 6, [⟨0, 6, 0, 6⟩]⟩ := by decide +kernel
  have hatLocation : findByLocation (soldFourStore .fifo) 0 0 = .ok ⟨0, 6, 1, [⟨0, 6, 0, 6⟩]⟩ := by
    decide +kernel
  exact ⟨⟨_, honProduct, rfl, hproduct 0 _ honProduct⟩,
    ⟨_, hatLocation, rfl, hlocation 0 _ hatLocation⟩⟩

end Summaries

/-- The query for another page. -/
def QueryLowStockDto.forPage (query : QueryLowStockDto) (i : ℕ) : QueryLowStockDto :=
  { query with toPaginationQueryDto := query.toPaginationQueryDto.forPage i }

/-- A place where a live product is below its reorder level by the movements, as an item. It has
had stock before, and the query selects it. -/
structure IsLow (x : Listings) (s : Store) (tenantId : Id) (query : QueryLowStockDto)
    (item : LowStockItem) : Prop where
  stocked : ∃ b, s.balances.find? (item.productId, item.locationId) = some b ∧
    b.tenantId = tenantId
  product : ∃ p, s.products.find? item.productId = some p ∧ p.deletedAt = none ∧
    ∀ search ∈ truthy query.search, x.ilike p.name ("%" ++ search ++ "%") = true ∨
      x.ilike (x.sku item.productId) ("%" ++ search ++ "%") = true
  location : (s.locations.find? item.locationId).isSome ∧
    ∀ id ∈ query.locationId, item.locationId = id
  onHand : item.onHandQuantity = s.netMoved item.productId item.locationId
  level : item.reorderLevel = x.reorderLevel item.productId ∧ 0 < item.reorderLevel
  shortage : item.shortage = item.reorderLevel - item.onHandQuantity ∧ 0 < item.shortage

section LowStock

variable {db : Database} {c : Catalogue} {s : Store} {tenantId : Id} {x : Listings}
  {query : QueryLowStockDto}

theorem mem_lowStockItems_iff (h : Reachable db c s) {item : LowStockItem} :
    item ∈ lowStockItems x s tenantId query ↔ IsLow x s tenantId query item := by
  rw [lowStockItems, List.mem_map]
  constructor
  · rintro ⟨⟨⟨p, l⟩, b⟩, hr, rfl⟩
    obtain ⟨hmem, hjoined⟩ := List.mem_filter.mp hr
    obtain ⟨hproduct, hlocation⟩ := of_decide_eq_true hjoined
    obtain ⟨product, hfind, hwhere⟩ := (Option.any_eq_true _ _).mp hproduct
    obtain ⟨htenant, hlevel, hlive, hlow, hat, hsearch⟩ := of_decide_eq_true hwhere
    have hb := Table.find?_of_mem_rows hmem
    constructor
    · exact ⟨b, hb, htenant⟩
    · exact ⟨product, hfind, hlive, hsearch⟩
    · exact ⟨hlocation, hat⟩
    · exact onHandQuantity_eq h hb
    · exact ⟨rfl, hlevel⟩
    · exact ⟨rfl, sub_pos.mpr hlow⟩
  · intro hitem
    obtain ⟨b, hb, htenant⟩ := hitem.stocked
    obtain ⟨product, hfind, hlive, hsearch⟩ := hitem.product
    have honHand : item.onHandQuantity = b.onHandQuantity :=
      hitem.onHand.trans (onHandQuantity_eq h hb).symm
    obtain ⟨hlevel, hpositive⟩ := hitem.level
    obtain ⟨hshortage, hshort⟩ := hitem.shortage
    refine ⟨((item.productId, item.locationId), b), List.mem_filter.mpr
      ⟨Table.mem_rows_of_find? hb, decide_eq_true ⟨(Option.any_eq_true _ _).mpr
        ⟨product, hfind, decide_eq_true ⟨htenant, ?_, hlive, ?_, hitem.location.2, hsearch⟩⟩,
        hitem.location.1⟩⟩, ?_⟩
    · show 0 < x.reorderLevel item.productId
      omega
    · show b.onHandQuantity < x.reorderLevel item.productId
      omega
    · obtain ⟨productId, locationId, onHand, level, short⟩ := item
      simp only [lowStockItem, LowStockItem.mk.injEq, true_and]
      dsimp only at *
      omega

/-- A place is at most one item. -/
theorem nodup_lowStockItems :
    ((lowStockItems x s tenantId query).map fun i => (i.productId, i.locationId)).Nodup := by
  rw [lowStockItems, List.map_map]
  exact s.balances.nodup.sublist (List.filter_sublist.map _)

theorem findLowStock_forPage (order : ShortageOrder) (i : ℕ) :
    (findLowStock x s order tenantId (query.forPage i)).data =
      Paging.page query.limit (order.arrange (lowStockItems x s tenantId query)) i := by
  show ((order.arrange (lowStockItems x s tenantId query)).drop
    ((i + 1 - 1) * query.limit)).take query.limit = _
  rw [Nat.add_sub_cancel]
  rfl

theorem byShortage_refl (a : LowStockItem) : ByShortage a a := Int.le_refl _

theorem byShortage_trans (a b c : LowStockItem) (hab : ByShortage a b) (hbc : ByShortage b c) :
    ByShortage a c := Int.le_trans hbc hab

/-- The order of shortages, items with equal shortages as they come. -/
def BalanceService.ShortageOrder.stored : ShortageOrder where
  arrange items := items.insertionSort ByShortage
  arranged items :=
    { perm := List.perm_insertionSort _ _
      sorted := by
        have : Std.Total ByShortage := ⟨fun a b => Int.le_total b.shortage a.shortage⟩
        have : IsTrans LowStockItem ByShortage := ⟨byShortage_trans⟩
        exact List.pairwise_insertionSort _ _ }

/-- Items in some order of their shortages are in that order for some database. -/
theorem exists_shortageOrder {items l : List LowStockItem}
    (h : Paging.Arranged ByShortage items l) :
    ∃ order : ShortageOrder, order.arrange items = l := by
  refine ⟨⟨fun items' => if items' = items then l else ShortageOrder.stored.arrange items', ?_⟩,
    if_pos rfl⟩
  intro items'
  split
  · next heq => exact heq ▸ h
  · exact ShortageOrder.stored.arranged items'

/-- The pages up to the number that a page reports, each by a query of its own. -/
def lowStockPages (x : Listings) (s : Store) (orders : ℕ → ShortageOrder) (tenantId : Id)
    (query : QueryLowStockDto) : List LowStockItem :=
  (List.range (findLowStock x s (orders 0) tenantId query).meta'.totalPages).flatMap fun i =>
    (findLowStock x s (orders i) tenantId (query.forPage i)).data

theorem lowStockPages_eq (orders : ℕ → ShortageOrder) :
    lowStockPages x s orders tenantId query =
      (List.range (Paging.pageCount query.limit (lowStockItems x s tenantId query).length)).flatMap
        fun i => Paging.page query.limit
          ((orders i).arrange (lowStockItems x s tenantId query)) i := by
  simp only [lowStockPages, findLowStock_forPage]
  rfl

/-- The same query for all places and texts. -/
def QueryLowStockDto.unfiltered (query : QueryLowStockDto) : QueryLowStockDto :=
  { query with locationId := none, search := none }

/-- The flag in the list of balances is up at the places that the other query selects. -/
theorem isLowStock_iff (h : Reachable db c s) {order : BalanceOrder} {q : QueryBalanceDto}
    {page : ReportPage BalanceItem} (hpage : findAll x s order tenantId q = .ok page)
    {item : BalanceItem} (hitem : item ∈ page.data) (hlevel : 0 ≤ x.reorderLevel item.productId)
    (hproduct : ∃ p, s.products.find? item.productId = some p ∧ p.deletedAt = none)
    (hlocation : (s.locations.find? item.locationId).isSome) :
    item.isLowStock = true ↔ ∃ low, IsLow x s tenantId query.unfiltered low ∧
      low.productId = item.productId ∧ low.locationId = item.locationId := by
  rw [findAll] at hpage
  dsimp only at hpage
  split at hpage
  · cases hpage
  · next arrange hfield =>
    obtain rfl := Except.ok.inj hpage
    obtain ⟨⟨⟨p, l⟩, b⟩, hrow, rfl⟩ := List.mem_map.mp hitem
    have hmem := (order.perm _ arrange hfield _).mem_iff.mp
      (List.mem_of_mem_drop (List.mem_of_mem_take hrow))
    obtain ⟨hmem, hmatches⟩ := List.mem_filter.mp hmem
    have hb := Table.find?_of_mem_rows hmem
    have htenant : b.tenantId = tenantId := (of_decide_eq_true hmatches).1
    show isLowStock (x.reorderLevel p) b = true ↔ _
    rw [isLowStock, decide_eq_true_eq]
    constructor
    · rintro ⟨hne, hlow⟩
      refine ⟨lowStockItem x ((p, l), b), ?_, rfl, rfl⟩
      obtain ⟨product, hfind, hlive⟩ := hproduct
      constructor
      · exact ⟨b, hb, htenant⟩
      · refine ⟨product, hfind, hlive, ?_⟩
        intro search hsearch
        cases hsearch
      · refine ⟨hlocation, ?_⟩
        intro id hid
        cases hid
      · exact onHandQuantity_eq h hb
      · exact ⟨rfl, lt_of_le_of_ne hlevel (Ne.symm hne)⟩
      · exact ⟨rfl, sub_pos.mpr hlow⟩
    · rintro ⟨low, hlow, rfl, rfl⟩
      have honHand := hlow.onHand.trans (onHandQuantity_eq h hb).symm
      have hlevel' := hlow.level
      have hshortage := hlow.shortage
      omega

/-- In every reachable store, a page of what is low holds places that are low by the movements, the
largest shortage first; each is on some page; the pages together hold each of them once in
whatever order the database has equal shortages, exactly if no such tie crosses the end of a page;
and the flag of the list of balances agrees with them, for live products. -/
theorem lowStock_lists_ledger (h : Reachable db c s) (x : Listings) (tenantId : Id)
    (query : QueryLowStockDto) :
    (∀ order i, ∀ item ∈ (findLowStock x s order tenantId (query.forPage i)).data,
      IsLow x s tenantId query item) ∧
    (∀ order i, (findLowStock x s order tenantId (query.forPage i)).data.Pairwise ByShortage) ∧
    (∀ order item, IsLow x s tenantId query item →
      ∃ i, item ∈ (findLowStock x s order tenantId (query.forPage i)).data) ∧
    ((∀ orders, ((lowStockPages x s orders tenantId query).map
        fun i => (i.productId, i.locationId)).Nodup ∧
        ∀ item, item ∈ lowStockPages x s orders tenantId query ↔
          IsLow x s tenantId query item) ↔
      Paging.BoundariesStrict ByShortage query.limit
        (ShortageOrder.stored.arrange (lowStockItems x s tenantId query))) ∧
    ∀ order q page, findAll x s order tenantId q = .ok page → ∀ item ∈ page.data,
      0 ≤ x.reorderLevel item.productId →
      (∃ p, s.products.find? item.productId = some p ∧ p.deletedAt = none) →
      (s.locations.find? item.locationId).isSome →
      (item.isLowStock = true ↔ ∃ low, IsLow x s tenantId query.unfiltered low ∧
        low.productId = item.productId ∧ low.locationId = item.locationId) := by
  have hsize : 0 < query.limit := query.one_le_limit
  have hnodup : (lowStockItems x s tenantId query).Nodup := nodup_lowStockItems.of_map
  refine ⟨fun order i item hitem => ?_, fun order i => ?_, fun order item hitem => ?_, ?_,
    fun order q page hpage item hitem => isLowStock_iff h hpage hitem⟩
  · rw [findLowStock_forPage] at hitem
    have hmem := List.mem_of_mem_drop (List.mem_of_mem_take hitem)
    exact (mem_lowStockItems_iff h).mp ((order.arranged _).perm.mem_iff.mp hmem)
  · rw [findLowStock_forPage]
    exact (((order.arranged _).sorted.sublist (List.drop_sublist _ _))).sublist
      (List.take_sublist _ _)
  · have hmem := (order.arranged _).perm.mem_iff.mpr ((mem_lowStockItems_iff h).mpr hitem)
    rw [← Paging.flatMap_page hsize (order.arrange _), List.mem_flatMap] at hmem
    obtain ⟨i, _, hi⟩ := hmem
    exact ⟨i, findLowStock_forPage order i ▸ hi⟩
  · rw [← Paging.perm_iff_boundariesStrict hsize hnodup byShortage_refl byShortage_trans
      (ShortageOrder.stored.arranged _)]
    constructor
    · intro hall orders horders
      choose orders' horders' using fun i => exists_shortageOrder (horders i)
      obtain ⟨honce, hmem⟩ := hall orders'
      rw [lowStockPages_eq] at honce hmem
      simp only [horders'] at honce hmem
      refine (List.perm_ext_iff_of_nodup honce.of_map hnodup).mpr fun item => ?_
      rw [hmem, mem_lowStockItems_iff h]
    · intro hall orders
      have hperm := hall _ fun i => (orders i).arranged _
      rw [← lowStockPages_eq] at hperm
      refine ⟨(hperm.map _).nodup_iff.mpr nodup_lowStockItems, fun item => ?_⟩
      rw [hperm.mem_iff, mem_lowStockItems_iff h]

/-- Reorder levels of ten, and no texts. -/
def levelTen : Listings where
  sku _ := ""
  reorderLevel _ := 10
  code _ := none
  contains _ _ := false
  ilike _ _ := false

def firstFive : QueryLowStockDto where
  page := 1
  limit := 5
  sort := none
  sortBy := none
  one_le_page := Nat.le_refl 1
  one_le_limit := by decide
  limit_le := by decide
  locationId := none
  search := none

theorem lowStock_lists_ledger_soldFour :
    ∃ i, (⟨0, 0, 6, 10, 4⟩ : LowStockItem) ∈
      (findLowStock levelTen (soldFourStore .fifo) .stored 0 (firstFive.forPage i)).data := by
  have h := lowStock_lists_ledger (reachable_serveAll .exact (.shop .fifo) soldFour) levelTen 0
    firstFive
  refine h.2.2.1 .stored _ ((mem_lowStockItems_iff (reachable_serveAll _ _ _)).mp ?_)
  decide +kernel

end LowStock

end Invetrixa
