import Invetrixa.Library.Numerals
import Invetrixa.Correctness.Consumption
import Invetrixa.Stock.ValuationReport

/-!
# The valuation report and the cost engine

The report groups the layers of a tenant by a text of product and location. Each place that has
stock is in it once, with its own layers, and at the average cost that issues are charged.

## Main definitions

- `ReportSound` — an answer that loses nothing, counts nothing twice and averages as the cost
  engine does

## Main results

- `valuation_eq` — the nested loops in closed form
- `placeLayers_perm` — the group of a place is what the cost engine finds there
- `valuation_sound`
-/

namespace Invetrixa

open Rowstore ValuationService BalanceService

/-- What the report says of a layer. -/
def layerDetail (l : Id × ValuationLayer) : ValuationLayerDetail :=
  { id := l.1
    unitCost := l.2.unitCost
    remainingQty := l.2.remainingQty
    value := l.2.unitCost * l.2.remainingQty
    createdAt := l.2.createdAt }

/-- What is sent of a layer. -/
def sentLayer (toFixed : ℚ → String) (l : Id × ValuationLayer) : ValuationLayerDetailDto :=
  { id := l.1
    unitCost := toFixed l.2.unitCost
    remainingQty := l.2.remainingQty
    value := toFixed (l.2.unitCost * l.2.remainingQty)
    createdAt := l.2.createdAt }

/-- What the layers of a tenant that hold something of a product at a location are worth. -/
def placeValue (tenantId : Id) (s : Store) (productId locationId : Id) : ℚ :=
  ((availableLayers productId locationId tenantId s).map fun r =>
    r.2.unitCost * (r.2.remainingQty : ℚ)).sum

/-- The answer lists every place with stock once and with its own layers; the lines add up to its
totals, which are those of all layers of the tenant that hold anything; each average cost is the
one that the cost engine calculates. Amounts are sent as the texts of their numbers. -/
structure ReportSound (toFixed : ℚ → String) (tenantId : Id) (s : Store)
    (report : ValuationReportDto) : Prop where
  once : (report.items.map fun line => (line.productId, line.locationId)).Nodup
  listed : ∀ p l, (∃ line ∈ report.items, line.productId = p ∧ line.locationId = l) ↔
    ∃ r ∈ s.layers.rows, r.2.productId = p ∧ r.2.locationId = l ∧ r.2.tenantId = tenantId ∧
      0 < r.2.remainingQty
  layers : ∀ line ∈ report.items, line.layers.Perm
    ((s.layers.rows.filter fun r => r.2.productId = line.productId ∧
      r.2.locationId = line.locationId ∧ r.2.tenantId = tenantId ∧ 0 < r.2.remainingQty).map
        (sentLayer toFixed))
  lineQuantity : ∀ line ∈ report.items,
    line.totalQuantity = (line.layers.map ValuationLayerDetailDto.remainingQty).sum
  lineValue : ∀ line ∈ report.items,
    line.totalValue = toFixed (placeValue tenantId s line.productId line.locationId)
  averageCost : ∀ line ∈ report.items,
    line.averageCost = toFixed (calculateWAC line.productId line.locationId tenantId s)
  totalUnits : report.totalUnits = (report.items.map ValuationLineDto.totalQuantity).sum ∧
    report.totalUnits = s.layers.sum fun _ l =>
      if l.tenantId = tenantId then max 0 l.remainingQty else 0
  totalValue : ∃ value : ℚ, report.totalValue = toFixed value ∧
    value = (report.items.map fun line =>
      placeValue tenantId s line.productId line.locationId).sum ∧
    value = s.layers.sum fun _ l =>
      if l.tenantId = tenantId then l.unitCost * max 0 (l.remainingQty : ℚ) else 0

section Loops

/-- What a list of layers is worth. -/
abbrev worth (ls : List (Id × ValuationLayer)) : ℚ := Lots.value layerSize (fun r => r.2.unitCost) ls

theorem tally_eq (ls : List (Id × ValuationLayer)) (tally : GroupTally) :
    ls.foldl tallyLayer tally =
      { totalQty := tally.totalQty + Lots.total layerSize ls
        totalValue := tally.totalValue + worth ls
        layerDetails := tally.layerDetails ++ ls.map layerDetail } := by
  induction ls generalizing tally with
  | nil => simp [Lots.total, worth, Lots.value]
  | cons l rest ih =>
    rw [List.foldl_cons, ih]
    simp only [tallyLayer, Lots.total, worth, Lots.value, List.map_cons, List.sum_cons, layerDetail,
      List.append_assoc, List.singleton_append, add_assoc]

/-- The line of a group with a first layer. -/
def groupLine (ls : List (Id × ValuationLayer)) (first : Id × ValuationLayer) : ValuationLine where
  productId := first.2.productId
  locationId := first.2.locationId
  totalQuantity := Lots.total layerSize ls
  totalValue := worth ls
  averageCost := if 0 < Lots.total layerSize ls then worth ls / Lots.total layerSize ls else 0
  layers := ls.map layerDetail

theorem foldl_addGroup (groups : List (String × List (Id × ValuationLayer)))
    (report : ValuationReport) :
    groups.foldl addGroup report =
      { report with
        totalValue := report.totalValue + (groups.map fun g => worth g.2).sum
        totalUnits := report.totalUnits + (groups.map fun g => Lots.total layerSize g.2).sum
        items := report.items ++
          groups.filterMap fun g => g.2.head?.map (groupLine g.2) } := by
  induction groups generalizing report with
  | nil => simp
  | cons g rest ih =>
    rw [List.foldl_cons, ih]
    obtain ⟨key, ls⟩ := g
    cases ls with
    | nil =>
      simp only [addGroup, Lots.total, worth, Lots.value, List.map_cons, List.map_nil,
        List.sum_nil, List.sum_cons, zero_add]
      rfl
    | cons first ls =>
      simp only [addGroup, tally_eq, zero_add, List.nil_append, List.map_cons, List.sum_cons,
        List.append_assoc, List.singleton_append, add_assoc]
      rfl

end Loops

section Groups

variable {db : Database} {tenantId : Id} {method : PricingMethod} {s : Store}

/-- The groups of the report. -/
def reportGroups (db : Database) (tenantId : Id) (s : Store) :
    List (String × List (Id × ValuationLayer)) :=
  Groups.groupBy valuationKey (reportedLayers db tenantId s)

theorem valuationKey_eq_iff {r r' : Id × ValuationLayer} :
    valuationKey r = valuationKey r' ↔
      r.2.productId = r'.2.productId ∧ r.2.locationId = r'.2.locationId := by
  constructor
  · exact Numerals.toString_join_inj (c := ':') rfl rfl
  · rintro ⟨hp, hl⟩
    rw [valuationKey, valuationKey, hp, hl]

/-- A group has a first layer, which has the key of the group. -/
theorem exists_first {g : String × List (Id × ValuationLayer)}
    (hg : g ∈ reportGroups db tenantId s) :
    ∃ first ∈ reportedLayers db tenantId s, g.2.head? = some first ∧ valuationKey first = g.1 := by
  obtain ⟨key, ls⟩ := g
  obtain ⟨hkey, rfl⟩ := Groups.mem_groupBy_iff.mp hg
  obtain ⟨r, hr, rfl⟩ := List.mem_map.mp hkey
  have hne : (reportedLayers db tenantId s).filter (valuationKey · = valuationKey r) ≠ [] :=
    List.ne_nil_of_mem (List.mem_filter.mpr ⟨hr, decide_eq_true rfl⟩)
  obtain ⟨first, rest, hfirst⟩ := List.exists_cons_of_ne_nil hne
  have hmem : first ∈ (reportedLayers db tenantId s).filter (valuationKey · = valuationKey r) := by
    rw [hfirst]
    exact List.mem_cons_self
  obtain ⟨hreported, hsame⟩ := List.mem_filter.mp hmem
  exact ⟨first, hreported, by rw [hfirst]; rfl, of_decide_eq_true hsame⟩

/-- The group of a layer is what the cost engine finds at its place. -/
theorem placeLayers_perm {g : String × List (Id × ValuationLayer)}
    (hg : g ∈ reportGroups db tenantId s) {first : Id × ValuationLayer}
    (hkey : valuationKey first = g.1) :
    g.2.Perm (availableLayers first.2.productId first.2.locationId tenantId s) := by
  obtain ⟨key, ls⟩ := g
  obtain ⟨_, rfl⟩ := Groups.mem_groupBy_iff.mp hg
  obtain rfl : valuationKey first = key := hkey
  have hplace : availableLayers first.2.productId first.2.locationId tenantId s =
      (s.layers.rows.filter fun r => r.2.tenantId = tenantId ∧ 0 < r.2.remainingQty).filter
        (valuationKey · = valuationKey first) := by
    rw [List.filter_filter]
    refine List.filter_congr fun r _ => ?_
    rw [← Bool.decide_and]
    exact decide_eq_decide.mpr (by rw [valuationKey_eq_iff, and_assoc])
  rw [hplace]
  exact (db.orderByCreatedAt_perm _ _).filter _

/-- What is read off each line is read off its group. -/
theorem map_items {β : Type} {f : ValuationLine → β} {f' : String × List (Id × ValuationLayer) → β}
    (hf : ∀ g ∈ reportGroups db tenantId s, ∀ first, valuationKey first = g.1 →
      f (groupLine g.2 first) = f' g) :
    ((reportGroups db tenantId s).filterMap fun g => g.2.head?.map (groupLine g.2)).map f =
      (reportGroups db tenantId s).map f' := by
  rw [List.map_filterMap, ← List.filterMap_eq_map]
  refine List.filterMap_congr fun g hg => ?_
  obtain ⟨first, _, hfirst, hkey⟩ := exists_first hg
  rw [hfirst]
  exact congrArg some (hf g hg first hkey)

/-- A sum over the groups is one over the layers. -/
theorem sum_groups {M : Type} [AddCommMonoid M] (f : Id × ValuationLayer → M) :
    ((reportGroups db tenantId s).map fun g => (g.2.map f).sum).sum =
      s.layers.sum fun id l =>
        if l.tenantId = tenantId ∧ 0 < l.remainingQty then f (id, l) else 0 := by
  have hflat : ((reportGroups db tenantId s).map fun g => (g.2.map f).sum).sum =
      (((reportGroups db tenantId s).flatMap Prod.snd).map f).sum := by
    rw [List.map_flatMap, List.flatMap_def, List.sum_flatten, List.map_map]
    rfl
  have hperm : ((reportGroups db tenantId s).flatMap Prod.snd).Perm
      (s.layers.rows.filter fun r => r.2.tenantId = tenantId ∧ 0 < r.2.remainingQty) :=
    (Groups.flatMap_groupBy_perm _ _).trans (db.orderByCreatedAt_perm _ _)
  rw [hflat, (hperm.map f).sum_eq]
  refine (Table.sum_filter _ fun id l => f (id, l)).trans (Table.sum_congr fun id l _ => ?_)
  simp only [decide_eq_true_eq]

/-- The report in closed form. -/
theorem valuation_eq :
    valuation db tenantId method s =
      { method := method
        totalValue := ((reportGroups db tenantId s).map fun g => worth g.2).sum
        totalUnits := ((reportGroups db tenantId s).map fun g => Lots.total layerSize g.2).sum
        items := (reportGroups db tenantId s).filterMap fun g =>
          g.2.head?.map (groupLine g.2) } := by
  rw [valuation, foldl_addGroup]
  simp only [zero_add, List.nil_append]
  rfl

/-- A line of the report is that of a group. -/
theorem exists_group {line : ValuationLine}
    (hline : line ∈ (valuation db tenantId method s).items) :
    ∃ g ∈ reportGroups db tenantId s, ∃ first ∈ reportedLayers db tenantId s,
      g.2.head? = some first ∧ valuationKey first = g.1 ∧ line = groupLine g.2 first := by
  rw [valuation_eq] at hline
  obtain ⟨g, hg, hmap⟩ := List.mem_filterMap.mp hline
  obtain ⟨first, hreported, hfirst, hkey⟩ := exists_first hg
  rw [hfirst] at hmap
  exact ⟨g, hg, first, hreported, hfirst, hkey, (Option.some.inj hmap).symm⟩

/-- The average of a line is the one that the cost engine calculates, and there is something of
which it is the average. -/
theorem averageCost_groupLine {g : String × List (Id × ValuationLayer)}
    (hg : g ∈ reportGroups db tenantId s) {first : Id × ValuationLayer}
    (hfirst : g.2.head? = some first) (hkey : valuationKey first = g.1) :
    0 < (groupLine g.2 first).totalQuantity ∧ (groupLine g.2 first).averageCost =
      calculateWAC first.2.productId first.2.locationId tenantId s := by
  have hperm := placeLayers_perm hg hkey
  have hne : g.2 ≠ [] := by
    intro hnil
    rw [hnil] at hfirst
    cases hfirst
  have hpos : 0 < Lots.total layerSize g.2 :=
    Lots.total_pos hne fun r hr => availableLayers_pos r (hperm.mem_iff.mp hr)
  have hplace : availableLayers first.2.productId first.2.locationId tenantId s ≠ [] :=
    fun hnil => hne (List.perm_nil.mp (hnil ▸ hperm))
  refine ⟨hpos, ?_⟩
  have htotal : Lots.total layerSize g.2 = Lots.total layerSize
      (availableLayers first.2.productId first.2.locationId tenantId s) := (hperm.map _).sum_eq
  have hvalue : worth g.2 =
      worth (availableLayers first.2.productId first.2.locationId tenantId s) :=
    (hperm.map _).sum_eq
  calc (groupLine g.2 first).averageCost
      = worth g.2 / Lots.total layerSize g.2 := if_pos hpos
    _ = Lots.average layerSize (fun r => r.2.unitCost)
          (availableLayers first.2.productId first.2.locationId tenantId s) := by
        rw [htotal, hvalue, Lots.average]
    _ = calculateWAC first.2.productId first.2.locationId tenantId s :=
        (calculateWAC_eq_average hplace).symm

/-- The places of the lines are pairwise different: their texts are the keys of the groups. -/
theorem places_nodup :
    ((valuation db tenantId method s).items.map fun line =>
      (line.productId, line.locationId)).Nodup := by
  have hkeys : (valuation db tenantId method s).items.map (fun line =>
        toString line.productId ++ ":" ++ toString line.locationId) =
      (reportGroups db tenantId s).map Prod.fst := by
    rw [valuation_eq]
    exact map_items fun g _ first hkey => hkey
  have hnodup := Groups.nodup_keys_groupBy valuationKey (reportedLayers db tenantId s)
  rw [← reportGroups, ← hkeys] at hnodup
  refine List.Nodup.of_map (fun place => toString place.1 ++ ":" ++ toString place.2) ?_
  rw [List.map_map]
  exact hnodup

theorem mem_reportedLayers_iff {r : Id × ValuationLayer} :
    r ∈ reportedLayers db tenantId s ↔
      r ∈ s.layers.rows ∧ r.2.tenantId = tenantId ∧ 0 < r.2.remainingQty := by
  rw [reportedLayers, (db.orderByCreatedAt_perm _ _).mem_iff, List.mem_filter, decide_eq_true_eq]

theorem listed_iff (p l : Id) :
    (∃ line ∈ (valuation db tenantId method s).items,
        line.productId = p ∧ line.locationId = l) ↔
      ∃ r ∈ s.layers.rows, r.2.productId = p ∧ r.2.locationId = l ∧ r.2.tenantId = tenantId ∧
        0 < r.2.remainingQty := by
  constructor
  · rintro ⟨line, hline, rfl, rfl⟩
    obtain ⟨g, _, first, hreported, _, _, rfl⟩ := exists_group hline
    obtain ⟨hrow, htenant, hpos⟩ := mem_reportedLayers_iff.mp hreported
    exact ⟨first, hrow, rfl, rfl, htenant, hpos⟩
  · rintro ⟨r, hrow, rfl, rfl, htenant, hpos⟩
    have hreported : r ∈ reportedLayers db tenantId s :=
      mem_reportedLayers_iff.mpr ⟨hrow, htenant, hpos⟩
    -- the layer has a group, and that group a line
    have hg : (valuationKey r, (reportedLayers db tenantId s).filter
        (valuationKey · = valuationKey r)) ∈ reportGroups db tenantId s :=
      Groups.mem_groupBy_iff.mpr ⟨List.mem_map_of_mem hreported, rfl⟩
    obtain ⟨first, _, hfirst, hkey⟩ := exists_first hg
    obtain ⟨hp, hl⟩ := valuationKey_eq_iff.mp hkey
    rw [valuation_eq]
    exact ⟨_, List.mem_filterMap.mpr ⟨_, hg, congrArg (Option.map _) hfirst⟩, hp, hl⟩

/-- A layer that holds nothing counts for nothing. -/
theorem ite_pos_eq {M : Type} [Zero M] {P : Prop} [Decidable P] {f : ℤ → M} (hf : f 0 = 0) (q : ℤ) :
    (if P ∧ 0 < q then f q else 0) = if P then f (max 0 q) else 0 := by
  by_cases hP : P
  · rcases lt_or_ge 0 q with hpos | hneg
    · rw [if_pos ⟨hP, hpos⟩, if_pos hP, max_eq_right hpos.le]
    · rw [if_neg fun h => absurd h.2 hneg.not_gt, if_pos hP, max_eq_left hneg, hf]
  · rw [if_neg fun h => hP h.1, if_neg hP]

theorem totalUnits_eq :
    (valuation db tenantId method s).totalUnits =
        ((valuation db tenantId method s).items.map ValuationLine.totalQuantity).sum ∧
      (valuation db tenantId method s).totalUnits =
        s.layers.sum fun _ l => if l.tenantId = tenantId then max 0 l.remainingQty else 0 := by
  rw [valuation_eq]
  constructor
  · exact congrArg List.sum (map_items fun g _ first _ => rfl).symm
  · refine (sum_groups layerSize).trans (Table.sum_congr fun id l _ => ?_)
    exact ite_pos_eq (f := fun q => q) rfl l.remainingQty

theorem totalValue_eq :
    (valuation db tenantId method s).totalValue =
        ((valuation db tenantId method s).items.map ValuationLine.totalValue).sum ∧
      (valuation db tenantId method s).totalValue = s.layers.sum fun _ l =>
        if l.tenantId = tenantId then l.unitCost * max 0 (l.remainingQty : ℚ) else 0 := by
  rw [valuation_eq]
  constructor
  · exact congrArg List.sum (map_items fun g _ first _ => rfl).symm
  · refine (sum_groups fun r => r.2.unitCost * layerSize r).trans
      (Table.sum_congr fun id l _ => ?_)
    refine (ite_pos_eq (f := fun q => l.unitCost * (q : ℚ)) (by simp) l.remainingQty).trans ?_
    rw [Int.cast_max, Int.cast_zero]

/-- What a line is worth is what the layers at its place are worth. -/
theorem totalValue_eq_placeValue {line : ValuationLine}
    (hline : line ∈ (valuation db tenantId method s).items) :
    line.totalValue = placeValue tenantId s line.productId line.locationId := by
  obtain ⟨g, hg, first, _, _, hkey, rfl⟩ := exists_group hline
  exact ((placeLayers_perm hg hkey).map fun r =>
    r.2.unitCost * (r.2.remainingQty : ℚ)).sum_eq

end Groups

/-- What `getValuation` answers loses nothing and agrees with the cost engine. -/
theorem valuation_sound (db : Database) (toFixed : ℚ → String) (tenantId : Id)
    (method : PricingMethod) (s : Store) :
    ReportSound toFixed tenantId s (getValuation db toFixed tenantId method s) where
  once := by
    rw [getValuation, List.map_map]
    exact places_nodup
  listed p l := by
    refine Iff.trans ?_ (@listed_iff db tenantId method s p l)
    constructor
    · rintro ⟨dto, hdto, rfl, rfl⟩
      obtain ⟨line, hline, rfl⟩ := List.mem_map.mp hdto
      exact ⟨line, hline, rfl, rfl⟩
    · rintro ⟨line, hline, rfl, rfl⟩
      exact ⟨_, List.mem_map_of_mem hline, rfl, rfl⟩
  layers := by
    intro dto hdto
    obtain ⟨line, hline, rfl⟩ := List.mem_map.mp hdto
    obtain ⟨g, hg, first, _, _, hkey, rfl⟩ := exists_group hline
    have hsent : (ValuationLine.toDto toFixed (groupLine g.2 first)).layers =
        g.2.map (sentLayer toFixed) := List.map_map
    rw [hsent]
    exact (placeLayers_perm hg hkey).map (sentLayer toFixed)
  lineQuantity := by
    intro dto hdto
    obtain ⟨line, hline, rfl⟩ := List.mem_map.mp hdto
    obtain ⟨g, _, first, _, _, _, rfl⟩ := exists_group hline
    simp only [ValuationLine.toDto, groupLine, List.map_map]
    rfl
  lineValue := by
    intro dto hdto
    obtain ⟨line, hline, rfl⟩ := List.mem_map.mp hdto
    exact congrArg toFixed (totalValue_eq_placeValue hline)
  averageCost := by
    intro dto hdto
    obtain ⟨line, hline, rfl⟩ := List.mem_map.mp hdto
    obtain ⟨g, hg, first, _, hfirst, hkey, rfl⟩ := exists_group hline
    obtain ⟨hpos, haverage⟩ := averageCost_groupLine hg hfirst hkey
    exact (if_pos hpos).trans (congrArg toFixed haverage)
  totalUnits := by
    obtain ⟨hlines, hlayers⟩ := @totalUnits_eq db tenantId method s
    refine ⟨hlines.trans ?_, hlayers⟩
    rw [getValuation, List.map_map]
    rfl
  totalValue := by
    obtain ⟨hlines, hlayers⟩ := @totalValue_eq db tenantId method s
    refine ⟨_, rfl, hlines.trans ?_, hlayers⟩
    rw [getValuation, List.map_map]
    exact congrArg List.sum (List.map_congr_left fun line => totalValue_eq_placeValue)

end Invetrixa
