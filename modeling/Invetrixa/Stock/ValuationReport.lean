import Invetrixa.Library.Groups
import Invetrixa.Stock.Valuation

/-!
# The valuation report

`BalanceService.getValuation`: the layers of a tenant that still hold something, by product and
location, with what they hold and are worth. The names that the report repeats are left out.

## Main definitions

- `BalanceService.valuation` — the report in numbers
- `BalanceService.getValuation` — the report as it is sent, its amounts as texts
-/

namespace Invetrixa

open Rowstore

structure ValuationLayerDetail where
  id : Id
  unitCost : ℚ
  remainingQty : ℤ
  value : ℚ
  createdAt : ℕ

/-- A product at a location. -/
structure ValuationLine where
  productId : Id
  locationId : Id
  totalQuantity : ℤ
  totalValue : ℚ
  averageCost : ℚ
  layers : List ValuationLayerDetail

structure ValuationReport where
  method : PricingMethod
  totalValue : ℚ
  totalUnits : ℤ
  items : List ValuationLine

namespace BalanceService

/-- The layers of a tenant that still hold something, the oldest first. -/
def reportedLayers (db : Database) (tenantId : Id) (s : Store) : List (Id × ValuationLayer) :=
  db.orderByCreatedAt .asc
    (s.layers.rows.filter fun r => r.2.tenantId = tenantId ∧ 0 < r.2.remainingQty)

/-- The key under which the report groups layers. -/
def valuationKey (layer : Id × ValuationLayer) : String :=
  toString layer.2.productId ++ ":" ++ toString layer.2.locationId

/-- What a group has come to: its units, its value and the details of its layers. -/
structure GroupTally where
  totalQty : ℤ
  totalValue : ℚ
  layerDetails : List ValuationLayerDetail

/-- One turn of the loop over the layers of a group. -/
def tallyLayer (tally : GroupTally) (l : Id × ValuationLayer) : GroupTally :=
  let value := l.2.unitCost * l.2.remainingQty
  { totalQty := tally.totalQty + l.2.remainingQty
    totalValue := tally.totalValue + value
    layerDetails := tally.layerDetails ++
      [{ id := l.1
         unitCost := l.2.unitCost
         remainingQty := l.2.remainingQty
         value
         createdAt := l.2.createdAt }] }

/-- One turn of the loop over the groups; there is a first layer in each. -/
def addGroup (report : ValuationReport) (group : String × List (Id × ValuationLayer)) :
    ValuationReport :=
  match group.2 with
  | [] => report
  | first :: rest =>
    let tally := (first :: rest).foldl tallyLayer ⟨0, 0, []⟩
    { report with
      totalValue := report.totalValue + tally.totalValue
      totalUnits := report.totalUnits + tally.totalQty
      items := report.items ++
        [{ productId := first.2.productId
           locationId := first.2.locationId
           totalQuantity := tally.totalQty
           totalValue := tally.totalValue
           averageCost := if 0 < tally.totalQty then tally.totalValue / tally.totalQty else 0
           layers := tally.layerDetails }] }

/-- The report in numbers. -/
def valuation (db : Database) (tenantId : Id) (method : PricingMethod) (s : Store) :
    ValuationReport :=
  (Groups.groupBy valuationKey (reportedLayers db tenantId s)).foldl addGroup ⟨method, 0, 0, []⟩

end BalanceService

structure ValuationLayerDetailDto where
  id : Id
  unitCost : String
  remainingQty : ℤ
  value : String
  createdAt : ℕ

structure ValuationLineDto where
  productId : Id
  locationId : Id
  totalQuantity : ℤ
  totalValue : String
  averageCost : String
  layers : List ValuationLayerDetailDto

structure ValuationReportDto where
  method : PricingMethod
  totalValue : String
  totalUnits : ℤ
  items : List ValuationLineDto

/-- An amount as it is sent is the text that `toFixed(4)` makes of it. -/
def ValuationLine.toDto (toFixed : ℚ → String) (line : ValuationLine) : ValuationLineDto where
  productId := line.productId
  locationId := line.locationId
  totalQuantity := line.totalQuantity
  totalValue := toFixed line.totalValue
  averageCost := if 0 < line.totalQuantity then toFixed line.averageCost else "0.0000"
  layers := line.layers.map fun l =>
    ⟨l.id, toFixed l.unitCost, l.remainingQty, toFixed l.value, l.createdAt⟩

def BalanceService.getValuation (db : Database) (toFixed : ℚ → String) (tenantId : Id)
    (method : PricingMethod) (s : Store) : ValuationReportDto :=
  let report := valuation db tenantId method s
  { method := report.method
    totalValue := toFixed report.totalValue
    totalUnits := report.totalUnits
    items := report.items.map (ValuationLine.toDto toFixed) }

end Invetrixa
