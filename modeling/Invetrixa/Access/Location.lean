import Invetrixa.Library.Cascade
import Invetrixa.Schema

/-!
# What hangs on a location

`LocationService.remove` over all tables that refer to a location, at one remove or more, and the
foreign keys that the schema declares between them. Of the rows only the ids they hold are kept;
rows of tenants, users, customers and products do not go with a location, so neither do their
foreign keys matter here.

## Main definitions

- `locationSchema` — the foreign keys
- `LocationRecords.remove`
-/

namespace Invetrixa

open Rowstore Cascade

inductive Model
  | location | address | userAssignment
  | inventoryBalance | valuationLayer | valuationLayerConsumption | stockMovement
  | stockTransfer | stockTransferItem | stockReservation
  | posTerminal | posSession | sale | saleItem | salePayment | saleRefund | dailySalesSummary
  | invoice | invoiceItem | invoicePayment
  deriving DecidableEq

inductive IdColumn
  | tenantId | locationId | fromLocationId | toLocationId | transferId | sourceMovementId
  | valuationLayerId | stockMovementId | terminalId | sessionId | saleId | invoiceId
  | sourceDocumentId | convertedToSaleId
  deriving DecidableEq

/-- The foreign keys of the schema. Where a relation does not say what a delete does, an optional
field is set to null and a required one restricts. -/
def locationSchema : List (ForeignKey Model IdColumn) :=
  [⟨.address, .locationId, .location, .cascade⟩,
   ⟨.userAssignment, .locationId, .location, .cascade⟩,
   ⟨.inventoryBalance, .locationId, .location, .cascade⟩,
   ⟨.valuationLayer, .locationId, .location, .cascade⟩,
   ⟨.valuationLayer, .sourceMovementId, .stockMovement, .setNull⟩,
   ⟨.valuationLayerConsumption, .valuationLayerId, .valuationLayer, .cascade⟩,
   ⟨.valuationLayerConsumption, .stockMovementId, .stockMovement, .cascade⟩,
   ⟨.stockMovement, .locationId, .location, .cascade⟩,
   ⟨.stockMovement, .transferId, .stockTransfer, .setNull⟩,
   ⟨.stockTransfer, .fromLocationId, .location, .cascade⟩,
   ⟨.stockTransfer, .toLocationId, .location, .cascade⟩,
   ⟨.stockTransferItem, .transferId, .stockTransfer, .cascade⟩,
   ⟨.stockReservation, .locationId, .location, .cascade⟩,
   ⟨.posTerminal, .locationId, .location, .cascade⟩,
   ⟨.posSession, .terminalId, .posTerminal, .cascade⟩,
   ⟨.sale, .locationId, .location, .cascade⟩,
   ⟨.sale, .terminalId, .posTerminal, .setNull⟩,
   ⟨.sale, .sessionId, .posSession, .setNull⟩,
   ⟨.saleItem, .saleId, .sale, .cascade⟩,
   ⟨.salePayment, .saleId, .sale, .cascade⟩,
   ⟨.saleRefund, .saleId, .sale, .restrict⟩,
   ⟨.dailySalesSummary, .locationId, .location, .cascade⟩,
   ⟨.invoice, .locationId, .location, .cascade⟩,
   ⟨.invoice, .sourceDocumentId, .invoice, .setNull⟩,
   ⟨.invoice, .convertedToSaleId, .sale, .setNull⟩,
   ⟨.invoiceItem, .invoiceId, .invoice, .cascade⟩,
   ⟨.invoicePayment, .invoiceId, .invoice, .cascade⟩]

/-- The tables, none of whose rows refers to a row that is not there. -/
abbrev LocationRecords := Consistent locationSchema

namespace LocationRecords

/-- The rows of a model that hold an id in a field (`_count`). -/
def count (model : Model) (field : IdColumn) (id : Id) (s : LocationRecords) : ℕ :=
  s.table.rows.countP fun r => r.1.1 = model ∧ r.2 field = some id

def readRemove (tenantId id : Id) (s : LocationRecords) : Except HttpError Unit :=
  match (s.table.find? (.location, id)).filter fun l => l .tenantId = some tenantId with
  | none => .error (.notFound "Location not found.")
  | some _ =>
    if 0 < s.count .inventoryBalance .locationId id ∨ 0 < s.count .stockMovement .locationId id ∨
        0 < s.count .stockReservation .locationId id then
      .error (.conflict
        "Cannot delete location with existing stock data. Move or delete stock first.")
    else .ok ()

/-- `location.delete` -/
def commitRemove (id : Id) (s : LocationRecords) : Except HttpError LocationRecords :=
  match s.delete (.location, id) with
  | .ok s' => .ok s'
  | .error .missing => .error recordNotFound
  | .error .restricted => .error invalidReference

def remove (tenantId id : Id) (s : LocationRecords) : Except HttpError LocationRecords := do
  readRemove tenantId id s
  commitRemove id s

end LocationRecords

end Invetrixa
