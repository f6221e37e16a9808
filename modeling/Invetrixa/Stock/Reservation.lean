import Invetrixa.Stock.Movement

/-!
# Stock reservations

`ReservationService` and the expiry job of `ReservationQueueProcessor`. Each reads the
reservation or the balance with the plain client, checks it, and then writes in a transaction
whatever the rows have become; the two halves are functions of their own.

## Main definitions

- `ReservationService.create`, `update`, `release`
- `ReservationQueueProcessor.process`
-/

namespace Invetrixa

open Rowstore

/-- The status in lower case, as the messages have it. -/
def ReservationStatus.lowerText : ReservationStatus → String
  | .active => "active"
  | .released => "released"
  | .fulfilled => "fulfilled"
  | .expired => "expired"

/-- `stockReservation.update` -/
def updateReservation (id : Id) (f : StockReservation → StockReservation) (s : Store) :
    Except HttpError Store :=
  match s.reservations.find? id with
  | none => .error recordNotFound
  | some _ => .ok { s with reservations := s.reservations.modify id f }

/-- `inventoryBalance.update` of the reserved quantity by an increment. -/
def incrementReserved (productId locationId : Id) (by_ : ℤ) (s : Store) :
    Except HttpError Store :=
  match s.balances.find? (productId, locationId) with
  | none => .error recordNotFound
  | some _ => .ok
    { s with
      balances := s.balances.modify (productId, locationId) fun b =>
        { b with reservedQuantity := b.reservedQuantity + by_ } }

namespace ReservationService

structure CreateReservationDto where
  productId : Id
  locationId : Id
  quantity : ℚ
  expiresAt : ℕ
  referenceType : Option String
  referenceId : Option Reference

/-- What `create` reads and checks. -/
def readCreate (clock : Clock) (tenantId : Id) (dto : CreateReservationDto) (s : Store) :
    Except HttpError Unit :=
  match s.products.find? dto.productId with
  | none => .error (.notFound "Product not found")
  | some product =>
    if ¬(product.tenantId = tenantId ∧ product.deletedAt = none) then
      .error (.notFound "Product not found")
    else if (s.locations.find? dto.locationId).map Location.tenantId ≠ some tenantId then
      .error (.notFound "Location not found")
    else
      let onHand := s.onHand dto.productId dto.locationId
      let reserved := s.reserved dto.productId dto.locationId
      let available := onHand - reserved
      if (available : ℚ) < dto.quantity then
        .error (.badRequest ("Insufficient available stock. On-hand: " ++ toString onHand ++
          ", Reserved: " ++ toString reserved ++ ", Available: " ++ toString available ++
          ", Requested: " ++ toString dto.quantity))
      else if dto.expiresAt ≤ clock.time then
        .error (.badRequest "Expiration date must be in the future")
      else .ok ()

/-- An active reservation and its share of the balance. -/
def reserve (reservation : StockReservation) (s : Store) : Store :=
  { s with
    reservations := s.reservations.create reservation
    balances := s.balances.upsert (reservation.productId, reservation.locationId)
      { tenantId := reservation.tenantId
        onHandQuantity := 0
        reservedQuantity := reservation.quantity }
      fun b => { b with reservedQuantity := b.reservedQuantity + reservation.quantity } }

/-- The row that `create` inserts. -/
def newReservation (tenantId : Id) (dto : CreateReservationDto) (quantity : ℤ) :
    StockReservation where
  quantity := quantity
  expiresAt := dto.expiresAt
  status := .active
  referenceType := dto.referenceType
  referenceId := dto.referenceId
  productId := dto.productId
  locationId := dto.locationId
  tenantId := tenantId

/-- The transaction of `create`. -/
def commitCreate (tenantId : Id) (dto : CreateReservationDto) (s : Store) :
    Except HttpError (Id × Store) := do
  let quantity ← intColumn dto.quantity
  return (s.reservations.next, reserve (newReservation tenantId dto quantity) s)

def create (clock : Clock) (tenantId : Id) (dto : CreateReservationDto) (s : Store) :
    Except HttpError (Id × Store) := do
  readCreate clock tenantId dto s
  commitCreate tenantId dto s

structure UpdateReservationDto where
  quantity : Option ℤ
  expiresAt : Option ℕ
  referenceType : Option String
  referenceId : Option Reference

/-- No field is given, or only falsy ones. -/
def UpdateReservationDto.isEmpty (dto : UpdateReservationDto) : Bool :=
  dto.quantity.getD 0 = 0 ∧ dto.expiresAt = none ∧ dto.referenceType.getD "" = "" ∧
    dto.referenceId.getD (.text "") = .text ""

/-- `findFirst` by id and tenant. -/
def findReservation (tenantId id : Id) (s : Store) : Except HttpError StockReservation :=
  match s.reservations.find? id with
  | some reservation =>
    if reservation.tenantId = tenantId then .ok reservation
    else .error (.notFound "Reservation not found")
  | none => .error (.notFound "Reservation not found")

/-- What `update` reads and checks. -/
def readUpdate (clock : Clock) (tenantId id : Id) (dto : UpdateReservationDto) (s : Store) :
    Except HttpError StockReservation := do
  if dto.isEmpty then .error (.badRequest "At least one field must be provided for update")
  else
    let reservation ← findReservation tenantId id s
    if reservation.status ≠ .active then
      .error (.badRequest ("Cannot update " ++ reservation.status.lowerText ++ " reservation"))
    else if dto.expiresAt.any (· ≤ clock.time) then
      .error (.badRequest "Expiration date must be in the future")
    else return reservation

/-- The columns that `update` writes. -/
def updateData (dto : UpdateReservationDto) (r : StockReservation) : StockReservation :=
  { r with
    quantity := dto.quantity.getD r.quantity
    expiresAt := dto.expiresAt.getD r.expiresAt
    referenceType := dto.referenceType <|> r.referenceType
    referenceId := dto.referenceId <|> r.referenceId }

/-- The difference to the quantity that was read. -/
def quantityDiff (dto : UpdateReservationDto) (reservation : StockReservation) : ℤ :=
  match dto.quantity with
  | some quantity => quantity - reservation.quantity
  | none => 0

/-- The transaction of `update`. An increase is checked against the balance of the moment; the
status of the reservation is not read again. -/
def commitUpdate (id : Id) (dto : UpdateReservationDto) (reservation : StockReservation)
    (s : Store) : Except HttpError (Unit × Store) := do
  let available := s.onHand reservation.productId reservation.locationId -
    s.reserved reservation.productId reservation.locationId
  if quantityDiff dto reservation > 0 ∧ available < quantityDiff dto reservation then
    .error (.badRequest ("Insufficient available stock. Available: " ++ toString available ++
      ", Additional requested: " ++ toString (quantityDiff dto reservation)))
  else
    let s ← updateReservation id (updateData dto) s
    if quantityDiff dto reservation ≠ 0 then
      let s ← incrementReserved reservation.productId reservation.locationId
        (quantityDiff dto reservation) s
      return ((), s)
    else return ((), s)

def update (clock : Clock) (tenantId id : Id) (dto : UpdateReservationDto) (s : Store) :
    Except HttpError (Unit × Store) := do
  let reservation ← readUpdate clock tenantId id dto s
  commitUpdate id dto reservation s

/-- What `release` reads and checks. -/
def readRelease (tenantId id : Id) (s : Store) : Except HttpError StockReservation := do
  let reservation ← findReservation tenantId id s
  if reservation.status ≠ .active then
    .error (.badRequest ("Cannot release " ++ reservation.status.lowerText ++ " reservation"))
  else return reservation

/-- Take a reservation out of the active ones and give its quantity, as it was read, back. -/
def close (id : Id) (status : ReservationStatus) (reservation : StockReservation) (s : Store) :
    Except HttpError (Unit × Store) := do
  let s ← updateReservation id (fun r => { r with status }) s
  let s ← incrementReserved reservation.productId reservation.locationId (-reservation.quantity) s
  return ((), s)

/-- The transaction of `release`. -/
def commitRelease (id : Id) (reservation : StockReservation) (s : Store) :
    Except HttpError (Unit × Store) :=
  close id .released reservation s

def release (tenantId id : Id) (s : Store) : Except HttpError (Unit × Store) := do
  let reservation ← readRelease tenantId id s
  commitRelease id reservation s

end ReservationService

namespace ReservationQueueProcessor

open ReservationService

/-- The reservation that the expiry job reads, if it is still active and has expired. -/
def readProcess (clock : Clock) (tenantId reservationId : Id) (s : Store) :
    Option StockReservation :=
  (s.reservations.find? reservationId).filter fun reservation =>
    reservation.tenantId = tenantId ∧ reservation.status = .active ∧
      ¬clock.time < reservation.expiresAt

/-- The transaction of the expiry job. -/
def commitProcess (reservationId : Id) (reservation : StockReservation) (s : Store) :
    Except HttpError (Unit × Store) :=
  close reservationId .expired reservation s

/-- The expiry job. -/
def process (clock : Clock) (tenantId reservationId : Id) (s : Store) :
    Except HttpError (Unit × Store) :=
  match readProcess clock tenantId reservationId s with
  | none => .ok ((), s)
  | some reservation => commitProcess reservationId reservation s

end ReservationQueueProcessor

end Invetrixa
