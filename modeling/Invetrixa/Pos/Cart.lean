import Invetrixa.Pos.Sale
import Invetrixa.Stock.Reservation

/-!
# Carts

`CartService`: a cart is a draft sale whose items are covered by reservations. A method calls
the reservation service and then writes the items in a transaction of its own, so that a failure
on the way leaves what was already committed; the methods therefore return the store beside the
answer.

## Main definitions

- `CartService.createCart`, `addItem`, `updateItem`, `removeItem`
-/

namespace Invetrixa

open Rowstore Requests ReservationService

namespace CartService

structure CreateCartDto where
  locationId : Id
  terminalId : Option Id
  customerId : Option Id
  sessionId : Option Id

/-- The row of an empty cart. -/
def newCart (clock : Clock) (tenantId : Id) (saleNumber : String) (dto : CreateCartDto) : Sale where
  saleNumber := saleNumber
  subtotal := 0
  discountAmount := 0
  taxAmount := 0
  totalAmount := 0
  paidAmount := 0
  changeAmount := 0
  status := .draft
  locationId := dto.locationId
  terminalId := dto.terminalId
  customerId := dto.customerId
  sessionId := dto.sessionId
  tenantId := tenantId
  createdAt := clock.time

def createCart (clock : Clock) (tenantId : Id) (dto : CreateCartDto) (s : Store) :
    Except HttpError (Id × Store) :=
  insertSale (newCart clock tenantId (generateSaleNumber clock tenantId s) dto) s

def getCartOrThrow (tenantId cartId : Id) (s : Store) : Except HttpError Sale :=
  match s.sales.find? cartId with
  | some cart =>
    if cart.tenantId = tenantId ∧ cart.status = .draft then .ok cart
    else .error (.notFound "Cart not found")
  | none => .error (.notFound "Cart not found")

/-- The totals of a cart from its items; the discount on the cart is kept. -/
def recalculateCart (db : Database) (cartId : Id) (s : Store) : Except HttpError Store := do
  let items := s.itemsOf cartId
  let globalDiscount := ((s.sales.find? cartId).map Sale.discountAmount).getD 0
  let subtotal := (items.map fun r => r.2.lineTotal).sum
  let taxAmount := 0
  let totalAmount := subtotal - globalDiscount + taxAmount
  let subtotal ← db.decimalColumn 15 subtotal
  let totalAmount ← db.decimalColumn 15 totalAmount
  updateSale cartId (fun sale => { sale with subtotal, totalAmount }) s

/-- `saleItem.update` -/
def updateSaleItem (id : Id) (f : SaleItem → SaleItem) (s : Store) : Except HttpError Store :=
  match s.saleItems.find? id with
  | none => .error recordNotFound
  | some _ => .ok { s with saleItems := s.saleItems.modify id f }

/-- `saleItem.create` -/
def createSaleItem (item : SaleItem) (s : Store) : Except HttpError Store :=
  match s.sales.find? item.saleId with
  | none => .error invalidReference
  | some _ => .ok { s with saleItems := s.saleItems.create item }

/-- `saleItem.delete` -/
def deleteSaleItem (id : Id) (s : Store) : Except HttpError Store :=
  match s.saleItems.find? id with
  | none => .error recordNotFound
  | some _ => .ok { s with saleItems := s.saleItems.deleteWhere fun k _ => k = id }

/-- The reservation a cart makes for a quantity of a product: for half an hour. -/
def cartReservation (clock : Clock) (cartId locationId productId : Id) (quantity : ℚ) :
    CreateReservationDto where
  productId := productId
  locationId := locationId
  quantity := quantity
  expiresAt := clock.time + 30 * 60 * 1000
  referenceType := some "SALE"
  referenceId := some (.id cartId)

structure AddCartItemDto where
  productId : Id
  quantity : ℚ
  unitPrice : Option ℚ
  discountAmount : Option ℚ
  notes : Option String

/-- What `addItem` reads and checks before it reserves. -/
def readAddItem (tenantId cartId : Id) (dto : AddCartItemDto) (s : Store) :
    Except HttpError (Sale × Product) := do
  let cart ← getCartOrThrow tenantId cartId s
  match SaleService.loadedProduct tenantId dto.productId s with
  | none => .error (.notFound "Product not found")
  | some product => return (cart, product)

/-- The item of the product that is already in the cart. -/
def findExistingItem (cartId productId : Id) (s : Store) : Option (Id × SaleItem) :=
  (s.itemsOf cartId).find? fun r => r.2.productId = productId

/-- The last transaction of `addItem`, with the existing item as it was read before. The line is
computed with numbers, and its columns may refuse what it comes to. -/
def commitAddItem (db : Database) (cartId : Id) (dto : AddCartItemDto) (product : Product)
    (existingItem : Option (Id × SaleItem)) (s : Store) : Except HttpError (Unit × Store) := do
  match existingItem with
  | some (itemId, item) =>
    let newQty := item.quantity + dto.quantity
    let newTotal := db.lineTotal item.unitPrice item.discountAmount newQty
    let quantity ← int4Column newQty
    let lineTotal ← db.decimalColumn 15 newTotal
    let s ← updateSaleItem itemId (fun i => { i with quantity, lineTotal }) s
    let s ← recalculateCart db cartId s
    return ((), s)
  | none =>
    let unitPrice := dto.unitPrice.getD (product.minSellingPrice.getD 0)
    let discountAmount := dto.discountAmount.getD 0
    let lineTotal := db.lineTotal unitPrice discountAmount dto.quantity
    let quantity ← int4Column dto.quantity
    let unitPrice ← db.decimalColumn 15 (db.amount unitPrice)
    let discountAmount ← db.decimalColumn 15 (db.amount discountAmount)
    let lineTotal ← db.decimalColumn 15 lineTotal
    let _ ← textColumn dto.notes
    let s ← createSaleItem
      { saleId := cartId
        productId := dto.productId
        quantity
        unitPrice
        unitCost := 0
        discountAmount
        lineTotal } s
    let s ← recalculateCart db cartId s
    return ((), s)

def addItem (db : Database) (clock : Clock) (tenantId cartId : Id) (dto : AddCartItemDto)
    (s : Store) : Except HttpError Unit × Store :=
  match readAddItem tenantId cartId dto s with
  | .error e => (.error e, s)
  | .ok (cart, product) =>
    match transaction (ReservationService.create clock tenantId
      (cartReservation clock cartId cart.locationId dto.productId dto.quantity)) s with
    | (.error e, s) => (.error e, s)
    | (.ok _, s) =>
      transaction (commitAddItem db cartId dto product (findExistingItem cartId dto.productId s)) s

/-- Release reservations one after another, up to the first failure. -/
def releaseEach (tenantId : Id) : List Id → Store → Except HttpError Unit × Store
  | [], s => (.ok (), s)
  | id :: rest, s =>
    match transaction (release tenantId id) s with
    | (.error e, s) => (.error e, s)
    | (.ok _, s) => releaseEach tenantId rest s

/-- The active reservations of a cart for one product. -/
def cartReservations (tenantId cartId productId : Id) (s : Store) : List Id :=
  (s.reservations.rows.filter fun r => SaleService.isReservationOf cartId r.2 ∧
    r.2.tenantId = tenantId ∧ r.2.productId = productId).map Prod.fst

def releaseReservations (tenantId cartId productId : Id) (s : Store) :
    Except HttpError Unit × Store :=
  releaseEach tenantId (cartReservations tenantId cartId productId s) s

/-- `findFirst` of an item of a cart. -/
def findItem (cartId itemId : Id) (message : String) (s : Store) : Except HttpError SaleItem :=
  match s.saleItems.find? itemId with
  | some item => if item.saleId = cartId then .ok item else .error (.notFound message)
  | none => .error (.notFound message)

structure UpdateCartItemDto where
  quantity : ℚ
  unitPrice : Option ℚ
  discountAmount : Option ℚ
  notes : Option String

/-- What `updateItem` reads and checks before it gives the old reservations back. -/
def readUpdateItem (tenantId cartId itemId : Id) (s : Store) : Except HttpError (Sale × SaleItem) :=
  do
  let cart ← getCartOrThrow tenantId cartId s
  let item ← findItem cartId itemId "Item not found in cart" s
  return (cart, item)

/-- The last transaction of `updateItem`. -/
def commitUpdateItem (db : Database) (cartId itemId : Id) (dto : UpdateCartItemDto)
    (item : SaleItem) (s : Store) : Except HttpError (Unit × Store) := do
  let unitPrice := dto.unitPrice.getD item.unitPrice
  let discountAmount := dto.discountAmount.getD item.discountAmount
  let lineTotal := db.lineTotal unitPrice discountAmount dto.quantity
  let quantity ← int4Column dto.quantity
  let unitPrice ← db.decimalColumn 15 (db.amount unitPrice)
  let discountAmount ← db.decimalColumn 15 (db.amount discountAmount)
  let lineTotal ← db.decimalColumn 15 lineTotal
  let _ ← textColumn dto.notes
  let s ← updateSaleItem itemId (fun i =>
    { i with quantity, unitPrice, discountAmount, lineTotal }) s
  let s ← recalculateCart db cartId s
  return ((), s)

def updateItem (db : Database) (clock : Clock) (tenantId cartId itemId : Id)
    (dto : UpdateCartItemDto) (s : Store) : Except HttpError Unit × Store :=
  match readUpdateItem tenantId cartId itemId s with
  | .error e => (.error e, s)
  | .ok (cart, item) =>
    match releaseReservations tenantId cartId item.productId s with
    | (.error e, s) => (.error e, s)
    | (.ok _, s) =>
      match transaction (ReservationService.create clock tenantId
        (cartReservation clock cartId cart.locationId item.productId dto.quantity)) s with
      | (.error e, s) => (.error e, s)
      | (.ok _, s) => transaction (commitUpdateItem db cartId itemId dto item) s

/-- What `removeItem` reads and checks before it gives the reservations back. -/
def readRemoveItem (tenantId cartId itemId : Id) (s : Store) : Except HttpError SaleItem := do
  let _ ← getCartOrThrow tenantId cartId s
  findItem cartId itemId "Item not found" s

/-- The last transaction of `removeItem`. -/
def commitRemoveItem (db : Database) (cartId itemId : Id) (s : Store) :
    Except HttpError (Unit × Store) := do
  let s ← deleteSaleItem itemId s
  let s ← recalculateCart db cartId s
  return ((), s)

def removeItem (db : Database) (tenantId cartId itemId : Id) (s : Store) :
    Except HttpError Unit × Store :=
  match readRemoveItem tenantId cartId itemId s with
  | .error e => (.error e, s)
  | .ok item =>
    match releaseReservations tenantId cartId item.productId s with
    | (.error e, s) => (.error e, s)
    | (.ok _, s) => transaction (commitRemoveItem db cartId itemId) s

end CartService

end Invetrixa
