import Invetrixa.Stock.Transfer
import Invetrixa.Stock.Reservation
import Invetrixa.Pos.Cart
import Invetrixa.Pos.Session
import Invetrixa.Pos.Refund
import Invetrixa.Pos.CartCleanup

/-!
# The server

Every request and job that writes stock, reservations or sales, as one function on the store,
and the stores that a sequence of them can reach.

## Main definitions

- `Request`, `Request.Valid` — the requests, and what the validation of their bodies lets pass
- `handle` — the answer to a request and the store after it
- `Reachable` — the stores reached from an empty one
- `serveAll`, `Catalogue.shop` — lists of requests, and a shop to send them to
-/

namespace Invetrixa

open Rowstore Requests MovementService TransferService ReservationService CartService RefundService

/-- The requests of the stock and point-of-sale controllers and the two background jobs. -/
inductive Request
  | stockIn (tenantId : Id) (dto : BulkStockInDto)
  | stockReturn (tenantId : Id) (dto : BulkStockInDto)
  | stockOut (tenantId : Id) (dto : BulkStockOutDto)
  | adjust (tenantId : Id) (dto : BulkStockAdjustDto)
  | createTransfer (tenantId : Id) (dto : CreateTransferDto)
  | shipTransfer (tenantId id : Id)
  | receiveTransfer (tenantId id : Id) (items : List ReceiveItemDto)
  | cancelTransfer (tenantId id : Id)
  | createReservation (tenantId : Id) (dto : CreateReservationDto)
  | updateReservation (tenantId id : Id) (dto : UpdateReservationDto)
  | releaseReservation (tenantId id : Id)
  | expireReservation (tenantId id : Id)
  | createCart (tenantId : Id) (dto : CreateCartDto)
  | addCartItem (tenantId cartId : Id) (dto : AddCartItemDto)
  | updateCartItem (tenantId cartId itemId : Id) (dto : UpdateCartItemDto)
  | removeCartItem (tenantId cartId itemId : Id)
  | createSale (tenantId : Id) (dto : SaleService.CreateSaleDto)
  | completeSale (tenantId saleId : Id) (payments : List PaymentDto)
  | voidSale (tenantId saleId : Id)
  | createRefund (tenantId saleId : Id) (dto : CreateRefundDto)
  | openSession (tenantId : Id) (dto : SessionService.OpenSessionDto)
  | closeSession (tenantId sessionId : Id) (dto : SessionService.CloseSessionDto)
  | cleanupCarts

abbrev BulkStockInDto.Valid (dto : BulkStockInDto) : Prop :=
  ∀ item ∈ dto.items, 1 ≤ item.quantity ∧ 0 ≤ item.unitCost

abbrev BulkStockOutDto.Valid (dto : BulkStockOutDto) : Prop := ∀ item ∈ dto.items, 1 ≤ item.2

abbrev BulkStockAdjustDto.Valid (dto : BulkStockAdjustDto) : Prop :=
  ∀ item ∈ dto.items, item.quantity ≠ 0 ∧ 0 ≤ item.unitCost.getD 0

abbrev CreateTransferDto.Valid (dto : CreateTransferDto) : Prop :=
  dto.items.length ≠ 0 ∧ ∀ item ∈ dto.items, 1 ≤ item.requestedQuantity

/-- The constraints on the items of a `ReceiveTransferDto`. -/
abbrev ReceiveItemsValid (items : List ReceiveItemDto) : Prop :=
  items.length ≠ 0 ∧ ∀ item ∈ items, 0 ≤ item.receivedQuantity

abbrev CreateReservationDto.Valid (dto : CreateReservationDto) : Prop :=
  dto.quantity.den = 1 ∧ 1 ≤ dto.quantity

abbrev UpdateReservationDto.Valid (dto : UpdateReservationDto) : Prop := 1 ≤ dto.quantity.getD 1

abbrev AddCartItemDto.Valid (dto : AddCartItemDto) : Prop :=
  1 ≤ dto.quantity ∧ 0 ≤ dto.unitPrice.getD 0 ∧ 0 ≤ dto.discountAmount.getD 0

abbrev UpdateCartItemDto.Valid (dto : UpdateCartItemDto) : Prop :=
  1 ≤ dto.quantity ∧ 0 ≤ dto.unitPrice.getD 0 ∧ 0 ≤ dto.discountAmount.getD 0

abbrev CreateSaleDto.Valid (dto : SaleService.CreateSaleDto) : Prop :=
  (∀ item ∈ dto.items, 1 / 10000 ≤ item.quantity ∧ 0 ≤ item.unitPrice.getD 0 ∧
    0 ≤ item.discountAmount.getD 0) ∧
  (∀ payment ∈ dto.payments, 1 / 100 ≤ payment.amount) ∧ 0 ≤ dto.discountAmount.getD 0

/-- The constraints on the payments of a `CompleteSaleDto`. -/
abbrev PaymentsValid (payments : List PaymentDto) : Prop := ∀ payment ∈ payments, 0 ≤ payment.amount

abbrev CreateRefundDto.Valid (dto : CreateRefundDto) : Prop :=
  0 ≤ dto.amount ∧ ∀ item ∈ dto.items.getD [], 1 ≤ item.quantity

/-- The body passes the validation of its DTO. -/
def Request.Valid : Request → Prop
  | .stockIn _ dto => BulkStockInDto.Valid dto
  | .stockReturn _ dto => BulkStockInDto.Valid dto
  | .stockOut _ dto => BulkStockOutDto.Valid dto
  | .adjust _ dto => BulkStockAdjustDto.Valid dto
  | .createTransfer _ dto => CreateTransferDto.Valid dto
  | .receiveTransfer _ _ items => ReceiveItemsValid items
  | .createReservation _ dto => CreateReservationDto.Valid dto
  | .updateReservation _ _ dto => UpdateReservationDto.Valid dto
  | .addCartItem _ _ dto => AddCartItemDto.Valid dto
  | .updateCartItem _ _ _ dto => UpdateCartItemDto.Valid dto
  | .createSale _ dto => CreateSaleDto.Valid dto
  | .completeSale _ _ payments => PaymentsValid payments
  | .createRefund _ _ dto => CreateRefundDto.Valid dto
  | .openSession _ dto => 0 ≤ dto.openingBalance
  | .closeSession _ _ dto => 0 ≤ dto.closingBalance
  | _ => True

instance : DecidablePred Request.Valid
  | .stockIn _ dto | .stockReturn _ dto => inferInstanceAs (Decidable (BulkStockInDto.Valid dto))
  | .stockOut _ dto => inferInstanceAs (Decidable (BulkStockOutDto.Valid dto))
  | .adjust _ dto => inferInstanceAs (Decidable (BulkStockAdjustDto.Valid dto))
  | .createTransfer _ dto => inferInstanceAs (Decidable (CreateTransferDto.Valid dto))
  | .receiveTransfer _ _ items => inferInstanceAs (Decidable (ReceiveItemsValid items))
  | .createReservation _ dto => inferInstanceAs (Decidable (CreateReservationDto.Valid dto))
  | .updateReservation _ _ dto => inferInstanceAs (Decidable (UpdateReservationDto.Valid dto))
  | .addCartItem _ _ dto => inferInstanceAs (Decidable (AddCartItemDto.Valid dto))
  | .updateCartItem _ _ _ dto => inferInstanceAs (Decidable (UpdateCartItemDto.Valid dto))
  | .createSale _ dto => inferInstanceAs (Decidable (CreateSaleDto.Valid dto))
  | .completeSale _ _ payments => inferInstanceAs (Decidable (PaymentsValid payments))
  | .createRefund _ _ dto => inferInstanceAs (Decidable (CreateRefundDto.Valid dto))
  | .openSession _ dto => inferInstanceAs (Decidable (0 ≤ dto.openingBalance))
  | .closeSession _ _ dto => inferInstanceAs (Decidable (0 ≤ dto.closingBalance))
  | .shipTransfer _ _ | .cancelTransfer _ _ | .releaseReservation _ _ | .expireReservation _ _
  | .createCart _ _ | .removeCartItem _ _ _ | .voidSale _ _ | .cleanupCarts => isTrue trivial

/-- The answer without its body. -/
def answer {α : Type} (x : Except HttpError α × Store) : Except HttpError Unit × Store :=
  (x.1.map fun _ => (), x.2)

/-- A request whose body is valid, on the service that serves it. -/
def serve (db : Database) (clock : Clock) : Request → Store → Except HttpError Unit × Store
  | .stockIn tenantId dto, s => answer (transaction (stockIn db clock tenantId dto) s)
  | .stockReturn tenantId dto, s => answer
      (transaction (stockIn db clock tenantId { dto with referenceType := some .return }) s)
  | .stockOut tenantId dto, s => answer (transaction (fun s => stockOut db tenantId dto s s) s)
  | .adjust tenantId dto, s => answer (transaction (adjust db clock tenantId dto) s)
  | .createTransfer tenantId dto, s => answer (TransferService.create db clock tenantId dto s)
  | .shipTransfer tenantId id, s => answer (transaction (ship db clock tenantId id) s)
  | .receiveTransfer tenantId id items, s =>
      answer (transaction (receive db clock tenantId id items) s)
  | .cancelTransfer tenantId id, s => answer (transaction (cancel db clock tenantId id) s)
  | .createReservation tenantId dto, s =>
      answer (transaction (ReservationService.create clock tenantId dto) s)
  | .updateReservation tenantId id dto, s => answer (transaction (update clock tenantId id dto) s)
  | .releaseReservation tenantId id, s => answer (transaction (release tenantId id) s)
  | .expireReservation tenantId id, s =>
      answer (transaction (ReservationQueueProcessor.process clock tenantId id) s)
  | .createCart tenantId dto, s => answer (transaction (createCart clock tenantId dto) s)
  | .addCartItem tenantId cartId dto, s => addItem db clock tenantId cartId dto s
  | .updateCartItem tenantId cartId itemId dto, s =>
      updateItem db clock tenantId cartId itemId dto s
  | .removeCartItem tenantId cartId itemId, s => removeItem db tenantId cartId itemId s
  | .createSale tenantId dto, s => answer (transaction (SaleService.create db clock tenantId dto) s)
  | .completeSale tenantId saleId payments, s =>
      answer (transaction (SaleService.complete db tenantId saleId payments) s)
  | .voidSale tenantId saleId, s => answer (transaction (SaleService.void db tenantId saleId) s)
  | .createRefund tenantId saleId dto, s =>
      answer (transaction (createRefund db clock tenantId saleId dto) s)
  | .openSession tenantId dto, s =>
      answer (transaction (SessionService.open db clock tenantId dto) s)
  | .closeSession tenantId sessionId dto, s =>
      answer (transaction (SessionService.close db tenantId sessionId dto) s)
  | .cleanupCarts, s =>
      answer (transaction (CartCleanupService.cleanupAbandonedCarts clock) s)

/-- A request that arrives at a moment. -/
structure Call where
  clock : Clock
  request : Request

/-- The validation of the body, then the service. -/
def handle (db : Database) (call : Call) (s : Store) : Except HttpError Unit × Store :=
  if call.request.Valid then serve db call.clock call.request s
  else (.error (.badRequest "Bad Request"), s)

/-- The store after a request. -/
def step (db : Database) (call : Call) (s : Store) : Store := (handle db call s).2

/-- The request succeeds. -/
def Accepted (db : Database) (s : Store) (call : Call) : Prop := (handle db call s).1 = .ok ()

instance (db : Database) (s : Store) (call : Call) : Decidable (Accepted db s call) := by
  rw [Accepted]
  cases (handle db call s).1 with
  | ok _ => exact isTrue rfl
  | error _ => exact isFalse (by simp)

/-- What exists before any stock is booked: tenants with their products, locations, terminals,
sessions and customers. -/
structure Catalogue where
  tenants : Serial Tenant
  products : Serial Product
  locations : Serial Location
  terminals : Serial POSTerminal
  sessions : Serial POSSession
  customers : Serial Customer

/-- The store without stock, reservations and sales. -/
def Store.initial (c : Catalogue) : Store where
  tenants := c.tenants
  products := c.products
  locations := c.locations
  terminals := c.terminals
  sessions := c.sessions
  customers := c.customers
  balances := .empty
  layers := .empty
  consumptions := .empty
  movements := .empty
  transfers := .empty
  reservations := .empty
  sales := .empty
  saleItems := .empty
  salePayments := .empty
  saleRefunds := .empty

/-- The stores reached from the empty one by requests that meet `ok` where they are made. -/
def ReachableBy (db : Database) (ok : Store → Call → Prop) (c : Catalogue) (s : Store) : Prop :=
  Runs (step db) ok (Store.initial c) s

/-- The stores reached by any finite sequence of requests. -/
def Reachable (db : Database) (c : Catalogue) (s : Store) : Prop :=
  ReachableBy db (fun _ _ => True) c s

/-- The store after a list of requests, one after another. -/
def serveAll (db : Database) (calls : List Call) (s : Store) : Store :=
  calls.foldl (fun s call => step db call s) s

/-- Each request of a list meets `ok` where it is made. -/
def AllMeet (db : Database) (ok : Store → Call → Prop) : List Call → Store → Prop
  | [], _ => True
  | call :: rest, s => ok s call ∧ AllMeet db ok rest (step db call s)

instance decidableAllMeet (db : Database) (ok : Store → Call → Prop)
    [∀ s call, Decidable (ok s call)] :
    (calls : List Call) → (s : Store) → Decidable (AllMeet db ok calls s)
  | [], _ => isTrue trivial
  | call :: rest, s =>
    have := decidableAllMeet db ok rest (step db call s)
    inferInstanceAs (Decidable (_ ∧ _))

/-- A list of requests is a run. -/
theorem runs_serveAll {db : Database} {ok : Store → Call → Prop} {calls : List Call} {s : Store}
    (h : AllMeet db ok calls s) : Runs (step db) ok s (serveAll db calls s) := by
  induction calls generalizing s with
  | nil => exact Relation.ReflTransGen.refl
  | cons call rest ih => exact Relation.ReflTransGen.head ⟨call, h.1, rfl⟩ (ih h.2)

theorem reachable_serveAll (db : Database) (c : Catalogue) (calls : List Call) :
    Reachable db c (serveAll db calls (Store.initial c)) := by
  apply runs_serveAll
  generalize Store.initial c = s
  induction calls generalizing s with
  | nil => trivial
  | cons call rest ih => exact ⟨trivial, ih _⟩

/-- A shop: one tenant with two products, each with a pricing method of its own, and two
locations. -/
def Catalogue.shop (method : PricingMethod) : Catalogue where
  tenants := Serial.empty.create { defaultPricingMethod := .fifo }
  products :=
    (Serial.empty.create
      { name := "Tea", productType := .simple, pricingMethod := some method
        minSellingPrice := none, tenantId := 0, deletedAt := none }).create
      { name := "Coffee", productType := .simple, pricingMethod := none
        minSellingPrice := none, tenantId := 0, deletedAt := none }
  locations :=
    (Serial.empty.create { name := "Front", status := .active, tenantId := 0 }).create
      { name := "Back", status := .active, tenantId := 0 }
  terminals := .empty
  sessions := .empty
  customers := .empty

/-- The shop with a terminal. -/
def Catalogue.till : Catalogue :=
  { Catalogue.shop .fifo with
    terminals := Serial.empty.create { isActive := true, tenantId := 0, deletedAt := none } }

/-- Ten received, and one of them in a cart. -/
def openCart : List Call :=
  [⟨⟨0, 2024⟩, .stockIn 0 ⟨0, none, none, [⟨0, 10, 1, none⟩]⟩⟩,
    ⟨⟨1, 2024⟩, .createCart 0 ⟨0, none, none, none⟩⟩,
    ⟨⟨2, 2024⟩, .addCartItem 0 0 ⟨0, 1, some 5, none, none⟩⟩]

def cartStore : Store := serveAll .exact openCart (Store.initial (.shop .fifo))

end Invetrixa
