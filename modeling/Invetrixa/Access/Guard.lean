import Invetrixa.Server
import Invetrixa.Access.Access

/-!
# Stock requests behind the permission guard

`AccessControlGuard` in front of the endpoints of `StockController` that book stock. It reads the
tenant and the location of a request from the headers. The tenant is handed on to the service;
where the service books is said by the body, or by the row that the request names.

## Main definitions

- `StockEndpoint`, `StockEndpoint.permission` — the endpoints, and what each of them requires
- `AccessControlGuard.canActivate`
- `handleStockCall` — the guard, then the endpoint
-/

namespace Invetrixa

open Rowstore MovementService TransferService ReservationService

/-- The bodies of the requests, and the transfers they name. -/
inductive StockEndpoint
  | stockIn (dto : BulkStockInDto)
  | stockOut (dto : BulkStockOutDto)
  | stockReturn (dto : BulkStockInDto)
  | adjust (dto : BulkStockAdjustDto)
  | createTransfer (dto : CreateTransferDto)
  | shipTransfer (id : Id)
  | cancelTransfer (id : Id)
  | createReservation (dto : CreateReservationDto)

/-- `@RequirePermission`: a module, and an action of it. -/
def StockEndpoint.permission : StockEndpoint → String × String
  | .stockIn _ | .stockOut _ | .stockReturn _ | .adjust _ => ("Stock", "stock.movement.create")
  | .createTransfer _ => ("Inventory", "transfer.create")
  | .shipTransfer _ => ("Inventory", "transfer.ship")
  | .cancelTransfer _ => ("Inventory", "transfer.cancel")
  | .createReservation _ => ("Inventory", "reservation.create")

/-- The request as the service of a tenant gets it. -/
def StockEndpoint.toRequest (tenantId : Id) : StockEndpoint → Request
  | .stockIn dto => .stockIn tenantId dto
  | .stockOut dto => .stockOut tenantId dto
  | .stockReturn dto => .stockReturn tenantId dto
  | .adjust dto => .adjust tenantId dto
  | .createTransfer dto => .createTransfer tenantId dto
  | .shipTransfer id => .shipTransfer tenantId id
  | .cancelTransfer id => .cancelTransfer tenantId id
  | .createReservation dto => .createReservation tenantId dto

/-- A request of a user, with its headers. -/
structure StockCall where
  clock : Clock
  userId : Id
  /-- `x-tenant-id` -/
  tenantId : Option Id
  /-- `x-location-id` -/
  locationId : Option Id
  request : StockEndpoint

/-- The guard; the tenant it has read is the one that the endpoint reads. -/
def AccessControlGuard.canActivate (call : StockCall) (access : AccessStore) :
    Except HttpError Id :=
  match call.tenantId with
  | none => .error (.forbidden "Access denied: missing tenant id")
  | some tenantId =>
    let (resource, action) := call.request.permission
    if AccessControlService.hasPermission call.userId resource action tenantId call.locationId
        access then .ok tenantId
    else .error (.forbidden ("Access denied: missing permission " ++ resource ++ ":" ++ action))

/-- The answer to a request, and the store after it. -/
def handleStockCall (db : Database) (access : AccessStore) (call : StockCall) (s : Store) :
    Except HttpError Unit × Store :=
  match AccessControlGuard.canActivate call access with
  | .error e => (.error e, s)
  | .ok tenantId => handle db ⟨call.clock, call.request.toRequest tenantId⟩ s

instance (db : Database) (access : AccessStore) (call : StockCall) (s : Store) :
    Decidable ((handleStockCall db access call s).1 = .ok ()) :=
  match (handleStockCall db access call s).1 with
  | .ok () => isTrue rfl
  | .error _ => isFalse nofun

namespace AccessControlGuard

variable {access : AccessStore} {call : StockCall} {tenantId : Id}

/-- Whom the guard lets pass: a user with a role that allows the action, assigned in all of the
tenant or at the location of the header. -/
theorem canActivate_ok (h : canActivate call access = .ok tenantId) :
    call.tenantId = some tenantId ∧ ∃ k a, access.assignments.find? k = some a ∧
      a.userId = call.userId ∧ a.tenantId = tenantId ∧
      AccessControlService.appliesAt call.locationId a = true := by
  rw [canActivate] at h
  cases htenant : call.tenantId with
  | none =>
    rw [htenant] at h
    cases h
  | some t =>
    simp only [htenant] at h
    split at h
    · next hpermission =>
      obtain rfl := Except.ok.inj h
      obtain ⟨⟨k, a⟩, hmem, hsel⟩ := List.any_eq_true.mp hpermission
      obtain ⟨huser, hof, happlies, _⟩ := of_decide_eq_true hsel
      exact ⟨rfl, k, a, Table.find?_of_mem_rows hmem, huser, hof, happlies⟩
    · cases h

end AccessControlGuard

/-- An accepted request has passed the guard, and the service has accepted it. -/
theorem handleStockCall_ok {db : Database} {access : AccessStore} {call : StockCall} {s : Store}
    (h : (handleStockCall db access call s).1 = .ok ()) :
    ∃ tenantId, AccessControlGuard.canActivate call access = .ok tenantId ∧
      Accepted db s ⟨call.clock, call.request.toRequest tenantId⟩ ∧
      (handleStockCall db access call s).2 =
        step db ⟨call.clock, call.request.toRequest tenantId⟩ s := by
  unfold handleStockCall at h ⊢
  cases hguard : AccessControlGuard.canActivate call access with
  | error e =>
    rw [hguard] at h
    cases h
  | ok tenantId =>
    rw [hguard] at h
    exact ⟨tenantId, rfl, h, rfl⟩

end Invetrixa
