import Invetrixa.Access.Guard

/-!
# The modules, and what the endpoints ask for

The modules of the permission check are written to the database whenever the server starts. The
guard in front of a controller asks for the action that is noted at its handler, which is a text
there: nothing ties it to the modules.

## Main definitions

- `MODULESREF`, `syncModules` — the modules, and what a start of the server does
- `requiredPermissions` — what the controllers ask for
- `AccessControlGuard.check` — the guard in front of any handler
- `AccessEvent.run` — requests, and starts of the server
-/

namespace Invetrixa

open Rowstore

/-- The modules, without their descriptions. -/
def MODULESREF : List ModuleRef :=
  [⟨"Module", ["module.view"]⟩,
    ⟨"Role", ["role.create", "role.view", "role.update", "role.delete", "role.assign",
      "role.unassign"]⟩,
    ⟨"Tenant", ["tenant.view", "tenant.update", "tenant.delete", "tenant.invitation.create",
      "tenant.invitation.update", "tenant.invitation.cancel", "tenant.invitation.view",
      "tenant.member.remove"]⟩,
    ⟨"User", ["user.view"]⟩,
    ⟨"Category", ["category.create", "category.view", "category.update", "category.delete"]⟩,
    ⟨"Product", ["product.create", "product.view", "product.update", "product.delete"]⟩,
    ⟨"Supplier", ["supplier.create", "supplier.view", "supplier.update", "supplier.delete"]⟩,
    ⟨"Location", ["location.create", "location.view", "location.update", "location.delete"]⟩,
    ⟨"Stock", ["stock.movement.create", "stock.movement.view"]⟩,
    ⟨"Inventory", ["stock.view", "stock.valuation.view", "transfer.create", "transfer.view",
      "transfer.ship", "transfer.receive", "transfer.cancel", "reservation.create",
      "reservation.view", "reservation.update", "reservation.delete"]⟩,
    ⟨"Customer", ["customer.create", "customer.view", "customer.update", "customer.delete"]⟩]

/-- A module is created, or gets its actions if they or its description have changed. Two lists
are the same when they are sorted if one is a permutation of the other. -/
def syncModuleRef (descriptionChanged : String → Bool) (modules : Serial ModuleRef)
    (moduleData : ModuleRef) : Serial ModuleRef :=
  match modules.rows.find? fun m => m.2.name = moduleData.name with
  | some existing =>
    if ¬existing.2.actions.Perm moduleData.actions ∨ descriptionChanged moduleData.name then
      modules.modify existing.1 fun m => { m with actions := moduleData.actions }
    else modules
  | none => modules.create moduleData

def syncModules (descriptionChanged : String → Bool) (modules : Serial ModuleRef) :
    Serial ModuleRef :=
  MODULESREF.foldl (syncModuleRef descriptionChanged) modules

/-- `@RequirePermission` of the handlers, by module: a controller asks for actions of one module,
but for `StockController`, which asks for those of two. -/
def requiredPermissions : List (String × List String) :=
  [("Role", ["role.create", "role.view", "role.update", "role.assign", "role.unassign",
      "role.delete"]),
    ("Category", ["category.create", "category.view", "category.update", "category.delete"]),
    ("Customer", ["customer.create", "customer.view", "customer.update", "customer.delete"]),
    ("INVOICE", ["invoice.create", "invoice.read", "invoice.update", "invoice.payment",
      "invoice.cancel"]),
    ("Location", ["location.create", "location.view", "location.update", "location.delete"]),
    ("Module", ["module.view"]),
    ("POS", ["pos.terminal.create", "pos.terminal.view", "pos.terminal.update",
      "pos.terminal.delete", "pos.session.open", "pos.session.view", "pos.session.close",
      "pos.sale.create", "pos.sale.read", "pos.sale.void", "pos.sale.refund", "pos.report.view"]),
    ("Product", ["product.create", "product.view", "product.update", "product.delete"]),
    ("Stock", ["stock.movement.create"]),
    ("Inventory", ["stock.view", "transfer.create", "transfer.view", "transfer.ship",
      "transfer.receive", "transfer.cancel", "reservation.create", "reservation.view",
      "reservation.update", "reservation.delete"]),
    ("Supplier", ["supplier.create", "supplier.view", "supplier.update", "supplier.delete"]),
    ("Tenant", ["tenant.view", "tenant.invitation.create", "tenant.invitation.view",
      "tenant.invitation.cancel", "tenant.update", "tenant.delete", "tenant.member.remove"]),
    ("User", ["user.view"])]

namespace AccessControlGuard

/-- What the guard reads of a request. -/
structure Caller where
  /-- `request.user` -/
  userId : Option Id
  /-- `x-tenant-id` -/
  tenantId : Option Id
  /-- `x-location-id` -/
  locationId : Option Id

/-- The guard in front of a handler, with what is noted there. -/
def check (metadata : Option (String × String)) (caller : Caller) (access : AccessStore) :
    Except HttpError Unit :=
  match metadata with
  | none => .ok ()
  | some (resource, action) =>
    match caller.userId with
    | none => .error (.forbidden "No user found in request")
    | some userId =>
      match caller.tenantId with
      | none => .error (.forbidden "Access denied: missing tenant id")
      | some tenantId =>
        if AccessControlService.hasPermission userId resource action tenantId caller.locationId
            access then .ok ()
        else .error (.forbidden ("Access denied: missing permission " ++ resource ++ ":" ++ action))

/-- In front of a stock request of a user the guard does what it does in front of any handler. -/
theorem canActivate_toUnit (call : StockCall) (access : AccessStore) :
    (canActivate call access).map (fun _ => ()) =
      check (some call.request.permission) ⟨some call.userId, call.tenantId, call.locationId⟩
        access := by
  cases htenant : call.tenantId with
  | none => simp [canActivate, check, htenant, Except.map]
  | some tenantId =>
    simp only [canActivate, check, htenant]
    split <;> simp_all [Except.map]

theorem check_ok_iff {resource action : String} {caller : Caller} {access : AccessStore} :
    check (some (resource, action)) caller access = .ok () ↔
      ∃ userId tenantId, caller.userId = some userId ∧ caller.tenantId = some tenantId ∧
        AccessControlService.hasPermission userId resource action tenantId caller.locationId
          access = true := by
  obtain ⟨userId, tenantId, locationId⟩ := caller
  cases userId with
  | none => simp [check]
  | some userId =>
    cases tenantId with
    | none => simp [check]
    | some tenantId => simp [check]

end AccessControlGuard

/-- A request, or a start of the server. -/
inductive AccessEvent
  | request (call : AccessCall)
  | start (descriptionChanged : String → Bool)

namespace AccessEvent

def serve (rt : Runtime) (s : AccessStore) : AccessEvent → AccessStore
  | .request call => (serveAccess rt call s).2
  | .start descriptionChanged => { s with modules := syncModules descriptionChanged s.modules }

/-- The tables after a database has been set up, the server has been started for the first time,
and these requests and further starts. -/
def run (rt : Runtime) (users : Serial String) (descriptionChanged : String → Bool)
    (events : List AccessEvent) : AccessStore :=
  (.start descriptionChanged :: events).foldl (serve rt) (AccessStore.initial users .empty)

end AccessEvent

end Invetrixa
