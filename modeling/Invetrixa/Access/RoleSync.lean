import Invetrixa.Access.Access

/-!
# Roles and new modules

`syncRolesWithModules` gives the default roles of a tenant their permissions on modules that have
come or got new actions since the roles were made, as far as a role is configured to have all of a
module's actions.

## Main definitions

- `syncRolesWithModules`, with `syncRole`, `syncModule` and `syncPermission` for its loops
-/

namespace Invetrixa

open Rowstore

structure SyncRolesResult where
  permissionsCreated : ℕ
  permissionsUpdated : ℕ
  deriving DecidableEq

/-- What has been counted so far, and the tables. -/
abbrev Sync : Type := SyncRolesResult × AccessStore

/-- `rolePermission.findUnique` by role and module -/
def AccessStore.findPermission (roleId moduleRefId : Id) (s : AccessStore) :
    Option (Id × RolePermission) :=
  s.rolePermissions.rows.find? fun p => p.2.roleId = roleId ∧ p.2.moduleRefId = moduleRefId

/-- `rolePermission.update` -/
def AccessStore.setActions (id : Id) (actions : List String) (s : AccessStore) : AccessStore :=
  { s with rolePermissions := s.rolePermissions.modify id fun p => { p with actions } }

/-- A role is to have all actions of a module. -/
def syncPermission (roleId : Id) (module : Id × ModuleRef) (sync : Sync) : Sync :=
  let allActions := module.2.actions
  match sync.2.findPermission roleId module.1 with
  | some existingPermission =>
    if allActions.any fun a => a ∉ existingPermission.2.actions then
      ({ sync.1 with permissionsUpdated := sync.1.permissionsUpdated + 1 },
        sync.2.setActions existingPermission.1 allActions)
    else sync
  | none =>
    ({ sync.1 with permissionsCreated := sync.1.permissionsCreated + 1 },
      { sync.2 with
        rolePermissions := sync.2.rolePermissions.create
          { roleId, moduleRefId := module.1, actions := allActions } })

/-- The modules as they were loaded, by name. -/
def moduleByName (modules : List (Id × ModuleRef)) (moduleName : String) :
    Option (Id × ModuleRef) :=
  modules.find? fun m => m.2.name = moduleName

/-- Only modules that are configured with all actions are synced. -/
def syncModule (modules : List (Id × ModuleRef)) (roleId : Id) (sync : Sync)
    (entry : String × DefaultPermission) : Sync :=
  match entry.2 with
  | .actions _ => sync
  | .all =>
    match moduleByName modules entry.1 with
    | none => sync
    | some module => syncPermission roleId module sync

def syncRole (roleConfigs : RoleConfigs) (modules : List (Id × ModuleRef)) (sync : Sync)
    (role : Id × Role) : Sync :=
  match roleConfigs.lookup role.2.name with
  | none => sync
  | some roleConfig => roleConfig.foldl (syncModule modules role.1) sync

/-- The roles of a tenant that have the name of a default role. -/
def defaultRoles (roleConfigs : RoleConfigs) (tenantId : Id) (s : AccessStore) :
    List (Id × Role) :=
  s.roles.rows.filter fun r => r.2.tenantId = tenantId ∧ r.2.name ∈ roleConfigs.map Prod.fst

def syncRolesWithModules (roleConfigs : RoleConfigs) (tenantId : Id) (s : AccessStore) : Sync :=
  (defaultRoles roleConfigs tenantId s).foldl (syncRole roleConfigs s.modules.rows) (⟨0, 0⟩, s)

end Invetrixa
