import Invetrixa.Auth.Accounts

/-!
# Tenants, roles and assignments

The tables behind the permission check: members and roles of tenants, what a role may do, which
user holds it in all of a tenant or at one location, and the invitations by which members join.
Foreign keys cascade as the schema declares. Whether a location still has stock is given with the
request that removes it.

## Main definitions

- `AccessStore` — the tables
- `RoleService`, `AccessControlService.hasPermission`
- `TenantsService` — tenants, members and invitations
- `serveAccess` — the requests
-/

namespace Invetrixa

open Rowstore Requests

def SUPER_ADMIN_ROLE : String := "SuperAdmin"
def PROTECTED_ROLES : List String := [SUPER_ADMIN_ROLE]

def isProtectedRole (roleName : String) : Bool := PROTECTED_ROLES.contains roleName

inductive AccessScope
  | tenant | location
  deriving DecidableEq

inductive TenantInvitationStatus
  | pending | accepted | declined | expired | cancelled
  deriving DecidableEq

structure ModuleRef where
  name : String
  actions : List String

structure Role where
  name : String
  tenantId : Id
  deriving DecidableEq

structure RolePermission where
  roleId : Id
  moduleRefId : Id
  actions : List String

structure UserAssignment where
  userId : Id
  roleId : Id
  tenantId : Id
  accessScope : AccessScope
  locationId : Option Id
  assignedById : Option Id
  deriving DecidableEq

structure TenantInvitation where
  email : String
  status : TenantInvitationStatus
  tokenHash : String
  expiresAt : Option ℕ
  acceptedAt : Option ℕ
  declinedAt : Option ℕ
  cancelledAt : Option ℕ
  tenantId : Id
  invitedById : Id
  invitedUserId : Option Id
  roleId : Option Id
  deriving DecidableEq

/-- `expiresAt && expiresAt < new Date()` -/
def TenantInvitation.isExpired (now : ℕ) (invitation : TenantInvitation) : Bool :=
  invitation.expiresAt.any (· < now)

structure AccessTenant where
  name : String
  isAdministrator : Bool
  deriving DecidableEq

structure AccessLocation where
  code : Option String
  email : String
  phone : String
  tenantId : Id
  deriving DecidableEq

/-- The tables. A membership is a row of the relation between users and tenants. -/
structure AccessStore where
  /-- the e-mail addresses of the users -/
  users : Serial String
  tenants : Serial AccessTenant
  memberships : List (Id × Id)
  modules : Serial ModuleRef
  roles : Serial Role
  rolePermissions : Serial RolePermission
  assignments : Serial UserAssignment
  invitations : Serial TenantInvitation
  locations : Serial AccessLocation

/-- What a service does with these tables. -/
abbrev AccessHandler (α : Type) : Type := Handler AccessStore HttpError α

namespace AccessStore

/-- The tables before the first tenant. -/
def initial (users : Serial String) (modules : Serial ModuleRef) : AccessStore where
  users := users
  tenants := .empty
  memberships := []
  modules := modules
  roles := .empty
  rolePermissions := .empty
  assignments := .empty
  invitations := .empty
  locations := .empty

/-- A user becomes a member of a tenant (`connect`). -/
def connect (userId tenantId : Id) (s : AccessStore) : AccessStore :=
  { s with memberships := s.memberships.insert (userId, tenantId) }

/-- A user is no member of a tenant any more (`disconnect`). -/
def disconnect (userId tenantId : Id) (s : AccessStore) : AccessStore :=
  { s with memberships := s.memberships.filter (· ≠ (userId, tenantId)) }

/-- Assignments go. -/
def removeAssignments (p : UserAssignment → Bool) (s : AccessStore) : AccessStore :=
  { s with assignments := s.assignments.deleteWhere fun _ a => p a }

end AccessStore

structure PermissionUpdateDto where
  moduleRefId : Id
  actions : List String

/-- A role to be created; its name is not empty. -/
structure CreateRoleDto where
  name : String
  permissions : Option (List PermissionUpdateDto)

/-- What a role is changed to; an empty name is taken as none when the request is validated. -/
structure UpdateRoleDto where
  name : Option String
  permissions : Option (List PermissionUpdateDto)
  name_nonempty : name ≠ some ""

namespace RoleService

/-- `role.create`, under the unique constraint and the foreign key. -/
def insertRole (role : Role) (s : AccessStore) : Except HttpError (Id × AccessStore) :=
  if s.roles.rows.any fun r => r.2.name = role.name ∧ r.2.tenantId = role.tenantId then
    .error (uniqueViolation ["name", "tenantId"])
  else if (s.tenants.find? role.tenantId).isNone then .error invalidReference
  else .ok (s.roles.next, { s with roles := s.roles.create role })

theorem insertRole_ok {role : Role} {id : Id} {s s' : AccessStore}
    (h : insertRole role s = .ok (id, s')) :
    id = s.roles.next ∧ s' = { s with roles := s.roles.create role } ∧
      (s.tenants.find? role.tenantId).isSome ∧
      ∀ k r, s.roles.find? k = some r → ¬(r.name = role.name ∧ r.tenantId = role.tenantId) := by
  obtain ⟨hnone, h⟩ := Except.ite_error_eq_ok_iff.mp h
  obtain ⟨htenant, h⟩ := Except.ite_error_eq_ok_iff.mp h
  obtain ⟨rfl, rfl⟩ := Prod.mk.inj (Except.ok.inj h)
  refine ⟨rfl, rfl, ?_, fun k r hfind hsame => hnone ?_⟩
  · rwa [Bool.not_eq_true, Option.isNone_eq_false_iff] at htenant
  · exact List.any_eq_true.mpr
      ⟨(k, r), Table.mem_rows_of_find? hfind, decide_eq_true hsame⟩

/-- `rolePermission.create`, under the unique constraint and the foreign keys. -/
def insertPermission (permission : RolePermission) (s : AccessStore) :
    Except HttpError AccessStore :=
  if s.rolePermissions.rows.any fun r =>
      r.2.roleId = permission.roleId ∧ r.2.moduleRefId = permission.moduleRefId then
    .error (uniqueViolation ["roleId", "moduleRefId"])
  else if (s.modules.find? permission.moduleRefId).isNone then .error invalidReference
  else .ok { s with rolePermissions := s.rolePermissions.create permission }

theorem insertPermission_ok {permission : RolePermission} {s s' : AccessStore}
    (h : insertPermission permission s = .ok s') :
    s' = { s with rolePermissions := s.rolePermissions.create permission } := by
  obtain ⟨_, h⟩ := Except.ite_error_eq_ok_iff.mp h
  obtain ⟨_, h⟩ := Except.ite_error_eq_ok_iff.mp h
  exact (Except.ok.inj h).symm

def insertPermissions (roleId : Id) :
    List PermissionUpdateDto → AccessStore → Except HttpError AccessStore
  | [], s => .ok s
  | p :: rest, s => do
    let s ← insertPermission { roleId, moduleRefId := p.moduleRefId, actions := p.actions } s
    insertPermissions roleId rest s

theorem insertPermissions_ok {roleId : Id} {permissions : List PermissionUpdateDto}
    {s s' : AccessStore} (h : insertPermissions roleId permissions s = .ok s') :
    ∃ rolePermissions, s' = { s with rolePermissions } := by
  induction permissions generalizing s with
  | nil => exact ⟨_, (Except.ok.inj h).symm⟩
  | cons p rest ih =>
    obtain ⟨s₁, hfirst, h⟩ := Except.bind_eq_ok_iff.mp h
    obtain rfl := insertPermission_ok hfirst
    obtain ⟨rolePermissions, rfl⟩ := ih h
    exact ⟨rolePermissions, rfl⟩

/-- What is wrong with a permission: its module, or actions that the module does not have. -/
def permissionErrors (s : AccessStore) (permission : PermissionUpdateDto) : List String :=
  match s.modules.find? permission.moduleRefId with
  | none => ["Module with ID \"" ++ toString permission.moduleRefId ++ "\" not found"]
  | some module =>
    match permission.actions.filter fun action => action ∉ module.actions with
    | [] => []
    | invalidActions => ["Invalid actions for module \"" ++ module.name ++ "\": " ++
        ", ".intercalate invalidActions ++ "."]

def validatePermissions (permissions : Option (List PermissionUpdateDto)) (s : AccessStore) :
    Except HttpError Unit :=
  match (permissions.getD []).flatMap (permissionErrors s) with
  | [] => .ok ()
  | errors => .error (.badRequest ("; ".intercalate errors))

def findOne (id tenantId : Id) (s : AccessStore) : Except HttpError Role :=
  match s.roles.find? id with
  | none => .error (.notFound ("Role with id " ++ toString id ++ " not found"))
  | some role =>
    if role.tenantId ≠ tenantId then .error (.notFound "Role not found in your tenant")
    else .ok role

def readCreate (dto : CreateRoleDto) (tenantId : Id) (s : AccessStore) : Except HttpError Unit :=
  if s.roles.rows.any fun r => r.2.name = dto.name ∧ r.2.tenantId = tenantId then
    .error (.conflict "Role with this name already exists in this tenant")
  else validatePermissions dto.permissions s

def commitCreate (dto : CreateRoleDto) (tenantId : Id) (s : AccessStore) :
    Except HttpError (Unit × AccessStore) := do
  let (roleId, s) ← insertRole { name := dto.name, tenantId } s
  let s ← insertPermissions roleId (dto.permissions.getD []) s
  return ((), s)

def create (dto : CreateRoleDto) (tenantId : Id) : AccessHandler Unit := do
  Handler.read (readCreate dto tenantId)
  Handler.atomically (commitCreate dto tenantId)

/-- What may not be changed of a protected role. -/
def protectRole (dto : UpdateRoleDto) (role : Role) : Except HttpError Unit :=
  if isProtectedRole role.name ∧ dto.name.any fun name => name ≠ "" ∧ name ≠ role.name then
    .error (.forbidden ("Cannot rename the " ++ SUPER_ADMIN_ROLE ++ " role"))
  else if isProtectedRole role.name ∧ dto.permissions.isSome then
    .error (.forbidden ("Cannot modify permissions of the " ++ SUPER_ADMIN_ROLE ++ " role"))
  else .ok ()

def readUpdate (id tenantId : Id) (dto : UpdateRoleDto) (s : AccessStore) :
    Except HttpError Role := do
  let role ← findOne id tenantId s
  protectRole dto role
  validatePermissions dto.permissions s
  return role

/-- The name of a role is written, under the unique constraint. -/
def writeName (id : Id) (role : Role) (name : String) (s : AccessStore) :
    Except HttpError AccessStore :=
  if s.roles.rows.any fun r =>
      r.1 ≠ id ∧ r.2.name = name ∧ r.2.tenantId = role.tenantId then
    .error (uniqueViolation ["name", "tenantId"])
  else .ok { s with roles := s.roles.modify id fun r => { r with name } }

/-- The permissions of a role are replaced. -/
def replacePermissions (id : Id) (permissions : Option (List PermissionUpdateDto))
    (s : AccessStore) : Except HttpError AccessStore :=
  match permissions with
  | none => .ok s
  | some permissions => insertPermissions id permissions
      { s with rolePermissions := s.rolePermissions.deleteWhere fun _ p => p.roleId = id }

def commitUpdate (id : Id) (dto : UpdateRoleDto) (role : Role) (s : AccessStore) :
    Except HttpError (Unit × AccessStore) := do
  let s ← writeName id role (dto.name.getD role.name) s
  let s ← replacePermissions id dto.permissions s
  return ((), s)

def update (id tenantId : Id) (dto : UpdateRoleDto) : AccessHandler Unit := do
  let role ← Handler.read (readUpdate id tenantId dto)
  Handler.atomically (commitUpdate id dto role)

def readRemove (id tenantId : Id) (s : AccessStore) : Except HttpError Unit := do
  let role ← findOne id tenantId s
  if isProtectedRole role.name then
    .error (.forbidden ("Cannot delete the " ++ SUPER_ADMIN_ROLE ++ " role"))
  else .ok ()

/-- A role goes, with its permissions and assignments; invitations lose it. -/
def commitRemove (id : Id) (s : AccessStore) : AccessStore :=
  { s.removeAssignments fun a => a.roleId = id with
    roles := s.roles.deleteWhere fun k _ => k = id
    rolePermissions := s.rolePermissions.deleteWhere fun _ p => p.roleId = id
    invitations := s.invitations.modifyWhere (fun _ i => i.roleId = some id) fun i =>
      { i with roleId := none } }

def remove (id tenantId : Id) : AccessHandler Unit := do
  Handler.read (readRemove id tenantId)
  Handler.write (commitRemove id)

/-- `userAssignment.create`, under the foreign keys and the unique constraint, which does not
compare rows without a location. -/
def insertAssignment (a : UserAssignment) (s : AccessStore) : Except HttpError AccessStore :=
  if (s.users.find? a.userId).isNone ∨ (s.roles.find? a.roleId).isNone ∨
      (s.tenants.find? a.tenantId).isNone ∨
      (a.locationId.any fun id => (s.locations.find? id).isNone) ∨
      (a.assignedById.any fun id => (s.users.find? id).isNone) then .error invalidReference
  else if a.locationId.isSome ∧ s.assignments.rows.any fun r => r.2.userId = a.userId ∧
      r.2.roleId = a.roleId ∧ r.2.tenantId = a.tenantId ∧ r.2.locationId = a.locationId then
    .error (uniqueViolation ["userId", "roleId", "tenantId", "locationId"])
  else .ok { s with assignments := s.assignments.create a }

theorem insertAssignment_ok {a : UserAssignment} {s s' : AccessStore}
    (h : insertAssignment a s = .ok s') :
    s' = { s with assignments := s.assignments.create a } := by
  obtain ⟨_, h⟩ := Except.ite_error_eq_ok_iff.mp h
  obtain ⟨_, h⟩ := Except.ite_error_eq_ok_iff.mp h
  exact (Except.ok.inj h).symm

/-- The assignment that a request asks for. -/
structure CreateUserAssignmentDto where
  roleId : Id
  userId : Id
  accessScope : AccessScope
  locationId : Option Id

def readAssign (tenantId : Id) (dto : CreateUserAssignmentDto) (s : AccessStore) :
    Except HttpError Unit :=
  match s.roles.find? dto.roleId with
  | none => .error (.notFound "Role not found")
  | some role =>
    if role.tenantId ≠ tenantId then .error (.notFound "Role not found in this tenant")
    else if (s.users.find? dto.userId).isNone then .error (.notFound "User not found")
    else if dto.accessScope = .location ∧ dto.locationId = none then
      .error (.badRequest "Location ID is required when access scope is LOCATION")
    else if dto.accessScope = .tenant ∧ dto.locationId ≠ none then
      .error (.badRequest "Location ID should not be provided when access scope is TENANT")
    else if dto.locationId.any fun id => (s.locations.find? id).isNone then
      .error (.notFound "Location not found")
    else .ok ()

/-- The row of an assignment. -/
def newAssignment (tenantId : Id) (dto : CreateUserAssignmentDto) (assignedById : Option Id) :
    UserAssignment where
  userId := dto.userId
  roleId := dto.roleId
  tenantId := tenantId
  accessScope := dto.accessScope
  locationId := if dto.accessScope = .location then dto.locationId else none
  assignedById := assignedById

/-- Whatever refuses the row is reported as a conflict. -/
def commitAssign (a : UserAssignment) (s : AccessStore) : Except HttpError (Unit × AccessStore) :=
  match insertAssignment a s with
  | .ok s => .ok ((), s)
  | .error _ =>
    .error (.conflict "User already assigned to this role in this tenant/location")

def assignUser (tenantId : Id) (dto : CreateUserAssignmentDto) (assignedById : Option Id) :
    AccessHandler Unit := do
  Handler.read (readAssign tenantId dto)
  Handler.atomically (commitAssign (newAssignment tenantId dto assignedById))

structure RemoveUserAssignmentDto where
  roleId : Id
  userId : Id
  locationId : Option Id

/-- The assignments of a role that other users have, wherever they hold. -/
def remainingAssignments (tenantId : Id) (dto : RemoveUserAssignmentDto) (s : AccessStore) :
    List (Id × UserAssignment) :=
  s.assignments.rows.filter fun r =>
    r.2.roleId = dto.roleId ∧ r.2.tenantId = tenantId ∧ r.2.userId ≠ dto.userId

def readRemoveAssignment (tenantId : Id) (dto : RemoveUserAssignmentDto) (s : AccessStore) :
    Except HttpError Unit :=
  if (s.roles.find? dto.roleId).any (fun role => isProtectedRole role.name) ∧
      (remainingAssignments tenantId dto s).length = 0 then
    .error (.forbidden ("Cannot remove the last " ++ SUPER_ADMIN_ROLE ++
      " from the tenant. Transfer ownership first."))
  else .ok ()

/-- The assignments that a request removes. -/
def RemoveUserAssignmentDto.selects (tenantId : Id) (dto : RemoveUserAssignmentDto)
    (a : UserAssignment) : Bool :=
  a.roleId = dto.roleId ∧ a.userId = dto.userId ∧ a.tenantId = tenantId ∧
    a.locationId = dto.locationId

def commitRemoveAssignment (tenantId : Id) (dto : RemoveUserAssignmentDto) (s : AccessStore) :
    Except HttpError (Unit × AccessStore) :=
  if s.assignments.rows.any fun r => dto.selects tenantId r.2 then
    .ok ((), s.removeAssignments (dto.selects tenantId))
  else .error (.notFound "Assignment not found")

def removeUserAssignment (tenantId : Id) (dto : RemoveUserAssignmentDto) : AccessHandler Unit := do
  Handler.read (readRemoveAssignment tenantId dto)
  Handler.atomically (commitRemoveAssignment tenantId dto)

end RoleService

namespace AccessControlService

/-- Whether an assignment counts at a location. -/
def appliesAt (locationId : Option Id) (a : UserAssignment) : Bool :=
  match a.accessScope with
  | .tenant => true
  | .location => a.locationId = locationId

/-- Whether a role may do something with a module. -/
def roleAllows (roleId : Id) (resource action : String) (s : AccessStore) : Bool :=
  s.rolePermissions.rows.any fun r => r.2.roleId = roleId ∧
    (s.modules.find? r.2.moduleRefId).any (fun module => module.name = resource) ∧
    action ∈ r.2.actions

def hasPermission (userId : Id) (resource action : String) (tenantId : Id)
    (locationId : Option Id) (s : AccessStore) : Bool :=
  s.assignments.rows.any fun r => r.2.userId = userId ∧ r.2.tenantId = tenantId ∧
    appliesAt locationId r.2 ∧ roleAllows r.2.roleId resource action s

end AccessControlService

/-- What a default role may do with a module. -/
inductive DefaultPermission
  | all
  | actions (actions : List String)

/-- The default roles, each with its permissions by the name of the module. -/
abbrev RoleConfigs : Type := List (String × List (String × DefaultPermission))

/-- `ROLE_PERMISSIONS.TENANT` -/
def tenantRolePermissions : RoleConfigs :=
  [("SuperAdmin", ["Role", "User", "Tenant", "Category", "Product", "Supplier", "Location",
      "Stock", "Inventory", "Customer"].map fun moduleName => (moduleName, .all)),
    ("Admin",
      [("Role", .actions ["role.view", "role.update"]),
        ("User", .actions ["user.view", "user.list", "user.update"]),
        ("Category", .actions ["category.view", "category.update"]),
        ("Product", .actions ["product.view", "product.update"]),
        ("Supplier", .actions ["supplier.view", "supplier.update"]),
        ("Location", .actions ["location.view", "location.update"]),
        ("Stock", .actions ["stock.movement.view"]),
        ("Inventory", .actions ["stock.view", "stock.valuation.view", "transfer.view"]),
        ("Customer", .actions ["customer.view", "customer.update"])]),
    ("Editor", [("Tenant", .actions ["tenant.view"])])]

def resolveActions (roleConfig : DefaultPermission) (moduleActions : List String) : List String :=
  match roleConfig with
  | .all => moduleActions
  | .actions actions => actions

/-- A permission of a default role; a module that is not there is left out. -/
def initializePermission (roleId : Id) (moduleName : String) (permission : DefaultPermission)
    (s : AccessStore) : Except HttpError AccessStore :=
  match s.modules.rows.find? fun m => m.2.name = moduleName with
  | none => .ok s
  | some module =>
    match resolveActions permission module.2.actions with
    | [] => .ok s
    | actions => RoleService.insertPermission { roleId, moduleRefId := module.1, actions } s

def initializePermissions (roleId : Id) :
    List (String × DefaultPermission) → AccessStore → Except HttpError AccessStore
  | [], s => .ok s
  | (moduleName, permission) :: rest, s => do
    let s ← initializePermission roleId moduleName permission s
    initializePermissions roleId rest s

def initializeDefaultRoles (tenantId : Id) :
    RoleConfigs → AccessStore → Except HttpError AccessStore
  | [], s => .ok s
  | (roleName, modulePermissions) :: rest, s => do
    let (roleId, s) ← RoleService.insertRole { name := roleName, tenantId } s
    let s ← initializePermissions roleId modulePermissions s
    initializeDefaultRoles tenantId rest s

structure CreateTenantInvitationDto where
  email : String
  expiresAt : Option ℕ
  roleId : Option Id

namespace TenantsService

/-- What the creator of a tenant is assigned. -/
def ownerAssignment (userId tenantId roleId : Id) : UserAssignment where
  userId := userId
  roleId := roleId
  tenantId := tenantId
  accessScope := .tenant
  locationId := none
  assignedById := some userId

/-- The SuperAdmin role of a tenant, if there is one, goes to its creator. -/
def assignSuperAdmin (userId tenantId : Id) (s : AccessStore) : Except HttpError AccessStore :=
  match s.roles.rows.find? fun r => r.2.name = SUPER_ADMIN_ROLE ∧ r.2.tenantId = tenantId with
  | none => .ok s
  | some superAdminRole =>
    RoleService.insertAssignment (ownerAssignment userId tenantId superAdminRole.1) s

/-- `tenant.create`, under the unique constraint. -/
def insertTenant (name : String) (s : AccessStore) : Except HttpError (Id × AccessStore) :=
  if s.tenants.rows.any fun t => t.2.name = name ∧ t.2.isAdministrator = false then
    .error (uniqueViolation ["name", "isAdministrator"])
  else .ok (s.tenants.next,
    { s with tenants := s.tenants.create { name, isAdministrator := false } })

/-- `user.update` with a tenant to connect. -/
def connectUser (userId tenantId : Id) (s : AccessStore) : Except HttpError AccessStore :=
  if (s.users.find? userId).isNone then .error recordNotFound
  else .ok (s.connect userId tenantId)

theorem connectUser_ok {userId tenantId : Id} {s s' : AccessStore}
    (h : connectUser userId tenantId s = .ok s') : s' = s.connect userId tenantId := by
  obtain ⟨_, h⟩ := Except.ite_error_eq_ok_iff.mp h
  exact (Except.ok.inj h).symm

/-- The transaction of `createTenant`. -/
def commitCreateTenant (userId : Id) (name : String) (s : AccessStore) :
    Except HttpError (Unit × AccessStore) := do
  let (tenantId, s) ← insertTenant name s
  let s ← initializeDefaultRoles tenantId tenantRolePermissions s
  let s ← assignSuperAdmin userId tenantId s
  let s ← connectUser userId tenantId s
  return ((), s)

def createTenant (userId : Id) (name : String) : AccessHandler Unit :=
  Handler.atomically (commitCreateTenant userId name)

/-- The SuperAdmin role is given out in the assignments. -/
theorem assignSuperAdmin_ok {userId tenantId : Id} {s s' : AccessStore}
    (h : assignSuperAdmin userId tenantId s = .ok s') :
    ∃ assignments, s' = { s with assignments } := by
  rw [assignSuperAdmin] at h
  split at h
  · exact ⟨_, (Except.ok.inj h).symm⟩
  · exact ⟨_, RoleService.insertAssignment_ok h⟩

/-- The steps of a tenant that is created. -/
theorem commitCreateTenant_ok {userId : Id} {name : String} {s s' : AccessStore}
    (h : commitCreateTenant userId name s = .ok ((), s')) :
    ∃ s₁ s₂, initializeDefaultRoles s.tenants.next tenantRolePermissions
        { s with tenants := s.tenants.create { name, isAdministrator := false } } = .ok s₁ ∧
      assignSuperAdmin userId s.tenants.next s₁ = .ok s₂ ∧
      s' = s₂.connect userId s.tenants.next := by
  obtain ⟨⟨tenantId, s₀⟩, htenant, h⟩ := Except.bind_eq_ok_iff.mp h
  obtain ⟨s₁, hroles, h⟩ := Except.bind_eq_ok_iff.mp h
  obtain ⟨s₂, hassign, h⟩ := Except.bind_eq_ok_iff.mp h
  obtain ⟨s₃, hconnect, h⟩ := Except.bind_eq_ok_iff.mp h
  obtain ⟨_, rfl⟩ := Prod.mk.inj (Except.ok.inj h)
  obtain ⟨_, htenant⟩ := Except.ite_error_eq_ok_iff.mp htenant
  obtain ⟨rfl, rfl⟩ := Prod.mk.inj (Except.ok.inj htenant)
  exact ⟨s₁, s₂, hroles, hassign, connectUser_ok hconnect⟩

def readCreateInvitation (rt : Runtime) (tenantId : Id) (dto : CreateTenantInvitationDto)
    (s : AccessStore) : Except HttpError Unit :=
  if (s.tenants.find? tenantId).isNone then .error (.notFound "Tenant not found.")
  else if s.users.rows.any fun u =>
      u.2 = rt.toLowerCase dto.email ∧ (u.1, tenantId) ∈ s.memberships then
    .error (.conflict "This user is already a member of this tenant.")
  else if dto.roleId.any fun id =>
      ¬(s.roles.find? id).any fun role => role.tenantId = tenantId then
    .error (.notFound "Role not found in this tenant.")
  else .ok ()

/-- `tenantInvitation.create`, under the unique constraint and the foreign keys. -/
def insertInvitation (invitation : TenantInvitation) (s : AccessStore) :
    Except HttpError (Unit × AccessStore) :=
  if s.invitations.rows.any fun r => r.2.tokenHash = invitation.tokenHash then
    .error (uniqueViolation ["tokenHash"])
  else if (s.users.find? invitation.invitedById).isNone then .error invalidReference
  else .ok ((), { s with invitations := s.invitations.create invitation })

/-- An invitation under a token that has been drawn for it. -/
def createTenantInvitation (rt : Runtime) (invitedById tenantId : Id)
    (dto : CreateTenantInvitationDto) (token : String) : AccessHandler Unit := do
  Handler.read (readCreateInvitation rt tenantId dto)
  Handler.atomically (insertInvitation
    { email := dto.email
      status := .pending
      tokenHash := rt.sha256 token
      expiresAt := dto.expiresAt
      acceptedAt := none
      declinedAt := none
      cancelledAt := none
      tenantId
      invitedById
      invitedUserId := none
      roleId := dto.roleId })

/-- The invitation of a token. -/
def findInvitation (rt : Runtime) (token : String) (s : AccessStore) :
    Except HttpError (Id × TenantInvitation) :=
  match s.invitations.rows.find? fun r => r.2.tokenHash = rt.sha256 token with
  | none => .error (.notFound "Invitation not found or invalid.")
  | some invitation => .ok invitation

/-- What has become of an invitation is written. -/
def settle (id : Id) (f : TenantInvitation → TenantInvitation) (s : AccessStore) : AccessStore :=
  { s with invitations := s.invitations.modify id f }

def readDelete (tenantId invitationId : Id) (s : AccessStore) : Except HttpError Unit :=
  match (s.invitations.find? invitationId).filter fun i => i.tenantId = tenantId with
  | none => .error (.notFound "Invitation not found for this tenant.")
  | some invitation =>
    if invitation.status = .accepted then
      .error (.forbidden "Cannot cancel an invitation that has already been accepted.")
    else if invitation.status = .cancelled then
      .error (.forbidden "This invitation has already been cancelled.")
    else .ok ()

def cancelled (now : ℕ) (invitation : TenantInvitation) : TenantInvitation :=
  { invitation with status := .cancelled, cancelledAt := some now }

def deleteTenantInvitation (now tenantId invitationId : ℕ) : AccessHandler Unit := do
  Handler.read (readDelete tenantId invitationId)
  Handler.write fun s => settle invitationId (cancelled now) s

/-- An invitation that is found expired is marked as such before the request is refused. -/
def expire (id : Id) (refusal : HttpError) : AccessHandler Unit := do
  Handler.write fun s => settle id (fun i => { i with status := .expired }) s
  Handler.refuse refusal

/-- The switch of `acceptInvitation`. -/
def acceptable : TenantInvitationStatus → Except HttpError Unit
  | .accepted => .error (.conflict "This invitation has already been accepted.")
  | .declined =>
    .error (.forbidden "This invitation was declined and can no longer be accepted.")
  | .expired => .error (.forbidden "This invitation has expired and can no longer be accepted.")
  | .pending => .ok ()
  | .cancelled => .error (.forbidden "This invitation is no longer valid.")

def accepted (now userId : ℕ) (invitation : TenantInvitation) : TenantInvitation :=
  { invitation with status := .accepted, acceptedAt := some now, invitedUserId := some userId }

/-- What a user is assigned by an invitation with a role. -/
def invitedAssignment (userId : Id) (invitation : TenantInvitation) (roleId : Id) :
    UserAssignment where
  userId := userId
  roleId := roleId
  tenantId := invitation.tenantId
  accessScope := .tenant
  locationId := none
  assignedById := some invitation.invitedById

/-- The role of an invitation, if it has one, goes to the user. -/
def assignInvitedRole (userId : Id) (invitation : TenantInvitation) (s : AccessStore) :
    Except HttpError AccessStore :=
  match invitation.roleId with
  | none => .ok s
  | some roleId => RoleService.insertAssignment (invitedAssignment userId invitation roleId) s

/-- The transaction of `acceptInvitation`. -/
def commitAccept (now userId : ℕ) (invitation : Id × TenantInvitation) (s : AccessStore) :
    Except HttpError (Unit × AccessStore) := do
  let s ← connectUser userId invitation.2.tenantId
    (settle invitation.1 (accepted now userId) s)
  let s ← assignInvitedRole userId invitation.2 s
  return ((), s)

/-- `acceptInvitation`, once its invitation has been found. -/
def acceptFound (rt : Runtime) (now userId : ℕ) (userEmail : String)
    (invitation : Id × TenantInvitation) : AccessHandler Unit :=
  if rt.toLowerCase userEmail ≠ rt.toLowerCase invitation.2.email then
    Handler.refuse (.forbidden "You can only accept invitations sent to your email address.")
  else if invitation.2.isExpired now then
    expire invitation.1
      (.forbidden "This invitation has expired and can no longer be accepted.")
  else do
    Handler.read fun _ => acceptable invitation.2.status
    Handler.atomically (commitAccept now userId invitation)

def acceptInvitation (rt : Runtime) (now userId : ℕ) (userEmail token : String) :
    AccessHandler Unit := do
  let invitation ← Handler.read (findInvitation rt token)
  acceptFound rt now userId userEmail invitation

/-- The switch of `declineInvitation`. -/
def declinable : TenantInvitationStatus → Except HttpError Unit
  | .accepted =>
    .error (.conflict "This invitation has already been accepted and cannot be declined.")
  | .declined => .error (.conflict "This invitation has already been declined.")
  | .expired => .error (.forbidden "This invitation has expired and can no longer be declined.")
  | .pending => .ok ()
  | .cancelled => .error (.forbidden "This invitation is no longer valid.")

def declined (now userId : ℕ) (invitation : TenantInvitation) : TenantInvitation :=
  { invitation with status := .declined, declinedAt := some now, invitedUserId := some userId }

/-- `declineInvitation`, once its invitation has been found. -/
def declineFound (now userId : ℕ) (invitation : Id × TenantInvitation) : AccessHandler Unit :=
  if invitation.2.isExpired now then
    expire invitation.1
      (.forbidden "This invitation has expired and can no longer be declined.")
  else do
    Handler.read fun _ => declinable invitation.2.status
    Handler.write fun s => settle invitation.1 (declined now userId) s

def declineInvitation (rt : Runtime) (now userId : ℕ) (token : String) : AccessHandler Unit := do
  let invitation ← Handler.read (findInvitation rt token)
  declineFound now userId invitation

def readRemoveMember (tenantId targetUserId : Id) (s : AccessStore) : Except HttpError Unit :=
  if (s.tenants.find? tenantId).isNone then .error (.notFound "Tenant not found.")
  else if (targetUserId, tenantId) ∉ s.memberships then
    .error (.notFound "User not found or is not a member of this tenant.")
  else if s.assignments.rows.any fun r => r.2.userId = targetUserId ∧ r.2.tenantId = tenantId ∧
      (s.roles.find? r.2.roleId).any fun role => role.name = SUPER_ADMIN_ROLE then
    .error (.forbidden "Cannot remove the SuperAdmin from the tenant. Transfer ownership first.")
  else .ok ()

/-- The assignments of a member go, and the membership. -/
def commitRemoveMember (tenantId targetUserId : Id) (s : AccessStore) : AccessStore :=
  (s.removeAssignments fun a => a.userId = targetUserId ∧ a.tenantId = tenantId).disconnect
    targetUserId tenantId

def removeTenantMember (tenantId targetUserId : Id) : AccessHandler Unit := do
  Handler.read (readRemoveMember tenantId targetUserId)
  Handler.write (commitRemoveMember tenantId targetUserId)

end TenantsService

structure CreateLocationDto where
  code : Option String
  email : String
  phone : String

namespace LocationService

def readCreateLocation (tenantId : Id) (dto : CreateLocationDto) (s : AccessStore) :
    Except HttpError Unit :=
  if (truthy dto.code).any fun code =>
      s.locations.rows.any fun r => r.2.code = some code ∧ r.2.tenantId = tenantId then
    .error (.conflict "A location with this code already exists.")
  else if s.locations.rows.any fun r => r.2.email = dto.email then
    .error (.conflict "A location with this email already exists.")
  else if s.locations.rows.any fun r => r.2.phone = dto.phone then
    .error (.conflict "A location with this phone already exists.")
  else if (s.tenants.find? tenantId).isNone then .error invalidReference
  else .ok ()

def create (tenantId : Id) (dto : CreateLocationDto) : AccessHandler Unit := do
  Handler.read (readCreateLocation tenantId dto)
  Handler.write fun s =>
    { s with locations := s.locations.create ⟨dto.code, dto.email, dto.phone, tenantId⟩ }

def readRemoveLocation (tenantId id : Id) (hasStockData : Bool) (s : AccessStore) :
    Except HttpError Unit :=
  if ((s.locations.find? id).filter fun l => l.tenantId = tenantId).isNone then
    .error (.notFound "Location not found.")
  else if hasStockData then
    .error (.conflict
      "Cannot delete location with existing stock data. Move or delete stock first.")
  else .ok ()

/-- A location goes, with the assignments at it. -/
def commitRemoveLocation (id : Id) (s : AccessStore) : AccessStore :=
  { s.removeAssignments fun a => a.locationId = some id with
    locations := s.locations.deleteWhere fun k _ => k = id }

def remove (tenantId id : Id) (hasStockData : Bool) : AccessHandler Unit := do
  Handler.read (readRemoveLocation tenantId id hasStockData)
  Handler.write (commitRemoveLocation id)

end LocationService

/-- What happens to an invitation after it has been sent. -/
inductive InvitationRequest
  | accept (userId : Id) (userEmail token : String)
  | decline (userId : Id) (token : String)
  | delete (tenantId invitationId : Id)

def serveInvitation (rt : Runtime) (now : ℕ) : InvitationRequest → AccessHandler Unit
  | .accept userId userEmail token =>
    TenantsService.acceptInvitation rt now userId userEmail token
  | .decline userId token => TenantsService.declineInvitation rt now userId token
  | .delete tenantId invitationId =>
    TenantsService.deleteTenantInvitation now tenantId invitationId

inductive AccessRequest
  | createTenant (userId : Id) (name : String)
  | invite (invitedById tenantId : Id) (dto : CreateTenantInvitationDto) (token : String)
  | invitation (request : InvitationRequest)
  | removeTenantMember (tenantId targetUserId : Id)
  | createRole (tenantId : Id) (dto : CreateRoleDto)
  | updateRole (id tenantId : Id) (dto : UpdateRoleDto)
  | removeRole (id tenantId : Id)
  | assignUser (tenantId : Id) (dto : RoleService.CreateUserAssignmentDto)
      (assignedById : Option Id)
  | removeUserAssignment (tenantId : Id) (dto : RoleService.RemoveUserAssignmentDto)
  | createLocation (tenantId : Id) (dto : CreateLocationDto)
  | removeLocation (tenantId id : Id) (hasStockData : Bool)

structure AccessCall where
  now : ℕ
  request : AccessRequest

def serveAccess (rt : Runtime) (call : AccessCall) : AccessHandler Unit :=
  match call.request with
  | .createTenant userId name => TenantsService.createTenant userId name
  | .invite invitedById tenantId dto token =>
    TenantsService.createTenantInvitation rt invitedById tenantId dto token
  | .invitation request => serveInvitation rt call.now request
  | .removeTenantMember tenantId targetUserId =>
    TenantsService.removeTenantMember tenantId targetUserId
  | .createRole tenantId dto => RoleService.create dto tenantId
  | .updateRole id tenantId dto => RoleService.update id tenantId dto
  | .removeRole id tenantId => RoleService.remove id tenantId
  | .assignUser tenantId dto assignedById => RoleService.assignUser tenantId dto assignedById
  | .removeUserAssignment tenantId dto => RoleService.removeUserAssignment tenantId dto
  | .createLocation tenantId dto => LocationService.create tenantId dto
  | .removeLocation tenantId id hasStockData => LocationService.remove tenantId id hasStockData

end Invetrixa
