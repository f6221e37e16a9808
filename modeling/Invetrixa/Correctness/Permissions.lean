import Invetrixa.Access.Modules
import Invetrixa.Correctness.Owners
import Invetrixa.Library.Loops

/-!
# What the guard lets through

Permissions are for modules that are in the database, and those are the ones of the code. Two
controllers ask for modules that are not among them, so that nobody may ever do anything there.
Of the others the SuperAdmin role of a tenant has all actions, but for the module of the modules:
the role is made so with its tenant, and nothing that is asked of the server changes it.

## Main definitions

- `Grantable` — what a permission may be
- `Configured` — a role has what the default role of a name is to have
- `PermissionsKept` — what every request keeps

## Main results

- `PermissionsKept.step` — a request
- `PermissionsKept.hasPermission`, `PermissionsKept.owner`
- `guard_decides`
-/

namespace Invetrixa

open Rowstore Requests TenantsService RoleService LocationService

variable {rt : Runtime} {s s' : AccessStore} {call : AccessCall} {roleId tenantId : Id}
  {modules : Serial ModuleRef} {permissions permissions' permissions'' : Serial RolePermission}

section Grants

/-- A permission of a module that is there, for actions of it or actions that a default role is
given by name. -/
def Grantable (modules : Serial ModuleRef) (p : RolePermission) : Prop :=
  ∃ module, modules.find? p.moduleRefId = some module ∧ ∀ action ∈ p.actions,
    action ∈ module.actions ∨ ∃ config ∈ tenantRolePermissions, ∃ actions,
      (module.name, DefaultPermission.actions actions) ∈ config.2 ∧ action ∈ actions

/-- A role has all actions of a module. -/
def HasAll (roleId : Id) (module : Id × ModuleRef) (permissions : Serial RolePermission) : Prop :=
  ∃ k, permissions.find? k = some ⟨roleId, module.1, module.2.actions⟩

/-- A role has all actions of the modules that a configuration gives it all actions of, if the
module is there and has any. -/
def Unlimited (modules : Serial ModuleRef) (permissions : Serial RolePermission) (roleId : Id)
    (config : List (String × DefaultPermission)) : Prop :=
  ∀ moduleName, (moduleName, .all) ∈ config → ∀ module,
    modules.rows.find? (fun m => m.2.name = moduleName) = some module →
      module.2.actions = [] ∨ HasAll roleId module permissions

/-- Permissions are added that may be. -/
structure PermissionsGrow (modules : Serial ModuleRef)
    (permissions permissions' : Serial RolePermission) : Prop where
  keeps : ∀ k p, permissions.find? k = some p → permissions'.find? k = some p
  adds : ∀ k p, permissions'.find? k = some p → permissions.find? k = some p ∨ Grantable modules p

theorem PermissionsGrow.refl (modules : Serial ModuleRef) (permissions : Serial RolePermission) :
    PermissionsGrow modules permissions permissions :=
  ⟨fun _ _ h => h, fun _ _ h => .inl h⟩

theorem PermissionsGrow.trans (h : PermissionsGrow modules permissions permissions')
    (h' : PermissionsGrow modules permissions' permissions'') :
    PermissionsGrow modules permissions permissions'' := by
  refine ⟨fun k p hp => h'.keeps k p (h.keeps k p hp), fun k p hp => ?_⟩
  cases h'.adds k p hp with
  | inl hp' => exact h.adds k p hp'
  | inr hgrantable => exact .inr hgrantable

theorem PermissionsGrow.create {p : RolePermission} (hp : Grantable modules p) :
    PermissionsGrow modules permissions (permissions.create p) := by
  constructor
  · intro k q hq
    exact Serial.find?_create_of_some hq _
  · intro k q hq
    obtain hold | ⟨_, rfl⟩ := Serial.find?_create_cases hq
    · exact .inl hold
    · exact .inr hp

theorem HasAll.grow {module : Id × ModuleRef} (h : HasAll roleId module permissions)
    (hgrow : PermissionsGrow modules permissions permissions') :
    HasAll roleId module permissions' := by
  obtain ⟨k, hk⟩ := h
  exact ⟨k, hgrow.keeps k _ hk⟩

theorem Unlimited.grow {config : List (String × DefaultPermission)}
    (h : Unlimited modules permissions roleId config)
    (hgrow : PermissionsGrow modules permissions permissions') :
    Unlimited modules permissions' roleId config := by
  intro moduleName hall module hmodule
  apply (h moduleName hall module hmodule).imp_right
  exact fun hhas => hhas.grow hgrow

/-- What `validatePermissions` has checked. -/
theorem grantable_of_validatePermissions {dto : Option (List PermissionUpdateDto)}
    (h : validatePermissions dto s = .ok ()) :
    ∀ d ∈ dto.getD [], Grantable s.modules ⟨roleId, d.moduleRefId, d.actions⟩ := by
  intro d hd
  have hnone : (dto.getD []).flatMap (permissionErrors s) = [] := by
    rw [validatePermissions] at h
    split at h
    · next hnil => exact hnil
    · cases h
  have herrors : permissionErrors s d = [] := List.flatMap_eq_nil_iff.mp hnone d hd
  rw [permissionErrors] at herrors
  split at herrors
  · cases herrors
  · next module hmodule =>
    refine ⟨module, hmodule, fun action haction => .inl ?_⟩
    split at herrors
    · next hinvalid =>
      have hvalid := List.filter_eq_nil_iff.mp hinvalid action haction
      simpa using hvalid
    · cases herrors

theorem grow_insertPermissions {l : List PermissionUpdateDto}
    (h : insertPermissions roleId l s = .ok s')
    (hl : ∀ d ∈ l, Grantable s.modules ⟨roleId, d.moduleRefId, d.actions⟩) :
    PermissionsGrow s.modules s.rolePermissions s'.rolePermissions := by
  induction l generalizing s with
  | nil =>
    obtain rfl := Except.ok.inj h
    exact .refl _ _
  | cons d rest ih =>
    obtain ⟨s₁, hfirst, h⟩ := Except.bind_eq_ok_iff.mp h
    obtain rfl := insertPermission_ok hfirst
    have hcreate : PermissionsGrow s.modules s.rolePermissions
        (s.rolePermissions.create ⟨roleId, d.moduleRefId, d.actions⟩) :=
      .create (hl d (.head _))
    exact hcreate.trans (ih h fun d' hd' => hl d' (.tail _ hd'))

/-- The default permission of a role for a module. -/
theorem grow_initializePermission {moduleName : String} {permission : DefaultPermission}
    {config : String × List (String × DefaultPermission)} (hconfig : config ∈ tenantRolePermissions)
    (hentry : (moduleName, permission) ∈ config.2)
    (h : initializePermission roleId moduleName permission s = .ok s') :
    (∃ rolePermissions, s' = { s with rolePermissions }) ∧
      PermissionsGrow s.modules s.rolePermissions s'.rolePermissions ∧
      (permission = .all → ∀ module,
        s.modules.rows.find? (fun m => m.2.name = moduleName) = some module →
          module.2.actions = [] ∨ HasAll roleId module s'.rolePermissions) := by
  rw [initializePermission] at h
  split at h
  · next hnone =>
    obtain rfl := Except.ok.inj h
    refine ⟨⟨_, rfl⟩, .refl _ _, fun _ module hmodule => ?_⟩
    rw [hnone] at hmodule
    cases hmodule
  · next module hmodule =>
    split at h
    · next hempty =>
      obtain rfl := Except.ok.inj h
      refine ⟨⟨_, rfl⟩, .refl _ _, ?_⟩
      intro hall module' hmodule'
      obtain rfl := Option.some.inj (hmodule.symm.trans hmodule')
      rw [hall] at hempty
      exact .inl hempty
    · next hactions =>
      obtain rfl := insertPermission_ok h
      have hname : module.2.name = moduleName := by simpa using List.find?_some hmodule
      have hfind : s.modules.find? module.1 = some module.2 :=
        Table.find?_of_mem_rows (List.mem_of_find?_eq_some hmodule)
      refine ⟨⟨_, rfl⟩, .create ⟨module.2, hfind, ?_⟩, ?_⟩
      · intro action haction
        cases permission with
        | all => exact .inl haction
        | actions actions =>
          exact .inr ⟨config, hconfig, actions, hname ▸ hentry, haction⟩
      · intro hall module' hmodule'
        obtain rfl := Option.some.inj (hmodule.symm.trans hmodule')
        rw [hall]
        exact .inr ⟨_, (Serial.find?_create _).trans (if_pos rfl)⟩

/-- The default permissions of a role. -/
theorem grow_initializePermissions {l : List (String × DefaultPermission)}
    {config : String × List (String × DefaultPermission)} (hconfig : config ∈ tenantRolePermissions)
    (hl : l ⊆ config.2) (h : initializePermissions roleId l s = .ok s') :
    PermissionsGrow s.modules s.rolePermissions s'.rolePermissions ∧
      Unlimited s.modules s'.rolePermissions roleId l := by
  induction l generalizing s with
  | nil =>
    obtain rfl := Except.ok.inj h
    refine ⟨.refl _ _, ?_⟩
    intro moduleName hmem
    cases hmem
  | cons entry rest ih =>
    obtain ⟨s₁, hfirst, h⟩ := Except.bind_eq_ok_iff.mp h
    obtain ⟨⟨rolePermissions, rfl⟩, hgrow, hall⟩ :=
      grow_initializePermission hconfig (hl List.mem_cons_self) hfirst
    obtain ⟨hgrow', hrest⟩ := ih (fun x hx => hl (List.mem_cons_of_mem _ hx)) h
    refine ⟨hgrow.trans hgrow', fun moduleName hmem module hmodule => ?_⟩
    obtain rfl | hmem := List.mem_cons.mp hmem
    · exact (hall rfl module hmodule).imp_right fun hhas => hhas.grow hgrow'
    · exact hrest moduleName hmem module hmodule

/-- A role that a tenant is made with has what it is configured to have. -/
def Configured (modules : Serial ModuleRef) (permissions : Serial RolePermission) (roleId : Id)
    (roleName : String) : Prop :=
  ∃ config, (roleName, config) ∈ tenantRolePermissions ∧
    Unlimited modules permissions roleId config

/-- The default roles of a tenant. -/
theorem grow_initializeDefaultRoles {configs : RoleConfigs}
    (hconfigs : configs ⊆ tenantRolePermissions)
    (h : initializeDefaultRoles tenantId configs s = .ok s') :
    PermissionsGrow s.modules s.rolePermissions s'.rolePermissions ∧
      ∀ k role, s'.roles.find? k = some role → s.roles.find? k = some role ∨
        Configured s.modules s'.rolePermissions k role.name := by
  induction configs generalizing s with
  | nil =>
    obtain rfl := Except.ok.inj h
    exact ⟨.refl _ _, fun _ _ hrole => .inl hrole⟩
  | cons config rest ih =>
    obtain ⟨⟨roleId, s₁⟩, hrole, h⟩ := Except.bind_eq_ok_iff.mp h
    obtain ⟨s₂, hpermissions, h⟩ := Except.bind_eq_ok_iff.mp h
    obtain ⟨rfl, rfl, _⟩ := insertRole_ok hrole
    have hconfig : config ∈ tenantRolePermissions := hconfigs List.mem_cons_self
    obtain ⟨hgrow, hall⟩ := grow_initializePermissions hconfig (List.Subset.refl _) hpermissions
    obtain ⟨rolePermissions, rfl⟩ := initializePermissions_ok hpermissions
    obtain ⟨hgrow', hrest⟩ := ih (fun x hx => hconfigs (List.mem_cons_of_mem _ hx)) h
    refine ⟨hgrow.trans hgrow', fun k role hk => ?_⟩
    obtain hk | hconfigured := hrest k role hk
    · obtain hold | ⟨rfl, rfl⟩ := Serial.find?_create_cases hk
      · exact .inl hold
      · exact .inr ⟨config.2, hconfig, hall.grow hgrow'⟩
    · exact .inr hconfigured

/-- The permissions of another role go. -/
theorem Unlimited.deleteRole {config : List (String × DefaultPermission)} {id : Id}
    (h : Unlimited modules permissions roleId config) (hne : roleId ≠ id) :
    Unlimited modules (permissions.deleteWhere fun _ p => p.roleId = id) roleId config := by
  intro moduleName hall module hmodule
  apply (h moduleName hall module hmodule).imp_right
  intro ⟨k, hk⟩
  exact ⟨k, Table.find?_deleteWhere_of_some hk (decide_eq_false hne)⟩

end Grants

section Steps

/-- What every request keeps: permissions are as they may be, roles belong to tenants that are
there, and each of these has its SuperAdmin role, with all that it is to have. -/
structure PermissionsKept (s : AccessStore) : Prop where
  grantable : s.rolePermissions.All fun _ p => Grantable s.modules p
  tenants : s.roles.All fun _ r => (s.tenants.find? r.tenantId).isSome
  administered : ∀ t, (s.tenants.find? t).isSome → ∃ k, s.roles.find? k = some ⟨SUPER_ADMIN_ROLE, t⟩
  configured : ∀ k t, s.roles.find? k = some ⟨SUPER_ADMIN_ROLE, t⟩ →
    Configured s.modules s.rolePermissions k SUPER_ADMIN_ROLE

theorem PermissionsKept.congr (h : PermissionsKept s) (htenants : s'.tenants = s.tenants)
    (hroles : s'.roles = s.roles) (hpermissions : s'.rolePermissions = s.rolePermissions)
    (hmodules : s'.modules = s.modules) : PermissionsKept s' := by
  constructor
  · rw [hpermissions, hmodules]
    exact h.grantable
  · rw [hroles, htenants]
    exact h.tenants
  · rw [hroles, htenants]
    exact h.administered
  · rw [hroles, hpermissions, hmodules]
    exact h.configured

theorem PermissionsKept.createTenant (h : PermissionsKept s) {userId : Id} {name : String}
    (hcommit : commitCreateTenant userId name s = .ok ((), s')) : PermissionsKept s' := by
  obtain ⟨s₁, s₂, hroles, hassign, rfl⟩ := commitCreateTenant_ok hcommit
  obtain ⟨assignments, rfl⟩ := assignSuperAdmin_ok hassign
  obtain ⟨hgrow, hnew⟩ := grow_initializeDefaultRoles (List.Subset.refl _) hroles
  obtain ⟨rolePermissions, rfl⟩ := initializeDefaultRoles_ok hroles
  constructor
  · intro k p hp
    cases hgrow.adds k p hp with
    | inl hold => exact h.grantable k p hold
    | inr hgrantable => exact hgrantable
  · exact tenants_withDefaultRoles h.tenants _
  · intro t ht
    obtain ⟨tenant, htenant⟩ := Option.isSome_iff_exists.mp ht
    obtain hold | ⟨rfl, _⟩ := Serial.find?_create_cases htenant
    · obtain ⟨k, hk⟩ := h.administered t (Option.isSome_of_mem hold)
      exact ⟨k, find?_withDefaultRoles hk⟩
    · obtain ⟨k, hk⟩ := Serial.exists_mem_rows_foldl_create
        (t := s.roles) (l := tenantRolePermissions.map fun c =>
          ({ name := c.1, tenantId := s.tenants.next } : Role))
        (r := ⟨SUPER_ADMIN_ROLE, s.tenants.next⟩) (.head _)
      exact ⟨k, Table.find?_of_mem_rows hk⟩
  · intro k t hk
    obtain hold | hconfigured := hnew k _ hk
    · obtain ⟨config, hconfig, hall⟩ := h.configured k t hold
      exact ⟨config, hconfig, hall.grow hgrow⟩
    · exact hconfigured

theorem PermissionsKept.createRole (h : PermissionsKept s) {dto : CreateRoleDto}
    (hread : readCreate dto tenantId s = .ok ())
    (hcommit : commitCreate dto tenantId s = .ok ((), s')) : PermissionsKept s' := by
  obtain ⟨_, hvalid⟩ := Except.ite_error_eq_ok_iff.mp hread
  obtain ⟨⟨roleId, s₁⟩, hrole, hcommit⟩ := Except.bind_eq_ok_iff.mp hcommit
  obtain ⟨s₂, hpermissions, hcommit⟩ := Except.bind_eq_ok_iff.mp hcommit
  obtain ⟨_, rfl⟩ := Prod.mk.inj (Except.ok.inj hcommit)
  obtain ⟨_, rfl, htenant, hunique⟩ := insertRole_ok hrole
  have hgrow := grow_insertPermissions hpermissions (grantable_of_validatePermissions hvalid)
  obtain ⟨rolePermissions, rfl⟩ := insertPermissions_ok hpermissions
  constructor
  · intro k p hp
    cases hgrow.adds k p hp with
    | inl hold => exact h.grantable k p hold
    | inr hgrantable => exact hgrantable
  · exact Serial.All_create h.tenants htenant
  · intro t ht
    obtain ⟨k, hk⟩ := h.administered t ht
    exact ⟨k, Serial.find?_create_of_some hk _⟩
  · intro k t hk
    obtain hold | ⟨rfl, heq⟩ := Serial.find?_create_cases hk
    · obtain ⟨config, hconfig, hall⟩ := h.configured k t hold
      exact ⟨config, hconfig, hall.grow hgrow⟩
    · -- the tenant has its SuperAdmin role already
      obtain ⟨hname, rfl⟩ := Role.mk.inj heq
      obtain ⟨k', hk'⟩ := h.administered t htenant
      exact absurd ⟨hname, rfl⟩ (hunique k' _ hk')

/-- The permissions of a role are as they were, or replaced. -/
theorem replacePermissions_cases {id : Id} {dto : Option (List PermissionUpdateDto)}
    (hvalid : validatePermissions dto s = .ok ())
    (h : replacePermissions id dto s = .ok s') :
    (∃ rolePermissions, s' = { s with rolePermissions }) ∧
      (dto = none → s'.rolePermissions = s.rolePermissions) ∧
      (s'.rolePermissions = s.rolePermissions ∨ PermissionsGrow s.modules
        (s.rolePermissions.deleteWhere fun _ p => p.roleId = id) s'.rolePermissions) := by
  simp only [replacePermissions] at h
  split at h
  · obtain rfl := Except.ok.inj h
    exact ⟨⟨_, rfl⟩, fun _ => rfl, .inl rfl⟩
  · next l =>
    have hgrow := grow_insertPermissions h (grantable_of_validatePermissions hvalid)
    obtain ⟨rolePermissions, rfl⟩ := insertPermissions_ok h
    refine ⟨⟨_, rfl⟩, ?_, .inr hgrow⟩
    intro hnone
    cases hnone

theorem PermissionsKept.updateRole (h : PermissionsKept s) {id : Id} {dto : UpdateRoleDto}
    {role : Role} (hread : readUpdate id tenantId dto s = .ok role)
    (hcommit : commitUpdate id dto role s = .ok ((), s')) : PermissionsKept s' := by
  obtain ⟨role', hfound, hread⟩ := Except.bind_eq_ok_iff.mp hread
  obtain ⟨_, hprotect, hread⟩ := Except.bind_eq_ok_iff.mp hread
  obtain ⟨_, hvalid, hread⟩ := Except.bind_eq_ok_iff.mp hread
  obtain rfl := Except.ok.inj hread
  obtain ⟨s₁, hname, hcommit⟩ := Except.bind_eq_ok_iff.mp hcommit
  obtain ⟨s₂, hpermissions, hcommit⟩ := Except.bind_eq_ok_iff.mp hcommit
  obtain ⟨_, rfl⟩ := Prod.mk.inj (Except.ok.inj hcommit)
  obtain ⟨hunique, hname⟩ := Except.ite_error_eq_ok_iff.mp hname
  obtain rfl := Except.ok.inj hname
  have hfind : s.roles.find? id = some role' := findOne_ok hfound
  obtain ⟨⟨rolePermissions, rfl⟩, hsame, hreplaced⟩ :=
    replacePermissions_cases (s := { s with roles := s.roles.modify id fun r =>
      { r with name := dto.name.getD role'.name } }) hvalid hpermissions
  have hgrantable : rolePermissions.All fun _ p => Grantable s.modules p := by
    obtain heq | hgrow := hreplaced
    · rw [show rolePermissions = s.rolePermissions from heq]
      exact h.grantable
    · intro k p hp
      cases hgrow.adds k p hp with
      | inl hold => exact h.grantable k p (Table.find?_of_find?_deleteWhere hold).1
      | inr hgrantable => exact hgrantable
  have htenants : (s.roles.modify id fun r => { r with name := dto.name.getD role'.name }).All
      fun _ r => (s.tenants.find? r.tenantId).isSome :=
    Table.All.modify h.tenants fun r _ hr => hr
  by_cases hsuper : role'.name = SUPER_ADMIN_ROLE
  · -- the SuperAdmin role keeps its name and its permissions
    have hkeep : dto.name.getD role'.name = role'.name := protectRole_ok hprotect hsuper
    have hnone : dto.permissions = none := by
      obtain ⟨_, hprotect⟩ := Except.ite_error_eq_ok_iff.mp hprotect
      obtain ⟨hpermitted, _⟩ := Except.ite_error_eq_ok_iff.mp hprotect
      by_contra hsome
      exact hpermitted ⟨isProtectedRole_iff.mpr hsuper, Option.isSome_iff_ne_none.mpr hsome⟩
    have hroles : s.roles.modify id (fun r => { r with name := dto.name.getD role'.name }) =
        s.roles := by
      refine Serial.eq_of_rows ?_ rfl
      have hrow : s.roles.toTable.modify id (fun r => { r with name := dto.name.getD role'.name }) =
          s.roles.toTable := by
        refine Table.modify_eq_self fun r hr => ?_
        obtain rfl := Option.some.inj (hr.symm.trans hfind)
        rw [hkeep]
      exact congrArg Table.rows hrow
    exact h.congr rfl hroles (hsame hnone) rfl
  · have hother : ∀ k t, s.roles.find? k = some ⟨SUPER_ADMIN_ROLE, t⟩ → k ≠ id := by
      rintro k t hk rfl
      obtain rfl := Option.some.inj (hk.symm.trans hfind)
      exact hsuper rfl
    have hstays : ∀ k t, s.roles.find? k = some ⟨SUPER_ADMIN_ROLE, t⟩ →
        (s.roles.modify id fun r => { r with name := dto.name.getD role'.name }).find? k =
          some ⟨SUPER_ADMIN_ROLE, t⟩ := by
      intro k t hk
      refine (Table.find?_modify _).trans ?_
      rw [if_neg (hother k t hk), hk]
    refine ⟨hgrantable, htenants, fun t ht => ?_, fun k t hk => ?_⟩
    · obtain ⟨k, hk⟩ := h.administered t ht
      exact ⟨k, hstays k t hk⟩
    · obtain ⟨hne, hold⟩ | ⟨rfl, r, hr, heq⟩ := Table.find?_modify_cases hk
      · obtain ⟨config, hconfig, hall⟩ := h.configured k t hold
        refine ⟨config, hconfig, ?_⟩
        obtain hsame | hgrow := hreplaced
        · rw [show rolePermissions = s.rolePermissions from hsame]
          exact hall
        · exact (hall.deleteRole hne).grow hgrow
      · -- no other role takes the name
        obtain rfl := Option.some.inj (hr.symm.trans hfind)
        obtain ⟨hname, htenant⟩ := Role.mk.inj heq
        obtain ⟨k', hk'⟩ := h.administered t (htenant ▸ h.tenants _ _ hfind)
        refine absurd (List.any_eq_true.mpr ⟨(k', _), Table.mem_rows_of_find? hk', ?_⟩) hunique
        exact decide_eq_true ⟨hother k' t hk', hname, htenant⟩

theorem PermissionsKept.removeRole (h : PermissionsKept s) {id : Id} {role : Role}
    (hfind : s.roles.find? id = some role) (hprotected : role.name ≠ SUPER_ADMIN_ROLE) :
    PermissionsKept (RoleService.commitRemove id s) := by
  have hother : ∀ k t, s.roles.find? k = some ⟨SUPER_ADMIN_ROLE, t⟩ → k ≠ id := by
    rintro k t hk rfl
    obtain rfl := Option.some.inj (hk.symm.trans hfind)
    exact hprotected rfl
  refine ⟨h.grantable.deleteWhere _, h.tenants.deleteWhere _, fun t ht => ?_, fun k t hk => ?_⟩
  · obtain ⟨k, hk⟩ := h.administered t ht
    exact ⟨k, Table.find?_deleteWhere_of_some hk (decide_eq_false (hother k t hk))⟩
  · obtain ⟨hold, hne⟩ := Table.find?_of_find?_deleteWhere hk
    obtain ⟨config, hconfig, hall⟩ := h.configured k t hold
    exact ⟨config, hconfig, hall.deleteRole (of_decide_eq_false hne)⟩

theorem ensures_createTenant (userId : Id) (name : String) :
    Handler.Ensures PermissionsKept (TenantsService.createTenant userId name)
      (fun _ => PermissionsKept) PermissionsKept := by
  apply Handler.Ensures.atomically
  · intro s _ s' h hcommit
    exact h.createTenant hcommit
  · intro s e h _
    exact h

theorem ensures_createRole (tenantId : Id) (dto : CreateRoleDto) :
    Handler.Ensures PermissionsKept (RoleService.create dto tenantId)
      (fun _ => PermissionsKept) PermissionsKept := by
  apply Handler.Ensures.bind
    (Q := fun _ s => PermissionsKept s ∧ readCreate dto tenantId s = .ok ())
  · exact Handler.Ensures.read (fun s _ h hread => ⟨h, hread⟩) fun s _ h _ => h
  · intro _
    apply Handler.Ensures.atomically
    · intro s _ s' h hcommit
      exact h.1.createRole h.2 hcommit
    · intro s e h _
      exact h.1

theorem ensures_updateRole (id tenantId : Id) (dto : UpdateRoleDto) :
    Handler.Ensures PermissionsKept (RoleService.update id tenantId dto)
      (fun _ => PermissionsKept) PermissionsKept := by
  apply Handler.Ensures.bind
    (Q := fun role s => PermissionsKept s ∧ readUpdate id tenantId dto s = .ok role)
  · exact Handler.Ensures.read (fun s _ h hread => ⟨h, hread⟩) fun s _ h _ => h
  · intro role
    apply Handler.Ensures.atomically
    · intro s _ s' h hcommit
      exact h.1.updateRole h.2 hcommit
    · intro s e h _
      exact h.1

/-- A request keeps the permissions as they may be, and the modules. -/
theorem PermissionsKept.step (h : PermissionsKept s) :
    PermissionsKept (serveAccess rt call s).2 ∧ (serveAccess rt call s).2.modules = s.modules := by
  have hstep := accessStep rt call s
  constructor
  · generalize hserve : serveAccess rt call s = result at hstep ⊢
    rw [serveAccess] at hserve
    cases hstep with
    | refused | settled | invited | accepted | memberRemoved | assigned | unassigned
    | locationCreated | locationRemoved => exact h.congr rfl rfl rfl rfl
    | tenantCreated userId name superAdminRole rolePermissions hrequest hrole hname =>
      rw [hrequest] at hserve
      exact hserve ▸ (ensures_createTenant userId name).snd h
    | roleCreated role rolePermissions dto hrequest htenant hunique =>
      rw [hrequest] at hserve
      exact hserve ▸ (ensures_createRole role.tenantId dto).snd h
    | roleUpdated id tenantId dto role name rolePermissions hrequest =>
      rw [hrequest] at hserve
      exact hserve ▸ (ensures_updateRole id tenantId dto).snd h
    | roleRemoved id tenantId role hrequest hfind hprotected => exact h.removeRole hfind hprotected
  · generalize serveAccess rt call s = result at hstep ⊢
    cases hstep <;> rfl

end Steps

section Modules

variable {descriptionChanged : String → Bool}

/-- The modules of the code, under the keys that they get in a new database. -/
def seededModules : Serial ModuleRef := MODULESREF.foldl Serial.create .empty

theorem nodup_moduleNames : (MODULESREF.map ModuleRef.name).Nodup := by decide

/-- Modules whose names are new are created. -/
theorem foldl_syncModuleRef_of_new {l : List ModuleRef} (hnodup : (l.map ModuleRef.name).Nodup)
    (hnew : ∀ m ∈ modules.rows, m.2.name ∉ l.map ModuleRef.name) :
    l.foldl (syncModuleRef descriptionChanged) modules = l.foldl Serial.create modules := by
  induction l generalizing modules with
  | nil => rfl
  | cons d rest ih =>
    obtain ⟨hd, hrest⟩ := List.nodup_cons.mp hnodup
    have hnone : modules.rows.find? (fun m => m.2.name = d.name) = none := by
      refine List.find?_eq_none.mpr fun m hm hsame => hnew m hm ?_
      rw [List.map_cons, of_decide_eq_true hsame]
      exact List.mem_cons_self
    have hcreate : syncModuleRef descriptionChanged modules d = modules.create d := by
      simp only [syncModuleRef, hnone]
    rw [List.foldl_cons, List.foldl_cons, hcreate]
    refine ih hrest fun m hm => ?_
    obtain hold | rfl := List.mem_append.mp hm |>.imp_right List.mem_singleton.mp
    · exact fun hmem => hnew m hold (List.mem_cons_of_mem _ hmem)
    · exact hd

theorem syncModules_empty : syncModules descriptionChanged .empty = seededModules :=
  foldl_syncModuleRef_of_new nodup_moduleNames fun m hm => by cases hm

/-- A module of the code is the one that is found under its name. -/
theorem find?_seededModules {d : ModuleRef} (hd : d ∈ MODULESREF) :
    ∃ k, seededModules.rows.find? (fun m => m.2.name = d.name) = some (k, d) := by
  obtain ⟨k, hk⟩ := Serial.exists_mem_rows_foldl_create (t := (.empty : Serial ModuleRef)) hd
  have hsome : (seededModules.rows.find? fun m => m.2.name = d.name).isSome :=
    List.find?_isSome.mpr ⟨(k, d), hk, decide_eq_true rfl⟩
  obtain ⟨⟨k', d'⟩, hfound⟩ := Option.isSome_iff_exists.mp hsome
  have hname : d'.name = d.name := by simpa using List.find?_some hfound
  refine ⟨k', ?_⟩
  obtain hold | hd' := Serial.mem_rows_foldl_create_cases (List.mem_of_find?_eq_some hfound)
  · cases hold
  · have hsame : d' = d := List.inj_on_of_nodup_map nodup_moduleNames hd' hd hname
    rw [hfound, hsame]

/-- A further start of the server finds the modules as they are. -/
theorem syncModules_seeded : syncModules descriptionChanged seededModules = seededModules := by
  refine Loops.foldl_eq_self fun d hd => ?_
  obtain ⟨k, hfound⟩ := find?_seededModules hd
  have hrow : seededModules.find? k = some d :=
    Table.find?_of_mem_rows (List.mem_of_find?_eq_some hfound)
  simp only [syncModuleRef, hfound]
  split
  · have hsame : seededModules.toTable.modify k (fun m => { m with actions := d.actions }) =
        seededModules.toTable := by
      refine Table.modify_eq_self fun m hm => ?_
      obtain rfl := Option.some.inj (hm.symm.trans hrow)
      rfl
    exact Serial.eq_of_rows (congrArg Table.rows hsame) rfl
  · rfl

theorem all_empty {ρ : Type} (P : Id → ρ → Prop) : (Serial.empty : Serial ρ).All P := by
  intro k r hr
  cases hr

/-- After any requests and starts, the modules are those of the code. -/
theorem permissionsKept_run (rt : Runtime) (users : Serial String)
    (descriptionChanged : String → Bool) (events : List AccessEvent) :
    PermissionsKept (AccessEvent.run rt users descriptionChanged events) ∧
      (AccessEvent.run rt users descriptionChanged events).modules = seededModules := by
  have hfold : ∀ (events : List AccessEvent) (s : AccessStore), PermissionsKept s →
      s.modules = seededModules → PermissionsKept (events.foldl (AccessEvent.serve rt) s) ∧
        (events.foldl (AccessEvent.serve rt) s).modules = seededModules := by
    intro events
    induction events with
    | nil => exact fun s h hmodules => ⟨h, hmodules⟩
    | cons event rest ih =>
      intro s h hmodules
      cases event with
      | request call =>
        have hstep := @PermissionsKept.step rt s call h
        exact ih (AccessEvent.serve rt s (.request call)) hstep.1 (hstep.2.trans hmodules)
      | start changed =>
        rw [List.foldl_cons, AccessEvent.serve, hmodules, syncModules_seeded]
        exact ih _ (h.congr rfl rfl rfl hmodules.symm) rfl
  have hstart :
      PermissionsKept { AccessStore.initial users .empty with modules := seededModules } := by
    constructor
    · exact all_empty _
    · exact all_empty _
    · intro t ht
      exact absurd ht Bool.false_ne_true
    · intro k t hk
      cases all_empty (fun _ _ => False) k _ hk
  rw [AccessEvent.run, List.foldl_cons]
  simp only [AccessEvent.serve, AccessStore.initial, syncModules_empty]
  exact hfold events _ hstart rfl

/-- Whoever may do something may do it with a module of the code: an action of it, or one that a
default role is given by name. -/
theorem PermissionsKept.hasPermission (h : PermissionsKept s) (hmodules : s.modules = seededModules)
    {userId : Id} {resource action : String} {locationId : Option Id}
    (hallowed : AccessControlService.hasPermission userId resource action tenantId locationId s) :
    ∃ module ∈ MODULESREF, module.name = resource ∧ (action ∈ module.actions ∨
      ∃ config ∈ tenantRolePermissions, ∃ actions,
        (resource, DefaultPermission.actions actions) ∈ config.2 ∧ action ∈ actions) := by
  obtain ⟨r, _, hr⟩ := List.any_eq_true.mp hallowed
  obtain ⟨_, _, _, hrole⟩ := of_decide_eq_true hr
  obtain ⟨⟨k, p⟩, hp, hallows⟩ := List.any_eq_true.mp hrole
  obtain ⟨_, hresource, haction⟩ := of_decide_eq_true hallows
  obtain ⟨module, hmodule, hactions⟩ := h.grantable k p (Table.find?_of_mem_rows hp)
  rw [hmodule, Option.any_some, decide_eq_true_eq] at hresource
  rw [hmodules] at hmodule
  obtain hold | hmem := Serial.mem_rows_foldl_create_cases (Table.mem_rows_of_find? hmodule)
  · cases hold
  · exact ⟨module, hmem, hresource, hresource ▸ hactions action haction⟩

/-- An owner may do all that the modules have, but for the module of the modules. -/
theorem PermissionsKept.owner (h : PermissionsKept s) (hmodules : s.modules = seededModules)
    {k : Id} {a : UserAssignment} (hfind : s.assignments.find? k = some a)
    (howner : IsOwner s tenantId a) {module : ModuleRef} (hmodule : module ∈ MODULESREF)
    (hname : module.name ≠ "Module") {action : String} (haction : action ∈ module.actions)
    (locationId : Option Id) :
    AccessControlService.hasPermission a.userId module.name action tenantId locationId s := by
  obtain ⟨htenant, hscope, hrole⟩ := howner
  obtain ⟨config, hconfig, hall⟩ := h.configured _ _ hrole
  have hentry : ∀ config, (SUPER_ADMIN_ROLE, config) ∈ tenantRolePermissions →
      ∀ m ∈ MODULESREF, m.name ≠ "Module" → (m.name, DefaultPermission.all) ∈ config := by
    simp [tenantRolePermissions, SUPER_ADMIN_ROLE, MODULESREF]
  obtain ⟨key, hfound⟩ := find?_seededModules hmodule
  have hhas := hall module.name (hentry config hconfig module hmodule hname) (key, module)
    (hmodules ▸ hfound)
  have hactions : module.actions ≠ [] := List.ne_nil_of_mem haction
  obtain ⟨id, hid⟩ := hhas.resolve_left hactions
  have hkey : s.modules.find? key = some module := by
    rw [hmodules]
    exact Table.find?_of_mem_rows (List.mem_of_find?_eq_some hfound)
  have hallows : AccessControlService.roleAllows a.roleId module.name action s = true := by
    refine List.any_eq_true.mpr ⟨_, Table.mem_rows_of_find? hid, decide_eq_true ⟨rfl, ?_, haction⟩⟩
    rw [hkey, Option.any_some, decide_eq_true_eq]
  refine List.any_eq_true.mpr ⟨_, Table.mem_rows_of_find? hfind, decide_eq_true ?_⟩
  refine ⟨rfl, htenant, ?_, hallows⟩
  rw [AccessControlService.appliesAt, hscope]

end Modules

section Guards

/-- What the handlers ask for is an action of a module, but for two controllers. -/
theorem required_actions : ∀ p ∈ requiredPermissions, p.1 ≠ "POS" → p.1 ≠ "INVOICE" →
    ∃ module ∈ MODULESREF, module.name = p.1 ∧ p.2 ⊆ module.actions := by
  decide

/-- After any requests and starts of the server, no request for a handler of the controllers of
sales and of invoices passes the guard, whoever makes it. A request for any other passes that an
owner of a tenant makes for the tenant, at whatever location, but for those of the modules. -/
theorem guard_decides (rt : Runtime) (users : Serial String) (descriptionChanged : String → Bool)
    (events : List AccessEvent) :
    ∀ p ∈ requiredPermissions, ∀ action ∈ p.2,
      (p.1 = "POS" ∨ p.1 = "INVOICE" → ∀ caller, AccessControlGuard.check (some (p.1, action))
        caller (AccessEvent.run rt users descriptionChanged events) ≠ .ok ()) ∧
      (p.1 ≠ "POS" → p.1 ≠ "INVOICE" → p.1 ≠ "Module" → ∀ tenantId k a,
        (AccessEvent.run rt users descriptionChanged events).assignments.find? k = some a →
        IsOwner (AccessEvent.run rt users descriptionChanged events) tenantId a →
        ∀ locationId, AccessControlGuard.check (some (p.1, action))
          ⟨some a.userId, some tenantId, locationId⟩
          (AccessEvent.run rt users descriptionChanged events) = .ok ()) := by
  obtain ⟨h, hmodules⟩ := permissionsKept_run rt users descriptionChanged events
  generalize AccessEvent.run rt users descriptionChanged events = s at h hmodules
  intro p hp action haction
  constructor
  · intro hname caller hcheck
    obtain ⟨userId, tenantId, _, _, hallowed⟩ := AccessControlGuard.check_ok_iff.mp hcheck
    obtain ⟨module, hmodule, hresource, _⟩ := h.hasPermission hmodules hallowed
    have hnames : ∀ m ∈ MODULESREF, m.name ≠ "POS" ∧ m.name ≠ "INVOICE" := by decide
    obtain ⟨hpos, hinvoice⟩ := hnames module hmodule
    rw [hresource] at hpos hinvoice
    exact hname.elim hpos hinvoice
  · intro hpos hinvoice hmoduleName tenantId k a hfind howner locationId
    obtain ⟨module, hmodule, hname, hsubset⟩ := required_actions p hp hpos hinvoice
    refine AccessControlGuard.check_ok_iff.mpr ⟨a.userId, tenantId, rfl, rfl, ?_⟩
    rw [← hname] at hmoduleName ⊢
    exact h.owner hmodules hfind howner hmodule hmoduleName (hsubset haction) locationId

/-- A user has created a tenant. -/
def teaShop : AccessStore :=
  AccessEvent.run .plain (Serial.empty.create "a@b.c") (fun _ => false)
    [.request ⟨0, .createTenant 0 "Tea"⟩, .start fun _ => true]

theorem guard_decides_teaShop :
    AccessControlGuard.check (some ("Stock", "stock.movement.create")) ⟨some 0, some 0, some 7⟩
      teaShop = .ok () ∧
    ∀ caller,
      AccessControlGuard.check (some ("POS", "pos.sale.create")) caller teaShop ≠ .ok () := by
  have hdecides := guard_decides .plain (Serial.empty.create "a@b.c") (fun _ => false)
    [.request ⟨0, .createTenant 0 "Tea"⟩, .start fun _ => true]
  constructor
  · have hfind : teaShop.assignments.find? 0 = some (ownerAssignment 0 0 0) := by decide +kernel
    have hrole : teaShop.roles.find? 0 = some ⟨SUPER_ADMIN_ROLE, 0⟩ := by decide +kernel
    exact (hdecides ("Stock", ["stock.movement.create"]) (by decide) "stock.movement.create"
      (by decide)).2 (by decide) (by decide) (by decide) 0 0 _ hfind ⟨rfl, rfl, hrole⟩ (some 7)
  · have hpos : requiredPermissions[6] ∈ requiredPermissions := List.getElem_mem _
    exact (hdecides _ hpos "pos.sale.create" (by decide)).1 (.inl rfl)

end Guards

end Invetrixa
