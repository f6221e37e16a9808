import Invetrixa.Access.InvitationSteps

/-!
# What a request does to the tables of the permission check

## Main results

- `accessStep` — every request is refused, or does one of the listed things, with what it has
  checked before
-/

namespace Invetrixa

open Rowstore Requests TenantsService RoleService LocationService

/-- Every invitation of a table stands for one of the other, with its tenant and role. -/
def KeepsInvitations (invitations invitations' : Serial TenantInvitation) : Prop :=
  ∀ k i', invitations'.find? k = some i' →
    ∃ i, invitations.find? k = some i ∧ i'.tenantId = i.tenantId ∧ i'.roleId = i.roleId

/-- The default roles of a tenant, after those that are there. -/
def withDefaultRoles (tenantId : Id) (roles : Serial Role) : Serial Role :=
  (tenantRolePermissions.map fun c => ({ name := c.1, tenantId } : Role)).foldl Serial.create roles

/-- An accept goes through: its token finds the invitation, which was sent to the address, is
pending and has not expired, and its transaction is committed. -/
structure Accepts (rt : Runtime) (now userId : ℕ) (userEmail token : String) (k : Id)
    (i : TenantInvitation) (s : AccessStore) : Prop where
  found : findInvitation rt token s = .ok (k, i)
  email : rt.toLowerCase userEmail = rt.toLowerCase i.email
  live : i.isExpired now = false
  pending : i.status = .pending
  commits : (commitAccept now userId (k, i) s).isOk

/-- An assignment goes through: its checks pass, and the row is taken. -/
structure Assigns (tenantId : Id) (dto : CreateUserAssignmentDto) (assignedById : Option Id)
    (s : AccessStore) : Prop where
  checks : readAssign tenantId dto s = .ok ()
  inserts : (insertAssignment (newAssignment tenantId dto assignedById) s).isOk

/-- What a request answers and does. -/
inductive AccessStep (rt : Runtime) (call : AccessCall) (s : AccessStore) :
    Except HttpError Unit × AccessStore → Prop
  | refused (e : HttpError) (invitations : Serial TenantInvitation)
      (hkeeps : KeepsInvitations s.invitations invitations) :
      AccessStep rt call s (.error e, { s with invitations })
  | settled (request : InvitationRequest) (invitations : Serial TenantInvitation)
      (hrequest : call.request = .invitation request)
      (hdeclined : ∀ userId userEmail token, request ≠ .accept userId userEmail token)
      (hkeeps : KeepsInvitations s.invitations invitations) :
      AccessStep rt call s (.ok (), { s with invitations })
  | invited (invitation : TenantInvitation) (invitedById : Id) (dto : CreateTenantInvitationDto)
      (token : String) (hrequest : call.request = .invite invitedById invitation.tenantId dto token)
      (hrole : ∀ id ∈ invitation.roleId,
        ∃ role ∈ s.roles.find? id, role.tenantId = invitation.tenantId) :
      AccessStep rt call s (.ok (), { s with invitations := s.invitations.create invitation })
  | accepted (userId : Id) (userEmail token : String) (k : Id) (i : TenantInvitation)
      (invitations : Serial TenantInvitation)
      (hrequest : call.request = .invitation (.accept userId userEmail token))
      (haccepts : Accepts rt call.now userId userEmail token k i s)
      (hkeeps : KeepsInvitations s.invitations invitations) :
      AccessStep rt call s (.ok (), { s.connect userId i.tenantId with
        assignments := withInvited userId i s.assignments, invitations })
  | tenantCreated (userId : Id) (name : String) (superAdminRole : Id × Role)
      (rolePermissions : Serial RolePermission)
      (hrequest : call.request = .createTenant userId name)
      (hrole : superAdminRole ∈ (withDefaultRoles s.tenants.next s.roles).rows)
      (hname : superAdminRole.2 = ⟨SUPER_ADMIN_ROLE, s.tenants.next⟩) :
      AccessStep rt call s (.ok (), { s.connect userId s.tenants.next with
        tenants := s.tenants.create { name, isAdministrator := false }
        roles := withDefaultRoles s.tenants.next s.roles
        rolePermissions
        assignments :=
          s.assignments.create (ownerAssignment userId s.tenants.next superAdminRole.1) })
  | memberRemoved (tenantId targetUserId : Id)
      (hrequest : call.request = .removeTenantMember tenantId targetUserId)
      (hnone : ∀ r ∈ s.assignments.rows, r.2.userId = targetUserId → r.2.tenantId = tenantId →
        ∀ role ∈ s.roles.find? r.2.roleId, role.name ≠ SUPER_ADMIN_ROLE) :
      AccessStep rt call s (.ok (), commitRemoveMember tenantId targetUserId s)
  | roleCreated (role : Role) (rolePermissions : Serial RolePermission)
      (dto : CreateRoleDto) (hrequest : call.request = .createRole role.tenantId dto)
      (htenant : (s.tenants.find? role.tenantId).isSome)
      (hunique : ∀ k r, s.roles.find? k = some r →
        ¬(r.name = role.name ∧ r.tenantId = role.tenantId)) :
      AccessStep rt call s (.ok (), { s with roles := s.roles.create role, rolePermissions })
  | roleUpdated (id tenantId : Id) (dto : UpdateRoleDto) (role : Role) (name : String)
      (rolePermissions : Serial RolePermission)
      (hrequest : call.request = .updateRole id tenantId dto)
      (hfind : s.roles.find? id = some role)
      (hprotected : role.name = SUPER_ADMIN_ROLE → name = role.name)
      (hunique : ∀ k r, s.roles.find? k = some r → k ≠ id →
        ¬(r.name = name ∧ r.tenantId = role.tenantId)) :
      AccessStep rt call s (.ok (),
        { s with roles := s.roles.modify id fun r => { r with name }, rolePermissions })
  | roleRemoved (id tenantId : Id) (role : Role) (hrequest : call.request = .removeRole id tenantId)
      (hfind : s.roles.find? id = some role) (hprotected : role.name ≠ SUPER_ADMIN_ROLE) :
      AccessStep rt call s (.ok (), RoleService.commitRemove id s)
  | assigned (tenantId : Id) (dto : CreateUserAssignmentDto) (assignedById : Option Id)
      (hrequest : call.request = .assignUser tenantId dto assignedById)
      (hassigns : Assigns tenantId dto assignedById s) :
      AccessStep rt call s (.ok (),
        { s with assignments := s.assignments.create (newAssignment tenantId dto assignedById) })
  | unassigned (tenantId : Id) (dto : RemoveUserAssignmentDto)
      (hrequest : call.request = .removeUserAssignment tenantId dto)
      (hremaining : ∀ role ∈ s.roles.find? dto.roleId, role.name = SUPER_ADMIN_ROLE →
        remainingAssignments tenantId dto s ≠ []) :
      AccessStep rt call s (.ok (), s.removeAssignments (dto.selects tenantId))
  | locationCreated (location : AccessLocation) (dto : CreateLocationDto)
      (hrequest : call.request = .createLocation location.tenantId dto) :
      AccessStep rt call s (.ok (), { s with locations := s.locations.create location })
  | locationRemoved (tenantId id : Id) (hasStockData : Bool)
      (hrequest : call.request = .removeLocation tenantId id hasStockData) :
      AccessStep rt call s (.ok (), commitRemoveLocation id s)

section Steps

variable {rt : Runtime} {s s' : AccessStore} {call : AccessCall} {id tenantId : Id}

theorem KeepsInvitations.refl (invitations : Serial TenantInvitation) :
    KeepsInvitations invitations invitations :=
  fun _ i' hi' => ⟨i', hi', rfl, rfl⟩

theorem AccessStep.refusal (e : HttpError) : AccessStep rt call s (.error e, s) :=
  .refused e s.invitations (KeepsInvitations.refl _)

/-- Settling an invitation keeps its tenant and its role. -/
theorem keepsInvitations_settle {f : TenantInvitation → TenantInvitation}
    (hf : ∀ i, (f i).tenantId = i.tenantId ∧ (f i).roleId = i.roleId) :
    KeepsInvitations s.invitations (settle id f s).invitations := by
  intro k i' hi'
  rcases Table.find?_modify_cases hi' with ⟨_, hi⟩ | ⟨rfl, i, hi, rfl⟩
  · exact ⟨i', hi, rfl, rfl⟩
  · exact ⟨i, hi, hf i⟩

theorem isProtectedRole_iff {name : String} : isProtectedRole name ↔ name = SUPER_ADMIN_ROLE := by
  simp [isProtectedRole, PROTECTED_ROLES]

theorem initializePermissions_ok {roleId : Id} {permissions : List (String × DefaultPermission)}
    (h : initializePermissions roleId permissions s = .ok s') :
    ∃ rolePermissions, s' = { s with rolePermissions } := by
  induction permissions generalizing s with
  | nil => exact ⟨_, (Except.ok.inj h).symm⟩
  | cons p rest ih =>
    obtain ⟨moduleName, permission⟩ := p
    obtain ⟨s₁, hfirst, h⟩ := Except.bind_eq_ok_iff.mp h
    have hs₁ : ∃ rolePermissions, s₁ = { s with rolePermissions } := by
      rw [initializePermission] at hfirst
      split at hfirst
      · exact ⟨_, (Except.ok.inj hfirst).symm⟩
      · split at hfirst
        · exact ⟨_, (Except.ok.inj hfirst).symm⟩
        · exact ⟨_, insertPermission_ok hfirst⟩
    obtain ⟨_, rfl⟩ := hs₁
    obtain ⟨rolePermissions, rfl⟩ := ih h
    exact ⟨rolePermissions, rfl⟩

theorem initializeDefaultRoles_ok {configs : RoleConfigs}
    (h : initializeDefaultRoles tenantId configs s = .ok s') :
    ∃ rolePermissions, s' = { s with
      roles := (configs.map fun c => ({ name := c.1, tenantId } : Role)).foldl Serial.create s.roles
      rolePermissions } := by
  induction configs generalizing s with
  | nil => exact ⟨_, (Except.ok.inj h).symm⟩
  | cons c rest ih =>
    obtain ⟨roleName, modulePermissions⟩ := c
    obtain ⟨⟨roleId, s₁⟩, hrole, h⟩ := Except.bind_eq_ok_iff.mp h
    obtain ⟨s₂, hpermissions, h⟩ := Except.bind_eq_ok_iff.mp h
    obtain ⟨_, rfl, _⟩ := insertRole_ok hrole
    obtain ⟨_, rfl⟩ := initializePermissions_ok hpermissions
    obtain ⟨rolePermissions, rfl⟩ := ih h
    exact ⟨rolePermissions, rfl⟩

/-- Requests about an invitation. -/
theorem accessStep_invitation {request : InvitationRequest}
    (hrequest : call.request = .invitation request) :
    AccessStep rt call s (serveInvitation rt call.now request s) := by
  have hstep := invitationStep rt ⟨call.now, request⟩ s
  generalize serveInvitation rt call.now request s = result at hstep ⊢
  cases hstep with
  | refused e => exact .refusal e
  | expired e k i hfinds hexpired =>
    exact .refused e _ (keepsInvitations_settle fun _ => ⟨rfl, rfl⟩)
  | accepted userId userEmail token k i haccept hfinds hlive hpending hcommits =>
    obtain rfl : request = _ := haccept
    exact .accepted userId userEmail token k i _ hrequest
      ⟨hfinds.1, hfinds.2, hlive, hpending, hcommits⟩ (keepsInvitations_settle fun _ => ⟨rfl, rfl⟩)
  | declined userId token k i hdecline hfinds hpending =>
    obtain rfl : request = _ := hdecline
    exact .settled _ _ hrequest (fun _ _ _ h => nomatch h)
      (keepsInvitations_settle fun _ => ⟨rfl, rfl⟩)
  | cancelled tenantId k i hdelete hfind hstatus =>
    obtain rfl : request = _ := hdelete
    exact .settled _ _ hrequest (fun _ _ _ h => nomatch h)
      (keepsInvitations_settle fun _ => ⟨rfl, rfl⟩)

/-- A transaction, after a read. -/
theorem accessStep_of_atomically {α : Type} {read : AccessStore → Except HttpError α}
    {commit : α → AccessStore → Except HttpError (Unit × AccessStore)}
    (h : ∀ a s', read s = .ok a → commit a s = .ok ((), s') → AccessStep rt call s (.ok (), s')) :
    AccessStep rt call s ((Handler.read read >>= fun a => Handler.atomically (commit a)) s) := by
  simp only [bind, Handler.read, Handler.atomically]
  cases hread : read s with
  | error e => exact .refusal e
  | ok a =>
    dsimp only
    cases hcommit : commit a s with
    | error e =>
      rw [transaction_of_error hcommit]
      exact .refusal e
    | ok result =>
      obtain ⟨_, s'⟩ := result
      rw [transaction_of_ok hcommit]
      exact h a s' hread hcommit

/-- A write, after a read. -/
theorem accessStep_of_write {read : AccessStore → Except HttpError Unit}
    {write : AccessStore → AccessStore}
    (h : read s = .ok () → AccessStep rt call s (.ok (), write s)) :
    AccessStep rt call s ((Handler.read read >>= fun _ => Handler.write write) s) := by
  simp only [bind, Handler.read, Handler.write]
  cases hread : read s with
  | error e => exact .refusal e
  | ok _ => exact h hread

theorem accessStep_createTenant {userId : Id} {name : String}
    (hrequest : call.request = .createTenant userId name) :
    AccessStep rt call s (createTenant userId name s) := by
  rw [createTenant, Handler.atomically]
  cases hcommit : commitCreateTenant userId name s with
  | error e =>
    rw [transaction_of_error hcommit]
    exact .refusal e
  | ok result =>
    obtain ⟨_, s'⟩ := result
    rw [transaction_of_ok hcommit]
    obtain ⟨s₁, s₂, hroles, hassign, rfl⟩ := commitCreateTenant_ok hcommit
    obtain ⟨rolePermissions, rfl⟩ := initializeDefaultRoles_ok hroles
    -- the SuperAdmin role is among the default roles
    obtain ⟨k, hk⟩ := Serial.exists_mem_rows_foldl_create
      (t := s.roles) (l := tenantRolePermissions.map fun c =>
        ({ name := c.1, tenantId := s.tenants.next } : Role))
      (r := ⟨SUPER_ADMIN_ROLE, s.tenants.next⟩) (.head _)
    rw [assignSuperAdmin] at hassign
    split at hassign
    · next hnone =>
      have hnot := List.find?_eq_none.mp hnone _ hk
      exact absurd (decide_eq_true ⟨rfl, rfl⟩) hnot
    · next superAdminRole hfound =>
      obtain rfl := insertAssignment_ok hassign
      have hname : superAdminRole.2.name = SUPER_ADMIN_ROLE ∧
          superAdminRole.2.tenantId = s.tenants.next := by
        simpa using List.find?_some hfound
      exact .tenantCreated userId name superAdminRole rolePermissions hrequest
        (List.mem_of_find?_eq_some hfound) (by rw [← hname.1, ← hname.2])

theorem accessStep_invite {invitedById : Id} {dto : CreateTenantInvitationDto} {token : String}
    (hrequest : call.request = .invite invitedById tenantId dto token) :
    AccessStep rt call s (createTenantInvitation rt invitedById tenantId dto token s) := by
  refine accessStep_of_atomically fun _ s' hread hinsert => ?_
  obtain ⟨_, hinsert⟩ := Except.ite_error_eq_ok_iff.mp hinsert
  obtain ⟨_, hinsert⟩ := Except.ite_error_eq_ok_iff.mp hinsert
  obtain ⟨_, rfl⟩ := Prod.mk.inj (Except.ok.inj hinsert)
  refine .invited _ invitedById dto token hrequest fun id hid => ?_
  obtain ⟨_, hread⟩ := Except.ite_error_eq_ok_iff.mp hread
  obtain ⟨_, hread⟩ := Except.ite_error_eq_ok_iff.mp hread
  obtain ⟨hrole, _⟩ := Except.ite_error_eq_ok_iff.mp hread
  have hdto : dto.roleId = some id := hid
  rw [hdto, Option.any_some, decide_eq_true_eq, not_not, Option.any_eq_true] at hrole
  obtain ⟨role, hfind, htenant⟩ := hrole
  exact ⟨role, hfind, of_decide_eq_true htenant⟩

theorem accessStep_removeTenantMember {targetUserId : Id}
    (hrequest : call.request = .removeTenantMember tenantId targetUserId) :
    AccessStep rt call s (removeTenantMember tenantId targetUserId s) := by
  refine accessStep_of_write fun hread => .memberRemoved tenantId targetUserId hrequest ?_
  intro r hr huser htenant role hrole hname
  obtain ⟨_, hread⟩ := Except.ite_error_eq_ok_iff.mp hread
  obtain ⟨_, hread⟩ := Except.ite_error_eq_ok_iff.mp hread
  obtain ⟨hnone, _⟩ := Except.ite_error_eq_ok_iff.mp hread
  refine hnone (List.any_eq_true.mpr ⟨r, hr, decide_eq_true ⟨huser, htenant, ?_⟩⟩)
  rw [Option.mem_def.mp hrole]
  exact decide_eq_true hname

theorem accessStep_createRole {dto : CreateRoleDto}
    (hrequest : call.request = .createRole tenantId dto) :
    AccessStep rt call s (RoleService.create dto tenantId s) := by
  refine accessStep_of_atomically fun _ s' _ hcommit => ?_
  obtain ⟨⟨roleId, s₁⟩, hrole, h⟩ := Except.bind_eq_ok_iff.mp hcommit
  obtain ⟨s₂, hpermissions, h⟩ := Except.bind_eq_ok_iff.mp h
  obtain ⟨_, rfl⟩ := Prod.mk.inj (Except.ok.inj h)
  obtain ⟨_, rfl, htenant, hunique⟩ := insertRole_ok hrole
  obtain ⟨rolePermissions, rfl⟩ := insertPermissions_ok hpermissions
  exact .roleCreated ⟨dto.name, tenantId⟩ rolePermissions dto hrequest htenant hunique

theorem findOne_ok {role : Role} (h : findOne id tenantId s = .ok role) :
    s.roles.find? id = some role := by
  rw [findOne] at h
  split at h
  · cases h
  · next found hfound =>
    split at h
    · cases h
    · rw [hfound, Except.ok.inj h]

/-- The SuperAdmin role keeps its name. -/
theorem protectRole_ok {dto : UpdateRoleDto} {role : Role} (h : protectRole dto role = .ok ())
    (hname : role.name = SUPER_ADMIN_ROLE) : dto.name.getD role.name = role.name := by
  obtain ⟨hrename, _⟩ := Except.ite_error_eq_ok_iff.mp h
  cases hdto : dto.name with
  | none => rfl
  | some name =>
    rw [Option.getD_some]
    by_contra hne
    refine hrename ⟨isProtectedRole_iff.mpr hname, ?_⟩
    rw [hdto]
    refine decide_eq_true ⟨?_, hne⟩
    rintro rfl
    exact dto.name_nonempty hdto

theorem accessStep_updateRole {dto : UpdateRoleDto}
    (hrequest : call.request = .updateRole id tenantId dto) :
    AccessStep rt call s (RoleService.update id tenantId dto s) := by
  refine accessStep_of_atomically fun role s' hread hcommit => ?_
  obtain ⟨role', hfind, h⟩ := Except.bind_eq_ok_iff.mp hread
  obtain ⟨_, hprotect, h⟩ := Except.bind_eq_ok_iff.mp h
  obtain ⟨_, _, h⟩ := Except.bind_eq_ok_iff.mp h
  obtain rfl := Except.ok.inj h
  obtain ⟨s₁, hname, h⟩ := Except.bind_eq_ok_iff.mp hcommit
  obtain ⟨s₂, hpermissions, h⟩ := Except.bind_eq_ok_iff.mp h
  obtain ⟨_, rfl⟩ := Prod.mk.inj (Except.ok.inj h)
  obtain ⟨hunique, hname⟩ := Except.ite_error_eq_ok_iff.mp hname
  obtain rfl := Except.ok.inj hname
  have hpermissions' : ∃ rolePermissions, s₂ = { s with
      roles := s.roles.modify id fun r => { r with name := dto.name.getD role'.name }
      rolePermissions } := by
    simp only [replacePermissions] at hpermissions
    split at hpermissions
    · exact ⟨_, (Except.ok.inj hpermissions).symm⟩
    · exact insertPermissions_ok hpermissions
  obtain ⟨rolePermissions, rfl⟩ := hpermissions'
  refine .roleUpdated id tenantId dto role' _ rolePermissions hrequest (findOne_ok hfind)
    (protectRole_ok hprotect) fun k r hr hne hsame => hunique ?_
  exact List.any_eq_true.mpr
    ⟨(k, r), Table.mem_rows_of_find? hr, decide_eq_true ⟨hne, hsame.1, hsame.2⟩⟩

theorem accessStep_removeRole (hrequest : call.request = .removeRole id tenantId) :
    AccessStep rt call s (RoleService.remove id tenantId s) := by
  refine accessStep_of_write fun hread => ?_
  obtain ⟨role, hfind, h⟩ := Except.bind_eq_ok_iff.mp hread
  refine .roleRemoved id tenantId role hrequest (findOne_ok hfind) fun hname => ?_
  rw [if_pos (isProtectedRole_iff.mpr hname)] at h
  cases h

/-- What `assignUser` has checked. -/
theorem readAssign_ok {dto : CreateUserAssignmentDto} (h : readAssign tenantId dto s = .ok ()) :
    (∃ role ∈ s.roles.find? dto.roleId, role.tenantId = tenantId) ∧
      (dto.accessScope = .location ↔ dto.locationId.isSome) ∧
      ∀ id ∈ dto.locationId, (s.locations.find? id).isSome := by
  rw [readAssign] at h
  split at h
  · cases h
  · next role hrole =>
    obtain ⟨htenant, h⟩ := Except.ite_error_eq_ok_iff.mp h
    obtain ⟨_, h⟩ := Except.ite_error_eq_ok_iff.mp h
    obtain ⟨hlocation, h⟩ := Except.ite_error_eq_ok_iff.mp h
    obtain ⟨htenantScope, h⟩ := Except.ite_error_eq_ok_iff.mp h
    obtain ⟨hthere, _⟩ := Except.ite_error_eq_ok_iff.mp h
    refine ⟨⟨role, hrole, not_not.mp htenant⟩, ?_, fun id hid => ?_⟩
    · cases hscope : dto.accessScope with
      | tenant =>
        refine ⟨fun h => absurd h (by decide), fun hsome => absurd ?_ htenantScope⟩
        exact ⟨hscope, Option.isSome_iff_ne_none.mp hsome⟩
      | location =>
        refine ⟨fun _ => Option.isSome_iff_ne_none.mpr fun hnone => ?_, fun _ => rfl⟩
        exact hlocation ⟨hscope, hnone⟩
    · rw [Option.mem_def.mp hid] at hthere
      simpa [← Option.isSome_iff_ne_none] using hthere

/-- The location of an assignment is the one that was asked for. -/
theorem newAssignment_locationId {dto : CreateUserAssignmentDto} (assignedById : Option Id)
    (h : readAssign tenantId dto s = .ok ()) :
    (newAssignment tenantId dto assignedById).locationId = dto.locationId := by
  show (if dto.accessScope = .location then dto.locationId else none) = dto.locationId
  split
  · rfl
  · next hscope =>
    rw [(readAssign_ok h).2.1, Option.not_isSome_iff_eq_none] at hscope
    exact hscope.symm

theorem accessStep_assignUser {dto : CreateUserAssignmentDto} {assignedById : Option Id}
    (hrequest : call.request = .assignUser tenantId dto assignedById) :
    AccessStep rt call s (assignUser tenantId dto assignedById s) := by
  refine accessStep_of_atomically fun _ s' hread hcommit => ?_
  rw [commitAssign] at hcommit
  split at hcommit
  · next s₁ hinsert =>
    obtain ⟨_, rfl⟩ := Prod.mk.inj (Except.ok.inj hcommit)
    have hassigns : Assigns tenantId dto assignedById s := ⟨hread, by rw [hinsert]; rfl⟩
    rw [insertAssignment_ok hinsert]
    exact .assigned tenantId dto assignedById hrequest hassigns
  · cases hcommit

theorem accessStep_removeUserAssignment {dto : RemoveUserAssignmentDto}
    (hrequest : call.request = .removeUserAssignment tenantId dto) :
    AccessStep rt call s (removeUserAssignment tenantId dto s) := by
  refine accessStep_of_atomically fun _ s' hread hcommit => ?_
  rw [commitRemoveAssignment] at hcommit
  split at hcommit
  · obtain ⟨_, rfl⟩ := Prod.mk.inj (Except.ok.inj hcommit)
    refine .unassigned tenantId dto hrequest fun role hrole hname hempty => ?_
    rw [readRemoveAssignment] at hread
    split at hread
    · cases hread
    · next hnot =>
      refine hnot ⟨?_, List.length_eq_zero_iff.mpr hempty⟩
      rw [Option.mem_def.mp hrole]
      exact isProtectedRole_iff.mpr hname
  · cases hcommit

/-- Every request is refused, or does one of these things. -/
theorem accessStep (rt : Runtime) (call : AccessCall) (s : AccessStore) :
    AccessStep rt call s (serveAccess rt call s) := by
  rw [serveAccess]
  cases hrequest : call.request with
  | createTenant userId name => exact accessStep_createTenant hrequest
  | invite invitedById tenantId dto token => exact accessStep_invite hrequest
  | invitation request => exact accessStep_invitation hrequest
  | removeTenantMember tenantId targetUserId => exact accessStep_removeTenantMember hrequest
  | createRole tenantId dto => exact accessStep_createRole hrequest
  | updateRole id tenantId dto => exact accessStep_updateRole hrequest
  | removeRole id tenantId => exact accessStep_removeRole hrequest
  | assignUser tenantId dto assignedById => exact accessStep_assignUser hrequest
  | removeUserAssignment tenantId dto => exact accessStep_removeUserAssignment hrequest
  | createLocation tenantId dto =>
    exact accessStep_of_write fun _ => .locationCreated _ dto hrequest
  | removeLocation tenantId id hasStockData =>
    exact accessStep_of_write fun _ => .locationRemoved tenantId id hasStockData hrequest

end Steps

end Invetrixa
