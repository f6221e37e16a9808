import Invetrixa.Correctness.Onboarding

/-!
# The invitations that a user is shown

What an invitation refers to is there as long as it is: its tenant, its inviter, and its role. So
an invitation in the list of a user can be accepted by its token.

## Main definitions

- `InvitationsKept` — what invitations refer to is there, and their tokens are distinct

## Main results

- `pending_invitation_accepted` — the token of an invitation that is shown makes the user a member
  with the role of the invitation, and completes the onboarding
-/

namespace Invetrixa

open Rowstore Requests TenantsService

/-- What invitations refer to is there, and no two have one token. -/
structure InvitationsKept (s : AccessStore) : Prop where
  inviters : ∀ id i, s.invitations.find? id = some i → (s.users.find? i.invitedById).isSome
  tenants : ∀ id i, s.invitations.find? id = some i → (s.tenants.find? i.tenantId).isSome
  roles : ∀ id i, s.invitations.find? id = some i → ∀ roleId ∈ i.roleId,
    (s.roles.find? roleId).isSome
  tokens : ∀ id i id' i', s.invitations.find? id = some i → s.invitations.find? id' = some i' →
    i.tokenHash = i'.tokenHash → id = id'

section Steps

variable {rt : Runtime} {call : AccessCall} {s s' : AccessStore}
  {result : Except HttpError Unit × AccessStore}

theorem AccessStep.isSome_tenants (h : AccessStep rt call s result) {id : Id}
    (hid : (s.tenants.find? id).isSome) : (result.2.tenants.find? id).isSome := by
  cases h with
  | tenantCreated userId name superAdminRole rolePermissions hrequest =>
    obtain ⟨tenant, htenant⟩ := Option.isSome_iff_exists.mp hid
    exact Option.isSome_iff_exists.mpr ⟨tenant, Serial.find?_create_of_some htenant _⟩
  | _ => exact hid

/-- Roles go only when they are removed. -/
theorem AccessStep.isSome_roles (h : AccessStep rt call s result)
    (hremove : ∀ id tenantId, call.request ≠ .removeRole id tenantId) {id : Id}
    (hid : (s.roles.find? id).isSome) : (result.2.roles.find? id).isSome := by
  obtain ⟨role, hrole⟩ := Option.isSome_iff_exists.mp hid
  cases h with
  | tenantCreated userId name superAdminRole rolePermissions hrequest =>
    have hmem := Serial.mem_rows_foldl_create
      (tenantRolePermissions.map fun c => ({ name := c.1, tenantId := s.tenants.next } : Role))
      (Table.mem_rows_of_find? hrole)
    exact Option.isSome_iff_exists.mpr ⟨role, Table.find?_of_mem_rows hmem⟩
  | roleCreated role' rolePermissions =>
    exact Option.isSome_iff_exists.mpr ⟨role, Serial.find?_create_of_some hrole _⟩
  | roleUpdated id' tenantId dto role' name rolePermissions =>
    show ((s.roles.modify id' _).find? id).isSome = true
    rw [Serial.isSome_find?_modify]
    exact hid
  | roleRemoved id' tenantId role' hrequest => exact absurd hrequest (hremove id' tenantId)
  | _ => exact hid

/-- A request that leaves the invitations, and loses nothing that they refer to. -/
theorem InvitationsKept.frame (h : InvitationsKept s)
    (hinvitations : s'.invitations = s.invitations) (husers : s'.users = s.users)
    (htenants : ∀ id, (s.tenants.find? id).isSome → (s'.tenants.find? id).isSome)
    (hroles : ∀ id, (s.roles.find? id).isSome → (s'.roles.find? id).isSome) :
    InvitationsKept s' := by
  constructor
  · rw [hinvitations, husers]
    exact h.inviters
  · rw [hinvitations]
    exact fun id i hi => htenants _ (h.tenants id i hi)
  · rw [hinvitations]
    exact fun id i hi roleId hrole => hroles _ (h.roles id i hi roleId hrole)
  · rw [hinvitations]
    exact h.tokens

/-- The invitations are those that were there, with no roles but theirs. -/
theorem InvitationsKept.of_old (h : InvitationsKept s) (husers : s'.users = s.users)
    (htenants : s'.tenants = s.tenants)
    (hold : ∀ id i, s'.invitations.find? id = some i →
      ∃ i₀, s.invitations.find? id = some i₀ ∧ i.invitedById = i₀.invitedById ∧
        i.tenantId = i₀.tenantId ∧ i.tokenHash = i₀.tokenHash ∧ ∀ roleId ∈ i.roleId,
          roleId ∈ i₀.roleId ∧ s'.roles.find? roleId = s.roles.find? roleId) :
    InvitationsKept s' := by
  constructor
  · intro id i hi
    obtain ⟨i₀, hi₀, hinviter, _⟩ := hold id i hi
    rw [hinviter, husers]
    exact h.inviters id i₀ hi₀
  · intro id i hi
    obtain ⟨i₀, hi₀, _, htenant, _⟩ := hold id i hi
    rw [htenant, htenants]
    exact h.tenants id i₀ hi₀
  · intro id i hi roleId hrole
    obtain ⟨i₀, hi₀, _, _, _, hroles⟩ := hold id i hi
    obtain ⟨hmem, hsame⟩ := hroles roleId hrole
    rw [hsame]
    exact h.roles id i₀ hi₀ roleId hmem
  · intro id i id' i' hi hi' htoken
    obtain ⟨i₀, hi₀, _, _, hsame, _⟩ := hold id i hi
    obtain ⟨i₁, hi₁, _, _, hsame', _⟩ := hold id' i' hi'
    exact h.tokens id i₀ id' i₁ hi₀ hi₁ (hsame.symm.trans (htoken.trans hsame'))

/-- What has become of an invitation is written. -/
theorem InvitationsKept.settle (h : InvitationsKept s) (k : Id)
    {f : TenantInvitation → TenantInvitation}
    (hf : ∀ i, (f i).invitedById = i.invitedById ∧ (f i).tenantId = i.tenantId ∧
      (f i).roleId = i.roleId ∧ (f i).tokenHash = i.tokenHash) :
    InvitationsKept (TenantsService.settle k f s) := by
  refine h.of_old rfl rfl fun id i hi => ?_
  obtain ⟨_, hi₀⟩ | ⟨_, i₀, hi₀, rfl⟩ := Table.find?_modify_cases hi
  · exact ⟨i, hi₀, rfl, rfl, rfl, fun roleId hrole => ⟨hrole, rfl⟩⟩
  · obtain ⟨hinviter, htenant, hroles, htoken⟩ := hf i₀
    exact ⟨i₀, hi₀, hinviter, htenant, htoken, fun roleId hrole => ⟨hroles ▸ hrole, rfl⟩⟩

/-- A role that is removed is no invitation's any more. -/
theorem InvitationsKept.removeRole (h : InvitationsKept s) (roleId : Id) :
    InvitationsKept (RoleService.commitRemove roleId s) := by
  refine h.of_old rfl rfl fun id i hi => ?_
  change (s.invitations.modifyWhere _ _).find? id = some i at hi
  rw [Serial.toTable_modifyWhere, Table.find?_modifyWhere, Option.map_eq_some_iff] at hi
  obtain ⟨i₀, hi₀, rfl⟩ := hi
  refine ⟨i₀, hi₀, ?_⟩
  by_cases hrole : i₀.roleId = some roleId
  · simp [hrole]
  · simp only [hrole, decide_false, Bool.false_eq_true, if_false, true_and]
    rintro role hmem
    have hne : role ≠ roleId := by
      rintro rfl
      exact hrole hmem
    refine ⟨hmem, ?_⟩
    obtain ⟨row, hrow⟩ := Option.isSome_iff_exists.mp (h.roles id i₀ hi₀ role hmem)
    rw [hrow]
    exact Table.find?_deleteWhere_of_some hrow (decide_eq_false hne)

theorem InvitationsKept.create (h : InvitationsKept s) {i : TenantInvitation}
    (htoken : ∀ id i', s.invitations.find? id = some i' → i'.tokenHash ≠ i.tokenHash)
    (hinviter : (s.users.find? i.invitedById).isSome)
    (htenant : (s.tenants.find? i.tenantId).isSome)
    (hrole : ∀ roleId ∈ i.roleId, (s.roles.find? roleId).isSome) :
    InvitationsKept { s with invitations := s.invitations.create i } := by
  constructor
  · intro id i' hi'
    obtain hold | ⟨rfl, rfl⟩ := Serial.find?_create_cases hi'
    · exact h.inviters id i' hold
    · exact hinviter
  · intro id i' hi'
    obtain hold | ⟨rfl, rfl⟩ := Serial.find?_create_cases hi'
    · exact h.tenants id i' hold
    · exact htenant
  · intro id i' hi'
    obtain hold | ⟨rfl, rfl⟩ := Serial.find?_create_cases hi'
    · exact h.roles id i' hold
    · exact hrole
  · intro id i₁ id' i₂ hi₁ hi₂ hsame
    obtain hold₁ | ⟨rfl, rfl⟩ := Serial.find?_create_cases hi₁ <;>
      obtain hold₂ | ⟨rfl, rfl⟩ := Serial.find?_create_cases hi₂
    · exact h.tokens id i₁ id' i₂ hold₁ hold₂ hsame
    · exact absurd hsame (htoken id i₁ hold₁)
    · exact absurd hsame.symm (htoken id' i₂ hold₂)
    · rfl

end Steps

section Requests

variable {rt : Runtime} {s : AccessStore}

variable (rt) in
/-- Requests about an invitation. -/
theorem invitationsKept_invitation (h : InvitationsKept s) (now : ℕ) (request : InvitationRequest) :
    InvitationsKept (serveInvitation rt now request s).2 := by
  have hstep := invitationStep rt ⟨now, request⟩ s
  generalize serveInvitation rt now request s = result at hstep ⊢
  cases hstep with
  | refused e => exact h
  | expired e k i => exact h.settle k fun _ => ⟨rfl, rfl, rfl, rfl⟩
  | accepted userId userEmail token k i hrequest =>
    exact (h.settle k (f := accepted now userId) fun _ => ⟨rfl, rfl, rfl, rfl⟩).frame rfl rfl
      (fun _ hid => hid) (fun _ hid => hid)
  | declined userId token k i => exact h.settle k fun _ => ⟨rfl, rfl, rfl, rfl⟩
  | cancelled tenantId k i => exact h.settle k fun _ => ⟨rfl, rfl, rfl, rfl⟩

theorem invitationsKept_invite (h : InvitationsKept s) (invitedById tenantId : Id)
    (dto : CreateTenantInvitationDto) (token : String) :
    InvitationsKept (createTenantInvitation rt invitedById tenantId dto token s).2 := by
  simp only [createTenantInvitation, bind, Handler.read]
  cases hread : readCreateInvitation rt tenantId dto s with
  | error e => exact h
  | ok _ =>
    dsimp only
    obtain ⟨htenant, hread⟩ := Except.ite_error_eq_ok_iff.mp hread
    obtain ⟨_, hread⟩ := Except.ite_error_eq_ok_iff.mp hread
    obtain ⟨hroles, _⟩ := Except.ite_error_eq_ok_iff.mp hread
    rw [Handler.atomically]
    refine transaction_preserves (I := InvitationsKept) h fun _ s' hinsert => ?_
    obtain ⟨hclash, hinsert⟩ := Except.ite_error_eq_ok_iff.mp hinsert
    obtain ⟨hinviter, hinsert⟩ := Except.ite_error_eq_ok_iff.mp hinsert
    obtain ⟨_, rfl⟩ := Prod.mk.inj (Except.ok.inj hinsert)
    rw [Option.isNone_iff_eq_none, ← ne_eq, ← Option.isSome_iff_ne_none] at htenant hinviter
    refine h.create (fun id i hi htoken => hclash ?_) hinviter htenant fun roleId hrole => ?_
    · exact List.any_eq_true.mpr ⟨(id, i), Table.mem_rows_of_find? hi, decide_eq_true htoken⟩
    · have hdto : dto.roleId = some roleId := hrole
      rw [hdto, Option.any_some, decide_eq_true_eq, not_not, Option.any_eq_true] at hroles
      obtain ⟨role, hfind, _⟩ := hroles
      exact Option.isSome_iff_exists.mpr ⟨role, hfind⟩

/-- A transaction after a read, where the transaction writes no invitation. -/
theorem keeps_invitations {α : Type} {read : AccessStore → Except HttpError α}
    {commit : α → AccessStore → Except HttpError (Unit × AccessStore)}
    (hcommit : ∀ a s s', commit a s = .ok ((), s') → s'.invitations = s.invitations) :
    Handler.Keeps AccessStore.invitations
      (Handler.read read >>= fun a => Handler.atomically (commit a)) := by
  apply Handler.Keeps.bind (Handler.Keeps.read read)
  intro a
  apply Handler.Keeps.atomically
  exact fun s _ s' h => hcommit a s s' h

theorem keeps_createRole (tenantId : Id) (dto : CreateRoleDto) :
    Handler.Keeps AccessStore.invitations (RoleService.create dto tenantId) := by
  apply keeps_invitations
  intro _ s s' h
  obtain ⟨⟨roleId, s₁⟩, hrole, h⟩ := Except.bind_eq_ok_iff.mp h
  obtain ⟨s₂, hpermissions, h⟩ := Except.bind_eq_ok_iff.mp h
  obtain ⟨_, rfl⟩ := Prod.mk.inj (Except.ok.inj h)
  obtain ⟨_, rfl, _⟩ := RoleService.insertRole_ok hrole
  obtain ⟨rolePermissions, rfl⟩ := RoleService.insertPermissions_ok hpermissions
  rfl

theorem keeps_updateRole (id tenantId : Id) (dto : UpdateRoleDto) :
    Handler.Keeps AccessStore.invitations (RoleService.update id tenantId dto) := by
  apply keeps_invitations
  intro role s s' h
  obtain ⟨s₁, hname, h⟩ := Except.bind_eq_ok_iff.mp h
  obtain ⟨s₂, hpermissions, h⟩ := Except.bind_eq_ok_iff.mp h
  obtain ⟨_, rfl⟩ := Prod.mk.inj (Except.ok.inj h)
  obtain ⟨_, hname⟩ := Except.ite_error_eq_ok_iff.mp hname
  obtain rfl := Except.ok.inj hname
  simp only [RoleService.replacePermissions] at hpermissions
  split at hpermissions
  · obtain rfl := Except.ok.inj hpermissions
    rfl
  · obtain ⟨rolePermissions, rfl⟩ := RoleService.insertPermissions_ok hpermissions
    rfl

theorem keeps_assignUser (tenantId : Id) (dto : RoleService.CreateUserAssignmentDto)
    (assignedById : Option Id) :
    Handler.Keeps AccessStore.invitations (RoleService.assignUser tenantId dto assignedById) := by
  apply keeps_invitations
  intro _ s s' h
  rw [RoleService.commitAssign] at h
  split at h
  · next s₁ hinsert =>
    obtain ⟨_, rfl⟩ := Prod.mk.inj (Except.ok.inj h)
    obtain rfl := RoleService.insertAssignment_ok hinsert
    rfl
  · cases h

theorem keeps_removeUserAssignment (tenantId : Id) (dto : RoleService.RemoveUserAssignmentDto) :
    Handler.Keeps AccessStore.invitations (RoleService.removeUserAssignment tenantId dto) := by
  apply keeps_invitations
  intro _ s s' h
  rw [RoleService.commitRemoveAssignment] at h
  split at h
  · obtain ⟨_, rfl⟩ := Prod.mk.inj (Except.ok.inj h)
    rfl
  · cases h

theorem commitCreateTenant_invitations {userId : Id} {name : String} {s s' : AccessStore}
    (h : commitCreateTenant userId name s = .ok ((), s')) : s'.invitations = s.invitations := by
  obtain ⟨s₁, s₂, hroles, hassign, rfl⟩ := commitCreateTenant_ok h
  obtain ⟨rolePermissions, rfl⟩ := initializeDefaultRoles_ok hroles
  obtain ⟨assignments, rfl⟩ := assignSuperAdmin_ok hassign
  rfl

/-- A transaction on the tenants that leaves the users, the invitations and the roles. -/
theorem writeTenant_frame {tenantId : Id} {name : Option String} {s s' : AccessStore}
    (h : writeTenant tenantId name s = .ok s') (hkept : InvitationsKept s) :
    InvitationsKept s' := by
  rw [writeTenant] at h
  split at h
  · cases h
  · obtain ⟨_, h⟩ := Except.ite_error_eq_ok_iff.mp h
    obtain rfl := Except.ok.inj h
    refine hkept.frame rfl rfl (fun id hid => ?_) fun _ hid => hid
    show ((s.tenants.modify tenantId _).find? id).isSome = true
    rw [Serial.isSome_find?_modify]
    exact hid

/-- A new user. -/
theorem InvitationsKept.register (h : InvitationsKept s) (email : String) :
    InvitationsKept { s with users := s.users.create email } := by
  refine { h with inviters := fun id i hi => ?_ }
  obtain ⟨user, huser⟩ := Option.isSome_iff_exists.mp (h.inviters id i hi)
  exact Option.isSome_iff_exists.mpr ⟨user, Serial.find?_create_of_some huser _⟩

variable (rt) in
/-- Requests on the access tables that leave the invitations. -/
theorem invitationsKept_access (h : InvitationsKept s) (call : AccessCall)
    (hkeeps : Handler.Keeps AccessStore.invitations (serveAccess rt call))
    (hremove : ∀ id tenantId, call.request ≠ .removeRole id tenantId) :
    InvitationsKept (serveAccess rt call s).2 :=
  have hstep := accessStep rt call s
  h.frame (hkeeps s) hstep.users (fun _ => hstep.isSome_tenants) fun _ => hstep.isSome_roles hremove

/-- What the invitations refer to outlasts every request. -/
theorem invitationsKept_serveRequest {s : TenancyStore} (h : InvitationsKept s.access)
    (now userId : ℕ) (request : TenancyRequest) :
    InvitationsKept (serveTenancyRequest rt now userId request s).2.access := by
  cases request with
  | register email =>
    refine transaction_preserves (I := fun t : TenancyStore => InvitationsKept t.access) h
      fun _ s' hcommit => ?_
    obtain ⟨_, hcommit⟩ := Except.ite_error_eq_ok_iff.mp hcommit
    obtain ⟨_, rfl⟩ := Prod.mk.inj (Except.ok.inj hcommit)
    exact h.register _
  | completeUserPreference =>
    refine transaction_preserves (I := fun t : TenancyStore => InvitationsKept t.access) h
      fun _ s' hcommit => ?_
    obtain ⟨_, hcommit⟩ := Except.ite_error_eq_ok_iff.mp hcommit
    obtain ⟨_, rfl⟩ := Prod.mk.inj (Except.ok.inj hcommit)
    exact h
  | updateTenant onboarding tenantId name =>
    simp only [serveTenancyRequest, updateTenant, bind, Handler.read]
    by_cases hmember : (userId, tenantId) ∈ s.access.memberships
    · rw [if_neg (not_not.mpr hmember)]
      refine transaction_preserves (I := fun t : TenancyStore => InvitationsKept t.access) h
        fun _ s' hcommit => ?_
      obtain ⟨access, hwrite, hcommit⟩ := Except.bind_eq_ok_iff.mp hcommit
      obtain ⟨_, rfl⟩ := Prod.mk.inj (Except.ok.inj hcommit)
      rw [access_checkAndComplete]
      exact writeTenant_frame hwrite h
    · rw [if_pos hmember]
      exact h
  | createTenant name =>
    refine transaction_preserves (I := fun t : TenancyStore => InvitationsKept t.access) h
      fun _ s' hcommit => ?_
    obtain ⟨⟨_, access⟩, hcreate, hcommit⟩ := Except.bind_eq_ok_iff.mp hcommit
    obtain ⟨_, rfl⟩ := Prod.mk.inj (Except.ok.inj hcommit)
    rw [access_checkAndComplete]
    have hstep := accessStep rt ⟨now, .createTenant userId name⟩ s.access
    rw [show serveAccess rt ⟨now, .createTenant userId name⟩ s.access = (.ok (), access)
      from transaction_of_ok hcreate] at hstep
    exact h.frame (commitCreateTenant_invitations hcreate) hstep.users
      (fun _ => hstep.isSome_tenants)
      fun _ => hstep.isSome_roles fun _ _ hremove => by cases hremove
  | acceptInvitation userEmail token =>
    have hkept := invitationsKept_invitation rt h now (.accept userId userEmail token)
    simp only [serveTenancyRequest, acceptOwnInvitation, bind, onAccess]
    rw [show serveInvitation rt now (.accept userId userEmail token) s.access =
      acceptInvitation rt now userId userEmail token s.access from rfl] at hkept
    generalize acceptInvitation rt now userId userEmail token s.access = result at hkept ⊢
    obtain ⟨answer, access⟩ := result
    cases answer with
    | error e => exact hkept
    | ok _ => exact hkept
  | declineInvitation token => exact invitationsKept_invitation rt h now (.decline userId token)
  | invite tenantId dto token => exact invitationsKept_invite h userId tenantId dto token
  | deleteTenantInvitation tenantId invitationId =>
    exact invitationsKept_invitation rt h now (.delete tenantId invitationId)
  | removeTenantMember tenantId targetUserId =>
    refine invitationsKept_access rt h ⟨now, .removeTenantMember tenantId targetUserId⟩ ?_
      fun _ _ hremove => by cases hremove
    exact Handler.Keeps.bind (Handler.Keeps.read _) fun _ => Handler.Keeps.write fun _ => rfl
  | createRole tenantId dto =>
    exact invitationsKept_access rt h ⟨now, .createRole tenantId dto⟩
      (keeps_createRole tenantId dto) fun _ _ hremove => by cases hremove
  | updateRole id tenantId dto =>
    exact invitationsKept_access rt h ⟨now, .updateRole id tenantId dto⟩
      (keeps_updateRole id tenantId dto) fun _ _ hremove => by cases hremove
  | removeRole id tenantId =>
    simp only [serveTenancyRequest, onAccess, RoleService.remove, bind, Handler.read]
    cases RoleService.readRemove id tenantId s.access with
    | error e => exact h
    | ok _ => exact h.removeRole id
  | assignUser tenantId dto =>
    exact invitationsKept_access rt h ⟨now, .assignUser tenantId dto (some userId)⟩
      (keeps_assignUser tenantId dto (some userId)) fun _ _ hremove => by cases hremove
  | removeUserAssignment tenantId dto =>
    exact invitationsKept_access rt h ⟨now, .removeUserAssignment tenantId dto⟩
      (keeps_removeUserAssignment tenantId dto) fun _ _ hremove => by cases hremove

end Requests

section Runs

variable (rt : Runtime) (modules : Serial ModuleRef)

theorem invitationsKept_serve {log : TenancyLog} (h : InvitationsKept log.store.access)
    (call : TenancyCall) : InvitationsKept (log.serve rt call).store.access := by
  have hserved : InvitationsKept (serveTenancy rt call log.store).2.access := by
    simp only [serveTenancy, bind, Handler.read]
    cases OnboardingGuard.canActivate call.request.skipsOnboardingCheck
      (log.store.onboardingStatus call.userId) with
    | error e => exact h
    | ok _ =>
      dsimp only
      cases authenticates call log.store with
      | error e => exact h
      | ok _ => exact invitationsKept_serveRequest h call.now call.userId call.request
  rw [TenancyLog.serve]
  generalize serveTenancy rt call log.store = result at hserved ⊢
  obtain ⟨answer, s'⟩ := result
  cases answer <;> exact hserved

theorem invitationsKept_run (calls : List TenancyCall) :
    InvitationsKept (TenancyLog.run rt modules calls).store.access := by
  have hfold : ∀ (calls : List TenancyCall) (log : TenancyLog), InvitationsKept log.store.access →
      InvitationsKept (calls.foldl (TenancyLog.serve rt) log).store.access := by
    intro calls
    induction calls with
    | nil => exact fun _ h => h
    | cons call calls ih => exact fun log h => ih _ (invitationsKept_serve rt h call)
  refine hfold calls _ ⟨?_, ?_, ?_, ?_⟩
  · intro id i hi
    cases hi
  · intro id i hi
    cases hi
  · intro id i hi
    cases hi
  · intro id i id' i' hi
    cases hi

theorem mem_getMyPendingInvitations {now : ℕ} {userEmail : String} {s : AccessStore} {id : Id}
    {i : TenantInvitation} (h : (id, i) ∈ getMyPendingInvitations now userEmail s) :
    s.invitations.find? id = some i ∧ i.email = userEmail ∧ i.status = .pending ∧
      i.isExpired now = false := by
  obtain ⟨hrow, hlisted⟩ := List.mem_filter.mp h
  obtain ⟨hemail, hstatus, hlive⟩ := of_decide_eq_true hlisted
  refine ⟨Table.find?_of_mem_rows hrow, hemail, hstatus, ?_⟩
  obtain ⟨expiresAt, hexpires, hlater⟩ := (Option.any_eq_true _ _).mp hlive
  rw [TenantInvitation.isExpired, hexpires, Option.any_some]
  exact decide_eq_false (Nat.lt_asymm (of_decide_eq_true hlater))

/-- Where tokens are distinct, a token finds its invitation. -/
theorem findInvitation_of_kept {rt : Runtime} {s : AccessStore} (h : InvitationsKept s)
    {id : Id} {i : TenantInvitation} {token : String} (hi : s.invitations.find? id = some i)
    (htoken : i.tokenHash = rt.sha256 token) : findInvitation rt token s = .ok (id, i) := by
  rw [findInvitation]
  split
  · next hnone =>
    have hneg := List.find?_eq_none.mp hnone (id, i) (Table.mem_rows_of_find? hi)
    exact absurd (decide_eq_true htoken) hneg
  · next found hfound =>
    obtain ⟨id', i'⟩ := found
    have hi' := Table.find?_of_mem_rows (List.mem_of_find?_eq_some hfound)
    have htoken' : i'.tokenHash = rt.sha256 token := by
      simpa using List.find?_some hfound
    obtain rfl := h.tokens id' i' id i hi' hi (htoken'.trans htoken.symm)
    obtain rfl := Option.some.inj (hi'.symm.trans hi)
    rfl

/-- What an invitation refers to is there when it is accepted. -/
theorem commitAccept_of_kept {s : AccessStore} (h : InvitationsKept s) {now userId : ℕ}
    {id : Id} {i : TenantInvitation} (hi : s.invitations.find? id = some i)
    (huser : (s.users.find? userId).isSome) :
    commitAccept now userId (id, i) s =
      .ok ((), { (settle id (accepted now userId) s).connect userId i.tenantId with
        assignments := withInvited userId i s.assignments }) := by
  have hconnect : connectUser userId i.tenantId (settle id (accepted now userId) s) =
      .ok ((settle id (accepted now userId) s).connect userId i.tenantId) :=
    if_neg (by rw [Option.isNone_iff_eq_none]; exact Option.isSome_iff_ne_none.mp huser)
  have hassign : assignInvitedRole userId i
      ((settle id (accepted now userId) s).connect userId i.tenantId) =
      .ok { (settle id (accepted now userId) s).connect userId i.tenantId with
        assignments := withInvited userId i s.assignments } := by
    cases hrole : i.roleId with
    | none =>
      simp only [assignInvitedRole, withInvited, hrole]
      rfl
    | some roleId =>
      simp only [assignInvitedRole, withInvited, hrole]
      have hthere : ¬((s.users.find? userId).isNone ∨ (s.roles.find? roleId).isNone ∨
          (s.tenants.find? i.tenantId).isNone ∨ false = true ∨
          (s.users.find? i.invitedById).isNone) := by
        have hroles := h.roles id i hi roleId hrole
        have htenants := h.tenants id i hi
        have hinviters := h.inviters id i hi
        simp only [Option.isNone_iff_eq_none, Option.isSome_iff_ne_none] at *
        simp [huser, hroles, htenants, hinviters]
      apply (if_neg hthere).trans
      apply if_neg
      intro hlocation
      cases hlocation.1
  show (connectUser userId i.tenantId (settle id (accepted now userId) s) >>= _) = _
  rw [hconnect]
  show (assignInvitedRole userId i _ >>= _) = _
  rw [hassign]
  rfl

/-- After any requests, an invitation in the list of a user is accepted by its token: the user is
then a member, with the role of the invitation if it has one, the onboarding is complete, and the
invitation is in no list any more. -/
theorem pending_invitation_accepted (calls : List TenancyCall) {now userId : ℕ}
    {userEmail token : String} {id : Id} {i : TenantInvitation}
    (huser : ((TenancyLog.run rt modules calls).store.access.users.find? userId).isSome)
    (hlisted : (id, i) ∈
      getMyPendingInvitations now userEmail (TenancyLog.run rt modules calls).store.access)
    (htoken : i.tokenHash = rt.sha256 token) :
    ∃ s', serveTenancy rt ⟨now, userId, .acceptInvitation userEmail token⟩
        (TenancyLog.run rt modules calls).store = (.ok (), s') ∧
      (userId, i.tenantId) ∈ s'.access.memberships ∧
      (∀ roleId ∈ i.roleId, ∃ k,
        s'.access.assignments.find? k = some (invitedAssignment userId i roleId)) ∧
      s'.access.invitations.find? id = some (accepted now userId i) ∧
      s'.onboardingStatus userId = some .completed ∧
      ∀ now' email i', (id, i') ∉ getMyPendingInvitations now' email s'.access := by
  have hkept := invitationsKept_run rt modules calls
  have honboarding := onboardingKept_run rt modules calls
  generalize (TenancyLog.run rt modules calls).store = s at *
  obtain ⟨hi, hemail, hstatus, hlive⟩ := mem_getMyPendingInvitations hlisted
  have haccept : acceptInvitation rt now userId userEmail token s.access = (.ok (),
      { (settle id (accepted now userId) s.access).connect userId i.tenantId with
        assignments := withInvited userId i s.access.assignments }) := by
    simp only [acceptInvitation, acceptFound, bind, Handler.read,
      findInvitation_of_kept hkept hi htoken, hemail, hlive, hstatus, acceptable, ne_eq,
      not_true_eq_false, if_false, Bool.false_eq_true]
    exact transaction_of_ok (commitAccept_of_kept hkept hi huser)
  have hserve : serveTenancy rt ⟨now, userId, .acceptInvitation userEmail token⟩ s = (.ok (),
      TenancyStore.complete now userId { s with access :=
        { (settle id (accepted now userId) s.access).connect userId i.tenantId with
          assignments := withInvited userId i s.access.assignments } }) := by
    have hauth : authenticates ⟨now, userId, .acceptInvitation userEmail token⟩ s = .ok () :=
      if_neg (by rw [Option.isNone_iff_eq_none]; exact Option.isSome_iff_ne_none.mp huser)
    simp only [serveTenancy, bind, Handler.read, hauth, serveTenancyRequest, acceptOwnInvitation,
      onAccess, haccept, Handler.write, OnboardingGuard.canActivate,
      TenancyRequest.skipsOnboardingCheck, if_true]
  have hsettled : ((settle id (accepted now userId) s.access).invitations.find? id) =
      some (accepted now userId i) := by
    show (s.access.invitations.modify id _).find? id = _
    rw [Serial.toTable_modify, Table.find?_modify, if_pos rfl, hi, Option.map_some]
  refine ⟨_, hserve, ?_, ?_, hsettled, ?_, ?_⟩
  · exact List.mem_insert_self
  · intro roleId hrole
    refine ⟨s.access.assignments.next, ?_⟩
    show (withInvited userId i s.access.assignments).find? s.access.assignments.next = _
    rw [withInvited, hrole]
    exact (Serial.find?_create _).trans (if_pos rfl)
  · obtain ⟨row, hrow⟩ := Option.isSome_iff_exists.mp ((honboarding.users userId).trans huser)
    rw [onboardingStatus_eq_some]
    refine ⟨now, ?_⟩
    show (s.onboarding.modify userId _).find? userId = _
    rw [Table.find?_modify, if_pos rfl, hrow, Option.map_some]
  · intro now' email i' hmem
    obtain ⟨hi', _, hpending, _⟩ := mem_getMyPendingInvitations hmem
    obtain rfl : accepted now userId i = i' := Option.some.inj (hsettled.symm.trans hi')
    cases hpending

end Runs

/-- A user who has created a tenant invites another as an Admin. -/
def adminInvited : List TenancyCall :=
  [⟨1, 0, .register "owner"⟩, ⟨2, 0, .register "guest"⟩, ⟨3, 0, .createTenant "tenant"⟩,
    ⟨4, 0, .invite 0 ⟨"guest", some 9, some 1⟩ "token"⟩]

theorem pending_invitation_accepted_admin :
    ∃ s', serveTenancy .plain ⟨5, 1, .acceptInvitation "guest" "token"⟩
        (TenancyLog.run .plain .empty adminInvited).store = (.ok (), s') ∧
      (1, 0) ∈ s'.access.memberships ∧ s'.onboardingStatus 1 = some .completed := by
  obtain ⟨s', hserve, hmember, _, _, hstatus, _⟩ :=
    @pending_invitation_accepted .plain .empty adminInvited 5 1 "guest" "token" 0
      ⟨"guest", .pending, "token", some 9, none, none, none, 0, 0, none, some 1⟩
      (by decide +kernel) (by decide +kernel) rfl
  exact ⟨s', hserve, hmember, hstatus⟩

end Invetrixa
