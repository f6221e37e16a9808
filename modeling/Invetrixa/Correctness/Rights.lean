import Invetrixa.Correctness.Permissions
import Invetrixa.Correctness.Assignments

/-!
# Who may take rights away

What a user may do in a tenant depends on roles, on their permissions and on assignments, and those
are changed by many requests. The ones that may change what a user may do are about a role that the
user holds there, or about the user: no request of another tenant is among them, but for the
removal of a location at which the user has been assigned a role.

## Main definitions

- `RoleKept` — what a role may do stays
- `AccessCall.MayChange` — the requests that may change what a user may do in a tenant

## Main results

- `hasPermission_congr`
- `rights_unchanged`
-/

namespace Invetrixa

open Rowstore Requests TenantsService RoleService LocationService AccessControlService

variable {rt : Runtime} {s s' : AccessStore} {call : AccessCall} {id k roleId tenantId userId : Id}

section Roles

/-- What a role may do is the same. -/
def RoleKept (roleId : Id) (s s' : AccessStore) : Prop :=
  ∀ resource action, roleAllows roleId resource action s' = roleAllows roleId resource action s

theorem RoleKept.refl (roleId : Id) (s : AccessStore) : RoleKept roleId s s := fun _ _ => rfl

theorem RoleKept.trans {s'' : AccessStore} (h : RoleKept roleId s s')
    (h' : RoleKept roleId s' s'') : RoleKept roleId s s'' :=
  fun resource action => (h' resource action).trans (h resource action)

/-- A permission of another role. -/
theorem roleKept_insertPermission {permission : RolePermission}
    (h : insertPermission permission s = .ok s') (hne : roleId ≠ permission.roleId) :
    RoleKept roleId s s' := by
  intro resource action
  obtain rfl := insertPermission_ok h
  show List.any (s.rolePermissions.rows ++ [(s.rolePermissions.next, permission)]) _ = _
  rw [List.any_append]
  simp [roleAllows, hne.symm]

theorem roleKept_insertPermissions {l : List PermissionUpdateDto}
    (h : insertPermissions id l s = .ok s') (hne : roleId ≠ id) : RoleKept roleId s s' := by
  induction l generalizing s with
  | nil =>
    obtain rfl := Except.ok.inj h
    exact .refl _ _
  | cons d rest ih =>
    obtain ⟨s₁, hfirst, h⟩ := Except.bind_eq_ok_iff.mp h
    exact (roleKept_insertPermission hfirst hne).trans (ih h)

/-- The permissions of another role go. -/
theorem roleKept_deletePermissions (hne : roleId ≠ id) : RoleKept roleId s
    { s with rolePermissions := s.rolePermissions.deleteWhere fun _ p => p.roleId = id } := by
  intro resource action
  simp only [roleAllows, Serial.deleteWhere, Table.deleteWhere, List.any_filter]
  refine congrArg (List.any s.rolePermissions.rows) (funext fun r => ?_)
  by_cases hr : r.2.roleId = roleId
  · simp [hr, hne]
  · simp [hr]

theorem roleKept_replacePermissions {dto : Option (List PermissionUpdateDto)}
    (h : replacePermissions id dto s = .ok s') (hne : roleId ≠ id) : RoleKept roleId s s' := by
  simp only [replacePermissions] at h
  split at h
  · obtain rfl := Except.ok.inj h
    exact .refl _ _
  · exact (roleKept_deletePermissions hne).trans (roleKept_insertPermissions h hne)

theorem roleKept_initializePermissions {l : List (String × DefaultPermission)}
    (h : initializePermissions id l s = .ok s') (hne : roleId ≠ id) : RoleKept roleId s s' := by
  induction l generalizing s with
  | nil =>
    obtain rfl := Except.ok.inj h
    exact .refl _ _
  | cons entry rest ih =>
    obtain ⟨s₁, hfirst, h⟩ := Except.bind_eq_ok_iff.mp h
    refine RoleKept.trans ?_ (ih h)
    rw [initializePermission] at hfirst
    split at hfirst
    · obtain rfl := Except.ok.inj hfirst
      exact .refl _ _
    · split at hfirst
      · obtain rfl := Except.ok.inj hfirst
        exact .refl _ _
      · exact roleKept_insertPermission hfirst hne

/-- Roles that are there keep what they may do when others are made. -/
theorem roleKept_initializeDefaultRoles {configs : RoleConfigs}
    (h : initializeDefaultRoles tenantId configs s = .ok s')
    (hthere : (s.roles.find? roleId).isSome) : RoleKept roleId s s' := by
  induction configs generalizing s with
  | nil =>
    obtain rfl := Except.ok.inj h
    exact .refl _ _
  | cons config rest ih =>
    obtain ⟨⟨newId, s₁⟩, hrole, h⟩ := Except.bind_eq_ok_iff.mp h
    obtain ⟨s₂, hpermissions, h⟩ := Except.bind_eq_ok_iff.mp h
    obtain ⟨rfl, rfl, _⟩ := insertRole_ok hrole
    have hne : roleId ≠ s.roles.next := by
      rintro rfl
      rw [s.roles.find?_next] at hthere
      cases hthere
    have hgrow : RoleKept roleId s s₂ := fun resource action =>
      roleKept_initializePermissions hpermissions hne resource action
    obtain ⟨rolePermissions, rfl⟩ := initializePermissions_ok hpermissions
    obtain ⟨role, hfind⟩ := Option.isSome_iff_exists.mp hthere
    refine hgrow.trans (ih h ?_)
    exact Option.isSome_of_mem (Serial.find?_create_of_some hfind _)

/-- What `findOne` has checked. -/
theorem tenantId_of_findOne {role : Role} (h : findOne id tenantId s = .ok role) :
    s.roles.find? id = some role ∧ role.tenantId = tenantId := by
  refine ⟨findOne_ok h, ?_⟩
  rw [findOne] at h
  split at h
  · cases h
  · next found hfound =>
    obtain ⟨htenant, heq⟩ := Except.ite_error_eq_ok_iff.mp h
    rw [← Except.ok.inj heq]
    exact not_not.mp htenant

theorem ensures_createTenant_roles (userId : Id) (name : String) (s : AccessStore) :
    Handler.Ensures (fun t => t = s) (TenantsService.createTenant userId name)
      (fun _ t => ∀ k, (s.roles.find? k).isSome → RoleKept k s t) fun _ => True := by
  apply Handler.Ensures.atomically
  · rintro t _ t' rfl hcommit k hthere
    obtain ⟨s₁, s₂, hroles, hassign, rfl⟩ := commitCreateTenant_ok hcommit
    obtain ⟨assignments, rfl⟩ := assignSuperAdmin_ok hassign
    intro resource action
    exact roleKept_initializeDefaultRoles hroles hthere resource action
  · exact fun _ _ _ _ => trivial

theorem ensures_createRole_roles (tenantId : Id) (dto : CreateRoleDto) (s : AccessStore) :
    Handler.Ensures (fun t => t = s) (RoleService.create dto tenantId)
      (fun _ t => ∀ k, (s.roles.find? k).isSome → RoleKept k s t) fun _ => True := by
  apply Handler.Ensures.bind (Q := fun _ t => t = s)
  · exact Handler.Ensures.read (fun t _ h _ => h) fun _ _ _ _ => trivial
  · intro _
    apply Handler.Ensures.atomically
    · rintro t _ t' rfl hcommit k hthere
      obtain ⟨⟨newId, s₁⟩, hrole, hcommit⟩ := Except.bind_eq_ok_iff.mp hcommit
      obtain ⟨s₂, hpermissions, hcommit⟩ := Except.bind_eq_ok_iff.mp hcommit
      obtain ⟨_, rfl⟩ := Prod.mk.inj (Except.ok.inj hcommit)
      obtain ⟨rfl, rfl, _⟩ := insertRole_ok hrole
      have hne : k ≠ t.roles.next := by
        rintro rfl
        rw [t.roles.find?_next] at hthere
        cases hthere
      exact fun resource action => roleKept_insertPermissions hpermissions hne resource action
    · exact fun _ _ _ _ => trivial

/-- Only the role itself may do something else after it has been updated, and it is one of the
tenant that asks for that. -/
theorem ensures_updateRole_roles (id tenantId : Id) (dto : UpdateRoleDto) (s : AccessStore) :
    Handler.Ensures (fun t => t = s) (RoleService.update id tenantId dto)
      (fun _ t => (∃ role, s.roles.find? id = some role ∧ role.tenantId = tenantId) ∧
        ∀ k, k ≠ id → RoleKept k s t) fun _ => True := by
  apply Handler.Ensures.bind (Q := fun role t => t = s ∧ readUpdate id tenantId dto t = .ok role)
  · exact Handler.Ensures.read (fun t _ h hread => ⟨h, hread⟩) fun _ _ _ _ => trivial
  · intro role
    apply Handler.Ensures.atomically
    · rintro t _ t' ⟨rfl, hread⟩ hcommit
      obtain ⟨role', hfound, _⟩ := Except.bind_eq_ok_iff.mp hread
      refine ⟨⟨role', tenantId_of_findOne hfound⟩, fun k hne => ?_⟩
      obtain ⟨s₁, hname, hcommit⟩ := Except.bind_eq_ok_iff.mp hcommit
      obtain ⟨s₂, hpermissions, hcommit⟩ := Except.bind_eq_ok_iff.mp hcommit
      obtain ⟨_, rfl⟩ := Prod.mk.inj (Except.ok.inj hcommit)
      obtain ⟨_, hname⟩ := Except.ite_error_eq_ok_iff.mp hname
      obtain rfl := Except.ok.inj hname
      exact fun resource action => roleKept_replacePermissions hpermissions hne resource action
    · exact fun _ _ _ _ => trivial

/-- A role that is removed is one of the tenant that asks for that. -/
theorem ensures_removeRole_tenant (id tenantId : Id) (s : AccessStore) :
    Handler.Ensures (fun t => t = s) (RoleService.remove id tenantId)
      (fun _ _ => ∃ role, s.roles.find? id = some role ∧ role.tenantId = tenantId)
      fun _ => True := by
  apply Handler.Ensures.bind (Q := fun _ t => t = s ∧ readRemove id tenantId t = .ok ())
  · exact Handler.Ensures.read (fun t _ h hread => ⟨h, hread⟩) fun _ _ _ _ => trivial
  · intro _
    apply Handler.Ensures.write
    rintro t ⟨rfl, hread⟩
    obtain ⟨role, hfound, _⟩ := Except.bind_eq_ok_iff.mp hread
    exact ⟨role, tenantId_of_findOne hfound⟩

end Roles

section Held

theorem rolesHeld_run (rt : Runtime) (users : Serial String) (descriptionChanged : String → Bool)
    (events : List AccessEvent) :
    RolesHeld (AccessEvent.run rt users descriptionChanged events) := by
  have hfold : ∀ (events : List AccessEvent) (s : AccessStore), RolesHeld s →
      RolesHeld (events.foldl (AccessEvent.serve rt) s) := by
    intro events
    induction events with
    | nil => exact fun s h => h
    | cons event rest ih =>
      intro s h
      cases event with
      | request call => exact ih (AccessEvent.serve rt s (.request call)) h.step
      | start changed =>
        rw [List.foldl_cons, AccessEvent.serve]
        exact ih _ ⟨h.assignments, h.invitations, h.tenants⟩
  exact hfold (.start descriptionChanged :: events) (AccessStore.initial users .empty)
    ⟨all_empty _, all_empty _, all_empty _⟩

end Held

section Rights

/-- A user has been assigned a role in a tenant. -/
def Holds (s : AccessStore) (userId tenantId roleId : Id) : Prop :=
  ∃ k a, s.assignments.find? k = some a ∧ a.userId = userId ∧ a.tenantId = tenantId ∧
    a.roleId = roleId

/-- What may change what a user may do in a tenant: that the user creates it or accepts its
invitation with a role, and requests of the tenant about a role that the user holds or about the
user; and that a location goes, of whatever tenant, at which the user has been assigned a role
there. -/
def AccessCall.MayChange (rt : Runtime) (s : AccessStore) (userId tenantId : Id)
    (call : AccessCall) : Prop :=
  match call.request with
  | .createTenant creator _ => creator = userId ∧ tenantId = s.tenants.next
  | .invitation (.accept invited _ token) => invited = userId ∧ ∃ k i,
      findInvitation rt token s = .ok (k, i) ∧ i.tenantId = tenantId ∧ i.roleId.isSome
  | .removeTenantMember t member => t = tenantId ∧ member = userId
  | .updateRole id t _ | .removeRole id t => t = tenantId ∧ Holds s userId tenantId id
  | .assignUser t dto _ => t = tenantId ∧ dto.userId = userId
  | .removeUserAssignment t dto => t = tenantId ∧ dto.userId = userId
  | .removeLocation _ id _ => ∃ k a, s.assignments.find? k = some a ∧ a.userId = userId ∧
      a.tenantId = tenantId ∧ a.locationId = some id
  | .invite .. | .invitation _ | .createRole .. | .createLocation .. => False

/-- A start of the server changes nothing. -/
def AccessEvent.MayChange (rt : Runtime) (s : AccessStore) (userId tenantId : Id) :
    AccessEvent → Prop
  | .request call => call.MayChange rt s userId tenantId
  | .start _ => False

/-- The assignments of a user in a tenant are the same in two states. -/
def SameAssignments (userId tenantId : Id) (s s' : AccessStore) : Prop :=
  ∀ a, a.userId = userId → a.tenantId = tenantId →
    ((∃ k, s'.assignments.find? k = some a) ↔ ∃ k, s.assignments.find? k = some a)

/-- What a user may do depends on the assignments, and on what the roles of these may do. -/
theorem hasPermission_congr (hassigned : SameAssignments userId tenantId s s')
    (hroles : ∀ roleId, Holds s userId tenantId roleId → RoleKept roleId s s')
    (resource action : String) (locationId : Option Id) :
    hasPermission userId resource action tenantId locationId s' =
      hasPermission userId resource action tenantId locationId s := by
  apply Bool.eq_iff_iff.mpr
  constructor
  · intro h
    obtain ⟨⟨k, a⟩, hmem, ha⟩ := List.any_eq_true.mp h
    obtain ⟨huser, htenant, happlies, hallows⟩ := of_decide_eq_true ha
    obtain ⟨k', hk'⟩ := (hassigned a huser htenant).mp ⟨k, Table.find?_of_mem_rows hmem⟩
    rw [hroles a.roleId ⟨k', a, hk', huser, htenant, rfl⟩] at hallows
    exact List.any_eq_true.mpr ⟨(k', a), Table.mem_rows_of_find? hk',
      decide_eq_true ⟨huser, htenant, happlies, hallows⟩⟩
  · intro h
    obtain ⟨⟨k, a⟩, hmem, ha⟩ := List.any_eq_true.mp h
    obtain ⟨huser, htenant, happlies, hallows⟩ := of_decide_eq_true ha
    have hfind : s.assignments.find? k = some a := Table.find?_of_mem_rows hmem
    obtain ⟨k', hk'⟩ := (hassigned a huser htenant).mpr ⟨k, hfind⟩
    rw [← hroles a.roleId ⟨k, a, hfind, huser, htenant, rfl⟩] at hallows
    exact List.any_eq_true.mpr ⟨(k', a), Table.mem_rows_of_find? hk',
      decide_eq_true ⟨huser, htenant, happlies, hallows⟩⟩

theorem SameAssignments.of_eq (h : s'.assignments = s.assignments) :
    SameAssignments userId tenantId s s' := by
  intro a _ _
  rw [h]

/-- A row is added that is another user's or of another tenant. -/
theorem SameAssignments.create {a : UserAssignment}
    (h : s'.assignments = s.assignments.create a)
    (hother : ¬(a.userId = userId ∧ a.tenantId = tenantId)) :
    SameAssignments userId tenantId s s' := by
  intro b huser htenant
  rw [h]
  constructor
  · rintro ⟨k, hk⟩
    obtain hold | ⟨_, rfl⟩ := Serial.find?_create_cases hk
    · exact ⟨k, hold⟩
    · exact absurd ⟨huser, htenant⟩ hother
  · rintro ⟨k, hk⟩
    exact ⟨k, Serial.find?_create_of_some hk _⟩

/-- Rows go that are other users' or of other tenants. -/
theorem SameAssignments.deleteWhere {p : UserAssignment → Bool}
    (h : s'.assignments = s.assignments.deleteWhere fun _ a => p a)
    (hother : ∀ k a, s.assignments.find? k = some a → a.userId = userId → a.tenantId = tenantId →
      p a = false) : SameAssignments userId tenantId s s' := by
  intro a huser htenant
  rw [h]
  constructor
  · rintro ⟨k, hk⟩
    exact ⟨k, (Table.find?_of_find?_deleteWhere hk).1⟩
  · rintro ⟨k, hk⟩
    exact ⟨k, Table.find?_deleteWhere_of_some hk (hother k a hk huser htenant)⟩

/-- The roles and the permissions are the same. -/
theorem RoleKept.of_eq (hpermissions : s'.rolePermissions = s.rolePermissions)
    (hmodules : s'.modules = s.modules) : RoleKept roleId s s' := by
  intro resource action
  rw [roleAllows, roleAllows, hpermissions, hmodules]

theorem RolesHeld.request (h : RolesHeld s)
    (hnot : ¬call.MayChange rt s userId tenantId) :
    SameAssignments userId tenantId s (serveAccess rt call s).2 ∧
      ∀ roleId, Holds s userId tenantId roleId → RoleKept roleId s (serveAccess rt call s).2 := by
  have hthere : ∀ roleId, Holds s userId tenantId roleId → (s.roles.find? roleId).isSome := by
    rintro _ ⟨k, a, ha, _, _, rfl⟩
    obtain ⟨role, hrole, _⟩ := h.assignments k a ha
    exact Option.isSome_of_mem hrole
  have htenant : ∀ roleId t, Holds s userId tenantId roleId →
      (∃ role, s.roles.find? roleId = some role ∧ role.tenantId = t) → t = tenantId := by
    rintro _ t ⟨k, a, ha, _, htenant, rfl⟩ ⟨role, hfind, ht⟩
    obtain ⟨role', hrole', htenant'⟩ := h.assignments k a ha
    obtain rfl := Option.some.inj (hrole'.symm.trans hfind)
    rw [← ht, htenant', htenant]
  have hstep := accessStep rt call s
  generalize hserve : serveAccess rt call s = result at hstep ⊢
  unfold AccessCall.MayChange at hnot
  rw [serveAccess] at hserve
  cases hstep with
  | refused | settled | invited | locationCreated =>
    exact ⟨.of_eq rfl, fun roleId _ => .of_eq rfl rfl⟩
  | accepted invitee userEmail token k i invitations hrequest haccepts hkeeps =>
    rw [hrequest] at hnot
    refine ⟨?_, fun roleId _ => .of_eq rfl rfl⟩
    cases hrole : i.roleId with
    | none =>
      have hsame : withInvited invitee i s.assignments = s.assignments := by
        rw [withInvited, hrole]
      exact .of_eq hsame
    | some roleId =>
      have hcreate : withInvited invitee i s.assignments =
          s.assignments.create (invitedAssignment invitee i roleId) := by
        rw [withInvited, hrole]
      refine .create hcreate fun hsame => hnot ⟨hsame.1, k, i, haccepts.found, hsame.2, ?_⟩
      rw [hrole]
      rfl
  | tenantCreated creator name superAdminRole rolePermissions hrequest hrole hname =>
    rw [hrequest] at hserve hnot
    refine ⟨.create rfl fun hsame => hnot ⟨hsame.1, hsame.2.symm⟩, fun roleId hholds => ?_⟩
    exact (ensures_createTenant_roles creator name s s rfl).1 () _ hserve roleId
      (hthere roleId hholds)
  | memberRemoved t member hrequest hnone =>
    rw [hrequest] at hnot
    refine ⟨.deleteWhere rfl fun k a _ huser hof => decide_eq_false ?_,
      fun roleId _ => .of_eq rfl rfl⟩
    rintro ⟨rfl, rfl⟩
    exact hnot ⟨hof, huser⟩
  | roleCreated role rolePermissions dto hrequest =>
    rw [hrequest] at hserve
    refine ⟨.of_eq rfl, fun roleId hholds => ?_⟩
    exact (ensures_createRole_roles role.tenantId dto s s rfl).1 () _ hserve roleId
      (hthere roleId hholds)
  | roleUpdated id t dto role name rolePermissions hrequest =>
    rw [hrequest] at hserve hnot
    obtain ⟨hof, hkept⟩ := (ensures_updateRole_roles id t dto s s rfl).1 () _ hserve
    refine ⟨.of_eq rfl, fun roleId hholds => hkept roleId ?_⟩
    rintro rfl
    exact hnot ⟨htenant roleId t hholds hof, hholds⟩
  | roleRemoved id t role hrequest hfind =>
    rw [hrequest] at hserve hnot
    have hof := (ensures_removeRole_tenant id t s s rfl).1 () _ hserve
    have hne : ∀ roleId, Holds s userId tenantId roleId → roleId ≠ id := by
      rintro roleId hholds rfl
      exact hnot ⟨htenant roleId t hholds hof, hholds⟩
    refine ⟨.deleteWhere rfl fun k a ha huser hof => decide_eq_false ?_,
      fun roleId hholds resource action => ?_⟩
    · exact hne a.roleId ⟨k, a, ha, huser, hof, rfl⟩
    · exact roleKept_deletePermissions (hne roleId hholds) resource action
  | assigned t dto assignedById hrequest hassigns =>
    rw [hrequest] at hnot
    exact ⟨.create rfl fun hsame => hnot ⟨hsame.2, hsame.1⟩, fun roleId _ => .of_eq rfl rfl⟩
  | unassigned t dto hrequest hremaining =>
    rw [hrequest] at hnot
    refine ⟨.deleteWhere rfl fun k a _ huser hof => decide_eq_false ?_,
      fun roleId _ => .of_eq rfl rfl⟩
    rintro ⟨_, hsame, ht, _⟩
    exact hnot ⟨ht.symm.trans hof, hsame.symm.trans huser⟩
  | locationRemoved t id hasStockData hrequest =>
    rw [hrequest] at hnot
    refine ⟨.deleteWhere rfl fun k a ha huser hof => decide_eq_false fun hat => ?_,
      fun roleId _ => .of_eq rfl rfl⟩
    exact hnot ⟨k, a, ha, huser, hof, hat⟩

/-- After any requests and starts of the server, what a user may do in a tenant stays as it is
whatever happens next, unless that is about a role that the user holds there, about the user, or
removes a location at which the user has been assigned a role there. -/
theorem rights_unchanged (rt : Runtime) (users : Serial String) (descriptionChanged : String → Bool)
    (events : List AccessEvent) (event : AccessEvent) (userId tenantId : Id)
    (hnot : ¬event.MayChange rt (AccessEvent.run rt users descriptionChanged events) userId
      tenantId)
    (resource action : String) (locationId : Option Id) :
    hasPermission userId resource action tenantId locationId
        (AccessEvent.run rt users descriptionChanged (events ++ [event])) =
      hasPermission userId resource action tenantId locationId
        (AccessEvent.run rt users descriptionChanged events) := by
  have hmodules := (permissionsKept_run rt users descriptionChanged events).2
  have hheld := rolesHeld_run rt users descriptionChanged events
  have hrun : AccessEvent.run rt users descriptionChanged (events ++ [event]) =
      AccessEvent.serve rt (AccessEvent.run rt users descriptionChanged events) event := by
    rw [AccessEvent.run, ← List.cons_append, List.foldl_append]
    rfl
  rw [hrun]
  generalize AccessEvent.run rt users descriptionChanged events = s at *
  cases event with
  | request call =>
    obtain ⟨hassigned, hroles⟩ := hheld.request hnot
    exact hasPermission_congr hassigned hroles resource action locationId
  | start changed =>
    rw [AccessEvent.serve, hmodules, syncModules_seeded, ← hmodules]

/-- Two users have created tenants, and the second has assigned a role to the first at a location
of the first. -/
def teaBesideCoffee : List AccessEvent :=
  [.request ⟨0, .createTenant 0 "Tea"⟩, .request ⟨1, .createTenant 1 "Coffee"⟩,
    .request ⟨2, .createLocation 0 ⟨none, "l@b.c", "1"⟩⟩,
    .request ⟨3, .assignUser 1 ⟨3, 0, .location, some 0⟩ (some 1)⟩]

/-- The second tenant takes all from its Admin role. -/
theorem rights_unchanged_teaBesideCoffee :
    hasPermission 0 "Stock" "stock.movement.create" 0 none
      (AccessEvent.run .plain twoUsers.users (fun _ => false) (teaBesideCoffee ++
        [.request ⟨4, .updateRole 4 1 ⟨none, some [], by decide⟩⟩])) = true := by
  have hallowed : hasPermission 0 "Stock" "stock.movement.create" 0 none
      (AccessEvent.run .plain twoUsers.users (fun _ => false) teaBesideCoffee) = true := by
    decide +kernel
  refine (rights_unchanged .plain twoUsers.users (fun _ => false) teaBesideCoffee _ 0 0 ?_ _ _
    _).trans hallowed
  intro hmay
  exact absurd hmay.1 (by decide)

/-- The first tenant removes its location, and with it what its user may do in the second. -/
example :
    hasPermission 0 "Stock" "stock.movement.create" 1 (some 0)
      (AccessEvent.run .plain twoUsers.users (fun _ => false) teaBesideCoffee) = true ∧
    hasPermission 0 "Stock" "stock.movement.create" 1 (some 0)
      (AccessEvent.run .plain twoUsers.users (fun _ => false)
        (teaBesideCoffee ++ [.request ⟨4, .removeLocation 0 0 false⟩])) = false := by
  decide +kernel

end Rights

end Invetrixa
