import Invetrixa.Access.Steps

/-!
# Owners

A tenant is owned by the users who hold its SuperAdmin role in all of it. The role can not be
renamed or removed, its holders can not be removed as members, and assignments that go with a
location are not in all of the tenant. An assignment of the role is removed as long as another
user has one, be it at a single location.

## Main results

- `tenants_keep_owner_iff` — every tenant keeps an owner exactly if no removal leaves the role to
  users at single locations alone
- `owner_removed`
-/

namespace Invetrixa

open Rowstore Requests TenantsService RoleService LocationService

/-- The tables after a request. -/
def answerAccess (rt : Runtime) (call : AccessCall) (s : AccessStore) : AccessStore :=
  (serveAccess rt call s).2

/-- An assignment of the SuperAdmin role of a tenant that holds in all of it. -/
def IsOwner (s : AccessStore) (tenantId : Id) (a : UserAssignment) : Prop :=
  a.tenantId = tenantId ∧ a.accessScope = .tenant ∧
    s.roles.find? a.roleId = some ⟨SUPER_ADMIN_ROLE, tenantId⟩

def HasOwner (s : AccessStore) (tenantId : Id) : Prop :=
  ∃ k a, s.assignments.find? k = some a ∧ IsOwner s tenantId a

/-- Every tenant has an owner. -/
def TenantsOwned (s : AccessStore) : Prop := ∀ tenantId, (s.tenants.find? tenantId).isSome →
  HasOwner s tenantId

/-- Where an assignment of the SuperAdmin role is removed and other users have the role, one of
them has it in all of the tenant. -/
def LeavesOwner (s : AccessStore) (call : AccessCall) : Prop :=
  match call.request with
  | .removeUserAssignment tenantId dto => dto.locationId = none →
      s.roles.find? dto.roleId = some ⟨SUPER_ADMIN_ROLE, tenantId⟩ →
      remainingAssignments tenantId dto s ≠ [] →
      ∃ r ∈ remainingAssignments tenantId dto s, r.2.accessScope = .tenant
  | _ => True

/-- An assignment has a location exactly if it is for one. -/
def UserAssignment.ScopeFits (a : UserAssignment) : Prop :=
  a.accessScope = .location ↔ a.locationId.isSome

/-- No two roles of a tenant have one name. -/
def RolesUnique (roles : Serial Role) : Prop :=
  ∀ k k' r, roles.find? k = some r → roles.find? k' = some r → k = k'

/-- What every request keeps. -/
structure OwnersInv (s : AccessStore) : Prop where
  owned : TenantsOwned s
  scope : s.assignments.All fun _ a => a.ScopeFits
  unique : RolesUnique s.roles
  tenants : s.roles.All fun _ r => (s.tenants.find? r.tenantId).isSome

section Steps

variable {rt : Runtime} {s s' : AccessStore} {call : AccessCall} {tenantId : Id}
  {roles : Serial Role}

/-- An owner stays where the assignment and the role stay. -/
theorem HasOwner.keep (h : HasOwner s tenantId)
    (hassignments : ∀ k a, s.assignments.find? k = some a → IsOwner s tenantId a →
      s'.assignments.find? k = some a)
    (hroles : ∀ k, s.roles.find? k = some ⟨SUPER_ADMIN_ROLE, tenantId⟩ →
      s'.roles.find? k = some ⟨SUPER_ADMIN_ROLE, tenantId⟩) : HasOwner s' tenantId := by
  obtain ⟨k, a, hfind, howner⟩ := h
  exact ⟨k, a, hassignments k a hfind howner, howner.1, howner.2.1, hroles _ howner.2.2⟩

theorem find?_withInvited {userId k : Id} {i : TenantInvitation} {a : UserAssignment}
    {assignments : Serial UserAssignment} (h : assignments.find? k = some a) :
    (withInvited userId i assignments).find? k = some a := by
  rw [withInvited]
  split
  · exact h
  · exact Serial.find?_create_of_some h _

theorem find?_withDefaultRoles {k : Id} {r : Role}
    (h : roles.find? k = some r) : (withDefaultRoles tenantId roles).find? k = some r :=
  Table.find?_of_mem_rows (Serial.mem_rows_foldl_create _ (Table.mem_rows_of_find? h))

/-- Every role of a new tenant is one of the default roles. -/
theorem find?_withDefaultRoles_cases {k : Id} {r : Role}
    (h : (withDefaultRoles tenantId roles).find? k = some r) :
    roles.find? k = some r ∨ r.tenantId = tenantId := by
  rcases Serial.mem_rows_foldl_create_cases (Table.mem_rows_of_find? h) with hold | hnew
  · exact .inl (Table.find?_of_mem_rows hold)
  · obtain ⟨c, _, rfl⟩ := List.mem_map.mp hnew
    exact .inr rfl

/-- A tenant that is made is there for its default roles, as the others are for theirs. -/
theorem tenants_withDefaultRoles {tenants : Serial AccessTenant}
    (h : roles.All fun _ r => (tenants.find? r.tenantId).isSome) (tenant : AccessTenant) :
    (withDefaultRoles tenants.next roles).All fun _ r =>
      ((tenants.create tenant).find? r.tenantId).isSome := by
  intro k r hr
  rcases find?_withDefaultRoles_cases hr with hold | hnext
  · obtain ⟨tenant', htenant⟩ := Option.isSome_iff_exists.mp (h k r hold)
    exact Option.isSome_of_mem (Serial.find?_create_of_some htenant _)
  · rw [hnext]
    exact Option.isSome_of_mem ((Serial.find?_create _).trans (if_pos rfl))

theorem RolesUnique.create (h : RolesUnique roles) {role : Role}
    (hnew : ∀ k r, roles.find? k = some r → r ≠ role) : RolesUnique (roles.create role) := by
  intro k k' r hr hr'
  rcases Serial.find?_create_cases hr with hold | ⟨rfl, rfl⟩
  · rcases Serial.find?_create_cases hr' with hold' | ⟨rfl, rfl⟩
    · exact h k k' r hold hold'
    · exact absurd rfl (hnew k _ hold)
  · rcases Serial.find?_create_cases hr' with hold' | ⟨rfl, _⟩
    · exact absurd rfl (hnew k' _ hold')
    · rfl

theorem RolesUnique.foldl_create {l : List Role} (h : RolesUnique roles) (hl : l.Nodup)
    (hnew : ∀ k r, roles.find? k = some r → r ∉ l) :
    RolesUnique (l.foldl Serial.create roles) := by
  induction l generalizing roles with
  | nil => exact h
  | cons role rest ih =>
    obtain ⟨hrole, hrest⟩ := List.nodup_cons.mp hl
    refine ih (h.create fun k r hr hsame => hnew k r hr (hsame ▸ .head _)) hrest ?_
    intro k r hr
    rcases Serial.find?_create_cases hr with hold | ⟨_, rfl⟩
    · exact fun hmem => hnew k r hold (.tail _ hmem)
    · exact hrole

/-- The default roles of a new tenant are new. -/
theorem RolesUnique.withDefaultRoles (h : RolesUnique roles)
    (hnew : ∀ k r, roles.find? k = some r → r.tenantId ≠ tenantId) :
    RolesUnique (withDefaultRoles tenantId roles) := by
  refine h.foldl_create ?_ fun k r hr hmem => ?_
  · have hnames : (tenantRolePermissions.map Prod.fst).Nodup := by decide
    have hroles := hnames.map (f := fun name => ({ name, tenantId } : Role))
      fun _ _ heq => congrArg Role.name heq
    rwa [List.map_map] at hroles
  · obtain ⟨c, _, rfl⟩ := List.mem_map.mp hmem
    exact hnew k _ hr rfl

theorem RolesUnique.deleteWhere (h : RolesUnique roles) (p : Id → Role → Bool) :
    RolesUnique (roles.deleteWhere p) := by
  intro k k' r hr hr'
  exact h k k' r (Table.find?_of_find?_deleteWhere hr).1 (Table.find?_of_find?_deleteWhere hr').1

/-- A role takes a name that no other role of its tenant has. -/
theorem RolesUnique.rename (h : RolesUnique roles) {id : Id} {role : Role} {name : String}
    (hfind : roles.find? id = some role)
    (hunique : ∀ k r, roles.find? k = some r → k ≠ id →
      ¬(r.name = name ∧ r.tenantId = role.tenantId)) :
    RolesUnique (roles.modify id fun r => { r with name }) := by
  intro k k' r hr hr'
  rcases Table.find?_modify_cases hr with ⟨hne, hold⟩ | ⟨rfl, r₀, hold, rfl⟩
  · rcases Table.find?_modify_cases hr' with ⟨hne', hold'⟩ | ⟨rfl, r₀', hold', rfl⟩
    · exact h k k' r hold hold'
    · obtain rfl := Option.some.inj (hold'.symm.trans hfind)
      exact absurd ⟨rfl, rfl⟩ (hunique k _ hold hne)
  · rcases Table.find?_modify_cases hr' with ⟨hne', hold'⟩ | ⟨rfl, _⟩
    · obtain rfl := Option.some.inj (hold.symm.trans hfind)
      exact absurd ⟨rfl, rfl⟩ (hunique k' _ hold' hne')
    · rfl

/-- An owner has no location. -/
theorem OwnersInv.locationId_eq_none (h : OwnersInv s) {k : Id} {a : UserAssignment}
    (hfind : s.assignments.find? k = some a) (howner : IsOwner s tenantId a) :
    a.locationId = none := by
  by_contra hne
  have hscope := (h.scope k a hfind).mpr (Option.isSome_iff_ne_none.mpr hne)
  rw [howner.2.1] at hscope
  cases hscope

/-- The owners of all tenants stay. -/
theorem OwnersInv.keep (h : OwnersInv s)
    (htenants : ∀ t, (s'.tenants.find? t).isSome → (s.tenants.find? t).isSome)
    (hassignments : ∀ t k a, s.assignments.find? k = some a → IsOwner s t a →
      s'.assignments.find? k = some a)
    (hroles : ∀ t k, s.roles.find? k = some ⟨SUPER_ADMIN_ROLE, t⟩ →
      s'.roles.find? k = some ⟨SUPER_ADMIN_ROLE, t⟩) : TenantsOwned s' :=
  fun t ht => (h.owned t (htenants t ht)).keep (hassignments t) (hroles t)

theorem newAssignment_scopeFits {dto : CreateUserAssignmentDto} {assignedById : Option Id}
    (h : readAssign tenantId dto s = .ok ()) :
    (newAssignment tenantId dto assignedById).ScopeFits := by
  rw [UserAssignment.ScopeFits, newAssignment_locationId assignedById h]
  exact (readAssign_ok h).2.1

theorem OwnersInv.step (h : OwnersInv s) (hleaves : LeavesOwner s call) :
    OwnersInv (answerAccess rt call s) := by
  have hstep := accessStep rt call s
  unfold answerAccess
  generalize serveAccess rt call s = result at hstep ⊢
  cases hstep with
  | refused | settled | invited | locationCreated =>
    exact ⟨h.keep (fun _ ht => ht) (fun _ _ _ ha _ => ha) (fun _ _ hr => hr), h.scope, h.unique,
      h.tenants⟩
  | accepted userId userEmail token k i invitations hrequest haccepts hkeeps =>
    refine ⟨h.keep (fun _ ht => ht) (fun _ _ _ ha _ => find?_withInvited ha) (fun _ _ hr => hr),
      ?_, h.unique, h.tenants⟩
    show (withInvited userId i s.assignments).All fun _ a => a.ScopeFits
    unfold withInvited
    split
    · exact h.scope
    · exact Serial.All_create h.scope ⟨(fun hscope => nomatch hscope), fun hsome => nomatch hsome⟩
  | tenantCreated userId name superAdminRole rolePermissions hrequest hrole hname =>
    -- a role belongs to a tenant that exists, so to none that is only now made
    have hnew : ∀ k r, s.roles.find? k = some r → r.tenantId ≠ s.tenants.next := by
      intro k r hr heq
      have hsome : (s.tenants.find? r.tenantId).isSome := h.tenants k r hr
      rw [heq, s.tenants.find?_next] at hsome
      cases hsome
    refine ⟨fun t ht => ?_, Serial.All_create h.scope ?_, h.unique.withDefaultRoles hnew, ?_⟩
    · obtain ⟨tenant, htenant⟩ := Option.isSome_iff_exists.mp ht
      rcases Serial.find?_create_cases htenant with hold | ⟨rfl, _⟩
      · exact (h.owned t (Option.isSome_of_mem hold)).keep
          (fun _ _ ha _ => Serial.find?_create_of_some ha _) fun _ hr => find?_withDefaultRoles hr
      · refine ⟨s.assignments.next, _, (Serial.find?_create _).trans (if_pos rfl), rfl, rfl, ?_⟩
        exact (Table.find?_of_mem_rows hrole).trans (congrArg some hname)
    · exact ⟨(fun hscope => nomatch hscope), fun hsome => nomatch hsome⟩
    · exact tenants_withDefaultRoles h.tenants _
  | memberRemoved tenantId targetUserId hrequest hnone =>
    refine ⟨h.keep (fun _ ht => ht) (fun t k a ha howner => ?_) (fun _ _ hr => hr),
      h.scope.deleteWhere _, h.unique, h.tenants⟩
    refine Table.find?_deleteWhere_of_some ha (decide_eq_false ?_)
    rintro ⟨huser, htenant⟩
    exact hnone (k, a) (Table.mem_rows_of_find? ha) huser htenant _ howner.2.2 rfl
  | roleCreated role rolePermissions dto hrequest htenant hunique =>
    refine ⟨h.keep (fun _ ht => ht) (fun _ _ _ ha _ => ha)
      (fun _ _ hr => Serial.find?_create_of_some hr _), h.scope, h.unique.create ?_,
      Serial.All_create h.tenants htenant⟩
    rintro k r hr rfl
    exact hunique k r hr ⟨rfl, rfl⟩
  | roleUpdated id tenantId dto role name rolePermissions hrequest hfind hprotected hunique =>
    refine ⟨h.keep (fun _ ht => ht) (fun _ _ _ ha _ => ha) (fun t k hr => ?_), h.scope,
      h.unique.rename hfind hunique, h.tenants.modify fun r _ hr => hr⟩
    by_cases hk : k = id
    · subst hk
      obtain rfl := Option.some.inj (hr.symm.trans hfind)
      rw [Serial.find?_modify_of_some hr, hprotected rfl]
    · rw [Serial.toTable_modify, Table.find?_modify, if_neg hk]
      exact hr
  | roleRemoved id tenantId role hrequest hfind hprotected =>
    have hother : ∀ t k, s.roles.find? k = some ⟨SUPER_ADMIN_ROLE, t⟩ → k ≠ id := by
      rintro t k hr rfl
      obtain rfl := Option.some.inj (hr.symm.trans hfind)
      exact hprotected rfl
    refine ⟨h.keep (fun _ ht => ht) (fun t k a ha howner => ?_) (fun t k hr => ?_),
      h.scope.deleteWhere _, h.unique.deleteWhere _, h.tenants.deleteWhere _⟩
    · exact Table.find?_deleteWhere_of_some ha (decide_eq_false (hother t _ howner.2.2))
    · exact Table.find?_deleteWhere_of_some hr (decide_eq_false (hother t k hr))
  | assigned tenantId dto assignedById hrequest hassigns =>
    refine ⟨h.keep (fun _ ht => ht) (fun _ _ _ ha _ => Serial.find?_create_of_some ha _)
      (fun _ _ hr => hr), Serial.All_create h.scope (newAssignment_scopeFits hassigns.checks),
      h.unique, h.tenants⟩
  | unassigned tenantId dto hrequest hremaining =>
    refine ⟨fun t ht => ?_, h.scope.deleteWhere _, h.unique, h.tenants⟩
    obtain ⟨k, a, ha, howner⟩ := h.owned t ht
    -- if the assignment goes, `hleaves` gives another one that is not selected
    by_cases hselects : dto.selects tenantId a = true
    · obtain ⟨hrole, huser, htenant, hlocation⟩ := of_decide_eq_true hselects
      obtain rfl : tenantId = t := htenant.symm.trans howner.1
      have hrow : s.roles.find? dto.roleId = some ⟨SUPER_ADMIN_ROLE, tenantId⟩ :=
        hrole ▸ howner.2.2
      unfold LeavesOwner at hleaves
      rw [hrequest] at hleaves
      obtain ⟨r, hr, hscope⟩ := hleaves (hlocation.symm.trans (h.locationId_eq_none ha howner))
        hrow (hremaining _ hrow rfl)
      obtain ⟨hmem, hother⟩ := List.mem_filter.mp hr
      obtain ⟨hrole', htenant', huser'⟩ := of_decide_eq_true hother
      refine ⟨r.1, r.2, Table.find?_deleteWhere_of_some (Table.find?_of_mem_rows hmem) ?_,
        htenant', hscope, hrole'.symm ▸ hrow⟩
      exact decide_eq_false fun hsel => huser' hsel.2.1
    · exact ⟨k, a, Table.find?_deleteWhere_of_some ha (Bool.not_eq_true _ ▸ hselects), howner⟩
  | locationRemoved tenantId id hasStockData hrequest =>
    refine ⟨h.keep (fun _ ht => ht) (fun t k a ha howner => ?_) (fun _ _ hr => hr),
      h.scope.deleteWhere _, h.unique, h.tenants⟩
    refine Table.find?_deleteWhere_of_some ha (decide_eq_false ?_)
    rw [h.locationId_eq_none ha howner]
    exact fun heq => nomatch heq

/-- Where the other users hold the role at single locations, the request removes every owner. -/
theorem OwnersInv.selects_of_isOwner (h : OwnersInv s) {dto : RemoveUserAssignmentDto}
    (hlocation : dto.locationId = none)
    (hrow : s.roles.find? dto.roleId = some ⟨SUPER_ADMIN_ROLE, tenantId⟩)
    (hnone : ∀ r ∈ remainingAssignments tenantId dto s, r.2.accessScope ≠ .tenant) {k : Id}
    {a : UserAssignment} (ha : s.assignments.find? k = some a) (howner : IsOwner s tenantId a) :
    dto.selects tenantId a = true := by
  have hrole : a.roleId = dto.roleId := h.unique _ _ _ howner.2.2 hrow
  refine decide_eq_true ⟨hrole, ?_, howner.1, ?_⟩
  · by_contra huser
    refine hnone (k, a) (List.mem_filter.mpr ⟨Table.mem_rows_of_find? ha, ?_⟩) howner.2.1
    exact decide_eq_true ⟨hrole, howner.1, huser⟩
  · rw [hlocation]
    exact h.locationId_eq_none ha howner

/-- The last owner is removed. -/
theorem OwnersInv.breaks (h : OwnersInv s) (hbad : ¬LeavesOwner s call) :
    ¬TenantsOwned (answerAccess rt call s) := by
  rw [LeavesOwner] at hbad
  split at hbad
  · next tenantId dto hrequest =>
    simp only [Classical.not_imp, not_exists, not_and] at hbad
    obtain ⟨hlocation, hrow, hremaining, hnone⟩ := hbad
    have hselects : ∀ k a, s.assignments.find? k = some a → IsOwner s tenantId a →
        dto.selects tenantId a = true :=
      fun _ _ ha howner => h.selects_of_isOwner hlocation hrow hnone ha howner
    obtain ⟨k, a, ha, howner⟩ := h.owned tenantId (h.tenants _ _ hrow)
    have hread : readRemoveAssignment tenantId dto s = .ok () :=
      if_neg fun hlast => hremaining (List.length_eq_zero_iff.mp hlast.2)
    have hcommit : commitRemoveAssignment tenantId dto s =
        .ok ((), s.removeAssignments (dto.selects tenantId)) :=
      if_pos (List.any_eq_true.mpr ⟨(k, a), Table.mem_rows_of_find? ha, hselects k a ha howner⟩)
    have hanswer : answerAccess rt call s = s.removeAssignments (dto.selects tenantId) := by
      rw [answerAccess, serveAccess, hrequest]
      simp only [removeUserAssignment, bind, Handler.read, hread, Handler.atomically,
        transaction_of_ok hcommit]
    rw [hanswer]
    intro howned
    obtain ⟨k', a', ha', howner'⟩ := howned tenantId (h.tenants _ _ hrow)
    obtain ⟨hold, hkept⟩ := Table.find?_of_find?_deleteWhere ha'
    rw [hselects k' a' hold howner'] at hkept
    cases hkept
  · exact absurd trivial hbad

end Steps

/-- In every run of requests every tenant keeps an owner, exactly if no removal of an assignment
leaves the SuperAdmin role to users at single locations alone. -/
theorem tenants_keep_owner_iff {rt : Runtime} {s : AccessStore} (hs : OwnersInv s)
    (calls : List AccessCall) :
    Runs.Always (answerAccess rt) TenantsOwned calls s ↔
      Runs.AllMeet (answerAccess rt) LeavesOwner calls s :=
  Runs.always_iff_allMeet (I := OwnersInv) (fun _ h => h.owned)
    (fun _ _ h _ hleaves => h.step hleaves) (fun _ _ h _ hbad => h.breaks hbad) hs
    (Runs.allMeet_true calls)

/-- The tables before the first tenant, with two users. -/
def twoUsers : AccessStore :=
  .initial ((Serial.empty.create "a@b.c").create "d@e.f") .empty

theorem twoUsers_ownersInv : OwnersInv twoUsers :=
  ⟨(fun _ ht => nomatch ht), (fun _ _ ha => nomatch ha), (fun _ _ _ hr => nomatch hr),
    fun _ _ hr => nomatch hr⟩

/-- A user creates a tenant and a location, and gives the SuperAdmin role to another. -/
def sharedOwnership (accessScope : AccessScope) (locationId : Option Id) : List AccessCall :=
  [⟨0, .createTenant 0 "Tea"⟩, ⟨1, .createLocation 0 ⟨none, "l@b.c", "1"⟩⟩,
    ⟨2, .assignUser 0 ⟨0, 1, accessScope, locationId⟩ (some 0)⟩,
    ⟨3, .removeUserAssignment 0 ⟨0, 0, none⟩⟩]

theorem tenants_keep_owner_iff_handedOver :
    Runs.Always (answerAccess .plain) TenantsOwned (sharedOwnership .tenant none) twoUsers := by
  refine (tenants_keep_owner_iff twoUsers_ownersInv _).mpr
    ⟨trivial, trivial, trivial, fun _ _ _ => ?_, trivial⟩
  decide +kernel

/-- The other user holds the role at one location, and the only owner is removed. -/
theorem owner_removed :
    ¬Runs.Always (answerAccess .plain) TenantsOwned (sharedOwnership .location (some 0)) twoUsers := by
  intro h
  obtain ⟨k, a, ha, howner⟩ := h.last 0 rfl
  have hrows : ∀ r ∈ ((sharedOwnership .location (some 0)).foldl
      (fun s call => answerAccess .plain call s) twoUsers).assignments.rows,
      r.2.accessScope ≠ .tenant := by decide +kernel
  exact hrows _ (Table.mem_rows_of_find? ha) howner.2.1

end Invetrixa
