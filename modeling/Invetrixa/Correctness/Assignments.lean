import Invetrixa.Correctness.Owners

/-!
# Role assignments

An assignment should be of a role and at a location of its tenant, to one of its members, and made
once. Whoever is assigned a role is looked up among all users, and the location among all
locations; and the unique index that should keep an assignment from being made twice does not
compare rows without a location.

## Main definitions

- `AssignmentsSound` — assignments are well formed, and none is made twice
- `RolesHeld` — roles that are assigned are there, in the tenant of their assignment

## Main results

- `RolesHeld.step` — every request keeps that
- `assignments_sound_iff` — assignments are well formed exactly if whoever makes one sees to what
  is not checked
- `assigned_twice`
-/

namespace Invetrixa

open Rowstore Requests TenantsService RoleService LocationService

/-- An assignment whose role and location belong to its tenant, and whose user is a member. -/
structure WellAssigned (s : AccessStore) (a : UserAssignment) : Prop where
  role : ∃ role ∈ s.roles.find? a.roleId, role.tenantId = a.tenantId
  location : ∀ id ∈ a.locationId, ∃ l ∈ s.locations.find? id, l.tenantId = a.tenantId
  member : (a.userId, a.tenantId) ∈ s.memberships
  scope : a.ScopeFits

/-- Two assignments of a user to a role at one place. -/
def UserAssignment.Twin (a a' : UserAssignment) : Prop :=
  a.userId = a'.userId ∧ a.roleId = a'.roleId ∧ a.tenantId = a'.tenantId ∧
    a.locationId = a'.locationId

instance (a a' : UserAssignment) : Decidable (a.Twin a') := inferInstanceAs (Decidable (_ ∧ _))

/-- Assignments are well formed, and none is made twice. -/
structure AssignmentsSound (s : AccessStore) : Prop where
  rows : s.assignments.All fun _ a => WellAssigned s a
  distinct : ∀ k k' a a', s.assignments.find? k = some a → s.assignments.find? k' = some a' →
    a.Twin a' → k = k'

/-- No assignment of the table is the same as a new one. -/
def NoTwin (s : AccessStore) (a : UserAssignment) : Prop :=
  ∀ k a', s.assignments.find? k = some a' → ¬a'.Twin a

/-- What is not checked where an assignment is made. An accept that goes through does not assign
what the user has been assigned; an assignment that goes through is to a member of the tenant, at
a location of the tenant if at any, and new. -/
def AssignsProperly (rt : Runtime) (s : AccessStore) (call : AccessCall) : Prop :=
  match call.request with
  | .invitation (.accept userId userEmail token) => ∀ k i,
      Accepts rt call.now userId userEmail token k i s → ∀ roleId ∈ i.roleId,
        NoTwin s (invitedAssignment userId i roleId)
  | .assignUser tenantId dto assignedById => Assigns tenantId dto assignedById s →
      (dto.userId, tenantId) ∈ s.memberships ∧
      (∀ id ∈ dto.locationId, ∃ l ∈ s.locations.find? id, l.tenantId = tenantId) ∧
      NoTwin s (newAssignment tenantId dto assignedById)
  | _ => True

/-- A role that is assigned or goes with an invitation is there, in the tenant of that, and the
tenant of a role is there. -/
structure RolesHeld (s : AccessStore) : Prop where
  assignments : s.assignments.All fun _ a =>
    ∃ role, s.roles.find? a.roleId = some role ∧ role.tenantId = a.tenantId
  invitations : s.invitations.All fun _ i => ∀ id ∈ i.roleId,
    ∃ role, s.roles.find? id = some role ∧ role.tenantId = i.tenantId
  tenants : s.roles.All fun _ r => (s.tenants.find? r.tenantId).isSome

/-- What every request keeps: roles belong to tenants that are there, and an invitation has a role
of its tenant, if any. -/
structure AssignmentsInv (s : AccessStore) : Prop where
  sound : AssignmentsSound s
  tenants : s.roles.All fun _ r => (s.tenants.find? r.tenantId).isSome
  invitations : s.invitations.All fun _ i =>
    ∀ id ∈ i.roleId, ∃ role ∈ s.roles.find? id, role.tenantId = i.tenantId

theorem AssignmentsInv.rolesHeld {s : AccessStore} (h : AssignmentsInv s) : RolesHeld s where
  assignments k a ha := (h.sound.rows k a ha).role
  invitations := h.invitations
  tenants := h.tenants

section Held

variable {rt : Runtime} {s s' : AccessStore} {call : AccessCall}

/-- Every role of one state is in another, in its tenant. -/
def RolesStay (s s' : AccessStore) : Prop :=
  ∀ k r, s.roles.find? k = some r → ∃ r', s'.roles.find? k = some r' ∧ r'.tenantId = r.tenantId

/-- A role gets another name. -/
theorem rolesStay_modify (id : Id) (name : String) (s : AccessStore) :
    RolesStay s { s with roles := s.roles.modify id fun r => { r with name } } := by
  intro k r hr
  show ∃ r', (s.roles.modify id fun r => { r with name }).find? k = some r' ∧ _
  rw [Serial.toTable_modify, Table.find?_modify]
  split
  · rw [hr]
    exact ⟨_, rfl, rfl⟩
  · exact ⟨r, hr, rfl⟩

/-- An assignment is to a tenant that is there. -/
theorem RolesHeld.tenantId_ne_next (h : RolesHeld s) {k : Id} {a : UserAssignment}
    (ha : s.assignments.find? k = some a) : a.tenantId ≠ s.tenants.next := by
  intro heq
  obtain ⟨role, hrole, htenant⟩ := h.assignments k a ha
  have hsome : (s.tenants.find? role.tenantId).isSome := h.tenants _ role hrole
  rw [htenant, heq, s.tenants.find?_next] at hsome
  cases hsome

/-- Invitations are settled, and all roles stay. -/
theorem RolesHeld.invitations_of_keeps (h : RolesHeld s)
    (hkeeps : KeepsInvitations s.invitations s'.invitations) (hroles : RolesStay s s') :
    s'.invitations.All fun _ i => ∀ id ∈ i.roleId,
      ∃ role, s'.roles.find? id = some role ∧ role.tenantId = i.tenantId := by
  intro k i' hi' id hid
  obtain ⟨i, hi, htenant, hrole⟩ := hkeeps k i' hi'
  obtain ⟨role, hfind, hrtenant⟩ := h.invitations k i hi id (hrole ▸ hid)
  obtain ⟨role', hfind', hrtenant'⟩ := hroles id role hfind
  exact ⟨role', hfind', hrtenant'.trans (hrtenant.trans htenant.symm)⟩

/-- All roles stay, and with them those of the assignments. -/
theorem RolesHeld.assignments_of_stay (h : RolesHeld s) (hroles : RolesStay s s') :
    s.assignments.All fun _ a =>
      ∃ role, s'.roles.find? a.roleId = some role ∧ role.tenantId = a.tenantId := by
  intro k a ha
  obtain ⟨role, hfind, htenant⟩ := h.assignments k a ha
  obtain ⟨role', hfind', htenant'⟩ := hroles _ role hfind
  exact ⟨role', hfind', htenant'.trans htenant⟩

theorem RolesHeld.step (h : RolesHeld s) : RolesHeld (serveAccess rt call s).2 := by
  have hsame : RolesStay s s := fun _ r hr => ⟨r, hr, rfl⟩
  have hstep := accessStep rt call s
  generalize serveAccess rt call s = result at hstep ⊢
  cases hstep with
  | refused e invitations hkeeps =>
    exact ⟨h.assignments, h.invitations_of_keeps hkeeps hsame, h.tenants⟩
  | settled request invitations hrequest hdeclined hkeeps =>
    exact ⟨h.assignments, h.invitations_of_keeps hkeeps hsame, h.tenants⟩
  | invited invitation invitedById dto token hrequest hrole =>
    exact ⟨h.assignments, Serial.All_create h.invitations hrole, h.tenants⟩
  | accepted userId userEmail token k i invitations hrequest haccepts hkeeps =>
    refine ⟨?_, h.invitations_of_keeps hkeeps hsame, h.tenants⟩
    show (withInvited userId i s.assignments).All _
    unfold withInvited
    split
    · exact h.assignments
    · next roleId hrole =>
      exact Serial.All_create h.assignments
        (h.invitations k i (find?_of_findInvitation haccepts.found) roleId hrole)
  | tenantCreated userId name superAdminRole rolePermissions hrequest hrole hname =>
    have hroles : ∀ k r, s.roles.find? k = some r →
        ∃ r', (withDefaultRoles s.tenants.next s.roles).find? k = some r' ∧
          r'.tenantId = r.tenantId := fun k r hr => ⟨r, find?_withDefaultRoles hr, rfl⟩
    have hassigned := @RolesHeld.assignments_of_stay s
      { s with roles := withDefaultRoles s.tenants.next s.roles } h hroles
    refine ⟨Serial.All_create hassigned ?_,
      h.invitations_of_keeps (KeepsInvitations.refl _) hroles, tenants_withDefaultRoles h.tenants _⟩
    refine ⟨superAdminRole.2, Table.find?_of_mem_rows hrole, ?_⟩
    rw [hname]
    rfl
  | memberRemoved tenantId targetUserId hrequest hnone =>
    exact ⟨h.assignments.deleteWhere _, h.invitations, h.tenants⟩
  | roleCreated role rolePermissions dto hrequest htenant hunique =>
    have hroles : ∀ k r, s.roles.find? k = some r →
        ∃ r', (s.roles.create role).find? k = some r' ∧ r'.tenantId = r.tenantId :=
      fun k r hr => ⟨r, Serial.find?_create_of_some hr _, rfl⟩
    exact ⟨h.assignments_of_stay hroles, h.invitations_of_keeps (KeepsInvitations.refl _) hroles,
      Serial.All_create h.tenants htenant⟩
  | roleUpdated id tenantId dto role name rolePermissions hrequest hfind hprotected hunique =>
    have hroles := rolesStay_modify id name s
    exact ⟨h.assignments_of_stay hroles, h.invitations_of_keeps (KeepsInvitations.refl _) hroles,
      h.tenants.modify fun _ _ hr => hr⟩
  | roleRemoved id tenantId role hrequest hfind hprotected =>
    refine ⟨fun k a ha => ?_, fun k i' hi' roleId hroleId => ?_, h.tenants.deleteWhere _⟩
    · obtain ⟨hold, hother⟩ := Table.find?_of_find?_deleteWhere ha
      obtain ⟨role, hrole, htenant⟩ := h.assignments k a hold
      exact ⟨role, Table.find?_deleteWhere_of_some hrole hother, htenant⟩
    · obtain ⟨i, hi, rfl⟩ := Option.map_eq_some_iff.mp
        ((Table.find?_modifyWhere _ _).symm.trans hi')
      -- an invitation that keeps a role has another than the one that goes
      split at hroleId
      · cases hroleId
      · next hother =>
        obtain ⟨role, hrole, htenant⟩ := h.invitations k i hi roleId hroleId
        rw [if_neg hother]
        refine ⟨role, Table.find?_deleteWhere_of_some hrole (decide_eq_false ?_), htenant⟩
        rintro rfl
        exact hother (decide_eq_true hroleId)
  | assigned tenantId dto assignedById hrequest hassigns =>
    exact ⟨Serial.All_create h.assignments (readAssign_ok hassigns.checks).1, h.invitations,
      h.tenants⟩
  | unassigned tenantId dto hrequest hremaining =>
    exact ⟨h.assignments.deleteWhere _, h.invitations, h.tenants⟩
  | locationCreated location dto hrequest => exact ⟨h.assignments, h.invitations, h.tenants⟩
  | locationRemoved tenantId id hasStockData hrequest =>
    exact ⟨h.assignments.deleteWhere _, h.invitations, h.tenants⟩

end Held

section Steps

variable {rt : Runtime} {s s' : AccessStore} {call : AccessCall} {tenantId : Id}
  {a : UserAssignment}

/-- Rows go, and those that stay are still well formed. -/
theorem AssignmentsSound.deleteWhere (h : AssignmentsSound s) {p : UserAssignment → Bool}
    (hassignments : s'.assignments = s.assignments.deleteWhere fun _ a => p a)
    (hkept : ∀ a, p a = false → WellAssigned s a → WellAssigned s' a) : AssignmentsSound s' := by
  constructor
  · intro k a ha
    rw [hassignments] at ha
    obtain ⟨hold, hp⟩ := Table.find?_of_find?_deleteWhere ha
    exact hkept a hp (h.rows k a hold)
  · intro k k' a a' ha ha' htwin
    rw [hassignments] at ha ha'
    exact h.distinct k k' a a' (Table.find?_of_find?_deleteWhere ha).1
      (Table.find?_of_find?_deleteWhere ha').1 htwin

/-- The rows stay, and are still well formed. -/
theorem AssignmentsSound.congr (h : AssignmentsSound s) (hassignments : s'.assignments = s.assignments)
    (hkept : ∀ a, WellAssigned s a → WellAssigned s' a) : AssignmentsSound s' := by
  constructor
  · intro k a ha
    rw [hassignments] at ha
    exact hkept a (h.rows k a ha)
  · intro k k' a a' ha ha' htwin
    rw [hassignments] at ha ha'
    exact h.distinct k k' a a' ha ha' htwin

/-- A row is added that is well formed and new. -/
theorem AssignmentsSound.create (h : AssignmentsSound s)
    (hassignments : s'.assignments = s.assignments.create a)
    (hkept : ∀ a, WellAssigned s a → WellAssigned s' a) (hnew : WellAssigned s' a)
    (htwin : NoTwin s a) : AssignmentsSound s' := by
  constructor
  · intro k b hb
    rw [hassignments] at hb
    rcases Serial.find?_create_cases hb with hold | ⟨_, rfl⟩
    · exact hkept b (h.rows k b hold)
    · exact hnew
  · intro k k' b b' hb hb' hbb
    rw [hassignments] at hb hb'
    rcases Serial.find?_create_cases hb with hold | ⟨rfl, rfl⟩
    · rcases Serial.find?_create_cases hb' with hold' | ⟨rfl, rfl⟩
      · exact h.distinct k k' b b' hold hold' hbb
      · exact absurd hbb (htwin k b hold)
    · rcases Serial.find?_create_cases hb' with hold' | ⟨rfl, _⟩
      · obtain ⟨huser, hrole, htenant, hlocation⟩ := hbb
        exact absurd ⟨huser.symm, hrole.symm, htenant.symm, hlocation.symm⟩ (htwin k' b' hold')
      · rfl

/-- More roles, locations and members keep an assignment well formed. -/
theorem WellAssigned.mono (h : WellAssigned s a)
    (hroles : ∀ k r, s.roles.find? k = some r →
      ∃ r', s'.roles.find? k = some r' ∧ r'.tenantId = r.tenantId)
    (hlocations : ∀ k l, s.locations.find? k = some l → s'.locations.find? k = some l)
    (hmembers : ∀ m ∈ s.memberships, m ∈ s'.memberships) : WellAssigned s' a := by
  obtain ⟨role, hrole, htenant⟩ := h.role
  obtain ⟨role', hrole', htenant'⟩ := hroles _ role hrole
  refine ⟨⟨role', hrole', htenant'.trans htenant⟩, fun id hid => ?_, hmembers _ h.member, h.scope⟩
  obtain ⟨l, hl, hltenant⟩ := h.location id hid
  exact ⟨l, hlocations id l hl, hltenant⟩

theorem invitedAssignment_scopeFits (userId roleId : Id) (i : TenantInvitation) :
    (invitedAssignment userId i roleId).ScopeFits :=
  ⟨(fun hscope => nomatch hscope), fun hsome => nomatch hsome⟩

/-- An accept adds its assignment, if it is new. -/
theorem AssignmentsInv.accepted (h : AssignmentsInv s) {userId k : Id} {i : TenantInvitation}
    {invitations : Serial TenantInvitation} (hfind : s.invitations.find? k = some i)
    (htwin : ∀ roleId ∈ i.roleId, NoTwin s (invitedAssignment userId i roleId)) :
    AssignmentsSound { s.connect userId i.tenantId with
      assignments := withInvited userId i s.assignments, invitations } := by
  have hkept : ∀ {s'' : AccessStore}, s''.roles = s.roles → s''.locations = s.locations →
      s''.memberships = s.memberships.insert (userId, i.tenantId) → ∀ a, WellAssigned s a →
      WellAssigned s'' a := by
    intro s'' hroles hlocations hmembers a ha
    refine ha.mono (fun k r hr => ⟨r, hroles ▸ hr, rfl⟩) (fun k l hl => hlocations ▸ hl) ?_
    exact fun m hm => hmembers ▸ List.mem_insert_of_mem hm
  cases hrole : i.roleId with
  | none =>
    have hsame : withInvited userId i s.assignments = s.assignments := by
      rw [withInvited, hrole]
    exact h.sound.congr hsame (hkept rfl rfl rfl)
  | some roleId =>
    have hcreate : withInvited userId i s.assignments =
        s.assignments.create (invitedAssignment userId i roleId) := by
      rw [withInvited, hrole]
    refine h.sound.create hcreate (hkept rfl rfl rfl) ?_ (htwin roleId hrole)
    refine ⟨h.invitations k i hfind roleId hrole, fun _ hid => ?_, List.mem_insert_self,
      invitedAssignment_scopeFits userId roleId i⟩
    cases hid

theorem AssignmentsInv.sound_step (h : AssignmentsInv s) (hproper : AssignsProperly rt s call) :
    AssignmentsSound (answerAccess rt call s) := by
  have hstep := accessStep rt call s
  unfold answerAccess
  generalize serveAccess rt call s = result at hstep ⊢
  cases hstep with
  | refused e invitations hkeeps =>
    exact h.sound.congr rfl fun _ ha => ⟨ha.role, ha.location, ha.member, ha.scope⟩
  | settled request invitations hrequest hdeclined hkeeps =>
    exact h.sound.congr rfl fun _ ha => ⟨ha.role, ha.location, ha.member, ha.scope⟩
  | invited invitation invitedById dto token hrequest hrole =>
    exact h.sound.congr rfl fun _ ha => ⟨ha.role, ha.location, ha.member, ha.scope⟩
  | accepted userId userEmail token k i invitations hrequest haccepts hkeeps =>
    unfold AssignsProperly at hproper
    rw [hrequest] at hproper
    exact h.accepted (find?_of_findInvitation haccepts.found) (hproper k i haccepts)
  | tenantCreated userId name superAdminRole rolePermissions hrequest hrole hname =>
    have hroles : ∀ k r, s.roles.find? k = some r →
        ∃ r', (withDefaultRoles s.tenants.next s.roles).find? k = some r' ∧
          r'.tenantId = r.tenantId := fun k r hr => ⟨r, find?_withDefaultRoles hr, rfl⟩
    refine h.sound.create rfl (fun a ha => ha.mono hroles (fun _ _ hl => hl)
      fun m hm => List.mem_insert_of_mem hm) ?_ ?_
    · refine ⟨⟨superAdminRole.2, Table.find?_of_mem_rows hrole, ?_⟩, (fun _ hid => nomatch hid),
        List.mem_insert_self, (fun hscope => nomatch hscope), fun hsome => nomatch hsome⟩
      rw [hname]
      rfl
    · exact fun k a' ha' htwin => h.rolesHeld.tenantId_ne_next ha' htwin.2.2.1
  | memberRemoved tenantId targetUserId hrequest hnone =>
    refine h.sound.deleteWhere rfl fun a hp ha => ?_
    refine ⟨ha.role, ha.location, List.mem_filter.mpr ⟨ha.member, decide_eq_true ?_⟩, ha.scope⟩
    intro heq
    exact of_decide_eq_false hp (Prod.mk.inj heq)
  | roleCreated role rolePermissions dto hrequest htenant hunique =>
    have hroles : ∀ k r, s.roles.find? k = some r →
        ∃ r', (s.roles.create role).find? k = some r' ∧ r'.tenantId = r.tenantId :=
      fun k r hr => ⟨r, Serial.find?_create_of_some hr _, rfl⟩
    exact h.sound.congr rfl fun a ha => ha.mono hroles (fun _ _ hl => hl) (fun _ hm => hm)
  | roleUpdated id tenantId dto role name rolePermissions hrequest hfind hprotected hunique =>
    exact h.sound.congr rfl fun a ha => ha.mono (rolesStay_modify id name s) (fun _ _ hl => hl)
      fun _ hm => hm
  | roleRemoved id tenantId role hrequest hfind hprotected =>
    refine h.sound.deleteWhere rfl fun a hp ha => ?_
    obtain ⟨role, hrole, htenant⟩ := ha.role
    exact ⟨⟨role, Table.find?_deleteWhere_of_some hrole hp, htenant⟩, ha.location, ha.member,
      ha.scope⟩
  | assigned tenantId dto assignedById hrequest hassigns =>
    unfold AssignsProperly at hproper
    rw [hrequest] at hproper
    obtain ⟨hmember, hlocation, htwin⟩ := hproper hassigns
    refine h.sound.create rfl (fun _ ha => ⟨ha.role, ha.location, ha.member, ha.scope⟩) ?_ htwin
    refine ⟨(readAssign_ok hassigns.checks).1, ?_, hmember, newAssignment_scopeFits hassigns.checks⟩
    rw [newAssignment_locationId assignedById hassigns.checks]
    exact hlocation
  | unassigned tenantId dto hrequest hremaining =>
    exact h.sound.deleteWhere rfl fun _ _ ha => ⟨ha.role, ha.location, ha.member, ha.scope⟩
  | locationCreated location dto hrequest =>
    exact h.sound.congr rfl fun a ha => ha.mono (fun _ r hr => ⟨r, hr, rfl⟩)
      (fun _ _ hl => Serial.find?_create_of_some hl _) fun _ hm => hm
  | locationRemoved tenantId id hasStockData hrequest =>
    refine h.sound.deleteWhere rfl fun a hp ha => ?_
    refine ⟨ha.role, fun id' hid' => ?_, ha.member, ha.scope⟩
    obtain ⟨l, hl, htenant⟩ := ha.location id' hid'
    refine ⟨l, Table.find?_deleteWhere_of_some hl (decide_eq_false ?_), htenant⟩
    rintro rfl
    exact of_decide_eq_false hp hid'

theorem AssignmentsInv.step (h : AssignmentsInv s) (hproper : AssignsProperly rt s call) :
    AssignmentsInv (answerAccess rt call s) where
  sound := h.sound_step hproper
  tenants := h.rolesHeld.step.tenants
  invitations := h.rolesHeld.step.invitations

/-- An assignment that is made twice. -/
theorem twin_breaks (hassignments : s'.assignments = s.assignments.create a)
    (htwin : ¬NoTwin s a) : ¬AssignmentsSound s' := by
  intro h
  simp only [NoTwin, not_forall, not_not] at htwin
  obtain ⟨k, a', ha', hsame⟩ := htwin
  have hk := h.distinct k s.assignments.next a' a
    (hassignments ▸ Serial.find?_create_of_some ha' a)
    (hassignments ▸ (Serial.find?_create a).trans (if_pos rfl)) hsame
  rw [hk, s.assignments.find?_next] at ha'
  cases ha'

theorem answerAccess_of_accepts {userId k : Id} {userEmail token : String} {i : TenantInvitation}
    (hrequest : call.request = .invitation (.accept userId userEmail token))
    (h : Accepts rt call.now userId userEmail token k i s) :
    (answerAccess rt call s).assignments = withInvited userId i s.assignments := by
  have hfound : acceptFound rt call.now userId userEmail (k, i) s =
      Handler.atomically (commitAccept call.now userId (k, i)) s := by
    rw [acceptFound, if_neg (not_not.mpr h.email), if_neg (Bool.not_eq_true _ ▸ h.live)]
    simp only [bind, Handler.read, h.pending, acceptable]
  have hok := h.commits
  cases hcommit : commitAccept call.now userId (k, i) s with
  | error e =>
    rw [hcommit] at hok
    cases hok
  | ok result =>
    obtain ⟨_, s'⟩ := result
    have hs' := commitAccept_ok hcommit
    rw [answerAccess, serveAccess, hrequest]
    simp only [serveInvitation, acceptInvitation, bind, Handler.read, h.found, hfound,
      Handler.atomically, transaction_of_ok hcommit]
    rw [hs']

theorem answerAccess_of_assigns {dto : CreateUserAssignmentDto} {assignedById : Option Id}
    (hrequest : call.request = .assignUser tenantId dto assignedById)
    (h : Assigns tenantId dto assignedById s) :
    answerAccess rt call s =
      { s with assignments := s.assignments.create (newAssignment tenantId dto assignedById) } := by
  have hok := h.inserts
  cases hinsert : insertAssignment (newAssignment tenantId dto assignedById) s with
  | error e =>
    rw [hinsert] at hok
    cases hok
  | ok s' =>
    have hcommit : commitAssign (newAssignment tenantId dto assignedById) s = .ok ((), s') := by
      rw [commitAssign, hinsert]
    rw [answerAccess, serveAccess, hrequest]
    simp only [assignUser, bind, Handler.read, h.checks, Handler.atomically,
      transaction_of_ok hcommit]
    exact insertAssignment_ok hinsert

/-- An assignment is made that is not new, or not to a member, or not at a location of its
tenant. -/
theorem assigns_breaks (hbad : ¬AssignsProperly rt s call) :
    ¬AssignmentsSound (answerAccess rt call s) := by
  rw [AssignsProperly] at hbad
  split at hbad
  · next userId userEmail token hrequest =>
    simp only [not_forall] at hbad
    obtain ⟨k, i, haccepts, roleId, hrole, htwin⟩ := hbad
    refine twin_breaks ?_ htwin
    rw [answerAccess_of_accepts hrequest haccepts, withInvited, hrole]
  · next tenantId dto assignedById hrequest =>
    simp only [Classical.not_imp] at hbad
    obtain ⟨hassigns, hbad⟩ := hbad
    rw [answerAccess_of_assigns hrequest hassigns]
    intro hsound
    have hnew : WellAssigned _ _ := hsound.rows s.assignments.next _
      ((Serial.find?_create _).trans (if_pos rfl))
    refine hbad ⟨hnew.member, fun id hid => hnew.location id ?_, ?_⟩
    · rw [newAssignment_locationId assignedById hassigns.checks]
      exact hid
    · by_contra htwin
      exact twin_breaks (s := s) rfl htwin hsound
  · exact absurd trivial hbad

end Steps

/-- In every run of requests all assignments are well formed and none is made twice, exactly if
each one that is made is new, to a member, and at a location of its tenant if at any. -/
theorem assignments_sound_iff {rt : Runtime} {s : AccessStore} (hs : AssignmentsInv s)
    (calls : List AccessCall) :
    Runs.Always (answerAccess rt) AssignmentsSound calls s ↔
      Runs.AllMeet (answerAccess rt) (AssignsProperly rt) calls s :=
  Runs.always_iff_allMeet (I := AssignmentsInv) (fun _ h => h.sound)
    (fun _ _ h _ hproper => h.step hproper) (fun _ _ _ _ hbad => assigns_breaks hbad) hs
    (Runs.allMeet_true calls)

theorem twoUsers_assignmentsInv : AssignmentsInv twoUsers :=
  ⟨⟨(fun _ _ ha => nomatch ha), fun _ _ _ _ ha => nomatch ha⟩, (fun _ _ hr => nomatch hr),
    fun _ _ hi => nomatch hi⟩

theorem assignments_sound_iff_created :
    Runs.Always (answerAccess .plain) AssignmentsSound
      [⟨0, .createTenant 0 "Tea"⟩, ⟨1, .createLocation 0 ⟨none, "l@b.c", "1"⟩⟩,
        ⟨2, .assignUser 0 ⟨1, 0, .location, some 0⟩ (some 0)⟩] twoUsers := by
  refine (assignments_sound_iff twoUsers_assignmentsInv _).mpr
    ⟨trivial, trivial, fun _ => ⟨?_, ?_, ?_⟩, trivial⟩
  · decide +kernel
  · intro id hid
    obtain rfl := Option.some.inj hid
    exact ⟨_, rfl, rfl⟩
  · intro k a' ha' htwin
    have hrows : ∀ r ∈ ([⟨0, .createTenant 0 "Tea"⟩,
        ⟨1, .createLocation 0 ⟨none, "l@b.c", "1"⟩⟩].foldl
          (fun s call => answerAccess .plain call s) twoUsers).assignments.rows,
        ¬r.2.Twin (newAssignment 0 ⟨1, 0, .location, some 0⟩ (some 0)) := by decide +kernel
    exact hrows (k, a') (Table.mem_rows_of_find? ha') htwin

/-- The creator of a tenant is assigned its SuperAdmin role once more. -/
def assignedAgain : List AccessCall :=
  [⟨0, .createTenant 0 "Tea"⟩, ⟨1, .assignUser 0 ⟨0, 0, .tenant, none⟩ (some 0)⟩]

theorem assigned_twice :
    ¬Runs.Always (answerAccess .plain) AssignmentsSound assignedAgain twoUsers := by
  intro h
  have hdistinct : ∀ r ∈ (assignedAgain.foldl (fun s call => answerAccess .plain call s)
      twoUsers).assignments.rows, ∀ r' ∈ (assignedAgain.foldl
      (fun s call => answerAccess .plain call s) twoUsers).assignments.rows,
      r.2.Twin r'.2 → r.1 = r'.1 := fun r hr r' hr' =>
    h.last.distinct r.1 r'.1 r.2 r'.2 (Table.find?_of_mem_rows hr) (Table.find?_of_mem_rows hr')
  revert hdistinct
  decide +kernel

end Invetrixa
