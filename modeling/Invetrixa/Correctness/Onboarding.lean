import Invetrixa.Access.Onboarding
import Invetrixa.Access.Steps

/-!
# Who is let in

Users register, create tenants, answer invitations and send the other requests on tenants, roles
and members, in any order. The onboarding of a user is complete exactly if one of the first two has
been accepted of it; that is so of every member of a tenant, also of former ones.

## Main definitions

- `TenancyLog`, `TenancyLog.serve` — the tables, with the requests that were accepted

## Main results

- `onboarding_follows_membership` — whose onboarding is complete, and whom the guard lets pass
-/

namespace Invetrixa

open Rowstore Requests TenantsService

/-- The tables and the requests that were accepted, the last first. -/
structure TenancyLog where
  store : TenancyStore
  accepted : List TenancyCall

namespace TenancyLog

/-- One request. -/
def serve (rt : Runtime) (log : TenancyLog) (call : TenancyCall) : TenancyLog :=
  match serveTenancy rt call log.store with
  | (.ok _, s') => ⟨s', call :: log.accepted⟩
  | (.error _, s') => ⟨s', log.accepted⟩

/-- Requests one after another, from before the first user on. -/
def run (rt : Runtime) (modules : Serial ModuleRef) (calls : List TenancyCall) : TenancyLog :=
  calls.foldl (serve rt) ⟨.initial modules, []⟩

end TenancyLog

/-- A request by which a user becomes a member of a tenant. -/
def TenancyRequest.joins : TenancyRequest → Bool
  | .createTenant _ | .acceptInvitation .. => true
  | _ => false

/-- A request of a user by which it becomes a member of a tenant. -/
def TenancyCall.JoinsAs (call : TenancyCall) (userId : Id) : Prop :=
  call.userId = userId ∧ call.request.joins = true

/-- The requests that leave the onboarding alone, as requests on the access tables. -/
def TenancyRequest.toAccess (userId : Id) : TenancyRequest → Option AccessRequest
  | .declineInvitation token => some (.invitation (.decline userId token))
  | .invite tenantId dto token => some (.invite userId tenantId dto token)
  | .deleteTenantInvitation tenantId invitationId =>
    some (.invitation (.delete tenantId invitationId))
  | .removeTenantMember tenantId targetUserId => some (.removeTenantMember tenantId targetUserId)
  | .createRole tenantId dto => some (.createRole tenantId dto)
  | .updateRole id tenantId dto => some (.updateRole id tenantId dto)
  | .removeRole id tenantId => some (.removeRole id tenantId)
  | .assignUser tenantId dto => some (.assignUser tenantId dto (some userId))
  | .removeUserAssignment tenantId dto => some (.removeUserAssignment tenantId dto)
  | _ => none

/-- What the requests that were accepted say of the tables. -/
structure OnboardingKept (s : TenancyStore) (accepted : List TenancyCall) : Prop where
  users : ∀ id, (s.onboarding.find? id).isSome = (s.access.users.find? id).isSome
  states : ∀ id, (s.onboardingStates.find? id).isSome → (s.access.users.find? id).isSome
  completed : ∀ id, s.onboardingStatus id = some .completed ↔ ∃ call ∈ accepted, call.JoinsAs id
  dated : ∀ id row, s.onboarding.find? id = some row →
    (row.onboardingStatus = .completed ↔ row.onboardingCompletedAt.isSome)
  created : ∀ id steps, s.onboardingStates.find? id = some steps → steps.tenantCreation = true →
    s.onboardingStatus id = some .completed
  members : ∀ m ∈ s.access.memberships, s.onboardingStatus m.1 = some .completed
  guarded : ∀ later call earlier, accepted = later ++ call :: earlier →
    call.request.skipsOnboardingCheck = false → ∃ call' ∈ earlier, call'.JoinsAs call.userId

section Steps

variable {rt : Runtime} {call : AccessCall} {s : AccessStore}
  {result : Except HttpError Unit × AccessStore}

/-- No request on the access tables adds or removes a user. -/
theorem AccessStep.users (h : AccessStep rt call s result) : result.2.users = s.users := by
  cases h <;> rfl

/-- Members join by creating a tenant or by accepting an invitation, and in no other way. -/
theorem AccessStep.joins (h : AccessStep rt call s result) {m : Id × Id}
    (hm : m ∈ result.2.memberships) : m ∈ s.memberships ∨
      (∃ name, call.request = .createTenant m.1 name) ∨
      ∃ userEmail token, call.request = .invitation (.accept m.1 userEmail token) := by
  cases h with
  | accepted userId userEmail token k i invitations hrequest =>
    obtain rfl | hold := List.mem_insert_iff.mp hm
    · exact .inr (.inr ⟨userEmail, token, hrequest⟩)
    · exact .inl hold
  | tenantCreated userId name superAdminRole rolePermissions hrequest =>
    obtain rfl | hold := List.mem_insert_iff.mp hm
    · exact .inr (.inl ⟨name, hrequest⟩)
    · exact .inl hold
  | memberRemoved tenantId targetUserId => exact .inl (List.mem_filter.mp hm).1
  | _ => exact .inl hm

end Steps

section Kept

variable {s s' : TenancyStore} {accepted : List TenancyCall} {call : TenancyCall} {userId : Id}

theorem onboardingStatus_eq_some {status : OnboardingStatus} :
    s.onboardingStatus userId = some status ↔
      ∃ date, s.onboarding.find? userId = some ⟨status, date⟩ := by
  rw [TenancyStore.onboardingStatus, Option.map_eq_some_iff]
  constructor
  · rintro ⟨⟨status', date⟩, hrow, rfl⟩
    exact ⟨date, hrow⟩
  · rintro ⟨date, hrow⟩
    exact ⟨_, hrow, rfl⟩

theorem onboardingKept_initial (modules : Serial ModuleRef) :
    OnboardingKept (.initial modules) [] where
  users _ := rfl
  states _ h := h
  completed id := by
    constructor
    · intro h
      cases h
    · rintro ⟨call, hcall, _⟩
      exact absurd hcall List.not_mem_nil
  dated _ _ h := by cases h
  created _ _ h := by cases h
  members _ h := absurd h List.not_mem_nil
  guarded later call earlier h := by cases later <;> cases h

/-- A request that leaves the onboarding alone, and adds no member. -/
theorem OnboardingKept.keep (h : OnboardingKept s accepted)
    (husers : s'.access.users = s.access.users) (honboarding : s'.onboarding = s.onboarding)
    (hstates : s'.onboardingStates = s.onboardingStates)
    (hmembers : ∀ m ∈ s'.access.memberships, m ∈ s.access.memberships) :
    OnboardingKept s' accepted := by
  have hstatus : ∀ id, s'.onboardingStatus id = s.onboardingStatus id := by
    intro id
    rw [TenancyStore.onboardingStatus, TenancyStore.onboardingStatus, honboarding]
  refine ⟨fun id => ?_, fun id => ?_, fun id => ?_, ?_, fun id steps hsteps hcreated => ?_,
    fun m hm => ?_, h.guarded⟩
  · rw [honboarding, husers]
    exact h.users id
  · rw [hstates, husers]
    exact h.states id
  · rw [hstatus]
    exact h.completed id
  · rw [honboarding]
    exact h.dated
  · rw [hstatus]
    rw [hstates] at hsteps
    exact h.created id steps hsteps hcreated
  · rw [hstatus]
    exact h.members m (hmembers m hm)

/-- A request that is accepted and makes no member, of one who may pass the guard. -/
theorem OnboardingKept.accept (h : OnboardingKept s accepted) (hjoins : call.request.joins = false)
    (hguard : call.request.skipsOnboardingCheck = false →
      s.onboardingStatus call.userId = some .completed) : OnboardingKept s (call :: accepted) := by
  refine ⟨h.users, h.states, fun id => (h.completed id).trans ?_, h.dated, h.created, h.members,
    fun later call' earlier heq hskips => ?_⟩
  · constructor
    · rintro ⟨call', hmem, hcall'⟩
      exact ⟨call', List.mem_cons_of_mem call hmem, hcall'⟩
    · rintro ⟨call', hmem, hcall'⟩
      obtain rfl | hmem := List.mem_cons.mp hmem
      · rw [TenancyCall.JoinsAs, hjoins] at hcall'
        cases hcall'.2
      · exact ⟨call', hmem, hcall'⟩
  · cases later with
    | nil =>
      obtain ⟨rfl, rfl⟩ := List.cons.inj heq
      exact (h.completed _).mp (hguard hskips)
    | cons last later =>
      obtain ⟨_, rfl⟩ := List.cons.inj heq
      exact h.guarded later call' earlier rfl hskips

/-- A step of the onboarding other than the creation of a tenant. -/
theorem OnboardingKept.takeStep (h : OnboardingKept s accepted)
    {f : OnboardingState → OnboardingState}
    (hf : ∀ steps, (f steps).tenantCreation = steps.tenantCreation)
    (huser : (s.access.users.find? userId).isSome) :
    OnboardingKept (s.takeStep userId f) accepted := by
  refine ⟨h.users, fun id hid => ?_, h.completed, h.dated, fun id steps hsteps hcreated => ?_,
    h.members, h.guarded⟩
  · by_cases heq : id = userId
    · subst heq
      exact huser
    · rw [TenancyStore.takeStep, Table.find?_upsert, if_neg heq] at hid
      exact h.states id hid
  · rw [TenancyStore.takeStep, Table.find?_upsert] at hsteps
    split at hsteps
    · next heq =>
      subst heq
      cases hold : s.onboardingStates.find? id with
      | none =>
        rw [hold, Option.map_none, Option.getD_none] at hsteps
        obtain rfl := Option.some.inj hsteps
        rw [hf] at hcreated
        cases hcreated
      | some old =>
        rw [hold, Option.map_some, Option.getD_some] at hsteps
        obtain rfl := Option.some.inj hsteps
        rw [hf] at hcreated
        exact h.created id old hold hcreated
    · exact h.created id steps hsteps hcreated

/-- A user who becomes a member of a tenant completes the onboarding. -/
theorem OnboardingKept.join (h : OnboardingKept s accepted) (hjoins : call.JoinsAs userId)
    (husers : s'.access.users = s.access.users) (huser : (s.access.users.find? userId).isSome)
    (hcompleted : ∃ date, s'.onboarding.find? userId = some ⟨.completed, some date⟩)
    (honboarding : ∀ id, id ≠ userId → s'.onboarding.find? id = s.onboarding.find? id)
    (hstates : ∀ id, id ≠ userId → s'.onboardingStates.find? id = s.onboardingStates.find? id)
    (hmembers : ∀ m ∈ s'.access.memberships, m ∈ s.access.memberships ∨ m.1 = userId) :
    OnboardingKept s' (call :: accepted) := by
  obtain ⟨date, hdate⟩ := hcompleted
  have hself : s'.onboardingStatus userId = some .completed :=
    onboardingStatus_eq_some.mpr ⟨_, hdate⟩
  have hothers : ∀ id, id ≠ userId → s'.onboardingStatus id = s.onboardingStatus id := by
    intro id hne
    rw [TenancyStore.onboardingStatus, TenancyStore.onboardingStatus, honboarding id hne]
  refine ⟨fun id => ?_, fun id hid => ?_, fun id => ?_, fun id row hrow => ?_,
    fun id steps hsteps hcreated => ?_, fun m hm => ?_, fun later call' earlier heq hskips => ?_⟩
  · by_cases hid : id = userId
    · subst hid
      rw [hdate, husers, huser]
      rfl
    · rw [honboarding id hid, husers]
      exact h.users id
  · rw [husers]
    by_cases hne : id = userId
    · subst hne
      exact huser
    · rw [hstates id hne] at hid
      exact h.states id hid
  · by_cases hid : id = userId
    · subst hid
      exact iff_of_true hself ⟨call, List.mem_cons_self, hjoins⟩
    · rw [hothers id hid, h.completed]
      constructor
      · rintro ⟨call', hmem, hcall'⟩
        exact ⟨call', List.mem_cons_of_mem call hmem, hcall'⟩
      · rintro ⟨call', hmem, hcall'⟩
        obtain rfl | hmem := List.mem_cons.mp hmem
        · exact absurd (hcall'.1.symm.trans hjoins.1) hid
        · exact ⟨call', hmem, hcall'⟩
  · by_cases hid : id = userId
    · subst hid
      rw [hdate] at hrow
      obtain rfl := Option.some.inj hrow
      exact iff_of_true rfl rfl
    · rw [honboarding id hid] at hrow
      exact h.dated id row hrow
  · by_cases hid : id = userId
    · subst hid
      exact hself
    · rw [hstates id hid] at hsteps
      rw [hothers id hid]
      exact h.created id steps hsteps hcreated
  · by_cases hid : m.1 = userId
    · rw [hid]
      exact hself
    · rw [hothers m.1 hid]
      exact h.members m ((hmembers m hm).resolve_right hid)
  · cases later with
    | nil =>
      obtain ⟨rfl, rfl⟩ := List.cons.inj heq
      have hjoin := hjoins.2
      cases hrequest : call.request <;> rw [hrequest] at hskips hjoin <;> cases hskips <;>
        cases hjoin
    | cons last later =>
      obtain ⟨_, rfl⟩ := List.cons.inj heq
      exact h.guarded later call' earlier rfl hskips

/-- A new user has nothing done yet. -/
theorem OnboardingKept.register (h : OnboardingKept s accepted) (email : String) :
    OnboardingKept
      { access := { s.access with users := s.access.users.create email }
        onboarding := s.onboarding.insert s.access.users.next ⟨.pending, none⟩
        onboardingStates :=
          s.onboardingStates.insert s.access.users.next ⟨false, false, false⟩ } accepted := by
  have hnext : s.access.users.find? s.access.users.next = none := s.access.users.find?_next
  have honboarding : s.onboarding.find? s.access.users.next = none := by
    rw [← Option.isNone_iff_eq_none, ← Option.not_isSome, h.users, hnext]
    rfl
  have hstates : s.onboardingStates.find? s.access.users.next = none := by
    by_contra hsome
    have hthere := h.states _ (Option.isSome_iff_ne_none.mpr hsome)
    rw [hnext] at hthere
    cases hthere
  have hstatus : ∀ id, TenancyStore.onboardingStatus id
      { access := { s.access with users := s.access.users.create email }
        onboarding := s.onboarding.insert s.access.users.next ⟨.pending, none⟩
        onboardingStates :=
          s.onboardingStates.insert s.access.users.next ⟨false, false, false⟩ } =
        some .completed ↔ s.onboardingStatus id = some .completed := by
    intro id
    rw [TenancyStore.onboardingStatus, TenancyStore.onboardingStatus,
      Table.find?_insert_of_none honboarding]
    split
    · next heq =>
      rw [heq, honboarding]
      simp
    · exact Iff.rfl
  refine ⟨fun id => ?_, fun id hid => ?_, fun id => (hstatus id).trans (h.completed id),
    fun id row hrow => ?_, fun id steps hsteps hcreated => (hstatus id).mpr ?_,
    fun m hm => (hstatus m.1).mpr (h.members m hm), h.guarded⟩
  · rw [Table.find?_insert_of_none honboarding, Serial.find?_create]
    split
    · rfl
    · exact h.users id
  · rw [Table.find?_insert_of_none hstates] at hid
    rw [Serial.find?_create]
    split at hid
    · next heq => rw [if_pos heq]; rfl
    · next hne =>
      rw [if_neg hne]
      exact h.states id hid
  · rw [Table.find?_insert_of_none honboarding] at hrow
    split at hrow
    · obtain rfl := Option.some.inj hrow
      simp
    · exact h.dated id row hrow
  · rw [Table.find?_insert_of_none hstates] at hsteps
    split at hsteps
    · obtain rfl := Option.some.inj hsteps
      cases hcreated
    · exact h.created id steps hsteps hcreated

variable {rt : Runtime}

theorem access_checkAndComplete (now : ℕ) (s : TenancyStore) :
    (checkAndCompleteOnboarding now userId s).access = s.access := by
  rw [checkAndCompleteOnboarding]
  split
  · split <;> rfl
  · rfl

theorem onboardingStates_checkAndComplete (now : ℕ) (s : TenancyStore) :
    (checkAndCompleteOnboarding now userId s).onboardingStates = s.onboardingStates := by
  rw [checkAndCompleteOnboarding]
  split
  · split <;> rfl
  · rfl

/-- A check finds the onboarding complete once a tenant has been created. -/
theorem exists_checkAndComplete (now : ℕ) {row : UserOnboarding}
    (hrow : s.onboarding.find? userId = some row)
    (hdated : row.onboardingStatus = .completed → row.onboardingCompletedAt.isSome) :
    (∃ date, (checkAndCompleteOnboarding now userId (s.takeStep userId fun steps =>
        { steps with tenantCreation := true })).onboarding.find? userId =
          some ⟨.completed, some date⟩) ∧
      ∀ id, id ≠ userId → (checkAndCompleteOnboarding now userId (s.takeStep userId fun steps =>
        { steps with tenantCreation := true })).onboarding.find? id = s.onboarding.find? id := by
  have hstep : ((s.takeStep userId fun steps =>
      { steps with tenantCreation := true }).onboardingStates.find? userId).any
        OnboardingState.tenantCreation = true := by
    rw [TenancyStore.takeStep, Table.find?_upsert, if_pos rfl]
    cases s.onboardingStates.find? userId <;> rfl
  rw [checkAndCompleteOnboarding, if_pos hstep]
  split
  · constructor
    · refine ⟨now, ?_⟩
      show (s.onboarding.modify userId _).find? userId = _
      rw [Table.find?_modify, if_pos rfl, hrow, Option.map_some]
    · intro id hne
      show (s.onboarding.modify userId _).find? id = _
      rw [Table.find?_modify, if_neg hne]
  · next hcompleted =>
    obtain ⟨date, hdate⟩ := onboardingStatus_eq_some.mp (not_not.mp hcompleted)
    have hdate' : s.onboarding.find? userId = some ⟨.completed, date⟩ := hdate
    rw [hrow] at hdate'
    obtain rfl := Option.some.inj hdate'
    obtain ⟨t, rfl⟩ := Option.isSome_iff_exists.mp (hdated rfl)
    exact ⟨⟨t, hdate⟩, fun _ _ => rfl⟩

/-- After an answer, the tables agree with the requests accepted by then. -/
def OnboardingAnswered (call : TenancyCall) (accepted : List TenancyCall)
    (result : Except HttpError Unit × TenancyStore) : Prop :=
  OnboardingKept result.2 (match result.1 with
    | .ok _ => call :: accepted
    | .error _ => accepted)

/-- Requests on the access tables. -/
theorem answered_access (rt : Runtime) (h : OnboardingKept s accepted) {request : AccessRequest}
    (htoAccess : call.request.toAccess call.userId = some request)
    (hguard : call.request.skipsOnboardingCheck = false →
      s.onboardingStatus call.userId = some .completed) :
    OnboardingAnswered call accepted (onAccess (serveAccess rt ⟨call.now, request⟩) s) := by
  have hjoins : call.request.joins = false := by
    cases hrequest : call.request <;> rw [hrequest] at htoAccess <;>
      first | rfl | cases htoAccess
  have hcreate : ∀ userId name, request ≠ .createTenant userId name := by
    rintro userId name rfl
    cases hrequest : call.request <;> rw [hrequest] at htoAccess <;> cases htoAccess
  have haccept : ∀ userId userEmail token,
      request ≠ .invitation (.accept userId userEmail token) := by
    rintro userId userEmail token rfl
    cases hrequest : call.request <;> rw [hrequest] at htoAccess <;> cases htoAccess
  have hstep := accessStep rt ⟨call.now, request⟩ s.access
  simp only [onAccess, OnboardingAnswered]
  generalize serveAccess rt ⟨call.now, request⟩ s.access = result at hstep ⊢
  obtain ⟨answer, access⟩ := result
  have hkept : OnboardingKept { s with access } accepted := by
    refine h.keep hstep.users rfl rfl fun m hm => ?_
    obtain hold | ⟨name, hname⟩ | ⟨userEmail, token, htoken⟩ := hstep.joins hm
    · exact hold
    · exact absurd hname (hcreate m.1 name)
    · exact absurd htoken (haccept m.1 userEmail token)
  cases answer with
  | error e => exact hkept
  | ok _ => exact hkept.accept hjoins hguard

theorem answered_register (h : OnboardingKept s accepted) {email : String}
    (hrequest : call.request = .register email) :
    OnboardingAnswered call accepted (registerUser rt email s) := by
  rw [registerUser, Handler.atomically, transaction]
  split
  · next heq =>
    obtain ⟨_, hok⟩ := Except.ite_error_eq_ok_iff.mp heq
    obtain ⟨_, rfl⟩ := Prod.mk.inj (Except.ok.inj hok)
    refine (h.register _).accept ?_ ?_
    · rw [hrequest]
      rfl
    · rw [hrequest]
      intro hskips
      cases hskips
  · exact h

theorem answered_preference (h : OnboardingKept s accepted)
    (hrequest : call.request = .completeUserPreference) :
    OnboardingAnswered call accepted (completePreference call.userId s) := by
  rw [completePreference, Handler.atomically, transaction]
  split
  · next heq =>
    obtain ⟨hthere, hok⟩ := Except.ite_error_eq_ok_iff.mp heq
    obtain ⟨_, rfl⟩ := Prod.mk.inj (Except.ok.inj hok)
    have huser : (s.access.users.find? call.userId).isSome := by
      rw [← Option.not_isNone, Bool.not_eq_true', ← Bool.not_eq_true]
      exact hthere
    have hstep := h.takeStep (f := fun steps => { steps with profileComplete := true })
      (fun _ => rfl) huser
    refine hstep.accept ?_ ?_
    · rw [hrequest]
      rfl
    · rw [hrequest]
      intro hskips
      cases hskips
  · exact h

theorem writeTenant_ok {tenantId : Id} {name : Option String} {s s' : AccessStore}
    (h : writeTenant tenantId name s = .ok s') :
    s'.users = s.users ∧ s'.memberships = s.memberships := by
  rw [writeTenant] at h
  split at h
  · cases h
  · obtain ⟨_, h⟩ := Except.ite_error_eq_ok_iff.mp h
    obtain rfl := Except.ok.inj h
    exact ⟨rfl, rfl⟩

/-- A member who changes a tenant has completed the onboarding before. -/
theorem answered_updateTenant (h : OnboardingKept s accepted) {onboarding : Bool} {tenantId : Id}
    {name : Option String} (hrequest : call.request = .updateTenant onboarding tenantId name)
    (huser : (s.access.users.find? call.userId).isSome) :
    OnboardingAnswered call accepted (updateTenant call.now call.userId tenantId name s) := by
  simp only [updateTenant, bind, Handler.read]
  by_cases hmember : (call.userId, tenantId) ∈ s.access.memberships
  · rw [if_neg (not_not.mpr hmember)]
    have hstatus := h.members _ hmember
    dsimp only
    rw [Handler.atomically, transaction]
    split
    · next s' heq =>
      obtain ⟨access, hwrite, heq⟩ := Except.bind_eq_ok_iff.mp heq
      obtain ⟨_, rfl⟩ := Prod.mk.inj (Except.ok.inj heq)
      obtain ⟨husers, hmemberships⟩ := writeTenant_ok hwrite
      have hkept : OnboardingKept { s with access } accepted :=
        h.keep husers rfl rfl fun m hm => hmemberships ▸ hm
      have huser' : (access.users.find? call.userId).isSome := husers ▸ huser
      have hstep := hkept.takeStep (f := fun steps => { steps with tenantSetting := true })
        (fun _ => rfl) huser'
      have hsame : checkAndCompleteOnboarding call.now call.userId
          (TenancyStore.takeStep call.userId (fun steps => { steps with tenantSetting := true })
            { s with access }) = TenancyStore.takeStep call.userId
              (fun steps => { steps with tenantSetting := true }) { s with access } := by
        rw [checkAndCompleteOnboarding]
        split
        · exact if_neg (not_not.mpr hstatus)
        · rfl
      rw [OnboardingAnswered, hsame]
      refine hstep.accept ?_ fun _ => hstatus
      rw [hrequest]
      rfl
    · exact h
  · rw [if_pos hmember]
    exact h

theorem answered_createTenant (rt : Runtime) (h : OnboardingKept s accepted) {name : String}
    (hrequest : call.request = .createTenant name)
    (huser : (s.access.users.find? call.userId).isSome) :
    OnboardingAnswered call accepted (createOwnTenant call.now call.userId name s) := by
  rw [createOwnTenant, Handler.atomically, transaction]
  split
  · next heq =>
    obtain ⟨⟨_, access⟩, hcommit, heq⟩ := Except.bind_eq_ok_iff.mp heq
    obtain ⟨_, rfl⟩ := Prod.mk.inj (Except.ok.inj heq)
    have hstep := accessStep rt ⟨call.now, .createTenant call.userId name⟩ s.access
    rw [show serveAccess rt ⟨call.now, .createTenant call.userId name⟩ s.access = (.ok (), access)
      from transaction_of_ok hcommit] at hstep
    have husers : access.users = s.access.users := hstep.users
    have hmembers : ∀ m ∈ access.memberships, m ∈ s.access.memberships ∨ m.1 = call.userId := by
      intro m hm
      obtain hold | ⟨name', hname⟩ | ⟨userEmail, token, htoken⟩ := hstep.joins hm
      · exact .inl hold
      · exact .inr (AccessRequest.createTenant.inj hname).1.symm
      · cases htoken
    obtain ⟨row, hrow⟩ := Option.isSome_iff_exists.mp ((h.users call.userId).trans huser)
    obtain ⟨hcompleted, hothers⟩ := exists_checkAndComplete (s := { s with access }) call.now hrow
      (h.dated call.userId row hrow).mp
    refine h.join ⟨rfl, ?_⟩ ?_ huser ?_ ?_ ?_ ?_
    · rw [hrequest]
      rfl
    · rw [access_checkAndComplete]
      exact husers
    · exact hcompleted
    · exact hothers
    · intro id hne
      rw [onboardingStates_checkAndComplete, TenancyStore.takeStep, Table.find?_upsert, if_neg hne]
    · rw [access_checkAndComplete]
      exact hmembers
  · exact h

theorem answered_acceptInvitation (h : OnboardingKept s accepted) {userEmail token : String}
    (hrequest : call.request = .acceptInvitation userEmail token)
    (huser : (s.access.users.find? call.userId).isSome) :
    OnboardingAnswered call accepted
      (acceptOwnInvitation rt call.now call.userId userEmail token s) := by
  have hstep := accessStep rt ⟨call.now, .invitation (.accept call.userId userEmail token)⟩ s.access
  simp only [acceptOwnInvitation, bind, onAccess, OnboardingAnswered]
  rw [show serveAccess rt ⟨call.now, .invitation (.accept call.userId userEmail token)⟩ s.access =
    acceptInvitation rt call.now call.userId userEmail token s.access from rfl] at hstep
  generalize acceptInvitation rt call.now call.userId userEmail token s.access = result at hstep ⊢
  obtain ⟨answer, access⟩ := result
  have husers : access.users = s.access.users := hstep.users
  cases answer with
  | error e =>
    refine h.keep husers rfl rfl fun m hm => ?_
    cases hstep
    exact hm
  | ok _ =>
    obtain ⟨row, hrow⟩ := Option.isSome_iff_exists.mp ((h.users call.userId).trans huser)
    refine h.join ⟨rfl, ?_⟩ husers huser ⟨call.now, ?_⟩ (fun id hne => ?_) (fun _ _ => rfl) ?_
    · rw [hrequest]
      rfl
    · show (s.onboarding.modify call.userId _).find? call.userId = _
      rw [Table.find?_modify, if_pos rfl, hrow, Option.map_some]
    · show (s.onboarding.modify call.userId _).find? id = _
      rw [Table.find?_modify, if_neg hne]
    · intro m hm
      obtain hold | ⟨name, hname⟩ | ⟨userEmail', token', htoken⟩ := hstep.joins hm
      · exact .inl hold
      · cases hname
      · obtain ⟨hid, _⟩ := InvitationRequest.accept.inj (AccessRequest.invitation.inj htoken)
        exact .inr hid.symm

variable (rt) in
/-- Every request keeps the tables and the accepted requests together. -/
theorem answered_serveTenancy (h : OnboardingKept s accepted) (call : TenancyCall) :
    OnboardingAnswered call accepted (serveTenancy rt call s) := by
  simp only [serveTenancy, bind, Handler.read]
  cases hguard : OnboardingGuard.canActivate call.request.skipsOnboardingCheck
    (s.onboardingStatus call.userId) with
  | error e => exact h
  | ok _ =>
    dsimp only
    cases hauth : authenticates call s with
    | error e => exact h
    | ok _ =>
      dsimp only
      have huser : (∀ email, call.request ≠ .register email) →
          (s.access.users.find? call.userId).isSome := by
        intro hne
        rw [authenticates] at hauth
        split at hauth
        · next email hrequest => exact absurd hrequest (hne email)
        · obtain ⟨hthere, _⟩ := Except.ite_error_eq_ok_iff.mp hauth
          rw [← Option.not_isNone, Bool.not_eq_true', ← Bool.not_eq_true]
          exact hthere
      have hpassed : (∀ email, call.request ≠ .register email) →
          call.request.skipsOnboardingCheck = false →
            s.onboardingStatus call.userId = some .completed := by
        intro hne hskips
        obtain ⟨row, hrow⟩ := Option.isSome_iff_exists.mp ((h.users _).trans (huser hne))
        have hstatus : s.onboardingStatus call.userId = some row.onboardingStatus := by
          rw [TenancyStore.onboardingStatus, hrow, Option.map_some]
        simp only [OnboardingGuard.canActivate, hskips, hstatus, Bool.false_eq_true, if_false]
          at hguard
        obtain ⟨hdone, _⟩ := Except.ite_error_eq_ok_iff.mp hguard
        rw [hstatus, not_not.mp hdone]
      cases hrequest : call.request with
      | register email => exact answered_register h hrequest
      | completeUserPreference => exact answered_preference h hrequest
      | updateTenant onboarding tenantId name =>
        exact answered_updateTenant h hrequest
          (huser fun email heq => by rw [hrequest] at heq; cases heq)
      | createTenant name =>
        exact answered_createTenant rt h hrequest
          (huser fun email heq => by rw [hrequest] at heq; cases heq)
      | acceptInvitation userEmail token =>
        exact answered_acceptInvitation h hrequest
          (huser fun email heq => by rw [hrequest] at heq; cases heq)
      | _ =>
        exact answered_access rt h (by rw [hrequest]; rfl)
          (hpassed fun email heq => by rw [hrequest] at heq; cases heq)

end Kept

section Runs

variable (rt : Runtime) (modules : Serial ModuleRef)

theorem onboardingKept_serve {log : TenancyLog} (h : OnboardingKept log.store log.accepted)
    (call : TenancyCall) :
    OnboardingKept (log.serve rt call).store (log.serve rt call).accepted := by
  have hanswered := answered_serveTenancy rt h call
  rw [TenancyLog.serve]
  generalize serveTenancy rt call log.store = result at hanswered ⊢
  obtain ⟨answer, s'⟩ := result
  cases answer <;> exact hanswered

theorem onboardingKept_run (calls : List TenancyCall) :
    OnboardingKept (TenancyLog.run rt modules calls).store
      (TenancyLog.run rt modules calls).accepted := by
  have hfold : ∀ (calls : List TenancyCall) (log : TenancyLog),
      OnboardingKept log.store log.accepted →
        OnboardingKept (calls.foldl (TenancyLog.serve rt) log).store
          (calls.foldl (TenancyLog.serve rt) log).accepted := by
    intro calls
    induction calls with
    | nil => exact fun _ h => h
    | cons call calls ih => exact fun log h => ih _ (onboardingKept_serve rt h call)
  exact hfold calls _ (onboardingKept_initial modules)

/-- After any requests, the onboarding of a user is complete exactly if it has created a tenant or
accepted an invitation; it is of every member of a tenant; and a request that the guard checks was
accepted only of a user who had done one of the two before. -/
theorem onboarding_follows_membership (calls : List TenancyCall) :
    (∀ userId, (TenancyLog.run rt modules calls).store.onboardingStatus userId = some .completed ↔
      ∃ call ∈ (TenancyLog.run rt modules calls).accepted, call.JoinsAs userId) ∧
    (∀ m ∈ (TenancyLog.run rt modules calls).store.access.memberships,
      (TenancyLog.run rt modules calls).store.onboardingStatus m.1 = some .completed) ∧
    ∀ later call earlier, (TenancyLog.run rt modules calls).accepted = later ++ call :: earlier →
      call.request.skipsOnboardingCheck = false →
        ∃ call' ∈ earlier, call'.JoinsAs call.userId := by
  have hkept := onboardingKept_run rt modules calls
  exact ⟨hkept.completed, hkept.members, hkept.guarded⟩

end Runs

end Invetrixa
