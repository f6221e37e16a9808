import Invetrixa.Access.Access

/-!
# Onboarding

A user who has registered is let in by `OnboardingGuard` once the onboarding is complete: with a
tenant of its own, or as a member of one by an invitation. The steps are kept in a row of their
own beside the user. The address and the settings of a tenant are left out, and so are the
preferences of a user; a transaction of `TenantsService` that ends with a write to the user is
that of the access tables with the write after it, since the user is known to be there by then.

## Main definitions

- `TenancyStore` — the access tables with the onboarding of the users
- `checkAndCompleteOnboarding`, `OnboardingGuard.canActivate`
- `getMyPendingInvitations`
- `serveTenancy` — the guards, then the request
-/

namespace Invetrixa

open Rowstore Requests

inductive OnboardingStatus
  | pending | completed
  deriving DecidableEq

/-- The steps that a user has taken. -/
structure OnboardingState where
  profileComplete : Bool
  tenantCreation : Bool
  tenantSetting : Bool
  deriving DecidableEq

/-- The columns of a user on its onboarding. -/
structure UserOnboarding where
  onboardingStatus : OnboardingStatus
  onboardingCompletedAt : Option ℕ
  deriving DecidableEq

structure TenancyStore where
  access : AccessStore
  onboarding : Table Id UserOnboarding
  onboardingStates : Table Id OnboardingState

abbrev TenancyHandler (α : Type) : Type := Handler TenancyStore HttpError α

/-- A handler of the access tables. -/
def onAccess {α : Type} (m : AccessHandler α) : TenancyHandler α := fun s =>
  let (answer, access) := m s.access
  (answer, { s with access })

namespace TenancyStore

/-- `onboardingState.upsert` with one more step. -/
def takeStep (userId : Id) (f : OnboardingState → OnboardingState) (s : TenancyStore) :
    TenancyStore :=
  { s with onboardingStates := s.onboardingStates.upsert userId (f ⟨false, false, false⟩) f }

/-- The onboarding of a user is complete. -/
def complete (now userId : ℕ) (s : TenancyStore) : TenancyStore :=
  { s with onboarding := s.onboarding.modify userId fun _ => ⟨.completed, some now⟩ }

/-- The status that a session of a user shows. -/
def onboardingStatus (userId : Id) (s : TenancyStore) : Option OnboardingStatus :=
  (s.onboarding.find? userId).map UserOnboarding.onboardingStatus

end TenancyStore

namespace TenantsService

def checkAndCompleteOnboarding (now userId : ℕ) (s : TenancyStore) : TenancyStore :=
  if (s.onboardingStates.find? userId).any OnboardingState.tenantCreation then
    if s.onboardingStatus userId ≠ some .completed then s.complete now userId else s
  else s

/-- `createTenant`, with the onboarding of its creator. -/
def createOwnTenant (now userId : ℕ) (name : String) : TenancyHandler Unit :=
  Handler.atomically fun s => do
    let (_, access) ← commitCreateTenant userId name s.access
    let s := { s with access }.takeStep userId fun steps => { steps with tenantCreation := true }
    return ((), checkAndCompleteOnboarding now userId s)

/-- `tenant.update`, under the unique constraint. -/
def writeTenant (tenantId : Id) (name : Option String) (s : AccessStore) :
    Except HttpError AccessStore :=
  match s.tenants.find? tenantId with
  | none => .error recordNotFound
  | some tenant =>
    if s.tenants.rows.any fun t => t.1 ≠ tenantId ∧ t.2.name = name.getD tenant.name ∧
        t.2.isAdministrator = tenant.isAdministrator then
      .error (uniqueViolation ["name", "isAdministrator"])
    else .ok { s with tenants := s.tenants.modify tenantId fun t =>
      { t with name := name.getD t.name } }

def updateTenant (now userId tenantId : ℕ) (name : Option String) : TenancyHandler Unit := do
  Handler.read fun s =>
    if (userId, tenantId) ∉ s.access.memberships then
      .error (.forbidden "You do not have access to this tenant or tenant not found.")
    else .ok ()
  Handler.atomically fun s => do
    let access ← writeTenant tenantId name s.access
    let s := { s with access }.takeStep userId fun steps => { steps with tenantSetting := true }
    return ((), checkAndCompleteOnboarding now userId s)

/-- `acceptInvitation`, with the onboarding of the new member. -/
def acceptOwnInvitation (rt : Runtime) (now userId : ℕ) (userEmail token : String) :
    TenancyHandler Unit := do
  onAccess (acceptInvitation rt now userId userEmail token)
  Handler.write (TenancyStore.complete now userId)

/-- The invitations that a user may answer, as the list shows them. -/
def getMyPendingInvitations (now : ℕ) (userEmail : String) (s : AccessStore) :
    List (Id × TenantInvitation) :=
  s.invitations.rows.filter fun r => r.2.email = userEmail ∧ r.2.status = .pending ∧
    r.2.expiresAt.any (now < ·)

end TenantsService

namespace OnboardingGuard

/-- A route that skips the check lets everyone pass, and so does any route without a user. -/
def canActivate (skipCheck : Bool) (user : Option OnboardingStatus) : Except HttpError Unit :=
  if skipCheck then .ok ()
  else
    match user with
    | none => .ok ()
    | some status =>
      if status ≠ .completed then
        .error (.forbidden "Please complete your onboarding before accessing this resource.")
      else .ok ()

end OnboardingGuard

inductive TenancyRequest
  | register (email : String)
  | completeUserPreference
  /-- as a step of the onboarding or not -/
  | updateTenant (onboarding : Bool) (tenantId : Id) (name : Option String)
  | createTenant (name : String)
  | acceptInvitation (userEmail token : String)
  | declineInvitation (token : String)
  | invite (tenantId : Id) (dto : CreateTenantInvitationDto) (token : String)
  | deleteTenantInvitation (tenantId invitationId : Id)
  | removeTenantMember (tenantId targetUserId : Id)
  | createRole (tenantId : Id) (dto : CreateRoleDto)
  | updateRole (id tenantId : Id) (dto : UpdateRoleDto)
  | removeRole (id tenantId : Id)
  | assignUser (tenantId : Id) (dto : RoleService.CreateUserAssignmentDto)
  | removeUserAssignment (tenantId : Id) (dto : RoleService.RemoveUserAssignmentDto)

/-- `@SkipOnboardingCheck()` -/
def TenancyRequest.skipsOnboardingCheck : TenancyRequest → Bool
  | .register _ | .completeUserPreference | .createTenant _ | .acceptInvitation .. |
    .declineInvitation _ => true
  | .updateTenant onboarding .. => onboarding
  | _ => false

/-- A request in a session of a user, with the time at which it is handled. -/
structure TenancyCall where
  now : ℕ
  userId : Id
  request : TenancyRequest

/-- A new user, with nothing done yet. -/
def registerUser (rt : Runtime) (email : String) : TenancyHandler Unit :=
  Handler.atomically fun s =>
    if s.access.users.rows.any fun u => u.2 = rt.toLowerCase (trim email) then
      .error (.conflict "An account already exists with the provided email address.")
    else .ok ((),
      { access := { s.access with users := s.access.users.create (rt.toLowerCase (trim email)) }
        onboarding := s.onboarding.insert s.access.users.next ⟨.pending, none⟩
        onboardingStates :=
          s.onboardingStates.insert s.access.users.next ⟨false, false, false⟩ })

/-- `completeUserPreference` -/
def completePreference (userId : Id) : TenancyHandler Unit :=
  Handler.atomically fun s =>
    if (s.access.users.find? userId).isNone then .error recordNotFound
    else .ok ((), s.takeStep userId fun steps => { steps with profileComplete := true })

/-- The endpoint of a request. -/
def serveTenancyRequest (rt : Runtime) (now userId : ℕ) : TenancyRequest → TenancyHandler Unit
  | .register email => registerUser rt email
  | .completeUserPreference => completePreference userId
  | .updateTenant _ tenantId name => TenantsService.updateTenant now userId tenantId name
  | .createTenant name => TenantsService.createOwnTenant now userId name
  | .acceptInvitation userEmail token =>
    TenantsService.acceptOwnInvitation rt now userId userEmail token
  | .declineInvitation token => onAccess (TenantsService.declineInvitation rt now userId token)
  | .invite tenantId dto token =>
    onAccess (TenantsService.createTenantInvitation rt userId tenantId dto token)
  | .deleteTenantInvitation tenantId invitationId =>
    onAccess (TenantsService.deleteTenantInvitation now tenantId invitationId)
  | .removeTenantMember tenantId targetUserId =>
    onAccess (TenantsService.removeTenantMember tenantId targetUserId)
  | .createRole tenantId dto => onAccess (RoleService.create dto tenantId)
  | .updateRole id tenantId dto => onAccess (RoleService.update id tenantId dto)
  | .removeRole id tenantId => onAccess (RoleService.remove id tenantId)
  | .assignUser tenantId dto => onAccess (RoleService.assignUser tenantId dto (some userId))
  | .removeUserAssignment tenantId dto => onAccess (RoleService.removeUserAssignment tenantId dto)

/-- `AuthenticatedGuard`: all but a registration need a user. -/
def authenticates (call : TenancyCall) (s : TenancyStore) : Except HttpError Unit :=
  match call.request with
  | .register _ => .ok ()
  | _ =>
    if (s.access.users.find? call.userId).isNone then .error (.unauthorized "Unauthorized")
    else .ok ()

/-- One request, behind the guards. -/
def serveTenancy (rt : Runtime) (call : TenancyCall) : TenancyHandler Unit := do
  Handler.read fun s => OnboardingGuard.canActivate call.request.skipsOnboardingCheck
    (s.onboardingStatus call.userId)
  Handler.read (authenticates call)
  serveTenancyRequest rt call.now call.userId call.request

/-- Before the first user. -/
def TenancyStore.initial (modules : Serial ModuleRef) : TenancyStore where
  access := .initial .empty modules
  onboarding := .empty
  onboardingStates := .empty

end Invetrixa
