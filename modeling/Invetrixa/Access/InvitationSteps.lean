import Invetrixa.Access.Access

/-!
# What a request about an invitation does

## Main definitions

- `InvitationStep` — a refusal, or one of the changes of an invitation with what was checked before

## Main results

- `invitationStep` — every request does one of these
-/

namespace Invetrixa

open Rowstore Requests TenantsService

/-- A request about an invitation, with the time at which it is handled. -/
structure InvitationCall where
  now : ℕ
  request : InvitationRequest

/-- An invitation is found by a request that looks at its expiry. -/
def Finds (rt : Runtime) (s : AccessStore) (k : Id) (i : TenantInvitation) :
    InvitationRequest → Prop
  | .accept _ userEmail token => findInvitation rt token s = .ok (k, i) ∧
      rt.toLowerCase userEmail = rt.toLowerCase i.email
  | .decline _ token => findInvitation rt token s = .ok (k, i)
  | .delete _ _ => False

/-- The assignments after an invitation has been accepted. -/
def withInvited (userId : Id) (i : TenantInvitation) (assignments : Serial UserAssignment) :
    Serial UserAssignment :=
  match i.roleId with
  | none => assignments
  | some roleId => assignments.create (invitedAssignment userId i roleId)

/-- What a request about an invitation answers and does. -/
inductive InvitationStep (rt : Runtime) (call : InvitationCall) (s : AccessStore) :
    Except HttpError Unit × AccessStore → Prop
  | refused (e : HttpError) : InvitationStep rt call s (.error e, s)
  | expired (e : HttpError) (k : Id) (i : TenantInvitation)
      (hfinds : Finds rt s k i call.request) (hexpired : i.isExpired call.now = true) :
      InvitationStep rt call s (.error e, settle k (fun i => { i with status := .expired }) s)
  | accepted (userId : Id) (userEmail token : String) (k : Id) (i : TenantInvitation)
      (hrequest : call.request = .accept userId userEmail token)
      (hfinds : Finds rt s k i call.request) (hlive : i.isExpired call.now = false)
      (hpending : i.status = .pending)
      (hcommits : (commitAccept call.now userId (k, i) s).isOk) :
      InvitationStep rt call s (.ok (),
        { (settle k (accepted call.now userId) s).connect userId i.tenantId with
          assignments := withInvited userId i s.assignments })
  | declined (userId : Id) (token : String) (k : Id) (i : TenantInvitation)
      (hrequest : call.request = .decline userId token) (hfinds : Finds rt s k i call.request)
      (hpending : i.status = .pending) :
      InvitationStep rt call s (.ok (), settle k (declined call.now userId) s)
  | cancelled (tenantId k : Id) (i : TenantInvitation)
      (hrequest : call.request = .delete tenantId k) (hfind : s.invitations.find? k = some i)
      (hstatus : i.status ≠ .accepted) :
      InvitationStep rt call s (.ok (), settle k (cancelled call.now) s)

section Steps

variable {rt : Runtime} {s s' : AccessStore} {call : InvitationCall} {k id : Id}
  {i : TenantInvitation} {token : String}

theorem find?_of_findInvitation (h : findInvitation rt token s = .ok (k, i)) :
    s.invitations.find? k = some i := by
  rw [findInvitation] at h
  split at h
  · cases h
  · next found heq =>
    obtain rfl := Except.ok.inj h
    exact Table.find?_of_mem_rows (List.mem_of_find?_eq_some heq)

theorem Finds.find? {request : InvitationRequest} (h : Finds rt s k i request) :
    s.invitations.find? k = some i := by
  cases request with
  | accept userId userEmail token => exact find?_of_findInvitation h.1
  | decline userId token => exact find?_of_findInvitation h
  | delete tenantId invitationId => exact h.elim

theorem commitAccept_ok {now userId : ℕ} (h : commitAccept now userId (k, i) s = .ok ((), s')) :
    s' = { (settle k (accepted now userId) s).connect userId i.tenantId with
      assignments := withInvited userId i s.assignments } := by
  obtain ⟨s₁, hconnect, h⟩ := Except.bind_eq_ok_iff.mp h
  obtain ⟨s₂, hassign, h⟩ := Except.bind_eq_ok_iff.mp h
  obtain ⟨_, rfl⟩ := Prod.mk.inj (Except.ok.inj h)
  obtain rfl := connectUser_ok hconnect
  rw [assignInvitedRole] at hassign
  rw [withInvited]
  split at hassign
  · next hrole =>
    rw [hrole]
    exact (Except.ok.inj hassign).symm
  · next roleId hrole =>
    rw [hrole]
    exact RoleService.insertAssignment_ok hassign

theorem acceptable_ok {status : TenantInvitationStatus} (h : acceptable status = .ok ()) :
    status = .pending := by
  cases status with
  | pending => rfl
  | accepted | declined | expired | cancelled => cases h

theorem declinable_ok {status : TenantInvitationStatus} (h : declinable status = .ok ()) :
    status = .pending := by
  cases status with
  | pending => rfl
  | accepted | declined | expired | cancelled => cases h

theorem acceptStep {userId : Id} {userEmail : String}
    (hrequest : call.request = .accept userId userEmail token)
    (hfind : findInvitation rt token s = .ok (k, i)) :
    InvitationStep rt call s (acceptFound rt call.now userId userEmail (k, i) s) := by
  rw [acceptFound]
  split
  · exact .refused _
  · next hemail =>
    have hfinds : Finds rt s k i call.request := by
      rw [hrequest]
      exact ⟨hfind, not_not.mp hemail⟩
    split
    · next hexpired => exact .expired _ k i hfinds hexpired
    · next hlive =>
      simp only [bind, Handler.read]
      cases hstatus : acceptable i.status with
      | error e => exact .refused e
      | ok _ =>
        simp only [Handler.atomically]
        cases hcommit : commitAccept call.now userId (k, i) s with
        | error e =>
          rw [transaction_of_error hcommit]
          exact .refused e
        | ok result =>
          obtain ⟨_, s'⟩ := result
          rw [transaction_of_ok hcommit]
          rw [commitAccept_ok hcommit]
          exact .accepted userId userEmail token k i hrequest hfinds
            (Bool.not_eq_true _ ▸ hlive) (acceptable_ok hstatus) (by rw [hcommit]; rfl)

theorem declineStep {userId : Id} (hrequest : call.request = .decline userId token)
    (hfind : findInvitation rt token s = .ok (k, i)) :
    InvitationStep rt call s (declineFound call.now userId (k, i) s) := by
  have hfinds : Finds rt s k i call.request := by
    rw [hrequest]
    exact hfind
  rw [declineFound]
  split
  · next hexpired => exact .expired _ k i hfinds hexpired
  · simp only [bind, Handler.read, Handler.write]
    cases hstatus : declinable i.status with
    | error e => exact .refused e
    | ok _ => exact .declined userId token k i hrequest hfinds (declinable_ok hstatus)

theorem deleteStep {tenantId invitationId : Id}
    (hrequest : call.request = .delete tenantId invitationId) :
    InvitationStep rt call s (deleteTenantInvitation call.now tenantId invitationId s) := by
  simp only [deleteTenantInvitation, bind, Handler.read, Handler.write]
  cases hread : readDelete tenantId invitationId s with
  | error e => exact .refused e
  | ok _ =>
    rw [readDelete] at hread
    split at hread
    · cases hread
    · next i hi =>
      split at hread
      · cases hread
      · next hstatus =>
        exact .cancelled tenantId invitationId i hrequest (Option.filter_eq_some_iff.mp hi).1 hstatus

/-- Every request does one of these. -/
theorem invitationStep (rt : Runtime) (call : InvitationCall) (s : AccessStore) :
    InvitationStep rt call s (serveInvitation rt call.now call.request s) := by
  cases hrequest : call.request with
  | accept userId userEmail token =>
    simp only [serveInvitation, acceptInvitation, bind, Handler.read]
    cases hfind : findInvitation rt token s with
    | error e => exact .refused e
    | ok found => exact acceptStep hrequest hfind
  | decline userId token =>
    simp only [serveInvitation, declineInvitation, bind, Handler.read]
    cases hfind : findInvitation rt token s with
    | error e => exact .refused e
    | ok found => exact declineStep hrequest hfind
  | delete tenantId invitationId => exact deleteStep hrequest

/-- The status of an invitation after one has been settled. -/
theorem find?_settle {f : TenantInvitation → TenantInvitation}
    (hfind : s.invitations.find? id = some i) :
    (settle k f s).invitations.find? id = some (if id = k then f i else i) := by
  rw [settle, Serial.toTable_modify, Table.find?_modify, hfind]
  split
  · rfl
  · rfl

end Steps

end Invetrixa
