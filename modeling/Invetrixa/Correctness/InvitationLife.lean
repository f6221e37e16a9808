import Invetrixa.Access.InvitationSteps

/-!
# The life of an invitation

An invitation is accepted or declined by its token, and cancelled by its tenant. Whether it has
expired is looked at before its status: an accepted invitation whose token is sent again after the
expiry is marked as expired.

## Main results

- `invitation_life_iff` — an accepted invitation stays accepted, and one that is over is never
  accepted, exactly if no token of an accepted invitation comes after its expiry; and members join
  only as their invitation is accepted
- `accepted_invitation_expires`
-/

namespace Invetrixa

open Rowstore Requests TenantsService

/-- The tables after a request. -/
def answerInvitation (rt : Runtime) (call : InvitationCall) (s : AccessStore) : AccessStore :=
  (serveInvitation rt call.now call.request s).2

/-- An invitation has been accepted. -/
def IsAccepted (id : Id) (s : AccessStore) : Prop :=
  ∃ i, s.invitations.find? id = some i ∧ i.status = .accepted

/-- An invitation has been declined or cancelled, or has expired. -/
def IsOver (id : Id) (s : AccessStore) : Prop :=
  ∃ i, s.invitations.find? id = some i ∧
    (i.status = .declined ∨ i.status = .expired ∨ i.status = .cancelled)

/-- What a later state keeps of an earlier one: accepted stays accepted, and what is over is not
accepted. -/
def KeepsOutcome (id : Id) (s s' : AccessStore) : Prop :=
  (IsAccepted id s → IsAccepted id s') ∧ (IsOver id s → ¬IsAccepted id s')

/-- A user who joins a tenant in a request does so by the token of an invitation to it, which the
request makes accepted, under the address it was sent to and before it has expired. -/
def JoinsByAccepting (rt : Runtime) (s : AccessStore) (call : InvitationCall) : Prop :=
  ∀ userId tenantId, (userId, tenantId) ∉ s.memberships →
    (userId, tenantId) ∈ (answerInvitation rt call s).memberships →
    ∃ userEmail token id i, call.request = .accept userId userEmail token ∧
      findInvitation rt token s = .ok (id, i) ∧ i.tenantId = tenantId ∧ i.status = .pending ∧
      IsAccepted id (answerInvitation rt call s) ∧
      rt.toLowerCase userEmail = rt.toLowerCase i.email ∧ i.isExpired call.now = false

/-- The token of an invitation is not sent, by whom it would be looked at for, once the invitation
has been accepted and has expired. -/
def NotAcceptedAndExpired (rt : Runtime) (id : Id) (s : AccessStore) (call : InvitationCall) :
    Prop :=
  match call.request with
  | .accept _ userEmail token => ∀ i, findInvitation rt token s = .ok (id, i) →
      rt.toLowerCase userEmail = rt.toLowerCase i.email → i.status = .accepted →
      i.isExpired call.now = false
  | .decline _ token => ∀ i, findInvitation rt token s = .ok (id, i) → i.status = .accepted →
      i.isExpired call.now = false
  | .delete _ _ => True

section Steps

variable {rt : Runtime} {s s' : AccessStore} {call : InvitationCall} {k id : Id}
  {i : TenantInvitation} {token : String}

/-- What is kept from each state to the next, and so onward: what is over stays over. -/
def CarriesOutcome (id : Id) (s s' : AccessStore) : Prop :=
  (IsAccepted id s → IsAccepted id s') ∧ (IsOver id s → IsOver id s')

theorem IsOver.not_isAccepted (h : IsOver id s) : ¬IsAccepted id s := by
  rintro ⟨i, hi, haccepted⟩
  obtain ⟨j, hj, hover⟩ := h
  obtain rfl := Option.some.inj (hi.symm.trans hj)
  rw [haccepted] at hover
  rcases hover with h | h | h
  all_goals cases h

theorem CarriesOutcome.keepsOutcome (h : CarriesOutcome id s s') : KeepsOutcome id s s' :=
  ⟨h.1, fun hover => (h.2 hover).not_isAccepted⟩

/-- An invitation is settled in a way that keeps what has become of it. -/
theorem CarriesOutcome.settle {f : TenantInvitation → TenantInvitation}
    (haccepted : ∀ j, s.invitations.find? id = some j → id = k → j.status = .accepted →
      (f j).status = .accepted)
    (hover : ∀ j, s.invitations.find? id = some j → id = k →
      j.status = .declined ∨ j.status = .expired ∨ j.status = .cancelled →
      (f j).status = .declined ∨ (f j).status = .expired ∨ (f j).status = .cancelled) :
    CarriesOutcome id s (settle k f s) := by
  constructor
  · rintro ⟨j, hj, hstatus⟩
    refine ⟨_, find?_settle hj, ?_⟩
    split
    · next heq => exact haccepted j hj heq hstatus
    · exact hstatus
  · rintro ⟨j, hj, hstatus⟩
    refine ⟨_, find?_settle hj, ?_⟩
    split
    · next heq => exact hover j hj heq hstatus
    · exact hstatus

/-- The outcome of an invitation that was pending is settled. -/
theorem CarriesOutcome.settle_pending {f : TenantInvitation → TenantInvitation}
    (hfind : s.invitations.find? k = some i) (hpending : i.status = .pending) :
    CarriesOutcome id s (TenantsService.settle k f s) := by
  refine CarriesOutcome.settle (fun j hj heq hstatus => ?_) fun j hj heq hstatus => ?_
  · subst heq
    obtain rfl := Option.some.inj (hfind.symm.trans hj)
    rw [hpending] at hstatus
    cases hstatus
  · subst heq
    obtain rfl := Option.some.inj (hfind.symm.trans hj)
    rw [hpending] at hstatus
    rcases hstatus with h | h | h
    all_goals cases h

theorem carriesOutcome_step (hgood : NotAcceptedAndExpired rt id s call) :
    CarriesOutcome id s (answerInvitation rt call s) := by
  have hstep := invitationStep rt call s
  rw [answerInvitation]
  generalize serveInvitation rt call.now call.request s = result at hstep ⊢
  cases hstep with
  | refused => exact ⟨fun h => h, fun h => h⟩
  | expired e k i hfinds hexpired =>
    refine CarriesOutcome.settle (fun j hj heq hstatus => ?_) fun j _ _ _ => .inr (.inl rfl)
    subst heq
    obtain rfl := Option.some.inj (hfinds.find?.symm.trans hj)
    -- An accepted invitation that is asked for is not expired, by the condition.
    have hlive : i.isExpired call.now = false := by
      rw [NotAcceptedAndExpired] at hgood
      simp only [Finds] at hfinds
      split at hgood
      · next hrequest =>
        rw [hrequest] at hfinds
        exact hgood i hfinds.1 hfinds.2 hstatus
      · next hrequest =>
        rw [hrequest] at hfinds
        exact hgood i hfinds hstatus
      · next hrequest =>
        rw [hrequest] at hfinds
        exact hfinds.elim
    rw [hexpired] at hlive
    cases hlive
  | accepted userId userEmail token k i hrequest hfinds hlive hpending hcommits =>
    exact CarriesOutcome.settle_pending hfinds.find? hpending
  | declined userId token k i hrequest hfinds hpending =>
    exact CarriesOutcome.settle_pending hfinds.find? hpending
  | cancelled tenantId k i hrequest hfind hstatus =>
    refine CarriesOutcome.settle (fun j hj heq haccepted => ?_) fun j _ _ _ => .inr (.inr rfl)
    subst heq
    obtain rfl := Option.some.inj (hfind.symm.trans hj)
    exact absurd haccepted hstatus

/-- An invitation that is found expired is marked so, whatever it was. -/
theorem answerInvitation_of_expired (hfinds : Finds rt s k i call.request)
    (hexpired : i.isExpired call.now = true) :
    answerInvitation rt call s = settle k (fun i => { i with status := .expired }) s := by
  rw [answerInvitation]
  cases hrequest : call.request with
  | accept userId userEmail token =>
    rw [hrequest] at hfinds
    have hfound : acceptFound rt call.now userId userEmail (k, i) = expire k
        (.forbidden "This invitation has expired and can no longer be accepted.") := by
      rw [acceptFound, if_neg (not_not.mpr hfinds.2), if_pos hexpired]
    simp only [serveInvitation, acceptInvitation, bind, Handler.read, hfinds.1, hfound]
    rfl
  | decline userId token =>
    rw [hrequest] at hfinds
    have hfind : findInvitation rt token s = .ok (k, i) := hfinds
    have hfound : declineFound call.now userId (k, i) = expire k
        (.forbidden "This invitation has expired and can no longer be declined.") := by
      rw [declineFound, if_pos hexpired]
    simp only [serveInvitation, declineInvitation, bind, Handler.read, hfind, hfound]
    rfl
  | delete tenantId invitationId =>
    rw [hrequest] at hfinds
    exact hfinds.elim

/-- The token of an accepted invitation comes after its expiry. -/
theorem expire_breaks (hbad : ¬NotAcceptedAndExpired rt id s call) :
    ¬KeepsOutcome id s (answerInvitation rt call s) := by
  have hfound : ∃ i, Finds rt s id i call.request ∧ i.status = .accepted ∧
      i.isExpired call.now = true := by
    rw [NotAcceptedAndExpired] at hbad
    split at hbad
    · next hrequest =>
      simp only [not_forall, Bool.not_eq_false] at hbad
      obtain ⟨i, hfind, hemail, hstatus, hexpired⟩ := hbad
      exact ⟨i, by rw [hrequest]; exact ⟨hfind, hemail⟩, hstatus, hexpired⟩
    · next hrequest =>
      simp only [not_forall, Bool.not_eq_false] at hbad
      obtain ⟨i, hfind, hstatus, hexpired⟩ := hbad
      exact ⟨i, by rw [hrequest]; exact hfind, hstatus, hexpired⟩
    · exact absurd trivial hbad
  obtain ⟨i, hfinds, hstatus, hexpired⟩ := hfound
  intro hkeeps
  obtain ⟨j, hj, haccepted⟩ := hkeeps.1 ⟨i, hfinds.find?, hstatus⟩
  rw [answerInvitation_of_expired hfinds hexpired, find?_settle hfinds.find?, if_pos rfl] at hj
  obtain rfl := Option.some.inj hj
  cases haccepted

/-- Members join by accepting. -/
theorem joinsByAccepting (rt : Runtime) (s : AccessStore) (call : InvitationCall) :
    JoinsByAccepting rt s call := by
  intro userId tenantId hnot hmem
  have hstep := invitationStep rt call s
  unfold answerInvitation at hmem ⊢
  generalize serveInvitation rt call.now call.request s = result at hmem hstep ⊢
  cases hstep with
  | refused | expired | declined | cancelled => exact absurd hmem hnot
  | accepted userId' userEmail token k i hrequest hfinds hlive hpending hcommits =>
    rcases List.mem_insert_iff.mp hmem with hnew | hold
    · obtain ⟨rfl, rfl⟩ := Prod.mk.inj hnew
      have haccepted := find?_settle (f := accepted call.now userId) (k := k) hfinds.find?
      rw [if_pos rfl] at haccepted
      rw [hrequest] at hfinds
      exact ⟨userEmail, token, k, i, hrequest, hfinds.1, rfl, hpending, ⟨_, haccepted, rfl⟩,
        hfinds.2, hlive⟩
    · exact absurd hold hnot

end Steps

/-- In every run of requests about invitations, an accepted invitation stays accepted, one that is
over is never accepted, and members join only as their invitation is accepted, exactly if no token
of an accepted invitation is looked at after its expiry. -/
theorem invitation_life_iff (rt : Runtime) (id : Id) (s : AccessStore)
    (calls : List InvitationCall) :
    (Runs.Onward (answerInvitation rt) (KeepsOutcome id) calls s ∧
        Runs.AllMeet (answerInvitation rt) (JoinsByAccepting rt) calls s) ↔
      Runs.AllMeet (answerInvitation rt) (NotAcceptedAndExpired rt id) calls s := by
  have honward : Runs.Onward (answerInvitation rt) (KeepsOutcome id) calls s ↔
      Runs.AllMeet (answerInvitation rt) (NotAcceptedAndExpired rt id) calls s :=
    Runs.onward_iff_allMeet (K := CarriesOutcome id)
      (fun _ _ _ hab hbc => ⟨hbc.1 ∘ hab.1, hbc.2 ∘ hab.2⟩) (fun _ _ h => h.keepsOutcome)
      (fun _ _ hgood => carriesOutcome_step hgood) fun _ _ hbad => expire_breaks hbad
  exact (and_iff_left (Runs.allMeet_of_forall (joinsByAccepting rt) calls)).trans honward

/-- A tenant, a user, and an invitation of the user that expires at 10. -/
def invitedStore : AccessStore :=
  { AccessStore.initial (Serial.empty.create "a@b.c") .empty with
    tenants := Serial.empty.create ⟨"Tea", false⟩
    invitations := Serial.empty.create
      { email := "a@b.c", status := .pending, tokenHash := "token", expiresAt := some 10
        acceptedAt := none, declinedAt := none, cancelledAt := none, tenantId := 0
        invitedById := 0, invitedUserId := none, roleId := none } }

/-- The invitation is accepted in time, and its token comes again after the expiry. -/
def tokenSentTwice : List InvitationCall :=
  [⟨5, .accept 0 "a@b.c" "token"⟩, ⟨11, .accept 0 "a@b.c" "token"⟩]

theorem accepted_invitation_expires :
    ¬(Runs.Onward (answerInvitation .plain) (KeepsOutcome 0) tokenSentTwice invitedStore ∧
      Runs.AllMeet (answerInvitation .plain) (JoinsByAccepting .plain) tokenSentTwice
        invitedStore) := by
  rintro ⟨h, _⟩
  have hkeeps : KeepsOutcome 0 _ _ := h.2.1
  obtain ⟨j, hj, haccepted⟩ := hkeeps.1 ⟨_, rfl, rfl⟩
  obtain rfl := Option.some.inj hj
  cases haccepted

end Invetrixa
