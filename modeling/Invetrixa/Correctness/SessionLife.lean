import Invetrixa.Correctness.SessionWrites

/-!
# The life of a session

A session begins with the answer that hands it out. It ends when its user logs out or revokes it,
when a reset of the password is accepted for its user, when a request that shows it is given another
one, or when its time is up; and in no other way. A reset, and a revocation by another session, reach
only the sessions that the index of the user still names.

## Main definitions

- `SessionsKept` — the index of each user names no session of another user
- `SessionEvent.Opens`, `SessionEvent.Ends` — how a session begins and how it ends
- `SessionEvent.Unindexes` — how the index of a user loses a session that goes on

## Main results

- `find?_step` — whether a session is there after one event
- `indexed_step` — whether the index still names it
- `session_accepted_iff` — a request passes the guard exactly if its session has begun and not ended
-/

namespace Invetrixa

open Rowstore Requests

/-- The index of a user names a session. -/
def AuthStore.Indexes (s : AuthStore) (userId sid : Id) : Prop := (userId, sid) ∈ s.sessionIndex

/-- What requests keep of the sessions: each is of an account that is there, and no index but that
of the account names it. -/
structure SessionsKept (s : AuthStore) : Prop where
  known : ∀ sid user, s.sessions.find? sid = some user → s.Knows user.id
  owner : ∀ userId sid user, (userId, sid) ∈ s.sessionIndex →
    s.sessions.find? sid = some user → user.id = userId
  issued : ∀ r ∈ s.sessionIndex, r.2 < s.sessions.next

/-- Some of the sessions end, and maybe leave the index. -/
structure SessionsEnd (gone : Id → Bool) (s s' : AuthStore) : Prop where
  find? : ∀ sid, s'.sessions.find? sid = (s.sessions.find? sid).filter fun _ => !gone sid
  next : s'.sessions.next = s.sessions.next
  sub : ∀ r ∈ s'.sessionIndex, r ∈ s.sessionIndex
  kept : ∀ r ∈ s.sessionIndex, gone r.2 = false → r ∈ s'.sessionIndex

/-- The request shows a session of the user. -/
def ActsAs (http : HttpRequest) (s : AuthStore) (userId : Id) : Prop :=
  ∃ user, (AuthController.authenticated http s).1 = .ok user ∧ user.id = userId

/-- The request is answered with a session for a user. -/
def SessionCall.Opens (rt : Runtime) (s : AuthStore) (call : SessionCall) (sid : Id)
    (user : SessionStateSnapshot) : Prop :=
  ∃ reply, (SessionController.handle rt call s).1 = .ok reply ∧ reply.session = some sid ∧
    (SessionController.handle rt call s).2.sessions.find? sid = some user

/-- The request ends a session of a user: it logs it out, it revokes it, it resets the password of
the user, or it shows the session and is answered with another. A session that is not the one which
the request shows is revoked, or ended by a reset, if the index of the user names it. -/
def SessionCall.Ends (rt : Runtime) (s : AuthStore) (call : SessionCall) (sid userId : Id) : Prop :=
  match call.request with
  | .logout => call.http.sessionID = some sid
  | .revokeSession sessionId => sessionId = sid ∧ ActsAs call.http s userId ∧
    (call.http.sessionID = some sid ∨ s.Indexes userId sid)
  | .revokeAllSessions keepCurrentQuery => ActsAs call.http s userId ∧
    (call.http.sessionID = some sid ∧ AuthController.toBoolean rt keepCurrentQuery = false ∨
      call.http.sessionID ≠ some sid ∧ s.Indexes userId sid)
  | .account (.confirmPasswordReset token _) => s.Indexes userId sid ∧ ∃ tokenId owner,
    AuthService.readResetPassword call.http.now token s = .ok (tokenId, owner) ∧ owner.id = userId
  | _ => call.http.sessionID = some sid ∧
    ∃ reply, (SessionController.handle rt call s).1 = .ok reply ∧ reply.session.isSome

def SessionEvent.Opens (rt : Runtime) (s : AuthStore) (sid : Id) (user : SessionStateSnapshot) :
    SessionEvent → Prop
  | .request call => call.Opens rt s sid user
  | _ => False

def SessionEvent.Ends (rt : Runtime) (s : AuthStore) (sid userId : Id) : SessionEvent → Prop
  | .request call => call.Ends rt s sid userId
  | .expire sessionId => sessionId = sid
  | _ => False

/-- The event takes a session out of the index of a user, and ends none. -/
def SessionEvent.Unindexes (sid userId : Id) : SessionEvent → Prop
  | .expireIndex id => id = userId
  | .unlist id sessionId => id = userId ∧ sessionId = sid
  | _ => False

/-! ### Requests that end sessions -/

section Ends

variable {rt : Runtime} {http : HttpRequest} {s s₁ s₂ : AuthStore} {gone gone' : Id → Bool}

theorem SessionsEnd.refl (s : AuthStore) : SessionsEnd (fun _ => false) s s where
  find? sid := by
    cases s.sessions.find? sid with
    | none => rfl
    | some user => rfl
  next := rfl
  sub _ h := h
  kept _ h _ := h

theorem SessionsEnd.trans (h : SessionsEnd gone s s₁) (h' : SessionsEnd gone' s₁ s₂) :
    SessionsEnd (fun sid => gone sid || gone' sid) s s₂ where
  find? sid := by
    rw [h'.find?, h.find?, Option.filter_filter]
    simp
  next := h'.next.trans h.next
  sub r hr := h.sub r (h'.sub r hr)
  kept r hr hgone := by
    obtain ⟨hfirst, hsecond⟩ := Bool.or_eq_false_iff.mp hgone
    exact h'.kept r (h.kept r hr hfirst) hsecond

theorem SessionsEnd.congr (h : SessionsEnd gone s₁ s₂)
    (htables : s₁.sessionTables = s.sessionTables) : SessionsEnd gone s s₂ := by
  have hsessions : s₁.sessions = s.sessions := congrArg SessionTables.sessions htables
  have hindex : s₁.sessionIndex = s.sessionIndex := congrArg SessionTables.index htables
  constructor
  · rw [← hsessions]
    exact h.find?
  · rw [← hsessions]
    exact h.next
  · rw [← hindex]
    exact h.sub
  · rw [← hindex]
    exact h.kept

/-- Sessions are deleted, and then leave the index of a user. -/
theorem sessionsEnd_cleanup (userId : Id) (targets : List Id) (s : AuthStore) :
    SessionsEnd (fun sid => sid ∈ targets) s
      (AuthService.cleanupSessions userId targets (AuthService.deleteSessions targets s)) where
  find? sid := Table.find?_deleteWhere _
  next := rfl
  sub r h := (List.mem_filter.mp h).1
  kept r h hgone := by
    refine List.mem_filter.mpr ⟨h, decide_eq_true fun hcleaned => ?_⟩
    exact of_decide_eq_false hgone hcleaned.2

/-- The guard lets a request through as the user of the session that it shows. -/
theorem authenticated_ok_iff (hk : SessionsKept s) {user : SessionStateSnapshot} :
    (AuthController.authenticated http s).1 = .ok user ↔
      ∃ sid, http.sessionID = some sid ∧ s.sessions.find? sid = some user := by
  have hload : ∀ sid snapshot, s.sessions.find? sid = some snapshot →
      AuthService.deserializeUser snapshot s = some snapshot := by
    intro sid snapshot hfind
    obtain ⟨row, hrow⟩ := Option.isSome_iff_exists.mp (hk.known sid snapshot hfind)
    simp [AuthService.deserializeUser, hrow, buildSessionUser]
  rw [AuthController.authenticated, Handler.read]
  dsimp only
  cases hshown : http.sessionID with
  | none => simp
  | some sid =>
    cases hfind : s.sessions.find? sid with
    | none => simp [hfind]
    | some snapshot => simp [hfind, hload sid snapshot hfind]

/-- The guard reads. -/
theorem authenticated_cases (http : HttpRequest) (s : AuthStore) :
    (∃ e, AuthController.authenticated http s = (.error e, s)) ∨
      ∃ user, AuthController.authenticated http s = (.ok user, s) := by
  cases h : (AuthController.authenticated http s).1 with
  | error e => exact .inl ⟨e, Prod.ext h rfl⟩
  | ok user => exact .inr ⟨user, Prod.ext h rfl⟩

theorem actsAs_of_authenticated {user : SessionStateSnapshot} {userId : Id}
    (h : AuthController.authenticated http s = (.ok user, s)) :
    ActsAs http s userId ↔ user.id = userId := by
  rw [ActsAs, h]
  simp

theorem not_actsAs_of_refused {e : HttpError} {userId : Id}
    (h : AuthController.authenticated http s = (.error e, s)) : ¬ActsAs http s userId := by
  rw [ActsAs, h]
  simp

/-- A session is among those that a revocation reads exactly if it is one of the user, and the index
of the user names it. -/
theorem mem_sessionIds_iff (hk : SessionsKept s) {sid userId : Id} {user : SessionStateSnapshot}
    (hfind : s.sessions.find? sid = some user) :
    sid ∈ AuthService.sessionIds userId s ↔ userId = user.id ∧ s.Indexes user.id sid := by
  have hmem : sid ∈ AuthService.sessionIds userId s ↔ (userId, sid) ∈ s.sessionIndex := by
    simp [AuthService.sessionIds, List.mem_map, List.mem_filter]
  rw [hmem]
  constructor
  · intro h
    obtain rfl : user.id = userId := hk.owner userId sid user h hfind
    exact ⟨rfl, h⟩
  · rintro ⟨rfl, h⟩
    exact h

/-- What a revocation takes of the sessions that it reads. -/
theorem mem_revoked_iff (hk : SessionsKept s) (keepSessionId : Option Id) {sid userId : Id}
    {user : SessionStateSnapshot} (hfind : s.sessions.find? sid = some user) :
    sid ∈ AuthService.revoked keepSessionId (AuthService.sessionIds userId s) ↔
      (userId = user.id ∧ s.Indexes user.id sid) ∧ keepSessionId ≠ some sid := by
  rw [AuthService.revoked, List.mem_filter, mem_sessionIds_iff hk hfind, decide_eq_true_eq]

/-- Whether a request ends a session is said of each session that is there. -/
def EndsExactly (rt : Runtime) (call : SessionCall) (s s' : AuthStore) : Prop :=
  ∃ gone, SessionsEnd gone s s' ∧ ∀ sid user, s.sessions.find? sid = some user →
    (gone sid = true ↔ call.Ends rt s sid user.id)

theorem endsExactly_of_none {call : SessionCall}
    (h : ∀ sid user, s.sessions.find? sid = some user → ¬call.Ends rt s sid user.id) :
    EndsExactly rt call s s := by
  refine ⟨fun _ => false, SessionsEnd.refl s, fun sid user hfind => ?_⟩
  simp [h sid user hfind]

/-- A request that shows a session which is there passes the guard as its user. -/
theorem authenticated_of_shown (hk : SessionsKept s) {sid : Id}
    {user current : SessionStateSnapshot} (hshown : http.sessionID = some sid)
    (hfind : s.sessions.find? sid = some user)
    (h : AuthController.authenticated http s = (.ok current, s)) : current = user := by
  have hok : (AuthController.authenticated http s).1 = .ok user :=
    (authenticated_ok_iff hk).mpr ⟨sid, hshown, hfind⟩
  rw [h] at hok
  exact Except.ok.inj hok

theorem not_shown_of_refused (hk : SessionsKept s) {sid : Id} {user : SessionStateSnapshot}
    {e : HttpError} (h : AuthController.authenticated http s = (.error e, s))
    (hfind : s.sessions.find? sid = some user) : http.sessionID ≠ some sid := by
  intro hshown
  have hok : (AuthController.authenticated http s).1 = .ok user :=
    (authenticated_ok_iff hk).mpr ⟨sid, hshown, hfind⟩
  rw [h] at hok
  cases hok

theorem destroyCurrentSession_apply (user : SessionStateSnapshot) (s : AuthStore) :
    AuthController.destroyCurrentSession http user s =
      (.ok ⟨⟩, AuthService.cleanupSessions user.id http.sessionID.toList
        (AuthService.deleteSessions http.sessionID.toList s)) := rfl

theorem endsExactly_logout (hk : SessionsKept s) (entropy : Entropy) (token : String) :
    EndsExactly rt ⟨http, entropy, token, .logout⟩ s (AuthController.logout http s).2 := by
  obtain ⟨e, h⟩ | ⟨current, h⟩ := authenticated_cases http s
  · have happly : AuthController.logout http s = (.error e, s) := by
      simp only [AuthController.logout, bind, h]
    rw [happly]
    exact endsExactly_of_none fun sid user hfind => not_shown_of_refused hk h hfind
  · have happly : AuthController.logout http s =
        AuthController.destroyCurrentSession http current s := by
      simp only [AuthController.logout, bind, h]
    rw [happly, destroyCurrentSession_apply]
    refine ⟨_, sessionsEnd_cleanup current.id http.sessionID.toList s, fun sid user _ => ?_⟩
    simp [SessionCall.Ends]

/-- A session in the index of the user is deleted, and leaves the index even if it was gone. -/
theorem revokeSession_of_mem {userId sessionId : Id} (h : (userId, sessionId) ∈ s.sessionIndex) :
    (AuthService.revokeSession userId sessionId s).2 = AuthService.cleanupSessions userId
      [sessionId] (AuthService.deleteSessions [sessionId] s) := by
  simp only [AuthService.revokeSession, bind, Handler.read, Handler.write, h, decide_true,
    ↓reduceIte]
  split
  · rfl
  · rfl

theorem revokeSession_of_not_mem {userId sessionId : Id}
    (h : (userId, sessionId) ∉ s.sessionIndex) :
    (AuthService.revokeSession userId sessionId s).2 = s := by
  have hindex : (s.sessionIndex.filter fun r => ¬(r.1 = userId ∧ r.2 ∈ [sessionId])) =
      s.sessionIndex := by
    apply List.filter_eq_self.mpr
    rintro ⟨userId', sid⟩ hr
    refine decide_eq_true fun hsame => h ?_
    obtain ⟨rfl, hsid⟩ := hsame
    rwa [← List.mem_singleton.mp hsid]
  have happly : (AuthService.revokeSession userId sessionId s).2 =
      AuthService.cleanupSessions userId [sessionId] s := by
    simp only [AuthService.revokeSession, bind, Handler.read, Handler.write, h, decide_false,
      Bool.false_eq_true, ↓reduceIte, Handler.refuse]
  rw [happly, AuthService.cleanupSessions, hindex]

theorem endsExactly_revokeSession (hk : SessionsKept s) (entropy : Entropy) (token : String)
    (sessionId : Id) : EndsExactly rt ⟨http, entropy, token, .revokeSession sessionId⟩ s
      (AuthController.revokeSession http sessionId s).2 := by
  obtain ⟨e, h⟩ | ⟨current, h⟩ := authenticated_cases http s
  · have happly : AuthController.revokeSession http sessionId s = (.error e, s) := by
      simp only [AuthController.revokeSession, bind, h]
    rw [happly]
    exact endsExactly_of_none fun sid user _ hends => not_actsAs_of_refused h hends.2.1
  · have hacts : ∀ userId, ActsAs http s userId ↔ current.id = userId :=
      fun _ => actsAs_of_authenticated h
    by_cases hshown : http.sessionID = some sessionId
    · have happly : AuthController.revokeSession http sessionId s =
          AuthController.destroyCurrentSession http current s := by
        simp only [AuthController.revokeSession, bind, h, if_pos hshown]
      rw [happly, destroyCurrentSession_apply]
      refine ⟨_, sessionsEnd_cleanup current.id http.sessionID.toList s, fun sid user hfind => ?_⟩
      simp only [hshown, Option.toList_some, List.mem_singleton, decide_eq_true_eq,
        SessionCall.Ends, hacts]
      constructor
      · rintro rfl
        exact ⟨rfl, congrArg _ (authenticated_of_shown hk hshown hfind h), .inl rfl⟩
      · rintro ⟨rfl, _⟩
        rfl
    · have happly : AuthController.revokeSession http sessionId s =
          AuthService.revokeSession current.id sessionId s := by
        simp only [AuthController.revokeSession, bind, h, if_neg hshown]
      rw [happly]
      by_cases hmember : (current.id, sessionId) ∈ s.sessionIndex
      · refine ⟨fun sid => sid ∈ [sessionId], ?_, fun sid user hfind => ?_⟩
        · rw [revokeSession_of_mem hmember]
          exact sessionsEnd_cleanup current.id [sessionId] s
        · simp only [List.mem_singleton, decide_eq_true_eq, SessionCall.Ends, hacts]
          constructor
          · rintro rfl
            have hid : user.id = current.id := hk.owner current.id sid user hmember hfind
            exact ⟨rfl, hid.symm, .inr (hid ▸ hmember)⟩
          · rintro ⟨rfl, _⟩
            rfl
      · rw [revokeSession_of_not_mem hmember]
        refine endsExactly_of_none fun sid user hfind => ?_
        rintro ⟨rfl, hends, hshown' | hindexed⟩
        · exact hshown hshown'
        · have hid : current.id = user.id := (hacts user.id).mp hends
          exact hmember (hid ▸ hindexed)

theorem endsExactly_revokeAllSessions (hk : SessionsKept s) (entropy : Entropy) (token : String)
    (keepCurrentQuery : Option String) :
    EndsExactly rt ⟨http, entropy, token, .revokeAllSessions keepCurrentQuery⟩ s
      (AuthController.revokeAllSessions rt http keepCurrentQuery s).2 := by
  obtain ⟨e, h⟩ | ⟨current, h⟩ := authenticated_cases http s
  · have happly : AuthController.revokeAllSessions rt http keepCurrentQuery s = (.error e, s) := by
      simp only [AuthController.revokeAllSessions, bind, h]
    rw [happly]
    exact endsExactly_of_none fun sid user _ hends => not_actsAs_of_refused h hends.1
  · have hacts : ∀ userId, ActsAs http s userId ↔ current.id = userId :=
      fun _ => actsAs_of_authenticated h
    cases hkeep : AuthController.toBoolean rt keepCurrentQuery with
    | true =>
      have happly : AuthController.revokeAllSessions rt http keepCurrentQuery s =
          AuthService.revokeAllSessions current.id http.sessionID s := by
        simp only [AuthController.revokeAllSessions, bind, h, hkeep, ↓reduceIte]
      rw [happly, AuthService.revokeAllSessions_apply]
      refine ⟨_, sessionsEnd_cleanup current.id _ s, fun sid user hfind => ?_⟩
      rw [decide_eq_true_eq, mem_revoked_iff hk http.sessionID hfind]
      simp only [SessionCall.Ends, hacts, hkeep, Bool.true_eq_false, and_false, false_or]
      exact and_assoc.trans (and_congr_right fun _ => and_comm)
    | false =>
      have happly : AuthController.revokeAllSessions rt http keepCurrentQuery s =
          AuthController.destroyCurrentSession http current
            (AuthService.revokeAllSessions current.id none s).2 := by
        simp only [AuthController.revokeAllSessions, bind, h, hkeep, Bool.false_eq_true, ↓reduceIte,
          AuthService.revokeAllSessions_apply]
      rw [happly, AuthService.revokeAllSessions_apply, destroyCurrentSession_apply]
      refine ⟨_, (sessionsEnd_cleanup current.id _ s).trans
        (sessionsEnd_cleanup current.id http.sessionID.toList _), fun sid user hfind => ?_⟩
      simp only [Bool.or_eq_true, decide_eq_true_eq, mem_revoked_iff hk none hfind,
        SessionCall.Ends, hacts, hkeep, Option.mem_toList]
      constructor
      · rintro (⟨⟨hid, hindexed⟩, _⟩ | hshown)
        · by_cases hshown : http.sessionID = some sid
          · exact ⟨hid, .inl ⟨hshown, trivial⟩⟩
          · exact ⟨hid, .inr ⟨hshown, hindexed⟩⟩
        · exact ⟨congrArg _ (authenticated_of_shown hk hshown hfind h), .inl ⟨hshown, trivial⟩⟩
      · rintro ⟨hid, ⟨hshown, _⟩ | ⟨_, hindexed⟩⟩
        · exact .inr hshown
        · exact .inl ⟨⟨hid, hindexed⟩, by simp⟩

variable (rt) in
/-- A reset ends all sessions of the account whose password it writes. -/
theorem resetPassword_of_read (entropy : Entropy) {now : ℕ} {text password : String} {tokenId : Id}
    {owner : UserWithPreferences}
    (h : AuthService.readResetPassword now text s = .ok (tokenId, owner)) :
    ∃ s₁, s₁.sessionTables = s.sessionTables ∧ (∀ id, s₁.Knows id ↔ s.Knows id) ∧
      AuthService.resetPassword rt entropy now text password s =
        AuthService.revokeAllSessions owner.id none s₁ := by
  obtain ⟨record, hrecord, _, _, hload⟩ := AuthService.readResetPassword_ok h
  have hlive : (s.users.find? owner.id).isSome ∧ (s.verificationTokens.find? tokenId).isSome :=
    ⟨knows_of_findById hload, Option.isSome_iff_exists.mpr ⟨record, hrecord⟩⟩
  let hash := rt.argonHash password (entropy.salt 0)
  refine ⟨{ AuthService.markTokenUsed now tokenId (s.modifyUser owner.id
    (AuthService.withPassword now hash)) with
      passwordHistory := s.passwordHistory.create ⟨owner.id, hash⟩ }, rfl, fun id => ?_, ?_⟩
  · exact iff_of_eq (knows_modifyUser s owner.id id _)
  · have hcommit : AuthService.commitResetPassword now tokenId owner.id hash s = (.ok ⟨⟩,
        { AuthService.markTokenUsed now tokenId (s.modifyUser owner.id
          (AuthService.withPassword now hash)) with
            passwordHistory := s.passwordHistory.create ⟨owner.id, hash⟩ }) := by
      simp only [AuthService.commitResetPassword, Handler.atomically, transaction,
        useToken_apply hlive]
      rfl
    simp only [AuthService.resetPassword, bind, Handler.read, h]
    rw [hcommit]

theorem endsExactly_reset (hk : SessionsKept s) (entropy : Entropy) (token text password : String) :
    EndsExactly rt ⟨http, entropy, token, .account (.confirmPasswordReset text password)⟩ s
      (AuthService.resetPassword rt entropy http.now text password s).2 := by
  cases hread : AuthService.readResetPassword http.now text s with
  | error e =>
    have happly : AuthService.resetPassword rt entropy http.now text password s =
        (.error e, s) := by
      simp only [AuthService.resetPassword, bind, Handler.read, hread]
    rw [happly]
    refine endsExactly_of_none fun sid user _ hends => ?_
    obtain ⟨_, _, _, hok, _⟩ := hends
    rw [hread] at hok
    cases hok
  | ok found =>
    obtain ⟨tokenId, owner⟩ := found
    obtain ⟨s₁, htables, _, happly⟩ := resetPassword_of_read rt entropy hread
    rw [happly, AuthService.revokeAllSessions_apply]
    refine ⟨_, (sessionsEnd_cleanup owner.id _ s₁).congr htables, fun sid user hfind => ?_⟩
    have hindex : s₁.sessionIndex = s.sessionIndex := congrArg SessionTables.index htables
    have hids : AuthService.sessionIds owner.id s₁ = AuthService.sessionIds owner.id s := by
      rw [AuthService.sessionIds, hindex, AuthService.sessionIds]
    rw [decide_eq_true_eq, hids, mem_revoked_iff hk none hfind]
    simp [SessionCall.Ends, hread, and_comm]

end Ends

/-! ### Runs -/

section Runs

variable {rt : Runtime} {http : HttpRequest} {s s' : AuthStore} {gone : Id → Bool} {id sid : Id}
  {user : SessionStateSnapshot}

theorem spares_of_keeps {α : Type} {m : AuthHandler α}
    (h : Handler.Keeps (fun s : AuthStore => s.Knows id) m) (hs : s.Knows id) :
    (m s).2.Knows id :=
  cast (h s).symm hs

theorem knows_registered (now : ℕ) (token : String) (entropy : Entropy) (dto : RegisterDto)
    (hs : s.Knows id) : (AuthService.register rt now token entropy dto s).2.Knows id := by
  have hwith : ∀ account, (withAccount account s).Knows id := by
    intro account
    obtain ⟨row, hrow⟩ := Option.isSome_iff_exists.mp hs
    exact Option.isSome_iff_exists.mpr ⟨row, Serial.find?_create_of_some hrow account⟩
  obtain ⟨e, h⟩ | ⟨account, _, _, ⟨e, h⟩ | ⟨expiresAt, snapshot, h, _⟩⟩ :=
    register_cases rt now token entropy dto s
  · rw [h]
    exact hs
  · rw [h]
    exact hwith account
  · rw [h]
    exact hwith account

theorem keeps_users_revokeSession (userId sessionId : Id) :
    Handler.Keeps AuthStore.users (AuthService.revokeSession userId sessionId) := by
  intro s
  by_cases hmember : (userId, sessionId) ∈ s.sessionIndex
  · rw [revokeSession_of_mem hmember]
    rfl
  · rw [revokeSession_of_not_mem hmember]

variable (rt) in
/-- What a user does to its sessions leaves the accounts. -/
theorem keeps_users (http : HttpRequest) :
    Handler.Keeps AuthStore.users (AuthController.logout http) ∧
      (∀ sessionId, Handler.Keeps AuthStore.users (AuthController.revokeSession http sessionId)) ∧
      ∀ keepCurrentQuery, Handler.Keeps AuthStore.users
        (AuthController.revokeAllSessions rt http keepCurrentQuery) := by
  have hdestroy : ∀ user, Handler.Keeps AuthStore.users
      (AuthController.destroyCurrentSession http user) := fun _ _ => rfl
  have hrevoke : ∀ userId keepSessionId, Handler.Keeps AuthStore.users
      (AuthService.revokeAllSessions userId keepSessionId) := fun _ _ _ => rfl
  refine ⟨?_, fun sessionId => ?_, fun keepCurrentQuery => ?_⟩
  · exact (Handler.Keeps.read _).bind fun user => hdestroy user
  · apply Handler.Keeps.bind (Handler.Keeps.read _)
    intro user
    split
    · exact hdestroy user
    · exact keeps_users_revokeSession user.id sessionId
  · apply Handler.Keeps.bind (Handler.Keeps.read _)
    intro user
    split
    · exact hrevoke user.id _
    · exact (hrevoke user.id none).bind fun _ => hdestroy user

theorem knows_resetPassword (entropy : Entropy) (now : ℕ) (text password : String)
    (hs : s.Knows id) :
    (AuthService.resetPassword rt entropy now text password s).2.Knows id := by
  cases hread : AuthService.readResetPassword now text s with
  | error e =>
    have happly : AuthService.resetPassword rt entropy now text password s = (.error e, s) := by
      simp only [AuthService.resetPassword, bind, Handler.read, hread]
    rw [happly]
    exact hs
  | ok found =>
    obtain ⟨s₁, _, hknows, happly⟩ := resetPassword_of_read rt entropy hread
    rw [happly, AuthService.revokeAllSessions_apply]
    exact (hknows id).mpr hs

/-- An answer without content comes after what is requested. -/
theorem snd_answered (m : AuthHandler PUnit) (s : AuthStore) :
    ((do m; return {} : AuthHandler AuthReply) s).2 = (m s).2 := by
  simp only [bind]
  cases m s with
  | mk answer s₁ =>
    cases answer with
    | ok _ => rfl
    | error _ => rfl

theorem knows_account (request : AccountRequest) (entropy : Entropy) (token : String)
    (hs : s.Knows id) :
    (AccountController.handle rt ⟨http, entropy, token, request⟩ s).2.Knows id := by
  have hempty : ∀ {m : AuthHandler PUnit}, (m s).2.Knows id →
      ((do m; return {} : AuthHandler AuthReply) s).2.Knows id := by
    intro m hm
    rwa [snd_answered]
  have htokens : ∀ (s : AuthStore) tokens,
      AuthStore.Knows { s with verificationTokens := tokens } id = s.Knows id := fun _ _ => rfl
  cases request with
  | register dto =>
    have hsession : ∀ user, Handler.Keeps (fun s : AuthStore => s.Knows id)
        (AuthController.withNewSession http user none) :=
      fun user => (signInsLeave_knows id).withNewSession user none
    have hregistered : (AuthService.register rt http.now token entropy dto s).2.Knows id :=
      knows_registered http.now token entropy dto hs
    simp only [AccountController.handle, bind]
    cases hregister : AuthService.register rt http.now token entropy dto s with
    | mk answer s₁ =>
      rw [hregister] at hregistered
      cases answer with
      | ok snapshot => exact spares_of_keeps (s := s₁) (hsession snapshot) hregistered
      | error e => exact hregistered
  | resendEmailVerification email =>
    exact hempty (spares_of_keeps (keeps_mailed htokens http.now token email).1 hs)
  | requestPasswordReset email =>
    exact hempty (spares_of_keeps (keeps_mailed htokens http.now token email).2 hs)
  | verifyEmail text =>
    have hverify : Handler.Keeps (fun s : AuthStore => s.Knows id)
        (AuthService.verifyEmail http.now text) :=
      keeps_verifyEmail htokens (fun s userId f => knows_modifyUser s userId id f) http.now text
    exact hempty (spares_of_keeps hverify hs)
  | confirmPasswordReset text password =>
    exact hempty (knows_resetPassword entropy http.now text password hs)
  | auth request =>
    have hkept := keeps_auth rt http entropy request s
    have hsame := congrArg (fun c : Recoverable => (c.users.find? id).isSome) hkept
    simp only [AuthStore.credentials, Serial.toTable_map, Table.find?_map, Option.isSome_map]
      at hsame
    exact hsame.trans hs

/-- Accounts do not go, whatever is requested. -/
theorem knows_handle (call : SessionCall) (hs : s.Knows id) :
    (SessionController.handle rt call s).2.Knows id := by
  obtain ⟨http, entropy, token, request⟩ := call
  obtain ⟨hlogout, hrevoke, hrevokeAll⟩ := keeps_users rt http
  have husers : ∀ {m : AuthHandler PUnit}, Handler.Keeps AuthStore.users m →
      ((do m; return {} : AuthHandler AuthReply) s).2.Knows id := by
    intro m hm
    rw [snd_answered, AuthStore.Knows, hm s]
    exact hs
  cases request with
  | logout => exact husers hlogout
  | revokeSession sessionId => exact husers (hrevoke sessionId)
  | revokeAllSessions keepCurrentQuery => exact husers (hrevokeAll keepCurrentQuery)
  | renew service =>
    have hkept : Handler.Keeps (fun s : AuthStore => s.Knows id)
        (AuthController.renewSession http service) := by
      apply Handler.Keeps.bind (Handler.Keeps.read _)
      intro user
      apply Handler.Keeps.bind (Handler.Keeps.read _)
      intro _
      apply Handler.Keeps.bind (Handler.Keeps.read _)
      intro refreshed
      split
      · exact ((signInsLeave_knows id).persistSession _).bind fun _ => Handler.Keeps.pure _
      · exact Handler.Keeps.pure _
    exact spares_of_keeps hkept hs
  | account request => exact knows_account request entropy token hs

/-- An index that names fewer sessions. -/
theorem SessionsKept.of_sub (hk : SessionsKept s) (hsessions : s'.sessions = s.sessions)
    (husers : s'.users = s.users) (hsub : ∀ r ∈ s'.sessionIndex, r ∈ s.sessionIndex) :
    SessionsKept s' where
  known sid user hfind := by
    rw [AuthStore.Knows, husers]
    exact hk.known sid user (hsessions ▸ hfind)
  owner userId sid user hr hfind := hk.owner userId sid user (hsub _ hr) (hsessions ▸ hfind)
  issued r hr := hsessions ▸ hk.issued r (hsub r hr)

theorem SessionsEnd.keeps (h : SessionsEnd gone s s') (hk : SessionsKept s)
    (hknows : ∀ id, s.Knows id → s'.Knows id) : SessionsKept s' := by
  have hold : ∀ {sid user}, s'.sessions.find? sid = some user →
      s.sessions.find? sid = some user ∧ gone sid = false := by
    intro sid user hfind
    rw [h.find?, Option.filter_eq_some_iff] at hfind
    simpa using hfind
  constructor
  · exact fun sid user hfind => hknows user.id (hk.known sid user (hold hfind).1)
  · exact fun userId sid user hr hfind => hk.owner userId sid user (h.sub _ hr) (hold hfind).1
  · intro r hr
    rw [h.next]
    exact hk.issued r (h.sub r hr)

/-- The session that is looked up after a new one was opened. -/
theorem find?_opened {t : SessionTables} {replaced : Option Id} {new : SessionStateSnapshot} :
    (t.opened replaced new).sessions.find? sid = some user ↔
      sid = t.sessions.next ∧ user = new ∨
        t.sessions.find? sid = some user ∧ replaced ≠ some sid := by
  have hnext : (t.sessions.deleteWhere fun sid _ => replaced = some sid).next =
      t.sessions.next := rfl
  rw [SessionTables.opened, Serial.find?_create, hnext]
  by_cases hnew : sid = t.sessions.next
  · subst hnew
    simp [Serial.find?_next, eq_comm]
  · rw [if_neg hnew, Serial.toTable_deleteWhere, Table.find?_deleteWhere,
      Option.filter_eq_some_iff]
    simp [hnew]

theorem mem_index_opened {t : SessionTables} {replaced : Option Id} {new : SessionStateSnapshot}
    {r : Id × Id} :
    r ∈ (t.opened replaced new).index ↔ r ∈ t.index ∨ r = (new.id, t.sessions.next) := by
  rw [SessionTables.opened]
  split
  · next hmem =>
    refine ⟨.inl, ?_⟩
    rintro (h | rfl)
    · exact h
    · exact hmem
  · simp

theorem SessionWrite.keeps {r : Except HttpError AuthReply × AuthStore}
    (h : SessionWrite http s r) (hk : SessionsKept s) (hknows : ∀ id, s.Knows id → r.2.Knows id) :
    SessionsKept r.2 := by
  cases h with
  | kept htables hreply =>
    exact ((SessionsEnd.refl _).congr htables).keeps hk hknows
  | opened new htables hknown hreply =>
    rename_i reply s'
    have hsessions : s'.sessions = (s.sessionTables.opened http.sessionID new).sessions :=
      congrArg SessionTables.sessions htables
    have hindex : s'.sessionIndex = (s.sessionTables.opened http.sessionID new).index :=
      congrArg SessionTables.index htables
    have hfind : ∀ {sid user}, s'.sessions.find? sid = some user →
        sid = s.sessions.next ∧ user = new ∨ s.sessions.find? sid = some user := by
      intro sid user h
      rw [hsessions] at h
      obtain hnew | ⟨hold, _⟩ := find?_opened.mp h
      · exact .inl hnew
      · exact .inr hold
    have hmem : ∀ {r}, r ∈ s'.sessionIndex ↔
        r ∈ s.sessionIndex ∨ r = (new.id, s.sessions.next) := by
      intro r
      rw [hindex]
      exact mem_index_opened
    constructor
    · intro sid user h
      obtain ⟨rfl, rfl⟩ | h := hfind h
      · exact hknown
      · exact hknows user.id (hk.known sid user h)
    · intro userId sid user hr h
      obtain hr | hr := hmem.mp hr
      · -- the index does not name the new session before it is there
        obtain ⟨rfl, _⟩ | h := hfind h
        · exact absurd (hk.issued _ hr) (lt_irrefl _)
        · exact hk.owner userId sid user hr h
      · obtain ⟨rfl, rfl⟩ := Prod.mk.inj hr
        obtain ⟨_, rfl⟩ | h := hfind h
        · rfl
        · rw [Serial.find?_next] at h
          cases h
    · intro r hr
      have hnext : s'.sessions.next = s.sessions.next + 1 := congrArg Serial.next hsessions
      obtain hr | rfl := hmem.mp hr
      · rw [hnext]
        exact Nat.lt_succ_of_lt (hk.issued r hr)
      · rw [hnext]
        exact Nat.lt_succ_self _

/-- What is looked up after a request that may begin a session. -/
theorem SessionWrite.find?_iff {r : Except HttpError AuthReply × AuthStore}
    (h : SessionWrite http s r) : r.2.sessions.find? sid = some user ↔
      s.sessions.find? sid = some user ∧
          ¬(http.sessionID = some sid ∧ ∃ reply, r.1 = .ok reply ∧ reply.session.isSome) ∨
        ∃ reply, r.1 = .ok reply ∧ reply.session = some sid ∧
          r.2.sessions.find? sid = some user := by
  cases h with
  | kept htables hreply =>
    rename_i answer s'
    have hsessions : s'.sessions = s.sessions := congrArg SessionTables.sessions htables
    have hnone : ∀ reply, answer = .ok reply → reply.session.isSome = false := by
      intro reply hok
      rw [hreply reply hok]
      rfl
    rw [hsessions]
    constructor
    · refine fun hfind => .inl ⟨hfind, ?_⟩
      rintro ⟨_, reply, hok, hsome⟩
      rw [hnone reply hok] at hsome
      cases hsome
    · rintro (⟨hfind, _⟩ | ⟨_, _, _, hfind⟩)
      · exact hfind
      · exact hfind
  | opened new htables hknown hreply =>
    rename_i reply s'
    have hsessions : s'.sessions = (s.sessionTables.opened http.sessionID new).sessions :=
      congrArg SessionTables.sessions htables
    have hfind : s'.sessions.find? sid = some user ↔ sid = s.sessions.next ∧ user = new ∨
        s.sessions.find? sid = some user ∧ http.sessionID ≠ some sid := by
      rw [hsessions]
      exact find?_opened
    constructor
    · intro h
      obtain ⟨rfl, _⟩ | ⟨hold, hshown⟩ := hfind.mp h
      · exact .inr ⟨reply, rfl, hreply, h⟩
      · exact .inl ⟨hold, fun hends => hshown hends.1⟩
    · rintro (⟨hold, hspared⟩ | ⟨_, _, _, h⟩)
      · refine hfind.mpr (.inr ⟨hold, fun hshown => hspared ⟨hshown, reply, rfl, ?_⟩⟩)
        rw [hreply]
        rfl
      · exact h

/-- The index goes on naming the sessions that are there. -/
theorem SessionWrite.indexes_iff {r : Except HttpError AuthReply × AuthStore}
    (h : SessionWrite http s r) (hfind : s.sessions.find? sid = some user) :
    r.2.Indexes user.id sid ↔ s.Indexes user.id sid := by
  cases h with
  | kept htables hreply =>
    exact iff_of_eq (congrArg (fun t : SessionTables => (user.id, sid) ∈ t.index) htables)
  | opened new htables hknown hreply =>
    rename_i reply s'
    have hindex : s'.sessionIndex = (s.sessionTables.opened http.sessionID new).index :=
      congrArg SessionTables.index htables
    show (user.id, sid) ∈ s'.sessionIndex ↔ _
    rw [hindex, mem_index_opened]
    refine or_iff_left fun hnew => ?_
    -- the session that begins was not there
    obtain ⟨_, rfl⟩ := Prod.mk.inj hnew
    exact absurd hfind (by simp [AuthStore.sessionTables, Serial.find?_next])

/-- The session that an answer hands out is in the index of its user. -/
theorem SessionWrite.indexes_new {r : Except HttpError AuthReply × AuthStore}
    (h : SessionWrite http s r) {reply : AuthReply} (hok : r.1 = .ok reply)
    (hsession : reply.session = some sid) (hfind : r.2.sessions.find? sid = some user) :
    r.2.Indexes user.id sid := by
  cases h with
  | kept htables hreply =>
    rw [hreply reply hok] at hsession
    cases hsession
  | opened new htables hknown hreply =>
    rename_i reply' s'
    obtain rfl : reply' = reply := Except.ok.inj hok
    obtain rfl : s.sessions.next = sid := Option.some.inj (hreply.symm.trans hsession)
    have hsessions : s'.sessions = (s.sessionTables.opened http.sessionID new).sessions :=
      congrArg SessionTables.sessions htables
    have hindex : s'.sessionIndex = (s.sessionTables.opened http.sessionID new).index :=
      congrArg SessionTables.index htables
    have hfind' : s'.sessions.find? s.sessions.next = some user := hfind
    rw [hsessions] at hfind'
    show (user.id, s.sessions.next) ∈ s'.sessionIndex
    rw [hindex, mem_index_opened]
    obtain ⟨_, rfl⟩ | ⟨hold, _⟩ := find?_opened.mp hfind'
    · exact .inr rfl
    · exact absurd hold (by simp [AuthStore.sessionTables, Serial.find?_next])

/-- A request that ends sessions hands out none. -/
theorem session_answered {m : AuthHandler PUnit} {reply : AuthReply}
    (h : ((do m; return {} : AuthHandler AuthReply) s).1 = .ok reply) : reply.session = none := by
  simp only [bind] at h
  cases hm : m s with
  | mk answer s₁ =>
    rw [hm] at h
    cases answer with
    | ok _ =>
      obtain rfl : ({} : AuthReply) = reply := Except.ok.inj h
      rfl
    | error _ => cases h

/-- What a request that ends sessions leaves of them. -/
theorem find?_ended {call : SessionCall} {m : AuthHandler PUnit}
    (hcall : SessionController.handle rt call = do m; return {})
    (h : EndsExactly rt call s (m s).2) :
    (SessionController.handle rt call s).2.sessions.find? sid = some user ↔
      s.sessions.find? sid = some user ∧ ¬call.Ends rt s sid user.id ∨
        call.Opens rt s sid user := by
  obtain ⟨gone, hend, hexact⟩ := h
  have hopens : ¬call.Opens rt s sid user := by
    rintro ⟨reply, hok, hsession, _⟩
    rw [hcall] at hok
    rw [session_answered hok] at hsession
    cases hsession
  rw [hcall, snd_answered, hend.find?, Option.filter_eq_some_iff]
  constructor
  · rintro ⟨hfind, hspared⟩
    refine .inl ⟨hfind, fun hends => ?_⟩
    rw [(hexact sid user hfind).mpr hends] at hspared
    cases hspared
  · rintro (⟨hfind, hends⟩ | h)
    · refine ⟨hfind, ?_⟩
      rw [Bool.not_eq_true', ← Bool.not_eq_true]
      exact fun hgone => hends ((hexact sid user hfind).mp hgone)
    · exact absurd h hopens

variable (rt) in
/-- Every request ends sessions, and hands out none, or it may begin a session and then ends the one
that it shows. -/
theorem request_cases (hk : SessionsKept s) (call : SessionCall) :
    (∃ m, SessionController.handle rt call = (do m; return {}) ∧
      EndsExactly rt call s (m s).2) ∨
    SessionWrite call.http s (SessionController.handle rt call s) ∧
      ∀ sid userId, call.Ends rt s sid userId ↔ call.http.sessionID = some sid ∧
        ∃ reply, (SessionController.handle rt call s).1 = .ok reply ∧ reply.session.isSome := by
  obtain ⟨http, entropy, token, request⟩ := call
  cases request with
  | logout => exact .inl ⟨_, rfl, endsExactly_logout hk entropy token⟩
  | revokeSession sessionId =>
    exact .inl ⟨_, rfl, endsExactly_revokeSession hk entropy token sessionId⟩
  | revokeAllSessions keepCurrentQuery =>
    exact .inl ⟨_, rfl, endsExactly_revokeAllSessions hk entropy token keepCurrentQuery⟩
  | renew service => exact .inr ⟨sessionWrite_renewSession service, fun _ _ => Iff.rfl⟩
  | account request =>
    by_cases hreset : ∃ text password, request = .confirmPasswordReset text password
    · obtain ⟨text, password, rfl⟩ := hreset
      exact .inl ⟨_, rfl, endsExactly_reset hk entropy token text password⟩
    · refine .inr ⟨sessionWrite_account token fun text password h => hreset ⟨text, password, h⟩,
        fun _ _ => ?_⟩
      cases request with
      | confirmPasswordReset text password => exact absurd ⟨text, password, rfl⟩ hreset
      | _ => rfl

variable (rt) in
/-- One event, for a session: it is there if it was and has not been ended, or if it was begun. -/
theorem find?_step (hk : SessionsKept s) (e : SessionEvent) :
    (e.step rt s).sessions.find? sid = some user ↔
      s.sessions.find? sid = some user ∧ ¬e.Ends rt s sid user.id ∨ e.Opens rt s sid user := by
  cases e with
  | expire sessionId =>
    show (AuthService.deleteSessions [sessionId] s).sessions.find? sid = some user ↔ _
    rw [AuthService.deleteSessions, Serial.toTable_deleteWhere, Table.find?_deleteWhere,
      Option.filter_eq_some_iff]
    simp only [SessionEvent.Ends, SessionEvent.Opens, List.mem_singleton, Bool.not_eq_true',
      decide_eq_false_iff_not, or_false]
    exact and_congr_right fun _ => not_congr eq_comm
  | expireIndex userId =>
    simp [SessionEvent.step, AuthService.expireIndex, SessionEvent.Ends, SessionEvent.Opens]
  | unlist userId sessionId =>
    simp [SessionEvent.step, AuthService.cleanupSessions, SessionEvent.Ends, SessionEvent.Opens]
  | request call =>
    obtain ⟨m, hcall, hends⟩ | ⟨hwrite, hends⟩ := request_cases rt hk call
    · exact find?_ended hcall hends
    · show _ ↔ _ ∧ ¬call.Ends rt s sid user.id ∨ _
      rw [hends]
      exact hwrite.find?_iff

variable (rt) in
/-- A session that begins is in the index of its user. -/
theorem indexes_of_opens (hk : SessionsKept s) {e : SessionEvent} (h : e.Opens rt s sid user) :
    (e.step rt s).Indexes user.id sid := by
  cases e with
  | expire sessionId => cases h
  | expireIndex userId => cases h
  | unlist userId sessionId => cases h
  | request call =>
    obtain ⟨reply, hok, hsession, hfind⟩ := h
    obtain ⟨m, hcall, _⟩ | ⟨hwrite, _⟩ := request_cases rt hk call
    · rw [hcall] at hok
      rw [session_answered hok] at hsession
      cases hsession
    · exact hwrite.indexes_new hok hsession hfind

/-- Sessions that do not end stay in the index. -/
theorem SessionsEnd.indexes_iff {userId : Id} (h : SessionsEnd gone s s')
    (hspared : gone sid = false) : s'.Indexes userId sid ↔ s.Indexes userId sid :=
  ⟨h.sub _, fun hindexed => h.kept _ hindexed hspared⟩

variable (rt) in
/-- One event, for a session that it does not end: the index goes on naming it unless the event
takes it out. -/
theorem indexes_step (hk : SessionsKept s) {e : SessionEvent}
    (hfind : s.sessions.find? sid = some user) (hends : ¬e.Ends rt s sid user.id) :
    (e.step rt s).Indexes user.id sid ↔ s.Indexes user.id sid ∧ ¬e.Unindexes sid user.id := by
  have hkeeps : ∀ {s' : AuthStore}, (s'.Indexes user.id sid ↔ s.Indexes user.id sid) →
      (s'.Indexes user.id sid ↔ s.Indexes user.id sid ∧ ¬False) :=
    fun h => h.trans (and_iff_left not_false).symm
  cases e with
  | expire sessionId => exact hkeeps Iff.rfl
  | expireIndex userId =>
    refine List.mem_filter.trans (and_congr_right fun _ => ?_)
    rw [decide_eq_true_eq]
    exact not_congr eq_comm
  | unlist userId sessionId =>
    refine List.mem_filter.trans (and_congr_right fun _ => ?_)
    rw [decide_eq_true_eq, List.mem_singleton]
    exact not_congr (and_congr eq_comm eq_comm)
  | request call =>
    refine hkeeps ?_
    obtain ⟨m, hcall, gone, hend, hexact⟩ | ⟨hwrite, _⟩ := request_cases rt hk call
    · show (SessionController.handle rt call s).2.Indexes user.id sid ↔ _
      rw [hcall, snd_answered]
      refine hend.indexes_iff ?_
      rw [← Bool.not_eq_true]
      exact fun hgone => hends ((hexact sid user hfind).mp hgone)
    · exact hwrite.indexes_iff hfind

variable (rt) in
theorem sessionsKept_step (hk : SessionsKept s) (e : SessionEvent) :
    SessionsKept (e.step rt s) := by
  cases e with
  | expire sessionId =>
    have hend : SessionsEnd (fun sid => sid ∈ [sessionId]) s
        (AuthService.deleteSessions [sessionId] s) :=
      { find? := fun sid => Table.find?_deleteWhere _
        next := rfl
        sub := fun _ h => h
        kept := fun _ h _ => h }
    exact hend.keeps hk fun _ h => h
  | expireIndex userId => exact hk.of_sub rfl rfl fun r hr => (List.mem_filter.mp hr).1
  | unlist userId sessionId => exact hk.of_sub rfl rfl fun r hr => (List.mem_filter.mp hr).1
  | request call =>
    have hknows : ∀ id, s.Knows id → (SessionController.handle rt call s).2.Knows id :=
      fun _ => knows_handle call
    obtain ⟨m, hcall, gone, hend, _⟩ | ⟨hwrite, _⟩ := request_cases rt hk call
    · show SessionsKept (SessionController.handle rt call s).2
      rw [hcall, snd_answered] at hknows ⊢
      exact hend.keeps hk hknows
    · exact hwrite.keeps hk hknows

theorem sessionsKept_empty : SessionsKept AuthStore.empty where
  known _ _ h := by cases h
  owner _ _ _ _ h := by cases h
  issued _ h := by cases h

/-- The accounts and sessions after some events. -/
def SessionEvent.run (rt : Runtime) (events : List SessionEvent) : AuthStore :=
  events.foldl (fun s e => e.step rt s) AuthStore.empty

theorem sessionsKept_run (rt : Runtime) (events : List SessionEvent) :
    SessionsKept (SessionEvent.run rt events) := by
  rw [SessionEvent.run]
  induction events using List.reverseRecOn with
  | nil => exact sessionsKept_empty
  | append_singleton events e ih =>
    rw [List.foldl_append]
    exact sessionsKept_step rt ih e

/-- Some event of a list ends a session of a user. -/
def SessionEvent.Ended (rt : Runtime) (sid : Id) (user : SessionStateSnapshot) :
    List SessionEvent → AuthStore → Prop :=
  Requests.Runs.Ended (SessionEvent.step rt)
    (fun s e (k : Id × SessionStateSnapshot) => e.Ends rt s k.1 k.2.id) (sid, user)

/-- Some event of a list ends a session of a user, or takes it out of the index. -/
def SessionEvent.EndedOrUnindexed (rt : Runtime) (sid : Id) (user : SessionStateSnapshot) :
    List SessionEvent → AuthStore → Prop :=
  Requests.Runs.Ended (SessionEvent.step rt) (fun s e (k : Id × SessionStateSnapshot) =>
    e.Ends rt s k.1 k.2.id ∨ e.Unindexes k.1 k.2.id) (sid, user)

/-- One event, for a session that its index names. -/
theorem indexed_step (hk : SessionsKept s) (e : SessionEvent) :
    ((e.step rt s).sessions.find? sid = some user ∧ (e.step rt s).Indexes user.id sid) ↔
      (s.sessions.find? sid = some user ∧ s.Indexes user.id sid) ∧
          ¬(e.Ends rt s sid user.id ∨ e.Unindexes sid user.id) ∨ e.Opens rt s sid user := by
  rw [find?_step rt hk]
  constructor
  · rintro ⟨⟨hfind, hends⟩ | hopens, hindexed⟩
    · obtain ⟨hindexed, hkept⟩ := (indexes_step rt hk hfind hends).mp hindexed
      exact .inl ⟨⟨hfind, hindexed⟩, not_or.mpr ⟨hends, hkept⟩⟩
    · exact .inr hopens
  · rintro (⟨⟨hfind, hindexed⟩, hnot⟩ | hopens)
    · obtain ⟨hends, hkept⟩ := not_or.mp hnot
      exact ⟨.inl ⟨hfind, hends⟩, (indexes_step rt hk hfind hends).mpr ⟨hindexed, hkept⟩⟩
    · exact ⟨.inr hopens, indexes_of_opens rt hk hopens⟩

/-- After any run of requests, whatever sessions and indexes run out meanwhile, the guard lets a
request through as a user exactly if the session that it shows was handed out to this user in answer
to a request, and nothing has ended it since. The index of a user names a session of it that is
there exactly if nothing has taken the session out of the index since it was handed out. -/
theorem session_accepted_iff (rt : Runtime) (events : List SessionEvent) :
    (∀ http user, (AuthController.authenticated http (SessionEvent.run rt events)).1 = .ok user ↔
      ∃ sid, http.sessionID = some sid ∧ ∃ before e after, events = before ++ e :: after ∧
        e.Opens rt (SessionEvent.run rt before) sid user ∧
        ¬SessionEvent.Ended rt sid user after (e.step rt (SessionEvent.run rt before))) ∧
    ∀ sid user, ((SessionEvent.run rt events).sessions.find? sid = some user ∧
        (SessionEvent.run rt events).Indexes user.id sid) ↔
      ∃ before e after, events = before ++ e :: after ∧
        e.Opens rt (SessionEvent.run rt before) sid user ∧
        ¬SessionEvent.EndedOrUnindexed rt sid user after
          (e.step rt (SessionEvent.run rt before)) := by
  have hempty : ∀ sid user, AuthStore.empty.sessions.find? sid ≠ some user := by
    intro sid user h
    cases h
  constructor
  · intro http user
    rw [authenticated_ok_iff (sessionsKept_run rt events)]
    refine exists_congr fun sid => and_congr_right fun _ => ?_
    have hmarked := Requests.Runs.marked_iff
      (fun (s : AuthStore) (k : Id × SessionStateSnapshot) => s.sessions.find? k.1 = some k.2)
      events (sid, user)
      (fun s e hk => sessionsKept_step rt hk e) (fun s e k hk => find?_step rt hk e)
      sessionsKept_empty
    exact hmarked.trans (or_iff_right fun h => hempty sid user h.1)
  · intro sid user
    have hmarked := Requests.Runs.marked_iff
      (fun (s : AuthStore) (k : Id × SessionStateSnapshot) =>
        s.sessions.find? k.1 = some k.2 ∧ s.Indexes k.2.id k.1) events (sid, user)
      (fun s e hk => sessionsKept_step rt hk e) (fun s e k hk => indexed_step hk e)
      sessionsKept_empty
    exact hmarked.trans (or_iff_right fun h => hempty sid user h.1.1)

end Runs

end Invetrixa
