import Invetrixa.Auth.Sessions
import Invetrixa.Correctness.AccountRuns
import Invetrixa.Correctness.DeviceTrust

/-!
# What requests write of the sessions

Requests about accounts and about the second factor leave the sessions as they are, or they begin
one, in the place of the one that the request shows. Only the end of a reset of the password is
another matter.

## Main definitions

- `SessionWrite` — what such a request writes of the sessions
- `AuthStore.Knows` — there is an account of an id

## Main results

- `sessionWrite_account` — every request about accounts is one, but for the end of a reset
-/

namespace Invetrixa

open Rowstore Requests

/-- The sessions, and the index that says whose they are. -/
structure SessionTables where
  sessions : Serial SessionStateSnapshot
  index : List (Id × Id)

def AuthStore.sessionTables (s : AuthStore) : SessionTables := ⟨s.sessions, s.sessionIndex⟩

/-- A new session of a user, in the index, in the place of another. -/
def SessionTables.opened (t : SessionTables) (replaced : Option Id) (user : SessionStateSnapshot) :
    SessionTables where
  sessions := (t.sessions.deleteWhere fun sid _ => replaced = some sid).create user
  index :=
    if (user.id, t.sessions.next) ∈ t.index then t.index
    else t.index ++ [(user.id, t.sessions.next)]

/-- There is an account of the id. -/
def AuthStore.Knows (s : AuthStore) (id : Id) : Prop := (s.users.find? id).isSome

/-- What a request other than those that end sessions does: nothing to the sessions, or it begins
one and says so in its answer. -/
inductive SessionWrite (http : HttpRequest) (s : AuthStore) :
    Except HttpError AuthReply × AuthStore → Prop
  | kept {answer : Except HttpError AuthReply} {s' : AuthStore}
    (htables : s'.sessionTables = s.sessionTables)
    (hreply : ∀ reply, answer = .ok reply → reply.session = none) : SessionWrite http s (answer, s')
  | opened {reply : AuthReply} {s' : AuthStore} (user : SessionStateSnapshot)
    (htables : s'.sessionTables = s.sessionTables.opened http.sessionID user)
    (hknown : s'.Knows user.id) (hreply : reply.session = some s.sessions.next) :
    SessionWrite http s (.ok reply, s')

section Frames

theorem factorsLeave_sessionTables : FactorsLeave AuthStore.sessionTables where
  user _ _ _ _ := rfl
  device _ _ _ _ := rfl
  codes _ _ _ := rfl
  devices _ _ := rfl

/-- Accounts do not go. -/
theorem knows_modifyUser (s : AuthStore) (userId id : Id) (f : User → User) :
    (s.modifyUser userId f).Knows id = s.Knows id := by
  rw [AuthStore.Knows, AuthStore.users_modifyUser, Serial.isSome_find?_modify]
  rfl

theorem factorsLeave_knows (id : Id) : FactorsLeave fun s : AuthStore => s.Knows id where
  user s userId f _ := knows_modifyUser s userId id f
  device _ _ _ _ := rfl
  codes _ _ _ := rfl
  devices _ _ := rfl

theorem signInsLeave_knows (id : Id) : SignInsLeave fun s : AuthStore => s.Knows id where
  toChecksLeave := (factorsLeave_knows id).toChecksLeave
  sessions _ _ _ := rfl

/-- What keeps the accounts keeps the one that an answer is about. -/
theorem ensures_knows {α : Type} {m : AuthHandler α} {id : Id}
    (h : Handler.Keeps (fun s : AuthStore => s.Knows id) m) :
    Handler.Ensures (fun s => s.Knows id) m (fun _ s => s.Knows id) fun _ => True := by
  intro s hs
  refine ⟨fun a s' heq => ?_, fun _ _ _ => trivial⟩
  have hkept : (m s).2.Knows id = s.Knows id := h s
  rw [heq] at hkept
  exact cast hkept.symm hs

end Frames

/-! ### The accounts that answers are about -/

section Known

variable {rt : Runtime} {http : HttpRequest} {entropy : Entropy}

theorem knows_of_findById {s : AuthStore} {id : Id} {user : UserWithPreferences}
    (h : s.findById id = some user) : s.Knows user.id := by
  obtain ⟨hrow, huser⟩ := AuthStore.findById_eq_some h
  rw [huser]
  exact Option.isSome_iff_exists.mpr ⟨user.row, hrow⟩

theorem update_knows (id : Id) (f : User → User) :
    Handler.Ensures (fun _ => True) (UsersService.update id f) (fun user s => s.Knows user.id)
      fun _ => True :=
  UsersService.update_ensures (fun _ _ _ h => knows_of_findById h) fun _ _ _ => trivial

theorem loadUserOrThrow_knows (userId : Id) :
    Handler.Ensures (fun _ => True) (AuthService.loadUserOrThrow userId)
      (fun user s => s.Knows user.id) fun _ => True :=
  (ensures_loadUserOrThrow (P := True) userId).consequence (fun _ h => h)
    (fun _ _ h => knows_of_findById h.2.2) fun _ h => h

theorem maybeRememberDevice_knows (userId id : Id) (rememberDevice : Option Bool)
    (deviceLabel : Option String) : Handler.Ensures (fun s => s.Knows id)
      (AuthService.maybeRememberDevice rt http entropy userId rememberDevice deviceLabel)
      (fun _ s => s.Knows id) fun _ => True :=
  ensures_knows ((factorsLeave_knows id).maybeRememberDevice _ _ _)

theorem verifyTwoFactor_knows (userId : Id) (dto : VerifyTwoFactorDto) :
    Handler.Ensures (fun _ => True) (AuthService.verifyTwoFactor rt http entropy userId dto)
      (fun p s => s.Knows p.1.id) fun _ => True := by
  refine Handler.Ensures.bind (ensures_true _) fun user => ?_
  refine Handler.Ensures.bind (ensures_true _) fun verified => ?_
  split
  · refine Handler.Ensures.bind (ensures_true _) fun _ => ?_
    refine Handler.Ensures.bind (loadUserOrThrow_knows user.id) fun refreshed => ?_
    refine Handler.Ensures.bind (maybeRememberDevice_knows _ refreshed.id _ _) fun cookie => ?_
    exact Handler.Ensures.pure _ fun _ h => h
  · exact Handler.Ensures.refuse _ fun _ h => h

theorem enableMethod_knows (user : UserWithPreferences) (dto : EnableTwoFactorDto) :
    Handler.Ensures (fun _ => True) (AuthService.enableMethod rt http user dto)
      (fun updatedUser s => s.Knows updatedUser.id) fun _ => True := by
  rw [AuthService.enableMethod]
  split
  · rw [MfaService.enableTotp]
    split
    · exact Handler.Ensures.refuse _ fun _ h => h
    · split
      · exact Handler.Ensures.refuse _ fun _ h => h
      · exact update_knows _ _
  · refine Handler.Ensures.bind (ensures_true _) fun verified => ?_
    split
    · exact update_knows _ _
    · exact Handler.Ensures.refuse _ fun _ h => h
  · exact Handler.Ensures.refuse _ fun _ h => h

theorem enableTwoFactor_knows (userId : Id) (dto : EnableTwoFactorDto) :
    Handler.Ensures (fun _ => True) (AuthService.enableTwoFactor rt http entropy userId dto)
      (fun p s => s.Knows p.1.id) fun _ => True := by
  refine Handler.Ensures.bind (ensures_true _) fun user => ?_
  refine Handler.Ensures.bind (enableMethod_knows user dto) fun updated => ?_
  refine Handler.Ensures.bind (maybeRememberDevice_knows _ updated.id _ _) fun cookie => ?_
  exact Handler.Ensures.pure _ fun _ h => h

theorem disableTwoFactor_knows (userId : Id) (dto : DisableTwoFactorDto) :
    Handler.Ensures (fun _ => True) (AuthService.disableTwoFactor rt http userId dto)
      (fun user s => s.Knows user.id) fun _ => True := by
  refine Handler.Ensures.bind (ensures_true _) fun user => ?_
  refine Handler.Ensures.bind (ensures_true _) fun _ => ?_
  refine Handler.Ensures.bind (ensures_true _) fun _ => ?_
  refine Handler.Ensures.bind (loadUserOrThrow_knows user.id) fun updated => ?_
  exact Handler.Ensures.pure _ fun _ h => h

theorem enforce_knows (userId : Id) (dto : EnforceTwoFactorDto) :
    Handler.Ensures (fun _ => True) (AuthService.enforceTwoFactorForCurrentUser http userId dto)
      (fun user s => s.Knows user.id) fun _ => True :=
  (update_knows _ _).bind fun _ => Handler.Ensures.pure _ fun _ h => h

theorem loginSession_knows (user : UserWithPreferences) :
    Handler.Ensures (fun s => s.Knows user.id) (AuthService.loginSession rt http user)
      (fun snapshot s => s.Knows snapshot.id) fun _ => True := by
  simp only [AuthService.loginSession]
  split
  · refine Handler.Ensures.bind (ensures_knows
      ((factorsLeave_knows user.id).updateTrustedDevice ?_ _)) fun _ => ?_
    · exact fun _ => rfl
    · exact Handler.Ensures.pure _ fun _ h => h
  · exact Handler.Ensures.pure _ fun _ h => h

theorem validateUser_knows (email password : String) :
    Handler.Ensures (fun _ => True) (AuthService.validateUser rt http email password)
      (fun user s => s.Knows user.id) fun _ => True := by
  refine Handler.Ensures.bind (Q := fun user s => s.Knows user.id) ?_ fun user => ?_
  · apply Handler.Ensures.read
    · intro s user _ h
      obtain ⟨hfound, _⟩ := AuthService.readLogin_ok h
      exact Option.isSome_iff_exists.mpr ⟨user.row, (AuthStore.findByEmail_eq_some hfound).1⟩
    · exact fun _ _ _ _ => trivial
  · split
    · refine Handler.Ensures.bind (ensures_knows ((factorsLeave_knows user.id).update ?_ user.id))
        fun _ => loginSession_knows user
      exact fun _ => rfl
    · exact (ensures_true _).bind fun _ => Handler.Ensures.refuse _ fun _ _ => trivial

end Known

/-! ### Requests that begin sessions -/

section Writes

variable {rt : Runtime} {http : HttpRequest} {entropy : Entropy} {s s₁ : AuthStore}

/-- What a request writes of the sessions depends on no other table. -/
theorem SessionWrite.congr {r : Except HttpError AuthReply × AuthStore}
    (h : SessionWrite http s₁ r) (htables : s₁.sessionTables = s.sessionTables) :
    SessionWrite http s r := by
  have hsessions : s₁.sessions = s.sessions := congrArg SessionTables.sessions htables
  cases h with
  | kept hkept hreply => exact .kept (hkept.trans htables) hreply
  | opened user hopened hknown hreply =>
    rw [htables] at hopened
    rw [hsessions] at hreply
    exact .opened user hopened hknown hreply

/-- A handler that leaves the sessions comes first. -/
theorem SessionWrite.bind {α : Type} {m : AuthHandler α} {f : α → AuthHandler AuthReply}
    (hm : Handler.Keeps AuthStore.sessionTables m)
    (hf : ∀ a s₁, m s = (.ok a, s₁) → SessionWrite http s₁ (f a s₁)) :
    SessionWrite http s ((m >>= f) s) := by
  have hkept := hm s
  simp only [Bind.bind]
  cases hms : m s with
  | mk r s₁ =>
    rw [hms] at hkept
    cases r with
    | ok a => exact (hf a s₁ hms).congr hkept
    | error e =>
      refine .kept hkept fun reply h => ?_
      cases h

theorem sessionTables_registerSessionInCache (userId sid : Id) (s : AuthStore) :
    (AuthService.registerSessionInCache userId sid s).sessionTables =
      ⟨s.sessions, if (userId, sid) ∈ s.sessionIndex then s.sessionIndex
        else s.sessionIndex ++ [(userId, sid)]⟩ := by
  rw [AuthService.registerSessionInCache]
  split
  · next h => simp [AuthStore.sessionTables]
  · next h => simp [AuthStore.sessionTables]

theorem users_registerSessionInCache (userId sid : Id) (s : AuthStore) :
    (AuthService.registerSessionInCache userId sid s).users = s.users := by
  rw [AuthService.registerSessionInCache]
  split
  · rfl
  · rfl

/-- A new session for the request. -/
theorem persistSession_ok (http : HttpRequest) (user : SessionStateSnapshot) (s : AuthStore) :
    ∃ s', AuthController.persistSession http user s = (.ok s.sessions.next, s') ∧
      s'.sessionTables = s.sessionTables.opened http.sessionID user ∧ s'.users = s.users :=
  ⟨_, rfl, sessionTables_registerSessionInCache _ _ _, users_registerSessionInCache _ _ _⟩

theorem sessionWrite_withNewSession {user : SessionStateSnapshot} (cookie : Option String)
    (hknown : s.Knows user.id) :
    SessionWrite http s (AuthController.withNewSession http user cookie s) := by
  obtain ⟨s', hpersist, htables, husers⟩ := persistSession_ok http user s
  have hthere : s'.Knows user.id := by
    rw [AuthStore.Knows, husers]
    exact hknown
  have happly : AuthController.withNewSession http user cookie s = (.ok
      { session := some s.sessions.next, deviceCookie := cookie, user := some user }, s') := by
    simp only [AuthController.withNewSession, Bind.bind, hpersist]
    rfl
  rw [happly]
  exact .opened user htables hthere rfl

theorem sessionWrite_login (email password : String) :
    SessionWrite http s (AuthController.login rt http email password s) := by
  apply SessionWrite.bind (factorsLeave_sessionTables.validateUser email password)
  intro user s₁ hvalidate
  have hknown : s₁.Knows user.id :=
    (validateUser_knows email password s trivial).1 user s₁ hvalidate
  obtain ⟨s', hpersist, htables, husers⟩ := persistSession_ok http user s₁
  have hthere : s'.Knows user.id := by
    rw [AuthStore.Knows, husers]
    exact hknown
  -- the account that has signed in is loaded once more
  obtain ⟨row, hrow⟩ := Option.isSome_iff_exists.mp hthere
  have happly : (do
      let sid ← AuthController.persistSession http user
      let _ ← AuthService.loadUserOrThrow user.id
      return { session := some sid, user := some user } : AuthHandler AuthReply) s₁ =
        (.ok { session := some s₁.sessions.next, user := some user }, s') := by
    simp only [Bind.bind, hpersist, AuthService.loadUserOrThrow, Handler.read, AuthStore.findById,
      hrow, Option.map_some]
    rfl
  rw [happly]
  exact .opened user htables hthere rfl

/-- An account changes its second factor and gets a new session. -/
theorem sessionWrite_renewed {α : Type} {m : AuthHandler α} {user : α → SessionStateSnapshot}
    {cookie : α → Option String} (hm : Handler.Keeps AuthStore.sessionTables m)
    (hknown : Handler.Ensures (fun _ => True) m (fun a s => s.Knows (user a).id) fun _ => True) :
    SessionWrite http s
      ((m >>= fun a => AuthController.withNewSession http (user a) (cookie a)) s) := by
  apply SessionWrite.bind hm
  intro a s₁ heq
  exact sessionWrite_withNewSession _ ((hknown s trivial).1 a s₁ heq)

/-- An answer that is only secrets, or nothing. -/
theorem sessionWrite_secrets {α : Type} {m : AuthHandler α} {secrets : α → List String}
    (hm : Handler.Keeps AuthStore.sessionTables m) :
    SessionWrite http s ((do
      let a ← m
      return { secrets := secrets a } : AuthHandler AuthReply) s) := by
  apply SessionWrite.bind hm
  intro a s₁ _
  refine .kept rfl fun reply h => ?_
  cases h
  rfl

/-- The user of a request, if it is still there, gets a new session. -/
theorem sessionWrite_refreshed (user : SessionStateSnapshot) (answer : Option Id → AuthReply)
    (hanswer : ∀ session, (answer session).session = session) :
    SessionWrite http s ((do
      match ← Handler.read fun s => .ok (AuthService.deserializeUser user s) with
      | some refreshed =>
        let sid ← AuthController.persistSession http refreshed
        return answer (some sid)
      | none => return answer none : AuthHandler AuthReply) s) := by
  simp only [Bind.bind, Handler.read]
  cases hload : AuthService.deserializeUser user s with
  | none =>
    refine .kept rfl fun reply h => ?_
    cases h
    exact hanswer none
  | some refreshed =>
    have hknown : s.Knows refreshed.id := by
      obtain ⟨row, hrow, rfl⟩ := Option.map_eq_some_iff.mp hload
      exact Option.isSome_iff_exists.mpr ⟨row, hrow⟩
    obtain ⟨s', hpersist, htables, husers⟩ := persistSession_ok http refreshed s
    have hthere : s'.Knows refreshed.id := by
      rw [AuthStore.Knows, husers]
      exact hknown
    simp only [hpersist]
    exact .opened refreshed htables hthere (hanswer _)

theorem sessionWrite_adminEnforce (user : SessionStateSnapshot) (dto : AdminEnforceTwoFactorDto) :
    SessionWrite http s (AuthController.adminEnforceTwoFactor http user dto s) := by
  apply SessionWrite.bind (factorsLeave_sessionTables.enforce dto.userId dto.enforced)
  intro response s₁ _
  split
  · exact sessionWrite_refreshed user (fun session => { session, user := some response })
      fun _ => rfl
  · refine .kept rfl fun reply h => ?_
    cases h
    rfl

theorem sessionWrite_renewSession (service : Except HttpError PUnit) :
    SessionWrite http s (AuthController.renewSession http service s) := by
  apply SessionWrite.bind (Handler.Keeps.read _)
  intro user s₁ _
  apply SessionWrite.bind (Handler.Keeps.read _)
  intro _ s₂ _
  exact sessionWrite_refreshed user (fun session => { session }) fun _ => rfl

theorem sessionWrite_serve (user : SessionStateSnapshot) (request : TwoFactorRequest) :
    SessionWrite http s (AuthController.serve rt http entropy user request s) := by
  have hv := factorsLeave_sessionTables
  cases request with
  | initiateTotpSetup => exact sessionWrite_secrets (hv.initiateTotpSetup user.id)
  | sendChallenge dto => exact sessionWrite_secrets (hv.sendTwoFactorChallenge user.id dto)
  | verifyTwoFactor dto =>
    exact sessionWrite_renewed (hv.verifyTwoFactor user.id dto) (verifyTwoFactor_knows user.id dto)
  | enableTwoFactor dto =>
    exact sessionWrite_renewed (hv.enableTwoFactor user.id dto) (enableTwoFactor_knows user.id dto)
  | disableTwoFactor dto =>
    exact sessionWrite_renewed (hv.disableTwoFactor user.id dto)
      (disableTwoFactor_knows user.id dto)
  | generateBackupCodes => exact sessionWrite_secrets (hv.newBackupCodes user.id)
  | enforceTwoFactor dto =>
    exact sessionWrite_renewed (hv.enforce user.id dto.enforced) (enforce_knows user.id dto)
  | adminEnforceTwoFactor dto => exact sessionWrite_adminEnforce user dto

theorem sessionWrite_auth (request : AuthRequest) :
    SessionWrite http s (AuthController.handle rt http entropy request s) := by
  cases request with
  | login email password => exact sessionWrite_login email password
  | twoFactor request =>
    apply SessionWrite.bind (Handler.Keeps.read _)
    exact fun user s₁ _ => sessionWrite_serve user request

theorem keeps_createVerificationToken {ν : Type*} {v : AuthStore → ν}
    (hv : ∀ s tokens, v { s with verificationTokens := tokens } = v s) (now userId : ℕ)
    (type : VerificationTokenType) (token : String) (ttlMinutes : ℕ) :
    Handler.Keeps v (AuthService.createVerificationToken now userId type token ttlMinutes) := by
  intro s
  obtain ⟨e, h⟩ | ⟨h, _⟩ := createVerificationToken_cases now userId type token ttlMinutes s
  · rw [h]
  · rw [h]
    exact hv s _

/-- A request for a token, and the token that is mailed for it. -/
theorem keeps_mailed {ν : Type*} {v : AuthStore → ν}
    (hv : ∀ s tokens, v { s with verificationTokens := tokens } = v s) (now : ℕ) (token : String)
    (email : String) :
    Handler.Keeps v (AuthService.resendEmailVerification rt now token email) ∧
      Handler.Keeps v (AuthService.requestPasswordReset rt now token email) := by
  constructor
  all_goals
    apply Handler.Keeps.bind (Handler.Keeps.read _)
    intro found
    split
    · split
      · apply Handler.Keeps.pure
      · apply keeps_createVerificationToken hv
    · apply Handler.Keeps.pure

theorem keeps_verifyEmail {ν : Type*} {v : AuthStore → ν}
    (hv : ∀ s tokens, v { s with verificationTokens := tokens } = v s)
    (huser : ∀ s id f, v (s.modifyUser id f) = v s) (now : ℕ) (token : String) :
    Handler.Keeps v (AuthService.verifyEmail now token) := by
  apply Handler.Keeps.bind (Handler.Keeps.read _)
  intro record
  apply Handler.Keeps.atomically
  intro s a s' h
  rw [AuthService.useToken] at h
  obtain ⟨_, h⟩ := Except.ite_error_eq_ok_iff.mp h
  cases h
  exact (hv _ _).trans (huser s _ _)

theorem register_keeps (now : ℕ) (token : String) (dto : RegisterDto) :
    Handler.Keeps AuthStore.sessionTables
      (AuthService.register rt now token entropy dto) := by
  intro s
  obtain ⟨e, h⟩ | ⟨user, _, _, ⟨e, h⟩ | ⟨expiresAt, snapshot, h, _⟩⟩ :=
    register_cases rt now token entropy dto s
  · rw [h]
  · rw [h]
    rfl
  · rw [h]
    rfl

theorem register_knows (now : ℕ) (token : String) (dto : RegisterDto) :
    Handler.Ensures (fun _ => True) (AuthService.register rt now token entropy dto)
      (fun user s => s.Knows user.id) fun _ => True := by
  refine Handler.Ensures.bind (ensures_true _) fun _ => ?_
  refine Handler.Ensures.bind (Q := fun id s => s.Knows id) ?_ fun id => ?_
  · apply Handler.Ensures.atomically
    · intro s id s' _ h
      obtain ⟨_, h⟩ := Except.ite_error_eq_ok_iff.mp h
      cases h
      rw [AuthStore.Knows]
      exact Option.isSome_iff_exists.mpr ⟨_, (Serial.find?_create _).trans (if_pos rfl)⟩
    · exact fun _ _ _ _ => trivial
  · refine Handler.Ensures.bind (ensures_knows (keeps_createVerificationToken ?_ _ _ _ _ _))
      fun _ => Handler.Ensures.pure _ fun _ h => h
    exact fun _ _ => rfl

/-- A request that is not the end of a reset. -/
theorem sessionWrite_account {request : AccountRequest} (token : String)
    (hrequest : ∀ token password, request ≠ .confirmPasswordReset token password) :
    SessionWrite http s (AccountController.handle rt ⟨http, entropy, token, request⟩ s) := by
  have hempty : ∀ {m : AuthHandler PUnit}, Handler.Keeps AuthStore.sessionTables m →
      SessionWrite http s ((do m; return {} : AuthHandler AuthReply) s) := by
    intro m hm
    apply SessionWrite.bind hm
    intro a s₁ _
    refine .kept rfl fun reply h => ?_
    cases h
    rfl
  cases request with
  | register dto =>
    exact sessionWrite_renewed (register_keeps http.now token dto)
      (register_knows http.now token dto)
  | resendEmailVerification email =>
    exact hempty (keeps_mailed (fun _ _ => rfl) http.now token email).1
  | requestPasswordReset email =>
    exact hempty (keeps_mailed (fun _ _ => rfl) http.now token email).2
  | verifyEmail text =>
    exact hempty (keeps_verifyEmail (fun _ _ => rfl) (fun _ _ _ => rfl) http.now text)
  | confirmPasswordReset token password => exact absurd rfl (hrequest token password)
  | auth request => exact sessionWrite_auth request

end Writes

end Invetrixa
