import Invetrixa.Correctness.Recovery
import Invetrixa.Correctness.OneTimeSecrets

/-!
# Runs of the accounts

Every request to the endpoints of accounts and sessions is one or two of the writes that keep the
credentials and the history of the tokens together, or none.

## Main results

- `token_accepted_iff` — a token is accepted by the endpoint of its type exactly if it was issued
  last for a user, has not been accepted since and has not expired
- `credentials_follow_tokens` — what the accounts say is what the accepted tokens have made of them
-/

namespace Invetrixa

open Rowstore Requests

section Requests

variable {rt : Runtime} {s s' : AuthStore} {now : ℕ}

/-- Without a change to the tokens none was issued. -/
theorem issuedEvents_of_find? (h : s'.verificationTokens.find? s.verificationTokens.next = none) :
    issuedEvents s s' = [] := by
  rw [issuedEvents, h]

theorem issuedEvents_of_eq (h : s'.verificationTokens = s.verificationTokens) :
    issuedEvents s s' = [] := by
  apply issuedEvents_of_find?
  rw [h, Serial.find?_next]

theorem issuedEvents_congr {s'' : AuthStore} (h : s'.credentials = s''.credentials) :
    issuedEvents s s' = issuedEvents s s'' := by
  have htokens : s'.verificationTokens = s''.verificationTokens :=
    congrArg Recoverable.verificationTokens h
  rw [issuedEvents, issuedEvents, htokens]

theorem createVerificationToken_cases (now userId : ℕ) (type : VerificationTokenType)
    (token : String) (ttlMinutes : ℕ) (s : AuthStore) :
    (∃ e, AuthService.createVerificationToken now userId type token ttlMinutes s = (.error e, s)) ∨
      (AuthService.createVerificationToken now userId type token ttlMinutes s =
          (.ok ⟨⟩, AuthService.issueToken now userId type token (addMinutes now ttlMinutes) s) ∧
        (∀ id r, s.verificationTokens.find? id = some r → r.token ≠ token) ∧
        (s.users.find? userId).isSome) := by
  rw [AuthService.createVerificationToken, Handler.atomically]
  by_cases hclash : (s.verificationTokens.rows.any fun r => r.2.token = token) = true
  · exact .inl ⟨_, transaction_of_error (if_pos hclash)⟩
  · by_cases huser : (s.users.find? userId).isNone = true
    · refine .inl ⟨invalidReference, transaction_of_error ?_⟩
      rw [if_neg hclash, if_pos huser]
    · refine .inr ⟨transaction_of_ok ?_, fun id r hr htoken => hclash ?_, ?_⟩
      · rw [if_neg hclash, if_neg huser]
      · exact List.any_eq_true.mpr ⟨(id, r), Table.mem_rows_of_find? hr, decide_eq_true htoken⟩
      · rw [← Option.not_isNone, Bool.not_eq_true', ← Bool.not_eq_true]
        exact huser

/-- A new token, as it is seen. -/
theorem changes_issueToken (rt : Runtime) (now : ℕ) {userId : ℕ} (type : VerificationTokenType)
    {token : String} (expiresAt : ℕ)
    (hfresh : ∀ id r, s.verificationTokens.find? id = some r → r.token ≠ token)
    (huser : (s.users.find? userId).isSome) :
    issuedEvents s (AuthService.issueToken now userId type token expiresAt s) =
        [.issued (userId, type) ⟨token, expiresAt⟩] ∧
      s.credentials.Change rt [.issued (userId, type) ⟨token, expiresAt⟩] []
        (AuthService.issueToken now userId type token expiresAt s).credentials := by
  constructor
  · have hcreated := Serial.find?_create (t := s.verificationTokens.modifyWhere
      (fun _ r => r.userId = userId ∧ r.type = type ∧ r.used = false)
      (fun r => { r with used := true, usedAt := some now })) (k := s.verificationTokens.next)
      { userId, token, type, expiresAt, used := false, usedAt := none }
    have hfind : (AuthService.issueToken now userId type token expiresAt s).verificationTokens.find?
        s.verificationTokens.next = some ⟨userId, token, type, expiresAt, false, none⟩ :=
      hcreated.trans (if_pos rfl)
    rw [issuedEvents, hfind]
    rfl
  · apply Recoverable.Change.issued
    · exact hfresh
    · rw [AuthStore.credentials, Serial.toTable_map, Table.find?_map, Option.isSome_map]
      exact huser

/-- A text finds the one token that has it. -/
theorem rows_find?_token (hunique : ∀ id r id' r', s.verificationTokens.find? id = some r →
      s.verificationTokens.find? id' = some r' → r.token = r'.token → id = id')
    {token : String} {id : Id} {r : VerificationToken}
    (hfind : s.verificationTokens.find? id = some r) (htoken : r.token = token) :
    s.verificationTokens.rows.find? (fun r => r.2.token = token) = some (id, r) := by
  cases hrow : s.verificationTokens.rows.find? fun r => r.2.token = token with
  | none =>
    have hnone := List.find?_eq_none.mp hrow (id, r) (Table.mem_rows_of_find? hfind)
    simp [htoken] at hnone
  | some row =>
    have hmem := Table.find?_of_mem_rows (List.mem_of_find?_eq_some hrow)
    have htext : row.2.token = token := by simpa using List.find?_some hrow
    have hid := hunique row.1 row.2 id r hmem hfind (htext.trans htoken.symm)
    rw [hid, hfind] at hmem
    exact congrArg some (Prod.ext hid (Option.some.inj hmem).symm)

/-- A token is read exactly if it is there, for its endpoint, unused and not expired. -/
theorem readToken_eq_ok_iff (hunique : ∀ id r id' r', s.verificationTokens.find? id = some r →
      s.verificationTokens.find? id' = some r' → r.token = r'.token → id = id')
    (now : ℕ) (type : VerificationTokenType) (message token : String) (id : Id)
    (r : VerificationToken) : AuthService.readToken type message now token s = .ok (id, r) ↔
      s.verificationTokens.find? id = some r ∧ r.token = token ∧ r.type = type ∧
        r.used = false ∧ now ≤ r.expiresAt := by
  constructor
  · intro h
    obtain ⟨hfind, htoken, hused⟩ := AuthService.readToken_ok h
    rw [AuthService.readToken] at h
    split at h
    · cases h
    · obtain ⟨hnot, h⟩ := Except.ite_error_eq_ok_iff.mp h
      obtain rfl := Except.ok.inj h
      refine ⟨hfind, htoken, ?_, hused, ?_⟩
      · by_contra htype
        exact hnot (.inl htype)
      · by_contra hexpired
        exact hnot (.inr (.inr (Nat.lt_of_not_le hexpired)))
  · rintro ⟨hfind, htoken, htype, hused, hexpires⟩
    rw [AuthService.readToken, rows_find?_token hunique hfind htoken]
    dsimp only
    rw [if_neg]
    rintro (hne | hused' | hexpired)
    · exact hne htype
    · rw [hused] at hused'
      cases hused'
    · omega

/-- The accounts with a new one. -/
def withAccount (user : User) (s : AuthStore) : AuthStore :=
  { s with
    users := s.users.create user
    passwordHistory := s.passwordHistory.create ⟨s.users.next, user.password⟩ }

theorem createUser_cases (user : User) (s : AuthStore) :
    (∃ e, UsersService.create user s = (.error e, s)) ∨
      (UsersService.create user s = (.ok s.users.next, withAccount user s) ∧
        ∀ id row, s.users.find? id = some row → row.email ≠ user.email) := by
  rw [UsersService.create, Handler.atomically]
  by_cases hclash : (s.users.rows.any fun r => r.2.email = user.email) = true
  · exact .inl ⟨_, transaction_of_error (if_pos hclash)⟩
  · refine .inr ⟨transaction_of_ok (if_neg hclash), fun id row hrow hemail => hclash ?_⟩
    exact List.any_eq_true.mpr ⟨(id, row), Table.mem_rows_of_find? hrow, decide_eq_true hemail⟩

/-- A registration is refused, or makes an account, and then maybe a token for it. -/
theorem register_cases (rt : Runtime) (now : ℕ) (token : String) (entropy : Entropy)
    (dto : RegisterDto) (s : AuthStore) :
    (∃ e, AuthService.register rt now token entropy dto s = (.error e, s)) ∨
      ∃ user : User, user.credentials = ⟨rt.toLowerCase (trim dto.email),
          rt.argonHash dto.password (entropy.salt 0), none, true, 0⟩ ∧
        (∀ id row, s.users.find? id = some row → row.email ≠ user.email) ∧
        ((∃ e, AuthService.register rt now token entropy dto s = (.error e, withAccount user s)) ∨
          ∃ expiresAt snapshot, AuthService.register rt now token entropy dto s =
              (.ok snapshot, AuthService.issueToken now s.users.next .emailVerification token
                expiresAt (withAccount user s)) ∧
            ∀ id r, s.verificationTokens.find? id = some r → r.token ≠ token) := by
  let user := AuthService.newUser now (rt.toLowerCase (trim dto.email))
    (rt.argonHash dto.password (entropy.salt 0)) (truthy ((truthy dto.phoneNumber).map trim))
  by_cases hknown : (s.findByEmail (rt.toLowerCase (trim dto.email))).isSome = true
  · left
    simp [AuthService.register, bind, Handler.read, hknown]
  · obtain ⟨e, hcreate⟩ | ⟨hcreate, hfresh⟩ := createUser_cases user s
    · left
      exact ⟨e, by simp [AuthService.register, bind, Handler.read, hknown, user, hcreate]⟩
    · refine .inr ⟨user, rfl, hfresh, ?_⟩
      obtain ⟨e, htoken⟩ | ⟨htoken, hnew, _⟩ := createVerificationToken_cases now s.users.next
        .emailVerification token EMAIL_VERIFICATION_TOKEN_TTL_MINUTES (withAccount user s)
      · left
        exact ⟨e, by simp [AuthService.register, bind, Handler.read, hknown, user, hcreate, htoken]⟩
      · right
        refine ⟨addMinutes now EMAIL_VERIFICATION_TOKEN_TTL_MINUTES,
          buildSessionUser s.users.next ⟨none, none⟩, ?_, hnew⟩
        simp [AuthService.register, bind, Handler.read, hknown, user, hcreate, htoken]
        rfl

/-- A request for a token either mails none or adds one for an account that is there. -/
theorem mailed_cases (p : UserWithPreferences → Prop) [DecidablePred p]
    (type : VerificationTokenType) (email token : String) (ttlMinutes : ℕ) (s : AuthStore) :
    (∃ answer, (do
      match ← (Handler.read fun s => .ok (s.findByEmail email) : AuthHandler _) with
      | some user =>
        if p user then return ⟨⟩
        else AuthService.createVerificationToken now user.id type token ttlMinutes
      | none => return ⟨⟩ : AuthHandler PUnit) s = (answer, s)) ∨
    ∃ userId, (do
      match ← (Handler.read fun s => .ok (s.findByEmail email) : AuthHandler _) with
      | some user =>
        if p user then return ⟨⟩
        else AuthService.createVerificationToken now user.id type token ttlMinutes
      | none => return ⟨⟩ : AuthHandler PUnit) s =
        (.ok ⟨⟩, AuthService.issueToken now userId type token (addMinutes now ttlMinutes) s) ∧
      (∀ id r, s.verificationTokens.find? id = some r → r.token ≠ token) ∧
      (s.users.find? userId).isSome := by
  simp only [bind, Handler.read]
  cases s.findByEmail email with
  | none => exact .inl ⟨_, rfl⟩
  | some user =>
    dsimp only
    split
    · exact .inl ⟨_, rfl⟩
    · obtain ⟨e, h⟩ | h := createVerificationToken_cases now user.id type token ttlMinutes s
      · exact .inl ⟨_, h⟩
      · exact .inr ⟨user.id, h⟩

/-- An unused token of a type that is presented in time. -/
def Presentable (s : AuthStore) (type : VerificationTokenType) (now : ℕ) (token : String) (id : Id)
    (r : VerificationToken) : Prop :=
  s.verificationTokens.find? id = some r ∧ r.token = token ∧ r.type = type ∧ r.used = false ∧
    now ≤ r.expiresAt

variable {history : List TokenEvent} {chosen : List (Id × String)} {type : VerificationTokenType}
  {token : String} {id : Id} {r : VerificationToken}

/-- The owner of a token is there. -/
theorem isSome_owner (hk : RecoveryKept rt s.credentials history chosen)
    (h : Presentable s type now token id r) : (s.users.find? r.userId).isSome := by
  have howner := hk.owned id r h.1
  rwa [AuthStore.credentials, Serial.toTable_map, Table.find?_map, Option.isSome_map] at howner

theorem readToken_cases (hk : RecoveryKept rt s.credentials history chosen) (now : ℕ)
    (type : VerificationTokenType) (message token : String) :
    ((∀ id r, ¬Presentable s type now token id r) ∧
        ∃ e, AuthService.readToken type message now token s = .error e) ∨
      ∃ id r, Presentable s type now token id r ∧
        AuthService.readToken type message now token s = .ok (id, r) := by
  have hiff := readToken_eq_ok_iff hk.tokens.unique now type message token
  cases hread : AuthService.readToken type message now token s with
  | error e =>
    refine .inl ⟨fun id r h => ?_, e, rfl⟩
    have hok := (hiff id r).mpr h
    rw [hread] at hok
    cases hok
  | ok record => exact .inr ⟨record.1, record.2, (hiff record.1 record.2).mp hread, rfl⟩

theorem verifyEmail_cases (hk : RecoveryKept rt s.credentials history chosen) (now : ℕ)
    (token : String) :
    ((∀ id r, ¬Presentable s .emailVerification now token id r) ∧
        ∃ e, AuthService.verifyEmail now token s = (.error e, s)) ∨
      ∃ id r, Presentable s .emailVerification now token id r ∧
        AuthService.verifyEmail now token s = (.ok ⟨⟩, AuthService.markTokenUsed now id
          (s.modifyUser r.userId fun row => { row with emailVerified := some now })) := by
  obtain ⟨hnone, e, hread⟩ | ⟨id, r, h, hread⟩ := readToken_cases hk now .emailVerification
    "Invalid or expired verification token." token
  · refine .inl ⟨hnone, e, ?_⟩
    simp [AuthService.verifyEmail, AuthService.readVerifyEmail, bind, Handler.read, hread]
  · refine .inr ⟨id, r, h, ?_⟩
    have hlive : (s.users.find? r.userId).isSome ∧ (s.verificationTokens.find? id).isSome :=
      ⟨isSome_owner hk h, Option.isSome_iff_exists.mpr ⟨r, h.1⟩⟩
    simp [AuthService.verifyEmail, AuthService.readVerifyEmail, bind, Handler.read, hread,
      AuthService.commitVerifyEmail, Handler.atomically, transaction, useToken_apply hlive]

theorem resetPassword_cases (hk : RecoveryKept rt s.credentials history chosen) (entropy : Entropy)
    (now : ℕ) (token password : String) :
    ((∀ id r, ¬Presentable s .passwordReset now token id r) ∧
        ∃ e, AuthService.resetPassword rt entropy now token password s = (.error e, s)) ∨
      ∃ id r s', Presentable s .passwordReset now token id r ∧
        AuthService.resetPassword rt entropy now token password s = (.ok ⟨⟩, s') ∧
        s'.users = s.users.modify r.userId (AuthService.withPassword now
          (rt.argonHash password (entropy.salt 0))) ∧
        s'.verificationTokens = s.verificationTokens.modify id (fun record =>
          { record with used := true, usedAt := some now }) ∧
        s'.passwordHistory = s.passwordHistory.create
          ⟨r.userId, rt.argonHash password (entropy.salt 0)⟩ := by
  obtain ⟨hnone, e, hread⟩ | ⟨id, r, h, hread⟩ := readToken_cases hk now .passwordReset
    "Invalid or expired password reset token." token
  · refine .inl ⟨hnone, e, ?_⟩
    simp [AuthService.resetPassword, AuthService.readResetPassword, bind, Handler.read, hread,
      Except.bind]
  · have hlive : (s.users.find? r.userId).isSome ∧ (s.verificationTokens.find? id).isSome :=
      ⟨isSome_owner hk h, Option.isSome_iff_exists.mpr ⟨r, h.1⟩⟩
    obtain ⟨row, hrow⟩ := Option.isSome_iff_exists.mp hlive.1
    have hload : s.findById r.userId = some (s.withPreferences r.userId row) := by
      rw [AuthStore.findById, hrow, Option.map_some]
    have hreset : AuthService.readResetPassword now token s =
        .ok (id, s.withPreferences r.userId row) := by
      simp [AuthService.readResetPassword, bind, hread, Except.bind, hload]
    -- the password and the token in one transaction, the sessions after it
    obtain ⟨s₁, hs₁, hcommit⟩ : ∃ s₁, s₁ = { AuthService.markTokenUsed now id (s.modifyUser r.userId
        (AuthService.withPassword now (rt.argonHash password (entropy.salt 0)))) with
          passwordHistory := s.passwordHistory.create
            ⟨r.userId, rt.argonHash password (entropy.salt 0)⟩ } ∧
        AuthService.commitResetPassword now id r.userId (rt.argonHash password (entropy.salt 0)) s =
          (.ok ⟨⟩, s₁) := by
      refine ⟨_, rfl, ?_⟩
      simp only [AuthService.commitResetPassword, Handler.atomically, transaction,
        useToken_apply hlive]
      rfl
    refine .inr ⟨id, r, (AuthService.revokeAllSessions r.userId none s₁).2, h, ?_, ?_⟩
    · simp only [AuthService.resetPassword, bind, Handler.read, hreset, AuthStore.withPreferences,
        hcommit, AuthService.revokeAllSessions_apply]
    · subst hs₁
      exact ⟨rfl, rfl, rfl⟩

/-- What a request does to the credentials is what is seen of it. -/
def SeenChanges (rt : Runtime) (request : AccountRequest) (s : AuthStore)
    (result : Except HttpError AuthReply × AuthStore) : Prop :=
  s.credentials.Changes rt (issuedEvents s result.2 ++ request.acceptedEvents result.1)
    (request.chosenPasswords s result.2 result.1) result.2.credentials

theorem Recoverable.Change.single {c c' : Recoverable} {events : List TokenEvent}
    {passwords : List (Id × String)} (h : c.Change rt events passwords c') :
    c.Changes rt events passwords c' := by
  have hchanges := Recoverable.Changes.tail (.refl c) h
  rwa [List.append_nil, List.append_nil] at hchanges

/-- A new account, as it is seen. -/
theorem change_withAccount {user : User} {email password : String} {salt : ℕ}
    (huser : user.credentials = ⟨email, rt.argonHash password salt, none, true, 0⟩)
    (hfresh : ∀ id row, s.users.find? id = some row → row.email ≠ user.email) :
    s.credentials.Change rt [] [(s.users.next, password)] (withAccount user s).credentials := by
  have hemail : user.email = email := congrArg Credentials.email huser
  have hpassword : user.password = rt.argonHash password salt := congrArg Credentials.password huser
  have hview : (withAccount user s).credentials = { s.credentials with
      users := s.credentials.users.create ⟨email, rt.argonHash password salt, none, true, 0⟩
      passwordHistory := s.credentials.passwordHistory.create
        ⟨s.users.next, rt.argonHash password salt⟩ } := by
    apply Recoverable.ext
    · rw [← huser]
      exact Serial.map_create _ _
    · rfl
    · rw [← hpassword]
      rfl
  rw [hview]
  apply Recoverable.Change.created
  intro id a ha
  rw [AuthStore.credentials, Serial.toTable_map, Table.find?_map, Option.map_eq_some_iff] at ha
  obtain ⟨row, hrow, rfl⟩ := ha
  rw [← hemail]
  exact hfresh id row hrow

theorem served_register (http : HttpRequest) (entropy : Entropy) (token : String)
    (dto : RegisterDto) (s : AuthStore) :
    SeenChanges rt (.register dto) s
      (AccountController.handle rt ⟨http, entropy, token, .register dto⟩ s) := by
  obtain ⟨e, h⟩ | ⟨user, huser, hfresh, hcase⟩ :=
    register_cases rt http.now token entropy dto s
  · simp only [AccountController.handle, bind, h, SeenChanges, AccountRequest.acceptedEvents,
      AccountRequest.chosenPasswords, issuedEvents_of_eq, lt_irrefl, if_false, List.append_nil]
    exact .refl _
  · have hcreated := change_withAccount huser hfresh
    obtain ⟨e, h⟩ | ⟨expiresAt, snapshot, h, hnew⟩ := hcase
    · -- the account is there, but no token for it
      have hnext : s.users.next < (withAccount user s).users.next := Nat.lt_succ_self _
      have hkept : issuedEvents s (withAccount user s) = [] := issuedEvents_of_eq rfl
      simp only [AccountController.handle, bind, h, SeenChanges, AccountRequest.acceptedEvents,
        AccountRequest.chosenPasswords, hkept, hnext, if_true, List.append_nil]
      exact hcreated.single
    · have hthere : ((withAccount user s).users.find? s.users.next).isSome :=
        Option.isSome_iff_exists.mpr ⟨user, (Serial.find?_create _).trans (if_pos rfl)⟩
      obtain ⟨hissued, hchange⟩ := changes_issueToken rt http.now (s := withAccount user s)
        .emailVerification expiresAt hnew hthere
      obtain ⟨reply, s', hsession, hkept⟩ : ∃ reply s', AuthController.withNewSession http snapshot
          none (AuthService.issueToken http.now s.users.next .emailVerification token expiresAt
            (withAccount user s)) = (.ok reply, s') ∧ s'.credentials = (AuthService.issueToken
              http.now s.users.next .emailVerification token expiresAt
              (withAccount user s)).credentials :=
        ⟨_, _, rfl, signInsLeave_credentials.withNewSession snapshot none _⟩
      have hnext : s.users.next < s'.users.next := by
        have heq : s'.users.next = s.users.next + 1 :=
          congrArg (fun c : Recoverable => c.users.next) hkept
        omega
      have hevents : issuedEvents s s' =
          [.issued (s.users.next, .emailVerification) ⟨token, expiresAt⟩] := by
        rw [issuedEvents_congr hkept]
        exact hissued
      simp only [AccountController.handle, bind, h, SeenChanges, AccountRequest.acceptedEvents,
        AccountRequest.token, AccountRequest.chosenPasswords, hsession, hevents, hnext, if_true,
        hkept, Option.map_none, Option.toList_none, List.append_nil]
      exact hcreated.single.tail hchange

/-- Requests for a token. -/
theorem served_mailed {request : AccountRequest} {handler : AuthHandler PUnit} {token : String}
    {ttlMinutes : ℕ} (hrequest : request.token = none)
    (hpasswords : ∀ s' (answer : Except HttpError AuthReply),
      request.chosenPasswords s s' answer = [])
    (h : (∃ answer, handler s = (answer, s)) ∨
      ∃ userId, handler s =
          (.ok ⟨⟩, AuthService.issueToken now userId type token (addMinutes now ttlMinutes) s) ∧
        (∀ id r, s.verificationTokens.find? id = some r → r.token ≠ token) ∧
        (s.users.find? userId).isSome) :
    SeenChanges rt request s ((do handler; return {} : AuthHandler AuthReply) s) := by
  have haccepted : ∀ answer : Except HttpError AuthReply, request.acceptedEvents answer = [] := by
    intro answer
    cases answer with
    | error e => rfl
    | ok reply => rw [AccountRequest.acceptedEvents, hrequest]; rfl
  obtain ⟨answer, hnone⟩ | ⟨userId, hissue, hfresh, huser⟩ := h
  · cases answer with
    | error e =>
      simp only [SeenChanges, bind, hnone, haccepted, hpasswords, issuedEvents_of_eq,
        List.append_nil]
      exact .refl _
    | ok a =>
      simp only [SeenChanges, bind, hnone, haccepted, hpasswords, pure, issuedEvents_of_eq,
        List.append_nil]
      exact .refl _
  · obtain ⟨hevents, hchange⟩ := changes_issueToken rt now type
      (addMinutes now ttlMinutes) hfresh huser
    simp only [SeenChanges, bind, hissue, haccepted, hpasswords, pure, hevents, List.append_nil]
    exact hchange.single

/-- A token that is marked is not a new one. -/
theorem issuedEvents_of_modify {f : VerificationToken → VerificationToken}
    (h : s'.verificationTokens = s.verificationTokens.modify id f) : issuedEvents s s' = [] := by
  apply issuedEvents_of_find?
  rw [h, Serial.toTable_modify, Table.find?_modify, Serial.find?_next, Option.map_none, ite_self]

theorem served_verifyEmail (hk : RecoveryKept rt s.credentials history chosen) (http : HttpRequest)
    (entropy : Entropy) (text token : String) :
    SeenChanges rt (.verifyEmail token) s
      (AccountController.handle rt ⟨http, entropy, text, .verifyEmail token⟩ s) := by
  obtain ⟨_, e, h⟩ | ⟨id, r, ⟨hfind, htoken, htype, hused, _⟩, h⟩ :=
    verifyEmail_cases hk http.now token
  · simp only [AccountController.handle, SeenChanges, bind, h, AccountRequest.acceptedEvents,
      AccountRequest.chosenPasswords, issuedEvents_of_eq, List.append_nil]
    exact .refl _
  · have hevents : issuedEvents s (AuthService.markTokenUsed http.now id (s.modifyUser r.userId
        fun row => { row with emailVerified := some http.now })) = [] :=
      issuedEvents_of_modify rfl
    have hview : (AuthService.markTokenUsed http.now id (s.modifyUser r.userId
        fun row => { row with emailVerified := some http.now })).credentials = { s.credentials with
          users := s.credentials.users.modify r.userId
            fun a => { a with emailVerified := some http.now }
          verificationTokens := s.credentials.verificationTokens.modify id fun r =>
            { r with used := true, usedAt := some http.now } } := by
      apply Recoverable.ext
      · show (s.users.modify r.userId _).map User.credentials =
          (s.users.map User.credentials).modify r.userId _
        apply Serial.map_modify
        exact fun _ => rfl
      · rfl
      · rfl
    simp only [AccountController.handle, SeenChanges, bind, h, pure, AccountRequest.acceptedEvents,
      AccountRequest.token, AccountRequest.chosenPasswords, hevents, hview, Option.map_some,
      Option.toList_some, List.nil_append]
    rw [← htoken]
    exact (Recoverable.Change.verified http.now id r hfind hused htype).single

theorem served_confirmPasswordReset (hk : RecoveryKept rt s.credentials history chosen)
    (http : HttpRequest) (entropy : Entropy) (text token password : String) :
    SeenChanges rt (.confirmPasswordReset token password) s
      (AccountController.handle rt ⟨http, entropy, text, .confirmPasswordReset token password⟩
        s) := by
  obtain ⟨_, e, h⟩ | ⟨id, r, s', hpresentable, h, husers, htokens, hpasswords⟩ :=
    resetPassword_cases hk entropy http.now token password
  · simp only [AccountController.handle, SeenChanges, bind, h, AccountRequest.acceptedEvents,
      AccountRequest.chosenPasswords, issuedEvents_of_eq, List.append_nil]
    exact .refl _
  · obtain ⟨hfind, htoken, htype, hused, _⟩ := hpresentable
    have hfound := rows_find?_token hk.tokens.unique hfind htoken
    have hview : s'.credentials =
        { users := s.credentials.users.modify r.userId fun a =>
            { a with
              password := rt.argonHash password (entropy.salt 0)
              sessionVersion := a.sessionVersion + 1 }
          verificationTokens := s.credentials.verificationTokens.modify id fun r =>
            { r with used := true, usedAt := some http.now }
          passwordHistory := s.credentials.passwordHistory.create
            ⟨r.userId, rt.argonHash password (entropy.salt 0)⟩ } := by
      apply Recoverable.ext
      · show s'.users.map User.credentials = (s.users.map User.credentials).modify r.userId _
        rw [husers]
        apply Serial.map_modify
        exact fun _ => rfl
      · exact htokens
      · exact hpasswords
    simp only [AccountController.handle, SeenChanges, bind, h, pure, AccountRequest.acceptedEvents,
      AccountRequest.token, AccountRequest.chosenPasswords, issuedEvents_of_modify htokens, hview,
      hfound, Option.map_some, Option.toList_some, List.nil_append]
    rw [← htoken]
    apply Recoverable.Change.single
    exact Recoverable.Change.reset http.now id r password (entropy.salt 0) hfind hused htype

/-- Every request does to the credentials what is seen of it. -/
theorem served_handle (hk : RecoveryKept rt s.credentials history chosen) (call : AccountCall) :
    SeenChanges rt call.request s (AccountController.handle rt call s) := by
  obtain ⟨http, entropy, text, request⟩ := call
  cases request with
  | register dto => exact served_register http entropy text dto s
  | resendEmailVerification email =>
    apply served_mailed rfl (fun _ _ => rfl)
    exact mailed_cases (fun user => user.row.emailVerified.isSome = true) .emailVerification _ text
      _ s
  | requestPasswordReset email =>
    apply served_mailed rfl (fun _ _ => rfl)
    exact mailed_cases (fun user => user.row.isActive = false) .passwordReset _ text _ s
  | verifyEmail token => exact served_verifyEmail hk http entropy text token
  | confirmPasswordReset token password =>
    exact served_confirmPasswordReset hk http entropy text token password
  | auth request =>
    have hkept := keeps_auth rt http entropy request s
    have haccepted : ∀ answer : Except HttpError AuthReply,
        (AccountRequest.auth request).acceptedEvents answer = [] := by
      intro answer
      cases answer <;> rfl
    simp only [SeenChanges, AccountController.handle, haccepted, AccountRequest.chosenPasswords]
    rw [issuedEvents_congr hkept, hkept, issuedEvents_of_eq rfl]
    exact .refl _

end Requests

section Runs

theorem recoveryKept_empty (rt : Runtime) : RecoveryKept rt AuthStore.empty.credentials [] [] where
  tokens := TokensKept.empty
  owned _ _ h := by cases h
  addresses _ _ _ _ h := by cases h
  accounts _ _ h := by cases h
  absent _ _ := ⟨fun _ => rfl, rfl⟩
  hashed := .nil

/-- Requests one after another keep the credentials and the history together. -/
theorem recoveryKept_run (rt : Runtime) (calls : List AccountCall) :
    RecoveryKept rt (AccountLog.run rt calls).store.credentials (AccountLog.run rt calls).history
      (AccountLog.run rt calls).chosen := by
  have hfold : ∀ (calls : List AccountCall) (log : AccountLog),
      RecoveryKept rt log.store.credentials log.history log.chosen →
        RecoveryKept rt (calls.foldl (AccountLog.serve rt) log).store.credentials
          (calls.foldl (AccountLog.serve rt) log).history
          (calls.foldl (AccountLog.serve rt) log).chosen := by
    intro calls
    induction calls with
    | nil => exact fun _ h => h
    | cons call calls ih => exact fun log h => ih _ (h.changes (served_handle h call))
  exact hfold calls _ (recoveryKept_empty rt)

/-- A token was the last of its type that was issued for a user, has not been accepted since, and
has not expired. -/
def Redeemable (history : List TokenEvent) (type : VerificationTokenType) (now : ℕ)
    (token : String) : Prop :=
  ∃ userId expiresAt later earlier,
    history = later ++ .issued (userId, type) ⟨token, expiresAt⟩ :: earlier ∧
      (∀ e ∈ later, e.Spares (userId, type) ⟨token, expiresAt⟩) ∧ now ≤ expiresAt

/-- What may be presented is what the history leaves good. -/
theorem exists_presentable_iff {rt : Runtime} {s : AuthStore} {history : List TokenEvent}
    {chosen : List (Id × String)} (hk : RecoveryKept rt s.credentials history chosen)
    (type : VerificationTokenType) (now : ℕ) (token : String) :
    (∃ id r, Presentable s type now token id r) ↔ Redeemable history type now token := by
  constructor
  · rintro ⟨id, r, hfind, rfl, rfl, hused, hexpires⟩
    obtain ⟨later, earlier, hsplit, hlater⟩ := Vouchers.book_eq_some_iff.mp
      ((hk.tokens.good r.key r.voucher).mpr ⟨id, r, hfind, hused, rfl, rfl⟩)
    exact ⟨r.userId, r.expiresAt, later, earlier, hsplit, hlater, hexpires⟩
  · rintro ⟨userId, expiresAt, later, earlier, hsplit, hlater, hexpires⟩
    obtain ⟨id, r, hfind, hused, hkey, hvoucher⟩ := (hk.tokens.good (userId, type) _).mp
      (Vouchers.book_eq_some_iff.mpr ⟨later, earlier, hsplit, hlater⟩)
    obtain ⟨_, htype⟩ := Prod.mk.inj hkey
    obtain ⟨htoken, hexpiry⟩ := Vouchers.Voucher.mk.inj hvoucher
    exact ⟨id, r, hfind, htoken, htype, hused, hexpiry ▸ hexpires⟩

/-- After any requests, a token is accepted by the endpoint of its type exactly if it was the last
of that type to be issued for a user, has not been accepted since, and has not expired. -/
theorem token_accepted_iff (rt : Runtime) (calls : List AccountCall) (http : HttpRequest)
    (entropy : Entropy) (text token password : String) :
    ((∃ reply, (AccountController.handle rt ⟨http, entropy, text, .verifyEmail token⟩
        (AccountLog.run rt calls).store).1 = .ok reply) ↔
      Redeemable (AccountLog.run rt calls).history .emailVerification http.now token) ∧
    ((∃ reply, (AccountController.handle rt
        ⟨http, entropy, text, .confirmPasswordReset token password⟩
        (AccountLog.run rt calls).store).1 = .ok reply) ↔
      Redeemable (AccountLog.run rt calls).history .passwordReset http.now token) := by
  have hk := recoveryKept_run rt calls
  constructor
  · rw [← exists_presentable_iff hk]
    obtain ⟨hnone, e, h⟩ | ⟨id, r, hpresentable, h⟩ := verifyEmail_cases hk http.now token
    · constructor
      · rintro ⟨reply, hok⟩
        simp [AccountController.handle, bind, h] at hok
      · rintro ⟨id, r, hpresentable⟩
        exact absurd hpresentable (hnone id r)
    · refine iff_of_true ⟨{}, ?_⟩ ⟨id, r, hpresentable⟩
      simp only [AccountController.handle, bind, h]
      rfl
  · rw [← exists_presentable_iff hk]
    obtain ⟨hnone, e, h⟩ | ⟨id, r, s', hpresentable, h, _⟩ :=
      resetPassword_cases hk entropy http.now token password
    · constructor
      · rintro ⟨reply, hok⟩
        simp [AccountController.handle, bind, h] at hok
      · rintro ⟨id, r, hpresentable⟩
        exact absurd hpresentable (hnone id r)
    · refine iff_of_true ⟨{}, ?_⟩ ⟨id, r, hpresentable⟩
      simp only [AccountController.handle, bind, h]
      rfl

/-- After any requests, no two accounts have one address; an account's address is verified if a
token for that was accepted for it; its session version counts the resets that were; its password
is the one chosen last, and the history of passwords holds those chosen, in their order. -/
theorem credentials_follow_tokens (rt : Runtime) (calls : List AccountCall) :
    (∀ id row id' row', (AccountLog.run rt calls).store.users.find? id = some row →
      (AccountLog.run rt calls).store.users.find? id' = some row' → row.email = row'.email →
        id = id') ∧
    (∀ id row, (AccountLog.run rt calls).store.users.find? id = some row →
      (row.emailVerified.isSome ↔
        0 < Vouchers.redeemed (id, .emailVerification) (AccountLog.run rt calls).history) ∧
      row.sessionVersion =
        Vouchers.redeemed (id, .passwordReset) (AccountLog.run rt calls).history ∧
      ∃ password salt, row.password = rt.argonHash password salt ∧
        (AccountLog.run rt calls).chosen.find? (fun p => p.1 = id) = some (id, password)) ∧
    List.Forall₂ (fun r p => r.2.userId = p.1 ∧ ∃ salt, r.2.password = rt.argonHash p.2 salt)
      (AccountLog.run rt calls).store.passwordHistory.rows
      (AccountLog.run rt calls).chosen.reverse := by
  have hk := recoveryKept_run rt calls
  have hview : ∀ id row, (AccountLog.run rt calls).store.users.find? id = some row →
      (AccountLog.run rt calls).store.credentials.users.find? id = some row.credentials := by
    intro id row hrow
    rw [AuthStore.credentials, Serial.toTable_map, Table.find?_map, hrow, Option.map_some]
  refine ⟨fun id row id' row' hrow hrow' hemail => ?_, fun id row hrow => ?_, hk.hashed⟩
  · exact hk.addresses id _ id' _ (hview id row hrow) (hview id' row' hrow') hemail
  · obtain ⟨hverified, hversion, _, password, salt, hchosen, hhash⟩ :=
      hk.accounts id _ (hview id row hrow)
    exact ⟨hverified, hversion, password, salt, hhash, hchosen⟩

end Runs

section Login

variable {rt : Runtime} {http : HttpRequest} {s : AuthStore}

/-- A login is accepted exactly if the address is that of an account that is active and not locked,
and the password is right for its hash. -/
theorem login_ok_iff (rt : Runtime) (http : HttpRequest) (email password : String) (s : AuthStore) :
    (∃ reply, (AuthController.login rt http email password s).1 = .ok reply) ↔
      ∃ user, s.findByEmail (rt.toLowerCase (trim email)) = some user ∧ user.row.isActive = true ∧
        (∀ lockedUntil, user.row.lockedUntil = some lockedUntil → lockedUntil ≤ http.now) ∧
        rt.argonVerify user.row.password password = true := by
  constructor
  · rintro ⟨reply, h⟩
    cases hread : AuthService.readLogin rt http email s with
    | error e =>
      simp [AuthController.login, AuthService.validateUser, bind, Handler.read, hread] at h
    | ok user =>
      obtain ⟨hfound, hunlocked⟩ := AuthService.readLogin_ok hread
      refine ⟨user, hfound, ?_, hunlocked, ?_⟩
      · by_contra hinactive
        rw [AuthService.readLogin, hfound] at hread
        simp [hinactive] at hread
      · by_contra hwrong
        obtain ⟨hrow, _⟩ := AuthStore.findByEmail_eq_some hfound
        have hfailed := UsersService.update_apply hrow
          (AuthService.failedLogin http.now user.row.failedLoginAttempts)
        simp [AuthController.login, AuthService.validateUser, AuthService.handleFailedLogin, bind,
          Handler.read, hread, hwrong, hfailed, pure, Handler.refuse] at h
  · rintro ⟨user, hfound, hactive, hunlocked, hright⟩
    obtain ⟨hrow, hload⟩ := AuthStore.findByEmail_eq_some hfound
    have hread : AuthService.readLogin rt http email s = .ok user := by
      rw [AuthService.readLogin, hfound]
      dsimp only
      rw [if_neg (by rw [hactive]; exact Bool.noConfusion), if_neg]
      rw [Option.any_eq_true]
      rintro ⟨lockedUntil, hlocked, hlater⟩
      have hle := hunlocked lockedUntil hlocked
      have hlt := of_decide_eq_true hlater
      omega
    have hupdate := UsersService.update_apply hrow (AuthService.loggedIn http)
    have hdevices : (s.modifyUser user.id (AuthService.loggedIn http)).trustedDevices =
      s.trustedDevices := rfl
    obtain ⟨s₁, hsession, husers⟩ := loginSession_ok rt http _ hload hdevices
    obtain ⟨snapshot, hsnapshot, hid⟩ : ∃ snapshot, snapshot = buildSessionUser user.id
        ⟨some (MfaService.shouldRequireTwoFactor rt http user).1,
          some !(MfaService.shouldRequireTwoFactor rt http user).1⟩ ∧ snapshot.id = user.id :=
      ⟨_, rfl, rfl⟩
    rw [← hsnapshot] at hsession
    have hvalidate : AuthService.validateUser rt http email password s = (.ok snapshot, s₁) := by
      simp [AuthService.validateUser, bind, Handler.read, hread, hright, hupdate, hsession]
    obtain ⟨sid, s₂, hpersist, hkept⟩ : ∃ sid s₂, AuthController.persistSession http snapshot s₁ =
        (.ok sid, s₂) ∧ s₂.credentials = s₁.credentials :=
      ⟨_, _, rfl, signInsLeave_credentials.persistSession snapshot s₁⟩
    have hthere : (s₂.users.find? snapshot.id).isSome := by
      have hsame := congrArg (fun c : Recoverable => (c.users.find? snapshot.id).isSome) hkept
      simp only [AuthStore.credentials, Serial.toTable_map, Table.find?_map, Option.isSome_map]
        at hsame
      rw [hsame, husers, hid, AuthStore.users_modifyUser, Serial.find?_modify_of_some hrow]
      rfl
    obtain ⟨row, hrow₂⟩ := Option.isSome_iff_exists.mp hthere
    refine ⟨{ session := some sid, user := some snapshot }, ?_⟩
    simp [AuthController.login, bind, hvalidate, hpersist, AuthService.loadUserOrThrow,
      Handler.read, AuthStore.findById, hrow₂]
    rfl

variable (rt) in
/-- After any requests, a login is accepted exactly if the address is that of an account that is
active and not locked, and the password is the one last chosen for it: at its registration or with
a token that was accepted for its reset. -/
theorem login_accepted_iff
    (hexact : ∀ password salt code, rt.argonVerify (rt.argonHash password salt) code = true ↔
      password = code) (calls : List AccountCall) (http : HttpRequest) (entropy : Entropy)
    (text email password : String) :
    (∃ reply, (AccountController.handle rt ⟨http, entropy, text, .auth (.login email password)⟩
        (AccountLog.run rt calls).store).1 = .ok reply) ↔
      ∃ id row, (AccountLog.run rt calls).store.users.find? id = some row ∧
        row.email = rt.toLowerCase (trim email) ∧ row.isActive = true ∧
        (∀ lockedUntil, row.lockedUntil = some lockedUntil → lockedUntil ≤ http.now) ∧
        (AccountLog.run rt calls).chosen.find? (fun p => p.1 = id) = some (id, password) := by
  obtain ⟨haddresses, haccounts, _⟩ := credentials_follow_tokens rt calls
  refine (login_ok_iff rt http email password _).trans ?_
  constructor
  · rintro ⟨user, hfound, hactive, hunlocked, hright⟩
    obtain ⟨hrow, _⟩ := AuthStore.findByEmail_eq_some hfound
    obtain ⟨_, _, chosen, salt, hhash, hchosen⟩ := haccounts user.id user.row hrow
    rw [hhash, hexact] at hright
    obtain ⟨r, hr, rfl⟩ := Option.map_eq_some_iff.mp hfound
    have hemail : r.2.email = rt.toLowerCase (trim email) := by simpa using List.find?_some hr
    exact ⟨r.1, r.2, hrow, hemail, hactive, hunlocked, hright ▸ hchosen⟩
  · rintro ⟨id, row, hrow, hemail, hactive, hunlocked, hlast⟩
    obtain ⟨_, _, chosen, salt, hhash, hchosen⟩ := haccounts id row hrow
    have hsome : ((AccountLog.run rt calls).store.users.rows.find? fun r =>
        r.2.email = rt.toLowerCase (trim email)).isSome :=
      List.find?_isSome.mpr ⟨(id, row), Table.mem_rows_of_find? hrow, decide_eq_true hemail⟩
    obtain ⟨r, hr⟩ := Option.isSome_iff_exists.mp hsome
    have hr' := Table.find?_of_mem_rows (List.mem_of_find?_eq_some hr)
    have hemail' : r.2.email = rt.toLowerCase (trim email) := by simpa using List.find?_some hr
    have hid := haddresses r.1 r.2 id row hr' hrow (hemail'.trans hemail.symm)
    rw [hid, hrow] at hr'
    obtain rfl := Option.some.inj hr'
    refine ⟨_, congrArg (Option.map _) hr, hactive, hunlocked, ?_⟩
    rw [hlast] at hchosen
    obtain rfl := (Prod.mk.inj (Option.some.inj hchosen)).2
    exact (congrArg (rt.argonVerify · password) hhash).trans
      ((hexact password salt password).mpr rfl)

/-- An account whose password was reset, with the token that was mailed for that. -/
def resetOnce : List AccountCall :=
  let call (text : String) (request : AccountRequest) : AccountCall :=
    ⟨⟨none, none, none, none, 0⟩, ⟨"", "", fun _ => "", "", fun _ => 0⟩, text, request⟩
  [call "first" (.register ⟨"a@b.c", "old", none⟩), call "second" (.requestPasswordReset "a@b.c"),
    call "" (.confirmPasswordReset "second" "new")]

theorem login_accepted_iff_resetOnce :
    (∃ reply, (AccountController.handle .plain ⟨⟨none, none, none, none, 0⟩,
        ⟨"", "", fun _ => "", "", fun _ => 0⟩, "", .auth (.login "a@b.c" "new")⟩
        (AccountLog.run .plain resetOnce).store).1 = .ok reply) ↔
      ∃ id row, (AccountLog.run .plain resetOnce).store.users.find? id = some row ∧
        row.email = Runtime.plain.toLowerCase (trim "a@b.c") ∧ row.isActive = true ∧
        (∀ lockedUntil, row.lockedUntil = some lockedUntil → lockedUntil ≤ 0) ∧
        (AccountLog.run .plain resetOnce).chosen.find? (fun p => p.1 = id) = some (id, "new") :=
  login_accepted_iff .plain (fun _ _ _ => decide_eq_true_iff) resetOnce _ _ _ _ _

example : ((AccountLog.run .plain resetOnce).history, (AccountLog.run .plain resetOnce).chosen) =
    ([.accepted "second", .issued (0, .passwordReset) ⟨"second", 3600000⟩,
      .issued (0, .emailVerification) ⟨"first", 86400000⟩], [(0, "new"), (0, "old")]) := by
  decide +kernel

end Login

end Invetrixa
