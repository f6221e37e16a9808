import Invetrixa.Auth.Auth

/-!
# Bypassing the second factor

A client that knows the password of a user with a second factor, and nothing else, signs in and
calls the endpoints of the second factor in any order. The guard lets it: a session is all it
asks for. Four requests then give the client what it should not get: an enforcement, either way,
marks its session as verified; a disabling that claims an administrator's override needs no code;
new backup codes are handed out to whoever asks; and a secret that the client has set up itself
is enabled by a code for it. Without these requests the second factor holds.

## Main results

- `second_factor_kept_iff` — along a run of the client, the second factor is kept in every state
  exactly if no request of the run is one of the four
- `enforce_verifies_session` — a login and an enforcement
-/

namespace Invetrixa

open Rowstore Requests

/-- A request as it reaches the server. -/
structure AuthCall where
  http : HttpRequest
  entropy : Entropy
  request : AuthRequest

namespace AuthCall

/-- The state after a request. -/
def step (rt : Runtime) (call : AuthCall) (s : AuthStore) : AuthStore :=
  (AuthController.handle rt call.http call.entropy call.request s).2

end AuthCall

/-- What the row of a user says of the second factor. -/
def User.secondFactor (row : User) : Option String × Bool :=
  (row.twoFactorSecret, row.twoFactorEnabled)

/-- The backup codes of a user. -/
def AuthStore.codesOf (s : AuthStore) (userId : Id) : List (Id × TwoFactorBackupCode) :=
  s.backupCodes.rows.filter fun r => r.2.userId = userId

/-- No session begun since `s₀` has passed the second factor of the user, and the secret, the
flag and the backup codes are those of `s₀`. -/
structure SecondFactorKept (s₀ : AuthStore) (victim : Id) (s : AuthStore) : Prop where
  sessions : ∀ sid snapshot, s₀.sessions.next ≤ sid → s.sessions.find? sid = some snapshot →
    snapshot.twoFactorVerified = false
  user : (s.users.find? victim).map User.secondFactor =
    (s₀.users.find? victim).map User.secondFactor
  backupCodes : s.codesOf victim = s₀.codesOf victim

/-- The codes that a request presents. -/
def TwoFactorRequest.codes : TwoFactorRequest → List String
  | .verifyTwoFactor dto => [dto.code]
  | .enableTwoFactor dto => [dto.code]
  | .disableTwoFactor dto => dto.code.toList ++ dto.backupCode.toList
  | _ => []

/-- A code that only the user itself can know: one for a secret or one of the backup codes that
it had in `s₀`, or one that it was mailed. -/
def SecretCode (rt : Runtime) (s₀ : AuthStore) (victim now : ℕ) (s : AuthStore)
    (code : String) : Prop :=
  (∃ row ∈ s₀.users.find? victim, ∃ secret ∈ row.twoFactorSecret.toList ++
    row.twoFactorTempSecret.toList, rt.totpVerify code secret now = true) ∨
  (∃ r ∈ s₀.codesOf victim, rt.argonVerify r.2.codeHash (trim code) = true) ∨
  ∃ r ∈ s.challenges.rows, r.2.userId = victim ∧ rt.argonVerify r.2.codeHash code = true

/-- A code that is right for a user at a moment: one for its secret, one for a challenge that it was
mailed and that is open with attempts left, or a backup code that it has not used. -/
def RightCode (rt : Runtime) (now userId : ℕ) (s : AuthStore) (code : String) :
    MfaService.TwoFactorVerificationChannel → Prop
  | .totp => ∃ row ∈ s.users.find? userId, ∃ secret ∈ truthy row.twoFactorSecret,
      rt.totpVerify code secret now = true
  | .email => ∃ r ∈ s.challenges.rows, r.2.userId = userId ∧ r.2.channel = .email ∧
      r.2.consumed = false ∧ now < r.2.expiresAt ∧ r.2.attempts < MFA_MAX_ATTEMPTS ∧
      rt.argonVerify r.2.codeHash code = true
  | .backupCode => ∃ r ∈ s.codesOf userId, r.2.used = false ∧
      rt.argonVerify r.2.codeHash (trim code) = true

/-- A request of a client that has only the password of the user: it names no session but its
own, no trusted device, and presents no code that only the user can know; of no other user does
it have the password. -/
structure KnowsOnlyPassword (rt : Runtime) (s₀ : AuthStore) (victim : Id) (s : AuthStore)
    (call : AuthCall) : Prop where
  session : ∀ sid ∈ call.http.sessionID, s₀.sessions.next ≤ sid
  device : ∀ token ∈ call.http.mfaDeviceId, s₀.trustedDevices.find? (rt.sha256 token) = none
  password : ∀ email password, call.request = .login email password → ∀ r ∈ s.users.rows,
    r.1 ≠ victim → rt.argonVerify r.2.password password = false
  codes : ∀ request, call.request = .twoFactor request → ∀ code ∈ request.codes,
    ¬SecretCode rt s₀ victim call.http.now s code

/-- A request that gets past the second factor of the row it is made for. -/
def TwoFactorRequest.Escalates (rt : Runtime) (now : ℕ) (row : User) : TwoFactorRequest → Prop
  | .enforceTwoFactor _ => True
  | .generateBackupCodes => True
  | .disableTwoFactor dto => dto.adminOverride = some true
  | .enableTwoFactor dto => dto.method = .totp ∧
      ∃ secret ∈ MfaService.pendingSecret row, rt.totpVerify dto.code secret now = true
  | _ => False

/-- A request with a session, of one of the four kinds that get past the second factor. -/
def Bypasses (rt : Runtime) (s : AuthStore) (call : AuthCall) : Prop :=
  ∃ request, call.request = .twoFactor request ∧
    ∃ sid ∈ call.http.sessionID, ∃ snapshot ∈ s.sessions.find? sid,
      ∃ row ∈ s.users.find? snapshot.id, request.Escalates rt call.http.now row

section RightCodes

variable {rt : Runtime} {now userId : ℕ} {s : AuthStore} {user : UserWithPreferences}
  {code : String}

theorem rightCode_of_verifyTotp (hfound : s.findById userId = some user)
    (h : MfaService.verifyTotp rt now user.row code = true) :
    RightCode rt now userId s code .totp := by
  obtain ⟨hrow, _⟩ := AuthStore.findById_eq_some hfound
  rw [MfaService.verifyTotp] at h
  cases hsecret : truthy user.row.twoFactorSecret with
  | none =>
    rw [hsecret] at h
    cases h
  | some secret =>
    rw [hsecret] at h
    exact ⟨user.row, hrow, secret, hsecret, h⟩

theorem rightCode_of_checkChallenge {id : Id}
    (h : MfaService.checkChallenge rt now userId .email code s = .right id) :
    RightCode rt now userId s code .email := by
  obtain ⟨c, hc, hright⟩ := MfaService.checkChallenge_right rt h
  exact ⟨(id, c), Table.mem_rows_of_find? hc, hright⟩

theorem rightCode_of_findBackupCode (hfound : s.findById userId = some user) {id : Id}
    (h : MfaService.findBackupCode rt user code = some id) :
    RightCode rt now userId s code .backupCode := by
  obtain ⟨c, hmem, hright⟩ := MfaService.findBackupCode_eq_some rt h
  obtain ⟨_, hload⟩ := AuthStore.findById_eq_some hfound
  rw [hload] at hmem
  exact ⟨(id, c), hmem, hright⟩

end RightCodes

/-- What the run keeps as long as no request bypasses the second factor. -/
structure SecondFactorHeld (s₀ : AuthStore) (victim : Id) (row₀ : User) (s : AuthStore) : Prop where
  next_le : s₀.sessions.next ≤ s.sessions.next
  sessions : ∀ sid snapshot, s₀.sessions.next ≤ sid → s.sessions.find? sid = some snapshot →
    snapshot.id = victim ∧ snapshot.twoFactorVerified = false
  user : (s.users.find? victim).map User.secondFactor = some row₀.secondFactor
  backupCodes : s.backupCodes = s₀.backupCodes
  trustedDevices : s.trustedDevices = s₀.trustedDevices

namespace SecondFactorHeld

variable {rt : Runtime} {http : HttpRequest} {entropy : Entropy} {s₀ : AuthStore} {victim : Id}
  {row₀ : User} {s s' : AuthStore}

/-- Writes to anything else. -/
theorem of_eq (h : SecondFactorHeld s₀ victim row₀ s) (hsessions : s'.sessions = s.sessions)
    (huser : (s'.users.find? victim).map User.secondFactor =
      (s.users.find? victim).map User.secondFactor)
    (hcodes : s'.backupCodes = s.backupCodes) (hdevices : s'.trustedDevices = s.trustedDevices) :
    SecondFactorHeld s₀ victim row₀ s' where
  next_le := hsessions ▸ h.next_le
  sessions := hsessions ▸ h.sessions
  user := huser.trans h.user
  backupCodes := hcodes.trans h.backupCodes
  trustedDevices := hdevices.trans h.trustedDevices

theorem secondFactor (h : SecondFactorHeld s₀ victim row₀ s) {row : User}
    (hrow : s.users.find? victim = some row) : row.secondFactor = row₀.secondFactor := by
  have huser := h.user
  rw [hrow] at huser
  exact Option.some.inj huser

theorem kept (h : SecondFactorHeld s₀ victim row₀ s) (hrow₀ : s₀.users.find? victim = some row₀) :
    SecondFactorKept s₀ victim s where
  sessions sid snapshot hsid hfind := (h.sessions sid snapshot hsid hfind).2
  user := by
    rw [h.user, hrow₀]
    rfl
  backupCodes := by rw [AuthStore.codesOf, h.backupCodes, AuthStore.codesOf]

theorem update {f : User → User} (hf : ∀ row, (f row).secondFactor = row.secondFactor) (id : Id) :
    Handler.Ensures (SecondFactorHeld s₀ victim row₀) (UsersService.update id f)
      (fun _ => SecondFactorHeld s₀ victim row₀) (SecondFactorHeld s₀ victim row₀) := by
  refine UsersService.update_ensures (fun s user hs _ => ?_) fun s hs _ => hs
  exact hs.of_eq rfl (AuthStore.map_find?_modifyUser hf s id victim) rfl rfl

theorem updateChallenge {f : TwoFactorChallenge → TwoFactorChallenge} (id : Id) :
    Handler.Ensures (SecondFactorHeld s₀ victim row₀) (UsersService.updateChallenge id f)
      (fun _ => SecondFactorHeld s₀ victim row₀) (SecondFactorHeld s₀ victim row₀) := by
  refine Handler.Ensures.atomically (fun s _ s' hs h => ?_) fun s _ hs _ => hs
  split at h
  · cases h
  · cases h
    exact hs.of_eq rfl rfl rfl rfl

/-- A session that has not passed the second factor may begin. -/
theorem persistSession {user : SessionStateSnapshot} (hid : user.id = victim)
    (hverified : user.twoFactorVerified = false) :
    Handler.Ensures (SecondFactorHeld s₀ victim row₀) (AuthController.persistSession http user)
      (fun _ => SecondFactorHeld s₀ victim row₀) (SecondFactorHeld s₀ victim row₀) := by
  have hlogIn : Handler.Ensures (SecondFactorHeld s₀ victim row₀) (AuthController.logIn http user)
      (fun _ => SecondFactorHeld s₀ victim row₀) (SecondFactorHeld s₀ victim row₀) := by
    intro s hs
    refine ⟨fun sid s' h => ?_, fun e s' h => by cases h⟩
    cases h
    refine ⟨Nat.le_succ_of_le hs.next_le, fun sid snapshot hsid hfind => ?_, hs.user,
      hs.backupCodes, hs.trustedDevices⟩
    rcases Serial.find?_create_cases hfind with hold | ⟨_, rfl⟩
    · rw [Serial.toTable_deleteWhere, Table.find?_deleteWhere] at hold
      exact hs.sessions sid snapshot hsid (Option.eq_some_of_filter_eq_some hold)
    · exact ⟨hid, hverified⟩
  refine hlogIn.bind fun sid => Handler.Ensures.bind (Handler.Ensures.write fun s hs => ?_) fun _ =>
    Handler.Ensures.pure sid fun s hs => hs
  rw [AuthService.registerSessionInCache]
  split
  · exact hs
  · exact hs.of_eq rfl rfl rfl rfl

theorem settleChallenge {check : MfaService.ChallengeCheck} (now : ℕ)
    (h : ∀ id, check ≠ .right id) :
    Handler.Ensures (SecondFactorHeld s₀ victim row₀) (MfaService.settleChallenge now check)
      (fun verified s => verified = false ∧ SecondFactorHeld s₀ victim row₀ s)
      (SecondFactorHeld s₀ victim row₀) := by
  cases check with
  | absent => exact Handler.Ensures.pure _ fun s hs => ⟨rfl, hs⟩
  | spent id => exact (updateChallenge id).bind fun _ => Handler.Ensures.pure _ fun s hs => ⟨rfl, hs⟩
  | wrong id => exact (updateChallenge id).bind fun _ => Handler.Ensures.pure _ fun s hs => ⟨rfl, hs⟩
  | right id => exact absurd rfl (h id)

/-- What is known of the user when a code is checked for it. -/
def Loaded (rt : Runtime) (s₀ : AuthStore) (victim : Id) (row₀ : User) (now : ℕ)
    (codes : List String) (user : UserWithPreferences) (s : AuthStore) : Prop :=
  SecondFactorHeld s₀ victim row₀ s ∧ (∀ code ∈ codes, ¬SecretCode rt s₀ victim now s code) ∧
    s.findById victim = some user

/-- No code of the client is right. -/
theorem Loaded.not_rightCode (hrow₀ : s₀.users.find? victim = some row₀)
    {user : UserWithPreferences} {codes : List String} {now : ℕ}
    (h : Loaded rt s₀ victim row₀ now codes user s) {code : String} (hcode : code ∈ codes)
    (channel : MfaService.TwoFactorVerificationChannel) :
    ¬RightCode rt now victim s code channel := by
  obtain ⟨hs, hcodes, _⟩ := h
  intro hright
  apply hcodes code hcode
  cases channel with
  | totp =>
    -- The secret is the one from the start.
    obtain ⟨row, hrow, secret, hsecret, hverify⟩ := hright
    have hmem := Option.eq_some_of_filter_eq_some hsecret
    have hsame : row.twoFactorSecret = row₀.twoFactorSecret :=
      congrArg Prod.fst (hs.secondFactor hrow)
    rw [hsame] at hmem
    exact .inl ⟨row₀, hrow₀, secret, by simp [hmem], hverify⟩
  | email =>
    obtain ⟨r, hr, huser, _, _, _, _, hverify⟩ := hright
    exact .inr (.inr ⟨r, hr, huser, hverify⟩)
  | backupCode =>
    obtain ⟨r, hr, _, hverify⟩ := hright
    rw [AuthStore.codesOf, hs.backupCodes] at hr
    exact .inr (.inl ⟨r, hr, hverify⟩)

/-- No code of the client is accepted. -/
theorem verifyCode (hrow₀ : s₀.users.find? victim = some row₀) {user : UserWithPreferences}
    {codes : List String} {code : String} (hcode : code ∈ codes)
    (channel : MfaService.TwoFactorVerificationChannel) :
    Handler.Ensures (Loaded rt s₀ victim row₀ http.now codes user)
      (AuthService.verifyCode rt http user code channel)
      (fun verified s => verified = false ∧ SecondFactorHeld s₀ victim row₀ s)
      (SecondFactorHeld s₀ victim row₀) := by
  intro s hs
  have hnot := hs.not_rightCode hrow₀ hcode channel
  obtain ⟨hheld, _, huser⟩ := hs
  cases channel with
  | totp =>
    have hfalse : MfaService.verifyTotp rt http.now user.row code = false := by
      by_contra hverify
      exact hnot (rightCode_of_verifyTotp huser (by simpa using hverify))
    exact Handler.Ensures.pure _ (fun s hs => ⟨hfalse, hs⟩) s hheld
  | email =>
    have hid : user.id = victim := by
      obtain ⟨_, hload⟩ := AuthStore.findById_eq_some huser
      rw [hload]
      rfl
    rw [← hid] at hnot
    exact settleChallenge http.now (fun id hright => hnot (rightCode_of_checkChallenge hright)) s
      hheld
  | backupCode =>
    have hnone : MfaService.findBackupCode rt user code = none := by
      rw [Option.eq_none_iff_forall_ne_some]
      intro id hfind
      exact hnot (rightCode_of_findBackupCode huser hfind)
    rw [AuthService.verifyCode, MfaService.validateBackupCode, hnone]
    exact Handler.Ensures.pure false (fun s hs => ⟨rfl, hs⟩) s hheld

/-- The user is loaded, and what is known of the state is known of it. -/
theorem loadUserOrThrow {P : AuthStore → Prop} (hP : ∀ s, P s → SecondFactorHeld s₀ victim row₀ s)
    {codes : List String} {now : ℕ}
    (hcodes : ∀ s, P s → ∀ code ∈ codes, ¬SecretCode rt s₀ victim now s code) :
    Handler.Ensures P (AuthService.loadUserOrThrow victim)
      (fun user s => P s ∧ Loaded rt s₀ victim row₀ now codes user s)
      (SecondFactorHeld s₀ victim row₀) := by
  refine Handler.Ensures.read (fun s user hs h => ?_) fun s _ hs _ => hP s hs
  split at h
  · cases h
  · next found heq =>
    obtain rfl := Except.ok.inj h
    exact ⟨hs, hP s hs, hcodes s hs, heq⟩

/-- What the guard and the client's ignorance give at the start of an endpoint. -/
def Ready (rt : Runtime) (s₀ : AuthStore) (victim : Id) (row₀ : User) (now : ℕ)
    (request : TwoFactorRequest) (s : AuthStore) : Prop :=
  SecondFactorHeld s₀ victim row₀ s ∧
    (∀ code ∈ request.codes, ¬SecretCode rt s₀ victim now s code) ∧
    ∃ row, s.users.find? victim = some row ∧ ¬request.Escalates rt now row

/-- The user of the request is loaded. -/
theorem loadReady (now : ℕ) (request : TwoFactorRequest) :
    Handler.Ensures (Ready rt s₀ victim row₀ now request) (AuthService.loadUserOrThrow victim)
      (fun user s => Ready rt s₀ victim row₀ now request s ∧
        Loaded rt s₀ victim row₀ now request.codes user s) (SecondFactorHeld s₀ victim row₀) :=
  loadUserOrThrow (fun _ hs => hs.1) fun _ hs => hs.2.1

/-- Nothing is verified, and nothing enabled. -/
theorem verifyTwoFactor (hrow₀ : s₀.users.find? victim = some row₀) (dto : VerifyTwoFactorDto) :
    Handler.Ensures (Ready rt s₀ victim row₀ http.now (.verifyTwoFactor dto))
      (AuthService.verifyTwoFactor rt http entropy victim dto) (fun _ _ => False)
      (SecondFactorHeld s₀ victim row₀) := by
  refine (loadReady http.now (.verifyTwoFactor dto)).bind fun user => ?_
  refine ((verifyCode hrow₀ (List.mem_singleton.mpr rfl) dto.channel).consequence
    (fun s hs => hs.2) (fun _ _ h => h) fun _ h => h).bind fun verified => ?_
  cases verified with
  | true => exact fun s hs => absurd hs.1 (by decide)
  | false => exact Handler.Ensures.refuse _ fun s hs => hs.2

theorem enableMethod (hrow₀ : s₀.users.find? victim = some row₀) (dto : EnableTwoFactorDto)
    (user : UserWithPreferences) :
    Handler.Ensures (fun s => Ready rt s₀ victim row₀ http.now (.enableTwoFactor dto) s ∧
        Loaded rt s₀ victim row₀ http.now [dto.code] user s)
      (AuthService.enableMethod rt http user dto) (fun _ _ => False)
      (SecondFactorHeld s₀ victim row₀) := by
  rw [AuthService.enableMethod]
  cases hmethod : dto.method with
  | sms => exact Handler.Ensures.refuse _ fun s hs => hs.1.1
  | email =>
    refine ((verifyCode hrow₀ (List.mem_singleton.mpr rfl) .email).consequence
      (fun s hs => hs.2) (fun _ _ h => h) fun _ h => h).bind fun verified => ?_
    cases verified with
    | true => exact fun s hs => absurd hs.1 (by decide)
    | false => exact Handler.Ensures.refuse _ fun s hs => hs.2
  | totp =>
    show Handler.Ensures _ (MfaService.enableTotp rt http.now user dto.code) _ _
    rw [MfaService.enableTotp]
    cases hpending : MfaService.pendingSecret user.row with
    | none => exact Handler.Ensures.refuse _ fun s hs => hs.1.1
    | some secret =>
      by_cases hverify : rt.totpVerify dto.code secret http.now = true
      · intro s ⟨⟨_, _, row, hrow, hnot⟩, _, _, huser⟩
        obtain ⟨hrow', _⟩ := AuthStore.findById_eq_some huser
        obtain rfl : row = user.row := Option.some.inj (hrow.symm.trans hrow')
        exact absurd ⟨hmethod, secret, hpending, hverify⟩ hnot
      · dsimp only
        rw [if_pos (by simpa using hverify)]
        exact Handler.Ensures.refuse _ fun s hs => hs.1.1

theorem enableTwoFactor (hrow₀ : s₀.users.find? victim = some row₀) (dto : EnableTwoFactorDto) :
    Handler.Ensures (Ready rt s₀ victim row₀ http.now (.enableTwoFactor dto))
      (AuthService.enableTwoFactor rt http entropy victim dto) (fun _ _ => False)
      (SecondFactorHeld s₀ victim row₀) := by
  refine (loadReady http.now (.enableTwoFactor dto)).bind fun user => ?_
  exact (enableMethod hrow₀ dto user).bind fun _ s hs => hs.elim

theorem verifyDisableRequest (hrow₀ : s₀.users.find? victim = some row₀)
    (dto : DisableTwoFactorDto) (user : UserWithPreferences) :
    Handler.Ensures (Loaded rt s₀ victim row₀ http.now
        (TwoFactorRequest.disableTwoFactor dto).codes user)
      (AuthService.verifyDisableRequest rt http user dto)
      (fun verified s => verified = false ∧ SecondFactorHeld s₀ victim row₀ s)
      (SecondFactorHeld s₀ victim row₀) := by
  have hcode : ∀ code, truthy dto.code = some code →
      code ∈ (TwoFactorRequest.disableTwoFactor dto).codes := by
    intro code h
    exact List.mem_append_left _
      (Option.mem_toList.mpr (Option.eq_some_of_filter_eq_some h))
  rw [AuthService.verifyDisableRequest]
  split
  · split
    · exact Handler.Ensures.refuse _ fun s hs => hs.1
    · next backupCode heq =>
      exact verifyCode hrow₀ (List.mem_append_right _
        (Option.mem_toList.mpr (Option.eq_some_of_filter_eq_some heq))) _
  · split
    · exact Handler.Ensures.refuse _ fun s hs => hs.1
    · next code heq => exact verifyCode hrow₀ (hcode code heq) _

theorem disableTwoFactor (hrow₀ : s₀.users.find? victim = some row₀) (dto : DisableTwoFactorDto) :
    Handler.Ensures (Ready rt s₀ victim row₀ http.now (.disableTwoFactor dto))
      (AuthService.disableTwoFactor rt http victim dto) (fun _ _ => False)
      (SecondFactorHeld s₀ victim row₀) := by
  refine (loadReady http.now (.disableTwoFactor dto)).bind fun user => ?_
  refine Handler.Ensures.bind (Q := fun _ _ => False) ?_ fun _ s hs => hs.elim
  rw [AuthService.authorizeDisable]
  by_cases hoverride : dto.adminOverride = some true
  · intro s ⟨⟨_, _, row, _, hnot⟩, _⟩
    exact absurd hoverride hnot
  · rw [if_neg hoverride]
    refine ((verifyDisableRequest hrow₀ dto user).consequence
      (fun s hs => hs.2) (fun _ _ h => h) fun _ h => h).bind fun verified => ?_
    cases verified with
    | true => exact fun s hs => absurd hs.1 (by decide)
    | false => exact Handler.Ensures.refuse _ fun s hs => hs.2

theorem initiateTotpSetup (request : TwoFactorRequest) :
    Handler.Ensures (Ready rt s₀ victim row₀ http.now request)
      (AuthService.initiateTotpSetup entropy victim) (fun _ => SecondFactorHeld s₀ victim row₀)
      (SecondFactorHeld s₀ victim row₀) := by
  refine (loadReady http.now request).bind fun user => ?_
  refine Handler.Ensures.bind (Q := fun _ => SecondFactorHeld s₀ victim row₀) ?_
    fun _ => Handler.Ensures.pure _ fun _ hs => hs
  exact (update (fun _ => by rfl) _).consequence (fun s hs => hs.1.1) (fun _ _ h => h) fun _ h => h

theorem sendTwoFactorChallenge (request : TwoFactorRequest) (dto : SendChallengeDto) :
    Handler.Ensures (Ready rt s₀ victim row₀ http.now request)
      (AuthService.sendTwoFactorChallenge rt http entropy victim dto)
      (fun _ => SecondFactorHeld s₀ victim row₀) (SecondFactorHeld s₀ victim row₀) := by
  refine (loadReady http.now request).bind fun user => ?_
  split
  · exact Handler.Ensures.refuse _ fun s hs => hs.1.1
  · refine Handler.Ensures.bind (Q := fun _ => SecondFactorHeld s₀ victim row₀) ?_ fun _ => ?_
    · cases dto.channel with
      | email => exact Handler.Ensures.pure _ fun s hs => hs.1.1
      | sms => exact Handler.Ensures.refuse _ fun s hs => hs.1.1
    · rw [MfaService.createOutOfBandChallenge]
      split
      · exact Handler.Ensures.pure _ fun s hs => hs
      · refine Handler.Ensures.atomically (fun s _ s' hs h => ?_) fun s _ hs _ => hs
        split at h
        · cases h
        · cases h
          exact hs.of_eq rfl rfl rfl rfl

theorem deserializeUser {snapshot user : SessionStateSnapshot}
    (h : AuthService.deserializeUser snapshot s = some user) : user = snapshot := by
  obtain ⟨_, _, rfl⟩ := Option.map_eq_some_iff.mp h
  rfl

theorem adminEnforceTwoFactor {sessionUser : SessionStateSnapshot} (hid : sessionUser.id = victim)
    (hverified : sessionUser.twoFactorVerified = false) (request : TwoFactorRequest)
    (dto : AdminEnforceTwoFactorDto) :
    Handler.Ensures (Ready rt s₀ victim row₀ http.now request)
      (AuthController.adminEnforceTwoFactor http sessionUser dto)
      (fun _ => SecondFactorHeld s₀ victim row₀) (SecondFactorHeld s₀ victim row₀) := by
  refine Handler.Ensures.bind (Q := fun _ => SecondFactorHeld s₀ victim row₀) ?_ fun response => ?_
  · refine Handler.Ensures.bind (Q := fun _ => SecondFactorHeld s₀ victim row₀) ?_
      fun _ => Handler.Ensures.pure _ fun _ hs => hs
    exact (update (fun _ => by rfl) _).consequence (fun s hs => hs.1) (fun _ _ h => h) fun _ h => h
  · split
    · refine Handler.Ensures.bind (Q := fun refreshed s => SecondFactorHeld s₀ victim row₀ s ∧
        ∀ user ∈ refreshed, user = sessionUser) ?_ fun refreshed => ?_
      · refine Handler.Ensures.read (fun s refreshed hs h => ?_) fun s _ hs _ => hs
        obtain rfl := Except.ok.inj h
        exact ⟨hs, fun user huser => deserializeUser huser⟩
      · cases refreshed with
        | none => exact Handler.Ensures.pure _ fun s hs => hs.1
        | some user =>
          intro s ⟨hs, huser⟩
          obtain rfl := huser user rfl
          refine Handler.Ensures.bind (R := fun _ => SecondFactorHeld s₀ victim row₀)
            (persistSession hid hverified) (fun _ => Handler.Ensures.pure _ fun _ hs => hs) s hs
    · exact Handler.Ensures.pure _ fun s hs => hs

/-- The endpoints behind the guard keep the second factor, as long as they do not bypass it. -/
theorem serve (hrow₀ : s₀.users.find? victim = some row₀) {sessionUser : SessionStateSnapshot}
    (hid : sessionUser.id = victim) (hverified : sessionUser.twoFactorVerified = false)
    (request : TwoFactorRequest) :
    Handler.Ensures (Ready rt s₀ victim row₀ http.now request)
      (AuthController.serve rt http entropy sessionUser request)
      (fun _ => SecondFactorHeld s₀ victim row₀) (SecondFactorHeld s₀ victim row₀) := by
  subst hid
  cases request with
  | initiateTotpSetup =>
    exact (initiateTotpSetup _).bind fun _ => Handler.Ensures.pure _ fun _ hs => hs
  | sendChallenge dto =>
    exact (sendTwoFactorChallenge _ dto).bind fun _ => Handler.Ensures.pure _ fun _ hs => hs
  | verifyTwoFactor dto => exact (verifyTwoFactor hrow₀ dto).bind fun _ s hs => hs.elim
  | enableTwoFactor dto => exact (enableTwoFactor hrow₀ dto).bind fun _ s hs => hs.elim
  | disableTwoFactor dto => exact (disableTwoFactor hrow₀ dto).bind fun _ s hs => hs.elim
  | adminEnforceTwoFactor dto => exact adminEnforceTwoFactor rfl hverified _ dto
  | generateBackupCodes =>
    intro s ⟨_, _, row, _, hnot⟩
    exact absurd trivial hnot
  | enforceTwoFactor dto =>
    intro s ⟨_, _, row, _, hnot⟩
    exact absurd trivial hnot

/-- What a login finds out about the user that it is for. -/
theorem readLogin (henabled : row₀.twoFactorEnabled = true) (email : String)
    (hdevice : ∀ token ∈ http.mfaDeviceId, s₀.trustedDevices.find? (rt.sha256 token) = none)
    (hs : SecondFactorHeld s₀ victim row₀ s) {user : UserWithPreferences}
    (h : AuthService.readLogin rt http email s = .ok user) :
    s.users.find? user.id = some user.row ∧
      (user.id = victim → MfaService.shouldRequireTwoFactor rt http user = (true, none)) := by
  obtain ⟨heq, _⟩ := AuthService.readLogin_ok h
  obtain ⟨hrow, hload⟩ := AuthStore.findByEmail_eq_some heq
  refine ⟨hrow, fun hid => ?_⟩
  have hfactor := hs.secondFactor (hid ▸ hrow)
  have hen : user.row.twoFactorEnabled = true := (congrArg Prod.snd hfactor).trans henabled
  have hnone : MfaService.findTrustedDevice rt http user = none := by
    rw [Option.eq_none_iff_forall_ne_some]
    intro device hfind
    obtain ⟨token, htoken, hfind⟩ := Option.bind_eq_some_iff.mp hfind
    have hmatch := List.find?_some hfind
    have hmem := List.mem_of_find?_eq_some hfind
    rw [hload] at hmem
    have hrow' := (List.mem_filter.mp hmem).1
    rw [hs.trustedDevices] at hrow'
    have hno := hdevice token (Option.eq_some_of_filter_eq_some htoken)
    have hyes := Table.find?_of_mem_rows (k := device.1) (r := device.2) hrow'
    rw [(of_decide_eq_true hmatch).1, hno] at hyes
    cases hyes
  rw [MfaService.shouldRequireTwoFactor, if_neg (by simp [hen]), hnone]

/-- A login of the client begins a session that has not passed the second factor. -/
theorem login (henabled : row₀.twoFactorEnabled = true) (email password : String)
    (hdevice : ∀ token ∈ http.mfaDeviceId, s₀.trustedDevices.find? (rt.sha256 token) = none) :
    Handler.Ensures (fun s => SecondFactorHeld s₀ victim row₀ s ∧
        ∀ r ∈ s.users.rows, r.1 ≠ victim → rt.argonVerify r.2.password password = false)
      (AuthController.login rt http email password) (fun _ => SecondFactorHeld s₀ victim row₀)
      (SecondFactorHeld s₀ victim row₀) := by
  have hvalidate : Handler.Ensures (fun s => SecondFactorHeld s₀ victim row₀ s ∧
        ∀ r ∈ s.users.rows, r.1 ≠ victim → rt.argonVerify r.2.password password = false)
      (AuthService.validateUser rt http email password)
      (fun user s => SecondFactorHeld s₀ victim row₀ s ∧ user.id = victim ∧
        user.twoFactorVerified = false) (SecondFactorHeld s₀ victim row₀) := by
    refine Handler.Ensures.bind (Q := fun user s => SecondFactorHeld s₀ victim row₀ s ∧
      (rt.argonVerify user.row.password password = true → user.id = victim ∧
        MfaService.shouldRequireTwoFactor rt http user = (true, none))) ?_ fun user => ?_
    · refine Handler.Ensures.read (fun s user hs h => ⟨hs.1, fun hverify => ?_⟩) fun s _ hs _ => hs.1
      -- The password is no other user's, so the account it opens is the victim's.
      obtain ⟨hrow, hrequire⟩ := readLogin henabled email hdevice hs.1 h
      have hid : user.id = victim := by
        by_contra hne
        rw [hs.2 _ (Table.mem_rows_of_find? hrow) hne] at hverify
        cases hverify
      exact ⟨hid, hrequire hid⟩
    · by_cases hverify : rt.argonVerify user.row.password password = true
      · rw [if_pos hverify]
        intro s ⟨hs, hvictim⟩
        obtain ⟨hid, hrequire⟩ := hvictim hverify
        refine Handler.Ensures.bind (update (fun _ => by rfl) _) (fun _ => ?_) s hs
        rw [AuthService.loginSession, hrequire]
        exact Handler.Ensures.pure _ fun _ hs => ⟨hs, hid, rfl⟩
      · rw [if_neg hverify]
        refine Handler.Ensures.bind (Q := fun _ => SecondFactorHeld s₀ victim row₀) ?_
          fun _ => Handler.Ensures.refuse _ fun _ hs => hs
        refine Handler.Ensures.bind ((update (fun _ => by rfl) _).consequence
          (fun s hs => hs.1) (fun _ _ h => h) fun _ h => h)
          fun _ => Handler.Ensures.pure _ fun _ hs => hs
  refine hvalidate.bind fun user => ?_
  intro s ⟨hs, hid, hverified⟩
  refine Handler.Ensures.bind (persistSession hid hverified) (fun sid => ?_) s hs
  refine Handler.Ensures.bind (Q := fun _ => SecondFactorHeld s₀ victim row₀) ?_
    fun _ => Handler.Ensures.pure _ fun _ hs => hs
  exact Handler.Ensures.read (fun _ _ hs _ => hs) fun _ _ hs _ => hs

/-- The user of a session of the client. -/
theorem authenticated {call : AuthCall} {request : TwoFactorRequest}
    (hrequest : call.request = .twoFactor request) :
    Handler.Ensures (fun s => SecondFactorHeld s₀ victim row₀ s ∧
        KnowsOnlyPassword rt s₀ victim s call ∧ ¬Bypasses rt s call)
      (AuthController.authenticated call.http)
      (fun user s => (user.id = victim ∧ user.twoFactorVerified = false) ∧
        Ready rt s₀ victim row₀ call.http.now request s) (SecondFactorHeld s₀ victim row₀) := by
  refine Handler.Ensures.read (fun s user ⟨hs, hclient, hnot⟩ h => ?_) fun s _ hs _ => hs.1
  split at h
  · cases h
  · next found heq =>
    obtain rfl := Except.ok.inj h
    obtain ⟨snapshot, hsession, hfound⟩ := Option.bind_eq_some_iff.mp heq
    obtain ⟨sid, hsid, hsnapshot⟩ := Option.bind_eq_some_iff.mp hsession
    obtain ⟨row, hrow, _⟩ := Option.map_eq_some_iff.mp hfound
    obtain rfl := deserializeUser hfound
    obtain ⟨hid, hverified⟩ := hs.sessions sid found (hclient.session sid hsid) hsnapshot
    refine ⟨⟨hid, hverified⟩, hs, hclient.codes request hrequest, row, hid ▸ hrow, fun hesc => ?_⟩
    exact hnot ⟨request, hrequest, sid, hsid, found, hsnapshot, row, hrow, hesc⟩

/-- A request of the client that bypasses nothing. -/
theorem step (hrow₀ : s₀.users.find? victim = some row₀) (henabled : row₀.twoFactorEnabled = true)
    {call : AuthCall} (hs : SecondFactorHeld s₀ victim row₀ s)
    (hclient : KnowsOnlyPassword rt s₀ victim s call) (hnot : ¬Bypasses rt s call) :
    SecondFactorHeld s₀ victim row₀ (call.step rt s) := by
  simp only [AuthCall.step, AuthController.handle]
  cases hrequest : call.request with
  | login email password =>
    exact (login henabled email password hclient.device).snd
      ⟨hs, hclient.password email password hrequest⟩
  | twoFactor request =>
    refine ((authenticated hrequest).bind fun user => ?_).snd ⟨hs, hclient, hnot⟩
    intro s ⟨⟨hid, hverified⟩, hready⟩
    exact serve hrow₀ hid hverified request s hready

end SecondFactorHeld

section Bypass

variable {rt : Runtime} {http : HttpRequest} {entropy : Entropy} {s₀ : AuthStore} {victim : Id}
  {row₀ : User} {s : AuthStore}

/-- A session that has passed the second factor is one too many. -/
theorem withNewSession_breaks {user : SessionStateSnapshot} (h : user.twoFactorVerified = true)
    (cookie : Option String) :
    Handler.Ensures (fun s => s₀.sessions.next ≤ s.sessions.next)
      (AuthController.withNewSession http user cookie) (fun _ s => ¬SecondFactorKept s₀ victim s)
      (fun s => ¬SecondFactorKept s₀ victim s) := by
  have hsession : ∀ s sid, (∃ snapshot, s₀.sessions.next ≤ sid ∧
      s.sessions.find? sid = some snapshot ∧ snapshot.twoFactorVerified = true) →
      ¬SecondFactorKept s₀ victim s := by
    rintro s sid ⟨snapshot, hsid, hfind, hverified⟩ hkept
    rw [hkept.sessions sid snapshot hsid hfind] at hverified
    cases hverified
  refine Handler.Ensures.bind (Q := fun _ s => ¬SecondFactorKept s₀ victim s) ?_
    fun _ => Handler.Ensures.pure _ fun _ hs => hs
  refine Handler.Ensures.bind (Q := fun sid s => ∃ snapshot, s₀.sessions.next ≤ sid ∧
    s.sessions.find? sid = some snapshot ∧ snapshot.twoFactorVerified = true) ?_ fun sid => ?_
  · intro s hs
    refine ⟨fun sid s' heq => ?_, fun e s' heq => by cases heq⟩
    cases heq
    refine ⟨user, hs, ?_, h⟩
    exact (Serial.find?_create user).trans (if_pos rfl)
  · refine Handler.Ensures.bind (Q := fun _ s => ¬SecondFactorKept s₀ victim s)
      (Handler.Ensures.write fun s hs => ?_) fun _ => Handler.Ensures.pure _ fun _ hs => hs
    refine hsession _ sid ?_
    rw [AuthService.registerSessionInCache]
    split
    · exact hs
    · exact hs

/-- The row of the user is there. -/
def HasRow (victim : Id) (s : AuthStore) : Prop := (s.users.find? victim).isSome

theorem loadUserOrThrow_succeeds {P : AuthStore → Prop} (hP : ∀ s, P s → HasRow victim s) :
    Handler.Ensures P (AuthService.loadUserOrThrow victim)
      (fun user s => P s ∧ s.findById victim = some user) (fun _ => False) := by
  refine Handler.Ensures.read (fun s user hs h => ?_) fun s e hs h => ?_
  · split at h
    · cases h
    · next heq =>
      obtain rfl := Except.ok.inj h
      exact ⟨hs, heq⟩
  · split at h
    · next hnone =>
      have hrow := hP s hs
      rw [HasRow, Option.map_eq_none_iff.mp hnone] at hrow
      cases hrow
    · cases h

theorem enforceTwoFactor_breaks (henabled : row₀.twoFactorEnabled = true)
    (dto : EnforceTwoFactorDto) :
    Handler.Ensures (fun s => SecondFactorHeld s₀ victim row₀ s ∧ HasRow victim s)
      (AuthService.enforceTwoFactorForCurrentUser http victim dto)
      (fun user s => user.twoFactorVerified = true ∧ s₀.sessions.next ≤ s.sessions.next)
      (fun _ => False) := by
  refine Handler.Ensures.bind (Q := fun user s => user.row.twoFactorEnabled = true ∧
    s₀.sessions.next ≤ s.sessions.next) ?_ fun user => ?_
  · refine UsersService.update_ensures (fun s user ⟨hs, _⟩ hfind => ⟨?_, hs.next_le⟩)
      fun s ⟨_, hrow⟩ hnone => ?_
    · obtain ⟨hrow, _⟩ := AuthStore.findById_eq_some hfind
      have huser : ((s.modifyUser victim (AuthService.enforce http dto.enforced)).users.find?
          victim).map User.secondFactor = some row₀.secondFactor :=
        (AuthStore.map_find?_modifyUser (fun _ => by rfl) s victim victim).trans hs.user
      rw [hrow] at huser
      exact (congrArg Prod.snd (Option.some.inj huser)).trans henabled
    · rw [HasRow, hnone] at hrow
      cases hrow
  · refine Handler.Ensures.pure _ fun s ⟨hen, hnext⟩ => ⟨?_, hnext⟩
    cases hdto : dto.enforced with
    | true => simp [buildSessionUser, hen]
    | false => simp [buildSessionUser, AuthService.verifiedOverrides]

theorem disableTwoFactor_breaks {dto : DisableTwoFactorDto}
    (hoverride : dto.adminOverride = some true) :
    Handler.Ensures (fun s => SecondFactorHeld s₀ victim row₀ s ∧ HasRow victim s)
      (AuthService.disableTwoFactor rt http victim dto)
      (fun user s => user.twoFactorVerified = true ∧ s₀.sessions.next ≤ s.sessions.next)
      (fun _ => False) := by
  refine (loadUserOrThrow_succeeds fun s hs => hs.2).bind fun user => ?_
  rw [AuthService.authorizeDisable, if_pos hoverride]
  refine Handler.Ensures.bind (Q := fun _ s => (SecondFactorHeld s₀ victim row₀ s ∧
    HasRow victim s) ∧ user.id = victim) ?_ fun _ => ?_
  · refine Handler.Ensures.pure _ fun s hs => ⟨hs.1, ?_⟩
    obtain ⟨_, hload⟩ := AuthStore.findById_eq_some hs.2
    rw [hload]
    rfl
  · refine Handler.Ensures.bind (Q := fun _ s => (s₀.sessions.next ≤ s.sessions.next ∧
      HasRow victim s) ∧ user.id = victim) ?_ fun _ => ?_
    · refine Handler.Ensures.atomically ?_ ?_
      · rintro s _ s' ⟨⟨hs, hrow⟩, hid⟩ h
        split at h
        · cases h
        · cases h
          refine ⟨⟨hs.next_le, ?_⟩, hid⟩
          have hkeep := AuthStore.map_find?_modifyUser (g := fun _ => ())
            (f := MfaService.withoutTwoFactor) (fun _ => rfl) s user.id victim
          rw [HasRow, ← Option.isSome_map (f := fun _ => ())] at hrow ⊢
          exact (congrArg Option.isSome hkeep).trans hrow
      · rintro s _ ⟨⟨hs, hrow⟩, hid⟩ h
        split at h
        · next hnone =>
          rw [hid] at hnone
          rw [HasRow, ← Option.not_isNone, hnone] at hrow
          cases hrow
        · cases h
    · rintro s ⟨hs, hid⟩
      rw [hid]
      refine Handler.Ensures.bind (loadUserOrThrow_succeeds (P := fun s => s₀.sessions.next ≤
        s.sessions.next ∧ HasRow victim s) fun s hs => hs.2) (fun _ => ?_) s hs
      exact Handler.Ensures.pure _ fun s hs => ⟨rfl, hs.1.1⟩

/-- The secret of the user is another than before. -/
def SecretChanged (victim : Id) (row₀ : User) (s : AuthStore) : Prop :=
  ∃ row, s.users.find? victim = some row ∧ row.twoFactorSecret ≠ row₀.twoFactorSecret

theorem SecretChanged.breaks (hrow₀ : s₀.users.find? victim = some row₀)
    (h : SecretChanged victim row₀ s) : ¬SecondFactorKept s₀ victim s := by
  obtain ⟨row, hrow, hne⟩ := h
  intro hkept
  have huser := hkept.user
  rw [hrow, hrow₀] at huser
  exact hne (congrArg Prod.fst (Option.some.inj huser))

/-- A secret that the client has set up replaces that of the user, whatever follows. -/
theorem enableTwoFactor_breaks (hrow₀ : s₀.users.find? victim = some row₀)
    {dto : EnableTwoFactorDto} (hmethod : dto.method = .totp) :
    Handler.Ensures (fun s => ¬SecretCode rt s₀ victim http.now s dto.code ∧
        ∃ row, s.users.find? victim = some row ∧ ∃ secret ∈ MfaService.pendingSecret row,
          rt.totpVerify dto.code secret http.now = true)
      (AuthService.enableTwoFactor rt http entropy victim dto)
      (fun _ => SecretChanged victim row₀) (SecretChanged victim row₀) := by
  have hload : ∀ s, (¬SecretCode rt s₀ victim http.now s dto.code ∧ ∃ row,
      s.users.find? victim = some row ∧ ∃ secret ∈ MfaService.pendingSecret row,
        rt.totpVerify dto.code secret http.now = true) → HasRow victim s := by
    rintro s ⟨_, row, hrow, _⟩
    exact Option.isSome_iff_exists.mpr ⟨row, hrow⟩
  refine ((loadUserOrThrow_succeeds hload).consequence (fun _ hs => hs)
    (fun _ _ hs => hs) fun _ h => h.elim).bind fun user => ?_
  refine Handler.Ensures.bind (Q := fun _ => SecretChanged victim row₀) ?_ fun updatedUser => ?_
  · intro s ⟨⟨hcode, row, hrow, secret, hpending, hverify⟩, hfind⟩
    obtain ⟨hrow', hload⟩ := AuthStore.findById_eq_some hfind
    obtain rfl : row = user.row := Option.some.inj (hrow.symm.trans hrow')
    have hid : user.id = victim := by
      rw [hload]
      rfl
    -- The pending secret accepts a code that the old secret would not.
    have hne : some secret ≠ row₀.twoFactorSecret := by
      intro heq
      exact hcode (.inl ⟨row₀, hrow₀, secret, by simp [← heq], hverify⟩)
    rw [AuthService.enableMethod, MfaService.enableTotp, hmethod, hpending]
    dsimp only
    rw [if_neg (by simp [hverify]), hid]
    refine UsersService.update_ensures (P := fun s => s.users.find? victim = some user.row)
      (fun s _ hs _ => ?_) (fun s hs hnone => ?_) s hrow
    · exact ⟨_, Serial.find?_modify_of_some hs _, hne⟩
    · rw [hs] at hnone
      cases hnone
  · refine Handler.Ensures.bind (Q := fun _ => SecretChanged victim row₀) ?_
      fun _ => Handler.Ensures.pure _ fun _ hs => hs
    rw [AuthService.maybeRememberDevice]
    split
    · refine Handler.Ensures.bind (Q := fun _ => SecretChanged victim row₀) ?_
        fun _ => Handler.Ensures.pure _ fun _ hs => hs
      refine Handler.Ensures.bind (Q := fun _ => SecretChanged victim row₀) ?_
        fun _ => Handler.Ensures.pure _ fun _ hs => hs
      refine Handler.Ensures.atomically (fun s _ s' hs h => ?_) fun s _ hs _ => hs
      split at h
      · cases h
      · cases h
        exact hs
    · exact Handler.Ensures.pure _ fun _ hs => hs

theorem withNewSession_secretChanged (user : SessionStateSnapshot) (cookie : Option String) :
    Handler.Ensures (SecretChanged victim row₀) (AuthController.withNewSession http user cookie)
      (fun _ => SecretChanged victim row₀) (SecretChanged victim row₀) := by
  refine Handler.Ensures.bind (Q := fun _ => SecretChanged victim row₀) ?_
    fun _ => Handler.Ensures.pure _ fun _ hs => hs
  refine Handler.Ensures.bind (Q := fun _ => SecretChanged victim row₀) ?_ fun sid => ?_
  · exact fun s hs => ⟨fun sid s' h => by cases h; exact hs, fun e s' h => by cases h⟩
  · refine Handler.Ensures.bind (Q := fun _ => SecretChanged victim row₀)
      (Handler.Ensures.write fun s hs => ?_) fun _ => Handler.Ensures.pure _ fun _ hs => hs
    rw [AuthService.registerSessionInCache]
    split
    · exact hs
    · exact hs

/-- New backup codes are others than before. -/
theorem generateBackupCodes_breaks (henabled : row₀.twoFactorEnabled = true) :
    Handler.Ensures (fun s => SecondFactorHeld s₀ victim row₀ s ∧ HasRow victim s)
      (AuthService.generateBackupCodes rt entropy victim)
      (fun _ s => s.codesOf victim ≠ s₀.codesOf victim)
      (fun s => s.codesOf victim ≠ s₀.codesOf victim) := by
  refine ((loadUserOrThrow_succeeds fun s hs => hs.2).consequence (fun _ hs => hs)
    (fun _ _ hs => hs) fun _ h => h.elim).bind fun user => ?_
  intro s ⟨⟨hs, _⟩, hfind⟩
  obtain ⟨hrow, hload⟩ := AuthStore.findById_eq_some hfind
  have hid : user.id = victim := by
    rw [hload]
    rfl
  have hen : user.row.twoFactorEnabled = true :=
    (congrArg Prod.snd (hs.secondFactor hrow)).trans henabled
  rw [if_neg (by simp [hen]), hid]
  refine Handler.Ensures.bind (Q := fun _ s => s.codesOf victim ≠ s₀.codesOf victim)
    (Handler.Ensures.write (P := fun s => s.backupCodes = s₀.backupCodes) fun s hs heq => ?_)
    (fun _ => ?_) s hs.backupCodes
  · -- the first of the new codes has an id that no code of `s₀` has
    obtain ⟨code, rest, hcodes⟩ := List.exists_cons_of_ne_nil
      (l := (MfaService.newBackupCodes rt entropy victim).map Prod.snd)
      (by simp [MfaService.newBackupCodes, MFA_BACKUP_CODES_COUNT])
    have huser : code.userId = victim := by
      have hmem : code ∈ (MfaService.newBackupCodes rt entropy victim).map Prod.snd :=
        hcodes ▸ List.mem_cons_self
      simp only [MfaService.newBackupCodes, List.map_map, List.mem_map] at hmem
      obtain ⟨_, _, rfl⟩ := hmem
      rfl
    have hmem : (s₀.backupCodes.next, code) ∈ s₀.codesOf victim := by
      rw [← heq, AuthStore.codesOf]
      refine List.mem_filter.mpr ⟨?_, by simp [huser]⟩
      dsimp only
      rw [hcodes, hs]
      exact Serial.mem_rows_foldl_create_cons code rest
    have hlt := s₀.backupCodes.lt_next _ (List.mem_map_of_mem (List.mem_filter.mp hmem).1)
    exact lt_irrefl _ hlt
  · refine Handler.Ensures.bind (Q := fun _ s => s.codesOf victim ≠ s₀.codesOf victim) ?_
      fun _ => Handler.Ensures.pure _ fun _ hs => hs
    exact UsersService.update_ensures (fun s _ hs _ => hs) fun s hs _ => hs

/-- The user of a session of the client, when it bypasses the second factor. -/
theorem authenticated_bypass {call : AuthCall} {request : TwoFactorRequest}
    (hrequest : call.request = .twoFactor request) :
    Handler.Ensures (fun s => SecondFactorHeld s₀ victim row₀ s ∧
        KnowsOnlyPassword rt s₀ victim s call ∧ Bypasses rt s call)
      (AuthController.authenticated call.http)
      (fun user s => user.id = victim ∧ SecondFactorHeld s₀ victim row₀ s ∧
        (∀ code ∈ request.codes, ¬SecretCode rt s₀ victim call.http.now s code) ∧
        ∃ row, s.users.find? victim = some row ∧ request.Escalates rt call.http.now row)
      (fun _ => False) := by
  have hguard : ∀ s, (SecondFactorHeld s₀ victim row₀ s ∧ KnowsOnlyPassword rt s₀ victim s call ∧
      Bypasses rt s call) → ∃ snapshot row, snapshot.id = victim ∧
        ((call.http.sessionID.bind s.sessions.find?).bind fun snapshot =>
          AuthService.deserializeUser snapshot s) = some snapshot ∧
        s.users.find? victim = some row ∧ request.Escalates rt call.http.now row := by
    rintro s ⟨hs, hclient, request', hrequest', sid, hsid, snapshot, hsnapshot, row, hrow, hesc⟩
    obtain rfl : request = request' := by
      rw [hrequest] at hrequest'
      exact AuthRequest.twoFactor.inj hrequest'
    obtain ⟨hid, _⟩ := hs.sessions sid snapshot (hclient.session sid hsid) hsnapshot
    refine ⟨snapshot, row, hid, ?_, hid ▸ hrow, hesc⟩
    rw [Option.mem_def.mp hsid, Option.bind_some, Option.mem_def.mp hsnapshot, Option.bind_some,
      AuthService.deserializeUser, Option.mem_def.mp hrow]
    rfl
  refine Handler.Ensures.read (fun s user hs h => ?_) fun s e hs h => ?_
  · obtain ⟨snapshot, row, hid, hfound, hrow, hesc⟩ := hguard s hs
    rw [hfound] at h
    obtain rfl := Except.ok.inj h
    exact ⟨hid, hs.1, hs.2.1.codes request hrequest, row, hrow, hesc⟩
  · obtain ⟨snapshot, row, hid, hfound, hrow, hesc⟩ := hguard s hs
    rw [hfound] at h
    cases h

/-- A request that bypasses the second factor breaks it at once. -/
theorem Bypasses.breaks (hrow₀ : s₀.users.find? victim = some row₀)
    (henabled : row₀.twoFactorEnabled = true) {call : AuthCall}
    (hs : SecondFactorHeld s₀ victim row₀ s) (hclient : KnowsOnlyPassword rt s₀ victim s call)
    (h : Bypasses rt s call) : ¬SecondFactorKept s₀ victim (call.step rt s) := by
  obtain ⟨request, hrequest, _⟩ := id h
  simp only [AuthCall.step, AuthController.handle]
  rw [hrequest]
  refine Handler.Ensures.snd (R := fun s => ¬SecondFactorKept s₀ victim s)
    (((authenticated_bypass hrequest).consequence (fun _ hs => hs) (fun _ _ hs => hs)
      fun _ h => h.elim).bind fun user => ?_) ⟨hs, hclient, h⟩
  intro s ⟨hid, hs, hcodes, row, hrow, hesc⟩
  have hhas : HasRow victim s := Option.isSome_iff_exists.mpr ⟨row, hrow⟩
  subst hid
  cases request with
  | enforceTwoFactor dto =>
    refine ((enforceTwoFactor_breaks henabled dto).consequence (fun _ hs => hs)
      (fun _ _ hs => hs) fun _ h => h.elim).bind (fun user => ?_) s ⟨hs, hhas⟩
    exact fun s hs => withNewSession_breaks hs.1 none s hs.2
  | disableTwoFactor dto =>
    refine ((disableTwoFactor_breaks hesc).consequence (fun _ hs => hs)
      (fun _ _ hs => hs) fun _ h => h.elim).bind (fun user => ?_) s ⟨hs, hhas⟩
    exact fun s hs => withNewSession_breaks hs.1 none s hs.2
  | enableTwoFactor dto =>
    obtain ⟨hmethod, secret, hpending, hverify⟩ := hesc
    refine Handler.Ensures.consequence ((enableTwoFactor_breaks hrow₀ hmethod).bind fun p =>
      withNewSession_secretChanged p.1 p.2) (fun _ hs => hs) (fun _ _ hs => hs.breaks hrow₀)
      (fun _ hs => hs.breaks hrow₀) s
      ⟨hcodes dto.code (List.mem_singleton.mpr rfl), row, hrow, secret, hpending, hverify⟩
  | generateBackupCodes =>
    have hne : ∀ t : AuthStore, t.codesOf user.id ≠ s₀.codesOf user.id →
        ¬SecondFactorKept s₀ user.id t := fun t ht hkept => ht hkept.backupCodes
    exact ((generateBackupCodes_breaks henabled).consequence (fun _ hs => hs)
      (fun _ t ht => hne t ht) hne).bind (fun codes => Handler.Ensures.pure _ fun _ hs => hs) s
      ⟨hs, hhas⟩
  | initiateTotpSetup => exact hesc.elim
  | sendChallenge dto => exact hesc.elim
  | verifyTwoFactor dto => exact hesc.elim
  | adminEnforceTwoFactor dto => exact hesc.elim

end Bypass

/-- Along a run of a client that knows only the password of a user with a second factor, the
second factor is kept in every state exactly if no request of the run enforces it, overrides it
as an administrator, draws new backup codes or enables a secret by a code for it. -/
theorem second_factor_kept_iff {rt : Runtime} {s₀ : AuthStore} {victim : Id} {row₀ : User}
    (hrow₀ : s₀.users.find? victim = some row₀) (henabled : row₀.twoFactorEnabled = true)
    {calls : List AuthCall}
    (hclient : Runs.AllMeet (AuthCall.step rt) (KnowsOnlyPassword rt s₀ victim) calls s₀) :
    Runs.Always (AuthCall.step rt) (SecondFactorKept s₀ victim) calls s₀ ↔
      Runs.AllMeet (AuthCall.step rt) (fun s call => ¬Bypasses rt s call) calls s₀ := by
  have hstart : SecondFactorHeld s₀ victim row₀ s₀ := by
    refine ⟨le_refl _, fun sid snapshot hsid hfind => ?_, by rw [hrow₀]; rfl, rfl, rfl⟩
    have hlt := s₀.sessions.lt_next sid
      (List.mem_map_of_mem (f := Prod.fst) (Table.mem_rows_of_find? hfind))
    exact absurd hlt (Nat.not_lt_of_le hsid)
  refine Runs.always_iff_allMeet (I := SecondFactorHeld s₀ victim row₀) (fun s hs => hs.kept hrow₀)
    (fun s call hs hknows hgood => hs.step hrow₀ henabled hknows hgood) (fun s call hs hknows h => ?_)
    hstart hclient
  exact Bypasses.breaks hrow₀ henabled hs hknows (not_not.mp h)

/-- A login with the password, and an enforcement in the session that it begins. -/
def loginAndEnforce : List AuthCall :=
  let entropy : Entropy := ⟨"", "", fun _ => "", "", fun _ => 0⟩
  [⟨⟨none, none, none, none, 0⟩, entropy, .login "a@b.c" "password"⟩,
    ⟨⟨some 0, none, none, none, 1⟩, entropy, .twoFactor (.enforceTwoFactor ⟨true⟩)⟩]

theorem loginAndEnforce_client :
    Runs.AllMeet (AuthCall.step .plain) (KnowsOnlyPassword .plain (.withUser secured) 0)
      loginAndEnforce (.withUser secured) := by
  refine ⟨⟨fun sid h => ?_, fun token h => ?_, fun email password h r hr hne => ?_,
    fun request h => ?_⟩, ⟨fun sid _ => Nat.zero_le sid, fun token h => ?_,
    fun email password h => ?_, fun request h code hcode => ?_⟩, trivial⟩
  · cases h
  · cases h
  · obtain rfl := List.mem_singleton.mp hr
    exact absurd rfl hne
  · cases h
  · cases h
  · cases h
  · obtain rfl := AuthRequest.twoFactor.inj h
    cases hcode

theorem second_factor_kept_iff_loginAndEnforce :
    Runs.Always (AuthCall.step .plain) (SecondFactorKept (.withUser secured) 0) loginAndEnforce
        (.withUser secured) ↔
      Runs.AllMeet (AuthCall.step .plain) (fun s call => ¬Bypasses .plain s call) loginAndEnforce
        (.withUser secured) :=
  have hrow₀ : (AuthStore.withUser secured).users.find? 0 = some secured := rfl
  second_factor_kept_iff hrow₀ rfl loginAndEnforce_client

/-- The enforcement verifies the session without a code. -/
theorem enforce_verifies_session :
    Runs.AllMeet (AuthCall.step .plain) (KnowsOnlyPassword .plain (.withUser secured) 0)
        loginAndEnforce (.withUser secured) ∧
      ¬Runs.Always (AuthCall.step .plain) (SecondFactorKept (.withUser secured) 0) loginAndEnforce
        (.withUser secured) := by
  refine ⟨loginAndEnforce_client, fun ⟨_, _, hkept⟩ => ?_⟩
  have hverified := hkept.sessions 1 ⟨0, false, true⟩ (by decide) (by decide +kernel)
  cases hverified

end Invetrixa
