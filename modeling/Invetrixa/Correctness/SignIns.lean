import Invetrixa.Auth.Registration

/-!
# What sign-ins leave alone

Signing in and the endpoints on the second factor write users, devices, codes, challenges and
sessions. Of a user they never touch what the account is recovered by, and of a device that is
there, whose it is and how long it is trusted. A view that sees nothing else of what they write
stays as it is, but for the three requests that may add devices or drop them. Sessions are only
written once a password or a code has been checked.

## Main definitions

- `User.credentials`, `TrustedDevice.trust` — what is left of a row
- `ChecksLeave` — a view that sees no more of the rows, nor codes or challenges
- `FactorsLeave`, `SignInsLeave` — it sees no devices, or no sessions, either

## Main results

- `FactorsLeave.verifyTwoFactor`, `FactorsLeave.enableTwoFactor`, `FactorsLeave.disableTwoFactor`
- `SignInsLeave.login`, `SignInsLeave.serve`
- `shouldRequireTwoFactor_eq_false_iff`, `loginSession_ok` — what a login with the right password
  does
-/

namespace Invetrixa

open Rowstore Requests

/-- What an account is recovered by. -/
structure Credentials where
  email : String
  password : String
  emailVerified : Option ℕ
  isActive : Bool
  sessionVersion : ℕ
  deriving DecidableEq

def User.credentials (row : User) : Credentials :=
  ⟨row.email, row.password, row.emailVerified, row.isActive, row.sessionVersion⟩

/-- Whose a device is, and how long it is trusted. -/
structure DeviceTrust where
  userId : Id
  status : TrustedDeviceStatus
  expiresAt : ℕ
  deriving DecidableEq

def TrustedDevice.trust (device : TrustedDevice) : DeviceTrust :=
  ⟨device.userId, device.status, device.expiresAt⟩

/-- A view of the accounts that the checks of passwords and codes leave alone. -/
structure ChecksLeave {ν : Type*} (v : AuthStore → ν) : Prop where
  user : ∀ s id f, (∀ row, (f row).credentials = row.credentials) → v (s.modifyUser id f) = v s
  device : ∀ (s : AuthStore) deviceId f,
    (∀ device, (f device).trust = device.trust) →
      v { s with trustedDevices := s.trustedDevices.modify deviceId f } = v s
  codes : ∀ (s : AuthStore) backupCodes challenges, v { s with backupCodes, challenges } = v s

/-- The view does not see devices come and go. -/
structure FactorsLeave {ν : Type*} (v : AuthStore → ν) : Prop extends ChecksLeave v where
  devices : ∀ (s : AuthStore) trustedDevices, v { s with trustedDevices } = v s

/-- A view of the accounts that sign-ins leave alone, as long as no device comes or goes. -/
structure SignInsLeave {ν : Type*} (v : AuthStore → ν) : Prop extends ChecksLeave v where
  sessions : ∀ (s : AuthStore) sessions sessionIndex, v { s with sessions, sessionIndex } = v s

/-- A request that may add devices or drop them. -/
def TwoFactorRequest.handlesDevices : TwoFactorRequest → Bool
  | .verifyTwoFactor _ | .enableTwoFactor _ | .disableTwoFactor _ => true
  | _ => false

namespace ChecksLeave

variable {rt : Runtime} {http : HttpRequest} {entropy : Entropy} {ν : Type*}
  {v : AuthStore → ν} (hv : ChecksLeave v)

include hv

section Users

theorem update {f : User → User} (hf : ∀ row, (f row).credentials = row.credentials)
    (id : Id) : Handler.Keeps v (UsersService.update id f) := by
  apply Handler.Keeps.atomically
  intro s user s' h
  split at h
  · cases h
  · cases h
    exact hv.user s id f hf

theorem updateTrustedDevice {f : TrustedDevice → TrustedDevice}
    (hf : ∀ device, (f device).trust = device.trust) (deviceId : String) :
    Handler.Keeps v (UsersService.updateTrustedDevice deviceId f) := by
  apply Handler.Keeps.atomically
  intro s a s' h
  obtain ⟨_, h⟩ := Except.ite_error_eq_ok_iff.mp h
  cases h
  exact hv.device s deviceId f hf

theorem markBackupCodeUsed (now id : ℕ) :
    Handler.Keeps v (UsersService.markBackupCodeUsed now id) := by
  apply Handler.Keeps.atomically
  intro s a s' h
  obtain ⟨_, h⟩ := Except.ite_error_eq_ok_iff.mp h
  cases h
  exact hv.codes s _ _

theorem updateChallenge (id : Id) (f : TwoFactorChallenge → TwoFactorChallenge) :
    Handler.Keeps v (UsersService.updateChallenge id f) := by
  apply Handler.Keeps.atomically
  intro s a s' h
  obtain ⟨_, h⟩ := Except.ite_error_eq_ok_iff.mp h
  cases h
  exact hv.codes s _ _

end Users

section Mfa

theorem enableTotp (now : ℕ) (user : UserWithPreferences) (code : String) :
    Handler.Keeps v (MfaService.enableTotp rt now user code) := by
  rw [MfaService.enableTotp]
  split
  · apply Handler.Keeps.refuse
  · split
    · apply Handler.Keeps.refuse
    · apply hv.update
      exact fun _ => rfl

theorem createOutOfBandChallenge (now userId : ℕ) (channel : MfaChallengeChannel) :
    Handler.Keeps v
      (MfaService.createOutOfBandChallenge rt now entropy userId channel) := by
  rw [MfaService.createOutOfBandChallenge]
  split
  · apply Handler.Keeps.pure
  · apply Handler.Keeps.atomically
    intro s a s' h
    obtain ⟨_, h⟩ := Except.ite_error_eq_ok_iff.mp h
    cases h
    exact hv.codes s _ _

theorem verifyOutOfBandChallenge (now userId : ℕ) (channel : MfaChallengeChannel)
    (code : String) : Handler.Keeps v
      (MfaService.verifyOutOfBandChallenge rt now userId channel code) := by
  apply Handler.Keeps.bind (Handler.Keeps.read _)
  intro check
  cases check with
  | absent => exact Handler.Keeps.pure false
  | spent id => exact (hv.updateChallenge _ _).bind fun _ => Handler.Keeps.pure false
  | wrong id => exact (hv.updateChallenge _ _).bind fun _ => Handler.Keeps.pure false
  | right id => exact (hv.updateChallenge _ _).bind fun _ => Handler.Keeps.pure true

theorem validateBackupCode (now : ℕ) (user : UserWithPreferences) (code : String) :
    Handler.Keeps v (MfaService.validateBackupCode rt now user code) := by
  rw [MfaService.validateBackupCode]
  split
  · exact (hv.markBackupCodeUsed _ _).bind fun _ => Handler.Keeps.pure true
  · exact Handler.Keeps.pure false

theorem generateBackupCodes (userId : Id) :
    Handler.Keeps v (MfaService.generateBackupCodes rt entropy userId) := by
  apply Handler.Keeps.bind
  · apply Handler.Keeps.write
    exact fun s => hv.codes s _ _
  · intro _
    apply Handler.Keeps.bind
    · apply hv.update
      exact fun _ => rfl
    · exact fun _ => Handler.Keeps.pure _

end Mfa

section Auth

omit hv in
theorem loadUserOrThrow (userId : Id) :
    Handler.Keeps v (AuthService.loadUserOrThrow userId) :=
  Handler.Keeps.read _

theorem verifyCode (user : UserWithPreferences) (code : String)
    (channel : MfaService.TwoFactorVerificationChannel) :
    Handler.Keeps v (AuthService.verifyCode rt http user code channel) := by
  cases channel with
  | totp => exact Handler.Keeps.pure _
  | email => exact hv.verifyOutOfBandChallenge _ _ _ _
  | backupCode => exact hv.validateBackupCode _ _ _

theorem enableMethod (user : UserWithPreferences) (dto : EnableTwoFactorDto) :
    Handler.Keeps v (AuthService.enableMethod rt http user dto) := by
  rw [AuthService.enableMethod]
  split
  · apply hv.enableTotp
  · apply Handler.Keeps.bind (hv.verifyOutOfBandChallenge _ _ _ _)
    intro verified
    split
    · apply hv.update
      exact fun _ => rfl
    · apply Handler.Keeps.refuse
  · apply Handler.Keeps.refuse

theorem authorizeDisable (user : UserWithPreferences) (dto : DisableTwoFactorDto) :
    Handler.Keeps v (AuthService.authorizeDisable rt http user dto) := by
  have hverify : Handler.Keeps v
      (AuthService.verifyDisableRequest rt http user dto) := by
    rw [AuthService.verifyDisableRequest]
    split
    · split
      · apply Handler.Keeps.refuse
      · apply hv.verifyCode
    · split
      · apply Handler.Keeps.refuse
      · apply hv.verifyCode
  rw [AuthService.authorizeDisable]
  split
  · apply Handler.Keeps.pure
  · apply hverify.bind
    intro verified
    split
    · apply Handler.Keeps.pure
    · apply Handler.Keeps.refuse

theorem loginSession (user : UserWithPreferences) :
    Handler.Keeps v (AuthService.loginSession rt http user) := by
  simp only [AuthService.loginSession]
  split
  · apply Handler.Keeps.bind
    · apply hv.updateTrustedDevice
      exact fun _ => rfl
    · exact fun _ => Handler.Keeps.pure _
  · exact Handler.Keeps.pure _

theorem validateUser (email password : String) :
    Handler.Keeps v (AuthService.validateUser rt http email password) := by
  apply Handler.Keeps.bind (Handler.Keeps.read _)
  intro user
  split
  · apply Handler.Keeps.bind
    · apply hv.update
      exact fun _ => rfl
    · exact fun _ => hv.loginSession user
  · apply Handler.Keeps.bind
    · apply Handler.Keeps.bind
      · apply hv.update
        exact fun _ => rfl
      · exact fun _ => Handler.Keeps.pure _
    · exact fun _ => Handler.Keeps.refuse _

theorem sendTwoFactorChallenge (userId : Id) (dto : SendChallengeDto) :
    Handler.Keeps v
      (AuthService.sendTwoFactorChallenge rt http entropy userId dto) := by
  apply Handler.Keeps.bind (loadUserOrThrow userId)
  intro user
  split
  · apply Handler.Keeps.refuse
  · have hchannel : ∀ channel, Handler.Keeps v
        (MfaService.assertChannelSupported channel) := by
      intro channel
      cases channel with
      | sms => exact Handler.Keeps.refuse _
      | email => exact Handler.Keeps.pure _
    exact (hchannel _).bind fun _ => hv.createOutOfBandChallenge _ _ _

theorem initiateTotpSetup (userId : Id) :
    Handler.Keeps v (AuthService.initiateTotpSetup entropy userId) := by
  apply Handler.Keeps.bind (loadUserOrThrow userId)
  intro user
  apply Handler.Keeps.bind
  · apply hv.update
    exact fun _ => rfl
  · exact fun _ => Handler.Keeps.pure _

theorem newBackupCodes (userId : Id) :
    Handler.Keeps v (AuthService.generateBackupCodes rt entropy userId) := by
  apply Handler.Keeps.bind (loadUserOrThrow userId)
  intro user
  split
  · apply Handler.Keeps.refuse
  · apply hv.generateBackupCodes

theorem enforce {f : UserWithPreferences → SessionStateSnapshot} (userId : Id)
    (enforced : Bool) : Handler.Keeps v (do
      let updatedUser ← UsersService.update userId (AuthService.enforce http enforced)
      return f updatedUser) := by
  apply Handler.Keeps.bind
  · apply hv.update
    exact fun _ => rfl
  · exact fun _ => Handler.Keeps.pure _

end Auth

end ChecksLeave

section Factors

variable {rt : Runtime} {http : HttpRequest} {entropy : Entropy} {ν : Type*}
  {v : AuthStore → ν}

namespace FactorsLeave

variable (hv : FactorsLeave v)

include hv

theorem rememberedDevice (deviceId : String) (device : TrustedDevice) :
    Handler.Keeps v (UsersService.createTrustedDevice deviceId device) := by
  apply Handler.Keeps.atomically
  intro s a s' h
  obtain ⟨_, h⟩ := Except.ite_error_eq_ok_iff.mp h
  cases h
  exact hv.devices s _

theorem withoutTwoFactor (userId : Id) :
    Handler.Keeps v (MfaService.disableTwoFactor userId) := by
  apply Handler.Keeps.atomically
  intro s a s' h
  obtain ⟨_, h⟩ := Except.ite_error_eq_ok_iff.mp h
  cases h
  let s₁ := s.modifyUser userId MfaService.withoutTwoFactor
  have hcodes := hv.codes s₁ (s.backupCodes.deleteWhere fun _ code => code.userId = userId)
    (s.challenges.deleteWhere fun _ challenge => challenge.userId = userId)
  have huser : v s₁ = v s := hv.user s userId _ fun _ => rfl
  exact (hv.devices _ _).trans (hcodes.trans huser)

theorem maybeRememberDevice (userId : Id) (rememberDevice : Option Bool)
    (deviceLabel : Option String) : Handler.Keeps v
      (AuthService.maybeRememberDevice rt http entropy userId rememberDevice deviceLabel) := by
  rw [AuthService.maybeRememberDevice]
  split
  · apply Handler.Keeps.map
    exact (hv.rememberedDevice _ _).bind fun _ => Handler.Keeps.pure _
  · apply Handler.Keeps.pure

theorem verifyTwoFactor (userId : Id) (dto : VerifyTwoFactorDto) :
    Handler.Keeps v (AuthService.verifyTwoFactor rt http entropy userId dto) := by
  apply Handler.Keeps.bind (ChecksLeave.loadUserOrThrow userId)
  intro user
  apply Handler.Keeps.bind (hv.verifyCode user dto.code dto.channel)
  intro verified
  split
  · apply Handler.Keeps.bind
    · apply hv.update
      exact fun _ => rfl
    · intro _
      apply Handler.Keeps.bind (ChecksLeave.loadUserOrThrow user.id)
      intro refreshed
      exact (hv.maybeRememberDevice _ _ _).bind fun _ => Handler.Keeps.pure _
  · apply Handler.Keeps.refuse

theorem enableTwoFactor (userId : Id) (dto : EnableTwoFactorDto) :
    Handler.Keeps v (AuthService.enableTwoFactor rt http entropy userId dto) := by
  apply Handler.Keeps.bind (ChecksLeave.loadUserOrThrow userId)
  intro user
  apply Handler.Keeps.bind (hv.enableMethod user dto)
  intro updated
  exact (hv.maybeRememberDevice _ _ _).bind fun _ => Handler.Keeps.pure _

theorem disableTwoFactor (userId : Id) (dto : DisableTwoFactorDto) :
    Handler.Keeps v (AuthService.disableTwoFactor rt http userId dto) := by
  apply Handler.Keeps.bind (ChecksLeave.loadUserOrThrow userId)
  intro user
  apply Handler.Keeps.bind (hv.authorizeDisable user dto)
  intro _
  apply Handler.Keeps.bind (hv.withoutTwoFactor user.id)
  intro _
  exact (ChecksLeave.loadUserOrThrow user.id).bind fun _ => Handler.Keeps.pure _

end FactorsLeave

namespace SignInsLeave

variable (hv : SignInsLeave v)

include hv

theorem persistSession (user : SessionStateSnapshot) :
    Handler.Keeps v (AuthController.persistSession http user) := by
  intro s
  show v (AuthService.registerSessionInCache user.id _ _) = v s
  rw [AuthService.registerSessionInCache]
  split
  · exact hv.sessions s _ _
  · exact hv.sessions s _ _

theorem withNewSession (user : SessionStateSnapshot) (deviceCookie : Option String) :
    Handler.Keeps v
      (AuthController.withNewSession http user deviceCookie) :=
  (hv.persistSession user).bind fun _ => Handler.Keeps.pure _

/-- A login. -/
theorem login (email password : String) :
    Handler.Keeps v (AuthController.login rt http email password) := by
  apply Handler.Keeps.bind (hv.validateUser email password)
  intro user
  apply Handler.Keeps.bind (hv.persistSession user)
  intro sid
  exact (ChecksLeave.loadUserOrThrow user.id).bind fun _ => Handler.Keeps.pure _

/-- A request that adds no device and drops none. -/
theorem serve (sessionUser : SessionStateSnapshot) {request : TwoFactorRequest}
    (hrequest : request.handlesDevices = false) :
    Handler.Keeps v
      (AuthController.serve rt http entropy sessionUser request) := by
  cases request with
  | initiateTotpSetup =>
    exact (hv.initiateTotpSetup sessionUser.id).bind fun _ => Handler.Keeps.pure _
  | sendChallenge dto =>
    exact (hv.sendTwoFactorChallenge sessionUser.id dto).bind fun _ => Handler.Keeps.pure _
  | verifyTwoFactor dto => cases hrequest
  | enableTwoFactor dto => cases hrequest
  | disableTwoFactor dto => cases hrequest
  | generateBackupCodes =>
    exact (hv.newBackupCodes sessionUser.id).bind fun _ => Handler.Keeps.pure _
  | enforceTwoFactor dto =>
    exact (hv.enforce sessionUser.id dto.enforced).bind fun _ => hv.withNewSession _ _
  | adminEnforceTwoFactor dto =>
    apply Handler.Keeps.bind (hv.enforce dto.userId dto.enforced)
    intro response
    split
    · apply Handler.Keeps.bind (Handler.Keeps.read _)
      intro refreshed
      split
      · exact (hv.persistSession _).bind fun _ => Handler.Keeps.pure _
      · exact Handler.Keeps.pure _
    · exact Handler.Keeps.pure _

end SignInsLeave

end Factors

section Login

variable {rt : Runtime} {http : HttpRequest} {s : AuthStore} {user : UserWithPreferences}

/-- A device is found by the hash of its cookie. -/
theorem findTrustedDevice_eq_some_iff (huser : user = s.withPreferences user.id user.row)
    {device : String × TrustedDevice} :
    MfaService.findTrustedDevice rt http user = some device ↔ ∃ cookie,
      truthy http.mfaDeviceId = some cookie ∧ device.1 = rt.sha256 cookie ∧
      s.trustedDevices.find? device.1 = some device.2 ∧ device.2.userId = user.id ∧
      device.2.status = .active ∧ http.now < device.2.expiresAt := by
  have hloaded : user.trustedDevices = s.trustedDevices.rows.filter fun r => r.2.userId = user.id :=
    congrArg UserWithPreferences.trustedDevices huser
  rw [MfaService.findTrustedDevice, Option.bind_eq_bind, Option.bind_eq_some_iff, hloaded]
  constructor
  · rintro ⟨cookie, hcookie, hfind⟩
    obtain ⟨hrow, hown⟩ := List.mem_filter.mp (List.mem_of_find?_eq_some hfind)
    have hmatch : device.1 = rt.sha256 cookie ∧ device.2.status = .active ∧
        http.now < device.2.expiresAt := by
      simpa using List.find?_some hfind
    exact ⟨cookie, hcookie, hmatch.1, Table.find?_of_mem_rows hrow, of_decide_eq_true hown,
      hmatch.2⟩
  · rintro ⟨cookie, hcookie, hid, hrow, hown, hactive, hlive⟩
    refine ⟨cookie, hcookie, ?_⟩
    have hmem : device ∈ s.trustedDevices.rows.filter fun r => r.2.userId = user.id :=
      List.mem_filter.mpr ⟨Table.mem_rows_of_find? hrow, decide_eq_true hown⟩
    have hsome : ((s.trustedDevices.rows.filter fun r => r.2.userId = user.id).find? fun r =>
        r.1 = rt.sha256 cookie ∧ r.2.status = .active ∧ http.now < r.2.expiresAt).isSome :=
      List.find?_isSome.mpr ⟨device, hmem, decide_eq_true ⟨hid, hactive, hlive⟩⟩
    obtain ⟨found, hfound⟩ := Option.isSome_iff_exists.mp hsome
    -- the ids of devices are unique
    have hfoundId : found.1 = rt.sha256 cookie := by
      have hmatch := List.find?_some hfound
      rw [decide_eq_true_eq] at hmatch
      exact hmatch.1
    have hfoundRow := Table.find?_of_mem_rows
      (List.mem_filter.mp (List.mem_of_find?_eq_some hfound)).1
    rw [hfoundId, ← hid, hrow] at hfoundRow
    rw [hfound]
    exact congrArg some (Prod.ext (hfoundId.trans hid.symm) (Option.some.inj hfoundRow).symm)

/-- The second factor is not asked for where there is none, or on a device of the user in its term
that is where it was. -/
theorem shouldRequireTwoFactor_eq_false_iff (huser : user = s.withPreferences user.id user.row) :
    (MfaService.shouldRequireTwoFactor rt http user).1 = false ↔
      (user.row.twoFactorEnabled = false ∧ user.row.twoFactorEnforced = false) ∨
      ∃ cookie device, truthy http.mfaDeviceId = some cookie ∧
        s.trustedDevices.find? (rt.sha256 cookie) = some device ∧ device.userId = user.id ∧
        device.status = .active ∧ http.now < device.expiresAt ∧
        MfaService.hasMoved http device = false := by
  rw [MfaService.shouldRequireTwoFactor]
  by_cases hnone : user.row.twoFactorEnabled = false ∧ user.row.twoFactorEnforced = false
  · simp [hnone]
  · rw [if_neg hnone]
    simp only [hnone, false_or]
    constructor
    · intro h
      split at h
      · cases h
      · next device hdevice =>
        obtain ⟨cookie, hcookie, hid, hrow, hown, hactive, hlive⟩ :=
          (findTrustedDevice_eq_some_iff huser).mp hdevice
        split at h
        · cases h
        · next hmoved =>
          exact ⟨cookie, device.2, hcookie, hid ▸ hrow, hown, hactive, hlive,
            Bool.eq_false_iff.mpr hmoved⟩
    · rintro ⟨cookie, device, hcookie, hrow, hown, hactive, hlive, hmoved⟩
      have hdevice : MfaService.findTrustedDevice rt http user = some (rt.sha256 cookie, device) :=
        (findTrustedDevice_eq_some_iff huser).mpr
          ⟨cookie, hcookie, rfl, hrow, hown, hactive, hlive⟩
      simp [hdevice, hmoved]

/-- The session of a user whose password was right is always made. -/
theorem loginSession_ok (rt : Runtime) (http : HttpRequest) (s' : AuthStore)
    (huser : user = s.withPreferences user.id user.row)
    (hdevices : s'.trustedDevices = s.trustedDevices) :
    ∃ s'', AuthService.loginSession rt http user s' =
        (.ok (buildSessionUser user.id ⟨some (MfaService.shouldRequireTwoFactor rt http user).1,
          some !(MfaService.shouldRequireTwoFactor rt http user).1⟩), s'') ∧
      s''.users = s'.users := by
  have hdevice : ∀ device, MfaService.shouldRequireTwoFactor rt http user = (false, some device) →
      (s'.trustedDevices.find? device.1).isSome := by
    intro device h
    have hfound : MfaService.findTrustedDevice rt http user = some device := by
      rw [MfaService.shouldRequireTwoFactor] at h
      split at h
      · cases h
      · split at h
        · cases h
        · next heq =>
          split at h
          · cases h
          · rw [heq, (Prod.mk.inj h).2]
    obtain ⟨_, _, _, hrow, _⟩ := (findTrustedDevice_eq_some_iff huser).mp hfound
    rw [hdevices]
    exact Option.isSome_iff_exists.mpr ⟨device.2, hrow⟩
  cases hrequire : MfaService.shouldRequireTwoFactor rt http user with
  | mk require trusted =>
    cases require with
    | true =>
      simp only [AuthService.loginSession, hrequire]
      exact ⟨_, rfl, rfl⟩
    | false =>
      cases trusted with
      | none =>
        simp only [AuthService.loginSession, hrequire]
        exact ⟨_, rfl, rfl⟩
      | some device =>
        have hsome := hdevice device hrequire
        have hupdate : ∀ f, UsersService.updateTrustedDevice device.1 f s' =
            (.ok ⟨⟩, { s' with trustedDevices := s'.trustedDevices.modify device.1 f }) := by
          intro f
          rw [UsersService.updateTrustedDevice, Handler.atomically]
          apply transaction_of_ok
          rw [if_neg]
          rw [← Option.not_isSome, hsome]
          exact Bool.false_ne_true
        simp only [AuthService.loginSession, hrequire, MfaService.updateTrustedDeviceUsage, bind,
          hupdate]
        exact ⟨_, rfl, rfl⟩

end Login

end Invetrixa
