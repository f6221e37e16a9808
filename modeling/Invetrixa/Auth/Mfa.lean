import Invetrixa.Auth.Accounts

/-!
# The second factor

`MfaService`: authenticator secrets, backup codes, trusted devices and the codes sent out of band.
Checks that are made on what was read, with the slow hashing after it, are functions of the
state of their own, so that the writes they lead to can come later.

## Main definitions

- `MfaService.initiateTotpSetup`, `enableTotp`, `disableTwoFactor`
- `MfaService.generateBackupCodes`, `validateBackupCode`
- `MfaService.shouldRequireTwoFactor`, `rememberDevice`
- `MfaService.createOutOfBandChallenge`, `verifyOutOfBandChallenge`
-/

namespace Invetrixa

open Rowstore Requests

/-- What the server sees of a request besides its body. -/
structure HttpRequest where
  /-- the session that the cookie names -/
  sessionID : Option Id
  /-- the cookie of a remembered device -/
  mfaDeviceId : Option String
  ip : Option String
  userAgent : Option String
  now : ℕ

namespace MfaService

variable (rt : Runtime)

/-- A fresh secret is kept beside the one in use, and shown. -/
def initiateTotpSetup (entropy : Entropy) (user : UserWithPreferences) : AuthHandler String := do
  let secret := entropy.totpSecret
  let _ ← UsersService.update user.id fun row =>
    { row with twoFactorTempSecret := some secret, twoFactorType := some .totp }
  return secret

/-- The secret that a code enables: the one set up last, else the one in use. -/
def pendingSecret (row : User) : Option String :=
  truthy (row.twoFactorTempSecret.or row.twoFactorSecret)

def enableTotp (now : ℕ) (user : UserWithPreferences) (code : String) :
    AuthHandler UserWithPreferences :=
  match pendingSecret user.row with
  | none => Handler.refuse (.badRequest "No TOTP secret generated. Please initiate setup first.")
  | some secret =>
    if rt.totpVerify code secret now = false then
      Handler.refuse (.unauthorized "Invalid authenticator code provided.")
    else
      UsersService.update user.id fun row =>
        { row with
          twoFactorSecret := some secret
          twoFactorTempSecret := none
          twoFactorEnabled := true
          twoFactorVerifiedAt := some now
          twoFactorType := some .totp }

/-- A user without a second factor. -/
def withoutTwoFactor (row : User) : User :=
  { row with
    twoFactorEnabled := false
    twoFactorSecret := none
    twoFactorTempSecret := none
    twoFactorType := none
    twoFactorEnforced := false
    twoFactorEnforcedAt := none
    twoFactorVerifiedAt := none }

def disableTwoFactor (userId : Id) : AuthHandler PUnit :=
  Handler.atomically fun s =>
    if (s.users.find? userId).isNone then .error recordNotFound
    else .ok (⟨⟩, { s.modifyUser userId withoutTwoFactor with
      backupCodes := s.backupCodes.deleteWhere fun _ code => code.userId = userId
      trustedDevices := s.trustedDevices.deleteWhere fun _ device => device.userId = userId
      challenges := s.challenges.deleteWhere fun _ challenge => challenge.userId = userId })

def verifyTotp (now : ℕ) (row : User) (code : String) : Bool :=
  match truthy row.twoFactorSecret with
  | none => false
  | some secret => rt.totpVerify code secret now

/-- The codes that a request draws, and their rows. -/
def newBackupCodes (entropy : Entropy) (userId : Id) : List (String × TwoFactorBackupCode) :=
  (List.range MFA_BACKUP_CODES_COUNT).map fun i =>
    let code := entropy.backupCode i
    (code, { userId, codeHash := rt.argonHash code (entropy.salt i), used := false, usedAt := none })

def generateBackupCodes (entropy : Entropy) (userId : Id) : AuthHandler (List String) := do
  let codes := newBackupCodes rt entropy userId
  UsersService.replaceBackupCodes userId (codes.map Prod.snd)
  let _ ← UsersService.update userId fun row =>
    { row with twoFactorBackupCodesVersion := row.twoFactorBackupCodesVersion + 1 }
  return codes.map Prod.fst

/-- The first unused code of a user, as loaded, that the text matches. -/
def findBackupCode (user : UserWithPreferences) (code : String) : Option Id :=
  let normalized := trim code
  (user.twoFactorBackupCodes.find? fun backupCode =>
    backupCode.2.used = false ∧ rt.argonVerify backupCode.2.codeHash normalized).map Prod.fst

def validateBackupCode (now : ℕ) (user : UserWithPreferences) (code : String) :
    AuthHandler Bool :=
  match findBackupCode rt user code with
  | some id => do
    UsersService.markBackupCodeUsed now id
    return true
  | none => return false

/-- A code that is found is one of the user's, as loaded, and not used. -/
theorem findBackupCode_eq_some {user : UserWithPreferences} {code : String} {id : Id}
    (h : findBackupCode rt user code = some id) :
    ∃ c, (id, c) ∈ user.twoFactorBackupCodes ∧ c.used = false ∧
      rt.argonVerify c.codeHash (trim code) = true := by
  obtain ⟨⟨id', c⟩, hfind, rfl⟩ := Option.map_eq_some_iff.mp h
  have hmatch : c.used = false ∧ rt.argonVerify c.codeHash (trim code) = true := by
    simpa using List.find?_some hfind
  exact ⟨c, List.mem_of_find?_eq_some hfind, hmatch.1, hmatch.2⟩

/-- The device that a cookie names, when the user trusts it and its term has not run out. -/
def findTrustedDevice (http : HttpRequest) (user : UserWithPreferences) :
    Option (String × TrustedDevice) := do
  let deviceToken ← truthy http.mfaDeviceId
  user.trustedDevices.find? fun device =>
    device.1 = rt.sha256 deviceToken ∧ device.2.status = .active ∧ http.now < device.2.expiresAt

/-- A device seen under another address, or with another user agent. -/
def hasMoved (http : HttpRequest) (device : TrustedDevice) : Bool :=
  (truthy device.ipAddress).any (fun ip => http.ip ≠ some ip) ∨
    (truthy device.userAgent).any fun userAgent =>
      (truthy http.userAgent).any fun seen => seen ≠ userAgent

/-- Whether the second factor is asked for, and the trusted device that makes it unnecessary. -/
def shouldRequireTwoFactor (http : HttpRequest) (user : UserWithPreferences) :
    Bool × Option (String × TrustedDevice) :=
  if user.row.twoFactorEnabled = false ∧ user.row.twoFactorEnforced = false then (false, none)
  else
    match findTrustedDevice rt http user with
    | none => (true, none)
    | some device => if hasMoved http device.2 then (true, none) else (false, some device)

/-- The device of a request is trusted from now on; its cookie is the answer. -/
def rememberDevice (http : HttpRequest) (entropy : Entropy) (userId : Id)
    (label : Option String) : AuthHandler String := do
  let rawToken := entropy.deviceToken
  UsersService.createTrustedDevice (rt.sha256 rawToken)
    { userId
      label
      userAgent := http.userAgent
      ipAddress := http.ip
      status := .active
      lastUsedAt := none
      expiresAt := addDays http.now MFA_REMEMBER_DEVICE_DAYS }
  return rawToken

def updateTrustedDeviceUsage (http : HttpRequest) (device : String × TrustedDevice) :
    AuthHandler PUnit :=
  UsersService.updateTrustedDevice device.1 fun row =>
    { row with
      lastUsedAt := some http.now
      ipAddress := http.ip.or row.ipAddress
      userAgent := http.userAgent.or device.2.userAgent }

/-- The open challenges of a user on a channel are consumed and a new one is issued. -/
def issueChallenge (now userId : ℕ) (channel : MfaChallengeChannel) (codeHash : String)
    (s : AuthStore) : AuthStore :=
  { s with
    challenges := (s.challenges.modifyWhere
      (fun _ c => c.userId = userId ∧ c.channel = channel ∧ c.consumed = false)
      (fun c => { c with consumed := true, consumedAt := some now })).create
        { userId
          channel
          codeHash
          expiresAt := addMinutes now MFA_OOB_CODE_TTL_MINUTES
          attempts := 0
          consumed := false
          consumedAt := none
          createdAt := now } }

def createOutOfBandChallenge (now : ℕ) (entropy : Entropy) (userId : Id)
    (channel : MfaChallengeChannel) : AuthHandler PUnit :=
  if channel = .sms then return ⟨⟩
  else
    let codeHash := rt.argonHash entropy.numericCode (entropy.salt 0)
    Handler.atomically fun s =>
      if (s.users.find? userId).isNone then .error invalidReference
      else .ok (⟨⟩, issueChallenge now userId channel codeHash s)

/-- What a code comes to, against the challenge it is entered for. -/
inductive ChallengeCheck
  /-- no challenge is open -/
  | absent
  /-- its term has run out, or the attempts at it -/
  | spent (id : Id)
  | wrong (id : Id)
  | right (id : Id)
  deriving DecidableEq

def checkChallenge (now userId : ℕ) (channel : MfaChallengeChannel) (code : String)
    (s : AuthStore) : ChallengeCheck :=
  match UsersService.findActiveChallengeByChannel rt now userId channel s with
  | none => .absent
  | some (id, activeChallenge) =>
    if activeChallenge.expiresAt < now then .spent id
    else if MFA_MAX_ATTEMPTS ≤ activeChallenge.attempts then .spent id
    else if rt.argonVerify activeChallenge.codeHash code then .right id
    else .wrong id

/-- What a check comes to: no challenge of the user on the channel is open, or one is and the
code is checked against it. -/
theorem checkChallenge_cases (now userId : ℕ) (channel : MfaChallengeChannel) (code : String)
    (s : AuthStore) :
    (checkChallenge rt now userId channel code s = .absent ∧ ∀ id c,
      s.challenges.find? id = some c → c.userId = userId → c.channel = channel →
        c.consumed = false → c.expiresAt ≤ now) ∨
    ∃ id c, s.challenges.find? id = some c ∧ c.userId = userId ∧ c.channel = channel ∧
      c.consumed = false ∧ now < c.expiresAt ∧
      ((checkChallenge rt now userId channel code s = .spent id ∧
          MFA_MAX_ATTEMPTS ≤ c.attempts) ∨
        (checkChallenge rt now userId channel code s = .wrong id ∧
          rt.argonVerify c.codeHash code = false) ∨
        (checkChallenge rt now userId channel code s = .right id ∧
          c.attempts < MFA_MAX_ATTEMPTS ∧ rt.argonVerify c.codeHash code = true)) := by
  rw [checkChallenge]
  cases hfind : UsersService.findActiveChallengeByChannel rt now userId channel s with
  | none =>
    refine .inl ⟨rfl, fun id c hc huser hchannel hconsumed => ?_⟩
    by_contra hexpires
    -- An unexpired challenge would be among the rows of which the newest is taken.
    have hmem : (id, c) ∈ s.challenges.rows.filter fun r => decide (r.2.userId = userId ∧
        r.2.channel = channel ∧ r.2.consumed = false ∧ now < r.2.expiresAt) :=
      List.mem_filter.mpr ⟨Table.mem_rows_of_find? hc,
        decide_eq_true ⟨huser, hchannel, hconsumed, Nat.lt_of_not_le hexpires⟩⟩
    have hsome := rt.newest_isSome _ (List.ne_nil_of_mem hmem)
    rw [UsersService.findActiveChallengeByChannel] at hfind
    rw [hfind] at hsome
    cases hsome
  | some r =>
    obtain ⟨id, c⟩ := r
    obtain ⟨hmem, _⟩ := rt.newest_mem _ _ hfind
    obtain ⟨hrow, hopen⟩ := List.mem_filter.mp hmem
    obtain ⟨huser, hchannel, hconsumed, hexpires⟩ := of_decide_eq_true hopen
    refine .inr ⟨id, c, Table.find?_of_mem_rows hrow, huser, hchannel, hconsumed, hexpires, ?_⟩
    dsimp only
    rw [if_neg (Nat.not_lt_of_lt hexpires)]
    split
    · next hattempts => exact .inl ⟨rfl, hattempts⟩
    · next hattempts =>
      split
      · next hverify => exact .inr (.inr ⟨rfl, Nat.lt_of_not_le hattempts, hverify⟩)
      · next hverify => exact .inr (.inl ⟨rfl, by simpa using hverify⟩)

/-- A code is right for an open challenge of the user on the channel, with attempts left. -/
theorem checkChallenge_right {now userId id : ℕ} {channel : MfaChallengeChannel} {code : String}
    {s : AuthStore} (h : checkChallenge rt now userId channel code s = .right id) :
    ∃ c, s.challenges.find? id = some c ∧ c.userId = userId ∧ c.channel = channel ∧
      c.consumed = false ∧ now < c.expiresAt ∧ c.attempts < MFA_MAX_ATTEMPTS ∧
      rt.argonVerify c.codeHash code = true := by
  obtain ⟨habsent, _⟩ | ⟨id', c, hc, huser, hchannel, hconsumed, hexpires, hcheck⟩ :=
    checkChallenge_cases rt now userId channel code s
  · rw [h] at habsent
    cases habsent
  · rw [h] at hcheck
    obtain ⟨hspent, _⟩ | ⟨hwrong, _⟩ | ⟨hright, hattempts, hverify⟩ := hcheck
    · cases hspent
    · cases hwrong
    · obtain rfl := ChallengeCheck.right.inj hright
      exact ⟨c, hc, huser, hchannel, hconsumed, hexpires, hattempts, hverify⟩

/-- What is written for a checked code, and the answer to it. -/
def settleChallenge (now : ℕ) : ChallengeCheck → AuthHandler Bool
  | .absent => return false
  | .spent id => do
    UsersService.consumeChallenge now id
    return false
  | .wrong id => do
    UsersService.incrementChallengeAttempt id
    return false
  | .right id => do
    UsersService.consumeChallenge now id
    return true

def verifyOutOfBandChallenge (now userId : ℕ) (channel : MfaChallengeChannel) (code : String) :
    AuthHandler Bool := do
  let check ← Handler.read fun s => .ok (checkChallenge rt now userId channel code s)
  settleChallenge now check

/-- The channels a second factor is verified through. -/
inductive TwoFactorVerificationChannel
  | totp | email | backupCode
  deriving DecidableEq

/-- `SupportedTwoFactorChannels.includes`, of a channel that codes are sent on -/
def assertChannelSupported : MfaChallengeChannel → AuthHandler PUnit
  | .email => return ⟨⟩
  | .sms => Handler.refuse (.badRequest "Unsupported two-factor verification channel: SMS")

end MfaService

end Invetrixa
