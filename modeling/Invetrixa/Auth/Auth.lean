import Invetrixa.Auth.Mfa

/-!
# Signing in

`AuthService` and the endpoints of `AuthController` on the second factor: a request names its
session by a cookie, the guard asks no more than that the session has a user, and a request that
changes what a session may do gives the client a new one. The profile of a user, in the session
and in the answers, is left out; of the cache, so is the time to live.

## Main definitions

- `AuthService.validateUser`, `handleFailedLogin`, `deserializeUser`
- `AuthService.enableTwoFactor`, `disableTwoFactor`, `verifyTwoFactor`, …
- `AuthController.handle` — one request, with its session
-/

namespace Invetrixa

open Rowstore Requests

/-- The flags a method sets on a session; those it leaves open get their defaults. -/
structure SessionStateOverrides where
  requiresTwoFactor : Option Bool
  twoFactorVerified : Option Bool

/-- The user of a session, with its flags. -/
def buildSessionUser (userId : Id) (overrides : SessionStateOverrides) : SessionStateSnapshot :=
  let requiresTwoFactor := overrides.requiresTwoFactor.getD false
  { id := userId
    requiresTwoFactor
    twoFactorVerified := overrides.twoFactorVerified.getD (!requiresTwoFactor) }

structure SendChallengeDto where
  channel : MfaChallengeChannel

structure VerifyTwoFactorDto where
  channel : MfaService.TwoFactorVerificationChannel
  code : String
  rememberDevice : Option Bool
  deviceLabel : Option String

structure EnableTwoFactorDto where
  method : TwoFactorType
  code : String
  deviceLabel : Option String
  rememberDevice : Option Bool

structure DisableTwoFactorDto where
  channel : MfaService.TwoFactorVerificationChannel
  code : Option String
  backupCode : Option String
  adminOverride : Option Bool

structure EnforceTwoFactorDto where
  enforced : Bool

structure AdminEnforceTwoFactorDto where
  userId : Id
  enforced : Bool

namespace AuthService

variable (rt : Runtime) (http : HttpRequest) (entropy : Entropy)

/-- The user that a login is for, if it may try its password. -/
def readLogin (email : String) (s : AuthStore) : Except HttpError UserWithPreferences :=
  match s.findByEmail (rt.toLowerCase (trim email)) with
  | none => .error (.unauthorized "Invalid credentials provided.")
  | some user =>
    if user.row.isActive = false then .error (.forbidden "Account has been deactivated.")
    else if user.row.lockedUntil.any (http.now < ·) then
      .error (.forbidden "Account is temporarily locked due to multiple failed login attempts.")
    else .ok user

/-- The account that a login reads, and that it is not locked. -/
theorem readLogin_ok {rt : Runtime} {http : HttpRequest} {email : String} {s : AuthStore}
    {user : UserWithPreferences}
    (h : readLogin rt http email s = .ok user) :
    s.findByEmail (rt.toLowerCase (trim email)) = some user ∧
      ∀ lockedUntil, user.row.lockedUntil = some lockedUntil → lockedUntil ≤ http.now := by
  rw [readLogin] at h
  split at h
  · cases h
  · next found heq =>
    obtain ⟨_, h⟩ := Except.ite_error_eq_ok_iff.mp h
    obtain ⟨hunlocked, h⟩ := Except.ite_error_eq_ok_iff.mp h
    obtain rfl := Except.ok.inj h
    refine ⟨heq, fun lockedUntil hlocked => ?_⟩
    rw [hlocked] at hunlocked
    simpa using hunlocked

/-- What a wrong password writes, given the number of failures read before. -/
def failedLogin (now currentFailedAttempts : ℕ) (row : User) : User :=
  let nextFailedAttempts := currentFailedAttempts + 1
  { row with
    failedLoginAttempts := row.failedLoginAttempts + 1
    lockedUntil :=
      if MAX_FAILED_ATTEMPTS ≤ nextFailedAttempts then
        some (addMinutes now LOCKOUT_DURATION_MINUTES)
      else row.lockedUntil }

def handleFailedLogin (now userId currentFailedAttempts : ℕ) : AuthHandler PUnit := do
  let _ ← UsersService.update userId (failedLogin now currentFailedAttempts)
  return ⟨⟩

/-- What a right password writes. -/
def loggedIn (row : User) : User :=
  { row with
    lastLoginAt := some http.now
    lastActiveAt := some http.now
    lastLoginIp := http.ip.or row.lastLoginIp
    failedLoginAttempts := 0
    lockedUntil := none }

/-- The session of a user whose password was right. -/
def loginSession (user : UserWithPreferences) : AuthHandler SessionStateSnapshot := do
  let (require, trustedDevice) := MfaService.shouldRequireTwoFactor rt http user
  match require, trustedDevice with
  | false, some device => MfaService.updateTrustedDeviceUsage http device
  | _, _ => pure ⟨⟩
  return buildSessionUser user.id ⟨some require, some !require⟩

def validateUser (email password : String) : AuthHandler SessionStateSnapshot := do
  let user ← Handler.read (readLogin rt http email)
  if rt.argonVerify user.row.password password then
    let _ ← UsersService.update user.id (loggedIn http)
    loginSession rt http user
  else
    handleFailedLogin http.now user.id user.row.failedLoginAttempts
    Handler.refuse (.unauthorized "Invalid credentials provided.")

/-- The user of a session as it is now, with the flags of the session. -/
def deserializeUser (snapshot : SessionStateSnapshot) (s : AuthStore) :
    Option SessionStateSnapshot :=
  (s.users.find? snapshot.id).map fun _ =>
    buildSessionUser snapshot.id ⟨some snapshot.requiresTwoFactor, some snapshot.twoFactorVerified⟩

def loadUserOrThrow (userId : Id) : AuthHandler UserWithPreferences :=
  Handler.read fun s =>
    match s.findById userId with
    | none => .error (.unauthorized "User not found.")
    | some user => .ok user

def sendTwoFactorChallenge (userId : Id) (dto : SendChallengeDto) : AuthHandler PUnit := do
  let user ← loadUserOrThrow userId
  if dto.channel = .sms ∧ truthy user.row.phoneNumber = none then
    Handler.refuse (.badRequest "SMS two-factor requires a phone number on file.")
  else
    MfaService.assertChannelSupported dto.channel
    MfaService.createOutOfBandChallenge rt http.now entropy user.id dto.channel

/-- The flags of a session that has passed the second factor. -/
def verifiedOverrides : SessionStateOverrides := ⟨some false, some true⟩

/-- The device of the request is remembered when it asks for that. -/
def maybeRememberDevice (userId : Id) (rememberDevice : Option Bool)
    (deviceLabel : Option String) : AuthHandler (Option String) :=
  if rememberDevice = some true then
    some <$> MfaService.rememberDevice rt http entropy userId deviceLabel
  else return none

/-- A method is enabled by a code for it. -/
def enableMethod (user : UserWithPreferences) (dto : EnableTwoFactorDto) :
    AuthHandler UserWithPreferences :=
  match dto.method with
  | .totp => MfaService.enableTotp rt http.now user dto.code
  | .email => do
    if ← MfaService.verifyOutOfBandChallenge rt http.now user.id .email dto.code then
      UsersService.update user.id fun row =>
        { row with
          twoFactorEnabled := true
          twoFactorType := some .email
          twoFactorSecret := none
          twoFactorTempSecret := none
          twoFactorVerifiedAt := some http.now }
    else Handler.refuse (.unauthorized "Invalid or expired verification code.")
  | .sms => Handler.refuse (.badRequest "Unsupported two-factor method: SMS")

def enableTwoFactor (userId : Id) (dto : EnableTwoFactorDto) :
    AuthHandler (SessionStateSnapshot × Option String) := do
  let user ← loadUserOrThrow userId
  let updatedUser ← enableMethod rt http user dto
  let cookie ← maybeRememberDevice rt http entropy updatedUser.id dto.rememberDevice dto.deviceLabel
  return (buildSessionUser updatedUser.id verifiedOverrides, cookie)

/-- A code for the second factor, of whatever channel. -/
def verifyCode (user : UserWithPreferences) (code : String) :
    MfaService.TwoFactorVerificationChannel → AuthHandler Bool
  | .totp => return MfaService.verifyTotp rt http.now user.row code
  | .email => MfaService.verifyOutOfBandChallenge rt http.now user.id .email code
  | .backupCode => MfaService.validateBackupCode rt http.now user code

def verifyChallenge (user : UserWithPreferences) (dto : VerifyTwoFactorDto) : AuthHandler Bool :=
  verifyCode rt http user dto.code dto.channel

def verifyDisableRequest (user : UserWithPreferences) (dto : DisableTwoFactorDto) :
    AuthHandler Bool :=
  match dto.channel with
  | .backupCode =>
    match truthy dto.backupCode with
    | none => Handler.refuse (.badRequest "Backup code is required.")
    | some backupCode => verifyCode rt http user backupCode .backupCode
  | channel =>
    match truthy dto.code with
    | none => Handler.refuse (.badRequest "Verification code is required.")
    | some code => verifyCode rt http user code channel

/-- A request to disable shows a code, unless it claims to be an administrator's. -/
def authorizeDisable (user : UserWithPreferences) (dto : DisableTwoFactorDto) :
    AuthHandler PUnit := do
  if dto.adminOverride = some true then return ⟨⟩
  else if ← verifyDisableRequest rt http user dto then return ⟨⟩
  else Handler.refuse (.unauthorized "Invalid or expired verification code.")

def disableTwoFactor (userId : Id) (dto : DisableTwoFactorDto) :
    AuthHandler SessionStateSnapshot := do
  let user ← loadUserOrThrow userId
  authorizeDisable rt http user dto
  MfaService.disableTwoFactor user.id
  let updatedUser ← loadUserOrThrow user.id
  return buildSessionUser updatedUser.id verifiedOverrides

def verifyTwoFactor (userId : Id) (dto : VerifyTwoFactorDto) :
    AuthHandler (SessionStateSnapshot × Option String) := do
  let user ← loadUserOrThrow userId
  if ← verifyChallenge rt http user dto then
    let _ ← UsersService.update user.id fun row =>
      { row with lastActiveAt := some http.now, twoFactorVerifiedAt := some http.now }
    let refreshedUser ← loadUserOrThrow user.id
    let cookie ←
      maybeRememberDevice rt http entropy refreshedUser.id dto.rememberDevice dto.deviceLabel
    return (buildSessionUser refreshedUser.id verifiedOverrides, cookie)
  else Handler.refuse (.unauthorized "Invalid or expired verification code.")

def generateBackupCodes (userId : Id) : AuthHandler (List String) := do
  let user ← loadUserOrThrow userId
  if user.row.twoFactorEnabled = false then
    Handler.refuse
      (.badRequest "Enable two-factor authentication before generating backup codes.")
  else MfaService.generateBackupCodes rt entropy user.id

/-- A user that must, or need not, use a second factor. -/
def enforce (enforced : Bool) (row : User) : User :=
  { row with
    twoFactorEnforced := enforced
    twoFactorEnforcedAt := if enforced then some http.now else none }

def enforceTwoFactorForCurrentUser (userId : Id) (dto : EnforceTwoFactorDto) :
    AuthHandler SessionStateSnapshot := do
  let updatedUser ← UsersService.update userId (enforce http dto.enforced)
  let overrides : SessionStateOverrides :=
    if dto.enforced then
      ⟨some !updatedUser.row.twoFactorEnabled, some updatedUser.row.twoFactorEnabled⟩
    else verifiedOverrides
  return buildSessionUser updatedUser.id overrides

def adminEnforceTwoFactor (dto : AdminEnforceTwoFactorDto) : AuthHandler SessionStateSnapshot := do
  let updatedUser ← UsersService.update dto.userId (enforce http dto.enforced)
  return buildSessionUser updatedUser.id ⟨none, none⟩

def initiateTotpSetup (userId : Id) : AuthHandler String := do
  let user ← loadUserOrThrow userId
  MfaService.initiateTotpSetup entropy user

/-- The session joins the index of its user. -/
def registerSessionInCache (userId sessionId : Id) (s : AuthStore) : AuthStore :=
  if (userId, sessionId) ∈ s.sessionIndex then s
  else { s with sessionIndex := s.sessionIndex ++ [(userId, sessionId)] }

end AuthService

/-- The body of a request to the endpoints on the second factor. -/
inductive TwoFactorRequest
  | initiateTotpSetup
  | sendChallenge (dto : SendChallengeDto)
  | verifyTwoFactor (dto : VerifyTwoFactorDto)
  | enableTwoFactor (dto : EnableTwoFactorDto)
  | disableTwoFactor (dto : DisableTwoFactorDto)
  | generateBackupCodes
  | enforceTwoFactor (dto : EnforceTwoFactorDto)
  | adminEnforceTwoFactor (dto : AdminEnforceTwoFactorDto)

inductive AuthRequest
  | login (email password : String)
  | twoFactor (request : TwoFactorRequest)

/-- The answer to a request, with the cookies it sets. -/
structure AuthReply where
  session : Option Id := none
  deviceCookie : Option String := none
  user : Option SessionStateSnapshot := none
  /-- the secret of an authenticator, or backup codes -/
  secrets : List String := []
  deriving DecidableEq

namespace AuthController

variable (rt : Runtime) (http : HttpRequest) (entropy : Entropy)

/-- `request.logIn`: the session of the request ends and a new one begins. -/
def logIn (user : SessionStateSnapshot) : AuthHandler Id := fun s =>
  (.ok s.sessions.next, { s with
    sessions := (s.sessions.deleteWhere fun sid _ => http.sessionID = some sid).create user })

/-- A new session for the request, in the index. -/
def persistSession (user : SessionStateSnapshot) : AuthHandler Id := do
  let sid ← logIn http user
  Handler.write (AuthService.registerSessionInCache user.id sid)
  return sid

/-- `AuthenticatedGuard`: the user of the session that the cookie names. -/
def authenticated : AuthHandler SessionStateSnapshot :=
  Handler.read fun s =>
    match (http.sessionID.bind s.sessions.find?).bind fun snapshot =>
        AuthService.deserializeUser snapshot s with
    | none => .error (.unauthorized "Unauthorized")
    | some sessionUser => .ok sessionUser

def login (email password : String) : AuthHandler AuthReply := do
  let sessionUser ← AuthService.validateUser rt http email password
  let sid ← persistSession http sessionUser
  let _ ← AuthService.loadUserOrThrow sessionUser.id
  return { session := some sid, user := some sessionUser }

/-- The answer of an endpoint that gives the client a new session. -/
def withNewSession (user : SessionStateSnapshot) (deviceCookie : Option String) :
    AuthHandler AuthReply := do
  let sid ← persistSession http user
  return { session := some sid, deviceCookie, user := some user }

def adminEnforceTwoFactor (sessionUser : SessionStateSnapshot) (dto : AdminEnforceTwoFactorDto) :
    AuthHandler AuthReply := do
  let response ← AuthService.adminEnforceTwoFactor http dto
  if sessionUser.id = dto.userId then
    match ← Handler.read fun s => .ok (AuthService.deserializeUser sessionUser s) with
    | some refreshedSessionUser =>
      let sid ← persistSession http refreshedSessionUser
      return { session := some sid, user := some response }
    | none => return { user := some response }
  else return { user := some response }

/-- The endpoints behind the guard. -/
def serve (sessionUser : SessionStateSnapshot) : TwoFactorRequest → AuthHandler AuthReply
  | .initiateTotpSetup => do
    let secret ← AuthService.initiateTotpSetup entropy sessionUser.id
    return { secrets := [secret] }
  | .sendChallenge dto => do
    AuthService.sendTwoFactorChallenge rt http entropy sessionUser.id dto
    return {}
  | .verifyTwoFactor dto => do
    let (user, cookie) ← AuthService.verifyTwoFactor rt http entropy sessionUser.id dto
    withNewSession http user cookie
  | .enableTwoFactor dto => do
    let (user, cookie) ← AuthService.enableTwoFactor rt http entropy sessionUser.id dto
    withNewSession http user cookie
  | .disableTwoFactor dto => do
    let user ← AuthService.disableTwoFactor rt http sessionUser.id dto
    withNewSession http user none
  | .generateBackupCodes => do
    let codes ← AuthService.generateBackupCodes rt entropy sessionUser.id
    return { secrets := codes }
  | .enforceTwoFactor dto => do
    let user ← AuthService.enforceTwoFactorForCurrentUser http sessionUser.id dto
    withNewSession http user none
  | .adminEnforceTwoFactor dto => adminEnforceTwoFactor http sessionUser dto

/-- A request: all endpoints but the login stand behind the guard. -/
def handle : AuthRequest → AuthHandler AuthReply
  | .login email password => login rt http email password
  | .twoFactor request => do
    let sessionUser ← authenticated http
    serve rt http entropy sessionUser request

end AuthController

end Invetrixa
