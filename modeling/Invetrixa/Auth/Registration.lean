import Invetrixa.Auth.Tokens

/-!
# Registration and mailed tokens

`AuthService.register`, `resendEmailVerification` and `requestPasswordReset`: an account is made,
and tokens are drawn for it, each in the place of those of its type that are not used yet. Names,
preferences and the state of the onboarding are left out of an account, and so are the mails
themselves; the text of a token comes with the request that draws it.

## Main definitions

- `AuthService.createVerificationToken`
- `AuthService.register`, `resendEmailVerification`, `requestPasswordReset`
- `AccountCall`, `AccountController.handle` — the endpoints of accounts and sessions
-/

namespace Invetrixa

open Rowstore Requests

def EMAIL_VERIFICATION_TOKEN_TTL_MINUTES : ℕ := 60 * 24
def PASSWORD_RESET_TOKEN_TTL_MINUTES : ℕ := 60

structure RegisterDto where
  email : String
  password : String
  phoneNumber : Option String

namespace UsersService

/-- `user.create` with the first entry of the password history, under the unique constraint. -/
def create (user : User) : AuthHandler Id :=
  Handler.atomically fun s =>
    if s.users.rows.any fun r => r.2.email = user.email then .error (uniqueViolation ["email"])
    else .ok (s.users.next, { s with
      users := s.users.create user
      passwordHistory := s.passwordHistory.create ⟨s.users.next, user.password⟩ })

end UsersService

namespace AuthService

/-- The row of a new account. -/
def newUser (now : ℕ) (email passwordHash : String) (phoneNumber : Option String) : User where
  email := email
  phoneNumber := phoneNumber
  password := passwordHash
  emailVerified := none
  isActive := true
  lastLoginAt := none
  lastLoginIp := none
  lastActiveAt := none
  passwordChangedAt := some now
  failedLoginAttempts := 0
  lockedUntil := none
  sessionVersion := 0
  twoFactorEnabled := false
  twoFactorType := none
  twoFactorSecret := none
  twoFactorTempSecret := none
  twoFactorEnforced := false
  twoFactorEnforcedAt := none
  twoFactorVerifiedAt := none
  twoFactorBackupCodesVersion := 0

/-- The unused tokens of a user and a type are marked as used, and a new one is added. -/
def issueToken (now userId : ℕ) (type : VerificationTokenType) (token : String)
    (expiresAt : ℕ) (s : AuthStore) : AuthStore :=
  { s with
    verificationTokens := (s.verificationTokens.modifyWhere
      (fun _ r => r.userId = userId ∧ r.type = type ∧ r.used = false)
      (fun r => { r with used := true, usedAt := some now })).create
        { userId, token, type, expiresAt, used := false, usedAt := none } }

/-- The transaction of `createVerificationToken`, under the unique constraint and the foreign
key. -/
def createVerificationToken (now userId : ℕ) (type : VerificationTokenType) (token : String)
    (ttlMinutes : ℕ) : AuthHandler PUnit :=
  Handler.atomically fun s =>
    if s.verificationTokens.rows.any fun r => r.2.token = token then
      .error (uniqueViolation ["token"])
    else if (s.users.find? userId).isNone then .error invalidReference
    else .ok (⟨⟩, issueToken now userId type token (addMinutes now ttlMinutes) s)

variable (rt : Runtime) (now : ℕ) (token : String)

def register (entropy : Entropy) (dto : RegisterDto) : AuthHandler SessionStateSnapshot := do
  let email := rt.toLowerCase (trim dto.email)
  Handler.read fun s =>
    if (s.findByEmail email).isSome then
      .error (.conflict "An account already exists with the provided email address.")
    else .ok ()
  let passwordHash := rt.argonHash dto.password (entropy.salt 0)
  let phoneNumber := truthy ((truthy dto.phoneNumber).map trim)
  let userId ← UsersService.create (newUser now email passwordHash phoneNumber)
  createVerificationToken now userId .emailVerification token EMAIL_VERIFICATION_TOKEN_TTL_MINUTES
  return buildSessionUser userId ⟨none, none⟩

def resendEmailVerification (email : String) : AuthHandler PUnit := do
  match ← Handler.read fun s => .ok (s.findByEmail (rt.toLowerCase (trim email))) with
  | some user =>
    if user.row.emailVerified.isSome then return ⟨⟩
    else
      createVerificationToken now user.id .emailVerification token
        EMAIL_VERIFICATION_TOKEN_TTL_MINUTES
  | none => return ⟨⟩

def requestPasswordReset (email : String) : AuthHandler PUnit := do
  match ← Handler.read fun s => .ok (s.findByEmail (rt.toLowerCase (trim email))) with
  | some user =>
    if user.row.isActive = false then return ⟨⟩
    else
      createVerificationToken now user.id .passwordReset token PASSWORD_RESET_TOKEN_TTL_MINUTES
  | none => return ⟨⟩

end AuthService

/-- A request about accounts and sessions. -/
inductive AccountRequest
  | register (dto : RegisterDto)
  | resendEmailVerification (email : String)
  | requestPasswordReset (email : String)
  | verifyEmail (token : String)
  | confirmPasswordReset (token password : String)
  | auth (request : AuthRequest)

/-- A request with what the server sees of it and what it draws at random for it. -/
structure AccountCall where
  http : HttpRequest
  entropy : Entropy
  /-- `randomBytes(32).toString('hex')` -/
  verificationToken : String
  request : AccountRequest

namespace AccountController

open AuthService

/-- One request to the endpoints of accounts and sessions. -/
def handle (rt : Runtime) (call : AccountCall) : AuthHandler AuthReply :=
  let now := call.http.now
  match call.request with
  | .register dto => do
    let user ← register rt now call.verificationToken call.entropy dto
    AuthController.withNewSession call.http user none
  | .resendEmailVerification email => do
    resendEmailVerification rt now call.verificationToken email
    return {}
  | .requestPasswordReset email => do
    requestPasswordReset rt now call.verificationToken email
    return {}
  | .verifyEmail token => do
    verifyEmail now token
    return {}
  | .confirmPasswordReset token password => do
    resetPassword rt call.entropy now token password
    return {}
  | .auth request => AuthController.handle rt call.http call.entropy request

end AccountController

/-- The accounts before the first registration. -/
def AuthStore.empty : AuthStore where
  users := Serial.empty
  trustedDevices := Table.empty
  backupCodes := Serial.empty
  challenges := Serial.empty
  verificationTokens := Serial.empty
  passwordHistory := Serial.empty
  sessions := Serial.empty
  sessionIndex := []

end Invetrixa
