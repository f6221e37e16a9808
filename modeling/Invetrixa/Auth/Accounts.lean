import Invetrixa.Schema
import Invetrixa.Text
import Invetrixa.Library.Handlers
import Mathlib.Data.List.MinMax

/-!
# User accounts

The tables behind the sign-in, the sessions and their index in the cache, and the part of
`UsersService` that reads and writes them. What the program takes from its libraries, the hashing
of secrets, the one-time passwords of an authenticator and the lower case of a text, is a
`Runtime`; what it draws at random comes with a request as its `Entropy`.

## Main definitions

- `AuthStore` — the tables and the cache
- `Runtime`, `Entropy` — libraries and randomness
- `UserWithPreferences`, `AuthStore.findById`, `AuthStore.findByEmail` — a user as it is loaded
-/

namespace Invetrixa

open Rowstore Requests

def MAX_FAILED_ATTEMPTS : ℕ := 5
def LOCKOUT_DURATION_MINUTES : ℕ := 15
def MFA_REMEMBER_DEVICE_DAYS : ℕ := 30
def MFA_BACKUP_CODES_COUNT : ℕ := 10
def MFA_OOB_CODE_TTL_MINUTES : ℕ := 10
def MFA_MAX_ATTEMPTS : ℕ := 5

/-- A moment so many minutes later, in milliseconds. -/
def addMinutes (date minutes : ℕ) : ℕ := date + minutes * 60000

/-- A moment so many days later, in milliseconds. -/
def addDays (date days : ℕ) : ℕ := date + days * 86400000

inductive TwoFactorType
  | totp | sms | email
  deriving DecidableEq

inductive MfaChallengeChannel
  | sms | email
  deriving DecidableEq

inductive VerificationTokenType
  | emailVerification | passwordReset
  deriving DecidableEq

inductive TrustedDeviceStatus
  | active | revoked
  deriving DecidableEq

structure User where
  email : String
  phoneNumber : Option String
  password : String
  emailVerified : Option ℕ
  isActive : Bool
  lastLoginAt : Option ℕ
  lastLoginIp : Option String
  lastActiveAt : Option ℕ
  passwordChangedAt : Option ℕ
  failedLoginAttempts : ℕ
  lockedUntil : Option ℕ
  sessionVersion : ℕ
  twoFactorEnabled : Bool
  twoFactorType : Option TwoFactorType
  twoFactorSecret : Option String
  twoFactorTempSecret : Option String
  twoFactorEnforced : Bool
  twoFactorEnforcedAt : Option ℕ
  twoFactorVerifiedAt : Option ℕ
  twoFactorBackupCodesVersion : ℕ
  deriving DecidableEq

structure VerificationToken where
  userId : Id
  token : String
  type : VerificationTokenType
  expiresAt : ℕ
  used : Bool
  usedAt : Option ℕ
  deriving DecidableEq

structure TwoFactorBackupCode where
  userId : Id
  codeHash : String
  used : Bool
  usedAt : Option ℕ
  deriving DecidableEq

/-- A device on which the second factor is not asked for. Its `deviceId` is unique. -/
structure TrustedDevice where
  userId : Id
  label : Option String
  userAgent : Option String
  ipAddress : Option String
  status : TrustedDeviceStatus
  lastUsedAt : Option ℕ
  expiresAt : ℕ
  deriving DecidableEq

structure TwoFactorChallenge where
  userId : Id
  channel : MfaChallengeChannel
  codeHash : String
  expiresAt : ℕ
  attempts : ℕ
  consumed : Bool
  consumedAt : Option ℕ
  createdAt : ℕ
  deriving DecidableEq

structure PasswordHistory where
  userId : Id
  password : String
  deriving DecidableEq

/-- What a session remembers of its user. -/
structure SessionStateSnapshot where
  id : Id
  requiresTwoFactor : Bool
  twoFactorVerified : Bool
  deriving DecidableEq

/-- The rows of a join table, such as the index of sessions and the memberships. -/
instance : LawfulBEq (Id × Id) := inferInstance

/-- The tables of the accounts, the sessions under their keys in the cache, and the index of
sessions of each user there. -/
structure AuthStore where
  users : Serial User
  trustedDevices : Table String TrustedDevice
  backupCodes : Serial TwoFactorBackupCode
  challenges : Serial TwoFactorChallenge
  verificationTokens : Serial VerificationToken
  passwordHistory : Serial PasswordHistory
  sessions : Serial SessionStateSnapshot
  sessionIndex : List (Id × Id)

/-- What the program takes from its libraries and from the database. -/
structure Runtime where
  toLowerCase : String → String
  /-- argon2, with a salt -/
  argonHash : String → ℕ → String
  argonVerify : String → String → Bool
  /-- `authenticator.verify` of a token against a secret at a moment -/
  totpVerify : String → String → ℕ → Bool
  /-- sha256 as hexadecimal text -/
  sha256 : String → String
  /-- the row that comes first in descending order of `createdAt` -/
  newest : List (Id × TwoFactorChallenge) → Option (Id × TwoFactorChallenge)
  newest_mem : ∀ rows x, newest rows = some x →
    x ∈ rows ∧ ∀ y ∈ rows, y.2.createdAt ≤ x.2.createdAt
  newest_isSome : ∀ rows, rows ≠ [] → (newest rows).isSome

/-- Libraries that keep a secret as it is, to run examples on. -/
def Runtime.plain : Runtime where
  toLowerCase := id
  argonHash code _ := code
  argonVerify hash code := hash = code
  totpVerify token secret _ := token = secret
  sha256 := id
  newest rows := rows.argmax fun r => r.2.createdAt
  newest_mem _ _ h := ⟨List.argmax_mem h, fun _ hy =>
    List.le_of_mem_argmax (f := fun r : Id × TwoFactorChallenge => r.2.createdAt) hy h⟩
  newest_isSome _ hne :=
    Option.isSome_iff_ne_none.mpr fun h => hne (List.argmax_eq_none.mp h)

/-- What one request draws at random. -/
structure Entropy where
  totpSecret : String
  numericCode : String
  backupCode : ℕ → String
  deviceToken : String
  salt : ℕ → ℕ

/-- A user with its devices and backup codes, as the service loads it. -/
structure UserWithPreferences where
  id : Id
  row : User
  trustedDevices : List (String × TrustedDevice)
  twoFactorBackupCodes : List (Id × TwoFactorBackupCode)

namespace AuthStore

/-- The rows that are loaded with a user. -/
def withPreferences (s : AuthStore) (id : Id) (row : User) : UserWithPreferences where
  id := id
  row := row
  trustedDevices := s.trustedDevices.rows.filter fun r => r.2.userId = id
  twoFactorBackupCodes := s.backupCodes.rows.filter fun r => r.2.userId = id

def findById (s : AuthStore) (id : Id) : Option UserWithPreferences :=
  (s.users.find? id).map (s.withPreferences id)

def findByEmail (s : AuthStore) (email : String) : Option UserWithPreferences :=
  (s.users.rows.find? fun r => r.2.email = email).map fun r => s.withPreferences r.1 r.2

/-- A write to the row of a user. -/
def modifyUser (s : AuthStore) (id : Id) (f : User → User) : AuthStore :=
  { s with users := s.users.modify id f }

/-- A write to the row of a challenge. -/
def modifyChallenge (s : AuthStore) (id : Id) (f : TwoFactorChallenge → TwoFactorChallenge) :
    AuthStore :=
  { s with challenges := s.challenges.modify id f }

@[simp] theorem users_modifyUser (s : AuthStore) (id : Id) (f : User → User) :
    (s.modifyUser id f).users = s.users.modify id f := rfl

@[simp] theorem users_modifyChallenge (s : AuthStore) (id : Id)
    (f : TwoFactorChallenge → TwoFactorChallenge) : (s.modifyChallenge id f).users = s.users := rfl

@[simp] theorem challenges_modifyChallenge (s : AuthStore) (id : Id)
    (f : TwoFactorChallenge → TwoFactorChallenge) :
    (s.modifyChallenge id f).challenges = s.challenges.modify id f := rfl

theorem findById_eq_some {s : AuthStore} {id : Id} {user : UserWithPreferences}
    (h : s.findById id = some user) :
    s.users.find? id = some user.row ∧ user = s.withPreferences id user.row := by
  obtain ⟨row, hrow, rfl⟩ := Option.map_eq_some_iff.mp h
  exact ⟨hrow, rfl⟩

/-- A user after a write to a row. -/
theorem map_find?_modifyUser {α : Type*} {g : User → α} {f : User → User}
    (h : ∀ row, g (f row) = g row) (s : AuthStore) (id id' : Id) :
    ((s.modifyUser id f).users.find? id').map g = (s.users.find? id').map g := by
  rw [users_modifyUser, Serial.toTable_modify, Table.find?_modify]
  by_cases hid : id' = id
  · rw [if_pos hid, Option.map_map]
    exact congrArg (Option.map · _) (funext h)
  · rw [if_neg hid]

theorem findByEmail_eq_some {s : AuthStore} {email : String} {user : UserWithPreferences}
    (h : s.findByEmail email = some user) :
    s.users.find? user.id = some user.row ∧ user = s.withPreferences user.id user.row := by
  obtain ⟨⟨id, row⟩, hrow, rfl⟩ := Option.map_eq_some_iff.mp h
  exact ⟨Table.find?_of_mem_rows (List.mem_of_find?_eq_some hrow), rfl⟩

/-- A write that leaves the addresses leaves who has which. -/
theorem map_id_findByEmail_modifyUser {f : User → User} (h : ∀ row, (f row).email = row.email)
    (s : AuthStore) (id : Id) (email : String) :
    ((s.modifyUser id f).findByEmail email).map UserWithPreferences.id =
      (s.findByEmail email).map UserWithPreferences.id := by
  have hrows : (s.modifyUser id f).users.rows =
      s.users.rows.map fun r => if r.1 = id then (r.1, f r.2) else r := by
    show s.users.rows.map (fun r => if decide (r.1 = id) = true then (r.1, f r.2) else r) = _
    simp only [decide_eq_true_eq]
  have hpred : ((fun r : Id × User => decide (r.2.email = email)) ∘ fun r =>
      if r.1 = id then (r.1, f r.2) else r) = fun r => decide (r.2.email = email) := by
    funext r
    by_cases hr : r.1 = id <;> simp [hr, h]
  rw [findByEmail, findByEmail, hrows, List.find?_map, hpred, Option.map_map, Option.map_map,
    Option.map_map]
  refine congrArg (Option.map · _) (funext fun r => ?_)
  by_cases hr : r.1 = id <;> simp [hr, withPreferences]

end AuthStore

/-- A user with an authenticator, to run examples on. -/
def secured : User where
  email := "a@b.c"
  phoneNumber := none
  password := "password"
  emailVerified := none
  isActive := true
  lastLoginAt := none
  lastLoginIp := none
  lastActiveAt := none
  passwordChangedAt := none
  failedLoginAttempts := 0
  lockedUntil := none
  sessionVersion := 0
  twoFactorEnabled := true
  twoFactorType := some .totp
  twoFactorSecret := some "secret"
  twoFactorTempSecret := none
  twoFactorEnforced := false
  twoFactorEnforcedAt := none
  twoFactorVerifiedAt := none
  twoFactorBackupCodesVersion := 0

/-- The accounts with one user. -/
def AuthStore.withUser (user : User) : AuthStore where
  users := Serial.empty.create user
  trustedDevices := Table.empty
  backupCodes := Serial.empty
  challenges := Serial.empty
  verificationTokens := Serial.empty
  passwordHistory := Serial.empty
  sessions := Serial.empty
  sessionIndex := []

/-- What a service does with the accounts. -/
abbrev AuthHandler (α : Type) : Type := Handler AuthStore HttpError α

namespace UsersService

/-- `user.update`: the row is written and loaded, or there is none. -/
def update (id : Id) (f : User → User) : AuthHandler UserWithPreferences :=
  Handler.atomically fun s =>
    match (s.modifyUser id f).findById id with
    | none => .error recordNotFound
    | some user => .ok (user, s.modifyUser id f)

section Update

variable {id : Id} {f : User → User}

/-- A row that is there is written. -/
theorem update_apply {s : AuthStore} {row : User} (h : s.users.find? id = some row)
    (f : User → User) :
    update id f s = (.ok ((s.modifyUser id f).withPreferences id (f row)), s.modifyUser id f) := by
  have hfind : (s.modifyUser id f).findById id =
      some ((s.modifyUser id f).withPreferences id (f row)) := by
    rw [AuthStore.findById, AuthStore.users_modifyUser, Serial.find?_modify_of_some h]
    rfl
  simp [update, Handler.atomically, transaction, hfind]

theorem update_ensures {P E : AuthStore → Prop} {Q : UserWithPreferences → AuthStore → Prop}
    (hok : ∀ s user, P s → (s.modifyUser id f).findById id = some user → Q user (s.modifyUser id f))
    (herr : ∀ s, P s → s.users.find? id = none → E s) : Handler.Ensures P (update id f) Q E := by
  refine Handler.Ensures.atomically (fun s user s' hs h => ?_) (fun s e hs h => ?_)
  · split at h
    · cases h
    · next heq =>
      cases h
      exact hok s user hs heq
  · split at h
    · next heq =>
      refine herr s hs ?_
      simpa [AuthStore.findById, Table.find?_modify] using heq
    · cases h

end Update

/-- `createTrustedDevice`, under the unique constraint. -/
def createTrustedDevice (deviceId : String) (device : TrustedDevice) : AuthHandler PUnit :=
  Handler.atomically fun s =>
    if (s.trustedDevices.find? deviceId).isSome then .error (uniqueViolation ["deviceId"])
    else .ok (⟨⟩, { s with trustedDevices := s.trustedDevices.insert deviceId device })

def updateTrustedDevice (deviceId : String) (f : TrustedDevice → TrustedDevice) :
    AuthHandler PUnit :=
  Handler.atomically fun s =>
    if (s.trustedDevices.find? deviceId).isNone then .error recordNotFound
    else .ok (⟨⟩, { s with trustedDevices := s.trustedDevices.modify deviceId f })

/-- The codes of a user are dropped and the new ones written in their place. -/
def replaceBackupCodes (userId : Id) (codes : List TwoFactorBackupCode) : AuthHandler PUnit :=
  Handler.write fun s =>
    { s with
      backupCodes := codes.foldl Serial.create
        (s.backupCodes.deleteWhere fun _ code => code.userId = userId) }

def markBackupCodeUsed (now id : ℕ) : AuthHandler PUnit :=
  Handler.atomically fun s =>
    if (s.backupCodes.find? id).isNone then .error recordNotFound
    else .ok (⟨⟩, { s with backupCodes := s.backupCodes.modify id fun code =>
      { code with used := true, usedAt := some now } })

def updateChallenge (id : Id) (f : TwoFactorChallenge → TwoFactorChallenge) : AuthHandler PUnit :=
  Handler.atomically fun s =>
    if (s.challenges.find? id).isNone then .error recordNotFound
    else .ok (⟨⟩, s.modifyChallenge id f)

/-- A challenge that is there is written. -/
theorem updateChallenge_apply {id : Id} {c : TwoFactorChallenge} {s : AuthStore}
    (h : s.challenges.find? id = some c) (f : TwoFactorChallenge → TwoFactorChallenge) :
    updateChallenge id f s = (.ok ⟨⟩, s.modifyChallenge id f) := by
  simp [updateChallenge, Handler.atomically, transaction, h]

def consumeChallenge (now id : ℕ) : AuthHandler PUnit :=
  updateChallenge id fun challenge => { challenge with consumed := true, consumedAt := some now }

def incrementChallengeAttempt (id : Id) : AuthHandler PUnit :=
  updateChallenge id fun challenge => { challenge with attempts := challenge.attempts + 1 }

/-- The newest challenge of a user on a channel that is neither consumed nor expired. -/
def findActiveChallengeByChannel (rt : Runtime) (now userId : ℕ) (channel : MfaChallengeChannel)
    (s : AuthStore) : Option (Id × TwoFactorChallenge) :=
  rt.newest (s.challenges.rows.filter fun r =>
    r.2.userId = userId ∧ r.2.channel = channel ∧ r.2.consumed = false ∧ now < r.2.expiresAt)

end UsersService

end Invetrixa
