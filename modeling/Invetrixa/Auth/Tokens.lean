import Invetrixa.Auth.Auth

/-!
# Verification tokens and password resets

`AuthService.verifyEmail` and `resetPassword`: a token is looked up and checked, and marked as
used in a later transaction; a reset then revokes the sessions that the index of the user names.
Reads and transactions are functions of their own, so that others may come between them.

## Main definitions

- `AuthService.verifyEmail`
- `AuthService.resetPassword`, `revokeAllSessions`
-/

namespace Invetrixa

open Rowstore Requests

namespace AuthService

/-- The token of a text, if it is of the type, unused and not expired. -/
def readToken (type : VerificationTokenType) (message : String) (now : ℕ) (token : String)
    (s : AuthStore) : Except HttpError (Id × VerificationToken) :=
  match s.verificationTokens.rows.find? fun r => r.2.token = token with
  | none => .error (.badRequest message)
  | some record =>
    if record.2.type ≠ type ∨ record.2.used ∨ record.2.expiresAt < now then
      .error (.badRequest message)
    else .ok record

theorem readToken_ok {type : VerificationTokenType} {message : String} {now : ℕ} {token : String}
    {s : AuthStore} {record : Id × VerificationToken}
    (h : readToken type message now token s = .ok record) :
    s.verificationTokens.find? record.1 = some record.2 ∧ record.2.token = token ∧
      record.2.used = false := by
  rw [readToken] at h
  split at h
  · cases h
  · next found heq =>
    obtain ⟨hnot, h⟩ := Except.ite_error_eq_ok_iff.mp h
    obtain rfl := Except.ok.inj h
    refine ⟨Table.find?_of_mem_rows (List.mem_of_find?_eq_some heq),
      by simpa using List.find?_some heq, ?_⟩
    rw [← Bool.not_eq_true]
    exact fun hused => hnot (.inr (.inl hused))

def markTokenUsed (now tokenId : ℕ) (s : AuthStore) : AuthStore :=
  { s with verificationTokens := s.verificationTokens.modify tokenId fun record =>
      { record with used := true, usedAt := some now } }

/-- A transaction that writes the row of a user and marks a token as used. -/
def useToken (now tokenId userId : ℕ) (f : User → User) (s : AuthStore) :
    Except HttpError (PUnit × AuthStore) :=
  if (s.users.find? userId).isNone ∨ (s.verificationTokens.find? tokenId).isNone then
    .error recordNotFound
  else .ok (⟨⟩, markTokenUsed now tokenId (s.modifyUser userId f))

def readVerifyEmail (now : ℕ) (token : String) (s : AuthStore) :
    Except HttpError (Id × VerificationToken) :=
  readToken .emailVerification "Invalid or expired verification token." now token s

/-- The transaction of `verifyEmail`. -/
def commitVerifyEmail (now tokenId userId : ℕ) : AuthHandler PUnit :=
  Handler.atomically (useToken now tokenId userId fun row => { row with emailVerified := some now })

def verifyEmail (now : ℕ) (token : String) : AuthHandler PUnit := do
  let record ← Handler.read (readVerifyEmail now token)
  commitVerifyEmail now record.1 record.2.userId

/-- The token of a reset, with its user. -/
def readResetPassword (now : ℕ) (token : String) (s : AuthStore) :
    Except HttpError (Id × UserWithPreferences) := do
  let record ← readToken .passwordReset "Invalid or expired password reset token." now token s
  match s.findById record.2.userId with
  | none => .error (.badRequest "Invalid or expired password reset token.")
  | some user => .ok (record.1, user)

theorem readResetPassword_ok {now : ℕ} {token : String} {s : AuthStore} {id : Id}
    {user : UserWithPreferences} (h : readResetPassword now token s = .ok (id, user)) :
    ∃ record, s.verificationTokens.find? id = some record ∧ record.token = token ∧
      record.used = false ∧ s.findById record.userId = some user := by
  obtain ⟨record, hrecord, h⟩ := Except.bind_eq_ok_iff.mp h
  obtain ⟨hfind, htoken, hused⟩ := readToken_ok hrecord
  split at h
  · cases h
  · next found heq =>
    obtain ⟨rfl, rfl⟩ := Prod.mk.inj (Except.ok.inj h)
    exact ⟨record.2, hfind, htoken, hused, heq⟩

/-- A user with a new password. -/
def withPassword (now : ℕ) (passwordHash : String) (row : User) : User :=
  { row with
    password := passwordHash
    passwordChangedAt := some now
    sessionVersion := row.sessionVersion + 1 }

/-- The transaction of `resetPassword`. -/
def commitResetPassword (now tokenId userId : ℕ) (passwordHash : String) : AuthHandler PUnit :=
  Handler.atomically fun s => do
    let (_, s) ← useToken now tokenId userId (withPassword now passwordHash) s
    return (⟨⟩, { s with
      passwordHistory := s.passwordHistory.create ⟨userId, passwordHash⟩ })

/-- The sessions that the index of a user names (`sMembers`). -/
def sessionIds (userId : Id) (s : AuthStore) : List Id :=
  (s.sessionIndex.filter fun r => r.1 = userId).map Prod.snd

/-- The sessions are deleted. -/
def deleteSessions (targets : List Id) (s : AuthStore) : AuthStore :=
  { s with sessions := s.sessions.deleteWhere fun sid _ => sid ∈ targets }

/-- The sessions leave the index. -/
def cleanupSessions (userId : Id) (targets : List Id) (s : AuthStore) : AuthStore :=
  { s with sessionIndex := s.sessionIndex.filter fun r => ¬(r.1 = userId ∧ r.2 ∈ targets) }

/-- The sessions that a revocation is for. -/
def revoked (keepSessionId : Option Id) (sessionIds : List Id) : List Id :=
  sessionIds.filter fun sid => keepSessionId ≠ some sid

def revokeAllSessions (userId : Id) (keepSessionId : Option Id) : AuthHandler PUnit := do
  let sessionIds ← Handler.read fun s => .ok (sessionIds userId s)
  Handler.write (deleteSessions (revoked keepSessionId sessionIds))
  Handler.write (cleanupSessions userId (revoked keepSessionId sessionIds))

theorem revokeAllSessions_apply (userId : Id) (keepSessionId : Option Id) (s : AuthStore) :
    revokeAllSessions userId keepSessionId s =
      (.ok ⟨⟩, cleanupSessions userId (revoked keepSessionId (sessionIds userId s))
        (deleteSessions (revoked keepSessionId (sessionIds userId s)) s)) := rfl

def resetPassword (rt : Runtime) (entropy : Entropy) (now : ℕ) (token newPassword : String) :
    AuthHandler PUnit := do
  let (tokenId, user) ← Handler.read (readResetPassword now token)
  commitResetPassword now tokenId user.id (rt.argonHash newPassword (entropy.salt 0))
  revokeAllSessions user.id none

end AuthService

end Invetrixa
