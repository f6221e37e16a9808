import Invetrixa.Auth.Registration

/-!
# Sessions

A user ends the session of a request, another one of its own, or all of them. The index of the user
says which are its own. The endpoints of the onboarding and those that change a tenancy give the
user a new session in the place of the one that the request shows. The cache drops a session by
itself when its time is up, and the index of a user when the time of the index is up: `expire` gives
the index a term of its own, which may end before that of a session that it names. Requests put both
terms off; here they may end at any time.

## Main definitions

- `AuthController.logout`, `revokeSession`, `revokeAllSessions` — the endpoints of sessions
- `AuthController.renewSession` — what the endpoints of the onboarding and the tenancy do to them
- `SessionEvent` — a request to the endpoints of accounts and sessions, or what happens to the cache
-/

namespace Invetrixa

open Rowstore Requests

namespace AuthService

/-- One session of a user ends, if its index names it. -/
def revokeSession (userId sessionId : Id) : AuthHandler PUnit := do
  let isMember ← Handler.read fun s => .ok (decide ((userId, sessionId) ∈ s.sessionIndex))
  if isMember then
    let deleted ← Handler.read fun s => .ok (s.sessions.find? sessionId).isSome
    Handler.write (deleteSessions [sessionId])
    Handler.write (cleanupSessions userId [sessionId])
    if deleted then return ⟨⟩ else Handler.refuse (.notFound "Session not found.")
  else
    Handler.write (cleanupSessions userId [sessionId])
    Handler.refuse (.notFound "Session not found.")

/-- The index of a user is gone; the sessions that it named are not. -/
def expireIndex (userId : Id) (s : AuthStore) : AuthStore :=
  { s with sessionIndex := s.sessionIndex.filter fun r => r.1 ≠ userId }

end AuthService

namespace AuthController

variable (rt : Runtime) (http : HttpRequest)

/-- `request.logout` and `session.destroy`: the session of the request ends and leaves the index. -/
def destroyCurrentSession (user : SessionStateSnapshot) : AuthHandler PUnit := do
  Handler.write (AuthService.deleteSessions http.sessionID.toList)
  Handler.write (AuthService.cleanupSessions user.id http.sessionID.toList)

/-- The texts that a query parameter says yes with. -/
def toBoolean (value : Option String) : Bool :=
  match truthy value with
  | none => false
  | some value => rt.toLowerCase value ∈ ["true", "1", "yes", "on"]

def logout : AuthHandler PUnit := do
  let user ← authenticated http
  destroyCurrentSession http user

def revokeSession (sessionId : Id) : AuthHandler PUnit := do
  let user ← authenticated http
  if http.sessionID = some sessionId then destroyCurrentSession http user
  else AuthService.revokeSession user.id sessionId

def revokeAllSessions (keepCurrentQuery : Option String) : AuthHandler PUnit := do
  let user ← authenticated http
  if toBoolean rt keepCurrentQuery then AuthService.revokeAllSessions user.id http.sessionID
  else
    AuthService.revokeAllSessions user.id none
    destroyCurrentSession http user

/-- `createTenantOnboarding`, `acceptInvitation` and their like: once the service has accepted the
request, its user gets a new session. -/
def renewSession (service : Except HttpError PUnit) : AuthHandler AuthReply := do
  let sessionUser ← authenticated http
  Handler.read fun _ => service
  match ← Handler.read fun s => .ok (AuthService.deserializeUser sessionUser s) with
  | some refreshedSessionUser =>
    let sid ← persistSession http refreshedSessionUser
    return { session := some sid }
  | none => return {}

end AuthController

/-- A request about accounts, about the onboarding or a tenancy, or about the sessions of its
user. -/
inductive SessionRequest
  | account (request : AccountRequest)
  | renew (service : Except HttpError PUnit)
  | logout
  | revokeSession (sessionId : Id)
  | revokeAllSessions (keepCurrentQuery : Option String)

structure SessionCall where
  http : HttpRequest
  entropy : Entropy
  verificationToken : String
  request : SessionRequest

namespace SessionController

/-- One request to the endpoints of accounts and sessions. -/
def handle (rt : Runtime) (call : SessionCall) : AuthHandler AuthReply :=
  match call.request with
  | .account request =>
    AccountController.handle rt ⟨call.http, call.entropy, call.verificationToken, request⟩
  | .renew service => AuthController.renewSession call.http service
  | .logout => do
    AuthController.logout call.http
    return {}
  | .revokeSession sessionId => do
    AuthController.revokeSession call.http sessionId
    return {}
  | .revokeAllSessions keepCurrentQuery => do
    AuthController.revokeAllSessions rt call.http keepCurrentQuery
    return {}

end SessionController

/-- A request, or what happens to the cache between requests. -/
inductive SessionEvent
  | request (call : SessionCall)
  /-- the term of a session ends -/
  | expire (sessionId : Id)
  /-- the term of the index of a user ends -/
  | expireIndex (userId : Id)
  /-- the list of a user's sessions drops one whose metadata have run out -/
  | unlist (userId sessionId : Id)

def SessionEvent.step (rt : Runtime) : SessionEvent → AuthStore → AuthStore
  | .request call, s => (SessionController.handle rt call s).2
  | .expire sessionId, s => AuthService.deleteSessions [sessionId] s
  | .expireIndex userId, s => AuthService.expireIndex userId s
  | .unlist userId sessionId, s => AuthService.cleanupSessions userId [sessionId] s

end Invetrixa
