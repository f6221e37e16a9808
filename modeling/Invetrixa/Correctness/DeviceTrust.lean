import Invetrixa.Correctness.SignIns
import Invetrixa.Correctness.SecondFactor

/-!
# Trusted devices

A device that a user has asked to remember stands in for the second factor at a login. Along any
run of sign-ins and requests on the second factor, the devices that are trusted are those for which
a cookie has been handed out, after a right code, and whose user has not disabled the second factor
since.

## Main definitions

- `DeviceEvent`, `trusts` — what the answers say of the devices
- `DeviceLog` — a run with its events
- `AuthCall.ShowsCode` — a request for a cookie, with a code that is right

## Main results

- `second_factor_skipped_iff` — which logins need no second factor
- `device_cookie_after_code` — a cookie is handed out for a right code
-/

namespace Invetrixa

open Rowstore Requests

/-- What an answer says of the devices. -/
inductive DeviceEvent
  /-- a cookie is handed out -/
  | remembered (userId : Id) (token : String) (now : ℕ)
  /-- the second factor is disabled -/
  | disabled (userId : Id)
  deriving DecidableEq

/-- Which devices are trusted, by the hashes of their cookies. -/
abbrev TrustMap : Type := String → Option DeviceTrust

def DeviceEvent.apply (rt : Runtime) : DeviceEvent → TrustMap → TrustMap
  | .remembered userId token now, t => fun deviceId =>
    if deviceId = rt.sha256 token then
      some ⟨userId, .active, addDays now MFA_REMEMBER_DEVICE_DAYS⟩
    else t deviceId
  | .disabled userId, t => fun deviceId => (t deviceId).filter fun trust => trust.userId ≠ userId

/-- An event after which a device is not trusted any more as one of a user, or trusted anew. -/
def DeviceEvent.Overrides (rt : Runtime) (userId : Id) (deviceId : String) : DeviceEvent → Prop
  | .remembered _ token _ => rt.sha256 token = deviceId
  | .disabled userId' => userId' = userId

/-- What is trusted after some events, the last first. -/
def trusts (rt : Runtime) (events : List DeviceEvent) : TrustMap :=
  events.foldr (DeviceEvent.apply rt) fun _ => none

/-- What the answer to a request says of the devices. -/
def AuthCall.events (call : AuthCall) (reply : AuthReply) : List DeviceEvent :=
  match call.request with
  | .twoFactor (.disableTwoFactor _) => reply.user.toList.map fun user => .disabled user.id
  | _ => reply.user.toList.flatMap fun user =>
    reply.deviceCookie.toList.map fun token => .remembered user.id token call.http.now

/-- The accounts, with what the answers have said of the devices, the last first. -/
structure DeviceLog where
  store : AuthStore
  events : List DeviceEvent

namespace DeviceLog

def serve (rt : Runtime) (log : DeviceLog) (call : AuthCall) : DeviceLog :=
  match AuthController.handle rt call.http call.entropy call.request log.store with
  | (.ok reply, s') => ⟨s', call.events reply ++ log.events⟩
  | (.error _, s') => ⟨s', log.events⟩

/-- Requests one after another, from accounts without devices on. -/
def run (rt : Runtime) (s₀ : AuthStore) (calls : List AuthCall) : DeviceLog :=
  calls.foldl (serve rt) ⟨{ s₀ with trustedDevices := .empty }, []⟩

end DeviceLog

/-- The devices as the events see them. -/
def AuthStore.trust (s : AuthStore) : TrustMap := fun deviceId =>
  (s.trustedDevices.find? deviceId).map TrustedDevice.trust

theorem signInsLeave_trust : SignInsLeave AuthStore.trust where
  user _ _ _ _ := rfl
  device s deviceId f hf := by
    funext deviceId'
    show ((s.trustedDevices.modify deviceId f).find? deviceId').map TrustedDevice.trust = _
    rw [Table.find?_modify]
    split
    · rw [Option.map_map]
      exact congrArg (fun g => (s.trustedDevices.find? deviceId').map g) (funext hf)
    · rfl
  codes _ _ _ := rfl
  sessions _ _ _ := rfl

section Requests

variable {rt : Runtime} {http : HttpRequest} {entropy : Entropy} {t : TrustMap}

/-- What keeps the view of the devices does so in both endings. -/
theorem ensures_of_keeps {α : Type} {m : AuthHandler α} (h : Handler.Keeps AuthStore.trust m) :
    Handler.Ensures (fun s => s.trust = t) m (fun _ s => s.trust = t) fun s => s.trust = t := by
  intro s hs
  have hkeep := (h s).trans hs
  constructor
  · intro a s' heq
    rw [heq] at hkeep
    exact hkeep
  · intro e s' heq
    rw [heq] at hkeep
    exact hkeep

/-- A device is remembered under a cookie that is new. -/
theorem ensures_maybeRememberDevice (userId : Id) (rememberDevice : Option Bool)
    (deviceLabel : Option String) :
    Handler.Ensures (fun s => s.trust = t)
      (AuthService.maybeRememberDevice rt http entropy userId rememberDevice deviceLabel)
      (fun cookie s => s.trust = (cookie.toList.map fun token =>
        DeviceEvent.remembered userId token http.now).foldr (DeviceEvent.apply rt) t)
      fun s => s.trust = t := by
  rw [AuthService.maybeRememberDevice]
  split
  · refine Handler.Ensures.bind (Q := fun token s => s.trust =
      (DeviceEvent.remembered userId token http.now).apply rt t) ?_
      fun token => Handler.Ensures.pure _ fun s hs => hs
    refine Handler.Ensures.bind (Q := fun _ s => s.trust =
      (DeviceEvent.remembered userId entropy.deviceToken http.now).apply rt t) ?_
      fun _ => Handler.Ensures.pure _ fun s hs => hs
    apply Handler.Ensures.atomically
    · intro s _ s' hs h
      obtain ⟨hfresh, h⟩ := Except.ite_error_eq_ok_iff.mp h
      obtain ⟨_, rfl⟩ := Prod.mk.inj (Except.ok.inj h)
      rw [Option.not_isSome_iff_eq_none] at hfresh
      funext deviceId
      show ((s.trustedDevices.insert _ _).find? deviceId).map TrustedDevice.trust = _
      rw [Table.find?_insert_of_none hfresh, ← hs]
      by_cases hid : deviceId = rt.sha256 entropy.deviceToken
      · simp only [DeviceEvent.apply, hid, if_true]
        rfl
      · simp only [DeviceEvent.apply, hid, if_false]
        rfl
    · exact fun s _ hs _ => hs
  · exact Handler.Ensures.pure _ fun s hs => hs

/-- The second factor of a user goes, with the devices. -/
theorem ensures_disableTwoFactor (userId : Id) (dto : DisableTwoFactorDto) :
    Handler.Ensures (fun s => s.trust = t) (AuthService.disableTwoFactor rt http userId dto)
      (fun user s => s.trust = (DeviceEvent.disabled user.id).apply rt t)
      fun s => s.trust = t := by
  refine Handler.Ensures.bind (ensures_of_keeps (ChecksLeave.loadUserOrThrow userId))
    fun user => ?_
  refine Handler.Ensures.bind
    (ensures_of_keeps (signInsLeave_trust.authorizeDisable user dto)) fun _ => ?_
  refine Handler.Ensures.bind (Q := fun _ s =>
    s.trust = (DeviceEvent.disabled user.id).apply rt t ∧ (s.users.find? user.id).isSome) ?_
    fun _ => ?_
  · apply Handler.Ensures.atomically
    · intro s _ s' hs h
      obtain ⟨hthere, h⟩ := Except.ite_error_eq_ok_iff.mp h
      obtain ⟨_, rfl⟩ := Prod.mk.inj (Except.ok.inj h)
      refine ⟨?_, ?_⟩
      · funext deviceId
        show ((s.trustedDevices.deleteWhere _).find? deviceId).map TrustedDevice.trust = _
        rw [Table.find?_deleteWhere, ← hs]
        show _ = ((s.trustedDevices.find? deviceId).map TrustedDevice.trust).filter _
        rw [Option.filter_map]
        congr 2
        funext device
        rw [Bool.eq_iff_iff]
        simp only [TrustedDevice.trust, ne_eq, decide_not, Bool.not_eq_true', Function.comp_apply]
        rfl
      · show ((s.users.modify user.id _).find? user.id).isSome = true
        rw [Serial.toTable_modify, Table.find?_modify, if_pos rfl, Option.isSome_map,
          ← Option.not_isNone, Bool.not_eq_true', ← Bool.not_eq_true]
        exact hthere
    · exact fun s _ hs _ => hs
  · refine Handler.Ensures.bind (Q := fun updatedUser s =>
      s.trust = (DeviceEvent.disabled updatedUser.id).apply rt t) ?_
      fun _ => Handler.Ensures.pure _ fun s hs => hs
    apply Handler.Ensures.read
    · intro s updatedUser hs h
      split at h
      · cases h
      · next found hfound =>
        obtain rfl := Except.ok.inj h
        rw [(AuthStore.findById_eq_some hfound).2]
        exact hs.1
    · intro s e hs h
      split at h
      · next hnone =>
        rw [AuthStore.findById, Option.map_eq_none_iff] at hnone
        rw [hnone] at hs
        cases hs.2
      · cases h

/-- A new session is always given, and leaves the devices. -/
theorem ensures_withNewSession {P : AuthStore → Prop} {E : AuthStore → Prop}
    {R : AuthReply → AuthStore → Prop} (user : SessionStateSnapshot) (deviceCookie : Option String)
    (h : ∀ s s' sid, P s → s'.trust = s.trust →
      R { session := some sid, deviceCookie, user := some user } s') :
    Handler.Ensures P (AuthController.withNewSession http user deviceCookie) R E := by
  intro s hs
  have hkeep : (AuthController.withNewSession http user deviceCookie s).2.trust = s.trust :=
    signInsLeave_trust.withNewSession user deviceCookie s
  constructor
  · intro reply s' heq
    rw [heq] at hkeep
    obtain ⟨hreply, _⟩ := Prod.mk.inj heq
    rw [← Except.ok.inj hreply]
    exact h s s' _ hs hkeep
  · intro e s' heq
    cases heq

/-- What an answer with a session and a cookie says. -/
theorem ensures_verifyTwoFactor (userId : Id) (dto : VerifyTwoFactorDto) :
    Handler.Ensures (fun s => s.trust = t)
      (AuthService.verifyTwoFactor rt http entropy userId dto)
      (fun p s => s.trust = (p.2.toList.map fun token =>
        DeviceEvent.remembered p.1.id token http.now).foldr (DeviceEvent.apply rt) t)
      fun s => s.trust = t := by
  refine Handler.Ensures.bind (ensures_of_keeps (ChecksLeave.loadUserOrThrow _)) fun user => ?_
  refine Handler.Ensures.bind
    (ensures_of_keeps (signInsLeave_trust.verifyCode user dto.code dto.channel)) fun verified => ?_
  split
  · refine Handler.Ensures.bind (ensures_of_keeps (signInsLeave_trust.update ?_ user.id))
      fun _ => ?_
    · exact fun _ => rfl
    refine Handler.Ensures.bind (ensures_of_keeps (ChecksLeave.loadUserOrThrow _))
      fun refreshed => ?_
    refine Handler.Ensures.bind (ensures_maybeRememberDevice _ _ _) fun cookie => ?_
    exact Handler.Ensures.pure _ fun s hs => hs
  · exact Handler.Ensures.refuse _ fun s hs => hs

theorem ensures_enableTwoFactor (userId : Id) (dto : EnableTwoFactorDto) :
    Handler.Ensures (fun s => s.trust = t)
      (AuthService.enableTwoFactor rt http entropy userId dto)
      (fun p s => s.trust = (p.2.toList.map fun token =>
        DeviceEvent.remembered p.1.id token http.now).foldr (DeviceEvent.apply rt) t)
      fun s => s.trust = t := by
  refine Handler.Ensures.bind (ensures_of_keeps (ChecksLeave.loadUserOrThrow _)) fun user => ?_
  refine Handler.Ensures.bind (ensures_of_keeps (signInsLeave_trust.enableMethod user dto))
    fun updated => ?_
  refine Handler.Ensures.bind (ensures_maybeRememberDevice _ _ _) fun cookie => ?_
  exact Handler.Ensures.pure _ fun s hs => hs

/-- What does not depend on the state goes on holding. -/
theorem ensures_fact {α : Type} {P : Prop} (m : AuthHandler α) :
    Handler.Ensures (fun _ => P) m (fun _ _ => P) fun _ => True :=
  fun _ hP => ⟨fun _ _ _ => hP, fun _ _ _ => trivial⟩

theorem ensures_true {α : Type} {P : AuthStore → Prop} (m : AuthHandler α) :
    Handler.Ensures P m (fun _ _ => True) fun _ => True :=
  fun _ _ => ⟨fun _ _ _ => trivial, fun _ _ _ => trivial⟩

/-- The other requests hand out no cookie. -/
theorem ensures_no_cookie (user : SessionStateSnapshot) {request : TwoFactorRequest}
    (hrequest : request.handlesDevices = false) :
    Handler.Ensures (fun _ => True) (AuthController.serve rt http entropy user request)
      (fun reply _ => reply.deviceCookie = none) fun _ => True := by
  cases request with
  | verifyTwoFactor dto => cases hrequest
  | enableTwoFactor dto => cases hrequest
  | disableTwoFactor dto => cases hrequest
  | enforceTwoFactor dto =>
    exact (ensures_true _).bind fun _ => ensures_withNewSession _ none fun _ _ _ _ _ => rfl
  | adminEnforceTwoFactor dto =>
    refine Handler.Ensures.bind (ensures_true _) fun response => ?_
    split
    · refine Handler.Ensures.bind (ensures_true _) fun refreshed => ?_
      split
      · exact (ensures_true _).bind fun _ => Handler.Ensures.pure _ fun _ _ => rfl
      · exact Handler.Ensures.pure _ fun _ _ => rfl
    · exact Handler.Ensures.pure _ fun _ _ => rfl
  | _ => exact (ensures_true _).bind fun _ => Handler.Ensures.pure _ fun _ _ => rfl

/-- The other requests leave the devices. -/
theorem ensures_serve (user : SessionStateSnapshot) {call : AuthCall} {request : TwoFactorRequest}
    (hcall : call.request = .twoFactor request) (hrequest : request.handlesDevices = false) :
    Handler.Ensures (fun s => s.trust = t) (AuthController.serve rt http entropy user request)
      (fun reply s => s.trust = (call.events reply).foldr (DeviceEvent.apply rt) t)
      fun s => s.trust = t := by
  intro s hs
  obtain ⟨hok, herr⟩ := ensures_of_keeps (signInsLeave_trust.serve user hrequest) s hs
  refine ⟨fun reply s' heq => ?_, herr⟩
  have hnone := (ensures_no_cookie user hrequest s trivial).1 reply s' heq
  have hevents : call.events reply = [] := by
    rw [AuthCall.events, hcall]
    split
    · next heq => obtain rfl := AuthRequest.twoFactor.inj heq; cases hrequest
    · simp [hnone]
  show s'.trust = _
  rw [hevents]
  exact hok reply s' heq

variable (rt t) in
/-- After an answer the devices are what the events say of them, after a refusal as before. -/
theorem ensures_handle (call : AuthCall) :
    Handler.Ensures (fun s => s.trust = t)
      (AuthController.handle rt call.http call.entropy call.request)
      (fun reply s => s.trust = (call.events reply).foldr (DeviceEvent.apply rt) t)
      fun s => s.trust = t := by
  obtain ⟨http, entropy, request⟩ := call
  cases request with
  | login email password =>
    refine Handler.Ensures.bind (ensures_of_keeps (signInsLeave_trust.validateUser email password))
      fun user => ?_
    refine Handler.Ensures.bind (ensures_of_keeps (signInsLeave_trust.persistSession user))
      fun sid => ?_
    refine Handler.Ensures.bind (ensures_of_keeps (ChecksLeave.loadUserOrThrow _)) fun _ => ?_
    exact Handler.Ensures.pure _ fun s hs => hs
  | twoFactor request =>
    refine Handler.Ensures.bind (ensures_of_keeps (Handler.Keeps.read _)) fun user => ?_
    cases request with
    | verifyTwoFactor dto =>
      refine Handler.Ensures.bind (ensures_verifyTwoFactor user.id dto) fun p => ?_
      apply ensures_withNewSession
      intro s s' sid hs hkeep
      rw [hkeep, hs]
      simp [AuthCall.events]
    | enableTwoFactor dto =>
      refine Handler.Ensures.bind (ensures_enableTwoFactor user.id dto) fun p => ?_
      apply ensures_withNewSession
      intro s s' sid hs hkeep
      rw [hkeep, hs]
      simp [AuthCall.events]
    | disableTwoFactor dto =>
      refine Handler.Ensures.bind (ensures_disableTwoFactor user.id dto) fun user => ?_
      apply ensures_withNewSession
      intro s s' sid hs hkeep
      rw [hkeep, hs]
      rfl
    | _ => exact ensures_serve user rfl rfl

/-- A code that enables a method for a user: one for the secret that it set up last, or for a
challenge that it was mailed. -/
def EnablingCode (rt : Runtime) (now userId : ℕ) (s : AuthStore) (code : String) :
    TwoFactorType → Prop
  | .totp => ∃ row ∈ s.users.find? userId, ∃ secret ∈ MfaService.pendingSecret row,
      rt.totpVerify code secret now = true
  | .email => RightCode rt now userId s code .email
  | .sms => False

/-- A request by which a user may have its device remembered: it asks for that, and shows a code
that is right. -/
def AuthCall.ShowsCode (rt : Runtime) (call : AuthCall) (userId : Id) (s : AuthStore) : Prop :=
  match call.request with
  | .twoFactor (.verifyTwoFactor dto) => dto.rememberDevice = some true ∧
    RightCode rt call.http.now userId s dto.code dto.channel
  | .twoFactor (.enableTwoFactor dto) => dto.rememberDevice = some true ∧
    EnablingCode rt call.http.now userId s dto.code dto.method
  | _ => False

/-- Only a right code settles a challenge with a yes. -/
theorem ensures_settleChallenge {P : Prop} {check : MfaService.ChallengeCheck} (now : ℕ)
    (h : ∀ id, check = .right id → P) :
    Handler.Ensures (fun _ => True) (MfaService.settleChallenge now check)
      (fun verified _ => verified = true → P) fun _ => True := by
  cases check with
  | absent => exact Handler.Ensures.pure _ fun _ _ hno => absurd hno (by decide)
  | spent id =>
    exact (ensures_true _).bind fun _ =>
      Handler.Ensures.pure _ fun _ _ hno => absurd hno (by decide)
  | wrong id =>
    exact (ensures_true _).bind fun _ =>
      Handler.Ensures.pure _ fun _ _ hno => absurd hno (by decide)
  | right id => exact (ensures_true _).bind fun _ => Handler.Ensures.pure _ fun _ _ _ => h id rfl

variable (rt http) in
/-- A code that is accepted is right. -/
theorem ensures_verifyCode {s : AuthStore} {userId : Id} {user : UserWithPreferences}
    (hid : user.id = userId) (hfound : s.findById userId = some user) (code : String)
    (channel : MfaService.TwoFactorVerificationChannel) :
    Handler.Ensures (fun s' => s' = s) (AuthService.verifyCode rt http user code channel)
      (fun verified _ => verified = true → RightCode rt http.now userId s code channel)
      fun _ => True := by
  cases channel with
  | totp => exact Handler.Ensures.pure _ fun _ _ h => rightCode_of_verifyTotp hfound h
  | email =>
    rintro s' rfl
    refine ensures_settleChallenge http.now (fun id hright => ?_) s' trivial
    rw [hid] at hright
    exact rightCode_of_checkChallenge hright
  | backupCode =>
    rw [AuthService.verifyCode, MfaService.validateBackupCode]
    cases hfind : MfaService.findBackupCode rt user code with
    | none => exact Handler.Ensures.pure _ fun _ _ hno => absurd hno (by decide)
    | some id =>
      exact (ensures_true _).bind fun _ =>
        Handler.Ensures.pure _ fun _ _ _ => rightCode_of_findBackupCode hfound hfind

theorem ensures_loadUserOrThrow {P : Prop} (userId : Id) :
    Handler.Ensures (fun _ => P) (AuthService.loadUserOrThrow userId)
      (fun user s => P ∧ user.id = userId ∧ s.findById userId = some user) fun _ => True := by
  apply Handler.Ensures.read
  · intro s user hP h
    split at h
    · cases h
    · next found hfound =>
      obtain rfl := Except.ok.inj h
      refine ⟨hP, ?_, hfound⟩
      rw [(AuthStore.findById_eq_some hfound).2]
      rfl
  · exact fun _ _ _ _ => trivial

/-- The user that a request is for, in the state that it meets. -/
theorem ensures_loadFirst (userId : Id) (s : AuthStore) :
    Handler.Ensures (fun s' => s' = s) (AuthService.loadUserOrThrow userId)
      (fun user s' => s' = s ∧ user.id = userId ∧ s.findById userId = some user)
      fun _ => True := by
  rintro s' rfl
  obtain ⟨hok, _⟩ := ensures_loadUserOrThrow (P := True) userId s' trivial
  refine ⟨fun user t heq => ?_, fun _ _ _ => trivial⟩
  obtain rfl : s' = t := congrArg Prod.snd heq
  exact ⟨rfl, (hok user s' heq).2⟩

variable (rt http entropy) in
/-- A cookie is made only for who asks for it. -/
theorem ensures_cookie_asked {P : Prop} (userId : Id) (rememberDevice : Option Bool)
    (deviceLabel : Option String) :
    Handler.Ensures (fun _ => P)
      (AuthService.maybeRememberDevice rt http entropy userId rememberDevice deviceLabel)
      (fun cookie _ => P ∧ (cookie.isSome → rememberDevice = some true)) fun _ => True := by
  rw [AuthService.maybeRememberDevice]
  split
  · next hasked => exact fun _ hP => ⟨fun _ _ _ => ⟨hP, fun _ => hasked⟩, fun _ _ _ => trivial⟩
  · apply Handler.Ensures.pure
    intro _ hP
    refine ⟨hP, ?_⟩
    intro h
    cases h

/-- What an answer with a session and a cookie says of the request. -/
def CookieFor (rt : Runtime) (call : AuthCall) (s : AuthStore)
    (p : SessionStateSnapshot × Option String) : Prop :=
  p.2.isSome → call.ShowsCode rt p.1.id s

/-- A session and a cookie, for a request that is to be answered so if it asks for a cookie. -/
theorem ensures_cookieFor {call : AuthCall} {s : AuthStore} (userId : Id)
    {rememberDevice : Option Bool} (deviceLabel : Option String)
    (hshows : rememberDevice = some true → call.ShowsCode rt userId s) :
    Handler.Ensures (fun _ => True)
      (AuthService.maybeRememberDevice rt call.http call.entropy userId rememberDevice deviceLabel)
      (fun cookie _ => CookieFor rt call s
        (buildSessionUser userId AuthService.verifiedOverrides, cookie)) fun _ => True := by
  refine (ensures_cookie_asked rt call.http call.entropy userId rememberDevice
    deviceLabel (P := True)).consequence (fun _ h => h) (fun cookie _ h hsome => ?_) fun _ h => h
  exact hshows (h.2 hsome)

theorem ensures_cookie_verify (userId : Id) {call : AuthCall} {dto : VerifyTwoFactorDto}
    (hcall : call.request = .twoFactor (.verifyTwoFactor dto)) (s : AuthStore) :
    Handler.Ensures (fun s' => s' = s)
      (AuthService.verifyTwoFactor rt call.http call.entropy userId dto)
      (fun p _ => CookieFor rt call s p) fun _ => True := by
  refine Handler.Ensures.bind (ensures_loadFirst userId s) fun user => ?_
  rintro s' ⟨rfl, hid, hfound⟩
  refine Handler.Ensures.bind (ensures_verifyCode rt call.http hid hfound dto.code dto.channel)
    (fun verified => ?_) s' rfl
  split
  · next hverified =>
    refine Handler.Ensures.bind (ensures_fact _) fun _ => ?_
    refine Handler.Ensures.bind (ensures_loadUserOrThrow user.id) fun refreshed => ?_
    rintro t ⟨hright, hrefreshed, _⟩
    refine Handler.Ensures.bind (ensures_cookieFor refreshed.id dto.deviceLabel fun hasked => ?_)
      (fun cookie => Handler.Ensures.pure _ fun _ h => h) t trivial
    rw [AuthCall.ShowsCode, hcall, hrefreshed, hid]
    exact ⟨hasked, hright hverified⟩
  · exact Handler.Ensures.refuse _ fun _ _ => trivial

variable (rt http) in
/-- A method that is enabled has been enabled by a right code. -/
theorem ensures_enableMethod {s : AuthStore} {userId : Id} {user : UserWithPreferences}
    (hid : user.id = userId) (hfound : s.findById userId = some user) (dto : EnableTwoFactorDto) :
    Handler.Ensures (fun s' => s' = s) (AuthService.enableMethod rt http user dto)
      (fun updatedUser _ => updatedUser.id = userId ∧
        EnablingCode rt http.now userId s dto.code dto.method) fun _ => True := by
  have hupdate : ∀ {P : Prop} (f), Handler.Ensures (fun _ => P) (UsersService.update user.id f)
      (fun updatedUser _ => updatedUser.id = userId ∧ P) fun _ => True := by
    intro P f
    apply UsersService.update_ensures
    · intro s updatedUser hP hupdated
      rw [(AuthStore.findById_eq_some hupdated).2]
      exact ⟨hid, hP⟩
    · exact fun _ _ _ => trivial
  rw [AuthService.enableMethod]
  cases dto.method with
  | totp =>
    obtain ⟨hrow, _⟩ := AuthStore.findById_eq_some hfound
    show Handler.Ensures _ (MfaService.enableTotp rt http.now user dto.code) _ _
    rw [MfaService.enableTotp]
    split
    · exact Handler.Ensures.refuse _ fun _ _ => trivial
    · next secret hsecret =>
      split
      · exact Handler.Ensures.refuse _ fun _ _ => trivial
      · next hvalid =>
        have hcode : EnablingCode rt http.now userId s dto.code .totp :=
          ⟨user.row, hrow, secret, hsecret, by simpa using hvalid⟩
        exact (hupdate _).consequence (fun _ _ => hcode) (fun _ _ h => h) fun _ h => h
  | email =>
    refine Handler.Ensures.bind (ensures_verifyCode rt http hid hfound dto.code .email)
      fun verified => ?_
    split
    · next hverified =>
      exact (hupdate _).consequence (fun _ h => h hverified) (fun _ _ h => h) fun _ h => h
    · exact Handler.Ensures.refuse _ fun _ _ => trivial
  | sms => exact Handler.Ensures.refuse _ fun _ _ => trivial

theorem ensures_cookie_enable (userId : Id) {call : AuthCall} {dto : EnableTwoFactorDto}
    (hcall : call.request = .twoFactor (.enableTwoFactor dto)) (s : AuthStore) :
    Handler.Ensures (fun s' => s' = s)
      (AuthService.enableTwoFactor rt call.http call.entropy userId dto)
      (fun p _ => CookieFor rt call s p) fun _ => True := by
  refine Handler.Ensures.bind (ensures_loadFirst userId s) fun user => ?_
  rintro s' ⟨rfl, hid, hfound⟩
  refine Handler.Ensures.bind (ensures_enableMethod rt call.http hid hfound dto)
    (fun updated => ?_) s' rfl
  rintro t ⟨hupdated, hright⟩
  refine Handler.Ensures.bind (ensures_cookieFor updated.id dto.deviceLabel fun hasked => ?_)
    (fun cookie => Handler.Ensures.pure _ fun _ h => h) t trivial
  rw [AuthCall.ShowsCode, hcall, hupdated]
  exact ⟨hasked, hright⟩

/-- What an answer with a cookie says that it remembers. -/
theorem CookieFor.of_remembered {call : AuthCall} {s : AuthStore}
    {p : SessionStateSnapshot × Option String} (h : CookieFor rt call s p) {userId now : ℕ}
    {token : String} (hmem : DeviceEvent.remembered userId token now ∈
      p.2.toList.map fun token => .remembered p.1.id token call.http.now) :
    now = call.http.now ∧ call.ShowsCode rt userId s := by
  obtain ⟨token', htoken, heq⟩ := List.mem_map.mp hmem
  obtain ⟨rfl, rfl, rfl⟩ := DeviceEvent.remembered.inj heq
  exact ⟨rfl, h (Option.isSome_iff_exists.mpr ⟨_, Option.mem_toList.mp htoken⟩)⟩

variable (rt) in
/-- A cookie is handed out for a right code of the user. -/
theorem ensures_cookie_after_code (call : AuthCall) (s : AuthStore) :
    Handler.Ensures (fun s' => s' = s)
      (AuthController.handle rt call.http call.entropy call.request)
      (fun reply _ => ∀ userId token now, .remembered userId token now ∈ call.events reply →
        now = call.http.now ∧ call.ShowsCode rt userId s)
      fun _ => True := by
  obtain ⟨http, entropy, request⟩ := call
  cases request with
  | login email password =>
    refine Handler.Ensures.bind (ensures_true _) fun user => ?_
    refine Handler.Ensures.bind (ensures_true _) fun sid => ?_
    refine Handler.Ensures.bind (ensures_true _) fun _ => ?_
    apply Handler.Ensures.pure
    intro _ _ userId token now hmem
    simp [AuthCall.events] at hmem
  | twoFactor request =>
    refine Handler.Ensures.bind (Q := fun _ s' => s' = s) ?_ fun user => ?_
    · exact Handler.Ensures.read (fun _ _ hs _ => hs) fun _ _ _ _ => trivial
    cases request with
    | verifyTwoFactor dto =>
      refine Handler.Ensures.bind (ensures_cookie_verify user.id rfl s) fun p => ?_
      apply ensures_withNewSession
      intro s₁ _ sid hcookie _ userId token now hmem
      simp only [AuthCall.events, Option.toList_some, List.flatMap_singleton] at hmem
      exact hcookie.of_remembered hmem
    | enableTwoFactor dto =>
      refine Handler.Ensures.bind (ensures_cookie_enable user.id rfl s) fun p => ?_
      apply ensures_withNewSession
      intro s₁ _ sid hcookie _ userId token now hmem
      simp only [AuthCall.events, Option.toList_some, List.flatMap_singleton] at hmem
      exact hcookie.of_remembered hmem
    | disableTwoFactor dto =>
      refine Handler.Ensures.bind (ensures_true _) fun user => ?_
      apply ensures_withNewSession
      intro _ _ sid _ _ userId token now hmem
      simp [AuthCall.events] at hmem
    | _ =>
      refine Handler.Ensures.consequence (ensures_no_cookie user rfl) (fun _ _ => trivial) ?_
        fun _ h => h
      intro reply _ hnone userId token now hmem
      simp [AuthCall.events, hnone] at hmem

end Requests

section Runs

variable (rt : Runtime) (s₀ : AuthStore)

/-- Along a run the devices are what the events say of them. -/
theorem trust_run (calls : List AuthCall) :
    (DeviceLog.run rt s₀ calls).store.trust = trusts rt (DeviceLog.run rt s₀ calls).events := by
  have hserve : ∀ (log : DeviceLog) (call : AuthCall), log.store.trust = trusts rt log.events →
      (log.serve rt call).store.trust = trusts rt (log.serve rt call).events := by
    intro log call hlog
    have hstep := ensures_handle rt (trusts rt log.events) call log.store hlog
    rw [DeviceLog.serve]
    generalize AuthController.handle rt call.http call.entropy call.request log.store = result
      at hstep ⊢
    obtain ⟨answer, s'⟩ := result
    cases answer with
    | ok reply =>
      rw [trusts, List.foldr_append]
      exact hstep.1 reply s' rfl
    | error e => exact hstep.2 e s' rfl
  have hfold : ∀ (calls : List AuthCall) (log : DeviceLog),
      log.store.trust = trusts rt log.events →
        (calls.foldl (DeviceLog.serve rt) log).store.trust =
          trusts rt (calls.foldl (DeviceLog.serve rt) log).events := by
    intro calls
    induction calls with
    | nil => exact fun _ h => h
    | cons call calls ih => exact fun log h => ih _ (hserve log call h)
  exact hfold calls _ rfl

/-- The events by which a device is trusted: the last cookie with its hash has been handed out to a
user who has not disabled the second factor since. -/
def TrustedSince (rt : Runtime) (events : List DeviceEvent) (deviceId : String) (userId now : ℕ) :
    Prop :=
  ∃ later token earlier, events = later ++ .remembered userId token now :: earlier ∧
    rt.sha256 token = deviceId ∧ ∀ e ∈ later, ¬e.Overrides rt userId deviceId

variable {rt}

theorem trustedSince_cons {e : DeviceEvent} {events : List DeviceEvent} {deviceId : String}
    {userId now : ℕ} (h : ¬e.Overrides rt userId deviceId) :
    TrustedSince rt (e :: events) deviceId userId now ↔
      TrustedSince rt events deviceId userId now := by
  constructor
  · rintro ⟨later, token, earlier, hevents, htoken, hlater⟩
    cases later with
    | nil =>
      obtain ⟨rfl, _⟩ := List.cons.inj hevents
      exact absurd htoken h
    | cons e' later =>
      obtain ⟨rfl, hrest⟩ := List.cons.inj hevents
      exact ⟨later, token, earlier, hrest, htoken, fun x hx => hlater x (.tail _ hx)⟩
  · rintro ⟨later, token, earlier, rfl, htoken, hlater⟩
    refine ⟨e :: later, token, earlier, rfl, htoken, fun x hx => ?_⟩
    obtain rfl | hx := List.mem_cons.mp hx
    · exact h
    · exact hlater x hx

theorem trusts_eq_some_iff {events : List DeviceEvent} {deviceId : String} {trust : DeviceTrust} :
    trusts rt events deviceId = some trust ↔ ∃ now,
      TrustedSince rt events deviceId trust.userId now ∧ trust.status = .active ∧
        trust.expiresAt = addDays now MFA_REMEMBER_DEVICE_DAYS := by
  induction events with
  | nil =>
    constructor
    · intro h
      cases h
    · rintro ⟨now, ⟨later, token, earlier, hevents, _⟩, _⟩
      cases later <;> cases hevents
  | cons e events ih =>
    cases e with
    | remembered userId token now =>
      show (if deviceId = rt.sha256 token then _ else trusts rt events deviceId) = _ ↔ _
      split
      · next hid =>
        constructor
        · intro h
          obtain rfl := Option.some.inj h
          refine ⟨now, ⟨[], token, events, rfl, hid.symm, ?_⟩, rfl, rfl⟩
          intro e he
          cases he
        · rintro ⟨now', ⟨later, token', earlier, hevents, _, hlater⟩, hstatus, hexpires⟩
          cases later with
          | nil =>
            obtain ⟨hfirst, _⟩ := List.cons.inj hevents
            obtain ⟨huser, _, hnow⟩ := DeviceEvent.remembered.inj hfirst
            obtain ⟨userId', status, expiresAt⟩ := trust
            dsimp only at *
            rw [huser, hnow, hstatus, hexpires]
          | cons e' later =>
            obtain ⟨rfl, _⟩ := List.cons.inj hevents
            exact absurd hid.symm (hlater _ (.head _))
      · next hid =>
        have hkeep : ∀ userId', ¬(DeviceEvent.remembered userId token now).Overrides rt userId'
            deviceId := fun _ heq => hid heq.symm
        simp only [ih, trustedSince_cons (hkeep _)]
    | disabled userId =>
      show (trusts rt events deviceId).filter _ = _ ↔ _
      rw [Option.filter_eq_some_iff, ih, decide_eq_true_eq]
      have hkeep : trust.userId ≠ userId →
          ¬(DeviceEvent.disabled userId).Overrides rt trust.userId deviceId :=
        fun hne heq => hne (Eq.symm heq)
      constructor
      · rintro ⟨⟨now, hsince, hrest⟩, hne⟩
        exact ⟨now, (trustedSince_cons (hkeep hne)).mpr hsince, hrest⟩
      · rintro ⟨now, hsince, hrest⟩
        have hne : trust.userId ≠ userId := by
          obtain ⟨later, token, earlier, hevents, _, hlater⟩ := hsince
          cases later with
          | nil => cases hevents
          | cons e' later =>
            obtain ⟨rfl, _⟩ := List.cons.inj hevents
            exact fun heq => hlater _ (.head _) heq.symm
        exact ⟨⟨now, (trustedSince_cons (hkeep hne)).mp hsince, hrest⟩, hne⟩

variable (rt) in
/-- After any run, a login with the right password needs no second factor exactly if the account has
none, or if the request shows a cookie that was handed out to the user in the last thirty days,
since when the user has not disabled the second factor, and comes from where the device was. -/
theorem second_factor_skipped_iff (calls : List AuthCall) {http : HttpRequest}
    {email password : String} {user : UserWithPreferences}
    (hlogin : AuthService.readLogin rt http email (DeviceLog.run rt s₀ calls).store = .ok user)
    (hpassword : rt.argonVerify user.row.password password = true) :
    (∃ session, (AuthService.validateUser rt http email password
        (DeviceLog.run rt s₀ calls).store).1 = .ok session ∧ session.twoFactorVerified = true) ↔
      (user.row.twoFactorEnabled = false ∧ user.row.twoFactorEnforced = false) ∨
      ∃ cookie now device, truthy http.mfaDeviceId = some cookie ∧
        TrustedSince rt (DeviceLog.run rt s₀ calls).events (rt.sha256 cookie) user.id now ∧
        http.now < addDays now MFA_REMEMBER_DEVICE_DAYS ∧
        (DeviceLog.run rt s₀ calls).store.trustedDevices.find? (rt.sha256 cookie) = some device ∧
        MfaService.hasMoved http device = false := by
  have htrust := trust_run rt s₀ calls
  generalize (DeviceLog.run rt s₀ calls).store = s at *
  generalize (DeviceLog.run rt s₀ calls).events = events at *
  obtain ⟨hrow, hload⟩ := AuthStore.findByEmail_eq_some (AuthService.readLogin_ok hlogin).1
  have hupdate := UsersService.update_apply hrow (AuthService.loggedIn http)
  obtain ⟨s₁, hsession, _⟩ :=
    loginSession_ok rt http (s.modifyUser user.id (AuthService.loggedIn http)) hload rfl
  have hvalidate : (AuthService.validateUser rt http email password s).1 = .ok
      (buildSessionUser user.id ⟨some (MfaService.shouldRequireTwoFactor rt http user).1,
        some !(MfaService.shouldRequireTwoFactor rt http user).1⟩) := by
    simp [AuthService.validateUser, bind, Handler.read, hlogin, hpassword, hupdate, hsession]
  have hskipped : (∃ session, (AuthService.validateUser rt http email password s).1 = .ok session ∧
      session.twoFactorVerified = true) ↔
        (MfaService.shouldRequireTwoFactor rt http user).1 = false := by
    rw [hvalidate]
    simp [buildSessionUser]
  rw [hskipped, shouldRequireTwoFactor_eq_false_iff hload]
  refine or_congr Iff.rfl (exists_congr fun cookie => ?_)
  have hview : ∀ device, s.trustedDevices.find? (rt.sha256 cookie) = some device →
      trusts rt events (rt.sha256 cookie) = some device.trust := by
    intro device hdevice
    rw [← htrust]
    show (s.trustedDevices.find? _).map TrustedDevice.trust = _
    rw [hdevice, Option.map_some]
  constructor
  · rintro ⟨device, hcookie, hdevice, hown, _, hlive, hmoved⟩
    obtain ⟨now, hsince, _, hexpires⟩ := trusts_eq_some_iff.mp (hview device hdevice)
    have hexpires' : device.expiresAt = addDays now MFA_REMEMBER_DEVICE_DAYS := hexpires
    rw [hexpires'] at hlive
    have hsince' : TrustedSince rt events (rt.sha256 cookie) device.userId now := hsince
    rw [hown] at hsince'
    exact ⟨now, device, hcookie, hsince', hlive, hdevice, hmoved⟩
  · rintro ⟨now, device, hcookie, hsince, hlive, hdevice, hmoved⟩
    have hsame : device.trust = ⟨user.id, .active, addDays now MFA_REMEMBER_DEVICE_DAYS⟩ :=
      Option.some.inj ((hview device hdevice).symm.trans
        (trusts_eq_some_iff.mpr ⟨now, hsince, rfl, rfl⟩))
    obtain ⟨hown, hactive, hexpires⟩ := DeviceTrust.mk.inj hsame
    exact ⟨device, hcookie, hdevice, hown, hactive, hexpires ▸ hlive, hmoved⟩

/-- Along any run, a cookie for a device has been handed out to a user only for a request that asked
for it and showed a code that was right for this user. -/
theorem device_cookie_after_code (calls : List AuthCall) {userId now : ℕ} {token : String}
    (h : .remembered userId token now ∈ (DeviceLog.run rt s₀ calls).events) :
    ∃ before call after, calls = before ++ call :: after ∧ call.http.now = now ∧
      call.ShowsCode rt userId (DeviceLog.run rt s₀ before).store := by
  induction calls using List.reverseRecOn with
  | nil => cases h
  | append_singleton calls call ih =>
    have hrun : DeviceLog.run rt s₀ (calls ++ [call]) =
        (DeviceLog.run rt s₀ calls).serve rt call := by
      rw [DeviceLog.run, List.foldl_append]
      rfl
    have hlater : .remembered userId token now ∈ (DeviceLog.run rt s₀ calls).events →
        ∃ before call' after, calls ++ [call] = before ++ call' :: after ∧
          call'.http.now = now ∧
          call'.ShowsCode rt userId (DeviceLog.run rt s₀ before).store := by
      intro hmem
      obtain ⟨before, call', after, hcalls, hrest⟩ := ih hmem
      exact ⟨before, call', after ++ [call], by rw [hcalls]; simp, hrest⟩
    have hstep := ensures_cookie_after_code rt call (DeviceLog.run rt s₀ calls).store _ rfl
    rw [hrun, DeviceLog.serve] at h
    generalize AuthController.handle rt call.http call.entropy call.request
      (DeviceLog.run rt s₀ calls).store = result at h hstep
    obtain ⟨answer, s'⟩ := result
    cases answer with
    | error e => exact hlater h
    | ok reply =>
      obtain hnew | hold := List.mem_append.mp h
      · obtain ⟨hnow, hcode⟩ := hstep.1 reply s' rfl userId token now hnew
        exact ⟨calls, call, [], rfl, hnow.symm, hcode⟩
      · exact hlater hold

/-- A login, and a right code on a device that is to be remembered. -/
def rememberedOnce : List AuthCall :=
  let entropy : Entropy := ⟨"", "", fun _ => "", "device", fun _ => 0⟩
  [⟨⟨none, none, none, none, 0⟩, entropy, .login "a@b.c" "password"⟩,
    ⟨⟨some 0, none, none, none, 1⟩, entropy,
      .twoFactor (.verifyTwoFactor ⟨.totp, "secret", some true, none⟩)⟩]

theorem device_cookie_after_code_rememberedOnce :
    ∃ before call after, rememberedOnce = before ++ call :: after ∧ call.http.now = 1 ∧
      call.ShowsCode .plain 0 (DeviceLog.run .plain (.withUser secured) before).store := by
  have hmem : DeviceEvent.remembered 0 "device" 1 ∈
      (DeviceLog.run .plain (.withUser secured) rememberedOnce).events := by decide +kernel
  exact device_cookie_after_code (.withUser secured) rememberedOnce hmem

theorem second_factor_skipped_iff_rememberedOnce :
    ∃ session, (AuthService.validateUser .plain ⟨none, some "device", none, none, 2⟩ "a@b.c"
        "password" (DeviceLog.run .plain (.withUser secured) rememberedOnce).store).1 =
      .ok session ∧ session.twoFactorVerified = true := by
  have hread : (AuthService.readLogin .plain ⟨none, some "device", none, none, 2⟩ "a@b.c"
      (DeviceLog.run .plain (.withUser secured) rememberedOnce).store).toOption.map
        (fun user => (user.id, user.row.password)) = some (0, "password") := by
    decide +kernel
  obtain ⟨user, huser, hfields⟩ := Option.map_eq_some_iff.mp hread
  obtain ⟨hid, hpassword⟩ := Prod.mk.inj hfields
  have hlogin : AuthService.readLogin .plain ⟨none, some "device", none, none, 2⟩ "a@b.c"
      (DeviceLog.run .plain (.withUser secured) rememberedOnce).store = .ok user := by
    generalize AuthService.readLogin _ _ _ _ = answer at huser ⊢
    cases answer with
    | error e => cases huser
    | ok user' => rw [Option.some.inj huser]
  refine (second_factor_skipped_iff .plain (.withUser secured) rememberedOnce hlogin
    (decide_eq_true hpassword)).mpr (.inr ⟨"device", 1, ?_⟩)
  refine ⟨⟨0, none, none, none, .active, none, addDays 1 30⟩, rfl, ?_, by decide, by decide +kernel,
    by decide⟩
  rw [hid]
  have hevents : (DeviceLog.run .plain (.withUser secured) rememberedOnce).events =
      [.remembered 0 "device" 1] := by decide +kernel
  refine ⟨[], "device", [], hevents, rfl, ?_⟩
  intro e he
  cases he

end Runs

end Invetrixa
