import Invetrixa.Auth.Tokens
import Invetrixa.Library.OneTime

/-!
# Tokens and codes that are used once

Requests present a token or a code: the verification of an address, a password reset, a backup
code, a mailed code. Each looks up what is stored and checks it, and writes that it is used in a
later commit, by id and whatever the row says by then. In between, others may read and commit.

## Main results

- `accepted_once_iff` — at most one of the requests that present a secret is accepted, exactly if
  each of them still finds it unused when it commits
- `accepted_twice` — two requests read each kind of secret before either commits
-/

namespace Invetrixa

open Rowstore Requests

/-- What the requests of a run present. -/
inductive OneTimeSecret
  | token (token : String)
  | backupCode (userId : Id) (code : String)
  | emailCode (userId : Id) (code : String)

/-- A row that a secret is checked against. -/
inductive StoredSecret
  | token (id : Id)
  | backupCode (id : Id)
  | challenge (id : Id)
  deriving DecidableEq

/-- A request that presents a secret, at its time. -/
inductive OneTimeRequest
  | verifyEmail (now : ℕ)
  | resetPassword (now : ℕ) (newPassword : String) (salt : ℕ)
  | verifyBackupCode (now : ℕ)
  | verifyEmailCode (now : ℕ)

/-- What a request has read and checked when it goes on to its commit. -/
inductive OneTimeRead
  | verifyEmail (now tokenId userId : ℕ)
  | resetPassword (now tokenId userId : ℕ) (passwordHash : String)
  | backupCode (now id : ℕ)
  | challenge (now : ℕ) (check : MfaService.ChallengeCheck)

namespace OneTimeRead

/-- The read and the check of a request; a request that is refused here writes nothing. -/
def read (rt : Runtime) (s : AuthStore) : OneTimeSecret → OneTimeRequest → Option OneTimeRead
  | .token token, .verifyEmail now =>
    (AuthService.readVerifyEmail now token s).toOption.map fun record =>
      .verifyEmail now record.1 record.2.userId
  | .token token, .resetPassword now newPassword salt =>
    (AuthService.readResetPassword now token s).toOption.map fun r =>
      .resetPassword now r.1 r.2.id (rt.argonHash newPassword salt)
  | .backupCode userId code, .verifyBackupCode now =>
    (s.findById userId).bind fun user =>
      (MfaService.findBackupCode rt user code).map fun id => .backupCode now id
  | .emailCode userId code, .verifyEmailCode now =>
    match MfaService.checkChallenge rt now userId .email code s with
    | .absent => none
    | check => some (.challenge now check)
  | _, _ => none

/-- What is written, and whether the request is accepted. -/
def settle : OneTimeRead → AuthHandler Bool
  | .verifyEmail now tokenId userId => do
    AuthService.commitVerifyEmail now tokenId userId
    return true
  | .resetPassword now tokenId userId passwordHash => do
    AuthService.commitResetPassword now tokenId userId passwordHash
    AuthService.revokeAllSessions userId none
    return true
  | .backupCode now id => do
    UsersService.markBackupCodeUsed now id
    return true
  | .challenge now check => MfaService.settleChallenge now check

/-- The row that the request is accepted for. -/
def secret : OneTimeRead → Option StoredSecret
  | .verifyEmail _ tokenId _ => some (.token tokenId)
  | .resetPassword _ tokenId _ _ => some (.token tokenId)
  | .backupCode _ id => some (.backupCode id)
  | .challenge _ (.right id) => some (.challenge id)
  | .challenge _ _ => none

/-- The row that the commit marks. -/
def marks : OneTimeRead → Option StoredSecret
  | .challenge _ (.spent id) => some (.challenge id)
  | d => d.secret

end OneTimeRead

/-- The accounts, and the rows that requests have been accepted for. -/
structure OneTimeState where
  store : AuthStore
  accepted : List StoredSecret

/-- The requests that present a secret, each a read with its check and a later commit. -/
def oneTimeRequests (rt : Runtime) (secret : OneTimeSecret) :
    ReadCommit OneTimeState OneTimeRequest OneTimeRead where
  read request st := OneTimeRead.read rt st.store secret request
  commit _ d st :=
    match d.settle st.store with
    | (.ok true, s') => ⟨s', d.secret.toList ++ st.accepted⟩
    | (_, s') => ⟨s', st.accepted⟩

namespace StoredSecret

/-- A row says that it is used. -/
def Used (s : AuthStore) : StoredSecret → Prop
  | .token id => (s.verificationTokens.find? id).any VerificationToken.used
  | .backupCode id => (s.backupCodes.find? id).any TwoFactorBackupCode.used
  | .challenge id => (s.challenges.find? id).any TwoFactorChallenge.consumed

instance (s : AuthStore) (k : StoredSecret) : Decidable (k.Used s) := by
  cases k <;> exact inferInstanceAs (Decidable (_ = true))

/-- A row is one that a secret is for. -/
def IsFor (rt : Runtime) (s : AuthStore) : OneTimeSecret → StoredSecret → Prop
  | .token text, .token id => (s.verificationTokens.find? id).any fun r => r.token = text
  | .backupCode userId code, .backupCode id => (s.backupCodes.find? id).any fun c =>
      c.userId = userId ∧ rt.argonVerify c.codeHash (trim code)
  | .emailCode userId code, .challenge id => (s.challenges.find? id).any fun c =>
      c.userId = userId ∧ c.channel = .email ∧ rt.argonVerify c.codeHash code
  | _, _ => False

end StoredSecret

/-- The commit of a request finds the row that it is accepted for unused. -/
def StillUnused (st : OneTimeState) (_ : OneTimeRequest) (d : OneTimeRead) : Prop :=
  ∀ k ∈ d.secret, ¬k.Used st.store

instance (st : OneTimeState) (r : OneTimeRequest) (d : OneTimeRead) :
    Decidable (StillUnused st r d) :=
  inferInstanceAs (Decidable (∀ k ∈ d.secret, ¬k.Used st.store))

/-- Two stores with the same users, tokens, codes and challenges, but for their marks. -/
structure SameSecrets (s s' : AuthStore) : Prop where
  users : ∀ id, (s'.users.find? id).isSome = (s.users.find? id).isSome
  tokens : ∀ id, (s'.verificationTokens.find? id).map (fun r => (r.token, r.userId)) =
    (s.verificationTokens.find? id).map fun r => (r.token, r.userId)
  backupCodes : ∀ id, (s'.backupCodes.find? id).map (fun c => (c.userId, c.codeHash)) =
    (s.backupCodes.find? id).map fun c => (c.userId, c.codeHash)
  challenges : ∀ id, (s'.challenges.find? id).map (fun c => (c.userId, c.channel, c.codeHash)) =
    (s.challenges.find? id).map fun c => (c.userId, c.channel, c.codeHash)

section Settle

variable {rt : Runtime} {secret : OneTimeSecret} {s s' : AuthStore} {d : OneTimeRead}

theorem SameSecrets.refl (s : AuthStore) : SameSecrets s s :=
  ⟨fun _ => rfl, fun _ => rfl, fun _ => rfl, fun _ => rfl⟩

theorem SameSecrets.isFor (h : SameSecrets s s') (k : StoredSecret) :
    k.IsFor rt s' secret ↔ k.IsFor rt s secret := by
  cases secret with
  | token token =>
    cases k with
    | token id =>
      have heq := congrArg (Option.any fun p : String × Id => p.1 = token) (h.tokens id)
      rw [Option.any_map, Option.any_map] at heq
      exact Bool.eq_iff_iff.mp heq
    | _ => exact Iff.rfl
  | backupCode userId code =>
    cases k with
    | backupCode id =>
      have heq := congrArg (Option.any fun p : Id × String =>
        p.1 = userId ∧ rt.argonVerify p.2 (trim code)) (h.backupCodes id)
      rw [Option.any_map, Option.any_map] at heq
      exact Bool.eq_iff_iff.mp heq
    | _ => exact Iff.rfl
  | emailCode userId code =>
    cases k with
    | challenge id =>
      have heq := congrArg (Option.any fun p : Id × MfaChallengeChannel × String =>
        p.1 = userId ∧ p.2.1 = .email ∧ rt.argonVerify p.2.2 code) (h.challenges id)
      rw [Option.any_map, Option.any_map] at heq
      exact Bool.eq_iff_iff.mp heq
    | _ => exact Iff.rfl

/-- The rows that a commit writes are there. -/
def OneTimeRead.Live (s : AuthStore) : OneTimeRead → Prop
  | .verifyEmail _ tokenId userId =>
    (s.users.find? userId).isSome ∧ (s.verificationTokens.find? tokenId).isSome
  | .resetPassword _ tokenId userId _ =>
    (s.users.find? userId).isSome ∧ (s.verificationTokens.find? tokenId).isSome
  | .backupCode _ id => (s.backupCodes.find? id).isSome
  | .challenge _ .absent => True
  | .challenge _ (.spent id) => (s.challenges.find? id).isSome
  | .challenge _ (.wrong id) => (s.challenges.find? id).isSome
  | .challenge _ (.right id) => (s.challenges.find? id).isSome

/-- What a commit does to the secrets: it marks one, and a wrong code counts as an attempt. -/
structure SecretSettled (d : OneTimeRead) (s s' : AuthStore) : Prop where
  same : SameSecrets s s'
  used : ∀ k : StoredSecret, k.Used s' ↔ k.Used s ∨ k ∈ d.marks
  challenges : ∀ id c, s.challenges.find? id = some c →
    ∃ c', s'.challenges.find? id = some c' ∧ c'.codeHash = c.codeHash ∧
      c.attempts ≤ c'.attempts ∧
      ((∃ now, d = .challenge now (.wrong id)) ∨ c'.attempts = c.attempts)

/-- A mark on a row that is there. -/
theorem SecretSettled.of_token {now tokenId userId : ℕ} {f : User → User}
    (hmarks : d.marks = some (.token tokenId)) (hlive : (s.users.find? userId).isSome ∧
      (s.verificationTokens.find? tokenId).isSome)
    (husers : s'.users = s.users.modify userId f)
    (htokens : s'.verificationTokens =
      (AuthService.markTokenUsed now tokenId s).verificationTokens)
    (hcodes : s'.backupCodes = s.backupCodes) (hchallenges : s'.challenges = s.challenges) :
    SecretSettled d s s' where
  same := by
    refine ⟨fun id => ?_, fun id => ?_, fun _ => hcodes ▸ rfl, fun _ => hchallenges ▸ rfl⟩
    · have hmap := Serial.map_find?_modify (t := s.users) (g := fun _ => ()) (f := f)
        (fun _ => rfl) userId id
      have hsome := congrArg Option.isSome hmap
      rw [Option.isSome_map, Option.isSome_map] at hsome
      rw [husers]
      exact hsome
    · rw [htokens]
      exact Serial.map_find?_modify (t := s.verificationTokens)
        (f := fun record => { record with used := true, usedAt := some now }) (fun _ => rfl)
        tokenId id
  used k := by
    rw [hmarks]
    cases k with
    | token id =>
      have hany := Serial.any_find?_modify (g := VerificationToken.used)
        (f := fun record => { record with used := true, usedAt := some now }) (fun _ => rfl)
        hlive.2 id
      rw [StoredSecret.Used, htokens]
      exact hany.trans (or_congr_right ⟨fun h => h ▸ rfl, fun h => by cases h; rfl⟩)
    | backupCode id =>
      rw [StoredSecret.Used, hcodes]
      exact ⟨.inl, fun hor => hor.resolve_right fun h => by cases h⟩
    | challenge id =>
      rw [StoredSecret.Used, hchallenges]
      exact ⟨.inl, fun hor => hor.resolve_right fun h => by cases h⟩
  challenges id c hc := ⟨c, hchallenges ▸ hc, rfl, le_refl _, .inr rfl⟩

theorem SecretSettled.of_challenge {id : Id} {f : TwoFactorChallenge → TwoFactorChallenge}
    (hf : ∀ c, ((f c).userId, (f c).channel, (f c).codeHash) = (c.userId, c.channel, c.codeHash))
    (hused : ∀ k : StoredSecret, k.Used (s.modifyChallenge id f) ↔ k.Used s ∨ k ∈ d.marks)
    (hle : ∀ c, c.attempts ≤ (f c).attempts)
    (hattempts : (∃ now, d = .challenge now (.wrong id)) ∨ ∀ c, (f c).attempts = c.attempts) :
    SecretSettled d s (s.modifyChallenge id f) where
  same := ⟨fun _ => rfl, fun _ => rfl, fun _ => rfl, fun id' => Serial.map_find?_modify hf id id'⟩
  used := hused
  challenges id' c hc := by
    rw [AuthStore.challenges_modifyChallenge, Serial.toTable_modify, Table.find?_modify]
    by_cases hid : id' = id
    · subst hid
      rw [if_pos rfl, hc]
      exact ⟨f c, rfl, congrArg (·.2.2) (hf c), hle c, hattempts.imp (fun h => h) fun h => h c⟩
    · rw [if_neg hid]
      exact ⟨c, hc, rfl, le_refl _, .inr rfl⟩

/-- A consumed challenge is marked. -/
theorem used_consumed {id now : ℕ} (hsome : (s.challenges.find? id).isSome) (k : StoredSecret) :
    k.Used (s.modifyChallenge id fun c => { c with consumed := true, consumedAt := some now }) ↔
      k.Used s ∨ k = .challenge id := by
  cases k with
  | token id' => exact ⟨.inl, fun hor => hor.resolve_right fun h => by cases h⟩
  | backupCode id' => exact ⟨.inl, fun hor => hor.resolve_right fun h => by cases h⟩
  | challenge id' =>
    have hany := Serial.any_find?_modify (t := s.challenges) (g := TwoFactorChallenge.consumed)
      (f := fun c => { c with consumed := true, consumedAt := some now }) (fun _ => rfl) hsome id'
    exact hany.trans (or_congr_right ⟨fun h => h ▸ rfl, fun h => by cases h; rfl⟩)

/-- A transaction on a token that goes through. -/
theorem useToken_apply {now tokenId userId : ℕ} (hlive : (s.users.find? userId).isSome ∧
    (s.verificationTokens.find? tokenId).isSome) (f : User → User) :
    AuthService.useToken now tokenId userId f s =
      .ok (⟨⟩, AuthService.markTokenUsed now tokenId (s.modifyUser userId f)) := by
  rw [AuthService.useToken, if_neg]
  rintro (hnone | hnone)
  · rw [← Option.not_isSome, hlive.1] at hnone
    cases hnone
  · rw [← Option.not_isSome, hlive.2] at hnone
    cases hnone

/-- Every commit goes through, and is an acceptance exactly if it is made for a secret. -/
theorem OneTimeRead.settle_spec (h : d.Live s) :
    ∃ s', d.settle s = (.ok d.secret.isSome, s') ∧ SecretSettled d s s' := by
  have hupdate : ∀ {id : Id} {f : TwoFactorChallenge → TwoFactorChallenge} (b : Bool),
      (s.challenges.find? id).isSome →
      ((do UsersService.updateChallenge id f; return b) : AuthHandler Bool) s =
        (.ok b, s.modifyChallenge id f) := by
    intro id f b hsome
    obtain ⟨c, hc⟩ := Option.isSome_iff_exists.mp hsome
    simp only [bind, UsersService.updateChallenge_apply hc]
    rfl
  cases d with
  | verifyEmail now tokenId userId =>
    refine ⟨AuthService.markTokenUsed now tokenId (s.modifyUser userId fun row =>
      { row with emailVerified := some now }), ?_, SecretSettled.of_token rfl h rfl rfl rfl rfl⟩
    simp only [settle, AuthService.commitVerifyEmail, Handler.atomically, transaction, bind,
      useToken_apply h]
    rfl
  | resetPassword now tokenId userId passwordHash =>
    -- the password and the token in one transaction, the sessions after it
    obtain ⟨s₁, hs₁, hcommit⟩ : ∃ s₁, s₁ = { AuthService.markTokenUsed now tokenId
        (s.modifyUser userId (AuthService.withPassword now passwordHash)) with
          passwordHistory := s.passwordHistory.create ⟨userId, passwordHash⟩ } ∧
        AuthService.commitResetPassword now tokenId userId passwordHash s = (.ok ⟨⟩, s₁) := by
      refine ⟨_, rfl, ?_⟩
      simp only [AuthService.commitResetPassword, Handler.atomically, transaction,
        useToken_apply h]
      rfl
    refine ⟨(AuthService.revokeAllSessions userId none s₁).2, ?_, ?_⟩
    · simp only [settle, bind, hcommit, AuthService.revokeAllSessions_apply]
      rfl
    · subst hs₁
      exact SecretSettled.of_token rfl h rfl rfl rfl rfl
  | backupCode now id =>
    have hsome : (s.backupCodes.find? id).isSome := h
    have hmark : UsersService.markBackupCodeUsed now id s = (.ok ⟨⟩, { s with
        backupCodes := s.backupCodes.modify id fun code =>
          { code with used := true, usedAt := some now } }) := by
      obtain ⟨c, hc⟩ := Option.isSome_iff_exists.mp hsome
      simp [UsersService.markBackupCodeUsed, Handler.atomically, transaction, hc]
    refine ⟨(UsersService.markBackupCodeUsed now id s).2, ?_, ?_⟩
    · simp only [settle, bind, hmark]
      rfl
    · rw [hmark]
      refine ⟨⟨fun _ => rfl, fun _ => rfl, fun id' => ?_, fun _ => rfl⟩, fun k => ?_,
        fun _ c hc => ⟨c, hc, rfl, le_refl _, .inr rfl⟩⟩
      · exact Serial.map_find?_modify (t := s.backupCodes)
          (f := fun code => { code with used := true, usedAt := some now }) (fun _ => rfl) id id'
      · cases k with
        | token id' => exact ⟨.inl, fun hor => hor.resolve_right fun h => by cases h⟩
        | challenge id' => exact ⟨.inl, fun hor => hor.resolve_right fun h => by cases h⟩
        | backupCode id' =>
          have hany := Serial.any_find?_modify (g := TwoFactorBackupCode.used)
            (f := fun code => { code with used := true, usedAt := some now }) (fun _ => rfl) hsome
            id'
          exact hany.trans (or_congr_right ⟨fun h => h ▸ rfl, fun h => by cases h; rfl⟩)
  | challenge now check =>
    cases check with
    | absent =>
      exact ⟨s, rfl, .refl s, fun k => ⟨.inl, fun hor => hor.resolve_right fun h => by cases h⟩,
        fun _ c hc => ⟨c, hc, rfl, le_refl _, .inr rfl⟩⟩
    | spent id =>
      refine ⟨_, hupdate false h, SecretSettled.of_challenge (fun _ => rfl) (fun k => ?_)
        (fun _ => le_refl _) (.inr fun _ => rfl)⟩
      exact (used_consumed h k).trans (or_congr_right ⟨fun h => h ▸ rfl, fun h => by cases h; rfl⟩)
    | wrong id =>
      refine ⟨_, hupdate false h, SecretSettled.of_challenge (fun _ => rfl) (fun k => ?_)
        (fun _ => Nat.le_succ _) (.inl ⟨now, rfl⟩)⟩
      cases k with
      | token id' => exact ⟨.inl, fun hor => hor.resolve_right fun h => by cases h⟩
      | backupCode id' => exact ⟨.inl, fun hor => hor.resolve_right fun h => by cases h⟩
      | challenge id' =>
        have hmap := congrArg (Option.any fun b => b) (Serial.map_find?_modify (t := s.challenges)
          (g := TwoFactorChallenge.consumed) (f := fun c => { c with attempts := c.attempts + 1 })
          (fun _ => rfl) id id')
        rw [Option.any_map, Option.any_map] at hmap
        have hused : StoredSecret.Used (s.modifyChallenge id fun c =>
            { c with attempts := c.attempts + 1 }) (.challenge id') ↔
              StoredSecret.Used s (.challenge id') := Bool.eq_iff_iff.mp hmap
        exact hused.trans ⟨.inl, fun hor => hor.resolve_right fun h => by cases h⟩
    | right id =>
      refine ⟨_, hupdate true h, SecretSettled.of_challenge (fun _ => rfl) (fun k => ?_)
        (fun _ => le_refl _) (.inr fun _ => rfl)⟩
      exact (used_consumed h k).trans (or_congr_right ⟨fun h => h ▸ rfl, fun h => by cases h; rfl⟩)

/-- A hash answers to the mailed code that is presented. -/
def OneTimeSecret.Matches (rt : Runtime) (hash : String) : OneTimeSecret → Prop
  | .emailCode _ code => rt.argonVerify hash code = true
  | _ => False

/-- What the check of a mailed code has found out, and no commit changes. -/
def OneTimeRead.Checked (rt : Runtime) (secret : OneTimeSecret) (s : AuthStore) :
    OneTimeRead → Prop
  | .challenge _ (.spent id) =>
    ∃ c, s.challenges.find? id = some c ∧ MFA_MAX_ATTEMPTS ≤ c.attempts
  | .challenge _ (.wrong id) =>
    ∃ c, s.challenges.find? id = some c ∧ ¬secret.Matches rt c.codeHash
  | .challenge _ (.right id) =>
    ∃ c, s.challenges.find? id = some c ∧ secret.Matches rt c.codeHash ∧
      c.attempts < MFA_MAX_ATTEMPTS
  | _ => True

/-- What a request in flight relies on. -/
structure InFlight (rt : Runtime) (secret : OneTimeSecret) (s : AuthStore) (d : OneTimeRead) :
    Prop where
  live : d.Live s
  checked : d.Checked rt secret s
  isFor : ∀ k ∈ d.secret, k.IsFor rt s secret

/-- Every token belongs to a user, as its foreign key says. -/
def TokensOwned (s : AuthStore) : Prop :=
  ∀ id record, s.verificationTokens.find? id = some record → (s.users.find? record.userId).isSome

theorem SameSecrets.tokensOwned (h : SameSecrets s s') (hs : TokensOwned s) : TokensOwned s' := by
  intro id record hrecord
  have hmap := h.tokens id
  rw [hrecord] at hmap
  obtain ⟨record', hrecord', heq⟩ := Option.map_eq_some_iff.mp hmap.symm
  rw [h.users, ← (Prod.mk.inj heq).2]
  exact hs id record' hrecord'

/-- What a request relies on once it has read and checked, and the row it found unused. -/
theorem OneTimeRead.read_spec {request : OneTimeRequest} (hs : TokensOwned s)
    (h : OneTimeRead.read rt s secret request = some d) :
    InFlight rt secret s d ∧ ∀ k ∈ d.secret, ¬k.Used s := by
  have hsome : ∀ {κ ρ : Type} [DecidableEq κ] {t : Table κ ρ} {k : κ} {r : ρ},
      t.find? k = some r → (t.find? k).isSome := fun h => by rw [h]; rfl
  cases secret with
  | token token =>
    cases request with
    | verifyEmail now =>
      obtain ⟨record, hrecord, rfl⟩ := Option.map_eq_some_iff.mp h
      obtain ⟨hfind, htoken, hused⟩ :=
        AuthService.readToken_ok (Except.toOption_eq_some_iff.mp hrecord)
      refine ⟨⟨⟨hs _ _ hfind, hsome hfind⟩, trivial, ?_⟩, ?_⟩
      · rintro k ⟨⟩
        simp [StoredSecret.IsFor, hfind, htoken]
      · rintro k ⟨⟩
        simp [StoredSecret.Used, hfind, hused]
    | resetPassword now newPassword salt =>
      obtain ⟨⟨id, user⟩, hread, rfl⟩ := Option.map_eq_some_iff.mp h
      obtain ⟨record, hfind, htoken, hused, huser⟩ :=
        AuthService.readResetPassword_ok (Except.toOption_eq_some_iff.mp hread)
      obtain ⟨hrow, hload⟩ := AuthStore.findById_eq_some huser
      have hid : user.id = record.userId := by
        rw [hload]
        rfl
      refine ⟨⟨⟨hsome (hid ▸ hrow), hsome hfind⟩, trivial, ?_⟩, ?_⟩
      · rintro k ⟨⟩
        simp [StoredSecret.IsFor, hfind, htoken]
      · rintro k ⟨⟩
        simp [StoredSecret.Used, hfind, hused]
    | _ => cases h
  | backupCode userId code =>
    cases request with
    | verifyBackupCode now =>
      obtain ⟨user, huser, hcode⟩ := Option.bind_eq_some_iff.mp h
      obtain ⟨id, hid, rfl⟩ := Option.map_eq_some_iff.mp hcode
      obtain ⟨c, hmem, hused, hverify⟩ := MfaService.findBackupCode_eq_some rt hid
      obtain ⟨_, hload⟩ := AuthStore.findById_eq_some huser
      rw [hload] at hmem
      obtain ⟨hrow, hcuser⟩ := List.mem_filter.mp hmem
      have hfind := Table.find?_of_mem_rows hrow
      have huserId : c.userId = userId := of_decide_eq_true hcuser
      refine ⟨⟨hsome hfind, trivial, ?_⟩, ?_⟩
      · rintro k ⟨⟩
        simp [StoredSecret.IsFor, hfind, huserId, hverify]
      · rintro k ⟨⟩
        simp [StoredSecret.Used, hfind, hused]
    | _ => cases h
  | emailCode userId code =>
    cases request with
    | verifyEmailCode now =>
      obtain ⟨habsent, _⟩ | ⟨id, c, hfind, hcuser, hchannel, hopen, hexpires, hcheck⟩ :=
        MfaService.checkChallenge_cases rt now userId .email code s
      · rw [OneTimeRead.read, habsent] at h
        cases h
      -- no attempts are left, the code is wrong, or it is right
      · rcases hcheck with ⟨hspent, hattempts⟩ | ⟨hwrong, hverify⟩ | ⟨hright, hattempts, hverify⟩
        · rw [OneTimeRead.read, hspent] at h
          obtain rfl := Option.some.inj h
          refine ⟨⟨hsome hfind, ⟨c, hfind, hattempts⟩, ?_⟩, ?_⟩
          · rintro k ⟨⟩
          · rintro k ⟨⟩
        · rw [OneTimeRead.read, hwrong] at h
          obtain rfl := Option.some.inj h
          refine ⟨⟨hsome hfind, ⟨c, hfind, ?_⟩, ?_⟩, ?_⟩
          · simp [OneTimeSecret.Matches, hverify]
          · rintro k ⟨⟩
          · rintro k ⟨⟩
        · rw [OneTimeRead.read, hright] at h
          obtain rfl := Option.some.inj h
          refine ⟨⟨hsome hfind, ⟨c, hfind, hverify, hattempts⟩, ?_⟩, ?_⟩
          · rintro k ⟨⟩
            simp [StoredSecret.IsFor, hfind, hcuser, hchannel, hverify]
          · rintro k ⟨⟩
            simp [StoredSecret.Used, hfind, hopen]
    | _ => cases h

theorem SameSecrets.isSome_tokens (h : SameSecrets s s') (id : Id) :
    (s'.verificationTokens.find? id).isSome = (s.verificationTokens.find? id).isSome := by
  have hmap := congrArg Option.isSome (h.tokens id)
  rwa [Option.isSome_map, Option.isSome_map] at hmap

/-- Another request's commit takes nothing from a request in flight. -/
theorem InFlight.of_settled {d' : OneTimeRead} (hd : InFlight rt secret s d)
    (hd' : InFlight rt secret s d') (h : SecretSettled d s s') : InFlight rt secret s' d' := by
  have hchallenge : ∀ id, (s.challenges.find? id).isSome → (s'.challenges.find? id).isSome := by
    intro id hsome
    obtain ⟨c, hc⟩ := Option.isSome_iff_exists.mp hsome
    obtain ⟨c', hc', _⟩ := h.challenges id c hc
    exact Option.isSome_iff_exists.mpr ⟨c', hc'⟩
  obtain ⟨hlive, hchecked, hisFor⟩ := hd'
  refine ⟨?_, ?_, fun k hk => (h.same.isFor k).mpr (hisFor k hk)⟩
  · -- What the read refers to is still there.
    cases d' with
    | verifyEmail now tokenId userId =>
      exact ⟨h.same.users userId ▸ hlive.1, h.same.isSome_tokens tokenId ▸ hlive.2⟩
    | resetPassword now tokenId userId passwordHash =>
      exact ⟨h.same.users userId ▸ hlive.1, h.same.isSome_tokens tokenId ▸ hlive.2⟩
    | backupCode now id =>
      have hmap := congrArg Option.isSome (h.same.backupCodes id)
      rw [Option.isSome_map, Option.isSome_map] at hmap
      show (s'.backupCodes.find? id).isSome = true
      rw [hmap]
      exact hlive
    | challenge now check =>
      cases check with
      | absent => exact trivial
      | spent id => exact hchallenge id hlive
      | wrong id => exact hchallenge id hlive
      | right id => exact hchallenge id hlive
  · cases d' with
    | challenge now check =>
      cases check with
      | absent => exact trivial
      | spent id =>
        obtain ⟨c, hc, hattempts⟩ := hchecked
        obtain ⟨c', hc', _, hle, _⟩ := h.challenges id c hc
        exact ⟨c', hc', le_trans hattempts hle⟩
      | wrong id =>
        obtain ⟨c, hc, hnot⟩ := hchecked
        obtain ⟨c', hc', hhash, _⟩ := h.challenges id c hc
        exact ⟨c', hc', hhash ▸ hnot⟩
      | right id =>
        obtain ⟨c, hc, hmatch, hattempts⟩ := hchecked
        obtain ⟨c', hc', hhash, _, hwrong | heq⟩ := h.challenges id c hc
        · -- the code that is right for the challenge is not wrong for it
          obtain ⟨now', rfl⟩ := hwrong
          obtain ⟨c₁, hc₁, hnot⟩ := hd.checked
          rw [hc] at hc₁
          obtain rfl := Option.some.inj hc₁
          exact absurd hmatch hnot
        · exact ⟨c', hc', hhash ▸ hmatch, heq ▸ hattempts⟩
    | _ => exact trivial

/-- A commit that marks the row another request will use is made for that row. -/
theorem InFlight.secret_of_marks {d' : OneTimeRead} (hd : InFlight rt secret s d)
    (hd' : InFlight rt secret s d') {k : StoredSecret} (hk : k ∈ d'.secret) (hmarks : k ∈ d.marks) :
    k ∈ d.secret := by
  cases d with
  | challenge now check =>
    cases check with
    | spent id =>
      obtain rfl : k = .challenge id := (Option.some.inj hmarks).symm
      cases d' with
      | challenge now' check' =>
        cases check' with
        | right id' =>
          obtain rfl : id' = id := StoredSecret.challenge.inj (Option.some.inj hk)
          obtain ⟨c, hc, hattempts⟩ := hd.checked
          obtain ⟨c', hc', _, hlt⟩ := hd'.checked
          rw [hc] at hc'
          obtain rfl := Option.some.inj hc'
          exact absurd hlt (Nat.not_lt_of_le hattempts)
        | _ => cases hk
      | _ => cases hk
    | _ => exact hmarks
  | _ => exact hmarks

end Settle

section Run

variable {rt : Runtime} {secret : OneTimeSecret}

/-- What a commit comes to. -/
theorem commit_spec (rt : Runtime) (secret : OneTimeSecret) {st : OneTimeState}
    {d : OneTimeRead} (request : OneTimeRequest)
    (h : d.Live st.store) :
    ∃ s', (oneTimeRequests rt secret).commit request d st =
      ⟨s', d.secret.toList ++ st.accepted⟩ ∧ SecretSettled d st.store s' := by
  obtain ⟨s', hsettle, hsettled⟩ := OneTimeRead.settle_spec h
  refine ⟨s', ?_, hsettled⟩
  rw [oneTimeRequests]
  dsimp only
  rw [hsettle]
  cases d.secret with
  | none => rfl
  | some k => rfl

/-- The requests that present a secret, as users of one-time secrets. -/
def oneTime (rt : Runtime) (secret : OneTimeSecret) :
    (oneTimeRequests rt secret).OneTime StoredSecret where
  secret := OneTimeRead.secret
  Used st k := k.Used st.store
  accepted := OneTimeState.accepted
  I st := TokensOwned st.store
  K st _ d := InFlight rt secret st.store d
  read st request d hI hread := OneTimeRead.read_spec hI hread
  commit st request d hI hK := by
    obtain ⟨s', hcommit, hsettled⟩ := commit_spec rt secret request hK.live
    rw [hcommit]
    exact hsettled.same.tokensOwned hI
  keep st request d request' d' hK hK' := by
    obtain ⟨s', hcommit, hsettled⟩ := commit_spec rt secret request hK.live
    rw [hcommit]
    exact hK.of_settled hK' hsettled
  accept st request d hK := by
    obtain ⟨s', hcommit, _⟩ := commit_spec rt secret request hK.live
    rw [hcommit]
  use st request d k hK hk := by
    obtain ⟨s', hcommit, hsettled⟩ := commit_spec rt secret request hK.live
    rw [hcommit]
    refine (hsettled.used k).mpr (.inr ?_)
    cases d with
    | challenge now check =>
      cases check with
      | right id => exact hk
      | _ => cases hk
    | _ => exact hk
  used_mono st request d k hK hused := by
    obtain ⟨s', hcommit, hsettled⟩ := commit_spec rt secret request hK.live
    rw [hcommit]
    exact (hsettled.used k).mpr (.inl hused)
  used_of_commit st request d request' d' k hK hK' hk hused := by
    obtain ⟨s', hcommit, hsettled⟩ := commit_spec rt secret request hK.live
    rw [hcommit] at hused
    exact ((hsettled.used k).mp hused).imp_right (hK.secret_of_marks hK' hk)

variable (rt secret) in
/-- Every acceptance is for a row that the secret was for from the start. -/
theorem isFor_of_accepted {s : AuthStore} (hs : TokensOwned s)
    (events : List (ReadCommit.Event OneTimeRequest)) :
    ∀ k ∈ ((oneTimeRequests rt secret).execAll events ⟨⟨s, []⟩, []⟩).state.accepted,
      k.IsFor rt s secret := by
  have hrun := ReadCommit.interleaved_execAll (S := oneTimeRequests rt secret)
    (c := ⟨⟨s, []⟩, []⟩) (ReadCommit.allMeet_of_forall (fun _ _ _ => trivial) events :
      ReadCommit.AllMeet _ (fun _ _ _ => True) events _)
  refine (hrun.invariant (I := fun st => TokensOwned st.store ∧
    (∀ k : StoredSecret, k.IsFor rt st.store secret ↔ k.IsFor rt s secret) ∧
    ∀ k ∈ st.accepted, k.IsFor rt s secret)
    (K := fun st _ d => InFlight rt secret st.store d) ?_ ?_ ?_ ?_ ?_).1.2.2
  · exact ⟨hs, fun k => Iff.rfl, fun k hk => absurd hk List.not_mem_nil⟩
  · exact fun x hx => absurd hx List.not_mem_nil
  · exact fun st request d hI hread => (OneTimeRead.read_spec hI.1 hread).1
  · intro st request d ⟨howned, hsame, hall⟩ hK _
    obtain ⟨s', hcommit, hsettled⟩ := commit_spec rt secret request hK.live
    rw [hcommit]
    refine ⟨hsettled.same.tokensOwned howned, fun k => (hsettled.same.isFor k).trans (hsame k),
      fun k hk => ?_⟩
    rcases List.mem_append.mp hk with hk | hk
    · exact (hsame k).mp (hK.isFor k (Option.mem_toList.mp hk))
    · exact hall k hk
  · exact fun st request d request' d' _ hK _ hK' => (oneTime rt secret).keep _ _ _ request' _ hK hK'

end Run

/-- Requests present one secret, in any order of reads and commits. No stored token or code is
accepted twice exactly if every commit finds the row that it is made for unused; and when the
secret is for one row only, no more than one request is accepted exactly then. -/
theorem accepted_once_iff {rt : Runtime} {secret : OneTimeSecret} {s : AuthStore}
    (hs : TokensOwned s) (events : List (ReadCommit.Event OneTimeRequest)) :
    (((oneTimeRequests rt secret).execAll events ⟨⟨s, []⟩, []⟩).state.accepted.Nodup ↔
      (oneTimeRequests rt secret).AllMeet StillUnused events ⟨⟨s, []⟩, []⟩) ∧
    ((∀ k k' : StoredSecret, k.IsFor rt s secret → k'.IsFor rt s secret → k = k') →
      (((oneTimeRequests rt secret).execAll events ⟨⟨s, []⟩, []⟩).state.accepted.length ≤ 1 ↔
        (oneTimeRequests rt secret).AllMeet StillUnused events ⟨⟨s, []⟩, []⟩)) := by
  have hstart : (oneTime rt secret).Inv ⟨⟨s, []⟩, []⟩ :=
    ⟨hs, fun k hk => absurd hk List.not_mem_nil, fun x hx => absurd hx List.not_mem_nil,
      fun x hx => absurd hx List.not_mem_nil⟩
  have hnodup := hstart.nodup_accepted_iff events List.nodup_nil
  refine ⟨hnodup, fun hone => Iff.trans ⟨fun hle => ?_, fun hnd => ?_⟩ hnodup⟩
  · exact List.nodup_iff_count_le_one.mpr fun k => le_trans List.count_le_length hle
  · have hall := isFor_of_accepted rt secret hs events
    have hsub : ∀ l : List StoredSecret, (∀ k ∈ l, k.IsFor rt s secret) → l.Nodup →
        l.length ≤ 1 := by
      intro l hl hl'
      match l, hl, hl' with
      | [], _, _ => exact Nat.zero_le 1
      | [_], _, _ => exact le_refl 1
      | k :: k' :: rest, hl, hl' =>
        have heq := hone k k' (hl k (by simp)) (hl k' (by simp))
        simp [heq] at hl'
    exact hsub _ hall hnd

/-- A token of either type, a backup code and a mailed code of one user. -/
def storedSecrets : AuthStore :=
  { AuthStore.withUser secured with
    backupCodes := Serial.empty.create ⟨0, "backup", false, none⟩
    challenges := Serial.empty.create ⟨0, .email, "123456", 10, 0, false, none, 0⟩
    verificationTokens :=
      (Serial.empty.create ⟨0, "verify", .emailVerification, 10, false, none⟩).create
        ⟨0, "reset", .passwordReset, 10, false, none⟩ }

/-- Two requests read before either commits. -/
def twice (request : OneTimeRequest) : List (ReadCommit.Event OneTimeRequest) :=
  [.read request, .read request, .commit 0, .commit 0]

theorem tokensOwned_storedSecrets : TokensOwned storedSecrets := by
  intro id record hrecord
  have hmem := Table.mem_rows_of_find? hrecord
  have hrows : storedSecrets.verificationTokens.rows =
      [(0, ⟨0, "verify", .emailVerification, 10, false, none⟩),
        (1, ⟨0, "reset", .passwordReset, 10, false, none⟩)] := rfl
  rw [hrows] at hmem
  simp only [List.mem_cons, List.not_mem_nil, or_false, Prod.mk.injEq] at hmem
  obtain ⟨_, rfl⟩ | ⟨_, rfl⟩ := hmem <;> rfl

theorem accepted_once_iff_twice :
    (((oneTimeRequests .plain (.token "verify")).execAll (twice (.verifyEmail 0))
        ⟨⟨storedSecrets, []⟩, []⟩).state.accepted.Nodup ↔
      (oneTimeRequests .plain (.token "verify")).AllMeet StillUnused (twice (.verifyEmail 0))
        ⟨⟨storedSecrets, []⟩, []⟩) ∧
    ((∀ k k' : StoredSecret, k.IsFor .plain storedSecrets (.token "verify") →
        k'.IsFor .plain storedSecrets (.token "verify") → k = k') →
      (((oneTimeRequests .plain (.token "verify")).execAll (twice (.verifyEmail 0))
          ⟨⟨storedSecrets, []⟩, []⟩).state.accepted.length ≤ 1 ↔
        (oneTimeRequests .plain (.token "verify")).AllMeet StillUnused (twice (.verifyEmail 0))
          ⟨⟨storedSecrets, []⟩, []⟩)) :=
  accepted_once_iff tokensOwned_storedSecrets (twice (.verifyEmail 0))

/-- Each kind of secret is accepted twice when two requests read it before either commits. -/
theorem accepted_twice :
    ((oneTimeRequests .plain (.token "verify")).execAll (twice (.verifyEmail 0))
      ⟨⟨storedSecrets, []⟩, []⟩).state.accepted = [.token 0, .token 0] ∧
    ((oneTimeRequests .plain (.token "reset")).execAll (twice (.resetPassword 0 "new" 0))
      ⟨⟨storedSecrets, []⟩, []⟩).state.accepted = [.token 1, .token 1] ∧
    ((oneTimeRequests .plain (.backupCode 0 "backup")).execAll (twice (.verifyBackupCode 0))
      ⟨⟨storedSecrets, []⟩, []⟩).state.accepted = [.backupCode 0, .backupCode 0] ∧
    ((oneTimeRequests .plain (.emailCode 0 "123456")).execAll (twice (.verifyEmailCode 0))
      ⟨⟨storedSecrets, []⟩, []⟩).state.accepted = [.challenge 0, .challenge 0] := by
  refine ⟨?_, ?_, ?_, ?_⟩ <;> decide +kernel

end Invetrixa
