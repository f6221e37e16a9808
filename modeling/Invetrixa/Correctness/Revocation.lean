import Invetrixa.Auth.Tokens

/-!
# The sessions a reset ends

Logins and one password reset, each a step after another. A login checks its password, opens a
session, and registers it in the index of the user; the reset writes the new password, reads the
index, and deletes what it has read there. No session remembers which password it was opened with,
and none is compared with the version of the user, so a session that comes into the index after
the reset has read it stays.

## Main results

- `reset_ends_sessions_iff` — no session of the old password is accepted in the end exactly if
  whatever is registered after the reset has read the index is later ended by its own client
- `registered_after_reset` — a login that is checked before the reset and registered after it
-/

namespace Invetrixa

open Rowstore Requests

/-- What a reset has read of its token, and the hash of the new password. -/
structure PasswordReset where
  now : ℕ
  tokenId : Id
  userId : Id
  passwordHash : String

/-- How far the reset has come, with the sessions it has read from the index. -/
inductive ResetPhase
  | waiting
  | refused
  | committed
  | indexRead (targets : List Id)
  | deleted (targets : List Id)
  | finished (targets : List Id)
  deriving DecidableEq

/-- A login whose password was right. -/
structure CheckedLogin where
  http : HttpRequest
  user : SessionStateSnapshot
  /-- the password was the one before the reset -/
  old : Bool

structure RevocationState where
  store : AuthStore
  /-- logins that have no session yet -/
  checked : List CheckedLogin
  /-- sessions that are not in the index yet, each with its user -/
  unregistered : List (Id × Id)
  phase : ResetPhase
  /-- the sessions that were authenticated with the old password -/
  old : List Id

/-- A step of a login, or the next step of the reset. -/
inductive RevocationStep
  | check (http : HttpRequest) (email password : String)
  | create (i : ℕ)
  | register (i : ℕ)
  | reset

/-- The sessions that the reset has read from the index. -/
def ResetPhase.targets : ResetPhase → Option (List Id)
  | .waiting | .refused | .committed => none
  | .indexRead targets | .deleted targets | .finished targets => some targets

namespace PasswordReset

/-- `resetPassword` after its read: the transaction, then `revokeAllSessions`. -/
def advance (reset : PasswordReset) (st : RevocationState) : RevocationState :=
  match st.phase with
  | .waiting =>
    match AuthService.commitResetPassword reset.now reset.tokenId reset.userId
        reset.passwordHash st.store with
    | (.error _, store) => { st with store, phase := .refused }
    | (.ok _, store) => { st with store, phase := .committed }
  | .committed =>
    { st with phase :=
        .indexRead (AuthService.revoked none (AuthService.sessionIds reset.userId st.store)) }
  | .indexRead targets =>
    { st with store := AuthService.deleteSessions targets st.store, phase := .deleted targets }
  | .deleted targets =>
    { st with
      store := AuthService.cleanupSessions reset.userId targets st.store
      phase := .finished targets }
  | .refused | .finished _ => st

end PasswordReset

namespace RevocationStep

def run (rt : Runtime) (reset : PasswordReset) : RevocationStep → RevocationState → RevocationState
  | .check http email password, st =>
    match AuthService.validateUser rt http email password st.store with
    | (.error _, store) => { st with store }
    | (.ok user, store) =>
      { st with
        store
        checked := st.checked ++ [⟨http, user, user.id = reset.userId ∧ st.phase = .waiting⟩] }
  | .create i, st =>
    match st.checked[i]? with
    | none => st
    | some login =>
      { st with
        store := (AuthController.logIn login.http login.user st.store).2
        checked := st.checked.eraseIdx i
        unregistered := st.unregistered ++ [(login.user.id, st.store.sessions.next)]
        old := if login.old then st.old ++ [st.store.sessions.next] else st.old }
  | .register i, st =>
    match st.unregistered[i]? with
    | none => st
    | some (userId, sessionId) =>
      { st with
        store := AuthService.registerSessionInCache userId sessionId st.store
        unregistered := st.unregistered.eraseIdx i }
  | .reset, st => reset.advance st

def runAll (rt : Runtime) (reset : PasswordReset) (steps : List RevocationStep)
    (st : RevocationState) : RevocationState :=
  steps.foldl (fun st e => e.run rt reset st) st

/-- A session of the old password comes into the index after the reset has read it. -/
def RegistersLate (st : RevocationState) (e : RevocationStep) (sessionId : Id) : Prop :=
  match e with
  | .register i =>
    (st.unregistered[i]?).map Prod.snd = some sessionId ∧ sessionId ∈ st.old ∧
      (st.store.sessions.find? sessionId).isSome ∧ st.phase.targets.isSome
  | _ => False

/-- The client of a session logs in anew. -/
def Replaces (st : RevocationState) (e : RevocationStep) (sessionId : Id) : Prop :=
  match e with
  | .create i => (st.checked[i]?).bind (fun login => login.http.sessionID) = some sessionId
  | _ => False

end RevocationStep

/-- The logins and the reset are done. -/
def RevocationState.Finished (st : RevocationState) : Prop :=
  st.checked = [] ∧ st.unregistered = [] ∧ ∃ targets, st.phase = .finished targets

/-- A request with the session has a user. -/
def RevocationState.Accepts (st : RevocationState) (sessionId : Id) : Prop :=
  ((st.store.sessions.find? sessionId).bind fun snapshot =>
    AuthService.deserializeUser snapshot st.store).isSome

/-- The state before the reset and the logins that come with it. -/
def beforeReset (userId : Id) (s : AuthStore) : RevocationState where
  store := s
  checked := []
  unregistered := []
  phase := .waiting
  old := (s.sessions.rows.filter fun r => r.2.id = userId).map Prod.fst

/-- The logins of a user so far have registered their sessions. -/
structure Indexed (userId : Id) (s : AuthStore) : Prop where
  sessions : ∀ sid snapshot, s.sessions.find? sid = some snapshot → snapshot.id = userId →
    (userId, sid) ∈ s.sessionIndex
  issued : ∀ r ∈ s.sessionIndex, r.2 < s.sessions.next

/-- The rest of a login that a session is not concerned with: what it has written of the user and of
the device. -/
structure KeepsSessions (s s' : AuthStore) : Prop where
  sessions : s'.sessions = s.sessions
  sessionIndex : s'.sessionIndex = s.sessionIndex
  users : ∀ id, (s.users.find? id).isSome → (s'.users.find? id).isSome

/-- The sessions that are deleted. -/
def ResetPhase.gone : ResetPhase → List Id
  | .deleted targets | .finished targets => targets
  | _ => []

def ResetPhase.hasCommitted (phase : ResetPhase) : Prop := phase ≠ .waiting ∧ phase ≠ .refused

/-- What every step keeps: a session is at first not in the index, and one of the old password is
in it or not yet, until the reset reads the index. -/
structure RevocationInv (userId : Id) (st : RevocationState) : Prop where
  indexed_lt : ∀ r ∈ st.store.sessionIndex, r.2 < st.store.sessions.next
  unregistered_lt : ∀ x ∈ st.unregistered, x.2 < st.store.sessions.next
  targets_lt : ∀ targets ∈ st.phase.targets, ∀ sid ∈ targets, sid < st.store.sessions.next
  old_lt : ∀ sid ∈ st.old, sid < st.store.sessions.next
  nodup : (st.unregistered.map Prod.snd).Nodup
  notIndexed : ∀ x ∈ st.unregistered, ∀ r ∈ st.store.sessionIndex, r.2 ≠ x.2
  notTargeted : ∀ x ∈ st.unregistered, ∀ targets ∈ st.phase.targets, x.2 ∉ targets
  old_user : ∀ sid ∈ st.old, ∀ snapshot ∈ st.store.sessions.find? sid, snapshot.id = userId
  old_unregistered : ∀ x ∈ st.unregistered, x.2 ∈ st.old → x.1 = userId
  old_checked : ∀ login ∈ st.checked, login.old = true → login.user.id = userId
  known : st.phase.targets = none → ∀ sid ∈ st.old, (st.store.sessions.find? sid).isSome →
    (userId, sid) ∈ st.store.sessionIndex ∨ sid ∈ st.unregistered.map Prod.snd
  gone : ∀ sid ∈ st.phase.gone, st.store.sessions.find? sid = none
  user : st.phase.hasCommitted → (st.store.users.find? userId).isSome

/-- A session of the old password that the reset has missed. -/
structure Stray (st : RevocationState) (sid : Id) : Prop where
  old : sid ∈ st.old
  stored : (st.store.sessions.find? sid).isSome
  registered : sid ∉ st.unregistered.map Prod.snd
  missed : ∃ targets ∈ st.phase.targets, sid ∉ targets

theorem ResetPhase.mem_targets_of_gone {phase : ResetPhase} {sid : Id} (h : sid ∈ phase.gone) :
    ∃ targets ∈ phase.targets, sid ∈ targets := by
  cases phase with
  | deleted targets => exact ⟨targets, rfl, h⟩
  | finished targets => exact ⟨targets, rfl, h⟩
  | _ => cases h

section Steps

variable {rt : Runtime} {reset : PasswordReset} {userId : Id} {st : RevocationState}
  {s s' : AuthStore}

theorem KeepsSessions.refl (s : AuthStore) : KeepsSessions s s := ⟨rfl, rfl, fun _ h => h⟩

theorem KeepsSessions.modifyUser (h : KeepsSessions s s') (id : Id) (f : User → User) :
    KeepsSessions s (s'.modifyUser id f) := by
  refine ⟨h.sessions, h.sessionIndex, fun k hk => ?_⟩
  rw [AuthStore.users_modifyUser, Serial.isSome_find?_modify]
  exact h.users k hk

theorem keepsSessions_update (s : AuthStore) (id : Id) (f : User → User) :
    Handler.Ensures (KeepsSessions s) (UsersService.update id f) (fun _ => KeepsSessions s)
      (KeepsSessions s) :=
  UsersService.update_ensures (fun _ _ hs _ => hs.modifyUser id f) fun _ hs _ => hs

/-- A password is checked. -/
theorem keepsSessions_validateUser (rt : Runtime) (http : HttpRequest) (email password : String)
    (s : AuthStore) :
    KeepsSessions s (AuthService.validateUser rt http email password s).2 := by
  have hensures : Handler.Ensures (KeepsSessions s)
      (AuthService.validateUser rt http email password) (fun _ => KeepsSessions s)
      (KeepsSessions s) := by
    refine Handler.Ensures.bind (Q := fun _ => KeepsSessions s) ?_ fun user => ?_
    · exact Handler.Ensures.read (fun _ _ hs _ => hs) fun _ _ hs _ => hs
    split
    · refine Handler.Ensures.bind (keepsSessions_update s _ _) fun _ => ?_
      rw [AuthService.loginSession]
      dsimp only
      split
      · refine Handler.Ensures.bind (Q := fun _ => KeepsSessions s) ?_
          fun _ => Handler.Ensures.pure _ fun _ hs => hs
        refine Handler.Ensures.atomically (fun t _ t' ht h => ?_) fun _ _ ht _ => ht
        split at h
        · cases h
        · obtain ⟨_, rfl⟩ := Prod.mk.inj (Except.ok.inj h)
          exact ⟨ht.sessions, ht.sessionIndex, ht.users⟩
      · exact Handler.Ensures.pure _ fun _ hs => hs
    · refine Handler.Ensures.bind (Q := fun _ => KeepsSessions s) ?_
        fun _ => Handler.Ensures.refuse _ fun _ hs => hs
      exact (keepsSessions_update s _ _).bind fun _ => Handler.Ensures.pure _ fun _ hs => hs
  exact hensures.snd (KeepsSessions.refl s)

theorem RevocationInv.congr_store (h : RevocationInv userId st)
    (hstore : KeepsSessions st.store s') : RevocationInv userId { st with store := s' } := by
  obtain ⟨hsessions, hindex, husers⟩ := hstore
  constructor
  · rw [hsessions, hindex]
    exact h.indexed_lt
  · rw [hsessions]
    exact h.unregistered_lt
  · rw [hsessions]
    exact h.targets_lt
  · rw [hsessions]
    exact h.old_lt
  · exact h.nodup
  · rw [hindex]
    exact h.notIndexed
  · exact h.notTargeted
  · rw [hsessions]
    exact h.old_user
  · exact h.old_unregistered
  · exact h.old_checked
  · rw [hsessions, hindex]
    exact h.known
  · rw [hsessions]
    exact h.gone
  · exact fun hcommitted => husers userId (h.user hcommitted)

/-- A checked login. -/
theorem RevocationInv.check (h : RevocationInv userId st) {login : CheckedLogin}
    (hlogin : login.old = true → login.user.id = userId) :
    RevocationInv userId { st with checked := st.checked ++ [login] } := by
  refine { h with old_checked := fun login' hmem => ?_ }
  rcases List.mem_append.mp hmem with hmem | hmem
  · exact h.old_checked login' hmem
  · obtain rfl := List.mem_singleton.mp hmem
    exact hlogin

theorem find?_logIn_cases {http : HttpRequest} {user snapshot : SessionStateSnapshot} {sid : Id}
    (h : (AuthController.logIn http user s).2.sessions.find? sid = some snapshot) :
    (s.sessions.find? sid = some snapshot ∧ http.sessionID ≠ some sid) ∨
      sid = s.sessions.next ∧ snapshot = user := by
  rcases Serial.find?_create_cases h with hold | hnew
  · obtain ⟨hold, hnot⟩ := Table.find?_of_find?_deleteWhere hold
    exact .inl ⟨hold, of_decide_eq_false hnot⟩
  · exact .inr hnew

/-- A session that the request does not replace stays. -/
theorem find?_logIn_of_some {http : HttpRequest} {user snapshot : SessionStateSnapshot} {sid : Id}
    (h : s.sessions.find? sid = some snapshot) (hnot : http.sessionID ≠ some sid) :
    (AuthController.logIn http user s).2.sessions.find? sid = some snapshot :=
  Serial.find?_create_of_some (Table.find?_deleteWhere_of_some h (decide_eq_false hnot)) user

/-- The sessions of the old password, with the new one if it is one of them. -/
theorem mem_withSession {old : Bool} {sids : List Id} {sid new : Id}
    (h : sid ∈ if old then sids ++ [new] else sids) : sid ∈ sids ∨ sid = new ∧ old = true := by
  split at h
  · next hold =>
    rcases List.mem_append.mp h with h | h
    · exact .inl h
    · exact .inr ⟨List.mem_singleton.mp h, hold⟩
  · exact .inl h

/-- A new session, which is not in the index yet. -/
theorem RevocationInv.create (h : RevocationInv userId st) {login : CheckedLogin} {i : ℕ}
    (hlogin : st.checked[i]? = some login) :
    RevocationInv userId { st with
      store := (AuthController.logIn login.http login.user st.store).2
      checked := st.checked.eraseIdx i
      unregistered := st.unregistered ++ [(login.user.id, st.store.sessions.next)]
      old := if login.old then st.old ++ [st.store.sessions.next] else st.old } := by
  have hchecked := h.old_checked login (List.mem_of_getElem? hlogin)
  have hunregistered : ∀ {P : Id × Id → Prop}, (∀ x ∈ st.unregistered, P x) →
      P (login.user.id, st.store.sessions.next) →
      ∀ x ∈ st.unregistered ++ [(login.user.id, st.store.sessions.next)], P x := by
    intro P hold hnew x hx
    rcases List.mem_append.mp hx with hx | hx
    · exact hold x hx
    · exact List.mem_singleton.mp hx ▸ hnew
  constructor
  · exact fun r hr => Nat.lt_succ_of_lt (h.indexed_lt r hr)
  · exact hunregistered (fun x hx => Nat.lt_succ_of_lt (h.unregistered_lt x hx))
      (Nat.lt_succ_self _)
  · exact fun targets htargets sid hsid => Nat.lt_succ_of_lt (h.targets_lt targets htargets sid hsid)
  · intro sid hsid
    rcases mem_withSession hsid with hsid | ⟨rfl, _⟩
    · exact Nat.lt_succ_of_lt (h.old_lt sid hsid)
    · exact Nat.lt_succ_self _
  · rw [List.map_append, List.map_singleton, List.nodup_append]
    refine ⟨h.nodup, List.nodup_singleton _, fun sid hsid sid' hsid' => ?_⟩
    obtain ⟨x, hx, rfl⟩ := List.mem_map.mp hsid
    rw [List.mem_singleton.mp hsid']
    exact (h.unregistered_lt x hx).ne
  · exact hunregistered h.notIndexed fun r hr => (h.indexed_lt r hr).ne
  · exact hunregistered h.notTargeted fun targets htargets hmem =>
      lt_irrefl _ (h.targets_lt targets htargets _ hmem)
  · intro sid hsid snapshot hsnapshot
    -- The session was there before, or is the new one, whose user has just signed in.
    rcases find?_logIn_cases hsnapshot with ⟨hfind, _⟩ | ⟨rfl, rfl⟩
    · rcases mem_withSession hsid with hold | ⟨rfl, _⟩
      · exact h.old_user sid hold snapshot hfind
      · rw [Serial.find?_next] at hfind
        cases hfind
    · rcases mem_withSession hsid with hold | ⟨_, hold⟩
      · exact absurd (h.old_lt _ hold) (lt_irrefl _)
      · exact hchecked hold
  · refine hunregistered (fun x hx hold => ?_) fun hold => ?_
    · rcases mem_withSession hold with hold | ⟨heq, _⟩
      · exact h.old_unregistered x hx hold
      · exact absurd heq (h.unregistered_lt x hx).ne
    · rcases mem_withSession hold with hold | ⟨_, hold⟩
      · exact absurd (h.old_lt _ hold) (lt_irrefl _)
      · exact hchecked hold
  · exact fun login' hmem => h.old_checked login' (List.mem_of_mem_eraseIdx hmem)
  · intro htargets sid hsid hstored
    rw [List.map_append, List.mem_append]
    obtain ⟨snapshot, hsnapshot⟩ := Option.isSome_iff_exists.mp hstored
    rcases find?_logIn_cases hsnapshot with ⟨hfind, _⟩ | ⟨rfl, _⟩
    · rcases mem_withSession hsid with hold | ⟨rfl, _⟩
      · rcases h.known htargets sid hold (Option.isSome_of_eq_some hfind) with hindexed | hlater
        · exact .inl hindexed
        · exact .inr (.inl hlater)
      · exact .inr (.inr (List.mem_singleton.mpr rfl))
    · exact .inr (.inr (List.mem_singleton.mpr rfl))
  · intro sid hsid
    rw [Option.eq_none_iff_forall_ne_some]
    intro snapshot hsnapshot
    rcases find?_logIn_cases hsnapshot with ⟨hfind, _⟩ | ⟨rfl, _⟩
    · rw [h.gone sid hsid] at hfind
      cases hfind
    · obtain ⟨targets, htargets, hmem⟩ := ResetPhase.mem_targets_of_gone hsid
      exact lt_irrefl _ (h.targets_lt targets htargets _ hmem)
  · exact h.user

theorem registerSessionInCache_eq {uid sid : Id} (h : (uid, sid) ∉ s.sessionIndex) :
    AuthService.registerSessionInCache uid sid s =
      { s with sessionIndex := s.sessionIndex ++ [(uid, sid)] } := if_neg h

theorem ne_of_mem_eraseIdx {l : List (Id × Id)} (hnodup : (l.map Prod.snd).Nodup) {i : ℕ}
    {x y : Id × Id} (hx : l[i]? = some x) (hy : y ∈ l.eraseIdx i) : y.2 ≠ x.2 := by
  obtain ⟨j, hne, hj⟩ := List.mem_eraseIdx_iff_getElem?.mp hy
  intro heq
  have hi : i < (l.map Prod.snd).length := by
    rw [List.length_map]
    exact (List.getElem?_eq_some_iff.mp hx).1
  refine hne ((List.getElem?_inj hi hnodup).mp ?_).symm
  rw [List.getElem?_map, List.getElem?_map, hx, hj, Option.map_some, Option.map_some, heq]

theorem mem_eraseIdx_of_ne {l : List (Id × Id)} {i : ℕ} {x y : Id × Id} (hx : l[i]? = some x)
    (hy : y ∈ l) (hne : y ≠ x) : y ∈ l.eraseIdx i := by
  obtain ⟨j, hj⟩ := List.mem_iff_getElem?.mp hy
  refine List.mem_eraseIdx_iff_getElem?.mpr ⟨j, fun heq => hne ?_, hj⟩
  rw [heq, hx] at hj
  exact (Option.some.inj hj).symm

/-- A session joins the index. -/
theorem RevocationInv.register (h : RevocationInv userId st) {uid sid : Id} {i : ℕ}
    (hsession : st.unregistered[i]? = some (uid, sid)) :
    RevocationInv userId { st with
      store := AuthService.registerSessionInCache uid sid st.store
      unregistered := st.unregistered.eraseIdx i } := by
  have hmem := List.mem_of_getElem? hsession
  have herase : ∀ x ∈ st.unregistered.eraseIdx i, x ∈ st.unregistered := fun x hx =>
    List.mem_of_mem_eraseIdx hx
  have hother : ∀ x ∈ st.unregistered.eraseIdx i, x.2 ≠ sid :=
    fun x hx => ne_of_mem_eraseIdx h.nodup hsession hx
  rw [registerSessionInCache_eq fun hindexed => h.notIndexed _ hmem _ hindexed rfl]
  constructor
  · intro r hr
    rcases List.mem_append.mp hr with hr | hr
    · exact h.indexed_lt r hr
    · rw [List.mem_singleton.mp hr]
      exact h.unregistered_lt _ hmem
  · exact fun x hx => h.unregistered_lt x (herase x hx)
  · exact h.targets_lt
  · exact h.old_lt
  · exact h.nodup.sublist ((List.eraseIdx_sublist _ _).map _)
  · intro x hx r hr
    rcases List.mem_append.mp hr with hr | hr
    · exact h.notIndexed x (herase x hx) r hr
    · rw [List.mem_singleton.mp hr]
      exact (hother x hx).symm
  · exact fun x hx => h.notTargeted x (herase x hx)
  · exact h.old_user
  · exact fun x hx => h.old_unregistered x (herase x hx)
  · exact h.old_checked
  · intro htargets sid' hold hstored
    rcases h.known htargets sid' hold hstored with hindexed | hlater
    · exact .inl (List.mem_append_left _ hindexed)
    · by_cases hsid : sid' = sid
      · subst hsid
        obtain rfl := h.old_unregistered _ hmem hold
        exact .inl (List.mem_append_right _ (List.mem_singleton.mpr rfl))
      · refine .inr ?_
        obtain ⟨x, hx, rfl⟩ := List.mem_map.mp hlater
        exact List.mem_map_of_mem (mem_eraseIdx_of_ne hsession hx fun heq => hsid (by rw [heq]))
  · exact h.gone
  · exact h.user

/-- The transaction of the reset. -/
theorem commitResetPassword_cases (now tokenId : ℕ) (passwordHash : String) (s : AuthStore) :
    (∃ e, AuthService.commitResetPassword now tokenId userId passwordHash s = (.error e, s)) ∨
    ∃ s', AuthService.commitResetPassword now tokenId userId passwordHash s = (.ok ⟨⟩, s') ∧
      KeepsSessions s s' ∧ (s'.users.find? userId).isSome := by
  rw [AuthService.commitResetPassword, Handler.atomically]
  by_cases hmissing : (s.users.find? userId).isNone ∨ (s.verificationTokens.find? tokenId).isNone
  · refine .inl ⟨recordNotFound, transaction_of_error ?_⟩
    simp only [AuthService.useToken, if_pos hmissing, bind, Except.bind]
  · have huser : (s.users.find? userId).isSome := by
      rw [← Option.not_isNone, Bool.not_eq_true', ← Bool.not_eq_true]
      exact fun hnone => hmissing (.inl hnone)
    refine .inr ⟨_, transaction_of_ok (by
      simp only [AuthService.useToken, if_neg hmissing, bind, Except.bind]; rfl), ?_, ?_⟩
    · obtain ⟨hsessions, hindex, husers⟩ :=
        (KeepsSessions.refl s).modifyUser userId (AuthService.withPassword now passwordHash)
      exact ⟨hsessions, hindex, husers⟩
    · exact ((KeepsSessions.refl s).modifyUser userId
        (AuthService.withPassword now passwordHash)).users userId huser

/-- A step of the reset. -/
theorem RevocationInv.advance (h : RevocationInv reset.userId st) :
    RevocationInv reset.userId (reset.advance st) := by
  rw [PasswordReset.advance]
  split
  · next hphase =>
    have hnone : st.phase.targets = none := by rw [hphase]; rfl
    rcases commitResetPassword_cases reset.now reset.tokenId reset.passwordHash st.store with
      ⟨e, hrefused⟩ | ⟨store, hcommit, hkept, huser⟩
    · rw [hrefused]
      exact { h with
        targets_lt := nofun
        notTargeted := fun _ _ => nofun
        known := fun _ => h.known hnone
        gone := nofun
        user := fun hcommitted => absurd rfl hcommitted.2 }
    · rw [hcommit]
      have h' := h.congr_store hkept
      exact { h' with
        targets_lt := nofun
        notTargeted := fun _ _ => nofun
        known := fun _ => h'.known hnone
        gone := nofun
        user := fun _ => huser }
  · next hphase =>
    -- the index names only sessions that are registered
    have hindexed : ∀ sid ∈ AuthService.revoked none (AuthService.sessionIds reset.userId st.store),
        ∃ r ∈ st.store.sessionIndex, r.2 = sid := by
      intro sid hsid
      obtain ⟨r, hr, rfl⟩ := List.mem_map.mp (List.mem_filter.mp hsid).1
      exact ⟨r, (List.mem_filter.mp hr).1, rfl⟩
    refine { h with
      targets_lt := fun targets htargets sid hsid => ?_
      notTargeted := fun x hx targets htargets hsid => ?_
      known := nofun
      gone := nofun
      user := fun _ => h.user ?_ }
    · obtain rfl := Option.some.inj htargets
      obtain ⟨r, hr, rfl⟩ := hindexed sid hsid
      exact h.indexed_lt r hr
    · obtain rfl := Option.some.inj htargets
      obtain ⟨r, hr, heq⟩ := hindexed _ hsid
      exact h.notIndexed x hx r hr heq
    · rw [hphase]
      exact ⟨nofun, nofun⟩
  · next targets hphase =>
    have htargets : st.phase.targets = some targets := by rw [hphase]; rfl
    have hfind : ∀ sid snapshot, (AuthService.deleteSessions targets st.store).sessions.find? sid =
        some snapshot → st.store.sessions.find? sid = some snapshot ∧ sid ∉ targets := by
      intro sid snapshot hsnapshot
      obtain ⟨hold, hnot⟩ := Table.find?_of_find?_deleteWhere hsnapshot
      exact ⟨hold, of_decide_eq_false hnot⟩
    refine { h with
      targets_lt := fun targets' htargets' => h.targets_lt targets' (htargets.trans htargets')
      notTargeted := fun x hx targets' htargets' =>
        h.notTargeted x hx targets' (htargets.trans htargets')
      old_user := fun sid hold snapshot hsnapshot => ?_
      known := nofun
      gone := fun sid hsid => ?_
      user := fun _ => h.user ?_ }
    · exact h.old_user sid hold snapshot (hfind sid snapshot hsnapshot).1
    · rw [Option.eq_none_iff_forall_ne_some]
      exact fun snapshot hsnapshot => (hfind sid snapshot hsnapshot).2 hsid
    · rw [hphase]
      exact ⟨nofun, nofun⟩
  · next targets hphase =>
    have htargets : st.phase.targets = some targets := by rw [hphase]; rfl
    have hgone : st.phase.gone = targets := by rw [hphase]; rfl
    refine { h with
      indexed_lt := fun r hr => h.indexed_lt r (List.mem_filter.mp hr).1
      targets_lt := fun targets' htargets' => h.targets_lt targets' (htargets.trans htargets')
      notIndexed := fun x hx r hr => h.notIndexed x hx r (List.mem_filter.mp hr).1
      notTargeted := fun x hx targets' htargets' =>
        h.notTargeted x hx targets' (htargets.trans htargets')
      known := nofun
      gone := fun sid hsid => h.gone sid (hgone.symm ▸ hsid)
      user := fun _ => h.user ?_ }
    rw [hphase]
    exact ⟨nofun, nofun⟩
  · exact h
  · exact h

/-- Every step keeps the invariant. -/
theorem RevocationInv.run (h : RevocationInv reset.userId st) (e : RevocationStep) :
    RevocationInv reset.userId (e.run rt reset st) := by
  cases e with
  | check http email password =>
    have hkept := keepsSessions_validateUser rt http email password st.store
    simp only [RevocationStep.run]
    cases hvalidate : AuthService.validateUser rt http email password st.store with
    | mk result store =>
      rw [hvalidate] at hkept
      cases result with
      | error e => exact h.congr_store hkept
      | ok user =>
        exact (h.congr_store hkept).check fun hold => (of_decide_eq_true hold).1
  | create i =>
    simp only [RevocationStep.run]
    split
    · exact h
    · next login hlogin => exact h.create hlogin
  | register i =>
    simp only [RevocationStep.run]
    split
    · exact h
    · next uid sid hsession => exact h.register hsession
  | reset => exact h.advance

/-- What a step does not touch. -/
theorem stray_congr {st' : RevocationState} {sid : Id} (hold : st'.old = st.old)
    (hsessions : st'.store.sessions = st.store.sessions)
    (hunregistered : st'.unregistered = st.unregistered)
    (htargets : st'.phase.targets = st.phase.targets) : Stray st' sid ↔ Stray st sid := by
  constructor
  · rintro ⟨h₁, h₂, h₃, h₄⟩
    exact ⟨hold ▸ h₁, hsessions ▸ h₂, hunregistered ▸ h₃, htargets ▸ h₄⟩
  · rintro ⟨h₁, h₂, h₃, h₄⟩
    exact ⟨hold.symm ▸ h₁, hsessions.symm ▸ h₂, hunregistered.symm ▸ h₃, htargets.symm ▸ h₄⟩

/-- A new session is none that the reset has missed; a login that replaces a session ends it. -/
theorem stray_create_iff (h : RevocationInv userId st) {login : CheckedLogin} {i : ℕ} {sid : Id} :
    Stray { st with
        store := (AuthController.logIn login.http login.user st.store).2
        checked := st.checked.eraseIdx i
        unregistered := st.unregistered ++ [(login.user.id, st.store.sessions.next)]
        old := if login.old then st.old ++ [st.store.sessions.next] else st.old } sid ↔
      Stray st sid ∧ login.http.sessionID ≠ some sid := by
  constructor
  · rintro ⟨hold, hstored, hregistered, hmissed⟩
    rw [List.map_append, List.mem_append, not_or] at hregistered
    obtain ⟨snapshot, hsnapshot⟩ := Option.isSome_iff_exists.mp hstored
    rcases find?_logIn_cases hsnapshot with ⟨hfind, hnot⟩ | ⟨rfl, _⟩
    · rcases mem_withSession hold with hold | ⟨rfl, _⟩
      · exact ⟨⟨hold, Option.isSome_of_eq_some hfind, hregistered.1, hmissed⟩, hnot⟩
      · exact absurd (List.mem_singleton.mpr rfl) hregistered.2
    · exact absurd (List.mem_singleton.mpr rfl) hregistered.2
  · rintro ⟨⟨hold, hstored, hregistered, hmissed⟩, hnot⟩
    obtain ⟨snapshot, hsnapshot⟩ := Option.isSome_iff_exists.mp hstored
    refine ⟨?_, Option.isSome_of_eq_some (find?_logIn_of_some hsnapshot hnot), ?_, hmissed⟩
    · show sid ∈ if login.old then st.old ++ [st.store.sessions.next] else st.old
      split
      · exact List.mem_append_left _ hold
      · exact hold
    · rw [List.map_append, List.mem_append, not_or]
      exact ⟨hregistered, fun heq => (h.old_lt sid hold).ne (List.mem_singleton.mp heq)⟩

/-- A session that comes into the index is missed if the reset has read the index. -/
theorem stray_register_iff (h : RevocationInv userId st) {uid new sid : Id} {i : ℕ}
    (hsession : st.unregistered[i]? = some (uid, new)) :
    Stray { st with
        store := AuthService.registerSessionInCache uid new st.store
        unregistered := st.unregistered.eraseIdx i } sid ↔
      Stray st sid ∨ new = sid ∧ sid ∈ st.old ∧ (st.store.sessions.find? sid).isSome ∧
        st.phase.targets.isSome := by
  have hmem := List.mem_of_getElem? hsession
  rw [registerSessionInCache_eq fun hindexed => h.notIndexed _ hmem _ hindexed rfl]
  constructor
  · rintro ⟨hold, hstored, hregistered, targets, htargets, hmissed⟩
    by_cases hnew : new = sid
    · exact .inr ⟨hnew, hold, hstored, Option.isSome_of_eq_some htargets⟩
    · refine .inl ⟨hold, hstored, fun hlater => hregistered ?_, targets, htargets, hmissed⟩
      obtain ⟨x, hx, rfl⟩ := List.mem_map.mp hlater
      exact List.mem_map_of_mem (mem_eraseIdx_of_ne hsession hx fun heq => hnew (by rw [heq]))
  · rintro (⟨hold, hstored, hregistered, hmissed⟩ | ⟨rfl, hold, hstored, htargets⟩)
    · refine ⟨hold, hstored, fun hlater => hregistered ?_, hmissed⟩
      exact List.map_subset _ List.eraseIdx_subset hlater
    · obtain ⟨targets, htargets⟩ := Option.isSome_iff_exists.mp htargets
      refine ⟨hold, hstored, fun hlater => ?_, targets, htargets,
        h.notTargeted _ hmem targets htargets⟩
      obtain ⟨x, hx, heq⟩ := List.mem_map.mp hlater
      exact ne_of_mem_eraseIdx h.nodup hsession hx heq

theorem not_stray_of_targets {sid : Id} (h : st.phase.targets = none) : ¬Stray st sid := by
  rintro ⟨_, _, _, targets, htargets, _⟩
  rw [h] at htargets
  cases htargets

/-- The reset misses no session itself. -/
theorem stray_advance_iff (h : RevocationInv reset.userId st) {sid : Id} :
    Stray (reset.advance st) sid ↔ Stray st sid := by
  rw [PasswordReset.advance]
  split
  · next hphase =>
    have hbefore : ¬Stray st sid := not_stray_of_targets (by rw [hphase]; rfl)
    rcases commitResetPassword_cases reset.now reset.tokenId reset.passwordHash st.store with
      ⟨e, hrefused⟩ | ⟨store, hcommit, _, _⟩
    · rw [hrefused]
      exact iff_of_false (not_stray_of_targets rfl) hbefore
    · rw [hcommit]
      exact iff_of_false (not_stray_of_targets rfl) hbefore
  · next hphase =>
    have hnone : st.phase.targets = none := by rw [hphase]; rfl
    refine iff_of_false ?_ (not_stray_of_targets hnone)
    rintro ⟨hold, hstored, hregistered, targets, htargets, hmissed⟩
    obtain rfl := Option.some.inj htargets
    -- a session that is stored and registered is among those that are read
    rcases h.known hnone sid hold hstored with hindexed | hlater
    · refine hmissed (List.mem_filter.mpr ⟨List.mem_map.mpr ⟨_, List.mem_filter.mpr
        ⟨hindexed, decide_eq_true rfl⟩, rfl⟩, rfl⟩)
    · exact hregistered hlater
  · next targets hphase =>
    have htargets : st.phase.targets = some targets := by rw [hphase]; rfl
    constructor
    · rintro ⟨hold, hstored, hregistered, targets', htargets', hmissed⟩
      obtain ⟨snapshot, hsnapshot⟩ := Option.isSome_iff_exists.mp hstored
      exact ⟨hold, Option.isSome_of_eq_some (Table.find?_of_find?_deleteWhere hsnapshot).1,
        hregistered, targets', htargets.trans htargets', hmissed⟩
    · rintro ⟨hold, hstored, hregistered, targets', htargets', hmissed⟩
      obtain rfl := Option.some.inj (htargets.symm.trans htargets')
      obtain ⟨snapshot, hsnapshot⟩ := Option.isSome_iff_exists.mp hstored
      exact ⟨hold, Option.isSome_of_eq_some
        (Table.find?_deleteWhere_of_some hsnapshot (decide_eq_false hmissed)), hregistered,
        targets, rfl, hmissed⟩
  · next targets hphase =>
    refine stray_congr rfl rfl rfl ?_
    rw [hphase]
    rfl
  · exact Iff.rfl
  · exact Iff.rfl

/-- A session is missed from the step that registers it late to the one that replaces it. -/
theorem stray_run_iff (h : RevocationInv reset.userId st) (e : RevocationStep) (sid : Id) :
    Stray (e.run rt reset st) sid ↔
      Stray st sid ∧ ¬RevocationStep.Replaces st e sid ∨ RevocationStep.RegistersLate st e sid := by
  cases e with
  | check http email password =>
    have hkept := keepsSessions_validateUser rt http email password st.store
    simp only [RevocationStep.run, RevocationStep.Replaces, RevocationStep.RegistersLate,
      not_false_iff, and_true, or_false]
    cases hvalidate : AuthService.validateUser rt http email password st.store with
    | mk result store =>
      rw [hvalidate] at hkept
      cases result with
      | error e => exact stray_congr rfl hkept.sessions rfl rfl
      | ok user => exact stray_congr rfl hkept.sessions rfl rfl
  | create i =>
    simp only [RevocationStep.run, RevocationStep.Replaces, RevocationStep.RegistersLate, or_false]
    cases hlogin : st.checked[i]? with
    | none => simp
    | some login => exact stray_create_iff h
  | register i =>
    simp only [RevocationStep.run, RevocationStep.Replaces, RevocationStep.RegistersLate,
      not_false_iff, and_true]
    cases hsession : st.unregistered[i]? with
    | none => simp
    | some x =>
      rw [Option.map_some, Option.some.injEq]
      exact stray_register_iff h hsession
  | reset =>
    simp only [RevocationStep.run, RevocationStep.Replaces, RevocationStep.RegistersLate,
      not_false_iff, and_true, or_false]
    exact stray_advance_iff h

theorem RevocationInv.runAll (h : RevocationInv reset.userId st) (steps : List RevocationStep) :
    RevocationInv reset.userId (RevocationStep.runAll rt reset steps st) := by
  induction steps generalizing st with
  | nil => exact h
  | cons e rest ih => exact ih (h.run e)

end Steps

/-- The state before the reset. -/
theorem beforeReset_inv {userId : Id} {s : AuthStore} (h : Indexed userId s) :
    RevocationInv userId (beforeReset userId s) := by
  have hold : ∀ sid ∈ (beforeReset userId s).old,
      ∃ snapshot, s.sessions.find? sid = some snapshot ∧ snapshot.id = userId := by
    intro sid hsid
    obtain ⟨r, hr, rfl⟩ := List.mem_map.mp hsid
    obtain ⟨hr, huser⟩ := List.mem_filter.mp hr
    exact ⟨r.2, Table.find?_of_mem_rows hr, of_decide_eq_true huser⟩
  refine ⟨h.issued, nofun, nofun, fun sid hsid => ?_, List.nodup_nil, nofun, nofun,
    fun sid hsid snapshot hsnapshot => ?_, nofun, nofun, fun _ sid hsid _ => ?_, nofun,
    fun hcommitted => absurd rfl hcommitted.1⟩
  · obtain ⟨snapshot, hfind, _⟩ := hold sid hsid
    exact s.sessions.lt_next _ (List.mem_map_of_mem (Table.mem_rows_of_find? hfind))
  · obtain ⟨snapshot', hfind, huser⟩ := hold sid hsid
    obtain rfl := Option.some.inj (hfind.symm.trans hsnapshot)
    exact huser
  · obtain ⟨snapshot, hfind, huser⟩ := hold sid hsid
    exact .inl (h.sessions sid snapshot hfind huser)

/-- When all have finished, the sessions of the old password that are accepted are those that the
reset has missed. -/
theorem accepts_iff_stray {userId : Id} {st : RevocationState} (h : RevocationInv userId st)
    (hfinished : st.Finished) (sid : Id) : sid ∈ st.old ∧ st.Accepts sid ↔ Stray st sid := by
  obtain ⟨_, hunregistered, targets, hphase⟩ := hfinished
  constructor
  · rintro ⟨hold, haccepts⟩
    obtain ⟨user, haccepts⟩ := Option.isSome_iff_exists.mp haccepts
    obtain ⟨snapshot, hsnapshot, _⟩ := Option.bind_eq_some_iff.mp haccepts
    refine ⟨hold, Option.isSome_of_eq_some hsnapshot, ?_, targets, by rw [hphase]; rfl, ?_⟩
    · rw [hunregistered]
      nofun
    · intro hmem
      have hgone := h.gone sid (by rw [hphase]; exact hmem)
      rw [hgone] at hsnapshot
      cases hsnapshot
  · rintro ⟨hold, hstored, _, _⟩
    obtain ⟨snapshot, hsnapshot⟩ := Option.isSome_iff_exists.mp hstored
    have huser := h.user (by rw [hphase]; exact ⟨nofun, nofun⟩)
    refine ⟨hold, ?_⟩
    rw [RevocationState.Accepts, hsnapshot, Option.bind_some, AuthService.deserializeUser,
      Option.isSome_map, h.old_user sid hold snapshot hsnapshot]
    exact huser

/-- In every run of logins and a reset that finishes, no session of the old password is accepted
in the end, exactly if every such session that is registered after the reset has read the index is
later replaced by a login of its own client. -/
theorem reset_ends_sessions_iff {rt : Runtime} {reset : PasswordReset} {s : AuthStore}
    (hs : Indexed reset.userId s) (steps : List RevocationStep)
    (hfinished : (RevocationStep.runAll rt reset steps (beforeReset reset.userId s)).Finished) :
    (∀ sid ∈ (RevocationStep.runAll rt reset steps (beforeReset reset.userId s)).old,
        ¬(RevocationStep.runAll rt reset steps (beforeReset reset.userId s)).Accepts sid) ↔
      Runs.AllEnded (RevocationStep.run rt reset) RevocationStep.RegistersLate
        RevocationStep.Replaces steps (beforeReset reset.userId s) := by
  have hstart := beforeReset_inv hs
  have haccepts := accepts_iff_stray (hstart.runAll steps) hfinished
  -- before the reset no session is missed yet, so that a missed one has been registered late
  have hmarked : (∃ sid, Stray (RevocationStep.runAll rt reset steps
      (beforeReset reset.userId s)) sid) ↔
      ¬Runs.AllEnded (RevocationStep.run rt reset) RevocationStep.RegistersLate
        RevocationStep.Replaces steps (beforeReset reset.userId s) := by
    refine (Runs.exists_marked_iff (fun _ e h => h.run e)
      (fun _ e sid h => stray_run_iff h e sid) hstart).trans (or_iff_right ?_)
    rintro ⟨sid, hstray, _⟩
    exact not_stray_of_targets rfl hstray
  rw [← not_iff_not, ← hmarked, not_forall]
  refine exists_congr fun sid => ?_
  rw [not_forall, exists_prop, not_not]
  exact haccepts sid

/-- A user who has asked for a reset. -/
def forgotten : AuthStore :=
  { AuthStore.withUser secured with
    verificationTokens := Serial.empty.create ⟨0, "token", .passwordReset, 10, false, none⟩ }

def forgottenReset : PasswordReset := ⟨1, 0, 0, "other"⟩

theorem forgotten_indexed : Indexed 0 forgotten :=
  ⟨(fun _ _ h => nomatch h), fun _ h => nomatch h⟩

/-- A login with the old password, checked on the machine of its user. -/
def oldLogin : RevocationStep := .check ⟨none, none, none, none, 0⟩ "a@b.c" "password"

/-- The login has registered its session before the reset. -/
theorem reset_ends_sessions_iff_registered :
    (RevocationStep.runAll .plain forgottenReset
        [oldLogin, .create 0, .register 0, .reset, .reset, .reset, .reset]
        (beforeReset 0 forgotten)).old = [0] ∧
    ∀ sid ∈ (RevocationStep.runAll .plain forgottenReset
        [oldLogin, .create 0, .register 0, .reset, .reset, .reset, .reset]
        (beforeReset 0 forgotten)).old,
      ¬(RevocationStep.runAll .plain forgottenReset
        [oldLogin, .create 0, .register 0, .reset, .reset, .reset, .reset]
        (beforeReset 0 forgotten)).Accepts sid := by
  refine ⟨by decide +kernel, ?_⟩
  refine (reset_ends_sessions_iff forgotten_indexed _ ⟨rfl, rfl, [0], rfl⟩).mpr
    ⟨fun _ h => h.elim, fun _ h => h.elim, fun _ h => ?_, fun _ h => h.elim, fun _ h => h.elim,
      fun _ h => h.elim, fun _ h => h.elim, trivial⟩
  cases h.2.2.2

/-- The password is checked before the reset, and the session registered after it. -/
theorem registered_after_reset :
    ¬∀ steps : List RevocationStep,
      (RevocationStep.runAll .plain forgottenReset steps (beforeReset 0 forgotten)).Finished →
      ∀ sid ∈ (RevocationStep.runAll .plain forgottenReset steps (beforeReset 0 forgotten)).old,
        ¬(RevocationStep.runAll .plain forgottenReset steps
          (beforeReset 0 forgotten)).Accepts sid := by
  intro h
  refine h [oldLogin, .create 0, .reset, .reset, .reset, .reset, .register 0]
    ⟨rfl, rfl, [], rfl⟩ 0 ?_ ?_
  · decide +kernel
  · rw [RevocationState.Accepts]
    decide +kernel

end Invetrixa
