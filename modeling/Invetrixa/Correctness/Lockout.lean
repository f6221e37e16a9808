import Invetrixa.Auth.Auth

/-!
# The lockout

Logins with a wrong password on one account, each a read of its row, a slow check of the
password and the write of the failure. The read decides: what it says of the failures is what the
write later goes by, so that logins that read before the others have written are all let through
to their check.

## Main results

- `lockout_bounds_guessing_iff` — no more passwords are checked before the account is locked than
  are allowed, and none while it is, exactly if every login that is let through finds fewer
  failures stored and logins in flight, together, than are allowed
- `guesses_in_parallel` — six logins read before any writes
-/

namespace Invetrixa

open Rowstore Requests

/-- The accounts, the time, the logins on their way from the read of the row to the write of the
failure, and what has been observed of the lockout. -/
structure GuessingState where
  store : AuthStore
  now : ℕ
  inFlight : List UserWithPreferences
  /-- the locks that have been set, each until its time -/
  locks : List ℕ
  /-- password checks made before any lock was set -/
  checksBeforeLock : ℕ
  /-- password checks made during a lock -/
  checksWhileLocked : ℕ

/-- A step of a login with a wrong password: it reads the row of the account, or it writes the
failure. -/
inductive GuessingStep
  | read (http : HttpRequest)
  | commit (i : ℕ) (now : ℕ)

namespace GuessingStep

def time : GuessingStep → ℕ
  | .read http => http.now
  | .commit _ now => now

/-- A login that is let through goes on to check its password; after the check it writes the
failure, by what it has read. -/
def run (rt : Runtime) (email : String) : GuessingStep → GuessingState → GuessingState
  | .read http, st =>
    match AuthService.readLogin rt http email st.store with
    | .error _ => { st with now := http.now }
    | .ok user =>
      { st with
        now := http.now
        inFlight := st.inFlight ++ [user]
        checksBeforeLock := st.checksBeforeLock + if st.locks = [] then 1 else 0
        checksWhileLocked := st.checksWhileLocked + if st.locks.any (http.now < ·) then 1 else 0 }
  | .commit i now, st =>
    match st.inFlight[i]? with
    | none => { st with now }
    | some user =>
      let store :=
        (AuthService.handleFailedLogin now user.id user.row.failedLoginAttempts st.store).2
      { st with
        store
        now
        inFlight := st.inFlight.eraseIdx i
        locks := ((store.users.find? user.id).bind User.lockedUntil).toList ++ st.locks }

/-- Time does not run backwards. -/
def InOrder (st : GuessingState) (e : GuessingStep) : Prop := st.now ≤ e.time

instance (st : GuessingState) (e : GuessingStep) : Decidable (e.InOrder st) := Nat.decLe _ _

/-- A login that is let through before the account has been locked finds fewer failures stored
and logins in flight, together, than are allowed. -/
def WithinLimit (rt : Runtime) (email : String) (st : GuessingState) : GuessingStep → Prop
  | .commit _ _ => True
  | .read http => ∀ user, AuthService.readLogin rt http email st.store = .ok user →
      st.locks = [] → user.row.failedLoginAttempts + st.inFlight.length < MAX_FAILED_ATTEMPTS

instance (rt : Runtime) (email : String) (st : GuessingState) (e : GuessingStep) :
    Decidable (e.WithinLimit rt email st) :=
  match e with
  | .commit _ _ => isTrue trivial
  | .read http =>
    match h : AuthService.readLogin rt http email st.store with
    | .error _ => isTrue fun _ hok => nomatch h.symm.trans hok
    | .ok user =>
      decidable_of_iff
        (st.locks = [] → user.row.failedLoginAttempts + st.inFlight.length < MAX_FAILED_ATTEMPTS)
        ⟨fun hlt _ hok => Except.ok.inj (h.symm.trans hok) ▸ hlt, fun hlt => hlt user h⟩

end GuessingStep

/-- The lockout bounds the guessing. -/
def GuessingBounded (st : GuessingState) : Prop :=
  st.checksBeforeLock ≤ MAX_FAILED_ATTEMPTS ∧ st.checksWhileLocked = 0

instance (st : GuessingState) : Decidable (GuessingBounded st) :=
  inferInstanceAs (Decidable (_ ∧ _))

/-- What every step of the logins keeps. -/
structure GuessingInv (rt : Runtime) (email : String) (userId : Id) (st : GuessingState) :
    Prop where
  account : (st.store.findByEmail (rt.toLowerCase (trim email))).map UserWithPreferences.id =
    some userId
  inFlight : ∀ user ∈ st.inFlight, user.id = userId
  /-- before any lock, the checks are the failures stored and the logins in flight -/
  checks : ∀ row, st.store.users.find? userId = some row → st.locks = [] →
    st.checksBeforeLock = row.failedLoginAttempts + st.inFlight.length
  /-- the row is locked as long as any lock that has been set -/
  locks : ∀ row, st.store.users.find? userId = some row → ∀ lock ∈ st.locks,
    ∃ lockedUntil, row.lockedUntil = some lockedUntil ∧ lock ≤ lockedUntil
  lockedUntil_le : ∀ row lockedUntil, st.store.users.find? userId = some row →
    row.lockedUntil = some lockedUntil → lockedUntil ≤ addMinutes st.now LOCKOUT_DURATION_MINUTES
  bounded : GuessingBounded st

section

variable {rt : Runtime} {email : String} {userId : Id} {st : GuessingState}

/-- The row that a login has read is the row of the account. -/
theorem GuessingInv.row_of_read (h : GuessingInv rt email userId st) {http : HttpRequest}
    {user : UserWithPreferences} (hread : AuthService.readLogin rt http email st.store = .ok user) :
    user.id = userId ∧ st.store.users.find? userId = some user.row := by
  obtain ⟨hfind, _⟩ := AuthService.readLogin_ok hread
  have hid : user.id = userId := by
    have haccount := h.account
    rw [hfind] at haccount
    exact Option.some.inj haccount
  obtain ⟨hrow, _⟩ := AuthStore.findByEmail_eq_some hfind
  exact ⟨hid, hid ▸ hrow⟩

/-- A login that is let through while it may be. -/
theorem GuessingInv.read (h : GuessingInv rt email userId st) {http : HttpRequest}
    (horder : (GuessingStep.read http).InOrder st)
    (hlimit : (GuessingStep.read http).WithinLimit rt email st) :
    GuessingInv rt email userId ((GuessingStep.read http).run rt email st) := by
  have hnow : addMinutes st.now LOCKOUT_DURATION_MINUTES ≤
      addMinutes http.now LOCKOUT_DURATION_MINUTES := Nat.add_le_add_right horder _
  simp only [GuessingStep.run]
  split
  · exact ⟨h.account, h.inFlight, h.checks, h.locks,
      fun row t hrow ht => le_trans (h.lockedUntil_le row t hrow ht) hnow, h.bounded⟩
  · next user hread =>
    obtain ⟨hid, hrow⟩ := h.row_of_read hread
    obtain ⟨_, hunlocked⟩ := AuthService.readLogin_ok hread
    -- A lock that is still on is in the row, and the row was found unlocked.
    have hduring : st.locks.any (http.now < ·) = false := by
      rw [List.any_eq_false]
      intro lock hlock
      obtain ⟨t, ht, hle⟩ := h.locks _ hrow lock hlock
      have hpast := hunlocked t ht
      simp only [decide_eq_true_eq]
      omega
    refine ⟨h.account, ?_, ?_, h.locks,
      fun row t hrow ht => le_trans (h.lockedUntil_le row t hrow ht) hnow, ?_⟩
    · intro x hx
      rcases List.mem_append.mp hx with hx | hx
      · exact h.inFlight x hx
      · obtain rfl := List.mem_singleton.mp hx
        exact hid
    · intro row hrow' hlocks
      have hchecks := h.checks row hrow' hlocks
      dsimp only at hlocks ⊢
      rw [if_pos hlocks, hchecks, List.length_append, List.length_singleton, Nat.add_assoc]
    · obtain ⟨hbefore, hwhile⟩ := h.bounded
      refine ⟨?_, ?_⟩
      · dsimp only
        by_cases hlocks : st.locks = []
        · have hlt := hlimit user hread hlocks
          have hchecks := h.checks _ hrow hlocks
          rw [if_pos hlocks]
          omega
        · rw [if_neg hlocks]
          exact hbefore
      · dsimp only
        rw [hduring, hwhile]
        rfl

/-- The lock after a failure is a new one or the one before. -/
theorem failedLogin_lockedUntil {now current lockedUntil : ℕ} {row : User}
    (h : (AuthService.failedLogin now current row).lockedUntil = some lockedUntil) :
    lockedUntil = addMinutes now LOCKOUT_DURATION_MINUTES ∨
      row.lockedUntil = some lockedUntil := by
  simp only [AuthService.failedLogin] at h
  split at h
  · exact .inl (Option.some.inj h).symm
  · exact .inr h

/-- A failure leaves a lock or sets a later one. -/
theorem failedLogin_extends {now current lockedUntil lock : ℕ} {row : User}
    (h : row.lockedUntil = some lockedUntil)
    (hnow : lockedUntil ≤ addMinutes now LOCKOUT_DURATION_MINUTES) (hlock : lock ≤ lockedUntil) :
    ∃ t, (AuthService.failedLogin now current row).lockedUntil = some t ∧ lock ≤ t := by
  simp only [AuthService.failedLogin]
  split
  · exact ⟨_, rfl, le_trans hlock hnow⟩
  · exact ⟨lockedUntil, h, hlock⟩

/-- A failure that is written. -/
theorem GuessingInv.commit (h : GuessingInv rt email userId st) {i now : ℕ}
    (horder : (GuessingStep.commit i now).InOrder st) :
    GuessingInv rt email userId ((GuessingStep.commit i now).run rt email st) := by
  have hnow : addMinutes st.now LOCKOUT_DURATION_MINUTES ≤
      addMinutes now LOCKOUT_DURATION_MINUTES := Nat.add_le_add_right horder _
  simp only [GuessingStep.run]
  split
  · exact ⟨h.account, h.inFlight, h.checks, h.locks,
      fun row t hrow ht => le_trans (h.lockedUntil_le row t hrow ht) hnow, h.bounded⟩
  · next user hi =>
    obtain rfl := h.inFlight user (List.mem_of_getElem? hi)
    have hlt := (List.getElem?_eq_some_iff.mp hi).1
    obtain ⟨found, hfound, hfid⟩ := Option.map_eq_some_iff.mp h.account
    obtain ⟨hrow, _⟩ := AuthStore.findByEmail_eq_some hfound
    rw [hfid] at hrow
    -- The write takes the number of attempts that was read, not the one in the row.
    have hstore : (AuthService.handleFailedLogin now user.id user.row.failedLoginAttempts
        st.store).2 = st.store.modifyUser user.id
          (AuthService.failedLogin now user.row.failedLoginAttempts) := by
      simp only [AuthService.handleFailedLogin, bind, UsersService.update_apply hrow]
      rfl
    have hrow' : (st.store.modifyUser user.id
        (AuthService.failedLogin now user.row.failedLoginAttempts)).users.find? user.id =
          some (AuthService.failedLogin now user.row.failedLoginAttempts found.row) :=
      Serial.find?_modify_of_some hrow _
    rw [hstore]
    rw [hrow', Option.bind_some]
    refine ⟨?_, fun x hx => h.inFlight x (List.mem_of_mem_eraseIdx hx), ?_, ?_, ?_, h.bounded⟩
    · exact (AuthStore.map_id_findByEmail_modifyUser
        (f := AuthService.failedLogin now user.row.failedLoginAttempts)
        (fun _ => rfl) _ _ _).trans h.account
    · intro row hfind hlocks
      obtain rfl := Option.some.inj (hrow'.symm.trans hfind)
      obtain ⟨_, hnone⟩ := List.append_eq_nil_iff.mp hlocks
      have hchecks := h.checks _ hrow hnone
      have hlength := List.length_eraseIdx_of_lt hlt
      simp only [AuthService.failedLogin]
      omega
    · intro row hfind lock hlock
      obtain rfl := Option.some.inj (hrow'.symm.trans hfind)
      -- The lock is the one that this attempt has set, or an older one, which is not shortened.
      rcases List.mem_append.mp hlock with hlock | hlock
      · exact ⟨lock, Option.mem_toList.mp hlock, le_refl _⟩
      · obtain ⟨lockedUntil, hlocked, hle⟩ := h.locks _ hrow lock hlock
        exact failedLogin_extends hlocked
          (le_trans (h.lockedUntil_le _ _ hrow hlocked) hnow) hle
    · intro row lockedUntil hfind hlocked
      obtain rfl := Option.some.inj (hrow'.symm.trans hfind)
      rcases failedLogin_lockedUntil hlocked with rfl | hkept
      · exact le_refl _
      · exact le_trans (h.lockedUntil_le _ _ hrow hkept) hnow

/-- A login that is let through beyond the limit is a check too many. -/
theorem GuessingInv.read_breaks (h : GuessingInv rt email userId st) {http : HttpRequest}
    (hlimit : ¬(GuessingStep.read http).WithinLimit rt email st) :
    ¬GuessingBounded ((GuessingStep.read http).run rt email st) := by
  simp only [GuessingStep.WithinLimit, not_forall] at hlimit
  obtain ⟨user, hread, hlocks, hover⟩ := hlimit
  obtain ⟨_, hrow⟩ := h.row_of_read hread
  have hchecks := h.checks _ hrow hlocks
  rintro ⟨hbefore, _⟩
  simp only [GuessingStep.run, hread, if_pos hlocks] at hbefore
  omega

/-- The account before the first login: not locked, and no failures. -/
def unlocked (s : AuthStore) (now : ℕ) : GuessingState where
  store := s
  now := now
  inFlight := []
  locks := []
  checksBeforeLock := 0
  checksWhileLocked := 0

theorem unlocked_inv {s : AuthStore} {user : UserWithPreferences} (now : ℕ)
    (hfind : s.findByEmail (rt.toLowerCase (trim email)) = some user)
    (hattempts : user.row.failedLoginAttempts = 0) (hlocked : user.row.lockedUntil = none) :
    GuessingInv rt email user.id (unlocked s now) := by
  obtain ⟨hrow, _⟩ := AuthStore.findByEmail_eq_some hfind
  refine ⟨congrArg (Option.map UserWithPreferences.id) hfind, by simp [unlocked], ?_,
    by simp [unlocked], ?_, Nat.zero_le _, rfl⟩
  · intro row hfind' _
    obtain rfl := Option.some.inj (hrow.symm.trans hfind')
    exact hattempts.symm
  · intro row lockedUntil hfind' h
    obtain rfl := Option.some.inj (hrow.symm.trans hfind')
    rw [hlocked] at h
    cases h

end

/-- Along every interleaving of logins with a wrong password on an account that starts unlocked
with no failures, no more than the allowed number of passwords are checked before the account is
locked and none during a lock, exactly if every login that is let through before the first lock
finds fewer failures stored and logins in flight than are allowed. -/
theorem lockout_bounds_guessing_iff {rt : Runtime} {email : String} {s : AuthStore} {now : ℕ}
    {user : UserWithPreferences} {steps : List GuessingStep}
    (hfind : s.findByEmail (rt.toLowerCase (trim email)) = some user)
    (hattempts : user.row.failedLoginAttempts = 0) (hlocked : user.row.lockedUntil = none)
    (horder : Runs.AllMeet (GuessingStep.run rt email) (fun st e => e.InOrder st) steps
      (unlocked s now)) :
    Runs.Always (GuessingStep.run rt email) GuessingBounded steps (unlocked s now) ↔
      Runs.AllMeet (GuessingStep.run rt email) (fun st e => e.WithinLimit rt email st) steps
        (unlocked s now) := by
  refine Runs.always_iff_allMeet (I := GuessingInv rt email user.id) (fun _ h => h.bounded)
    ?_ ?_ (unlocked_inv now hfind hattempts hlocked) horder
  · intro st e h horder hlimit
    cases e with
    | read http => exact h.read horder hlimit
    | commit i now => exact h.commit horder
  · intro st e h _ hlimit
    cases e with
    | read http => exact h.read_breaks hlimit
    | commit i now => exact absurd trivial hlimit

/-- A login with a wrong password, to run examples on. -/
def guess (now : ℕ) : GuessingStep :=
  .read { now, sessionID := none, mfaDeviceId := none, ip := none, userAgent := none }

theorem lockout_bounds_guessing_iff_inTurn :
    Runs.Always (GuessingStep.run Runtime.plain "a@b.c") GuessingBounded
      [guess 0, .commit 0 1, guess 2, guess 3, .commit 1 4, .commit 0 5, guess 6, .commit 0 7,
        guess 8, .commit 0 9, guess 10] (unlocked (.withUser secured) 0) := by
  refine (lockout_bounds_guessing_iff rfl rfl rfl ?_).mpr ?_
  · decide +kernel
  · decide +kernel

/-- Six logins read the row before any of them writes, and all go on to check their password. -/
theorem guesses_in_parallel :
    (AuthStore.withUser secured).findByEmail "a@b.c" =
        some ((AuthStore.withUser secured).withPreferences 0 secured) ∧
      Runs.AllMeet (GuessingStep.run Runtime.plain "a@b.c") (fun st e => e.InOrder st)
        (List.replicate 6 (guess 0)) (unlocked (.withUser secured) 0) ∧
      ¬Runs.Always (GuessingStep.run Runtime.plain "a@b.c") GuessingBounded
        (List.replicate 6 (guess 0)) (unlocked (.withUser secured) 0) := by
  refine ⟨rfl, ?_, ?_⟩
  · decide +kernel
  · decide +kernel

end Invetrixa
