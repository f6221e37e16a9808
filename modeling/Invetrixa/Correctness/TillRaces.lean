import Invetrixa.Server

/-!
# Opening and removing tills

Opening a session looks for an open one on its terminal, and for the terminal being in use, before
the transaction that writes the session; removing a terminal looks for open sessions before it
writes. No index keeps the answers true in between.

## Main results

- `tills_sound_iff` — each terminal has at most one open session, and a removed one none, exactly
  if what each request found still holds where it writes
- `two_sessions_open` — two cashiers who open one terminal
-/

namespace Invetrixa

open Rowstore Requests SessionService

/-- A request at a till. -/
inductive TillRequest
  | «open» (clock : Clock) (tenantId : Id) (dto : OpenSessionDto)
  | close (tenantId sessionId : Id) (dto : CloseSessionDto)
  | remove (now tenantId id : ℕ)

/-- What a request in flight will write. -/
inductive TillWrite
  | «open» (clock : Clock) (tenantId : Id) (dto : OpenSessionDto)
  | close (sessionId : Id) (cashReceived : ℚ) (dto : CloseSessionDto)
  | remove (now id : ℕ)

/-- Opening, closing and removing, each its checks and a later write. -/
def tillRequests (db : Database) : ReadCommit Store TillRequest TillWrite where
  read request s :=
    match request with
    | .open clock tenantId dto =>
      match readOpen tenantId dto s with
      | .ok _ => some (.open clock tenantId dto)
      | .error _ => none
    | .close tenantId sessionId dto =>
      match readClose tenantId sessionId s with
      | .ok _ => some (.close sessionId (cashReceived sessionId s) dto)
      | .error _ => none
    | .remove now tenantId id =>
      match TerminalService.readRemove tenantId id s with
      | .ok _ => some (.remove now id)
      | .error _ => none
  commit _ write s :=
    match write with
    | .open clock tenantId dto =>
      match insertSession (newSession db clock tenantId dto s) s with
      | .ok (_, s') => s'
      | .error _ => s
    | .close sessionId cash dto =>
      { s with sessions := s.sessions.modify sessionId (reconciled db cash dto) }
    | .remove now id => TerminalService.commitRemove now id s

/-- A session is open on a terminal. -/
def POSSession.OpenOn (terminalId : Id) (session : POSSession) : Prop :=
  session.terminalId = terminalId ∧ session.status = .open

instance (terminalId : Id) : DecidablePred (POSSession.OpenOn terminalId) :=
  fun _ => inferInstanceAs (Decidable (_ ∧ _))

/-- Each terminal has at most one open session, and a removed one has none. -/
structure TillsSound (s : Store) : Prop where
  one : ∀ terminalId id id' session session', s.sessions.find? id = some session →
    s.sessions.find? id' = some session' → session.OpenOn terminalId →
    session'.OpenOn terminalId → id = id'
  live : ∀ terminalId t id session, s.terminals.find? terminalId = some t →
    t.deletedAt ≠ none → s.sessions.find? id = some session → ¬session.OpenOn terminalId

/-- No session is open on a terminal. -/
def NoOpenSession (s : Store) (terminalId : Id) : Prop :=
  ∀ r ∈ s.sessions.rows, ¬r.2.OpenOn terminalId

instance (s : Store) : DecidablePred (NoOpenSession s) :=
  fun _ => inferInstanceAs (Decidable (∀ r ∈ _, _))

/-- What a request found still holds where it writes: an open that is written finds its terminal
free and not removed, and a remove finds no open session. -/
def StillFree (db : Database) (s : Store) (_ : TillRequest) : TillWrite → Prop
  | .open clock tenantId dto =>
    (insertSession (newSession db clock tenantId dto s) s).isOk →
      NoOpenSession s dto.terminalId ∧
        ∀ t ∈ s.terminals.find? dto.terminalId, t.deletedAt = none
  | .close _ _ _ => True
  | .remove _ id => (s.terminals.find? id).isSome → NoOpenSession s id

instance (db : Database) (s : Store) (request : TillRequest) :
    DecidablePred (StillFree db s request)
  | .open _ _ _ => inferInstanceAs (Decidable (_ → _ ∧ _))
  | .close _ _ _ => isTrue trivial
  | .remove _ _ => inferInstanceAs (Decidable (_ → _))

section Steps

variable {db : Database} {s : Store} {clock : Clock} {tenantId : Id} {dto : OpenSessionDto}

theorem NoOpenSession.find? {terminalId id : Id} {session : POSSession}
    (h : NoOpenSession s terminalId) (hfind : s.sessions.find? id = some session) :
    ¬session.OpenOn terminalId :=
  h (id, session) (Table.mem_rows_of_find? hfind)

theorem insertSession_eq_ok {session : POSSession} {id : Id} {s' : Store}
    (h : insertSession session s = .ok (id, s')) :
    s' = { s with sessions := s.sessions.create session } := by
  rw [insertSession] at h
  split at h
  · cases h
  · exact (Prod.mk.inj (Except.ok.inj h)).2.symm

/-- A session is opened on a terminal that is free and in use. -/
theorem TillsSound.open (h : TillsSound s) {session : POSSession} (hopen : session.status = .open)
    (hfree : NoOpenSession s session.terminalId)
    (hlive : ∀ t ∈ s.terminals.find? session.terminalId, t.deletedAt = none) :
    TillsSound { s with sessions := s.sessions.create session } := by
  constructor
  · intro terminalId id id' x x' hx hx' ho ho'
    rcases Serial.find?_create_cases hx with hx₀ | ⟨hid, rfl⟩
    · rcases Serial.find?_create_cases hx' with hx₀' | ⟨hid', rfl⟩
      · exact h.one terminalId id id' x x' hx₀ hx₀' ho ho'
      · exact absurd ⟨ho.1.trans ho'.1.symm, ho.2⟩ (hfree.find? hx₀)
    · rcases Serial.find?_create_cases hx' with hx₀' | ⟨hid', rfl⟩
      · exact absurd ⟨ho'.1.trans ho.1.symm, ho'.2⟩ (hfree.find? hx₀')
      · exact hid.trans hid'.symm
  · intro terminalId t id x ht hdead hx ho
    rcases Serial.find?_create_cases hx with hx | ⟨_, rfl⟩
    · exact h.live terminalId t id x ht hdead hx ho
    · obtain rfl := ho.1
      exact hdead (hlive t ht)

/-- An open session beside another, or on a removed terminal. -/
theorem open_breaks {session : POSSession} (hopen : session.status = .open)
    (hbad : ¬(NoOpenSession s session.terminalId ∧
      ∀ t ∈ s.terminals.find? session.terminalId, t.deletedAt = none)) :
    ¬TillsSound { s with sessions := s.sessions.create session } := by
  intro h
  have hnew : (s.sessions.create session).find? s.sessions.next = some session := by
    rw [Serial.find?_create, if_pos rfl]
  refine hbad ⟨?_, ?_⟩
  · intro r hr hopenOn
    have hold := Table.find?_of_mem_rows hr
    have heq := h.one session.terminalId r.1 s.sessions.next r.2 session
      (Serial.find?_create_of_some hold session) hnew hopenOn ⟨rfl, hopen⟩
    rw [heq, s.sessions.find?_next] at hold
    cases hold
  · intro t ht
    by_contra hdead
    exact h.live session.terminalId t s.sessions.next session ht hdead hnew ⟨rfl, hopen⟩

/-- A session that is closed opens nothing. -/
theorem TillsSound.close (h : TillsSound s) (sessionId : Id) (cash : ℚ) (dto : CloseSessionDto) :
    TillsSound { s with sessions := s.sessions.modify sessionId (reconciled db cash dto) } := by
  have hbefore : ∀ {terminalId id x}, (s.sessions.modify sessionId
      (reconciled db cash dto)).find? id = some x → x.OpenOn terminalId →
      s.sessions.find? id = some x := by
    intro terminalId id x hx ho
    rcases Table.find?_modify_cases hx with ⟨_, hx⟩ | ⟨_, y, _, rfl⟩
    · exact hx
    · cases ho.2
  constructor
  · intro terminalId id id' x x' hx hx' ho ho'
    exact h.one terminalId id id' x x' (hbefore hx ho) (hbefore hx' ho') ho ho'
  · intro terminalId t id x ht hdead hx ho
    exact h.live terminalId t id x ht hdead (hbefore hx ho) ho

/-- A terminal without an open session is removed. -/
theorem TillsSound.remove (h : TillsSound s) (now : ℕ) {terminalId : Id}
    (hfree : (s.terminals.find? terminalId).isSome → NoOpenSession s terminalId) :
    TillsSound (TerminalService.commitRemove now terminalId s) := by
  constructor
  · exact h.one
  · intro terminalId' t id x ht hdead hx ho
    rcases Table.find?_modify_cases ht with ⟨_, ht₀⟩ | ⟨rfl, t₀, ht₀, _⟩
    · exact h.live terminalId' t id x ht₀ hdead hx ho
    · exact (hfree (Option.isSome_of_mem ht₀)).find? hx ho

/-- A terminal is removed under an open session. -/
theorem remove_breaks {now terminalId : ℕ}
    (hbad : ¬((s.terminals.find? terminalId).isSome → NoOpenSession s terminalId)) :
    ¬TillsSound (TerminalService.commitRemove now terminalId s) := by
  intro h
  refine hbad fun hsome r hr hopenOn => ?_
  obtain ⟨t, ht⟩ := Option.isSome_iff_exists.mp hsome
  have hremoved := Serial.find?_modify_of_some ht fun t =>
    { t with deletedAt := some now, isActive := false }
  exact h.live terminalId _ r.1 r.2 hremoved (Option.some_ne_none now)
    (Table.find?_of_mem_rows hr) hopenOn

theorem TillsSound.commit (h : TillsSound s) (request : TillRequest) {write : TillWrite}
    (hfree : StillFree db s request write) :
    TillsSound ((tillRequests db).commit request write s) := by
  cases write with
  | «open» clock tenantId dto =>
    simp only [tillRequests]
    split
    · next id s' hinsert =>
      rw [insertSession_eq_ok hinsert]
      obtain ⟨hnone, hlive⟩ := hfree (by rw [hinsert]; rfl)
      exact h.open rfl hnone hlive
    · exact h
  | close sessionId cash dto => exact h.close sessionId cash dto
  | remove now id => exact h.remove now hfree

theorem commit_breaks (request : TillRequest) {write : TillWrite}
    (hbad : ¬StillFree db s request write) :
    ¬TillsSound ((tillRequests db).commit request write s) := by
  cases write with
  | «open» clock tenantId dto =>
    simp only [StillFree, Classical.not_imp] at hbad
    obtain ⟨hok, hbad⟩ := hbad
    simp only [tillRequests]
    split
    · next id s' hinsert =>
      rw [insertSession_eq_ok hinsert]
      exact open_breaks rfl hbad
    · next e hinsert =>
      rw [hinsert] at hok
      cases hok
  | close sessionId cash dto => exact absurd trivial hbad
  | remove now id => exact remove_breaks hbad

end Steps

/-- Along every interleaving the tills stay sound exactly if what each request found still holds
where it writes. -/
theorem tills_sound_iff {db : Database} {s : Store} (hs : TillsSound s)
    (events : List (ReadCommit.Event TillRequest)) :
    Runs.Always (fun e c => (tillRequests db).exec c e) (fun c => TillsSound c.state) events
        ⟨s, []⟩ ↔
      Runs.AllMeet (fun e c => (tillRequests db).exec c e)
        (fun c e => e.Meets (StillFree db) c) events ⟨s, []⟩ := by
  refine Runs.always_iff_allMeet (I := fun c => TillsSound c.state) (fun _ h => h) ?_ ?_ hs
    (Runs.allMeet_true events)
  · intro c e h _ hfree
    cases e with
    | read request =>
      simp only [ReadCommit.exec]
      split
      · exact h
      · exact h
    | commit i =>
      simp only [ReadCommit.exec]
      split
      · next request write hwrite => exact h.commit request (hfree _ hwrite)
      · exact h
  · intro c e h _ hbad
    cases e with
    | read request => exact absurd trivial hbad
    | commit i =>
      simp only [ReadCommit.Event.Meets, not_forall, exists_prop] at hbad
      obtain ⟨⟨request, write⟩, hwrite, hbad⟩ := hbad
      simp only [ReadCommit.exec, Option.mem_def.mp hwrite]
      exact commit_breaks request hbad

/-- A cashier opens the terminal, closes the session and removes the terminal. -/
def oneCashier : List (ReadCommit.Event TillRequest) :=
  [.read (.open ⟨0, 2024⟩ 0 ⟨0, 100⟩), .commit 0, .read (.close 0 0 ⟨100⟩), .commit 0,
    .read (.remove 2 0 0), .commit 0]

theorem initial_tillsSound : TillsSound (Store.initial .till) :=
  ⟨(fun _ _ _ _ _ hfind => nomatch hfind), fun _ _ _ _ _ _ hfind => nomatch hfind⟩

theorem tills_sound_iff_oneCashier :
    Runs.Always (fun e c => (tillRequests .exact).exec c e) (fun c => TillsSound c.state)
      oneCashier ⟨Store.initial .till, []⟩ :=
  (tills_sound_iff initial_tillsSound _).mpr (by decide +kernel)

/-- Two cashiers look at the terminal before either of them opens it. -/
def twoCashiers : List (ReadCommit.Event TillRequest) :=
  [.read (.open ⟨0, 2024⟩ 0 ⟨0, 100⟩), .read (.open ⟨1, 2024⟩ 0 ⟨0, 50⟩), .commit 0, .commit 0]

def openedTwice : Store :=
  ((tillRequests .exact).execAll twoCashiers ⟨Store.initial .till, []⟩).state

theorem two_sessions_open :
    ¬Runs.Always (fun e c => (tillRequests .exact).exec c e) (fun c => TillsSound c.state)
      twoCashiers ⟨Store.initial .till, []⟩ := by
  intro h
  have hone : ∀ r ∈ openedTwice.sessions.rows, ∀ r' ∈ openedTwice.sessions.rows,
      r.2.OpenOn 0 → r'.2.OpenOn 0 → r.1 = r'.1 := fun r hr r' hr' =>
    h.last.one 0 r.1 r'.1 r.2 r'.2 (Table.find?_of_mem_rows hr) (Table.find?_of_mem_rows hr')
  revert hone
  decide +kernel

end Invetrixa
