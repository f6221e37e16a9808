import Invetrixa.Auth.Mfa

/-!
# The protocol of mailed codes

Codes are issued and entered one after another, for any users and channels and at any times. The
history of a run says what the callers saw; the store says which challenges are open. A challenge
that is open is the one issued last for its user and channel, and its attempts count the wrong
codes entered for it since.

## Main results

- `challenges_follow_protocol` — at most one challenge of a user is open on a channel, and every
  code accepted was issued last, had not been accepted before, had not expired, and had fewer
  wrong codes entered for it than are allowed
-/

namespace Invetrixa

open Rowstore Requests

/-- What the callers see of the protocol. -/
inductive ChallengeEvent
  | issued (userId : Id) (channel : MfaChallengeChannel) (code : String) (expiresAt : ℕ)
  | entered (userId : Id) (channel : MfaChallengeChannel) (code : String) (now : ℕ)
      (accepted : Bool)
  deriving DecidableEq

namespace ChallengeEvent

/-- A new code for a user on a channel. -/
def IssuedFor (userId : Id) (channel : MfaChallengeChannel) : ChallengeEvent → Prop
  | .issued userId' channel' _ _ => userId' = userId ∧ channel' = channel
  | .entered .. => False

/-- A code of a user on a channel is accepted. -/
def AcceptedFor (userId : Id) (channel : MfaChallengeChannel) : ChallengeEvent → Prop
  | .issued .. => False
  | .entered userId' channel' _ _ accepted => userId' = userId ∧ channel' = channel ∧ accepted

/-- A code other than the one issued is entered for a user on a channel, before it expires. -/
def WrongFor (userId : Id) (channel : MfaChallengeChannel) (code : String) (expiresAt : ℕ) :
    ChallengeEvent → Prop
  | .issued .. => False
  | .entered userId' channel' code' now _ =>
    userId' = userId ∧ channel' = channel ∧ code' ≠ code ∧ now < expiresAt

instance (userId : Id) (channel : MfaChallengeChannel) (code : String) (expiresAt : ℕ) :
    DecidablePred (WrongFor userId channel code expiresAt)
  | .issued .. => inferInstanceAs (Decidable False)
  | .entered .. => inferInstanceAs (Decidable (_ ∧ _))

end ChallengeEvent

/-- A call of the protocol. -/
inductive ChallengeCall
  | create (now : ℕ) (entropy : Entropy) (userId : Id) (channel : MfaChallengeChannel)
  | verify (now : ℕ) (userId : Id) (channel : MfaChallengeChannel) (code : String)

/-- The accounts, and the history of the calls, the last first. -/
structure ChallengeLog where
  store : AuthStore
  history : List ChallengeEvent

/-- The event of a call that has led from one store to another. -/
def createEvent (code : String) (s s' : AuthStore) : List ChallengeEvent :=
  match s'.challenges.find? s.challenges.next with
  | some c => [.issued c.userId c.channel code c.expiresAt]
  | none => []

/-- One call. -/
def ChallengeCall.step (rt : Runtime) : ChallengeCall → ChallengeLog → ChallengeLog
  | .create now entropy userId channel, log =>
    let s' := (MfaService.createOutOfBandChallenge rt now entropy userId channel log.store).2
    ⟨s', createEvent entropy.numericCode log.store s' ++ log.history⟩
  | .verify now userId channel code, log =>
    let r := MfaService.verifyOutOfBandChallenge rt now userId channel code log.store
    let accepted := match r.1 with
      | .ok accepted => accepted
      | .error _ => false
    ⟨r.2, .entered userId channel code now accepted :: log.history⟩

/-- One call after another. -/
def ChallengeLog.run (rt : Runtime) (calls : List ChallengeCall) (log : ChallengeLog) :
    ChallengeLog :=
  calls.foldl (fun log call => call.step rt log) log

/-- At most one challenge of a user on a channel is not consumed. -/
def AtMostOneOpen (s : AuthStore) : Prop :=
  ∀ id c id' c', s.challenges.find? id = some c → s.challenges.find? id' = some c' →
    c.userId = c'.userId → c.channel = c'.channel → c.consumed = false → c'.consumed = false →
    id = id'

/-- Before the events `earlier`, last first, a code was issued for the user on the channel, none
since, and none was accepted since. -/
structure LastIssued (userId : Id) (channel : MfaChallengeChannel) (code : String)
    (expiresAt : ℕ) (since earlier : List ChallengeEvent) : Prop where
  split : ∃ older, earlier = since ++ .issued userId channel code expiresAt :: older
  no_issue : ∀ e ∈ since, ¬e.IssuedFor userId channel
  no_acceptance : ∀ e ∈ since, ¬e.AcceptedFor userId channel

/-- What may be accepted: the code issued last, not accepted since, before it expires, and while
fewer wrong codes have been entered for it than are allowed. -/
def MayAccept (userId : Id) (channel : MfaChallengeChannel) (code : String) (now : ℕ)
    (earlier : List ChallengeEvent) : Prop :=
  ∃ expiresAt since, LastIssued userId channel code expiresAt since earlier ∧ now < expiresAt ∧
    since.countP (fun e => decide (e.WrongFor userId channel code expiresAt)) < MFA_MAX_ATTEMPTS

/-- Every code that was accepted might be. -/
def AcceptedProperly (history : List ChallengeEvent) : Prop :=
  ∀ later userId channel code now earlier,
    history = later ++ .entered userId channel code now true :: earlier →
      MayAccept userId channel code now earlier

/-- An open challenge is the one issued last, and its attempts count the wrong codes since. -/
def Tracked (rt : Runtime) (history : List ChallengeEvent) (c : TwoFactorChallenge) : Prop :=
  ∃ code salt since, c.codeHash = rt.argonHash code salt ∧
    LastIssued c.userId c.channel code c.expiresAt since history ∧
    since.countP (fun e => decide (e.WrongFor c.userId c.channel code c.expiresAt)) ≤ c.attempts

/-- What every call keeps. -/
structure ProtocolKept (rt : Runtime) (log : ChallengeLog) : Prop where
  one_open : AtMostOneOpen log.store
  tracked : ∀ id c, log.store.challenges.find? id = some c → c.consumed = false →
    Tracked rt log.history c
  accepted : AcceptedProperly log.history

section

variable {rt : Runtime} {log : ChallengeLog} {c : TwoFactorChallenge}
  {history : List ChallengeEvent}

/-- An event that neither issues nor accepts a code of the challenge leaves it tracked, as long
as a wrong code is counted. -/
theorem Tracked.cons (h : Tracked rt history c) (attempts : ℕ) {e : ChallengeEvent}
    (hissue : ¬e.IssuedFor c.userId c.channel) (haccept : ¬e.AcceptedFor c.userId c.channel)
    (hwrong : c.attempts = attempts → ∀ code, ¬e.WrongFor c.userId c.channel code c.expiresAt)
    (hcount : attempts = c.attempts ∨ attempts = c.attempts + 1) :
    Tracked rt (e :: history) { c with attempts } := by
  obtain ⟨code, salt, since, hhash, ⟨⟨older, rfl⟩, hno, hnone⟩, hle⟩ := h
  refine ⟨code, salt, e :: since, hhash, ⟨⟨older, rfl⟩, ?_, ?_⟩, ?_⟩
  · exact List.forall_mem_cons.mpr ⟨hissue, hno⟩
  · exact List.forall_mem_cons.mpr ⟨haccept, hnone⟩
  · dsimp only
    rw [List.countP_cons]
    rcases hcount with heq | heq
    · have hnot := hwrong heq.symm code
      rw [if_neg (by simpa using hnot), Nat.add_zero, heq]
      exact hle
    · rw [heq]
      split <;> omega

/-- An accepted history grows by an event that is no acceptance, or a proper one. -/
theorem AcceptedProperly.cons {e : ChallengeEvent} (h : AcceptedProperly history)
    (he : ∀ userId channel code now, e = .entered userId channel code now true →
      MayAccept userId channel code now history) : AcceptedProperly (e :: history) := by
  intro later userId channel code now earlier heq
  cases later with
  | nil =>
    obtain ⟨rfl, rfl⟩ := List.cons.inj heq
    exact he userId channel code now rfl
  | cons e' later =>
    obtain ⟨_, hrest⟩ := List.cons.inj heq
    exact h later userId channel code now earlier hrest

variable (rt) in
/-- A call that issues a code, or changes nothing. -/
theorem createOutOfBandChallenge_cases (now : ℕ) (entropy : Entropy) (userId : Id)
    (channel : MfaChallengeChannel) (s : AuthStore) :
    (MfaService.createOutOfBandChallenge rt now entropy userId channel s).2 = s ∨
      (MfaService.createOutOfBandChallenge rt now entropy userId channel s).2 =
        MfaService.issueChallenge now userId channel
          (rt.argonHash entropy.numericCode (entropy.salt 0)) s := by
  rw [MfaService.createOutOfBandChallenge]
  split
  · exact .inl rfl
  · unfold Handler.atomically transaction
    dsimp only
    split
    · next heq =>
      split at heq
      · cases heq
      · cases heq
        exact .inr rfl
    · exact .inl rfl

/-- What is open once a code is issued: what was open for others, and the new challenge. -/
theorem open_issueChallenge {now userId id : ℕ} {channel : MfaChallengeChannel}
    {codeHash : String} {s : AuthStore}
    (hc : (MfaService.issueChallenge now userId channel codeHash s).challenges.find? id = some c)
    (hopen : c.consumed = false) :
    (s.challenges.find? id = some c ∧ ¬(c.userId = userId ∧ c.channel = channel)) ∨
      (id = s.challenges.next ∧ c.userId = userId ∧ c.channel = channel ∧
        c.codeHash = codeHash ∧ c.expiresAt = addMinutes now MFA_OOB_CODE_TTL_MINUTES) := by
  rcases Serial.find?_create_cases hc with hold | ⟨hid, rfl⟩
  · rw [Serial.toTable_modifyWhere, Table.find?_modifyWhere] at hold
    obtain ⟨c₀, hc₀, hcase⟩ := Option.map_eq_some_iff.mp hold
    split at hcase
    · subst hcase
      cases hopen
    · next hnot =>
      subst hcase
      refine .inl ⟨hc₀, fun hsame => hnot ?_⟩
      exact decide_eq_true ⟨hsame.1, hsame.2, hopen⟩
  · exact .inr ⟨hid, rfl, rfl, rfl, rfl⟩

theorem ProtocolKept.create (h : ProtocolKept rt log) (now : ℕ) (entropy : Entropy) (userId : Id)
    (channel : MfaChallengeChannel) :
    ProtocolKept rt ((ChallengeCall.create now entropy userId channel).step rt log) := by
  unfold ChallengeCall.step
  dsimp only
  rcases createOutOfBandChallenge_cases rt now entropy userId channel log.store with heq | heq
  · rw [heq, createEvent, log.store.challenges.find?_next]
    exact h
  · rw [heq]
    have hevent : createEvent entropy.numericCode log.store (MfaService.issueChallenge now userId
        channel (rt.argonHash entropy.numericCode (entropy.salt 0)) log.store) =
          [.issued userId channel entropy.numericCode
            (addMinutes now MFA_OOB_CODE_TTL_MINUTES)] := by
      have hnew := Serial.find?_create (t := log.store.challenges.modifyWhere
        (fun _ c => c.userId = userId ∧ c.channel = channel ∧ c.consumed = false)
        (fun c => { c with consumed := true, consumedAt := some now }))
        (k := log.store.challenges.next)
      rw [createEvent, MfaService.issueChallenge, hnew]
      exact if_pos rfl ▸ rfl
    rw [hevent]
    refine ⟨?_, ?_, ?_⟩
    · intro id c id' c' hc hc' huser hchannel hopen hopen'
      -- An open challenge is an old one of another user or channel, or the new one.
      rcases open_issueChallenge hc hopen with ⟨hold, hother⟩ | ⟨hid, hu, hch, _⟩
      · rcases open_issueChallenge hc' hopen' with ⟨hold', _⟩ | ⟨_, hu', hch', _⟩
        · exact h.one_open id c id' c' hold hold' huser hchannel hopen hopen'
        · exact absurd ⟨huser.trans hu', hchannel.trans hch'⟩ hother
      · rcases open_issueChallenge hc' hopen' with ⟨_, hother'⟩ | ⟨hid', _⟩
        · exact absurd ⟨huser.symm.trans hu, hchannel.symm.trans hch⟩ hother'
        · exact hid.trans hid'.symm
    · intro id c hc hopen
      rcases open_issueChallenge hc hopen with ⟨hold, hother⟩ | ⟨_, hu, hch, hhash, hexpires⟩
      · refine (h.tracked id c hold hopen).cons c.attempts ?_ (fun h => h) ?_ (.inl rfl)
        · exact fun hsame => hother ⟨hsame.1.symm, hsame.2.symm⟩
        · exact fun _ _ h => h
      · refine ⟨entropy.numericCode, entropy.salt 0, [], hhash, ⟨⟨log.history, ?_⟩, ?_, ?_⟩,
          Nat.zero_le _⟩
        · rw [hu, hch, hexpires]
          rfl
        · exact fun e he => absurd he (List.not_mem_nil)
        · exact fun e he => absurd he (List.not_mem_nil)
    · exact h.accepted.cons fun _ _ _ _ he => by cases he

/-- A challenge that stays open when another row is written keeps what is known of it. -/
theorem ProtocolKept.modify (h : ProtocolKept rt log) {id : Id} {c₀ : TwoFactorChallenge}
    (hc₀ : log.store.challenges.find? id = some c₀) (hopen₀ : c₀.consumed = false)
    {f : TwoFactorChallenge → TwoFactorChallenge}
    (hf : ∀ c, (f c).userId = c.userId ∧ (f c).channel = c.channel ∧
      ((f c).consumed = false → c.consumed = false)) {e : ChallengeEvent}
    (hself : (f c₀).consumed = false → Tracked rt (e :: log.history) (f c₀))
    (hother : ∀ c : TwoFactorChallenge, ¬(c.userId = c₀.userId ∧ c.channel = c₀.channel) →
      ¬e.IssuedFor c.userId c.channel ∧ ¬e.AcceptedFor c.userId c.channel ∧
        ∀ code, ¬e.WrongFor c.userId c.channel code c.expiresAt)
    (haccept : ∀ userId channel code now, e = .entered userId channel code now true →
      MayAccept userId channel code now log.history) :
    ProtocolKept rt ⟨log.store.modifyChallenge id f, e :: log.history⟩ := by
  -- an open row after the write was an open row of the same user and channel
  have hback : ∀ k c, (log.store.modifyChallenge id f).challenges.find? k = some c →
      c.consumed = false → ∃ r, log.store.challenges.find? k = some r ∧ r.consumed = false ∧
        r.userId = c.userId ∧ r.channel = c.channel ∧
        ((k ≠ id ∧ c = r) ∨ (k = id ∧ c = f r)) := by
    intro k c hc hopen
    rcases Table.find?_modify_cases hc with ⟨hk, hold⟩ | ⟨hk, r, hr, rfl⟩
    · exact ⟨c, hold, hopen, rfl, rfl, .inl ⟨hk, rfl⟩⟩
    · obtain ⟨huser, hchannel, hconsumed⟩ := hf r
      exact ⟨r, hr, hconsumed hopen, huser.symm, hchannel.symm, .inr ⟨hk, rfl⟩⟩
  refine ⟨?_, ?_, h.accepted.cons haccept⟩
  · intro k c k' c' hc hc' huser hchannel hopen hopen'
    obtain ⟨r, hr, hro, hru, hrch, _⟩ := hback k c hc hopen
    obtain ⟨r', hr', hro', hru', hrch', _⟩ := hback k' c' hc' hopen'
    exact h.one_open k r k' r' hr hr' (hru.trans (huser.trans hru'.symm))
      (hrch.trans (hchannel.trans hrch'.symm)) hro hro'
  · intro k c hc hopen
    obtain ⟨r, hr, hro, hru, hrch, ⟨hk, rfl⟩ | ⟨hk, rfl⟩⟩ := hback k c hc hopen
    · have hne : ¬(c.userId = c₀.userId ∧ c.channel = c₀.channel) := fun hsame =>
        hk (h.one_open k c id c₀ hr hc₀ hsame.1 hsame.2 hro hopen₀)
      obtain ⟨hissue, haccepted, hwrong⟩ := hother c hne
      exact (h.tracked k c hr hro).cons c.attempts hissue haccepted (fun _ => hwrong) (.inl rfl)
    · rw [hk, hc₀] at hr
      obtain rfl := Option.some.inj hr
      exact hself hopen

/-- The code of an open challenge that the check finds right may be accepted. -/
theorem Tracked.mayAccept (hexact : ∀ code salt code', rt.argonVerify (rt.argonHash code salt)
      code' = true ↔ code' = code) {code : String} {now : ℕ} (h : Tracked rt history c)
    (hverify : rt.argonVerify c.codeHash code = true) (hexpires : now < c.expiresAt)
    (hattempts : c.attempts < MFA_MAX_ATTEMPTS) :
    MayAccept c.userId c.channel code now history := by
  obtain ⟨issued, salt, since, hhash, hlast, hle⟩ := h
  rw [hhash] at hverify
  obtain rfl := (hexact issued salt code).mp hverify
  exact ⟨c.expiresAt, since, hlast, hexpires, Nat.lt_of_le_of_lt hle hattempts⟩

theorem ProtocolKept.verify (hexact : ∀ code salt code', rt.argonVerify (rt.argonHash code salt)
      code' = true ↔ code' = code) (h : ProtocolKept rt log) (now userId : ℕ)
    (channel : MfaChallengeChannel) (code : String) :
    ProtocolKept rt ((ChallengeCall.verify now userId channel code).step rt log) := by
  have happly : MfaService.verifyOutOfBandChallenge rt now userId channel code log.store =
      MfaService.settleChallenge now
        (MfaService.checkChallenge rt now userId channel code log.store) log.store := rfl
  have hcons : ∀ {f : TwoFactorChallenge → TwoFactorChallenge} {id : Id} {c : TwoFactorChallenge}
      (b : Bool), log.store.challenges.find? id = some c →
      ((do UsersService.updateChallenge id f; return b) : AuthHandler Bool) log.store =
        (.ok b, log.store.modifyChallenge id f) := by
    intro f id c b hc
    simp only [bind, UsersService.updateChallenge_apply hc]
    rfl
  unfold ChallengeCall.step
  dsimp only
  rw [happly]
  obtain ⟨habsent, hnone⟩ | ⟨id, c, hc, huser, hchannel, hopen, hexpires, hcheck⟩ :=
    MfaService.checkChallenge_cases rt now userId channel code log.store
  · rw [habsent]
    refine ⟨h.one_open, fun id c hc hopen => ?_, h.accepted.cons fun _ _ _ _ he => by cases he⟩
    refine (h.tracked id c hc hopen).cons c.attempts (fun h => h) ?_ ?_ (.inl rfl)
    · rintro ⟨_, _, haccepted⟩
      cases haccepted
    · rintro _ _ ⟨hu, hch, _, hlt⟩
      exact absurd (hnone id c hc hu.symm hch.symm hopen) (Nat.not_le_of_lt hlt)
  -- a code that is entered is an event of no other user and channel
  · have hother : ∀ b (c' : TwoFactorChallenge), ¬(c'.userId = c.userId ∧ c'.channel = c.channel) →
        ¬(ChallengeEvent.entered userId channel code now b).IssuedFor c'.userId c'.channel ∧
        ¬(ChallengeEvent.entered userId channel code now b).AcceptedFor c'.userId c'.channel ∧
        ∀ code', ¬(ChallengeEvent.entered userId channel code now b).WrongFor c'.userId c'.channel
          code' c'.expiresAt := by
      intro b c' hne
      have hnot : ¬(userId = c'.userId ∧ channel = c'.channel) := fun hsame =>
        hne ⟨hsame.1.symm.trans huser.symm, hsame.2.symm.trans hchannel.symm⟩
      exact ⟨fun h => h, fun hsame => hnot ⟨hsame.1, hsame.2.1⟩,
        fun _ hsame => hnot ⟨hsame.1, hsame.2.1⟩⟩
    rcases hcheck with ⟨hspent, _⟩ | ⟨hwrong, hverify⟩ | ⟨hright, hattempts, hverify⟩
    · rw [hspent, MfaService.settleChallenge, UsersService.consumeChallenge, hcons false hc]
      refine h.modify hc hopen ?_ ?_ (hother false) ?_
      · exact fun _ => ⟨rfl, rfl, fun hconsumed => by cases hconsumed⟩
      · intro hconsumed
        cases hconsumed
      · intro _ _ _ _ he
        cases he
    · rw [hwrong, MfaService.settleChallenge, UsersService.incrementChallengeAttempt,
        hcons false hc]
      refine h.modify hc hopen ?_ ?_ (hother false) ?_
      · exact fun _ => ⟨rfl, rfl, fun hconsumed => hconsumed⟩
      · intro _
        refine (h.tracked id c hc hopen).cons (c.attempts + 1) (fun h => h) ?_ ?_ (.inr rfl)
        · rintro ⟨_, _, haccepted⟩
          cases haccepted
        · intro heq
          omega
      · intro _ _ _ _ he
        cases he
    · rw [hright, MfaService.settleChallenge, UsersService.consumeChallenge, hcons true hc]
      refine h.modify hc hopen ?_ ?_ (hother true) ?_
      · exact fun _ => ⟨rfl, rfl, fun hconsumed => by cases hconsumed⟩
      · intro hconsumed
        cases hconsumed
      · intro _ _ _ _ he
        cases he
        have hmay := (h.tracked id c hc hopen).mayAccept hexact hverify hexpires hattempts
        rwa [huser, hchannel] at hmay

end

/-- In every run of issued and entered codes, whatever the users, channels and times: at most one
challenge of a user is open on a channel, and every code accepted was the one issued last, had
not been accepted before, had not expired and had not met its last permitted wrong code. -/
theorem challenges_follow_protocol {rt : Runtime}
    (hexact : ∀ code salt code', rt.argonVerify (rt.argonHash code salt) code' = true ↔
      code' = code) {s : AuthStore} (hs : s.challenges = Serial.empty)
    (calls : List ChallengeCall) :
    AtMostOneOpen (ChallengeLog.run rt calls ⟨s, []⟩).store ∧
      AcceptedProperly (ChallengeLog.run rt calls ⟨s, []⟩).history := by
  have hstart : ProtocolKept rt ⟨s, []⟩ := by
    refine ⟨fun id c id' c' hc => ?_, fun id c hc => ?_, fun later _ _ _ _ _ heq => ?_⟩
    · dsimp only at hc
      rw [hs] at hc
      cases hc
    · dsimp only at hc
      rw [hs] at hc
      cases hc
    · cases later <;> cases heq
  have hrun : ∀ (calls : List ChallengeCall) (log : ChallengeLog), ProtocolKept rt log →
      ProtocolKept rt (ChallengeLog.run rt calls log) := by
    intro calls
    induction calls with
    | nil => exact fun log h => h
    | cons call rest ih =>
      intro log h
      refine ih _ ?_
      cases call with
      | create now entropy userId channel => exact h.create now entropy userId channel
      | verify now userId channel code => exact h.verify hexact now userId channel code
  have h := hrun calls ⟨s, []⟩ hstart
  exact ⟨h.one_open, h.accepted⟩

/-- A code is issued, a wrong one entered, and the right one. -/
def guessThenCode : List ChallengeCall :=
  [.create 0 ⟨"", "123456", fun _ => "", "", fun _ => 0⟩ 0 .email, .verify 1 0 .email "000000",
    .verify 2 0 .email "123456"]

theorem challenges_follow_protocol_guessThenCode :
    AtMostOneOpen (ChallengeLog.run .plain guessThenCode ⟨.withUser secured, []⟩).store ∧
      AcceptedProperly (ChallengeLog.run .plain guessThenCode ⟨.withUser secured, []⟩).history :=
  challenges_follow_protocol (fun code _ code' => by simp [Runtime.plain, eq_comm]) rfl
    guessThenCode

/-- The right code is accepted. -/
example : (ChallengeLog.run .plain guessThenCode ⟨.withUser secured, []⟩).history.head? =
    some (.entered 0 .email "123456" 2 true) := by
  decide +kernel

end Invetrixa
