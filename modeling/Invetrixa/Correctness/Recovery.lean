import Invetrixa.Correctness.Credentials
import Invetrixa.Library.Vouchers

/-!
# The protocol of mailed tokens

Accounts are registered, tokens are mailed and presented, and users sign in, in any order. The
history of a run says which tokens were issued to whom and which were accepted, and with which
passwords; the store agrees with it, whatever else is served in between.

## Main definitions

- `AccountLog`, `AccountLog.serve` — the accounts, with what the users have seen
- `Recoverable.Change` — the writes to the credentials, each with what is seen of it
- `RecoveryKept` — the store agrees with the history

## Main results

- `RecoveryKept.change` — every write keeps the store and the history together
-/

namespace Invetrixa

open Rowstore Requests

/-- For whom a token is, and what for. -/
def VerificationToken.key (r : VerificationToken) : Id × VerificationTokenType := (r.userId, r.type)

/-- A token as its holder sees it. -/
def VerificationToken.voucher (r : VerificationToken) : Vouchers.Voucher String :=
  ⟨r.token, r.expiresAt⟩

/-- A token is issued or accepted. -/
abbrev TokenEvent := Vouchers.Event (Id × VerificationTokenType) String

/-- The accounts, the tokens issued and accepted so far, and the passwords chosen for accounts, the
last first. -/
structure AccountLog where
  store : AuthStore
  history : List TokenEvent
  chosen : List (Id × String)

/-- The token that a request has added. -/
def issuedEvents (s s' : AuthStore) : List TokenEvent :=
  match s'.verificationTokens.find? s.verificationTokens.next with
  | some r => [.issued r.key r.voucher]
  | none => []

namespace AccountRequest

/-- The token of a request that presents one. -/
def token : AccountRequest → Option String
  | .verifyEmail token => some token
  | .confirmPasswordReset token _ => some token
  | _ => none

/-- The tokens that an answer accepts. -/
def acceptedEvents {α : Type} (request : AccountRequest) : Except HttpError α → List TokenEvent
  | .ok _ => (request.token.map Vouchers.Event.accepted).toList
  | .error _ => []

/-- The password that a request has set for an account. -/
def chosenPasswords {α : Type} (s s' : AuthStore) : AccountRequest → Except HttpError α →
    List (Id × String)
  | .register dto, _ =>
    if s.users.next < s'.users.next then [(s.users.next, dto.password)] else []
  | .confirmPasswordReset token password, .ok _ =>
    ((s.verificationTokens.rows.find? fun r => r.2.token = token).map fun r =>
      (r.2.userId, password)).toList
  | _, _ => []

end AccountRequest

namespace AccountLog

/-- One request. -/
def serve (rt : Runtime) (log : AccountLog) (call : AccountCall) : AccountLog :=
  let (answer, s') := AccountController.handle rt call log.store
  ⟨s', issuedEvents log.store s' ++ call.request.acceptedEvents answer ++ log.history,
    call.request.chosenPasswords log.store s' answer ++ log.chosen⟩

/-- Requests one after another, from the first registration on. -/
def run (rt : Runtime) (calls : List AccountCall) : AccountLog :=
  calls.foldl (serve rt) ⟨AuthStore.empty, [], []⟩

end AccountLog

/-- A write to the credentials, with what is seen of it. -/
inductive Recoverable.Change (rt : Runtime) (c : Recoverable) :
    List TokenEvent → List (Id × String) → Recoverable → Prop
  | created (email password : String) (salt : ℕ) (hfresh : ∀ id a, c.users.find? id = some a →
      a.email ≠ email) : Change rt c [] [(c.users.next, password)]
        { c with
          users := c.users.create ⟨email, rt.argonHash password salt, none, true, 0⟩
          passwordHistory := c.passwordHistory.create
            ⟨c.users.next, rt.argonHash password salt⟩ }
  | issued (now userId : ℕ) (type : VerificationTokenType) (token : String) (expiresAt : ℕ)
      (hfresh : ∀ id r, c.verificationTokens.find? id = some r → r.token ≠ token)
      (huser : (c.users.find? userId).isSome) :
      Change rt c [.issued (userId, type) ⟨token, expiresAt⟩] []
        { c with
          verificationTokens := (c.verificationTokens.modifyWhere
            (fun _ r => r.userId = userId ∧ r.type = type ∧ r.used = false)
            (fun r => { r with used := true, usedAt := some now })).create
              { userId, token, type, expiresAt, used := false, usedAt := none } }
  | verified (now id : ℕ) (r : VerificationToken) (hfind : c.verificationTokens.find? id = some r)
      (hused : r.used = false) (htype : r.type = .emailVerification) :
      Change rt c [.accepted r.token] []
        { c with
          users := c.users.modify r.userId fun a => { a with emailVerified := some now }
          verificationTokens := c.verificationTokens.modify id fun r =>
            { r with used := true, usedAt := some now } }
  | reset (now id : ℕ) (r : VerificationToken) (password : String) (salt : ℕ)
      (hfind : c.verificationTokens.find? id = some r) (hused : r.used = false)
      (htype : r.type = .passwordReset) :
      Change rt c [.accepted r.token] [(r.userId, password)]
        { users := c.users.modify r.userId fun a =>
            { a with
              password := rt.argonHash password salt
              sessionVersion := a.sessionVersion + 1 }
          verificationTokens := c.verificationTokens.modify id fun r =>
            { r with used := true, usedAt := some now }
          passwordHistory := c.passwordHistory.create
            ⟨r.userId, rt.argonHash password salt⟩ }

/-- Writes one after another, with all that is seen of them. -/
inductive Recoverable.Changes (rt : Runtime) :
    Recoverable → List TokenEvent → List (Id × String) → Recoverable → Prop
  | refl (c : Recoverable) : Changes rt c [] [] c
  | tail {c c' c'' : Recoverable} {events events' : List TokenEvent}
      {chosen chosen' : List (Id × String)} (h : Changes rt c events chosen c')
      (h' : Recoverable.Change rt c' events' chosen' c'') :
      Changes rt c (events' ++ events) (chosen' ++ chosen) c''

/-- The tokens agree with a history: no two have the same text, and the unused ones are those that
the history leaves good. -/
structure TokensKept (tokens : Serial VerificationToken) (history : List TokenEvent) : Prop where
  unique : ∀ id r id' r', tokens.find? id = some r → tokens.find? id' = some r' →
    r.token = r'.token → id = id'
  good : ∀ k v, Vouchers.book history k = some v ↔
    ∃ id r, tokens.find? id = some r ∧ r.used = false ∧ r.key = k ∧ r.voucher = v

/-- An account agrees with the history: it is verified if a token for that was accepted, its
version counts the resets that were, and its password is the last that was chosen. -/
structure AccountKept (rt : Runtime) (history : List TokenEvent) (chosen : List (Id × String))
    (id : Id) (a : Credentials) : Prop where
  verified : a.emailVerified.isSome ↔ 0 < Vouchers.redeemed (id, .emailVerification) history
  version : a.sessionVersion = Vouchers.redeemed (id, .passwordReset) history
  choices : chosen.countP (fun p => p.1 = id) = a.sessionVersion + 1
  password : ∃ password salt, chosen.find? (fun p => p.1 = id) = some (id, password) ∧
    a.password = rt.argonHash password salt

/-- What the credentials and the history have in common. -/
structure RecoveryKept (rt : Runtime) (c : Recoverable) (history : List TokenEvent)
    (chosen : List (Id × String)) : Prop where
  tokens : TokensKept c.verificationTokens history
  owned : ∀ id r, c.verificationTokens.find? id = some r → (c.users.find? r.userId).isSome
  addresses : ∀ id a id' a', c.users.find? id = some a → c.users.find? id' = some a' →
    a.email = a'.email → id = id'
  accounts : ∀ id a, c.users.find? id = some a → AccountKept rt history chosen id a
  absent : ∀ id, c.users.find? id = none →
    (∀ type, Vouchers.redeemed (id, type) history = 0) ∧ chosen.countP (fun p => p.1 = id) = 0
  hashed : List.Forall₂ (fun r p => r.2.userId = p.1 ∧ ∃ salt, r.2.password = rt.argonHash p.2 salt)
    c.passwordHistory.rows chosen.reverse

section Tokens

variable {tokens : Serial VerificationToken} {history : List TokenEvent}

theorem TokensKept.empty : TokensKept Serial.empty [] where
  unique := fun _ _ _ _ h => by cases h
  good k v := by
    constructor
    · intro h
      cases h
    · rintro ⟨id, r, hfind, _⟩
      cases hfind

/-- A new token takes the place of the unused one of its user and type. -/
theorem TokensKept.issue (h : TokensKept tokens history) (now userId : ℕ)
    (type : VerificationTokenType) {token : String} (expiresAt : ℕ)
    (hfresh : ∀ id r, tokens.find? id = some r → r.token ≠ token) :
    TokensKept ((tokens.modifyWhere
        (fun _ r => r.userId = userId ∧ r.type = type ∧ r.used = false)
        (fun r => { r with used := true, usedAt := some now })).create
          { userId, token, type, expiresAt, used := false, usedAt := none })
      (.issued (userId, type) ⟨token, expiresAt⟩ :: history) := by
  have hold : ∀ id r, (tokens.modifyWhere
      (fun _ r => r.userId = userId ∧ r.type = type ∧ r.used = false)
      (fun r => { r with used := true, usedAt := some now })).find? id = some r →
      ∃ r₀, tokens.find? id = some r₀ ∧ r.token = r₀.token ∧ r.key = r₀.key ∧
        r.voucher = r₀.voucher ∧ (r.used = false → r₀.used = false ∧ r = r₀ ∧
          r₀.key ≠ (userId, type)) := by
    intro id r hr
    rw [Serial.toTable_modifyWhere, Table.find?_modifyWhere, Option.map_eq_some_iff] at hr
    obtain ⟨r₀, hr₀, rfl⟩ := hr
    refine ⟨r₀, hr₀, ?_⟩
    by_cases hp : r₀.userId = userId ∧ r₀.type = type ∧ r₀.used = false
    · simp [hp, VerificationToken.key, VerificationToken.voucher]
    · simp only [hp, decide_false, Bool.false_eq_true, if_false, true_and]
      intro hused
      refine ⟨hused, fun hkey => hp ?_⟩
      obtain ⟨huser, htype⟩ := Prod.mk.inj hkey
      exact ⟨huser, htype, hused⟩
  refine ⟨fun id r id' r' hr hr' htoken => ?_, fun k v => ?_⟩
  · obtain hr | ⟨rfl, rfl⟩ := Serial.find?_create_cases hr <;>
      obtain hr' | ⟨rfl, rfl⟩ := Serial.find?_create_cases hr'
    · obtain ⟨r₀, hr₀, hsame, _⟩ := hold id r hr
      obtain ⟨r₁, hr₁, hsame', _⟩ := hold id' r' hr'
      exact h.unique id r₀ id' r₁ hr₀ hr₁ (hsame.symm.trans (htoken.trans hsame'))
    · obtain ⟨r₀, hr₀, hsame, _⟩ := hold id r hr
      exact absurd (hsame.symm.trans htoken) (hfresh id r₀ hr₀)
    · obtain ⟨r₀, hr₀, hsame, _⟩ := hold id' r' hr'
      exact absurd (hsame.symm.trans htoken.symm) (hfresh id' r₀ hr₀)
    · rfl
  · rw [Vouchers.book, Vouchers.apply_eq_some_iff, h.good]
    constructor
    · rintro (hnew | ⟨⟨id, r, hfind, hused, hkey, hvoucher⟩, hspares⟩)
      · obtain ⟨rfl, rfl⟩ := Vouchers.Event.issued.inj hnew
        have hcreated := Serial.find?_create (t := tokens.modifyWhere
          (fun _ r => r.userId = userId ∧ r.type = type ∧ r.used = false)
          (fun r => { r with used := true, usedAt := some now })) (k := tokens.next)
          { userId, token, type, expiresAt, used := false, usedAt := none }
        exact ⟨tokens.next, _, hcreated.trans (if_pos rfl), rfl, rfl, rfl⟩
      · refine ⟨id, r, ?_, hused, hkey, hvoucher⟩
        apply Serial.find?_create_of_some
        rw [Serial.toTable_modifyWhere, Table.find?_modifyWhere, hfind, Option.map_some, if_neg]
        intro hp
        obtain ⟨huser, htype, _⟩ := of_decide_eq_true hp
        apply hspares
        rw [← hkey, VerificationToken.key, huser, htype]
    · rintro ⟨id, r, hfind, hused, hkey, hvoucher⟩
      obtain hfind | ⟨rfl, rfl⟩ := Serial.find?_create_cases hfind
      · obtain ⟨r₀, hr₀, _, _, _, hunused⟩ := hold id r hfind
        obtain ⟨hused₀, rfl, hne⟩ := hunused hused
        exact .inr ⟨⟨id, r, hr₀, hused, hkey, hvoucher⟩, fun heq => hne (hkey.trans heq.symm)⟩
      · left
        rw [← hkey, ← hvoucher]
        rfl

variable {id : Id} {r : VerificationToken}

/-- The key of an unused token is the only one for which its text is good. -/
theorem TokensKept.book_any_iff (h : TokensKept tokens history) (hfind : tokens.find? id = some r)
    (hused : r.used = false) (k : Id × VerificationTokenType) :
    ((Vouchers.book history k).any fun v => v.text = r.token) = true ↔ k = r.key := by
  rw [Option.any_eq_true]
  constructor
  · rintro ⟨v, hv, htext⟩
    obtain ⟨id', r', hfind', _, hkey, hvoucher⟩ := (h.good k v).mp hv
    have htoken : r'.token = r.token := by
      rw [← of_decide_eq_true htext, ← hvoucher]
      rfl
    obtain rfl := h.unique id' r' id r hfind' hfind htoken
    rw [hfind] at hfind'
    rw [← hkey, Option.some.inj hfind']
  · rintro rfl
    refine ⟨r.voucher, (h.good _ _).mpr ⟨id, r, hfind, hused, rfl, rfl⟩, ?_⟩
    exact decide_eq_true rfl

/-- A token that is accepted is not good any more. -/
theorem TokensKept.accept (h : TokensKept tokens history) (now : ℕ)
    (hfind : tokens.find? id = some r) :
    TokensKept (tokens.modify id fun r => { r with used := true, usedAt := some now })
      (.accepted r.token :: history) := by
  have hold : ∀ id' r', (tokens.modify id fun r =>
      { r with used := true, usedAt := some now }).find? id' = some r' →
      ∃ r₀, tokens.find? id' = some r₀ ∧ r'.token = r₀.token ∧
        (r'.used = false → r' = r₀ ∧ id' ≠ id) := by
    intro id' r' hr'
    rw [Serial.toTable_modify, Table.find?_modify] at hr'
    by_cases hid : id' = id
    · rw [if_pos hid, Option.map_eq_some_iff] at hr'
      obtain ⟨r₀, hr₀, rfl⟩ := hr'
      exact ⟨r₀, hr₀, rfl, fun hused => by cases hused⟩
    · rw [if_neg hid] at hr'
      exact ⟨r', hr', rfl, fun _ => ⟨rfl, hid⟩⟩
  refine ⟨fun id₁ r₁ id₂ r₂ hr₁ hr₂ htoken => ?_, fun k v => ?_⟩
  · obtain ⟨r₁', hr₁', hsame₁, _⟩ := hold id₁ r₁ hr₁
    obtain ⟨r₂', hr₂', hsame₂, _⟩ := hold id₂ r₂ hr₂
    exact h.unique id₁ r₁' id₂ r₂' hr₁' hr₂' (hsame₁.symm.trans (htoken.trans hsame₂))
  · rw [Vouchers.book, Vouchers.apply_eq_some_iff, h.good]
    constructor
    · rintro (hissued | ⟨⟨id', r', hfind', hused, hkey, hvoucher⟩, hspares⟩)
      · cases hissued
      · refine ⟨id', r', ?_, hused, hkey, hvoucher⟩
        rw [Serial.toTable_modify, Table.find?_modify, if_neg, hfind']
        rintro rfl
        rw [hfind] at hfind'
        apply hspares
        rw [← hvoucher, Option.some.inj hfind']
        rfl
    · rintro ⟨id', r', hfind', hused, hkey, hvoucher⟩
      obtain ⟨r₀, hr₀, _, hunused⟩ := hold id' r' hfind'
      obtain ⟨rfl, hne⟩ := hunused hused
      refine .inr ⟨⟨id', r', hr₀, hused, hkey, hvoucher⟩, fun htext => hne ?_⟩
      refine h.unique id' r' id r hr₀ hfind ?_
      rw [htext, ← hvoucher]
      rfl

/-- An acceptance counts for the key of its token. -/
theorem TokensKept.redeemed_accept (h : TokensKept tokens history)
    (hfind : tokens.find? id = some r) (hused : r.used = false) (k : Id × VerificationTokenType) :
    Vouchers.redeemed k (.accepted r.token :: history) =
      Vouchers.redeemed k history + if k = r.key then 1 else 0 := by
  simp only [Vouchers.redeemed, h.book_any_iff hfind hused]

end Tokens

section Changes

variable {rt : Runtime} {c c' : Recoverable} {history events : List TokenEvent}
  {chosen passwords : List (Id × String)} {id : Id} {a : Credentials}

/-- What is seen of other accounts leaves an account as it is. -/
theorem AccountKept.of_others (h : AccountKept rt history chosen id a)
    (events : List TokenEvent) (passwords : List (Id × String))
    (hredeemed : ∀ type, Vouchers.redeemed (id, type) (events ++ history) =
      Vouchers.redeemed (id, type) history) (hothers : ∀ p ∈ passwords, p.1 ≠ id) :
    AccountKept rt (events ++ history) (passwords ++ chosen) id a := by
  have hnone : passwords.find? (fun p => p.1 = id) = none := by
    apply List.find?_eq_none.mpr
    intro p hp
    simpa using hothers p hp
  have hcount : passwords.countP (fun p => p.1 = id) = 0 := by
    apply List.countP_eq_zero.mpr
    intro p hp
    simpa using hothers p hp
  obtain ⟨password, salt, hchosen, hhash⟩ := h.password
  refine ⟨?_, ?_, ?_, password, salt, ?_, hhash⟩
  · rw [hredeemed]
    exact h.verified
  · rw [hredeemed]
    exact h.version
  · rw [List.countP_append, hcount, Nat.zero_add]
    exact h.choices
  · rw [List.find?_append, hnone]
    exact hchosen

theorem RecoveryKept.created (h : RecoveryKept rt c history chosen) {email : String}
    (password : String) (salt : ℕ)
    (hfresh : ∀ id a, c.users.find? id = some a → a.email ≠ email) :
    RecoveryKept rt { c with
      users := c.users.create ⟨email, rt.argonHash password salt, none, true, 0⟩
      passwordHistory := c.passwordHistory.create ⟨c.users.next, rt.argonHash password salt⟩ }
      history ((c.users.next, password) :: chosen) := by
  have hnext : c.users.find? c.users.next = none := c.users.find?_next
  obtain ⟨hredeemed, hcount⟩ := h.absent c.users.next hnext
  refine ⟨h.tokens, fun id r hr => ?_, fun id a id' a' ha ha' hemail => ?_, fun id a ha => ?_,
    fun id hid => ?_, ?_⟩
  · obtain ⟨a, ha⟩ := Option.isSome_iff_exists.mp (h.owned id r hr)
    exact Option.isSome_iff_exists.mpr ⟨a, Serial.find?_create_of_some ha _⟩
  · obtain ha | ⟨rfl, rfl⟩ := Serial.find?_create_cases ha <;>
      obtain ha' | ⟨rfl, rfl⟩ := Serial.find?_create_cases ha'
    · exact h.addresses id a id' a' ha ha' hemail
    · exact absurd hemail (hfresh id a ha)
    · exact absurd hemail.symm (hfresh id' a' ha')
    · rfl
  · obtain ha | ⟨rfl, rfl⟩ := Serial.find?_create_cases ha
    · refine (h.accounts id a ha).of_others [] [_] (fun _ => rfl) ?_
      intro p hp
      obtain rfl := List.mem_singleton.mp hp
      rintro rfl
      rw [hnext] at ha
      cases ha
    · refine ⟨?_, (hredeemed _).symm, ?_, password, salt, ?_, rfl⟩
      · simp [hredeemed]
      · simp [hcount]
      · simp
  · rw [Serial.find?_create] at hid
    split at hid
    · cases hid
    · next hne =>
      obtain ⟨hzero, hnone⟩ := h.absent id hid
      exact ⟨hzero, by simp [hnone, Ne.symm hne]⟩
  · rw [List.reverse_cons]
    exact List.rel_append h.hashed (.cons ⟨rfl, salt, rfl⟩ .nil)

theorem RecoveryKept.issued (h : RecoveryKept rt c history chosen) (now : ℕ) {userId : ℕ}
    (type : VerificationTokenType) {token : String} (expiresAt : ℕ)
    (hfresh : ∀ id r, c.verificationTokens.find? id = some r → r.token ≠ token)
    (huser : (c.users.find? userId).isSome) :
    RecoveryKept rt { c with
      verificationTokens := (c.verificationTokens.modifyWhere
        (fun _ r => r.userId = userId ∧ r.type = type ∧ r.used = false)
        (fun r => { r with used := true, usedAt := some now })).create
          { userId, token, type, expiresAt, used := false, usedAt := none } }
      (.issued (userId, type) ⟨token, expiresAt⟩ :: history) chosen := by
  refine ⟨h.tokens.issue now userId type expiresAt hfresh, fun id r hr => ?_, h.addresses,
    fun id a ha => ?_, h.absent, h.hashed⟩
  · obtain hr | ⟨rfl, rfl⟩ := Serial.find?_create_cases hr
    · rw [Serial.toTable_modifyWhere, Table.find?_modifyWhere, Option.map_eq_some_iff] at hr
      obtain ⟨r₀, hr₀, rfl⟩ := hr
      have howner := h.owned id r₀ hr₀
      split <;> exact howner
    · exact huser
  · exact (h.accounts id a ha).of_others [_] [] (fun _ => rfl)
      (fun p hp => absurd hp List.not_mem_nil)

variable {r : VerificationToken}

/-- The owners of the tokens after one is marked and the row of a user is written. -/
theorem RecoveryKept.owned_accept (h : RecoveryKept rt c history chosen) (now id userId : ℕ)
    (f : Credentials → Credentials) (id' : ℕ) (r' : VerificationToken)
    (hr' : (c.verificationTokens.modify id fun r =>
      { r with used := true, usedAt := some now }).find? id' = some r') :
    ((c.users.modify userId f).find? r'.userId).isSome := by
  have howner : (c.users.find? r'.userId).isSome := by
    obtain ⟨_, hr₀⟩ | ⟨_, r₀, hr₀, rfl⟩ := Table.find?_modify_cases hr'
    · exact h.owned id' r' hr₀
    · exact h.owned id' r₀ hr₀
  rw [Serial.isSome_find?_modify]
  exact howner

/-- An accepted token changes nothing for those who are not its owner. -/
theorem RecoveryKept.absent_accept (h : RecoveryKept rt c history chosen)
    (passwords : List (Id × String)) (hfind : c.verificationTokens.find? id = some r)
    (hused : r.used = false) (hpasswords : ∀ p ∈ passwords, p.1 = r.userId)
    (f : Credentials → Credentials) (id' : ℕ)
    (hid' : (c.users.modify r.userId f).find? id' = none) :
    (∀ type, Vouchers.redeemed (id', type) (.accepted r.token :: history) = 0) ∧
      (passwords ++ chosen).countP (fun p => p.1 = id') = 0 := by
  have hnone : c.users.find? id' = none := by
    rw [Serial.toTable_modify, Table.find?_modify] at hid'
    split at hid'
    · exact Option.map_eq_none_iff.mp hid'
    · exact hid'
  have hne : id' ≠ r.userId := by
    rintro rfl
    have howner := h.owned id r hfind
    rw [hnone] at howner
    cases howner
  obtain ⟨hzero, hcount⟩ := h.absent id' hnone
  refine ⟨fun type => ?_, ?_⟩
  · rw [h.tokens.redeemed_accept hfind hused, hzero, if_neg]
    intro hkey
    exact hne (Prod.mk.inj hkey).1
  · rw [List.countP_append, hcount, Nat.add_zero, List.countP_eq_zero]
    intro p hp
    simpa [hpasswords p hp] using Ne.symm hne

/-- The addresses after the row of a user is written. -/
theorem RecoveryKept.addresses_modify (h : RecoveryKept rt c history chosen) (userId : ℕ)
    {f : Credentials → Credentials} (hf : ∀ a, (f a).email = a.email) (id : Id) (a : Credentials)
    (id' : Id) (a' : Credentials) (ha : (c.users.modify userId f).find? id = some a)
    (ha' : (c.users.modify userId f).find? id' = some a') (hemail : a.email = a'.email) :
    id = id' := by
  have hold : ∀ id a, (c.users.modify userId f).find? id = some a →
      ∃ a₀, c.users.find? id = some a₀ ∧ a.email = a₀.email := by
    intro id a ha
    obtain ⟨_, ha₀⟩ | ⟨_, a₀, ha₀, rfl⟩ := Table.find?_modify_cases ha
    · exact ⟨a, ha₀, rfl⟩
    · exact ⟨a₀, ha₀, hf a₀⟩
  obtain ⟨a₀, ha₀, hsame⟩ := hold id a ha
  obtain ⟨a₁, ha₁, hsame'⟩ := hold id' a' ha'
  exact h.addresses id a₀ id' a₁ ha₀ ha₁ (hsame.symm.trans (hemail.trans hsame'))

theorem RecoveryKept.verified (h : RecoveryKept rt c history chosen) (now : ℕ)
    (hfind : c.verificationTokens.find? id = some r) (hused : r.used = false)
    (htype : r.type = .emailVerification) :
    RecoveryKept rt { c with
      users := c.users.modify r.userId fun a => { a with emailVerified := some now }
      verificationTokens := c.verificationTokens.modify id fun r =>
        { r with used := true, usedAt := some now } }
      (.accepted r.token :: history) chosen := by
  have hredeemed := h.tokens.redeemed_accept hfind hused
  refine ⟨h.tokens.accept now hfind, h.owned_accept now id r.userId _,
    h.addresses_modify r.userId fun _ => rfl, fun id' a ha => ?_,
    h.absent_accept [] hfind hused (fun p hp => absurd hp List.not_mem_nil) _,
    h.hashed⟩
  obtain ⟨hne, ha⟩ | ⟨rfl, a₀, ha₀, rfl⟩ := Table.find?_modify_cases ha
  · refine (h.accounts id' a ha).of_others [_] [] (fun type => ?_)
      (fun p hp => absurd hp List.not_mem_nil)
    rw [List.singleton_append, hredeemed, if_neg, Nat.add_zero]
    intro hkey
    exact hne (Prod.mk.inj hkey).1
  · obtain ⟨_, hversion, hchoices, hpassword⟩ := h.accounts r.userId a₀ ha₀
    refine ⟨?_, ?_, hchoices, hpassword⟩
    · simp [hredeemed, VerificationToken.key, htype]
    · simp [hredeemed, VerificationToken.key, htype, hversion]

theorem RecoveryKept.reset (h : RecoveryKept rt c history chosen) (now : ℕ) (password : String)
    (salt : ℕ) (hfind : c.verificationTokens.find? id = some r) (hused : r.used = false)
    (htype : r.type = .passwordReset) :
    RecoveryKept rt
      { users := c.users.modify r.userId fun a =>
          { a with
            password := rt.argonHash password salt
            sessionVersion := a.sessionVersion + 1 }
        verificationTokens := c.verificationTokens.modify id fun r =>
          { r with used := true, usedAt := some now }
        passwordHistory := c.passwordHistory.create ⟨r.userId, rt.argonHash password salt⟩ }
      (.accepted r.token :: history) ((r.userId, password) :: chosen) := by
  have hredeemed := h.tokens.redeemed_accept hfind hused
  refine ⟨h.tokens.accept now hfind, h.owned_accept now id r.userId _,
    h.addresses_modify r.userId fun _ => rfl, fun id' a ha => ?_, ?_, ?_⟩
  · obtain ⟨hne, ha⟩ | ⟨rfl, a₀, ha₀, rfl⟩ := Table.find?_modify_cases ha
    · refine (h.accounts id' a ha).of_others [_] [_] (fun type => ?_) ?_
      · rw [List.singleton_append, hredeemed, if_neg, Nat.add_zero]
        intro hkey
        exact hne (Prod.mk.inj hkey).1
      · intro p hp
        obtain rfl := List.mem_singleton.mp hp
        exact Ne.symm hne
    · obtain ⟨hverified, hversion, hchoices, _⟩ := h.accounts r.userId a₀ ha₀
      refine ⟨?_, ?_, ?_, password, salt, ?_, rfl⟩
      · simp [hredeemed, VerificationToken.key, htype, hverified]
      · simp [hredeemed, VerificationToken.key, htype, hversion]
      · simp [hchoices]
      · simp
  · apply h.absent_accept [_] hfind hused
    intro p hp
    rw [List.mem_singleton.mp hp]
  · rw [List.reverse_cons]
    exact List.rel_append h.hashed (.cons ⟨rfl, salt, rfl⟩ .nil)

/-- Every write keeps the credentials and the history together. -/
theorem RecoveryKept.change (h : RecoveryKept rt c history chosen)
    (hchange : c.Change rt events passwords c') :
    RecoveryKept rt c' (events ++ history) (passwords ++ chosen) := by
  cases hchange with
  | created email password salt hfresh => exact h.created password salt hfresh
  | issued now userId type token expiresAt hfresh huser =>
    exact h.issued now type expiresAt hfresh huser
  | verified now id r hfind hused htype => exact h.verified now hfind hused htype
  | reset now id r password salt hfind hused htype =>
    exact h.reset now password salt hfind hused htype

theorem RecoveryKept.changes (h : RecoveryKept rt c history chosen)
    (hchanges : c.Changes rt events passwords c') :
    RecoveryKept rt c' (events ++ history) (passwords ++ chosen) := by
  induction hchanges with
  | refl => exact h
  | tail _ hchange ih =>
    rw [List.append_assoc, List.append_assoc]
    exact ih.change hchange

end Changes

end Invetrixa
