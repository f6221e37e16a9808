import Mathlib.Logic.Relation
import Mathlib.Data.List.Forall2

/-!
# Transactions, runs and interleavings

What a server does with a shared state: a transaction that rolls back when it fails, the states
a sequence of labelled steps can reach, and the interleavings of requests that first read and
later commit.

## Main definitions

- `transaction` — run a fallible function on the state, keeping the old state when it fails
- `Runs` — reachability by labelled steps that meet a condition
- `Runs.Always` — a property of every state along a list of steps
- `Runs.AllEnded` — what one step of a list begins, a later one ends
- `ReadCommit` — requests that read and check first and commit later
- `ReadCommit.Interleaved` — reachability by reads and commits in any order
- `ReadCommit.execAll` — a schedule of reads and commits, executed
-/

namespace Except

universe u v

variable {ε : Type u} {α β : Type v}

/-- Peel one computation off a sequence that succeeded. -/
theorem bind_eq_ok_iff {x : Except ε α} {f : α → Except ε β} {b : β} :
    (x >>= f) = .ok b ↔ ∃ a, x = .ok a ∧ f a = .ok b := by
  cases x with
  | error e => simp [bind, Except.bind]
  | ok a => simp [bind, Except.bind]

/-- Peel a check off one. -/
theorem ite_error_eq_ok_iff {p : Prop} [Decidable p] {e : ε} {x : Except ε α} {a : α} :
    (if p then .error e else x) = .ok a ↔ ¬p ∧ x = .ok a := by
  by_cases hp : p
  · rw [if_pos hp]
    exact iff_of_false nofun fun h => h.1 hp
  · rw [if_neg hp, and_iff_right hp]

theorem toOption_eq_some_iff {x : Except ε α} {a : α} : x.toOption = some a ↔ x = .ok a := by
  cases x with
  | error e => simp [Except.toOption]
  | ok b => simp [Except.toOption]

/-- A loop that may fail makes one result of each of its arguments. -/
theorem forall₂_of_mapM_ok {f : α → Except ε β} {l : List α} {l' : List β}
    (h : l.mapM f = .ok l') : List.Forall₂ (fun x y => f x = .ok y) l l' := by
  induction l generalizing l' with
  | nil =>
    rw [List.mapM_nil] at h
    obtain rfl := Except.ok.inj h
    exact .nil
  | cons x rest ih =>
    rw [List.mapM_cons] at h
    obtain ⟨y, hy, h⟩ := bind_eq_ok_iff.mp h
    obtain ⟨ys, hys, h⟩ := bind_eq_ok_iff.mp h
    obtain rfl := Except.ok.inj h
    exact .cons hy (ih hys)

/-- A loop succeeds when each turn may, with the results that the turns have. -/
theorem mapM_eq_ok_iff {f : α → Except ε β} {p : α → Prop} {g : α → β}
    (hf : ∀ x y, f x = .ok y ↔ p x ∧ y = g x) {l : List α} {l' : List β} :
    l.mapM f = .ok l' ↔ (∀ x ∈ l, p x) ∧ l' = l.map g := by
  induction l generalizing l' with
  | nil => simp [List.mapM_nil, pure, Except.pure, eq_comm]
  | cons x rest ih =>
    rw [List.mapM_cons, bind_eq_ok_iff, List.forall_mem_cons, List.map_cons]
    constructor
    · rintro ⟨y, hy, h⟩
      obtain ⟨ys, hys, h⟩ := bind_eq_ok_iff.mp h
      obtain ⟨hx, rfl⟩ := (hf x y).mp hy
      obtain ⟨hrest, rfl⟩ := ih.mp hys
      exact ⟨⟨hx, hrest⟩, (Except.ok.inj h).symm⟩
    · rintro ⟨⟨hx, hrest⟩, rfl⟩
      exact ⟨g x, (hf x _).mpr ⟨hx, rfl⟩, bind_eq_ok_iff.mpr
        ⟨rest.map g, ih.mpr ⟨hrest, rfl⟩, rfl⟩⟩

end Except

namespace Requests

variable {σ ℓ ε α : Type*}

/-- Run a fallible function as one transaction: a failure leaves the state as it was. -/
def transaction (f : σ → Except ε (α × σ)) (s : σ) : Except ε α × σ :=
  match f s with
  | .ok (a, s') => (.ok a, s')
  | .error e => (.error e, s)

theorem transaction_of_ok {f : σ → Except ε (α × σ)} {s s' : σ} {a : α} (h : f s = .ok (a, s')) :
    transaction f s = (.ok a, s') := by
  simp [transaction, h]

theorem transaction_of_error {f : σ → Except ε (α × σ)} {s : σ} {e : ε} (h : f s = .error e) :
    transaction f s = (.error e, s) := by
  simp [transaction, h]

/-- A transaction keeps what a successful run of its body keeps. -/
theorem transaction_preserves {I : σ → Prop} {f : σ → Except ε (α × σ)} {s : σ} (hs : I s)
    (hf : ∀ a s', f s = .ok (a, s') → I s') : I (transaction f s).2 := by
  rw [transaction]
  split
  · next a s' heq => exact hf a s' heq
  · exact hs

/-- The states reached by labelled steps, each of which meets `ok` where it is taken. -/
def Runs (step : ℓ → σ → σ) (ok : σ → ℓ → Prop) : σ → σ → Prop :=
  Relation.ReflTransGen fun s s' => ∃ l, ok s l ∧ s' = step l s

namespace Runs

variable {step : ℓ → σ → σ} {ok : σ → ℓ → Prop} {s s' : σ}

/-- What every admitted step keeps holds in every state of a run. -/
theorem invariant {I : σ → Prop} (h : Runs step ok s s') (hs : I s)
    (hstep : ∀ s l, I s → ok s l → I (step l s)) : I s' := by
  induction h with
  | refl => exact hs
  | tail _ hlast ih =>
    obtain ⟨l, hl, rfl⟩ := hlast
    exact hstep _ l ih hl

/-- Every label of a list meets `ok` where its step is taken. -/
def AllMeet (step : ℓ → σ → σ) (ok : σ → ℓ → Prop) : List ℓ → σ → Prop
  | [], _ => True
  | l :: rest, s => ok s l ∧ AllMeet step ok rest (step l s)

instance decidableAllMeet [∀ s l, Decidable (ok s l)] :
    (ls : List ℓ) → (s : σ) → Decidable (AllMeet step ok ls s)
  | [], _ => isTrue trivial
  | l :: rest, s =>
    have := decidableAllMeet rest (step l s)
    inferInstanceAs (Decidable (_ ∧ _))

/-- The steps of a list are a run. -/
theorem of_allMeet {ls : List ℓ} (h : AllMeet step ok ls s) :
    Runs step ok s (ls.foldl (fun s l => step l s) s) := by
  induction ls generalizing s with
  | nil => exact Relation.ReflTransGen.refl
  | cons l rest ih => exact Relation.ReflTransGen.head ⟨l, h.1, rfl⟩ (ih h.2)

/-- A property holds before the steps of a list and after each of them. -/
def Always (step : ℓ → σ → σ) (P : σ → Prop) : List ℓ → σ → Prop
  | [], s => P s
  | l :: rest, s => P s ∧ Always step P rest (step l s)

instance decidableAlways {P : σ → Prop} [∀ s, Decidable (P s)] :
    (ls : List ℓ) → (s : σ) → Decidable (Always step P ls s)
  | [], s => inferInstanceAs (Decidable (P s))
  | l :: rest, s =>
    have : Decidable (Always step P rest (step l s)) := decidableAlways rest (step l s)
    inferInstanceAs (Decidable (_ ∧ _))

theorem Always.head {P : σ → Prop} {ls : List ℓ} (h : Always step P ls s) : P s := by
  cases ls with
  | nil => exact h
  | cons l rest => exact h.1

theorem Always.last {P : σ → Prop} {ls : List ℓ} (h : Always step P ls s) :
    P (ls.foldl (fun s l => step l s) s) := by
  induction ls generalizing s with
  | nil => exact h
  | cons l rest ih => exact ih h.2

theorem allMeet_of_forall (h : ∀ s l, ok s l) (ls : List ℓ) : AllMeet step ok ls s := by
  induction ls generalizing s with
  | nil => exact trivial
  | cons l rest ih => exact ⟨h s l, ih⟩

theorem allMeet_true (ls : List ℓ) : AllMeet step (fun _ _ => True) ls s :=
  allMeet_of_forall (fun _ _ => trivial) ls

/-- Two conditions on steps that agree under an invariant, which the steps that meet one of them
keep. -/
theorem allMeet_congr {I : σ → Prop} {good : σ → ℓ → Prop} {ls : List ℓ}
    (hiff : ∀ s l, I s → (ok s l ↔ good s l)) (hkeep : ∀ s l, I s → good s l → I (step l s))
    (hs : I s) : AllMeet step ok ls s ↔ AllMeet step good ls s := by
  induction ls generalizing s with
  | nil => exact Iff.rfl
  | cons l rest ih =>
    calc ok s l ∧ AllMeet step ok rest (step l s)
      _ ↔ good s l ∧ AllMeet step ok rest (step l s) := and_congr_left' (hiff s l hs)
      _ ↔ good s l ∧ AllMeet step good rest (step l s) :=
        and_congr_right fun hl => ih (hkeep s l hs hl)

/-- When the good steps keep an invariant that gives the property, and every other step breaks
the property at once, the property holds along a run exactly if all its steps are good. -/
theorem always_iff_allMeet {I P : σ → Prop} {good : σ → ℓ → Prop} {ls : List ℓ}
    (hP : ∀ s, I s → P s) (hgood : ∀ s l, I s → ok s l → good s l → I (step l s))
    (hbad : ∀ s l, I s → ok s l → ¬good s l → ¬P (step l s)) (hs : I s)
    (h : AllMeet step ok ls s) : Always step P ls s ↔ AllMeet step good ls s := by
  induction ls generalizing s with
  | nil => exact ⟨fun _ => trivial, fun _ => hP s hs⟩
  | cons l rest ih =>
    obtain ⟨hl, hrest⟩ := h
    constructor
    · rintro ⟨_, halways⟩
      have hg : good s l := by
        by_contra hng
        exact hbad s l hs hl hng halways.head
      exact ⟨hg, (ih (hgood s l hs hl hg) hrest).mp halways⟩
    · rintro ⟨hg, hmeet⟩
      exact ⟨hP s hs, (ih (hgood s l hs hl hg) hrest).mpr hmeet⟩

/-- A relation holds from each state of a run to every later one. -/
def Onward (step : ℓ → σ → σ) (R : σ → σ → Prop) : List ℓ → σ → Prop
  | [], _ => True
  | l :: rest, s => Always step (R s) rest (step l s) ∧ Onward step R rest (step l s)

/-- Where the good steps are in a transitive relation that gives `R`, and no other step is in `R`,
a run keeps `R` onward exactly if all its steps are good. -/
theorem onward_iff_allMeet {R K : σ → σ → Prop} {good : σ → ℓ → Prop} {ls : List ℓ}
    (htrans : ∀ a b c, K a b → K b c → K a c) (hK : ∀ a b, K a b → R a b)
    (hgood : ∀ s l, good s l → K s (step l s)) (hbad : ∀ s l, ¬good s l → ¬R s (step l s)) :
    Onward step R ls s ↔ AllMeet step good ls s := by
  have hlater : ∀ (ls : List ℓ) (a b : σ), K a b → AllMeet step good ls b →
      Always step (R a) ls b := by
    intro ls
    induction ls with
    | nil => exact fun a b hab _ => hK a b hab
    | cons l rest ih =>
      exact fun a b hab hmeet =>
        ⟨hK a b hab, ih a (step l b) (htrans a b _ hab (hgood b l hmeet.1)) hmeet.2⟩
  induction ls generalizing s with
  | nil => exact Iff.rfl
  | cons l rest ih =>
    constructor
    · rintro ⟨hfirst, hrest⟩
      have hl : good s l := by
        by_contra hng
        exact hbad s l hng hfirst.head
      exact ⟨hl, ih.mp hrest⟩
    · rintro ⟨hl, hrest⟩
      exact ⟨hlater rest s (step l s) (hgood s l hl) hrest, ih.mpr hrest⟩

section Ended

variable {κ : Type*} {begins ends : σ → ℓ → κ → Prop}

/-- Some step of a list ends `k`. -/
def Ended (step : ℓ → σ → σ) (ends : σ → ℓ → κ → Prop) (k : κ) : List ℓ → σ → Prop
  | [], _ => False
  | l :: rest, s => ends s l k ∨ Ended step ends k rest (step l s)

/-- What a step of a list begins, a later one ends. -/
def AllEnded (step : ℓ → σ → σ) (begins ends : σ → ℓ → κ → Prop) : List ℓ → σ → Prop
  | [], _ => True
  | l :: rest, s =>
    (∀ k, begins s l k → Ended step ends k rest (step l s)) ∧
      AllEnded step begins ends rest (step l s)

/-- When a mark lasts from the step that begins it to the one that ends it, a mark that there is
after a list of steps was there before and has not been ended, or was begun and has not. -/
theorem exists_marked_iff {I : σ → Prop} {marked : σ → κ → Prop} {ls : List ℓ}
    (hI : ∀ s l, I s → I (step l s))
    (hmarked : ∀ s l k, I s → (marked (step l s) k ↔ marked s k ∧ ¬ends s l k ∨ begins s l k))
    (hs : I s) :
    (∃ k, marked (ls.foldl (fun s l => step l s) s) k) ↔
      (∃ k, marked s k ∧ ¬Ended step ends k ls s) ∨ ¬AllEnded step begins ends ls s := by
  induction ls generalizing s with
  | nil => simp [Ended, AllEnded]
  | cons l rest ih =>
    rw [List.foldl_cons, ih (hI s l hs)]
    simp only [Ended, AllEnded, hmarked s l _ hs, not_or, not_and_or, not_forall]
    constructor
    · rintro (⟨k, ⟨hk, hl⟩ | hk, hrest⟩ | hrest)
      · exact .inl ⟨k, hk, hl, hrest⟩
      · exact .inr (.inl ⟨k, hk, hrest⟩)
      · exact .inr (.inr hrest)
    · rintro (⟨k, hk, hl, hrest⟩ | ⟨k, hk, hrest⟩ | hrest)
      · exact .inl ⟨k, .inl ⟨hk, hl⟩, hrest⟩
      · exact .inl ⟨k, .inr hk, hrest⟩
      · exact .inr hrest

/-- A mark that is there after a list of steps was there before and has not been ended, or some step
began it and none after that has ended it. -/
theorem marked_iff {I : σ → Prop} (marked : σ → κ → Prop) (ls : List ℓ) (k : κ)
    (hI : ∀ s l, I s → I (step l s))
    (hmarked : ∀ s l k, I s → (marked (step l s) k ↔ marked s k ∧ ¬ends s l k ∨ begins s l k))
    (hs : I s) :
    marked (ls.foldl (fun s l => step l s) s) k ↔
      (marked s k ∧ ¬Ended step ends k ls s) ∨
        ∃ before l after, ls = before ++ l :: after ∧
          begins (before.foldl (fun s l => step l s) s) l k ∧
          ¬Ended step ends k after (step l (before.foldl (fun s l => step l s) s)) := by
  induction ls generalizing s with
  | nil => simp [Ended]
  | cons l rest ih =>
    rw [List.foldl_cons, ih (hI s l hs), hmarked s l k hs]
    simp only [Ended, not_or]
    constructor
    · rintro (⟨⟨hk, hl⟩ | hk, hrest⟩ | ⟨before, l', after, rfl, hbegins, hafter⟩)
      · exact .inl ⟨hk, hl, hrest⟩
      · exact .inr ⟨[], l, rest, rfl, hk, hrest⟩
      · exact .inr ⟨l :: before, l', after, rfl, hbegins, hafter⟩
    · rintro (⟨hk, hl, hrest⟩ | ⟨before, l', after, heq, hbegins, hafter⟩)
      · exact .inl ⟨.inl ⟨hk, hl⟩, hrest⟩
      · cases before with
        | nil =>
          obtain ⟨rfl, rfl⟩ := List.cons.inj heq
          exact .inl ⟨.inr hbegins, hafter⟩
        | cons first before =>
          obtain ⟨rfl, rfl⟩ := List.cons.inj heq
          exact .inr ⟨before, l', after, rfl, hbegins, hafter⟩

end Ended

theorem mono {ok' : σ → ℓ → Prop} (h : Runs step ok s s') (hok : ∀ s l, ok s l → ok' s l) :
    Runs step ok' s s' :=
  Relation.ReflTransGen.mono (fun s _ ⟨l, hl, heq⟩ => ⟨l, hok s l hl, heq⟩) _ _ h

end Runs

/-- Requests in two steps: a read that also checks, and may refuse, and a commit that works on
the state of its own moment with what was read. -/
structure ReadCommit (σ ρ δ : Type*) where
  read : ρ → σ → Option δ
  commit : ρ → δ → σ → σ

namespace ReadCommit

variable {ρ δ : Type*}

/-- A state together with the requests that have read and not yet committed. -/
structure Config (σ ρ δ : Type*) where
  state : σ
  inFlight : List (ρ × δ)

variable (S : ReadCommit σ ρ δ)

/-- One step: some request reads, or some request in flight commits. A refused request changes
nothing and is no step. -/
inductive Step (ok : σ → ρ → δ → Prop) : Config σ ρ δ → Config σ ρ δ → Prop
  | read (c : Config σ ρ δ) (r : ρ) (d : δ) (h : S.read r c.state = some d) :
      Step ok c ⟨c.state, c.inFlight ++ [(r, d)]⟩
  | commit (c : Config σ ρ δ) (i : ℕ) (r : ρ) (d : δ) (h : c.inFlight[i]? = some (r, d))
      (hok : ok c.state r d) :
      Step ok c ⟨S.commit r d c.state, c.inFlight.eraseIdx i⟩

/-- Reachability by any order of reads and commits, each commit meeting `ok`. -/
def Interleaved (ok : σ → ρ → δ → Prop) : Config σ ρ δ → Config σ ρ δ → Prop :=
  Relation.ReflTransGen (S.Step ok)

variable {S} {ok : σ → ρ → δ → Prop} {c c' : Config σ ρ δ}

/-- The invariant rule for interleavings. `I` is the invariant of the state, `K` what a request
in flight may rely on: its read establishes it and every commit keeps it for the others. -/
theorem Interleaved.invariant {I : σ → Prop} {K : σ → ρ → δ → Prop} (h : S.Interleaved ok c c')
    (hI : I c.state) (hK : ∀ x ∈ c.inFlight, K c.state x.1 x.2)
    (hread : ∀ s r d, I s → S.read r s = some d → K s r d)
    (hcommit : ∀ s r d, I s → K s r d → ok s r d → I (S.commit r d s))
    (hkeep : ∀ s r d r' d', I s → K s r d → ok s r d → K s r' d' → K (S.commit r d s) r' d') :
    I c'.state ∧ ∀ x ∈ c'.inFlight, K c'.state x.1 x.2 := by
  induction h with
  | refl => exact ⟨hI, hK⟩
  | tail _ hlast ih =>
    obtain ⟨ihI, ihK⟩ := ih
    cases hlast with
    | read r d hr =>
      refine ⟨ihI, fun x hx => ?_⟩
      rcases List.mem_append.mp hx with hx | hx
      · exact ihK x hx
      · obtain rfl := List.mem_singleton.mp hx
        exact hread _ r d ihI hr
    | commit i r d hi hok =>
      have hrd := ihK _ (List.mem_of_getElem? hi)
      refine ⟨hcommit _ r d ihI hrd hok, fun x hx => ?_⟩
      exact hkeep _ r d x.1 x.2 ihI hrd hok (ihK x (List.mem_of_mem_eraseIdx hx))

/-- An event of a schedule: a request reads, or the one at a position in flight commits. -/
inductive Event (ρ : Type*)
  | read (r : ρ)
  | commit (i : ℕ)

variable (S) in
/-- The configuration after an event. A refused read and a commit of nothing are no steps. -/
def exec (c : Config σ ρ δ) : Event ρ → Config σ ρ δ
  | .read r =>
    match S.read r c.state with
    | some d => ⟨c.state, c.inFlight ++ [(r, d)]⟩
    | none => c
  | .commit i =>
    match c.inFlight[i]? with
    | some (r, d) => ⟨S.commit r d c.state, c.inFlight.eraseIdx i⟩
    | none => c

variable (S) in
/-- The configuration after a schedule. -/
def execAll (events : List (Event ρ)) (c : Config σ ρ δ) : Config σ ρ δ :=
  events.foldl S.exec c

/-- A commit meets `ok` where it is made. -/
def Event.Meets (ok : σ → ρ → δ → Prop) (c : Config σ ρ δ) : Event ρ → Prop
  | .read _ => True
  | .commit i => ∀ x ∈ c.inFlight[i]?, ok c.state x.1 x.2

instance [∀ s r d, Decidable (ok s r d)] (e : Event ρ) : Decidable (e.Meets ok c) :=
  match e with
  | .read _ => isTrue trivial
  | .commit i => inferInstanceAs (Decidable (∀ x ∈ c.inFlight[i]?, ok c.state x.1 x.2))

variable (S) in
/-- Every commit of a schedule meets `ok` where it is made. -/
def AllMeet (ok : σ → ρ → δ → Prop) : List (Event ρ) → Config σ ρ δ → Prop
  | [], _ => True
  | e :: rest, c => e.Meets ok c ∧ AllMeet ok rest (S.exec c e)

instance decidableAllMeet [∀ s r d, Decidable (ok s r d)] :
    (events : List (Event ρ)) → (c : Config σ ρ δ) → Decidable (S.AllMeet ok events c)
  | [], _ => isTrue trivial
  | e :: rest, c =>
    have := decidableAllMeet rest (S.exec c e)
    inferInstanceAs (Decidable (_ ∧ _))

theorem allMeet_of_forall (h : ∀ s r d, ok s r d) (events : List (Event ρ)) :
    S.AllMeet ok events c := by
  induction events generalizing c with
  | nil => exact trivial
  | cons e rest ih =>
    refine ⟨?_, ih⟩
    cases e with
    | read r => exact trivial
    | commit i => exact fun x _ => h _ _ _

/-- A schedule is an interleaving. -/
theorem interleaved_execAll {events : List (Event ρ)} (h : S.AllMeet ok events c) :
    S.Interleaved ok c (S.execAll events c) := by
  induction events generalizing c with
  | nil => exact Relation.ReflTransGen.refl
  | cons e rest ih =>
    have hrest : S.Interleaved ok (S.exec c e) (S.execAll (e :: rest) c) := ih h.2
    refine Relation.ReflTransGen.trans ?_ hrest
    cases e with
    | read r =>
      simp only [exec]
      split
      · next d hread => exact Relation.ReflTransGen.single (.read c r d hread)
      · exact Relation.ReflTransGen.refl
    | commit i =>
      simp only [exec]
      split
      · next r d hmem => exact Relation.ReflTransGen.single (.commit c i r d hmem (h.1 _ hmem))
      · exact Relation.ReflTransGen.refl

end ReadCommit

end Requests
