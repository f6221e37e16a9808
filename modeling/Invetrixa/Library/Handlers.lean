import Invetrixa.Library.Runs

/-!
# Handlers and their conditions

A handler answers a request or refuses it. Unlike a transaction it does not roll back: what it
has written when it refuses stays written. Its conditions say what holds of the state, and of the
answer, after either ending.

## Main definitions

- `Handler` — a computation on a state that may fail
- `Handler.Ensures` — a precondition, a condition on the answer, a condition on a refusal
- `Handler.Keeps` — a view of the state stays as it is, whether the handler answers or refuses
-/

namespace Requests

universe u

/-- A computation on a state that may fail and keeps its writes when it does. -/
def Handler (σ ε α : Type u) : Type u := σ → Except ε α × σ

namespace Handler

variable {σ ε α β : Type u}

instance : Monad (Handler σ ε) where
  pure a := fun s => (.ok a, s)
  bind m f := fun s =>
    match m s with
    | (.ok a, s') => f a s'
    | (.error e, s') => (.error e, s')

/-- Refuse. -/
def refuse (e : ε) : Handler σ ε α := fun s => (.error e, s)

/-- Read from the state, and maybe refuse what is there. -/
def read (f : σ → Except ε α) : Handler σ ε α := fun s => (f s, s)

/-- Write to the state. -/
def write (f : σ → σ) : Handler σ ε PUnit := fun s => (.ok ⟨⟩, f s)

/-- Run a transaction of the store: it writes all or nothing. -/
def atomically (f : σ → Except ε (α × σ)) : Handler σ ε α := transaction f

/-- From a state of `P` the handler answers with `Q` or refuses with `E`. -/
def Ensures (P : σ → Prop) (m : Handler σ ε α) (Q : α → σ → Prop) (E : σ → Prop) : Prop :=
  ∀ s, P s → (∀ a s', m s = (.ok a, s') → Q a s') ∧ (∀ e s', m s = (.error e, s') → E s')

variable {P P' E E' : σ → Prop} {Q Q' : α → σ → Prop} {m : Handler σ ε α}

theorem Ensures.consequence (h : Ensures P m Q E) (hP : ∀ s, P' s → P s)
    (hQ : ∀ a s, Q a s → Q' a s) (hE : ∀ s, E s → E' s) : Ensures P' m Q' E' := by
  intro s hs
  obtain ⟨hok, herr⟩ := h s (hP s hs)
  exact ⟨fun a s' heq => hQ a s' (hok a s' heq), fun e s' heq => hE s' (herr e s' heq)⟩

theorem Ensures.pure (a : α) (h : ∀ s, P s → Q a s) :
    Ensures P (Pure.pure a : Handler σ ε α) Q E := by
  intro s hs
  constructor
  · intro b s' heq
    cases heq
    exact h s hs
  · intro e s' heq
    cases heq

theorem Ensures.refuse (e : ε) (h : ∀ s, P s → E s) :
    Ensures P (Handler.refuse e : Handler σ ε α) Q E := by
  intro s hs
  constructor
  · intro a s' heq
    cases heq
  · intro e s' heq
    cases heq
    exact h s hs

theorem Ensures.read {f : σ → Except ε α} (hok : ∀ s a, P s → f s = .ok a → Q a s)
    (herr : ∀ s e, P s → f s = .error e → E s) : Ensures P (Handler.read f) Q E := by
  intro s hs
  constructor
  · intro a s' heq
    obtain ⟨hf, rfl⟩ := Prod.mk.inj heq
    exact hok s a hs hf
  · intro e s' heq
    obtain ⟨hf, rfl⟩ := Prod.mk.inj heq
    exact herr s e hs hf

theorem Ensures.write {f : σ → σ} {Q : PUnit → σ → Prop} (h : ∀ s, P s → Q ⟨⟩ (f s)) :
    Ensures P (Handler.write f : Handler σ ε PUnit) Q E := by
  intro s hs
  constructor
  · intro a s' heq
    cases heq
    exact h s hs
  · intro e s' heq
    cases heq

theorem Ensures.atomically {f : σ → Except ε (α × σ)}
    (hok : ∀ s a s', P s → f s = .ok (a, s') → Q a s')
    (herr : ∀ s e, P s → f s = .error e → E s) : Ensures P (Handler.atomically f) Q E := by
  intro s hs
  rw [Handler.atomically, transaction]
  split
  · next a s' heq =>
    refine ⟨fun b t ht => ?_, fun e t ht => ?_⟩
    · cases ht
      exact hok s a s' hs heq
    · cases ht
  · next e heq =>
    refine ⟨fun b t ht => ?_, fun e t ht => ?_⟩
    · cases ht
    · cases ht
      exact herr s e hs heq

theorem Ensures.bind {R : β → σ → Prop} {f : α → Handler σ ε β} (hm : Ensures P m Q E)
    (hf : ∀ a, Ensures (Q a) (f a) R E) : Ensures P (m >>= f) R E := by
  intro s hs
  obtain ⟨hok, herr⟩ := hm s hs
  simp only [Bind.bind]
  cases hms : m s with
  | mk r s' =>
    cases r with
    | ok a => exact hf a s' (hok a s' hms)
    | error e =>
      refine ⟨fun b t ht => ?_, fun e' t ht => ?_⟩
      · cases ht
      · cases ht
        exact herr e s' hms

/-- A condition that both endings meet holds afterwards. -/
theorem Ensures.snd {R : σ → Prop} {s : σ} (h : Ensures P m (fun _ => R) R) (hs : P s) :
    R (m s).2 := by
  obtain ⟨hok, herr⟩ := h s hs
  cases hms : m s with
  | mk r s' =>
    cases r with
    | ok a => exact hok a s' hms
    | error e => exact herr e s' hms

section Keeps

variable {ν : Type*} {v : σ → ν}

/-- Whatever comes of the handler, the view of the state stays as it is. -/
def Keeps (v : σ → ν) (m : Handler σ ε α) : Prop := ∀ s, v (m s).2 = v s

theorem Keeps.pure (a : α) : Keeps v (Pure.pure a : Handler σ ε α) := fun _ => rfl

theorem Keeps.refuse (e : ε) : Keeps v (Handler.refuse e : Handler σ ε α) := fun _ => rfl

theorem Keeps.read (f : σ → Except ε α) : Keeps v (Handler.read f) := fun _ => rfl

theorem Keeps.write {f : σ → σ} (h : ∀ s, v (f s) = v s) :
    Keeps v (Handler.write f : Handler σ ε PUnit) := h

theorem Keeps.atomically {f : σ → Except ε (α × σ)}
    (h : ∀ s a s', f s = .ok (a, s') → v s' = v s) : Keeps v (Handler.atomically f) := by
  intro s
  exact transaction_preserves (I := fun s' => v s' = v s) rfl (h s)

theorem Keeps.bind {f : α → Handler σ ε β} (hm : Keeps v m) (hf : ∀ a, Keeps v (f a)) :
    Keeps v (m >>= f) := by
  intro s
  simp only [Bind.bind]
  have hfirst := hm s
  cases hms : m s with
  | mk r s' =>
    rw [hms] at hfirst
    cases r with
    | ok a => exact (hf a s').trans hfirst
    | error e => exact hfirst

theorem Keeps.map (hm : Keeps v m) (f : α → β) : Keeps v (f <$> m) :=
  hm.bind fun a => Keeps.pure (f a)

end Keeps

end Handler

end Requests
