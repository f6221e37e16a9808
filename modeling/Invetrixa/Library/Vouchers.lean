import Mathlib.Logic.Function.Basic
import Mathlib.Data.List.Basic

/-!
# Vouchers

For each key at most one voucher is good: the last that was issued for it, until it is accepted.
What the history of a run says of this is the same as what a book says that is kept along the run.

## Main definitions

- `Voucher`, `Event` — what is issued and accepted
- `Book`, `book` — the good vouchers, as a history leaves them
- `redeemed` — how often a voucher of a key was accepted

## Main results

- `book_eq_some_iff` — a voucher is good if it was the last for its key and has not been accepted
-/

namespace Vouchers

variable {κ τ : Type*} [DecidableEq κ] [DecidableEq τ]

/-- A text that is good until it expires. -/
@[ext]
structure Voucher (τ : Type*) where
  text : τ
  expiresAt : ℕ
  deriving DecidableEq

/-- A voucher is issued for a key, or one that is good is accepted by its text. -/
inductive Event (κ τ : Type*)
  | issued (k : κ) (v : Voucher τ)
  | accepted (text : τ)
  deriving DecidableEq

/-- The good voucher of each key. -/
abbrev Book (κ τ : Type*) := κ → Option (Voucher τ)

/-- A new voucher takes the place of the one before, and an accepted one goes. -/
def Event.apply (b : Book κ τ) : Event κ τ → Book κ τ
  | .issued k v => Function.update b k (some v)
  | .accepted text => fun k => (b k).filter fun v => v.text ≠ text

/-- The book after a history, the last event first. -/
def book : List (Event κ τ) → Book κ τ
  | [] => fun _ => none
  | e :: earlier => e.apply (book earlier)

/-- The event is none that ends a voucher of a key. -/
def Event.Spares (k : κ) (v : Voucher τ) : Event κ τ → Prop
  | .issued k' _ => k' ≠ k
  | .accepted text => text ≠ v.text

/-- How many of the acceptances were of a good voucher of the key. -/
def redeemed (k : κ) : List (Event κ τ) → ℕ
  | [] => 0
  | .issued _ _ :: earlier => redeemed k earlier
  | .accepted text :: earlier =>
    redeemed k earlier + if (book earlier k).any fun v => v.text = text then 1 else 0

variable {b : Book κ τ} {k : κ} {v : Voucher τ} {e : Event κ τ} {history : List (Event κ τ)}

theorem apply_eq_some_iff :
    e.apply b k = some v ↔ e = .issued k v ∨ b k = some v ∧ e.Spares k v := by
  cases e with
  | issued k' v' =>
    by_cases hk : k' = k
    · subst hk
      simp [Event.apply, Event.Spares]
    · simp [Event.apply, Event.Spares, hk, Ne.symm hk]
  | accepted text =>
    simp only [Event.apply, Event.Spares, Option.filter_eq_some_iff, decide_eq_true_eq,
      reduceCtorEq, false_or]
    exact and_congr_right fun _ => ne_comm

/-- A voucher is good exactly if it was the last to be issued for its key and none of its text has
been accepted since. -/
theorem book_eq_some_iff : book history k = some v ↔
    ∃ later earlier, history = later ++ .issued k v :: earlier ∧ ∀ e ∈ later, e.Spares k v := by
  induction history with
  | nil => simp [book]
  | cons e earlier ih =>
    rw [book, apply_eq_some_iff, ih]
    constructor
    · rintro (rfl | ⟨⟨later, earlier, rfl, hlater⟩, hspares⟩)
      · exact ⟨[], earlier, rfl, by simp⟩
      · exact ⟨e :: later, earlier, rfl, List.forall_mem_cons.mpr ⟨hspares, hlater⟩⟩
    · rintro ⟨later, older, heq, hlater⟩
      cases later with
      | nil => exact .inl (List.cons.inj heq).1
      | cons e' later =>
        obtain ⟨rfl, rfl⟩ := List.cons.inj heq
        obtain ⟨hspares, hlater⟩ := List.forall_mem_cons.mp hlater
        exact .inr ⟨⟨later, older, rfl, hlater⟩, hspares⟩

end Vouchers
