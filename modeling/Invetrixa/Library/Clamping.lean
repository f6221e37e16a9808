import Mathlib.Order.MinMax

/-!
# Values between bounds that may be missing

A value is raised to a floor and then lowered to a ceiling, where there are such. The ceiling comes
last, so it always holds; the floor holds exactly if it is not above the ceiling.

## Main definitions

- `clamp` — raise, then lower
- `Within` — neither below the floor nor above the ceiling

## Main results

- `within_clamp_iff`, `clamp_mono`
-/

namespace Clamping

variable {α : Type*} [LinearOrder α] {lo hi : Option α} {x y : α}

def raise (lo : Option α) (x : α) : α := lo.elim x (max x)

def lower (hi : Option α) (x : α) : α := hi.elim x (min x)

/-- Raise to the floor, then lower to the ceiling. -/
def clamp (lo hi : Option α) (x : α) : α := lower hi (raise lo x)

/-- Neither below the floor nor above the ceiling. -/
def Within (lo hi : Option α) (x : α) : Prop := (∀ a ∈ lo, a ≤ x) ∧ ∀ b ∈ hi, x ≤ b

/-- The floor is not above the ceiling. -/
def InOrder (lo hi : Option α) : Prop := ∀ a ∈ lo, ∀ b ∈ hi, a ≤ b

instance : Decidable (InOrder lo hi) :=
  match lo, hi with
  | none, _ => isTrue nofun
  | some _, none => isTrue fun _ _ _ h => nomatch h
  | some a, some b => decidable_of_iff (a ≤ b) (by simp [InOrder])

theorem raise_mono (lo : Option α) : Monotone (raise lo) := by
  intro x y hxy
  cases lo with
  | none => exact hxy
  | some a => exact max_le_max_right a hxy

theorem lower_mono (hi : Option α) : Monotone (lower hi) := by
  intro x y hxy
  cases hi with
  | none => exact hxy
  | some b => exact min_le_min_right b hxy

theorem clamp_mono (lo hi : Option α) : Monotone (clamp lo hi) :=
  (lower_mono hi).comp (raise_mono lo)

theorem le_raise (lo : Option α) (x : α) : ∀ a ∈ lo, a ≤ raise lo x := by
  rintro a rfl
  exact le_max_right x a

theorem clamp_le (lo : Option α) (x : α) : ∀ b ∈ hi, clamp lo hi x ≤ b := by
  rintro b rfl
  exact min_le_right _ b

/-- A clamped value is within the bounds exactly if they are in order. -/
theorem within_clamp_iff : Within lo hi (clamp lo hi x) ↔ InOrder lo hi := by
  constructor
  · rintro ⟨hfloor, hceiling⟩ a ha b hb
    exact (hfloor a ha).trans (hceiling b hb)
  · intro horder
    refine ⟨fun a ha => ?_, clamp_le lo x⟩
    cases hi with
    | none => exact le_raise lo x a ha
    | some b => exact le_min (le_raise lo x a ha) (horder a ha b rfl)

end Clamping
