import Mathlib.Data.List.Basic
import Mathlib.Logic.Function.Basic
import Mathlib.Logic.Relation
import Mathlib.Order.WellFounded

/-!
# Forests by parent pointers

Nodes that each name at most one parent. A walk up from a node ends if the parent relation is well
founded, which moving a node keeps as long as the new parent does not lie below it.

## Main definitions

- `Forest.Below` — a walk up from a node meets another
- `Forest.Rooted` — every walk up ends
- `Forest.walk` — look for a node on the way up, for so many steps

## Main results

- `Rooted.move` — moving a node
- `walk_eq_some_iff`, `Rooted.walk_isSome` — what a walk answers, and that it does
-/

namespace Forest

variable {κ : Type*} {parent : κ → Option κ} {k a c p : κ}

/-- A walk up from `k` meets `a`. -/
def Below (parent : κ → Option κ) (k a : κ) : Prop :=
  Relation.ReflTransGen (fun x y => parent x = some y) k a

/-- Every walk up ends. -/
def Rooted (parent : κ → Option κ) : Prop := WellFounded fun y x => parent x = some y

/-- No walk up comes back to where it started. -/
def Acyclic (parent : κ → Option κ) : Prop :=
  ∀ k, ¬Relation.TransGen (fun x y => parent x = some y) k k

theorem below_of_parent (h : parent k = some p) (hp : Below parent p a) : Below parent k a :=
  Relation.ReflTransGen.head h hp

/-- A walk up meets where it starts, or goes on from the parent. -/
theorem below_iff : Below parent k a ↔ k = a ∨ ∃ p, parent k = some p ∧ Below parent p a :=
  Relation.ReflTransGen.cases_head_iff

theorem Rooted.not_below_parent (h : Rooted parent) (hk : parent k = some p) :
    ¬Below parent p k := by
  intro hbelow
  have hloop : Relation.TransGen (fun x y => parent x = some y) k k :=
    Relation.TransGen.head' hk hbelow
  have hwf : WellFounded (Relation.TransGen fun y x => parent x = some y) := h.transGen
  exact hwf.irrefl.irrefl k (Relation.transGen_swap.mpr hloop)

theorem Rooted.acyclic (h : Rooted parent) : Acyclic parent := by
  intro k hloop
  obtain ⟨p, hp, hbelow⟩ := Relation.TransGen.head'_iff.mp hloop
  exact h.not_below_parent hp hbelow

/-- Putting `c` under `p`, which is not below it, leaves every walk ending. -/
theorem Rooted.move (h : Rooted parent) {parent' : κ → Option κ}
    (hother : ∀ k, k ≠ c → parent' k = parent k)
    (hc : ∀ p, parent' c = some p → ¬Below parent p c) : Rooted parent' := by
  have houtside : ∀ k, ¬Below parent k c → Acc (fun y x => parent' x = some y) k := by
    intro k
    induction k using h.induction with
    | h k ih =>
      intro hk
      have hne : k ≠ c := fun heq => hk (heq ▸ Relation.ReflTransGen.refl)
      refine ⟨k, fun q hq => ?_⟩
      rw [hother k hne] at hq
      exact ih q hq fun hbelow => hk (below_of_parent hq hbelow)
  have hmoved : Acc (fun y x => parent' x = some y) c :=
    ⟨c, fun q hq => houtside q (hc q hq)⟩
  refine ⟨fun k => ?_⟩
  induction k using h.induction with
  | h k ih =>
    by_cases hk : k = c
    · exact hk ▸ hmoved
    · refine ⟨k, fun q hq => ih q ?_⟩
      rwa [hother k hk] at hq

section Walk

variable [DecidableEq κ]

/-- Look for `target` on the way up, and give up after so many steps. -/
def walk (parent : κ → Option κ) (target : κ) : ℕ → Option κ → Option Bool
  | _, none => some false
  | 0, some _ => none
  | fuel + 1, some k => if k = target then some true else walk parent target fuel (parent k)

/-- A walk that ends says whether it met the target. -/
theorem walk_eq_some {fuel : ℕ} {b : Bool} (h : walk parent a fuel (some k) = some b) :
    b = true ↔ Below parent k a := by
  induction fuel generalizing k with
  | zero => cases h
  | succ fuel ih =>
    rw [walk] at h
    split at h
    · next heq =>
      obtain rfl := Option.some.inj h
      exact iff_of_true rfl (heq ▸ Relation.ReflTransGen.refl)
    · next hne =>
      cases hp : parent k with
      | none =>
        rw [hp, walk] at h
        obtain rfl := Option.some.inj h
        refine iff_of_false Bool.false_ne_true fun hbelow => ?_
        rcases below_iff.mp hbelow with heq | ⟨q, hq, _⟩
        · exact hne heq
        · rw [hp] at hq
          cases hq
      | some p =>
        rw [hp] at h
        rw [ih h, below_iff (k := k)]
        constructor
        · exact fun hbelow => .inr ⟨p, hp, hbelow⟩
        · rintro (heq | ⟨q, hq, hbelow⟩)
          · exact absurd heq hne
          · rw [hp] at hq
            exact Option.some.inj hq ▸ hbelow

/-- A walk that meets no more nodes with a parent than are listed ends within that many steps
and one. -/
theorem Rooted.walk_isSome (h : Rooted parent) (target : κ) {nodes : List κ}
    (hnodes : ∀ a, Below parent k a → (parent a).isSome → a ∈ nodes) :
    (walk parent target (nodes.length + 1) (some k)).isSome := by
  induction k using h.induction generalizing nodes with
  | h k ih =>
    rw [walk]
    split
    · rfl
    · cases hp : parent k with
      | none => simp [walk]
      | some p =>
        -- the rest of the walk does not come back to this node
        have hk : k ∈ nodes := hnodes k Relation.ReflTransGen.refl (by simp [hp])
        have hrest : ∀ a, Below parent p a → (parent a).isSome → a ∈ nodes.erase k := by
          intro a ha hpa
          refine (List.mem_erase_of_ne ?_).mpr (hnodes a (below_of_parent hp ha) hpa)
          rintro rfl
          exact h.not_below_parent hp ha
        have hlength : (nodes.erase k).length + 1 = nodes.length := by
          have hpos := List.length_pos_of_mem hk
          rw [List.length_erase_of_mem hk]
          omega
        rw [← hlength]
        exact ih p hp hrest

end Walk

end Forest
