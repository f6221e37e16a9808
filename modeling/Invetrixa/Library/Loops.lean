import Invetrixa.Library.Runs
import Mathlib.Data.List.Nodup
import Mathlib.Data.List.Forall2

/-!
# Loops over items with distinct keys

A loop over a list of items, each turn of which touches what its own item is about and nothing
else. A view is whatever one observes of the state for one key: all turns but the one of that
key's item leave it alone, so that the whole loop does to it what this one turn does.

## Main results

- `view_foldl` — a loop none of whose turns touches a view leaves it
- `exists_view_foldl` — a loop does to a view what the one turn does that touches it
- `forall_foldl` — what each turn does for its item has been done for all items
- `foldlM_checked_eq_ok_iff` — a loop with a check in each turn ends if the checks pass before it
- `forall₂_comp` — what two loops, one over the results of the other, do item by item
-/

namespace Loops

variable {σ β κ ν : Type*} {f : σ → β → σ} {key : β → κ} (view : σ → ν) {k : κ} {xs : List β}

theorem view_foldl (hview : ∀ s, ∀ x ∈ xs, view (f s x) = view s) (s : σ) :
    view (xs.foldl f s) = view s := by
  induction xs generalizing s with
  | nil => rfl
  | cons x rest ih =>
    rw [List.foldl_cons, ih fun s y hy => hview s y (List.mem_cons_of_mem _ hy)]
    exact hview s x List.mem_cons_self

/-- Among items with distinct keys only one turn touches the view of a key: it meets the view as
it was before the loop, and leaves it as it is after. -/
theorem exists_view_foldl (hmiss : ∀ s x, key x ≠ k → view (f s x) = view s)
    (hnodup : (xs.map key).Nodup) {x : β} (hx : x ∈ xs) (hk : key x = k) (s : σ) :
    ∃ s', view s' = view s ∧ view (xs.foldl f s) = view (f s' x) := by
  obtain ⟨before, after, rfl⟩ := List.append_of_mem hx
  rw [List.map_append, List.map_cons, List.nodup_middle, List.nodup_cons, List.mem_append,
    not_or, hk] at hnodup
  obtain ⟨⟨hbefore, hafter⟩, _⟩ := hnodup
  refine ⟨before.foldl f s, ?_, ?_⟩
  · refine view_foldl view (fun s y hy => hmiss s y fun hy' => hbefore ?_) s
    exact hy' ▸ List.mem_map_of_mem hy
  · rw [List.foldl_append, List.foldl_cons]
    refine view_foldl view (fun s y hy => hmiss s y fun hy' => hafter ?_) _
    exact hy' ▸ List.mem_map_of_mem hy

/-- What the turn of each item establishes, and no turn destroys, holds of all items after the
loop. -/
theorem forall_foldl {P : β → σ → Prop}
    (hkeep : ∀ s, ∀ x ∈ xs, ∀ y ∈ xs, P y s → P y (f s x)) (hdone : ∀ s, ∀ x ∈ xs, P x (f s x))
    (s : σ) : ∀ x ∈ xs, P x (xs.foldl f s) := by
  -- What holds of an item goes on holding while other items of the list have their turns.
  have hrest : ∀ ys : List β, ys ⊆ xs → ∀ y ∈ xs, ∀ s, P y s → P y (ys.foldl f s) := by
    intro ys
    induction ys with
    | nil => exact fun _ _ _ _ h => h
    | cons x ys ih =>
      intro hsub y hy s h
      obtain ⟨hx, hys⟩ := List.cons_subset.mp hsub
      exact ih hys y hy (f s x) (hkeep s x hx y hy h)
  intro x hx
  obtain ⟨before, after, hsplit⟩ := List.append_of_mem hx
  have hafter : after ⊆ xs := fun y hy => hsplit ▸
    List.mem_append_right _ (List.mem_cons_of_mem _ hy)
  have hfold : xs.foldl f s = after.foldl f (f (before.foldl f s) x) := by
    rw [hsplit, List.foldl_append, List.foldl_cons]
  rw [hfold]
  exact hrest after hafter x hx _ (hdone _ x hx)

/-- A loop none of whose turns changes the state leaves it. -/
theorem foldl_eq_self {s : σ} (h : ∀ x ∈ xs, f s x = s) : xs.foldl f s = s := by
  induction xs with
  | nil => rfl
  | cons x rest ih =>
    rw [List.foldl_cons, h x List.mem_cons_self]
    exact ih fun y hy => h y (List.mem_cons_of_mem _ hy)

section Checked

universe u

variable {σ : Type u} {ε : Type*} {f : σ → β → σ} {check : σ → β → Except ε PUnit.{u + 1}}
  {s s' : σ}

/-- A loop with a check in each turn, if it ends, has done what the turns do. -/
theorem eq_foldl_of_foldlM_checked
    (h : xs.foldlM (fun s x => do check s x; return f s x) s = .ok s') : s' = xs.foldl f s := by
  induction xs generalizing s with
  | nil => exact (Except.ok.inj h).symm
  | cons x rest ih =>
    rw [List.foldlM_cons] at h
    obtain ⟨s₁, hturn, h⟩ := Except.bind_eq_ok_iff.mp h
    obtain ⟨_, _, hturn⟩ := Except.bind_eq_ok_iff.mp hturn
    obtain rfl := Except.ok.inj hturn
    exact ih h

/-- Among items with distinct keys, where a turn leaves the checks of other items as they are, all
checks can be made before the loop. -/
theorem foldlM_checked_eq_ok_iff (hmiss : ∀ s x y, key x ≠ key y → check (f s x) y = check s y)
    (hnodup : (xs.map key).Nodup) :
    xs.foldlM (fun s x => do check s x; return f s x) s = .ok s' ↔
      s' = xs.foldl f s ∧ ∀ x ∈ xs, check s x = .ok .unit := by
  induction xs generalizing s with
  | nil =>
    simp only [List.foldlM_nil, List.foldl_nil, List.not_mem_nil, false_imp_iff, implies_true,
      and_true]
    exact ⟨fun h => (Except.ok.inj h).symm, fun h => congrArg Except.ok h.symm⟩
  | cons x rest ih =>
    obtain ⟨hx, hrest⟩ := List.nodup_cons.mp hnodup
    have hchecks : (∀ y ∈ rest, check (f s x) y = .ok .unit) ↔ ∀ y ∈ rest, check s y = .ok .unit := by
      refine forall₂_congr fun y hy => ?_
      have hne : key x ≠ key y := fun heq => hx (heq ▸ List.mem_map_of_mem hy)
      rw [hmiss s x y hne]
    rw [List.foldlM_cons, List.forall_mem_cons, List.foldl_cons, and_left_comm, ← hchecks]
    cases check s x with
    | error e => exact ⟨fun h => (nomatch h), fun h => (nomatch h.1)⟩
    | ok _ => exact (ih hrest).trans ⟨fun h => ⟨rfl, h⟩, And.right⟩

end Checked

theorem forall₂_comp {α γ : Type*} {R : α → β → Prop} {S : β → γ → Prop} {T : α → γ → Prop}
    (hcomp : ∀ x y z, R x y → S y z → T x z) {l₁ : List α} {l₂ : List β} {l₃ : List γ}
    (h₁ : List.Forall₂ R l₁ l₂) (h₂ : List.Forall₂ S l₂ l₃) : List.Forall₂ T l₁ l₃ := by
  induction h₁ generalizing l₃ with
  | nil =>
    cases h₂
    exact .nil
  | cons hxy _ ih =>
    cases h₂ with
    | cons hyz hrest => exact .cons (hcomp _ _ _ hxy hyz) (ih hrest)

end Loops
