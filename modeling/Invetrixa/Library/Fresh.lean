import Mathlib.Data.List.Nodup
import Mathlib.Data.List.Perm.Subperm
import Mathlib.Data.List.Range
import Mathlib.Data.Nat.Digits.Defs

/-!
# The first free name

Names tried one after another until one is not taken: a loop that ends because there are more
candidates than taken names.

## Main definitions

- `Fresh.firstFree` — the first candidate that is not taken
- `Fresh.search` — the loop that looks for it
- `Fresh.suffixed` — a name, then the same name with a number
-/

namespace Fresh

variable {α : Type*} [DecidableEq α]

/-- The first candidate that is not taken. One more than there are taken names are tried. -/
def firstFree (taken : List α) (candidate : ℕ → α) : α :=
  (((List.range (taken.length + 1)).map candidate).find? (· ∉ taken)).getD (candidate 0)

theorem exists_firstFree_eq (taken : List α) (candidate : ℕ → α) :
    ∃ n, firstFree taken candidate = candidate n := by
  rw [firstFree]
  cases hfound : ((List.range (taken.length + 1)).map candidate).find? (· ∉ taken) with
  | none => exact ⟨0, rfl⟩
  | some x =>
    obtain ⟨n, _, hn⟩ := List.mem_map.mp (List.mem_of_find?_eq_some hfound)
    exact ⟨n, hn.symm⟩

theorem firstFree_not_mem {candidate : ℕ → α} (h : Function.Injective candidate)
    (taken : List α) : firstFree taken candidate ∉ taken := by
  have hsome : (((List.range (taken.length + 1)).map candidate).find? (· ∉ taken)).isSome := by
    by_contra hnone
    rw [Option.not_isSome_iff_eq_none, List.find?_eq_none] at hnone
    have hsub : (List.range (taken.length + 1)).map candidate ⊆ taken := by
      intro x hx
      simpa using hnone x hx
    have hle := (List.subperm_of_subset (List.nodup_range.map h) hsub).length_le
    rw [List.length_map, List.length_range] at hle
    omega
  obtain ⟨x, hx⟩ := Option.isSome_iff_exists.mp hsome
  rw [firstFree, hx, Option.getD_some]
  simpa using List.find?_some hx

/-- The loop: one candidate after another, until one is not taken. -/
def search (taken : List α) (candidate : ℕ → α) : (fuel n : ℕ) → Option α
  | 0, _ => none
  | fuel + 1, n =>
    if candidate n ∈ taken then search taken candidate fuel (n + 1) else some (candidate n)

theorem search_eq_find? (taken : List α) (candidate : ℕ → α) (fuel n : ℕ) :
    search taken candidate fuel n =
      ((List.range' n fuel).map candidate).find? (· ∉ taken) := by
  induction fuel generalizing n with
  | zero => rfl
  | succ fuel ih =>
    rw [search, List.range'_succ, List.map_cons, List.find?_cons, ih]
    by_cases htaken : candidate n ∈ taken
    · simp [htaken]
    · simp [htaken]

/-- The loop ends, with the first candidate that is free. -/
theorem search_eq_some {candidate : ℕ → α} (h : Function.Injective candidate) (taken : List α) :
    search taken candidate (taken.length + 1) 0 = some (firstFree taken candidate) := by
  have hfree := firstFree_not_mem h taken
  rw [search_eq_find?, ← List.range_eq_range', firstFree]
  rw [firstFree] at hfree
  cases hfound : ((List.range (taken.length + 1)).map candidate).find? (· ∉ taken) with
  | some text => rfl
  | none =>
    -- then the first candidate would be the answer, but it is taken
    rw [hfound, Option.getD_none] at hfree
    have hzero : candidate 0 ∈ (List.range (taken.length + 1)).map candidate :=
      List.mem_map_of_mem (List.mem_range.mpr (Nat.succ_pos _))
    exact absurd (decide_eq_true hfree) (List.find?_eq_none.mp hfound _ hzero)

/-- A name, and the same name with a number after it. -/
def suffixed (name : String) : ℕ → String
  | 0 => name
  | n + 1 => name ++ "-" ++ toString (n + 1)

theorem suffixed_injective (name : String) : Function.Injective (suffixed name) := by
  intro m n h
  have hlist := congrArg String.toList h
  cases m with
  | zero =>
    cases n with
    | zero => rfl
    | succ n =>
      have hlength := congrArg List.length hlist
      simp [suffixed] at hlength
  | succ m =>
    cases n with
    | zero =>
      have hlength := congrArg List.length hlist
      simp [suffixed] at hlength
    | succ n =>
      simp only [suffixed, String.toList_append, List.append_cancel_left_eq, Nat.toString_eq_repr,
        Nat.toList_repr] at hlist
      have hvalue := congrArg (fun digits => Nat.ofDigitChars 10 digits 0) hlist
      simpa using hvalue

end Fresh
