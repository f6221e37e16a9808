import Invetrixa.Library.Groups
import Invetrixa.Library.Table

/-!
# Totals by key

A total over the rows of a table, taken apart by a key that a function reads off each row.

## Main results

- `sum_by_key` — the parts of the keys of a list are the total of the rows with these keys
- `sum_eq_sum_by_key` — they are the whole total if the other keys have nothing
-/

namespace Totals

open Rowstore

variable {κ ρ α M : Type*} [DecidableEq κ] [DecidableEq α] [AddCommMonoid M]

theorem sum_map_ite_eq {l : List α} (hnodup : l.Nodup) (a : α) (x : M) :
    (l.map fun b => if a = b then x else 0).sum = if a ∈ l then x else 0 := by
  induction l with
  | nil => simp
  | cons b rest ih =>
    obtain ⟨hb, hrest⟩ := List.nodup_cons.mp hnodup
    rw [List.map_cons, List.sum_cons, ih hrest]
    by_cases hab : a = b
    · subst hab
      simp [hb]
    · simp [hab]

section Tables

variable {t : Table κ ρ} {key : κ → ρ → α} {g : κ → ρ → M} {l : List α}

variable (key) in
theorem sum_by_key (hnodup : l.Nodup) :
    (l.map fun a => t.sum fun k r => if key k r = a then g k r else 0).sum =
      t.sum fun k r => if key k r ∈ l then g k r else 0 := by
  have hswap : ∀ l : List α,
      (l.map fun a => t.sum fun k r => if key k r = a then g k r else 0).sum =
        t.sum fun k r => (l.map fun a => if key k r = a then g k r else 0).sum := by
    intro l
    induction l with
    | nil => simp [Table.sum]
    | cons a rest ih => simp only [List.map_cons, List.sum_cons, ih, Table.sum_add]
  rw [hswap]
  apply Table.sum_congr
  intro k r _
  exact sum_map_ite_eq hnodup _ _

variable (key) in
/-- A total is that of the parts, if there is nothing under the keys that are not in the list. -/
theorem sum_eq_sum_by_key (hnodup : l.Nodup)
    (hzero : ∀ a, a ∉ l → (t.sum fun k r => if key k r = a then g k r else 0) = 0) :
    t.sum g = (l.map fun a => t.sum fun k r => if key k r = a then g k r else 0).sum := by
  -- the keys that rows have and the list does not
  let others : List α := (t.rows.map fun r => key r.1 r.2).eraseDups.filter (· ∉ l)
  have hothers : others.Nodup := (Groups.nodup_eraseDups _).filter _
  have hnothing : (t.sum fun k r => if key k r ∈ others then g k r else 0) = 0 := by
    rw [← sum_by_key key hothers]
    apply List.sum_eq_zero
    intro x hx
    obtain ⟨a, ha, rfl⟩ := List.mem_map.mp hx
    exact hzero a (of_decide_eq_true (List.mem_filter.mp ha).2)
  rw [sum_by_key key hnodup]
  calc t.sum g = t.sum fun k r => (if key k r ∈ l then g k r else 0) +
        if key k r ∈ others then g k r else 0 := by
        apply Table.sum_congr
        intro k r hr
        have hmem : key k r ∈ others ↔ key k r ∉ l := by
          have hkey : key k r ∈ (t.rows.map fun r => key r.1 r.2).eraseDups :=
            List.mem_eraseDups.mpr (List.mem_map.mpr ⟨(k, r), Table.mem_rows_of_find? hr, rfl⟩)
          simp [others, hkey]
        by_cases hl : key k r ∈ l
        · simp [hmem, hl]
        · simp [hmem, hl]
    _ = t.sum fun k r => if key k r ∈ l then g k r else 0 := by
        rw [Table.sum_add, hnothing, add_zero]

end Tables

end Totals
