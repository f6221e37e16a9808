import Mathlib.Algebra.BigOperators.Group.List.Basic
import Mathlib.Algebra.Order.BigOperators.Group.List
import Mathlib.Algebra.Order.Group.Defs
import Mathlib.Data.List.Nodup
import Mathlib.Data.List.Perm.Subperm
import Mathlib.Tactic.Abel

/-!
# Keyed tables

Tables of rows under a unique key, as lists in insertion order, with the writes a
relational client makes on them and the sum of a function over the rows.

## Main definitions

- `Table κ ρ` — rows of type `ρ`, no key of type `κ` twice
- `Serial ρ` — a table that hands out its keys itself and never hands one out twice
- `Table.sum` — the sum of a function over all rows
- `Table.All` — a predicate on every row
-/

namespace Rowstore

/-- Rows under a key. The list keeps the order of insertion. -/
structure Table (κ ρ : Type*) where
  rows : List (κ × ρ)
  nodup : (rows.map Prod.fst).Nodup

namespace Table

variable {κ ρ : Type*}

/-- The table without rows. -/
def empty : Table κ ρ := ⟨[], List.nodup_nil⟩

section Writes

variable (t : Table κ ρ)

/-- Rewrite every row that `p` selects (`updateMany`). -/
def modifyWhere (p : κ → ρ → Bool) (f : ρ → ρ) : Table κ ρ where
  rows := t.rows.map fun r => if p r.1 r.2 then (r.1, f r.2) else r
  nodup := by
    have hkeys : (t.rows.map fun r => if p r.1 r.2 then (r.1, f r.2) else r).map Prod.fst =
        t.rows.map Prod.fst := by
      rw [List.map_map]
      refine List.map_congr_left fun r _ => ?_
      by_cases hp : p r.1 r.2 = true <;> simp [hp]
    rw [hkeys]
    exact t.nodup

/-- Drop every row that `p` selects (`deleteMany`). -/
def deleteWhere (p : κ → ρ → Bool) : Table κ ρ where
  rows := t.rows.filter fun r => !p r.1 r.2
  nodup := t.nodup.sublist (List.filter_sublist.map _)

/-- The rows that `p` selects (`findMany`), under their keys. -/
def select (p : κ → ρ → Bool) : Table κ ρ where
  rows := t.rows.filter fun r => p r.1 r.2
  nodup := t.nodup.sublist (List.filter_sublist.map _)

/-- Every row seen through a function. -/
def map {ρ' : Type*} (f : ρ → ρ') : Table κ ρ' where
  rows := t.rows.map fun r => (r.1, f r.2)
  nodup := by
    rw [List.map_map]
    exact t.nodup

variable [DecidableEq κ]

/-- The row under a key (`findUnique`). -/
def find? (k : κ) : Option ρ := (t.rows.find? fun r => r.1 = k).map Prod.snd

/-- Rewrite the row under a key (`update`). -/
def modify (k : κ) (f : ρ → ρ) : Table κ ρ := t.modifyWhere (fun k' _ => k' = k) f

/-- Add a row under a key that is not in use; a used key keeps its row. -/
def insert (k : κ) (r : ρ) : Table κ ρ :=
  if h : k ∈ t.rows.map Prod.fst then t
  else ⟨t.rows ++ [(k, r)], by
    rw [List.map_append]
    exact t.nodup.append (List.nodup_singleton _) (by simpa using h)⟩

/-- Rewrite the row under a key, or add one (`upsert`). -/
def upsert (k : κ) (create : ρ) (update : ρ → ρ) : Table κ ρ :=
  if (t.find? k).isSome then t.modify k update else t.insert k create

end Writes

section Lookup

variable [DecidableEq κ] {t : Table κ ρ} {k k' : κ} {r : ρ}

theorem mem_rows_of_find? (h : t.find? k = some r) : (k, r) ∈ t.rows := by
  obtain ⟨⟨k₁, r₁⟩, hfind, hr⟩ := Option.map_eq_some_iff.mp h
  have hk : k₁ = k := by simpa using List.find?_some hfind
  subst hk
  subst hr
  exact List.mem_of_find?_eq_some hfind

theorem find?_of_mem_rows (h : (k, r) ∈ t.rows) : t.find? k = some r := by
  rw [find?]
  cases hfind : t.rows.find? fun x => x.1 = k with
  | none =>
    have hne := List.find?_eq_none.mp hfind _ h
    simp at hne
  | some x =>
    have hx : x.1 = k := by simpa using List.find?_some hfind
    have hmem := List.mem_of_find?_eq_some hfind
    have heq : x = (k, r) := List.inj_on_of_nodup_map t.nodup hmem h hx
    simp [heq]

theorem find?_eq_some_iff : t.find? k = some r ↔ (k, r) ∈ t.rows :=
  ⟨mem_rows_of_find?, find?_of_mem_rows⟩

theorem find?_map {ρ' : Type*} (t : Table κ ρ) (f : ρ → ρ') (k : κ) :
    (t.map f).find? k = (t.find? k).map f := by
  simp only [find?, map, List.find?_map, Option.map_map]
  rfl

theorem find?_eq_none_iff : t.find? k = none ↔ k ∉ t.rows.map Prod.fst := by
  rw [Option.eq_none_iff_forall_ne_some]
  constructor
  · intro h hmem
    obtain ⟨⟨k₁, r⟩, hr, rfl⟩ := List.mem_map.mp hmem
    exact h r (find?_of_mem_rows hr)
  · intro h r hr
    exact h (List.mem_map.mpr ⟨_, mem_rows_of_find? hr, rfl⟩)

@[simp] theorem find?_empty : (empty : Table κ ρ).find? k = none := rfl

theorem find?_modifyWhere (p : κ → ρ → Bool) (f : ρ → ρ) :
    (t.modifyWhere p f).find? k = (t.find? k).map fun r => if p k r then f r else r := by
  cases hfind : t.find? k with
  | none =>
    rw [find?_eq_none_iff] at hfind
    rw [Option.map_none, find?_eq_none_iff]
    intro hmem
    obtain ⟨⟨k₁, r₁⟩, hr, rfl⟩ := List.mem_map.mp hmem
    obtain ⟨⟨k₂, r₂⟩, hr₂, heq⟩ := List.mem_map.mp hr
    refine hfind (List.mem_map.mpr ⟨_, hr₂, ?_⟩)
    by_cases hp : p k₂ r₂ = true <;> simp [hp] at heq <;> exact heq.1
  | some r =>
    rw [Option.map_some, find?_eq_some_iff]
    refine List.mem_map.mpr ⟨(k, r), mem_rows_of_find? hfind, ?_⟩
    by_cases hp : p k r = true <;> simp [hp]

theorem find?_modify (f : ρ → ρ) :
    (t.modify k f).find? k' = if k' = k then (t.find? k').map f else t.find? k' := by
  rw [modify, find?_modifyWhere]
  by_cases hk : k' = k <;> simp [hk]

/-- A row after an update: another one that was there, or the updated one. -/
theorem find?_modify_cases {f : ρ → ρ} (h : (t.modify k f).find? k' = some r) :
    (k' ≠ k ∧ t.find? k' = some r) ∨ (k' = k ∧ ∃ r₀, t.find? k' = some r₀ ∧ r = f r₀) := by
  rw [find?_modify] at h
  split at h
  · next hk =>
    obtain ⟨r₀, hr₀, hr⟩ := Option.map_eq_some_iff.mp h
    exact .inr ⟨hk, r₀, hr₀, hr.symm⟩
  · next hk => exact .inl ⟨hk, h⟩

/-- The rows under a key are its one row. -/
theorem filter_key (h : t.find? k = some r) : (t.rows.filter fun x => x.1 = k) = [(k, r)] := by
  have hmem := mem_rows_of_find? h
  have hnodup := t.nodup
  generalize t.rows = rows at hmem hnodup ⊢
  induction rows with
  | nil => cases hmem
  | cons x rest ih =>
    rw [List.map_cons, List.nodup_cons] at hnodup
    rcases List.mem_cons.mp hmem with rfl | hrest
    · rw [List.filter_cons_of_pos (by simp)]
      congr 1
      refine List.filter_eq_nil_iff.mpr fun y hy hyk => hnodup.1 ?_
      exact List.mem_map.mpr ⟨y, hy, of_decide_eq_true hyk⟩
    · have hne : x.1 ≠ k := by
        rintro rfl
        exact hnodup.1 (List.mem_map.mpr ⟨_, hrest, rfl⟩)
      rw [List.filter_cons_of_neg (by simpa using hne), ih hrest hnodup.2]

theorem find?_insert_of_none (h : t.find? k = none) (r : ρ) :
    (t.insert k r).find? k' = if k' = k then some r else t.find? k' := by
  have hmem := find?_eq_none_iff.mp h
  by_cases hk : k' = k
  · subst hk
    rw [if_pos rfl, find?_eq_some_iff, insert, dif_neg hmem]
    simp
  · rw [if_neg hk]
    simp only [insert, dif_neg hmem, find?, List.find?_append]
    cases t.rows.find? fun r => r.1 = k' <;> simp [Ne.symm hk]

theorem find?_upsert (create : ρ) (update : ρ → ρ) :
    (t.upsert k create update).find? k' =
      if k' = k then some (((t.find? k).map update).getD create) else t.find? k' := by
  rw [upsert]
  cases hfind : t.find? k with
  | none =>
    simp [find?_insert_of_none hfind]
  | some r =>
    simp only [Option.isSome_some, if_true, find?_modify]
    by_cases hk : k' = k
    · subst hk
      simp [hfind]
    · simp [hk]

/-- A row that is put under its key, whether there was one or not. -/
theorem find?_upsert_const (r : ρ) :
    (t.upsert k r fun _ => r).find? k' = if k' = k then some r else t.find? k' := by
  rw [find?_upsert]
  cases t.find? k with
  | none => rfl
  | some _ => rfl

theorem find?_deleteWhere (p : κ → ρ → Bool) :
    (t.deleteWhere p).find? k = (t.find? k).filter fun r => !p k r := by
  cases hfind : t.find? k with
  | none =>
    rw [Option.filter_none, find?_eq_none_iff]
    rw [find?_eq_none_iff] at hfind
    intro hmem
    obtain ⟨x, hx, rfl⟩ := List.mem_map.mp hmem
    exact hfind (List.mem_map.mpr ⟨x, (List.mem_filter.mp hx).1, rfl⟩)
  | some r =>
    have hmem := mem_rows_of_find? hfind
    by_cases hp : p k r = true
    · rw [Option.filter_some_neg (by simp [hp]), find?_eq_none_iff]
      intro hk
      obtain ⟨⟨k₁, r₁⟩, hx, rfl⟩ := List.mem_map.mp hk
      obtain ⟨hx, hnot⟩ := List.mem_filter.mp hx
      have : some r₁ = some r := (find?_of_mem_rows hx).symm.trans hfind
      simp_all
    · rw [Option.filter_some_pos (by simpa using hp), find?_eq_some_iff]
      exact List.mem_filter.mpr ⟨hmem, by simpa using hp⟩

theorem find?_select (p : κ → ρ → Bool) : (t.select p).find? k = (t.find? k).filter (p k) := by
  apply Option.ext
  intro r
  rw [find?_eq_some_iff, Option.filter_eq_some_iff, find?_eq_some_iff]
  exact List.mem_filter

/-- As many rows of a kind are found under listed keys as there are keys on the list, exactly if
no key is listed twice and each has a row of the kind. -/
theorem length_select_keys_eq_iff (t : Table κ ρ) (ids : List κ) (p : κ → ρ → Bool) :
    (t.select fun i r => decide (i ∈ ids) && p i r).rows.length = ids.length ↔
      ids.Nodup ∧ ∀ i ∈ ids, ∃ r, t.find? i = some r ∧ p i r = true := by
  set found := t.select fun i r => decide (i ∈ ids) && p i r with hfound
  have hkey {i : κ} : i ∈ found.rows.map Prod.fst ↔
      i ∈ ids ∧ ∃ r, t.find? i = some r ∧ p i r = true := by
    rw [← not_iff_not, ← find?_eq_none_iff, hfound, find?_select, Option.filter_eq_none_iff]
    simp only [Bool.and_eq_true, decide_eq_true_eq]
    grind
  have hsub : found.rows.map Prod.fst ⊆ ids := fun i hi => (hkey.mp hi).1
  have hkeys : (found.rows.map Prod.fst).length = found.rows.length := List.length_map _
  rw [← hkeys]
  constructor
  · intro hlength
    have hperm := (List.subperm_of_subset found.nodup hsub).perm_of_length_le hlength.ge
    exact ⟨hperm.nodup_iff.mp found.nodup, fun i hi => (hkey.mp (hperm.mem_iff.mpr hi)).2⟩
  · rintro ⟨hids, hall⟩
    have hsup : ids ⊆ found.rows.map Prod.fst := fun i hi => hkey.mpr ⟨hi, hall i hi⟩
    exact ((List.subperm_of_subset found.nodup hsub).antisymm
      (List.subperm_of_subset hids hsup)).length_eq

theorem find?_deleteWhere_of_some {p : κ → ρ → Bool} (h : t.find? k = some r)
    (hp : p k r = false) : (t.deleteWhere p).find? k = some r := by
  rw [find?_deleteWhere, h, Option.filter_some_pos (by rw [hp]; rfl)]

theorem find?_of_find?_deleteWhere {p : κ → ρ → Bool} (h : (t.deleteWhere p).find? k = some r) :
    t.find? k = some r ∧ p k r = false := by
  rw [find?_deleteWhere, Option.filter_eq_some_iff, Bool.not_eq_eq_eq_not, Bool.not_true] at h
  exact h

/-- Rewriting a row that is not selected, before or after, leaves the selected rows. -/
theorem filter_find?_modify {f : ρ → ρ} {p : ρ → Bool}
    (h : ∀ r, t.find? k = some r → p r = false ∧ p (f r) = false) :
    ((t.modify k f).find? k').filter p = (t.find? k').filter p := by
  rw [find?_modify]
  split
  · next hk =>
    subst hk
    cases hfind : t.find? k' with
    | none => rfl
    | some r =>
      obtain ⟨hbefore, hafter⟩ := h r hfind
      simp [Option.filter, hbefore, hafter]
  · rfl

/-- Deleting rows that are not selected leaves the selected rows. -/
theorem filter_find?_deleteWhere {p : ρ → Bool} {q : κ → ρ → Bool}
    (h : ∀ k r, t.find? k = some r → q k r = true → p r = false) :
    ((t.deleteWhere q).find? k).filter p = (t.find? k).filter p := by
  rw [find?_deleteWhere]
  cases hfind : t.find? k with
  | none => rfl
  | some r =>
    by_cases hq : q k r = true
    · simp [Option.filter, hq, h k r hfind hq]
    · simp [Option.filter, hq]

end Lookup

section Sum

variable {M : Type*} {t : Table κ ρ}

/-- The sum of `g` over all rows. -/
def sum [AddCommMonoid M] (t : Table κ ρ) (g : κ → ρ → M) : M :=
  (t.rows.map fun r => g r.1 r.2).sum

@[simp] theorem sum_empty [AddCommMonoid M] (g : κ → ρ → M) : (empty : Table κ ρ).sum g = 0 := rfl

/-- An `updateMany` sums like the old rows under the rewritten summand. -/
theorem sum_modifyWhere [AddCommMonoid M] (p : κ → ρ → Bool) (f : ρ → ρ) (g : κ → ρ → M) :
    (t.modifyWhere p f).sum g = t.sum fun k r => if p k r then g k (f r) else g k r := by
  simp only [sum, modifyWhere, List.map_map]
  congr 1
  refine List.map_congr_left fun r _ => ?_
  by_cases hp : p r.1 r.2 = true <;> simp [hp]

/-- Summing the selected rows is summing all rows with 0 for the others. -/
theorem sum_filter [AddCommMonoid M] (p : κ × ρ → Bool) (g : κ → ρ → M) :
    ((t.rows.filter p).map fun r => g r.1 r.2).sum =
      t.sum fun k r => if p (k, r) then g k r else 0 := by
  simp only [sum]
  induction t.rows with
  | nil => rfl
  | cons r rest ih => by_cases hp : p r = true <;> simp [hp, ih]

theorem sum_add [AddCommMonoid M] (g h : κ → ρ → M) :
    (t.sum fun k r => g k r + h k r) = t.sum g + t.sum h := by
  simp only [sum]
  exact List.sum_map_add

/-- Two tables can be summed in either order. -/
theorem sum_comm [AddCommMonoid M] {κ' ρ' : Type*} (t' : Table κ' ρ') (g : κ → ρ → κ' → ρ' → M) :
    (t.sum fun k r => t'.sum (g k r)) = t'.sum fun k' r' => t.sum fun k r => g k r k' r' := by
  simp only [sum]
  induction t.rows with
  | nil => simp
  | cons r rest ih => simp only [List.map_cons, List.sum_cons, ih, List.sum_map_add]

variable [DecidableEq κ]

/-- The sum depends only on the summands of the rows that are there. -/
theorem sum_congr [AddCommMonoid M] {g h : κ → ρ → M}
    (hgh : ∀ k r, t.find? k = some r → g k r = h k r) : t.sum g = t.sum h := by
  rw [sum]
  congr 1
  refine List.map_congr_left fun r hr => ?_
  exact hgh _ _ (find?_of_mem_rows hr)

theorem sum_eq_zero [AddCommMonoid M] {g : κ → ρ → M}
    (hg : ∀ k r, t.find? k = some r → g k r = 0) : t.sum g = 0 := by
  rw [sum_congr hg]
  simp [sum]

theorem sum_insert_of_none [AddCommMonoid M] {k : κ} (h : t.find? k = none) (r : ρ)
    (g : κ → ρ → M) : (t.insert k r).sum g = t.sum g + g k r := by
  simp [sum, insert, find?_eq_none_iff.mp h]

/-- A table found row by row from another one sums like it. -/
theorem sum_of_find? [AddCommMonoid M] {t' : Table κ ρ} {f : κ → ρ → ρ}
    (h : ∀ k, t'.find? k = (t.find? k).map (f k)) (g : κ → ρ → M) :
    t'.sum g = t.sum fun k r => g k (f k r) := by
  have hperm : t'.rows.Perm (t.rows.map fun r => (r.1, f r.1 r.2)) := by
    have hkeys : (t.rows.map fun r => (r.1, f r.1 r.2)).map Prod.fst = t.rows.map Prod.fst := by
      rw [List.map_map]
      rfl
    refine (List.perm_ext_iff_of_nodup (List.Nodup.of_map _ t'.nodup)
      (List.Nodup.of_map Prod.fst (hkeys ▸ t.nodup))).mpr ?_
    rintro ⟨k, r'⟩
    rw [← find?_eq_some_iff, h, Option.map_eq_some_iff, List.mem_map]
    constructor
    · rintro ⟨r, hr, rfl⟩
      exact ⟨(k, r), mem_rows_of_find? hr, rfl⟩
    · rintro ⟨x, hx, heq⟩
      obtain ⟨rfl, rfl⟩ := Prod.mk.inj heq
      exact ⟨x.2, find?_of_mem_rows hx, rfl⟩
  rw [sum, (hperm.map _).sum_eq, List.map_map]
  rfl

/-- Two tables whose selected rows have the same figures sum alike over them. -/
theorem sum_eq_of_filter [AddCommMonoid M] {β : Type*} {t' : Table κ ρ} {p q : κ → ρ → Bool}
    {f : ρ → β}
    (h : ∀ k, ((t.find? k).filter (p k)).map f = ((t'.find? k).filter (q k)).map f) (g : β → M) :
    (t.sum fun k r => if p k r then g (f r) else 0) =
      t'.sum fun k r => if q k r then g (f r) else 0 := by
  -- The keys and figures of the selected rows, which determine the sum.
  have hfigures (t : Table κ ρ) (p : κ → ρ → Bool) :
      (t.sum fun k r => if p k r then g (f r) else 0) =
        (((t.rows.filter fun r => p r.1 r.2).map fun r => (r.1, f r.2)).map fun x => g x.2).sum := by
    rw [List.map_map]
    exact (sum_filter (fun r => p r.1 r.2) fun _ r => g (f r)).symm
  have hnodup (t : Table κ ρ) (p : κ → ρ → Bool) :
      ((t.rows.filter fun r => p r.1 r.2).map fun r => (r.1, f r.2)).Nodup := by
    refine List.Nodup.of_map Prod.fst ?_
    rw [List.map_map]
    exact t.nodup.sublist (List.filter_sublist.map _)
  have hmem (t : Table κ ρ) (p : κ → ρ → Bool) (x : κ × β) :
      x ∈ ((t.rows.filter fun r => p r.1 r.2).map fun r => (r.1, f r.2)) ↔
        ((t.find? x.1).filter (p x.1)).map f = some x.2 := by
    rw [List.mem_map, Option.map_eq_some_iff]
    constructor
    · rintro ⟨r, hr, rfl⟩
      obtain ⟨hr, hp⟩ := List.mem_filter.mp hr
      exact ⟨r.2, Option.filter_eq_some_iff.mpr ⟨find?_of_mem_rows hr, hp⟩, rfl⟩
    · rintro ⟨r, hr, hx⟩
      obtain ⟨hr, hp⟩ := Option.filter_eq_some_iff.mp hr
      exact ⟨(x.1, r), List.mem_filter.mpr ⟨mem_rows_of_find? hr, hp⟩, Prod.ext rfl hx⟩
  rw [hfigures, hfigures]
  refine List.Perm.sum_eq (List.Perm.map _ ?_)
  refine (List.perm_ext_iff_of_nodup (hnodup t p) (hnodup t' q)).mpr fun x => ?_
  rw [hmem, hmem, h]

/-- Among the summands of a single key only its row counts. -/
theorem sum_ite_key [AddCommMonoid M] {k : κ} {r : ρ} (h : t.find? k = some r) (g : κ → ρ → M) :
    (t.sum fun k' r' => if k' = k then g k' r' else 0) = g k r := by
  have hmem := mem_rows_of_find? h
  have hnodup := t.nodup
  simp only [sum]
  generalize t.rows = rows at hmem hnodup ⊢
  induction rows with
  | nil => cases hmem
  | cons x rest ih =>
    rw [List.map_cons, List.nodup_cons] at hnodup
    simp only [List.map_cons, List.sum_cons]
    rcases List.mem_cons.mp hmem with rfl | hrest
    · -- The key occurs once, so the rest of the rows does not count.
      have hzero : (rest.map fun y => if y.1 = k then g y.1 y.2 else 0) =
          rest.map fun _ => 0 := by
        refine List.map_congr_left fun y hy => ?_
        rw [if_neg]
        rintro rfl
        exact hnodup.1 (List.mem_map.mpr ⟨y, hy, rfl⟩)
      rw [hzero, if_pos rfl]
      simp
    · have hne : x.1 ≠ k := by
        rintro rfl
        exact hnodup.1 (List.mem_map.mpr ⟨_, hrest, rfl⟩)
      rw [if_neg hne, ih hrest hnodup.2, zero_add]

/-- The row of one key, where a condition holds of it. -/
theorem sum_ite_key_and [AddCommMonoid M] (k : κ) (p : ρ → Bool) (m : M) :
    (t.sum fun k' r' => if k' = k ∧ p r' = true then m else 0) =
      if (t.find? k).any p = true then m else 0 := by
  cases h : t.find? k with
  | none =>
    refine sum_eq_zero fun k' r' hr' => if_neg ?_
    rintro ⟨rfl, _⟩
    rw [h] at hr'
    cases hr'
  | some r =>
    rw [Option.any_some, ← sum_ite_key h fun _ r' => if p r' = true then m else 0]
    refine sum_congr fun k' r' _ => ?_
    rw [ite_and]

/-- Rows that count for nothing can be deleted. -/
theorem sum_deleteWhere [AddCommMonoid M] {p : κ → ρ → Bool} {g : κ → ρ → M}
    (hg : ∀ k r, t.find? k = some r → p k r = true → g k r = 0) :
    (t.deleteWhere p).sum g = t.sum g := by
  refine (sum_filter (fun r => !p r.1 r.2) g).trans (sum_congr fun k r hr => ?_)
  by_cases hp : p k r = true
  · simp [hp, hg k r hr hp]
  · simp [hp]

/-- Deleting one row takes its summand out. -/
theorem sum_delete [AddCommGroup M] {k : κ} {r : ρ} (h : t.find? k = some r) (g : κ → ρ → M) :
    (t.deleteWhere fun k' _ => k' = k).sum g = t.sum g - g k r := by
  rw [eq_sub_iff_add_eq, ← sum_ite_key h g]
  refine (congrArg (· + _) (sum_filter (fun r' => !decide (r'.1 = k)) g)).trans ?_
  rw [← sum_add]
  refine sum_congr fun k' r' _ => ?_
  by_cases hk : k' = k
  · simp [hk]
  · simp [hk]

/-- Rewriting one row trades its old summand for the new one. -/
theorem sum_modify [AddCommGroup M] {k : κ} {r : ρ} (h : t.find? k = some r) (f : ρ → ρ)
    (g : κ → ρ → M) : (t.modify k f).sum g = t.sum g - g k r + g k (f r) := by
  have hsplit : (t.sum fun k' r' => if k' = k then g k' (f r') else g k' r') =
      t.sum fun k' r' => g k' r' + if k' = k then g k' (f r') - g k' r' else 0 := by
    refine sum_congr fun k' r' _ => ?_
    by_cases hk : k' = k
    · rw [if_pos hk, if_pos hk]
      abel
    · rw [if_neg hk, if_neg hk, add_zero]
  rw [modify, sum_modifyWhere]
  simp only [decide_eq_true_eq]
  rw [hsplit, sum_add, sum_ite_key h fun k' r' => g k' (f r') - g k' r']
  abel

/-- Rewriting a row to itself changes nothing. -/
theorem modify_eq_self {k : κ} {f : ρ → ρ} (h : ∀ r, t.find? k = some r → f r = r) :
    t.modify k f = t := by
  obtain ⟨rows, nodup⟩ := t
  simp only [modify, modifyWhere, mk.injEq]
  conv_rhs => rw [← List.map_id rows]
  refine List.map_congr_left fun x hx => ?_
  by_cases hk : x.1 = k
  · have hf : f x.2 = x.2 := h x.2 (find?_of_mem_rows (hk ▸ hx))
    rw [if_pos (decide_eq_true hk), hf, id]
  · rw [if_neg (by simpa using hk), id]

/-- A table found like another one but for one row sums like it but for this row. -/
theorem sum_of_find?_ite [AddCommGroup M] {t' : Table κ ρ} {k : κ} {r r' : ρ}
    (h : t.find? k = some r) (h' : ∀ k', t'.find? k' = if k' = k then some r' else t.find? k')
    (g : κ → ρ → M) : t'.sum g = t.sum g - g k r + g k r' := by
  rw [← sum_modify h (fun _ => r') g]
  refine sum_of_find? (f := fun _ r => r) (fun k' => ?_) g
  rw [h', find?_modify, Option.map_id']
  by_cases hk : k' = k
  · rw [if_pos hk, if_pos hk, hk, h, Option.map_some]
  · rw [if_neg hk, if_neg hk]

theorem sum_upsert_of_some [AddCommGroup M] {k : κ} {r : ρ} (h : t.find? k = some r) (create : ρ)
    (update : ρ → ρ) (g : κ → ρ → M) :
    (t.upsert k create update).sum g = t.sum g - g k r + g k (update r) := by
  simp only [upsert, h, Option.isSome_some, if_true]
  exact sum_modify h update g

theorem sum_upsert_of_none [AddCommMonoid M] {k : κ} (h : t.find? k = none) (create : ρ)
    (update : ρ → ρ) (g : κ → ρ → M) :
    (t.upsert k create update).sum g = t.sum g + g k create := by
  simp only [upsert, h, Option.isSome_none, Bool.false_eq_true, if_false]
  exact sum_insert_of_none h create g

/-- Rewriting rows one after another, each once, trades each old summand for the new one. -/
theorem sum_foldl_modify [AddCommGroup M] {β : Type*} (key : β → κ) (row : β → ρ)
    (f : β → ρ → ρ) (g : κ → ρ → M) (ds : List β) (hnodup : (ds.map key).Nodup)
    (hrow : ∀ d ∈ ds, t.find? (key d) = some (row d)) :
    (ds.foldl (fun t d => t.modify (key d) (f d)) t).sum g =
      t.sum g + (ds.map fun d => g (key d) (f d (row d)) - g (key d) (row d)).sum := by
  induction ds generalizing t with
  | nil => simp
  | cons d rest ih =>
    rw [List.map_cons, List.nodup_cons] at hnodup
    have hd := hrow d List.mem_cons_self
    have hrest : ∀ e ∈ rest, (t.modify (key d) (f d)).find? (key e) = some (row e) := by
      intro e he
      have hne : key e ≠ key d := by
        intro heq
        exact hnodup.1 (heq ▸ List.mem_map_of_mem he)
      rw [find?_modify, if_neg hne]
      exact hrow e (List.mem_cons_of_mem _ he)
    rw [List.foldl_cons, ih hnodup.2 hrest, sum_modify hd, List.map_cons, List.sum_cons]
    abel

section Order

variable [AddCommMonoid M] [PartialOrder M] [IsOrderedAddMonoid M] {g : κ → ρ → M}

theorem sum_nonneg (hg : ∀ k r, t.find? k = some r → 0 ≤ g k r) : 0 ≤ t.sum g := by
  refine List.sum_nonneg fun x hx => ?_
  obtain ⟨r, hr, rfl⟩ := List.mem_map.mp hx
  exact hg _ _ (find?_of_mem_rows hr)

/-- A sum of what is not negative is zero only if each summand is. -/
theorem sum_eq_zero_iff (hg : ∀ k r, t.find? k = some r → 0 ≤ g k r) :
    t.sum g = 0 ↔ ∀ k r, t.find? k = some r → g k r = 0 := by
  refine ⟨fun hsum k r hr => le_antisymm ?_ (hg k r hr), sum_eq_zero⟩
  rw [← hsum]
  refine List.single_le_sum (fun x hx => ?_) _
    (List.mem_map.mpr ⟨(k, r), mem_rows_of_find? hr, rfl⟩)
  obtain ⟨row, hrow, rfl⟩ := List.mem_map.mp hx
  exact hg _ _ (find?_of_mem_rows hrow)

end Order

end Sum

section Filter

variable {t : Table κ ρ} {sel : κ × ρ → Bool}

/-- An `updateMany` of rows that are not selected, before or after, leaves the selected rows. -/
theorem filter_modifyWhere {p : κ → ρ → Bool} {f : ρ → ρ}
    (h : ∀ k r, (k, r) ∈ t.rows → p k r = true → sel (k, r) = false ∧ sel (k, f r) = false) :
    (t.modifyWhere p f).rows.filter sel = t.rows.filter sel := by
  simp only [modifyWhere]
  generalize t.rows = rows at h ⊢
  induction rows with
  | nil => rfl
  | cons x rest ih =>
    rw [List.map_cons, List.filter_cons, List.filter_cons,
      ih fun k r hr => h k r (List.mem_cons_of_mem _ hr)]
    by_cases hp : p x.1 x.2 = true
    · obtain ⟨hbefore, hafter⟩ := h x.1 x.2 List.mem_cons_self hp
      simp [hp, hbefore, hafter]
    · rw [if_neg hp]

end Filter

section All

variable [DecidableEq κ] {t : Table κ ρ} {P : κ → ρ → Prop}

/-- `P` holds of every row. -/
def All (t : Table κ ρ) (P : κ → ρ → Prop) : Prop := ∀ k r, t.find? k = some r → P k r

theorem All.imp {Q : κ → ρ → Prop} (h : t.All P) (hPQ : ∀ k r, P k r → Q k r) : t.All Q :=
  fun k r hr => hPQ k r (h k r hr)

theorem All.modifyWhere (h : t.All P) {p : κ → ρ → Bool} {f : ρ → ρ}
    (hf : ∀ k r, P k r → p k r = true → P k (f r)) : (t.modifyWhere p f).All P := by
  intro k r hr
  rw [find?_modifyWhere] at hr
  obtain ⟨r₀, hr₀, rfl⟩ := Option.map_eq_some_iff.mp hr
  by_cases hp : p k r₀ = true
  · rw [if_pos hp]
    exact hf k r₀ (h k r₀ hr₀) hp
  · rw [if_neg hp]
    exact h k r₀ hr₀

theorem All.modify (h : t.All P) {k : κ} {f : ρ → ρ}
    (hf : ∀ r, t.find? k = some r → P k r → P k (f r)) : (t.modify k f).All P := by
  intro k' r hr
  rw [find?_modify] at hr
  split at hr
  · next heq =>
    subst heq
    obtain ⟨r₀, hr₀, rfl⟩ := Option.map_eq_some_iff.mp hr
    exact hf r₀ hr₀ (h _ r₀ hr₀)
  · exact h k' r hr

theorem All.upsert (h : t.All P) {k : κ} {create : ρ} {update : ρ → ρ}
    (hcreate : t.find? k = none → P k create)
    (hupdate : ∀ r, t.find? k = some r → P k r → P k (update r)) :
    (t.upsert k create update).All P := by
  intro k' r hr
  rw [find?_upsert] at hr
  split at hr
  · next heq =>
    subst heq
    cases hfind : t.find? k' with
    | none =>
      simp only [hfind, Option.map_none, Option.getD_none, Option.some.injEq] at hr
      exact hr ▸ hcreate hfind
    | some r₀ =>
      simp only [hfind, Option.map_some, Option.getD_some, Option.some.injEq] at hr
      exact hr ▸ hupdate r₀ hfind (h _ r₀ hfind)
  · exact h k' r hr

theorem All.deleteWhere (h : t.All P) (p : κ → ρ → Bool) : (t.deleteWhere p).All P := by
  intro k r hr
  rw [find?_deleteWhere] at hr
  exact h k r (Option.mem_filter_iff.mp hr).1

theorem All.foldl_modify {β : Type*} {key : β → κ} {row : β → ρ} {f : β → ρ → ρ} (ds : List β)
    (h : t.All P) (hnodup : (ds.map key).Nodup)
    (hrow : ∀ d ∈ ds, t.find? (key d) = some (row d))
    (hf : ∀ d ∈ ds, P (key d) (row d) → P (key d) (f d (row d))) :
    (ds.foldl (fun t d => t.modify (key d) (f d)) t).All P := by
  induction ds generalizing t with
  | nil => exact h
  | cons d rest ih =>
    rw [List.map_cons, List.nodup_cons] at hnodup
    have hd := hrow d List.mem_cons_self
    refine ih (h.modify fun r hr hP => ?_) hnodup.2 (fun e he => ?_)
      (fun e he => hf e (List.mem_cons_of_mem _ he))
    · obtain rfl := Option.some.inj (hd.symm.trans hr)
      exact hf d List.mem_cons_self hP
    · have hne : key e ≠ key d := by
        intro heq
        exact hnodup.1 (heq ▸ List.mem_map_of_mem he)
      rw [find?_modify, if_neg hne]
      exact hrow e (List.mem_cons_of_mem _ he)

end All

end Table

/-- A table under keys of its own: the next row goes under `next`, which is above every key
ever handed out, so that a key is not used again after its row is deleted. -/
structure Serial (ρ : Type*) extends Table ℕ ρ where
  next : ℕ
  lt_next : ∀ k ∈ rows.map Prod.fst, k < next

namespace Serial

variable {ρ : Type*}

/-- The table without rows that has handed out no key. -/
def empty : Serial ρ := ⟨Table.empty, 0, by simp [Table.empty]⟩

variable (t : Serial ρ)

/-- Add a row under the next key (`create`); the key is `t.next`. -/
def create (r : ρ) : Serial ρ where
  rows := t.rows ++ [(t.next, r)]
  nodup := by
    rw [List.map_append]
    refine t.nodup.append (List.nodup_singleton _) ?_
    rw [List.map_singleton, List.disjoint_singleton]
    exact fun h => absurd (t.lt_next _ h) (lt_irrefl _)
  next := t.next + 1
  lt_next := by
    intro k hk
    rw [List.map_append, List.mem_append] at hk
    rcases hk with hk | hk
    · exact Nat.lt_succ_of_lt (t.lt_next k hk)
    · simp at hk
      omega

/-- `updateMany` on a serial table. -/
def modifyWhere (p : ℕ → ρ → Bool) (f : ρ → ρ) : Serial ρ where
  toTable := t.toTable.modifyWhere p f
  next := t.next
  lt_next := by
    intro k hk
    refine t.lt_next k ?_
    obtain ⟨x, hx, rfl⟩ := List.mem_map.mp hk
    obtain ⟨y, hy, rfl⟩ := List.mem_map.mp hx
    refine List.mem_map.mpr ⟨y, hy, ?_⟩
    by_cases hp : p y.1 y.2 = true <;> simp [hp]

/-- Every row seen through a function, under the same keys. -/
def map {ρ' : Type*} (f : ρ → ρ') : Serial ρ' where
  toTable := t.toTable.map f
  next := t.next
  lt_next := by
    intro k hk
    refine t.lt_next k ?_
    rw [Table.map, List.map_map] at hk
    exact hk

/-- `update` on a serial table. -/
def modify (k : ℕ) (f : ρ → ρ) : Serial ρ := t.modifyWhere (fun k' _ => k' = k) f

/-- `deleteMany` on a serial table. -/
def deleteWhere (p : ℕ → ρ → Bool) : Serial ρ where
  toTable := t.toTable.deleteWhere p
  next := t.next
  lt_next := by
    intro k hk
    obtain ⟨x, hx, rfl⟩ := List.mem_map.mp hk
    exact t.lt_next _ (List.mem_map_of_mem (List.mem_filter.mp hx).1)

@[simp] theorem toTable_empty : (empty : Serial ρ).toTable = Table.empty := rfl

@[simp] theorem toTable_map {ρ' : Type*} (f : ρ → ρ') : (t.map f).toTable = t.toTable.map f := rfl

@[simp] theorem toTable_modifyWhere (p : ℕ → ρ → Bool) (f : ρ → ρ) :
    (t.modifyWhere p f).toTable = t.toTable.modifyWhere p f := rfl

@[simp] theorem toTable_modify (k : ℕ) (f : ρ → ρ) :
    (t.modify k f).toTable = t.toTable.modify k f := rfl

@[simp] theorem toTable_deleteWhere (p : ℕ → ρ → Bool) :
    (t.deleteWhere p).toTable = t.toTable.deleteWhere p := rfl

@[simp] theorem next_create (r : ρ) : (t.create r).next = t.next + 1 := rfl

@[simp] theorem next_modify (k : ℕ) (f : ρ → ρ) : (t.modify k f).next = t.next := rfl

theorem find?_next : t.find? t.next = none := by
  rw [Table.find?_eq_none_iff]
  exact fun h => absurd (t.lt_next _ h) (lt_irrefl _)

variable {t}

theorem find?_create {k : ℕ} (r : ρ) :
    (t.create r).find? k = if k = t.next then some r else t.find? k := by
  have htab : (t.create r).toTable = t.toTable.insert t.next r := by
    have hmem := Table.find?_eq_none_iff.mp t.find?_next
    simp [create, Table.insert, hmem]
  rw [htab, Table.find?_insert_of_none t.find?_next]

theorem find?_create_of_some {k : ℕ} {r : ρ} (h : t.find? k = some r) (r' : ρ) :
    (t.create r').find? k = some r := by
  rw [find?_create, if_neg, h]
  rintro rfl
  rw [t.find?_next] at h
  cases h

/-- A row that was there, once it is rewritten. -/
theorem find?_modify_of_some {k : ℕ} {r : ρ} (h : t.find? k = some r) (f : ρ → ρ) :
    (t.modify k f).find? k = some (f r) := by
  rw [toTable_modify, Table.find?_modify, if_pos rfl, h, Option.map_some]

/-- A row, seen through what a write leaves alone. -/
theorem map_find?_modify {α : Type*} {g : ρ → α} {f : ρ → ρ} (h : ∀ r, g (f r) = g r)
    (k k' : ℕ) : ((t.modify k f).find? k').map g = (t.find? k').map g := by
  rw [Serial.toTable_modify, Table.find?_modify]
  by_cases hk : k' = k
  · rw [if_pos hk, Option.map_map]
    exact congrArg (Option.map · _) (funext h)
  · rw [if_neg hk]

/-- A write leaves no key without a row. -/
theorem isSome_find?_modify (f : ρ → ρ) (k k' : ℕ) :
    ((t.modify k f).find? k').isSome = (t.find? k').isSome := by
  rw [Serial.toTable_modify, Table.find?_modify]
  split
  · exact Option.isSome_map
  · rfl

/-- A table is its rows and its next key. -/
theorem eq_of_rows {t t' : Serial ρ} (hrows : t.rows = t'.rows) (hnext : t.next = t'.next) :
    t = t' := by
  obtain ⟨⟨rows, _⟩, next, _⟩ := t
  obtain ⟨⟨rows', _⟩, next', _⟩ := t'
  obtain rfl : rows = rows' := hrows
  obtain rfl : next = next' := hnext
  rfl

theorem map_create {ρ' : Type*} (g : ρ → ρ') (r : ρ) :
    (t.create r).map g = (t.map g).create (g r) := by
  refine eq_of_rows ?_ rfl
  exact List.map_append

/-- A write that a function passes on is seen through it. -/
theorem map_modify {ρ' : Type*} {g : ρ → ρ'} {f : ρ → ρ} {f' : ρ' → ρ'}
    (h : ∀ r, g (f r) = f' (g r)) (k : ℕ) : (t.modify k f).map g = (t.map g).modify k f' := by
  refine eq_of_rows ?_ rfl
  show (t.rows.map _).map _ = (t.rows.map _).map _
  rw [List.map_map, List.map_map]
  refine List.map_congr_left fun x _ => ?_
  by_cases hk : x.1 = k <;> simp [hk, h]

theorem any_find?_modify {g : ρ → Bool} {f : ρ → ρ} (h : ∀ r, g (f r) = true) {k : ℕ}
    (hsome : (t.find? k).isSome) (k' : ℕ) :
    ((t.modify k f).find? k').any g = true ↔ (t.find? k').any g = true ∨ k' = k := by
  rw [Serial.toTable_modify, Table.find?_modify]
  by_cases hk : k' = k
  · obtain ⟨r, hr⟩ := Option.isSome_iff_exists.mp hsome
    rw [if_pos hk, hk, hr]
    simp [h]
  · rw [if_neg hk]
    exact ⟨.inl, fun hor => hor.resolve_right hk⟩

/-- A new row that is not selected leaves the selected rows. -/
theorem filter_find?_create {p : ℕ → ρ → Bool} {r : ρ} (h : p t.next r = false) (k : ℕ) :
    ((t.create r).find? k).filter (p k) = (t.find? k).filter (p k) := by
  rw [find?_create]
  split
  · next hk =>
    subst hk
    rw [t.find?_next, Option.filter_some_neg (by simp [h]), Option.filter_none]
  · rfl

/-- A row after an insertion: one that was there, or the new one. -/
theorem find?_create_cases {k : ℕ} {r r' : ρ} (h : (t.create r).find? k = some r') :
    t.find? k = some r' ∨ (k = t.next ∧ r' = r) := by
  rw [find?_create] at h
  split at h
  · next hk => exact .inr ⟨hk, (Option.some.inj h).symm⟩
  · exact .inl h

theorem toTable_foldl_modify {β : Type*} (key : β → ℕ) (f : β → ρ → ρ) (ds : List β) :
    (ds.foldl (fun t d => t.modify (key d) (f d)) t).toTable =
      ds.foldl (fun t d => t.modify (key d) (f d)) t.toTable := by
  induction ds generalizing t with
  | nil => rfl
  | cons d rest ih => exact ih

theorem All_create {P : ℕ → ρ → Prop} (h : t.All P) {r : ρ} (hr : P t.next r) :
    (t.create r).All P := by
  intro k r' hr'
  rw [find?_create] at hr'
  split at hr'
  · next heq =>
    subst heq
    exact Option.some.inj hr' ▸ hr
  · exact h k r' hr'

/-- Rows created one after another under a property that does not depend on the id. -/
theorem All_foldl_create {β : Type*} {P : ρ → Prop} {f : β → ρ} (l : List β)
    (ht : t.All fun _ r => P r) (hl : ∀ x ∈ l, P (f x)) :
    (l.foldl (fun t x => t.create (f x)) t).All fun _ r => P r := by
  induction l generalizing t with
  | nil => exact ht
  | cons x rest ih =>
    exact ih (All_create ht (hl x List.mem_cons_self))
      fun y hy => hl y (List.mem_cons_of_mem _ hy)

/-- New rows that are not selected leave the selected rows. -/
theorem filter_find?_foldl_create {β : Type*} {p : ℕ → ρ → Bool} {f : β → ρ} (l : List β)
    (h : ∀ k, t.next ≤ k → ∀ x ∈ l, p k (f x) = false) (k : ℕ) :
    ((l.foldl (fun t x => t.create (f x)) t).find? k).filter (p k) =
      (t.find? k).filter (p k) := by
  induction l generalizing t with
  | nil => rfl
  | cons x rest ih =>
    have hrest : ∀ k, (t.create (f x)).next ≤ k → ∀ y ∈ rest, p k (f y) = false :=
      fun k hk y hy => h k (Nat.le_of_succ_le hk) y (List.mem_cons_of_mem _ hy)
    exact (ih hrest).trans (filter_find?_create (h t.next (le_refl _) x List.mem_cons_self) k)

@[simp] theorem sum_create {M : Type*} [AddCommMonoid M] (r : ρ) (g : ℕ → ρ → M) :
    (t.create r).sum g = t.sum g + g t.next r := by
  simp [create, Table.sum]

/-- Rows created one after another add up. -/
theorem sum_foldl_create {M β : Type*} [AddCommMonoid M] (f : β → ρ) (g : ρ → M) (l : List β) :
    (l.foldl (fun t x => t.create (f x)) t).sum (fun _ r => g r) =
      t.sum (fun _ r => g r) + (l.map fun x => g (f x)).sum := by
  induction l generalizing t with
  | nil => simp
  | cons x rest ih =>
    rw [List.foldl_cons, ih, sum_create, List.map_cons, List.sum_cons, add_assoc]

/-- Creating rows keeps those that were there. -/
theorem mem_rows_foldl_create {x : ℕ × ρ} (l : List ρ) (h : x ∈ t.rows) :
    x ∈ (l.foldl Serial.create t).rows := by
  induction l generalizing t with
  | nil => exact h
  | cons r rest ih => exact ih (List.mem_append_left _ h)

/-- The first of several new rows has the next id. -/
theorem mem_rows_foldl_create_cons (r : ρ) (rest : List ρ) :
    (t.next, r) ∈ ((r :: rest).foldl Serial.create t).rows :=
  mem_rows_foldl_create rest (List.mem_append_right _ List.mem_cons_self)

/-- Rows created one after another follow those that were there. -/
theorem map_snd_foldl_create {β : Type*} (f : β → ρ) (l : List β) :
    (l.foldl (fun t x => t.create (f x)) t).rows.map Prod.snd =
      t.rows.map Prod.snd ++ l.map f := by
  induction l generalizing t with
  | nil => simp
  | cons x rest ih =>
    rw [List.foldl_cons, ih, create, List.map_append, List.append_assoc]
    rfl

theorem next_foldl_create (l : List ρ) : (l.foldl create t).next = t.next + l.length := by
  induction l generalizing t with
  | nil => rfl
  | cons r rest ih =>
    rw [List.foldl_cons, ih, next_create, List.length_cons]
    omega

/-- Rows created one after another have the next ids. -/
theorem rows_foldl_create (l : List ρ) :
    (l.foldl create t).rows = t.rows ++ l.mapIdx fun i r => (t.next + i, r) := by
  induction l generalizing t with
  | nil => simp
  | cons r rest ih =>
    rw [List.foldl_cons, ih, List.mapIdx_cons, next_create]
    simp only [create, Nat.add_zero, Nat.add_assoc, Nat.add_comm 1, List.append_assoc,
      List.singleton_append]

/-- A row after several are created: one that was there, or one of the new ones. -/
theorem mem_rows_foldl_create_cases {l : List ρ} {x : ℕ × ρ}
    (h : x ∈ (l.foldl create t).rows) : x ∈ t.rows ∨ x.2 ∈ l := by
  rw [rows_foldl_create] at h
  rcases List.mem_append.mp h with h | h
  · exact .inl h
  · obtain ⟨i, hi, rfl⟩ := List.mem_mapIdx.mp h
    exact .inr (List.getElem_mem hi)

/-- Each of several created rows is there. -/
theorem exists_mem_rows_foldl_create {l : List ρ} {r : ρ} (h : r ∈ l) :
    ∃ k, (k, r) ∈ (l.foldl create t).rows := by
  obtain ⟨i, hi, rfl⟩ := List.mem_iff_getElem.mp h
  refine ⟨t.next + i, ?_⟩
  rw [rows_foldl_create]
  exact List.mem_append_right _ (List.mem_mapIdx.mpr ⟨i, hi, rfl⟩)

end Serial

end Rowstore
