import Mathlib.Data.List.Nodup
import Mathlib.Data.List.Induction
import Mathlib.Data.List.Perm.Basic

/-!
# Lists by key

A list that is put together from one list for each key: what is for a key is found again by it, and
a list that is taken apart by keys is put together as it was.

## Main definitions

- `groupBy` — the loop that puts each item into the group of its key, in a map

## Main results

- `groupBy_eq` — the groups in the order in which their keys first occur, each with its items
- `filter_flatMap_key` — what is for one key, of what is put together for all
- `flatMap_filter_perm` — a list is put together from its groups
-/

namespace Groups

variable {α β κ : Type*} [DecidableEq κ]

/-- Of what is put together from items with distinct keys, one key selects what is from its
item. -/
theorem filter_flatMap_key {l : List α} (key : α → κ) {f : α → List β} {tag : β → κ}
    (hnodup : (l.map key).Nodup) (htag : ∀ x ∈ l, ∀ y ∈ f x, tag y = key x) {x : α} (hx : x ∈ l) :
    (l.flatMap f).filter (fun y => tag y = key x) = f x := by
  induction l with
  | nil => cases hx
  | cons z rest ih =>
    obtain ⟨hz, hrest⟩ := List.nodup_cons.mp hnodup
    rw [List.flatMap_cons, List.filter_append]
    rcases List.mem_cons.mp hx with rfl | hx
    · have hself : (f x).filter (fun y => tag y = key x) = f x :=
        List.filter_eq_self.mpr fun y hy => decide_eq_true (htag x (.head _) y hy)
      have hothers : (rest.flatMap f).filter (fun y => tag y = key x) = [] := by
        refine List.filter_eq_nil_iff.mpr fun y hy heq => hz ?_
        obtain ⟨w, hw, hy⟩ := List.mem_flatMap.mp hy
        exact List.mem_map.mpr
          ⟨w, hw, (htag w (.tail _ hw) y hy).symm.trans (of_decide_eq_true heq)⟩
      rw [hself, hothers, List.append_nil]
    · have hfirst : (f z).filter (fun y => tag y = key x) = [] := by
        refine List.filter_eq_nil_iff.mpr fun y hy heq => hz ?_
        exact List.mem_map.mpr
          ⟨x, hx, (of_decide_eq_true heq).symm.trans (htag z (.head _) y hy)⟩
      rw [hfirst, List.nil_append]
      exact ih hrest (fun w hw => htag w (.tail _ hw)) hx

/-- The groups of a list, by distinct keys that cover it, make up the list. -/
theorem flatMap_filter_perm {ks : List κ} {l : List α} {key : α → κ} (hnodup : ks.Nodup)
    (hcover : ∀ x ∈ l, key x ∈ ks) : (ks.flatMap fun k => l.filter (key · = k)).Perm l := by
  induction ks generalizing l with
  | nil =>
    have hl : l = [] := List.eq_nil_iff_forall_not_mem.mpr fun x hx => nomatch hcover x hx
    rw [hl, List.flatMap_nil]
  | cons k rest ih =>
    obtain ⟨hk, hrest⟩ := List.nodup_cons.mp hnodup
    -- the other groups are those of what is not in the first
    have hothers : (rest.flatMap fun k' => l.filter (key · = k')) =
        rest.flatMap fun k' => (l.filter (key · ≠ k)).filter (key · = k') := by
      refine List.flatMap_congr fun k' hk' => ?_
      rw [List.filter_filter]
      refine List.filter_congr fun x _ => ?_
      have hne : k' ≠ k := fun heq => hk (heq ▸ hk')
      by_cases hx : key x = k'
      · simp [hx, hne]
      · simp [hx]
    have hperm := ih (l := l.filter (key · ≠ k)) hrest fun x hx => by
      obtain ⟨hx, hne⟩ := List.mem_filter.mp hx
      exact (List.mem_cons.mp (hcover x hx)).resolve_left (of_decide_eq_true hne)
    rw [List.flatMap_cons, hothers]
    refine (List.Perm.append_left _ hperm).trans ?_
    simpa using List.filter_append_perm (fun x => decide (key x = k)) l

theorem nodup_eraseDups (l : List κ) : l.eraseDups.Nodup := by
  induction h : l.length using Nat.strongRecOn generalizing l with
  | ind n ih =>
    cases l with
    | nil => exact List.nodup_nil
    | cons k rest =>
      rw [List.eraseDups_cons, List.nodup_cons]
      constructor
      · intro hmem
        have hk := (List.mem_filter.mp (List.mem_eraseDups.mp hmem)).2
        simp at hk
      · refine ih _ ?_ _ rfl
        rw [← h, List.length_cons]
        exact Nat.lt_succ_of_le (List.length_filter_le _ _)

section Map

/-- Put an item into the group of its key, behind those that are there; the first item of a key
opens a group at the end. -/
def insertGroup (key : α → κ) (groups : List (κ × List α)) (x : α) : List (κ × List α) :=
  if groups.any fun g => g.1 = key x then
    groups.map fun g => if g.1 = key x then (g.1, g.2 ++ [x]) else g
  else groups ++ [(key x, [x])]

/-- The entries of a map from keys to the items of each, in the order of insertion. -/
def groupBy (key : α → κ) (l : List α) : List (κ × List α) := l.foldl (insertGroup key) []

theorem groupBy_eq (key : α → κ) (l : List α) :
    groupBy key l = (l.map key).eraseDups.map fun k => (k, l.filter (key · = k)) := by
  induction l using List.reverseRecOn with
  | nil => rfl
  | append_singleton l x ih =>
    have hstep : groupBy key (l ++ [x]) = insertGroup key (groupBy key l) x := by
      rw [groupBy, List.foldl_append]
      rfl
    have hgroup (k : κ) : (l ++ [x]).filter (key · = k) =
        if k = key x then l.filter (key · = k) ++ [x] else l.filter (key · = k) := by
      rw [List.filter_append]
      by_cases hk : k = key x
      · simp [hk]
      · simp [hk, Ne.symm hk]
    rw [hstep, ih, List.map_append, List.eraseDups_append, insertGroup]
    -- The key has a group already, which grows, or opens one at the end.
    by_cases hmem : key x ∈ l.map key
    · have hany : (((l.map key).eraseDups.map fun k => (k, l.filter (key · = k))).any
          fun g => g.1 = key x) = true :=
        List.any_eq_true.mpr ⟨_, List.mem_map_of_mem (List.mem_eraseDups.mpr hmem), by simp⟩
      have hnew : [key x].removeAll (l.map key) = [] := by
        simp only [List.removeAll, List.filter_cons, List.filter_nil, List.elem_eq_mem, hmem,
          decide_true, Bool.not_true, Bool.false_eq_true, if_false]
      rw [if_pos hany, List.map_singleton, hnew, List.eraseDups_nil, List.append_nil, List.map_map]
      refine List.map_congr_left fun k _ => ?_
      dsimp only [Function.comp_apply]
      rw [hgroup]
      split <;> rfl
    · have hnone : ¬(((l.map key).eraseDups.map fun k => (k, l.filter (key · = k))).any
          fun g => g.1 = key x) = true := by
        rw [List.any_eq_true]
        rintro ⟨g, hg, heq⟩
        obtain ⟨k, hk, rfl⟩ := List.mem_map.mp hg
        have hkey : k = key x := of_decide_eq_true heq
        exact hmem (hkey ▸ List.mem_eraseDups.mp hk)
      have hnew : [key x].removeAll (l.map key) = [key x] := by
        simp only [List.removeAll, List.filter_cons, List.filter_nil, List.elem_eq_mem, hmem,
          decide_false, Bool.not_false, if_true]
      have hempty : l.filter (key · = key x) = [] :=
        List.filter_eq_nil_iff.mpr fun y hy heq =>
          hmem (List.mem_map.mpr ⟨y, hy, of_decide_eq_true heq⟩)
      rw [if_neg hnone, List.map_singleton, hnew, List.map_append]
      congr 1
      · refine List.map_congr_left fun k hk => ?_
        have hne : k ≠ key x := fun heq => hmem (heq ▸ List.mem_eraseDups.mp hk)
        rw [hgroup, if_neg hne]
      · have hone : [key x].eraseDups = [key x] := by simp [List.eraseDups_cons]
        rw [hone, List.map_singleton, hgroup, if_pos rfl, hempty, List.nil_append]

/-- Each key has one group. -/
theorem nodup_keys_groupBy (key : α → κ) (l : List α) : ((groupBy key l).map Prod.fst).Nodup := by
  have hkeys : (groupBy key l).map Prod.fst = (l.map key).eraseDups := by
    rw [groupBy_eq, List.map_map]
    exact List.map_id _
  rw [hkeys]
  exact nodup_eraseDups _

/-- The groups make up the list. -/
theorem flatMap_groupBy_perm (key : α → κ) (l : List α) :
    ((groupBy key l).flatMap Prod.snd).Perm l := by
  rw [groupBy_eq, List.flatMap_map]
  exact flatMap_filter_perm (nodup_eraseDups _) fun x hx =>
    List.mem_eraseDups.mpr (List.mem_map_of_mem hx)

theorem mem_groupBy_iff {key : α → κ} {l : List α} {k : κ} {xs : List α} :
    (k, xs) ∈ groupBy key l ↔ k ∈ l.map key ∧ xs = l.filter (key · = k) := by
  rw [groupBy_eq, List.mem_map]
  constructor
  · rintro ⟨k', hk', heq⟩
    obtain ⟨rfl, rfl⟩ := Prod.mk.inj heq
    exact ⟨List.mem_eraseDups.mp hk', rfl⟩
  · rintro ⟨hk, rfl⟩
    exact ⟨k, List.mem_eraseDups.mpr hk, rfl⟩

end Map

end Groups
