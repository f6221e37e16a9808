import Mathlib.Algebra.Order.Floor.Ring
import Mathlib.Data.List.Perm.Basic
import Mathlib.Data.List.Nodup
import Mathlib.Data.List.Pairwise
import Mathlib.Data.Rat.Floor
import Mathlib.Tactic.Ring

/-!
# Pages

A list cut into pages of one size.

## Main definitions

- `page` — a page, counted from zero
- `pageCount` — how many there are
- `Arranged` — rows in an order that leaves ties open
- `BoundariesStrict` — no tie across the end of a page

## Main results

- `flatMap_page` — the pages together are the list
- `eq_of_forall_nodup_pages` — lists that can be paged through in turn are the same
- `perm_iff_boundariesStrict` — pages of different arrangements are the rows if there is no such tie
-/

namespace Paging

variable {α : Type*} {size n : ℕ} {l : List α}

/-- The page `i`, counted from zero. -/
def page (size : ℕ) (l : List α) (i : ℕ) : List α := (l.drop (i * size)).take size

/-- How many pages there are. -/
def pageCount (size total : ℕ) : ℕ := ⌈(total : ℚ) / size⌉₊

theorem take_succ_mul (size : ℕ) (l : List α) (i : ℕ) :
    l.take ((i + 1) * size) = l.take (i * size) ++ page size l i := by
  rw [Nat.succ_mul, List.take_add, page]

theorem flatMap_page_eq_take (size : ℕ) (l : List α) (n : ℕ) :
    (List.range n).flatMap (page size l) = l.take (n * size) := by
  induction n with
  | zero => rw [List.range_zero, List.flatMap_nil, Nat.zero_mul, List.take_zero]
  | succ n ih =>
    rw [List.range_succ, List.flatMap_append, ih, List.flatMap_singleton, take_succ_mul]

theorem pageCount_le_iff (hsize : 0 < size) {total : ℕ} :
    pageCount size total ≤ n ↔ total ≤ n * size := by
  have hpos : (0 : ℚ) < size := by exact_mod_cast hsize
  rw [pageCount, Nat.ceil_le, div_le_iff₀ hpos]
  exact_mod_cast Iff.rfl

@[simp] theorem pageCount_zero (size : ℕ) : pageCount size 0 = 0 := by
  rw [pageCount, Nat.cast_zero, zero_div, Nat.ceil_zero]

/-- The pages together are the list. -/
theorem flatMap_page (hsize : 0 < size) (l : List α) :
    (List.range (pageCount size l.length)).flatMap (page size l) = l := by
  rw [flatMap_page_eq_take]
  exact List.take_of_length_le ((pageCount_le_iff hsize).mp le_rfl)

theorem page_ne_nil_iff (hsize : 0 < size) {i : ℕ} :
    page size l i ≠ [] ↔ i < pageCount size l.length := by
  rw [page, Ne, List.take_eq_nil_iff, List.drop_eq_nil_iff, ← not_le,
    pageCount_le_iff hsize]
  simp only [hsize.ne', false_or]

theorem map_page {β : Type*} (f : α → β) (size : ℕ) (l : List α) (i : ℕ) :
    (page size l i).map f = page size (l.map f) i := by
  rw [page, page, List.map_take, List.map_drop]

/-- Lists of the same elements are the same if pages of one element, each taken from any one of
them, never repeat an element. -/
theorem eq_of_forall_nodup_pages {ι : Type*} {ls : ι → List α} (hlength : ∀ i, (ls i).length = n)
    (hsubset : ∀ i j, ls i ⊆ ls j)
    (hnodup : ∀ choice : ℕ → ι,
      ((List.range n).flatMap fun k => page 1 (ls (choice k)) k).Nodup) (i j : ι) :
    ls i = ls j := by
  have hpage : ∀ (l : List α) (k : ℕ) (a : α), l[k]? = some a → a ∈ page 1 l k := by
    intro l k a ha
    rw [page, Nat.mul_one, List.mem_take_iff_getElem]
    obtain ⟨hk, rfl⟩ := List.getElem?_eq_some_iff.mp ha
    exact ⟨0, by simp; omega, by simp⟩
  refine List.ext_getElem? fun q => ?_
  cases hq : (ls i)[q]? with
  | none =>
    rw [List.getElem?_eq_none_iff, hlength i] at hq
    rw [List.getElem?_eq_none (hlength j ▸ hq)]
  | some a =>
    obtain ⟨hlt, ha⟩ := List.getElem?_eq_some_iff.mp hq
    obtain ⟨r, hr, hr'⟩ := List.mem_iff_getElem.mp (hsubset i j (ha ▸ List.getElem_mem hlt))
    -- were the element elsewhere in the other list, it would be on both pages
    by_contra hne
    have hqr : q ≠ r := fun heq => hne (heq ▸ (List.getElem?_eq_some_iff.mpr ⟨hr, hr'⟩).symm)
    have hdisjoint := (List.nodup_flatMap.mp (hnodup fun k => if k = q then i else j)).2
    have : Std.Symm (Function.onFun List.Disjoint fun k => page 1 (ls (if k = q then i else j)) k) :=
      ⟨fun _ _ h _ ha hb => h hb ha⟩
    have hpages := hdisjoint.forall (List.mem_range.mpr (hlength i ▸ hlt))
      (List.mem_range.mpr (hlength j ▸ hr)) hqr
    refine hpages (a := a) ?_ ?_
    · simpa using hpage _ _ _ hq
    · dsimp only
      rw [if_neg (Ne.symm hqr)]
      exact hpage _ _ _ (List.getElem?_eq_some_iff.mpr ⟨hr, hr'⟩)

section Ties

/-- The rows in the order of `le`; rows that come before one another may stand either way. -/
structure Arranged (le : α → α → Prop) (rows l : List α) : Prop where
  perm : l.Perm rows
  sorted : l.Pairwise le

/-- Where a page ends and another begins, the first row of the one comes strictly after the last row
of the other. -/
def BoundariesStrict (le : α → α → Prop) (size : ℕ) (l : List α) : Prop :=
  ∀ i a b, 0 < i → l[i * size - 1]? = some a → l[i * size]? = some b → ¬le b a

variable {le : α → α → Prop} {rows l' : List α}

/-- In a sorted list the rows of a lower set stand in front. -/
theorem filter_eq_take (hsorted : l.Pairwise le) {p : α → Bool}
    (hlower : ∀ a b, le a b → p b = true → p a = true) : l.filter p = l.take (l.countP p) := by
  induction l with
  | nil => rfl
  | cons a l ih =>
    obtain ⟨hfirst, hrest⟩ := List.pairwise_cons.mp hsorted
    by_cases ha : p a = true
    · rw [List.filter_cons_of_pos ha, List.countP_cons_of_pos ha, List.take_succ_cons, ih hrest]
    · have hnone : ∀ b ∈ l, ¬p b = true := fun b hb hpb => ha (hlower a b (hfirst b hb) hpb)
      rw [List.filter_cons_of_neg ha, List.countP_cons_of_neg ha, List.filter_eq_nil_iff.mpr hnone,
        List.countP_eq_zero.mpr hnone, List.take_zero]

theorem exists_split {a b : α} (ha : l[n]? = some a) (hb : l[n + 1]? = some b) :
    ∃ front back, l = front ++ a :: b :: back ∧ front.length = n := by
  obtain ⟨ha', rfl⟩ := List.getElem?_eq_some_iff.mp ha
  obtain ⟨hb', rfl⟩ := List.getElem?_eq_some_iff.mp hb
  refine ⟨l.take n, l.drop (n + 2), ?_, List.length_take_of_le ha'.le⟩
  rw [← List.drop_eq_getElem_cons hb', ← List.drop_eq_getElem_cons ha', List.take_append_drop]

/-- What comes before a strict boundary is the same in every arrangement. -/
theorem perm_take_of_strict [DecidableRel le] (hrefl : ∀ a, le a a)
    (htrans : ∀ a b c, le a b → le b c → le a c) (hl : Arranged le rows l)
    (hl' : Arranged le rows l') {a b : α} (ha : l[n]? = some a) (hb : l[n + 1]? = some b)
    (hstrict : ¬le b a) : (l.take (n + 1)).Perm (l'.take (n + 1)) := by
  have hlower : ∀ x y, le x y → (decide ¬le b y) = true → (decide ¬le b x) = true := by
    intro x y hxy hy
    rw [decide_eq_true_eq] at hy ⊢
    exact fun hbx => hy (htrans b x y hbx hxy)
  -- strictly before the boundary is what stands before it
  have hcount : l.countP (fun x => decide ¬le b x) = n + 1 := by
    obtain ⟨front, back, rfl, rfl⟩ := exists_split ha hb
    obtain ⟨_, hback, hcross⟩ := List.pairwise_append.mp hl.sorted
    have hfront : front.countP (fun x => decide ¬le b x) = front.length :=
      List.countP_eq_length.mpr fun x hx =>
        hlower x a (hcross x hx a List.mem_cons_self) (decide_eq_true hstrict)
    have hrest : (b :: back).countP (fun x => decide ¬le b x) = 0 := by
      refine List.countP_eq_zero.mpr fun x hx hx' => of_decide_eq_true hx' ?_
      rcases List.mem_cons.mp hx with rfl | hx
      · exact hrefl x
      · exact (List.pairwise_cons.mp (List.pairwise_cons.mp hback).2).1 x hx
    have hfirst : (a :: b :: back).countP (fun x => decide ¬le b x) =
        (b :: back).countP (fun x => decide ¬le b x) + 1 :=
      List.countP_cons_of_pos (decide_eq_true hstrict)
    rw [List.countP_append, hfront, hfirst, hrest]
  have hcount' : l'.countP (fun x => decide ¬le b x) = n + 1 :=
    ((hl'.perm.trans hl.perm.symm).countP_eq _).trans hcount
  calc l.take (n + 1) = l.filter fun x => decide ¬le b x := by
        rw [filter_eq_take hl.sorted hlower, hcount]
    List.Perm _ (l'.filter fun x => decide ¬le b x) := (hl.perm.trans hl'.perm.symm).filter _
    _ = l'.take (n + 1) := by rw [filter_eq_take hl'.sorted hlower, hcount']

/-- The rows on the pages up to one are the same in every arrangement. -/
theorem perm_take_mul [DecidableRel le] (hrefl : ∀ a, le a a)
    (htrans : ∀ a b c, le a b → le b c → le a c) (hstrict : BoundariesStrict le size l)
    (hl : Arranged le rows l) (hl' : Arranged le rows l') (i : ℕ) :
    (l.take (i * size)).Perm (l'.take (i * size)) := by
  have hperm : l.Perm l' := hl.perm.trans hl'.perm.symm
  rcases Nat.eq_zero_or_pos (i * size) with hzero | hpos
  · rw [hzero, List.take_zero, List.take_zero]
  · rcases Nat.lt_or_ge (i * size) l.length with hlt | hge
    · have hi : 0 < i := Nat.pos_of_mul_pos_right hpos
      obtain ⟨m, hm⟩ := Nat.exists_eq_succ_of_ne_zero hpos.ne'
      have hb : l[i * size]? = some l[i * size] := List.getElem?_eq_getElem hlt
      have ha : l[i * size - 1]? = some l[i * size - 1] :=
        List.getElem?_eq_getElem (Nat.lt_of_le_of_lt (Nat.sub_le _ _) hlt)
      have hnot := hstrict i _ _ hi ha hb
      simp only [hm, Nat.succ_eq_add_one, Nat.add_sub_cancel] at ha hb hnot ⊢
      exact perm_take_of_strict hrefl htrans hl hl' ha hb hnot
    · rw [List.take_of_length_le hge, List.take_of_length_le (hperm.length_eq ▸ hge)]
      exact hperm

/-- Where no tie crosses the end of a page, pages of different arrangements are the rows. -/
theorem perm_of_boundariesStrict [DecidableRel le] (hsize : 0 < size) (hrefl : ∀ a, le a a)
    (htrans : ∀ a b c, le a b → le b c → le a c) (hstrict : BoundariesStrict le size l)
    (hl : Arranged le rows l) {orders : ℕ → List α} (horders : ∀ i, Arranged le rows (orders i)) :
    ((List.range (pageCount size rows.length)).flatMap fun i => page size (orders i) i).Perm rows := by
  have hpages : ∀ n, ((List.range n).flatMap fun i => page size (orders i) i).Perm
      (l.take (n * size)) := by
    intro n
    induction n with
    | zero => rw [List.range_zero, List.flatMap_nil, Nat.zero_mul, List.take_zero]
    | succ n ih =>
      have htake := perm_take_mul hrefl htrans hstrict hl (horders n)
      rw [List.range_succ, List.flatMap_append, List.flatMap_singleton]
      refine List.Perm.trans ?_ (htake (n + 1)).symm
      rw [take_succ_mul]
      exact (ih.trans (htake n)).append_right _
  have hall : l.take (pageCount size rows.length * size) = l :=
    List.take_of_length_le (hl.perm.length_eq ▸ (pageCount_le_iff hsize).mp le_rfl)
  exact (hall ▸ hpages _).trans hl.perm

theorem mem_page {a : α} {i k : ℕ} (ha : l[k]? = some a) (hle : i * size ≤ k)
    (hlt : k < (i + 1) * size) : a ∈ page size l i := by
  rw [Nat.succ_mul] at hlt
  refine List.mem_of_getElem? (i := k - i * size) ?_
  rw [page, List.getElem?_take_of_lt (by omega), List.getElem?_drop, Nat.add_sub_cancel' hle]
  exact ha

/-- Neighbours that tie may change places. -/
theorem arranged_swap {front back : List α} {a b : α}
    (h : Arranged le rows (front ++ a :: b :: back)) (htie : le b a) :
    Arranged le rows (front ++ b :: a :: back) where
  perm := ((List.Perm.swap a b back).append_left front).trans h.perm
  sorted := by
    obtain ⟨hfront, htail, hcross⟩ := List.pairwise_append.mp h.sorted
    obtain ⟨ha, htail⟩ := List.pairwise_cons.mp htail
    obtain ⟨hb, hback⟩ := List.pairwise_cons.mp htail
    refine List.pairwise_append.mpr ⟨hfront, List.pairwise_cons.mpr ⟨?_, List.pairwise_cons.mpr
      ⟨fun x hx => ha x (List.mem_cons_of_mem b hx), hback⟩⟩, ?_⟩
    · intro x hx
      rcases List.mem_cons.mp hx with rfl | hx
      · exact htie
      · exact hb x hx
    · intro x hx y hy
      exact hcross x hx y ((List.Perm.swap a b back).mem_iff.mp hy)

/-- Where a tie crosses the end of a page, the row before it can be on the page after it again. -/
theorem exists_repeat (hnodup : rows.Nodup) (hl : Arranged le rows l) (hsize : 0 < size)
    (htie : ¬BoundariesStrict le size l) :
    ∃ orders : ℕ → List α, (∀ i, Arranged le rows (orders i)) ∧
      ¬((List.range (pageCount size rows.length)).flatMap fun i =>
          page size (orders i) i).Perm rows := by
  simp only [BoundariesStrict, not_forall, not_not] at htie
  obtain ⟨i, a, b, hi, ha, hb, hle⟩ := htie
  have hpos : 0 < i * size := Nat.mul_pos hi hsize
  obtain ⟨front, back, hsplit, hfront⟩ := exists_split ha
    ((Nat.sub_add_cancel hpos : i * size - 1 + 1 = i * size) ▸ hb)
  have hother : Arranged le rows (front ++ b :: a :: back) := arranged_swap (hsplit ▸ hl) hle
  -- The pages before the i-th are taken from one order, the others from the order with the tied
  -- rows exchanged.
  refine ⟨fun j => if j < i then l else front ++ b :: a :: back, fun j => ?_, fun hperm => ?_⟩
  · dsimp only
    split_ifs
    · exact hl
    · exact hother
  · have hcount : i < pageCount size rows.length := by
      have hlt := (List.getElem?_eq_some_iff.mp hb).1
      rw [hl.perm.length_eq] at hlt
      exact Nat.lt_of_not_le fun hle => absurd ((pageCount_le_iff hsize).mp hle) hlt.not_ge
    have hdisjoint := (List.nodup_flatMap.mp (hperm.nodup_iff.mpr hnodup)).2
    have hbefore : a ∈ page size l (i - 1) := by
      refine mem_page ha ?_ ?_
      · rw [Nat.sub_mul, Nat.one_mul]
        omega
      · rw [Nat.sub_add_cancel hi]
        omega
    have hafter : a ∈ page size (front ++ b :: a :: back) i := by
      have hat : (front ++ b :: a :: back)[i * size]? = some a := by
        rw [List.getElem?_append_right (by omega), show i * size - front.length = 1 by omega]
        rfl
      exact mem_page hat le_rfl (by rw [Nat.succ_mul]; omega)
    have hpair := List.pairwise_iff_getElem.mp hdisjoint (i - 1) i
      (by rw [List.length_range]; omega) (by rw [List.length_range]; exact hcount) (by omega)
    simp only [List.getElem_range, Function.onFun, show i - 1 < i by omega, if_true,
      Nat.lt_irrefl, if_false] at hpair
    exact hpair hbefore hafter

/-- Pages of different arrangements are the rows, whatever the arrangements, exactly if no tie
crosses the end of a page. -/
theorem perm_iff_boundariesStrict [DecidableRel le] (hsize : 0 < size) (hnodup : rows.Nodup)
    (hrefl : ∀ a, le a a) (htrans : ∀ a b c, le a b → le b c → le a c)
    (hl : Arranged le rows l) :
    (∀ orders : ℕ → List α, (∀ i, Arranged le rows (orders i)) →
      ((List.range (pageCount size rows.length)).flatMap fun i =>
        page size (orders i) i).Perm rows) ↔ BoundariesStrict le size l := by
  constructor
  · intro hall
    by_contra htie
    obtain ⟨orders, horders, hrepeat⟩ := exists_repeat hnodup hl hsize htie
    exact hrepeat (hall orders horders)
  · intro hstrict orders horders
    exact perm_of_boundariesStrict hsize hrefl htrans hstrict hl horders

end Ties

end Paging
