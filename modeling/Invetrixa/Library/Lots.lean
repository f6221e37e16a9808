import Mathlib.Algebra.BigOperators.Ring.Finset
import Mathlib.Algebra.BigOperators.Ring.List
import Mathlib.Algebra.Order.BigOperators.Group.List
import Mathlib.Algebra.Order.Ring.Rat
import Mathlib.Data.List.Infix
import Mathlib.Tactic.Abel
import Mathlib.Tactic.Ring

/-!
# Drawing a quantity from lots

A list of lots, each with a size, from which a quantity is drawn front to back: every lot but
the last one touched is emptied. This is the arithmetic under first-in-first-out and
last-in-first-out stock valuation, which differ in the order of the list alone.

## Main definitions

- `draw` — the lots touched, each with what is taken from it
- `taken` — what is drawn in total
- `cost` — the value of what is drawn, at a price for each lot
- `average` — the average price of the lots
- `leftover` — the lots after a draw
-/

namespace Lots

variable {α : Type*}

/-- The lots touched when `q` is drawn front to back, each with the amount taken from it. -/
def draw (size : α → ℤ) : List α → ℤ → List (α × ℤ)
  | [], _ => []
  | a :: rest, q => if q ≤ 0 then [] else (a, min q (size a)) :: draw size rest (q - min q (size a))

/-- The amount drawn in total. -/
def taken (size : α → ℤ) (l : List α) (q : ℤ) : ℤ := ((draw size l q).map Prod.snd).sum

/-- The value of what is drawn at the prices `price`. -/
def cost (size : α → ℤ) (price : α → ℚ) (l : List α) (q : ℤ) : ℚ :=
  ((draw size l q).map fun d => price d.1 * d.2).sum

/-- The total size of a list of lots. -/
def total (size : α → ℤ) (l : List α) : ℤ := (l.map size).sum

/-- The value of all lots together. -/
def value (size : α → ℤ) (price : α → ℚ) (l : List α) : ℚ := (l.map fun a => price a * size a).sum

variable {size : α → ℤ} {l : List α} {q : ℤ}

theorem draw_of_nonpos (l : List α) (hq : q ≤ 0) : draw size l q = [] := by
  cases l with
  | nil => rfl
  | cons a rest => simp [draw, hq]

/-- The lots touched are the first ones of the list. -/
theorem draw_prefix : ((draw size l q).map Prod.fst) <+: l := by
  induction l generalizing q with
  | nil => exact List.prefix_rfl
  | cons a rest ih =>
    by_cases hq : q ≤ 0
    · simp [draw, hq]
    · simp only [draw, hq, if_false, List.map_cons]
      exact (List.prefix_cons_inj a).mpr ih

theorem mem_of_mem_draw {d : α × ℤ} (h : d ∈ draw size l q) : d.1 ∈ l :=
  draw_prefix.subset (List.mem_map_of_mem h)

/-- No lot gives more than it holds, and none gives a negative amount. -/
theorem draw_bounds (hsize : ∀ a ∈ l, 0 ≤ size a) {d : α × ℤ} (h : d ∈ draw size l q) :
    0 ≤ d.2 ∧ d.2 ≤ size d.1 := by
  induction l generalizing q with
  | nil => simp [draw] at h
  | cons a rest ih =>
    by_cases hq : q ≤ 0
    · simp [draw, hq] at h
    · simp only [draw, hq, if_false] at h
      rcases List.mem_cons.mp h with rfl | hrest
      · have ha := hsize a List.mem_cons_self
        exact ⟨by simp; omega, min_le_right _ _⟩
      · exact ih (fun b hb => hsize b (List.mem_cons_of_mem _ hb)) hrest

/-- What is drawn is drawn in positive amounts, if no lot is empty. -/
theorem draw_pos (hsize : ∀ a ∈ l, 0 < size a) {d : α × ℤ} (h : d ∈ draw size l q) : 0 < d.2 := by
  induction l generalizing q with
  | nil => simp [draw] at h
  | cons a rest ih =>
    by_cases hq : q ≤ 0
    · simp [draw, hq] at h
    · simp only [draw, hq, if_false] at h
      rcases List.mem_cons.mp h with rfl | hrest
      · have ha := hsize a List.mem_cons_self
        exact lt_min (by omega) ha
      · exact ih (fun b hb => hsize b (List.mem_cons_of_mem _ hb)) hrest

/-- Every lot but the last one touched is emptied. -/
theorem draw_emptied {d : α × ℤ} (h : d ∈ (draw size l q).dropLast) : d.2 = size d.1 := by
  induction l generalizing q with
  | nil => simp [draw] at h
  | cons a rest ih =>
    by_cases hq : q ≤ 0
    · simp [draw, hq] at h
    · simp only [draw, hq, if_false] at h
      have hne : draw size rest (q - min q (size a)) ≠ [] := by
        intro hnil
        simp [hnil] at h
      rw [List.dropLast_cons_of_ne_nil hne] at h
      rcases List.mem_cons.mp h with rfl | hrest
      · -- something is left to draw, so the lot gave all it had
        have hleft : ¬q - min q (size a) ≤ 0 := fun hle => hne (draw_of_nonpos rest hle)
        dsimp only
        omega
      · exact ih hrest

theorem total_nonneg (hsize : ∀ a ∈ l, 0 ≤ size a) : 0 ≤ total size l :=
  List.sum_nonneg fun x hx => by
    obtain ⟨a, ha, rfl⟩ := List.mem_map.mp hx
    exact hsize a ha

/-- A draw takes what is asked for, or all there is. -/
theorem taken_eq_min (hsize : ∀ a ∈ l, 0 ≤ size a) (hq : 0 ≤ q) :
    taken size l q = min q (total size l) := by
  induction l generalizing q with
  | nil => simp [taken, draw, total, hq]
  | cons a rest ih =>
    have ha := hsize a List.mem_cons_self
    have hrest : ∀ b ∈ rest, 0 ≤ size b := fun b hb => hsize b (List.mem_cons_of_mem _ hb)
    have htotal := total_nonneg hrest
    by_cases hq0 : q ≤ 0
    · have : q = 0 := le_antisymm hq0 hq
      subst this
      simp only [taken, draw, le_refl, if_true, List.map_nil, List.sum_nil, total, List.map_cons,
        List.sum_cons] at htotal ⊢
      omega
    · have ih := ih hrest (q := q - min q (size a)) (by omega)
      simp only [taken, draw, hq0, if_false, List.map_cons, List.sum_cons, total] at ih htotal ⊢
      omega

/-- The cost depends only on the prices of the lots that are there. -/
theorem cost_congr {price price' : α → ℚ} (h : ∀ a ∈ l, price a = price' a) :
    cost size price l q = cost size price' l q := by
  rw [cost]
  congr 1
  exact List.map_congr_left fun d hd => by rw [h _ (mem_of_mem_draw hd)]

/-- At one price for all lots the cost is that price times the amount drawn. -/
theorem cost_const (c : ℚ) : cost size (fun _ => c) l q = c * taken size l q := by
  simp only [cost, taken]
  induction draw size l q with
  | nil => simp
  | cons d rest ih =>
    simp only [List.map_cons, List.sum_cons, ih]
    push_cast
    ring

/-- At one price for the lots touched the cost is that price times the amount drawn. -/
theorem cost_of_drawn {price : α → ℚ} {c : ℚ} (h : ∀ d ∈ draw size l q, price d.1 = c) :
    cost size price l q = c * taken size l q := by
  rw [← cost_const, cost, cost]
  congr 1
  exact List.map_congr_left fun d hd => by rw [h d hd]

/-- Drawing everything there is costs the value of the lots. -/
theorem cost_eq_value_of_total_le (price : α → ℚ) (hsize : ∀ a ∈ l, 0 ≤ size a)
    (hq : total size l ≤ q) : cost size price l q = value size price l := by
  induction l generalizing q with
  | nil => simp [cost, draw, value]
  | cons a rest ih =>
    have ha := hsize a List.mem_cons_self
    have hrest : ∀ b ∈ rest, 0 ≤ size b := fun b hb => hsize b (List.mem_cons_of_mem _ hb)
    have htotal := total_nonneg hrest
    simp only [total, List.map_cons, List.sum_cons] at hq htotal
    by_cases hq0 : q ≤ 0
    · -- Nothing is asked for, so every lot is empty.
      have ha0 : size a = 0 := by omega
      have hrest0 := ih hrest (q := 0) (by simp only [total]; omega)
      rw [cost, draw_of_nonpos _ le_rfl] at hrest0
      simp only [cost, draw, hq0, if_true, List.map_nil, List.sum_nil, value, List.map_cons,
        List.sum_cons, ha0, Int.cast_zero, mul_zero, zero_add]
      simpa [value] using hrest0
    · have hmin : min q (size a) = size a := by omega
      have ih := ih hrest (q := q - size a) (by simp only [total]; omega)
      simp only [cost, value] at ih
      simp only [cost, value, draw, hq0, if_false, hmin, List.map_cons, List.sum_cons, ih]

section Average

variable {price : α → ℚ}

/-- The average price of the lots. -/
def average (size : α → ℤ) (price : α → ℚ) (l : List α) : ℚ := value size price l / total size l

theorem total_pos (hl : l ≠ []) (hsize : ∀ a ∈ l, 0 < size a) : 0 < total size l := by
  cases l with
  | nil => exact absurd rfl hl
  | cons a rest =>
    have ha := hsize a List.mem_cons_self
    have hrest := total_nonneg (l := rest) fun b hb => (hsize b (List.mem_cons_of_mem _ hb)).le
    simp only [total, List.map_cons, List.sum_cons] at hrest ⊢
    omega

/-- At the average price the lots are worth what they are worth. -/
theorem average_mul_total (hl : l ≠ []) (hsize : ∀ a ∈ l, 0 < size a) :
    average size price l * total size l = value size price l := by
  have hpos := total_pos hl hsize
  exact div_mul_cancel₀ _ (by exact_mod_cast hpos.ne')

theorem sum_average (hl : l ≠ []) (hsize : ∀ a ∈ l, 0 < size a) :
    (l.map fun a => average size price l * size a).sum = value size price l := by
  rw [List.sum_map_mul_left, ← average_mul_total hl hsize, total, Int.cast_list_sum, List.map_map]
  rfl

/-- Some lot is no dearer than the average. -/
theorem exists_le_average (hl : l ≠ []) (hsize : ∀ a ∈ l, 0 < size a) :
    ∃ a ∈ l, price a ≤ average size price l := by
  obtain ⟨a, ha, hle⟩ := List.exists_le_of_sum_le hl (fun a => price a * (size a : ℚ))
    (fun a => average size price l * size a) (sum_average hl hsize).ge
  exact ⟨a, ha, le_of_mul_le_mul_right hle (by exact_mod_cast hsize a ha)⟩

/-- Some lot is no cheaper than the average. -/
theorem exists_average_le (hl : l ≠ []) (hsize : ∀ a ∈ l, 0 < size a) :
    ∃ a ∈ l, average size price l ≤ price a := by
  obtain ⟨a, ha, hle⟩ := List.exists_le_of_sum_le hl
    (fun a => average size price l * (size a : ℚ)) (fun a => price a * (size a : ℚ))
    (sum_average hl hsize).le
  exact ⟨a, ha, le_of_mul_le_mul_right hle (by exact_mod_cast hsize a ha)⟩

end Average

section Leftover

variable {κ : Type*} {key : α → κ} {resize : α → ℤ → α} {a b : ℤ}

/-- A lot can be given another size without becoming another lot. -/
structure Resizable (size : α → ℤ) (key : α → κ) (resize : α → ℤ → α) : Prop where
  size_resize : ∀ x n, size (resize x n) = n
  key_resize : ∀ x n, key (resize x n) = key x
  resize_size : ∀ x, resize x (size x) = x

/-- The lots after a draw: those that were emptied are gone, and the last one touched keeps what
was not drawn. -/
def leftover (size : α → ℤ) (resize : α → ℤ → α) : List α → ℤ → List α
  | [], _ => []
  | x :: rest, q =>
    if q ≤ 0 then x :: rest
    else if size x ≤ q then leftover size resize rest (q - size x)
    else resize x (size x - q) :: rest

theorem leftover_of_nonpos (l : List α) (hq : q ≤ 0) : leftover size resize l q = l := by
  cases l with
  | nil => rfl
  | cons x rest => simp [leftover, hq]

theorem keys_leftover (hres : Resizable size key resize) (q : ℤ) :
    (leftover size resize l q).map key <:+ l.map key := by
  induction l generalizing q with
  | nil => exact List.suffix_rfl
  | cons x rest ih =>
    simp only [leftover]
    split
    · exact List.suffix_rfl
    · split
      · exact (ih _).trans (List.suffix_cons _ _)
      · simp [hres.key_resize]

/-- Two draws in turn are one: what adds up over a lot adds up over both. -/
theorem sum_draw_add {M : Type*} [AddCommMonoid M] (hres : Resizable size key resize)
    {f : α → ℤ → M} (hadd : ∀ x m n, f x (m + n) = f x m + f x n)
    (hf : ∀ x n, f (resize x n) = f x) (hsize : ∀ x ∈ l, 0 < size x) (ha : 0 ≤ a) (hb : 0 ≤ b) :
    ((draw size l (a + b)).map fun d => f d.1 d.2).sum =
      ((draw size l a).map fun d => f d.1 d.2).sum +
        ((draw size (leftover size resize l a) b).map fun d => f d.1 d.2).sum := by
  induction l generalizing a with
  | nil => simp [draw, leftover]
  | cons x rest ih =>
    have hx := hsize x List.mem_cons_self
    have hrest : ∀ y ∈ rest, 0 < size y := fun y hy => hsize y (List.mem_cons_of_mem _ hy)
    by_cases ha0 : a ≤ 0
    · obtain rfl : a = 0 := le_antisymm ha0 ha
      rw [leftover_of_nonpos _ le_rfl, draw_of_nonpos _ le_rfl, zero_add]
      simp
    · have hab : ¬a + b ≤ 0 := by omega
      by_cases hle : size x ≤ a
      · have hmin : min (a + b) (size x) = size x := by omega
        have hmin' : min a (size x) = size x := by omega
        have hstep := ih hrest (a := a - size x) (by omega)
        rw [show a - size x + b = a + b - size x by ring] at hstep
        simp only [draw, leftover, ha0, hab, hle, if_true, if_false, hmin, hmin', List.map_cons,
          List.sum_cons, hstep, add_assoc]
      · -- the first draw ends inside this lot, so the second one goes on there
        have hmin : min a (size x) = a := by omega
        by_cases hb0 : b ≤ 0
        · obtain rfl : b = 0 := le_antisymm hb0 hb
          rw [draw_of_nonpos _ (le_refl 0), add_zero]
          simp
        · have hsplit : min (a + b) (size x) = a + min b (size x - a) := by omega
          have htail : a + b - (a + min b (size x - a)) = b - min b (size x - a) := by ring
          simp only [draw, leftover, ha0, hab, hb0, hle, if_false, hmin, hsplit, htail, sub_self,
            draw_of_nonpos _ (le_refl (0 : ℤ)), List.map_cons, List.map_nil, List.sum_cons,
            List.sum_nil, add_zero, hres.size_resize, hf, hadd, add_assoc]

/-- What is left is worth what there was, less what was drawn. -/
theorem sum_leftover {M : Type*} [AddCommGroup M] (hres : Resizable size key resize)
    {f : α → ℤ → M} (hadd : ∀ x m n, f x (m + n) = f x m + f x n)
    (hf : ∀ x n, f (resize x n) = f x) (hsize : ∀ x ∈ l, 0 < size x) :
    ((leftover size resize l q).map fun x => f x (size x)).sum =
      (l.map fun x => f x (size x)).sum - ((draw size l q).map fun d => f d.1 d.2).sum := by
  induction l generalizing q with
  | nil => simp [draw, leftover]
  | cons x rest ih =>
    have hx := hsize x List.mem_cons_self
    have hrest : ∀ y ∈ rest, 0 < size y := fun y hy => hsize y (List.mem_cons_of_mem _ hy)
    by_cases hq : q ≤ 0
    · rw [leftover_of_nonpos _ hq, draw_of_nonpos _ hq]
      simp
    · by_cases hle : size x ≤ q
      · have hmin : min q (size x) = size x := by omega
        simp only [draw, leftover, hq, hle, if_true, if_false, hmin, List.map_cons, List.sum_cons,
          ih hrest]
        abel
      · have hmin : min q (size x) = q := by omega
        have hsum := hadd x (size x - q) q
        rw [sub_add_cancel] at hsum
        simp only [draw, leftover, hq, hle, if_false, hmin, sub_self,
          draw_of_nonpos _ (le_refl (0 : ℤ)), List.map_cons, List.map_nil, List.sum_cons,
          List.sum_nil, hres.size_resize, hf, hsum]
        abel

variable [DecidableEq κ]

/-- What a draw takes from the lot of a key. -/
def takenFrom (key : α → κ) (ds : List (α × ℤ)) (k : κ) : ℤ :=
  (ds.map fun d => if key d.1 = k then d.2 else 0).sum

theorem takenFrom_cons (d : α × ℤ) (ds : List (α × ℤ)) (k : κ) :
    takenFrom key (d :: ds) k = (if key d.1 = k then d.2 else 0) + takenFrom key ds k := by
  simp [takenFrom]

theorem takenFrom_eq_zero {ds : List (α × ℤ)} {k : κ} (h : ∀ d ∈ ds, key d.1 ≠ k) :
    takenFrom key ds k = 0 := by
  refine List.sum_eq_zero fun n hn => ?_
  obtain ⟨d, hd, rfl⟩ := List.mem_map.mp hn
  exact if_neg (h d hd)

theorem takenFrom_nonneg {ds : List (α × ℤ)} (h : ∀ d ∈ ds, 0 ≤ d.2) (k : κ) :
    0 ≤ takenFrom key ds k := by
  apply List.sum_nonneg
  intro n hn
  obtain ⟨d, hd, rfl⟩ := List.mem_map.mp hn
  split
  · exact h d hd
  · exact le_rfl

/-- With one lot a key, a draw takes from the key what it takes from its lot. -/
theorem takenFrom_of_mem {ds : List (α × ℤ)} (hnodup : (ds.map fun d => key d.1).Nodup)
    {d : α × ℤ} (hd : d ∈ ds) : takenFrom key ds (key d.1) = d.2 := by
  induction ds with
  | nil => cases hd
  | cons e rest ih =>
    obtain ⟨hnot, hrest⟩ := List.nodup_cons.mp hnodup
    rw [takenFrom_cons]
    rcases List.mem_cons.mp hd with rfl | hd
    · rw [if_pos rfl, takenFrom_eq_zero, add_zero]
      exact fun d' hd' heq => hnot (List.mem_map.mpr ⟨d', hd', heq⟩)
    · have hne : key e.1 ≠ key d.1 := fun heq => hnot (List.mem_map.mpr ⟨d, hd, heq.symm⟩)
      rw [if_neg hne, zero_add, ih hrest hd]

/-- The lots that are left are those that were there, less what was drawn from each, as far as
something remains of them. -/
theorem mem_leftover_iff (hres : Resizable size key resize) (hnodup : (l.map key).Nodup)
    (hsize : ∀ x ∈ l, 0 < size x) {y : α} :
    y ∈ leftover size resize l q ↔ ∃ x ∈ l,
      y = resize x (size x - takenFrom key (draw size l q) (key x)) ∧
        takenFrom key (draw size l q) (key x) < size x := by
  induction l generalizing q with
  | nil => simp [leftover]
  | cons x rest ih =>
    have hx := hsize x List.mem_cons_self
    have hrest : ∀ y ∈ rest, 0 < size y := fun y hy => hsize y (List.mem_cons_of_mem _ hy)
    obtain ⟨hnot, hnodup'⟩ := List.nodup_cons.mp hnodup
    have hne : ∀ z ∈ rest, key x ≠ key z := fun z hz heq =>
      hnot (List.mem_map.mpr ⟨z, hz, heq.symm⟩)
    have hdrawn : ∀ n, takenFrom key (draw size rest n) (key x) = 0 := fun n =>
      takenFrom_eq_zero fun d hd => (hne d.1 (mem_of_mem_draw hd)).symm
    -- Nothing is left to draw, or the first lot is drawn from before the rest.
    by_cases hq : q ≤ 0
    · simp only [leftover_of_nonpos _ hq, draw_of_nonpos _ hq, takenFrom, List.map_nil,
        List.sum_nil, sub_zero, hres.resize_size]
      constructor
      · exact fun hy => ⟨y, hy, rfl, hsize y hy⟩
      · rintro ⟨z, hz, rfl, _⟩
        exact hz
    · simp only [leftover, draw, hq, if_false, takenFrom_cons, List.mem_cons,
        exists_eq_or_imp, if_true, hdrawn, add_zero]
      have htail : ∀ n, (∃ z ∈ rest, y = resize z (size z -
            ((if key x = key z then n else 0) + takenFrom key (draw size rest (q - n)) (key z))) ∧
          (if key x = key z then n else 0) + takenFrom key (draw size rest (q - n)) (key z) <
            size z) ↔
          ∃ z ∈ rest, y = resize z (size z - takenFrom key (draw size rest (q - n)) (key z)) ∧
            takenFrom key (draw size rest (q - n)) (key z) < size z := by
        intro n
        refine exists_congr fun z => and_congr_right fun hz => ?_
        rw [if_neg (hne z hz), zero_add]
      rw [htail]
      -- The lot is used up and disappears, or it covers the rest of the quantity and stays,
      -- smaller.
      by_cases hle : size x ≤ q
      · have hmin : min q (size x) = size x := by omega
        rw [if_pos hle, hmin, ih hnodup' hrest]
        simp
      · have hmin : min q (size x) = q := by omega
        rw [if_neg hle, hmin, sub_self, ← ih hnodup' hrest, leftover_of_nonpos _ le_rfl,
          List.mem_cons]
        simp [not_le.mp hle]

/-- Draws from the same lots in different orders that take the same from each are the same. -/
theorem draw_perm_of_takenFrom {l' : List α} (hperm : l.Perm l') (hnodup : (l.map key).Nodup)
    (hsize : ∀ x ∈ l, 0 < size x)
    (h : ∀ k, takenFrom key (draw size l q) k = takenFrom key (draw size l' q) k) :
    (draw size l q).Perm (draw size l' q) := by
  have hnodup' : (l'.map key).Nodup := (hperm.map key).nodup_iff.mp hnodup
  have hsize' : ∀ x ∈ l', 0 < size x := fun x hx => hsize x (hperm.mem_iff.mpr hx)
  have hkeys : ∀ {l : List α}, (l.map key).Nodup →
      ((draw size l q).map fun d => key d.1).Nodup := by
    intro l hl
    have hprefix : (draw size l q).map Prod.fst <+: l := draw_prefix
    have hsub := hprefix.sublist.map key
    rw [List.map_map] at hsub
    exact hl.sublist hsub
  -- what the one draw takes from a lot, the other takes from a lot of that key, which is the same
  have hmem : ∀ {l l' : List α}, l.Perm l' → (l.map key).Nodup → (l'.map key).Nodup →
      (∀ x ∈ l, 0 < size x) →
      (∀ k, takenFrom key (draw size l q) k = takenFrom key (draw size l' q) k) →
      ∀ d ∈ draw size l q, d ∈ draw size l' q := by
    intro l l' hperm hl hl' hpos h d hd
    have htaken := h (key d.1)
    rw [takenFrom_of_mem (hkeys hl) hd] at htaken
    have hd0 := draw_pos hpos hd
    by_contra hnot
    by_cases hex : ∃ e ∈ draw size l' q, key e.1 = key d.1
    · obtain ⟨e, he, hkey⟩ := hex
      have hfst : e.1 = d.1 := List.inj_on_of_nodup_map hl' (mem_of_mem_draw he)
        (hperm.mem_iff.mp (mem_of_mem_draw hd)) hkey
      rw [← hkey, takenFrom_of_mem (hkeys hl') he] at htaken
      exact hnot (Prod.ext hfst htaken.symm ▸ he)
    · rw [takenFrom_eq_zero fun e he heq => hex ⟨e, he, heq⟩] at htaken
      omega
  refine (List.perm_ext_iff_of_nodup ?_ ?_).mpr fun d => ⟨?_, ?_⟩
  · exact List.Nodup.of_map (fun d => key d.1) (hkeys hnodup)
  · exact List.Nodup.of_map (fun d => key d.1) (hkeys hnodup')
  · exact hmem hperm hnodup hnodup' hsize h d
  · exact hmem hperm.symm hnodup' hnodup hsize' (fun k => (h k).symm) d

end Leftover

end Lots
