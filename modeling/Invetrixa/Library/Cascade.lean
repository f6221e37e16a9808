import Invetrixa.Library.Table
import Mathlib.Data.List.Nodup
import Mathlib.Logic.Function.Iterate

/-!
# Foreign keys and cascading deletes

Rows of several models that refer to one another by foreign keys, each of which says what becomes of
the referring row when the row it refers to is deleted.

## Main definitions

- `ForeignKey` — a field of one model that holds the id of a row of another
- `Consistent` — rows none of which refers to a row that is not there
- `doomed` — the rows that go with a row
- `Consistent.delete` — a delete with all that follows from it

## Main results

- `doomed_induction`, `mem_doomed_of_refers` — a row goes for a foreign key that cascades
- `find?_remaining`, `delete_eq_ok_iff` — what a delete leaves
-/

namespace Cascade

open Rowstore

/-- What becomes of a row when the row it refers to is deleted. -/
inductive OnDelete
  | cascade | setNull | restrict
  deriving DecidableEq

/-- A field of the rows of one model that holds ids of another model. -/
structure ForeignKey (M F : Type*) where
  source : M
  field : F
  target : M
  onDelete : OnDelete
  deriving DecidableEq

/-- The rows of all models; of each the ids that its fields hold. -/
abbrev Rows (M F : Type*) := Table (M × ℕ) (F → Option ℕ)

variable {M F : Type*} [DecidableEq M]

/-- The row refers to `k` by this foreign key. -/
def ForeignKey.refers (fk : ForeignKey M F) (r : (M × ℕ) × (F → Option ℕ)) (k : M × ℕ) : Bool :=
  fk.source = r.1.1 ∧ fk.target = k.1 ∧ r.2 fk.field = some k.2

/-- The row refers to `k` by a foreign key with this action. -/
def refers (schema : List (ForeignKey M F)) (action : OnDelete) (r : (M × ℕ) × (F → Option ℕ))
    (k : M × ℕ) : Bool :=
  schema.any fun fk => fk.onDelete = action && fk.refers r k

/-- No row refers to a row that is not there. -/
def Sound (schema : List (ForeignKey M F)) (t : Rows M F) : Prop :=
  ∀ r ∈ t.rows, ∀ fk ∈ schema, fk.source = r.1.1 →
    ∀ i ∈ r.2 fk.field, (t.find? (fk.target, i)).isSome

instance (schema : List (ForeignKey M F)) (t : Rows M F) : Decidable (Sound schema t) :=
  inferInstanceAs (Decidable (∀ r ∈ t.rows, ∀ fk ∈ schema, _ → _))

/-- Rows none of which refers to a row that is not there. -/
structure Consistent (schema : List (ForeignKey M F)) where
  table : Rows M F
  sound : Sound schema table

section Doomed

variable (schema : List (ForeignKey M F)) (t : Rows M F)

/-- The keys, and those of the rows that refer to one of them and go with it. -/
def spread (ks : List (M × ℕ)) : List (M × ℕ) :=
  ks ++ (t.rows.filter fun r => r.1 ∉ ks && ks.any (refers schema .cascade r)).map Prod.fst

/-- The rows that go with a row: there are no more rounds than rows. -/
def doomed (k : M × ℕ) : List (M × ℕ) := (spread schema t)^[t.rows.length] [k]

/-- Whatever refers to one of the keys and goes with it is one of them. -/
def Closed (ks : List (M × ℕ)) : Prop :=
  ∀ r ∈ t.rows, ks.any (refers schema .cascade r) = true → r.1 ∈ ks

variable {schema t} {ks : List (M × ℕ)} {k k' : M × ℕ} {n : ℕ}

theorem subset_spread : ks ⊆ spread schema t ks := List.subset_append_left _ _

theorem nodup_spread (h : ks.Nodup) : (spread schema t ks).Nodup := by
  refine h.append (t.nodup.sublist (List.filter_sublist.map _)) ?_
  intro k hk hnew
  obtain ⟨r, hr, rfl⟩ := List.mem_map.mp hnew
  have hr' := (List.mem_filter.mp hr).2
  simp only [Bool.and_eq_true, decide_eq_true_eq] at hr'
  exact hr'.1 hk

theorem spread_subset_keys (h : ks ⊆ t.rows.map Prod.fst) :
    spread schema t ks ⊆ t.rows.map Prod.fst :=
  List.append_subset.mpr ⟨h, List.map_subset _ (List.filter_subset_self _)⟩

theorem spread_of_closed (h : Closed schema t ks) : spread schema t ks = ks := by
  have hnone : (t.rows.filter fun r => r.1 ∉ ks && ks.any (refers schema .cascade r)) = [] := by
    refine List.filter_eq_nil_iff.mpr fun r hr hnew => ?_
    simp only [Bool.and_eq_true, decide_eq_true_eq] at hnew
    exact hnew.1 (h r hr hnew.2)
  rw [spread, hnone, List.map_nil, List.append_nil]

theorem length_lt_spread (h : ¬Closed schema t ks) : ks.length < (spread schema t ks).length := by
  simp only [Closed, not_forall] at h
  obtain ⟨r, hr, hdrag, hnew⟩ := h
  have hmem : r ∈ t.rows.filter fun r => r.1 ∉ ks && ks.any (refers schema .cascade r) :=
    List.mem_filter.mpr ⟨hr, by simp only [hnew, hdrag, not_false_eq_true, decide_true, Bool.and_self]⟩
  have hpos := List.length_pos_of_mem hmem
  rw [spread, List.length_append, List.length_map]
  omega

/-- The rounds come to an end or each has found a row. -/
theorem closed_or_grown (ks : List (M × ℕ)) (n : ℕ) :
    Closed schema t ((spread schema t)^[n] ks) ∨
      ks.length + n ≤ ((spread schema t)^[n] ks).length := by
  induction n with
  | zero => exact .inr le_rfl
  | succ n ih =>
    rw [Function.iterate_succ_apply']
    by_cases hclosed : Closed schema t ((spread schema t)^[n] ks)
    · rw [spread_of_closed hclosed]
      exact .inl hclosed
    · have hlt := length_lt_spread hclosed
      have hle := ih.resolve_left hclosed
      exact .inr (by omega)

theorem iterate_spread (hk : k ∈ t.rows.map Prod.fst) (n : ℕ) :
    ((spread schema t)^[n] [k]).Nodup ∧ (spread schema t)^[n] [k] ⊆ t.rows.map Prod.fst := by
  induction n with
  | zero => exact ⟨List.nodup_singleton k, List.cons_subset.mpr ⟨hk, List.nil_subset _⟩⟩
  | succ n ih =>
    rw [Function.iterate_succ_apply']
    exact ⟨nodup_spread ih.1, spread_subset_keys ih.2⟩

theorem doomed_closed (hk : k ∈ t.rows.map Prod.fst) : Closed schema t (doomed schema t k) := by
  have hrounds : ((spread schema t)^[t.rows.length] [k]).Nodup ∧
      (spread schema t)^[t.rows.length] [k] ⊆ t.rows.map Prod.fst := iterate_spread hk _
  obtain ⟨hnodup, hsubset⟩ := hrounds
  refine (closed_or_grown [k] t.rows.length).resolve_right fun hgrown => ?_
  have hle := (hnodup.subperm hsubset).length_le
  rw [List.length_map] at hle
  simp only [List.length_singleton] at hgrown
  omega

theorem mem_iterate_spread (n : ℕ) : k ∈ (spread schema t)^[n] [k] := by
  induction n with
  | zero => exact List.mem_singleton_self k
  | succ n ih =>
    rw [Function.iterate_succ_apply']
    exact subset_spread ih

theorem mem_doomed_self : k ∈ doomed schema t k := mem_iterate_spread _

/-- What holds of a row and of whatever goes with a row of which it holds, holds of all that goes. -/
theorem doomed_induction {P : M × ℕ → Prop} (root : P k)
    (step : ∀ r ∈ t.rows, ∀ p, P p → refers schema .cascade r p = true → P r.1) :
    ∀ k' ∈ doomed schema t k, P k' := by
  have hrounds : ∀ n, ∀ k' ∈ (spread schema t)^[n] [k], P k' := by
    intro n
    induction n with
    | zero =>
      intro k' hk'
      rw [List.mem_singleton.mp hk']
      exact root
    | succ n ih =>
      intro k' hk'
      rw [Function.iterate_succ_apply'] at hk'
      rcases List.mem_append.mp hk' with hold | hnew
      · exact ih k' hold
      · obtain ⟨r, hr, rfl⟩ := List.mem_map.mp hnew
        obtain ⟨hrow, hdrag⟩ := List.mem_filter.mp hr
        simp only [Bool.and_eq_true, List.any_eq_true] at hdrag
        obtain ⟨_, p, hp, hrefers⟩ := hdrag
        exact step r hrow p (ih p hp) hrefers
  exact hrounds _

theorem refers_iff {action : OnDelete} {r : (M × ℕ) × (F → Option ℕ)} :
    refers schema action r k = true ↔ ∃ fk ∈ schema, fk.onDelete = action ∧ fk.source = r.1.1 ∧
      fk.target = k.1 ∧ r.2 fk.field = some k.2 := by
  simp only [refers, ForeignKey.refers, List.any_eq_true, Bool.and_eq_true, decide_eq_true_eq]

/-- A row goes if a foreign key of it cascades from a row that goes. -/
theorem mem_doomed_of_refers (hk : k ∈ t.rows.map Prod.fst) {row : F → Option ℕ}
    (hrow : t.find? k' = some row) {fk : ForeignKey M F} (hfk : fk ∈ schema)
    (haction : fk.onDelete = .cascade) (hsource : fk.source = k'.1) {i : ℕ}
    (hfield : row fk.field = some i) (hp : (fk.target, i) ∈ doomed schema t k) :
    k' ∈ doomed schema t k :=
  doomed_closed hk (k', row) (Table.mem_rows_of_find? hrow)
    (List.any_eq_true.mpr ⟨_, hp, refers_iff.mpr ⟨fk, hfk, haction, hsource, rfl, hfield⟩⟩)

end Doomed

section Delete

variable [DecidableEq F] (schema : List (ForeignKey M F))

/-- What a row keeps when rows go: it loses the fields that are set to null. -/
def detach (ks : List (M × ℕ)) (r : (M × ℕ) × (F → Option ℕ)) (field : F) : Option ℕ :=
  if schema.any fun fk => fk.field = field && fk.onDelete = .setNull && ks.any (fk.refers r) then none
  else r.2 field

/-- The rows that stay. -/
def remaining (t : Rows M F) (ks : List (M × ℕ)) : Rows M F where
  rows := (t.rows.filter fun r => r.1 ∉ ks).map fun r => (r.1, detach schema ks r)
  nodup := by
    rw [List.map_map]
    exact t.nodup.sublist (List.filter_sublist.map _)

/-- A row that stays refers to a row that goes and forbids it. -/
def Restricted (t : Rows M F) (ks : List (M × ℕ)) : Prop :=
  ∃ r ∈ t.rows, ∃ k ∈ ks, refers schema .restrict r k = true

instance (t : Rows M F) (ks : List (M × ℕ)) : Decidable (Restricted schema t ks) :=
  inferInstanceAs (Decidable (∃ r ∈ t.rows, ∃ k ∈ ks, _))

variable {schema} {t : Rows M F} {ks : List (M × ℕ)} {k : M × ℕ}

theorem find?_remaining :
    (remaining schema t ks).find? k =
      if k ∈ ks then none else (t.find? k).map fun row => detach schema ks (k, row) := by
  by_cases hk : k ∈ ks
  · rw [if_pos hk, Table.find?_eq_none_iff]
    intro hmem
    simp only [remaining, List.map_map] at hmem
    obtain ⟨r, hr, rfl⟩ := List.mem_map.mp hmem
    exact of_decide_eq_true (List.mem_filter.mp hr).2 hk
  · rw [if_neg hk]
    cases hrow : t.find? k with
    | none =>
      rw [Option.map_none, Table.find?_eq_none_iff]
      intro hmem
      simp only [remaining, List.map_map] at hmem
      obtain ⟨r, hr, rfl⟩ := List.mem_map.mp hmem
      exact Table.find?_eq_none_iff.mp hrow (List.mem_map.mpr ⟨r, (List.mem_filter.mp hr).1, rfl⟩)
    | some row =>
      refine Table.find?_of_mem_rows (List.mem_map.mpr ⟨(k, row), ?_, rfl⟩)
      exact List.mem_filter.mpr ⟨Table.mem_rows_of_find? hrow, decide_eq_true hk⟩

/-- A delete leaves no row that refers to one that is gone. -/
theorem sound_remaining (hsound : Sound schema t) (hclosed : Closed schema t ks)
    (hfree : ¬Restricted schema t ks) : Sound schema (remaining schema t ks) := by
  intro r' hr' fk hfk hsource i hi
  obtain ⟨r, hr, rfl⟩ := List.mem_map.mp hr'
  obtain ⟨hrow, hstays⟩ := List.mem_filter.mp hr
  have hkept : ¬(schema.any fun fk' => fk'.field = fk.field && fk'.onDelete = .setNull &&
      ks.any (fk'.refers r)) = true := by
    intro hlost
    simp only [detach, if_pos hlost] at hi
    cases hi
  have hfield : r.2 fk.field = some i := by
    simp only [detach, if_neg hkept] at hi
    exact hi
  have htarget := hsound r hrow fk hfk hsource i hfield
  have href : ∀ action, fk.onDelete = action → refers schema action r (fk.target, i) = true :=
    fun action haction => refers_iff.mpr ⟨fk, hfk, haction, hsource, rfl, hfield⟩
  have hthere : (fk.target, i) ∉ ks := by
    intro hgone
    cases haction : fk.onDelete with
    | cascade =>
      exact of_decide_eq_true hstays
        (hclosed r hrow (List.any_eq_true.mpr ⟨_, hgone, href _ haction⟩))
    | restrict => exact hfree ⟨r, hrow, _, hgone, href _ haction⟩
    | setNull =>
      refine hkept (List.any_eq_true.mpr ⟨fk, hfk, ?_⟩)
      have hrefers : fk.refers r (fk.target, i) = true :=
        decide_eq_true ⟨hsource, rfl, hfield⟩
      have hany : ks.any (fk.refers r) = true := List.any_eq_true.mpr ⟨_, hgone, hrefers⟩
      simp only [haction, hany, decide_true, Bool.and_self]
  rw [find?_remaining, if_neg hthere, Option.isSome_map]
  exact htarget

/-- Why a delete is refused. -/
inductive DeleteError
  | missing | restricted

/-- The delete of a row, with all that follows from it. -/
def Consistent.delete (s : Consistent schema) (k : M × ℕ) : Except DeleteError (Consistent schema) :=
  if hk : k ∈ s.table.rows.map Prod.fst then
    if hfree : Restricted schema s.table (doomed schema s.table k) then .error .restricted
    else .ok ⟨remaining schema s.table (doomed schema s.table k),
      sound_remaining s.sound (doomed_closed hk) hfree⟩
  else .error .missing

theorem delete_eq_ok_iff {s s' : Consistent schema} :
    s.delete k = .ok s' ↔ k ∈ s.table.rows.map Prod.fst ∧
      ¬Restricted schema s.table (doomed schema s.table k) ∧
        s'.table = remaining schema s.table (doomed schema s.table k) := by
  rw [Consistent.delete]
  by_cases hk : k ∈ s.table.rows.map Prod.fst
  · by_cases hfree : Restricted schema s.table (doomed schema s.table k)
    · rw [dif_pos hk, dif_pos hfree]
      exact ⟨fun h => (by cases h), fun h => absurd hfree h.2.1⟩
    · rw [dif_pos hk, dif_neg hfree]
      constructor
      · intro h
        obtain rfl := Except.ok.inj h
        exact ⟨hk, hfree, rfl⟩
      · rintro ⟨_, _, htable⟩
        obtain ⟨table, sound⟩ := s'
        obtain rfl : table = _ := htable
        rfl
  · rw [dif_neg hk]
    exact ⟨fun h => (by cases h), fun h => absurd h.1 hk⟩

end Delete

end Cascade
