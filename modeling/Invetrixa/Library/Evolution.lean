import Invetrixa.Library.Table
import Invetrixa.Library.Runs

/-!
# How tables evolve

A table evolves under a relation when none of the rows that a predicate selects is lost, and each
of them becomes what the relation lets it become. It is extended when rows are only added behind
those that are there. Both compose, so that what one write does a run of writes does.

## Main definitions

- `Table.Evolves` — selected rows stay, and change as a relation allows
- `Evolution` — a relation on rows that writes may follow one after another

## Main results

- `Table.Evolves.trans` — two evolutions after one another are one
- `Serial.evolves_create`, `Table.evolves_modify`, `Table.evolves_deleteWhere` — the writes
-/

namespace Rowstore

/-- What may become of the rows of a table: each may stay as it is, two changes are one, and what
becomes of a selected row is selected. -/
structure Evolution (ρ : Type*) where
  Selected : ρ → Prop
  Becomes : ρ → ρ → Prop
  refl : ∀ r, Selected r → Becomes r r
  trans : ∀ r r' r'', Becomes r r' → Becomes r' r'' → Becomes r r''
  selected : ∀ r r', Selected r → Becomes r r' → Selected r'

namespace Table

variable {κ ρ : Type*} [DecidableEq κ] {E : Evolution ρ} {t t' t'' : Table κ ρ} {k : κ}

/-- The selected rows stay, and become what they may. -/
def Evolves (E : Evolution ρ) (t t' : Table κ ρ) : Prop :=
  ∀ k r, t.find? k = some r → E.Selected r → ∃ r', t'.find? k = some r' ∧ E.Becomes r r'

theorem Evolves.refl (E : Evolution ρ) (t : Table κ ρ) : t.Evolves E t :=
  fun _ r hfind hselected => ⟨r, hfind, E.refl r hselected⟩

theorem Evolves.trans (h : t.Evolves E t') (h' : t'.Evolves E t'') : t.Evolves E t'' := by
  intro k r hfind hselected
  obtain ⟨r', hfind', hbecomes⟩ := h k r hfind hselected
  obtain ⟨r'', hfind'', hbecomes'⟩ := h' k r' hfind' (E.selected r r' hselected hbecomes)
  exact ⟨r'', hfind'', E.trans r r' r'' hbecomes hbecomes'⟩

/-- A write that finds every row, rewritten, evolves the table if the rewriting is allowed. -/
theorem evolves_of_find? {f : κ → ρ → ρ} (hfind : ∀ k, t'.find? k = (t.find? k).map (f k))
    (hf : ∀ k r, t.find? k = some r → E.Selected r → E.Becomes r (f k r)) : t.Evolves E t' := by
  intro k r hr hselected
  refine ⟨f k r, ?_, hf k r hr hselected⟩
  rw [hfind, hr, Option.map_some]

theorem evolves_modifyWhere {p : κ → ρ → Bool} {f : ρ → ρ}
    (hf : ∀ k r, t.find? k = some r → p k r = true → E.Selected r → E.Becomes r (f r)) :
    t.Evolves E (t.modifyWhere p f) := by
  refine evolves_of_find? (f := fun k r => if p k r then f r else r)
    (fun _ => find?_modifyWhere p f) ?_
  intro k r hr hselected
  by_cases hp : p k r = true
  · simp only [hp, if_true]
    exact hf k r hr hp hselected
  · simp only [hp]
    exact E.refl r hselected

theorem evolves_modify {f : ρ → ρ}
    (hf : ∀ r, t.find? k = some r → E.Selected r → E.Becomes r (f r)) :
    t.Evolves E (t.modify k f) := by
  apply evolves_modifyWhere
  intro k' r hr hk
  obtain rfl := of_decide_eq_true hk
  exact hf r hr

/-- A deletion spares the selected rows. -/
theorem evolves_deleteWhere {p : κ → ρ → Bool}
    (hp : ∀ k r, t.find? k = some r → E.Selected r → p k r = false) :
    t.Evolves E (t.deleteWhere p) := by
  intro k r hr hselected
  refine ⟨r, ?_, E.refl r hselected⟩
  rw [find?_deleteWhere, hr]
  simp [hp k r hr hselected]

end Table

namespace Serial

variable {ρ : Type*} {E : Evolution ρ} {t : Serial ρ}

theorem evolves_create (r : ρ) : t.Evolves E (t.create r).toTable := by
  intro k r' hr' hselected
  exact ⟨r', find?_create_of_some hr' r, E.refl r' hselected⟩

theorem evolves_modify {k : ℕ} {f : ρ → ρ}
    (hf : ∀ r, t.find? k = some r → E.Selected r → E.Becomes r (f r)) :
    t.Evolves E (t.modify k f).toTable :=
  Table.evolves_modify hf

/-- New rows stand behind those that are there. -/
theorem rows_prefix_create (t : Serial ρ) (r : ρ) : t.rows <+: (t.create r).rows :=
  List.prefix_append _ _

theorem rows_prefix_foldl_create {β : Type*} (f : β → ρ) (l : List β) (t : Serial ρ) :
    t.rows <+: (l.foldl (fun t b => t.create (f b)) t).rows := by
  induction l generalizing t with
  | nil => exact List.prefix_refl _
  | cons b rest ih => exact (rows_prefix_create t (f b)).trans (ih (t.create (f b)))

/-- New rows that are not selected leave the selected ones. -/
theorem filter_rows_foldl_create {β : Type*} {p : ρ → Bool} {f : β → ρ} (l : List β) (t : Serial ρ)
    (h : ∀ b ∈ l, p (f b) = false) :
    ((l.foldl (fun t b => t.create (f b)) t).rows.filter fun r => p r.2) =
      t.rows.filter fun r => p r.2 := by
  induction l generalizing t with
  | nil => rfl
  | cons b rest ih =>
    rw [List.foldl_cons, ih _ fun b' hb' => h b' (List.mem_cons_of_mem b hb')]
    simp [Serial.create, List.filter_append, h b List.mem_cons_self]

/-- A deletion that spares the selected rows leaves them. -/
theorem filter_rows_deleteWhere {p : ρ → Bool} {q : ℕ → ρ → Bool} {t : Serial ρ}
    (h : ∀ k r, (k, r) ∈ t.rows → p r = true → q k r = false) :
    ((t.deleteWhere q).rows.filter fun r => p r.2) = t.rows.filter fun r => p r.2 := by
  simp only [Serial.deleteWhere, Table.deleteWhere, List.filter_filter]
  apply List.filter_congr
  intro r hr
  by_cases hp : p r.2 = true
  · simp [hp, h r.1 r.2 hr hp]
  · simp [hp]

end Serial

end Rowstore
