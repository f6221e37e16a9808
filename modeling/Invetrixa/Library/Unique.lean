import Invetrixa.Library.Table

/-!
# Unique indexes

A serial table whose rows have distinct keys. A row is only written if the index allows it. Where
some of the rows count as deleted but stay in the table, the index still sees them: a key that no
other row in use has is refused exactly if a row that is out of use has it.

## Main definitions

- `UniqueTable` — a serial table with distinct keys
- `UniqueTable.insert`, `UniqueTable.update` — writes that the index may refuse
- `UniqueTable.rewrite` — a write that keeps the key

## Main results

- `insert_eq_none_iff_of_free`, `update_eq_none_iff_of_free`
-/

namespace Rowstore

variable {ρ κ : Type*} {key : ρ → κ}

/-- A table of which no two rows have the same key. -/
structure UniqueTable (key : ρ → κ) extends Serial ρ where
  unique : ∀ i j r r', toSerial.find? i = some r → toSerial.find? j = some r' → key r = key r' →
    i = j

namespace UniqueTable

def empty : UniqueTable key := ⟨Serial.empty, fun _ _ _ _ h => nomatch h⟩

variable [DecidableEq κ] (t : UniqueTable key)

/-- Whether a row has the key, other than the row with the id. -/
def taken (except : Option ℕ) (k : κ) : Bool :=
  t.rows.any fun x => some x.1 ≠ except ∧ key x.2 = k

theorem taken_iff {except : Option ℕ} {k : κ} :
    t.taken except k = true ↔ ∃ i r, t.find? i = some r ∧ some i ≠ except ∧ key r = k := by
  rw [taken, List.any_eq_true]
  constructor
  · rintro ⟨⟨i, r⟩, hmem, h⟩
    obtain ⟨hne, hkey⟩ := of_decide_eq_true h
    exact ⟨i, r, Table.find?_of_mem_rows hmem, hne, hkey⟩
  · rintro ⟨i, r, hfind, hne, hkey⟩
    exact ⟨(i, r), Table.mem_rows_of_find? hfind, decide_eq_true ⟨hne, hkey⟩⟩

/-- Add a row under the next id, if no row has its key. -/
def insert (r : ρ) : Option (ℕ × UniqueTable key) :=
  if h : t.taken none (key r) then none
  else some (t.next, {
    toSerial := t.create r
    unique := by
      have hfree : ∀ i r', t.find? i = some r' → key r' ≠ key r := fun i r' hfind hkey =>
        h (t.taken_iff.mpr ⟨i, r', hfind, nofun, hkey⟩)
      intro i j x x' hx hx' hkey
      rcases Serial.find?_create_cases hx with hold | ⟨rfl, hnew⟩
      · rcases Serial.find?_create_cases hx' with hold' | ⟨rfl, hnew'⟩
        · exact t.unique i j x x' hold hold' hkey
        · exact absurd (hnew' ▸ hkey) (hfree i x hold)
      · rcases Serial.find?_create_cases hx' with hold' | ⟨rfl, -⟩
        · exact absurd (hnew ▸ hkey.symm) (hfree j x' hold')
        · rfl })

/-- Rewrite a row, if no other row has the key that it gets. -/
def update (id : ℕ) (f : ρ → ρ) : Option (UniqueTable key) :=
  if h : ∃ r ∈ t.find? id, t.taken (some id) (key (f r)) = true then none
  else some {
    toSerial := t.modify id f
    unique := by
      have hfree : ∀ r, t.find? id = some r → ∀ i r', t.find? i = some r' → i ≠ id →
          key r' ≠ key (f r) := fun r hr i r' hfind hne hkey =>
        h ⟨r, hr, t.taken_iff.mpr ⟨i, r', hfind, fun heq => hne (Option.some.inj heq), hkey⟩⟩
      intro i j x x' hx hx' hkey
      rw [Serial.toTable_modify] at hx hx'
      rcases Table.find?_modify_cases hx with ⟨hne, hold⟩ | ⟨rfl, r, hr, rfl⟩
      · rcases Table.find?_modify_cases hx' with ⟨-, hold'⟩ | ⟨rfl, r, hr, rfl⟩
        · exact t.unique i j x x' hold hold' hkey
        · exact absurd hkey (hfree r hr i x hold hne)
      · rcases Table.find?_modify_cases hx' with ⟨hne, hold'⟩ | ⟨rfl, -⟩
        · exact absurd hkey.symm (hfree r hr j x' hold' hne)
        · rfl }

/-- Rewrite a row and keep its key. -/
def rewrite (id : ℕ) (f : ρ → ρ) (hf : ∀ r, key (f r) = key r) : UniqueTable key where
  toSerial := t.modify id f
  unique := by
    have hkeys : ∀ i x, (t.modify id f).find? i = some x →
        ∃ r, t.find? i = some r ∧ key x = key r := by
      intro i x hx
      rw [Serial.toTable_modify] at hx
      rcases Table.find?_modify_cases hx with ⟨-, hold⟩ | ⟨rfl, r, hr, rfl⟩
      · exact ⟨x, hold, rfl⟩
      · exact ⟨r, hr, hf r⟩
    intro i j x x' hx hx' hkey
    obtain ⟨r, hr, hxr⟩ := hkeys i x hx
    obtain ⟨r', hr', hxr'⟩ := hkeys j x' hx'
    exact t.unique i j r r' hr hr' (hxr.symm.trans (hkey.trans hxr'))

variable {t} {r : ρ} {id : ℕ} {f : ρ → ρ}

theorem insert_eq_none_iff :
    t.insert r = none ↔ ∃ i r', t.find? i = some r' ∧ key r' = key r := by
  have htaken : t.insert r = none ↔ t.taken none (key r) = true := by
    rw [insert]
    split
    · next h => exact iff_of_true rfl h
    · next h => exact iff_of_false (Option.some_ne_none _) h
  rw [htaken, taken_iff]
  simp

theorem update_eq_none_iff (hr : t.find? id = some r) :
    t.update id f = none ↔ ∃ i r', t.find? i = some r' ∧ i ≠ id ∧ key r' = key (f r) := by
  have hcond : (∃ r ∈ t.find? id, t.taken (some id) (key (f r)) = true) ↔
      t.taken (some id) (key (f r)) = true := by
    rw [hr]
    simp
  have htaken : t.update id f = none ↔ t.taken (some id) (key (f r)) = true := by
    rw [← hcond, update]
    split
    · next h => exact iff_of_true rfl h
    · next h => exact iff_of_false (Option.some_ne_none _) h
  rw [htaken, taken_iff]
  simp

theorem insert_eq_some {new : ℕ × UniqueTable key} (h : t.insert r = some new) :
    new.1 = t.next ∧ new.2.toSerial = t.create r := by
  rw [insert] at h
  split at h
  · cases h
  · obtain rfl := Option.some.inj h
    exact ⟨rfl, rfl⟩

theorem update_eq_some {t' : UniqueTable key} (h : t.update id f = some t') :
    t'.toSerial = t.modify id f := by
  rw [update] at h
  split at h
  · cases h
  · obtain rfl := Option.some.inj h
    rfl

/-- If no row in use has the key, the index refuses a new row exactly if one out of use has. -/
theorem insert_eq_none_iff_of_free (live : ρ → Prop)
    (hfree : ∀ i r', t.find? i = some r' → live r' → key r' ≠ key r) :
    t.insert r = none ↔ ∃ i r', t.find? i = some r' ∧ ¬live r' ∧ key r' = key r := by
  rw [insert_eq_none_iff]
  refine exists_congr fun i => exists_congr fun r' => and_congr_right fun hfind => ?_
  exact ⟨fun hkey => ⟨fun hlive => hfree i r' hfind hlive hkey, hkey⟩, And.right⟩

/-- If no other row in use has the key, the index refuses to rewrite a row that is in use exactly
if one out of use has it. -/
theorem update_eq_none_iff_of_free (live : ρ → Prop) (hr : t.find? id = some r) (hlive : live r)
    (hfree : ∀ i r', t.find? i = some r' → i ≠ id → live r' → key r' ≠ key (f r)) :
    t.update id f = none ↔ ∃ i r', t.find? i = some r' ∧ ¬live r' ∧ key r' = key (f r) := by
  rw [update_eq_none_iff hr]
  refine exists_congr fun i => exists_congr fun r' => and_congr_right fun hfind => ?_
  constructor
  · rintro ⟨hne, hkey⟩
    exact ⟨fun hlive' => hfree i r' hfind hne hlive' hkey, hkey⟩
  · rintro ⟨hdead, hkey⟩
    refine ⟨?_, hkey⟩
    rintro rfl
    exact hdead (Option.some.inj (hr.symm.trans hfind) ▸ hlive)

end UniqueTable

end Rowstore
