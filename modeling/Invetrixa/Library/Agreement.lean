import Invetrixa.Library.Runs
import Invetrixa.Library.Table

/-!
# Two runs side by side

Tables that agree on the rows an observer sees, whatever they hold besides, and fallible functions
that answer alike on related states. Reads that select visible rows only cannot tell such tables
apart; writing the same into both keeps them in agreement, and so does writing rows that are not
seen into one of them.

## Main definitions

- `Table.AgreeOn` — two tables have the same visible rows, in the same order
- `Except.Rel` — two fallible results fail alike or succeed with related values
- `Requests.EachMeets` — each label of a list meets a condition where it is made

## Main results

- `AgreeOn.filter`, `AgreeOn.filter_find?`, `AgreeOn.sum` — reads
- `AgreeOn.modifyWhere`, `AgreeOn.deleteWhere`, `AgreeOn.create` — writes into both
- `agreeOn_modifyWhere`, `agreeOn_deleteWhere`, `agreeOn_create` — writes into one
- `Except.Rel.bind`
- `Requests.foldl_sideBySide` — the rule for two runs with the same seen labels
-/

namespace Rowstore

namespace Table

variable {κ ρ : Type*}

/-- The rows that `p` selects are the same. -/
def AgreeOn (p : ρ → Bool) (t t' : Table κ ρ) : Prop :=
  (t.rows.filter fun r => p r.2) = t'.rows.filter fun r => p r.2

variable {p : ρ → Bool} {t t' t'' : Table κ ρ}

namespace AgreeOn

theorem refl (p : ρ → Bool) (t : Table κ ρ) : AgreeOn p t t := rfl

theorem symm (h : AgreeOn p t t') : AgreeOn p t' t := Eq.symm h

theorem trans (h : AgreeOn p t t') (h' : AgreeOn p t' t'') : AgreeOn p t t'' := Eq.trans h h'

section Reads

/-- A selection that selects only visible rows of these tables. -/
theorem filter_of_mem (h : AgreeOn p t t') {q : κ × ρ → Bool}
    (hq : ∀ r ∈ t.rows, q r = true → p r.2 = true)
    (hq' : ∀ r ∈ t'.rows, q r = true → p r.2 = true) : t.rows.filter q = t'.rows.filter q := by
  have hsplit {rows : List (κ × ρ)} (hq : ∀ r ∈ rows, q r = true → p r.2 = true) :
      rows.filter q = (rows.filter fun r => p r.2).filter q := by
    rw [List.filter_filter]
    refine List.filter_congr fun r hr => ?_
    cases hqr : q r with
    | false => rfl
    | true => simp [hq r hr hqr]
  rw [hsplit hq, h, ← hsplit hq']

/-- A selection of visible rows. -/
theorem filter (h : AgreeOn p t t') {q : κ × ρ → Bool} (hq : ∀ r, q r = true → p r.2 = true) :
    t.rows.filter q = t'.rows.filter q :=
  h.filter_of_mem (fun r _ => hq r) fun r _ => hq r

theorem any (h : AgreeOn p t t') {q : κ × ρ → Bool} (hq : ∀ r, q r = true → p r.2 = true) :
    t.rows.any q = t'.rows.any q := by
  have hselect (rows : List (κ × ρ)) : rows.any q = (rows.filter q).any fun _ => true := by
    rw [List.any_filter]
    simp
  rw [hselect, h.filter hq, ← hselect]

variable [DecidableEq κ] {k : κ} {r : ρ}

theorem find?_iff (h : AgreeOn p t t') (hp : p r = true) :
    t.find? k = some r ↔ t'.find? k = some r := by
  have hmem (u : Table κ ρ) :
      u.find? k = some r ↔ (k, r) ∈ u.rows.filter fun r => p r.2 := by
    rw [find?_eq_some_iff, List.mem_filter]
    exact ⟨fun hr => ⟨hr, hp⟩, And.left⟩
  rw [hmem, h, ← hmem]

/-- A lookup that keeps visible rows only. -/
theorem filter_find? (h : AgreeOn p t t') {q : ρ → Bool} (hq : ∀ r, q r = true → p r = true) :
    (t.find? k).filter q = (t'.find? k).filter q := by
  apply Option.ext
  intro r
  simp only [Option.filter_eq_some_iff]
  constructor
  · rintro ⟨hr, hqr⟩
    exact ⟨(h.find?_iff (hq r hqr)).mp hr, hqr⟩
  · rintro ⟨hr, hqr⟩
    exact ⟨(h.find?_iff (hq r hqr)).mpr hr, hqr⟩

theorem any_find? (h : AgreeOn p t t') {q : ρ → Bool} (hq : ∀ r, q r = true → p r = true) :
    (t.find? k).any q = (t'.find? k).any q := by
  have hselect (o : Option ρ) : o.any q = (o.filter q).isSome := by
    cases o with
    | none => rfl
    | some r => cases hqr : q r <;> simp [Option.filter, hqr]
  rw [hselect, h.filter_find? hq, ← hselect]

/-- A sum to which rows that are not seen add nothing. -/
theorem sum {M : Type*} [AddCommMonoid M] (h : AgreeOn p t t') {g : κ → ρ → M}
    (hg : ∀ k r, t.find? k = some r → p r = false → g k r = 0)
    (hg' : ∀ k r, t'.find? k = some r → p r = false → g k r = 0) : t.sum g = t'.sum g := by
  have hvisible (u : Table κ ρ) (hu : ∀ k r, u.find? k = some r → p r = false → g k r = 0) :
      u.sum g = ((u.rows.filter fun r => p r.2).map fun r => g r.1 r.2).sum := by
    rw [Table.sum_filter]
    refine Table.sum_congr fun k r hr => ?_
    cases hp : p r with
    | true => simp
    | false => simpa using hu k r hr hp
  rw [hvisible t hg, hvisible t' hg', h]

end Reads

section Writes

/-- What is seen may depend on more than the rows. -/
theorem congr_pred (h : AgreeOn p t t') {p' : ρ → Bool} (ht : ∀ r ∈ t.rows, p' r.2 = p r.2)
    (ht' : ∀ r ∈ t'.rows, p' r.2 = p r.2) : AgreeOn p' t t' := by
  have hrows := h
  unfold AgreeOn at hrows ⊢
  rw [List.filter_congr ht, List.filter_congr ht', hrows]

/-- Updates that do the same to visible rows. -/
theorem modifyWhere (h : AgreeOn p t t') {q q' : κ → ρ → Bool} {f f' : ρ → ρ}
    (hf : ∀ r, p (f r) = p r) (hf' : ∀ r, p (f' r) = p r)
    (hsame : ∀ r ∈ t.rows, p r.2 = true → q r.1 r.2 = q' r.1 r.2 ∧ (q r.1 r.2 → f r.2 = f' r.2)) :
    AgreeOn p (t.modifyWhere q f) (t'.modifyWhere q' f') := by
  have hpush {q : κ → ρ → Bool} {f : ρ → ρ} (hf : ∀ r, p (f r) = p r) (u : Table κ ρ) :
      ((u.modifyWhere q f).rows.filter fun r => p r.2) =
        (u.rows.filter fun r => p r.2).map fun r => if q r.1 r.2 then (r.1, f r.2) else r := by
    show (u.rows.map _).filter _ = _
    rw [List.filter_map]
    congr 2
    funext r
    dsimp only [Function.comp_apply]
    split
    · exact hf r.2
    · rfl
  rw [AgreeOn, hpush hf, hpush hf', ← h]
  refine List.map_congr_left fun r hr => ?_
  obtain ⟨hr, hp⟩ := List.mem_filter.mp hr
  obtain ⟨hq, hvalue⟩ := hsame r hr hp
  rw [← hq]
  split
  · next hqr => rw [hvalue hqr]
  · rfl

theorem modify [DecidableEq κ] (h : AgreeOn p t t') {k : κ} {f : ρ → ρ} (hf : ∀ r, p (f r) = p r) :
    AgreeOn p (t.modify k f) (t'.modify k f) :=
  h.modifyWhere hf hf fun _ _ _ => ⟨rfl, fun _ => rfl⟩

/-- Deletions that do the same to visible rows. -/
theorem deleteWhere (h : AgreeOn p t t') {q q' : κ → ρ → Bool}
    (hsame : ∀ r ∈ t.rows, p r.2 = true → q r.1 r.2 = q' r.1 r.2) :
    AgreeOn p (t.deleteWhere q) (t'.deleteWhere q') := by
  have hpush {q : κ → ρ → Bool} (u : Table κ ρ) :
      ((u.deleteWhere q).rows.filter fun r => p r.2) =
        (u.rows.filter fun r => p r.2).filter fun r => !q r.1 r.2 :=
    List.filter_comm _ _ _
  rw [AgreeOn, hpush, hpush, ← h]
  refine List.filter_congr fun r hr => ?_
  obtain ⟨hr, hp⟩ := List.mem_filter.mp hr
  rw [hsame r hr hp]

end Writes

end AgreeOn

section OneSided

/-- An update of rows that are not seen, before and after. -/
theorem agreeOn_modifyWhere {q : κ → ρ → Bool} {f : ρ → ρ}
    (h : ∀ r ∈ t.rows, q r.1 r.2 = true → p r.2 = false ∧ p (f r.2) = false) :
    AgreeOn p (t.modifyWhere q f) t := by
  show (t.rows.map _).filter _ = t.rows.filter _
  generalize t.rows = rows at h
  induction rows with
  | nil => rfl
  | cons r rest ih =>
    have ih := ih fun x hx => h x (List.mem_cons_of_mem _ hx)
    rw [List.map_cons, List.filter_cons, List.filter_cons, ih]
    by_cases hq : q r.1 r.2 = true
    · obtain ⟨hr, hf⟩ := h r List.mem_cons_self hq
      simp [hq, hr, hf]
    · simp [hq]

theorem agreeOn_modify [DecidableEq κ] {k : κ} {f : ρ → ρ}
    (h : ∀ r, t.find? k = some r → p r = false ∧ p (f r) = false) :
    AgreeOn p (t.modify k f) t := by
  refine agreeOn_modifyWhere fun r hr hk => h r.2 ?_
  obtain rfl := of_decide_eq_true hk
  exact find?_of_mem_rows hr

theorem agreeOn_deleteWhere {q : κ → ρ → Bool}
    (h : ∀ r ∈ t.rows, q r.1 r.2 = true → p r.2 = false) : AgreeOn p (t.deleteWhere q) t := by
  show (t.rows.filter _).filter _ = t.rows.filter _
  rw [List.filter_filter]
  refine List.filter_congr fun r hr => ?_
  cases hq : q r.1 r.2 with
  | true => simp [h r hr hq]
  | false => simp

end OneSided

end Table

namespace Serial

variable {ρ : Type*} {p : ρ → Bool} {t t' : Serial ρ}

open Table

theorem rows_create (r : ρ) : (t.create r).rows = t.rows ++ [(t.next, r)] := rfl

/-- The keys below `n` are not handed out any more. -/
def skipTo (n : ℕ) (t : Serial ρ) : Serial ρ where
  toTable := t.toTable
  next := max t.next n
  lt_next k hk := lt_max_of_lt_left (t.lt_next k hk)

@[simp] theorem toTable_skipTo (n : ℕ) (t : Serial ρ) : (t.skipTo n).toTable = t.toTable := rfl

@[simp] theorem next_skipTo (n : ℕ) (t : Serial ρ) : (t.skipTo n).next = max t.next n := rfl

/-- The same row, under the same key. -/
theorem agreeOn_create_both (h : AgreeOn p t.toTable t'.toTable) (hnext : t.next = t'.next)
    (r : ρ) : AgreeOn p (t.create r).toTable (t'.create r).toTable := by
  unfold AgreeOn at h ⊢
  rw [rows_create, rows_create, List.filter_append, List.filter_append, h, hnext]

/-- A row that is not seen. -/
theorem agreeOn_create {r : ρ} (hr : p r = false) : AgreeOn p (t.create r).toTable t.toTable := by
  rw [AgreeOn]
  rw [rows_create, List.filter_append, List.filter_cons_of_neg (by simp [hr]), List.filter_nil,
    List.append_nil]

theorem next_foldl_create_map {β : Type*} (f : β → ρ) (l : List β) :
    (l.foldl (fun t b => t.create (f b)) t).next = t.next + l.length := by
  rw [← List.foldl_map (f := f) (g := create), next_foldl_create, List.length_map]

theorem agreeOn_foldl_create_both {β : Type*} (f : β → ρ) (l : List β)
    (h : AgreeOn p t.toTable t'.toTable) (hnext : t.next = t'.next) :
    AgreeOn p (l.foldl (fun t b => t.create (f b)) t).toTable
      (l.foldl (fun t b => t.create (f b)) t').toTable := by
  induction l generalizing t t' with
  | nil => exact h
  | cons b rest ih =>
    refine ih (agreeOn_create_both h hnext (f b)) ?_
    rw [next_create, next_create, hnext]

theorem agreeOn_foldl_create {β : Type*} {f : β → ρ} {l : List β} (hf : ∀ b ∈ l, p (f b) = false) :
    AgreeOn p (l.foldl (fun t b => t.create (f b)) t).toTable t.toTable := by
  induction l generalizing t with
  | nil => exact AgreeOn.refl p _
  | cons b rest ih =>
    have hrest := ih (t := t.create (f b)) fun x hx => hf x (List.mem_cons_of_mem _ hx)
    exact hrest.trans (agreeOn_create (hf b List.mem_cons_self))

end Serial

end Rowstore

namespace Except

universe u v

variable {ε : Type u} {α β γ δ : Type v}

/-- Both fail with the same error, or both succeed with related values. -/
def Rel (R : α → β → Prop) : Except ε α → Except ε β → Prop
  | .ok a, .ok b => R a b
  | .error e, .error e' => e = e'
  | .ok _, .error _ | .error _, .ok _ => False

variable {R : α → β → Prop} {S : γ → δ → Prop}

theorem Rel.mono {x : Except ε α} {y : Except ε β} {R' : α → β → Prop} (h : Rel R x y)
    (hR : ∀ a b, R a b → R' a b) : Rel R' x y := by
  cases x with
  | error e =>
    cases y with
    | error e' => exact h
    | ok b => exact h.elim
  | ok a =>
    cases y with
    | error e' => exact h.elim
    | ok b => exact hR a b h

/-- What is known of the first of two results. -/
theorem Rel.and {x : Except ε α} {y : Except ε β} {P : α → Prop} (h : Rel R x y)
    (hx : ∀ a, x = .ok a → P a) : Rel (fun a b => R a b ∧ P a) x y := by
  cases x with
  | error e =>
    cases y with
    | error e' => exact h
    | ok b => exact h.elim
  | ok a =>
    cases y with
    | error e' => exact h.elim
    | ok b => exact ⟨h, hx a rfl⟩

theorem Rel.bind {x : Except ε α} {y : Except ε β} {f : α → Except ε γ} {g : β → Except ε δ}
    (h : Rel R x y) (hfg : ∀ a b, R a b → Rel S (f a) (g b)) : Rel S (x >>= f) (y >>= g) := by
  cases x with
  | error e =>
    cases y with
    | error e' => exact h
    | ok b => exact h.elim
  | ok a =>
    cases y with
    | error e' => exact h.elim
    | ok b => exact hfg a b h

theorem bind_congr_ok {x y : Except ε α} {f g : α → Except ε γ} (h : x = y)
    (hfg : ∀ a, x = .ok a → f a = g a) : (x >>= f) = (y >>= g) := by
  subst h
  cases x with
  | error e => rfl
  | ok a => exact hfg a rfl

theorem Rel.cases {x : Except ε α} {y : Except ε β} (h : Rel R x y) :
    (∃ e, x = .error e ∧ y = .error e) ∨ ∃ a b, x = .ok a ∧ y = .ok b ∧ R a b := by
  cases x with
  | error e =>
    cases y with
    | error e' => exact .inl ⟨e, rfl, congrArg _ (Eq.symm h)⟩
    | ok b => exact h.elim
  | ok a =>
    cases y with
    | error e' => exact h.elim
    | ok b => exact .inr ⟨a, b, rfl, rfl, h⟩

/-- The same check before two computations. -/
theorem Rel.bind_eq {x y : Except ε α} {f : α → Except ε γ} {g : α → Except ε δ} (h : x = y)
    (hfg : ∀ a, x = .ok a → Rel S (f a) (g a)) : Rel S (x >>= f) (y >>= g) := by
  subst h
  cases x with
  | error e => exact rfl
  | ok a => exact hfg a rfl

/-- The same decision before two computations. -/
theorem Rel.ite_iff {c c' : Prop} [Decidable c] [Decidable c'] (hc : c ↔ c') {x x' : Except ε α}
    {y y' : Except ε β} (h : c → Rel R x y) (h' : ¬c → Rel R x' y') :
    Rel R (if c then x else x') (if c' then y else y') := by
  by_cases hpos : c
  · rw [if_pos hpos, if_pos (hc.mp hpos)]
    exact h hpos
  · rw [if_neg hpos, if_neg fun h => hpos (hc.mpr h)]
    exact h' hpos

theorem Rel.ite {c : Prop} [Decidable c] {x x' : Except ε α} {y y' : Except ε β}
    (h : c → Rel R x y) (h' : ¬c → Rel R x' y') :
    Rel R (if c then x else x') (if c then y else y') :=
  Rel.ite_iff Iff.rfl h h'

end Except

namespace Requests

variable {σ ε α : Type*} {R : σ → σ → Prop}

/-- The same answer, and related states. -/
def Alongside (R : σ → σ → Prop) (x y : α × σ) : Prop := x.1 = y.1 ∧ R x.2 y.2

/-- A loop on two related states. -/
theorem foldl_rel {β : Type*} {f g : σ → β → σ} {l : List β} {s s' : σ} (hs : R s s')
    (hstep : ∀ b ∈ l, ∀ s s', R s s' → R (f s b) (g s' b)) : R (l.foldl f s) (l.foldl g s') := by
  induction l generalizing s s' with
  | nil => exact hs
  | cons b rest ih =>
    exact ih (hstep b List.mem_cons_self s s' hs) fun x hx => hstep x (List.mem_cons_of_mem _ hx)

/-- A fallible loop on two related states. -/
theorem foldlM_rel {ε' : Type*} {σ' : Type*} {R' : σ' → σ' → Prop} {β : Type*}
    {f g : σ' → β → Except ε' σ'} {l : List β} {s s' : σ'} (hs : R' s s')
    (hstep : ∀ b s s', R' s s' → Except.Rel R' (f s b) (g s' b)) :
    Except.Rel R' (l.foldlM f s) (l.foldlM g s') := by
  induction l generalizing s s' with
  | nil => exact hs
  | cons b rest ih =>
    rw [List.foldlM_cons, List.foldlM_cons]
    exact (hstep b s s' hs).bind fun s₁ s₁' h₁ => ih h₁

section SideBySide

variable {ℓ : Type*} {step : ℓ → σ → σ} {ok : σ → ℓ → Prop}

/-- Each label of a list meets `ok` where it is made. -/
def EachMeets (step : ℓ → σ → σ) (ok : σ → ℓ → Prop) : List ℓ → σ → Prop
  | [], _ => True
  | l :: rest, s => ok s l ∧ EachMeets step ok rest (step l s)

instance decidableEachMeets (step : ℓ → σ → σ) (ok : σ → ℓ → Prop) [∀ s l, Decidable (ok s l)] :
    (ls : List ℓ) → (s : σ) → Decidable (EachMeets step ok ls s)
  | [], _ => isTrue trivial
  | l :: rest, s =>
    have := decidableEachMeets step ok rest (step l s)
    inferInstanceAs (Decidable (_ ∧ _))

theorem EachMeets.and {ok' : σ → ℓ → Prop} {ls : List ℓ} {s : σ} (h : EachMeets step ok ls s)
    (h' : EachMeets step ok' ls s) : EachMeets step (fun s l => ok s l ∧ ok' s l) ls s := by
  induction ls generalizing s with
  | nil => trivial
  | cons l rest ih => exact ⟨⟨h.1, h'.1⟩, ih h.2 h'.2⟩

/-- The rule for two runs with the same seen labels: what each unseen label keeps on its own side,
and each seen label on both sides together, holds of the two states in the end. -/
theorem foldl_sideBySide {seen : ℓ → Bool}
    (hleft : ∀ l s s', seen l = false → ok s l → R s s' → R (step l s) s')
    (hright : ∀ l s s', seen l = false → ok s' l → R s s' → R s (step l s'))
    (hboth : ∀ l s s', seen l = true → ok s l → ok s' l → R s s' → R (step l s) (step l s'))
    {ls ls' : List ℓ} {s s' : σ} (hsame : ls.filter seen = ls'.filter seen)
    (h : EachMeets step ok ls s) (h' : EachMeets step ok ls' s') (hs : R s s') :
    R (ls.foldl (fun s l => step l s) s) (ls'.foldl (fun s l => step l s) s') := by
  induction ls generalizing s s' ls' with
  | nil =>
    -- What is left on the other side is unseen.
    induction ls' generalizing s' with
    | nil => exact hs
    | cons l' rest' ih =>
      cases hseen : seen l' with
      | true =>
        rw [List.filter_nil, List.filter_cons_of_pos hseen] at hsame
        cases hsame
      | false =>
        rw [List.filter_cons_of_neg (by simp [hseen])] at hsame
        exact ih hsame h'.2 (hright l' s s' hseen h'.1 hs)
  | cons l rest ih =>
    cases hseen : seen l with
    | false =>
      rw [List.filter_cons_of_neg (by simp [hseen])] at hsame
      exact ih hsame h.2 h' (hleft l s s' hseen h.1 hs)
    | true =>
      rw [List.filter_cons_of_pos hseen] at hsame
      -- The other side comes to the same label.
      induction ls' generalizing s' with
      | nil =>
        rw [List.filter_nil] at hsame
        cases hsame
      | cons l' rest' ih' =>
        cases hseen' : seen l' with
        | false =>
          rw [List.filter_cons_of_neg (by simp [hseen'])] at hsame
          exact ih' hsame h'.2 (hright l' s s' hseen' h'.1 hs)
        | true =>
          rw [List.filter_cons_of_pos hseen'] at hsame
          obtain ⟨rfl, hrest⟩ := List.cons.inj hsame
          have hnext := ih hrest h.2 h'.2 (hboth l s s' hseen h.1 h'.1 hs)
          exact hnext

end SideBySide

end Requests
