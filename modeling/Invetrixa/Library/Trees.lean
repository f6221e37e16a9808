import Mathlib.Data.List.Nodup

/-!
# Trees of items and of keyed fields

Values as they are sent: leaves, arrays of values and objects whose fields have keys. A tree is
rewritten by dropping keys and replacing leaves, and it is collected by leaving out what is not
kept.

## Main definitions

- `Tree` — a value of leaves, arrays and objects
- `Tree.sub?` — what is at a path
- `Tree.rewrite` — without some keys, and with something for each leaf
- `Tree.collect` — without the fields that some leaves are

## Main results

- `Tree.sub?_rewrite`, `Tree.sub?_collect` — what is at a path after either
- `Tree.keys_rewrite`, `Tree.keys_collect` — the keys that are left
-/

namespace Trees

universe u v w

/-- A value of leaves, arrays and objects. -/
inductive Tree (κ : Type u) (α : Type v)
  | leaf (a : α)
  | array (items : List (Tree κ α))
  | object (fields : List (κ × Tree κ α))

/-- A step down a tree. -/
inductive Step (κ : Type u)
  | field (key : κ)
  | item (index : ℕ)

namespace Tree

variable {κ : Type u} {α : Type v} {β : Type w}

/-- What holds of leaves, and of arrays and objects when it does of their parts, holds of trees. -/
theorem induction {P : Tree κ α → Prop} (leaf : ∀ a, P (.leaf a))
    (array : ∀ items, (∀ t ∈ items, P t) → P (.array items))
    (object : ∀ fields, (∀ x ∈ fields, P x.2) → P (.object fields)) : ∀ t, P t :=
  @Tree.rec κ α P (fun items => ∀ t ∈ items, P t) (fun fields => ∀ x ∈ fields, P x.2)
    (fun x => P x.2) leaf array object nofun
    (fun _ _ ht hrest => List.forall_mem_cons.mpr ⟨ht, hrest⟩) nofun
    (fun _ _ hx hrest => List.forall_mem_cons.mpr ⟨hx, hrest⟩) fun _ _ ht => ht

/-- The first field of a key. -/
def field? [DecidableEq κ] (key : κ) : List (κ × Tree κ α) → Option (Tree κ α)
  | [] => none
  | (key', t) :: rest => if key' = key then some t else field? key rest

/-- What is at a path. -/
def sub? [DecidableEq κ] : List (Step κ) → Tree κ α → Option (Tree κ α)
  | [], t => some t
  | .field key :: path, .object fields => (field? key fields).bind (sub? path)
  | .item index :: path, .array items => items[index]?.bind (sub? path)
  | _ :: _, _ => none

/-- A tree with no parts. -/
def IsEnd : Tree κ α → Prop
  | .leaf _ => True
  | .array items => items = []
  | .object fields => fields = []

section Rewrite

variable (drop : κ → Prop) [DecidablePred drop] (f : α → Tree κ β)

mutual

/-- A tree without the fields under some keys, and with a tree for each leaf. -/
def rewrite : Tree κ α → Tree κ β
  | .leaf a => f a
  | .array items => .array (rewriteItems items)
  | .object fields => .object (rewriteFields fields)

def rewriteItems : List (Tree κ α) → List (Tree κ β)
  | [] => []
  | t :: rest => rewrite t :: rewriteItems rest

def rewriteFields : List (κ × Tree κ α) → List (κ × Tree κ β)
  | [] => []
  | (key, t) :: rest =>
    if drop key then rewriteFields rest else (key, rewrite t) :: rewriteFields rest

end

end Rewrite

section Collect

variable (f : α → Option β) (gap : β)

mutual

/-- A tree with what is kept of each leaf: a field of a leaf that is not kept is left out, and an
item leaves a gap. -/
def collect : Tree κ α → Option (Tree κ β)
  | .leaf a => (f a).map .leaf
  | .array items => some (.array (collectItems items))
  | .object fields => some (.object (collectFields fields))

def collectItems : List (Tree κ α) → List (Tree κ β)
  | [] => []
  | t :: rest => (collect t).getD (.leaf gap) :: collectItems rest

def collectFields : List (κ × Tree κ α) → List (κ × Tree κ β)
  | [] => []
  | (key, t) :: rest =>
    match collect t with
    | none => collectFields rest
    | some t => (key, t) :: collectFields rest

end

end Collect

section Objects

variable (P : List κ → Prop)

mutual

/-- Every object of a tree has such keys. -/
def Objects : Tree κ α → Prop
  | .leaf _ => True
  | .array items => ObjectsItems items
  | .object fields => P (fields.map Prod.fst) ∧ ObjectsFields fields

def ObjectsItems : List (Tree κ α) → Prop
  | [] => True
  | t :: rest => Objects t ∧ ObjectsItems rest

def ObjectsFields : List (κ × Tree κ α) → Prop
  | [] => True
  | (_, t) :: rest => Objects t ∧ ObjectsFields rest

end

end Objects

/-- No object has two fields of one key. -/
def Distinct : Tree κ α → Prop := Objects List.Nodup

/-- All keys, at every depth. -/
def Keys (P : κ → Prop) : Tree κ α → Prop := Objects fun keys => ∀ key ∈ keys, P key

section Lemmas

variable {P P' : List κ → Prop}

theorem objectsItems_iff {items : List (Tree κ α)} :
    ObjectsItems P items ↔ ∀ t ∈ items, Objects P t := by
  induction items with
  | nil => exact iff_of_true trivial nofun
  | cons t rest ih =>
    rw [ObjectsItems, ih]
    exact List.forall_mem_cons.symm

theorem objectsFields_iff {fields : List (κ × Tree κ α)} :
    ObjectsFields P fields ↔ ∀ x ∈ fields, Objects P x.2 := by
  induction fields with
  | nil => exact iff_of_true trivial nofun
  | cons x rest ih =>
    rw [ObjectsFields, ih]
    exact (List.forall_mem_cons (p := fun x : κ × Tree κ α => Objects P x.2)).symm

theorem objects_array_iff {items : List (Tree κ α)} :
    Objects P (.array items) ↔ ∀ t ∈ items, Objects P t := objectsItems_iff

theorem objects_object_iff {fields : List (κ × Tree κ α)} :
    Objects P (.object fields) ↔ P (fields.map Prod.fst) ∧ ∀ x ∈ fields, Objects P x.2 :=
  and_congr_right' objectsFields_iff

theorem Objects.imp (hP : ∀ keys, P keys → P' keys) {t : Tree κ α} (h : Objects P t) :
    Objects P' t := by
  induction t using Tree.induction with
  | leaf a => exact trivial
  | array items ih =>
    have hparts := objects_array_iff.mp h
    exact objects_array_iff.mpr fun t ht => ih t ht (hparts t ht)
  | object fields ih =>
    obtain ⟨hself, hparts⟩ := objects_object_iff.mp h
    exact objects_object_iff.mpr ⟨hP _ hself, fun x hx => ih x hx (hparts x hx)⟩

theorem Keys.imp {Q Q' : κ → Prop} (hQ : ∀ key, Q key → Q' key) {t : Tree κ α} (h : t.Keys Q) :
    t.Keys Q' :=
  Objects.imp (fun _ hkeys key hkey => hQ key (hkeys key hkey)) h

end Lemmas

section RewriteLemmas

variable {P P' : List κ → Prop} {drop : κ → Prop} [DecidablePred drop] {f : α → Tree κ β}

theorem rewriteItems_eq_map (items : List (Tree κ α)) :
    rewriteItems drop f items = items.map (rewrite drop f) := by
  induction items with
  | nil => rfl
  | cons t rest ih => rw [rewriteItems, ih, List.map_cons]

theorem rewriteFields_eq_map (fields : List (κ × Tree κ α)) :
    rewriteFields drop f fields =
      (fields.filter fun x => ¬drop x.1).map fun x => (x.1, rewrite drop f x.2) := by
  induction fields with
  | nil => rfl
  | cons x rest ih =>
    obtain ⟨key, t⟩ := x
    rw [rewriteFields]
    split
    · next hkey => rw [List.filter_cons_of_neg (by simpa using hkey), ih]
    · next hkey => rw [List.filter_cons_of_pos (by simpa using hkey), ih, List.map_cons]

theorem map_fst_rewriteFields (fields : List (κ × Tree κ α)) :
    (rewriteFields drop f fields).map Prod.fst =
      (fields.map Prod.fst).filter fun key => ¬drop key := by
  rw [rewriteFields_eq_map, List.map_map, List.filter_map]
  rfl

/-- The keys of a rewritten tree are those that are not dropped, and those of what stands for the
leaves. -/
theorem objects_rewrite (hkeys : ∀ keys, P keys → P' (keys.filter fun key => ¬drop key))
    (hleaf : ∀ a, Objects P' (f a)) {t : Tree κ α} (h : Objects P t) :
    Objects P' (rewrite drop f t) := by
  induction t using Tree.induction with
  | leaf a => exact hleaf a
  | array items ih =>
    rw [objects_array_iff] at h
    rw [rewrite, rewriteItems_eq_map, objects_array_iff, List.forall_mem_map]
    exact fun t ht => ih t ht (h t ht)
  | object fields ih =>
    rw [objects_object_iff] at h
    obtain ⟨hself, hparts⟩ := h
    rw [rewrite, objects_object_iff, map_fst_rewriteFields, rewriteFields_eq_map,
      List.forall_mem_map]
    refine ⟨hkeys _ hself, fun x hx => ?_⟩
    obtain ⟨hx, _⟩ := List.mem_filter.mp hx
    exact ih x hx (hparts x hx)

theorem distinct_rewrite (hleaf : ∀ a, (f a).Distinct) {t : Tree κ α} (h : t.Distinct) :
    (rewrite drop f t).Distinct :=
  objects_rewrite (fun _ hkeys => hkeys.filter _) hleaf h

theorem objects_true (t : Tree κ α) : Objects (fun _ => True) t := by
  induction t using Tree.induction with
  | leaf a => exact trivial
  | array items ih => exact objects_array_iff.mpr ih
  | object fields ih => exact objects_object_iff.mpr ⟨trivial, ih⟩

/-- No dropped key is left. -/
theorem keys_rewrite (hleaf : ∀ a, (f a).Keys fun key => ¬drop key) (t : Tree κ α) :
    (rewrite drop f t).Keys fun key => ¬drop key := by
  refine objects_rewrite (fun keys _ key hkey => ?_) hleaf (objects_true t)
  exact of_decide_eq_true (List.mem_filter.mp hkey).2

variable [DecidableEq κ]

theorem field?_rewriteFields (key : κ) (fields : List (κ × Tree κ α)) :
    field? key (rewriteFields drop f fields) =
      if drop key then none else (field? key fields).map (rewrite drop f) := by
  induction fields with
  | nil => rw [rewriteFields, field?, field?, Option.map_none, ite_self]
  | cons x rest ih =>
    obtain ⟨key', t⟩ := x
    rw [rewriteFields, field?]
    by_cases hkey : key' = key
    · subst hkey
      rw [if_pos rfl]
      split
      · next hdrop => rw [ih, if_pos hdrop]
      · rw [field?, if_pos rfl, Option.map_some]
    · rw [if_neg hkey]
      split
      · exact ih
      · rw [field?, if_neg hkey, ih]

/-- No step of a path is down a dropped field. -/
def Kept (drop : κ → Prop) (path : List (Step κ)) : Prop := ∀ key, .field key ∈ path → ¬drop key

/-- What is at a path is rewritten, or gone with the field it was in. -/
theorem sub?_rewrite (drop : κ → Prop) [DecidablePred drop] (f : α → Tree κ β)
    {path : List (Step κ)} {t u : Tree κ α} (h : sub? path t = some u) :
    (Kept drop path ∧ sub? path (rewrite drop f t) = some (rewrite drop f u)) ∨
      ¬Kept drop path ∧ sub? path (rewrite drop f t) = none := by
  induction path generalizing t with
  | nil =>
    obtain rfl := Option.some.inj h
    exact .inl ⟨nofun, rfl⟩
  | cons step path ih =>
    cases step with
    | item index =>
      have hkept : Kept drop (.item index :: path) ↔ Kept drop path := by
        simp [Kept]
      cases t with
      | leaf a => cases h
      | object fields => cases h
      | array items =>
        obtain ⟨v, hv, hu⟩ := Option.bind_eq_some_iff.mp h
        rw [hkept, rewrite, rewriteItems_eq_map, sub?, List.getElem?_map, hv]
        exact ih hu
    | field key =>
      have hkept : Kept drop (.field key :: path) ↔ ¬drop key ∧ Kept drop path := by
        simp [Kept]
      cases t with
      | leaf a => cases h
      | array items => cases h
      | object fields =>
        obtain ⟨v, hv, hu⟩ := Option.bind_eq_some_iff.mp h
        rw [hkept, rewrite, sub?, field?_rewriteFields, hv]
        by_cases hdrop : drop key
        · rw [if_pos hdrop]
          exact .inr ⟨fun hnot => hnot.1 hdrop, rfl⟩
        · rw [if_neg hdrop, and_iff_right hdrop]
          exact ih hu

end RewriteLemmas

section CollectLemmas

variable {f : α → Option β} {gap : β}

theorem collectItems_eq_map (items : List (Tree κ α)) :
    collectItems f gap items = items.map fun t => (collect f gap t).getD (.leaf gap) := by
  induction items with
  | nil => rfl
  | cons t rest ih => rw [collectItems, ih, List.map_cons]

theorem collectFields_eq_filterMap (fields : List (κ × Tree κ α)) :
    collectFields f gap fields =
      fields.filterMap fun x => (collect f gap x.2).map fun t => (x.1, t) := by
  induction fields with
  | nil => rfl
  | cons x rest ih =>
    obtain ⟨key, t⟩ := x
    rw [collectFields, List.filterMap_cons, ih]
    cases collect f gap t with
    | none => rfl
    | some u => rfl

/-- Only a leaf is not kept. -/
theorem collect_eq_none_iff {t : Tree κ α} :
    collect f gap t = none ↔ ∃ a, t = .leaf a ∧ f a = none := by
  constructor
  · intro h
    cases t with
    | leaf a => exact ⟨a, rfl, Option.map_eq_none_iff.mp h⟩
    | array items => cases h
    | object fields => cases h
  · rintro ⟨a, rfl, h⟩
    rw [collect, h, Option.map_none]

/-- What is collected has no other keys. -/
theorem keys_collect {P : κ → Prop} {t : Tree κ α} (h : t.Keys P) :
    ∀ u ∈ collect f gap t, u.Keys P := by
  induction t using Tree.induction with
  | leaf a =>
    intro u hu
    obtain ⟨b, _, rfl⟩ := Option.map_eq_some_iff.mp hu
    exact trivial
  | array items ih =>
    intro u hu
    obtain rfl := Option.some.inj hu
    have hparts := objects_array_iff.mp h
    refine objects_array_iff.mpr fun v hv => ?_
    rw [collectItems_eq_map] at hv
    obtain ⟨t, ht, rfl⟩ := List.mem_map.mp hv
    cases hcollect : collect f gap t with
    | none => exact trivial
    | some w => exact ih t ht (hparts t ht) w hcollect
  | object fields ih =>
    intro u hu
    obtain rfl := Option.some.inj hu
    obtain ⟨hself, hparts⟩ := objects_object_iff.mp h
    rw [collectFields_eq_filterMap]
    refine objects_object_iff.mpr ⟨fun key hkey => ?_, fun y hy => ?_⟩
    · obtain ⟨y, hy, rfl⟩ := List.mem_map.mp hkey
      obtain ⟨x, hx, heq⟩ := List.mem_filterMap.mp hy
      obtain ⟨w, _, rfl⟩ := Option.map_eq_some_iff.mp heq
      exact hself x.1 (List.mem_map_of_mem hx)
    · obtain ⟨x, hx, heq⟩ := List.mem_filterMap.mp hy
      obtain ⟨w, hw, rfl⟩ := Option.map_eq_some_iff.mp heq
      exact ih x hx (hparts x hx) w hw

/-- The last step of a path is to an item. -/
def endsInItem (path : List (Step κ)) : Bool :=
  match path.getLast? with
  | some (.item _) => true
  | _ => false

variable (f gap) in
/-- What is collected of the tree at a path. -/
def collectAt (path : List (Step κ)) (u : Tree κ α) : Option (Tree κ β) :=
  if endsInItem path then some ((collect f gap u).getD (.leaf gap)) else collect f gap u

theorem collect_isSome {t : Tree κ α} (h : ∀ a, t ≠ .leaf a) : (collect f gap t).isSome := by
  cases t with
  | leaf a => exact absurd rfl (h a)
  | array items => rfl
  | object fields => rfl

theorem collectAt_of_isSome {path : List (Step κ)} {u : Tree κ α} (h : (collect f gap u).isSome) :
    collectAt f gap path u = collect f gap u := by
  obtain ⟨w, hw⟩ := Option.isSome_iff_exists.mp h
  rw [collectAt, hw, Option.getD_some, ite_self]

theorem collectAt_cons_cons (step step' : Step κ) (path : List (Step κ)) :
    collectAt f gap (step :: step' :: path) = collectAt f gap (step' :: path) := by
  funext u
  rw [collectAt, collectAt, endsInItem, List.getLast?_cons_cons, endsInItem]

variable [DecidableEq κ]

theorem field?_eq_none {key : κ} {fields : List (κ × Tree κ α)}
    (h : key ∉ fields.map Prod.fst) : field? key fields = none := by
  induction fields with
  | nil => rfl
  | cons x rest ih =>
    obtain ⟨key', t⟩ := x
    rw [List.map_cons, List.mem_cons, not_or] at h
    rw [field?, if_neg fun heq => h.1 heq.symm]
    exact ih h.2

theorem mem_of_field? {key : κ} {fields : List (κ × Tree κ α)} {t : Tree κ α}
    (h : field? key fields = some t) : (key, t) ∈ fields := by
  induction fields with
  | nil => cases h
  | cons x rest ih =>
    obtain ⟨key', u⟩ := x
    rw [field?] at h
    split at h
    · next hkey =>
      obtain rfl := Option.some.inj h
      exact hkey ▸ .head _
    · exact .tail _ (ih h)

theorem field?_collectFields (key : κ) {fields : List (κ × Tree κ α)}
    (h : (fields.map Prod.fst).Nodup) :
    field? key (collectFields f gap fields) = (field? key fields).bind (collect f gap) := by
  induction fields with
  | nil => rfl
  | cons x rest ih =>
    obtain ⟨key', t⟩ := x
    obtain ⟨hnot, hrest⟩ := List.nodup_cons.mp h
    rw [collectFields, field?]
    by_cases hkey : key' = key
    · subst hkey
      rw [if_pos rfl, Option.bind_some]
      cases hcollect : collect f gap t with
      | none =>
        -- a later field of the key would be another one
        exact (ih hrest).trans (by rw [field?_eq_none hnot, Option.bind_none])
      | some u => exact if_pos rfl
    · rw [if_neg hkey]
      cases collect f gap t with
      | none => exact ih hrest
      | some u => exact (if_neg hkey).trans (ih hrest)

theorem sub?_leaf_cons (step : Step κ) (path : List (Step κ)) (b : β) :
    sub? (step :: path) (.leaf b : Tree κ β) = none := by
  cases step with
  | field key => rfl
  | item index => rfl

/-- What is at a path of what is collected. -/
theorem sub?_collect (path : List (Step κ)) {t : Tree κ α} (h : t.Distinct) :
    (collect f gap t).bind (sub? path) = (sub? path t).bind (collectAt f gap path) := by
  induction path generalizing t with
  | nil =>
    exact Option.bind_fun_some _
  | cons step path ih =>
    cases t with
    | leaf a =>
      rw [sub?_leaf_cons, collect, Option.bind_none]
      cases f a with
      | none => rfl
      | some b => exact sub?_leaf_cons step path b
    | array items =>
      cases step with
      | field key => rfl
      | item index =>
        rw [collect, Option.bind_some, sub?, sub?, collectItems_eq_map, List.getElem?_map]
        cases hv : items[index]? with
        | none => rfl
        | some v =>
          rw [Option.map_some, Option.bind_some, Option.bind_some]
          have hv' := ih (objects_array_iff.mp h v (List.mem_of_getElem? hv))
          cases path with
          | nil => rfl
          | cons step' path =>
            -- A part that is dropped leaves a gap, in which no path leads further.
            rw [collectAt_cons_cons]
            cases hcollect : collect f gap v with
            | none =>
              rw [hcollect, Option.bind_none] at hv'
              exact (sub?_leaf_cons step' path gap).trans hv'
            | some w =>
              rw [hcollect, Option.bind_some] at hv'
              exact hv'
    | object fields =>
      cases step with
      | item index => rfl
      | field key =>
        obtain ⟨hself, hparts⟩ := objects_object_iff.mp h
        rw [collect, Option.bind_some, sub?, sub?, field?_collectFields key hself]
        cases hv : field? key fields with
        | none => rfl
        | some v =>
          rw [Option.bind_some, Option.bind_some]
          refine (ih (hparts _ (mem_of_field? hv))).trans ?_
          cases path with
          | nil => rfl
          | cons step' path => rw [collectAt_cons_cons]

end CollectLemmas

section Compose

variable {drop drop' : κ → Prop} [DecidablePred drop] [DecidablePred drop'] {γ : Type*}

/-- One rewriting after another. -/
theorem rewrite_rewrite (f : α → Tree κ β) (g : β → Tree κ γ) (t : Tree κ α) :
    rewrite drop' g (rewrite drop f t) =
      rewrite (fun key => drop key ∨ drop' key) (fun a => rewrite drop' g (f a)) t := by
  induction t using Tree.induction with
  | leaf a => rfl
  | array items ih =>
    simp only [rewrite, rewriteItems_eq_map, List.map_map]
    exact congrArg _ (List.map_congr_left ih)
  | object fields ih =>
    simp only [rewrite, rewriteFields_eq_map, List.filter_map, List.map_map, List.filter_filter]
    have hfilter : (fields.filter fun x => decide (¬drop' x.1) && decide (¬drop x.1)) =
        fields.filter fun x => ¬(drop x.1 ∨ drop' x.1) := by
      refine List.filter_congr fun x _ => ?_
      rw [← Bool.decide_and, decide_eq_decide, and_comm, not_or]
    refine congrArg _ ((congrArg _ hfilter).trans (List.map_congr_left fun x hx => ?_))
    exact congrArg _ (ih x (List.mem_filter.mp hx).1)

/-- An array or an object of which nothing is collected stays so. -/
theorem collect_rewrite_of_isEnd (drop : κ → Prop) [DecidablePred drop] {f : α → Tree κ α}
    {g : α → Option β} {gap : β} (hnone : ∀ a, g a = none → collect g gap (f a) = none) {t : Tree κ α}
    (ht : ∀ a, t ≠ .leaf a) {l : Tree κ β} (h : collect g gap t = some l) (hl : l.IsEnd) :
    collect g gap (rewrite drop f t) = some l := by
  cases t with
  | leaf a => exact absurd rfl (ht a)
  | array items =>
    obtain rfl := Option.some.inj h
    obtain rfl : items = [] := by
      rw [IsEnd, collectItems_eq_map] at hl
      exact List.map_eq_nil_iff.mp hl
    rfl
  | object fields =>
    obtain rfl := Option.some.inj h
    rw [IsEnd, collectFields_eq_filterMap, List.filterMap_eq_nil_iff] at hl
    rw [rewrite, collect, collectFields_eq_filterMap, collectFields_eq_filterMap,
      List.filterMap_eq_nil_iff.mpr hl, List.filterMap_eq_nil_iff.mpr]
    intro y hy
    rw [rewriteFields_eq_map] at hy
    obtain ⟨x, hx, rfl⟩ := List.mem_map.mp hy
    obtain ⟨a, ha, hga⟩ := collect_eq_none_iff.mp
      (Option.map_eq_none_iff.mp (hl x (List.mem_filter.mp hx).1))
    rw [ha, rewrite, hnone a hga, Option.map_none]

variable [DecidableEq κ]

/-- What is collected at the end of a path is still there when the tree is rewritten first,
exactly if no step is down a dropped field and the same is collected of what stands for a leaf. -/
theorem sub?_collect_rewrite_iff {f : α → Tree κ α} {g : α → Option β} {gap : β}
    (hdistinct : ∀ a, (f a).Distinct) (hnone : ∀ a, g a = none → collect g gap (f a) = none)
    {t : Tree κ α} (ht : t.Distinct) {path : List (Step κ)} {l : Tree κ β}
    (h : (collect g gap t).bind (sub? path) = some l) (hl : l.IsEnd) :
    (collect g gap (rewrite drop f t)).bind (sub? path) = some l ↔
      Kept drop path ∧ ∀ a, sub? path t = some (.leaf a) → collectAt g gap path (f a) = some l := by
  rw [sub?_collect path ht] at h
  rw [sub?_collect path (distinct_rewrite hdistinct ht)]
  obtain ⟨u, hu, hcollect⟩ := Option.bind_eq_some_iff.mp h
  rcases sub?_rewrite drop f hu with ⟨hkept, hrewrite⟩ | ⟨hgone, hrewrite⟩
  · rw [hrewrite, Option.bind_some, and_iff_right hkept, hu]
    by_cases hleaf : ∃ a, u = .leaf a
    · obtain ⟨a, rfl⟩ := hleaf
      rw [rewrite]
      exact ⟨fun h a' heq => by cases heq; exact h, fun h => h a rfl⟩
    · rw [not_exists] at hleaf
      rw [collectAt_of_isSome (collect_isSome hleaf)] at hcollect
      have hsame := collect_rewrite_of_isEnd drop hnone hleaf hcollect hl
      refine iff_of_true ?_ fun a heq => absurd (Option.some.inj heq) (hleaf a)
      rw [collectAt_of_isSome (by rw [hsame]; rfl), hsame]
  · rw [hrewrite]
    exact iff_of_false nofun fun hkept => hgone hkept.1

end Compose

end Tree

end Trees
