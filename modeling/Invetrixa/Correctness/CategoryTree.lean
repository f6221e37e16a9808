import Invetrixa.Catalog.Category
import Invetrixa.Library.Runs

/-!
# The category tree

A category is put under a live parent that does not lie below it, and removed when no live category
lies under it. Requests that come one after another keep the tree a forest, so that the walk up it
ends. Requests that check before others write do not: two moves, each legal for itself, close a
cycle, in which the walk of every later move runs for ever.

## Main results

- `categories_form_forest` — requests one after another
- `tree_sound_iff` — requests interleaved
- `moves_close_cycle` — two moves that cross
-/

namespace Invetrixa

open Rowstore Requests CategoryService

/-- The parent that the row of a category names. -/
def CatalogStore.parentOf (s : CatalogStore) (id : Id) : Option Id :=
  (s.categories.find? id).bind ProductCategory.parentId

/-- A category is there and not deleted. -/
def CatalogStore.Live (s : CatalogStore) (id : Id) : Prop :=
  ∃ c, s.categories.find? id = some c ∧ c.deletedAt = none

/-- Every walk up the tree ends, and over a live category there are only live ones. -/
structure CategoryForest (s : CatalogStore) : Prop where
  rooted : Forest.Rooted s.parentOf
  parent_live : ∀ id parentId, s.Live id → s.parentOf id = some parentId → s.Live parentId

/-- A parent is a category of the tenant of its child. -/
def ParentsOfTenant (s : CatalogStore) : Prop :=
  ∀ id c parentId, s.categories.find? id = some c → c.parentId = some parentId →
    ∃ parent, s.categories.find? parentId = some parent ∧ parent.tenantId = c.tenantId

variable {s : CatalogStore} {tenantId id parentId : Id}

section Walk

theorem parentOf_of_liveParent {p : Id} (h : liveParent tenantId s id = some p) :
    s.parentOf id = some p := by
  obtain ⟨c, hc, hp⟩ := Option.bind_eq_some_iff.mp h
  rw [CatalogStore.parentOf, (liveCategory_eq_some_iff.mp hc).1]
  exact hp

theorem CategoryForest.rooted_liveParent (h : CategoryForest s) (tenantId : Id) :
    Forest.Rooted (liveParent tenantId s) :=
  Subrelation.wf (fun hp => parentOf_of_liveParent hp) h.rooted

/-- The walk ends, from wherever it starts. -/
theorem CategoryForest.checkCircularReference_isSome (h : CategoryForest s)
    (tenantId categoryId newParentId : Id) :
    (checkCircularReference tenantId categoryId newParentId s).isSome := by
  have hnodes : ∀ a, Forest.Below (liveParent tenantId s) newParentId a →
      (liveParent tenantId s a).isSome → a ∈ s.categories.rows.map Prod.fst := by
    intro a _ ha
    obtain ⟨p, hp⟩ := Option.isSome_iff_exists.mp ha
    obtain ⟨c, hc, _⟩ := Option.bind_eq_some_iff.mp hp
    exact List.mem_map_of_mem (Table.mem_rows_of_find? (liveCategory_eq_some_iff.mp hc).1)
  have hends := (h.rooted_liveParent tenantId).walk_isSome categoryId hnodes
  rwa [List.length_map] at hends

/-- From a live category the walk sees the tree as it is. -/
theorem CategoryForest.below_liveParent_iff (h : CategoryForest s) (htenant : ParentsOfTenant s)
    {c : ProductCategory} (hc : s.liveCategory tenantId id = some c) {a : Id} :
    Forest.Below (liveParent tenantId s) id a ↔ Forest.Below s.parentOf id a := by
  constructor
  · exact Relation.ReflTransGen.mono (fun _ _ => parentOf_of_liveParent) _ _
  · intro hbelow
    induction hbelow using Relation.ReflTransGen.head_induction_on generalizing c with
    | refl => exact Relation.ReflTransGen.refl
    | @head x y hxy _ ih =>
      obtain ⟨hrow, ht, hlive⟩ := liveCategory_eq_some_iff.mp hc
      obtain ⟨parent, hparent, hplive⟩ := h.parent_live x y ⟨c, hrow, hlive⟩ hxy
      have hpid : c.parentId = some y := by
        rw [CatalogStore.parentOf, hrow] at hxy
        exact hxy
      obtain ⟨parent', hparent', hpt⟩ := htenant x c y hrow hpid
      obtain rfl := Option.some.inj (hparent.symm.trans hparent')
      have hy : s.liveCategory tenantId y = some parent :=
        liveCategory_eq_some_iff.mpr ⟨hparent, hpt.trans ht, hplive⟩
      refine Forest.below_of_parent ?_ (ih hy)
      rw [liveParent, hc]
      exact hpid

end Walk

section Steps

/-- The parents after an update. -/
theorem parentOf_commitUpdate (update : CategoryUpdate) (id : Id) :
    (commitUpdate update s).parentOf id =
      if id = update.id then
        (s.categories.find? id).bind fun c => update.parentId.getD c.parentId
      else s.parentOf id := by
  simp only [CatalogStore.parentOf, commitUpdate, Serial.toTable_modify, Table.find?_modify]
  split
  · rw [Option.bind_map]
    rfl
  · rfl

theorem live_commitUpdate (update : CategoryUpdate) :
    (commitUpdate update s).Live id ↔ s.Live id := by
  simp only [CatalogStore.Live, commitUpdate, Serial.toTable_modify, Table.find?_modify]
  split
  · next h =>
    subst h
    constructor
    · rintro ⟨c, hc, hlive⟩
      obtain ⟨c₀, hc₀, rfl⟩ := Option.map_eq_some_iff.mp hc
      exact ⟨c₀, hc₀, hlive⟩
    · rintro ⟨c, hc, hlive⟩
      exact ⟨updated update c, by rw [hc]; rfl, hlive⟩
  · exact Iff.rfl

theorem parentOf_commitRemove (now id k : ℕ) : (commitRemove now id s).parentOf k = s.parentOf k := by
  simp only [CatalogStore.parentOf, commitRemove, Serial.toTable_modify, Table.find?_modify]
  split
  · next h =>
    rw [h, Option.bind_map]
    rfl
  · rfl

theorem live_commitRemove (now id k : ℕ) :
    (commitRemove now id s).Live k ↔ s.Live k ∧ k ≠ id := by
  simp only [CatalogStore.Live, commitRemove, Serial.toTable_modify, Table.find?_modify]
  split
  · next h =>
    refine iff_of_false ?_ fun hk => hk.2 h
    rintro ⟨c, hc, hlive⟩
    obtain ⟨c₀, _, rfl⟩ := Option.map_eq_some_iff.mp hc
    cases hlive
  · next h => exact (and_iff_left h).symm

/-- Where an update is written, the new parent does not lie below the category, and is live if the
category is. -/
def CategoryUpdate.KeepsForest (update : CategoryUpdate) (s : CatalogStore) : Prop :=
  ∀ parentId, update.parentId = some (some parentId) →
    (s.categories.find? update.id).isSome →
      ¬Forest.Below s.parentOf parentId update.id ∧ (s.Live update.id → s.Live parentId)

theorem CategoryForest.commitUpdate (h : CategoryForest s) {update : CategoryUpdate}
    (hkeeps : update.KeepsForest s) : CategoryForest (commitUpdate update s) := by
  -- the parent an update leaves is the one before or the one it names
  have hparent : ∀ p, (CategoryService.commitUpdate update s).parentOf update.id = some p →
      s.parentOf update.id = some p ∨
        (update.parentId = some (some p) ∧ (s.categories.find? update.id).isSome) := by
    intro p hp
    rw [parentOf_commitUpdate, if_pos rfl] at hp
    obtain ⟨c, hc, hp⟩ := Option.bind_eq_some_iff.mp hp
    cases hnew : update.parentId with
    | none =>
      rw [hnew] at hp
      refine .inl ?_
      rw [CatalogStore.parentOf, hc]
      exact hp
    | some new =>
      rw [hnew] at hp
      exact .inr ⟨congrArg some hp, by rw [hc]; rfl⟩
  constructor
  · refine h.rooted.move (c := update.id) (fun k hk => ?_) fun p hp => ?_
    · rw [parentOf_commitUpdate, if_neg hk]
    · rcases hparent p hp with hold | ⟨hnew, hrow⟩
      · exact h.rooted.not_below_parent hold
      · exact (hkeeps p hnew hrow).1
  · intro k p hlive hp
    rw [live_commitUpdate] at hlive ⊢
    by_cases hk : k = update.id
    · subst hk
      rcases hparent p hp with hold | ⟨hnew, hrow⟩
      · exact h.parent_live _ p hlive hold
      · exact (hkeeps p hnew hrow).2 hlive
    · rw [parentOf_commitUpdate, if_neg hk] at hp
      exact h.parent_live k p hlive hp

/-- No live category lies under this one. -/
def NoLiveChild (s : CatalogStore) (id : Id) : Prop := ∀ k, s.Live k → s.parentOf k ≠ some id

theorem noLiveChild_of_children {id : Id} (h : children id s = []) : NoLiveChild s id := by
  rintro k ⟨c, hc, hlive⟩ hp
  have hpid : c.parentId = some id := by
    rw [CatalogStore.parentOf, hc] at hp
    exact hp
  have hmem : (k, c) ∈ children id s :=
    List.mem_filter.mpr ⟨Table.mem_rows_of_find? hc, by simp [hpid, hlive]⟩
  rw [h] at hmem
  cases hmem

theorem CategoryForest.commitRemove (h : CategoryForest s) {now id : ℕ}
    (hchild : NoLiveChild s id) : CategoryForest (commitRemove now id s) := by
  have hparent : (CategoryService.commitRemove now id s).parentOf = s.parentOf :=
    funext (parentOf_commitRemove now id)
  constructor
  · rw [hparent]
    exact h.rooted
  · intro k p hlive hp
    rw [hparent] at hp
    rw [live_commitRemove] at hlive ⊢
    refine ⟨h.parent_live k p hlive.1 hp, ?_⟩
    rintro rfl
    exact hchild k hlive.1 hp

theorem validateParent_ok (h : validateParent tenantId parentId s = .ok ⟨⟩) :
    (s.liveCategory tenantId parentId).isSome := by
  rw [validateParent] at h
  split at h
  · cases h
  · next hsome => exact Option.ne_none_iff_isSome.mp (by simpa using hsome)

/-- A move that passes its checks is to a live category of the tenant, and not below. -/
theorem validateMove_ok (h : validateMove tenantId id parentId s = some (.ok ⟨⟩)) :
    (s.liveCategory tenantId parentId).isSome ∧
      ¬Forest.Below (liveParent tenantId s) parentId id := by
  rw [validateMove] at h
  split at h
  · cases h
  · split at h
    · cases h
    · next hparent =>
      obtain ⟨isCircular, hwalk, h⟩ := Option.map_eq_some_iff.mp h
      refine ⟨validateParent_ok hparent, fun hbelow => ?_⟩
      rw [(Forest.walk_eq_some hwalk).mpr hbelow] at h
      cases h

/-- An update that passes its checks is of a live category, and its move has passed its own. -/
theorem readCategoryUpdate_ok {casing : Casing} {dto : UpdateCategoryDto} {update : CategoryUpdate}
    (h : readUpdate casing tenantId id dto s = some (.ok update)) :
    (s.liveCategory tenantId id).isSome ∧ update.id = id ∧
      ∀ parentId, update.parentId = some (some parentId) →
        validateMove tenantId id parentId s = some (.ok ⟨⟩) := by
  rw [readUpdate] at h
  split at h
  · cases h
  · next hsome =>
    obtain ⟨checked, hmoved, h⟩ := Option.map_eq_some_iff.mp h
    obtain ⟨_, hchecked, h⟩ := Except.bind_eq_ok_iff.mp h
    obtain ⟨slug, _, h⟩ := Except.bind_eq_ok_iff.mp h
    obtain rfl := Except.ok.inj h
    refine ⟨Option.ne_none_iff_isSome.mp (by simpa using hsome), rfl, fun parentId hp => ?_⟩
    rw [show dto.parentId = some (some parentId) from hp] at hmoved
    exact hmoved.trans (congrArg some hchecked)

/-- An update that is written where it was checked keeps the forest. -/
theorem CategoryForest.keepsForest_of_read (h : CategoryForest s) (htenant : ParentsOfTenant s)
    {casing : Casing} {dto : UpdateCategoryDto} {update : CategoryUpdate}
    (hread : readUpdate casing tenantId id dto s = some (.ok update)) :
    update.KeepsForest s := by
  intro parentId hp _
  obtain ⟨_, rfl, hmoves⟩ := readCategoryUpdate_ok hread
  obtain ⟨hparent, hbelow⟩ := validateMove_ok (hmoves parentId hp)
  obtain ⟨parent, hrow⟩ := Option.isSome_iff_exists.mp hparent
  rw [h.below_liveParent_iff htenant hrow] at hbelow
  obtain ⟨c, hc, _, hlive⟩ := isSome_liveCategory_iff.mp hparent
  exact ⟨hbelow, fun _ => ⟨c, hc, hlive⟩⟩

end Steps

/-! ## One after another -/

/-- The categories form a forest, and the walk up it is right. -/
structure CategoriesSound (s : CatalogStore) : Prop where
  acyclic : Forest.Acyclic s.parentOf
  parent_live : ∀ id c parentId, s.categories.find? id = some c → c.deletedAt = none →
    c.parentId = some parentId →
      ∃ parent, s.categories.find? parentId = some parent ∧ parent.deletedAt = none ∧
        parent.tenantId = c.tenantId
  /-- a walk for a live category from a live parent ends, and says whether the parent is the
  category or below it -/
  walk_right : ∀ tenantId categoryId newParentId,
    (s.liveCategory tenantId categoryId).isSome → (s.liveCategory tenantId newParentId).isSome →
      ∃ isCircular, checkCircularReference tenantId categoryId newParentId s = some isCircular ∧
        (isCircular = true ↔ Forest.Below s.parentOf newParentId categoryId)

section Serve

theorem categoriesSound (h : CategoryForest s) (htenant : ParentsOfTenant s) :
    CategoriesSound s := by
  refine ⟨h.rooted.acyclic, fun id c parentId hc hlive hp => ?_, ?_⟩
  · have hparent : s.parentOf id = some parentId := by
      rw [CatalogStore.parentOf, hc]
      exact hp
    obtain ⟨parent, hrow, hplive⟩ := h.parent_live id parentId ⟨c, hc, hlive⟩ hparent
    obtain ⟨parent', hrow', hpt⟩ := htenant id c parentId hc hp
    obtain rfl := Option.some.inj (hrow.symm.trans hrow')
    exact ⟨parent, hrow, hplive, hpt⟩
  · intro tenantId categoryId newParentId _ hparent
    obtain ⟨parent, hrow⟩ := Option.isSome_iff_exists.mp hparent
    obtain ⟨isCircular, hwalk⟩ := Option.isSome_iff_exists.mp
      (h.checkCircularReference_isSome tenantId categoryId newParentId)
    refine ⟨isCircular, hwalk, ?_⟩
    rw [Forest.walk_eq_some hwalk, h.below_liveParent_iff htenant hrow]

/-- A walk up from a live category meets only live ones. -/
theorem CategoryForest.live_of_below (h : CategoryForest s) {k a : Id} (hk : s.Live k)
    (hbelow : Forest.Below s.parentOf k a) : s.Live a := by
  induction hbelow with
  | refl => exact hk
  | tail _ hp ih => exact h.parent_live _ _ ih hp

/-- The parent of a category that passes its checks is live and of the tenant. -/
theorem createCategory_ok {casing : Casing} {dto : CreateCategoryDto} {s' : CatalogStore}
    (h : CategoryService.create casing tenantId dto s = .ok s') :
    (∀ parentId, dto.parentId = some parentId → (s.liveCategory tenantId parentId).isSome) ∧
      ∃ c, c.parentId = dto.parentId ∧ c.tenantId = tenantId ∧
        s' = { s with categories := s.categories.create c } := by
  obtain ⟨_, hparent, h⟩ := Except.bind_eq_ok_iff.mp h
  obtain ⟨slug, _, h⟩ := Except.bind_eq_ok_iff.mp h
  obtain rfl := Except.ok.inj h
  refine ⟨fun parentId hp => ?_, _, rfl, rfl, rfl⟩
  rw [hp] at hparent
  exact validateParent_ok hparent

/-- A new category is a leaf under a live parent, or stands at the top. -/
theorem CategoryForest.create (h : CategoryForest s) (htenant : ParentsOfTenant s)
    {casing : Casing} {dto : CreateCategoryDto} {s' : CatalogStore}
    (hcreate : CategoryService.create casing tenantId dto s = .ok s') :
    CategoryForest s' ∧ ParentsOfTenant s' := by
  obtain ⟨hparent, c, hcp, hct, rfl⟩ := createCategory_ok hcreate
  have hlive : ∀ parentId, dto.parentId = some parentId → s.Live parentId := by
    intro parentId hp
    obtain ⟨p, hrow, _, hplive⟩ := isSome_liveCategory_iff.mp (hparent parentId hp)
    exact ⟨p, hrow, hplive⟩
  have hnext : ∀ k, s.Live k → k ≠ s.categories.next := by
    rintro k ⟨c, hc, _⟩ rfl
    rw [s.categories.find?_next] at hc
    cases hc
  have hfind : ∀ {k r}, s.categories.find? k = some r → (s.categories.create c).find? k = some r :=
    fun hr => Serial.find?_create_of_some hr c
  have hparentOf : ∀ k, k ≠ s.categories.next →
      CatalogStore.parentOf { s with categories := s.categories.create c } k = s.parentOf k := by
    intro k hk
    rw [CatalogStore.parentOf, CatalogStore.parentOf, Serial.find?_create, if_neg hk]
  have hnew : CatalogStore.parentOf { s with categories := s.categories.create c }
      s.categories.next = dto.parentId := by
    rw [CatalogStore.parentOf, Serial.find?_create, if_pos rfl]
    exact hcp
  -- The new node is a leaf: nothing that was there lies below it.
  refine ⟨⟨h.rooted.move hparentOf fun p hp hbelow => ?_, fun k p hk hp => ?_⟩, ?_⟩
  · exact hnext _ (h.live_of_below (hlive p (hnew.symm.trans hp)) hbelow) rfl
  · have hlift : ∀ {q}, s.Live q →
        CatalogStore.Live { s with categories := s.categories.create c } q :=
      fun ⟨r, hr, hrlive⟩ => ⟨r, hfind hr, hrlive⟩
    by_cases hkn : k = s.categories.next
    · subst hkn
      exact hlift (hlive p (hnew.symm.trans hp))
    · obtain ⟨r, hr, hrlive⟩ := hk
      rw [Serial.find?_create, if_neg hkn] at hr
      rw [hparentOf k hkn] at hp
      exact hlift (h.parent_live k p ⟨r, hr, hrlive⟩ hp)
  · intro k r p hr hp
    rcases Serial.find?_create_cases hr with hr | ⟨rfl, rfl⟩
    · obtain ⟨parent, hrow, hpt⟩ := htenant k r p hr hp
      exact ⟨parent, hfind hrow, hpt⟩
    · obtain ⟨parent, hrow, hpt, _⟩ := isSome_liveCategory_iff.mp (hparent p (hcp.symm.trans hp))
      exact ⟨parent, hfind hrow, hpt.trans hct.symm⟩

/-- Rewriting rows without their tenants leaves parents of the tenant, if new parents are. -/
theorem ParentsOfTenant.modify (h : ParentsOfTenant s) {f : ProductCategory → ProductCategory}
    (htenant : ∀ c, (f c).tenantId = c.tenantId)
    (hparent : ∀ c p, s.categories.find? id = some c → (f c).parentId = some p →
      c.parentId = some p ∨ ∃ parent, s.categories.find? p = some parent ∧
        parent.tenantId = c.tenantId) :
    ParentsOfTenant { s with categories := s.categories.modify id f } := by
  have hrow : ∀ {p parent}, s.categories.find? p = some parent →
      ∃ parent', (s.categories.modify id f).find? p = some parent' ∧
        parent'.tenantId = parent.tenantId := by
    intro p parent hp
    rw [Serial.toTable_modify, Table.find?_modify, hp]
    split
    · exact ⟨f parent, rfl, htenant parent⟩
    · exact ⟨parent, rfl, rfl⟩
  intro k c p hc hp
  rw [Serial.toTable_modify, Table.find?_modify] at hc
  have hold : ∃ c₀, s.categories.find? k = some c₀ ∧ c.tenantId = c₀.tenantId ∧
      (c₀.parentId = some p ∨ ∃ parent, s.categories.find? p = some parent ∧
        parent.tenantId = c₀.tenantId) := by
    split at hc
    · next hk =>
      subst hk
      obtain ⟨c₀, hc₀, rfl⟩ := Option.map_eq_some_iff.mp hc
      exact ⟨c₀, hc₀, htenant c₀, hparent c₀ p hc₀ hp⟩
    · exact ⟨c, hc, rfl, .inl hp⟩
  obtain ⟨c₀, hc₀, hct, hcase⟩ := hold
  have hfound : ∃ parent, s.categories.find? p = some parent ∧ parent.tenantId = c₀.tenantId := by
    rcases hcase with hsame | hnew
    · exact h k c₀ p hc₀ hsame
    · exact hnew
  obtain ⟨parent, hfind, hpt⟩ := hfound
  obtain ⟨parent', hfind', hpt'⟩ := hrow hfind
  exact ⟨parent', hfind', (hpt'.trans hpt).trans hct.symm⟩

theorem ParentsOfTenant.commitUpdate (h : ParentsOfTenant s) {casing : Casing}
    {dto : UpdateCategoryDto} {update : CategoryUpdate}
    (hread : readUpdate casing tenantId id dto s = some (.ok update)) :
    ParentsOfTenant (commitUpdate update s) := by
  obtain ⟨hcategory, rfl, hmoves⟩ := readCategoryUpdate_ok hread
  refine h.modify (fun _ => rfl) fun c p hc hp => ?_
  cases hnew : update.parentId with
  | none =>
    simp only [updated, hnew] at hp
    exact .inl hp
  | some new =>
    simp only [updated, hnew, Option.getD_some] at hp
    obtain ⟨parent, hrow, hpt, _⟩ :=
      isSome_liveCategory_iff.mp (validateMove_ok (hmoves p (hnew.trans (congrArg some hp)))).1
    obtain ⟨c', hc', hct, _⟩ := isSome_liveCategory_iff.mp hcategory
    obtain rfl := Option.some.inj (hc.symm.trans hc')
    exact .inr ⟨parent, hrow, hpt.trans hct.symm⟩

theorem ParentsOfTenant.commitRemove (h : ParentsOfTenant s) (now id : ℕ) :
    ParentsOfTenant (commitRemove now id s) :=
  h.modify (fun _ => rfl) fun _ _ _ hp => .inl hp

end Serve

/-- In every run of creates, updates and removes from a catalogue without categories. -/
theorem categories_form_forest {casing : Casing} {s₀ s : CatalogStore}
    (h₀ : s₀.categories = Serial.empty)
    (h : Runs (serveCategory casing) (fun _ _ => True) s₀ s) : CategoriesSound s := by
  have hstart : CategoryForest s₀ ∧ ParentsOfTenant s₀ := by
    have hnone : ∀ id, s₀.categories.find? id = none := by
      intro id
      rw [h₀]
      rfl
    have hparent : ∀ id, s₀.parentOf id = none := by
      intro id
      rw [CatalogStore.parentOf, hnone]
      rfl
    refine ⟨⟨⟨fun k => ⟨k, fun p hp => ?_⟩⟩, fun id p _ hp => ?_⟩, fun id c p hc => ?_⟩
    · rw [hparent] at hp
      cases hp
    · rw [hparent] at hp
      cases hp
    · rw [hnone] at hc
      cases hc
  -- Each request keeps both parts of the invariant together: the parents that are found are the
  -- tenant's.
  have hend := Runs.invariant (I := fun s => CategoryForest s ∧ ParentsOfTenant s) h hstart ?_
  · exact categoriesSound hend.1 hend.2
  · rintro s ⟨tenantId, now, request⟩ ⟨hforest, htenant⟩ -
    cases request with
    | create dto =>
      simp only [serveCategory]
      cases hcreate : CategoryService.create casing tenantId dto s with
      | error e => exact ⟨hforest, htenant⟩
      | ok s' => exact hforest.create htenant hcreate
    | update id dto =>
      simp only [serveCategory]
      split
      · next update hread =>
        exact ⟨hforest.commitUpdate (hforest.keepsForest_of_read htenant hread),
          htenant.commitUpdate hread⟩
      · exact ⟨hforest, htenant⟩
      · exact ⟨hforest, htenant⟩
    | remove id =>
      simp only [serveCategory]
      split
      · next hread =>
        exact ⟨hforest.commitRemove (noLiveChild_of_children (readRemove_ok hread).1),
          htenant.commitRemove now id⟩
      · exact ⟨hforest, htenant⟩

/-- Two categories, one moved under the other and back to the top, the other removed. -/
def moveAndRemove : List CategoryCall :=
  [⟨0, 0, .create ⟨"Phones", none, none⟩⟩, ⟨0, 1, .create ⟨"Cases", none, some 0⟩⟩,
    ⟨0, 2, .update 1 ⟨none, none, some none⟩⟩, ⟨0, 3, .remove 0⟩]

theorem categories_form_forest_moveAndRemove :
    CategoriesSound (moveAndRemove.foldl (fun s call => serveCategory .ascii call s) .empty) :=
  categories_form_forest rfl (Runs.of_allMeet (Runs.allMeet_of_forall (fun _ _ => trivial) _))

/-! ## Interleaved -/

/-- What a request in flight will write. -/
inductive CategoryWrite
  | update (update : CategoryUpdate)
  | remove (now id : ℕ)

/-- Updates and removes, each a check and a later write. -/
def categoryRequests (casing : Casing) : ReadCommit CatalogStore CategoryCall CategoryWrite where
  read call s :=
    match call.request with
    | .create _ => none
    | .update id dto =>
      match readUpdate casing call.tenantId id dto s with
      | some (.ok update) => some (.update update)
      | some (.error _) | none => none
    | .remove id =>
      match readRemove call.tenantId id s with
      | .ok _ => some (.remove call.now id)
      | .error _ => none
  commit _ write s :=
    match write with
    | .update update => commitUpdate update s
    | .remove now id => commitRemove now id s

/-- The tree that every later request relies on. -/
structure TreeSound (s : CatalogStore) : Prop where
  acyclic : Forest.Acyclic s.parentOf
  parent_live : ∀ id parentId, s.Live id → s.parentOf id = some parentId → s.Live parentId
  walk_ends : ∀ tenantId categoryId newParentId,
    (checkCircularReference tenantId categoryId newParentId s).isSome

/-- What a request has checked still holds where it writes. -/
def StillValid (s : CatalogStore) (_ : CategoryCall) : CategoryWrite → Prop
  | .update update => update.KeepsForest s
  | .remove _ id => NoLiveChild s id

theorem CategoryForest.treeSound (h : CategoryForest s) : TreeSound s :=
  ⟨h.rooted.acyclic, h.parent_live, h.checkCircularReference_isSome⟩

/-- The way from a category up to the one that is moved is still there after the move. -/
theorem below_commitUpdate {update : CategoryUpdate} {p : Id}
    (h : Forest.Below s.parentOf p update.id) :
    Forest.Below (commitUpdate update s).parentOf p update.id := by
  induction h using Relation.ReflTransGen.head_induction_on with
  | refl => exact Relation.ReflTransGen.refl
  | @head x y hxy _ ih =>
    by_cases hx : x = update.id
    · exact hx ▸ Relation.ReflTransGen.refl
    · refine Forest.below_of_parent ?_ ih
      rw [parentOf_commitUpdate, if_neg hx]
      exact hxy

/-- A move that is no longer valid closes a cycle, or leaves a live category under one that is
not. -/
theorem commitUpdate_breaks {update : CategoryUpdate} (hbad : ¬update.KeepsForest s) :
    ¬TreeSound (commitUpdate update s) := by
  simp only [CategoryUpdate.KeepsForest, not_forall, not_and_or, not_not, exists_prop] at hbad
  obtain ⟨p, hp, hrow, hcase⟩ := hbad
  have hparent : (commitUpdate update s).parentOf update.id = some p := by
    obtain ⟨c, hc⟩ := Option.isSome_iff_exists.mp hrow
    rw [parentOf_commitUpdate, if_pos rfl, hc, hp]
    rfl
  intro hsound
  rcases hcase with hbelow | ⟨hlive, hdead⟩
  · exact hsound.acyclic update.id (Relation.TransGen.head' hparent (below_commitUpdate hbelow))
  · refine hdead ((live_commitUpdate update).mp ?_)
    exact hsound.parent_live update.id p ((live_commitUpdate update).mpr hlive) hparent

/-- A remove that is no longer valid leaves a live category under one that is not. -/
theorem CategoryForest.commitRemove_breaks (h : CategoryForest s) {now id : ℕ}
    (hbad : ¬NoLiveChild s id) : ¬TreeSound (CategoryService.commitRemove now id s) := by
  simp only [NoLiveChild, not_forall, not_not, exists_prop] at hbad
  obtain ⟨k, hlive, hp⟩ := hbad
  intro hsound
  have hne : k ≠ id := by
    rintro rfl
    exact h.rooted.not_below_parent hp Relation.ReflTransGen.refl
  have hdead := hsound.parent_live k id ((live_commitRemove now id k).mpr ⟨hlive, hne⟩)
    ((parentOf_commitRemove now id k).trans hp)
  exact ((live_commitRemove now id id).mp hdead).2 rfl

/-- Along every interleaving of updates and removes the tree stays sound exactly if what each
request has checked still holds where it writes. -/
theorem tree_sound_iff {casing : Casing} {s : CatalogStore} (hs : CategoryForest s)
    (events : List (ReadCommit.Event CategoryCall)) :
    Runs.Always (fun e c => (categoryRequests casing).exec c e) (fun c => TreeSound c.state) events
        ⟨s, []⟩ ↔
      Runs.AllMeet (fun e c => (categoryRequests casing).exec c e)
        (fun c e => e.Meets StillValid c) events ⟨s, []⟩ := by
  refine Runs.always_iff_allMeet (I := fun c => CategoryForest c.state)
    (fun c h => h.treeSound) ?_ ?_ hs (Runs.allMeet_true events)
  · intro c e hforest _ hvalid
    cases e with
    | read call =>
      simp only [ReadCommit.exec]
      split
      · exact hforest
      · exact hforest
    | commit i =>
      simp only [ReadCommit.exec]
      split
      · next call write hwrite =>
        -- What was read when the request was checked still holds when it is written.
        have hstill := hvalid _ hwrite
        cases write with
        | update update => exact hforest.commitUpdate hstill
        | remove now id => exact hforest.commitRemove hstill
      · exact hforest
  · intro c e hforest _ hbad
    cases e with
    | read call => exact absurd trivial hbad
    | commit i =>
      simp only [ReadCommit.Event.Meets, not_forall, exists_prop] at hbad
      obtain ⟨⟨call, write⟩, hwrite, hbad⟩ := hbad
      simp only [ReadCommit.exec, Option.mem_def.mp hwrite]
      cases write with
      | update update => exact commitUpdate_breaks hbad
      | remove now id => exact hforest.commitRemove_breaks hbad

/-- Two categories at the top. -/
def twoCategories : CatalogStore :=
  ([⟨0, 0, .create ⟨"Phones", none, none⟩⟩, ⟨0, 1, .create ⟨"Cases", none, none⟩⟩] :
    List CategoryCall).foldl (fun s call => serveCategory .ascii call s) .empty

/-- Each is put under the other. -/
def crossingMoves : List (ReadCommit.Event CategoryCall) :=
  [.read ⟨0, 2, .update 0 ⟨none, none, some (some 1)⟩⟩,
    .read ⟨0, 3, .update 1 ⟨none, none, some (some 0)⟩⟩, .commit 0, .commit 0]

theorem twoCategories_parentOf (id : Id) : twoCategories.parentOf id = none := by
  have hrows : ∀ r ∈ twoCategories.categories.rows, r.2.parentId = none := by decide +kernel
  cases hfind : twoCategories.categories.find? id with
  | none =>
    rw [CatalogStore.parentOf, hfind]
    rfl
  | some c =>
    rw [CatalogStore.parentOf, hfind]
    exact hrows _ (Table.mem_rows_of_find? hfind)

theorem twoCategories_forest : CategoryForest twoCategories := by
  constructor
  · refine ⟨fun k => ⟨k, fun p hp => ?_⟩⟩
    rw [twoCategories_parentOf] at hp
    cases hp
  · intro id p _ hp
    rw [twoCategories_parentOf] at hp
    cases hp

theorem tree_sound_iff_oneMove :
    Runs.Always (fun e c => (categoryRequests .ascii).exec c e) (fun c => TreeSound c.state)
      [.read ⟨0, 2, .update 0 ⟨none, none, some (some 1)⟩⟩, .commit 0] ⟨twoCategories, []⟩ := by
  refine (tree_sound_iff twoCategories_forest _).mpr ⟨trivial, ?_, trivial⟩
  have hread : (categoryRequests .ascii).read ⟨0, 2, .update 0 ⟨none, none, some (some 1)⟩⟩
      twoCategories = some (.update ⟨0, none, none, some (some 1)⟩) := by rfl
  intro x hx
  simp only [ReadCommit.exec, hread] at hx ⊢
  obtain rfl := Option.some.inj hx
  intro p hp _
  obtain rfl := Option.some.inj (Option.some.inj hp)
  refine ⟨fun hbelow => ?_, fun _ => ⟨_, rfl, rfl⟩⟩
  rcases Forest.below_iff.mp hbelow with heq | ⟨q, hq, _⟩
  · cases heq
  · rw [twoCategories_parentOf] at hq
    cases hq

/-- Two moves that cross close a cycle, and the walk of a third one does not end. -/
theorem moves_close_cycle :
    ¬Runs.Always (fun e c => (categoryRequests .ascii).exec c e) (fun c => TreeSound c.state)
      crossingMoves ⟨twoCategories, []⟩ := by
  intro h
  have hends := h.last.walk_ends 0 2 0
  revert hends
  decide +kernel

end Invetrixa
