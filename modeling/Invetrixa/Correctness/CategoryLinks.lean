import Invetrixa.Catalog.Product

/-!
# Products and their categories

A product is created under categories that are live and of its tenant, and a category is removed
only without live products. An update writes the categories it is given as they are, checked by
nothing but the foreign key.

## Main results

- `links_sound_iff` — the links of live products are to live categories of their tenant exactly if
  every update names such categories
- `update_links_foreign` — a product in the category of another tenant
-/

namespace Invetrixa

open Rowstore Requests ProductService

/-- The links of live products are to live categories of their tenant. -/
def LinksSound (s : CatalogStore) : Prop :=
  ∀ r ∈ s.links.rows, ∀ p, s.products.find? r.2.productId = some p → p.deletedAt = none →
    (s.liveCategory p.tenantId r.2.categoryId).isSome

/-- An update is carried out: its checks pass, and its transaction is committed. -/
def UpdateGoesThrough (casing : Casing) (tenantId id : Id) (dto : UpdateProductDto)
    (s : CatalogStore) : Prop :=
  ∃ update, readUpdate casing tenantId id dto s = .ok update ∧ (commitUpdate id dto update s).isOk

/-- An update that is carried out names live categories of the tenant. -/
def NamesLiveCategories (casing : Casing) (s : CatalogStore) : CatalogCall → Prop
  | .product ⟨tenantId, _, .update id dto⟩ =>
    UpdateGoesThrough casing tenantId id dto s →
      ∀ categoryIds ∈ dto.categoryIds, ∀ categoryId ∈ categoryIds,
        (s.liveCategory tenantId categoryId).isSome
  | _ => True

/-- What every request keeps: a link is to a product that has been there. -/
structure LinksInv (s : CatalogStore) : Prop where
  sound : LinksSound s
  issued : ∀ r ∈ s.links.rows, r.2.productId < s.products.next

section Steps

variable {s s' : CatalogStore} {tenantId : Id}

/-- All ids are of live categories. -/
def CategoriesLive (tenantId : Id) (categoryIds : List Id) (s : CatalogStore) : Prop :=
  ∀ categoryId ∈ categoryIds, (s.liveCategory tenantId categoryId).isSome

theorem insertProduct_ok {row : CatalogProduct} {id : Id}
    (h : insertProduct row s = .ok (id, s')) :
    id = s.products.next ∧ s' = { s with products := s.products.create row } := by
  obtain ⟨_, _, h⟩ := Except.bind_eq_ok_iff.mp h
  obtain ⟨_, _, h⟩ := Except.bind_eq_ok_iff.mp h
  obtain ⟨_, _, h⟩ := Except.bind_eq_ok_iff.mp h
  obtain ⟨rfl, rfl⟩ := Prod.mk.inj (Except.ok.inj h)
  exact ⟨rfl, rfl⟩

theorem insertLinks_ok {links : List ProductCategoryProduct} (h : insertLinks links s = .ok s') :
    s' = { s with links := links.foldl Serial.create s.links } := by
  obtain ⟨_, h⟩ := Except.ite_error_eq_ok_iff.mp h
  obtain ⟨_, h⟩ := Except.ite_error_eq_ok_iff.mp h
  exact (Except.ok.inj h).symm

theorem insertAttributeValues_ok {values : List ProductAttributeValue}
    (h : insertAttributeValues values s = .ok s') :
    s' = { s with attributeValues := values.foldl Serial.create s.attributeValues } := by
  rw [insertAttributeValues] at h
  split at h
  · cases h
  · exact (Except.ok.inj h).symm

theorem LinksInv.congr (h : LinksInv s) (hcategories : s'.categories = s.categories)
    (hproducts : s'.products = s.products) (hlinks : s'.links = s.links) : LinksInv s' := by
  constructor
  · intro r hr p hp hlive
    rw [hlinks] at hr
    rw [hproducts] at hp
    rw [CatalogStore.liveCategory, hcategories]
    exact h.sound r hr p hp hlive
  · intro r hr
    rw [hlinks] at hr
    rw [hproducts]
    exact h.issued r hr

/-- A new product has no links yet. -/
theorem LinksInv.insertProduct (h : LinksInv s) {row : CatalogProduct} :
    LinksInv { s with products := s.products.create row } := by
  constructor
  · intro r hr p hp hlive
    rcases Serial.find?_create_cases hp with hp | ⟨hnext, _⟩
    · exact h.sound r hr p hp hlive
    · exact absurd (h.issued r hr) (by rw [hnext]; exact lt_irrefl _)
  · exact fun r hr => Nat.lt_succ_of_lt (h.issued r hr)

/-- Links of one product to live categories of its tenant. -/
theorem LinksInv.insertLinks (h : LinksInv s) (tenantId : Id) {links : List ProductCategoryProduct}
    (hlinks : ∀ link ∈ links, (s.liveCategory tenantId link.categoryId).isSome ∧
      ∃ p, s.products.find? link.productId = some p ∧ p.tenantId = tenantId) :
    LinksInv { s with links := links.foldl Serial.create s.links } := by
  have hmem : ∀ r ∈ (links.foldl Serial.create s.links).rows, r ∈ s.links.rows ∨ r.2 ∈ links :=
    fun _ hr => Serial.mem_rows_foldl_create_cases hr
  constructor
  · intro r hr p hp hlive
    rcases hmem r hr with hold | hnew
    · exact h.sound r hold p hp hlive
    · obtain ⟨hcategory, p', hp', htenant⟩ := hlinks r.2 hnew
      obtain rfl := Option.some.inj (hp.symm.trans hp')
      exact htenant ▸ hcategory
  · intro r hr
    rcases hmem r hr with hold | hnew
    · exact h.issued r hold
    · obtain ⟨_, p, hp, _⟩ := hlinks r.2 hnew
      exact s.products.lt_next _ (List.mem_map_of_mem (Table.mem_rows_of_find? hp))

theorem insertVariants_ok {rows : List CatalogProduct} (h : insertVariants rows s = .ok s') :
    s' = { s with products := rows.foldl Serial.create s.products } := by
  induction rows generalizing s with
  | nil => exact (Except.ok.inj h).symm
  | cons row rest ih =>
    obtain ⟨⟨id, s₁⟩, hrow, h⟩ := Except.bind_eq_ok_iff.mp h
    obtain ⟨_, rfl⟩ := insertProduct_ok hrow
    exact ih h

theorem LinksInv.insertVariants (h : LinksInv s) (rows : List CatalogProduct) :
    LinksInv { s with products := rows.foldl Serial.create s.products } := by
  induction rows generalizing s with
  | nil => exact h
  | cons row rest ih => exact ih h.insertProduct

/-- A new product, linked to live categories of its tenant. -/
theorem LinksInv.insertLinked (h : LinksInv s) (row : CatalogProduct) {categoryIds : List Id}
    (hlive : CategoriesLive row.tenantId categoryIds s) :
    LinksInv { s with
      products := s.products.create row
      links := (categoryLinks categoryIds s.products.next).foldl Serial.create s.links } := by
  refine h.insertProduct.insertLinks row.tenantId fun link hlink => ?_
  obtain ⟨categoryId, hid, rfl⟩ := List.mem_map.mp hlink
  refine ⟨hlive categoryId hid, row, ?_, rfl⟩
  rw [Serial.find?_create, if_pos rfl]

/-- What does not depend on the stock is kept while stock comes in. -/
theorem createInitialStock_ensures {P : CatalogStore → Prop}
    (hP : ∀ s stock, P s → P { s with initialStock := stock }) (warehouse : Warehouse)
    (tenantId productId : Id) (initialStock : List InitialStockInput) :
    Handler.Ensures P (createInitialStock warehouse tenantId productId initialStock)
      (fun _ => P) P := by
  rw [createInitialStock]
  generalize (initialStock.map InitialStockInput.locationId).eraseDups = locations
  induction locations with
  | nil => exact Handler.Ensures.pure _ fun _ hs => hs
  | cons locationId rest ih =>
    refine Handler.Ensures.bind (Q := fun _ => P) ?_ fun _ => ih
    refine Handler.Ensures.atomically (fun s _ s' hs hok => ?_) fun s e hs _ => hs
    obtain ⟨_, _, hok⟩ := Except.bind_eq_ok_iff.mp hok
    obtain ⟨_, rfl⟩ := Prod.mk.inj (Except.ok.inj hok)
    exact hP s _ hs

theorem createVariantStock_ensures {P : CatalogStore → Prop}
    (hP : ∀ s stock, P s → P { s with initialStock := stock }) (warehouse : Warehouse)
    (tenantId : Id) (created : List (Id × CatalogProduct)) (variants : List (VariantDto × String)) :
    Handler.Ensures P (createVariantStock warehouse tenantId created variants) (fun _ => P) P := by
  induction variants with
  | nil => exact Handler.Ensures.pure _ fun _ hs => hs
  | cons v rest ih =>
    refine Handler.Ensures.bind (Q := fun _ => P) ?_ fun _ => ih
    rw [createStockOf]
    split
    · exact Handler.Ensures.pure _ fun _ hs => hs
    · exact createInitialStock_ensures hP warehouse tenantId _ _

theorem LinksInv.withStock (h : LinksInv s) (stock : Serial InitialStock) :
    LinksInv { s with initialStock := stock } := h.congr rfl rfl rfl

/-- The transaction of a product with variants. -/
theorem LinksInv.commitVariants (h : LinksInv s) {dto : CreateProductDto}
    (hlive : CategoriesLive tenantId dto.categoryIds s) {sku : String} {plan : VariantPlan}
    {result : Id × List (Id × CatalogProduct)}
    (hok : ProductService.commitVariants tenantId dto sku plan s = .ok (result, s')) :
    LinksInv s' := by
  obtain ⟨⟨parentId, s₁⟩, hparent, hok⟩ := Except.bind_eq_ok_iff.mp hok
  obtain ⟨s₂, hlinks, hok⟩ := Except.bind_eq_ok_iff.mp hok
  obtain ⟨s₃, hvalues, hok⟩ := Except.bind_eq_ok_iff.mp hok
  obtain ⟨s₄, hvariants, hok⟩ := Except.bind_eq_ok_iff.mp hok
  obtain ⟨s₅, hvalues', hok⟩ := Except.bind_eq_ok_iff.mp hok
  obtain ⟨s₆, hlinks', hok⟩ := Except.bind_eq_ok_iff.mp hok
  obtain ⟨_, rfl⟩ := Prod.mk.inj (Except.ok.inj hok)
  obtain ⟨rfl, rfl⟩ := insertProduct_ok hparent
  obtain rfl := insertLinks_ok hlinks
  have h₂ := h.insertLinked (productRow .variable tenantId dto sku plan.parentSlug) hlive
  have hs₃ := insertAttributeValues_ok hvalues
  have h₃ : LinksInv s₃ := h₂.congr (by rw [hs₃]) (by rw [hs₃]) (by rw [hs₃])
  have hs₄ := insertVariants_ok hvariants
  have h₄ : LinksInv s₄ := hs₄ ▸ h₃.insertVariants _
  have hs₅ := insertAttributeValues_ok hvalues'
  have h₅ : LinksInv s₅ := h₄.congr (by rw [hs₅]) (by rw [hs₅]) (by rw [hs₅])
  rw [insertLinks_ok hlinks']
  refine h₅.insertLinks tenantId fun link hlink => ?_
  obtain ⟨r, hr, hlink⟩ := List.mem_flatMap.mp hlink
  obtain ⟨categoryId, hid, rfl⟩ := List.mem_map.mp hlink
  obtain ⟨hrow, hcond⟩ := List.mem_filter.mp hr
  simp only [decide_eq_true_eq] at hcond
  have hcategories : s₅.categories = s.categories := by rw [hs₅, hs₄, hs₃]
  have hproducts : s₅.products = s₄.products := by rw [hs₅]
  refine ⟨?_, r.2, ?_, hcond.2.1⟩
  · rw [CatalogStore.liveCategory, hcategories]
    exact hlive categoryId hid
  · rw [hproducts]
    exact Table.find?_of_mem_rows hrow

/-- The creation of a product. -/
theorem LinksInv.create_ensures (casing : Casing) (warehouse : Warehouse) (tenantId : Id)
    (dto : CreateProductDto) :
    Handler.Ensures LinksInv (ProductService.create casing warehouse tenantId dto)
      (fun _ => LinksInv) LinksInv := by
  refine Handler.Ensures.bind (Q := fun _ => LinksInv) ?_ fun sku => ?_
  · exact Handler.Ensures.read (fun _ _ hs _ => hs) fun _ _ hs _ => hs
  refine Handler.Ensures.bind
    (Q := fun _ s => LinksInv s ∧ CategoriesLive tenantId dto.categoryIds s) ?_ fun _ => ?_
  · exact Handler.Ensures.read
      (fun _ _ hs hok => ⟨hs, CategoryService.validateCategoryIds_ok_iff.mp hok⟩)
      fun _ _ hs _ => hs
  split
  · -- with variants
    refine Handler.Ensures.bind
      (Q := fun _ s => LinksInv s ∧ CategoriesLive tenantId dto.categoryIds s) ?_ fun plan => ?_
    · exact Handler.Ensures.read (fun _ _ hs _ => hs) fun _ _ hs _ => hs.1
    refine Handler.Ensures.bind (Q := fun _ => LinksInv) ?_ fun result => ?_
    · exact Handler.Ensures.atomically (fun _ _ _ hs hok => hs.1.commitVariants hs.2 hok)
        fun _ _ hs _ => hs.1
    refine Handler.Ensures.bind (Q := fun _ => LinksInv) ?_
      fun _ => Handler.Ensures.pure _ fun _ hs => hs
    exact createVariantStock_ensures (fun _ stock hs => hs.withStock stock) _ _ _ _
  · refine Handler.Ensures.bind
      (Q := fun _ s => LinksInv s ∧ CategoriesLive tenantId dto.categoryIds s) ?_ fun slug => ?_
    · exact Handler.Ensures.read (fun _ _ hs _ => hs) fun _ _ hs _ => hs.1
    refine Handler.Ensures.bind (Q := fun _ => LinksInv) ?_ fun productId => ?_
    · refine Handler.Ensures.atomically (fun s _ s' hs hok => ?_) fun _ _ hs _ => hs.1
      obtain ⟨⟨productId, s₁⟩, hproduct, hok⟩ := Except.bind_eq_ok_iff.mp hok
      obtain ⟨s₂, hlinks, hok⟩ := Except.bind_eq_ok_iff.mp hok
      obtain ⟨_, rfl⟩ := Prod.mk.inj (Except.ok.inj hok)
      obtain ⟨rfl, rfl⟩ := insertProduct_ok hproduct
      obtain rfl := insertLinks_ok hlinks
      exact hs.1.insertLinked (productRow .simple tenantId dto sku slug) hs.2
    refine Handler.Ensures.bind (Q := fun _ => LinksInv) ?_
      fun _ => Handler.Ensures.pure _ fun _ hs => hs
    exact createInitialStock_ensures (fun _ stock hs => hs.withStock stock) _ _ _ _

theorem liveCategory_modify {id categoryId : Id} {f : ProductCategory → ProductCategory}
    (h : (s.liveCategory tenantId categoryId).isSome)
    (hf : ∀ c, (f c).tenantId = c.tenantId ∧ (f c).deletedAt = c.deletedAt) :
    (CatalogStore.liveCategory tenantId categoryId
      { s with categories := s.categories.modify id f }).isSome := by
  obtain ⟨c, hrow, htenant, hlive⟩ := isSome_liveCategory_iff.mp h
  rw [isSome_liveCategory_iff, Serial.toTable_modify, Table.find?_modify, hrow]
  split
  · exact ⟨f c, rfl, (hf c).1.trans htenant, (hf c).2.trans hlive⟩
  · exact ⟨c, rfl, htenant, hlive⟩

/-- The categories after a request to them still hold the live products. -/
theorem LinksInv.serveCategory (h : LinksInv s) (casing : Casing) (call : CategoryCall) :
    LinksInv (serveCategory casing call s) := by
  obtain ⟨tenantId, now, request⟩ := call
  cases request with
  | create dto =>
    simp only [Invetrixa.serveCategory]
    cases hcreate : CategoryService.create casing tenantId dto s with
    | error e => exact h
    | ok s' =>
      obtain ⟨_, _, hcreate⟩ := Except.bind_eq_ok_iff.mp hcreate
      obtain ⟨slug, _, hcreate⟩ := Except.bind_eq_ok_iff.mp hcreate
      obtain rfl := Except.ok.inj hcreate
      refine ⟨fun r hr p hp hlive => ?_, h.issued⟩
      obtain ⟨c, hrow, hc⟩ := isSome_liveCategory_iff.mp (h.sound r hr p hp hlive)
      exact isSome_liveCategory_iff.mpr ⟨c, Serial.find?_create_of_some hrow _, hc⟩
  | update id dto =>
    simp only [Invetrixa.serveCategory]
    split
    · exact ⟨fun r hr p hp hlive => liveCategory_modify (h.sound r hr p hp hlive)
        fun _ => ⟨rfl, rfl⟩, h.issued⟩
    · exact h
    · exact h
  | remove id =>
    simp only [Invetrixa.serveCategory]
    split
    · next hread =>
      have hnone := (CategoryService.readRemove_ok hread).2
      refine ⟨fun r hr p hp hlive => ?_, h.issued⟩
      -- A category that is removed has no live product, so no link that matters leads to it.
      have hne : r.2.categoryId ≠ id := by
        intro heq
        have hmem : r ∈ CategoryService.products id s :=
          List.mem_filter.mpr ⟨hr, by simpa [heq] using ⟨p, hp, hlive⟩⟩
        rw [hnone] at hmem
        cases hmem
      have hold := h.sound r hr p hp hlive
      rw [CatalogStore.liveCategory] at hold ⊢
      rw [CategoryService.commitRemove, Serial.toTable_modify, Table.find?_modify, if_neg hne]
      exact hold
    · exact h

/-- A product that is rewritten keeps its tenant, and does not come back to life. -/
theorem LinksInv.modifyProduct (h : LinksInv s) {id : Id} {f : CatalogProduct → CatalogProduct}
    (htenant : ∀ p, (f p).tenantId = p.tenantId)
    (hlive : ∀ p, (f p).deletedAt = none → p.deletedAt = none) :
    LinksInv { s with products := s.products.modify id f } := by
  refine ⟨fun r hr p hp hplive => ?_, h.issued⟩
  rw [Serial.toTable_modify, Table.find?_modify] at hp
  split at hp
  · obtain ⟨p₀, hp₀, rfl⟩ := Option.map_eq_some_iff.mp hp
    rw [htenant]
    exact h.sound r hr p₀ hp₀ (hlive p₀ hplive)
  · exact h.sound r hr p hp hplive

theorem LinksInv.deleteLinks (h : LinksInv s) (id : Id) :
    LinksInv { s with links := s.links.deleteWhere fun _ link => link.productId = id } :=
  ⟨fun r hr => h.sound r (List.mem_filter.mp hr).1,
    fun r hr => h.issued r (List.mem_filter.mp hr).1⟩

theorem liveProduct_eq_some {id : Id} {p : CatalogProduct}
    (h : liveProduct tenantId id s = some p) :
    s.products.find? id = some p ∧ p.tenantId = tenantId ∧ p.deletedAt = none := by
  obtain ⟨hp, hcond⟩ := Option.filter_eq_some_iff.mp h
  exact ⟨hp, of_decide_eq_true hcond⟩

/-- What an update writes to the row of its product. -/
def writtenProduct (dto : UpdateProductDto) (update : ProductUpdate) (p : CatalogProduct) :
    CatalogProduct :=
  { p with
    name := dto.name.getD p.name
    slug := update.slug.or p.slug
    sku := update.sku.getD p.sku }

theorem commitProductUpdate_ok {id : Id} {dto : UpdateProductDto} {update : ProductUpdate}
    (h : ProductService.commitUpdate id dto update s = .ok (⟨⟩, s')) :
    ∃ s₁, replaceLinks id dto.categoryIds s = .ok s₁ ∧
      s' = { s₁ with products := s₁.products.modify id (writtenProduct dto update) } := by
  obtain ⟨s₁, hlinks, h⟩ := Except.bind_eq_ok_iff.mp h
  obtain ⟨_, _, h⟩ := Except.bind_eq_ok_iff.mp h
  obtain ⟨_, _, h⟩ := Except.bind_eq_ok_iff.mp h
  obtain ⟨_, _, h⟩ := Except.bind_eq_ok_iff.mp h
  obtain ⟨_, rfl⟩ := Prod.mk.inj (Except.ok.inj h)
  exact ⟨s₁, hlinks, rfl⟩

/-- An update is refused and leaves the store, or is written for a live product. -/
theorem updateProduct_cases (casing : Casing) (tenantId id : Id) (dto : UpdateProductDto)
    (s : CatalogStore) :
    (¬UpdateGoesThrough casing tenantId id dto s ∧
      (ProductService.update casing tenantId id dto s).2 = s) ∨
    UpdateGoesThrough casing tenantId id dto s ∧
      ∃ p update s', s.products.find? id = some p ∧ p.tenantId = tenantId ∧ p.deletedAt = none ∧
      ProductService.commitUpdate id dto update s = .ok (⟨⟩, s') ∧
      ProductService.update casing tenantId id dto s = (.ok ⟨⟩, s') := by
  simp only [ProductService.update, bind, Handler.read, Handler.atomically]
  cases hread : readUpdate casing tenantId id dto s with
  | error e =>
    refine .inl ⟨?_, rfl⟩
    rintro ⟨update, hupdate, _⟩
    rw [hread] at hupdate
    cases hupdate
  | ok update =>
    cases hcommit : commitUpdate id dto update s with
    | error e =>
      simp only [transaction_of_error hcommit]
      refine .inl ⟨?_, trivial⟩
      rintro ⟨update', hupdate', hok⟩
      obtain rfl := Except.ok.inj (hread.symm.trans hupdate')
      rw [hcommit] at hok
      cases hok
    | ok result =>
      obtain ⟨_, s'⟩ := result
      simp only [transaction_of_ok hcommit]
      refine .inr ⟨⟨update, hread, by rw [hcommit]; rfl⟩, ?_⟩
      rw [readUpdate] at hread
      split at hread
      · cases hread
      · next p hp =>
        obtain ⟨hrow, htenant, hlive⟩ := liveProduct_eq_some hp
        exact ⟨p, update, s', hrow, htenant, hlive, hcommit, rfl⟩

/-- An update that names live categories of the tenant. -/
theorem LinksInv.updateProduct (h : LinksInv s) {casing : Casing} {id : Id}
    {dto : UpdateProductDto}
    (hnames : UpdateGoesThrough casing tenantId id dto s →
      ∀ categoryIds ∈ dto.categoryIds, CategoriesLive tenantId categoryIds s) :
    LinksInv (ProductService.update casing tenantId id dto s).2 := by
  rcases updateProduct_cases casing tenantId id dto s with
    ⟨_, hsame⟩ | ⟨hgoes, p, update, s', hp, htenant, _, hcommit, hupdate⟩
  · rw [hsame]
    exact h
  · rw [hupdate]
    obtain ⟨s₁, hlinks, rfl⟩ := commitProductUpdate_ok hcommit
    refine LinksInv.modifyProduct ?_ (fun _ => rfl) fun _ hlive => hlive
    cases hids : dto.categoryIds with
    | none =>
      rw [hids] at hlinks
      obtain rfl := Except.ok.inj hlinks
      exact h
    | some categoryIds =>
      rw [hids] at hlinks
      rw [insertLinks_ok hlinks]
      refine (h.deleteLinks id).insertLinks tenantId fun link hlink => ?_
      obtain ⟨categoryId, hid, rfl⟩ := List.mem_map.mp hlink
      exact ⟨hnames hgoes categoryIds hids categoryId hid, p, hp, htenant⟩

/-- An update that names another category leaves a link to it. -/
theorem updateProduct_breaks {casing : Casing} {id : Id} {dto : UpdateProductDto}
    (hgoes : UpdateGoesThrough casing tenantId id dto s) {categoryIds : List Id}
    (hids : dto.categoryIds = some categoryIds)
    (hbad : ¬CategoriesLive tenantId categoryIds s) :
    ¬LinksSound (ProductService.update casing tenantId id dto s).2 := by
  rcases updateProduct_cases casing tenantId id dto s with
    ⟨hrefused, _⟩ | ⟨_, p, update, s', hp, htenant, hlive, hcommit, hupdate⟩
  · exact absurd hgoes hrefused
  · simp only [CategoriesLive, not_forall, exists_prop] at hbad
    obtain ⟨categoryId, hid, hdead⟩ := hbad
    obtain ⟨s₁, hlinks, rfl⟩ := commitProductUpdate_ok hcommit
    rw [hids] at hlinks
    obtain rfl := insertLinks_ok hlinks
    rw [hupdate]
    intro hsound
    obtain ⟨k, hr⟩ := Serial.exists_mem_rows_foldl_create
      (t := s.links.deleteWhere fun _ link => link.productId = id)
      (show (⟨id, categoryId⟩ : ProductCategoryProduct) ∈ categoryLinks categoryIds id from
        List.mem_map_of_mem hid)
    refine hdead ?_
    have hfound := hsound (k, ⟨id, categoryId⟩) hr (writtenProduct dto update p)
      (Serial.find?_modify_of_some hp _) hlive
    rw [show (writtenProduct dto update p).tenantId = tenantId from htenant] at hfound
    exact hfound

theorem LinksInv.removeProduct (h : LinksInv s) (now tenantId id : ℕ) :
    LinksInv (ProductService.remove now tenantId id s).2 := by
  simp only [ProductService.remove, bind, Handler.read, Handler.write]
  cases ProductService.readRemove tenantId id s with
  | error e => exact h
  | ok _ =>
    refine h.modifyProduct (fun _ => rfl) fun _ hlive => ?_
    cases hlive

end Steps

/-- In every run the links of live products are to live categories of their tenant, exactly if
every update of a product that is carried out names such categories. -/
theorem links_sound_iff {casing : Casing} {warehouse : Warehouse} {s : CatalogStore}
    (hs : LinksInv s) (calls : List CatalogCall) :
    Runs.Always (serveCatalog casing warehouse) LinksSound calls s ↔
      Runs.AllMeet (serveCatalog casing warehouse) (NamesLiveCategories casing) calls s := by
  refine Runs.always_iff_allMeet (I := LinksInv) (fun _ h => h.sound) ?_ ?_ hs
    (Runs.allMeet_true calls)
  · intro s call h _ hnames
    cases call with
    | category call => exact h.serveCategory casing call
    | product call =>
      obtain ⟨tenantId, now, request⟩ := call
      cases request with
      | create dto =>
        refine Handler.Ensures.snd ?_ h
        exact (LinksInv.create_ensures casing warehouse tenantId dto).bind
          fun _ => Handler.Ensures.pure _ fun _ hs => hs
      | update id dto => exact h.updateProduct hnames
      | remove id => exact h.removeProduct now tenantId id
  · intro s call h _ hbad
    cases call with
    | category call => exact absurd trivial hbad
    | product call =>
      obtain ⟨tenantId, now, request⟩ := call
      cases request with
      | create dto => exact absurd trivial hbad
      | remove id => exact absurd trivial hbad
      | update id dto =>
        simp only [NamesLiveCategories, not_forall] at hbad
        obtain ⟨hok, categoryIds, hids, categoryId, hid, hdead⟩ := hbad
        exact updateProduct_breaks hok hids fun hlive => hdead (hlive categoryId hid)

/-- A category in each of two tenants, and a product of the first. -/
def twoTenants : List CatalogCall :=
  [.category ⟨0, 0, .create ⟨"Phones", none, none⟩⟩, .category ⟨1, 1, .create ⟨"Tea", none, none⟩⟩,
    .product ⟨0, 2, .create ⟨"Mate 10", none, none, [0], [], []⟩⟩]

/-- A warehouse that takes everything. -/
def Warehouse.open : Warehouse := ⟨fun _ _ _ => .ok ⟨⟩⟩

theorem empty_linksInv : LinksInv .empty := ⟨(fun _ hr => nomatch hr), fun _ hr => nomatch hr⟩

theorem links_sound_iff_twoTenants :
    Runs.Always (serveCatalog .ascii .open) LinksSound
      (twoTenants ++ [.product ⟨0, 3, .update 0 ⟨none, none, none, some [0]⟩⟩]) .empty := by
  refine (links_sound_iff empty_linksInv _).mpr ⟨trivial, trivial, trivial, ?_, trivial⟩
  intro _ categoryIds hids categoryId hid
  obtain rfl := Option.some.inj hids
  obtain rfl := List.mem_singleton.mp hid
  decide +kernel

/-- An update puts the product into the category of the other tenant. -/
theorem update_links_foreign :
    ¬Runs.Always (serveCatalog .ascii .open) LinksSound
      (twoTenants ++ [.product ⟨0, 3, .update 0 ⟨none, none, none, some [1]⟩⟩]) .empty := by
  intro h
  have hlink := h.last (1, ⟨0, 1⟩) (by decide +kernel)
    { name := "Mate 10", slug := some "mate-10", sku := "MATE-10", productType := .simple
      parentId := none, tenantId := 0, deletedAt := none } (by decide +kernel) rfl
  revert hlink
  decide +kernel

end Invetrixa
