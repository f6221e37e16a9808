import Invetrixa.Correctness.CategoryLinks
import Invetrixa.Library.Groups

/-!
# SKUs, slugs and variants

The SKU and the slug of each variant are looked for among the rows that are there before the
request, so that variants of one request may get the same. What is given for a variant then finds
its row by the SKU.

## Main results

- `products_distinct_iff` — SKUs and slugs of a tenant stay distinct, and each variant keeps its
  attributes and stock, exactly if those that a request generates are distinct
- `variants_share_sku`
-/

namespace Invetrixa

open Rowstore Requests ProductService

/-- Two products that are of different tenants, or have neither SKU nor slug in common. -/
def CatalogProduct.Apart (p p' : CatalogProduct) : Prop :=
  p.tenantId = p'.tenantId → p.sku ≠ p'.sku ∧ ∀ slug ∈ p.slug, p'.slug ≠ some slug

/-- No two products of a tenant have the same SKU or the same slug. -/
def UniqueIds (products : Serial CatalogProduct) : Prop :=
  ∀ k k' p p', products.find? k = some p → products.find? k' = some p' → k ≠ k' → p.Apart p'

/-- The attributes of a product. -/
def attributesOf (productId : Id) (s : CatalogStore) : List AttributeDto :=
  (s.attributeValues.rows.filter fun r => r.2.productId = productId).map fun r =>
    ⟨r.2.key, r.2.values⟩

/-- The stock that a product was created with. -/
def initialStockOf (productId : Id) (s : CatalogStore) : List InitialStockInput :=
  (s.initialStock.rows.filter fun r => r.2.productId = productId).map fun r =>
    ⟨r.2.locationId, r.2.quantity, r.2.unitCost⟩

/-- A product is new, and has the attributes and the initial stock of a variant. -/
structure OwnProduct (s s' : CatalogStore) (v : VariantDto) (id : Id) : Prop where
  isNew : s.products.find? id = none
  isVariant : ∃ p ∈ s'.products.find? id, p.productType = .variant
  attributes : attributesOf id s' = v.attributes
  stock : (initialStockOf id s').Perm v.initialStock

/-- Each variant has a new product of its own. -/
def HasOwnProducts (s s' : CatalogStore) (variants : List VariantDto) : Prop :=
  ∃ ids : List Id, ids.Nodup ∧ List.Forall₂ (OwnProduct s s') variants ids

/-- The tables after a request. -/
def answerProduct (casing : Casing) (warehouse : Warehouse) (call : ProductCall)
    (s : CatalogStore) : CatalogStore :=
  (serveProduct casing warehouse call s).2

/-- After a request SKUs and slugs are distinct; and where it has created variants, each has a
product of its own. -/
def DistinctAfter (casing : Casing) (warehouse : Warehouse) (s : CatalogStore)
    (call : ProductCall) : Prop :=
  UniqueIds (answerProduct casing warehouse call s).products ∧
    ∀ dto, call.request = .create dto → (serveProduct casing warehouse call s).1 = .ok ⟨⟩ →
      HasOwnProducts s (answerProduct casing warehouse call s) dto.variants

/-- Where the transaction of a product with variants goes through, the SKUs that are found for
them by the rows that are there before are distinct, and so are the slugs. -/
def GeneratesDistinct (casing : Casing) (s : CatalogStore) (call : ProductCall) : Prop :=
  match call.request with
  | .create dto => dto.variants ≠ [] →
      CategoryService.validateCategoryIds call.tenantId dto.categoryIds s = .ok ⟨⟩ →
      ∀ plan, planVariants casing call.tenantId dto (newSku casing call.tenantId dto s) s =
          .ok plan →
        (commitVariants call.tenantId dto (newSku casing call.tenantId dto s) plan s).isOk →
        (newSku casing call.tenantId dto s :: plan.skus).Nodup ∧
          (plan.parentSlug :: plan.slugs).Nodup
  | _ => True

/-- What every request keeps: ids of products that are referred to have been given out. -/
structure IdentityInv (s : CatalogStore) : Prop where
  unique : UniqueIds s.products
  values : s.attributeValues.All fun _ v => v.productId < s.products.next
  stock : s.initialStock.All fun _ i => i.productId < s.products.next
  parents : s.products.All fun _ p => ∀ id ∈ p.parentId, id < s.products.next

section Unique

variable {products : Serial CatalogProduct} {tenantId : Id}

theorem CatalogProduct.Apart.symm {p p' : CatalogProduct} (h : p.Apart p') : p'.Apart p := by
  intro htenant
  obtain ⟨hsku, hslug⟩ := h htenant.symm
  exact ⟨hsku.symm, fun slug hp' hp => hslug slug hp hp'⟩

/-- Rows of one tenant are added. -/
theorem uniqueIds_foldl_create_iff (h : UniqueIds products) {l : List CatalogProduct}
    (hcross : ∀ k p, products.find? k = some p → ∀ q ∈ l, p.Apart q) :
    UniqueIds (l.foldl Serial.create products) ↔ l.Pairwise CatalogProduct.Apart := by
  induction l generalizing products with
  | nil => exact iff_of_true h List.Pairwise.nil
  | cons q rest ih =>
    rw [List.foldl_cons, List.pairwise_cons]
    have hfind : (products.create q).find? products.next = some q := by
      rw [Serial.find?_create, if_pos rfl]
    constructor
    · intro hall
      have hkept : ∀ k p, (products.create q).find? k = some p →
          (rest.foldl Serial.create (products.create q)).find? k = some p := fun k p hp =>
        Table.find?_of_mem_rows (Serial.mem_rows_foldl_create _ (Table.mem_rows_of_find? hp))
      have hq : ∀ q' ∈ rest, q.Apart q' := by
        intro q' hq'
        obtain ⟨i, hi, rfl⟩ := List.mem_iff_getElem.mp hq'
        -- the new row of `q'` has a later id than that of `q`
        have hrow : ((products.create q).next + i, rest[i]) ∈
            (rest.foldl Serial.create (products.create q)).rows := by
          rw [Serial.rows_foldl_create]
          exact List.mem_append_right _ (List.mem_mapIdx.mpr ⟨i, hi, rfl⟩)
        refine hall products.next _ q rest[i] (hkept _ _ hfind) (Table.find?_of_mem_rows hrow) ?_
        rw [Serial.next_create]
        omega
      refine ⟨hq, (ih ?_ ?_).mp hall⟩
      · exact fun k k' p p' hp hp' hne => hall k k' p p' (hkept k p hp) (hkept k' p' hp') hne
      · intro k p hp q' hq'
        rcases Serial.find?_create_cases hp with hold | ⟨rfl, rfl⟩
        · exact hcross k p hold q' (.tail _ hq')
        · exact hq q' hq'
    · rintro ⟨hq, hrest⟩
      refine (ih ?_ ?_).mpr hrest
      · intro k k' p p' hp hp' hne
        rcases Serial.find?_create_cases hp with hold | ⟨rfl, rfl⟩
        · rcases Serial.find?_create_cases hp' with hold' | ⟨rfl, rfl⟩
          · exact h k k' p p' hold hold' hne
          · exact hcross k p hold _ (.head _)
        · rcases Serial.find?_create_cases hp' with hold' | ⟨rfl, _⟩
          · exact (hcross k' p' hold' _ (.head _)).symm
          · exact absurd rfl hne
      · intro k p hp q' hq'
        rcases Serial.find?_create_cases hp with hold | ⟨rfl, rfl⟩
        · exact hcross k p hold q' (.tail _ hq')
        · exact hq q' hq'

/-- Rows of one tenant that have a slug are apart when their SKUs and their slugs are distinct. -/
theorem pairwise_apart_iff {l : List CatalogProduct} (slugs : List String)
    (htenant : ∀ p ∈ l, p.tenantId = tenantId)
    (hslugs : l.map CatalogProduct.slug = slugs.map some) :
    l.Pairwise CatalogProduct.Apart ↔ (l.map CatalogProduct.sku).Nodup ∧ slugs.Nodup := by
  have hslugs' : slugs.Nodup ↔ (l.map CatalogProduct.slug).Nodup := by
    rw [hslugs, List.nodup_map_iff (Option.some_injective _)]
  rw [hslugs', List.Nodup, List.Nodup, List.pairwise_map, List.pairwise_map,
    ← List.pairwise_and_iff]
  refine List.Pairwise.iff_of_mem fun {p p'} hp hp' => ?_
  have hsome : ∃ slug, p.slug = some slug := by
    have hmem := List.mem_map_of_mem (f := CatalogProduct.slug) hp
    rw [hslugs] at hmem
    obtain ⟨slug, _, hslug⟩ := List.mem_map.mp hmem
    exact ⟨slug, hslug.symm⟩
  obtain ⟨slug, hslug⟩ := hsome
  constructor
  · intro h
    obtain ⟨hsku, hother⟩ := h ((htenant p hp).trans (htenant p' hp').symm)
    exact ⟨hsku, fun heq => hother slug hslug (heq.symm.trans hslug)⟩
  · rintro ⟨hsku, hother⟩ _
    exact ⟨hsku, fun slug' hslug' heq => hother (Eq.trans hslug' heq.symm)⟩

/-- A row whose SKU and slug are free is apart from those that are there. -/
theorem apart_of_free {s : CatalogStore} {q : CatalogProduct}
    (hsku : q.sku ∉ s.skus q.tenantId none)
    (hslug : ∀ slug ∈ q.slug, slug ∉ s.productSlugs q.tenantId none) {k : Id} {p : CatalogProduct}
    (hp : s.products.find? k = some p) : p.Apart q := by
  intro htenant
  have hrow : (k, p) ∈ s.products.rows.filter fun r =>
      r.2.tenantId = q.tenantId ∧ (none : Option Id) ≠ some r.1 :=
    List.mem_filter.mpr ⟨Table.mem_rows_of_find? hp, decide_eq_true ⟨htenant, nofun⟩⟩
  constructor
  · intro heq
    exact hsku (heq ▸ List.mem_map_of_mem hrow)
  · intro slug hslug' hq
    exact hslug slug hq (List.mem_filterMap.mpr ⟨(k, p), hrow, hslug'⟩)

end Unique

section Variants

variable {casing : Casing} {warehouse : Warehouse} {s s' : CatalogStore} {tenantId : Id}
  {dto : CreateProductDto} {sku : String} {plan : VariantPlan} {parentId : Id}
  {created : List (Id × CatalogProduct)}

/-- The rows of the variants. -/
def variantRows (tenantId : Id) (dto : CreateProductDto) (plan : VariantPlan) (parentId : Id) :
    List CatalogProduct :=
  (dto.variants.zip (plan.skus.zip plan.slugs)).map (variantRow tenantId dto parentId)

/-- The attribute values of the product over its variants. -/
def parentValues (dto : CreateProductDto) (parentId : Id) : List ProductAttributeValue :=
  (aggregateAttributeValues dto.variants).map fun a =>
    { productId := parentId, key := a.key, values := a.values }

/-- The products after the transaction. -/
def withVariants (tenantId : Id) (dto : CreateProductDto) (sku : String) (plan : VariantPlan)
    (products : Serial CatalogProduct) : Serial CatalogProduct :=
  (productRow .variable tenantId dto sku plan.parentSlug ::
    variantRows tenantId dto plan products.next).foldl Serial.create products

/-- What the transaction writes. -/
theorem commitVariants_ok
    (h : commitVariants tenantId dto sku plan s = .ok ((parentId, created), s')) :
    parentId = s.products.next ∧ created = createdVariants tenantId parentId plan.skus s' ∧
      s'.products = withVariants tenantId dto sku plan s.products ∧
      s'.attributeValues = (parentValues dto s.products.next ++
        variantAttributeValues dto.variants plan.skus created).foldl Serial.create
          s.attributeValues ∧
      s'.links = (categoryLinks dto.categoryIds parentId ++
        created.flatMap fun r => categoryLinks dto.categoryIds r.1).foldl Serial.create s.links ∧
      s'.initialStock = s.initialStock := by
  obtain ⟨⟨parentId', s₁⟩, hparent, h⟩ := Except.bind_eq_ok_iff.mp h
  obtain ⟨s₂, hlinks, h⟩ := Except.bind_eq_ok_iff.mp h
  obtain ⟨s₃, hvalues, h⟩ := Except.bind_eq_ok_iff.mp h
  obtain ⟨s₄, hvariants, h⟩ := Except.bind_eq_ok_iff.mp h
  obtain ⟨s₅, hvalues', h⟩ := Except.bind_eq_ok_iff.mp h
  obtain ⟨s₆, hlinks', h⟩ := Except.bind_eq_ok_iff.mp h
  obtain ⟨hresult, rfl⟩ := Prod.mk.inj (Except.ok.inj h)
  obtain ⟨rfl, rfl⟩ := Prod.mk.inj hresult
  obtain ⟨rfl, rfl⟩ := insertProduct_ok hparent
  obtain rfl := insertLinks_ok hlinks
  obtain rfl := insertAttributeValues_ok hvalues
  obtain rfl := insertVariants_ok hvariants
  obtain rfl := insertAttributeValues_ok hvalues'
  obtain rfl := insertLinks_ok hlinks'
  refine ⟨rfl, rfl, rfl, ?_, ?_, rfl⟩
  · rw [List.foldl_append]
    rfl
  · rw [List.foldl_append]

/-- What is looked up for the variants is free before the request. -/
structure PlanFree (tenantId : Id) (dto : CreateProductDto) (plan : VariantPlan)
    (s : CatalogStore) : Prop where
  skus_length : plan.skus.length = dto.variants.length
  slugs_length : plan.slugs.length = dto.variants.length
  skus : ∀ sku ∈ plan.skus, sku ∉ s.skus tenantId none
  parentSlug : plan.parentSlug ∉ s.productSlugs tenantId none
  slugs : ∀ slug ∈ plan.slugs, slug ∉ s.productSlugs tenantId none

theorem planVariants_ok (h : planVariants casing tenantId dto sku s = .ok plan) :
    PlanFree tenantId dto plan s := by
  obtain ⟨parentSlug, hparent, h⟩ := Except.bind_eq_ok_iff.mp h
  obtain ⟨slugs, hslugs, h⟩ := Except.bind_eq_ok_iff.mp h
  obtain rfl := Except.ok.inj h
  have hlength : (variantSkus casing tenantId sku dto.variants s).length = dto.variants.length :=
    List.length_mapIdx
  have hforall := Except.forall₂_of_mapM_ok hslugs
  refine ⟨hlength, ?_, fun text htext => ?_, SlugService.createSlug_not_mem hparent,
    fun text htext => ?_⟩
  · rw [← hforall.length_eq, List.length_zip, hlength, Nat.min_self]
  · obtain ⟨i, hi, rfl⟩ := List.mem_mapIdx.mp htext
    split
    · exact ensureUnique_not_mem _ _
    · exact ensureUnique_not_mem _ _
  · obtain ⟨i, hi, rfl⟩ := List.mem_iff_getElem.mp htext
    exact SlugService.createSlug_not_mem (hforall.get (hforall.length_eq ▸ hi) hi)

theorem PlanFree.map_sku (h : PlanFree tenantId dto plan s) (parentId : Id) :
    (variantRows tenantId dto plan parentId).map CatalogProduct.sku = plan.skus := by
  have hsnd : ((dto.variants.zip (plan.skus.zip plan.slugs)).map Prod.snd).map Prod.fst =
      plan.skus := by
    rw [List.map_snd_zip, List.map_fst_zip]
    · rw [h.skus_length, h.slugs_length]
    · rw [List.length_zip, h.skus_length, h.slugs_length, Nat.min_self]
  rw [← hsnd, variantRows, List.map_map, List.map_map]
  rfl

theorem PlanFree.map_slug (h : PlanFree tenantId dto plan s) (parentId : Id) :
    (variantRows tenantId dto plan parentId).map CatalogProduct.slug = plan.slugs.map some := by
  have hsnd : ((dto.variants.zip (plan.skus.zip plan.slugs)).map Prod.snd).map Prod.snd =
      plan.slugs := by
    rw [List.map_snd_zip, List.map_snd_zip]
    · rw [h.skus_length, h.slugs_length]
    · rw [List.length_zip, h.skus_length, h.slugs_length, Nat.min_self]
  rw [← hsnd, variantRows, List.map_map, List.map_map, List.map_map]
  rfl

/-- After the transaction SKUs and slugs are distinct exactly if those of the plan are. -/
theorem uniqueIds_withVariants_iff (h : UniqueIds s.products) (hplan : PlanFree tenantId dto plan s)
    (hsku : sku ∉ s.skus tenantId none) :
    UniqueIds (withVariants tenantId dto sku plan s.products) ↔
      (sku :: plan.skus).Nodup ∧ (plan.parentSlug :: plan.slugs).Nodup := by
  have htenant : ∀ p ∈ productRow .variable tenantId dto sku plan.parentSlug ::
      variantRows tenantId dto plan s.products.next, p.tenantId = tenantId := by
    rintro p (_ | ⟨_, hp⟩)
    · rfl
    · obtain ⟨_, _, rfl⟩ := List.mem_map.mp hp
      rfl
  rw [withVariants]
  -- The new rows are apart from the old ones, so it remains that they are apart from each other.
  rw [uniqueIds_foldl_create_iff h, pairwise_apart_iff (plan.parentSlug :: plan.slugs)
    htenant]
  · rw [List.map_cons, hplan.map_sku]
    rfl
  · rw [List.map_cons, hplan.map_slug]
    rfl
  · intro k p hp q hq
    have hq' := htenant q hq
    refine apart_of_free (s := s) ?_ ?_ hp
    · rw [hq']
      rcases List.mem_cons.mp hq with rfl | hq
      · exact hsku
      · exact hplan.skus _ (hplan.map_sku s.products.next ▸ List.mem_map_of_mem hq)
    · intro slug hslug
      rw [hq']
      rcases List.mem_cons.mp hq with rfl | hq
      · obtain rfl := Option.some.inj hslug
        exact hplan.parentSlug
      · have hmem : q.slug ∈ plan.slugs.map some :=
          hplan.map_slug s.products.next ▸ List.mem_map_of_mem hq
        obtain ⟨slug', hslug', heq⟩ := List.mem_map.mp hmem
        obtain rfl := Option.some.inj (heq.trans hslug)
        exact hplan.slugs slug' hslug'

/-- The new variants, with their ids. -/
def newVariants (tenantId : Id) (dto : CreateProductDto) (plan : VariantPlan) (parentId : Id) :
    List (Id × CatalogProduct) :=
  (variantRows tenantId dto plan parentId).mapIdx fun i row => (parentId + 1 + i, row)

theorem rows_withVariants (products : Serial CatalogProduct) :
    (withVariants tenantId dto sku plan products).rows = products.rows ++
      ((products.next, productRow .variable tenantId dto sku plan.parentSlug) ::
        newVariants tenantId dto plan products.next) := by
  rw [withVariants, newVariants, Serial.rows_foldl_create, List.mapIdx_cons]
  simp only [Nat.add_zero, Nat.add_assoc, Nat.add_comm 1]

theorem map_snd_newVariants (tenantId : Id) (dto : CreateProductDto) (plan : VariantPlan)
    (parentId : Id) :
    (newVariants tenantId dto plan parentId).map Prod.snd =
      variantRows tenantId dto plan parentId := by
  refine List.ext_getElem (by simp [newVariants]) fun i h₁ h₂ => ?_
  simp only [newVariants, List.getElem_map, List.getElem_mapIdx]

theorem nodup_map_fst_newVariants (parentId : Id) :
    ((newVariants tenantId dto plan parentId).map Prod.fst).Nodup := by
  rw [List.nodup_iff_injective_getElem]
  intro i j heq
  simp only [newVariants, List.getElem_map, List.getElem_mapIdx, Nat.add_left_cancel_iff] at heq
  exact Fin.ext heq

theorem lt_of_mem_newVariants {r : Id × CatalogProduct}
    (hr : r ∈ newVariants tenantId dto plan parentId) : parentId < r.1 := by
  obtain ⟨i, hi, rfl⟩ := List.mem_mapIdx.mp hr
  exact Nat.lt_of_lt_of_le (Nat.lt_succ_self parentId) (Nat.le_add_right _ _)

theorem IdentityInv.parentsThere (h : IdentityInv s) :
    ∀ r ∈ s.products.rows, ∀ id ∈ r.2.parentId, id < s.products.next :=
  fun r hr => h.parents r.1 r.2 (Table.find?_of_mem_rows hr)

theorem mem_variantRows_of_mem_newVariants {r : Id × CatalogProduct}
    (hr : r ∈ newVariants tenantId dto plan parentId) :
    r.2 ∈ variantRows tenantId dto plan parentId :=
  map_snd_newVariants tenantId dto plan parentId ▸ List.mem_map_of_mem hr

/-- No product that was there, and not the product itself, is a variant of the product. -/
theorem filter_withVariants
    (hparents : ∀ r ∈ s.products.rows, ∀ id ∈ r.2.parentId, id < s.products.next)
    {q : Id × CatalogProduct → Bool} (hq : ∀ r, q r = true → r.2.parentId = some s.products.next)
    (hnew : ∀ r ∈ newVariants tenantId dto plan s.products.next, q r = true) :
    (withVariants tenantId dto sku plan s.products).rows.filter q =
      newVariants tenantId dto plan s.products.next := by
  have hold : s.products.rows.filter q = [] :=
    List.filter_eq_nil_iff.mpr fun r hr hcond => lt_irrefl _ (hparents r hr _ (hq r hcond))
  rw [rows_withVariants, List.filter_append, List.filter_cons, hold,
    List.filter_eq_self.mpr hnew, if_neg]
  · rfl
  · intro hcond
    cases hq _ hcond

/-- The variants that are read back are the new ones. -/
theorem createdVariants_eq
    (hparents : ∀ r ∈ s.products.rows, ∀ id ∈ r.2.parentId, id < s.products.next)
    (hplan : PlanFree tenantId dto plan s)
    (hproducts : s'.products = withVariants tenantId dto sku plan s.products) :
    createdVariants tenantId s.products.next plan.skus s' =
      newVariants tenantId dto plan s.products.next := by
  rw [createdVariants, hproducts]
  refine filter_withVariants hparents (fun r hr => (of_decide_eq_true hr).2.2) fun r hr => ?_
  have hrow := mem_variantRows_of_mem_newVariants hr
  have hsku : r.2.sku ∈ plan.skus := hplan.map_sku s.products.next ▸ List.mem_map_of_mem hrow
  obtain ⟨x, _, hx⟩ := List.mem_map.mp hrow
  exact decide_eq_true ⟨hsku, by rw [← hx]; rfl, by rw [← hx]; rfl⟩

/-- With distinct SKUs a variant is found by its own. -/
theorem find?_sku {r : Id × CatalogProduct} (hnodup : (created.map fun r => r.2.sku).Nodup)
    (hr : r ∈ created) : created.find? (fun r' => r'.2.sku = r.2.sku) = some r := by
  induction created with
  | nil => cases hr
  | cons x rest ih =>
    obtain ⟨hx, hrest⟩ := List.nodup_cons.mp hnodup
    rcases List.mem_cons.mp hr with rfl | hr
    · exact List.find?_cons_of_pos (decide_eq_true rfl)
    · rw [List.find?_cons_of_neg, ih hrest hr]
      intro heq
      exact hx (List.mem_map.mpr ⟨r, hr, (of_decide_eq_true heq).symm⟩)

theorem skuToId_eq {r : Id × CatalogProduct} (hnodup : (created.map fun r => r.2.sku).Nodup)
    (hr : r ∈ created) : skuToId created r.2.sku = some r.1 := by
  rw [skuToId]
  rw [find?_sku (by rw [List.map_reverse]; exact List.nodup_reverse.mpr hnodup)
    (List.mem_reverse.mpr hr)]
  rfl

/-- The values that are written for the variants, each under the id of its own. -/
theorem variantAttributeValues_eq (hnodup : (created.map fun r => r.2.sku).Nodup)
    (variants : List VariantDto) :
    variantAttributeValues variants (created.map fun r => r.2.sku) created =
      (variants.zip created).flatMap fun x => x.1.attributes.map fun a =>
        { productId := x.2.1, key := a.key, values := a.values } := by
  rw [variantAttributeValues, List.zip_map_right, List.flatMap_map]
  refine List.flatMap_congr fun x hx => ?_
  have hfound := skuToId_eq hnodup (List.of_mem_zip hx).2
  simp only [Prod.map_fst, Prod.map_snd, id_eq, hfound]

/-- The items of a variant's initial stock, grouped by location. -/
def receivedStock (productId : Id) (initialStock : List InitialStockInput) : List InitialStock :=
  (initialStock.map InitialStockInput.locationId).eraseDups.flatMap fun locationId =>
    stockAt productId locationId initialStock

theorem map_receivedStock_perm (productId : Id) (initialStock : List InitialStockInput) :
    ((receivedStock productId initialStock).map fun i =>
      (⟨i.locationId, i.quantity, i.unitCost⟩ : InitialStockInput)).Perm initialStock := by
  have hgroups : ((receivedStock productId initialStock).map fun i =>
      (⟨i.locationId, i.quantity, i.unitCost⟩ : InitialStockInput)) =
      (initialStock.map InitialStockInput.locationId).eraseDups.flatMap fun locationId =>
        initialStock.filter fun item => item.locationId = locationId := by
    rw [receivedStock, List.map_flatMap]
    refine List.flatMap_congr fun locationId _ => ?_
    rw [stockAt, List.map_map]
    -- the location of each item is that of its group
    refine (List.map_congr_left fun item hitem => ?_).trans (List.map_id _)
    rw [Function.comp_apply, ← of_decide_eq_true (List.mem_filter.mp hitem).2]
    rfl
  rw [hgroups]
  exact Groups.flatMap_filter_perm (Groups.nodup_eraseDups _) fun item hitem =>
    List.mem_eraseDups.mpr (List.mem_map_of_mem hitem)

/-- The receipts of a product have gone through. -/
theorem createInitialStock_ok {productId : Id} {initialStock : List InitialStockInput}
    (h : createInitialStock warehouse tenantId productId initialStock s = (.ok ⟨⟩, s')) :
    s' = { s with initialStock :=
      (receivedStock productId initialStock).foldl Serial.create s.initialStock } := by
  rw [createInitialStock] at h
  rw [receivedStock]
  generalize (initialStock.map InitialStockInput.locationId).eraseDups = locations at h ⊢
  induction locations generalizing s with
  | nil => exact (Prod.mk.inj h).2.symm
  | cons locationId rest ih =>
    rw [List.flatMap_cons, List.foldl_append]
    simp only [createInitialStock.go, bind, stockIn, Handler.atomically] at h
    cases hreceipt : warehouse.stockIn tenantId locationId
        (stockAt productId locationId initialStock) with
    | error e =>
      simp only [transaction, hreceipt] at h
      cases (Prod.mk.inj h).1
    | ok _ =>
      simp only [transaction, hreceipt] at h
      exact ih h

/-- The receipts of all variants have gone through. -/
theorem createVariantStock_ok (hnodup : (created.map fun r => r.2.sku).Nodup)
    {pairs : List (VariantDto × (Id × CatalogProduct))} (hpairs : ∀ x ∈ pairs, x.2 ∈ created)
    (h : createVariantStock warehouse tenantId created
      (pairs.map fun x => (x.1, x.2.2.sku)) s = (.ok ⟨⟩, s')) :
    s' = { s with
      initialStock := (pairs.flatMap fun x => receivedStock x.2.1 x.1.initialStock).foldl
        Serial.create s.initialStock } := by
  induction pairs generalizing s with
  | nil => exact (Prod.mk.inj h).2.symm
  | cons x rest ih =>
    rw [List.flatMap_cons, List.foldl_append]
    simp only [List.map_cons, createVariantStock, createStockOf,
      find?_sku hnodup (hpairs x (.head _)), bind] at h
    cases hfirst : createInitialStock warehouse tenantId x.2.1 x.1.initialStock s with
    | mk result s₁ =>
      rw [hfirst] at h
      cases result with
      | error e => cases (Prod.mk.inj h).1
      | ok _ =>
        obtain rfl := createInitialStock_ok hfirst
        exact ih (fun y hy => hpairs y (.tail _ hy)) h

theorem attributesOf_eq (productId : Id) (s : CatalogStore) : attributesOf productId s =
    ((s.attributeValues.rows.map Prod.snd).filter fun v => v.productId = productId).map fun v =>
      ⟨v.key, v.values⟩ := by
  rw [List.filter_map, List.map_map]
  rfl

theorem initialStockOf_eq (productId : Id) (s : CatalogStore) : initialStockOf productId s =
    ((s.initialStock.rows.map Prod.snd).filter fun i => i.productId = productId).map fun i =>
      ⟨i.locationId, i.quantity, i.unitCost⟩ := by
  rw [List.filter_map, List.map_map]
  rfl

/-- Nothing refers to a product that is not there yet. -/
theorem filter_productId_eq_nil {ρ : Type} {t : Serial ρ} {productId : ρ → Id} {n id : Id}
    (h : t.All fun _ r => productId r < n) (hid : n ≤ id) :
    (t.rows.map Prod.snd).filter (fun r => productId r = id) = [] := by
  refine List.filter_eq_nil_iff.mpr fun r hr heq => ?_
  obtain ⟨x, hx, rfl⟩ := List.mem_map.mp hr
  have hlt : productId x.2 < n := h x.1 x.2 (Table.find?_of_mem_rows hx)
  exact absurd ((of_decide_eq_true heq).symm ▸ hid) (Nat.not_le.mpr hlt)

theorem map_snd_rows_foldl_create {ρ : Type} (t : Serial ρ) (l : List ρ) :
    (l.foldl Serial.create t).rows.map Prod.snd = t.rows.map Prod.snd ++ l := by
  simpa using Serial.map_snd_foldl_create (t := t) id l

/-- When all receipts have gone through, each variant has a new product of its own. -/
theorem IdentityInv.hasOwnProducts (h : IdentityInv s) (hplan : PlanFree tenantId dto plan s)
    (hskus : plan.skus.Nodup) {s₁ : CatalogStore}
    (hcommit : commitVariants tenantId dto sku plan s = .ok ((parentId, created), s₁))
    (hstock : createVariantStock warehouse tenantId created (dto.variants.zip plan.skus) s₁ =
      (.ok ⟨⟩, s')) : HasOwnProducts s s' dto.variants := by
  obtain ⟨rfl, hcreated, hproducts, hvalues, _, hinitial⟩ := commitVariants_ok hcommit
  rw [createdVariants_eq h.parentsThere hplan hproducts] at hcreated
  have hmapSku : created.map (fun r => r.2.sku) = plan.skus := by
    rw [hcreated, ← hplan.map_sku s.products.next, ← map_snd_newVariants, List.map_map]
    rfl
  have hnodup : (created.map fun r => r.2.sku).Nodup := hmapSku ▸ hskus
  have hlength : dto.variants.length = created.length := by
    have hlen := congrArg List.length hmapSku
    rw [List.length_map, hplan.skus_length] at hlen
    exact hlen.symm
  have hkeys : ((dto.variants.zip created).map fun x => x.2.1).Nodup := by
    have hsnd : ((dto.variants.zip created).map Prod.snd).map Prod.fst = created.map Prod.fst := by
      rw [List.map_snd_zip hlength.ge]
    rw [List.map_map] at hsnd
    rw [show (fun x : VariantDto × (Id × CatalogProduct) => x.2.1) = Prod.fst ∘ Prod.snd from rfl,
      hsnd, hcreated]
    exact nodup_map_fst_newVariants _
  rw [← hmapSku, List.zip_map_right] at hstock
  have hs' := createVariantStock_ok hnodup (fun x hx => (List.of_mem_zip hx).2) hstock
  rw [← hmapSku, variantAttributeValues_eq hnodup] at hvalues
  refine ⟨created.map Prod.fst, hcreated ▸ nodup_map_fst_newVariants _, ?_⟩
  rw [List.forall₂_iff_zip]
  refine ⟨by rw [List.length_map, hlength], fun {v id} hmem => ?_⟩
  rw [List.zip_map_right] at hmem
  obtain ⟨x, hx, heq⟩ := List.mem_map.mp hmem
  obtain ⟨rfl, rfl⟩ := Prod.mk.inj heq
  have hr : x.2 ∈ newVariants tenantId dto plan s.products.next :=
    hcreated ▸ (List.of_mem_zip hx).2
  have hlt := lt_of_mem_newVariants hr
  refine ⟨?_, ?_, ?_, ?_⟩
  · -- The id was not in use.
    rw [Table.find?_eq_none_iff]
    exact fun hold => absurd (s.products.lt_next _ hold) (Nat.not_lt.mpr hlt.le)
  · refine ⟨x.2.2, Table.find?_of_mem_rows ?_, ?_⟩
    · rw [hs']
      show x.2 ∈ s₁.products.rows
      rw [hproducts, rows_withVariants]
      exact List.mem_append_right _ (.tail _ hr)
    · obtain ⟨y, _, hy⟩ := List.mem_map.mp (mem_variantRows_of_mem_newVariants hr)
      rw [← hy]
      rfl
  · rw [attributesOf_eq, hs']
    show ((s₁.attributeValues.rows.map Prod.snd).filter _).map _ = _
    -- Neither the values of the parent nor those that were there before are of the new id.
    have hparent : (parentValues dto s.products.next).filter
        (fun v => v.productId = x.2.1) = [] := by
      refine List.filter_eq_nil_iff.mpr fun v hv heq => ?_
      obtain ⟨a, _, rfl⟩ := List.mem_map.mp hv
      exact absurd (of_decide_eq_true heq) hlt.ne
    rw [hvalues, map_snd_rows_foldl_create, List.filter_append, List.filter_append, hparent,
      filter_productId_eq_nil h.values hlt.le, List.nil_append, List.nil_append,
      Groups.filter_flatMap_key (fun x => x.2.1) hkeys ?_ hx]
    · rw [List.map_map]
      exact List.map_id _
    · intro y _ w hw
      obtain ⟨a, _, rfl⟩ := List.mem_map.mp hw
      rfl
  · -- Each receipt has gone to the product whose SKU it named.
    rw [initialStockOf_eq, hs']
    dsimp only
    rw [map_snd_rows_foldl_create, List.filter_append, hinitial,
      filter_productId_eq_nil h.stock hlt.le, List.nil_append,
      Groups.filter_flatMap_key (fun x => x.2.1) hkeys ?_ hx]
    · exact map_receivedStock_perm _ _
    · intro y _ w hw
      obtain ⟨locationId, _, hw⟩ := List.mem_flatMap.mp hw
      obtain ⟨item, _, rfl⟩ := List.mem_map.mp hw
      rfl

end Variants

section Steps

variable {casing : Casing} {warehouse : Warehouse} {s s' : CatalogStore} {tenantId : Id}
  {dto : CreateProductDto} {sku : String} {plan : VariantPlan}

/-- Products are added; what refers to products refers to them or to those that were there. -/
theorem IdentityInv.congr_next (h : IdentityInv s) (hunique : UniqueIds s'.products)
    (hnext : s.products.next ≤ s'.products.next)
    (hvalues : s'.attributeValues = s.attributeValues) (hstock : s'.initialStock = s.initialStock)
    (hparents : s'.products.All fun _ p => ∀ id ∈ p.parentId, id < s'.products.next) :
    IdentityInv s' := by
  refine ⟨hunique, ?_, ?_, hparents⟩
  · rw [hvalues]
    exact h.values.imp fun _ _ hlt => lt_of_lt_of_le hlt hnext
  · rw [hstock]
    exact h.stock.imp fun _ _ hlt => lt_of_lt_of_le hlt hnext

/-- Stock comes in for products that are there. -/
theorem IdentityInv.withStock (h : IdentityInv s) {items : List InitialStock}
    (hitems : ∀ i ∈ items, i.productId < s.products.next) :
    IdentityInv { s with initialStock := items.foldl Serial.create s.initialStock } :=
  ⟨h.unique, h.values, Serial.All_foldl_create (f := id) items h.stock hitems, h.parents⟩

/-- The invariant, with ids given out up to `n`. -/
def IdentityUpTo (n : Id) (s : CatalogStore) : Prop := IdentityInv s ∧ n ≤ s.products.next

theorem identityUpTo_createInitialStock {n productId : Id} (hlt : productId < n)
    (initialStock : List InitialStockInput) :
    Handler.Ensures (IdentityUpTo n)
      (createInitialStock warehouse tenantId productId initialStock)
      (fun _ => IdentityUpTo n) (IdentityUpTo n) := by
  rw [createInitialStock]
  generalize (initialStock.map InitialStockInput.locationId).eraseDups = locations
  induction locations with
  | nil => exact Handler.Ensures.pure _ fun _ hs => hs
  | cons locationId rest ih =>
    refine Handler.Ensures.bind (Q := fun _ => IdentityUpTo n) ?_ fun _ => ih
    refine Handler.Ensures.atomically (fun s _ s' hs hok => ?_) fun s e hs _ => hs
    obtain ⟨_, _, hok⟩ := Except.bind_eq_ok_iff.mp hok
    obtain ⟨_, rfl⟩ := Prod.mk.inj (Except.ok.inj hok)
    refine ⟨hs.1.withStock fun i hi => ?_, hs.2⟩
    obtain ⟨item, _, rfl⟩ := List.mem_map.mp hi
    exact lt_of_lt_of_le hlt hs.2

theorem identityUpTo_createVariantStock (warehouse : Warehouse) (tenantId : Id) {n : Id}
    {created : List (Id × CatalogProduct)} (hlt : ∀ r ∈ created, r.1 < n)
    (variants : List (VariantDto × String)) :
    Handler.Ensures (IdentityUpTo n) (createVariantStock warehouse tenantId created variants)
      (fun _ => IdentityUpTo n) (IdentityUpTo n) := by
  induction variants with
  | nil => exact Handler.Ensures.pure _ fun _ hs => hs
  | cons v rest ih =>
    refine Handler.Ensures.bind (Q := fun _ => IdentityUpTo n) ?_ fun _ => ih
    rw [createStockOf]
    split
    · exact Handler.Ensures.pure _ fun _ hs => hs
    · next r hr =>
      exact identityUpTo_createInitialStock (hlt r (List.mem_of_find?_eq_some hr)) _

/-- The SKU of a new product is free. -/
theorem newSku_not_mem (casing : Casing) (tenantId : Id) (dto : CreateProductDto)
    (s : CatalogStore) : newSku casing tenantId dto s ∉ s.skus tenantId none :=
  ensureUnique_not_mem _ _

theorem next_withVariants (products : Serial CatalogProduct) :
    products.next < (withVariants tenantId dto sku plan products).next := by
  rw [withVariants, Serial.next_foldl_create, List.length_cons]
  omega

/-- The transaction of a product with variants, where SKUs and slugs are distinct. -/
theorem IdentityInv.commitVariants (h : IdentityInv s)
    (hunique : UniqueIds (withVariants tenantId dto sku plan s.products)) {parentId : Id}
    {created : List (Id × CatalogProduct)}
    (hcommit : commitVariants tenantId dto sku plan s = .ok ((parentId, created), s')) :
    IdentityInv s' ∧ ∀ r ∈ created, r.1 < s'.products.next := by
  obtain ⟨rfl, hcreated, hproducts, hvalues, _, hstock⟩ := commitVariants_ok hcommit
  have hnext : s.products.next < s'.products.next := hproducts ▸ next_withVariants s.products
  have hlt : ∀ r ∈ created, r.1 < s'.products.next := by
    intro r hr
    rw [hcreated] at hr
    exact s'.products.lt_next _ (List.mem_map_of_mem (List.mem_filter.mp hr).1)
  refine ⟨⟨hproducts ▸ hunique, ?_, ?_, ?_⟩, hlt⟩
  · rw [hvalues]
    refine Serial.All_foldl_create (f := id) _ (h.values.imp fun _ _ hv => hv.trans hnext) ?_
    intro v hv
    rcases List.mem_append.mp hv with hv | hv
    · obtain ⟨a, _, rfl⟩ := List.mem_map.mp hv
      exact hnext
    · obtain ⟨x, _, hv⟩ := List.mem_flatMap.mp hv
      dsimp only at hv
      split at hv
      · cases hv
      · next productId hid =>
        obtain ⟨a, _, rfl⟩ := List.mem_map.mp hv
        obtain ⟨r, hr, rfl⟩ := Option.map_eq_some_iff.mp hid
        exact hlt r (List.mem_reverse.mp (List.mem_of_find?_eq_some hr))
  · rw [hstock]
    exact h.stock.imp fun _ _ hi => hi.trans hnext
  · intro k p hp id hid
    rw [hproducts] at hp
    -- A row that was there has its parent already; a new one has none or the product just made.
    rcases Serial.mem_rows_foldl_create_cases (Table.mem_rows_of_find? hp) with hold | hnew
    · exact (h.parents k p (Table.find?_of_mem_rows hold) id hid).trans hnext
    · rcases List.mem_cons.mp hnew with rfl | hnew
      · cases hid
      · obtain ⟨x, _, rfl⟩ := List.mem_map.mp hnew
        obtain rfl := Option.some.inj hid
        exact hnext

/-- A product alone. -/
theorem IdentityInv.createSimpleProduct (h : IdentityInv s)
    (hsku : sku ∉ s.skus tenantId none) :
    IdentityInv (createSimpleProduct casing warehouse tenantId dto sku s).2 := by
  have hensures : Handler.Ensures (· = s)
      (ProductService.createSimpleProduct casing warehouse tenantId dto sku)
      (fun _ => IdentityInv) IdentityInv := by
    refine Handler.Ensures.bind (Q := fun slug t => t = s ∧
      slug ∉ s.productSlugs tenantId none) ?_ fun slug => ?_
    · refine Handler.Ensures.read (fun t slug ht hslug => ⟨ht, ?_⟩) fun t e ht _ => ht ▸ h
      rw [ht] at hslug
      exact SlugService.createSlug_not_mem hslug
    refine Handler.Ensures.bind
      (Q := fun productId => IdentityUpTo (productId + 1)) ?_ fun productId => ?_
    · refine Handler.Ensures.atomically (fun t productId t' ht hok => ?_)
        fun t e ht _ => ht.1 ▸ h
      obtain ⟨rfl, hslug⟩ := ht
      obtain ⟨⟨_, s₁⟩, hproduct, hok⟩ := Except.bind_eq_ok_iff.mp hok
      obtain ⟨s₂, hlinks, hok⟩ := Except.bind_eq_ok_iff.mp hok
      obtain ⟨rfl, rfl⟩ := Prod.mk.inj (Except.ok.inj hok)
      obtain ⟨rfl, rfl⟩ := insertProduct_ok hproduct
      obtain rfl := insertLinks_ok hlinks
      refine ⟨h.congr_next ?_ (Nat.le_succ _) rfl rfl ?_, le_refl _⟩
      · refine (uniqueIds_foldl_create_iff (l := [productRow .simple tenantId dto sku slug])
          h.unique ?_).mpr (List.pairwise_singleton _ _)
        intro k p hp q hq
        obtain rfl := List.mem_singleton.mp hq
        refine apart_of_free (s := t) hsku (fun slug' hslug' => ?_) hp
        obtain rfl := Option.some.inj hslug'
        exact hslug
      · refine Serial.All_create (h.parents.imp fun _ _ hp id hid => ?_) fun id hid => nomatch hid
        exact Nat.lt_succ_of_lt (hp id hid)
    refine Handler.Ensures.bind (Q := fun _ => IdentityInv) ?_
      fun _ => Handler.Ensures.pure _ fun _ hs => hs
    exact (identityUpTo_createInitialStock (Nat.lt_succ_self productId) _).consequence
      (fun _ hs => hs) (fun _ _ hs => hs.1) fun _ hs => hs.1
  exact hensures.snd rfl

/-- A creation is refused before it writes, or goes on with the SKU of the product. -/
theorem create_cases (casing : Casing) (warehouse : Warehouse) (tenantId : Id)
    (dto : CreateProductDto) (s : CatalogStore) :
    (∃ e, CategoryService.validateCategoryIds tenantId dto.categoryIds s = .error e ∧
      create casing warehouse tenantId dto s = (.error e, s)) ∨
    CategoryService.validateCategoryIds tenantId dto.categoryIds s = .ok ⟨⟩ ∧
      create casing warehouse tenantId dto s =
        if dto.variants ≠ [] then
          createWithExplicitVariants casing warehouse tenantId dto (newSku casing tenantId dto s) s
        else
          ProductService.createSimpleProduct casing warehouse tenantId dto
            (newSku casing tenantId dto s) s := by
  simp only [create, bind, Handler.read]
  cases hvalid : CategoryService.validateCategoryIds tenantId dto.categoryIds s with
  | error e => exact .inl ⟨e, rfl, rfl⟩
  | ok _ =>
    refine .inr ⟨rfl, ?_⟩
    by_cases hvariants : dto.variants = []
    · simp only [hvariants, ne_eq, not_true, if_false]
    · simp only [hvariants, ne_eq, not_false_iff, if_true]

/-- A product with variants is refused before it is written, or written and then stocked. -/
theorem createWithExplicitVariants_cases (casing : Casing) (warehouse : Warehouse) (tenantId : Id)
    (dto : CreateProductDto) (sku : String) (s : CatalogStore) :
    (∃ e, createWithExplicitVariants casing warehouse tenantId dto sku s = (.error e, s)) ∧
      (∀ plan, planVariants casing tenantId dto sku s = .ok plan →
        ¬(ProductService.commitVariants tenantId dto sku plan s).isOk) ∨
    ∃ plan parentId created s₁, planVariants casing tenantId dto sku s = .ok plan ∧
      ProductService.commitVariants tenantId dto sku plan s = .ok ((parentId, created), s₁) ∧
      createWithExplicitVariants casing warehouse tenantId dto sku s =
        (createVariantStock warehouse tenantId created (dto.variants.zip plan.skus) >>=
          fun _ => pure parentId : CatalogHandler Id) s₁ := by
  cases hplan : planVariants casing tenantId dto sku s with
  | error e =>
    refine .inl ⟨⟨e, ?_⟩, fun plan h => ?_⟩
    · simp only [createWithExplicitVariants, bind, Handler.read, hplan]
    · cases h
  | ok plan =>
    cases hcommit : ProductService.commitVariants tenantId dto sku plan s with
    | error e =>
      refine .inl ⟨⟨e, ?_⟩, fun plan' h => ?_⟩
      · simp only [createWithExplicitVariants, bind, Handler.read, Handler.atomically, hplan,
          transaction_of_error hcommit]
      · obtain rfl := Except.ok.inj h
        rw [hcommit]
        exact Bool.false_ne_true
    | ok result =>
      obtain ⟨⟨parentId, created⟩, s₁⟩ := result
      refine .inr ⟨plan, parentId, created, s₁, rfl, hcommit, ?_⟩
      simp only [createWithExplicitVariants, bind, Handler.read, Handler.atomically, hplan,
        transaction_of_ok hcommit]

/-- What a creation ends with: the invariant, and where it is answered a product for each
variant. -/
def CreatedDistinct (s : CatalogStore) (variants : List VariantDto)
    (r : Except HttpError Id × CatalogStore) : Prop :=
  IdentityInv r.2 ∧ ∀ id, r.1 = .ok id → HasOwnProducts s r.2 variants

/-- The variants of a product, where SKUs and slugs are distinct. -/
theorem IdentityInv.createWithExplicitVariants (h : IdentityInv s)
    (hsku : sku ∉ s.skus tenantId none)
    (hdistinct : ∀ plan, planVariants casing tenantId dto sku s = .ok plan →
      (ProductService.commitVariants tenantId dto sku plan s).isOk →
      (sku :: plan.skus).Nodup ∧ (plan.parentSlug :: plan.slugs).Nodup) :
    CreatedDistinct s dto.variants
      (createWithExplicitVariants casing warehouse tenantId dto sku s) := by
  rcases createWithExplicitVariants_cases casing warehouse tenantId dto sku s with
    ⟨⟨e, hrefused⟩, _⟩ | ⟨plan, parentId, created, s₁, hplan, hcommit, hcreate⟩
  · rw [hrefused]
    exact ⟨h, fun _ hok => nomatch hok⟩
  · have hfree := planVariants_ok hplan
    obtain ⟨hskus, hslugs⟩ := hdistinct plan hplan (by rw [hcommit]; rfl)
    have hunique := (uniqueIds_withVariants_iff h.unique hfree hsku).mpr ⟨hskus, hslugs⟩
    obtain ⟨hinv, hlt⟩ := h.commitVariants hunique hcommit
    have hensures := identityUpTo_createVariantStock warehouse tenantId hlt
      (dto.variants.zip plan.skus)
    rw [hcreate]
    simp only [bind, pure]
    cases hstock : createVariantStock warehouse tenantId created
        (dto.variants.zip plan.skus) s₁ with
    | mk result s₂ =>
      obtain ⟨hok, herr⟩ := hensures s₁ ⟨hinv, le_refl _⟩
      cases result with
      | error e => exact ⟨(herr e s₂ hstock).1, fun _ hanswer => nomatch hanswer⟩
      | ok _ =>
        exact ⟨(hok _ s₂ hstock).1,
          fun _ _ => h.hasOwnProducts hfree (List.nodup_cons.mp hskus).2 hcommit hstock⟩

/-- The creation of a product. -/
theorem IdentityInv.create (h : IdentityInv s) (warehouse : Warehouse)
    (hdistinct : dto.variants ≠ [] →
      CategoryService.validateCategoryIds tenantId dto.categoryIds s = .ok ⟨⟩ →
      ∀ plan, planVariants casing tenantId dto (newSku casing tenantId dto s) s = .ok plan →
        (ProductService.commitVariants tenantId dto (newSku casing tenantId dto s) plan s).isOk →
        (newSku casing tenantId dto s :: plan.skus).Nodup ∧
          (plan.parentSlug :: plan.slugs).Nodup) :
    CreatedDistinct s dto.variants (create casing warehouse tenantId dto s) := by
  have hsku := newSku_not_mem casing tenantId dto s
  rcases create_cases casing warehouse tenantId dto s with
    ⟨e, _, hrefused⟩ | ⟨hvalid, hcreate⟩
  · rw [hrefused]
    exact ⟨h, fun _ hok => nomatch hok⟩
  · rw [hcreate]
    split
    · next hvariants =>
      exact h.createWithExplicitVariants hsku (hdistinct hvariants hvalid)
    · next hnone =>
      rw [not_not.mp hnone]
      exact ⟨h.createSimpleProduct hsku, fun _ _ => ⟨[], List.nodup_nil, .nil⟩⟩

/-- Two variants whose SKUs or slugs collide are written, and stay. -/
theorem create_breaks (h : IdentityInv s) (hvariants : dto.variants ≠ [])
    (hvalid : CategoryService.validateCategoryIds tenantId dto.categoryIds s = .ok ⟨⟩)
    (hplan : planVariants casing tenantId dto (newSku casing tenantId dto s) s = .ok plan)
    (hcommit : (ProductService.commitVariants tenantId dto (newSku casing tenantId dto s) plan
      s).isOk)
    (hcollide : ¬((newSku casing tenantId dto s :: plan.skus).Nodup ∧
      (plan.parentSlug :: plan.slugs).Nodup)) :
    ¬UniqueIds (create casing warehouse tenantId dto s).2.products := by
  rcases create_cases casing warehouse tenantId dto s with ⟨e, hinvalid, _⟩ | ⟨_, hcreate⟩
  · rw [hvalid] at hinvalid
    cases hinvalid
  rw [hcreate, if_pos hvariants]
  rcases createWithExplicitVariants_cases casing warehouse tenantId dto
      (newSku casing tenantId dto s) s with
    ⟨_, hrefused⟩ | ⟨plan', parentId, created, s₁, hplan', hcommit', hcreate'⟩
  · exact absurd hcommit (hrefused plan hplan)
  obtain rfl := Except.ok.inj (hplan.symm.trans hplan')
  obtain ⟨_, _, hproducts, _⟩ := commitVariants_ok hcommit'
  -- the receipts leave the products as the transaction has written them
  have hkept : Handler.Ensures (fun t => t.products = s₁.products)
      (createVariantStock warehouse tenantId created (dto.variants.zip plan.skus) >>=
        fun _ => pure parentId : CatalogHandler Id)
      (fun _ t => t.products = s₁.products) (fun t => t.products = s₁.products) := by
    refine Handler.Ensures.bind (Q := fun _ t => t.products = s₁.products) ?_
      fun _ => Handler.Ensures.pure _ fun _ ht => ht
    exact createVariantStock_ensures (fun _ _ ht => ht) _ _ _ _
  rw [hcreate', hkept.snd rfl, hproducts]
  exact fun hunique => hcollide <|
    (uniqueIds_withVariants_iff h.unique (planVariants_ok hplan)
      (newSku_not_mem casing tenantId dto s)).mp hunique

/-- A row that is rewritten with a SKU and a slug that no other row has. -/
theorem UniqueIds.modify {products : Serial CatalogProduct} (h : UniqueIds products) {id : Id}
    {p : CatalogProduct} (hp : products.find? id = some p) {f : CatalogProduct → CatalogProduct}
    (hf : ∀ k p', products.find? k = some p' → k ≠ id → (f p).Apart p') :
    UniqueIds (products.modify id f) := by
  intro k k' q q' hq hq' hne
  rw [Serial.toTable_modify, Table.find?_modify] at hq hq'
  split at hq
  · next hk =>
    rw [hk, hp] at hq
    obtain rfl := Option.some.inj hq
    rw [if_neg fun hk' => hne (hk.trans hk'.symm)] at hq'
    exact hf k' q' hq' fun hk' => hne (hk.trans hk'.symm)
  · next hk =>
    split at hq'
    · next hk' =>
      rw [hk', hp] at hq'
      obtain rfl := Option.some.inj hq'
      exact (hf k q hq hk).symm
    · exact h k k' q q' hq hq' hne

/-- What an update has looked up is free but for the product itself. -/
theorem readUpdate_free {id : Id} {dto : UpdateProductDto} {update : ProductUpdate}
    (h : readUpdate casing tenantId id dto s = .ok update) :
    (∀ sku ∈ update.sku, sku ∉ s.skus tenantId (some id)) ∧
      ∀ slug ∈ update.slug, slug ∉ s.productSlugs tenantId (some id) := by
  unfold readUpdate at h
  split at h
  · cases h
  · next existing hexisting =>
    have hsku : ∀ sku ∈ (dto.sku.filter (· ≠ existing.sku)).map
        (SkuService.createSku casing (s.skus tenantId (some id))),
        sku ∉ s.skus tenantId (some id) := by
      intro sku hsku
      obtain ⟨given, _, rfl⟩ := Option.map_eq_some_iff.mp hsku
      exact ensureUnique_not_mem _ _
    dsimp only at h
    split at h
    · cases hcreate : SlugService.createSlug casing (s.productSlugs tenantId (some id))
          dto.slug dto.name with
      | error e =>
        rw [hcreate] at h
        cases h
      | ok text =>
        rw [hcreate] at h
        obtain rfl := Except.ok.inj h
        refine ⟨hsku, fun slug hslug => ?_⟩
        obtain rfl := Option.some.inj hslug
        exact SlugService.createSlug_not_mem hcreate
    · obtain rfl := Except.ok.inj h
      exact ⟨hsku, fun slug hslug => nomatch hslug⟩

theorem readUpdate_live {id : Id} {dto : UpdateProductDto} {update : ProductUpdate}
    (h : readUpdate casing tenantId id dto s = .ok update) :
    ∃ p, s.products.find? id = some p ∧ p.tenantId = tenantId := by
  rw [readUpdate] at h
  split at h
  · cases h
  · next p hp =>
    obtain ⟨hrow, htenant, _⟩ := liveProduct_eq_some hp
    exact ⟨p, hrow, htenant⟩

/-- The row that an update writes is apart from the other rows. -/
theorem apart_writtenProduct (h : IdentityInv s) {id : Id} {p : CatalogProduct}
    (hp : s.products.find? id = some p) (htenant : p.tenantId = tenantId) {dto : UpdateProductDto}
    {update : ProductUpdate} (hread : readUpdate casing tenantId id dto s = .ok update) {k : Id}
    {p' : CatalogProduct} (hp' : s.products.find? k = some p') (hne : k ≠ id) :
    (writtenProduct dto update p).Apart p' := by
  intro hsame
  obtain ⟨hsku, hslug⟩ := readUpdate_free hread
  obtain ⟨hsku', hslug'⟩ := h.unique id k p p' hp hp' hne.symm hsame
  have hrow : (k, p') ∈ s.products.rows.filter fun r =>
      r.2.tenantId = tenantId ∧ (some id : Option Id) ≠ some r.1 :=
    List.mem_filter.mpr ⟨Table.mem_rows_of_find? hp', decide_eq_true
      ⟨hsame.symm.trans htenant, fun heq => hne (Option.some.inj heq).symm⟩⟩
  constructor
  · intro heq
    cases hnew : update.sku with
    | none =>
      rw [writtenProduct, hnew] at heq
      exact hsku' heq
    | some sku =>
      rw [writtenProduct, hnew] at heq
      exact hsku sku hnew (List.mem_map.mpr ⟨(k, p'), hrow, heq.symm⟩)
  · intro slug hwritten heq
    cases hnew : update.slug with
    | none =>
      rw [writtenProduct, hnew] at hwritten
      exact hslug' slug hwritten heq
    | some slug' =>
      rw [writtenProduct, hnew] at hwritten
      obtain rfl := Option.some.inj hwritten
      exact hslug slug' hnew (List.mem_filterMap.mpr ⟨(k, p'), hrow, heq⟩)

/-- A row is rewritten. -/
theorem IdentityInv.modify (h : IdentityInv s) {id : Id} {f : CatalogProduct → CatalogProduct}
    (hparent : ∀ p, (f p).parentId = p.parentId) (hproducts : s'.products = s.products.modify id f)
    (hvalues : s'.attributeValues = s.attributeValues) (hstock : s'.initialStock = s.initialStock)
    (hunique : UniqueIds (s.products.modify id f)) : IdentityInv s' := by
  have hnext : s'.products.next = s.products.next := by rw [hproducts]; rfl
  refine h.congr_next (hproducts ▸ hunique) hnext.ge hvalues hstock ?_
  intro k p hp id' hid'
  rw [hnext]
  rw [hproducts, Serial.toTable_modify, Table.find?_modify] at hp
  split at hp
  · obtain ⟨p₀, hp₀, rfl⟩ := Option.map_eq_some_iff.mp hp
    rw [hparent] at hid'
    exact h.parents k p₀ hp₀ id' hid'
  · exact h.parents k p hp id' hid'

/-- The links are not looked at. -/
theorem replaceLinks_ok {id : Id} {categoryIds : Option (List Id)}
    (h : replaceLinks id categoryIds s = .ok s') :
    s'.products = s.products ∧ s'.attributeValues = s.attributeValues ∧
      s'.initialStock = s.initialStock := by
  cases categoryIds with
  | none =>
    obtain rfl := Except.ok.inj h
    exact ⟨rfl, rfl, rfl⟩
  | some categoryIds =>
    obtain rfl := insertLinks_ok h
    exact ⟨rfl, rfl, rfl⟩

theorem IdentityInv.updateProduct (h : IdentityInv s) (casing : Casing) (tenantId id : Id)
    (dto : UpdateProductDto) : IdentityInv (update casing tenantId id dto s).2 := by
  simp only [update, bind, Handler.read, Handler.atomically]
  cases hread : readUpdate casing tenantId id dto s with
  | error e => exact h
  | ok update =>
    refine transaction_preserves h fun _ s' hcommit => ?_
    obtain ⟨s₁, hlinks, rfl⟩ := commitProductUpdate_ok hcommit
    obtain ⟨hproducts, hvalues, hstock⟩ := replaceLinks_ok hlinks
    obtain ⟨p, hrow, htenant⟩ := readUpdate_live hread
    refine h.modify (f := writtenProduct dto update) (fun _ => rfl) (by rw [hproducts]) hvalues
      hstock (h.unique.modify hrow fun k p' hp' hne => ?_)
    exact apart_writtenProduct h hrow htenant hread hp' hne

theorem IdentityInv.removeProduct (h : IdentityInv s) (now tenantId id : ℕ) :
    IdentityInv (remove now tenantId id s).2 := by
  simp only [remove, bind, Handler.read, Handler.write]
  cases readRemove tenantId id s with
  | error e => exact h
  | ok _ =>
    refine h.modify (f := fun p => { p with deletedAt := some now }) (fun _ => rfl) rfl rfl rfl ?_
    intro k k' p p' hp hp' hne hsame
    rw [Serial.toTable_modify, Table.find?_modify] at hp hp'
    -- SKU, slug and tenant of a row are those it had
    have hold : ∀ {k : Id} {p : CatalogProduct},
        (if k = id then (s.products.find? k).map fun p => { p with deletedAt := some now }
          else s.products.find? k) = some p →
        ∃ p₀, s.products.find? k = some p₀ ∧ p₀.tenantId = p.tenantId ∧ p₀.sku = p.sku ∧
          p₀.slug = p.slug := by
      intro k p hp
      split at hp
      · obtain ⟨p₀, hp₀, rfl⟩ := Option.map_eq_some_iff.mp hp
        exact ⟨p₀, hp₀, rfl, rfl, rfl⟩
      · exact ⟨p, hp, rfl, rfl, rfl⟩
    obtain ⟨q, hq, htenant, hsku, hslug⟩ := hold hp
    obtain ⟨q', hq', htenant', hsku', hslug'⟩ := hold hp'
    rw [← htenant, ← htenant'] at hsame
    rw [← hsku, ← hsku', ← hslug, ← hslug']
    exact h.unique k k' q q' hq hq' hne hsame

/-- The answer to a creation is that of the service, without the id. -/
theorem serveProduct_create (casing : Casing) (warehouse : Warehouse) (tenantId : Id) (now : ℕ)
    (dto : CreateProductDto) (s : CatalogStore) :
    (serveProduct casing warehouse ⟨tenantId, now, .create dto⟩ s).2 =
        (create casing warehouse tenantId dto s).2 ∧
      ((serveProduct casing warehouse ⟨tenantId, now, .create dto⟩ s).1 = .ok ⟨⟩ →
        ∃ id, (create casing warehouse tenantId dto s).1 = .ok id) := by
  simp only [serveProduct, bind]
  cases create casing warehouse tenantId dto s with
  | mk result s' =>
    cases result with
    | error e => exact ⟨rfl, fun h => nomatch h⟩
    | ok id => exact ⟨rfl, fun _ => ⟨id, rfl⟩⟩

end Steps

/-- In every run SKUs and slugs of a tenant stay distinct and each variant has its attributes and
stock on a product of its own, exactly if the SKUs and slugs that each request generates for its
variants are distinct. -/
theorem products_distinct_iff {casing : Casing} {warehouse : Warehouse} {s : CatalogStore}
    (hs : IdentityInv s) (calls : List ProductCall) :
    Runs.AllMeet (answerProduct casing warehouse) (DistinctAfter casing warehouse) calls s ↔
      Runs.AllMeet (answerProduct casing warehouse) (GeneratesDistinct casing) calls s := by
  have hstep : ∀ s call, IdentityInv s → GeneratesDistinct casing s call →
      IdentityInv (answerProduct casing warehouse call s) ∧
        DistinctAfter casing warehouse s call := by
    rintro s ⟨tenantId, now, request⟩ h hgood
    cases request with
    | create dto =>
      obtain ⟨hafter, hanswer⟩ := serveProduct_create casing warehouse tenantId now dto s
      obtain ⟨hinv, hown⟩ := h.create warehouse hgood
      rw [DistinctAfter, answerProduct, hafter]
      refine ⟨hinv, hinv.unique, fun dto' heq hok => ?_⟩
      obtain rfl := ProductRequest.create.inj heq
      obtain ⟨id, hid⟩ := hanswer hok
      exact hown id hid
    | update id dto =>
      have hinv := h.updateProduct casing tenantId id dto
      exact ⟨hinv, hinv.unique, fun dto' heq => nomatch heq⟩
    | remove id =>
      have hinv := h.removeProduct now tenantId id
      exact ⟨hinv, hinv.unique, fun dto' heq => nomatch heq⟩
  -- While the ids are unique a creation leaves them unique exactly if what it generates is
  -- distinct.
  refine Runs.allMeet_congr (I := IdentityInv) (fun s call h => ⟨fun hafter => ?_, fun hgood =>
    (hstep s call h hgood).2⟩) (fun s call h hgood => (hstep s call h hgood).1) hs
  obtain ⟨tenantId, now, request⟩ := call
  cases request with
  | create dto =>
    intro hvariants hvalid plan hplan hcommit
    by_contra hcollide
    obtain ⟨hafter', _⟩ := serveProduct_create casing warehouse tenantId now dto s
    have hunique := hafter.1
    rw [answerProduct, hafter'] at hunique
    exact create_breaks h hvariants hvalid hplan hcommit hcollide hunique
  | update id dto => exact trivial
  | remove id => exact trivial

theorem empty_identityInv : IdentityInv .empty := by
  refine ⟨?_, ?_, ?_, ?_⟩
  · intro k k' p p' hp
    cases hp
  all_goals
    intro k x hx
    cases hx

/-- A shirt in some variants. -/
def shirt (variants : List VariantDto) : ProductCall :=
  ⟨0, 0, .create
    { name := "Shirt"
      sku := none
      slug := none
      categoryIds := []
      variants
      initialStock := [] }⟩

theorem products_distinct_iff_shirt :
    Runs.AllMeet (answerProduct .ascii .open) (DistinctAfter .ascii .open)
      [shirt [⟨none, none, [⟨"Size", ["Small"]⟩], [⟨0, 3, 10⟩]⟩,
        ⟨none, none, [⟨"Size", ["Large"]⟩], [⟨0, 5, 10⟩]⟩]] .empty := by
  refine (products_distinct_iff empty_identityInv _).mpr ⟨?_, trivial⟩
  intro _ _ plan hplan _
  obtain rfl := Except.ok.inj hplan
  decide +kernel

/-- Two variants with one SKU: the stock of both is received for the first of them. -/
theorem variants_share_sku :
    ¬Runs.AllMeet (answerProduct .ascii .open) (DistinctAfter .ascii .open)
      [shirt [⟨none, some "S1", [], [⟨0, 3, 10⟩]⟩, ⟨none, some "S1", [], [⟨0, 5, 10⟩]⟩]]
      .empty := by
  rintro ⟨⟨hunique, _⟩, _⟩
  have happart := hunique 1 2
    { name := "Shirt - S1", slug := some "shirt-s1", sku := "S1", productType := .variant
      parentId := some 0, tenantId := 0, deletedAt := none }
    { name := "Shirt - S1", slug := some "shirt-s1", sku := "S1", productType := .variant
      parentId := some 0, tenantId := 0, deletedAt := none }
    (by decide +kernel) (by decide +kernel) (by decide)
  exact (happart rfl).1 rfl

end Invetrixa
