import Invetrixa.Catalog.Catalog
import Invetrixa.Library.Forest
import Invetrixa.Library.Groups
import Invetrixa.Library.Runs

/-!
# Categories

`CategoryService`: categories of a tenant, each under a parent or at the top. A request reads and
checks first and writes later, so the two are functions of their own. A category is deleted by
setting `deletedAt`.

## Main definitions

- `CategoryService.validateCategoryIds`
- `CategoryService.create`
- `CategoryService.readUpdate`, `commitUpdate`, `readRemove`, `commitRemove`
- `CategoryService.checkCircularReference`
-/

namespace Invetrixa

open Rowstore

structure CreateCategoryDto where
  name : String
  slug : Option String
  parentId : Option Id

structure UpdateCategoryDto where
  name : Option String
  slug : Option String
  /-- left out, `null` or an id -/
  parentId : Option (Option Id)

/-- What an update has found out before it writes. -/
structure CategoryUpdate where
  id : Id
  name : Option String
  slug : Option String
  parentId : Option (Option Id)

namespace CatalogStore

/-- A category of a tenant that is not deleted. -/
def liveCategory (tenantId id : Id) (s : CatalogStore) : Option ProductCategory :=
  (s.categories.find? id).filter fun c => c.tenantId = tenantId ∧ c.deletedAt = none

end CatalogStore

section Live

variable {s : CatalogStore} {tenantId id : Id}

theorem liveCategory_eq_some_iff {c : ProductCategory} :
    s.liveCategory tenantId id = some c ↔
      s.categories.find? id = some c ∧ c.tenantId = tenantId ∧ c.deletedAt = none := by
  simp [CatalogStore.liveCategory, Option.filter_eq_some_iff]

theorem isSome_liveCategory_iff :
    (s.liveCategory tenantId id).isSome ↔
      ∃ c, s.categories.find? id = some c ∧ c.tenantId = tenantId ∧ c.deletedAt = none := by
  simp only [Option.isSome_iff_exists, liveCategory_eq_some_iff]

end Live

namespace CategoryService

/-- All ids are of categories of the tenant, as counted by the rows found. -/
def validateCategoryIds (tenantId : Id) (categoryIds : List Id) (s : CatalogStore) :
    Except HttpError Unit :=
  if categoryIds = [] then .ok ⟨⟩
  else
    let uniqueIds := categoryIds.eraseDups
    let categories := s.categories.select fun id c =>
      id ∈ uniqueIds && (c.tenantId = tenantId ∧ c.deletedAt = none)
    if categories.rows.length ≠ uniqueIds.length then
      let missingIds := uniqueIds.filter fun id => id ∉ categories.rows.map Prod.fst
      .error (.notFound ("Category not found: " ++ ", ".intercalate (missingIds.map toString)))
    else .ok ⟨⟩

theorem validateCategoryIds_ok_iff {tenantId : Id} {categoryIds : List Id} {s : CatalogStore} :
    validateCategoryIds tenantId categoryIds s = .ok ⟨⟩ ↔
      ∀ id ∈ categoryIds, (s.liveCategory tenantId id).isSome := by
  by_cases hnil : categoryIds = []
  · simp [validateCategoryIds, hnil]
  · simp only [validateCategoryIds, hnil, if_false, Except.ite_error_eq_ok_iff, ne_eq, not_not,
      and_true]
    rw [Table.length_select_keys_eq_iff]
    simp only [List.mem_eraseDups, isSome_liveCategory_iff, decide_eq_true_eq]
    exact ⟨fun h => h.2, fun h => ⟨Groups.nodup_eraseDups _, h⟩⟩

/-- The parent that a request names is there. -/
def validateParent (tenantId parentId : Id) (s : CatalogStore) : Except HttpError Unit :=
  if (s.liveCategory tenantId parentId).isNone then .error (.notFound "Parent category not found.")
  else .ok ⟨⟩

def create (casing : Casing) (tenantId : Id) (dto : CreateCategoryDto) (s : CatalogStore) :
    Except HttpError CatalogStore := do
  dto.parentId.elim (.ok ⟨⟩) fun parentId => validateParent tenantId parentId s
  let slug ← SlugService.createSlug casing (s.categorySlugs tenantId none) dto.slug (some dto.name)
  return { s with
    categories := s.categories.create
      { name := dto.name, slug, parentId := dto.parentId, tenantId, deletedAt := none } }

/-- The parent as the walk up the tree reads it. -/
def liveParent (tenantId : Id) (s : CatalogStore) (id : Id) : Option Id :=
  (s.liveCategory tenantId id).bind ProductCategory.parentId

/-- The walk from the new parent up to the top. It has met a category twice, and will never end,
if it has not ended after as many steps as there are categories. -/
def checkCircularReference (tenantId categoryId newParentId : Id) (s : CatalogStore) :
    Option Bool :=
  Forest.walk (liveParent tenantId s) categoryId (s.categories.rows.length + 1) (some newParentId)

/-- The checks on a new parent; there is no answer if the walk does not end. -/
def validateMove (tenantId id parentId : Id) (s : CatalogStore) :
    Option (Except HttpError Unit) :=
  if parentId = id then some (.error (.badRequest "Category cannot be its own parent."))
  else
    match validateParent tenantId parentId s with
    | .error e => some (.error e)
    | .ok _ =>
      (checkCircularReference tenantId id parentId s).map fun isCircular =>
        if isCircular then
          .error (.badRequest "Cannot set parent: would create circular reference.")
        else .ok ⟨⟩

/-- The new slug, if the name or the slug is to change. -/
def readSlug (casing : Casing) (tenantId id : Id) (dto : UpdateCategoryDto) (s : CatalogStore) :
    Except HttpError (Option String) :=
  if truthy dto.slug = none ∧ truthy dto.name = none then .ok none
  else some <$> SlugService.createSlug casing (s.categorySlugs tenantId (some id)) dto.slug dto.name

/-- The checks of an update. -/
def readUpdate (casing : Casing) (tenantId id : Id) (dto : UpdateCategoryDto) (s : CatalogStore) :
    Option (Except HttpError CategoryUpdate) :=
  if (s.liveCategory tenantId id).isNone then some (.error (.notFound "Category not found."))
  else
    let moved : Option (Except HttpError Unit) :=
      match dto.parentId with
      | some (some parentId) => validateMove tenantId id parentId s
      | some none | none => some (.ok ⟨⟩)
    moved.map fun checked => do
      checked
      let slug ← readSlug casing tenantId id dto s
      return { id, name := truthy dto.name, slug, parentId := dto.parentId }

/-- The fields of a category that an update writes; an empty slug is not written. -/
def updated (update : CategoryUpdate) (c : ProductCategory) : ProductCategory :=
  { c with
    name := update.name.getD c.name
    slug := (truthy update.slug).getD c.slug
    parentId := update.parentId.getD c.parentId }

def commitUpdate (update : CategoryUpdate) (s : CatalogStore) : CatalogStore :=
  { s with categories := s.categories.modify update.id (updated update) }

/-- The live children of a category. -/
def children (id : Id) (s : CatalogStore) : List (Id × ProductCategory) :=
  s.categories.rows.filter fun r => r.2.parentId = some id ∧ r.2.deletedAt = none

/-- The links of a category to live products. -/
def products (id : Id) (s : CatalogStore) : List (Id × ProductCategoryProduct) :=
  s.links.rows.filter fun r => r.2.categoryId = id ∧
    ∃ p ∈ s.products.find? r.2.productId, p.deletedAt = none

def readRemove (tenantId id : Id) (s : CatalogStore) : Except HttpError Unit :=
  if (s.liveCategory tenantId id).isNone then .error (.notFound "Category not found.")
  else if 0 < (children id s).length then
    .error (.conflict ("Cannot delete category with child categories. " ++
      "Please delete or reassign children first."))
  else if 0 < (products id s).length then
    .error (.conflict ("Cannot delete category with assigned products. " ++
      "Please remove products from category first."))
  else .ok ⟨⟩

/-- A category that may be removed has neither children nor products. -/
theorem readRemove_ok {tenantId id : Id} {s : CatalogStore}
    (h : readRemove tenantId id s = .ok ⟨⟩) : children id s = [] ∧ products id s = [] := by
  obtain ⟨_, h⟩ := Except.ite_error_eq_ok_iff.mp h
  obtain ⟨hchildren, h⟩ := Except.ite_error_eq_ok_iff.mp h
  obtain ⟨hproducts, _⟩ := Except.ite_error_eq_ok_iff.mp h
  exact ⟨List.length_eq_zero_iff.mp (Nat.eq_zero_of_not_pos hchildren),
    List.length_eq_zero_iff.mp (Nat.eq_zero_of_not_pos hproducts)⟩

def commitRemove (now id : ℕ) (s : CatalogStore) : CatalogStore :=
  { s with categories := s.categories.modify id fun c => { c with deletedAt := some now } }

end CategoryService

inductive CategoryRequest
  | create (dto : CreateCategoryDto)
  | update (id : Id) (dto : UpdateCategoryDto)
  | remove (id : Id)

structure CategoryCall where
  tenantId : Id
  now : ℕ
  request : CategoryRequest

/-- The store after a request: as it was if the request is refused or gets no answer. -/
def serveCategory (casing : Casing) (call : CategoryCall) (s : CatalogStore) : CatalogStore :=
  match call.request with
  | .create dto => ((CategoryService.create casing call.tenantId dto s).toOption).getD s
  | .update id dto =>
    match CategoryService.readUpdate casing call.tenantId id dto s with
    | some (.ok update) => CategoryService.commitUpdate update s
    | some (.error _) | none => s
  | .remove id =>
    match CategoryService.readRemove call.tenantId id s with
    | .ok _ => CategoryService.commitRemove call.now id s
    | .error _ => s

end Invetrixa
