import Invetrixa.Catalog.Category
import Invetrixa.Invoice.Invoice
import Invetrixa.Server

/-!
# Checks of id lists

Three services check that all ids of a list are of live rows of a tenant, and each compares the
number of rows it finds with the number of ids it looked for. Stock and categories take the
repeats out of the list first; invoices do not, and refuse every list with a repeat.

## Main definitions

- `Product.LiveIn` — a product of the tenant that is not deleted
- `ValidatorsAgree` — the three checks decide the same, each for its table

## Main results

- `validateAndLoadProducts_ok_iff` — an invoice's products are loaded if there are no repeats
- `validators_agree_iff` — the checks agree on a list without repeats, or with a missing product
-/

namespace Invetrixa

open Rowstore

/-- A product of the tenant that is not deleted. -/
def Product.LiveIn (tenantId : Id) (p : Product) : Prop :=
  p.tenantId = tenantId ∧ p.deletedAt = none

instance (tenantId : Id) (p : Product) : Decidable (p.LiveIn tenantId) :=
  inferInstanceAs (Decidable (_ ∧ _))

/-- Every id of the list is of a live product of the tenant. -/
def AllLive (products : Table Id Product) (tenantId : Id) (productIds : List Id) : Prop :=
  ∀ id ∈ productIds, ∃ p, products.find? id = some p ∧ p.LiveIn tenantId

/-- The three checks of a list of ids decide whether all of them are there, the stock check leaving
out parent products as well, and an invoice finds the product of every line in its map. -/
structure ValidatorsAgree (tenantId : Id) (ids : List Id) (invoices : InvoiceStore)
    (stock : Store) (catalog : CatalogStore) : Prop where
  invoice : (∃ productMap,
      InvoiceService.validateAndLoadProducts tenantId ids invoices = .ok productMap) ↔
    AllLive invoices.products.toTable tenantId ids
  stock : StockValidationService.validateProducts stock tenantId ids = .ok () ↔
    AllLive stock.products.toTable tenantId ids ∧
      ∀ id ∈ ids, ∀ p ∈ stock.products.find? id, p.productType ≠ .variable
  category : CategoryService.validateCategoryIds tenantId ids catalog = .ok ⟨⟩ ↔
    ∀ id ∈ ids, ∃ c, catalog.categories.find? id = some c ∧
      c.tenantId = tenantId ∧ c.deletedAt = none
  found : ∀ productMap,
    InvoiceService.validateAndLoadProducts tenantId ids invoices = .ok productMap →
    ∀ id ∈ ids, ∃ p, productMap.find? id = some p ∧ invoices.products.find? id = some p

section Validators

variable {tenantId : Id} {ids : List Id} {s : InvoiceStore}

/-- The products of an invoice are loaded if none is named twice and all are there. -/
theorem validateAndLoadProducts_ok_iff {productMap : Table Id Product} :
    InvoiceService.validateAndLoadProducts tenantId ids s = .ok productMap ↔
      (ids.Nodup ∧ AllLive s.products.toTable tenantId ids) ∧
        productMap = s.products.select fun id p =>
          id ∈ ids && (p.tenantId = tenantId ∧ p.deletedAt = none) := by
  have hcount := Table.length_select_keys_eq_iff s.products.toTable ids
    fun _ p => decide (p.tenantId = tenantId ∧ p.deletedAt = none)
  simp only [decide_eq_true_eq] at hcount
  simp only [InvoiceService.validateAndLoadProducts, Except.ite_error_eq_ok_iff, ne_eq, not_not,
    hcount, Except.ok.injEq, eq_comm (a := productMap)]
  rfl

/-- Every line of a loaded list finds its product. -/
theorem loaded_find? {productMap : Table Id Product}
    (h : InvoiceService.validateAndLoadProducts tenantId ids s = .ok productMap) {id : Id}
    (hid : id ∈ ids) :
    ∃ p, productMap.find? id = some p ∧ s.products.find? id = some p := by
  obtain ⟨⟨_, hall⟩, rfl⟩ := validateAndLoadProducts_ok_iff.mp h
  obtain ⟨p, hp, hlive⟩ := hall id hid
  refine ⟨p, ?_, hp⟩
  rw [Table.find?_select, hp, Option.filter_some_pos]
  simpa using ⟨hid, hlive⟩

/-- The check of the stock services, with its rule on parent products taken apart. -/
theorem validateProducts_ok_iff_allLive {w : Store} :
    StockValidationService.validateProducts w tenantId ids = .ok () ↔
      AllLive w.products.toTable tenantId ids ∧
        ∀ id ∈ ids, ∀ p ∈ w.products.find? id, p.productType ≠ .variable := by
  rw [validateProducts_ok_iff]
  constructor
  · intro h
    refine ⟨fun id hid => ?_, fun id hid p hp => ?_⟩
    · obtain ⟨p, hp, hlive, _⟩ := h id hid
      exact ⟨p, hp, hlive⟩
    · obtain ⟨p', hp', _, hnot⟩ := h id hid
      rw [Option.mem_def, hp'] at hp
      exact Option.some.inj hp ▸ hnot
  · rintro ⟨hall, hnot⟩ id hid
    obtain ⟨p, hp, hlive⟩ := hall id hid
    exact ⟨p, hp, hlive, hnot id hid p hp⟩

/-- The check of an invoice's products differs from the others on a list of live products in which
one is named twice, and nowhere else. -/
theorem validators_agree_iff {w : Store} {c : CatalogStore} :
    ValidatorsAgree tenantId ids s w c ↔
      ids.Nodup ∨ ¬AllLive s.products.toTable tenantId ids := by
  constructor
  · intro h
    by_cases hall : AllLive s.products.toTable tenantId ids
    · obtain ⟨productMap, hloaded⟩ := h.invoice.mpr hall
      exact .inl (validateAndLoadProducts_ok_iff.mp hloaded).1.1
    · exact .inr hall
  · intro h
    refine ⟨?_, validateProducts_ok_iff_allLive, ?_, fun _ hloaded _ => loaded_find? hloaded⟩
    · simp only [validateAndLoadProducts_ok_iff, exists_and_left, exists_eq, and_true]
      exact ⟨fun hloaded => hloaded.2,
        fun hall => ⟨h.resolve_right (not_not.mpr hall), hall⟩⟩
    · simp only [CategoryService.validateCategoryIds_ok_iff, isSome_liveCategory_iff]

end Validators

/-- The products of a shop, for its invoices. -/
def shopInvoices : InvoiceStore :=
  ⟨Serial.empty, Serial.empty, (Store.initial (.shop .fifo)).products, Serial.empty, Serial.empty,
    Serial.empty⟩

/-- Two lines of an invoice may be of one product. -/
theorem validators_disagree_on_repeats :
    ¬∀ tenantId ids invoices stock catalog, invoices.products = stock.products →
      ValidatorsAgree tenantId ids invoices stock catalog := by
  intro h
  have hagree := h 0 [0, 0] shopInvoices (Store.initial (.shop .fifo)) CatalogStore.empty rfl
  have hlive : AllLive shopInvoices.products.toTable 0 [0, 0] := by
    intro id hid
    have hzero : id = 0 := by simpa using hid
    subst hzero
    exact ⟨_, rfl, by decide⟩
  obtain ⟨productMap, hloaded⟩ := hagree.invoice.mpr hlive
  exact absurd (validateAndLoadProducts_ok_iff.mp hloaded).1.1 (by decide)

end Invetrixa
