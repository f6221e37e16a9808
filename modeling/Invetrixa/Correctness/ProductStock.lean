import Invetrixa.Catalog.Shop
import Invetrixa.Correctness.ProductIdentity

/-!
# The stock of new products

A product is written before its stock is received, location by location, each in a transaction of
its own. The first receipt that is refused ends the creation, and what was written before stays.

## Main definitions

- `StockReceived` — the movements, layers and balances that lines of stock leave
- `TakesStock` — whether a location takes the first stock of a product
- `prepare` — what comes before the first receipt

## Main results

- `receiveAll_cases`, `receiveAll_ok_iff` — a run of receipts
- `shopCreate_cases` — a creation is refused as a whole, or written and then stocked
- `create_simulates` — the tables of the catalogue do not depend on what comes of the stock
-/

namespace Invetrixa

open Rowstore Requests MovementService ProductService Shop

/-- What a movement says of a line. -/
def StockMovement.line (m : StockMovement) :
    Id × Id × Id × StockMovementType × ℤ × ℚ :=
  (m.productId, m.locationId, m.tenantId, m.movementType, m.quantity, m.unitCost)

/-- What a layer says of a line. -/
def ValuationLayer.line (l : ValuationLayer) : Id × Id × Id × ℤ × ℤ × ℚ :=
  (l.productId, l.locationId, l.tenantId, l.originalQty, l.remainingQty, l.unitCost)

/-- The books have a movement and a layer for each line, and the balances have grown by them. -/
structure StockReceived (db : Database) (tenantId : Id) (lines : List (Id × InitialStockInput))
    (s s' : Store) : Prop where
  movements : s'.movements.rows.map (fun r => r.2.line) =
    s.movements.rows.map (fun r => r.2.line) ++ lines.map fun x =>
      (x.1, x.2.locationId, tenantId, .in, x.2.quantity, db.decimal x.2.unitCost)
  layers : s'.layers.rows.map (fun r => r.2.line) =
    s.layers.rows.map (fun r => r.2.line) ++ lines.map fun x =>
      (x.1, x.2.locationId, tenantId, x.2.quantity, x.2.quantity, db.decimal x.2.unitCost)
  balances : (∀ x ∈ lines, 0 ≤ x.2.quantity) → ∀ p l, s'.onHand p l = s.onHand p l +
    (lines.map fun x => if x.1 = p ∧ x.2.locationId = l then x.2.quantity else 0).sum
  locations : s'.locations = s.locations

/-- The tenant has the location, and it is active. -/
def ActiveAt (tenantId locationId : Id) (s : Store) : Prop :=
  ∃ location, s.locations.find? locationId = some location ∧ location.tenantId = tenantId ∧
    location.status = .active

/-- What a location takes of a product that has no stock there: the location is active, and the
columns hold the quantity and the costs of each item and what is on hand in the end. -/
structure TakesStock (db : Database) (tenantId : Id) (books : Store) (locationId : Id)
    (items : List InitialStockInput) : Prop where
  active : ActiveAt tenantId locationId books
  columns : ∀ item ∈ items, FitsInt item.quantity ∧ db.Fits 12 item.unitCost ∧
    db.Fits 14 (item.unitCost * item.quantity)
  onHand : FitsInt (items.map InitialStockInput.quantity).sum

/-- The lines of a receipt. -/
def Shop.Receipt.lines (receipt : Receipt) : List (Id × InitialStockInput) :=
  receipt.items.map fun item =>
    (receipt.productId, { item with locationId := receipt.locationId })

section Receipts

variable {db : Database} {clock : Clock} {tenantId : Id} {s s' s'' : Store}

theorem StockReceived.refl : StockReceived db tenantId [] s s where
  movements := (List.append_nil _).symm
  layers := (List.append_nil _).symm
  balances _ _ _ := (add_zero _).symm
  locations := rfl

theorem StockReceived.trans {lines lines' : List (Id × InitialStockInput)}
    (h : StockReceived db tenantId lines s s') (h' : StockReceived db tenantId lines' s' s'') :
    StockReceived db tenantId (lines ++ lines') s s'' where
  movements := by rw [h'.movements, h.movements, List.map_append, List.append_assoc]
  layers := by rw [h'.layers, h.layers, List.map_append, List.append_assoc]
  balances hnonneg p l := by
    rw [h'.balances (fun x hx => hnonneg x (List.mem_append_right _ hx)),
      h.balances (fun x hx => hnonneg x (List.mem_append_left _ hx)), List.map_append,
      List.sum_append, add_assoc]
  locations := h'.locations.trans h.locations

/-- One line is booked. -/
theorem stockReceived_recordReceipt (receipt : Receipt) (item : InitialStockInput)
    (batchId : Option Id) :
    StockReceived db tenantId [(receipt.productId, { item with locationId := receipt.locationId })] s
      (recordReceipt db clock (receivedMovement tenantId receipt.dto
        ⟨receipt.productId, item.quantity, item.unitCost, none⟩) batchId s) where
  movements := by
    show ((s.movements.create _).rows).map _ = _
    rw [Serial.create, List.map_append]
    rfl
  layers := by
    show ((s.layers.create _).rows).map _ = _
    rw [Serial.create, List.map_append]
    rfl
  balances hnonneg p l := by
    have hq : 0 ≤ item.quantity := hnonneg _ List.mem_cons_self
    refine (onHand_updateBalance (.inl hq)).trans ?_
    simp only [List.map_cons, List.map_nil, List.sum_cons, List.sum_nil, add_zero]
    rfl
  locations := rfl

variable (db clock)

theorem stockReceived_executeStockIn (receipt : Receipt) (s : Store) :
    StockReceived db tenantId receipt.lines s
      (executeStockIn db clock tenantId receipt.dto s).2 := by
  have hrun : ∀ (items : List InitialStockInput) (s : Store), StockReceived db tenantId
      (items.map fun item => (receipt.productId, { item with locationId := receipt.locationId })) s
      (items.foldl (fun s item => recordReceipt db clock (receivedMovement tenantId receipt.dto
        ⟨receipt.productId, item.quantity, item.unitCost, none⟩) none s) s) := by
    intro items
    induction items with
    | nil => exact fun s => StockReceived.refl
    | cons item rest ih =>
      exact fun s => (stockReceived_recordReceipt receipt item none).trans (ih _)
  rw [executeStockIn_eq, Receipt.dto, List.foldl_map]
  exact hrun receipt.items s

/-- A product of the tenant that is not deleted and has no variants. -/
def Stockable (tenantId productId : Id) (catalog : CatalogStore) : Prop :=
  ∃ p, catalog.products.find? productId = some p ∧ (p.tenantId = tenantId ∧ p.deletedAt = none) ∧
    p.productType ≠ .variable

variable {shop : Shop} {receipt : Receipt} {rs rs' : List Receipt}

theorem validateLocation_ok_iff {locationId : Id} :
    (∃ location, StockValidationService.validateLocation s tenantId locationId = .ok location) ↔
      ActiveAt tenantId locationId s := by
  rw [StockValidationService.validateLocation, ActiveAt]
  cases s.locations.find? locationId with
  | none =>
    refine iff_of_false ?_ ?_
    · rintro ⟨_, h⟩
      cases h
    · rintro ⟨_, h, _⟩
      cases h
  | some location =>
    by_cases hactive : location.tenantId = tenantId ∧ location.status = .active
    · simp only [if_pos hactive]
      exact iff_of_true ⟨_, rfl⟩ ⟨_, rfl, hactive⟩
    · simp only [if_neg hactive]
      refine iff_of_false ?_ ?_
      · rintro ⟨_, h⟩
        cases h
      · rintro ⟨_, h, hlocation⟩
        exact hactive (Option.some.inj h ▸ hlocation)

theorem validateProducts_ok_of_stockable (hstock : Stockable tenantId receipt.productId shop.catalog) :
    StockValidationService.validateProducts shop.store tenantId
      (receipt.dto.items.map BulkStockInItemDto.productId) = .ok () := by
  obtain ⟨p, hp, hlive, htype⟩ := hstock
  refine validateProducts_ok_iff.mpr fun i hi => ?_
  obtain ⟨item, hitem, rfl⟩ := List.mem_map.mp hi
  obtain ⟨_, _, rfl⟩ := List.mem_map.mp hitem
  refine ⟨p.toProduct, ?_, hlive, htype⟩
  show (shop.catalog.products.map CatalogProduct.toProduct).find? receipt.productId = _
  rw [Serial.toTable_map, Table.find?_map, hp, Option.map_some]

/-- A receipt leaves balances of products that have some, and of its own product. -/
theorem balancesThere_executeStockIn (tenantId : Id)
    (hproduct : receipt.productId < shop.catalog.products.next) :
    BalancesThere shop.catalog.products
      (executeStockIn db clock tenantId receipt.dto shop.store).2 := by
  have hall : ∀ (items : List BulkStockInItemDto) (s : Store),
      (∀ item ∈ items, item.productId < shop.catalog.products.next) →
      (s.balances.All fun k _ => k.1 < shop.catalog.products.next) →
      ((items.foldl (fun s item => recordReceipt db clock
        (receivedMovement tenantId receipt.dto item) item.batchId s) s).balances.All
          fun k _ => k.1 < shop.catalog.products.next) := by
    intro items
    induction items with
    | nil => exact fun s _ h => h
    | cons item rest ih =>
      intro s hitems h
      obtain ⟨hitem, hrest⟩ := List.forall_mem_cons.mp hitems
      exact ih _ hrest (h.upsert (fun _ => hitem) fun _ _ hk => hk)
  intro r hr
  rw [executeStockIn_eq] at hr
  refine hall receipt.dto.items shop.store ?_ ?_ r.1 r.2 (Table.find?_of_mem_rows hr)
  · intro item hitem
    obtain ⟨_, _, rfl⟩ := List.mem_map.mp hitem
    exact hproduct
  · exact fun k b hb => shop.balances (k, b) (Table.mem_rows_of_find? hb)

theorem Stockable.lt_next {productId : Id} {catalog : CatalogStore}
    (h : Stockable tenantId productId catalog) : productId < catalog.products.next := by
  obtain ⟨p, hp, _⟩ := h
  exact catalog.products.lt_next _ (List.mem_map_of_mem (Table.mem_rows_of_find? hp))

/-- A receipt is booked if its location is active and the columns hold what it leaves, and is
refused otherwise. -/
theorem receive_cases (hstock : Stockable tenantId receipt.productId shop.catalog) :
    ((ActiveAt tenantId receipt.locationId shop.books ∧
        receipt.dto.Fits db (executeStockIn db clock tenantId receipt.dto shop.store).2) ∧
      ∃ balances, receive db clock tenantId receipt shop = (.ok ⟨⟩,
        { shop with
          books := (executeStockIn db clock tenantId receipt.dto shop.store).2
          balances })) ∨
    (¬(ActiveAt tenantId receipt.locationId shop.books ∧
        receipt.dto.Fits db (executeStockIn db clock tenantId receipt.dto shop.store).2) ∧
      ∃ e, receive db clock tenantId receipt shop = (.error e, shop)) := by
  have hproducts := validateProducts_ok_of_stockable hstock
  rw [receive, Handler.atomically]
  cases hlocation : StockValidationService.validateLocation shop.store tenantId
      receipt.dto.locationId with
  | ok location =>
    have hactive : ActiveAt tenantId receipt.locationId shop.books :=
      validateLocation_ok_iff.mp ⟨location, hlocation⟩
    by_cases hfits : receipt.dto.Fits db (executeStockIn db clock tenantId receipt.dto shop.store).2
    · have hbalances := balancesThere_executeStockIn db clock tenantId hstock.lt_next
      refine .inl ⟨⟨hactive, hfits⟩, hbalances, transaction_of_ok ?_⟩
      simp only [MovementService.stockIn, validateStockIn, hproducts, hlocation, bind, Except.bind,
        pure, Except.pure, if_pos hfits, dif_pos hbalances]
    · refine .inr ⟨fun h => hfits h.2, _, transaction_of_error (e := valueOutOfRange) ?_⟩
      simp only [MovementService.stockIn, validateStockIn, hproducts, hlocation, bind, Except.bind,
        pure, Except.pure, if_neg hfits]
  | error e =>
    have hinactive : ¬ActiveAt tenantId receipt.locationId shop.books := by
      intro hactive
      obtain ⟨location, hok⟩ := validateLocation_ok_iff.mpr hactive
      have herror : StockValidationService.validateLocation shop.books tenantId receipt.locationId =
          .error e := hlocation
      rw [herror] at hok
      cases hok
    refine .inr ⟨fun h => hinactive h.1, e, transaction_of_error ?_⟩
    simp only [MovementService.stockIn, validateStockIn, hproducts, hlocation, bind, Except.bind]

theorem stockReceived_store (tenantId : Id) (receipt : Receipt) (shop : Shop) :
    StockReceived db tenantId receipt.lines shop.books
      (executeStockIn db clock tenantId receipt.dto shop.store).2 :=
  have h := stockReceived_executeStockIn db clock receipt shop.store
  ⟨h.movements, h.layers, h.balances, h.locations⟩

/-- The lines of several receipts. -/
def linesOf (rs : List Receipt) : List (Id × InitialStockInput) := rs.flatMap Receipt.lines

theorem receiveAll_append (rs rs' : List Receipt) (shop : Shop) :
    receiveAll db clock tenantId (rs ++ rs') shop =
      (receiveAll db clock tenantId rs >>= fun _ => receiveAll db clock tenantId rs') shop := by
  induction rs generalizing shop with
  | nil => rfl
  | cons r rest ih =>
    simp only [List.cons_append, receiveAll, bind]
    rcases receive db clock tenantId r shop with ⟨_ | _, shop'⟩
    · rfl
    · exact ih shop'

/-- Receipts are all booked, or one of them is refused. -/
theorem receiveAll_cases (rs : List Receipt) (shop : Shop)
    (hstock : ∀ r ∈ rs, Stockable tenantId r.productId shop.catalog) :
    (∃ shop', receiveAll db clock tenantId rs shop = (.ok ⟨⟩, shop') ∧
      shop'.catalog = shop.catalog ∧
      StockReceived db tenantId (linesOf rs) shop.books shop'.books) ∨
    ∃ e shop', receiveAll db clock tenantId rs shop = (.error e, shop') ∧
      shop'.catalog = shop.catalog := by
  induction rs generalizing shop with
  | nil => exact .inl ⟨shop, rfl, rfl, StockReceived.refl⟩
  | cons r rest ih =>
    obtain ⟨hfirst, hrest⟩ := List.forall_mem_cons.mp hstock
    simp only [receiveAll, bind]
    rcases receive_cases db clock hfirst with ⟨_, balances, hreceive⟩ | ⟨_, e, hreceive⟩
    · rw [hreceive]
      have hreceived := stockReceived_store db clock tenantId r shop
      rcases ih { shop with books := _, balances } hrest with
        ⟨shop', hall, hcatalog, hothers⟩ | ⟨e, shop', hall, hcatalog⟩
      · exact .inl ⟨shop', hall, hcatalog, hreceived.trans hothers⟩
      · exact .inr ⟨e, shop', hall, hcatalog⟩
    · rw [hreceive]
      exact .inr ⟨e, shop, rfl, rfl⟩

/-- Where a receipt is for. -/
def Shop.Receipt.place (receipt : Receipt) : Id × Id := (receipt.productId, receipt.locationId)

end Receipts

section Preparation

/-- The receipts of a variant, which is found by its SKU. -/
def receiptsOf (created : List (Id × CatalogProduct)) (x : VariantDto × String) : List Receipt :=
  match created.find? fun r => r.2.sku = x.2 with
  | none => []
  | some r => receipts r.1 x.1.initialStock

/-- The receipts of the variants. -/
def variantReceipts (created : List (Id × CatalogProduct)) (pairs : List (VariantDto × String)) :
    List Receipt :=
  pairs.flatMap (receiptsOf created)

/-- What a product alone writes, and the receipts that follow. -/
def prepareSimple (casing : Casing) (tenantId : Id) (dto : CreateProductDto) (sku : String)
    (s : CatalogStore) : Except HttpError ((Id × List Receipt) × CatalogStore) := do
  let slug ← SlugService.createSlug casing (s.productSlugs tenantId none) dto.slug (some dto.name)
  let (productId, s) ← commitSimple tenantId dto sku slug s
  return ((productId, receipts productId dto.initialStock), s)

/-- What a product with variants writes, and the receipts that follow. -/
def prepareVariants (casing : Casing) (tenantId : Id) (dto : CreateProductDto) (sku : String)
    (s : CatalogStore) : Except HttpError ((Id × List Receipt) × CatalogStore) := do
  let plan ← planVariants casing tenantId dto sku s
  let ((parentId, created), s) ← commitVariants tenantId dto sku plan s
  return ((parentId, variantReceipts created (dto.variants.zip plan.skus)), s)

/-- What comes before the first receipt: the checks and the transaction of the product. -/
def prepare (casing : Casing) (tenantId : Id) (dto : CreateProductDto) (s : CatalogStore) :
    Except HttpError ((Id × List Receipt) × CatalogStore) := do
  CategoryService.validateCategoryIds tenantId dto.categoryIds s
  if dto.variants ≠ [] then
    prepareVariants casing tenantId dto (newSku casing tenantId dto s) s
  else prepareSimple casing tenantId dto (newSku casing tenantId dto s) s

variable {casing : Casing} {db : Database} {clock : Clock} {tenantId : Id} {dto : CreateProductDto}
  {sku : String} {s s' : CatalogStore} {shop : Shop} {id : Id} {rs : List Receipt}

theorem createVariantStock_eq (created : List (Id × CatalogProduct))
    (pairs : List (VariantDto × String)) (shop : Shop) :
    Shop.createVariantStock db clock tenantId created pairs shop =
      receiveAll db clock tenantId (variantReceipts created pairs) shop := by
  induction pairs generalizing shop with
  | nil => rfl
  | cons x rest ih =>
    have hrest : Shop.createVariantStock db clock tenantId created rest =
        receiveAll db clock tenantId (variantReceipts created rest) := funext ih
    rw [variantReceipts, List.flatMap_cons, receiveAll_append, ← variantReceipts, ← hrest]
    rw [Shop.createVariantStock, Shop.createStockOf, receiptsOf]
    cases created.find? fun r => r.2.sku = x.2 with
    | none => rfl
    | some r => rfl

/-- A transaction that keeps the foreign keys is refused or goes through. -/
theorem commitCatalog_cases {α : Type} (f : CatalogStore → Except HttpError (α × CatalogStore))
    (shop : Shop) (hkeys : ∀ a s', f shop.catalog = .ok (a, s') →
      ParentsThere s'.products ∧ shop.catalog.products.next ≤ s'.products.next) :
    (∃ e, f shop.catalog = .error e ∧ commitCatalog f shop = (.error e, shop)) ∨
    ∃ a s' parents balances, f shop.catalog = .ok (a, s') ∧
      commitCatalog f shop = (.ok a, ⟨s', shop.books, parents, balances⟩) := by
  rw [commitCatalog, Handler.atomically]
  cases h : f shop.catalog with
  | error e =>
    refine .inl ⟨e, rfl, transaction_of_error ?_⟩
    rw [h]
    rfl
  | ok result =>
    obtain ⟨a, s'⟩ := result
    obtain ⟨hparents, hnext⟩ := hkeys a s' h
    have hbalances : BalancesThere s'.products shop.books :=
      fun r hr => (shop.balances r hr).trans_le hnext
    refine .inr ⟨a, s', hparents, hbalances, rfl, transaction_of_ok ?_⟩
    rw [h]
    exact dif_pos ⟨hparents, hbalances⟩

/-- New rows whose products are there keep the foreign keys. -/
theorem keys_foldl_create {products : Serial CatalogProduct} (h : ParentsThere products)
    {l : List CatalogProduct}
    (hl : ∀ p ∈ l, ∀ id ∈ p.parentId, id < products.next + l.length) :
    ParentsThere (l.foldl Serial.create products) ∧
      products.next ≤ (l.foldl Serial.create products).next := by
  refine ⟨fun r hr id hid => ?_, ?_⟩
  · rw [Serial.next_foldl_create]
    rcases Serial.mem_rows_foldl_create_cases hr with hold | hnew
    · exact (h r hold id hid).trans_le (Nat.le_add_right _ _)
    · exact hl r.2 hnew id hid
  · rw [Serial.next_foldl_create]
    exact Nat.le_add_right _ _

/-- What the transaction of a product alone writes. -/
theorem commitSimple_ok {slug : String} (h : commitSimple tenantId dto sku slug s = .ok (id, s')) :
    id = s.products.next ∧ s' = { s with
      products := s.products.create (productRow .simple tenantId dto sku slug)
      links := (categoryLinks dto.categoryIds id).foldl Serial.create s.links } := by
  obtain ⟨⟨id', s₁⟩, hproduct, h⟩ := Except.bind_eq_ok_iff.mp h
  obtain ⟨s₂, hlinks, h⟩ := Except.bind_eq_ok_iff.mp h
  obtain ⟨rfl, rfl⟩ := Prod.mk.inj (Except.ok.inj h)
  obtain ⟨rfl, rfl⟩ := insertProduct_ok hproduct
  exact ⟨rfl, insertLinks_ok hlinks⟩

theorem keys_commitSimple {slug : String} (h : ParentsThere s.products)
    (hcommit : commitSimple tenantId dto sku slug s = .ok (id, s')) :
    ParentsThere s'.products ∧ s.products.next ≤ s'.products.next := by
  obtain ⟨rfl, rfl⟩ := commitSimple_ok hcommit
  refine keys_foldl_create h (l := [productRow .simple tenantId dto sku slug]) ?_
  intro p hp id hid
  rw [List.mem_singleton.mp hp] at hid
  cases hid

theorem keys_commitVariants {plan : VariantPlan} {result : Id × List (Id × CatalogProduct)}
    (h : ParentsThere s.products)
    (hcommit : commitVariants tenantId dto sku plan s = .ok (result, s')) :
    ParentsThere s'.products ∧ s.products.next ≤ s'.products.next := by
  rw [(commitVariants_ok hcommit).2.2.1]
  refine keys_foldl_create h fun p hp id hid => ?_
  rcases List.mem_cons.mp hp with rfl | hp
  · cases hid
  · obtain ⟨x, _, rfl⟩ := List.mem_map.mp hp
    obtain rfl : s.products.next = id := Option.some.inj hid
    exact Nat.lt_add_of_pos_right (Nat.succ_pos _)

/-- The variants that are read back are live variants of the tenant. -/
theorem created_rows {plan : VariantPlan} {created : List (Id × CatalogProduct)}
    (hparents : ParentsThere s.products) (hfree : PlanFree tenantId dto plan s)
    (hcommit : commitVariants tenantId dto sku plan s = .ok ((id, created), s')) :
    ∀ r ∈ created, s'.products.find? r.1 = some r.2 ∧
      (r.2.tenantId = tenantId ∧ r.2.deletedAt = none) ∧ r.2.productType ≠ .variable := by
  obtain ⟨rfl, hcreated, hproducts, _⟩ := commitVariants_ok hcommit
  rw [createdVariants_eq hparents hfree hproducts] at hcreated
  intro r hr
  rw [hcreated] at hr
  obtain ⟨x, _, hx⟩ := List.mem_map.mp (mem_variantRows_of_mem_newVariants hr)
  refine ⟨Table.find?_of_mem_rows ?_, ⟨by rw [← hx]; rfl, by rw [← hx]; rfl⟩, by rw [← hx]; nofun⟩
  rw [hproducts, rows_withVariants]
  exact List.mem_append_right _ (.tail _ hr)

theorem productId_of_mem_receipts {productId : Id} {initialStock : List InitialStockInput}
    {r : Receipt} (hr : r ∈ receipts productId initialStock) : r.productId = productId := by
  obtain ⟨g, _, rfl⟩ := List.mem_map.mp hr
  rfl

/-- What is received once the rows are written can be received. -/
theorem stockable_prepare (hparents : ParentsThere s.products)
    (h : prepare casing tenantId dto s = .ok ((id, rs), s')) :
    ∀ r ∈ rs, Stockable tenantId r.productId s' := by
  intro r hr
  obtain ⟨_, _, h⟩ := Except.bind_eq_ok_iff.mp h
  split at h
  · obtain ⟨plan, hplan, h⟩ := Except.bind_eq_ok_iff.mp h
    obtain ⟨⟨⟨id', created⟩, s₁⟩, hcommit, h⟩ := Except.bind_eq_ok_iff.mp h
    obtain ⟨hresult, rfl⟩ := Prod.mk.inj (Except.ok.inj h)
    obtain ⟨rfl, rfl⟩ := Prod.mk.inj hresult
    obtain ⟨x, _, hr⟩ := List.mem_flatMap.mp hr
    rw [receiptsOf] at hr
    split at hr
    · cases hr
    · next c hc =>
      rw [productId_of_mem_receipts hr]
      exact ⟨c.2, created_rows hparents (planVariants_ok hplan) hcommit c
        (List.mem_of_find?_eq_some hc)⟩
  · obtain ⟨slug, _, h⟩ := Except.bind_eq_ok_iff.mp h
    obtain ⟨⟨id', s₁⟩, hcommit, h⟩ := Except.bind_eq_ok_iff.mp h
    obtain ⟨hresult, rfl⟩ := Prod.mk.inj (Except.ok.inj h)
    obtain ⟨rfl, rfl⟩ := Prod.mk.inj hresult
    obtain ⟨rfl, rfl⟩ := commitSimple_ok hcommit
    rw [productId_of_mem_receipts hr]
    refine ⟨productRow .simple tenantId dto (newSku casing tenantId dto s) slug, ?_, ⟨rfl, rfl⟩,
      nofun⟩
    show (s.products.create _).find? s.products.next = _
    rw [Serial.find?_create, if_pos rfl]

/-- A product alone: refused as a whole, or written and then stocked. -/
theorem createSimple_cases (casing : Casing) (db : Database) (clock : Clock) (tenantId : Id)
    (dto : CreateProductDto) (sku : String) (shop : Shop) :
    (∃ e, prepareSimple casing tenantId dto sku shop.catalog = .error e ∧
      Shop.createSimpleProduct casing db clock tenantId dto sku shop = (.error e, shop)) ∨
    ∃ id rs s' parents balances,
      prepareSimple casing tenantId dto sku shop.catalog = .ok ((id, rs), s') ∧
      Shop.createSimpleProduct casing db clock tenantId dto sku shop =
        (receiveAll db clock tenantId rs >>= fun _ => pure id : ShopHandler Id)
          ⟨s', shop.books, parents, balances⟩ := by
  cases hslug : SlugService.createSlug casing (shop.catalog.productSlugs tenantId none) dto.slug
      (some dto.name) with
  | error e =>
    refine .inl ⟨e, ?_, ?_⟩
    · rw [prepareSimple, hslug]
      rfl
    · simp only [Shop.createSimpleProduct, bind, Handler.read, hslug]
  | ok slug =>
    rcases commitCatalog_cases (commitSimple tenantId dto sku slug) shop
        (fun _ _ => keys_commitSimple shop.parents) with
      ⟨e, hrefused, hcreate⟩ | ⟨id, s', parents, balances, hcommit, hcreate⟩
    · refine .inl ⟨e, ?_, ?_⟩
      · simp only [prepareSimple, bind, Except.bind, hslug, hrefused]
      · simp only [Shop.createSimpleProduct, bind, Handler.read, hslug, hcreate]
    · refine .inr ⟨id, receipts id dto.initialStock, s', parents, balances, ?_, ?_⟩
      · simp only [prepareSimple, bind, Except.bind, hslug, hcommit]
        rfl
      · simp only [Shop.createSimpleProduct, bind, Handler.read, hslug, hcreate]
        rfl

/-- A product with variants: refused as a whole, or written and then stocked. -/
theorem createWithVariants_cases (casing : Casing) (db : Database) (clock : Clock) (tenantId : Id)
    (dto : CreateProductDto) (sku : String) (shop : Shop) :
    (∃ e, prepareVariants casing tenantId dto sku shop.catalog = .error e ∧
      Shop.createWithExplicitVariants casing db clock tenantId dto sku shop = (.error e, shop)) ∨
    ∃ id rs s' parents balances,
      prepareVariants casing tenantId dto sku shop.catalog = .ok ((id, rs), s') ∧
      Shop.createWithExplicitVariants casing db clock tenantId dto sku shop =
        (receiveAll db clock tenantId rs >>= fun _ => pure id : ShopHandler Id)
          ⟨s', shop.books, parents, balances⟩ := by
  cases hplan : planVariants casing tenantId dto sku shop.catalog with
  | error e =>
    refine .inl ⟨e, ?_, ?_⟩
    · rw [prepareVariants, hplan]
      rfl
    · simp only [Shop.createWithExplicitVariants, bind, Handler.read, hplan]
  | ok plan =>
    rcases commitCatalog_cases (commitVariants tenantId dto sku plan) shop
        (fun _ _ => keys_commitVariants shop.parents) with
      ⟨e, hrefused, hcreate⟩ | ⟨⟨id, created⟩, s', parents, balances, hcommit, hcreate⟩
    · refine .inl ⟨e, ?_, ?_⟩
      · simp only [prepareVariants, bind, Except.bind, hplan, hrefused]
      · simp only [Shop.createWithExplicitVariants, bind, Handler.read, hplan, hcreate]
    · refine .inr ⟨id, variantReceipts created (dto.variants.zip plan.skus), s', parents, balances,
        ?_, ?_⟩
      · simp only [prepareVariants, bind, Except.bind, hplan, hcommit]
        rfl
      · simp only [Shop.createWithExplicitVariants, bind, Handler.read, hplan, hcreate,
          createVariantStock_eq]

/-- A creation: refused as a whole, or written and then stocked. -/
theorem shopCreate_cases (casing : Casing) (db : Database) (clock : Clock) (tenantId : Id)
    (dto : CreateProductDto) (shop : Shop) :
    (∃ e, prepare casing tenantId dto shop.catalog = .error e ∧
      Shop.create casing db clock tenantId dto shop = (.error e, shop)) ∨
    ∃ id rs s' parents balances, prepare casing tenantId dto shop.catalog = .ok ((id, rs), s') ∧
      Shop.create casing db clock tenantId dto shop =
        (receiveAll db clock tenantId rs >>= fun _ => pure id : ShopHandler Id)
          ⟨s', shop.books, parents, balances⟩ := by
  simp only [prepare, Shop.create, bind, Except.bind, Handler.read]
  cases hvalid : CategoryService.validateCategoryIds tenantId dto.categoryIds shop.catalog with
  | error e => exact .inl ⟨e, rfl, rfl⟩
  | ok _ =>
    by_cases hvariants : dto.variants = []
    · simp only [hvariants, ne_eq, not_true, if_false]
      exact createSimple_cases casing db clock tenantId dto _ shop
    · simp only [hvariants, ne_eq, not_false_iff, if_true]
      exact createWithVariants_cases casing db clock tenantId dto _ shop

end Preparation

section Simulation

/-- The tables of the catalogue, without the stock that it has noted. -/
def CatalogStore.tables (s : CatalogStore) : CatalogStore := { s with initialStock := .empty }

variable {casing : Casing} {db : Database} {clock : Clock} {warehouse : Warehouse} {tenantId : Id}
  {dto : CreateProductDto} {sku : String} {s : CatalogStore} {productId : Id}

theorem keeps_createInitialStock (warehouse : Warehouse) (tenantId productId : Id)
    (initialStock : List InitialStockInput) :
    Handler.Keeps CatalogStore.tables
      (ProductService.createInitialStock warehouse tenantId productId initialStock) := by
  rw [ProductService.createInitialStock]
  induction (initialStock.map InitialStockInput.locationId).eraseDups with
  | nil => exact Handler.Keeps.pure _
  | cons locationId rest ih =>
    refine Handler.Keeps.bind (Handler.Keeps.atomically fun s a s' h => ?_) fun _ => ih
    obtain ⟨_, _, h⟩ := Except.bind_eq_ok_iff.mp h
    obtain ⟨_, rfl⟩ := Prod.mk.inj (Except.ok.inj h)
    rfl

theorem keeps_createVariantStock (warehouse : Warehouse) (tenantId : Id)
    (created : List (Id × CatalogProduct)) (pairs : List (VariantDto × String)) :
    Handler.Keeps CatalogStore.tables
      (ProductService.createVariantStock warehouse tenantId created pairs) := by
  induction pairs with
  | nil => exact Handler.Keeps.pure _
  | cons x rest ih =>
    refine Handler.Keeps.bind ?_ fun _ => ih
    rw [ProductService.createStockOf]
    cases created.find? fun r => r.2.sku = x.2 with
    | none => exact Handler.Keeps.pure _
    | some r => exact keeps_createInitialStock _ _ _ _

/-- What a transaction and then a handler that keeps the tables leave in them. -/
theorem tables_atomically_bind {α : Type} {f : CatalogStore → Except HttpError (α × CatalogStore)}
    {k : α → CatalogHandler Id} (hkeeps : ∀ a, Handler.Keeps CatalogStore.tables (k a)) :
    (∃ e, f s = .error e ∧ ((Handler.atomically f >>= k) s).2.tables = s.tables) ∨
      ∃ a s', f s = .ok (a, s') ∧ ((Handler.atomically f >>= k) s).2.tables = s'.tables := by
  cases h : f s with
  | error e =>
    have hrefused : Handler.atomically f s = (.error e, s) := transaction_of_error h
    refine .inl ⟨e, rfl, ?_⟩
    simp only [bind, hrefused]
  | ok result =>
    obtain ⟨a, s'⟩ := result
    have hdone : Handler.atomically f s = (.ok a, s') := transaction_of_ok h
    refine .inr ⟨a, s', rfl, ?_⟩
    simp only [bind, hdone]
    exact hkeeps a s'

/-- What a preparation leaves in the tables. -/
def preparedTables {α : Type} (s : CatalogStore) (r : Except HttpError (α × CatalogStore)) :
    CatalogStore :=
  match r with
  | .ok (_, s') => s'.tables
  | .error _ => s.tables

theorem tables_createSimpleProduct (s : CatalogStore) :
    (ProductService.createSimpleProduct casing warehouse tenantId dto sku s).2.tables =
      preparedTables s (prepareSimple casing tenantId dto sku s) := by
  cases hslug : SlugService.createSlug casing (s.productSlugs tenantId none) dto.slug
      (some dto.name) with
  | error e =>
    simp only [ProductService.createSimpleProduct, prepareSimple, bind, Except.bind, Handler.read,
      hslug, preparedTables]
  | ok slug =>
    have hcreate : ProductService.createSimpleProduct casing warehouse tenantId dto sku s =
        (Handler.atomically (commitSimple tenantId dto sku slug) >>= fun productId =>
          ProductService.createInitialStock warehouse tenantId productId dto.initialStock >>=
            fun _ => pure productId) s := by
      simp only [ProductService.createSimpleProduct, bind, Handler.read, hslug]
      rfl
    rw [hcreate]
    rcases tables_atomically_bind (s := s) (f := commitSimple tenantId dto sku slug)
        (fun productId => (keeps_createInitialStock warehouse tenantId productId
          dto.initialStock).bind fun _ => Handler.Keeps.pure productId) with
      ⟨e, hcommit, htables⟩ | ⟨id, s', hcommit, htables⟩
    · rw [htables]
      simp only [prepareSimple, bind, Except.bind, hslug, hcommit, preparedTables]
    · rw [htables]
      simp only [prepareSimple, bind, Except.bind, hslug, hcommit, preparedTables]
      rfl

theorem tables_createWithExplicitVariants (s : CatalogStore) :
    (ProductService.createWithExplicitVariants casing warehouse tenantId dto sku s).2.tables =
      preparedTables s (prepareVariants casing tenantId dto sku s) := by
  cases hplan : planVariants casing tenantId dto sku s with
  | error e =>
    simp only [ProductService.createWithExplicitVariants, prepareVariants, bind, Except.bind,
      Handler.read, hplan, preparedTables]
  | ok plan =>
    have hcreate : ProductService.createWithExplicitVariants casing warehouse tenantId dto sku s =
        (Handler.atomically (commitVariants tenantId dto sku plan) >>= fun result =>
          ProductService.createVariantStock warehouse tenantId result.2
            (dto.variants.zip plan.skus) >>= fun _ => pure result.1) s := by
      simp only [ProductService.createWithExplicitVariants, bind, Handler.read, hplan]
    rw [hcreate]
    rcases tables_atomically_bind (s := s) (f := commitVariants tenantId dto sku plan)
        (fun result => (keeps_createVariantStock warehouse tenantId result.2
          (dto.variants.zip plan.skus)).bind fun _ => Handler.Keeps.pure result.1) with
      ⟨e, hcommit, htables⟩ | ⟨result, s', hcommit, htables⟩
    · rw [htables]
      simp only [prepareVariants, bind, Except.bind, hplan, hcommit, preparedTables]
    · rw [htables]
      simp only [prepareVariants, bind, Except.bind, hplan, hcommit, preparedTables]
      rfl

theorem tables_create (casing : Casing) (warehouse : Warehouse) (tenantId : Id)
    (dto : CreateProductDto) (s : CatalogStore) :
    (ProductService.create casing warehouse tenantId dto s).2.tables =
      preparedTables s (prepare casing tenantId dto s) := by
  simp only [ProductService.create, prepare, Handler.read, bind, Except.bind]
  cases CategoryService.validateCategoryIds tenantId dto.categoryIds s with
  | error e => rfl
  | ok _ =>
    by_cases hvariants : dto.variants = []
    · simp only [hvariants, ne_eq, not_true, if_false]
      exact tables_createSimpleProduct s
    · simp only [hvariants, ne_eq, not_false_iff, if_true]
      exact tables_createWithExplicitVariants s

/-- With the stock, whatever it refuses, a creation leaves in the tables of the catalogue what it
leaves with a warehouse, whatever that answers. -/
theorem create_simulates (casing : Casing) (db : Database) (clock : Clock) (warehouse : Warehouse)
    (tenantId : Id) (dto : CreateProductDto) (shop : Shop) :
    (Shop.create casing db clock tenantId dto shop).2.catalog.tables =
      (ProductService.create casing warehouse tenantId dto shop.catalog).2.tables := by
  rw [tables_create]
  rcases shopCreate_cases casing db clock tenantId dto shop with
    ⟨e, hprepare, hcreate⟩ | ⟨id, rs, s', parents, balances, hprepare, hcreate⟩
  · rw [hcreate, hprepare]
    rfl
  · rw [hcreate, hprepare]
    simp only [bind, pure]
    rcases receiveAll_cases db clock rs ⟨s', shop.books, parents, balances⟩
        (stockable_prepare shop.parents hprepare) with
      ⟨shop', hreceive, hcatalog, _⟩ | ⟨e, shop', hreceive, hcatalog⟩
    · rw [hreceive]
      exact congrArg CatalogStore.tables hcatalog
    · rw [hreceive]
      exact congrArg CatalogStore.tables hcatalog

end Simulation

end Invetrixa
