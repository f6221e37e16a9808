import Invetrixa.Refinement.TenantViews

/-!
# Requests of other tenants, side by side

The requests that are several transactions, the sessions and the cleanup on two stores that are
alike but for the rows of one tenant; with the requests that are one transaction of a service these
are all.

## Main definitions

- `Answered` — two answers of one kind, and stores that are alike
- `Store.OwnSessions` — the sales of a tenant are on sessions of its own
- `Call.Spares` — a request takes no reservation of another tenant along with a sale of the tenant

## Main results

- `Twin.handle` — a request of another tenant is answered alike and leaves the stores alike
-/

namespace Invetrixa

open Rowstore Requests ReservationService CartService CartCleanupService SaleService

variable {db : Database} {clock : Clock} {B t : Id} {s s' : Store}

section Answers

/-- Both are refused with the same error, or both are served; the stores are alike. -/
def Answered (B : Id) {α β : Type} (x : Except HttpError α × Store)
    (y : Except HttpError β × Store) : Prop :=
  Except.Rel (fun _ _ => True) x.1 y.1 ∧ Twin B x.2 y.2

theorem Answered.cases {α β : Type} {x : Except HttpError α × Store}
    {y : Except HttpError β × Store} (h : Answered B x y) :
    (∃ e s₁ s₁', x = (.error e, s₁) ∧ y = (.error e, s₁') ∧ Twin B s₁ s₁') ∨
      ∃ a b s₁ s₁', x = (.ok a, s₁) ∧ y = (.ok b, s₁') ∧ Twin B s₁ s₁' := by
  obtain ⟨r, s₁⟩ := x
  obtain ⟨r', s₁'⟩ := y
  obtain ⟨hr, htwin⟩ := h
  cases r with
  | error e =>
    cases r' with
    | error e' =>
      obtain rfl : e = e' := hr
      exact .inl ⟨e, s₁, s₁', rfl, rfl, htwin⟩
    | ok b => exact hr.elim
  | ok a =>
    cases r' with
    | error e' => exact hr.elim
    | ok b => exact .inr ⟨a, b, s₁, s₁', rfl, rfl, htwin⟩

theorem Answered.error {α β : Type} (e : HttpError) (h : Twin B s s') :
    Answered (α := α) (β := β) B (.error e, s) (.error e, s') := ⟨rfl, h⟩

theorem Answered.answer {α β : Type} {x : Except HttpError α × Store}
    {y : Except HttpError β × Store} (h : Answered B x y) :
    Alongside (Twin B) (answer x) (answer y) := by
  obtain ⟨e, s₁, s₁', rfl, rfl, htwin⟩ | ⟨a, b, s₁, s₁', rfl, rfl, htwin⟩ := h.cases
  · exact ⟨rfl, htwin⟩
  · exact ⟨rfl, htwin⟩

theorem Answered.along {x y : Except HttpError Unit × Store} (h : Answered B x y) :
    Alongside (Twin B) x y := by
  obtain ⟨e, s₁, s₁', rfl, rfl, htwin⟩ | ⟨⟨⟩, ⟨⟩, s₁, s₁', rfl, rfl, htwin⟩ := h.cases
  · exact ⟨rfl, htwin⟩
  · exact ⟨rfl, htwin⟩

/-- A transaction on both. -/
theorem Twin.transaction {α : Type} {f f' : Store → Except HttpError (α × Store)} (h : Twin B s s')
    (hrun : Except.Rel (Served B) (f s) (f' s')) :
    Answered B (Requests.transaction f s) (Requests.transaction f' s') := by
  obtain ⟨e, hf, hf'⟩ | ⟨⟨a, s₁⟩, ⟨b, s₁'⟩, hf, hf', htwin⟩ := hrun.cases
  · rw [transaction_of_error hf, transaction_of_error hf']
    exact .error e h
  · rw [transaction_of_ok hf, transaction_of_ok hf']
    exact ⟨trivial, htwin⟩

end Answers

section Transfers

open TransferService

theorem wellFormed_createDraft (hs : WellFormed s) {dto : CreateTransferDto} {r : Id × String}
    (hvalid : CreateTransferDto.Valid dto) (hdraft : createDraft clock t dto s = .ok (r, s')) :
    WellFormed s' :=
  have hbooks : Books .exact anyBooking s s' :=
    books_createDraft (fun _ _ => trivial) (fun item hitem => hvalid.2 item hitem) hdraft
  (hbooks.keeps hs).1

theorem Twin.createTransfer (h : Twin B s s') (ht : t ≠ B) (hs : WellFormed s) (hs' : WellFormed s')
    (dto : CreateTransferDto) (hitems : CreateTransferDto.Valid dto) :
    Answered B (TransferService.create db clock t dto s)
      (TransferService.create db clock t dto s') := by
  rw [TransferService.create, TransferService.create]
  obtain ⟨e, hf, hf'⟩ | ⟨⟨⟨id, number⟩, s₁⟩, ⟨⟨id', number'⟩, s₁'⟩, hf, hf', heq, h₁⟩ :=
    (h.createDraft clock ht dto).cases
  · rw [hf, hf']
    exact .error e h
  · obtain ⟨rfl, rfl⟩ := Prod.mk.inj heq
    rw [hf, hf']
    dsimp only at h₁ ⊢
    split
    · have hs₁ : WellFormed s₁ := wellFormed_createDraft hs hitems hf
      have hs₁' : WellFormed s₁' := wellFormed_createDraft hs' hitems hf'
      obtain ⟨e, hg, hg'⟩ | ⟨⟨_, s₂⟩, ⟨_, s₂'⟩, hg, hg', h₂⟩ :=
        (h₁.ship db clock ht hs₁ hs₁' id).cases
      · rw [hg, hg']
        exact .error e h₁
      · rw [hg, hg']
        exact ⟨trivial, h₂⟩
    · exact ⟨trivial, h₁⟩

end Transfers

section Carts

variable {cartId itemId : Id} {cart : Sale} {item : SaleItem}

theorem Twin.createCart (h : Twin B s s') (hs : Consistent s) (hs' : Consistent s') (ht : t ≠ B)
    (dto : CreateCartDto) :
    Except.Rel (Served B) (createCart clock t dto s) (createCart clock t dto s') := by
  rw [CartService.createCart, h.generateSaleNumber ht]
  exact (h.insertSale hs hs' ht).mono fun _ _ hx => hx.2

theorem getCartOrThrow_eq (t cartId : Id) (s : Store) :
    getCartOrThrow t cartId s =
      ((s.sales.find? cartId).filter fun cart => cart.tenantId = t ∧ cart.status = .draft).elim
        (.error (.notFound "Cart not found")) .ok := by
  rw [elim_filter, CartService.getCartOrThrow]
  cases s.sales.find? cartId <;> rfl

theorem Alike.getCartOrThrow (h : Alike B s s') (ht : t ≠ B) (cartId : Id) :
    getCartOrThrow t cartId s = getCartOrThrow t cartId s' := by
  have hfind :
      (s.sales.find? cartId).filter (fun cart => cart.tenantId = t ∧ cart.status = .draft) =
        (s'.sales.find? cartId).filter fun cart => cart.tenantId = t ∧ cart.status = .draft :=
    h.sales.filter_find? fun cart hcart => seen_of_eq (of_decide_eq_true hcart).1 ht
  rw [getCartOrThrow_eq, getCartOrThrow_eq, hfind]

theorem Twin.recalculateCart (h : Twin B s s') (hfind : s.sales.find? cartId = some cart)
    (ht : cart.tenantId ≠ B) :
    Except.Rel (Twin B) (recalculateCart db cartId s) (recalculateCart db cartId s') := by
  unfold CartService.recalculateCart
  dsimp only
  rw [← h.itemsOf (seesSale_eq_true hfind ht), h.find?_sale hfind ht, hfind]
  refine Except.Rel.bind_eq rfl fun subtotal _ => Except.Rel.bind_eq rfl fun totalAmount _ => ?_
  exact h.updateSale hfind ht fun _ => rfl

theorem Twin.updateSaleItem (h : Twin B s s') (hitem : s.saleItems.find? itemId = some item)
    (hsee : s.seesSale B item.saleId = true) {f : SaleItem → SaleItem}
    (hf : ∀ i, (f i).saleId = i.saleId) :
    Except.Rel (fun s₁ s₁' => Twin B s₁ s₁' ∧ s₁.sales = s.sales) (updateSaleItem itemId f s)
      (updateSaleItem itemId f s') := by
  rw [CartService.updateSaleItem, CartService.updateSaleItem, hitem,
    (h.saleItems.find?_iff hsee).mp hitem]
  refine ⟨?_, rfl⟩
  exact
    { h with
      saleItems := h.saleItems.modify fun i => by
        show s.seesSale B (f i).saleId = s.seesSale B i.saleId
        rw [hf]
      ids := h.ids }

theorem Twin.deleteSaleItem (h : Twin B s s') (hitem : s.saleItems.find? itemId = some item)
    (hsee : s.seesSale B item.saleId = true) :
    Except.Rel (fun s₁ s₁' => Twin B s₁ s₁' ∧ s₁.sales = s.sales) (deleteSaleItem itemId s)
      (deleteSaleItem itemId s') := by
  rw [CartService.deleteSaleItem, CartService.deleteSaleItem, hitem,
    (h.saleItems.find?_iff hsee).mp hitem]
  refine ⟨?_, rfl⟩
  exact
    { h with
      saleItems := h.saleItems.deleteWhere fun _ _ _ => rfl
      ids := h.ids }

theorem Twin.createSaleItem (h : Twin B s s') (hfind : s.sales.find? item.saleId = some cart)
    (ht : cart.tenantId ≠ B) :
    Except.Rel (fun s₁ s₁' => Twin B s₁ s₁' ∧ s₁.sales = s.sales) (createSaleItem item s)
      (createSaleItem item s') := by
  rw [CartService.createSaleItem, CartService.createSaleItem, hfind, h.find?_sale hfind ht]
  refine ⟨?_, rfl⟩
  exact
    { h with
      saleItems := Serial.agreeOn_create_both h.saleItems (congrArg Ids.saleItems h.ids) item
      ids := congrArg (fun ids : Ids => { ids with saleItems := ids.saleItems + 1 }) h.ids }

/-- A write of an item and the totals of its cart. -/
theorem Twin.writeItem {write write' : Except HttpError Store}
    (hfind : s.sales.find? cartId = some cart) (ht : cart.tenantId ≠ B)
    (hwrite : Except.Rel (fun s₁ s₁' => Twin B s₁ s₁' ∧ s₁.sales = s.sales) write write') :
    Except.Rel (Served B)
      (do let s ← write; let s ← CartService.recalculateCart db cartId s; return ((), s))
      (do let s ← write'; let s ← CartService.recalculateCart db cartId s; return ((), s)) := by
  refine hwrite.bind fun s₁ s₁' h₁ => ?_
  refine (h₁.1.recalculateCart (by rw [h₁.2, hfind]) ht).bind fun s₂ s₂' h₂ => ?_
  exact h₂

/-- The reservations of a cart that is seen. -/
theorem Alike.cartReservations (h : Alike B s s') (ht : t ≠ B) (cartId productId : Id) :
    CartService.cartReservations t cartId productId s =
      CartService.cartReservations t cartId productId s' := by
  rw [CartService.cartReservations, CartService.cartReservations,
    h.reservations.filter fun r hr => ?_]
  obtain ⟨_, htenant, _⟩ := of_decide_eq_true hr
  exact seen_of_eq htenant ht

theorem wellFormed_release (hs : WellFormed s) {id : Id}
    (hrelease : release t id s = .ok ((), s')) : WellFormed s' :=
  have hbooks : Books .exact anyBooking s s' := books_release hs hrelease
  (hbooks.keeps hs).1

theorem Twin.releaseEach (h : Twin B s s') (hs : WellFormed s) (hs' : WellFormed s') (ht : t ≠ B)
    (ids : List Id) : Answered B (releaseEach t ids s) (releaseEach t ids s') := by
  induction ids generalizing s s' with
  | nil => exact ⟨trivial, h⟩
  | cons id rest ih =>
    rw [CartService.releaseEach, CartService.releaseEach]
    obtain ⟨e, hf, hf'⟩ | ⟨⟨⟨⟩, s₁⟩, ⟨⟨⟩, s₁'⟩, hf, hf', h₁⟩ := (h.release hs ht id).cases
    · rw [transaction_of_error hf, transaction_of_error hf']
      exact .error e h
    · rw [transaction_of_ok hf, transaction_of_ok hf']
      exact ih h₁ (wellFormed_release hs hf) (wellFormed_release hs' hf')

/-- What the last transaction of an edit finds of the cart. -/
theorem Twin.commitAddItem (h : Twin B s s') (hfind : s.sales.find? cartId = some cart)
    (ht : cart.tenantId ≠ B) (dto : AddCartItemDto) (product : Product) :
    Except.Rel (Served B)
      (CartService.commitAddItem db cartId dto product
        (findExistingItem cartId dto.productId s) s)
      (CartService.commitAddItem db cartId dto product
        (findExistingItem cartId dto.productId s') s') := by
  have hsee := seesSale_eq_true hfind ht
  have hexisting : findExistingItem cartId dto.productId s =
      findExistingItem cartId dto.productId s' := by
    rw [findExistingItem, findExistingItem, h.itemsOf hsee]
  rw [← hexisting]
  simp only [CartService.commitAddItem]
  cases hitem : findExistingItem cartId dto.productId s with
  | some r =>
    obtain ⟨itemId, item⟩ := r
    obtain ⟨hitem, hsale⟩ := mem_itemsOf (List.mem_of_find?_eq_some hitem)
    refine Except.Rel.bind_eq rfl fun quantity _ => Except.Rel.bind_eq rfl fun lineTotal _ => ?_
    exact Twin.writeItem hfind ht (h.updateSaleItem hitem (hsale ▸ hsee) fun _ => rfl)
  | none =>
    refine Except.Rel.bind_eq rfl fun quantity _ => Except.Rel.bind_eq rfl fun unitPrice _ => ?_
    refine Except.Rel.bind_eq rfl fun discount _ => Except.Rel.bind_eq rfl fun lineTotal _ => ?_
    refine Except.Rel.bind_eq rfl fun notes _ => ?_
    exact Twin.writeItem hfind ht (h.createSaleItem hfind ht)

theorem Twin.addItem (h : Twin B s s') (ht : t ≠ B) (dto : AddCartItemDto) :
    Answered B (CartService.addItem db clock t cartId dto s)
      (CartService.addItem db clock t cartId dto s') := by
  rw [CartService.addItem, CartService.addItem]
  have hread : readAddItem t cartId dto s = readAddItem t cartId dto s' := by
    rw [readAddItem, readAddItem, h.getCartOrThrow ht, h.loadedProduct]
  rw [← hread]
  cases hread : readAddItem t cartId dto s with
  | error e => exact .error e h
  | ok x =>
    obtain ⟨cart, product⟩ := x
    obtain ⟨⟨hfind, rfl, _⟩, _⟩ := readAddItem_ok hread
    dsimp only
    obtain ⟨e, hf, hf'⟩ | ⟨⟨id, s₁⟩, ⟨id', s₁'⟩, hf, hf', h₁⟩ := (h.createReservation
      clock ht (cartReservation clock cartId cart.locationId dto.productId
        dto.quantity)).cases
    · rw [transaction_of_error hf, transaction_of_error hf']
      exact .error e h
    · rw [transaction_of_ok hf, transaction_of_ok hf']
      refine Twin.transaction h₁ (Twin.commitAddItem h₁ ?_ ht dto product)
      obtain ⟨_, _, rfl⟩ := createReservation_ok hf
      exact hfind

theorem findItem_eq (cartId itemId : Id) (message : String) (s : Store) :
    findItem cartId itemId message s =
      ((s.saleItems.find? itemId).filter fun i => i.saleId = cartId).elim
        (.error (.notFound message)) .ok := by
  rw [elim_filter, CartService.findItem]
  cases s.saleItems.find? itemId <;> rfl

/-- An item that a tenant finds in its cart. -/
theorem Alike.findItem (h : Alike B s s') (hsee : s.seesSale B cartId = true) (message : String) :
    findItem cartId itemId message s = findItem cartId itemId message s' := by
  have hfind : (s.saleItems.find? itemId).filter (fun i => i.saleId = cartId) =
      (s'.saleItems.find? itemId).filter fun i => i.saleId = cartId := by
    refine h.saleItems.filter_find? fun i hi => ?_
    rw [of_decide_eq_true hi]
    exact hsee
  rw [findItem_eq, findItem_eq, hfind]

/-- The releases of the reservations of a cart leave the sales and their items. -/
theorem releaseEach_ok (hs : WellFormed s) {ids : List Id}
    (h : releaseEach t ids s = (.ok (), s')) :
    s'.sales = s.sales ∧ s'.saleItems = s.saleItems := by
  have hbooks : Books .exact anyBooking s (releaseEach t ids s).2 ∧
      (releaseEach t ids s).2.sales = s.sales ∧
      (releaseEach t ids s).2.saleItems = s.saleItems := books_releaseEach hs ids
  obtain ⟨_, hsales, hitems⟩ := hbooks
  rw [h] at hsales hitems
  exact ⟨hsales, hitems⟩

theorem Twin.updateItem (h : Twin B s s') (hs : WellFormed s) (hs' : WellFormed s') (ht : t ≠ B)
    (dto : UpdateCartItemDto) :
    Answered B (CartService.updateItem db clock t cartId itemId dto s)
      (CartService.updateItem db clock t cartId itemId dto s') := by
  rw [CartService.updateItem, CartService.updateItem]
  have hread : readUpdateItem t cartId itemId s = readUpdateItem t cartId itemId s' := by
    unfold readUpdateItem
    refine Except.bind_congr_ok (h.getCartOrThrow ht cartId) fun cart hcart => ?_
    obtain ⟨hfind, rfl, _⟩ := getCartOrThrow_ok hcart
    rw [h.findItem (seesSale_eq_true hfind ht)]
  rw [← hread]
  cases hread : readUpdateItem t cartId itemId s with
  | error e => exact .error e h
  | ok x =>
    obtain ⟨cart', hcart, hread⟩ := Except.bind_eq_ok_iff.mp hread
    obtain ⟨item', hitem, hread⟩ := Except.bind_eq_ok_iff.mp hread
    obtain rfl := Except.ok.inj hread
    obtain ⟨hfind, rfl, _⟩ := getCartOrThrow_ok hcart
    obtain ⟨hitem, hsale⟩ := findItem_ok hitem
    dsimp only
    rw [CartService.releaseReservations, CartService.releaseReservations, ← h.cartReservations ht]
    obtain ⟨e, s₁, s₁', hf, hf', h₁⟩ | ⟨⟨⟩, ⟨⟩, s₁, s₁', hf, hf', h₁⟩ :=
      (h.releaseEach hs hs' ht
        (CartService.cartReservations cart'.tenantId cartId item'.productId s)).cases
    · rw [hf, hf']
      exact .error e h₁
    · obtain ⟨hsales, hitems⟩ := releaseEach_ok hs hf
      rw [hf, hf']
      dsimp only
      obtain ⟨e, hg, hg'⟩ | ⟨⟨id, s₂⟩, ⟨id', s₂'⟩, hg, hg', h₂⟩ := (h₁.createReservation
        clock ht (cartReservation clock cartId cart'.locationId item'.productId
          dto.quantity)).cases
      · rw [transaction_of_error hg, transaction_of_error hg']
        exact .error e h₁
      · rw [transaction_of_ok hg, transaction_of_ok hg']
        obtain ⟨_, _, rfl⟩ := createReservation_ok hg
        have hfind₂ : s₁.sales.find? cartId = some cart' := by rw [hsales, hfind]
        refine Twin.transaction h₂ (Except.Rel.bind_eq rfl fun quantity _ => ?_)
        refine Except.Rel.bind_eq rfl fun unitPrice _ => ?_
        refine Except.Rel.bind_eq rfl fun discount _ => Except.Rel.bind_eq rfl fun lineTotal _ => ?_
        refine Except.Rel.bind_eq rfl fun notes _ => ?_
        have hitem₂ : s₁.saleItems.find? itemId = some item' := by rw [hitems, hitem]
        refine Twin.writeItem hfind₂ ht (Twin.updateSaleItem h₂ hitem₂ ?_ fun _ => rfl)
        rw [hsale]
        exact seesSale_eq_true hfind₂ ht

theorem Twin.removeItem (h : Twin B s s') (hs : WellFormed s) (hs' : WellFormed s') (ht : t ≠ B) :
    Answered B (CartService.removeItem db t cartId itemId s)
      (CartService.removeItem db t cartId itemId s') := by
  rw [CartService.removeItem, CartService.removeItem]
  have hread : readRemoveItem t cartId itemId s = readRemoveItem t cartId itemId s' := by
    unfold readRemoveItem
    refine Except.bind_congr_ok (h.getCartOrThrow ht cartId) fun cart hcart => ?_
    obtain ⟨hfind, rfl, _⟩ := getCartOrThrow_ok hcart
    rw [h.findItem (seesSale_eq_true hfind ht)]
  rw [← hread]
  cases hread : readRemoveItem t cartId itemId s with
  | error e => exact .error e h
  | ok item =>
    obtain ⟨cart, hcart, hitem⟩ := Except.bind_eq_ok_iff.mp hread
    obtain ⟨hfind, rfl, _⟩ := getCartOrThrow_ok hcart
    obtain ⟨hitem, hsale⟩ := findItem_ok hitem
    dsimp only
    rw [CartService.releaseReservations, CartService.releaseReservations, ← h.cartReservations ht]
    obtain ⟨e, s₁, s₁', hf, hf', h₁⟩ | ⟨⟨⟩, ⟨⟩, s₁, s₁', hf, hf', h₁⟩ :=
      (h.releaseEach hs hs' ht
        (CartService.cartReservations cart.tenantId cartId item.productId s)).cases
    · rw [hf, hf']
      exact .error e h₁
    · obtain ⟨hsales, hitems⟩ := releaseEach_ok hs hf
      rw [hf, hf']
      have hfind₁ : s₁.sales.find? cartId = some cart := by rw [hsales, hfind]
      refine Twin.transaction h₁ ?_
      have hitem₁ : s₁.saleItems.find? itemId = some item := by rw [hitems, hitem]
      refine Twin.writeItem hfind₁ ht (Twin.deleteSaleItem h₁ hitem₁ ?_)
      rw [hsale]
      exact seesSale_eq_true hfind₁ ht

end Carts

section Cleanup

variable {cartIds cartIds' : List Id} {id : Id}

/-- Every active reservation that is made for the sale is the tenant's. -/
def Store.Spares (s : Store) (B saleId : Id) : Prop :=
  ∀ r ∈ s.reservations.rows, isReservationOf saleId r.2 = true → r.2.tenantId = B

instance (s : Store) (B saleId : Id) : Decidable (s.Spares B saleId) :=
  inferInstanceAs (Decidable (∀ r ∈ s.reservations.rows, _))

/-- The abandoned carts of the tenant take no reservations of others with them. -/
def Store.SparesCarts (s : Store) (clock : Clock) (B : Id) : Prop :=
  ∀ id ∈ abandonedCarts clock s, s.seesSale B id = false → s.Spares B id

instance (s : Store) (clock : Clock) (B : Id) : Decidable (s.SparesCarts clock B) :=
  inferInstanceAs (Decidable (∀ id ∈ abandonedCarts clock s, _))

/-- The reservations that expire with the carts. -/
def expiring (cartIds : List Id) (s : Store) : List StockReservation :=
  (s.reservations.rows.filter fun r => isCartReservation cartIds r.2).map Prod.snd

/-- What a run of the job leaves of a store. -/
structure Cleaned (cartIds : List Id) (s s₁ : Store) : Prop where
  others : s₁ = { s with
    reservations := s₁.reservations
    balances := s₁.balances
    sales := s₁.sales
    saleItems := s₁.saleItems
    salePayments := s₁.salePayments }
  reservations : s₁.reservations.toTable =
    s.reservations.toTable.modifyWhere (fun _ r => isCartReservation cartIds r)
      fun r => { r with status := .expired }
  balances : ∀ p l, s₁.balances.find? (p, l) = (s.balances.find? (p, l)).map fun b =>
    { b with reservedQuantity := b.reservedQuantity - heldAt (expiring cartIds s) p l }
  sales : s₁.sales.toTable = s.sales.toTable.deleteWhere fun id _ => id ∈ cartIds
  saleItems : s₁.saleItems.toTable = s.saleItems.toTable.deleteWhere fun _ i => i.saleId ∈ cartIds
  salePayments :
    s₁.salePayments.toTable = s.salePayments.toTable.deleteWhere fun _ p => p.saleId ∈ cartIds
  ids : s₁.ids = s.ids

theorem deleteWhere_nil {κ ρ : Type} (t : Table κ ρ) (f : κ → ρ → Id) :
    t.deleteWhere (fun k r => decide (f k r ∈ ([] : List Id))) = t := by
  cases t
  simp [Table.deleteWhere]

/-- The job succeeds, as no refund is of a cart. -/
theorem cleaned_cleanup (clock : Clock) (hs : WellFormed s) (hrefunds : s.pos.RefundsSound) :
    ∃ r s₁, cleanupAbandonedCarts clock s = .ok (r, s₁) ∧
      Cleaned (abandonedCarts clock s) s s₁ := by
  by_cases hnone : (abandonedCarts clock s).length = 0
  · have hread : readCleanup clock s = none := if_pos hnone
    refine ⟨⟨0, 0⟩, s, by rw [cleanupAbandonedCarts, hread], ?_⟩
    rw [List.length_eq_zero_iff.mp hnone]
    constructor
    · rfl
    · simp [Table.modifyWhere, isCartReservation]
    · intro p l
      simp [expiring, isCartReservation, heldAt]
    · exact (deleteWhere_nil s.sales.toTable fun id _ => id).symm
    · exact (deleteWhere_nil s.saleItems.toTable fun _ i => i.saleId).symm
    · exact (deleteWhere_nil s.salePayments.toTable fun _ p => p.saleId).symm
    · rfl
  · have hread : readCleanup clock s =
        some ⟨abandonedCarts clock s, expiring (abandonedCarts clock s) s⟩ := if_neg hnone
    -- A refund is of a sale that is not a cart any more, so the foreign key does not stand in the
    -- way.
    have hkept : ¬(s.saleRefunds.rows.any fun r => r.2.saleId ∈ abandonedCarts clock s) := by
      intro hany
      obtain ⟨r, hr, hmem⟩ := List.any_eq_true.mp hany
      obtain ⟨sale, hfind, hstatus⟩ := hrefunds r.1 r.2 (Table.find?_of_mem_rows hr)
      obtain ⟨x, hx, hid⟩ := List.mem_map.mp (of_decide_eq_true hmem)
      obtain ⟨hx, hdraft, _⟩ := List.mem_filter.mp hx |>.imp_right of_decide_eq_true
      have hfind' := Table.find?_of_mem_rows hx
      rw [hid] at hfind'
      obtain rfl := Option.some.inj (hfind.symm.trans hfind')
      rw [hdraft] at hstatus
      exact absurd hstatus (by decide)
    have hrelease := releaseReservedQuantities_eq (expiring (abandonedCarts clock s) s)
      (expireReservations (abandonedCarts clock s) s)
    have htenants := expireCarts_tenants hs
      (show Booking.Guard s (.expireCarts ⟨abandonedCarts clock s, expiring _ s⟩) from rfl)
    let cartIds := abandonedCarts clock s
    refine ⟨⟨cartIds.length, (s.reservations.rows.filter fun r =>
      isCartReservation cartIds r.2).length⟩,
      { s with
        reservations := (expireReservations cartIds s).reservations
        balances := (releaseReservedQuantities (expiring cartIds s)
          (expireReservations cartIds s)).balances
        saleItems := s.saleItems.deleteWhere fun _ i => i.saleId ∈ cartIds
        sales := s.sales.deleteWhere fun id _ => id ∈ cartIds
        salePayments := s.salePayments.deleteWhere fun _ p => p.saleId ∈ cartIds }, ?_, ?_⟩
    · rw [cleanupAbandonedCarts, hread]
      show (deleteCarts cartIds (releaseReservedQuantities (expiring cartIds s)
        (expireReservations cartIds s)) >>= fun s => _) = _
      rw [hrelease]
      exact congrArg (· >>= _) (if_neg hkept)
    · exact
        { others := rfl
          reservations := rfl
          balances := fun p l => find?_releaseReservedQuantities _ _ htenants
          sales := rfl
          saleItems := rfl
          salePayments := rfl
          ids := rfl }

/-- A cart that is deleted is not seen any more; other sales are seen as before. -/
theorem Cleaned.seesSale (h : Cleaned cartIds s s') (B id : Id) :
    s'.seesSale B id = (s.seesSale B id && decide (id ∉ cartIds)) := by
  have hfind : s'.sales.find? id = (s.sales.find? id).filter fun _ => !decide (id ∈ cartIds) := by
    rw [h.sales, Table.find?_deleteWhere]
  rw [Store.seesSale, Store.seesSale, hfind]
  cases s.sales.find? id with
  | none => rfl
  | some sale => by_cases hmem : id ∈ cartIds <;> simp [hmem]

/-- The reservations of others that expire are for carts of others. -/
theorem isCartReservation_eq
    (hspare : ∀ id ∈ cartIds, s.seesSale B id = false → s.Spares B id)
    (hspare' : ∀ id ∈ cartIds', s'.seesSale B id = false → s'.Spares B id)
    (hcarts : ∀ id, s.seesSale B id = true → (id ∈ cartIds ↔ id ∈ cartIds'))
    (hsee : s.seesSale B = s'.seesSale B) {k : Id} {r : StockReservation}
    (hr : s.reservations.find? k = some r) (hr' : s'.reservations.find? k = some r)
    (ht : r.tenantId ≠ B) : isCartReservation cartIds r = isCartReservation cartIds' r := by
  rw [Bool.eq_iff_iff, isCartReservation, isCartReservation]
  simp only [List.any_eq_true]
  refine exists_congr fun id => and_congr_left fun hof => ?_
  cases hseen : s.seesSale B id with
  | true => exact hcarts id hseen
  | false =>
    refine iff_of_false (fun hmem => ht ?_) fun hmem => ht ?_
    · exact hspare id hmem hseen (k, r) (Table.mem_rows_of_find? hr) hof
    · exact hspare' id hmem (hsee ▸ hseen) (k, r) (Table.mem_rows_of_find? hr') hof

theorem seesSale_iff : s.seesSale B id = true ↔
    ∃ sale, s.sales.find? id = some sale ∧ sale.tenantId ≠ B := by
  rw [Store.seesSale, Option.any_eq_true]
  simp only [decide_eq_true_eq]

theorem mem_abandonedCarts_iff : id ∈ abandonedCarts clock s ↔
    ∃ sale, s.sales.find? id = some sale ∧ sale.status = .draft ∧
      sale.createdAt + CART_MAX_AGE_HOURS * 60 * 60 * 1000 < clock.time := by
  rw [abandonedCarts]
  simp only [List.mem_map, List.mem_filter, decide_eq_true_eq]
  constructor
  · rintro ⟨r, ⟨hr, hold⟩, rfl⟩
    exact ⟨r.2, Table.find?_of_mem_rows hr, hold⟩
  · rintro ⟨sale, hfind, hold⟩
    exact ⟨(id, sale), ⟨Table.mem_rows_of_find? hfind, hold⟩, rfl⟩

/-- A sale that is seen is an abandoned cart on both sides or on neither. -/
theorem Alike.mem_abandonedCarts (h : Alike B s s') (hsee : s.seesSale B id = true) :
    id ∈ abandonedCarts clock s ↔ id ∈ abandonedCarts clock s' := by
  obtain ⟨sale, hfind, ht⟩ := seesSale_iff.mp hsee
  rw [mem_abandonedCarts_iff, mem_abandonedCarts_iff, hfind, h.find?_sale hfind ht]

/-- At a place of another tenant the same quantity expires. -/
theorem heldAt_expiring (h : Alike B s s') (hs : WellFormed s) (hs' : WellFormed s') {p l : Id}
    (hp : s.tenantOf p ≠ some B)
    (hexpire : ∀ k r, s.reservations.find? k = some r → r.tenantId ≠ B →
      isCartReservation cartIds r = isCartReservation cartIds' r) :
    heldAt (expiring cartIds s) p l = heldAt (expiring cartIds' s') p l := by
  rw [expiring, expiring, heldAt_filter, heldAt_filter]
  -- The tenant reserves none of the product.
  have hzero {s : Store} (hs : WellFormed s) (hp : s.tenantOf p ≠ some B) (cartIds : List Id) :
      ∀ k r, s.reservations.find? k = some r → decide (r.tenantId ≠ B) = false →
        (if isCartReservation cartIds r then
          if r.productId = p ∧ r.locationId = l then r.quantity else 0 else 0) = 0 := by
    intro k r hr ht
    have howner := (hs.reservations k r hr).1
    have hother : ¬(r.productId = p ∧ r.locationId = l) := by
      rintro ⟨rfl, _⟩
      rw [howner] at hp
      exact hp (congrArg some (not_not.mp (of_decide_eq_false ht)))
    rw [if_neg hother, ite_self]
  have hsum := h.reservations.sum (hzero hs hp cartIds) (hzero hs' (h.tenantOf ▸ hp) cartIds)
  rw [hsum]
  refine Table.sum_congr fun k r hr => ?_
  by_cases ht : r.tenantId = B
  · have hinvisible : decide (r.tenantId ≠ B) = false := by simp [ht]
    rw [hzero hs' (h.tenantOf ▸ hp) cartIds k r hr hinvisible,
      hzero hs' (h.tenantOf ▸ hp) cartIds' k r hr hinvisible]
  · rw [hexpire k r ((h.reservations.find?_iff (by simpa using ht)).mpr hr) ht]

theorem Alike.cleaned (h : Alike B s s') (hs : WellFormed s) (hs' : WellFormed s')
    (hspare : s.SparesCarts clock B) (hspare' : s'.SparesCarts clock B) {s₁ s₁' : Store}
    (hcleaned : Cleaned (abandonedCarts clock s) s s₁)
    (hcleaned' : Cleaned (abandonedCarts clock s') s' s₁') : Alike B s₁ s₁' := by
  set cartIds := abandonedCarts clock s with hcarts
  set cartIds' := abandonedCarts clock s' with hcarts'
  have hsame : ∀ id, s.seesSale B id = true → (id ∈ cartIds ↔ id ∈ cartIds') :=
    fun id hsee => h.mem_abandonedCarts hsee
  -- Of the reservations that are seen, the same expire.
  have hexpire : ∀ k r, s.reservations.find? k = some r → r.tenantId ≠ B →
      isCartReservation cartIds r = isCartReservation cartIds' r := by
    intro k r hr ht
    refine isCartReservation_eq hspare hspare' hsame h.seesSale hr ?_ ht
    exact (h.reservations.find?_iff (by simpa using ht)).mp hr
  have hkept : ∀ id, s.seesSale B id = true → decide (id ∈ cartIds) = decide (id ∈ cartIds') :=
    fun id hsee => decide_eq_decide.mpr (hsame id hsee)
  have hsales : Table.AgreeOn (fun sale => sale.tenantId ≠ B) s₁.sales.toTable
      s₁'.sales.toTable := by
    rw [hcleaned.sales, hcleaned'.sales]
    refine h.sales.deleteWhere fun r hr ht => hkept r.1 ?_
    exact seesSale_eq_true (Table.find?_of_mem_rows hr) (of_decide_eq_true ht)
  have hsees : s₁.seesSale B = s₁'.seesSale B := by
    funext id
    exact hsales.any_find? fun _ hsale => hsale
  -- Rows of sales that are kept are seen as before.
  have hrows {ρ : Type} {t t' : Table ℕ ρ} (saleId : ρ → Id)
      (hagree : Table.AgreeOn (fun r => s.seesSale B (saleId r)) t t') :
      Table.AgreeOn (fun r => s₁.seesSale B (saleId r))
        (t.deleteWhere fun _ r => saleId r ∈ cartIds)
        (t'.deleteWhere fun _ r => saleId r ∈ cartIds') := by
    refine (hagree.deleteWhere fun r _ hsee => hkept _ hsee).congr_pred ?_ ?_
    · intro r hr
      rw [hcleaned.seesSale]
      have hmem := (List.mem_filter.mp hr).2
      simp only [Bool.not_eq_true', decide_eq_false_iff_not] at hmem
      rw [decide_eq_true hmem, Bool.and_true]
    · intro r hr
      rw [hsees, hcleaned'.seesSale, h.seesSale]
      have hmem := (List.mem_filter.mp hr).2
      simp only [Bool.not_eq_true', decide_eq_false_iff_not] at hmem
      rw [decide_eq_true hmem, Bool.and_true]
  have ho := hcleaned.others
  have ho' := hcleaned'.others
  exact
    { tenants := by rw [ho, ho']; exact h.tenants
      products := by rw [ho, ho']; exact h.products
      locations := by rw [ho, ho']; exact h.locations
      terminals := by rw [ho, ho']; exact h.terminals
      customers := by rw [ho, ho']; exact h.customers
      sessions := by rw [ho, ho']; exact h.sessions
      layers := by rw [ho, ho']; exact h.layers
      transfers := by rw [ho, ho']; exact h.transfers
      saleRefunds := by rw [ho, ho']; exact h.saleRefunds
      sales := hsales
      saleItems := by
        rw [hcleaned.saleItems, hcleaned'.saleItems]
        exact hrows SaleItem.saleId h.saleItems
      salePayments := by
        rw [hcleaned.salePayments, hcleaned'.salePayments]
        exact hrows SalePayment.saleId h.salePayments
      reservations := by
        rw [hcleaned.reservations, hcleaned'.reservations]
        refine h.reservations.modifyWhere (fun _ => rfl) (fun _ => rfl)
          fun r hr ht => ⟨?_, fun _ => rfl⟩
        exact hexpire r.1 r.2 (Table.find?_of_mem_rows hr) (of_decide_eq_true ht)
      balances := by
        intro p l hp
        have hp' : s.tenantOf p ≠ some B := by
          have htenantOf : s₁.tenantOf = s.tenantOf := by rw [ho]; rfl
          rwa [htenantOf] at hp
        rw [hcleaned.balances, hcleaned'.balances, h.balances p l hp',
          heldAt_expiring h hs hs' hp' hexpire] }

theorem Twin.cleanup (h : Twin B s s') (hs : Consistent s) (hs' : Consistent s')
    (hspare : s.SparesCarts clock B) (hspare' : s'.SparesCarts clock B) :
    Except.Rel (Served B) (cleanupAbandonedCarts clock s) (cleanupAbandonedCarts clock s') := by
  obtain ⟨r, s₁, hok, hcleaned⟩ := cleaned_cleanup clock hs.toWellFormed hs.refunds
  obtain ⟨r', s₁', hok', hcleaned'⟩ := cleaned_cleanup clock hs'.toWellFormed hs'.refunds
  rw [hok, hok']
  exact
    { h.cleaned hs.toWellFormed hs'.toWellFormed hspare hspare' hcleaned hcleaned' with
      ids := by rw [hcleaned.ids, hcleaned'.ids, h.ids] }

end Cleanup

section Sessions

open SessionService

variable {sessionId : Id} {session : POSSession}

theorem maskSession_of_ne (ht : session.tenantId ≠ B) : maskSession B session = session :=
  if_neg ht

/-- What is read of a session is not masked. -/
@[simp] theorem maskSession_tenantId : (maskSession B session).tenantId = session.tenantId := by
  rw [maskSession]
  split <;> rfl

@[simp] theorem maskSession_terminalId :
    (maskSession B session).terminalId = session.terminalId := by
  rw [maskSession]
  split <;> rfl

@[simp] theorem maskSession_status : (maskSession B session).status = session.status := by
  rw [maskSession]
  split <;> rfl

@[simp] theorem maskSession_sessionNumber :
    (maskSession B session).sessionNumber = session.sessionNumber := by
  rw [maskSession]
  split <;> rfl

@[simp] theorem maskSession_openingBalance :
    (maskSession B session).openingBalance = session.openingBalance := by
  rw [maskSession]
  split <;> rfl

/-- A selection of sessions by what is not masked. -/
theorem Alike.filter_sessions (h : Alike B s s') {q : POSSession → Bool}
    (hq : ∀ session, q (maskSession B session) = q session) :
    ((s.sessions.rows.filter fun r => q r.2).map fun r => (r.1, maskSession B r.2)) =
      (s'.sessions.rows.filter fun r => q r.2).map fun r => (r.1, maskSession B r.2) := by
  have hmasked (s : Store) : ((s.sessions.rows.filter fun r => q r.2).map fun r =>
      (r.1, maskSession B r.2)) = (s.maskedSessions B).filter fun r => q r.2 := by
    rw [Store.maskedSessions, List.filter_map]
    congr 2
    funext r
    exact (hq r.2).symm
  rw [hmasked, hmasked, h.sessions]

/-- A masked session. -/
theorem Alike.find?_session (h : Alike B s s') (id : Id) :
    (s.sessions.find? id).map (maskSession B) = (s'.sessions.find? id).map (maskSession B) := by
  have hmasked (s : Store) : (s.sessions.find? id).map (maskSession B) =
      ((s.maskedSessions B).find? fun r => r.1 = id).map Prod.snd := by
    rw [Store.maskedSessions, List.find?_map, Option.map_map]
    show ((s.sessions.rows.find? _).map Prod.snd).map _ = _
    rw [Option.map_map]
    rfl
  rw [hmasked, hmasked, h.sessions]

theorem Alike.readOpen (h : Alike B s s') (dto : OpenSessionDto) :
    SessionService.readOpen t dto s = SessionService.readOpen t dto s' := by
  have hopen : (s.sessions.rows.find? fun r =>
      r.2.terminalId = dto.terminalId ∧ r.2.status = .open).map (fun r => r.2.sessionNumber) =
      (s'.sessions.rows.find? fun r =>
        r.2.terminalId = dto.terminalId ∧ r.2.status = .open).map fun r => r.2.sessionNumber := by
    have hmasked (s : Store) : (s.sessions.rows.find? fun r =>
        r.2.terminalId = dto.terminalId ∧ r.2.status = .open).map (fun r => r.2.sessionNumber) =
        ((s.maskedSessions B).find? fun r =>
          r.2.terminalId = dto.terminalId ∧ r.2.status = .open).map fun r => r.2.sessionNumber := by
      rw [Store.maskedSessions, List.find?_map, Option.map_map]
      simp [Function.comp_def]
    rw [hmasked, hmasked, h.sessions]
  rw [SessionService.readOpen, SessionService.readOpen, h.terminals]
  split
  · rfl
  · revert hopen
    generalize (s.sessions.rows.find? _) = o
    generalize (s'.sessions.rows.find? _) = o'
    intro hopen
    cases o with
    | none =>
      cases o' with
      | none => rfl
      | some r' => cases hopen
    | some r =>
      cases o' with
      | none => cases hopen
      | some r' =>
        have hnumber : r.2.sessionNumber = r'.2.sessionNumber := Option.some.inj hopen
        simp only [hnumber]

theorem Alike.generateSessionNumber (h : Alike B s s') :
    generateSessionNumber clock t s = generateSessionNumber clock t s' := by
  have hnumbers := congrArg (List.map fun r : Id × POSSession => r.2.sessionNumber)
    (h.filter_sessions (q := fun session => session.tenantId = t) fun session => by simp)
  simp only [List.map_map, Function.comp_def, maskSession_sessionNumber] at hnumbers
  rw [Invetrixa.generateSessionNumber, Invetrixa.generateSessionNumber, hnumbers]

theorem Twin.open (h : Twin B s s') (dto : OpenSessionDto) :
    Except.Rel (Served B) (SessionService.open db clock t dto s)
      (SessionService.open db clock t dto s') := by
  refine Except.Rel.bind_eq (h.readOpen dto) fun _ _ => ?_
  have hsession : newSession db clock t dto s = newSession db clock t dto s' := by
    rw [newSession, newSession, h.generateSessionNumber]
  rw [← hsession]
  generalize newSession db clock t dto s = session
  have hany : (s.sessions.rows.any fun r =>
      r.2.sessionNumber = session.sessionNumber ∧ r.2.tenantId = session.tenantId) =
      s'.sessions.rows.any fun r =>
        r.2.sessionNumber = session.sessionNumber ∧ r.2.tenantId = session.tenantId := by
    have hmasked (s : Store) : (s.sessions.rows.any fun r =>
        r.2.sessionNumber = session.sessionNumber ∧ r.2.tenantId = session.tenantId) =
        (s.maskedSessions B).any fun r =>
          r.2.sessionNumber = session.sessionNumber ∧ r.2.tenantId = session.tenantId := by
      rw [Store.maskedSessions, List.any_map]
      simp [Function.comp_def]
    rw [hmasked, hmasked, h.sessions]
  have hnext : s.sessions.next = s'.sessions.next := congrArg Ids.sessions h.ids
  rw [insertSession, insertSession]
  refine Except.Rel.ite_iff (by rw [hany]) (fun _ => rfl) fun _ => ?_
  exact
    { h with
      sessions := by
        show ((s.sessions.rows ++ [(s.sessions.next, session)]).map _) =
          (s'.sessions.rows ++ [(s'.sessions.next, session)]).map _
        rw [List.map_append, List.map_append, hnext]
        exact congrArg (· ++ _) h.sessions
      ids := congrArg (fun ids : Ids => { ids with sessions := ids.sessions + 1 }) h.ids }

/-- The sales of the tenant are on sessions of its own. -/
def Store.OwnSessions (s : Store) (B : Id) : Prop :=
  s.sales.All fun _ sale => sale.tenantId = B → ∀ sessionId, sale.sessionId = some sessionId →
    ∃ session, s.sessions.find? sessionId = some session ∧ session.tenantId = B

/-- The session is there, and of another tenant. -/
def Store.SeesSession (s : Store) (B sessionId : Id) : Prop :=
  ∃ session, s.sessions.find? sessionId = some session ∧ session.tenantId ≠ B

/-- The sales that count for a session of another tenant are seen. -/
theorem Store.OwnSessions.sees (hown : s.OwnSessions B) (hsession : s.SeesSession B sessionId)
    {id : Id} {sale : Sale} (hfind : s.sales.find? id = some sale)
    (hon : sale.sessionId = some sessionId) : sale.tenantId ≠ B := by
  intro ht
  obtain ⟨session, hfound, hother⟩ := hsession
  obtain ⟨session', hfound', htenant⟩ := hown id sale hfind ht sessionId hon
  obtain rfl := Option.some.inj (hfound.symm.trans hfound')
  exact hother htenant

theorem Alike.seesSession (h : Alike B s s') (hsession : s.SeesSession B sessionId) :
    s'.SeesSession B sessionId := by
  obtain ⟨session, hfind, ht⟩ := hsession
  have hmasked := h.find?_session sessionId
  rw [hfind, Option.map_some] at hmasked
  obtain ⟨session', hfind', hsame⟩ := Option.map_eq_some_iff.mp hmasked.symm
  refine ⟨session', hfind', ?_⟩
  rwa [← maskSession_tenantId (B := B), hsame, maskSession_tenantId]

/-- The sales attached to a session. -/
def Store.salesOn (s : Store) (sessionId : Id) : List (Id × Sale) :=
  s.sales.rows.filter fun r => r.2.sessionId = some sessionId

theorem Alike.salesOn (h : Alike B s s') (hown : s.OwnSessions B) (hown' : s'.OwnSessions B)
    (hsession : s.SeesSession B sessionId) : s.salesOn sessionId = s'.salesOn sessionId := by
  refine h.sales.filter_of_mem (fun r hr hon => ?_) fun r hr hon => ?_
  · exact decide_eq_true
      (hown.sees hsession (Table.find?_of_mem_rows hr) (of_decide_eq_true hon))
  · exact decide_eq_true
      (hown'.sees (h.seesSession hsession) (Table.find?_of_mem_rows hr) (of_decide_eq_true hon))

theorem Alike.salesCount (h : Alike B s s') (hown : s.OwnSessions B) (hown' : s'.OwnSessions B)
    (hsession : s.SeesSession B sessionId) : salesCount sessionId s = salesCount sessionId s' := by
  have hcount (s : Store) : SessionService.salesCount sessionId s =
      ((s.salesOn sessionId).filter fun r => r.2.status = .completed).length := by
    simp only [SessionService.salesCount, Store.salesOn, countsFor]
    rw [List.filter_filter]
    congr 2
    funext r
    rw [Bool.and_comm, Bool.decide_and]
  rw [hcount, hcount, h.salesOn hown hown' hsession]

theorem Alike.cashReceived (h : Alike B s s') (hown : s.OwnSessions B) (hown' : s'.OwnSessions B)
    (hsession : s.SeesSession B sessionId) :
    cashReceived sessionId s = cashReceived sessionId s' := by
  -- The sales that count are seen, and are the same.
  let counts : Sale → Bool := fun sale => countsFor sessionId sale ∧ sale.tenantId ≠ B
  have hsales (s : Store) (hown : s.OwnSessions B) (hsession : s.SeesSession B sessionId)
      (id : Id) : (s.sales.find? id).any (countsFor sessionId) = (s.sales.find? id).any counts := by
    cases hfind : s.sales.find? id with
    | none => rfl
    | some sale =>
      simp only [Option.any_some, counts]
      by_cases hcounts : countsFor sessionId sale = true
      · have hon := (of_decide_eq_true hcounts).1
        simp [hcounts, hown.sees hsession hfind hon]
      · simp [hcounts]
  have hsame (id : Id) : (s.sales.find? id).any counts = (s'.sales.find? id).any counts :=
    h.sales.any_find? fun sale hsale => by
      simp only [counts, decide_eq_true_eq] at hsale ⊢
      exact hsale.2
  have hcash (s : Store) (hown : s.OwnSessions B) (hsession : s.SeesSession B sessionId) :
      SessionService.cashReceived sessionId s = s.salePayments.sum fun _ p =>
        if (s.sales.find? p.saleId).any counts ∧ p.method = .cash then p.amount else 0 := by
    rw [SessionService.cashReceived]
    simp only [hsales s hown hsession]
  rw [hcash s hown hsession, hcash s' hown' (h.seesSession hsession)]
  simp only [← hsame]
  have hunseen : ∀ p : SalePayment, s.seesSale B p.saleId = false →
      (if (s.sales.find? p.saleId).any counts ∧ p.method = .cash then p.amount else 0) = 0 := by
    intro p hp
    refine if_neg fun hany => ?_
    obtain ⟨sale, hfind, hsale⟩ := (Option.any_eq_true _ _).mp hany.1
    have ht : sale.tenantId ≠ B := (of_decide_eq_true hsale).2
    rw [seesSale_eq_true hfind ht] at hp
    cases hp
  exact h.salePayments.sum (fun _ p _ => hunseen p) fun _ p _ => hunseen p

/-- A session of another tenant is the same. -/
theorem Alike.session_of_ne (h : Alike B s s') (ht : t ≠ B) (id : Id) :
    ((s.sessions.find? id).filter fun session => session.tenantId = t) =
      (s'.sessions.find? id).filter fun session => session.tenantId = t := by
  have hmasked (s : Store) : ((s.sessions.find? id).filter fun session => session.tenantId = t) =
      ((s.sessions.find? id).map (maskSession B)).filter fun session => session.tenantId = t := by
    cases s.sessions.find? id with
    | none => rfl
    | some session =>
      by_cases hsession : session.tenantId = t
      · rw [Option.map_some, maskSession_of_ne (hsession ▸ ht)]
      · rw [Option.map_some, Option.filter_some_neg (by simpa using hsession),
          Option.filter_some_neg (by simpa using hsession)]
  rw [hmasked, h.find?_session, ← hmasked]

/-- What the owner of a session is told when it is closed. -/
theorem Alike.readClose (h : Alike B s s') (ht : t ≠ B) :
    SessionService.readClose t sessionId s = SessionService.readClose t sessionId s' := by
  rw [SessionService.readClose, SessionService.readClose, h.session_of_ne ht]

theorem readClose_ok (h : SessionService.readClose t sessionId s = .ok session) :
    s.sessions.find? sessionId = some session ∧ session.tenantId = t := by
  rw [SessionService.readClose] at h
  split at h
  · cases h
  · next session' hfind =>
    split at h
    · cases h
    · obtain rfl := Except.ok.inj h
      obtain ⟨hfind, ht⟩ := Option.filter_eq_some_iff.mp hfind
      exact ⟨hfind, of_decide_eq_true ht⟩

theorem maskSession_reconciled (cash : ℚ) (dto : CloseSessionDto) (session : POSSession) :
    maskSession B (reconciled db cash dto (maskSession B session)) =
      maskSession B (reconciled db cash dto session) := by
  by_cases hsession : session.tenantId = B
  · simp [maskSession, reconciled, hsession]
  · rw [maskSession_of_ne hsession]

theorem maskedSessions_modify {f : POSSession → POSSession}
    (hf : ∀ session, maskSession B (f (maskSession B session)) = maskSession B (f session)) :
    ({ s with sessions := s.sessions.modify sessionId f } : Store).maskedSessions B =
      (s.maskedSessions B).map fun r =>
        if r.1 = sessionId then (r.1, maskSession B (f r.2)) else r := by
  show (s.sessions.rows.map _).map _ = (s.sessions.rows.map _).map _
  rw [List.map_map, List.map_map]
  refine List.map_congr_left fun r _ => ?_
  simp only [Function.comp_apply, decide_eq_true_eq]
  by_cases hr : r.1 = sessionId
  · rw [if_pos hr, if_pos hr, hf]
  · rw [if_neg hr, if_neg hr]

/-- A session is reconciled in both, with the same figures unless it is the tenant's. -/
theorem Twin.reconcile (h : Twin B s s') (hfind : s.sessions.find? sessionId = some session)
    {cash cash' : ℚ} (hcash : session.tenantId ≠ B → cash = cash') (dto : CloseSessionDto) :
    Twin B { s with sessions := s.sessions.modify sessionId (reconciled db cash dto) }
      { s' with sessions := s'.sessions.modify sessionId (reconciled db cash' dto) } :=
  { h with
    sessions := by
      rw [maskedSessions_modify (maskSession_reconciled cash dto),
        maskedSessions_modify (maskSession_reconciled cash' dto), ← h.sessions]
      refine List.map_congr_left fun r hr => ?_
      by_cases hid : r.1 = sessionId
      · rw [if_pos hid, if_pos hid]
        obtain ⟨r', hr', rfl⟩ := List.mem_map.mp hr
        have hfind' := Table.find?_of_mem_rows hr'
        rw [show r'.1 = sessionId from hid] at hfind'
        obtain rfl := Option.some.inj (hfind.symm.trans hfind')
        by_cases ht : r'.2.tenantId = B
        · simp [maskSession, reconciled, ht]
        · rw [hcash ht]
      · rw [if_neg hid, if_neg hid]
    ids := h.ids }

/-- Another tenant closes a session with the same figures. -/
theorem Alike.map_close (h : Alike B s s') (hown : s.OwnSessions B) (hown' : s'.OwnSessions B)
    (ht : t ≠ B) (dto : CloseSessionDto) :
    (SessionService.close db t sessionId dto s).map Prod.fst =
      (SessionService.close db t sessionId dto s').map Prod.fst := by
  rw [SessionService.close, SessionService.close, ← h.readClose ht]
  cases hread : SessionService.readClose t sessionId s with
  | error e => rfl
  | ok session =>
    obtain ⟨hfind, rfl⟩ := readClose_ok hread
    have hsession : s.SeesSession B sessionId := ⟨session, hfind, ht⟩
    show Except.ok _ = Except.ok _
    rw [h.cashReceived hown hown' hsession, h.salesCount hown hown' hsession]

theorem Twin.close_of_ne (h : Twin B s s') (hown : s.OwnSessions B) (hown' : s'.OwnSessions B)
    (ht : t ≠ B) (dto : CloseSessionDto) :
    Except.Rel (Served B) (SessionService.close db t sessionId dto s)
      (SessionService.close db t sessionId dto s') := by
  refine Except.Rel.bind_eq (h.readClose ht) fun session hread => ?_
  obtain ⟨hfind, rfl⟩ := readClose_ok hread
  have hcash := h.cashReceived hown hown' ⟨session, hfind, ht⟩
  exact h.reconcile hfind (fun _ => hcash) dto

/-- The tenant closes a session of its own with figures of its own. -/
theorem Twin.close_own (h : Twin B s s') (dto : CloseSessionDto) :
    Except.Rel (Served B) (SessionService.close db B sessionId dto s)
      (SessionService.close db B sessionId dto s') := by
  have hread : Except.Rel (fun session session' => s.sessions.find? sessionId = some session ∧
      session.tenantId = B) (SessionService.readClose B sessionId s)
      (SessionService.readClose B sessionId s') := by
    have hmasked := h.find?_session sessionId
    rw [SessionService.readClose, SessionService.readClose]
    cases hfind : s.sessions.find? sessionId with
    | none =>
      rw [hfind, Option.map_none] at hmasked
      rw [Option.map_eq_none_iff.mp hmasked.symm]
      rfl
    | some session =>
      rw [hfind, Option.map_some] at hmasked
      obtain ⟨session', hfind', hsame⟩ := Option.map_eq_some_iff.mp hmasked.symm
      have htenant : session'.tenantId = session.tenantId := by
        simpa using congrArg POSSession.tenantId hsame
      have hstatus : session'.status = session.status := by
        simpa using congrArg POSSession.status hsame
      rw [hfind']
      by_cases ht : session.tenantId = B
      · rw [Option.filter_some_pos (by simpa using ht),
          Option.filter_some_pos (by simpa [htenant] using ht)]
        dsimp only
        rw [hstatus]
        exact Except.Rel.ite (fun _ => rfl) fun _ => ⟨rfl, ht⟩
      · rw [Option.filter_some_neg (by simpa using ht),
          Option.filter_some_neg (by simpa [htenant] using ht)]
        exact rfl
  refine hread.bind fun session session' ⟨hfind, ht⟩ => ?_
  exact h.reconcile hfind (fun hne => absurd ht hne) dto

end Sessions

section Requests

/-- The tenant whose user makes a request; the job that cleans carts up is no tenant's. -/
def Request.tenantId : Request → Option Id
  | .stockIn tenantId _ | .stockReturn tenantId _ | .stockOut tenantId _ | .adjust tenantId _
  | .createTransfer tenantId _ | .shipTransfer tenantId _ | .receiveTransfer tenantId _ _
  | .cancelTransfer tenantId _ | .createReservation tenantId _ | .updateReservation tenantId _ _
  | .releaseReservation tenantId _ | .expireReservation tenantId _ | .createCart tenantId _
  | .addCartItem tenantId _ _ | .updateCartItem tenantId _ _ _ | .removeCartItem tenantId _ _
  | .createSale tenantId _ | .completeSale tenantId _ _ | .voidSale tenantId _
  | .createRefund tenantId _ _ | .openSession tenantId _ | .closeSession tenantId _ _ =>
    some tenantId
  | .cleanupCarts => none

/-- The request opens or closes a session. -/
def Request.OfSessions : Request → Prop
  | .openSession _ _ | .closeSession _ _ _ => True
  | _ => False

instance : DecidablePred Request.OfSessions := by
  rintro ⟨⟩
  all_goals dsimp only [Request.OfSessions]; infer_instance

/-- The tenant completes no sale of its own, and the cleanup deletes no cart of the tenant, that an
active reservation of another tenant is made for. -/
def Call.Spares (s : Store) (B : Id) (call : Call) : Prop :=
  match call.request with
  | .completeSale tenantId saleId _ => tenantId = B →
      ∀ sale ∈ s.sales.find? saleId, sale.tenantId = B → s.Spares B saleId
  | .cleanupCarts => s.SparesCarts call.clock B
  | _ => True

instance (s : Store) (B : Id) (call : Call) : Decidable (call.Spares s B) := by
  obtain ⟨clock, ⟨⟩⟩ := call
  all_goals dsimp only [Call.Spares]; infer_instance

variable {call : Call}

/-- A request of another tenant, one about sessions or the cleanup is answered alike and leaves the
stores alike. -/
theorem Twin.handle (h : Twin B s s') (hc : Consistent s) (hc' : Consistent s')
    (hown : s.OwnSessions B) (hown' : s'.OwnSessions B) (hspare : call.Spares s B)
    (hspare' : call.Spares s' B)
    (hcall : call.request.tenantId ≠ some B ∨ call.request.OfSessions) :
    Alongside (Twin B) (Invetrixa.handle db call s) (Invetrixa.handle db call s') := by
  obtain ⟨clock, request⟩ := call
  rw [Invetrixa.handle, Invetrixa.handle]
  by_cases hvalid : request.Valid
  · rw [if_pos hvalid, if_pos hvalid]
    have hw := hc.toWellFormed
    have hw' := hc'.toWellFormed
    have hne : ∀ {tenantId}, request.tenantId = some tenantId → ¬request.OfSessions →
        tenantId ≠ B := by
      rintro tenantId heq hother rfl
      exact (hcall.resolve_right hother) heq
    cases request with
    | stockIn t dto => exact (h.transaction (h.stockIn (hne rfl not_false) dto)).answer
    | stockReturn t dto => exact (h.transaction (h.stockIn (hne rfl not_false) _)).answer
    | stockOut t dto =>
      exact (h.transaction (h.stockOut db (hne rfl not_false) dto h.toAlike hw hw')).answer
    | adjust t dto => exact (h.transaction (h.adjust (hne rfl not_false) hw hw' dto)).answer
    | createTransfer t dto =>
      exact (h.createTransfer (hne rfl not_false) hw hw' dto hvalid).answer
    | shipTransfer t id =>
      exact (h.transaction (h.ship db clock (hne rfl not_false) hw hw' id)).answer
    | receiveTransfer t id items =>
      exact (h.transaction (h.receive (hne rfl not_false) id items)).answer
    | cancelTransfer t id => exact (h.transaction (h.cancel (hne rfl not_false) id)).answer
    | createReservation t dto =>
      exact (h.transaction (h.createReservation clock (hne rfl not_false) dto)).answer
    | updateReservation t id dto =>
      exact (h.transaction (h.update hw (hne rfl not_false) id dto)).answer
    | releaseReservation t id =>
      exact (h.transaction (h.release hw (hne rfl not_false) id)).answer
    | expireReservation t id =>
      exact (h.transaction (h.process hw (hne rfl not_false) id)).answer
    | createCart t dto =>
      exact (h.transaction (h.createCart hc hc' (hne rfl not_false) dto)).answer
    | addCartItem t cartId dto => exact (h.addItem (hne rfl not_false) dto).along
    | updateCartItem t cartId itemId dto =>
      exact (h.updateItem hw hw' (hne rfl not_false) dto).along
    | removeCartItem t cartId itemId => exact (h.removeItem hw hw' (hne rfl not_false)).along
    | createSale t dto =>
      exact (h.transaction (h.createSale hc hc' (hne rfl not_false) dto)).answer
    | completeSale t saleId payments =>
      exact (h.transaction (h.complete hc hc' (hne rfl not_false) saleId payments)).answer
    | voidSale t saleId => exact (h.transaction (h.void (hne rfl not_false) saleId)).answer
    | createRefund t saleId dto =>
      exact (h.transaction (h.createRefund hc hc' (hne rfl not_false) saleId dto)).answer
    | openSession t dto => exact (h.transaction (h.open dto)).answer
    | closeSession t sessionId dto =>
      by_cases ht : t = B
      · subst ht
        exact (h.transaction (h.close_own dto)).answer
      · exact (h.transaction (h.close_of_ne hown hown' ht dto)).answer
    | cleanupCarts => exact (h.transaction (h.cleanup hc hc' hspare hspare')).answer
  · rw [if_neg hvalid, if_neg hvalid]
    exact ⟨rfl, h⟩

end Requests

end Invetrixa
