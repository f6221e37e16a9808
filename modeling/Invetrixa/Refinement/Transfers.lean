import Invetrixa.Library.Loops
import Invetrixa.Refinement.Step

/-!
# Transfers, product by product

The items of a transfer are about different products, so that each turn of the loops of `ship`,
`receive` and `cancel` touches what the store records of its own product alone. This module says
what the whole of each method does to the row of the transfer and to each product.

## Main definitions

- `StockTransfer.itemOf`, `StockTransfer.header` — a transfer by its items, and without them
- `Store.goods` — what a store records of one product and of its item in a transfer
- `Moved` — a transfer gets a new row, and the others keep theirs

## Main results

- `exists_goods_commitShip`, `exists_goods_commitReceive`, `exists_goods_commitCancel`
- `moved_commitShip`, `moved_commitReceive`, `moved_commitCancel`
-/

namespace Invetrixa

open Rowstore Requests BalanceService ValuationService TransferService

variable {db : Database} {clock : Clock} {tenantId id p l : Id} {s s' : Store}
  {t t' : StockTransfer} {i : StockTransferItem}

section Items

/-- The item of a product. -/
def StockTransfer.itemOf (t : StockTransfer) (p : Id) : Option StockTransferItem :=
  t.items.find? fun i => i.productId = p

theorem itemOf_eq_some_iff : t.itemOf p = some i ↔ i ∈ t.items ∧ i.productId = p := by
  constructor
  · intro h
    exact ⟨List.mem_of_find?_eq_some h, by simpa using List.find?_some h⟩
  · rintro ⟨hi, rfl⟩
    cases hfind : t.itemOf i.productId with
    | none =>
      have hne := List.find?_eq_none.mp hfind i hi
      simp at hne
    | some j =>
      have hj : j.productId = i.productId := by simpa using List.find?_some hfind
      have hmem : j ∈ t.items := List.mem_of_find?_eq_some hfind
      rw [List.inj_on_of_nodup_map t.items_nodup hmem hi hj]

theorem itemOf_eq_none_iff : t.itemOf p = none ↔ ∀ i ∈ t.items, i.productId ≠ p := by
  simp [StockTransfer.itemOf, List.find?_eq_none]

theorem itemOf_updateItem {p' : Id} (f : StockTransferItem → StockTransferItem) :
    (t.updateItem p' f).itemOf p =
      if p' = p then (t.itemOf p).map fun i => { f i with productId := p } else t.itemOf p := by
  simp only [StockTransfer.itemOf, StockTransfer.updateItem]
  induction t.items with
  | nil => simp
  | cons i rest ih =>
    rw [List.map_cons, List.find?_cons, List.find?_cons, ih]
    by_cases hi : i.productId = p' <;> by_cases hp : p' = p <;> simp_all

/-- A transfer without its items. -/
def StockTransfer.header (t : StockTransfer) : StockTransfer :=
  { t with
    items := []
    items_nodup := List.nodup_nil }

end Items

section Goods

/-- The on-hand quantity of a product over all locations. -/
def Store.totalOnHand (s : Store) (p : Id) : ℤ :=
  s.balances.sum fun k b => if k.1 = p then b.onHandQuantity else 0

/-- A negative change is booked in full only on an existing row. -/
theorem totalOnHand_updateBalance {l' t : Id} {q : ℤ} (h : 0 ≤ q ∨ s.HasBalance p l') :
    (updateBalance p l' t q s).totalOnHand p = s.totalOnHand p + q := by
  simp only [Store.totalOnHand, updateBalance]
  cases hfind : s.balances.find? (p, l') with
  | none =>
    have hq : 0 ≤ q := by simpa [Store.HasBalance, hfind] using h
    rw [Table.sum_upsert_of_none hfind, if_pos rfl, max_eq_right hq]
  | some b =>
    rw [Table.sum_upsert_of_some hfind, if_pos rfl, if_pos rfl]
    ring

theorem totalOnHand_updateBalance_of_ne {p' l' t : Id} {q : ℤ} (hp : p' ≠ p) :
    (updateBalance p' l' t q s).totalOnHand p = s.totalOnHand p := by
  simp only [Store.totalOnHand, updateBalance]
  cases hfind : s.balances.find? (p', l') with
  | none => rw [Table.sum_upsert_of_none hfind, if_neg hp, add_zero]
  | some b => rw [Table.sum_upsert_of_some hfind, if_neg hp, if_neg hp, sub_zero, add_zero]

/-- What a store records of one product, and of its item in one transfer. -/
@[ext]
structure Goods where
  method : PricingMethod
  available : Id → Id → List (Id × ValuationLayer)
  value : Id → ℚ
  onHand : ℤ
  stocked : Id → Prop
  item : Option StockTransferItem

def Store.goods (s : Store) (id p : Id) : Goods where
  method := resolvePricingMethod p s
  available l tenantId := availableLayers p l tenantId s
  value := s.layerValue p
  onHand := s.totalOnHand p
  stocked := s.HasBalance p
  item := (s.transfers.find? id).bind fun t => t.itemOf p

theorem layerValue_of_goods (h : s'.goods id p = s.goods id p) (l : Id) :
    s'.layerValue p l = s.layerValue p l :=
  congrFun (congrArg Goods.value h) l

theorem totalOnHand_of_goods (h : s'.goods id p = s.goods id p) :
    s'.totalOnHand p = s.totalOnHand p :=
  congrArg Goods.onHand h

theorem availableLayers_createLayer_of_ne {p' l' t : Id} {q : ℤ} {c : ℚ} {m : Id}
    {batchId : Option Id} (hp : p' ≠ p) :
    availableLayers p l tenantId (createLayer db clock p' l' t q c m batchId s) =
      availableLayers p l tenantId s := by
  simp [availableLayers, createLayer, Serial.create, List.filter_append, hp]

/-- A draw from the layers of other products leaves those of a product. -/
theorem filter_drain {layers : Serial ValuationLayer} {sel : Id × ValuationLayer → Bool}
    (hsel : ∀ r, sel r = true → r.2.productId = p) (ds : List ((Id × ValuationLayer) × ℤ))
    (hds : ∀ d ∈ ds, ∀ v, layers.find? d.1.1 = some v → v.productId ≠ p) :
    (drain layers ds).rows.filter sel = layers.rows.filter sel := by
  induction ds generalizing layers with
  | nil => rfl
  | cons d rest ih =>
    have hother : ∀ k v, v.productId ≠ p → sel (k, v) = false := fun k v hv =>
      Bool.eq_false_iff.mpr fun h => hv (hsel _ h)
    refine (ih fun e he v hv => ?_).trans (Table.filter_modifyWhere fun k v hv hk => ?_)
    · rw [Serial.toTable_modify, Table.find?_modify] at hv
      split at hv
      · obtain ⟨v₀, hv₀, rfl⟩ := Option.map_eq_some_iff.mp hv
        exact hds e (List.mem_cons_of_mem _ he) v₀ hv₀
      · exact hds e (List.mem_cons_of_mem _ he) v hv
    · have hk : k = d.1.1 := by simpa using hk
      subst hk
      have hv := hds d List.mem_cons_self v (Table.find?_of_mem_rows hv)
      exact ⟨hother _ _ hv, hother _ _ hv⟩

theorem availableLayers_consumeLayers_of_ne {p' l' t : Id} {q : ℤ} {method : PricingMethod}
    (hp : p' ≠ p) :
    availableLayers p l tenantId (consumeLayers db p' l' t q method s).2 =
      availableLayers p l tenantId s := by
  rw [consumeLayers_eq]
  refine filter_drain (p := p) (fun r hr => ?_) _ fun d hd v hv => ?_
  · simp only [decide_eq_true_eq] at hr
    exact hr.1
  · obtain ⟨hfind, hproduct, _⟩ := mem_consumableLayers (Lots.mem_of_mem_draw hd)
    obtain rfl := Option.some.inj (hfind.symm.trans hv)
    exact hproduct ▸ hp

theorem hasBalance_updateBalance_of_ne {p' l' t : Id} {q : ℤ} (hp : p' ≠ p) :
    (updateBalance p' l' t q s).HasBalance p = s.HasBalance p := by
  funext l
  rw [Store.HasBalance, Store.HasBalance, find?_updateBalance, if_neg]
  exact fun heq => hp (congrArg Prod.fst heq).symm

/-- A receipt of another product. -/
theorem goods_recordReceipt_of_ne {m : StockMovement} {batchId : Option Id}
    (hp : m.productId ≠ p) :
    (recordReceipt db clock m batchId s).goods id p = s.goods id p := by
  ext1
  · rfl
  · funext l tenantId
    exact availableLayers_createLayer_of_ne hp
  · funext l
    show (recordReceipt db clock m batchId s).layerValue p l = s.layerValue p l
    rw [layerValue_receipt, if_neg fun h => hp h.1, add_zero]
  · exact totalOnHand_updateBalance_of_ne hp
  · exact hasBalance_updateBalance_of_ne hp
  · rfl

/-- A rewrite of the row of the transfer changes nothing of the goods but perhaps the item. -/
theorem goods_updateTransfer {f : StockTransfer → StockTransfer}
    (hf : ∀ t, (f t).itemOf p = t.itemOf p) :
    (updateTransfer id f s).goods id p = s.goods id p := by
  ext1
  any_goals rfl
  show ((s.transfers.modify id f).find? id).bind _ = _
  rw [Serial.toTable_modify, Table.find?_modify, if_pos rfl]
  show ((s.transfers.find? id).map f).bind _ = (s.transfers.find? id).bind _
  cases s.transfers.find? id with
  | none => rfl
  | some t => exact hf t

theorem goods_updateItem_of_ne {p' : Id} {f : StockTransferItem → StockTransferItem}
    (hp : p' ≠ p) :
    (updateTransfer id (fun t => t.updateItem p' f) s).goods id p = s.goods id p := by
  refine goods_updateTransfer fun t => ?_
  rw [itemOf_updateItem, if_neg hp]

/-- An item of another product is shipped. -/
theorem goods_shipItem_of_ne (hp : i.productId ≠ p) :
    (shipItem db tenantId id t s i).goods id p = s.goods id p := by
  have hmark : ∀ c, ((updateTransfer id (markShipped db i c) s).goods id p).item =
      (s.goods id p).item := fun _ => congrArg Goods.item (goods_updateItem_of_ne hp)
  rw [shipItem_eq]
  ext1
  · rfl
  · funext l tenantId
    exact availableLayers_consumeLayers_of_ne hp
  · funext l
    refine layerValue_consumeLayers.trans ?_
    rw [if_neg fun h => hp h.1, sub_zero]
    rfl
  · exact totalOnHand_updateBalance_of_ne hp
  · exact hasBalance_updateBalance_of_ne hp
  · exact hmark _

/-- An item of another product is received. -/
theorem goods_receiveItem_of_ne {items : List ReceiveItemDto} (hp : i.productId ≠ p) :
    (receiveItem db clock tenantId id items t s i).goods id p = s.goods id p := by
  rw [TransferService.receiveItem]
  split
  · rfl
  · next r _ =>
    have hmark : (updateTransfer id (markReceived i r) s).goods id p = s.goods id p :=
      goods_updateItem_of_ne hp
    dsimp only
    split
    · rw [goods_recordReceipt_of_ne hp, hmark]
    · exact hmark

/-- An item of another product goes back. -/
theorem goods_cancelItem_of_ne (hp : i.productId ≠ p) :
    (cancelItem db clock tenantId id t s i).goods id p = s.goods id p := by
  rw [cancelItem]
  split
  · exact goods_recordReceipt_of_ne hp
  · rfl

/-- The goods of a product that the transfer does not carry stay as they are when it ships. -/
theorem goods_commitShip_of_none (h : t.itemOf p = none) :
    (commitShip db clock tenantId id t s).goods id p = s.goods id p := by
  refine (Loops.view_foldl (fun s : Store => s.goods id p) (fun s i hi => ?_) _).trans
    (goods_updateTransfer fun _ => rfl)
  exact goods_shipItem_of_ne (itemOf_eq_none_iff.mp h i hi)

/-- What shipping a transfer does to the goods of a product, the turn of its item does. -/
theorem exists_goods_commitShip (db : Database) (clock : Clock) (tenantId id : Id) (s : Store)
    (h : t.itemOf p = some i) :
    ∃ s', s'.goods id p = s.goods id p ∧
      (commitShip db clock tenantId id t s).goods id p =
        (shipItem db tenantId id t s' i).goods id p := by
  obtain ⟨hi, hp⟩ := itemOf_eq_some_iff.mp h
  obtain ⟨s', hs', hloop⟩ := Loops.exists_view_foldl (fun s : Store => s.goods id p)
    (fun _ _ => goods_shipItem_of_ne) t.items_nodup hi hp
    (updateTransfer id (fun t => { t with status := .inTransit, shippedAt := some clock.time }) s)
  exact ⟨s', hs'.trans (goods_updateTransfer fun _ => rfl), hloop⟩

theorem goods_commitReceive_of_none {items : List ReceiveItemDto} (h : t.itemOf p = none) :
    (commitReceive db clock tenantId id items t s).goods id p = s.goods id p := by
  refine (Loops.view_foldl (fun s : Store => s.goods id p) (fun s i hi => ?_) _).trans
    (goods_updateTransfer fun _ => rfl)
  exact goods_receiveItem_of_ne (itemOf_eq_none_iff.mp h i hi)

/-- What receiving a transfer does to the goods of a product, the turn of its item does. -/
theorem exists_goods_commitReceive (db : Database) (clock : Clock) (tenantId id : Id)
    (items : List ReceiveItemDto) (s : Store) (h : t.itemOf p = some i) :
    ∃ s', s'.goods id p = s.goods id p ∧
      (commitReceive db clock tenantId id items t s).goods id p =
        (TransferService.receiveItem db clock tenantId id items t s' i).goods id p := by
  obtain ⟨hi, hp⟩ := itemOf_eq_some_iff.mp h
  obtain ⟨s', hs', hloop⟩ := Loops.exists_view_foldl (fun s : Store => s.goods id p)
    (fun _ _ => goods_receiveItem_of_ne) t.items_nodup hi hp
    (updateTransfer id (fun t => { t with status := .completed, receivedAt := some clock.time }) s)
  exact ⟨s', hs'.trans (goods_updateTransfer fun _ => rfl), hloop⟩

theorem goods_commitCancel (t : StockTransfer) :
    (commitCancel db clock tenantId id t s).goods id p =
      (if t.status = .inTransit then t.items.foldl (cancelItem db clock tenantId id t) s
        else s).goods id p :=
  goods_updateTransfer fun _ => rfl

theorem goods_commitCancel_of_none (h : t.itemOf p = none) :
    (commitCancel db clock tenantId id t s).goods id p = s.goods id p := by
  rw [goods_commitCancel]
  split
  · refine Loops.view_foldl (fun s : Store => s.goods id p) (fun s i hi => ?_) _
    exact goods_cancelItem_of_ne (itemOf_eq_none_iff.mp h i hi)
  · rfl

/-- What taking a shipped transfer back does to the goods of a product, the turn of its item
does. -/
theorem exists_goods_commitCancel (db : Database) (clock : Clock) (tenantId id : Id) (s : Store)
    (hstatus : t.status = .inTransit) (h : t.itemOf p = some i) :
    ∃ s', s'.goods id p = s.goods id p ∧
      (commitCancel db clock tenantId id t s).goods id p =
        (cancelItem db clock tenantId id t s' i).goods id p := by
  obtain ⟨hi, hp⟩ := itemOf_eq_some_iff.mp h
  rw [goods_commitCancel, if_pos hstatus]
  exact Loops.exists_view_foldl (fun s : Store => s.goods id p)
    (fun _ _ => goods_cancelItem_of_ne) t.items_nodup hi hp s

end Goods

section Rows

/-- A transfer gets a new row, and the others keep theirs. -/
structure Moved (id : Id) (t t' : StockTransfer) (s s' : Store) : Prop where
  before : s.transfers.find? id = some t
  after : s'.transfers.find? id = some t'
  others : ∀ k, k ≠ id → s'.transfers.find? k = s.transfers.find? k

theorem moved_updateTransfer {f : StockTransfer → StockTransfer}
    (hfind : s.transfers.find? id = some t) : Moved id t (f t) s (updateTransfer id f s) where
  before := hfind
  after := by
    rw [updateTransfer, Serial.toTable_modify, Table.find?_modify, if_pos rfl, hfind]
    rfl
  others k hk := by rw [updateTransfer, Serial.toTable_modify, Table.find?_modify, if_neg hk]

/-- The rows of the transfers, that of one of them without its items. -/
def Store.transferHeads (s : Store) (id k : Id) : Option StockTransfer :=
  (s.transfers.find? k).map fun t => if k = id then t.header else t

theorem transferHeads_updateItem {f : StockTransferItem → StockTransferItem} :
    (updateTransfer id (fun t => t.updateItem p f) s).transferHeads id = s.transferHeads id := by
  funext k
  simp only [Store.transferHeads, updateTransfer, Serial.toTable_modify, Table.find?_modify]
  by_cases hk : k = id
  · subst hk
    simp only [if_true]
    cases s.transfers.find? k <;> rfl
  · simp only [if_neg hk]

theorem transferHeads_shipItem :
    (shipItem db tenantId id t s i).transferHeads id = s.transferHeads id := by
  rw [shipItem_eq]
  exact transferHeads_updateItem (f := fun _ => _)

theorem transferHeads_receiveItem {items : List ReceiveItemDto} :
    (TransferService.receiveItem db clock tenantId id items t s i).transferHeads id =
      s.transferHeads id := by
  rw [TransferService.receiveItem]
  split
  · rfl
  · dsimp only
    split
    all_goals exact transferHeads_updateItem (f := fun _ => _)

/-- A loop that rewrites items alone gives the transfer the head it had before. -/
theorem exists_moved_of_transferHeads {f : StockTransfer → StockTransfer}
    (hfind : s.transfers.find? id = some t)
    (hheads : s'.transferHeads id = (updateTransfer id f s).transferHeads id) :
    ∃ t', Moved id t t' s s' ∧ t'.header = (f t).header := by
  have hmoved := moved_updateTransfer (f := f) hfind
  have hhead := congrFun hheads id
  simp only [Store.transferHeads, if_true, hmoved.after, Option.map_some] at hhead
  obtain ⟨t', hfind', hheader⟩ := Option.map_eq_some_iff.mp hhead
  refine ⟨t', ⟨hfind, hfind', fun k hk => ?_⟩, hheader⟩
  have hother := congrFun hheads k
  simp only [Store.transferHeads, if_neg hk, Option.map_id'] at hother
  rw [hother, hmoved.others k hk]

/-- The row that is shipped is the one of the moment, whatever was read. -/
theorem moved_commitShip (db : Database) (clock : Clock) (tenantId : Id) (u : StockTransfer)
    (hfind : s.transfers.find? id = some t) :
    ∃ t', Moved id t t' s (commitShip db clock tenantId id u s) ∧
      t'.header = StockTransfer.header
        { t with status := .inTransit, shippedAt := some clock.time } := by
  refine exists_moved_of_transferHeads (f := fun t =>
    { t with status := .inTransit, shippedAt := some clock.time }) hfind ?_
  exact Loops.view_foldl (fun s : Store => s.transferHeads id)
    (fun _ _ _ => transferHeads_shipItem) _

theorem moved_commitReceive (db : Database) (clock : Clock) (tenantId : Id)
    (items : List ReceiveItemDto) (u : StockTransfer) (hfind : s.transfers.find? id = some t) :
    ∃ t', Moved id t t' s (commitReceive db clock tenantId id items u s) ∧
      t'.header = StockTransfer.header
        { t with status := .completed, receivedAt := some clock.time } := by
  refine exists_moved_of_transferHeads (f := fun t =>
    { t with status := .completed, receivedAt := some clock.time }) hfind ?_
  exact Loops.view_foldl (fun s : Store => s.transferHeads id)
    (fun _ _ _ => transferHeads_receiveItem) _

theorem transfers_cancelItem :
    (cancelItem db clock tenantId id t s i).transfers = s.transfers := by
  rw [cancelItem]
  split <;> rfl

theorem moved_commitCancel (db : Database) (clock : Clock) (tenantId : Id) (u : StockTransfer)
    (hfind : s.transfers.find? id = some t) :
    Moved id t { t with status := .cancelled, cancelledAt := some clock.time } s
      (commitCancel db clock tenantId id u s) := by
  have hback : (if u.status = .inTransit then
      u.items.foldl (cancelItem db clock tenantId id u) s else s).transfers = s.transfers := by
    split
    · exact Loops.view_foldl Store.transfers (fun _ _ _ => transfers_cancelItem) _
    · rfl
  obtain ⟨_, hafter, hothers⟩ := moved_updateTransfer (f := fun t =>
    { t with status := .cancelled, cancelledAt := some clock.time }) (hback ▸ hfind)
  refine ⟨hfind, hafter, fun k hk => ?_⟩
  rw [← hback]
  exact hothers k hk

end Rows

section Shipped

/-- An accepted shipment commits the draft it has read. -/
theorem ship_ok {r : String} (h : ship db clock tenantId id s = .ok (r, s'))
    (hfind : s.transfers.find? id = some t) :
    s' = commitShip db clock tenantId id t s ∧ t.status = .draft ∧ t.tenantId = tenantId := by
  obtain ⟨t', hread, rfl⟩ := ship_eq_ok h
  obtain ⟨hfind', ht, hstatus, _⟩ := readShip_ok hread
  obtain rfl := Option.some.inj (hfind.symm.trans hfind')
  exact ⟨rfl, hstatus, ht⟩

/-- The layers that shipping an item draws from, in the order of the product's method. -/
def StockTransferItem.layers (db : Database) (tenantId : Id) (t : StockTransfer)
    (i : StockTransferItem) (s : Store) : List (Id × ValuationLayer) :=
  consumableLayers db i.productId t.fromLocationId tenantId (resolvePricingMethod i.productId s) s

/-- An item as it is after it is shipped. -/
def shippedItem (db : Database) (tenantId : Id) (t : StockTransfer) (s : Store)
    (i : StockTransferItem) : StockTransferItem :=
  { i with
    shippedQuantity := i.requestedQuantity
    shippedUnitCost := some
      (db.decimal (calculateWAC i.productId t.fromLocationId tenantId s)) }

/-- The item of a product in a transfer whose item of that product is written. -/
theorem item_updateTransfer (f : StockTransferItem → StockTransferItem) :
    ((updateTransfer id (fun t => t.updateItem p f) s).goods id p).item =
      (s.goods id p).item.map fun j => { f j with productId := p } := by
  show ((s.transfers.modify id _).find? id).bind _ = ((s.transfers.find? id).bind _).map _
  rw [Serial.toTable_modify, Table.find?_modify, if_pos rfl]
  cases s.transfers.find? id with
  | none => rfl
  | some t' => exact (itemOf_updateItem _).trans (if_pos rfl)

theorem item_shipItem :
    ((shipItem db tenantId id t s i).goods id i.productId).item =
      (s.goods id i.productId).item.map fun j =>
        { j with
          productId := i.productId
          shippedQuantity := i.requestedQuantity
          shippedUnitCost := some
            (db.decimal (calculateWAC i.productId t.fromLocationId tenantId s)) } := by
  rw [shipItem_eq]
  exact item_updateTransfer _

theorem item_goods_of_moved (hmoved : Moved id t t' s s') :
    (s.goods id p).item = t.itemOf p ∧ (s'.goods id p).item = t'.itemOf p := by
  simp only [Store.goods, hmoved.before, hmoved.after]
  exact ⟨rfl, rfl⟩

/-- What the goods of a product record determines its average cost and the layers to draw from. -/
theorem shippedItem_congr (hgoods : s'.goods id i.productId = s.goods id i.productId) :
    shippedItem db tenantId t s' i = shippedItem db tenantId t s i ∧
      i.layers db tenantId t s' = i.layers db tenantId t s := by
  have havail : availableLayers i.productId t.fromLocationId tenantId s' =
      availableLayers i.productId t.fromLocationId tenantId s :=
    congrFun (congrFun (congrArg Goods.available hgoods) _) _
  have hmethod : resolvePricingMethod i.productId s' = resolvePricingMethod i.productId s :=
    congrArg Goods.method hgoods
  simp only [shippedItem, calculateWAC, StockTransferItem.layers, consumableLayers, havail, hmethod,
    and_self]

/-- Shipping stores on each item its full quantity and the average cost from before. -/
theorem itemOf_commitShip (hmoved : Moved id t t' s (commitShip db clock tenantId id t s))
    (p : Id) :
    t'.itemOf p = (t.itemOf p).map (shippedItem db tenantId t s) := by
  obtain ⟨hitem, hitem'⟩ := item_goods_of_moved (p := p) hmoved
  cases h : t.itemOf p with
  | none => rw [← hitem', goods_commitShip_of_none h, hitem, h, Option.map_none]
  | some i =>
    obtain ⟨s', hbefore, hafter⟩ := exists_goods_commitShip db clock tenantId id s h
    obtain ⟨_, rfl⟩ := itemOf_eq_some_iff.mp h
    rw [← hitem', hafter, item_shipItem, hbefore, hitem, h, Option.map_some, Option.map_some,
      ← (shippedItem_congr hbefore).1]
    rfl

theorem mem_items_commitShip {j : StockTransferItem}
    (hmoved : Moved id t t' s (commitShip db clock tenantId id t s)) :
    j ∈ t'.items ↔ ∃ i ∈ t.items, shippedItem db tenantId t s i = j := by
  have hiff : j ∈ t'.items ↔ t'.itemOf j.productId = some j :=
    ⟨fun hj => itemOf_eq_some_iff.mpr ⟨hj, rfl⟩, fun hj => (itemOf_eq_some_iff.mp hj).1⟩
  rw [hiff, itemOf_commitShip hmoved, Option.map_eq_some_iff]
  constructor
  · rintro ⟨i, hi, hij⟩
    exact ⟨i, (itemOf_eq_some_iff.mp hi).1, hij⟩
  · rintro ⟨i, hi, rfl⟩
    exact ⟨i, itemOf_eq_some_iff.mpr ⟨hi, rfl⟩, rfl⟩

/-- Shipping takes out of the layers of an item what those drawn cost by themselves. -/
theorem layerValue_commitShip (h : t.itemOf p = some i) :
    (commitShip db clock tenantId id t s).layerValue p l = s.layerValue p l -
      if t.fromLocationId = l then
        Lots.cost layerSize (fun r => r.2.unitCost) (i.layers db tenantId t s) i.requestedQuantity
      else 0 := by
  obtain ⟨s', hbefore, hafter⟩ := exists_goods_commitShip db clock tenantId id s h
  obtain ⟨_, rfl⟩ := itemOf_eq_some_iff.mp h
  have hturn : (shipItem db tenantId id t s' i).layerValue i.productId l =
      s'.layerValue i.productId l - if t.fromLocationId = l then
        Lots.cost layerSize (fun r => r.2.unitCost) (i.layers db tenantId t s') i.requestedQuantity
      else 0 := by
    rw [shipItem_eq]
    refine layerValue_consumeLayers.trans ?_
    simp only [true_and]
    rfl
  rw [layerValue_of_goods hafter, hturn, layerValue_of_goods hbefore,
    (shippedItem_congr hbefore).2]

/-- Shipping takes the full quantity of an item from what is on hand. -/
theorem totalOnHand_commitShip (h : t.itemOf p = some i) (hrow : s.HasBalance p t.fromLocationId) :
    (commitShip db clock tenantId id t s).totalOnHand p =
      s.totalOnHand p - i.requestedQuantity := by
  obtain ⟨s', hbefore, hafter⟩ := exists_goods_commitShip db clock tenantId id s h
  obtain ⟨_, rfl⟩ := itemOf_eq_some_iff.mp h
  have hrow' : s'.HasBalance i.productId t.fromLocationId := by
    have hstocked : s'.HasBalance i.productId = s.HasBalance i.productId :=
      congrArg Goods.stocked hbefore
    rwa [hstocked]
  have hturn : (shipItem db tenantId id t s' i).totalOnHand i.productId =
      s'.totalOnHand i.productId + -i.requestedQuantity := by
    rw [shipItem_eq]
    exact totalOnHand_updateBalance (.inr hrow')
  rw [totalOnHand_of_goods hafter, hturn, totalOnHand_of_goods hbefore, sub_eq_add_neg]

end Shipped

section Received

variable {items : List ReceiveItemDto} {r : ReceiveItemDto}

theorem validateReceived_ok (h : validateReceived s items i = .ok ()) :
    ∃ r, received items i.productId = some r ∧ r.receivedQuantity ≤ i.shippedQuantity := by
  rw [validateReceived] at h
  dsimp only at h
  split at h
  · cases h
  · next r hr =>
    obtain ⟨hle, _⟩ := Except.ite_error_eq_ok_iff.mp h
    exact ⟨r, hr, not_lt.mp hle⟩

/-- An accepted receipt names each item of the transfer in transit that it commits, with no more
than was shipped of it. -/
theorem receive_ok {m : String} (h : receive db clock tenantId id items s = .ok (m, s'))
    (hfind : s.transfers.find? id = some t) :
    s' = commitReceive db clock tenantId id items t s ∧ t.status = .inTransit ∧
      ∀ i ∈ t.items, ∃ r, received items i.productId = some r ∧
        r.receivedQuantity ≤ i.shippedQuantity := by
  obtain ⟨t', hread, h⟩ := Except.bind_eq_ok_iff.mp h
  obtain ⟨hfind', _, hstatus, hvalid⟩ := readReceive_ok hread
  obtain rfl := Option.some.inj (hfind.symm.trans hfind')
  exact ⟨(congrArg Prod.snd (Except.ok.inj h)).symm, hstatus, fun i hi =>
    validateReceived_ok (hvalid i hi)⟩

/-- An item as it is after it is received. -/
def receivedItem (r : ReceiveItemDto) (i : StockTransferItem) : StockTransferItem :=
  { i with
    receivedQuantity := r.receivedQuantity
    shortageReason := r.shortageReason <|> i.shortageReason }

theorem item_markReceived :
    ((updateTransfer id (markReceived i r) s).goods id i.productId).item =
      (s.goods id i.productId).item.map fun j =>
        { receivedItem r j with productId := i.productId } := by
  exact item_updateTransfer _

/-- What one turn of `receive` does to the goods of its product. -/
theorem receiveItem_goods (hr : received items i.productId = some r) :
    ((TransferService.receiveItem db clock tenantId id items t s i).goods id i.productId).item =
        (s.goods id i.productId).item.map (fun j =>
          { receivedItem r j with productId := i.productId }) ∧
      (TransferService.receiveItem db clock tenantId id items t s i).layerValue i.productId l =
        s.layerValue i.productId l + (if t.toLocationId = l then
          db.decimal (i.shippedUnitCost.getD 0) * (max 0 r.receivedQuantity : ℤ) else 0) ∧
      (TransferService.receiveItem db clock tenantId id items t s i).totalOnHand i.productId =
        s.totalOnHand i.productId + max 0 r.receivedQuantity := by
  simp only [TransferService.receiveItem, hr]
  split
  · next hpos =>
    rw [max_eq_right hpos.le]
    refine ⟨item_markReceived, ?_, totalOnHand_updateBalance (.inl hpos.le)⟩
    rw [layerValue_receipt]
    simp only [arrivedMovement, true_and]
    rfl
  · next hpos =>
    rw [max_eq_left (not_lt.mp hpos)]
    refine ⟨item_markReceived, ?_, (add_zero _).symm⟩
    simp only [Int.cast_zero, mul_zero, ite_self, add_zero]
    rfl

/-- Receiving stores on each item what arrived of it. -/
theorem itemOf_commitReceive
    (hmoved : Moved id t t' s (commitReceive db clock tenantId id items t s))
    (h : t.itemOf p = some i) (hr : received items p = some r) :
    t'.itemOf p = some (receivedItem r i) := by
  obtain ⟨s', hbefore, hafter⟩ := exists_goods_commitReceive db clock tenantId id items s h
  obtain ⟨_, rfl⟩ := itemOf_eq_some_iff.mp h
  obtain ⟨hitem, hitem'⟩ := item_goods_of_moved (p := i.productId) hmoved
  rw [← hitem', hafter, (receiveItem_goods (l := t.toLocationId) hr).1, hbefore, hitem, h]
  rfl

theorem itemOf_commitReceive_of_none
    (hmoved : Moved id t t' s (commitReceive db clock tenantId id items t s))
    (h : t.itemOf p = none) : t'.itemOf p = none := by
  obtain ⟨hitem, hitem'⟩ := item_goods_of_moved (p := p) hmoved
  rw [← hitem', goods_commitReceive_of_none h, hitem, h]

/-- The items of a received transfer are those of the shipped one, each with what arrived. -/
theorem mem_items_commitReceive {j : StockTransferItem}
    (hmoved : Moved id t t' s (commitReceive db clock tenantId id items t s))
    (hnamed : ∀ i ∈ t.items, ∃ r, received items i.productId = some r) (hj : j ∈ t'.items) :
    ∃ i ∈ t.items, ∃ r, received items i.productId = some r ∧ receivedItem r i = j := by
  have hj' := itemOf_eq_some_iff.mpr ⟨hj, rfl⟩
  cases h : t.itemOf j.productId with
  | none =>
    rw [itemOf_commitReceive_of_none hmoved h] at hj'
    cases hj'
  | some i =>
    obtain ⟨hi, hp⟩ := itemOf_eq_some_iff.mp h
    obtain ⟨r, hr⟩ := hnamed i hi
    rw [itemOf_commitReceive hmoved h (hp ▸ hr)] at hj'
    exact ⟨i, hi, r, hr, Option.some.inj hj'⟩

/-- Receiving opens a layer of what arrived, at the cost stored on the item. -/
theorem layerValue_commitReceive (h : t.itemOf p = some i) (hr : received items p = some r) :
    (commitReceive db clock tenantId id items t s).layerValue p l = s.layerValue p l +
      if t.toLocationId = l then
        db.decimal (i.shippedUnitCost.getD 0) * (max 0 r.receivedQuantity : ℤ)
      else 0 := by
  obtain ⟨s', hbefore, hafter⟩ := exists_goods_commitReceive db clock tenantId id items s h
  obtain ⟨_, rfl⟩ := itemOf_eq_some_iff.mp h
  rw [layerValue_of_goods hafter, (receiveItem_goods hr).2.1, layerValue_of_goods hbefore]

/-- Receiving adds what arrived to what is on hand. -/
theorem totalOnHand_commitReceive (h : t.itemOf p = some i) (hr : received items p = some r) :
    (commitReceive db clock tenantId id items t s).totalOnHand p =
      s.totalOnHand p + max 0 r.receivedQuantity := by
  obtain ⟨s', hbefore, hafter⟩ := exists_goods_commitReceive db clock tenantId id items s h
  obtain ⟨_, rfl⟩ := itemOf_eq_some_iff.mp h
  rw [totalOnHand_of_goods hafter, (receiveItem_goods (l := t.toLocationId) hr).2.2,
    totalOnHand_of_goods hbefore]

end Received

section Cancelled

/-- An accepted cancellation commits the draft or the transfer in transit it has read. -/
theorem cancel_ok {m : String} (h : cancel db clock tenantId id s = .ok (m, s'))
    (hfind : s.transfers.find? id = some t) :
    s' = commitCancel db clock tenantId id t s ∧ (t.status = .draft ∨ t.status = .inTransit) := by
  obtain ⟨t', hread, h⟩ := Except.bind_eq_ok_iff.mp h
  obtain ⟨hfind', _, hstatus⟩ := readCancel_ok hread
  obtain rfl := Option.some.inj (hfind.symm.trans hfind')
  exact ⟨(congrArg Prod.snd (Except.ok.inj h)).symm, hstatus⟩

/-- What one turn of `cancel` does to the goods of its product. -/
theorem cancelItem_goods :
    (cancelItem db clock tenantId id t s i).layerValue i.productId l =
        s.layerValue i.productId l + (if t.fromLocationId = l then
          db.decimal (i.shippedUnitCost.getD 0) * (max 0 i.shippedQuantity : ℤ) else 0) ∧
      (cancelItem db clock tenantId id t s i).totalOnHand i.productId =
        s.totalOnHand i.productId + max 0 i.shippedQuantity := by
  rw [cancelItem]
  split
  · next hpos =>
    rw [max_eq_right hpos.le]
    refine ⟨?_, totalOnHand_updateBalance (.inl hpos.le)⟩
    rw [layerValue_receipt]
    simp only [reversalMovement, true_and]
  · next hpos =>
    rw [max_eq_left (not_lt.mp hpos)]
    refine ⟨?_, (add_zero _).symm⟩
    simp only [Int.cast_zero, mul_zero, ite_self, add_zero]

/-- Cancelling a shipped transfer opens a layer of what was shipped, at the cost stored on the
item. -/
theorem layerValue_commitCancel (hstatus : t.status = .inTransit) (h : t.itemOf p = some i) :
    (commitCancel db clock tenantId id t s).layerValue p l = s.layerValue p l +
      if t.fromLocationId = l then
        db.decimal (i.shippedUnitCost.getD 0) * (max 0 i.shippedQuantity : ℤ)
      else 0 := by
  obtain ⟨s', hbefore, hafter⟩ := exists_goods_commitCancel db clock tenantId id s hstatus h
  obtain ⟨_, rfl⟩ := itemOf_eq_some_iff.mp h
  rw [layerValue_of_goods hafter, cancelItem_goods.1, layerValue_of_goods hbefore]

/-- Cancelling a shipped transfer puts what was shipped back on hand. -/
theorem totalOnHand_commitCancel (hstatus : t.status = .inTransit) (h : t.itemOf p = some i) :
    (commitCancel db clock tenantId id t s).totalOnHand p =
      s.totalOnHand p + max 0 i.shippedQuantity := by
  obtain ⟨s', hbefore, hafter⟩ := exists_goods_commitCancel db clock tenantId id s hstatus h
  obtain ⟨_, rfl⟩ := itemOf_eq_some_iff.mp h
  rw [totalOnHand_of_goods hafter, (cancelItem_goods (l := t.fromLocationId)).2,
    totalOnHand_of_goods hbefore]

end Cancelled

end Invetrixa
