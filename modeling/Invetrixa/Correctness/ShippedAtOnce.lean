import Invetrixa.Correctness.Consumption
import Invetrixa.Correctness.LocationScope
import Invetrixa.Refinement.Transfers

/-!
# Transfers that are shipped when they are created

A transfer that is created `IN_TRANSIT` is written as a draft first and shipped by a method with
checks and a transaction of its own. When that refuses, for lack of stock or because a cost is too
large for its column, the request throws and the draft stays.

## Main definitions

- `CreateTransferDto.Accepted` — what the checks before the draft ask for
- `CreateTransferDto.Covered`, `CreateTransferDto.CostsFit` — what the shipment asks for
- `ShippedFrom` — the transfer exists and its items have left the source
- `AllOrNothing` — a request has shipped its transfer, or has thrown and left the store alone

## Main results

- `accepted_of_createDraft`, `readShip_ok_iff`, `executeShip_eq_ok_iff`, `ship_eq_ok_iff`
- `shipped_commitShip` — what the transaction does for every item
- `create_allOrNothing_iff` — the request is all or nothing unless the shipment is refused
-/

namespace Invetrixa

open Rowstore Requests BalanceService ValuationService StockValidationService TransferService

variable {db : Database} {clock : Clock} {tenantId id : Id} {s s' : Store}
  {dto : CreateTransferDto}

/-- What `create` checks of a request before it writes the draft, the number among it, and what the
columns of the draft take. -/
structure CreateTransferDto.Accepted (clock : Clock) (tenantId : Id) (dto : CreateTransferDto)
    (s : Store) : Prop where
  locations_ne : dto.fromLocationId ≠ dto.toLocationId
  locations : ∀ l ∈ [dto.fromLocationId, dto.toLocationId], ∃ location,
    s.locations.find? l = some location ∧ location.tenantId = tenantId ∧ location.status = .active
  products : ∀ item ∈ dto.items, ∃ p, s.products.find? item.productId = some p ∧
    (p.tenantId = tenantId ∧ p.deletedAt = none) ∧ p.productType ≠ .variable
  number : ∀ r ∈ s.transfers.rows, r.2.tenantId = tenantId →
    r.2.transferNumber ≠ generateTransferNumber clock tenantId s
  quantities : ∀ item ∈ dto.items, FitsInt item.requestedQuantity
  note : Storable dto.note
  items : (dto.items.map TransferItemDto.productId).Nodup

/-- The source has enough available of each item. -/
def CreateTransferDto.Covered (tenantId : Id) (dto : CreateTransferDto) (s : Store) : Prop :=
  ∀ item ∈ dto.items,
    item.requestedQuantity ≤ s.available tenantId item.productId dto.fromLocationId

/-- The columns take the unit cost of each item at the source, and what its quantity comes to. -/
def CreateTransferDto.CostsFit (db : Database) (tenantId : Id) (dto : CreateTransferDto)
    (s : Store) : Prop :=
  ∀ item ∈ dto.items,
    let unitCost := calculateWAC item.productId dto.fromLocationId tenantId s
    db.Fits 12 unitCost ∧ db.Fits 14 (unitCost * item.requestedQuantity)

/-- The requested transfer is under way, and what it carries has left the source: its balances,
its layers as far as they reached, and a movement for each item. -/
structure ShippedFrom (tenantId : Id) (dto : CreateTransferDto) (id : Id) (s s' : Store) :
    Prop where
  transfer : ∃ t, s'.transfers.find? id = some t ∧ t.status = .inTransit ∧
    t.tenantId = tenantId ∧ t.fromLocationId = dto.fromLocationId ∧
    t.toLocationId = dto.toLocationId ∧
    ∀ item ∈ dto.items, ∃ i ∈ t.items, i.productId = item.productId ∧
      i.requestedQuantity = item.requestedQuantity ∧ i.shippedQuantity = item.requestedQuantity
  balances : ∀ item ∈ dto.items, ∃ b,
    s.balances.find? (item.productId, dto.fromLocationId) = some b ∧
    s'.balances.find? (item.productId, dto.fromLocationId) =
      some { b with onHandQuantity := b.onHandQuantity - item.requestedQuantity }
  layers : ∀ item ∈ dto.items,
    getAvailableQuantity item.productId dto.fromLocationId tenantId s' =
      getAvailableQuantity item.productId dto.fromLocationId tenantId s -
        min item.requestedQuantity
          (getAvailableQuantity item.productId dto.fromLocationId tenantId s)
  movements : ∀ item ∈ dto.items, ∃ r ∈ s'.movements.rows, r.2.transferId = some id ∧
    r.2.movementType = .out ∧ r.2.productId = item.productId ∧
    r.2.locationId = dto.fromLocationId ∧ r.2.quantity = item.requestedQuantity

/-- The transfer is there and shipped, or the request throws and nothing has changed. -/
def AllOrNothing (db : Database) (clock : Clock) (tenantId : Id) (dto : CreateTransferDto)
    (s : Store) : Prop :=
  match TransferService.create db clock tenantId dto s with
  | (.ok response, s') => ShippedFrom tenantId dto response.transferId s s'
  | (.error _, s') => s' = s

section Checks

theorem validateLocations_ok_iff {locationIds : List Id} :
    validateLocations s tenantId locationIds = .ok () ↔
      ∀ l ∈ locationIds, ∃ location, s.locations.find? l = some location ∧
        location.tenantId = tenantId ∧ location.status = .active := by
  rw [validateLocations, forM_eq_ok_iff]
  simp only [mem_unique]
  refine forall₂_congr fun l _ => ?_
  rw [validateLocation]
  cases s.locations.find? l with
  | none => simp
  | some location =>
    by_cases hactive : location.tenantId = tenantId ∧ location.status = .active
    · simp [hactive]
    · simp [hactive]

/-- A request that passes the checks has its draft written. -/
theorem createDraft_of_accepted (h : CreateTransferDto.Accepted clock tenantId dto s) :
    ∃ t : StockTransfer, createDraft clock tenantId dto s =
        .ok ((s.transfers.next, generateTransferNumber clock tenantId s),
          { s with transfers := s.transfers.create t }) ∧
      t.status = .draft ∧ t.tenantId = tenantId ∧ t.fromLocationId = dto.fromLocationId ∧
      t.toLocationId = dto.toLocationId ∧ t.items = dto.items.map newItem := by
  have hproducts : validateProducts s tenantId (dto.items.map TransferItemDto.productId) = .ok () :=
    validateProducts_ok_iff.mpr (List.forall_mem_map.mpr h.products)
  have hnumber : ¬(s.transfers.rows.any fun r =>
      r.2.transferNumber = generateTransferNumber clock tenantId s ∧ r.2.tenantId = tenantId) := by
    rw [List.any_eq_true]
    rintro ⟨r, hr, heq⟩
    obtain ⟨hsame, htenant⟩ := of_decide_eq_true heq
    exact h.number r hr htenant hsame
  have hquantities : ¬(dto.items.any fun item => ¬FitsInt item.requestedQuantity) := by
    rw [List.any_eq_true]
    rintro ⟨item, hitem, hwide⟩
    exact of_decide_eq_true hwide (h.quantities item hitem)
  have hitems : ((dto.items.map newItem).map StockTransferItem.productId).Nodup := by
    rw [List.map_map]
    exact h.items
  rw [createDraft, dif_neg h.locations_ne, validateLocations_ok_iff.mpr h.locations, hproducts]
  simp only [insertTransfer, bind, Except.bind, if_neg hnumber, if_neg hquantities,
    if_neg (not_not.mpr h.note), dif_pos hitems]
  exact ⟨_, rfl, rfl, rfl, rfl, rfl, rfl⟩

/-- A draft is written only for a request that passes the checks. -/
theorem accepted_of_createDraft {r : (Id × String) × Store}
    (h : createDraft clock tenantId dto s = .ok r) :
    CreateTransferDto.Accepted clock tenantId dto s := by
  rw [createDraft] at h
  split at h
  · cases h
  · next hne =>
    obtain ⟨_, hlocations, h⟩ := Except.bind_eq_ok_iff.mp h
    obtain ⟨_, hproducts, h⟩ := Except.bind_eq_ok_iff.mp h
    obtain ⟨_, hinsert, _⟩ := Except.bind_eq_ok_iff.mp h
    rw [insertTransfer] at hinsert
    obtain ⟨hnumber, hinsert⟩ := Except.ite_error_eq_ok_iff.mp hinsert
    obtain ⟨hquantities, hinsert⟩ := Except.ite_error_eq_ok_iff.mp hinsert
    obtain ⟨hnote, hinsert⟩ := Except.ite_error_eq_ok_iff.mp hinsert
    split at hinsert
    · next hitems =>
      rw [List.map_map] at hitems
      refine ⟨hne, validateLocations_ok_iff.mp hlocations,
        fun item hitem => validateProducts_ok_iff.mp hproducts _ (List.mem_map_of_mem hitem),
        fun r hr htenant heq => ?_, fun item hitem => by_contra fun hwide => ?_,
        not_not.mp hnote, hitems⟩
      · exact hnumber (List.any_eq_true.mpr ⟨r, hr, decide_eq_true ⟨heq, htenant⟩⟩)
      · exact hquantities (List.any_eq_true.mpr ⟨item, hitem, decide_eq_true hwide⟩)
    · cases hinsert

/-- A draft can be shipped exactly if the source has enough of each of its items. -/
theorem readShip_ok_iff {t : StockTransfer} (hfind : s.transfers.find? id = some t)
    (htenant : t.tenantId = tenantId) (hdraft : t.status = .draft) :
    readShip tenantId id s = .ok t ↔ ∀ i ∈ t.items,
      i.requestedQuantity ≤ s.available tenantId i.productId t.fromLocationId := by
  refine ⟨fun h => (readShip_ok h).2.2.2, fun h => ?_⟩
  have hfound : findTransfer tenantId id s = .ok t := by
    simp only [findTransfer, hfind, if_pos htenant]
  have havailable : validateStockAvailability s tenantId t.fromLocationId
      (t.items.map fun item => (item.productId, item.requestedQuantity)) = .ok () :=
    validateStockAvailability_ok_iff.mpr (List.forall_mem_map.mpr h)
  simp only [readShip, hfound, bind, Except.bind, hdraft, ne_eq, not_true_eq_false, if_false,
    havailable]
  rfl

end Checks

section Shipment

variable {t : StockTransfer}

theorem checkCost_eq_ok_iff {i : StockTransferItem} :
    checkCost db tenantId t s i = .ok () ↔
      let unitCost := calculateWAC i.productId t.fromLocationId tenantId s
      db.Fits 12 unitCost ∧ db.Fits 14 (unitCost * i.requestedQuantity) := by
  simp only [checkCost, Except.bind_eq_ok_iff, Database.decimalColumn_eq_ok_iff]
  constructor
  · rintro ⟨_, ⟨_, hunit⟩, _, ⟨_, htotal⟩, _⟩
    exact ⟨hunit, htotal⟩
  · rintro ⟨hunit, htotal⟩
    exact ⟨_, ⟨rfl, hunit⟩, _, ⟨rfl, htotal⟩, rfl⟩

/-- What an item costs is not touched by items of other products. -/
theorem checkCost_shipItem_of_ne {i j : StockTransferItem} (hne : i.productId ≠ j.productId) :
    checkCost db tenantId t (shipItem db tenantId id t s i) j = checkCost db tenantId t s j := by
  have hgoods : (shipItem db tenantId id t s i).goods id j.productId = s.goods id j.productId :=
    goods_shipItem_of_ne hne
  have hlayers : availableLayers j.productId t.fromLocationId tenantId
      (shipItem db tenantId id t s i) = availableLayers j.productId t.fromLocationId tenantId s :=
    congrFun (congrFun (congrArg Goods.available hgoods) t.fromLocationId) tenantId
  rw [checkCost, checkCost, calculateWAC, calculateWAC, hlayers]

/-- The database takes a shipment exactly if it takes the cost that each item has before it. -/
theorem executeShip_eq_ok_iff :
    executeShip db clock tenantId id t s = .ok s' ↔
      s' = commitShip db clock tenantId id t s ∧ ∀ i ∈ t.items,
        let unitCost := calculateWAC i.productId t.fromLocationId tenantId s
        db.Fits 12 unitCost ∧ db.Fits 14 (unitCost * i.requestedQuantity) := by
  rw [executeShip, Loops.foldlM_checked_eq_ok_iff
    (fun s i j hne => checkCost_shipItem_of_ne (s := s) hne) t.items_nodup]
  exact and_congr_right fun _ => forall₂_congr fun i _ => checkCost_eq_ok_iff

/-- A draft is shipped exactly if the source covers it and the columns take its costs. -/
theorem ship_eq_ok_iff {r : String × Store} (hfind : s.transfers.find? id = some t)
    (htenant : t.tenantId = tenantId) (hdraft : t.status = .draft) :
    ship db clock tenantId id s = .ok r ↔
      r = ("Transfer shipped successfully", commitShip db clock tenantId id t s) ∧
        (∀ i ∈ t.items,
          i.requestedQuantity ≤ s.available tenantId i.productId t.fromLocationId) ∧
        ∀ i ∈ t.items,
          let unitCost := calculateWAC i.productId t.fromLocationId tenantId s
          db.Fits 12 unitCost ∧ db.Fits 14 (unitCost * i.requestedQuantity) := by
  rw [← readShip_ok_iff hfind htenant hdraft, ship]
  constructor
  · intro h
    obtain ⟨t', hread, h⟩ := Except.bind_eq_ok_iff.mp h
    obtain ⟨s₁, hcommit, h⟩ := Except.bind_eq_ok_iff.mp h
    obtain rfl := Option.some.inj (hfind.symm.trans (readShip_ok hread).1)
    obtain ⟨rfl, hfits⟩ := executeShip_eq_ok_iff.mp hcommit
    exact ⟨(Except.ok.inj h).symm, hread, hfits⟩
  · rintro ⟨rfl, hread, hfits⟩
    have hcommit : executeShip db clock tenantId id t s =
        .ok (commitShip db clock tenantId id t s) := executeShip_eq_ok_iff.mpr ⟨rfl, hfits⟩
    exact Except.bind_eq_ok_iff.mpr ⟨t, hread, Except.bind_eq_ok_iff.mpr ⟨_, hcommit, rfl⟩⟩

/-- A line of its own place adds its own quantity. -/
theorem netChange_of_mem {lines : List Line} {line : Line}
    (hnodup : (lines.map fun line => (line.productId, line.locationId)).Nodup)
    (hline : line ∈ lines) : netChange lines line.productId line.locationId = line.quantity := by
  obtain ⟨before, after, rfl⟩ := List.append_of_mem hline
  rw [List.map_append, List.map_cons, List.nodup_middle, List.nodup_cons, List.mem_append,
    not_or] at hnodup
  obtain ⟨⟨hbefore, hafter⟩, _⟩ := hnodup
  have hother {lines : List Line}
      (h : (line.productId, line.locationId) ∉ lines.map fun line =>
        (line.productId, line.locationId)) :
      netChange lines line.productId line.locationId = 0 := by
    refine netChange_eq_zero fun line' hline' hplace => h ?_
    exact List.mem_map.mpr ⟨line', hline', Prod.ext hplace.1 hplace.2⟩
  rw [← List.singleton_append, netChange_append, netChange_append, netChange_singleton,
    hother hbefore, hother hafter, Line.change, if_pos ⟨rfl, rfl⟩, zero_add, add_zero]

/-- A shipped item is taken from the layers at the source, as far as these reach. -/
theorem getAvailableQuantity_commitShip {i : StockTransferItem} (hi : i ∈ t.items)
    (hpos : 0 ≤ i.requestedQuantity) :
    getAvailableQuantity i.productId t.fromLocationId tenantId
        (commitShip db clock tenantId id t s) =
      getAvailableQuantity i.productId t.fromLocationId tenantId s -
        min i.requestedQuantity
          (getAvailableQuantity i.productId t.fromLocationId tenantId s) := by
  obtain ⟨s', hbefore, hafter⟩ := exists_goods_commitShip db clock tenantId id s
    (itemOf_eq_some_iff.mpr ⟨hi, rfl⟩)
  have hquantity {s₁ s₂ : Store} (h : s₁.goods id i.productId = s₂.goods id i.productId) :
      getAvailableQuantity i.productId t.fromLocationId tenantId s₁ =
        getAvailableQuantity i.productId t.fromLocationId tenantId s₂ := by
    have hlayers : availableLayers i.productId t.fromLocationId tenantId s₁ =
        availableLayers i.productId t.fromLocationId tenantId s₂ :=
      congrFun (congrFun (congrArg Goods.available h) t.fromLocationId) tenantId
    rw [getAvailableQuantity, getAvailableQuantity, hlayers]
  rw [hquantity hafter, ← hquantity hbefore, shipItem_eq]
  exact getAvailableQuantity_consumeLayers_min hpos

/-- A movement is booked for each shipped item. -/
theorem movements_commitShip {i : StockTransferItem} (hi : i ∈ t.items) :
    ∃ r ∈ (commitShip db clock tenantId id t s).movements.rows, r.2.transferId = some id ∧
      r.2.movementType = .out ∧ r.2.productId = i.productId ∧
      r.2.locationId = t.fromLocationId ∧ r.2.quantity = i.requestedQuantity := by
  refine Loops.forall_foldl (P := fun (i : StockTransferItem) (s : Store) =>
    ∃ r ∈ s.movements.rows, r.2.transferId = some id ∧ r.2.movementType = .out ∧
      r.2.productId = i.productId ∧ r.2.locationId = t.fromLocationId ∧
      r.2.quantity = i.requestedQuantity) (fun s x _ y _ h => ?_) (fun s x _ => ?_) _ i hi
  · obtain ⟨r, hr, hbooked⟩ := h
    rw [shipItem_eq]
    exact ⟨r, List.mem_append_left _ hr, hbooked⟩
  · rw [shipItem_eq]
    exact ⟨_, List.mem_append_right _ List.mem_cons_self, rfl, rfl, rfl, rfl, rfl⟩

/-- What the transaction of `ship` does for a transfer that was created from a request. -/
theorem shipped_commitShip (hvalid : CreateTransferDto.Valid dto)
    (hcovered : CreateTransferDto.Covered tenantId dto s)
    (hfind : s.transfers.find? id = some t) (htenant : t.tenantId = tenantId)
    (hfrom : t.fromLocationId = dto.fromLocationId) (hto : t.toLocationId = dto.toLocationId)
    (hitems : t.items = dto.items.map newItem) :
    ShippedFrom tenantId dto id s (commitShip db clock tenantId id t s) := by
  have hmem : ∀ item ∈ dto.items, newItem item ∈ t.items := fun item hitem =>
    hitems ▸ List.mem_map_of_mem hitem
  obtain ⟨t', hmoved, hheader⟩ := moved_commitShip (s := s) db clock tenantId t hfind
  constructor
  case transfer =>
    refine ⟨t', hmoved.after, congrArg StockTransfer.status hheader,
      (congrArg StockTransfer.tenantId hheader).trans htenant,
      (congrArg StockTransfer.fromLocationId hheader).trans hfrom,
      (congrArg StockTransfer.toLocationId hheader).trans hto, fun item hitem => ?_⟩
    exact ⟨_, (mem_items_commitShip hmoved).mpr ⟨_, hmem item hitem, rfl⟩, rfl, rfl, rfl⟩
  case balances =>
    intro item hitem
    have hlines : (t.lines.map fun line => (line.productId, line.locationId)).Nodup := by
      have hkeys : (t.lines.map fun line => (line.productId, line.locationId)).map Prod.fst =
          t.items.map StockTransferItem.productId := by
        rw [StockTransfer.lines, List.map_map, List.map_map]
        rfl
      exact List.Nodup.of_map Prod.fst (hkeys ▸ t.items_nodup)
    have hline : (⟨item.productId, dto.fromLocationId, -item.requestedQuantity⟩ : Line) ∈ t.lines :=
      List.mem_map.mpr ⟨newItem item, hmem item hitem, by rw [hfrom]; rfl⟩
    have hposts : Posts s (commitShip db clock tenantId id t s) t.lines := by
      have hitems : Posts (updateTransfer id
          (fun t => { t with status := .inTransit, shippedAt := some clock.time }) s)
          (commitShip db clock tenantId id t s) t.lines :=
        posts_foldl fun s item => posts_shipItem id t item
      exact hitems.congr rfl rfl
    have hpos : 0 < s.available tenantId item.productId dto.fromLocationId :=
      lt_of_lt_of_le zero_lt_one ((hvalid.2 item hitem).trans (hcovered item hitem))
    obtain ⟨b, hb, _, _⟩ := exists_balance_of_available_pos hpos
    refine ⟨b, hb, ?_⟩
    rw [hposts.some _ _ b hb, netChange_of_mem hlines hline, sub_eq_add_neg]
  case layers =>
    intro item hitem
    rw [← hfrom]
    exact getAvailableQuantity_commitShip (hmem item hitem)
      (zero_le_one.trans (hvalid.2 item hitem))
  case movements =>
    intro item hitem
    rw [← hfrom]
    exact movements_commitShip (hmem item hitem)

end Shipment

section Create

/-- A request to create a transfer and ship it either does both or throws and leaves everything as
it was, exactly if it does not pass the checks of the draft, or the source has enough of each item
and what this costs is not too large for the columns. Otherwise the draft is there after the
request has thrown. -/
theorem create_allOrNothing_iff (hvalid : CreateTransferDto.Valid dto)
    (hstatus : dto.status = some .inTransit) :
    AllOrNothing db clock tenantId dto s ↔
      (CreateTransferDto.Accepted clock tenantId dto s →
        CreateTransferDto.Covered tenantId dto s ∧
          CreateTransferDto.CostsFit db tenantId dto s) := by
  rw [AllOrNothing, TransferService.create]
  by_cases haccepted : CreateTransferDto.Accepted clock tenantId dto s
  · obtain ⟨t, hdraft, hdrafted, htenant, hfrom, hto, hitems⟩ := createDraft_of_accepted haccepted
    simp only [hdraft, if_pos hstatus, haccepted, true_imp_iff]
    set s₁ : Store := { s with transfers := s.transfers.create t } with hs₁
    have hfind : s₁.transfers.find? s.transfers.next = some t := by
      rw [hs₁, Serial.find?_create, if_pos rfl]
    have hcovered : CreateTransferDto.Covered tenantId dto s ↔ ∀ i ∈ t.items,
        i.requestedQuantity ≤ s₁.available tenantId i.productId t.fromLocationId := by
      rw [hitems, hfrom, List.forall_mem_map]
      rfl
    have hcosts : CreateTransferDto.CostsFit db tenantId dto s ↔ ∀ i ∈ t.items,
        let unitCost := calculateWAC i.productId t.fromLocationId tenantId s₁
        db.Fits 12 unitCost ∧ db.Fits 14 (unitCost * i.requestedQuantity) := by
      rw [hitems, hfrom, List.forall_mem_map]
      rfl
    have hship (r : String × Store) : ship db clock tenantId s.transfers.next s₁ = .ok r ↔ _ :=
      ship_eq_ok_iff hfind htenant hdrafted
    rw [hcovered, hcosts]
    cases hresult : ship db clock tenantId s.transfers.next s₁ with
    | ok r =>
      -- The source has all items, and `ship` commits.
      obtain ⟨rfl, havailable, hfits⟩ := (hship r).mp hresult
      have hshipped : ShippedFrom tenantId dto s.transfers.next s₁
          (commitShip db clock tenantId s.transfers.next t s₁) :=
        shipped_commitShip hvalid (hcovered.mpr havailable) hfind htenant hfrom hto hitems
      refine iff_of_true ?_ ⟨havailable, hfits⟩
      exact ⟨hshipped.transfer, hshipped.balances, hshipped.layers, hshipped.movements⟩
    | error e =>
      -- `ship` refuses, and the draft stays.
      refine iff_of_false (fun hsame => ?_) fun hfits => ?_
      · have hnext : s₁.transfers.next = s.transfers.next := by rw [hsame]
        exact Nat.succ_ne_self _ hnext
      · have hok := (hship _).mpr ⟨rfl, hfits⟩
        rw [hresult] at hok
        cases hok
  · cases hdraft : createDraft clock tenantId dto s with
    | ok r => exact absurd (accepted_of_createDraft hdraft) haccepted
    | error e => simp [haccepted]

/-- Four of a product, from one location of the shop to the other. -/
def fourAtOnce : CreateTransferDto := ⟨0, 1, some .inTransit, [⟨0, 4⟩], none⟩

/-- The shop with ten of the product. -/
def tenInShop : Store :=
  step .exact ⟨⟨0, 2024⟩, .stockIn 0 ⟨0, none, none, [⟨0, 10, 1, none⟩]⟩⟩
    (Store.initial (.shop .fifo))

theorem create_allOrNothing_iff_ten : AllOrNothing .exact ⟨1, 2024⟩ 0 fourAtOnce tenInShop := by
  refine (create_allOrNothing_iff (by decide) rfl).mpr fun _ => ?_
  rw [CreateTransferDto.Covered, CreateTransferDto.CostsFit]
  decide +kernel

/-- The shop has none: the request throws, and the draft is there. -/
theorem draft_left_behind :
    CreateTransferDto.Valid fourAtOnce ∧ fourAtOnce.status = some .inTransit ∧
      ¬AllOrNothing .exact ⟨1, 2024⟩ 0 fourAtOnce (Store.initial (.shop .fifo)) := by
  refine ⟨by decide, rfl, fun h => ?_⟩
  rw [AllOrNothing] at h
  have hrefused : (TransferService.create .exact ⟨1, 2024⟩ 0 fourAtOnce
      (Store.initial (.shop .fifo))).1.isOk = false := by decide +kernel
  have hdraft : (TransferService.create .exact ⟨1, 2024⟩ 0 fourAtOnce
      (Store.initial (.shop .fifo))).2.transfers.next = 1 := by decide +kernel
  split at h
  · next response s' hcreate =>
    rw [hcreate] at hrefused
    cases hrefused
  · next e s' hcreate =>
    rw [hcreate, h] at hdraft
    cases hdraft

end Create

end Invetrixa
