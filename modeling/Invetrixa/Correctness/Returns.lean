import Invetrixa.Library.Loops
import Invetrixa.Refinement.SaleSteps

/-!
# What refunds take back

A refund may name items of the sale with quantities, and these are received into stock under the
refund. The quantities are compared neither with what was sold nor with earlier refunds, so that
the stock gets back exactly what the requests name, and that for items of the sale only.

## Main definitions

- `RefundCall`, `ReturnRun` — refunds of one sale, with what was returned for which item
- `ReturnRun.Sold` — nothing is returned that was not sold

## Main results

- `movements_returnStock` — the receipts of one refund
- `returned_sold_iff`, `returned_more_than_sold`
-/

namespace Invetrixa

open Rowstore Requests MovementService SaleService RefundService

/-- A refund of a sale that is asked for. -/
structure RefundCall where
  clock : Clock
  tenantId : Id
  dto : CreateRefundDto

def RefundCall.call (saleId : Id) (r : RefundCall) : Call :=
  ⟨r.clock, .createRefund r.tenantId saleId r.dto⟩

/-- The movements made between two stores. -/
def newMovements (before after : Store) : List StockMovement :=
  (after.movements.rows.drop before.movements.rows.length).map Prod.snd

/-- The store, the items that were named so far, and the movements with the item each was made
for. -/
structure ReturnRun where
  store : Store
  named : List RefundItemDto
  returned : List (RefundItemDto × StockMovement)

/-- The run after a refund: the items are received in the order in which they are named. -/
def ReturnRun.exec (db : Database) (saleId : Id) (r : RefundCall) (run : ReturnRun) : ReturnRun :=
  let items := r.dto.items.getD []
  let store := step db (r.call saleId) run.store
  { store
    named := run.named ++ items
    returned := run.returned ++ items.zip (newMovements run.store store) }

def ReturnRun.start (s : Store) : ReturnRun := ⟨s, [], []⟩

/-- The quantity named of a sale item. -/
def ReturnRun.namedOf (run : ReturnRun) (saleItemId : Id) : ℚ :=
  (run.named.map fun item => if item.saleItemId = saleItemId then item.quantity else 0).sum

/-- The quantity received for a sale item. -/
def ReturnRun.returnedOf (run : ReturnRun) (saleItemId : Id) : ℚ :=
  (run.returned.map fun x =>
    if x.1.saleItemId = saleItemId then (x.2.quantity : ℚ) else 0).sum

/-- A movement takes back goods of a sale item. -/
structure StockMovement.TakesBack (saleItem : SaleItem) (m : StockMovement) : Prop where
  product : m.productId = saleItem.productId
  type : m.movementType = .in
  reference : m.referenceType = .return

/-- Every movement of the run takes back goods of an item of the sale, and of no item more than was
sold. -/
structure ReturnRun.Sold (s : Store) (saleId : Id) (run : ReturnRun) : Prop where
  all : newMovements s run.store = run.returned.map Prod.snd
  items : ∀ x ∈ run.returned, ∃ saleItem, (x.1.saleItemId, saleItem) ∈ s.itemsOf saleId ∧
    x.2.TakesBack saleItem
  bound : ∀ x ∈ s.itemsOf saleId, run.returnedOf x.1 ≤ x.2.quantity

variable {db : Database} {clock : Clock} {tenantId saleId : Id} {s s' : Store}
  {dto : CreateRefundDto}

section OneRefund

/-- The movements of a receipt, in the order of its items. -/
theorem movements_executeStockIn (dto : BulkStockInDto) (s : Store) :
    ∃ made, (executeStockIn db clock tenantId dto s).2.movements.rows = s.movements.rows ++ made ∧
      List.Forall₂ (fun item (m : StockMovement) => m.productId = item.productId ∧
        m.quantity = item.quantity ∧ m.movementType = .in ∧
        m.referenceType = dto.referenceType.getD .purchase) dto.items (made.map Prod.snd) := by
  rw [executeStockIn_eq]
  induction dto.items generalizing s with
  | nil => exact ⟨[], (List.append_nil _).symm, .nil⟩
  | cons item rest ih =>
    obtain ⟨made, hrows, hmade⟩ := ih
      (recordReceipt db clock (receivedMovement tenantId dto item) item.batchId s)
    let movement := receivedMovement tenantId dto item
    refine ⟨(s.movements.next, { movement with
      unitCost := db.decimal movement.unitCost
      totalCost := db.decimal movement.totalCost }) :: made, ?_, .cons ⟨rfl, rfl, rfl, rfl⟩ hmade⟩
    rw [List.foldl_cons, hrows]
    exact List.append_assoc _ _ _

/-- An item that is named is found among the items of the sale. -/
theorem findReturnedItems_item {saleItems : List (Id × SaleItem)} {item : RefundItemDto}
    {returned : SaleItem × ℚ}
    (h : (match saleItems.find? fun i => i.1 = item.saleItemId with
      | some saleItem => Except.ok (saleItem.2, item.quantity)
      | none => .error (HttpError.badRequest ("Sale item " ++ toString item.saleItemId ++
          " not found in this sale"))) = .ok returned) :
    (item.saleItemId, returned.1) ∈ saleItems ∧ returned.2 = item.quantity := by
  split at h
  · next found hfind =>
    obtain rfl := Except.ok.inj h
    have hid : found.1 = item.saleItemId := of_decide_eq_true (List.find?_some hfind :)
    exact ⟨hid ▸ List.mem_of_find?_eq_some hfind, rfl⟩
  · cases h

/-- A refund receives what it names, for items of the sale. -/
theorem movements_returnStock {refundId : Id} {read : SaleWithItems} {client : Store}
    (h : returnStock db clock tenantId refundId dto read client s = .ok s') :
    ∃ made, s'.movements.rows = s.movements.rows ++ made ∧
      List.Forall₂ (fun (item : RefundItemDto) (m : StockMovement) =>
        (∃ saleItem, (item.saleItemId, saleItem) ∈ read.items ∧ m.TakesBack saleItem) ∧
          (m.quantity : ℚ) = item.quantity) (dto.items.getD []) (made.map Prod.snd) := by
  rw [returnStock] at h
  split at h
  · obtain ⟨returned, hfound, h⟩ := Except.bind_eq_ok_iff.mp h
    obtain ⟨_, _, h⟩ := Except.bind_eq_ok_iff.mp h
    obtain ⟨received, hreceived, h⟩ := Except.bind_eq_ok_iff.mp h
    obtain rfl : (executeStockIn db clock tenantId
        (returnStockIn read.sale.locationId refundId received) s).2 = s' := Except.ok.inj h
    obtain ⟨made, hrows, hmade⟩ := movements_executeStockIn
      (returnStockIn read.sale.locationId refundId received) s
    refine ⟨made, hrows, ?_⟩
    -- From the named items to those of the sale, from these to what is received, and to movements.
    have hmoved : List.Forall₂ (fun (x : SaleItem × ℚ) (m : StockMovement) =>
        m.TakesBack x.1 ∧ (m.quantity : ℚ) = x.2) returned (made.map Prod.snd) := by
      refine Loops.forall₂_comp (fun x item m hitem hm => ?_)
        (Except.forall₂_of_mapM_ok hreceived) hmade
      obtain ⟨quantity, hquantity, hitem⟩ := Except.bind_eq_ok_iff.mp hitem
      obtain rfl := Except.ok.inj hitem
      obtain ⟨hproduct, hsame, htype, hreference⟩ := hm
      exact ⟨⟨hproduct, htype, hreference⟩, by rw [hsame, intColumn_ok hquantity]; rfl⟩
    refine Loops.forall₂_comp (fun item x m hitem hm => ?_)
      (Except.forall₂_of_mapM_ok hfound) hmoved
    obtain ⟨hmem, hquantity⟩ := findReturnedItems_item hitem
    exact ⟨⟨x.1, hmem, hm.1⟩, hm.2.trans hquantity⟩
  · next hnone =>
    obtain rfl := Except.ok.inj h
    rw [List.length_eq_zero_iff.mp (Nat.eq_zero_of_not_pos hnone)]
    exact ⟨[], (List.append_nil _).symm, .nil⟩

/-- An accepted refund leaves the items of its sale, and receives what it names. -/
theorem movements_of_accepted {r : RefundCall} (h : Accepted db s (r.call saleId)) :
    (step db (r.call saleId) s).itemsOf saleId = s.itemsOf saleId ∧
    ∃ made, (step db (r.call saleId) s).movements.rows = s.movements.rows ++ made ∧
      List.Forall₂ (fun (item : RefundItemDto) (m : StockMovement) =>
        (∃ saleItem, (item.saleItemId, saleItem) ∈ s.itemsOf saleId ∧ m.TakesBack saleItem) ∧
          (m.quantity : ℚ) = item.quantity) (r.dto.items.getD []) (made.map Prod.snd) := by
  obtain ⟨_, id, hrefund⟩ :=
    ok_of_accepted (createRefund db r.clock r.tenantId saleId r.dto) rfl h
  generalize step db (r.call saleId) s = s' at hrefund ⊢
  obtain ⟨⟨read, total⟩, hread, hrefund⟩ := Except.bind_eq_ok_iff.mp hrefund
  have hpos := pos_executeRefund hrefund
  obtain ⟨s₁, hreturn, rfl⟩ := executeRefund_ok hrefund
  obtain ⟨_, _, _, hitems, _⟩ := readRefund_ok hread
  obtain ⟨made, hrows, hmade⟩ := movements_returnStock hreturn
  refine ⟨?_, made, hrows, hitems ▸ hmade⟩
  have hsaleItems : _ = s.saleItems := congrArg PosTables.saleItems hpos
  exact congrArg (fun t : Serial SaleItem => t.rows.filter fun r => r.2.saleId = saleId) hsaleItems

end OneRefund

section Run

/-- The run accounts for the movements since its start: each was made for an item that was named,
one of the sale, with the quantity that was named. -/
structure ReturnRun.Accounted (s : Store) (saleId : Id) (run : ReturnRun) : Prop where
  saleItems : run.store.itemsOf saleId = s.itemsOf saleId
  movements : ∃ made, run.store.movements.rows = s.movements.rows ++ made ∧
    made.map Prod.snd = run.returned.map Prod.snd
  named : run.returned.map Prod.fst = run.named
  returned : ∀ x ∈ run.returned,
    (∃ saleItem, (x.1.saleItemId, saleItem) ∈ s.itemsOf saleId ∧ x.2.TakesBack saleItem) ∧
      (x.2.quantity : ℚ) = x.1.quantity

theorem accounted_exec {run : ReturnRun} (hrun : run.Accounted s saleId) {r : RefundCall}
    (h : Accepted db run.store (r.call saleId)) : (run.exec db saleId r).Accounted s saleId := by
  obtain ⟨hitems, made', hrows', hmade'⟩ := movements_of_accepted h
  obtain ⟨made, hrows, hmade⟩ := hrun.movements
  rw [hrun.saleItems] at hmade'
  have hnew : newMovements run.store (step db (r.call saleId) run.store) =
      made'.map Prod.snd := by
    rw [newMovements, hrows', List.drop_left]
  have hlength := hmade'.length_eq
  refine ⟨hitems.trans hrun.saleItems, ⟨made ++ made', ?_, ?_⟩, ?_, fun x hx => ?_⟩
  · exact hrows'.trans (by rw [hrows, List.append_assoc])
  · simp only [ReturnRun.exec, hnew, List.map_append, hmade]
    rw [List.map_snd_zip hlength.ge]
  · simp only [ReturnRun.exec, hnew, List.map_append, hrun.named]
    rw [List.map_fst_zip hlength.le]
  · rcases List.mem_append.mp hx with hx | hx
    · exact hrun.returned x hx
    · rw [hnew] at hx
      exact List.forall₂_zip hmade' hx

/-- What is received for an item is what was named of it. -/
theorem returnedOf_eq {run : ReturnRun} (hrun : run.Accounted s saleId) (saleItemId : Id) :
    run.returnedOf saleItemId = run.namedOf saleItemId := by
  rw [ReturnRun.returnedOf, ReturnRun.namedOf, ← hrun.named, List.map_map]
  congr 1
  refine List.map_congr_left fun x hx => ?_
  rw [(hrun.returned x hx).2]
  rfl

/-- In a run of refunds of one sale, nothing is returned that was not sold exactly when the
quantities that the requests name for an item add up to no more than its own. -/
theorem returned_sold_iff {run : ReturnRun}
    (h : Runs (ReturnRun.exec db saleId) (fun run r => Accepted db run.store (r.call saleId))
      (.start s) run) :
    run.Sold s saleId ↔ ∀ x ∈ s.itemsOf saleId, run.namedOf x.1 ≤ x.2.quantity := by
  have haccounted : run.Accounted s saleId := by
    refine Runs.invariant (I := ReturnRun.Accounted s saleId) h ?_ ?_
    · exact ⟨rfl, ⟨[], (List.append_nil _).symm, rfl⟩, rfl,
        fun _ hmem => absurd hmem List.not_mem_nil⟩
    · exact fun _ _ hrun hok => accounted_exec hrun hok
  obtain ⟨made, hrows, hmade⟩ := haccounted.movements
  constructor
  · intro hsold x hx
    rw [← returnedOf_eq haccounted]
    exact hsold.bound x hx
  · intro hnamed
    refine ⟨?_, fun x hx => (haccounted.returned x hx).1, fun x hx => ?_⟩
    · rw [newMovements, hrows, List.drop_left, hmade]
    · rw [returnedOf_eq haccounted]
      exact hnamed x hx

/-- Two cups are sold for five each, and one of them is taken back. -/
def cupsSold : Store :=
  serveAll .exact
    [⟨⟨0, 2024⟩, .stockIn 0 ⟨0, none, none, [⟨0, 10, 1, none⟩]⟩⟩,
      ⟨⟨1, 2024⟩, .createSale 0 ⟨0, none, none, none, [⟨0, 2, some 5, none⟩], [⟨.cash, 10⟩], none⟩⟩]
    (Store.initial .till)

def cupTakenBack : ReturnRun :=
  [⟨⟨2, 2024⟩, 0, ⟨5, .cash, some [⟨0, 1⟩]⟩⟩, ⟨⟨3, 2024⟩, 0, ⟨2, .cash, none⟩⟩].foldl
    (fun run r => run.exec .exact 0 r) (.start cupsSold)

theorem returned_sold_iff_cup : cupTakenBack.Sold cupsSold 0 ↔
    ∀ x ∈ cupsSold.itemsOf 0, cupTakenBack.namedOf x.1 ≤ x.2.quantity :=
  have hrun : Runs (ReturnRun.exec .exact 0)
      (fun run r => Accepted .exact run.store (r.call 0)) (.start cupsSold) cupTakenBack :=
    Runs.of_allMeet (by decide +kernel)
  returned_sold_iff hrun

/-- A refund of one names five cups, in two lines of the same item. -/
def cupsMadeUp : ReturnRun :=
  [⟨⟨2, 2024⟩, 0, ⟨1, .cash, some [⟨0, 3⟩, ⟨0, 2⟩]⟩⟩].foldl
    (fun run r => run.exec .exact 0 r) (.start cupsSold)

/-- Five cups go back into stock of an item of two. -/
theorem returned_more_than_sold :
    Reachable .exact .till cupsSold ∧
    Runs (ReturnRun.exec .exact 0) (fun run r => Accepted .exact run.store (r.call 0))
      (.start cupsSold) cupsMadeUp ∧
    (cupsSold.itemsOf 0).map (fun x => (x.1, x.2.quantity)) = [(0, 2)] ∧
    (newMovements cupsSold cupsMadeUp.store).map (fun m => (m.productId, m.quantity)) =
      [(0, 3), (0, 2)] ∧
    cupsMadeUp.returnedOf 0 = 5 ∧ cupsMadeUp.store.onHand 0 0 = cupsSold.onHand 0 0 + 5 :=
  ⟨reachable_serveAll _ _ _, Runs.of_allMeet (by decide +kernel), by decide +kernel,
    by decide +kernel, by decide +kernel, by decide +kernel⟩

end Run

end Invetrixa
