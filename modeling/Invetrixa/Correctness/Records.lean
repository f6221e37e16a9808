import Invetrixa.Library.Evolution
import Invetrixa.Refinement.TenantSteps

/-!
# The books are append-only

No request rewrites what has been booked. Movements, the consumptions of layers, payments and
refunds are only ever added behind those that are there, and a valuation layer keeps all but what
remains in it, which only falls. A sale that is no longer a cart keeps its amounts, its items and
its payments; only its status moves on, and its refunds are added to.

## Main definitions

- `KeepsStockBooks` — what a later store has of the stock books of an earlier one
- `SaleStatus.Becomes` — the ways of a sale once it is made
- `PosTables.Keeps` — what becomes of the sales that are made

## Main results

- `books_append_only`
- `sale_final`
-/

namespace Invetrixa

open Rowstore Requests ValuationService SaleService RefundService CartCleanupService

variable {db : Database} {c : Catalogue} {s s' : Store} {ok : Store → Call → Prop} {call : Call}

section Stock

/-- A layer keeps all but what remains in it, which only falls. -/
def layerUse : Evolution ValuationLayer where
  Selected _ := True
  Becomes l l' := l' = { l with remainingQty := l'.remainingQty } ∧ l'.remainingQty ≤ l.remainingQty
  refl _ _ := ⟨rfl, le_rfl⟩
  trans l l' l'' := by
    rintro ⟨hl', hle⟩ ⟨hl'', hle'⟩
    refine ⟨?_, hle'.trans hle⟩
    rw [hl'', hl']
  selected _ _ _ _ := trivial

/-- What a later store has of the stock books of an earlier one. -/
structure KeepsStockBooks (s s' : Store) : Prop where
  movements : s.movements.rows <+: s'.movements.rows
  consumptions : s.consumptions.rows <+: s'.consumptions.rows
  layers : s.layers.Evolves layerUse s'.layers.toTable

theorem KeepsStockBooks.refl (s : Store) : KeepsStockBooks s s :=
  ⟨List.prefix_refl _, List.prefix_refl _, Table.Evolves.refl _ _⟩

theorem KeepsStockBooks.trans {s'' : Store} (h : KeepsStockBooks s s')
    (h' : KeepsStockBooks s' s'') : KeepsStockBooks s s'' where
  movements := h.movements.trans h'.movements
  consumptions := h.consumptions.trans h'.consumptions
  layers := h.layers.trans h'.layers

theorem KeepsStockBooks.of_eq (hmovements : s'.movements = s.movements)
    (hconsumptions : s'.consumptions = s.consumptions) (hlayers : s'.layers = s.layers) :
    KeepsStockBooks s s' where
  movements := hmovements ▸ List.prefix_refl _
  consumptions := hconsumptions ▸ List.prefix_refl _
  layers := hlayers ▸ Table.Evolves.refl _ _

/-- What remains of a layer after a draw is what was there without what was taken. -/
theorem evolves_consumeLayers (productId locationId tenantId : Id) (quantity : ℤ)
    (method : PricingMethod) :
    s.layers.Evolves layerUse
      (consumeLayers db productId locationId tenantId quantity method s).2.layers.toTable := by
  rw [consumeLayers_eq]
  apply Table.evolves_of_find? (find?_drain
    (draw_keys_nodup consumableLayers_keys_nodup quantity)
    fun d hd => (mem_consumableLayers (Lots.mem_of_mem_draw hd)).1)
  intro k layer _ _
  refine ⟨rfl, sub_le_self _ ?_⟩
  apply Lots.takenFrom_nonneg
  intro d hd
  exact (Lots.draw_bounds consumableLayers_size_nonneg hd).1

/-- A booking adds to the books and draws from layers, and rewrites nothing else. -/
theorem keepsStockBooks_book (b : Booking) :
    KeepsStockBooks s (book db b s) := by
  cases b with
  | receipt clock m batchId =>
    exact ⟨Serial.rows_prefix_create _ _, List.prefix_refl _, Serial.evolves_create _⟩
  | issue i =>
    simp only [book, recordIssue_eq]
    exact ⟨Serial.rows_prefix_create _ _, Serial.rows_prefix_foldl_create _ _ _,
      evolves_consumeLayers _ _ _ _ _⟩
  | shipItem tenantId id transfer item =>
    simp only [book, TransferService.shipItem_eq]
    exact ⟨Serial.rows_prefix_create _ _, List.prefix_refl _,
      evolves_consumeLayers _ _ _ _ _⟩
  | voidItem tenantId saleId locationId item =>
    exact ⟨Serial.rows_prefix_create _ _, List.prefix_refl _, Table.Evolves.refl _ _⟩
  | expireCarts read =>
    rw [book, releaseReservedQuantities_eq]
    exact .of_eq rfl rfl rfl
  | _ => exact .of_eq rfl rfl rfl

theorem keepsStockBooks_runs (hs : WellFormed s) (hrun : Runs (step db) ok s s') :
    KeepsStockBooks s s' := by
  apply runs_invariant (d := anyBooking) hrun hs (KeepsStockBooks.refl s)
  · exact fun _ _ _ h => h.elim
  · exact fun _ _ _ h => h.elim
  · exact fun _ _ _ _ _ => trivial
  · exact fun _ _ _ _ _ _ _ => trivial
  · intro s₁ b _ hkept _
    exact hkept.trans (keepsStockBooks_book b)

end Stock

section Sales

/-- What may become of the status of a sale: a completed sale is voided or refunded, and a partial
refund is followed by others. -/
def SaleStatus.Becomes (a b : SaleStatus) : Prop :=
  b = a ∨ a = .completed ∧ (b = .voided ∨ b = .partiallyRefunded ∨ b = .refunded) ∨
    a = .partiallyRefunded ∧ b = .refunded

instance (a b : SaleStatus) : Decidable (a.Becomes b) := inferInstanceAs (Decidable (_ ∨ _))

theorem SaleStatus.Becomes.trans {a b c : SaleStatus} (h : a.Becomes b) (h' : b.Becomes c) :
    a.Becomes c := by
  obtain rfl | ⟨rfl, h⟩ | ⟨rfl, rfl⟩ := h
  · exact h'
  · obtain rfl | rfl | rfl := h <;> obtain rfl | ⟨h, _⟩ | ⟨h, rfl⟩ := h' <;>
      first | decide | cases h
  · obtain rfl | ⟨h, _⟩ | ⟨h, _⟩ := h' <;> first | decide | cases h

/-- A sale that is made keeps all but its status, which moves on. -/
def madeSale : Evolution Sale where
  Selected sale := sale.status ≠ .draft
  Becomes sale sale' := sale' = { sale with status := sale'.status } ∧
    sale.status.Becomes sale'.status
  refl _ _ := ⟨rfl, .inl rfl⟩
  trans sale sale' sale'' := by
    rintro ⟨hsale', hbecomes⟩ ⟨hsale'', hbecomes'⟩
    refine ⟨?_, hbecomes.trans hbecomes'⟩
    rw [hsale'', hsale']
  selected sale sale' := by
    rintro hmade ⟨_, hsame | ⟨_, h | h | h⟩ | ⟨_, h⟩⟩
    · rwa [hsame]
    all_goals simp [h]

/-- The items of a sale. -/
def PosTables.items (t : PosTables) (saleId : Id) : List (Id × SaleItem) :=
  t.saleItems.rows.filter fun r => r.2.saleId = saleId

/-- The payments of a sale. -/
def PosTables.payments (t : PosTables) (saleId : Id) : List (Id × SalePayment) :=
  t.salePayments.rows.filter fun r => r.2.saleId = saleId

/-- The refunds of a sale. -/
def PosTables.refunds (t : PosTables) (saleId : Id) : List (Id × SaleRefund) :=
  t.saleRefunds.rows.filter fun r => r.2.saleId = saleId

/-- Nothing more can become of the sale. -/
def SaleStatus.Closed (a : SaleStatus) : Prop := a = .voided ∨ a = .refunded

theorem SaleStatus.Closed.eq {a b : SaleStatus} (h : a.Closed) (hbecomes : a.Becomes b) :
    b = a := by
  obtain rfl | rfl := h
  all_goals obtain rfl | ⟨h, _⟩ | ⟨h, _⟩ := hbecomes <;> first | rfl | cases h

/-- What becomes of the sales that are made: their rows move on, their items and payments stay,
and payments and refunds are only added, refunds not to a closed sale. -/
structure PosTables.Keeps (t t' : PosTables) : Prop where
  sales : t.sales.Evolves madeSale t'.sales.toTable
  items : ∀ id, t.Settled id → t'.items id = t.items id
  payments : ∀ id, t.Settled id → t'.payments id = t.payments id
  refunds : ∀ id sale, t.sales.find? id = some sale → sale.status.Closed →
    t'.refunds id = t.refunds id
  paymentRows : t.salePayments.rows <+: t'.salePayments.rows
  refundRows : t.saleRefunds.rows <+: t'.saleRefunds.rows

namespace PosTables.Keeps

variable {t t' t'' : PosTables} {id : Id}

theorem refl (t : PosTables) : t.Keeps t :=
  ⟨Table.Evolves.refl _ _, fun _ _ => rfl, fun _ _ => rfl, fun _ _ _ _ => rfl,
    List.prefix_refl _, List.prefix_refl _⟩

theorem settled (h : t.sales.Evolves madeSale t'.sales.toTable) (hid : t.Settled id) :
    t'.Settled id := by
  obtain ⟨sale, hfind, hmade⟩ := hid
  obtain ⟨sale', hfind', hbecomes⟩ := h id sale hfind hmade
  exact ⟨sale', hfind', madeSale.selected sale sale' hmade hbecomes⟩

theorem trans (h : t.Keeps t') (h' : t'.Keeps t'') : t.Keeps t'' where
  sales := h.sales.trans h'.sales
  items id hid := (h'.items id (settled h.sales hid)).trans (h.items id hid)
  payments id hid := (h'.payments id (settled h.sales hid)).trans (h.payments id hid)
  refunds id sale hfind hclosed := by
    have hmade : sale.status ≠ .draft := by
      obtain hstatus | hstatus := hclosed <;> rw [hstatus] <;> decide
    obtain ⟨sale', hfind', _, hbecomes⟩ := h.sales id sale hfind hmade
    rw [h'.refunds id sale' hfind' (hclosed.eq hbecomes ▸ hclosed)]
    exact h.refunds id sale hfind hclosed
  paymentRows := h.paymentRows.trans h'.paymentRows
  refundRows := h.refundRows.trans h'.refundRows

end PosTables.Keeps

variable {t : PosTables} {id saleId : Id}

/-- A sale that is made is none of those that a request makes or completes. -/
theorem PosTables.Settled.ne_of_draft {sale : Sale} (hid : s.pos.Settled id)
    (hfind : s.sales.find? saleId = some sale) (hdraft : sale.status = .draft) : id ≠ saleId := by
  rintro rfl
  obtain ⟨sale', hfind', hmade⟩ := hid
  obtain rfl := Option.some.inj (hfind.symm.trans hfind')
  exact hmade hdraft

theorem PosTables.Settled.ne_next (hid : s.pos.Settled id) : id ≠ s.sales.next := by
  rintro rfl
  obtain ⟨sale', hfind', _⟩ := hid
  have hnone : s.pos.sales.find? s.sales.next = none := s.sales.find?_next
  rw [hnone] at hfind'
  cases hfind'

/-- Payments of one sale leave those of the others. -/
theorem payments_createPayments (payments : List PaymentDto) (hne : id ≠ saleId)
    (salePayments : Serial SalePayment) :
    ((payments.foldl (fun t payment => t.create
      { saleId, amount := db.decimal payment.amount, method := payment.method })
        salePayments).rows.filter fun r => r.2.saleId = id) =
      salePayments.rows.filter fun r => r.2.saleId = id :=
  Serial.filter_rows_foldl_create (p := fun p : SalePayment => decide (p.saleId = id)) _ _
    fun _ _ => decide_eq_false hne.symm

/-- Requests keep the sales that are made. -/
theorem keeps_step (hpayments : s.pos.PaymentsSound) (h : SaleStep db s call t) :
    s.pos.Keeps t := by
  cases h with
  | kept => exact .refl _
  | opened clock tenantId dto =>
    exact ⟨Serial.evolves_create _, fun _ _ => rfl, fun _ _ => rfl, fun _ _ _ _ => rfl,
      List.prefix_refl _, List.prefix_refl _⟩
  | written _ cartId cart saleItems hfind hdraft hedit =>
    refine ⟨?_, ?_, fun _ _ => rfl, fun _ _ _ _ => rfl, List.prefix_refl _, List.prefix_refl _⟩
    · apply Serial.evolves_modify
      intro sale hsale hmade
      obtain rfl := Option.some.inj (hfind.symm.trans hsale)
      exact absurd hdraft hmade
    · intro id hid
      exact hedit.cartWritten.others id (hid.ne_of_draft hfind hdraft)
  | sold clock tenantId dto items totals hpasses hread =>
    refine ⟨Serial.evolves_create _, ?_, ?_, fun _ _ _ _ => rfl,
      Serial.rows_prefix_foldl_create _ _ _, List.prefix_refl _⟩
    · intro id hid
      exact Serial.filter_rows_foldl_create (p := fun i : SaleItem => decide (i.saleId = id)) _ _
        fun _ _ => decide_eq_false hid.ne_next.symm
    · exact fun id hid => payments_createPayments dto.payments hid.ne_next _
  | completed clock tenantId saleId payments read totals hpasses hread =>
    obtain ⟨hfind, _, hdraft, _⟩ := readComplete_ok hread
    refine ⟨?_, fun _ _ => rfl, ?_, fun _ _ _ _ => rfl, Serial.rows_prefix_foldl_create _ _ _,
      List.prefix_refl _⟩
    · apply Serial.evolves_modify
      intro sale hsale hmade
      obtain rfl := Option.some.inj (hfind.symm.trans hsale)
      exact absurd hdraft hmade
    · exact fun id hid => payments_createPayments payments (hid.ne_of_draft hfind hdraft) _
  | voided clock tenantId saleId read hread =>
    obtain ⟨hfind, _, hstatus, _⟩ := readVoid_ok hread
    refine ⟨?_, fun _ _ => rfl, fun _ _ => rfl, fun _ _ _ _ => rfl, List.prefix_refl _,
      List.prefix_refl _⟩
    apply Serial.evolves_modify
    intro sale hsale _
    obtain rfl := Option.some.inj (hfind.symm.trans hsale)
    exact ⟨rfl, .inr (.inl ⟨hstatus, .inl rfl⟩)⟩
  | refunded clock tenantId saleId dto read total hvalid hread =>
    obtain ⟨hfind, _, hstatus, _⟩ := readRefund_ok hread
    refine ⟨?_, fun _ _ => rfl, fun _ _ => rfl, ?_, List.prefix_refl _,
      Serial.rows_prefix_create _ _⟩
    · apply Serial.evolves_modify
      intro sale hsale _
      obtain rfl := Option.some.inj (hfind.symm.trans hsale)
      refine ⟨rfl, ?_⟩
      show read.sale.status.Becomes (refundStatus read.sale total dto.amount)
      have hafter := refundStatus_refunded read.sale total dto.amount
      obtain hstatus | hstatus := hstatus <;> obtain hafter | hafter := hafter <;>
        rw [hstatus, hafter] <;> decide
    · intro id sale hsale hclosed
      have hother : saleId ≠ id := by
        rintro rfl
        obtain rfl := Option.some.inj (hfind.symm.trans hsale)
        obtain hclosed | hclosed := hclosed <;> simp [hclosed] at hstatus
      simp [PosTables.refunds, Serial.create, List.filter_append, hother, Store.pos]
  | cleaned clock hkept =>
    have hspared : ∀ id, s.pos.Settled id → id ∉ abandonedCarts clock s := by
      intro id hid hmem
      obtain ⟨sale, hfind, hdraft, _⟩ := mem_abandonedCarts_iff.mp hmem
      exact hid.ne_of_draft hfind hdraft rfl
    have hrows : (s.pos.without (abandonedCarts clock s)).salePayments.rows =
        s.salePayments.rows := by
      apply List.filter_eq_self.mpr
      intro r hr
      have hmade := hspared _ (hpayments r.1 r.2 (Table.find?_of_mem_rows hr))
      simpa using hmade
    refine ⟨?_, ?_, ?_, fun _ _ _ _ => rfl, ?_, List.prefix_refl _⟩
    · apply Table.evolves_deleteWhere
      intro id sale hfind hmade
      exact decide_eq_false (hspared id ⟨sale, hfind, hmade⟩)
    · intro id hid
      refine Serial.filter_rows_deleteWhere (p := fun i : SaleItem => decide (i.saleId = id)) ?_
      intro k i _ hi
      rw [of_decide_eq_true hi]
      exact decide_eq_false (hspared id hid)
    · intro id _
      rw [PosTables.payments, hrows]
      rfl
    · exact hrows ▸ List.prefix_refl _

/-- What a run does to the sales that are made. -/
theorem keeps_runs (hs : WellFormed s) (hpayments : s.pos.PaymentsSound)
    (hrun : Runs (step db) ok s s') : s.pos.Keeps s'.pos := by
  have h : WellFormed s' ∧ s'.pos.PaymentsSound ∧ s.pos.Keeps s'.pos := by
    refine Runs.invariant (I := fun s' => WellFormed s' ∧ s'.pos.PaymentsSound ∧
      s.pos.Keeps s'.pos) hrun ⟨hs, hpayments, .refl _⟩ ?_
    rintro s₁ call ⟨hs₁, hpayments₁, hkept⟩ _
    have hsale : SaleStep db s₁ call (step db call s₁).pos := saleStep hs₁
    exact ⟨wellFormed_step hs₁, paymentsSound_step hpayments₁ hsale,
      hkept.trans (keeps_step hpayments₁ hsale)⟩
  exact h.2.2

end Sales

/-- Along every run the movements, the consumptions of layers, the payments and the refunds are
only added to, and a layer keeps all but what remains in it, which falls and stays positive or 0. -/
theorem books_append_only (h : Reachable db c s) (hrun : Runs (step db) ok s s') :
    s.movements.rows <+: s'.movements.rows ∧ s.consumptions.rows <+: s'.consumptions.rows ∧
      s.salePayments.rows <+: s'.salePayments.rows ∧ s.saleRefunds.rows <+: s'.saleRefunds.rows ∧
      ∀ id layer, s.layers.find? id = some layer → ∃ remaining, 0 ≤ remaining ∧
        remaining ≤ layer.remainingQty ∧
        s'.layers.find? id = some { layer with remainingQty := remaining } := by
  have hs := wellFormed_of_reachable h
  have hstock : KeepsStockBooks s s' := keepsStockBooks_runs hs hrun
  have hsales : s.pos.Keeps s'.pos := keeps_runs hs (paymentsSound_of_reachable h) hrun
  refine ⟨hstock.movements, hstock.consumptions, hsales.paymentRows, hsales.refundRows, ?_⟩
  intro id layer hfind
  obtain ⟨layer', hfind', heq, hle⟩ := hstock.layers id layer hfind trivial
  have hs' : WellFormed s' := Runs.invariant hrun hs fun _ _ hs _ => wellFormed_step hs
  refine ⟨layer'.remainingQty, (hs'.layers id layer' hfind').1, hle, ?_⟩
  rw [← heq]
  exact hfind'

/-- The cart, paid for. -/
def paidCart : Store :=
  serveAll .exact (openCart ++ [⟨⟨3, 2024⟩, .completeSale 0 0 [⟨.cash, 5⟩]⟩])
    (Store.initial (.shop .fifo))

/-- The sale is refunded in two parts. -/
def twoRefunds : List Call :=
  [⟨⟨4, 2024⟩, .createRefund 0 0 ⟨2, .cash, none⟩⟩, ⟨⟨5, 2024⟩, .createRefund 0 0 ⟨3, .cash, none⟩⟩]

theorem books_append_only_twoRefunds :
    paidCart.saleRefunds.rows <+: (serveAll .exact twoRefunds paidCart).saleRefunds.rows := by
  have hrun : Runs (step .exact) (fun _ _ => True) paidCart (serveAll .exact twoRefunds paidCart) :=
    runs_serveAll (by decide +kernel)
  exact (books_append_only (reachable_serveAll _ _ _) hrun).2.2.2.1

/-- Along every run a sale that is no longer a cart stays with its amounts, its items and its
payments. Its status moves on, its refunds are added to, and not once it is voided or refunded. -/
theorem sale_final (h : Reachable db c s) (hrun : Runs (step db) ok s s') {id : Id} {sale : Sale}
    (hfind : s.sales.find? id = some sale) (hmade : sale.status ≠ .draft) :
    ∃ status, sale.status.Becomes status ∧ s'.sales.find? id = some { sale with status } ∧
      s'.pos.items id = s.pos.items id ∧ s'.pos.payments id = s.pos.payments id ∧
      s.pos.refunds id <+: s'.pos.refunds id ∧
      (sale.status.Closed → s'.pos.refunds id = s.pos.refunds id) := by
  have hsales : s.pos.Keeps s'.pos :=
    keeps_runs (wellFormed_of_reachable h) (paymentsSound_of_reachable h) hrun
  obtain ⟨sale', hfind', heq, hbecomes⟩ := hsales.sales id sale hfind hmade
  refine ⟨sale'.status, hbecomes, ?_, hsales.items id ⟨sale, hfind, hmade⟩,
    hsales.payments id ⟨sale, hfind, hmade⟩, hsales.refundRows.filter _,
    hsales.refunds id sale hfind⟩
  rw [← heq]
  exact hfind'

/-- The paid sale. -/
def paidSale : Sale := (paidCart.sales.find? 0).get (by decide +kernel)

theorem sale_final_twoRefunds :
    (serveAll .exact twoRefunds paidCart).pos.payments 0 = paidCart.pos.payments 0 ∧
      ((serveAll .exact twoRefunds paidCart).sales.find? 0).map Sale.status = some .refunded := by
  have hrun : Runs (step .exact) (fun _ _ => True) paidCart (serveAll .exact twoRefunds paidCart) :=
    runs_serveAll (by decide +kernel)
  have hfind : paidCart.sales.find? 0 = some paidSale := (Option.some_get _).symm
  obtain ⟨_, _, _, _, hpayments, _⟩ :=
    sale_final (reachable_serveAll _ _ _) hrun hfind (by decide +kernel)
  exact ⟨hpayments, by decide +kernel⟩

end Invetrixa
