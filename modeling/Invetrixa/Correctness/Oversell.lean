import Invetrixa.Refinement.Step

/-!
# Selling what is not there

Removals, adjustments and quick sales check each of their lines alone against the balances as
they are before the request, and then book all lines. What a request takes of a product is the
sum of its lines, so a request whose lines repeat a product can take more than is available.

## Main definitions

- `NoOversell` — no balance is reserved beyond what is on hand
- `LinesFit` — lines taken together leave what is reserved
- `Takes` — a store after lines are booked on another

## Main results

- `takes_foldl` — what a loop of stock lines does to balances
- `no_oversell_iff`, `repeated_line_oversells`
-/

namespace Invetrixa

open Rowstore Requests BalanceService MovementService

/-- `0 ≤ reservedQuantity ≤ onHandQuantity` for every balance. -/
def NoOversell (s : Store) : Prop :=
  ∀ r ∈ s.balances.rows, 0 ≤ r.2.reservedQuantity ∧ r.2.reservedQuantity ≤ r.2.onHandQuantity

instance (s : Store) : Decidable (NoOversell s) := inferInstanceAs (Decidable (∀ r ∈ _, _))

/-- What lines add to the on-hand quantity of a product at a location. -/
def netChange (lines : List Line) (p l : Id) : ℤ := (lines.map fun line => line.change p l).sum

/-- At the place of each line, what is reserved is covered by what is on hand and what all lines
together add there. -/
def LinesFit (s : Store) (lines : List Line) : Prop :=
  ∀ line ∈ lines, s.reserved line.productId line.locationId ≤
    s.onHand line.productId line.locationId + netChange lines line.productId line.locationId

instance (s : Store) (lines : List Line) : Decidable (LinesFit s lines) :=
  inferInstanceAs (Decidable (∀ line ∈ lines, _))

/-- The lines are booked: each place has changed by what they add there, nothing else is reserved
than before, and no balance row is gone. -/
structure Takes (s s' : Store) (lines : List Line) : Prop where
  onHand : ∀ p l, s'.onHand p l = s.onHand p l + netChange lines p l
  reserved : ∀ p l, s'.reserved p l = s.reserved p l
  hasBalance : ∀ p l, s.HasBalance p l → s'.HasBalance p l

variable {db : Database} {clock : Clock} {tenantId : Id} {s s' : Store} {call : Call}

theorem noOversell_iff :
    NoOversell s ↔ ∀ p l, 0 ≤ s.reserved p l ∧ s.reserved p l ≤ s.onHand p l := by
  constructor
  · intro h p l
    rw [Store.reserved, Store.onHand]
    cases hb : s.balances.find? (p, l) with
    | none => exact ⟨le_rfl, le_rfl⟩
    | some b => exact h _ (Table.mem_rows_of_find? hb)
  · rintro h ⟨⟨p, l⟩, b⟩ hr
    have hpl := h p l
    rw [Store.reserved, Store.onHand] at hpl
    rw [Table.find?_of_mem_rows hr] at hpl
    exact hpl

section Lines

theorem netChange_append (lines lines' : List Line) (p l : Id) :
    netChange (lines ++ lines') p l = netChange lines p l + netChange lines' p l := by
  rw [netChange, netChange, netChange, List.map_append, List.sum_append]

theorem netChange_singleton (line : Line) (p l : Id) : netChange [line] p l = line.change p l := by
  simp [netChange]

theorem Takes.nil (s : Store) : Takes s s [] where
  onHand _ _ := (add_zero _).symm
  reserved _ _ := rfl
  hasBalance _ _ h := h

theorem Takes.trans {s'' : Store} {lines lines' : List Line} (h : Takes s s' lines)
    (h' : Takes s' s'' lines') : Takes s s'' (lines ++ lines') where
  onHand p l := by
    rw [h'.onHand, h.onHand, netChange_append, add_assoc]
  reserved p l := (h'.reserved p l).trans (h.reserved p l)
  hasBalance p l hrow := h'.hasBalance p l (h.hasBalance p l hrow)

/-- Only balances are looked at. -/
theorem Takes.congr {s₁ s₁' : Store} {lines : List Line} (h : Takes s s' lines)
    (hs : s₁.balances = s.balances) (hs' : s₁'.balances = s'.balances) : Takes s₁ s₁' lines where
  onHand p l := by
    simp only [Store.onHand, hs, hs']
    exact h.onHand p l
  reserved p l := by
    simp only [Store.reserved, hs, hs']
    exact h.reserved p l
  hasBalance p l hrow := by
    simp only [Store.HasBalance, hs, hs'] at hrow ⊢
    exact h.hasBalance p l hrow

theorem takes_updateBalance {p l t : Id} {q : ℤ} (h : 0 ≤ q ∨ s.HasBalance p l) :
    Takes s (updateBalance p l t q s) [⟨p, l, q⟩] where
  onHand p' l' := by
    rw [onHand_updateBalance h, netChange_singleton, Line.change]
  reserved _ _ := reserved_updateBalance
  hasBalance _ _ hrow := hasBalance_updateBalance hrow

/-- A loop whose turns each change one balance by their line books the lines. -/
theorem takes_foldl {β : Type} {f : Store → β → Store} {line : β → Line} {t : β → Id}
    {items : List β}
    (hf : ∀ s x, (f s x).balances = (updateBalance (line x).productId (line x).locationId
      (t x) (line x).quantity s).balances)
    (hrow : ∀ x ∈ items, 0 ≤ (line x).quantity ∨
      s.HasBalance (line x).productId (line x).locationId) :
    Takes s (items.foldl f s) (items.map line) := by
  induction items generalizing s with
  | nil => exact Takes.nil s
  | cons x rest ih =>
    have hfirst : Takes s (f s x) [line x] :=
      (takes_updateBalance (hrow x List.mem_cons_self)).congr rfl (hf s x)
    refine hfirst.trans (ih fun y hy => ?_)
    exact (hrow y (List.mem_cons_of_mem _ hy)).imp_right (hfirst.hasBalance _ _)

/-- Lines add nothing where there is none of them. -/
theorem netChange_eq_zero {lines : List Line} {p l : Id}
    (h : ∀ line ∈ lines, ¬(line.productId = p ∧ line.locationId = l)) :
    netChange lines p l = 0 := by
  refine List.sum_eq_zero fun q hq => ?_
  obtain ⟨line, hline, rfl⟩ := List.mem_map.mp hq
  exact if_neg (h line hline)

/-- After lines are booked nothing is oversold exactly if they fit together. -/
theorem noOversell_iff_of_takes {lines : List Line} (hs : NoOversell s) (h : Takes s s' lines) :
    NoOversell s' ↔ LinesFit s lines := by
  rw [noOversell_iff] at hs ⊢
  constructor
  · intro hs' line _
    have hplace := (hs' line.productId line.locationId).2
    rwa [h.onHand, h.reserved] at hplace
  · intro hfit p l
    rw [h.onHand, h.reserved]
    refine ⟨(hs p l).1, ?_⟩
    by_cases hline : ∃ line ∈ lines, line.productId = p ∧ line.locationId = l
    · obtain ⟨line, hmem, rfl, rfl⟩ := hline
      exact hfit line hmem
    · rw [netChange_eq_zero fun line hmem hpl => hline ⟨line, hmem, hpl⟩, add_zero]
      exact (hs p l).2

theorem takes_executeStockOut {dto : BulkStockOutDto}
    (hrow : ∀ item ∈ dto.items, item.2 ≤ 0 ∨ s.HasBalance item.1 dto.locationId) :
    Takes s (executeStockOut db tenantId dto s).2 (BulkStockOutDto.lines dto) := by
  rw [executeStockOut_eq]
  apply takes_foldl (t := fun _ => tenantId)
  · intro s item
    rw [recordIssue_eq]
    rfl
  · intro item hitem
    exact (hrow item hitem).imp_left neg_nonneg.mpr

theorem takes_executeAdjust {dto : BulkStockAdjustDto}
    (hrow : ∀ item ∈ dto.items, 0 ≤ item.quantity ∨ s.HasBalance item.productId dto.locationId) :
    Takes s (executeAdjust db clock tenantId dto s).2 (BulkStockAdjustDto.lines dto) := by
  rw [executeAdjust_eq]
  apply takes_foldl (t := fun _ => tenantId)
  · intro s item
    simp only [adjustLine]
    split
    · next hpos =>
      simp only [recordReceipt_eq, foundMovement, abs_of_pos hpos]
    · next hneg =>
      simp only [recordIssue_eq, lostIssue, abs_of_nonpos (not_lt.mp hneg), neg_neg]
  · exact hrow

/-- A positive quantity that is available is on a balance row. -/
theorem hasBalance_of_available {p l : Id} {q : ℤ} (hq : 0 < q)
    (h : q ≤ s.available tenantId p l) : s.HasBalance p l := by
  obtain ⟨b, hb, _⟩ := exists_balance_of_available_pos (lt_of_lt_of_le hq h)
  rw [Store.HasBalance, hb]
  rfl

end Lines

section Requests

/-- The requests that check their lines one by one: removals, adjustments and quick sales. -/
def Request.TakesStock : Request → Prop
  | .stockOut _ _ | .adjust _ _ | .createSale _ _ => True
  | _ => False

/-- The quick sale succeeds once its checks pass. -/
theorem createSale_isOk {dto : SaleService.CreateSaleDto} :
    (SaleService.create db clock tenantId dto s).isOk = true ↔
      (Request.createSale tenantId dto).passes db clock s = true := by
  constructor
  · intro h
    obtain ⟨r, hr⟩ := isOk_iff.mp h
    exact passes_createSale hr
  · intro h
    simp only [Request.passes] at h
    cases hread : SaleService.readCreate db tenantId dto s with
    | error e =>
      rw [hread] at h
      cases h
    | ok r =>
      obtain ⟨items, totals⟩ := r
      rw [hread] at h
      simp only [Bool.and_eq_true, isOk_iff] at h
      obtain ⟨⟨⟨id, s₁⟩, hinsert⟩, ⟨_, hvalid⟩⟩ := h
      obtain ⟨rfl, rfl⟩ := insertSale_ok hinsert
      simp only [SaleService.create, hread, SaleService.executeSaleTransaction, hinsert, bind,
        Except.bind, stockOut, hvalid]
      rfl

/-- An accepted quick sale books its lines. -/
theorem takes_createSale {dto : SaleService.CreateSaleDto} {id : Id}
    (hq : ∀ item ∈ dto.items, 0 < item.quantity)
    (h : SaleService.create db clock tenantId dto s = .ok (id, s')) :
    Takes s s' (CreateSaleDto.lines dto) := by
  obtain ⟨⟨items, totals⟩, hread, h⟩ := Except.bind_eq_ok_iff.mp h
  obtain ⟨rfl, _, _, havail⟩ := readCreateSale_ok hread
  obtain ⟨_, _, rfl⟩ := executeSaleTransaction_ok h
  set items := dto.items.map (SaleService.processItem db tenantId dto.locationId s) with hitems
  set out := SaleService.saleStockOut dto.locationId s.sales.next
    (items.map fun item => (item.productId, item.quantity)) with hout
  have hlines : CreateSaleDto.lines dto = BulkStockOutDto.lines out := by
    rw [CreateSaleDto.lines, BulkStockOutDto.lines, hout, hitems]
    simp only [SaleService.saleStockOut, List.map_map]
    rfl
  rw [hlines]
  have hrow : ∀ item ∈ out.items,
      item.2 ≤ 0 ∨ (soldStore db clock tenantId dto items totals s).HasBalance item.1
        out.locationId := ?_
  · exact (takes_executeStockOut hrow).congr rfl rfl
  intro line hline
  right
  obtain ⟨processed, hprocessed, rfl⟩ := List.mem_map.mp hline
  obtain ⟨item, hitem, rfl⟩ := List.mem_map.mp hprocessed
  -- Less than one of a product may be asked for, but the check takes it as it was asked for.
  obtain ⟨b, hb, _⟩ := exists_balance_of_available_pos
    (Int.cast_pos.mp (lt_of_lt_of_le (hq item hitem) (havail item hitem)))
  show (s.balances.find? (item.productId, dto.locationId)).isSome
  rw [hb]
  rfl

/-- A removal, adjustment or quick sale is accepted exactly when its checks pass, and then books
its lines; when it is refused the store stays. -/
theorem step_takesStock (hkind : call.request.TakesStock) :
    (Accepted db s call ↔ Passes db s call) ∧
      (Accepted db s call → Takes s (step db call s) (call.request.lines s)) ∧
      (¬Accepted db s call → step db call s = s) := by
  by_cases hvalid : call.request.Valid
  · have hpasses : Passes db s call ↔ call.request.passes db call.clock s = true :=
      and_iff_right hvalid
    rw [hpasses]
    obtain ⟨clock, request⟩ := call
    cases request with
    | stockOut tenantId dto =>
      obtain ⟨haccepted, hok, hrefused⟩ :=
        accepted_iff_of_serve (fun s => stockOut db tenantId dto s s) rfl hvalid
      have hpass : (stockOut db tenantId dto s s).isOk =
        (validateStockOut tenantId dto s).isOk := by
        cases hv : validateStockOut tenantId dto s <;> simp only [stockOut, hv] <;> rfl
      refine ⟨by rw [haccepted, hpass]; rfl, fun h => ?_, hrefused⟩
      obtain ⟨⟨r, s'⟩, hrun⟩ := isOk_iff.mp (haccepted.mp h)
      rw [hok r s' hrun]
      obtain ⟨_, hv, hrun⟩ := Except.bind_eq_ok_iff.mp hrun
      obtain rfl : (executeStockOut db tenantId dto s).2 = s' :=
        congrArg Prod.snd (Except.ok.inj hrun)
      -- the check has found enough available, so there is a balance to take from
      refine takes_executeStockOut fun item hitem => .inr ?_
      exact hasBalance_of_available (lt_of_lt_of_le one_pos (hvalid item hitem))
        ((validateStockOut_ok hv).2 item hitem)
    | adjust tenantId dto =>
      obtain ⟨haccepted, hok, hrefused⟩ :=
        accepted_iff_of_serve (adjust db clock tenantId dto) rfl hvalid
      have hpass : (adjust db clock tenantId dto s).isOk =
        (validateAdjust tenantId dto s).isOk := by
        cases hv : validateAdjust tenantId dto s <;> simp only [adjust, hv] <;> rfl
      refine ⟨by rw [haccepted, hpass]; rfl, fun h => ?_, hrefused⟩
      obtain ⟨⟨r, s'⟩, hrun⟩ := isOk_iff.mp (haccepted.mp h)
      rw [hok r s' hrun]
      obtain ⟨_, hv, hrun⟩ := Except.bind_eq_ok_iff.mp hrun
      obtain rfl : (executeAdjust db clock tenantId dto s).2 = s' :=
        congrArg Prod.snd (Except.ok.inj hrun)
      refine takes_executeAdjust fun item hitem => ?_
      -- only an adjustment downwards needs a balance, and those were checked
      by_cases hneg : item.quantity < 0
      · exact .inr (hasBalance_of_available (neg_pos.mpr hneg)
          ((validateAdjust_ok hv).2 item hitem hneg))
      · exact .inl (not_lt.mp hneg)
    | createSale tenantId dto =>
      obtain ⟨haccepted, hok, hrefused⟩ :=
        accepted_iff_of_serve (SaleService.create db clock tenantId dto) rfl hvalid
      refine ⟨haccepted.trans createSale_isOk, fun h => ?_, hrefused⟩
      obtain ⟨⟨r, s'⟩, hrun⟩ := isOk_iff.mp (haccepted.mp h)
      rw [hok r s' hrun]
      exact takes_createSale (fun item hitem =>
        lt_of_lt_of_le (by norm_num) (hvalid.1 item hitem).1) hrun
    | _ => exact hkind.elim
  · have hrefused : handle db call s = (.error (.badRequest "Bad Request"), s) := if_neg hvalid
    have hno : ¬Accepted db s call := by
      rw [Accepted, hrefused]
      intro h
      cases h
    refine ⟨⟨fun h => absurd h hno, fun h => absurd h.1 hvalid⟩, fun h => absurd h hno, ?_⟩
    intro _
    rw [step, hrefused]

/-- Where nothing is oversold, a removal, adjustment or quick sale keeps it so when it is accepted
and changes nothing when it is refused, exactly if its checks fail or its lines fit together. -/
theorem no_oversell_iff (hkind : call.request.TakesStock) (hs : NoOversell s) :
    ((Accepted db s call → NoOversell (step db call s)) ∧
        (¬Accepted db s call → step db call s = s)) ↔
      (Passes db s call → LinesFit s (call.request.lines s)) := by
  obtain ⟨haccepted, htakes, hrefused⟩ :
      (Accepted db s call ↔ Passes db s call) ∧ _ := step_takesStock hkind
  rw [and_iff_left hrefused, haccepted]
  refine forall_congr' fun hpasses => ?_
  exact noOversell_iff_of_takes hs (htakes (haccepted.mpr hpasses))

/-- Five on hand. -/
def fiveStore : Store :=
  serveAll .exact [⟨⟨0, 2024⟩, .stockIn 0 ⟨0, none, none, [⟨0, 5, 1, none⟩]⟩⟩]
    (Store.initial (.shop .fifo))

/-- The removal of lines of Tea at the front. -/
def removal (quantities : List ℤ) : Call :=
  ⟨⟨1, 2024⟩, .stockOut 0 ⟨0, none, none, quantities.map fun q => (0, q)⟩⟩

theorem no_oversell_iff_twoLines :
    ((Accepted .exact fiveStore (removal [2, 3]) →
        NoOversell (step .exact (removal [2, 3]) fiveStore)) ∧
      (¬Accepted .exact fiveStore (removal [2, 3]) →
        step .exact (removal [2, 3]) fiveStore = fiveStore)) ↔
    (Passes .exact fiveStore (removal [2, 3]) →
      LinesFit fiveStore ((removal [2, 3]).request.lines fiveStore)) :=
  no_oversell_iff trivial (by decide +kernel)

/-- Each of two lines of five is available, both together are not. -/
theorem repeated_line_oversells :
    NoOversell fiveStore ∧ (removal [5, 5]).request.Valid ∧
      Accepted .exact fiveStore (removal [5, 5]) ∧
      ¬NoOversell (step .exact (removal [5, 5]) fiveStore) ∧
      (step .exact (removal [5, 5]) fiveStore).onHand 0 0 = -5 := by
  decide +kernel

end Requests

end Invetrixa
