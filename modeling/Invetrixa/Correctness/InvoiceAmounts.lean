import Invetrixa.Refinement.Invoices
import Mathlib.Tactic.Linarith

/-!
# The amounts of invoices

Total, subtotal, paid and due amount of a document are stored beside what they follow from. They
agree in every run in which amounts are such as a column keeps, no document is created with a
discount above its subtotal, and no update changes the discount. An update of the discount alone
breaks this, and so does a discount above the subtotal.

## Main definitions

- `Invoice.Consistent` — the four amounts agree with their sources
- `AmountsKept` — the condition on a request

## Main results

- `invoiceSound_step` — what a request keeps of a document
- `invoice_amounts_consistent`, `discount_not_recomputed`
-/

namespace Invetrixa

open Rowstore Requests InvoiceService

/-- The sum of the line totals of a document. -/
def InvoiceStore.lineTotals (s : InvoiceStore) (id : Id) : ℚ :=
  s.invoiceItems.sum fun _ i => if i.invoiceId = id then i.lineTotal else 0

/-- The sum of the payments of a document. -/
def InvoiceStore.payments (s : InvoiceStore) (id : Id) : ℚ :=
  s.invoicePayments.sum fun _ p => if p.invoiceId = id then p.amount else 0

/-- The amounts of a document agree with what they follow from. -/
structure Invoice.Consistent (s : InvoiceStore) (id : Id) (invoice : Invoice) : Prop where
  total : invoice.totalAmount = invoice.subtotal - invoice.discountAmount + invoice.taxAmount
  subtotal : invoice.subtotal = s.lineTotals id
  paid : invoice.paidAmount = s.payments id
  due : invoice.dueAmount = max 0 (invoice.totalAmount - invoice.paidAmount)

/-- The amounts of a line are such as the columns keep. -/
def CreateInvoiceItemDto.Kept (db : Database) (item : CreateInvoiceItemDto) : Prop :=
  db.decimal item.unitPrice = item.unitPrice ∧
    db.decimal (item.discountAmount.getD 0) = item.discountAmount.getD 0 ∧
    db.decimal (item.taxAmount.getD 0) = item.taxAmount.getD 0

instance (db : Database) : DecidablePred (CreateInvoiceItemDto.Kept db) :=
  fun _ => inferInstanceAs (Decidable (_ ∧ _))

/-- A document is created with amounts that the columns keep, and a discount of at most its
subtotal; the discount of a draft is updated to what it is; a payment is one that the column
keeps. -/
def InvoiceRequest.AmountsKept (db : Database) (s : InvoiceStore) : InvoiceRequest → Prop
  | .create tenantId dto => (readCreate tenantId dto s).isOk = true →
      (∀ item ∈ dto.items, CreateInvoiceItemDto.Kept db item) ∧
      db.decimal (dto.discountAmount.getD 0) = dto.discountAmount.getD 0 ∧
      dto.discountAmount.getD 0 ≤ (processInvoiceItems dto.items).2
  | .update tenantId id dto => ∀ invoice ∈ (readUpdate tenantId id s).toOption,
      ∀ discount ∈ dto.discountAmount, db.decimal discount = invoice.discountAmount
  | .recordPayment tenantId invoiceId dto => (readPayment tenantId invoiceId s).isOk = true →
      db.decimal dto.amount = dto.amount
  | _ => True

instance (db : Database) (s : InvoiceStore) : DecidablePred (InvoiceRequest.AmountsKept db s) := by
  rintro ⟨⟩
  all_goals dsimp only [InvoiceRequest.AmountsKept]; infer_instance

/-- The condition on a request with a valid body. -/
def AmountsKept (db : Database) (s : InvoiceStore) (call : InvoiceCall) : Prop :=
  call.request.Valid → call.request.AmountsKept db s

instance (db : Database) (s : InvoiceStore) (call : InvoiceCall) :
    Decidable (AmountsKept db s call) :=
  inferInstanceAs (Decidable (_ → _))

variable {db : Database} {clock : Clock} {tenantId id : Id} {s s' : InvoiceStore}
  {call : InvoiceCall} {invoice : Invoice}

section Amounts

variable (hsub : ∀ x y, db.decimal x = x → db.decimal y = y → db.decimal (x - y) = x - y)

include hsub

/-- The total of a line whose amounts are kept is kept, if its quantity is a number of pieces. -/
theorem decimal_lineTotal {item : CreateInvoiceItemDto} (hkept : CreateInvoiceItemDto.Kept db item)
    {quantity : ℤ} (hq : item.quantity = quantity) (index : ℕ) :
    db.decimal (processInvoiceItem item index).lineTotal =
      (processInvoiceItem item index).lineTotal := by
  obtain ⟨hprice, hdiscount, htax⟩ := hkept
  have hgross : db.decimal (item.unitPrice * item.quantity) = item.unitPrice * item.quantity := by
    rw [hq]
    exact decimal_mul_int hsub hprice quantity
  exact decimal_add hsub (hsub _ _ hgross hdiscount) htax

end Amounts

section Items

/-- New lines of one document add their totals to it. -/
theorem lineTotals_createInvoiceItems {rows : List InvoiceItem} {invoiceId : Id}
    (h : ∀ row ∈ rows, row.invoiceId = invoiceId) :
    (createInvoiceItems rows s).lineTotals id = s.lineTotals id +
      if invoiceId = id then (rows.map InvoiceItem.lineTotal).sum else 0 := by
  have hsum := Serial.sum_foldl_create (t := s.invoiceItems) (fun i : InvoiceItem => i)
    (fun i : InvoiceItem => if i.invoiceId = id then i.lineTotal else 0) rows
  refine hsum.trans (congrArg (s.lineTotals id + ·) ?_)
  by_cases hid : invoiceId = id
  · rw [if_pos hid]
    congr 1
    exact List.map_congr_left fun row hrow => if_pos ((h row hrow).trans hid)
  · rw [if_neg hid]
    refine List.sum_eq_zero fun x hx => ?_
    obtain ⟨row, hrow, rfl⟩ := List.mem_map.mp hx
    exact if_neg ((h row hrow).symm ▸ hid)

end Items

/-- What holds of a document besides: its total is not negative, and total and paid amount are such
as the columns keep. -/
structure InvoiceSound (db : Database) (s : InvoiceStore) (id : Id) (invoice : Invoice) : Prop
    extends invoice.Consistent s id where
  nonneg : 0 ≤ invoice.totalAmount
  totalKept : db.decimal invoice.totalAmount = invoice.totalAmount
  paidKept : db.decimal invoice.paidAmount = invoice.paidAmount

/-- Every document is sound, and lines and payments are of documents that are there. -/
structure InvoicesSound (db : Database) (s : InvoiceStore) : Prop where
  invoices : s.invoices.All fun id invoice => InvoiceSound db s id invoice
  items : s.ItemsKnown
  payments : s.invoicePayments.All fun _ p => p.invoiceId < s.invoices.next

/-- Two versions of a document have the same amounts. -/
structure Invoice.SameAmounts (invoice invoice' : Invoice) : Prop where
  subtotal : invoice'.subtotal = invoice.subtotal
  discountAmount : invoice'.discountAmount = invoice.discountAmount
  taxAmount : invoice'.taxAmount = invoice.taxAmount
  totalAmount : invoice'.totalAmount = invoice.totalAmount
  paidAmount : invoice'.paidAmount = invoice.paidAmount
  dueAmount : invoice'.dueAmount = invoice.dueAmount

section Steps

/-- An id that is not in use has neither lines nor payments. -/
theorem sums_of_fresh (hI : InvoicesSound db s) (hid : s.invoices.next ≤ id) :
    s.lineTotals id = 0 ∧ s.payments id = 0 := by
  constructor
  · refine Table.sum_eq_zero fun k i hi => if_neg ?_
    rintro rfl
    exact absurd (hI.items k i hi) (not_lt.mpr hid)
  · refine Table.sum_eq_zero fun k p hp => if_neg ?_
    rintro rfl
    exact absurd (hI.payments k p hp) (not_lt.mpr hid)

/-- A rewrite of a document that keeps its amounts. -/
theorem invoicesSound_modify (hI : InvoicesSound db s) {f : Invoice → Invoice}
    (hf : ∀ invoice, s.invoices.find? id = some invoice → invoice.SameAmounts (f invoice)) :
    InvoicesSound db { s with invoices := s.invoices.modify id f } := by
  refine ⟨fun k invoice hfind => ?_, hI.items, hI.payments⟩
  rcases Table.find?_modify_cases hfind with ⟨_, hold⟩ | ⟨rfl, invoice, hold, rfl⟩
  · have hsound := hI.invoices k invoice hold
    exact ⟨⟨hsound.total, hsound.subtotal, hsound.paid, hsound.due⟩, hsound.nonneg,
      hsound.totalKept, hsound.paidKept⟩
  · have hsound := hI.invoices k invoice hold
    have hsame := hf invoice hold
    refine ⟨⟨?_, ?_, ?_, ?_⟩, ?_, ?_, ?_⟩
    · rw [hsame.totalAmount, hsame.subtotal, hsame.discountAmount, hsame.taxAmount]
      exact hsound.total
    · rw [hsame.subtotal]
      exact hsound.subtotal
    · rw [hsame.paidAmount]
      exact hsound.paid
    · rw [hsame.dueAmount, hsame.totalAmount, hsame.paidAmount]
      exact hsound.due
    · rw [hsame.totalAmount]
      exact hsound.nonneg
    · rw [hsame.totalAmount]
      exact hsound.totalKept
    · rw [hsame.paidAmount]
      exact hsound.paidKept

/-- A new document with its lines, and nothing paid. -/
theorem invoicesSound_insert (hzero : db.decimal 0 = 0) (hI : InvoicesSound db s)
    {rows : List InvoiceItem} (hrows : ∀ row ∈ rows, row.invoiceId = s.invoices.next)
    (htotal : invoice.totalAmount = invoice.subtotal - invoice.discountAmount + invoice.taxAmount)
    (hsubtotal : invoice.subtotal = (rows.map InvoiceItem.lineTotal).sum)
    (hpaid : invoice.paidAmount = 0) (hdue : invoice.dueAmount = invoice.totalAmount)
    (hnonneg : 0 ≤ invoice.totalAmount)
    (hkept : db.decimal invoice.totalAmount = invoice.totalAmount) :
    InvoicesSound db
      (createInvoiceItems rows { s with invoices := s.invoices.create invoice }) := by
  refine ⟨fun k invoice' hfind => ?_, ?_, ?_⟩
  · rcases Serial.find?_create_cases hfind with hold | ⟨rfl, rfl⟩
    · have hsound := hI.invoices k invoice' hold
      have hne : ¬s.invoices.next = k := (lt_next_of_find? hold).ne'
      refine ⟨⟨hsound.total, ?_, hsound.paid, hsound.due⟩, hsound.nonneg, hsound.totalKept,
        hsound.paidKept⟩
      rw [lineTotals_createInvoiceItems hrows, if_neg hne]
      exact hsound.subtotal.trans (add_zero _).symm
    · obtain ⟨hlines, hpayments⟩ := sums_of_fresh hI le_rfl
      refine ⟨⟨htotal, ?_, hpaid.trans hpayments.symm, ?_⟩, hnonneg, hkept, ?_⟩
      · rw [lineTotals_createInvoiceItems hrows, if_pos rfl, hsubtotal]
        exact (zero_add _).symm.trans (congrArg (· + _) hlines.symm)
      · rw [hdue, hpaid, sub_zero, max_eq_right hnonneg]
      · rw [hpaid, hzero]
  · exact itemsKnown_insert hI.items hrows invoice
  · exact hI.payments.imp fun _ _ hlt => Nat.lt_succ_of_lt hlt

theorem isOk_of_ok {α : Type} {x : Except HttpError α} {a : α} (h : x = .ok a) : x.isOk = true := by
  rw [h]
  rfl

section Requests

variable (hsub : ∀ x y, db.decimal x = x → db.decimal y = y → db.decimal (x - y) = x - y)

include hsub

/-- The total of a new document is its subtotal less its discount. -/
theorem newInvoice_total {dto : CreateInvoiceDto} {subtotal : ℚ}
    (hsum : db.decimal subtotal = subtotal)
    (hdiscount : db.decimal (dto.discountAmount.getD 0) = dto.discountAmount.getD 0)
    (clock : Clock) (tenantId : Id) (documentNumber : String) :
    (newInvoice db clock tenantId documentNumber dto subtotal).totalAmount =
        subtotal - dto.discountAmount.getD 0 ∧
      (newInvoice db clock tenantId documentNumber dto subtotal).totalAmount =
        (newInvoice db clock tenantId documentNumber dto subtotal).subtotal -
          (newInvoice db clock tenantId documentNumber dto subtotal).discountAmount +
          (newInvoice db clock tenantId documentNumber dto subtotal).taxAmount := by
  have htotal := hsub _ _ hsum hdiscount
  simp only [newInvoice, add_zero, hsum, hdiscount, htotal, decimal_zero hsub, and_self]

theorem invoicesSound_create (hI : InvoicesSound db s) {dto : CreateInvoiceDto} {newId : Id}
    (hkept : (InvoiceRequest.create tenantId dto).AmountsKept db s)
    (h : InvoiceService.create db clock tenantId dto s = .ok (newId, s')) :
    InvoicesSound db s' := by
  obtain ⟨_, hread, h⟩ := Except.bind_eq_ok_iff.mp h
  obtain ⟨⟨id', s₁⟩, hinsert, h⟩ := Except.bind_eq_ok_iff.mp h
  obtain ⟨rfl, rfl⟩ := insertInvoice_ok hinsert
  obtain ⟨rows, hrows, h⟩ := Except.bind_eq_ok_iff.mp h
  obtain rfl := congrArg Prod.snd (Except.ok.inj h)
  obtain ⟨hitems, hdiscount, hle⟩ := hkept (isOk_of_ok hread)
  obtain ⟨hids, htotals, hquantities⟩ := mapM_itemRow_ok hrows
  have hzero := decimal_zero hsub
  -- The total of each line, and so their sum, is kept.
  have hline : ∀ item ∈ (processInvoiceItems dto.items).1,
      db.decimal item.lineTotal = item.lineTotal := by
    intro item hmem
    obtain ⟨quantity, hquantity⟩ := hquantities item hmem
    obtain ⟨index, hindex, rfl⟩ := List.mem_mapIdx.mp hmem
    exact decimal_lineTotal hsub (hitems _ (List.getElem_mem hindex)) hquantity index
  have hsubtotal : (processInvoiceItems dto.items).2 =
      (rows.map InvoiceItem.lineTotal).sum := by
    rw [htotals]
    exact congrArg List.sum (List.map_congr_left fun item hmem => (hline item hmem).symm)
  have hsum : db.decimal (processInvoiceItems dto.items).2 = (processInvoiceItems dto.items).2 := by
    refine decimal_sum hsub fun x hx => ?_
    obtain ⟨item, hmem, rfl⟩ := List.mem_map.mp hx
    exact hline item hmem
  obtain ⟨htotal, hrow⟩ := newInvoice_total hsub hsum hdiscount clock tenantId
    (generateDocumentNumber clock tenantId (getDocumentPrefix dto.documentType) s)
  refine invoicesSound_insert hzero hI hids ?_ (hsum.trans hsubtotal) hzero rfl ?_ (db.decimal_idem _)
  · exact hrow
  · exact (sub_nonneg.mpr hle).trans_eq htotal.symm

theorem invoicesSound_convert (hI : InvoicesSound db s) {newId : Id}
    (h : convertToInvoice db clock tenantId id s = .ok (newId, s')) : InvoicesSound db s' := by
  rw [convertToInvoice] at h
  obtain ⟨quote, hquote, h⟩ := Except.bind_eq_ok_iff.mp h
  obtain ⟨_, _, h⟩ := Except.bind_eq_ok_iff.mp h
  obtain ⟨s₁, hupdate, h⟩ := Except.bind_eq_ok_iff.mp h
  obtain ⟨⟨id', s₂⟩, hinsert, h⟩ := Except.bind_eq_ok_iff.mp h
  obtain rfl := updateInvoice_ok hupdate
  obtain ⟨rfl, rfl⟩ := insertInvoice_ok hinsert
  obtain rfl := congrArg Prod.snd (Except.ok.inj h)
  have hfind := findQuoteOrThrow_ok hquote
  have hsound := hI.invoices id quote hfind
  have haccepted : InvoicesSound db
      { s with
        invoices := s.invoices.modify id fun quote =>
          { quote with status := .accepted, acceptedAt := some clock.time } } :=
    invoicesSound_modify hI fun _ _ => ⟨rfl, rfl, rfl, rfl, rfl, rfl⟩
  refine invoicesSound_insert (decimal_zero hsub) haccepted (fun row hrow => ?_) ?_ ?_ ?_ ?_ ?_ ?_
  · obtain ⟨item, _, rfl⟩ := List.mem_map.mp hrow
    rfl
  · exact hsound.total
  · rw [List.map_map, itemsOf, List.map_map]
    refine hsound.subtotal.trans ?_
    exact ((Table.sum_filter _ fun _ (i : InvoiceItem) => i.lineTotal).trans (by
      simp only [InvoiceStore.lineTotals, decide_eq_true_eq])).symm
  · exact decimal_zero hsub
  · rfl
  · exact hsound.nonneg
  · exact hsound.totalKept

theorem invoicesSound_recordPayment (hI : InvoicesSound db s) {dto : CreateInvoicePaymentDto}
    (hkept : (InvoiceRequest.recordPayment tenantId id dto).AmountsKept db s)
    (h : recordPayment db clock tenantId id dto s = .ok ((), s')) : InvoicesSound db s' := by
  obtain ⟨invoice, hread, h⟩ := Except.bind_eq_ok_iff.mp h
  obtain ⟨s₁, hpay, h⟩ := Except.bind_eq_ok_iff.mp h
  obtain ⟨s₂, hupdate, h⟩ := Except.bind_eq_ok_iff.mp h
  obtain rfl : s₂ = s' := congrArg Prod.snd (Except.ok.inj h)
  obtain rfl := updateInvoice_ok hupdate
  have hamount := hkept (isOk_of_ok hread)
  obtain ⟨hfind, _⟩ := readPayment_ok hread
  obtain rfl := createInvoicePayment_ok hpay
  have hpayments : ∀ k, (s.invoicePayments.create
      { invoiceId := id, amount := db.decimal dto.amount, paymentMethod := dto.method }).sum
        (fun _ p => if p.invoiceId = k then p.amount else 0) =
      s.payments k + if id = k then dto.amount else 0 := by
    intro k
    rw [Serial.sum_create]
    simp only [hamount]
    rfl
  refine ⟨fun k row hrow => ?_, hI.items, ?_⟩
  · -- Other invoices keep their amounts; the one that is paid is the row that was read.
    rcases Table.find?_modify_cases hrow with ⟨hne, hold⟩ | ⟨rfl, row, hold, rfl⟩
    · have hsound := hI.invoices k row hold
      refine ⟨⟨hsound.total, hsound.subtotal, ?_, hsound.due⟩, hsound.nonneg, hsound.totalKept,
        hsound.paidKept⟩
      refine hsound.paid.trans ((hpayments k).trans ?_).symm
      rw [if_neg hne.symm, add_zero]
    · obtain rfl := Option.some.inj (hold.symm.trans hfind)
      have hsound := hI.invoices k row hold
      have hpaid := decimal_add hsub hsound.paidKept hamount
      have hrest := hsub _ _ hsound.totalKept hpaid
      refine ⟨⟨hsound.total, hsound.subtotal, ?_, ?_⟩, hsound.nonneg, hsound.totalKept,
        db.decimal_idem _⟩
      · simp only [paid, hpaid]
        refine Eq.trans ?_ (hpayments k).symm
        rw [if_pos rfl, hsound.paid]
      · simp only [paid, hpaid]
        split
        · next hover => rw [decimal_zero hsub, max_eq_left hover.le]
        · next hleft => rw [hrest, max_eq_right (not_lt.mp hleft)]
  · exact Serial.All_create hI.payments (lt_next_of_find? hfind)

/-- Requests that meet the condition keep documents sound. -/
theorem invoicesSound_step (hI : InvoicesSound db s) (hok : AmountsKept db s call) :
    InvoicesSound db (s.step db call) := by
  rw [InvoiceStore.step]
  split
  · next hvalid =>
    have hkept := hok hvalid
    obtain ⟨clock, request⟩ := call
    cases request with
    | create tenantId dto =>
      exact transaction_preserves hI fun _ _ h => invoicesSound_create hsub hI hkept h
    | update tenantId id dto =>
      refine transaction_preserves hI fun _ s' h => ?_
      obtain ⟨invoice, hread, h⟩ := Except.bind_eq_ok_iff.mp h
      obtain ⟨s₁, hupdate, h⟩ := Except.bind_eq_ok_iff.mp h
      obtain rfl : s₁ = s' := congrArg Prod.snd (Except.ok.inj h)
      obtain rfl := updateInvoice_ok hupdate
      -- An update leaves the total as it is, so it has to leave the discount too.
      have hsame := hkept invoice (Except.toOption_eq_some_iff.mpr hread)
      refine invoicesSound_modify hI fun row hrow => ⟨rfl, ?_, rfl, rfl, rfl, rfl⟩
      obtain rfl := Option.some.inj (hrow.symm.trans (readUpdateInvoice_ok hread).1)
      cases hdiscount : dto.discountAmount with
      | none => simp only [edited, hdiscount, Option.map_none, Option.getD_none]
      | some discount =>
        simp only [edited, hdiscount, Option.map_some, Option.getD_some]
        exact hsame discount hdiscount
    | convertToInvoice tenantId quoteId =>
      exact transaction_preserves hI fun _ _ h => invoicesSound_convert hsub hI h
    | recordPayment tenantId invoiceId dto =>
      exact transaction_preserves hI fun _ _ h => invoicesSound_recordPayment hsub hI hkept h
    | markAsSent tenantId id | cancel tenantId id =>
      refine transaction_preserves hI fun _ s' h => ?_
      obtain ⟨_, _, h⟩ := Except.bind_eq_ok_iff.mp h
      obtain ⟨_, _, h⟩ := Except.bind_eq_ok_iff.mp h
      obtain ⟨s₁, hupdate, h⟩ := Except.bind_eq_ok_iff.mp h
      obtain rfl : s₁ = s' := congrArg Prod.snd (Except.ok.inj h)
      obtain rfl := updateInvoice_ok hupdate
      exact invoicesSound_modify hI fun _ _ => ⟨rfl, rfl, rfl, rfl, rfl, rfl⟩
  · exact hI

end Requests

end Steps

/-- In every run of requests that meet the condition, the amounts of every document agree with its
lines, its discount and tax, and its payments. -/
theorem invoice_amounts_consistent
    (hsub : ∀ x y, db.decimal x = x → db.decimal y = y → db.decimal (x - y) = x - y)
    {customers : Serial InvoiceCustomer} {locations : Serial Location} {products : Serial Product}
    (h : Runs (fun call s => s.step db call) (AmountsKept db)
      (InvoiceStore.initial customers locations products) s)
    (hfind : s.invoices.find? id = some invoice) : invoice.Consistent s id := by
  have hsound : InvoicesSound db s := by
    refine Runs.invariant (I := InvoicesSound db) h ?_ fun _ _ hI hok => invoicesSound_step hsub hI hok
    exact ⟨fun _ _ h => (by cases h), fun _ _ h => (by cases h), fun _ _ h => (by cases h)⟩
  exact (hsound.invoices id invoice hfind).toConsistent

/-- One customer, one location and one product. -/
def officeStore : InvoiceStore :=
  InvoiceStore.initial (Serial.empty.create ⟨0, none⟩) (Serial.empty.create ⟨"Front", .active, 0⟩)
    (Serial.empty.create ⟨"Desk", .simple, none, none, 0, none⟩)

/-- A document with one line of two desks at fifty. -/
def deskOrder (documentType : DocumentType) (discountAmount : Option ℚ) : CreateInvoiceDto :=
  ⟨documentType, 0, 0, none, [⟨0, 2, 50, none, none, none, none⟩], discountAmount, none, none, none,
    none, none, none⟩

/-- A quote with a discount is converted, and the invoice paid in part. -/
def paidInvoice : InvoiceStore :=
  [⟨⟨0, 2024⟩, .create 0 (deskOrder .quote (some (5 / 2)))⟩, ⟨⟨1, 2024⟩, .convertToInvoice 0 0⟩,
    ⟨⟨2, 2024⟩, .recordPayment 0 1 ⟨.card, 40⟩⟩].foldl
    (fun s call => s.step .scale4 call) officeStore

def paidInvoiceRow : Invoice := (paidInvoice.invoices.find? 1).get (by decide +kernel)

theorem invoice_amounts_consistent_paidInvoice : paidInvoiceRow.Consistent paidInvoice 1 :=
  have hrun : Runs (fun call s => s.step .scale4 call) (AmountsKept .scale4) officeStore
      paidInvoice := Runs.of_allMeet (by decide +kernel)
  have hfind : paidInvoice.invoices.find? 1 = some paidInvoiceRow := (Option.some_get _).symm
  invoice_amounts_consistent Database.scale4_sub hrun hfind

/-- The discount of a draft is raised to ten. -/
def discountedDraft : InvoiceStore :=
  [⟨⟨0, 2024⟩, .create 0 (deskOrder .invoice none)⟩,
    ⟨⟨1, 2024⟩, .update 0 0 ⟨none, some 10, none, none, none, none, none, none⟩⟩].foldl
    (fun s call => s.step .exact call) officeStore

/-- A document is created with a discount above its subtotal. -/
def overDiscounted : InvoiceStore :=
  [⟨⟨0, 2024⟩, .create 0 (deskOrder .invoice (some 150))⟩].foldl
    (fun s call => s.step .exact call) officeStore

/-- The total of the draft is still its subtotal, and the due amount of the other one is negative. -/
theorem discount_not_recomputed :
    (Runs (fun call s => s.step .exact call) (fun _ _ => True) officeStore discountedDraft ∧
      (discountedDraft.invoices.find? 0).map (fun i =>
        (i.subtotal, i.discountAmount, i.taxAmount, i.totalAmount, i.dueAmount)) =
        some (100, 10, 0, 100, 100)) ∧
    Runs (fun call s => s.step .exact call) (fun _ _ => True) officeStore overDiscounted ∧
      (overDiscounted.invoices.find? 0).map (fun i => (i.totalAmount, i.paidAmount, i.dueAmount)) =
        some (-50, 0, -50) :=
  ⟨⟨Runs.of_allMeet (by decide +kernel), by decide +kernel⟩,
    Runs.of_allMeet (by decide +kernel), by decide +kernel⟩

end Invetrixa
