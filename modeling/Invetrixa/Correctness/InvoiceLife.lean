import Invetrixa.Correctness.InvoiceAmounts

/-!
# The life cycle of documents

A paid document stays paid, with nothing due. A cancelled document stays cancelled only as long as
nothing is paid on it: payments are refused for quotes, whatever the status, and taken for every
other document, and a payment sets the status anew.

## Main definitions

- `SparesCancelled` — the condition on a request: it pays no cancelled document

## Main results

- `cancelled_and_paid_stay`, `cancelled_invoice_paid`
-/

namespace Invetrixa

open Rowstore Requests InvoiceService

/-- The request does not pay a cancelled document. -/
def InvoiceRequest.SparesCancelled (s : InvoiceStore) : InvoiceRequest → Prop
  | .recordPayment tenantId invoiceId _ =>
      ∀ invoice ∈ (readPayment tenantId invoiceId s).toOption, invoice.status ≠ .cancelled
  | _ => True

instance (s : InvoiceStore) : DecidablePred (InvoiceRequest.SparesCancelled s) := by
  rintro ⟨⟩
  all_goals dsimp only [InvoiceRequest.SparesCancelled]; infer_instance

/-- The condition on a request with a valid body. -/
def SparesCancelled (s : InvoiceStore) (call : InvoiceCall) : Prop :=
  call.request.Valid → call.request.SparesCancelled s

instance (s : InvoiceStore) (call : InvoiceCall) : Decidable (SparesCancelled s call) :=
  inferInstanceAs (Decidable (_ → _))

variable {db : Database} {id : Id} {s s' : InvoiceStore} {call : InvoiceCall}
  {invoice invoice' : Invoice} {payments : List (Id × InvoicePayment)}

/-- A document's total is such as the column keeps, and once it is paid, it is paid in full. -/
structure Invoice.PaidUp (db : Database) (invoice : Invoice) : Prop where
  totalKept : db.decimal invoice.totalAmount = invoice.totalAmount
  paidInFull : invoice.status = .paid →
    invoice.totalAmount ≤ invoice.paidAmount ∧ invoice.dueAmount = 0

section Steps

theorem paidUp_new (hall : s.invoices.All fun _ i => i.PaidUp db)
    (h : NewDocument db s call invoice) : invoice.PaidUp db := by
  cases h with
  | created tenantId documentNumber dto subtotal => exact ⟨db.decimal_idem _, nofun⟩
  | converted quoteId documentNumber quote hfind =>
    exact ⟨(hall quoteId quote hfind).totalKept, nofun⟩

/-- A payment of at least what is due pays the document in full. -/
theorem paidUp_paid (hdecimal : Monotone db.decimal) (hzero : db.decimal 0 = 0)
    (h : invoice.PaidUp db) (clock : Clock) {amount : ℚ} (hamount : 0 ≤ amount) :
    (paid db clock invoice amount invoice).PaidUp db ∧
      (invoice.status = .paid → (paid db clock invoice amount invoice).status = .paid) := by
  have hpaid (hstatus : (paid db clock invoice amount invoice).status = .paid)
      (hopen : invoice.status = .paid → invoice.totalAmount ≤ invoice.paidAmount) :
      invoice.totalAmount ≤ invoice.paidAmount + amount := by
    by_contra hdue
    have hpositive : ¬invoice.totalAmount - (invoice.paidAmount + amount) ≤ 0 := by linarith
    simp only [paid, if_neg hpositive] at hstatus
    split at hstatus
    · cases hstatus
    · have := hopen hstatus
      linarith
  refine ⟨⟨h.totalKept, fun hstatus => ?_⟩, fun hstatus => ?_⟩
  · have hfull := hpaid hstatus fun hbefore => (h.paidInFull hbefore).1
    constructor
    · show invoice.totalAmount ≤ db.decimal (invoice.paidAmount + amount)
      rw [← h.totalKept]
      exact hdecimal hfull
    · show db.decimal (if invoice.totalAmount - (invoice.paidAmount + amount) < 0 then 0 else
        invoice.totalAmount - (invoice.paidAmount + amount)) = 0
      have hrest : (if invoice.totalAmount - (invoice.paidAmount + amount) < 0 then 0 else
          invoice.totalAmount - (invoice.paidAmount + amount)) = 0 := by
        split
        · rfl
        · linarith
      rw [hrest, hzero]
  · have hfull := (h.paidInFull hstatus).1
    exact if_pos (by linarith)

theorem paidUp_step (hdecimal : Monotone db.decimal) (hzero : db.decimal 0 = 0)
    (h : invoice.PaidUp db) (hstep : DocumentStep db s call id invoice invoice' payments) :
    invoice'.PaidUp db ∧ (invoice.status = .paid → invoice'.status = .paid) := by
  cases hstep with
  | kept => exact ⟨h, fun hpaid => hpaid⟩
  | edited dto hdraft =>
    refine ⟨⟨h.totalKept, fun hpaid => ?_⟩, fun hpaid => hpaid⟩
    exact absurd (hdraft.symm.trans hpaid) nofun
  | sent hdraft => exact ⟨⟨h.totalKept, nofun⟩, fun hpaid => absurd (hdraft.symm.trans hpaid) nofun⟩
  | accepted hquote hopen =>
    refine ⟨⟨h.totalKept, nofun⟩, fun hpaid => ?_⟩
    rw [hpaid] at hopen
    exact absurd hopen (by decide)
  | paid tenantId dto hcall hvalid hread =>
    rw [hcall] at hvalid
    exact paidUp_paid hdecimal hzero h call.clock (le_trans (by norm_num) hvalid)
  | cancelled hopen => exact ⟨⟨h.totalKept, nofun⟩, fun hpaid => absurd hpaid hopen.1⟩

/-- A cancelled document that is not paid stays as it is. -/
theorem cancelled_step (hok : SparesCancelled s call) (hstatus : invoice.status = .cancelled)
    (hstep : DocumentStep db s call id invoice invoice' payments) :
    invoice'.status = .cancelled ∧ payments = s.paymentsOf id := by
  cases hstep with
  | kept => exact ⟨hstatus, rfl⟩
  | edited dto hdraft => exact ⟨hstatus, rfl⟩
  | sent hdraft => exact absurd (hdraft.symm.trans hstatus) nofun
  | accepted hquote hopen =>
    rw [hstatus] at hopen
    exact absurd hopen (by decide)
  | paid tenantId dto hcall hvalid hread =>
    have hspares := hok hvalid
    rw [hcall] at hspares
    exact absurd hstatus (hspares invoice (Except.toOption_eq_some_iff.mpr hread))
  | cancelled hopen => exact absurd hstatus hopen.2

end Steps

/-- What stays of a document from one store to a later one. -/
structure Invoice.Stays (id : Id) (s s' : InvoiceStore) (invoice invoice' : Invoice) : Prop where
  cancelled : invoice.status = .cancelled →
    invoice'.status = .cancelled ∧ s'.paymentsOf id = s.paymentsOf id
  paid : invoice.status = .paid → invoice'.status = .paid ∧ invoice'.dueAmount = 0

/-- In every run that pays no cancelled document, from any store that requests have led to, a
cancelled document stays cancelled and is not paid any more, and a paid one stays paid with nothing
due. -/
theorem cancelled_and_paid_stay (hdecimal : Monotone db.decimal) (hzero : db.decimal 0 = 0)
    {customers : Serial InvoiceCustomer} {locations : Serial Location} {products : Serial Product}
    (hreach : Runs (fun call s => s.step db call) (fun _ _ => True)
      (InvoiceStore.initial customers locations products) s)
    (h : Runs (fun call s => s.step db call) SparesCancelled s s')
    (hfind : s.invoices.find? id = some invoice) :
    ∃ invoice', s'.invoices.find? id = some invoice' ∧ invoice.Stays id s s' invoice' := by
  have hpaidUp : invoice.PaidUp db := by
    have hall := invoices_invariant (P := Invoice.PaidUp db) hreach
      (fun _ _ _ hall hnew => paidUp_new hall hnew)
      fun _ _ _ _ _ _ h hstep => (paidUp_step hdecimal hzero h hstep).1
    exact hall id invoice hfind
  have hstays : ∃ invoice', s'.invoices.find? id = some invoice' ∧ invoice'.PaidUp db ∧
      invoice.Stays id s s' invoice' := by
    refine Runs.invariant (I := fun s' : InvoiceStore => ∃ invoice',
      s'.invoices.find? id = some invoice' ∧ invoice'.PaidUp db ∧ invoice.Stays id s s' invoice') h
      ⟨invoice, hfind, hpaidUp, fun hstatus => ⟨hstatus, rfl⟩, fun hstatus =>
        ⟨hstatus, (hpaidUp.paidInFull hstatus).2⟩⟩ ?_
    rintro s₁ call ⟨invoice₁, hfind₁, hpaidUp₁, hstays₁⟩ hok
    obtain ⟨invoice₂, hfind₂, hstep⟩ := (documentStep db call s₁).old id invoice₁ hfind₁
    obtain ⟨hpaidUp₂, hpaid₂⟩ := paidUp_step hdecimal hzero hpaidUp₁ hstep
    refine ⟨invoice₂, hfind₂, hpaidUp₂, fun hstatus => ?_, fun hstatus => ?_⟩
    · obtain ⟨hcancelled₁, hpayments₁⟩ := hstays₁.cancelled hstatus
      obtain ⟨hcancelled₂, hpayments₂⟩ := cancelled_step hok hcancelled₁ hstep
      exact ⟨hcancelled₂, hpayments₂.trans hpayments₁⟩
    · have hstatus₂ := hpaid₂ (hstays₁.paid hstatus).1
      exact ⟨hstatus₂, (hpaidUp₂.paidInFull hstatus₂).2⟩
  obtain ⟨invoice', hfind', _, hresult⟩ := hstays
  exact ⟨invoice', hfind', hresult⟩

/-- One invoice is paid in full, another is cancelled. -/
def settledInvoices : InvoiceStore :=
  [⟨⟨0, 2024⟩, .create 0 (deskOrder .invoice none)⟩,
    ⟨⟨1, 2024⟩, .create 0 (deskOrder .invoice none)⟩,
    ⟨⟨2, 2024⟩, .recordPayment 0 0 ⟨.card, 100⟩⟩, ⟨⟨3, 2024⟩, .cancel 0 1⟩].foldl
    (fun s call => s.step .scale4 call) officeStore

/-- The paid one is paid again, and cancelling it is tried; the cancelled one is to be sent. -/
def settledLater : InvoiceStore :=
  [⟨⟨4, 2024⟩, .recordPayment 0 0 ⟨.cash, 1 / 3⟩⟩, ⟨⟨5, 2024⟩, .cancel 0 0⟩,
    ⟨⟨6, 2024⟩, .markAsSent 0 1⟩].foldl (fun s call => s.step .scale4 call) settledInvoices

def settledRow (id : Id) (h : (settledInvoices.invoices.find? id).isSome = true) : Invoice :=
  (settledInvoices.invoices.find? id).get h

theorem cancelled_and_paid_stay_settledLater :
    (∃ invoice', settledLater.invoices.find? 0 = some invoice' ∧
      (settledRow 0 (by decide +kernel)).Stays 0 settledInvoices settledLater invoice') ∧
    ∃ invoice', settledLater.invoices.find? 1 = some invoice' ∧
      (settledRow 1 (by decide +kernel)).Stays 1 settledInvoices settledLater invoice' :=
  have hreach : Runs (fun call s => s.step .scale4 call) (fun _ _ => True) officeStore
      settledInvoices := Runs.of_allMeet (by decide +kernel)
  have hlater : Runs (fun call s => s.step .scale4 call) SparesCancelled settledInvoices
      settledLater := Runs.of_allMeet (by decide +kernel)
  have hzero : roundToScale4 0 = 0 := by decide +kernel
  ⟨cancelled_and_paid_stay Database.scale4_mono hzero hreach hlater (Option.some_get _).symm,
    cancelled_and_paid_stay Database.scale4_mono hzero hreach hlater (Option.some_get _).symm⟩

/-- The cancelled invoice is paid. -/
def cancelledThenPaid : InvoiceStore :=
  [⟨⟨4, 2024⟩, .recordPayment 0 1 ⟨.cash, 40⟩⟩].foldl (fun s call => s.step .scale4 call)
    settledInvoices

/-- It is partially paid now, and no longer cancelled. -/
theorem cancelled_invoice_paid :
    Runs (fun call s => s.step .scale4 call) (fun _ _ => True) officeStore cancelledThenPaid ∧
    (settledInvoices.invoices.find? 1).map Invoice.status = some .cancelled ∧
    (cancelledThenPaid.invoices.find? 1).map Invoice.status = some .partiallyPaid ∧
    (cancelledThenPaid.paymentsOf 1).length = 1 := by
  have hrun : Runs (fun call s => s.step .scale4 call) (fun _ _ => True) settledInvoices
      cancelledThenPaid := Runs.of_allMeet (by decide +kernel)
  have hreach : Runs (fun call s => s.step .scale4 call) (fun _ _ => True) officeStore
      settledInvoices := Runs.of_allMeet (by decide +kernel)
  exact ⟨Relation.ReflTransGen.trans hreach hrun, by decide +kernel, by decide +kernel,
    by decide +kernel⟩

end Invetrixa
