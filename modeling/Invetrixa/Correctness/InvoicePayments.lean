import Invetrixa.Correctness.InvoiceAmounts

/-!
# Payments under interleaved requests

A payment reads the document with the plain client and writes its new paid amount, due amount and
status in a transaction that does not read it again. As long as each transaction finds the paid
amount that its request has read, the document agrees with its payments; a payment that was read
before another one was written takes that one out of the amounts again.

## Main definitions

- `Invoice.Balanced` — paid amount, due amount and status agree with the payments
- `paymentRequests` — the payments of one document, in two steps
- `PaidAsRead` — the condition on a transaction

## Main results

- `accounted_paid` — what one payment leaves behind
- `payments_all_counted`, `payment_overwritten`
-/

namespace Invetrixa

open Rowstore Requests InvoiceService

/-- The paid amount is the sum of the payments, the due amount what it leaves of the total, and the
document is paid exactly when nothing is left. -/
structure Invoice.Balanced (s : InvoiceStore) (id : Id) (invoice : Invoice) : Prop where
  paid : invoice.paidAmount = s.payments id
  due : invoice.dueAmount = max 0 (invoice.totalAmount - s.payments id)
  status : invoice.status = .paid ↔ invoice.totalAmount ≤ s.payments id

/-- The transaction of `recordPayment`, on the document as it was read. -/
def commitPayment (db : Database) (clock : Clock) (invoiceId : Id) (dto : CreateInvoicePaymentDto)
    (invoice : Invoice) (s : InvoiceStore) : Except HttpError (Unit × InvoiceStore) := do
  let s ← createInvoicePayment
    { invoiceId, amount := db.decimal dto.amount, paymentMethod := dto.method } s
  let s ← updateInvoice invoiceId (paid db clock invoice dto.amount) s
  return ((), s)

theorem recordPayment_eq (db : Database) (clock : Clock) (tenantId invoiceId : Id)
    (dto : CreateInvoicePaymentDto) (s : InvoiceStore) :
    recordPayment db clock tenantId invoiceId dto s =
      readPayment tenantId invoiceId s >>= fun invoice =>
        commitPayment db clock invoiceId dto invoice s :=
  rfl

/-- A payment of the document. -/
structure PaymentRequest where
  clock : Clock
  tenantId : Id
  dto : CreateInvoicePaymentDto

/-- The payments of one document, in two steps. -/
def paymentRequests (db : Database) (id : Id) : ReadCommit InvoiceStore PaymentRequest Invoice where
  read r s :=
    if (InvoiceRequest.recordPayment r.tenantId id r.dto).Valid then
      (readPayment r.tenantId id s).toOption
    else none
  commit r invoice s := (transaction (commitPayment db r.clock id r.dto invoice) s).2

/-- The transaction finds the paid amount that was read, and the amount is one that the column
keeps. -/
def PaidAsRead (db : Database) (id : Id) (s : InvoiceStore) (r : PaymentRequest)
    (read : Invoice) : Prop :=
  (∀ invoice ∈ s.invoices.find? id, invoice.paidAmount = read.paidAmount) ∧
    db.decimal r.dto.amount = r.dto.amount

instance (db : Database) (id : Id) (s : InvoiceStore) (r : PaymentRequest) (read : Invoice) :
    Decidable (PaidAsRead db id s r read) :=
  inferInstanceAs (Decidable (_ ∧ _))

/-- A payment has an amount that the column keeps. -/
def PaymentKept (db : Database) (_ : InvoiceStore) (call : InvoiceCall) : Prop :=
  match call.request with
  | .recordPayment _ _ dto => db.decimal dto.amount = dto.amount
  | _ => True

instance (db : Database) (s : InvoiceStore) (call : InvoiceCall) :
    Decidable (PaymentKept db s call) := by
  obtain ⟨clock, ⟨⟩⟩ := call
  all_goals dsimp only [PaymentKept]; infer_instance

variable {db : Database} {clock : Clock} {tenantId id : Id} {s s' : InvoiceStore}
  {call : InvoiceCall} {invoice invoice' : Invoice}

/-- What holds of a document and its payments: the amounts are such as the columns keep, the
payments add up to the paid amount, and due amount and status follow from them, but perhaps of a
document without a total that nothing was paid on yet. -/
structure Invoice.Accounted (db : Database) (s : InvoiceStore) (id : Id) (invoice : Invoice) :
    Prop where
  totalKept : db.decimal invoice.totalAmount = invoice.totalAmount
  paidKept : db.decimal invoice.paidAmount = invoice.paidAmount
  paid : invoice.paidAmount = s.payments id
  full : invoice.status = .paid → invoice.totalAmount ≤ invoice.paidAmount
  balanced : 0 < invoice.totalAmount ∨ s.paymentsOf id ≠ [] → invoice.Balanced s id

section Payments

theorem payments_eq (s : InvoiceStore) (id : Id) :
    s.payments id = ((s.paymentsOf id).map fun r => r.2.amount).sum := by
  rw [InvoiceStore.payments, InvoiceStore.paymentsOf,
    Table.sum_filter _ fun _ (p : InvoicePayment) => p.amount]
  simp only [decide_eq_true_eq]

theorem payments_of_paymentsOf (h : s'.paymentsOf id = s.paymentsOf id) :
    s'.payments id = s.payments id := by
  rw [payments_eq, payments_eq, h]

/-- What holds of a document depends on its amounts, on whether it is paid, and on its payments. -/
theorem Invoice.Accounted.congr (h : invoice.Accounted db s id)
    (hsame : invoice.SameAmounts invoice')
    (hstatus : invoice'.status = .paid ↔ invoice.status = .paid)
    (hpayments : s'.paymentsOf id = s.paymentsOf id) : invoice'.Accounted db s' id := by
  have hsum := payments_of_paymentsOf hpayments
  obtain ⟨-, -, -, htotal, hpaid, hdue⟩ := hsame
  refine ⟨by rw [htotal, h.totalKept], by rw [hpaid, h.paidKept], by rw [hpaid, h.paid, hsum],
    ?_, ?_⟩
  · rw [hstatus, htotal, hpaid]
    exact h.full
  · rw [htotal, hpayments]
    intro hsome
    obtain ⟨hpaid₀, hdue₀, hstatus₀⟩ := h.balanced hsome
    exact ⟨by rw [hpaid, hpaid₀, hsum], by rw [hdue, hdue₀, htotal, hsum],
      by rw [hstatus, hstatus₀, htotal, hsum]⟩

/-- A payment by what was read of the document leaves it accounted for, if its paid amount is still
the same. -/
theorem accounted_paid
    (hsub : ∀ x y, db.decimal x = x → db.decimal y = y → db.decimal (x - y) = x - y)
    (h : invoice.Accounted db s id) {read : Invoice}
    (htotal : read.totalAmount = invoice.totalAmount)
    (hpaid : invoice.paidAmount = read.paidAmount)
    (hfull : read.status = .paid → read.totalAmount ≤ read.paidAmount) {amount : ℚ}
    (hpositive : 0 < amount) (hkept : db.decimal amount = amount)
    (hpayments : s'.payments id = s.payments id + amount) (clock : Clock) :
    (paid db clock read amount invoice).Accounted db s' id := by
  have hsum : read.paidAmount + amount = s'.payments id := by
    rw [hpayments, ← h.paid, hpaid]
  have hpaidKept : db.decimal (read.paidAmount + amount) = read.paidAmount + amount :=
    decimal_add hsub (hpaid ▸ h.paidKept) hkept
  -- What is due decides the status, unless the invoice was paid up before.
  have hstatus : (paid db clock read amount invoice).status = .paid ↔
      invoice.totalAmount ≤ s'.payments id := by
    simp only [paid, hsum, htotal]
    by_cases hleft : invoice.totalAmount - s'.payments id ≤ 0
    · rw [if_pos hleft]
      exact ⟨fun _ => sub_nonpos.mp hleft, fun _ => rfl⟩
    · rw [if_neg hleft]
      refine ⟨fun hpaidUp => ?_, fun hle => absurd (sub_nonpos.mpr hle) hleft⟩
      split at hpaidUp
      · cases hpaidUp
      · have := hfull hpaidUp
        linarith
  have hdue : (paid db clock read amount invoice).dueAmount =
      max 0 (invoice.totalAmount - s'.payments id) := by
    simp only [paid, hsum, htotal]
    split
    · next hover => rw [decimal_zero hsub, max_eq_left hover.le]
    · next hleft =>
      rw [max_eq_right (not_lt.mp hleft)]
      exact hsub _ _ h.totalKept (hsum ▸ hpaidKept)
  have hpaidAmount : (paid db clock read amount invoice).paidAmount = s'.payments id :=
    hpaidKept.trans hsum
  refine ⟨h.totalKept, db.decimal_idem _, hpaidAmount, fun hpaidUp => ?_, fun _ => ?_⟩
  · rw [hpaidAmount]
    exact hstatus.mp hpaidUp
  · exact ⟨hpaidAmount, hdue, hstatus⟩

end Payments

section Sequential

/-- Every document is accounted for, and there are payments of documents only. -/
structure AllAccounted (db : Database) (s : InvoiceStore) : Prop where
  absent : ∀ id, s.invoices.find? id = none → s.paymentsOf id = []
  invoices : s.invoices.All fun id invoice => invoice.Accounted db s id

variable (hsub : ∀ x y, db.decimal x = x → db.decimal y = y → db.decimal (x - y) = x - y)

include hsub

theorem accounted_new (hall : AllAccounted db s) (hnew : NewDocument db s call invoice)
    (hpayments : s'.paymentsOf id = []) : invoice.Accounted db s' id := by
  have hsum : s'.payments id = 0 := by rw [payments_eq, hpayments, List.map_nil, List.sum_nil]
  have hzero := decimal_zero hsub
  have hbalanced (hpaid : invoice.paidAmount = 0) (hdue : invoice.dueAmount = invoice.totalAmount)
      (hdraft : invoice.status = .draft)
      (hsome : 0 < invoice.totalAmount ∨ s'.paymentsOf id ≠ []) : invoice.Balanced s' id := by
    have hpositive := hsome.resolve_right fun hne => hne hpayments
    refine ⟨hpaid.trans hsum.symm, ?_, ?_⟩
    · rw [hdue, hsum, sub_zero, max_eq_right hpositive.le]
    · rw [hdraft, hsum]
      exact iff_of_false nofun (not_le.mpr hpositive)
  cases hnew with
  | created tenantId documentNumber dto subtotal =>
    exact ⟨db.decimal_idem _, db.decimal_idem _, hzero.trans hsum.symm, nofun,
      hbalanced hzero rfl rfl⟩
  | converted quoteId documentNumber quote hfind =>
    exact ⟨(hall.invoices quoteId quote hfind).totalKept, db.decimal_idem _,
      hzero.trans hsum.symm, nofun, hbalanced hzero rfl rfl⟩

theorem accounted_step (h : invoice.Accounted db s id) (hkept : PaymentKept db s call)
    (hstep : DocumentStep db s call id invoice invoice' (s'.paymentsOf id)) :
    invoice'.Accounted db s' id := by
  generalize hpayments : s'.paymentsOf id = payments at hstep
  cases hstep with
  | kept => exact h.congr ⟨rfl, rfl, rfl, rfl, rfl, rfl⟩ Iff.rfl hpayments
  | edited dto hdraft =>
    have hsum := payments_of_paymentsOf hpayments
    refine ⟨h.totalKept, h.paidKept, h.paid.trans hsum.symm, h.full, fun hsome => ?_⟩
    rw [hpayments] at hsome
    obtain ⟨hpaid, hdue, hstatus⟩ := h.balanced hsome
    exact ⟨hpaid.trans hsum.symm, by rw [hsum]; exact hdue, by rw [hsum]; exact hstatus⟩
  | sent hdraft =>
    refine h.congr ⟨rfl, rfl, rfl, rfl, rfl, rfl⟩ (iff_of_false nofun ?_) hpayments
    rw [hdraft]
    decide
  | accepted hquote hopen =>
    refine h.congr ⟨rfl, rfl, rfl, rfl, rfl, rfl⟩ (iff_of_false nofun fun hpaid => ?_) hpayments
    rw [hpaid] at hopen
    exact absurd hopen (by decide)
  | paid tenantId dto hcall hvalid hread =>
    have hamount : db.decimal dto.amount = dto.amount := by
      rw [PaymentKept] at hkept
      rw [hcall] at hkept
      exact hkept
    have hpositive : 0 < dto.amount := by
      rw [hcall] at hvalid
      exact lt_of_lt_of_le (by norm_num) hvalid
    refine accounted_paid hsub h rfl rfl h.full hpositive hamount ?_ call.clock
    rw [payments_eq, hpayments, payments_eq, List.map_append, List.sum_append, List.map_singleton,
      List.sum_singleton, hamount]
  | cancelled hopen =>
    exact h.congr ⟨rfl, rfl, rfl, rfl, rfl, rfl⟩ (iff_of_false nofun hopen.1) hpayments

/-- Requests keep every document accounted for. -/
theorem allAccounted_step (hall : AllAccounted db s) (hkept : PaymentKept db s call) :
    AllAccounted db (s.step db call) := by
  have hsteps := documentStep db call s
  constructor
  · intro k hnone
    have hbefore : s.invoices.find? k = none := by
      cases hfind : s.invoices.find? k with
      | none => rfl
      | some invoice =>
        obtain ⟨invoice', hfind', _⟩ := hsteps.old k invoice hfind
        exact absurd (hnone.symm.trans hfind') nofun
    exact (hsteps.absent k hbefore).trans (hall.absent k hbefore)
  · intro k invoice' hfind'
    cases hfind : s.invoices.find? k with
    | none =>
      exact accounted_new hsub hall (hsteps.new k invoice' hfind' hfind)
        ((hsteps.absent k hfind).trans (hall.absent k hfind))
    | some invoice =>
      obtain ⟨invoice'', hfind'', hstep⟩ := hsteps.old k invoice hfind
      obtain rfl := Option.some.inj (hfind'.symm.trans hfind'')
      exact accounted_step hsub (hall.invoices k invoice hfind) hkept hstep

theorem allAccounted_of_runs {customers : Serial InvoiceCustomer} {locations : Serial Location}
    {products : Serial Product}
    (h : Runs (fun call s => s.step db call) (PaymentKept db)
      (InvoiceStore.initial customers locations products) s) : AllAccounted db s := by
  refine Runs.invariant h ⟨fun _ _ => rfl, fun _ _ hfind => (by cases hfind)⟩ ?_
  exact fun _ _ hall hkept => allAccounted_step hsub hall hkept

end Sequential

section Interleaved

/-- What the transaction of a payment writes. -/
theorem commitPayment_ok {dto : CreateInvoicePaymentDto} {read : Invoice}
    (h : commitPayment db clock id dto read s = .ok ((), s')) :
    s' = { s with
      invoicePayments := s.invoicePayments.create ⟨id, db.decimal dto.amount, dto.method⟩
      invoices := s.invoices.modify id (paid db clock read dto.amount) } := by
  obtain ⟨s₁, hpay, h⟩ := Except.bind_eq_ok_iff.mp h
  obtain ⟨s₂, hupdate, h⟩ := Except.bind_eq_ok_iff.mp h
  obtain rfl : s₂ = s' := congrArg Prod.snd (Except.ok.inj h)
  obtain rfl := createInvoicePayment_ok hpay
  exact updateInvoice_ok hupdate

/-- The document is accounted for, and has the total it had. -/
def Tallied (db : Database) (id : Id) (total : ℚ) (s : InvoiceStore) : Prop :=
  ∃ invoice, s.invoices.find? id = some invoice ∧ invoice.totalAmount = total ∧
    invoice.Accounted db s id

/-- What was read of a document is what was there. -/
def ReadOf (total : ℚ) (r : PaymentRequest) (read : Invoice) : Prop :=
  0 < r.dto.amount ∧ read.totalAmount = total ∧
    (read.status = .paid → read.totalAmount ≤ read.paidAmount)

theorem readOf_of_read {total : ℚ} (h : Tallied db id total s) {r : PaymentRequest} {read : Invoice}
    (hread : (paymentRequests db id).read r s = some read) : ReadOf total r read := by
  obtain ⟨invoice, hfind, htotal, haccounted⟩ := h
  simp only [paymentRequests] at hread
  split at hread
  · next hvalid =>
    obtain ⟨hfind', _⟩ := readPayment_ok (Except.toOption_eq_some_iff.mp hread)
    obtain rfl := Option.some.inj (hfind.symm.trans hfind')
    exact ⟨lt_of_lt_of_le (by norm_num) hvalid, htotal, haccounted.full⟩
  · cases hread

theorem tallied_commit
    (hsub : ∀ x y, db.decimal x = x → db.decimal y = y → db.decimal (x - y) = x - y) {total : ℚ}
    (h : Tallied db id total s) {r : PaymentRequest} {read : Invoice} (hread : ReadOf total r read)
    (hok : PaidAsRead db id s r read) :
    Tallied db id total ((paymentRequests db id).commit r read s) := by
  refine transaction_preserves h fun _ s' hcommit => ?_
  obtain ⟨invoice, hfind, htotal, haccounted⟩ := h
  obtain ⟨hpositive, hreadTotal, hfull⟩ := hread
  obtain ⟨hpaid, hkept⟩ := hok
  obtain rfl := commitPayment_ok hcommit
  refine ⟨paid db r.clock read r.dto.amount invoice, ?_, htotal, ?_⟩
  · exact Serial.find?_modify_of_some hfind _
  · refine accounted_paid hsub haccounted (hreadTotal.trans htotal.symm) (hpaid invoice hfind) hfull
      hpositive hkept ?_ r.clock
    refine (Serial.sum_create _ _).trans ?_
    rw [if_pos rfl, hkept]
    rfl

/-- In every interleaving of payments of a document in which each transaction finds the paid amount
that was read, the document agrees with its payments, as soon as there is one or the total is
positive. -/
theorem payments_all_counted
    (hsub : ∀ x y, db.decimal x = x → db.decimal y = y → db.decimal (x - y) = x - y)
    {customers : Serial InvoiceCustomer} {locations : Serial Location} {products : Serial Product}
    (hreach : Runs (fun call s => s.step db call) (PaymentKept db)
      (InvoiceStore.initial customers locations products) s)
    (hfind : s.invoices.find? id = some invoice)
    {config : ReadCommit.Config InvoiceStore PaymentRequest Invoice}
    (h : (paymentRequests db id).Interleaved (PaidAsRead db id) ⟨s, []⟩ config) :
    ∃ invoice', config.state.invoices.find? id = some invoice' ∧
      (0 < invoice'.totalAmount ∨ config.state.paymentsOf id ≠ [] →
        invoice'.Balanced config.state id) := by
  have haccounted := (allAccounted_of_runs hsub hreach).invoices id invoice hfind
  obtain ⟨⟨invoice', hfind', _, haccounted'⟩, _⟩ := ReadCommit.Interleaved.invariant
    (I := Tallied db id invoice.totalAmount) (K := fun _ => ReadOf invoice.totalAmount) h
    ⟨invoice, hfind, rfl, haccounted⟩ (fun _ hx => (by cases hx))
    (fun _ _ _ hI hread => readOf_of_read hI hread)
    (fun _ _ _ hI hread hok => tallied_commit hsub hI hread hok)
    fun _ _ _ _ _ _ _ _ hread' => hread'
  exact ⟨invoice', hfind', haccounted'.balanced⟩

/-- A draft invoice over one hundred. -/
def draftInvoice : InvoiceStore :=
  [⟨⟨0, 2024⟩, .create 0 (deskOrder .invoice none)⟩].foldl (fun s call => s.step .scale4 call)
    officeStore

/-- Sixty, and forty. -/
def installments : List PaymentRequest :=
  [⟨⟨1, 2024⟩, 0, ⟨.card, 60⟩⟩, ⟨⟨2, 2024⟩, 0, ⟨.cash, 40⟩⟩]

/-- The second payment reads the document after the first one is written. -/
def installmentsInTurn : ReadCommit.Config InvoiceStore PaymentRequest Invoice :=
  (paymentRequests .scale4 0).execAll
    (installments.flatMap fun r => [.read r, .commit 0]) ⟨draftInvoice, []⟩

theorem payments_all_counted_inTurn :
    ∃ invoice', installmentsInTurn.state.invoices.find? 0 = some invoice' ∧
      (0 < invoice'.totalAmount ∨ installmentsInTurn.state.paymentsOf 0 ≠ [] →
        invoice'.Balanced installmentsInTurn.state 0) :=
  have hreach : Runs (fun call s => s.step .scale4 call) (PaymentKept .scale4) officeStore
      draftInvoice := Runs.of_allMeet (by decide +kernel)
  have hfind : draftInvoice.invoices.find? 0 =
      some ((draftInvoice.invoices.find? 0).get (by decide +kernel)) := (Option.some_get _).symm
  payments_all_counted Database.scale4_sub hreach hfind
    (ReadCommit.interleaved_execAll (by decide +kernel))

/-- Both payments read the document before one of them is written. -/
def installmentsAtOnce : ReadCommit.Config InvoiceStore PaymentRequest Invoice :=
  (paymentRequests .scale4 0).execAll
    (installments.map .read ++ [.commit 0, .commit 0]) ⟨draftInvoice, []⟩

/-- Both payments are recorded and make up the total, but the document has only the second one. -/
theorem payment_overwritten :
    Runs (fun call s => s.step .scale4 call) (PaymentKept .scale4) officeStore draftInvoice ∧
    (paymentRequests .scale4 0).Interleaved (fun _ _ _ => True) ⟨draftInvoice, []⟩
      installmentsAtOnce ∧
    installmentsAtOnce.inFlight.length = 0 ∧
    installmentsAtOnce.state.payments 0 = 100 ∧
    (installmentsAtOnce.state.invoices.find? 0).map (fun i =>
      (i.status, i.totalAmount, i.paidAmount, i.dueAmount)) =
        some (.partiallyPaid, 100, 40, 60) :=
  ⟨Runs.of_allMeet (by decide +kernel), ReadCommit.interleaved_execAll (by decide +kernel),
    by decide +kernel, by decide +kernel, by decide +kernel⟩

end Interleaved

end Invetrixa
