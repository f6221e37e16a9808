import Invetrixa.Invoice.Invoice

/-!
# What requests do to documents

A document that is there stays, and a request does one of six things to it: it leaves it alone,
edits it, sends it, accepts it as a quote, pays it or cancels it. This module says once what each
of them writes and what its checks have made sure of.

## Main definitions

- `InvoiceStore.paymentsOf` — the payments of a document
- `DocumentStep` — the six ways

## Main results

- `documentStep` — every request is one of them
- `invoices_invariant` — what new documents have and requests keep
-/

namespace Invetrixa

open Rowstore Requests InvoiceService

/-- The payments of a document. -/
def InvoiceStore.paymentsOf (s : InvoiceStore) (id : Id) : List (Id × InvoicePayment) :=
  s.invoicePayments.rows.filter fun r => r.2.invoiceId = id

/-- Lines are of documents that are there. -/
def InvoiceStore.ItemsKnown (s : InvoiceStore) : Prop :=
  s.invoiceItems.All fun _ i => i.invoiceId < s.invoices.next

variable {db : Database} {clock : Clock} {tenantId id : Id} {s s' : InvoiceStore}
  {call : InvoiceCall} {invoice : Invoice}

section Calls

theorem updateInvoice_ok {f : Invoice → Invoice} (h : updateInvoice id f s = .ok s') :
    s' = { s with invoices := s.invoices.modify id f } := by
  rw [updateInvoice] at h
  split at h
  · cases h
  · exact (Except.ok.inj h).symm

theorem insertInvoice_ok {newId : Id} (h : insertInvoice invoice s = .ok (newId, s')) :
    newId = s.invoices.next ∧ s' = { s with invoices := s.invoices.create invoice } := by
  obtain ⟨_, h⟩ := Except.ite_error_eq_ok_iff.mp h
  obtain ⟨_, h⟩ := Except.ite_error_eq_ok_iff.mp h
  obtain ⟨rfl, rfl⟩ := Prod.mk.inj (Except.ok.inj h)
  exact ⟨rfl, rfl⟩

theorem createInvoicePayment_ok {payment : InvoicePayment}
    (h : createInvoicePayment payment s = .ok s') :
    s' = { s with invoicePayments := s.invoicePayments.create payment } := by
  rw [createInvoicePayment] at h
  split at h
  · cases h
  · exact (Except.ok.inj h).symm

theorem findInvoiceOrThrow_ok (h : findInvoiceOrThrow tenantId id s = .ok invoice) :
    s.invoices.find? id = some invoice := by
  rw [findInvoiceOrThrow] at h
  split at h
  · next invoice' hfind =>
    rw [← Except.ok.inj h]
    exact (Option.filter_eq_some_iff.mp hfind).1
  · cases h

theorem findQuoteOrThrow_ok (h : findQuoteOrThrow tenantId id s = .ok invoice) :
    s.invoices.find? id = some invoice := by
  rw [findQuoteOrThrow] at h
  split at h
  · next quote hfind =>
    rw [← Except.ok.inj h]
    exact (Option.filter_eq_some_iff.mp hfind).1
  · cases h

/-- A document that was there has an id in use. -/
theorem lt_next_of_find? (hfind : s.invoices.find? id = some invoice) : id < s.invoices.next :=
  s.invoices.lt_next _ (List.mem_map_of_mem (Table.mem_rows_of_find? hfind))

theorem validateCanUpdate_ok {status : DocumentStatus} (h : validateCanUpdate status = .ok ()) :
    status = .draft := by
  rw [validateCanUpdate] at h
  split at h
  · cases h
  · next hdraft => exact not_not.mp hdraft

theorem validateCanSend_ok {status : DocumentStatus} (h : validateCanSend status = .ok ()) :
    status = .draft := by
  rw [validateCanSend] at h
  split at h
  · cases h
  · next hdraft => exact not_not.mp hdraft

theorem validateCanConvert_ok {documentType : DocumentType} {status : DocumentStatus}
    (h : validateCanConvert documentType status = .ok ()) :
    documentType = .quote ∧ (status = .draft ∨ status = .sent) := by
  obtain ⟨hquote, h⟩ := Except.ite_error_eq_ok_iff.mp h
  obtain ⟨hstatus, _⟩ := Except.ite_error_eq_ok_iff.mp h
  refine ⟨not_not.mp hquote, ?_⟩
  by_contra hneither
  exact hstatus (not_or.mp hneither)

theorem validateCanReceivePayment_ok {documentType : DocumentType}
    (h : validateCanReceivePayment documentType = .ok ()) : documentType ≠ .quote := by
  rw [validateCanReceivePayment] at h
  split at h
  · cases h
  · next hquote => exact hquote

theorem validateCanCancel_ok {status : DocumentStatus} (h : validateCanCancel status = .ok ()) :
    status ≠ .paid ∧ status ≠ .cancelled := by
  rw [validateCanCancel] at h
  split at h
  · cases h
  · next hopen => exact not_or.mp hopen

theorem readUpdateInvoice_ok (h : InvoiceService.readUpdate tenantId id s = .ok invoice) :
    s.invoices.find? id = some invoice ∧ invoice.status = .draft := by
  obtain ⟨invoice', hfound, h⟩ := Except.bind_eq_ok_iff.mp h
  obtain ⟨_, hdraft, h⟩ := Except.bind_eq_ok_iff.mp h
  obtain rfl := Except.ok.inj h
  exact ⟨findInvoiceOrThrow_ok hfound, validateCanUpdate_ok hdraft⟩

theorem readPayment_ok (h : readPayment tenantId id s = .ok invoice) :
    s.invoices.find? id = some invoice ∧ invoice.documentType ≠ .quote := by
  obtain ⟨invoice', hfound, h⟩ := Except.bind_eq_ok_iff.mp h
  obtain ⟨_, htype, h⟩ := Except.bind_eq_ok_iff.mp h
  obtain rfl := Except.ok.inj h
  exact ⟨findInvoiceOrThrow_ok hfound, validateCanReceivePayment_ok htype⟩

/-- What is known of the rows of a new document's lines. -/
theorem mapM_itemRow_ok {items : List ProcessedInvoiceItem} {rows : List InvoiceItem}
    (h : items.mapM (itemRow db id) = .ok rows) :
    (∀ row ∈ rows, row.invoiceId = id) ∧
      rows.map InvoiceItem.lineTotal = (items.map fun item => db.decimal item.lineTotal) ∧
      ∀ item ∈ items, ∃ quantity : ℤ, item.quantity = quantity := by
  induction items generalizing rows with
  | nil =>
    obtain rfl : [] = rows := Except.ok.inj h
    exact ⟨nofun, rfl, nofun⟩
  | cons item rest ih =>
    rw [List.mapM_cons] at h
    obtain ⟨row, hrow, h⟩ := Except.bind_eq_ok_iff.mp h
    obtain ⟨rows', hrest, h⟩ := Except.bind_eq_ok_iff.mp h
    obtain rfl : row :: rows' = rows := Except.ok.inj h
    obtain ⟨quantity, hquantity, hrow⟩ := Except.bind_eq_ok_iff.mp hrow
    obtain ⟨_, _, hrow⟩ := Except.bind_eq_ok_iff.mp hrow
    obtain rfl := Except.ok.inj hrow
    obtain ⟨hids, htotals, hquantities⟩ := ih hrest
    refine ⟨?_, ?_, ?_⟩
    · intro row hmem
      rcases List.mem_cons.mp hmem with rfl | hmem
      · rfl
      · exact hids row hmem
    · rw [List.map_cons, List.map_cons, htotals]
    · intro item' hmem
      rcases List.mem_cons.mp hmem with rfl | hmem
      · exact ⟨quantity, intColumn_ok hquantity⟩
      · exact hquantities item' hmem

/-- A new document with its lines. -/
theorem itemsKnown_insert (h : s.ItemsKnown) {rows : List InvoiceItem}
    (hrows : ∀ row ∈ rows, row.invoiceId = s.invoices.next) (invoice : Invoice) :
    (createInvoiceItems rows { s with invoices := s.invoices.create invoice }).ItemsKnown := by
  have hold : s.invoiceItems.All fun _ i => i.invoiceId < s.invoices.next + 1 :=
    h.imp fun _ _ hlt => Nat.lt_succ_of_lt hlt
  refine Serial.All_foldl_create (f := fun i => i) rows hold fun row hrow => ?_
  rw [hrows row hrow]
  exact Nat.lt_succ_self _

/-- The copies of lines for a document are its lines. -/
theorem invoiceId_of_mem_copies {items : List InvoiceItem} {row : InvoiceItem}
    (h : row ∈ items.map fun item => { item with invoiceId := id }) : row.invoiceId = id := by
  obtain ⟨item, _, rfl⟩ := List.mem_map.mp h
  rfl

end Calls

section Steps

/-- What a request does to a document that is there and to its payments, with what its checks have
made sure of. -/
inductive DocumentStep (db : Database) (s : InvoiceStore) (call : InvoiceCall) (id : Id)
    (invoice : Invoice) : Invoice → List (Id × InvoicePayment) → Prop
  | kept : DocumentStep db s call id invoice invoice (s.paymentsOf id)
  | edited (dto : UpdateInvoiceDto) (hdraft : invoice.status = .draft) :
      DocumentStep db s call id invoice (edited db dto invoice) (s.paymentsOf id)
  | sent (hdraft : invoice.status = .draft) :
      DocumentStep db s call id invoice
        { invoice with status := .sent, sentAt := some call.clock.time } (s.paymentsOf id)
  | accepted (hquote : invoice.documentType = .quote)
      (hopen : invoice.status = .draft ∨ invoice.status = .sent) :
      DocumentStep db s call id invoice
        { invoice with status := .accepted, acceptedAt := some call.clock.time } (s.paymentsOf id)
  | paid (tenantId : Id) (dto : CreateInvoicePaymentDto)
      (hcall : call.request = .recordPayment tenantId id dto) (hvalid : call.request.Valid)
      (hread : readPayment tenantId id s = .ok invoice) :
      DocumentStep db s call id invoice (paid db call.clock invoice dto.amount invoice)
        (s.paymentsOf id ++ [(s.invoicePayments.next, ⟨id, db.decimal dto.amount, dto.method⟩)])
  | cancelled (hopen : invoice.status ≠ .paid ∧ invoice.status ≠ .cancelled) :
      DocumentStep db s call id invoice
        { invoice with status := .cancelled, cancelledAt := some call.clock.time }
        (s.paymentsOf id)

/-- The row of a new document, or of the invoice that an open quote becomes. -/
inductive NewDocument (db : Database) (s : InvoiceStore) (call : InvoiceCall) : Invoice → Prop
  | created (tenantId : Id) (documentNumber : String) (dto : CreateInvoiceDto) (subtotal : ℚ) :
      NewDocument db s call (newInvoice db call.clock tenantId documentNumber dto subtotal)
  | converted (quoteId : Id) (documentNumber : String) (quote : Invoice)
      (hfind : s.invoices.find? quoteId = some quote) :
      NewDocument db s call (convertedInvoice db call.clock quoteId documentNumber quote)

/-- Documents that are there stay, and one of the six things is done to each. -/
structure DocumentSteps (db : Database) (call : InvoiceCall) (s s' : InvoiceStore) : Prop where
  old : ∀ id invoice, s.invoices.find? id = some invoice → ∃ invoice',
    s'.invoices.find? id = some invoice' ∧
      DocumentStep db s call id invoice invoice' (s'.paymentsOf id)
  new : ∀ id invoice', s'.invoices.find? id = some invoice' → s.invoices.find? id = none →
    NewDocument db s call invoice'
  absent : ∀ id, s.invoices.find? id = none → s'.paymentsOf id = s.paymentsOf id
  known : s.ItemsKnown → s'.ItemsKnown

theorem DocumentSteps.refl : DocumentSteps db call s s where
  old _ invoice hfind := ⟨invoice, hfind, .kept⟩
  new _ _ hfind hnone := absurd (hnone.symm.trans hfind) nofun
  absent _ _ := rfl
  known h := h

/-- A rewrite of one document. -/
theorem documentSteps_modify {f : Invoice → Invoice} {payments : Serial InvoicePayment}
    {invoice₀ : Invoice} (hfind₀ : s.invoices.find? id = some invoice₀)
    (hothers : ∀ k, k ≠ id →
      (payments.rows.filter fun r => r.2.invoiceId = k) = s.paymentsOf k)
    (hf : DocumentStep db s call id invoice₀ (f invoice₀)
      (payments.rows.filter fun r => r.2.invoiceId = id)) :
    DocumentSteps db call s
      { s with invoices := s.invoices.modify id f, invoicePayments := payments } := by
  have hrow (k : Id) : (s.invoices.modify id f).find? k =
      if k = id then (s.invoices.find? k).map f else s.invoices.find? k := by
    rw [Serial.toTable_modify, Table.find?_modify]
  refine ⟨?_, ?_, ?_, fun h => h⟩
  · intro k invoice hfind
    by_cases hk : k = id
    · subst hk
      obtain rfl := Option.some.inj (hfind.symm.trans hfind₀)
      exact ⟨f invoice, (hrow k).trans (by rw [if_pos rfl, hfind, Option.map_some]), hf⟩
    · refine ⟨invoice, (hrow k).trans (by rw [if_neg hk, hfind]), ?_⟩
      show DocumentStep db s call k invoice invoice
        (payments.rows.filter fun r => r.2.invoiceId = k)
      rw [hothers k hk]
      exact .kept
  · intro k invoice' hfind hnone
    have hsome := (hrow k).symm.trans hfind
    rw [hnone, Option.map_none, ite_self] at hsome
    cases hsome
  · intro k hnone
    refine hothers k ?_
    rintro rfl
    exact absurd (hnone.symm.trans hfind₀) nofun

/-- A rewrite of one document that keeps the payments. -/
theorem documentSteps_update {f : Invoice → Invoice} {invoice₀ : Invoice}
    (hfind₀ : s.invoices.find? id = some invoice₀)
    (hf : DocumentStep db s call id invoice₀ (f invoice₀) (s.paymentsOf id)) :
    DocumentSteps db call s { s with invoices := s.invoices.modify id f } :=
  documentSteps_modify hfind₀ (fun _ _ => rfl) hf

/-- A new document leaves the others alone. -/
theorem DocumentSteps.insert (h : DocumentSteps db call s s') {invoice₀ : Invoice}
    (hnew : NewDocument db s call invoice₀) {items : List InvoiceItem}
    (hitems : ∀ item ∈ items, item.invoiceId = s'.invoices.next) :
    DocumentSteps db call s
      (createInvoiceItems items { s' with invoices := s'.invoices.create invoice₀ }) := by
  refine ⟨?_, ?_, h.absent, fun hknown => itemsKnown_insert (h.known hknown) hitems invoice₀⟩
  · intro k invoice hfind
    obtain ⟨invoice', hfind', hstep⟩ := h.old k invoice hfind
    exact ⟨invoice', Serial.find?_create_of_some hfind' invoice₀, hstep⟩
  · intro k invoice' hfind hnone
    rcases Serial.find?_create_cases hfind with hold | ⟨_, rfl⟩
    · exact h.new k invoice' hold hnone
    · exact hnew

theorem documentSteps_recordPayment {dto : CreateInvoicePaymentDto}
    (hcall : call.request = .recordPayment tenantId id dto) (hvalid : call.request.Valid)
    (h : recordPayment db call.clock tenantId id dto s = .ok ((), s')) :
    DocumentSteps db call s s' := by
  obtain ⟨invoice₀, hread, h⟩ := Except.bind_eq_ok_iff.mp h
  obtain ⟨s₁, hpay, h⟩ := Except.bind_eq_ok_iff.mp h
  obtain ⟨s₂, hupdate, h⟩ := Except.bind_eq_ok_iff.mp h
  obtain rfl : s₂ = s' := congrArg Prod.snd (Except.ok.inj h)
  obtain rfl := createInvoicePayment_ok hpay
  obtain rfl := updateInvoice_ok hupdate
  obtain ⟨hfind₀, _⟩ := readPayment_ok hread
  have hpayments (k : Id) : (s.invoicePayments.create
      ⟨id, db.decimal dto.amount, dto.method⟩).rows.filter (fun r => r.2.invoiceId = k) =
      s.paymentsOf k ++
        if id = k then [(s.invoicePayments.next, ⟨id, db.decimal dto.amount, dto.method⟩)]
        else [] := by
    rw [Serial.create, List.filter_append]
    congr 1
    by_cases hk : id = k <;> simp [hk]
  refine documentSteps_modify hfind₀ (fun k hk => ?_) ?_
  · rw [hpayments, if_neg (Ne.symm hk), List.append_nil]
  · rw [hpayments, if_pos rfl]
    exact .paid tenantId dto hcall hvalid hread

theorem documentSteps_convert {newId : Id}
    (h : convertToInvoice db call.clock tenantId id s = .ok (newId, s')) :
    DocumentSteps db call s s' := by
  rw [convertToInvoice] at h
  obtain ⟨quote, hquote, h⟩ := Except.bind_eq_ok_iff.mp h
  obtain ⟨_, hcheck, h⟩ := Except.bind_eq_ok_iff.mp h
  obtain ⟨s₁, hupdate, h⟩ := Except.bind_eq_ok_iff.mp h
  obtain ⟨⟨id', s₂⟩, hinsert, h⟩ := Except.bind_eq_ok_iff.mp h
  obtain rfl := updateInvoice_ok hupdate
  obtain ⟨rfl, rfl⟩ := insertInvoice_ok hinsert
  obtain rfl := congrArg Prod.snd (Except.ok.inj h)
  obtain ⟨htype, hopen⟩ := validateCanConvert_ok hcheck
  have hfind := findQuoteOrThrow_ok hquote
  exact (documentSteps_update hfind (.accepted htype hopen)).insert (.converted _ _ _ hfind)
    fun _ hitem => invoiceId_of_mem_copies hitem

/-- A request does to each document one of the things listed. -/
theorem documentStep (db : Database) (call : InvoiceCall) (s : InvoiceStore) :
    DocumentSteps db call s (s.step db call) := by
  rw [InvoiceStore.step]
  split
  · next hvalid =>
    split
    · refine transaction_preserves .refl fun _ s' h => ?_
      obtain ⟨_, _, h⟩ := Except.bind_eq_ok_iff.mp h
      obtain ⟨⟨id', s₁⟩, hinsert, h⟩ := Except.bind_eq_ok_iff.mp h
      obtain ⟨rfl, rfl⟩ := insertInvoice_ok hinsert
      obtain ⟨rows, hrows, h⟩ := Except.bind_eq_ok_iff.mp h
      obtain rfl := congrArg Prod.snd (Except.ok.inj h)
      exact DocumentSteps.refl.insert (.created _ _ _ _) (mapM_itemRow_ok hrows).1
    · refine transaction_preserves .refl fun _ s' h => ?_
      obtain ⟨invoice, hread, h⟩ := Except.bind_eq_ok_iff.mp h
      obtain ⟨s₁, hupdate, h⟩ := Except.bind_eq_ok_iff.mp h
      obtain rfl : s₁ = s' := congrArg Prod.snd (Except.ok.inj h)
      obtain rfl := updateInvoice_ok hupdate
      obtain ⟨hfind, hdraft⟩ := readUpdateInvoice_ok hread
      exact documentSteps_update hfind (.edited _ hdraft)
    · refine transaction_preserves .refl fun _ s' h => ?_
      obtain ⟨invoice, hfound, h⟩ := Except.bind_eq_ok_iff.mp h
      obtain ⟨_, hsend, h⟩ := Except.bind_eq_ok_iff.mp h
      obtain ⟨s₁, hupdate, h⟩ := Except.bind_eq_ok_iff.mp h
      obtain rfl : s₁ = s' := congrArg Prod.snd (Except.ok.inj h)
      obtain rfl := updateInvoice_ok hupdate
      exact documentSteps_update (findInvoiceOrThrow_ok hfound) (.sent (validateCanSend_ok hsend))
    · exact transaction_preserves .refl fun _ _ h => documentSteps_convert h
    · next hcall =>
      exact transaction_preserves .refl fun _ _ h => documentSteps_recordPayment hcall hvalid h
    · refine transaction_preserves .refl fun _ s' h => ?_
      obtain ⟨invoice, hfound, h⟩ := Except.bind_eq_ok_iff.mp h
      obtain ⟨_, hcancel, h⟩ := Except.bind_eq_ok_iff.mp h
      obtain ⟨s₁, hupdate, h⟩ := Except.bind_eq_ok_iff.mp h
      obtain rfl : s₁ = s' := congrArg Prod.snd (Except.ok.inj h)
      obtain rfl := updateInvoice_ok hupdate
      exact documentSteps_update (findInvoiceOrThrow_ok hfound)
        (.cancelled (validateCanCancel_ok hcancel))
  · exact .refl

end Steps

section Runs

variable {customers : Serial InvoiceCustomer} {locations : Serial Location}
  {products : Serial Product} {ok : InvoiceStore → InvoiceCall → Prop}

/-- The rule for what every document has: new documents have it, and a request keeps it. -/
theorem invoices_invariant {P : Invoice → Prop}
    (h : Runs (fun call s => s.step db call) ok
      (InvoiceStore.initial customers locations products) s)
    (hnew : ∀ (s : InvoiceStore) call invoice, s.invoices.All (fun _ i => P i) →
      NewDocument db s call invoice → P invoice)
    (hstep : ∀ (s : InvoiceStore) call id invoice invoice' payments, P invoice →
      DocumentStep db s call id invoice invoice' payments → P invoice') :
    s.invoices.All fun _ i => P i := by
  refine Runs.invariant (I := fun s : InvoiceStore => s.invoices.All fun _ i => P i) h
    (fun _ _ hfind => (by cases hfind)) fun s call hI _ => ?_
  intro k invoice' hfind'
  have hsteps := documentStep db call s
  cases hfind : s.invoices.find? k with
  | none => exact hnew s call invoice' hI (hsteps.new k invoice' hfind' hfind)
  | some invoice =>
    obtain ⟨invoice'', hfind'', hdone⟩ := hsteps.old k invoice hfind
    obtain rfl := Option.some.inj (hfind'.symm.trans hfind'')
    exact hstep s call k invoice invoice' _ (hI k invoice hfind) hdone

end Runs

end Invetrixa
