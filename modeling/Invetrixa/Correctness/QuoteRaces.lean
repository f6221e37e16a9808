import Invetrixa.Correctness.InvoiceAmounts

/-!
# A quote under interleaved requests

A conversion, a cancellation and the sending of a quote each read it and check its status with the
plain client, and write afterwards without looking at it again. As long as no conversion is written
over a quote that is no longer open, and no sending over one that is accepted or cancelled, at most
one invoice is made from the quote, with the items and amounts of the quote, and none once it is
cancelled.

## Main definitions

- `InvoiceStore.invoicesFrom` — the invoices that were made from a quote
- `quoteRequests` — the requests on one quote, in two steps
- `FoundOpen` — the condition on what is written

## Main results

- `quoteHeld_convert` — what a conversion leaves behind
- `one_invoice_per_quote`, `converted_twice`
-/

namespace Invetrixa

open Rowstore Requests InvoiceService

/-- The invoices that were made from a quote. -/
def InvoiceStore.invoicesFrom (s : InvoiceStore) (quoteId : Id) : List (Id × Invoice) :=
  s.invoices.rows.filter fun r => r.2.sourceDocumentId = some quoteId

/-- A request on a quote, at its moment. -/
inductive QuoteRequest
  | convertToInvoice (clock : Clock) (tenantId : Id)
  | cancel (clock : Clock) (tenantId : Id)
  | markAsSent (clock : Clock) (tenantId : Id)

/-- What `convertToInvoice` reads: the quote, with its items, as it is to be converted. -/
def readConvert (tenantId quoteId : Id) (s : InvoiceStore) :
    Except HttpError (Invoice × List InvoiceItem) := do
  let quote ← findQuoteOrThrow tenantId quoteId s
  let items := itemsOf quoteId s
  validateCanConvert quote.documentType quote.status
  return (quote, items)

/-- The transaction of `convertToInvoice`, on the quote as it was read. -/
def commitConvert (db : Database) (clock : Clock) (tenantId quoteId : Id)
    (quote : Invoice × List InvoiceItem) (s : InvoiceStore) :
    Except HttpError (Id × InvoiceStore) := do
  let s ← updateInvoice quoteId
    (fun quote => { quote with status := .accepted, acceptedAt := some clock.time }) s
  let documentNumber := generateDocumentNumber clock tenantId "INV" s
  let (id, s) ← insertInvoice (convertedInvoice db clock quoteId documentNumber quote.1) s
  return (id, createInvoiceItems (quote.2.map fun item => { item with invoiceId := id }) s)

/-- The document that `cancel` works on. -/
def readCancelInvoice (tenantId id : Id) (s : InvoiceStore) : Except HttpError Invoice := do
  let invoice ← findInvoiceOrThrow tenantId id s
  validateCanCancel invoice.status
  return invoice

def commitCancelInvoice (clock : Clock) (id : Id) (s : InvoiceStore) :
    Except HttpError (Unit × InvoiceStore) := do
  let s ← updateInvoice id
    (fun invoice => { invoice with status := .cancelled, cancelledAt := some clock.time }) s
  return ((), s)

/-- The document that `markAsSent` works on. -/
def readSend (tenantId id : Id) (s : InvoiceStore) : Except HttpError Invoice := do
  let invoice ← findInvoiceOrThrow tenantId id s
  validateCanSend invoice.status
  return invoice

def commitSend (clock : Clock) (id : Id) (s : InvoiceStore) :
    Except HttpError (Unit × InvoiceStore) := do
  let s ← updateInvoice id
    (fun invoice => { invoice with status := .sent, sentAt := some clock.time }) s
  return ((), s)

section TwoSteps

variable (db : Database) (clock : Clock) (tenantId id : Id) (s : InvoiceStore)

theorem convertToInvoice_eq : convertToInvoice db clock tenantId id s =
    readConvert tenantId id s >>= fun quote => commitConvert db clock tenantId id quote s := by
  simp only [convertToInvoice, readConvert, commitConvert, bind_assoc, pure_bind]

theorem cancelInvoice_eq : InvoiceService.cancel clock tenantId id s =
    readCancelInvoice tenantId id s >>= fun _ => commitCancelInvoice clock id s := by
  simp only [InvoiceService.cancel, readCancelInvoice, commitCancelInvoice, bind_assoc, pure_bind]

theorem markAsSent_eq : markAsSent clock tenantId id s =
    readSend tenantId id s >>= fun _ => commitSend clock id s := by
  simp only [markAsSent, readSend, commitSend, bind_assoc, pure_bind]

end TwoSteps

/-- The requests on one quote, in two steps. The items are read by a conversion only. -/
def quoteRequests (db : Database) (q : Id) :
    ReadCommit InvoiceStore QuoteRequest (Invoice × List InvoiceItem) where
  read r s :=
    match r with
    | .convertToInvoice _ tenantId => (readConvert tenantId q s).toOption
    | .cancel _ tenantId => ((readCancelInvoice tenantId q s).map (·, [])).toOption
    | .markAsSent _ tenantId => ((readSend tenantId q s).map (·, [])).toOption
  commit r read s :=
    match r with
    | .convertToInvoice clock tenantId =>
        (transaction (commitConvert db clock tenantId q read) s).2
    | .cancel clock _ => (transaction (commitCancelInvoice clock q) s).2
    | .markAsSent clock _ => (transaction (commitSend clock q) s).2

/-- A conversion is written over a quote that is still a draft or sent, and a sending over one that
is neither accepted nor cancelled. -/
def FoundOpen (q : Id) (s : InvoiceStore) (r : QuoteRequest) (_ : Invoice × List InvoiceItem) :
    Prop :=
  match r with
  | .convertToInvoice _ _ =>
      ∀ quote ∈ s.invoices.find? q, quote.status = .draft ∨ quote.status = .sent
  | .cancel _ _ => True
  | .markAsSent _ _ =>
      ∀ quote ∈ s.invoices.find? q, quote.status ≠ .accepted ∧ quote.status ≠ .cancelled

instance (q : Id) (s : InvoiceStore) (r : QuoteRequest) (read : Invoice × List InvoiceItem) :
    Decidable (FoundOpen q s r read) := by
  obtain ⟨⟩ := r
  all_goals dsimp only [FoundOpen]; infer_instance

/-- An invoice has the amounts of a quote, and copies of its items. -/
structure Invoice.CopyOf (s : InvoiceStore) (q : Id) (quote : Invoice) (id : Id)
    (invoice : Invoice) : Prop where
  documentType : invoice.documentType = .invoice
  amounts : quote.SameAmounts invoice
  items : itemsOf id s = (itemsOf q s).map fun item => { item with invoiceId := id }

variable {db : Database} {clock : Clock} {tenantId id q : Id} {s s' : InvoiceStore}
  {quote quote₀ invoice : Invoice} {items₀ : List InvoiceItem}

theorem Invoice.SameAmounts.trans {i₁ i₂ i₃ : Invoice} (h₁ : i₁.SameAmounts i₂)
    (h₂ : i₂.SameAmounts i₃) : i₁.SameAmounts i₃ :=
  ⟨h₂.subtotal.trans h₁.subtotal, h₂.discountAmount.trans h₁.discountAmount,
    h₂.taxAmount.trans h₁.taxAmount, h₂.totalAmount.trans h₁.totalAmount,
    h₂.paidAmount.trans h₁.paidAmount, h₂.dueAmount.trans h₁.dueAmount⟩

theorem Invoice.SameAmounts.symm {i₁ i₂ : Invoice} (h : i₁.SameAmounts i₂) : i₂.SameAmounts i₁ :=
  ⟨h.subtotal.symm, h.discountAmount.symm, h.taxAmount.symm, h.totalAmount.symm,
    h.paidAmount.symm, h.dueAmount.symm⟩

section Items

/-- Lines added to one document are its lines. -/
theorem itemsOf_createInvoiceItems {rows : List InvoiceItem} {invoiceId : Id}
    (h : ∀ row ∈ rows, row.invoiceId = invoiceId) :
    itemsOf id (createInvoiceItems rows s) =
      itemsOf id s ++ if invoiceId = id then rows else [] := by
  have hitems (t : Serial InvoiceItem) : (t.rows.filter fun r => r.2.invoiceId = id).map Prod.snd =
      (t.rows.map Prod.snd).filter fun i => i.invoiceId = id := by
    rw [List.filter_map]
    rfl
  have hrows : (rows.filter fun row => row.invoiceId = id) =
      if invoiceId = id then rows else [] := by
    split
    · next hid => exact List.filter_eq_self.mpr fun row hrow => by simp [h row hrow, hid]
    · next hid => exact List.filter_eq_nil_iff.mpr fun row hrow => by simp [h row hrow, hid]
  have hcreated : (createInvoiceItems rows s).invoiceItems.rows.map Prod.snd =
      s.invoiceItems.rows.map Prod.snd ++ rows :=
    (Serial.map_snd_foldl_create (fun row => row) rows).trans (by rw [List.map_id'])
  rw [itemsOf, itemsOf, hitems, hitems, hcreated, List.filter_append, hrows]

/-- A document that is not there has no items. -/
theorem itemsOf_fresh (h : s.ItemsKnown) : itemsOf s.invoices.next s = [] := by
  refine List.map_eq_nil_iff.mpr (List.filter_eq_nil_iff.mpr ?_)
  intro r hr heq
  have hlt : r.2.invoiceId < s.invoices.next := h r.1 r.2 (Table.find?_of_mem_rows hr)
  rw [of_decide_eq_true heq] at hlt
  exact absurd hlt (lt_irrefl _)

end Items

/-- What holds of a quote that was not converted at the start: its amounts and items are still the
same, and once an invoice was made from it, it is no longer open. -/
structure QuoteHeld (q : Id) (quote₀ : Invoice) (items₀ : List InvoiceItem) (s : InvoiceStore)
    (quote : Invoice) : Prop where
  find : s.invoices.find? q = some quote
  amounts : quote₀.SameAmounts quote
  source : quote.sourceDocumentId ≠ some q
  items : itemsOf q s = items₀
  known : s.ItemsKnown
  closed : s.invoicesFrom q ≠ [] → quote.status = .accepted ∨ quote.status = .cancelled
  one : (s.invoicesFrom q).length ≤ 1
  copies : ∀ r ∈ s.invoicesFrom q, Invoice.CopyOf s q quote₀ r.1 r.2

section Commits

/-- A rewrite of the quote keeps the list of the invoices made from it. -/
theorem invoicesFrom_modify (hfind : s.invoices.find? q = some quote)
    (hsource : quote.sourceDocumentId ≠ some q) {f : Invoice → Invoice}
    (hf : (f quote).sourceDocumentId = quote.sourceDocumentId) :
    InvoiceStore.invoicesFrom { s with invoices := s.invoices.modify q f } q =
      s.invoicesFrom q := by
  refine Table.filter_modifyWhere fun k invoice hmem hk => ?_
  obtain rfl := of_decide_eq_true hk
  obtain rfl := Option.some.inj (hfind.symm.trans (Table.find?_of_mem_rows hmem))
  exact ⟨decide_eq_false hsource, decide_eq_false (hf ▸ hsource)⟩

/-- A rewrite of the quote that keeps its amounts, and leaves it closed if it was converted. -/
theorem quoteHeld_modify (h : QuoteHeld q quote₀ items₀ s quote) {f : Invoice → Invoice}
    (hamounts : quote.SameAmounts (f quote))
    (hf : (f quote).sourceDocumentId = quote.sourceDocumentId)
    (hclosed : s.invoicesFrom q ≠ [] →
      (f quote).status = .accepted ∨ (f quote).status = .cancelled) :
    QuoteHeld q quote₀ items₀ { s with invoices := s.invoices.modify q f } (f quote) := by
  have hfrom := invoicesFrom_modify h.find h.source hf
  refine ⟨Serial.find?_modify_of_some h.find f, h.amounts.trans hamounts, ?_, h.items, h.known,
    ?_, ?_, ?_⟩
  · rw [hf]
    exact h.source
  · rw [hfrom]
    exact hclosed
  · rw [hfrom]
    exact h.one
  · intro r hr
    rw [hfrom] at hr
    obtain ⟨htype, hsame, hitems⟩ := h.copies r hr
    exact ⟨htype, hsame, hitems⟩

/-- The first invoice from a quote, with copies of its items. -/
theorem quoteHeld_made (h : QuoteHeld q quote₀ items₀ s quote) (hnone : s.invoicesFrom q = [])
    (hclosed : quote.status = .accepted ∨ quote.status = .cancelled) {made : Invoice}
    (hsource : made.sourceDocumentId = some q) (htype : made.documentType = .invoice)
    (hsame : quote₀.SameAmounts made) :
    QuoteHeld q quote₀ items₀
      (createInvoiceItems (items₀.map fun item => { item with invoiceId := s.invoices.next })
        { s with invoices := s.invoices.create made }) quote := by
  have hlt : q < s.invoices.next := lt_next_of_find? h.find
  have hids : ∀ row ∈ items₀.map (fun item => { item with invoiceId := s.invoices.next }),
      row.invoiceId = s.invoices.next := fun _ hrow => invoiceId_of_mem_copies hrow
  have hfrom : InvoiceStore.invoicesFrom (createInvoiceItems
      (items₀.map fun item => { item with invoiceId := s.invoices.next })
      { s with invoices := s.invoices.create made }) q = [(s.invoices.next, made)] := by
    show ((s.invoices.create made).rows.filter fun r => r.2.sourceDocumentId = some q) = _
    rw [Serial.create, List.filter_append]
    refine (congrArg (· ++ _) hnone).trans ?_
    simp [hsource]
  have hquoteItems : itemsOf q (createInvoiceItems
      (items₀.map fun item => { item with invoiceId := s.invoices.next })
      { s with invoices := s.invoices.create made }) = items₀ := by
    rw [itemsOf_createInvoiceItems hids, if_neg hlt.ne', List.append_nil]
    exact h.items
  refine ⟨Serial.find?_create_of_some h.find made, h.amounts, h.source, hquoteItems,
    itemsKnown_insert h.known hids made, fun _ => hclosed, hfrom ▸ le_rfl, ?_⟩
  intro r hr
  rw [hfrom] at hr
  obtain rfl := List.mem_singleton.mp hr
  refine ⟨htype, hsame, ?_⟩
  rw [hquoteItems, itemsOf_createInvoiceItems hids, if_pos rfl]
  refine (congrArg (· ++ _) ?_).trans (List.nil_append _)
  exact itemsOf_fresh h.known

/-- The conversion of an open quote, as it was read before, makes the one invoice from it. -/
theorem quoteHeld_convert (h : QuoteHeld q quote₀ items₀ s quote)
    (hopen : quote.status = .draft ∨ quote.status = .sent)
    (hunpaid : quote₀.paidAmount = db.decimal 0 ∧ quote₀.dueAmount = quote₀.totalAmount)
    {read : Invoice × List InvoiceItem} (hread : quote₀.SameAmounts read.1 ∧ read.2 = items₀)
    {newId : Id} (hcommit : commitConvert db clock tenantId q read s = .ok (newId, s')) :
    ∃ quote', QuoteHeld q quote₀ items₀ s' quote' := by
  obtain ⟨s₁, hupdate, hcommit⟩ := Except.bind_eq_ok_iff.mp hcommit
  obtain ⟨⟨id', s₂⟩, hinsert, hcommit⟩ := Except.bind_eq_ok_iff.mp hcommit
  obtain rfl := updateInvoice_ok hupdate
  obtain ⟨rfl, rfl⟩ := insertInvoice_ok hinsert
  obtain rfl := congrArg Prod.snd (Except.ok.inj hcommit)
  obtain ⟨hsame, rfl⟩ := hread
  have hnone : s.invoicesFrom q = [] := by
    by_contra hsome
    have hclosed := h.closed hsome
    rcases hopen with hopen | hopen
    · simp [hopen] at hclosed
    · simp [hopen] at hclosed
  have haccepted : QuoteHeld q quote₀ read.2 { s with invoices := s.invoices.modify q fun quote =>
        { quote with status := .accepted, acceptedAt := some clock.time } }
      { quote with status := .accepted, acceptedAt := some clock.time } :=
    quoteHeld_modify h ⟨rfl, rfl, rfl, rfl, rfl, rfl⟩ rfl fun _ => .inl rfl
  refine ⟨_, quoteHeld_made haccepted ((invoicesFrom_modify h.find h.source rfl).trans hnone)
    (.inl rfl) rfl rfl ?_⟩
  exact ⟨hsame.subtotal, hsame.discountAmount, hsame.taxAmount, hsame.totalAmount,
    hunpaid.1.symm, hsame.totalAmount.trans hunpaid.2.symm⟩

end Commits

section Interleaved

theorem readConvert_ok {read : Invoice × List InvoiceItem}
    (h : readConvert tenantId q s = .ok read) :
    s.invoices.find? q = some read.1 ∧ read.2 = itemsOf q s := by
  obtain ⟨quote, hfound, h⟩ := Except.bind_eq_ok_iff.mp h
  obtain ⟨_, _, h⟩ := Except.bind_eq_ok_iff.mp h
  obtain rfl := Except.ok.inj h
  exact ⟨findQuoteOrThrow_ok hfound, rfl⟩

/-- What a conversion has read are the amounts and the items of the quote. -/
def ReadOfQuote (quote₀ : Invoice) (items₀ : List InvoiceItem) (r : QuoteRequest)
    (read : Invoice × List InvoiceItem) : Prop :=
  match r with
  | .convertToInvoice _ _ => quote₀.SameAmounts read.1 ∧ read.2 = items₀
  | _ => True

theorem readOfQuote_of_read (h : QuoteHeld q quote₀ items₀ s quote) {r : QuoteRequest}
    {read : Invoice × List InvoiceItem} (hread : (quoteRequests db q).read r s = some read) :
    ReadOfQuote quote₀ items₀ r read := by
  cases r with
  | convertToInvoice clock tenantId =>
    obtain ⟨hfind, hitems⟩ := readConvert_ok (Except.toOption_eq_some_iff.mp hread)
    obtain rfl := Option.some.inj (h.find.symm.trans hfind)
    exact ⟨h.amounts, hitems.trans h.items⟩
  | cancel clock tenantId => trivial
  | markAsSent clock tenantId => trivial

theorem commitCancelInvoice_ok (h : commitCancelInvoice clock id s = .ok ((), s')) :
    s' = { s with invoices := s.invoices.modify id fun invoice =>
      { invoice with status := .cancelled, cancelledAt := some clock.time } } := by
  obtain ⟨s₁, hupdate, h⟩ := Except.bind_eq_ok_iff.mp h
  obtain rfl : s₁ = s' := congrArg Prod.snd (Except.ok.inj h)
  exact updateInvoice_ok hupdate

theorem commitSend_ok (h : commitSend clock id s = .ok ((), s')) :
    s' = { s with invoices := s.invoices.modify id fun invoice =>
      { invoice with status := .sent, sentAt := some clock.time } } := by
  obtain ⟨s₁, hupdate, h⟩ := Except.bind_eq_ok_iff.mp h
  obtain rfl : s₁ = s' := congrArg Prod.snd (Except.ok.inj h)
  exact updateInvoice_ok hupdate

/-- What is written on the quote keeps what holds of it. -/
theorem quoteHeld_commit (h : QuoteHeld q quote₀ items₀ s quote)
    (hunpaid : quote₀.paidAmount = db.decimal 0 ∧ quote₀.dueAmount = quote₀.totalAmount)
    {r : QuoteRequest} {read : Invoice × List InvoiceItem}
    (hread : ReadOfQuote quote₀ items₀ r read) (hopen : FoundOpen q s r read) :
    ∃ quote', QuoteHeld q quote₀ items₀ ((quoteRequests db q).commit r read s) quote' := by
  let held (s : InvoiceStore) : Prop := ∃ quote, QuoteHeld q quote₀ items₀ s quote
  cases r with
  | convertToInvoice clock tenantId =>
    exact transaction_preserves (I := held) ⟨quote, h⟩ fun _ _ hcommit =>
      quoteHeld_convert h (hopen quote h.find) hunpaid hread hcommit
  | cancel clock tenantId =>
    refine transaction_preserves (I := held) ⟨quote, h⟩ fun _ _ hcommit => ?_
    obtain rfl := commitCancelInvoice_ok hcommit
    exact ⟨_, quoteHeld_modify h ⟨rfl, rfl, rfl, rfl, rfl, rfl⟩ rfl fun _ => .inr rfl⟩
  | markAsSent clock tenantId =>
    refine transaction_preserves (I := held) ⟨quote, h⟩ fun _ _ hcommit => ?_
    obtain rfl := commitSend_ok hcommit
    obtain ⟨haccepted, hcancelled⟩ := hopen quote h.find
    refine ⟨_, quoteHeld_modify h ⟨rfl, rfl, rfl, rfl, rfl, rfl⟩ rfl fun hsome => ?_⟩
    exact absurd (h.closed hsome) (not_or.mpr ⟨haccepted, hcancelled⟩)

/-- The quote is cancelled, after these invoices were made from it. -/
def CancelledAfter (q : Id) (made : List (Id × Invoice)) (s : InvoiceStore) : Prop :=
  ∃ quote, s.invoices.find? q = some quote ∧ quote.sourceDocumentId ≠ some q ∧
    quote.status = .cancelled ∧ s.invoicesFrom q = made

/-- A cancelled quote stays cancelled, and no invoice is made from it. -/
theorem cancelled_commit {made : List (Id × Invoice)} (h : CancelledAfter q made s)
    {r : QuoteRequest} {read : Invoice × List InvoiceItem} (hopen : FoundOpen q s r read) :
    CancelledAfter q made ((quoteRequests db q).commit r read s) := by
  obtain ⟨quote, hfind, hsource, hcancelled, hmade⟩ := h
  cases r with
  | convertToInvoice clock tenantId =>
    have hstatus := hopen quote hfind
    rw [hcancelled] at hstatus
    exact absurd hstatus (by decide)
  | cancel clock tenantId =>
    refine transaction_preserves (I := CancelledAfter q made)
      ⟨quote, hfind, hsource, hcancelled, hmade⟩ fun _ _ hcommit => ?_
    obtain rfl := commitCancelInvoice_ok hcommit
    exact ⟨_, Serial.find?_modify_of_some hfind _, hsource, rfl,
      (invoicesFrom_modify hfind hsource rfl).trans hmade⟩
  | markAsSent clock tenantId => exact absurd hcancelled (hopen quote hfind).2

/-- Nothing is paid on a quote, so that its total is due. -/
theorem quotes_unpaid {customers : Serial InvoiceCustomer} {locations : Serial Location}
    {products : Serial Product} {ok : InvoiceStore → InvoiceCall → Prop}
    (h : Runs (fun call s => s.step db call) ok
      (InvoiceStore.initial customers locations products) s) :
    s.invoices.All fun _ i => i.documentType = .quote →
      i.paidAmount = db.decimal 0 ∧ i.dueAmount = i.totalAmount := by
  refine invoices_invariant h (fun s call invoice _ hnew _ => ?_) ?_
  · cases hnew with
    | created => exact ⟨rfl, rfl⟩
    | converted => exact ⟨rfl, rfl⟩
  · intro s call id invoice invoice' payments hunpaid hstep htype
    cases hstep with
    | paid tenantId dto hcall hvalid hread => exact absurd htype (readPayment_ok hread).2
    | kept => exact hunpaid htype
    | edited dto hdraft => exact hunpaid htype
    | sent hdraft => exact hunpaid htype
    | accepted hquote hopen => exact hunpaid htype
    | cancelled hopen => exact hunpaid htype

theorem itemsKnown_of_runs {customers : Serial InvoiceCustomer} {locations : Serial Location}
    {products : Serial Product} {ok : InvoiceStore → InvoiceCall → Prop}
    (h : Runs (fun call s => s.step db call) ok
      (InvoiceStore.initial customers locations products) s) : s.ItemsKnown :=
  Runs.invariant (I := InvoiceStore.ItemsKnown) h (fun _ _ hfind => (by cases hfind))
    fun s call hI _ => (documentStep db call s).known hI

/-- In every interleaving of requests on a quote that was not converted before, in which what is
written finds the quote open, at most one invoice is made from it, a copy of the quote, and none
once it is cancelled. -/
theorem one_invoice_per_quote {customers : Serial InvoiceCustomer} {locations : Serial Location}
    {products : Serial Product}
    (hreach : Runs (fun call s => s.step db call) (fun _ _ => True)
      (InvoiceStore.initial customers locations products) s)
    (hfind : s.invoices.find? q = some quote₀) (htype : quote₀.documentType = .quote)
    (hnone : s.invoicesFrom q = [])
    {c c' : ReadCommit.Config InvoiceStore QuoteRequest (Invoice × List InvoiceItem)}
    (h : (quoteRequests db q).Interleaved (FoundOpen q) ⟨s, []⟩ c)
    (h' : (quoteRequests db q).Interleaved (FoundOpen q) c c') :
    ∃ quote, c.state.invoices.find? q = some quote ∧
      (c.state.invoicesFrom q).length ≤ 1 ∧
      (∀ r ∈ c.state.invoicesFrom q, Invoice.CopyOf c.state q quote r.1 r.2) ∧
      (quote.status = .cancelled → ∃ quote', c'.state.invoices.find? q = some quote' ∧
        quote'.status = .cancelled ∧ c'.state.invoicesFrom q = c.state.invoicesFrom q) := by
  have hsource : quote₀.sourceDocumentId ≠ some q := by
    intro hself
    have hmem : (q, quote₀) ∈ s.invoicesFrom q :=
      List.mem_filter.mpr ⟨Table.mem_rows_of_find? hfind, decide_eq_true hself⟩
    rw [hnone] at hmem
    cases hmem
  have hstart : QuoteHeld q quote₀ (itemsOf q s) s quote₀ :=
    ⟨hfind, ⟨rfl, rfl, rfl, rfl, rfl, rfl⟩, hsource, rfl, itemsKnown_of_runs hreach,
      fun hsome => absurd hnone hsome, by simp [hnone], by simp [hnone]⟩
  -- Up to c the quote has at most one invoice, whatever is read meanwhile.
  obtain ⟨⟨quote, hheld⟩, _⟩ := ReadCommit.Interleaved.invariant
    (I := fun s' => ∃ quote, QuoteHeld q quote₀ (itemsOf q s) s' quote)
    (K := fun _ => ReadOfQuote quote₀ (itemsOf q s)) h ⟨quote₀, hstart⟩
    (fun _ hx => (by cases hx))
    (fun _ _ _ ⟨_, hI⟩ hread => readOfQuote_of_read hI hread)
    (fun _ _ _ ⟨_, hI⟩ hread hopen =>
      quoteHeld_commit hI (quotes_unpaid hreach q quote₀ hfind htype) hread hopen)
    fun _ _ _ _ _ _ _ _ hread' => hread'
  refine ⟨quote, hheld.find, hheld.one, fun r hr => ?_, fun hcancelled => ?_⟩
  · obtain ⟨hinvoice, hsame, hitems⟩ := hheld.copies r hr
    exact ⟨hinvoice, hheld.amounts.symm.trans hsame, hitems⟩
  · -- From c on a cancelled quote stays cancelled and gets no further invoice.
    obtain ⟨⟨quote', hfind', _, hcancelled', hmade⟩, _⟩ := ReadCommit.Interleaved.invariant
      (I := CancelledAfter q (c.state.invoicesFrom q)) (K := fun _ _ _ => True) h'
      ⟨quote, hheld.find, hheld.source, hcancelled, rfl⟩ (fun _ _ => trivial)
      (fun _ _ _ _ _ => trivial) (fun _ _ _ hI _ hopen => cancelled_commit hI hopen)
      fun _ _ _ _ _ _ _ _ _ => trivial
    exact ⟨quote', hfind', hcancelled', hmade⟩

/-- A draft quote. -/
def draftQuote : InvoiceStore :=
  [⟨⟨0, 2024⟩, .create 0 (deskOrder .quote (some (5 / 2)))⟩].foldl
    (fun s call => s.step .scale4 call) officeStore

def draftQuoteRow : Invoice := (draftQuote.invoices.find? 0).get (by decide +kernel)

/-- The quote is sent, then converted, while a second conversion comes too late to read it open;
then it is cancelled. -/
def convertedAndCancelled :
    ReadCommit.Config InvoiceStore QuoteRequest (Invoice × List InvoiceItem) :=
  (quoteRequests .scale4 0).execAll
    [.read (.markAsSent ⟨1, 2024⟩ 0), .commit 0, .read (.convertToInvoice ⟨2, 2024⟩ 0), .commit 0,
      .read (.convertToInvoice ⟨3, 2024⟩ 0), .read (.cancel ⟨4, 2024⟩ 0), .commit 0]
    ⟨draftQuote, []⟩

/-- A conversion of the cancelled quote is tried. -/
def triedAgain : ReadCommit.Config InvoiceStore QuoteRequest (Invoice × List InvoiceItem) :=
  (quoteRequests .scale4 0).execAll [.read (.convertToInvoice ⟨5, 2024⟩ 0), .commit 0]
    convertedAndCancelled

theorem one_invoice_per_quote_cancelled :
    ∃ quote, convertedAndCancelled.state.invoices.find? 0 = some quote ∧
      (convertedAndCancelled.state.invoicesFrom 0).length ≤ 1 ∧
      (∀ r ∈ convertedAndCancelled.state.invoicesFrom 0,
        Invoice.CopyOf convertedAndCancelled.state 0 quote r.1 r.2) ∧
      (quote.status = .cancelled → ∃ quote', triedAgain.state.invoices.find? 0 = some quote' ∧
        quote'.status = .cancelled ∧
        triedAgain.state.invoicesFrom 0 = convertedAndCancelled.state.invoicesFrom 0) :=
  have hreach : Runs (fun call s => s.step .scale4 call) (fun _ _ => True) officeStore
      draftQuote := Runs.of_allMeet (by decide +kernel)
  have hfind : draftQuote.invoices.find? 0 = some draftQuoteRow := (Option.some_get _).symm
  have hnone : draftQuote.invoicesFrom 0 = [] := List.length_eq_zero_iff.mp (by decide +kernel)
  one_invoice_per_quote hreach hfind (by decide +kernel) hnone
    (ReadCommit.interleaved_execAll (by decide +kernel))
    (ReadCommit.interleaved_execAll (by decide +kernel))

/-- Two conversions and a cancellation all read the draft, and the cancellation is written first. -/
def cancelledAfterReads : ReadCommit.Config InvoiceStore QuoteRequest (Invoice × List InvoiceItem) :=
  (quoteRequests .scale4 0).execAll
    [.read (.convertToInvoice ⟨1, 2024⟩ 0), .read (.convertToInvoice ⟨2, 2024⟩ 0),
      .read (.cancel ⟨3, 2024⟩ 0), .commit 2] ⟨draftQuote, []⟩

def convertedTwice : ReadCommit.Config InvoiceStore QuoteRequest (Invoice × List InvoiceItem) :=
  (quoteRequests .scale4 0).execAll [.commit 0, .commit 0] cancelledAfterReads

/-- Two invoices are made from the quote after it was cancelled. -/
theorem converted_twice :
    Runs (fun call s => s.step .scale4 call) (fun _ _ => True) officeStore draftQuote ∧
    (quoteRequests .scale4 0).Interleaved (fun _ _ _ => True) ⟨draftQuote, []⟩
      cancelledAfterReads ∧
    (quoteRequests .scale4 0).Interleaved (fun _ _ _ => True) cancelledAfterReads
      convertedTwice ∧
    draftQuoteRow.documentType = .quote ∧ (draftQuote.invoicesFrom 0).length = 0 ∧
    (cancelledAfterReads.state.invoices.find? 0).map Invoice.status = some .cancelled ∧
    (cancelledAfterReads.state.invoicesFrom 0).length = 0 ∧
    (convertedTwice.state.invoicesFrom 0).length = 2 :=
  ⟨Runs.of_allMeet (by decide +kernel), ReadCommit.interleaved_execAll (by decide +kernel),
    ReadCommit.interleaved_execAll (by decide +kernel), by decide +kernel, by decide +kernel,
    by decide +kernel, by decide +kernel, by decide +kernel⟩

end Interleaved

end Invetrixa
