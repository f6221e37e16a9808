import Invetrixa.Invoice.Invoice
import Invetrixa.Library.Numerals
import Invetrixa.Refinement.SaleSteps
import Invetrixa.Refinement.Invoices
import Mathlib.Data.List.TakeWhile

/-!
# Document numbers in a row

The next number of a document is read off the largest one as a string. Numbers of one year are issued
in a row up to the last one of the width, and the one after it. That one is wider and sorts below, so
that from then on it is generated again and again, and no document can be created.

## Main definitions

- `DocumentKind`, `Documents` — the numbered documents, and the stores that have them
- `Creates` — a service creates a document
- `Issued` — a history in which documents have been created one after another

## Main results

- `nextNumber_of_filter` — the number after the first ones
- `number_fresh_iff`, `hundred_thousand_carts`
-/

namespace Invetrixa

open Rowstore Numerals SaleService CartService RefundService InvoiceService

section Generator

variable {width n : ℕ} {head text : String} {numbers : List String}

/-- The number starts with a text. -/
def startsWith (head number : String) : Bool := head.toList.isPrefixOf number.toList

theorem toList_padStart (n : ℕ) : (padStart (toString n) width).toList = padded width n := by
  rw [padStart, String.toList_append, String.toList_ofList, Nat.toString_eq_repr, Nat.toList_repr,
    ← String.length_toList, Nat.toList_repr, padded]

theorem parseDecimal_padded (n : ℕ) : parseDecimal (padded width n) = some n := by
  have hdigits : (padded width n).takeWhile Char.isDigit = padded width n :=
    List.takeWhile_eq_self_iff.mpr fun c hc => isDigit_of_mem_padded hc
  rw [parseDecimal, hdigits]
  split
  · next hnil => exact absurd hnil padded_ne_nil
  · exact congrArg some ofDigitChars_padded

theorem latest_mem {a : String} (h : latest numbers = some a) : a ∈ numbers := by
  induction numbers with
  | nil => cases h
  | cons b rest ih =>
    rw [latest] at h
    cases hrest : latest rest with
    | none =>
      rw [hrest] at h
      obtain rfl := Option.some.inj h
      exact List.mem_cons_self
    | some c =>
      rw [hrest] at h
      dsimp only at h
      split at h
      · obtain rfl := Option.some.inj h
        exact List.mem_cons_self
      · obtain rfl := Option.some.inj h
        exact List.mem_cons_of_mem _ (ih hrest)

/-- The string above all others is the latest. -/
theorem latest_eq_some {a : String} (hmem : a ∈ numbers) (h : ∀ b ∈ numbers, b ≠ a → b < a) :
    latest numbers = some a := by
  induction numbers with
  | nil => cases hmem
  | cons b rest ih =>
    rw [latest]
    by_cases ha : a ∈ rest
    · rw [ih ha fun c hc => h c (List.mem_cons_of_mem _ hc)]
      dsimp only
      split
      · next hlt =>
        by_cases hb : b = a
        · rw [hb]
        · exact absurd hlt (String.lt_asymm (h b List.mem_cons_self hb))
      · rfl
    · obtain rfl : a = b := (List.mem_cons.mp hmem).resolve_right ha
      cases hrest : latest rest with
      | none => rfl
      | some c =>
        have hc := latest_mem hrest
        dsimp only
        rw [if_pos (h c (List.mem_cons_of_mem _ hc) (by rintro rfl; exact ha hc))]

theorem append_lt_append {a b : String} (h : a.toList < b.toList) : head ++ a < head ++ b := by
  rw [String.lt_iff, String.toList_append, String.toList_append]
  exact List.append_left_lt h

/-- The `n`-th number. -/
def numeral (head : String) (width n : ℕ) : String := head ++ padStart (toString n) width

theorem toList_numeral (n : ℕ) :
    (numeral head width n).toList = head.toList ++ padded width n := by
  rw [numeral, String.toList_append, toList_padStart]

theorem numeral_injective : Function.Injective (numeral head width) := by
  intro m n h
  have htails := congrArg String.toList h
  rw [toList_numeral, toList_numeral] at htails
  exact padded_injective (List.append_cancel_left htails)

theorem startsWith_append (head text : String) : startsWith head (head ++ text) = true := by
  rw [startsWith, String.toList_append]
  exact List.isPrefixOf_iff_prefix.mpr (List.prefix_append _ _)

/-- The first numbers of a text, all of which are there. -/
def firstNumbers (head : String) (width n : ℕ) : List String :=
  (List.range n).map fun k => numeral head width (k + 1)

theorem mem_firstNumbers {number : String} : number ∈ firstNumbers head width n ↔
    ∃ k, 0 < k ∧ k ≤ n ∧ numeral head width k = number := by
  rw [firstNumbers, List.mem_map]
  constructor
  · rintro ⟨k, hk, rfl⟩
    exact ⟨k + 1, Nat.succ_pos k, List.mem_range.mp hk, rfl⟩
  · rintro ⟨k, hpos, hk, rfl⟩
    exact ⟨k - 1, List.mem_range.mpr (by omega), by rw [Nat.sub_add_cancel hpos]⟩

theorem firstNumbers_succ : firstNumbers head width (n + 1) =
    firstNumbers head width n ++ [numeral head width (n + 1)] := by
  rw [firstNumbers, firstNumbers, List.range_succ, List.map_append, List.map_singleton]

/-- The latest of the first numbers, at the end of the width the last one of all nines. -/
theorem latest_firstNumbers (hwidth : 0 < width) (hn : 0 < n) (hle : n ≤ 10 ^ width) :
    latest (firstNumbers head width n) = some (numeral head width (min n (10 ^ width - 1))) := by
  have hpow : 10 ≤ 10 ^ width := Nat.le_self_pow hwidth.ne' 10
  apply latest_eq_some
  · exact mem_firstNumbers.mpr ⟨_, by omega, by omega, rfl⟩
  · intro number hnumber hne
    obtain ⟨k, hpos, hk, rfl⟩ := mem_firstNumbers.mp hnumber
    have hne' : k ≠ min n (10 ^ width - 1) := fun heq => hne (heq ▸ rfl)
    apply append_lt_append
    rw [toList_padStart, toList_padStart]
    by_cases hlast : k = 10 ^ width
    · -- The widest number is there, and then so is the one before it.
      have hmin : min n (10 ^ width - 1) = 10 ^ width - 1 := by omega
      rw [hlast, hmin]
      exact padded_pow_lt hwidth
    · exact (padded_lt_padded hwidth (by omega) (by omega)).mpr (by omega)

theorem nextNumber_eq_append (head : String) (width : ℕ) (numbers : List String) :
    ∃ text, nextNumber head width numbers = head ++ text := by
  rw [nextNumber]
  split
  · exact ⟨_, rfl⟩
  · split
    · exact ⟨_, rfl⟩
    · exact ⟨_, rfl⟩

/-- After the first numbers comes the next one, and at the end of the width the same one again. -/
theorem nextNumber_of_filter (hwidth : 0 < width) (hle : n ≤ 10 ^ width)
    (h : numbers.filter (startsWith head) = firstNumbers head width n) :
    nextNumber head width numbers = numeral head width (min (n + 1) (10 ^ width)) := by
  have hpow : 10 ≤ 10 ^ width := Nat.le_self_pow hwidth.ne' 10
  have hfilter : (numbers.filter fun number => head.toList.isPrefixOf number.toList) =
      firstNumbers head width n := h
  rw [nextNumber, hfilter]
  rcases Nat.eq_zero_or_pos n with rfl | hn
  · have hone : min (0 + 1) (10 ^ width) = 1 := by omega
    rw [hone]
    rfl
  · rw [latest_firstNumbers hwidth hn hle]
    dsimp only
    rw [toList_numeral, ← String.length_toList, List.drop_left, parseDecimal_padded]
    have hnext : min n (10 ^ width - 1) + 1 = min (n + 1) (10 ^ width) := by omega
    dsimp only
    rw [hnext]
    rfl

end Generator

section Kinds

/-- The documents that are numbered. -/
inductive DocumentKind
  | sale
  /-- an invoice, a quote or a proforma invoice -/
  | document (type : DocumentType)
  | refund
  | session
  | transfer
  deriving DecidableEq

/-- The stores that have numbered documents. -/
structure Documents where
  store : Store
  invoices : InvoiceStore

namespace DocumentKind

/-- What the numbers of a year start with. -/
def head (kind : DocumentKind) (year : ℕ) : String :=
  match kind with
  | sale => "INV-" ++ toString year ++ "-"
  | document type => getDocumentPrefix type ++ "-" ++ toString year ++ "-"
  | refund => "REF-" ++ toString year ++ "-"
  | session => "SES-" ++ toString year ++ "-"
  | transfer => "TRF-" ++ toString year ++ "-"

/-- The width that numbers are padded to. -/
def width : DocumentKind → ℕ
  | transfer => 4
  | _ => 5

/-- The numbers that a tenant's documents have, under the unique constraint of the kind. -/
def existing (kind : DocumentKind) (tenantId : Id) (x : Documents) : List String :=
  match kind with
  | sale =>
      (x.store.sales.rows.filter fun r => r.2.tenantId = tenantId).map fun r => r.2.saleNumber
  | document _ =>
      (x.invoices.invoices.rows.filter fun r => r.2.tenantId = tenantId).map
        fun r => r.2.documentNumber
  | refund =>
      (x.store.saleRefunds.rows.filter fun r => r.2.tenantId = tenantId).map
        fun r => r.2.refundNumber
  | session =>
      (x.store.sessions.rows.filter fun r => r.2.tenantId = tenantId).map fun r => r.2.sessionNumber
  | transfer =>
      (x.store.transfers.rows.filter fun r => r.2.tenantId = tenantId).map
        fun r => r.2.transferNumber

/-- The next number of the kind. -/
def generate (kind : DocumentKind) (clock : Clock) (tenantId : Id) (x : Documents) : String :=
  match kind with
  | sale => generateSaleNumber clock tenantId x.store
  | document type => generateDocumentNumber clock tenantId (getDocumentPrefix type) x.invoices
  | refund => generateRefundNumber clock tenantId x.store
  | session => generateSessionNumber clock tenantId x.store
  | transfer => generateTransferNumber clock tenantId x.store

/-- The two kinds have their numbers under one constraint. -/
inductive Shares : DocumentKind → DocumentKind → Prop
  | same (kind : DocumentKind) : Shares kind kind
  | documents (type type' : DocumentType) : Shares (document type) (document type')

end DocumentKind

open DocumentKind

variable {kind kind' : DocumentKind} {tenantId : Id} {clock : Clock} {x x' : Documents}
  {year year' n : ℕ}

theorem generate_eq (kind : DocumentKind) (clock : Clock) (tenantId : Id) (x : Documents) :
    kind.generate clock tenantId x =
      nextNumber (kind.head clock.fullYear) kind.width (kind.existing tenantId x) := by
  cases kind <;> rfl

theorem width_pos (kind : DocumentKind) : 0 < kind.width := by
  cases kind <;> exact Nat.succ_pos _

theorem existing_of_shares (h : kind.Shares kind') (tenantId : Id) (x : Documents) :
    kind'.existing tenantId x = kind.existing tenantId x := by
  cases h <;> rfl

/-- The letters that a number starts with. -/
def DocumentKind.letters : DocumentKind → List Char
  | sale => ['I', 'N', 'V', '-']
  | document .quote => ['Q', 'U', 'O', '-']
  | document .proforma => ['P', 'R', 'O', '-']
  | document .invoice => ['I', 'N', 'V', '-']
  | refund => ['R', 'E', 'F', '-']
  | session => ['S', 'E', 'S', '-']
  | transfer => ['T', 'R', 'F', '-']

theorem toList_head (kind : DocumentKind) (year : ℕ) :
    (kind.head year).toList = kind.letters ++ (Nat.toDigits 10 year ++ ['-']) := by
  cases kind with
  | document type => cases type <;> simp [head, letters, getDocumentPrefix]
  | _ => simp [head, letters]

theorem letters_injective (h : kind.Shares kind') (hletters : kind.letters = kind'.letters) :
    kind = kind' := by
  cases h with
  | same => rfl
  | documents type type' => cases type <;> cases type' <;> first | rfl | simp [letters] at hletters

/-- The digits before a dash can be read off. -/
theorem toDigits_of_dash {m n : ℕ} {l l' : List Char}
    (h : Nat.toDigits 10 m ++ '-' :: l = Nat.toDigits 10 n ++ '-' :: l') : m = n := by
  have htake (k : ℕ) (l : List Char) :
      (Nat.toDigits 10 k ++ '-' :: l).takeWhile Char.isDigit = Nat.toDigits 10 k := by
    rw [List.takeWhile_append_of_pos fun c hc =>
      Nat.isDigit_of_mem_toDigits (by decide) (by decide) hc]
    exact List.append_nil _
  have hdigits := congrArg (fun l => Nat.ofDigitChars 10 (l.takeWhile Char.isDigit) 0) h
  simpa [htake] using hdigits

/-- A number starts with the text of its own kind and year only. -/
theorem startsWith_head (hshares : kind.Shares kind') (text : String) :
    startsWith (kind.head year) (kind'.head year' ++ text) = true ↔ kind = kind' ∧ year = year' := by
  constructor
  · intro h
    obtain ⟨rest, hrest⟩ := List.isPrefixOf_iff_prefix.mp h
    rw [String.toList_append, toList_head, toList_head, List.append_assoc, List.append_assoc,
      List.append_assoc, List.append_assoc] at hrest
    have hlength : kind.letters.length = kind'.letters.length := by
      have hfour (k : DocumentKind) : k.letters.length = 4 := by
        cases k with
        | document type => cases type <;> rfl
        | _ => rfl
      rw [hfour, hfour]
    obtain ⟨hletters, hyear⟩ := List.append_inj hrest hlength
    exact ⟨letters_injective hshares hletters, toDigits_of_dash hyear⟩
  · rintro ⟨rfl, rfl⟩
    exact startsWith_append _ _

end Kinds

section Creations

open DocumentKind

/-- A service creates a document for a tenant. -/
inductive Creates (db : Database) (tenantId : Id) (clock : Clock) :
    DocumentKind → Documents → Documents → Prop
  | cart (dto : CreateCartDto) (id : Id) (x : Documents) (s : Store)
      (h : createCart clock tenantId dto x.store = .ok (id, s)) :
      Creates db tenantId clock .sale x { x with store := s }
  | sale (dto : CreateSaleDto) (id : Id) (x : Documents) (s : Store)
      (h : SaleService.create db clock tenantId dto x.store = .ok (id, s)) :
      Creates db tenantId clock .sale x { x with store := s }
  | document (dto : CreateInvoiceDto) (id : Id) (x : Documents) (s : InvoiceStore)
      (h : InvoiceService.create db clock tenantId dto x.invoices = .ok (id, s)) :
      Creates db tenantId clock (.document dto.documentType) x { x with invoices := s }
  | converted (quoteId id : Id) (x : Documents) (s : InvoiceStore)
      (h : convertToInvoice db clock tenantId quoteId x.invoices = .ok (id, s)) :
      Creates db tenantId clock (.document .invoice) x { x with invoices := s }
  | refund (saleId : Id) (dto : CreateRefundDto) (id : Id) (x : Documents) (s : Store)
      (h : createRefund db clock tenantId saleId dto x.store = .ok (id, s)) :
      Creates db tenantId clock .refund x { x with store := s }
  | session (dto : SessionService.OpenSessionDto) (id : Id) (x : Documents) (s : Store)
      (h : SessionService.open db clock tenantId dto x.store = .ok (id, s)) :
      Creates db tenantId clock .session x { x with store := s }
  | transfer (dto : TransferService.CreateTransferDto) (id : Id) (number : String) (x : Documents)
      (s : Store)
      (h : TransferService.createDraft clock tenantId dto x.store = .ok ((id, number), s)) :
      Creates db tenantId clock .transfer x { x with store := s }

variable {db : Database} {kind kind' : DocumentKind} {tenantId : Id} {clock : Clock}
  {x x' : Documents} {year n : ℕ}

/-- A new row of the tenant adds its number, which the unique constraint has found to be new. -/
theorem numbers_create {ρ : Type} {rows : Serial ρ} {tenant : ρ → Id} {number : ρ → String}
    {row : ρ} (htenant : tenant row = tenantId)
    (hfresh : ¬(rows.rows.any fun r => number r.2 = number row ∧ tenant r.2 = tenant row) = true) :
    (((rows.create row).rows.filter fun r => tenant r.2 = tenantId).map fun r => number r.2) =
        ((rows.rows.filter fun r => tenant r.2 = tenantId).map fun r => number r.2) ++ [number row] ∧
      number row ∉ (rows.rows.filter fun r => tenant r.2 = tenantId).map fun r => number r.2 := by
  constructor
  · show (((rows.rows ++ [(rows.next, row)]).filter _).map _) = _
    rw [List.filter_append, List.map_append]
    simp [htenant]
  · intro hmem
    obtain ⟨r, hr, hnumber⟩ := List.mem_map.mp hmem
    obtain ⟨hrow, htenant'⟩ := List.mem_filter.mp hr
    refine hfresh (List.any_eq_true.mpr ⟨r, hrow, ?_⟩)
    exact decide_eq_true ⟨hnumber, (of_decide_eq_true htenant').trans htenant.symm⟩

theorem numbers_modify {ρ : Type} (tenant : ρ → Id) (number : ρ → String) (rows : Serial ρ)
    (k : Id) (f : ρ → ρ) (tenantId : Id)
    (hf : ∀ row, tenant (f row) = tenant row ∧ number (f row) = number row) :
    (((rows.modify k f).rows.filter fun r => tenant r.2 = tenantId).map fun r => number r.2) =
      (rows.rows.filter fun r => tenant r.2 = tenantId).map fun r => number r.2 := by
  show (((rows.rows.map fun r => if decide (r.1 = k) then (r.1, f r.2) else r).filter _).map _) = _
  rw [List.filter_map, List.map_map]
  have hrow (r : Id × ρ) : tenant (if decide (r.1 = k) then (r.1, f r.2) else r).2 = tenant r.2 ∧
      number (if decide (r.1 = k) then (r.1, f r.2) else r).2 = number r.2 := by
    split
    · exact hf r.2
    · exact ⟨rfl, rfl⟩
  refine (List.map_congr_left fun r _ => (hrow r).2).trans (congrArg _ ?_)
  refine List.filter_congr fun r _ => ?_
  show decide (tenant (if decide (r.1 = k) then (r.1, f r.2) else r).2 = tenantId) = _
  rw [(hrow r).1]

theorem tenantId_of_findQuote {quoteId : Id} {s : InvoiceStore} {quote : Invoice}
    (h : findQuoteOrThrow tenantId quoteId s = .ok quote) : quote.tenantId = tenantId := by
  rw [findQuoteOrThrow] at h
  split at h
  · next quote' hfind =>
    obtain rfl := Except.ok.inj h
    exact of_decide_eq_true (Option.filter_eq_some_iff.mp hfind).2
  · cases h

/-- What a guarded computation returns, it returns because the guard is off. -/
theorem not_of_ite_ok {α : Type} {p : Prop} [Decidable p] {e : HttpError} {y : Except HttpError α}
    {a : α} (h : (if p then .error e else y) = .ok a) : ¬p ∧ y = .ok a := by
  split at h
  · cases h
  · next hp => exact ⟨hp, h⟩

/-- A document that is created gets the next number, and that is new. -/
theorem existing_of_creates (h : Creates db tenantId clock kind x x') :
    kind.existing tenantId x' =
        kind.existing tenantId x ++ [kind.generate clock tenantId x] ∧
      kind.generate clock tenantId x ∉ kind.existing tenantId x := by
  cases h with
  | cart dto id _ s h =>
    obtain ⟨hfresh, _⟩ := not_of_ite_ok h
    obtain ⟨_, rfl⟩ := insertSale_ok h
    exact numbers_create rfl hfresh
  | sale dto id _ s h =>
    obtain ⟨⟨items, totals⟩, _, h⟩ := Except.bind_eq_ok_iff.mp h
    obtain ⟨⟨saleId, s₁⟩, hinsert, _⟩ := Except.bind_eq_ok_iff.mp h
    obtain ⟨hfresh, _⟩ := not_of_ite_ok hinsert
    obtain ⟨_, _, rfl⟩ := executeSaleTransaction_ok h
    -- The items, the payments and the stock that goes out leave the sales.
    have hsales : (MovementService.executeStockOut db tenantId
        (saleStockOut dto.locationId x.store.sales.next
          (items.map fun item => (item.productId, item.quantity)))
          (soldStore db clock tenantId dto items totals x.store)).2.sales =
        x.store.sales.create
          (newSale db clock tenantId (generateSaleNumber clock tenantId x.store) dto totals) :=
      congrArg PosTables.sales (pos_executeStockOut _)
    dsimp only [existing, generate]
    rw [hsales]
    exact numbers_create rfl hfresh
  | document dto id _ s h =>
    obtain ⟨_, _, h⟩ := Except.bind_eq_ok_iff.mp h
    obtain ⟨⟨id', s₁⟩, hinsert, h⟩ := Except.bind_eq_ok_iff.mp h
    obtain ⟨items, _, h⟩ := Except.bind_eq_ok_iff.mp h
    obtain rfl := congrArg Prod.snd (Except.ok.inj h)
    obtain ⟨hfresh, _⟩ := not_of_ite_ok hinsert
    obtain ⟨_, rfl⟩ := insertInvoice_ok hinsert
    exact numbers_create rfl hfresh
  | converted quoteId id _ s h =>
    obtain ⟨quote, hquote, h⟩ := Except.bind_eq_ok_iff.mp h
    obtain ⟨_, _, h⟩ := Except.bind_eq_ok_iff.mp h
    obtain ⟨s₁, hupdate, h⟩ := Except.bind_eq_ok_iff.mp h
    obtain ⟨⟨id', s₂⟩, hinsert, h⟩ := Except.bind_eq_ok_iff.mp h
    obtain rfl := congrArg Prod.snd (Except.ok.inj h)
    obtain rfl := updateInvoice_ok hupdate
    obtain ⟨hfresh, _⟩ := not_of_ite_ok hinsert
    obtain ⟨_, rfl⟩ := insertInvoice_ok hinsert
    -- The quote that is accepted keeps its number, so that the next one is the same as before.
    have hsame := numbers_modify Invoice.tenantId Invoice.documentNumber x.invoices.invoices quoteId
      (fun quote : Invoice => { quote with status := .accepted, acceptedAt := some clock.time })
      tenantId fun _ => ⟨rfl, rfl⟩
    have hnumber : ∀ invoices : Serial Invoice,
        ((invoices.rows.filter fun r => r.2.tenantId = tenantId).map fun r => r.2.documentNumber) =
          ((x.invoices.invoices.rows.filter fun r => r.2.tenantId = tenantId).map
            fun r => r.2.documentNumber) →
        generateDocumentNumber clock tenantId "INV" { x.invoices with invoices } =
          generateDocumentNumber clock tenantId "INV" x.invoices := by
      intro invoices heq
      rw [generateDocumentNumber, generateDocumentNumber, heq]
    have htenant (number : String) :
        Invoice.tenantId (convertedInvoice db clock quoteId number quote) = tenantId :=
      show quote.tenantId = tenantId from tenantId_of_findQuote hquote
    obtain ⟨hnew, hnotin⟩ := numbers_create (htenant _) hfresh
    rw [hsame] at hnew hnotin
    refine ⟨hnew.trans (congrArg (fun number => _ ++ [number]) (hnumber _ hsame)), fun hmem => ?_⟩
    exact hnotin ((hnumber _ hsame).symm ▸ hmem)
  | refund saleId dto id _ s h =>
    obtain ⟨⟨read, total⟩, _, h⟩ := Except.bind_eq_ok_iff.mp h
    obtain ⟨⟨refundId, s₁⟩, hinsert, _⟩ := Except.bind_eq_ok_iff.mp h
    obtain ⟨hfresh, _⟩ := not_of_ite_ok hinsert
    have hrefunds := congrArg PosTables.saleRefunds (pos_executeRefund h)
    dsimp only [Store.pos] at hrefunds
    dsimp only [existing, generate]
    rw [hrefunds]
    exact numbers_create rfl hfresh
  | session dto id _ s h =>
    obtain ⟨_, _, h⟩ := Except.bind_eq_ok_iff.mp h
    obtain ⟨hfresh, hnew⟩ := not_of_ite_ok h
    obtain rfl := congrArg Prod.snd (Except.ok.inj hnew)
    exact numbers_create rfl hfresh
  | transfer dto id number _ s h =>
    simp only [TransferService.createDraft] at h
    split at h
    · cases h
    · obtain ⟨_, _, h⟩ := Except.bind_eq_ok_iff.mp h
      obtain ⟨_, _, h⟩ := Except.bind_eq_ok_iff.mp h
      obtain ⟨⟨id', s₁⟩, hinsert, h⟩ := Except.bind_eq_ok_iff.mp h
      obtain rfl := congrArg Prod.snd (Except.ok.inj h)
      obtain ⟨hfresh, hinsert⟩ := not_of_ite_ok hinsert
      obtain ⟨_, hinsert⟩ := not_of_ite_ok hinsert
      obtain ⟨_, hinsert⟩ := not_of_ite_ok hinsert
      split at hinsert
      · obtain rfl := congrArg Prod.snd (Except.ok.inj hinsert)
        exact numbers_create rfl hfresh
      · cases hinsert

end Creations

section Histories

/-- A history of the documents of a kind: there are none at first, then documents are created one
after another in any years, and in between everything may happen that leaves their numbers. The
counter is that of the documents of the kind and the year. -/
inductive Issued (db : Database) (kind : DocumentKind) (tenantId : Id) (year : ℕ) :
    ℕ → Documents → Prop
  | none (x : Documents) (hnone : kind.existing tenantId x = []) : Issued db kind tenantId year 0 x
  | created (kind' : DocumentKind) (clock : Clock) (n : ℕ) (x x' : Documents)
      (h : Issued db kind tenantId year n x) (hshares : kind.Shares kind')
      (hcreates : Creates db tenantId clock kind' x x') :
      Issued db kind tenantId year
        (if kind = kind' ∧ year = clock.fullYear then n + 1 else n) x'
  | between (n : ℕ) (x x' : Documents) (h : Issued db kind tenantId year n x)
      (hsame : kind.existing tenantId x' = kind.existing tenantId x) :
      Issued db kind tenantId year n x'

/-- The numbers of the year are the first ones, up to the one after the width. -/
structure Numbered (kind : DocumentKind) (year n : ℕ) (numbers : List String) : Prop where
  le : n ≤ 10 ^ kind.width
  first : numbers.filter (startsWith (kind.head year)) =
    firstNumbers (kind.head year) kind.width n

variable {db : Database} {kind kind' : DocumentKind} {tenantId : Id} {clock : Clock}
  {x x' : Documents} {year n : ℕ} {numbers : List String}

theorem Numbered.next (h : Numbered kind year n numbers) :
    nextNumber (kind.head year) kind.width numbers =
      numeral (kind.head year) kind.width (min (n + 1) (10 ^ kind.width)) :=
  nextNumber_of_filter (width_pos kind) h.le h.first

/-- The next number is there already when the one after the width is. -/
theorem Numbered.mem_iff (h : Numbered kind year n numbers) :
    nextNumber (kind.head year) kind.width numbers ∈ numbers ↔ n = 10 ^ kind.width := by
  have hpos : 0 < 10 ^ kind.width := Nat.pow_pos (by decide)
  have hle := h.le
  have hfilter : nextNumber (kind.head year) kind.width numbers ∈ numbers ↔
      nextNumber (kind.head year) kind.width numbers ∈
        firstNumbers (kind.head year) kind.width n := by
    rw [← h.first, List.mem_filter, h.next]
    exact (and_iff_left (startsWith_append _ _)).symm
  rw [hfilter, mem_firstNumbers, h.next]
  constructor
  · rintro ⟨k, _, hk, hnumeral⟩
    obtain rfl := numeral_injective hnumeral
    omega
  · rintro rfl
    exact ⟨10 ^ kind.width, hpos, le_refl _, by rw [Nat.min_eq_right (Nat.le_succ _)]⟩

theorem Numbered.append (h : Numbered kind year n numbers)
    (hfresh : nextNumber (kind.head year) kind.width numbers ∉ numbers) :
    Numbered kind year (n + 1) (numbers ++ [nextNumber (kind.head year) kind.width numbers]) := by
  have hlt : n < 10 ^ kind.width := lt_of_le_of_ne h.le fun heq => hfresh (h.mem_iff.mpr heq)
  refine ⟨hlt, ?_⟩
  rw [List.filter_append, h.first, h.next, Nat.min_eq_left hlt, firstNumbers_succ]
  exact congrArg _ (List.filter_cons_of_pos (startsWith_append _ _))

theorem numbered_of_issued (h : Issued db kind tenantId year n x) :
    Numbered kind year n (kind.existing tenantId x) := by
  induction h with
  | none x hnone =>
    rw [hnone]
    exact ⟨Nat.zero_le _, rfl⟩
  | created kind' clock n x x' _ hshares hcreates ih =>
    obtain ⟨hexisting, hfresh⟩ := existing_of_creates hcreates
    rw [existing_of_shares hshares, existing_of_shares hshares] at hexisting
    rw [existing_of_shares hshares, generate_eq, existing_of_shares hshares] at hfresh
    rw [hexisting, generate_eq, existing_of_shares hshares]
    split
    · next hsame =>
      obtain ⟨rfl, rfl⟩ := hsame
      exact ih.append hfresh
    · next hother =>
      -- The number of another kind or year is none of the year's.
      obtain ⟨text, htext⟩ := nextNumber_eq_append (kind'.head clock.fullYear) kind'.width
        (kind.existing tenantId x)
      refine ⟨ih.le, ?_⟩
      rw [List.filter_append, ih.first, htext, List.filter_cons_of_neg, List.filter_nil,
        List.append_nil]
      rwa [startsWith_head hshares]
  | between n x x' _ hsame ih =>
    rw [hsame]
    exact ih

/-- After `n` documents of a year, created one after another: the next number of that year is new
exactly when `n` is below the first number that is wider than the padding. -/
theorem number_fresh_iff (h : Issued db kind tenantId clock.fullYear n x) :
    kind.generate clock tenantId x ∉ kind.existing tenantId x ↔ n < 10 ^ kind.width := by
  have hnumbered := numbered_of_issued h
  have hle := hnumbered.le
  rw [generate_eq, hnumbered.mem_iff]
  omega

end Histories

/-- An empty cart is opened at the front of the shop. -/
def openEmptyCart : Call := ⟨⟨0, 2024⟩, .createCart 0 ⟨0, none, none, none⟩⟩

/-- Carts are opened one after another. -/
def carts (n : ℕ) : Store := serveAll .scale4 (List.replicate n openEmptyCart) (.initial .till)

def cartDocuments (n : ℕ) : Documents := ⟨carts n, .initial .empty .empty .empty⟩

section Carts

variable {n : ℕ}

theorem carts_succ (n : ℕ) : carts (n + 1) = step .scale4 openEmptyCart (carts n) := by
  rw [carts, serveAll, List.replicate_succ', List.foldl_append]
  rfl

/-- A cart that is accepted is one more. -/
theorem issued_carts_succ (h : Issued .scale4 .sale 0 2024 n (cartDocuments n))
    (haccepted : Accepted .scale4 (carts n) openEmptyCart) :
    Issued .scale4 .sale 0 2024 (n + 1) (cartDocuments (n + 1)) := by
  obtain ⟨_, id, hcart⟩ :=
    ok_of_accepted (createCart ⟨0, 2024⟩ 0 ⟨0, none, none, none⟩) rfl haccepted
  rw [cartDocuments, carts_succ]
  exact Issued.created .sale ⟨0, 2024⟩ n _ _ h (.same _) (.cart _ id (cartDocuments n) _ hcart)

/-- A cart with a new number is accepted, as the location that it refers to is there. -/
theorem accepted_openEmptyCart
    (hlocations : (carts n).locations = (Store.initial .till).locations) :
    Accepted .scale4 (carts n) openEmptyCart ↔
      DocumentKind.generate .sale ⟨0, 2024⟩ 0 (cartDocuments n) ∉
        DocumentKind.existing .sale 0 (cartDocuments n) := by
  have hserved : Accepted .scale4 (carts n) openEmptyCart ↔
      (createCart ⟨0, 2024⟩ 0 ⟨0, none, none, none⟩ (carts n)).isOk = true := by
    have hvalid : openEmptyCart.request.Valid := trivial
    exact (accepted_iff_of_serve (createCart ⟨0, 2024⟩ 0 ⟨0, none, none, none⟩) rfl hvalid).1
  rw [hserved, isOk_iff]
  constructor
  · rintro ⟨⟨id, s'⟩, hcart⟩
    have hcreates : Creates .scale4 0 ⟨0, 2024⟩ .sale (cartDocuments n)
        ⟨s', .initial .empty .empty .empty⟩ := .cart _ id _ s' hcart
    exact (existing_of_creates hcreates).2
  · intro hfresh
    have hunique : ¬((carts n).sales.rows.any fun r =>
        r.2.saleNumber = generateSaleNumber ⟨0, 2024⟩ 0 (carts n) ∧ r.2.tenantId = 0) = true := by
      intro hany
      obtain ⟨r, hr, heq⟩ := List.any_eq_true.mp hany
      obtain ⟨hnumber, htenant⟩ := of_decide_eq_true heq
      refine hfresh (List.mem_map.mpr ⟨r, List.mem_filter.mpr ⟨hr, ?_⟩, hnumber⟩)
      exact decide_eq_true htenant
    have hreferences : ¬(((carts n).locations.find? 0).isNone ∨
        (none : Option Id).any (fun id => ((carts n).terminals.find? id).isNone) ∨
        (none : Option Id).any (fun id => ((carts n).customers.find? id).isNone) ∨
        (none : Option Id).any (fun id => ((carts n).sessions.find? id).isNone)) := by
      rw [hlocations]
      rintro (hnone | hnone | hnone | hnone)
      · exact absurd hnone (by decide)
      · cases hnone
      · cases hnone
      · cases hnone
    exact ⟨_, (if_neg hunique).trans (if_neg hreferences)⟩

/-- Up to the number after the width, each cart is accepted. -/
theorem issued_carts (hn : n ≤ 100000) :
    Issued .scale4 .sale 0 2024 n (cartDocuments n) ∧
      (carts n).locations = (Store.initial .till).locations := by
  induction n with
  | zero => exact ⟨.none _ rfl, rfl⟩
  | succ n ih =>
    obtain ⟨hissued, hlocations⟩ := ih (Nat.le_of_succ_le hn)
    have hnumbered := numbered_of_issued hissued
    have haccepted : Accepted .scale4 (carts n) openEmptyCart := by
      refine (accepted_openEmptyCart hlocations).mpr ?_
      rw [generate_eq]
      exact fun hmem => (Nat.ne_of_lt hn) (hnumbered.mem_iff.mp hmem)
    refine ⟨issued_carts_succ hissued haccepted, ?_⟩
    obtain ⟨_, id, hcart⟩ :=
      ok_of_accepted (createCart ⟨0, 2024⟩ 0 ⟨0, none, none, none⟩) rfl haccepted
    obtain ⟨_, hstore⟩ := insertSale_ok hcart
    rw [carts_succ]
    exact (congrArg Store.locations hstore).trans hlocations

end Carts

theorem number_fresh_iff_twoCarts :
    DocumentKind.generate .sale ⟨1, 2024⟩ 0 (cartDocuments 2) ∉
      DocumentKind.existing .sale 0 (cartDocuments 2) ↔ 2 < 10 ^ DocumentKind.width .sale :=
  have hnone : Issued .scale4 .sale 0 2024 0 (cartDocuments 0) := .none _ rfl
  have hone : Issued .scale4 .sale 0 2024 1 (cartDocuments 1) :=
    issued_carts_succ hnone (by decide +kernel)
  have htwo : Issued .scale4 .sale 0 2024 2 (cartDocuments 2) :=
    issued_carts_succ hone (by decide +kernel)
  number_fresh_iff htwo

/-- After a hundred thousand carts the next number is that of the last one, and no cart is accepted
any more. -/
theorem hundred_thousand_carts :
    Issued .scale4 .sale 0 2024 100000 (cartDocuments 100000) ∧
    DocumentKind.generate .sale ⟨0, 2024⟩ 0 (cartDocuments 100000) = "INV-2024-100000" ∧
    "INV-2024-100000" ∈ DocumentKind.existing .sale 0 (cartDocuments 100000) ∧
    ¬Accepted .scale4 (carts 100000) openEmptyCart := by
  obtain ⟨hissued, hlocations⟩ := issued_carts (le_refl 100000)
  have hnumbered := numbered_of_issued hissued
  have hnext : DocumentKind.generate .sale ⟨0, 2024⟩ 0 (cartDocuments 100000) =
      "INV-2024-100000" := by
    rw [generate_eq]
    exact hnumbered.next
  have hmem : DocumentKind.generate .sale ⟨0, 2024⟩ 0 (cartDocuments 100000) ∈
      DocumentKind.existing .sale 0 (cartDocuments 100000) := by
    rw [generate_eq]
    exact hnumbered.mem_iff.mpr rfl
  refine ⟨hissued, hnext, hnext ▸ hmem, fun haccepted => ?_⟩
  exact (accepted_openEmptyCart hlocations).mp haccepted hmem

end Invetrixa
