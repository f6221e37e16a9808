import Invetrixa.Refinement.SaleSteps

/-!
# Sales and the sessions they are made in

A quick sale and a cart take the id of a session as it comes in the request; the foreign key asks
that the session is there, and nothing asks whose it is, on which terminal, or whether it is open
when the sale is completed. Where each sale is completed in an open session of its own tenant and
terminal, every completed sale belongs to such a session. A cart that is completed after its
session has been closed does not.

## Main definitions

- `TillRun` — a run of requests, with the session that each sale was completed in
- `InOwnSession` — the condition on a request

## Main results

- `serves_of_newCompletions` — what a request completes, it completes in its own session
- `sales_in_open_session`, `sold_in_closed_session`
-/

namespace Invetrixa

open Rowstore Requests SessionService

/-- A sale that was completed, as it was then, with its session as it was found. -/
structure Completion where
  saleId : Id
  sale : Sale
  session : Option POSSession

/-- The sales that are completed after a request and were not before it. -/
def newCompletions (before after : Store) : List Completion :=
  (after.sales.rows.filter fun r => r.2.status = .completed ∧
    ¬(before.sales.find? r.1).any fun sale => sale.status = .completed).map fun r =>
      ⟨r.1, r.2, r.2.sessionId.bind before.sessions.find?⟩

/-- The store and the completions so far. -/
structure TillRun where
  store : Store
  completions : List Completion

def TillRun.exec (db : Database) (call : Call) (r : TillRun) : TillRun where
  store := step db call r.store
  completions := r.completions ++ newCompletions r.store (step db call r.store)

def TillRun.start (c : Catalogue) : TillRun := ⟨Store.initial c, []⟩

/-- The session is the tenant's, on the terminal if one is named, and open. -/
def POSSession.Serves (tenantId : Id) (terminalId : Option Id) (session : POSSession) : Prop :=
  session.tenantId = tenantId ∧ (∀ id ∈ terminalId, id = session.terminalId) ∧
    session.status = .open

instance (tenantId : Id) (terminalId : Option Id) (session : POSSession) :
    Decidable (session.Serves tenantId terminalId) :=
  inferInstanceAs (Decidable (_ ∧ _))

/-- The session that a request names, if any, serves it: a quick sale names its own, and a
completion that of the cart. -/
def Request.InOwnSession (s : Store) : Request → Prop
  | .createSale tenantId dto => ∀ id ∈ dto.sessionId,
      ∃ session ∈ s.sessions.find? id, session.Serves tenantId dto.terminalId
  | .completeSale _ saleId _ => ∀ sale ∈ s.sales.find? saleId, ∀ id ∈ sale.sessionId,
      ∃ session ∈ s.sessions.find? id, session.Serves sale.tenantId sale.terminalId
  | _ => True

instance (s : Store) : DecidablePred (Request.InOwnSession s) := by
  rintro ⟨⟩
  all_goals dsimp only [Request.InOwnSession]; infer_instance

/-- A request that completes a sale, and whose checks pass, does so in a session that serves it. -/
def InOwnSession (db : Database) (s : Store) (call : Call) : Prop :=
  Passes db s call → call.request.InOwnSession s

instance (db : Database) (s : Store) (call : Call) : Decidable (InOwnSession db s call) :=
  inferInstanceAs (Decidable (_ → _))

variable {db : Database} {c : Catalogue} {s : Store} {call : Call} {r : TillRun} {id : Id}
  {sale : Sale}

theorem mem_newCompletions {before after : Store} {x : Completion} :
    x ∈ newCompletions before after ↔ after.sales.find? x.saleId = some x.sale ∧
      x.sale.status = .completed ∧
      (∀ sale, before.sales.find? x.saleId = some sale → sale.status ≠ .completed) ∧
      x.session = x.sale.sessionId.bind before.sessions.find? := by
  simp only [newCompletions, List.mem_map, List.mem_filter, decide_eq_true_eq]
  constructor
  · rintro ⟨r, ⟨hmem, hstatus, hnot⟩, rfl⟩
    refine ⟨Table.find?_of_mem_rows hmem, hstatus, fun sale hsale hcompleted => hnot ?_, rfl⟩
    rw [hsale]
    exact decide_eq_true hcompleted
  · rintro ⟨hfind, hstatus, hnot, hsession⟩
    refine ⟨(x.saleId, x.sale), ⟨Table.mem_rows_of_find? hfind, hstatus, fun hany => ?_⟩, ?_⟩
    · obtain ⟨sale, hsale, hcompleted⟩ := (Option.any_eq_true _ _).mp hany
      exact hnot sale hsale (of_decide_eq_true hcompleted)
    · rw [← hsession]

/-- A sale that a request in its own session completes: its session serves it. -/
theorem serves_of_newCompletions (hs : WellFormed s) (hown : InOwnSession db s call) {x : Completion}
    (hx : x ∈ newCompletions s (step db call s)) {sessionId : Id}
    (hid : x.sale.sessionId = some sessionId) :
    ∃ session, s.sessions.find? sessionId = some session ∧ x.session = some session ∧
      session.Serves x.sale.tenantId x.sale.terminalId := by
  obtain ⟨hfind, hcompleted, hnot, hsession⟩ := mem_newCompletions.mp hx
  have hserved : ∃ session ∈ s.sessions.find? sessionId,
      session.Serves x.sale.tenantId x.sale.terminalId := by
    have hstep : SaleStep db s call (step db call s).pos := saleStep hs
    cases hstep.row hfind with
    | opened clock tenantId dto hcall hnew hrow =>
      rw [hrow] at hcompleted
      cases hcompleted
    | sold clock tenantId dto totals hcall hpasses hnew hrow =>
      have hrequest := hown hpasses
      rw [hcall] at hrequest
      rw [hrow] at hid ⊢
      exact hrequest sessionId hid
    | kept sale hold hheader hstatus => exact absurd (hstatus ▸ hcompleted) (hnot sale hold)
    | completed clock tenantId payments sale hcall hpasses hold hdraft hheader =>
      have hrequest := hown hpasses
      rw [hcall] at hrequest
      have htenant : x.sale.tenantId = sale.tenantId := (congrArg Sale.tenantId hheader :)
      have hterminal : x.sale.terminalId = sale.terminalId := (congrArg Sale.terminalId hheader :)
      have hsessionId : x.sale.sessionId = sale.sessionId := (congrArg Sale.sessionId hheader :)
      rw [htenant, hterminal]
      exact hrequest sale hold sessionId (hsessionId ▸ hid)
    | settled sale hold hheader hbefore hafter => exact absurd hcompleted hafter.2
  obtain ⟨session, hmem, hserves⟩ := hserved
  exact ⟨session, hmem, by rw [hsession, hid]; exact hmem, hserves⟩

/-- Each completed sale belongs to its session and has been recorded as completed; and what is
recorded of it was in an open session. -/
structure TillRun.Sound (r : TillRun) : Prop where
  wellFormed : WellFormed r.store
  own : ∀ id sale sessionId, r.store.sales.find? id = some sale → sale.status = .completed →
    sale.sessionId = some sessionId → ∃ session, r.store.sessions.find? sessionId = some session ∧
      session.tenantId = sale.tenantId ∧ ∀ id ∈ sale.terminalId, id = session.terminalId
  recorded : ∀ id sale, r.store.sales.find? id = some sale → sale.status = .completed →
    ∃ x ∈ r.completions, x.saleId = id
  rows : ∀ x ∈ r.completions, x.saleId < r.store.sales.next ∧
    ∀ sale, r.store.sales.find? x.saleId = some sale → sale.header = x.sale.header
  «open» : ∀ x ∈ r.completions, ∀ sessionId, x.sale.sessionId = some sessionId →
    ∃ session, x.session = some session ∧ session.status = .open

/-- A completed sale has been completed before the request, or is by it. -/
theorem completed_cases (hfind : (step db call s).sales.find? id = some sale)
    (hcompleted : sale.status = .completed) (hs : WellFormed s) :
    (∃ sale₀, s.sales.find? id = some sale₀ ∧ sale₀.status = .completed ∧
      sale.header = sale₀.header) ∨
    ∃ x ∈ newCompletions s (step db call s), x.saleId = id ∧ x.sale = sale := by
  by_cases hbefore : ∃ sale₀, s.sales.find? id = some sale₀ ∧ sale₀.status = .completed
  · obtain ⟨sale₀, hfind₀, hcompleted₀⟩ := hbefore
    refine .inl ⟨sale₀, hfind₀, hcompleted₀, ?_⟩
    have hstep : SaleStep db s call (step db call s).pos := saleStep hs
    cases hstep.row hfind with
    | opened _ _ _ _ hid | sold _ _ _ _ _ _ hid =>
      rw [hid, s.sales.find?_next] at hfind₀
      cases hfind₀
    | kept sale₁ hold hheader | completed _ _ _ sale₁ _ _ hold _ hheader
    | settled sale₁ hold hheader =>
      obtain rfl := Option.some.inj (hfind₀.symm.trans hold)
      exact hheader
  · refine .inr ⟨⟨id, sale, sale.sessionId.bind s.sessions.find?⟩, ?_, rfl, rfl⟩
    exact mem_newCompletions.mpr
      ⟨hfind, hcompleted, fun sale₀ h₀ hc₀ => hbefore ⟨sale₀, h₀, hc₀⟩, rfl⟩

/-- The header of a row that was there stays. -/
theorem header_of_step (hs : WellFormed s) (hid : id < s.sales.next)
    (hfind : (step db call s).sales.find? id = some sale) :
    ∃ sale₀, s.sales.find? id = some sale₀ ∧ sale.header = sale₀.header := by
  have hstep : SaleStep db s call (step db call s).pos := saleStep hs
  cases hstep.row hfind with
  | opened _ _ _ _ hnew | sold _ _ _ _ _ _ hnew => exact absurd (hnew ▸ hid) (lt_irrefl _)
  | kept sale₀ hold hheader | completed _ _ _ sale₀ _ _ hold _ hheader
  | settled sale₀ hold hheader => exact ⟨sale₀, hold, hheader⟩

theorem tillRun_exec (hr : r.Sound) (hown : InOwnSession db r.store call) :
    (r.exec db call).Sound := by
  have hs := hr.wellFormed
  have hkeeps : KeepsTills r.store.sessions (step db call r.store).sessions := keepsTills_step hs
  have hnext : r.store.sales.next ≤ (step db call r.store).sales.next :=
    (saleStep hs : SaleStep db r.store call _).next
  refine ⟨wellFormed_step hs, ?_, ?_, ?_, ?_⟩
  · intro id sale sessionId hfind hcompleted hsession
    have hserved : ∃ session, r.store.sessions.find? sessionId = some session ∧
        session.tenantId = sale.tenantId ∧ ∀ id ∈ sale.terminalId, id = session.terminalId := by
      -- The sale was completed before, and keeps its session, or is completed now.
      rcases completed_cases hfind hcompleted hs with ⟨sale₀, hfind₀, hcompleted₀, hheader⟩ |
        ⟨x, hx, rfl, rfl⟩
      · have htenant : sale.tenantId = sale₀.tenantId := (congrArg Sale.tenantId hheader :)
        have hterminal : sale.terminalId = sale₀.terminalId := (congrArg Sale.terminalId hheader :)
        have hsame : sale.sessionId = sale₀.sessionId := (congrArg Sale.sessionId hheader :)
        rw [htenant, hterminal]
        exact hr.own id sale₀ sessionId hfind₀ hcompleted₀ (hsame.symm.trans hsession)
      · obtain ⟨session, hsession, _, hserves⟩ := serves_of_newCompletions hs hown hx hsession
        exact ⟨session, hsession, hserves.1, hserves.2.1⟩
    obtain ⟨session, hsession, htenant, hterminal⟩ := hserved
    obtain ⟨session', hsession', htenant', hterminal'⟩ := hkeeps sessionId session hsession
    exact ⟨session', hsession', htenant'.trans htenant, fun id hid =>
      (hterminal id hid).trans hterminal'.symm⟩
  · intro id sale hfind hcompleted
    rcases completed_cases hfind hcompleted hs with ⟨sale₀, hfind₀, hcompleted₀, _⟩ |
      ⟨x, hx, hid, _⟩
    · obtain ⟨x, hx, hid⟩ := hr.recorded id sale₀ hfind₀ hcompleted₀
      exact ⟨x, List.mem_append_left _ hx, hid⟩
    · exact ⟨x, List.mem_append_right _ hx, hid⟩
  · intro x hx
    rcases List.mem_append.mp hx with hx | hx
    · obtain ⟨hlt, hheader⟩ := hr.rows x hx
      refine ⟨lt_of_lt_of_le hlt hnext, fun sale hfind => ?_⟩
      obtain ⟨sale₀, hfind₀, hsame⟩ := header_of_step hs hlt hfind
      exact hsame.trans (hheader sale₀ hfind₀)
    · obtain ⟨hfind, _⟩ := mem_newCompletions.mp hx
      refine ⟨(step db call r.store).sales.lt_next _
        (List.mem_map_of_mem (Table.mem_rows_of_find? hfind)), fun sale hsale => ?_⟩
      rw [Option.some.inj (hsale.symm.trans hfind)]
  · intro x hx sessionId hsession
    rcases List.mem_append.mp hx with hx | hx
    · exact hr.open x hx sessionId hsession
    · obtain ⟨session, _, hfound, hserves⟩ := serves_of_newCompletions hs hown hx hsession
      exact ⟨session, hfound, hserves.2.2⟩

/-- In every run in which sales are completed in sessions of their own: the session of a completed
sale is of its tenant and on its terminal, the completion is recorded, and the session that was
found at every completion of it was open. -/
theorem sales_in_open_session
    (h : Runs (TillRun.exec db) (fun r call => InOwnSession db r.store call) (TillRun.start c) r)
    (hfind : r.store.sales.find? id = some sale) (hcompleted : sale.status = .completed)
    {sessionId : Id} (hsession : sale.sessionId = some sessionId) :
    (∃ session, r.store.sessions.find? sessionId = some session ∧
      session.tenantId = sale.tenantId ∧ ∀ id ∈ sale.terminalId, id = session.terminalId) ∧
    (∃ x ∈ r.completions, x.saleId = id) ∧
    ∀ x ∈ r.completions, x.saleId = id →
      ∃ session, x.session = some session ∧ session.status = .open := by
  have hr : r.Sound := by
    refine Runs.invariant (I := TillRun.Sound) h ?_ fun _ _ hr hown => tillRun_exec hr hown
    exact ⟨wellFormed_initial c, fun _ _ _ h => (by cases h), fun _ _ h => (by cases h),
      fun _ h => (by cases h), fun _ h => (by cases h)⟩
  refine ⟨hr.own id sale sessionId hfind hcompleted hsession,
    hr.recorded id sale hfind hcompleted, ?_⟩
  rintro x hx rfl
  have hheader := (hr.rows x hx).2 sale hfind
  have hsame : sale.sessionId = x.sale.sessionId := (congrArg Sale.sessionId hheader :)
  exact hr.open x hx sessionId (hsame.symm.trans hsession)

/-- A session is opened, and a cup of tea sold in it. -/
def soldAtTill : TillRun :=
  [⟨⟨0, 2024⟩, .stockIn 0 ⟨0, none, none, [⟨0, 10, 1, none⟩]⟩⟩,
    ⟨⟨1, 2024⟩, .openSession 0 ⟨0, 100⟩⟩,
    ⟨⟨2, 2024⟩, .createSale 0
      ⟨0, some 0, some 0, none, [⟨0, 1, some 5, none⟩], [⟨.cash, 5⟩], none⟩⟩].foldl
    (fun r call => r.exec .exact call) (TillRun.start .till)

def soldRow : Sale := (soldAtTill.store.sales.find? 0).get (by decide +kernel)

theorem sales_in_open_session_soldAtTill :
    (∃ session, soldAtTill.store.sessions.find? 0 = some session ∧
      session.tenantId = soldRow.tenantId ∧
        ∀ id ∈ soldRow.terminalId, id = session.terminalId) ∧
    (∃ x ∈ soldAtTill.completions, x.saleId = 0) ∧
    ∀ x ∈ soldAtTill.completions, x.saleId = 0 →
      ∃ session, x.session = some session ∧ session.status = .open :=
  have hrun : Runs (TillRun.exec .exact) (fun r call => InOwnSession .exact r.store call)
      (TillRun.start .till) soldAtTill := Runs.of_allMeet (by decide +kernel)
  sales_in_open_session hrun (Option.some_get _).symm (by decide +kernel) (by decide +kernel)

/-- A cart is made in a session, and completed after the session has been closed. -/
def completedLate : TillRun :=
  [⟨⟨0, 2024⟩, .stockIn 0 ⟨0, none, none, [⟨0, 10, 1, none⟩]⟩⟩,
    ⟨⟨1, 2024⟩, .openSession 0 ⟨0, 100⟩⟩,
    ⟨⟨2, 2024⟩, .createCart 0 ⟨0, none, none, some 0⟩⟩,
    ⟨⟨3, 2024⟩, .addCartItem 0 0 ⟨0, 1, some 5, none, none⟩⟩,
    ⟨⟨4, 2024⟩, .closeSession 0 0 ⟨100⟩⟩,
    ⟨⟨5, 2024⟩, .completeSale 0 0 [⟨.cash, 5⟩]⟩].foldl
    (fun r call => r.exec .exact call) (TillRun.start .till)

/-- The sale is completed in a session that was closed and reconciled without it. -/
theorem sold_in_closed_session :
    Runs (TillRun.exec .exact) (fun _ _ => True) (TillRun.start .till) completedLate ∧
      ((completedLate.store.sales.find? 0).map fun sale => (sale.status, sale.sessionId)) =
        some (.completed, some 0) ∧
      ∃ x ∈ completedLate.completions, x.saleId = 0 ∧
        x.session.map POSSession.status = some .closed :=
  ⟨Runs.of_allMeet (by decide +kernel), by decide +kernel, by decide +kernel⟩

end Invetrixa
