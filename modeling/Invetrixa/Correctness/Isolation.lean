import Invetrixa.Refinement.TenantFrames

/-!
# Tenant isolation of session figures

Two runs that differ only in the requests of one tenant, tenant `B`. As long as the tenant attaches
its sales to sessions of its own, and no reservation of another tenant is made for a sale of it,
nobody else sees a difference: sessions are closed with the same figures and have the same sales.
The ids are drawn by the database: the requests that the runs share are handed the same.

## Main definitions

- `Event`, `serveEvent` — a request, with the ids that it is handed
- `KeepsApart` — the condition on an event
- `SameFigures` — sessions of a tenant have the same figures and the same sales

## Main results

- `isolated` — two runs whose events keep apart
- `foreign_session` — a sale on a session of another tenant
-/

namespace Invetrixa

open Rowstore Requests SaleService CartService SessionService

variable {db : Database} {c : Catalogue} {B : Id} {s s' : Store} {call : Call}

section Ids

/-- Ids that are not below those already in use. -/
def Ids.max (ids ids' : Ids) : Ids where
  sessions := Max.max ids.sessions ids'.sessions
  layers := Max.max ids.layers ids'.layers
  consumptions := Max.max ids.consumptions ids'.consumptions
  movements := Max.max ids.movements ids'.movements
  transfers := Max.max ids.transfers ids'.transfers
  reservations := Max.max ids.reservations ids'.reservations
  sales := Max.max ids.sales ids'.sales
  saleItems := Max.max ids.saleItems ids'.saleItems
  salePayments := Max.max ids.salePayments ids'.salePayments
  saleRefunds := Max.max ids.saleRefunds ids'.saleRefunds

/-- The database draws the ids of new rows. -/
def Store.drawing (s : Store) (ids : Ids) : Store :=
  { s with
    sessions := s.sessions.skipTo ids.sessions
    layers := s.layers.skipTo ids.layers
    consumptions := s.consumptions.skipTo ids.consumptions
    movements := s.movements.skipTo ids.movements
    transfers := s.transfers.skipTo ids.transfers
    reservations := s.reservations.skipTo ids.reservations
    sales := s.sales.skipTo ids.sales
    saleItems := s.saleItems.skipTo ids.saleItems
    salePayments := s.salePayments.skipTo ids.salePayments
    saleRefunds := s.saleRefunds.skipTo ids.saleRefunds }

/-- None of the ids is in use. -/
def Ids.New (ids : Ids) (s : Store) : Prop := s.ids.max ids = ids

instance (ids : Ids) (s : Store) : Decidable (ids.New s) :=
  inferInstanceAs (Decidable (s.ids.max ids = ids))

theorem ids_drawing {ids : Ids} (h : ids.New s) : (s.drawing ids).ids = ids := h

/-- Drawing ids changes no row. -/
theorem alike_drawing (B : Id) (s : Store) (ids : Ids) : Alike B (s.drawing ids) s :=
  { Alike.refl B s with }

theorem Alike.drawing (h : Alike B s s') {ids : Ids} (hnew : ids.New s) (hnew' : ids.New s') :
    Twin B (s.drawing ids) (s'.drawing ids) :=
  { ((alike_drawing B s ids).trans h).trans (alike_drawing B s' ids).symm with
    ids := (ids_drawing hnew).trans (ids_drawing hnew').symm }

end Ids

section Invariants

/-- The session that a body names, if it is there, is the tenant's. -/
def Store.OwnSession (s : Store) (B : Id) (sessionId : Option Id) : Prop :=
  ∀ id ∈ sessionId, ∀ session ∈ s.sessions.find? id, session.tenantId = B

instance (s : Store) (B : Id) (sessionId : Option Id) : Decidable (s.OwnSession B sessionId) :=
  inferInstanceAs (Decidable (∀ id ∈ sessionId, _))

/-- The tenant makes its sales and its carts on no session of another tenant. -/
def Call.OnOwnSession (s : Store) (B : Id) (call : Call) : Prop :=
  match call.request with
  | .createCart tenantId dto => tenantId = B → s.OwnSession B dto.sessionId
  | .createSale tenantId dto => tenantId = B → s.OwnSession B dto.sessionId
  | _ => True

instance (s : Store) (B : Id) (call : Call) : Decidable (call.OnOwnSession s B) := by
  obtain ⟨clock, ⟨⟩⟩ := call
  all_goals dsimp only [Call.OnOwnSession]; infer_instance

/-- The foreign key asks that the session of a new sale is there. -/
theorem session_of_insertSale {sale : Sale} {id sessionId : Id}
    (h : insertSale sale s = .ok (id, s')) (hon : sale.sessionId = some sessionId) :
    ∃ session, s.sessions.find? sessionId = some session := by
  obtain ⟨_, h⟩ := Except.ite_error_eq_ok_iff.mp h
  obtain ⟨hthere, _⟩ := Except.ite_error_eq_ok_iff.mp h
  refine Option.ne_none_iff_exists'.mp fun hnone => hthere (.inr (.inr (.inr ?_)))
  rw [hon, Option.any_some, hnone]
  rfl

/-- The tenant stays on sessions of its own. -/
theorem ownSessions_step (hs : WellFormed s) (hown : s.OwnSessions B)
    (hcall : call.OnOwnSession s B) : (step db call s).OwnSessions B := by
  intro id sale' hfind ht sessionId hon
  have hthere : ∃ session, s.sessions.find? sessionId = some session ∧ session.tenantId = B := by
    have hkept (sale : Sale) (hsale : s.sales.find? id = some sale)
        (hheader : sale'.header = sale.header) :
        ∃ session, s.sessions.find? sessionId = some session ∧ session.tenantId = B := by
      have htenant : sale'.tenantId = sale.tenantId := (congrArg Sale.tenantId hheader :)
      have hsession : sale'.sessionId = sale.sessionId := (congrArg Sale.sessionId hheader :)
      exact hown id sale hsale (htenant.symm.trans ht) sessionId (hsession.symm.trans hon)
    -- A new sale names a session that is there, and by the condition the tenant's own.
    have hmade (new : Sale) (htenant : sale'.tenantId = new.tenantId)
        (hsession : sale'.sessionId = new.sessionId) (hok : (insertSale new s).isOk)
        (hnamed : new.tenantId = B → s.OwnSession B new.sessionId) :
        ∃ session, s.sessions.find? sessionId = some session ∧ session.tenantId = B := by
      rw [htenant] at ht
      rw [hsession] at hon
      obtain ⟨_, hinsert⟩ := isOk_iff.mp hok
      obtain ⟨session, hfind⟩ := session_of_insertSale hinsert hon
      exact ⟨session, hfind, hnamed ht sessionId hon session hfind⟩
    have hstep : SaleStep db s call (step db call s).pos := saleStep hs
    cases hstep.row hfind with
    | opened clock tenantId dto hrequest hid hrow =>
      subst hrequest
      have hcases : step db ⟨clock, .createCart tenantId dto⟩ s = s ∨
          Accepted db s ⟨clock, .createCart tenantId dto⟩ ∧ True :=
        step_cases_of_serve (createCart clock tenantId dto) rfl fun _ _ _ _ => trivial
      rcases hcases with hsame | ⟨haccepted, _⟩
      · rw [hsame, hid, s.sales.find?_next] at hfind
        cases hfind
      · obtain ⟨_, _, hcart⟩ := ok_of_accepted (createCart clock tenantId dto) rfl haccepted
        exact hmade _ (congrArg Sale.tenantId hrow) (congrArg Sale.sessionId hrow)
          (isOk_iff.mpr ⟨_, hcart⟩) hcall
    | sold clock tenantId dto totals hrequest hpasses hid hrow =>
      subst hrequest
      have hpasses := hpasses.2
      simp only [Request.passes] at hpasses
      split at hpasses
      · obtain ⟨hinsert, _⟩ := Bool.and_eq_true_iff.mp hpasses
        refine hmade _ ?_ ?_ hinsert hcall
        · rw [hrow]
          rfl
        · rw [hrow]
          rfl
      · cases hpasses
    | kept sale hsale hheader | completed _ _ _ sale _ _ hsale _ hheader
    | settled sale hsale hheader => exact hkept sale hsale hheader
  obtain ⟨session, hsession, htenant⟩ := hthere
  obtain ⟨session', hsession', htenant', _⟩ := keepsTills_step hs sessionId session hsession
  exact ⟨session', hsession', htenant'.trans htenant⟩

/-- A sale that is still there is of the tenant that it was of. -/
theorem tenantId_of_step {id : Id} {sale sale' : Sale} (hs : WellFormed s)
    (hfind : s.sales.find? id = some sale) (hfind' : (step db call s).sales.find? id = some sale') :
    sale'.tenantId = sale.tenantId := by
  have hstep : SaleStep db s call (step db call s).pos := saleStep hs
  cases hstep.row hfind' with
  | opened _ _ _ _ hid | sold _ _ _ _ _ _ hid =>
    rw [hid, s.sales.find?_next] at hfind
    cases hfind
  | kept sale₀ hold hheader | completed _ _ _ sale₀ _ _ hold _ hheader
  | settled sale₀ hold hheader =>
    obtain rfl := Option.some.inj (hfind.symm.trans hold)
    exact (congrArg Sale.tenantId hheader :)

/-- Refunds stay with the tenants of their sales. -/
theorem refundsOwned_step (hc : Consistent s) : (step db call s).saleRefunds.All fun _ r =>
    ∃ sale, (step db call s).sales.find? r.saleId = some sale ∧ sale.tenantId = r.tenantId := by
  have hs := hc.toWellFormed
  have hstep : SaleStep db s call (step db call s).pos := saleStep hs
  have hsound : (step db call s).pos.RefundsSound := refundsSound_step hc.refunds hstep
  intro k r hr
  obtain ⟨sale', hsale', _⟩ := hsound k r hr
  refine ⟨sale', hsale', ?_⟩
  have hold (hr : s.saleRefunds.find? k = some r) : sale'.tenantId = r.tenantId := by
    obtain ⟨sale, hsale, htenant⟩ := hc.refundsOwned k r hr
    rw [tenantId_of_step hs hsale hsale', htenant]
  generalize ht : (step db call s).pos = t at hstep
  have hrefunds : (step db call s).saleRefunds = t.saleRefunds := congrArg PosTables.saleRefunds ht
  rw [hrefunds] at hr
  cases hstep with
  | refunded clock tenantId saleId dto read total hvalid hread =>
    rcases Serial.find?_create_cases hr with hr | ⟨_, rfl⟩
    · exact hold hr
    · obtain ⟨hfind, htenant, _⟩ := readRefund_ok hread
      rw [tenantId_of_step hs hfind hsale', htenant]
  | _ => exact hold hr

theorem consistent_step (hc : Consistent s) : Consistent (step db call s) where
  toWellFormed := wellFormed_step hc.toWellFormed
  payments := paymentsSound_step hc.payments (saleStep hc.toWellFormed)
  refunds := refundsSound_step hc.refunds (saleStep hc.toWellFormed)
  refundsOwned := refundsOwned_step hc

/-- Drawing ids changes no row. -/
theorem Consistent.drawing (hc : Consistent s) (ids : Ids) : Consistent (s.drawing ids) where
  balances := hc.balances
  layers := hc.layers
  movements := hc.movements
  reservations := hc.reservations
  transfers := hc.transfers
  saleItems := hc.saleItems
  payments := hc.payments
  refunds := hc.refunds
  refundsOwned := hc.refundsOwned

end Invariants

section Runs

/-- A request, with the ids that the database draws for what it creates. -/
structure Event where
  ids : Ids
  call : Call

def serveEvent (db : Database) (e : Event) (s : Store) : Store := step db e.call (s.drawing e.ids)

/-- The store after a list of events, one after another. -/
def serveEvents (db : Database) (events : List Event) (s : Store) : Store :=
  events.foldl (fun s e => serveEvent db e s) s

/-- The runs share every event but the requests of the tenant. Its sessions are opened and closed
in both. -/
def Event.Shared (B : Id) (e : Event) : Bool :=
  decide (e.call.request.tenantId ≠ some B) || decide e.call.request.OfSessions

/-- A run in which the database never draws an id that is in use. -/
def IsRun (db : Database) (c : Catalogue) (events : List Event) : Prop :=
  EachMeets (serveEvent db) (fun s e => e.ids.New s) events (Store.initial c)

instance (db : Database) (c : Catalogue) (events : List Event) : Decidable (IsRun db c events) :=
  inferInstanceAs (Decidable (EachMeets _ _ _ _))

/-- The condition under which the tenant disturbs no other: it makes its sales on sessions of its
own, and no other tenant has reserved stock for a sale that it completes or a cart of it that is
cleaned up. -/
def KeepsApart (B : Id) (s : Store) (e : Event) : Prop :=
  e.call.OnOwnSession s B ∧ e.call.Spares s B

instance (B : Id) (s : Store) (e : Event) : Decidable (KeepsApart B s e) :=
  inferInstanceAs (Decidable (_ ∧ _))

/-- Every request of a run keeps the tenant apart. -/
def RunKeepsApart (db : Database) (B : Id) (c : Catalogue) (events : List Event) : Prop :=
  EachMeets (serveEvent db) (KeepsApart B) events (Store.initial c)

instance (db : Database) (B : Id) (c : Catalogue) (events : List Event) :
    Decidable (RunKeepsApart db B c events) :=
  inferInstanceAs (Decidable (EachMeets _ _ _ _))

/-- The sessions of a tenant are closed with the same answer, are the same, and have the same
sales. -/
structure SameFigures (db : Database) (A : Id) (s s' : Store) : Prop where
  closed sessionId dto : (close db A sessionId dto s).map Prod.fst =
    (close db A sessionId dto s').map Prod.fst
  sessions sessionId : ((s.sessions.find? sessionId).filter fun session => session.tenantId = A) =
    (s'.sessions.find? sessionId).filter fun session => session.tenantId = A
  sales sessionId session : s.sessions.find? sessionId = some session → session.tenantId = A →
    s.salesOn sessionId = s'.salesOn sessionId

/-- What holds of the stores of the two runs. -/
structure Apart (B : Id) (s s' : Store) : Prop where
  alike : Alike B s s'
  consistent : Consistent s ∧ Consistent s'
  own : s.OwnSessions B ∧ s'.OwnSessions B

theorem Apart.symm (h : Apart B s s') : Apart B s' s :=
  ⟨h.alike.symm, h.consistent.symm, h.own.symm⟩

theorem ownSessions_serveEvent {e : Event} (hc : Consistent s) (hown : s.OwnSessions B)
    (hcall : e.call.OnOwnSession s B) : (serveEvent db e s).OwnSessions B :=
  ownSessions_step (hc.drawing e.ids).toWellFormed hown hcall

/-- A request of the tenant in one of the runs. -/
theorem Apart.unshared (h : Apart B s s') {e : Event} (hshared : e.Shared B = false)
    (hapart : KeepsApart B s e) : Apart B (serveEvent db e s) s' := by
  obtain ⟨hcall, hother⟩ := Bool.or_eq_false_iff.mp hshared
  have hc := h.consistent.1.drawing e.ids
  have hstep : Alike B (serveEvent db e s) (s.drawing e.ids) :=
    alike_step hc.toWellFormed hapart.2 (not_not.mp (of_decide_eq_false hcall))
      (of_decide_eq_false hother)
  refine ⟨(hstep.trans (alike_drawing B s e.ids)).trans h.alike, ⟨consistent_step hc, ?_⟩, ?_⟩
  · exact h.consistent.2
  · exact ⟨ownSessions_serveEvent h.consistent.1 h.own.1 hapart.1, h.own.2⟩

/-- A request that the runs share. -/
theorem Apart.shared (h : Apart B s s') {e : Event} (hshared : e.Shared B = true)
    (hnew : e.ids.New s) (hnew' : e.ids.New s') (hapart : KeepsApart B s e)
    (hapart' : KeepsApart B s' e) : Apart B (serveEvent db e s) (serveEvent db e s') := by
  have hcall : e.call.request.tenantId ≠ some B ∨ e.call.request.OfSessions := by
    rcases Bool.or_eq_true_iff.mp hshared with hother | hsessions
    · exact .inl (of_decide_eq_true hother)
    · exact .inr (of_decide_eq_true hsessions)
  have hc := h.consistent.1.drawing e.ids
  have hc' := h.consistent.2.drawing e.ids
  have hserved : Alongside (Twin B) (handle db e.call (s.drawing e.ids))
      (handle db e.call (s'.drawing e.ids)) :=
    (h.alike.drawing hnew hnew').handle hc hc' h.own.1 h.own.2 hapart.2 hapart'.2 hcall
  refine ⟨hserved.2.toAlike, ⟨consistent_step hc, consistent_step hc'⟩, ?_⟩
  exact ⟨ownSessions_serveEvent h.consistent.1 h.own.1 hapart.1,
    ownSessions_serveEvent h.consistent.2 h.own.2 hapart'.1⟩

theorem Apart.initial (B : Id) (c : Catalogue) : Apart B (Store.initial c) (Store.initial c) := by
  have hc : Consistent (Store.initial c) :=
    { wellFormed_initial c with
      payments := fun _ _ h => (by cases h)
      refunds := fun _ _ h => (by cases h)
      refundsOwned := fun _ _ h => (by cases h) }
  have hown : (Store.initial c).OwnSessions B := fun _ _ h => by cases h
  exact ⟨.refl B _, ⟨hc, hc⟩, ⟨hown, hown⟩⟩

theorem Apart.sameFigures (h : Apart B s s') {A : Id} (hA : A ≠ B) : SameFigures db A s s' where
  closed _ dto := h.alike.map_close h.own.1 h.own.2 hA dto
  sessions := h.alike.session_of_ne hA
  sales _ session hfind ht := h.alike.salesOn h.own.1 h.own.2 ⟨session, hfind, ht.trans_ne hA⟩

/-- In two runs that differ in requests of one tenant only, the figures of the sessions of every
other tenant are the same, as long as the tenant is kept apart in both. -/
theorem isolated {events events' : List Event}
    (hsame : events.filter (Event.Shared B) = events'.filter (Event.Shared B))
    (hrun : IsRun db c events) (hrun' : IsRun db c events') (hapart : RunKeepsApart db B c events)
    (hapart' : RunKeepsApart db B c events') {A : Id} (hA : A ≠ B) :
    SameFigures db A (serveEvents db events (Store.initial c))
      (serveEvents db events' (Store.initial c)) := by
  have hends : Apart B (serveEvents db events (Store.initial c))
      (serveEvents db events' (Store.initial c)) := by
    refine foldl_sideBySide (R := Apart B) (fun e s s' hshared hmeets h => ?_)
      (fun e s s' hshared hmeets h => ?_) (fun e s s' hshared hmeets hmeets' h => ?_) hsame
      (hrun.and hapart) (hrun'.and hapart') (.initial B c)
    · exact h.unshared hshared hmeets.2
    · exact (h.symm.unshared hshared hmeets.2).symm
    · exact h.shared hshared hmeets.1 hmeets'.1 hmeets.2 hmeets'.2
  exact hends.sameFigures hA

end Runs

section Cases

/-- The shop with a terminal, and a kiosk that another tenant has. -/
def Catalogue.twoShops : Catalogue :=
  { Catalogue.till with
    tenants := Catalogue.till.tenants.create { defaultPricingMethod := .fifo }
    products := Catalogue.till.products.create
      { name := "Cocoa", productType := .simple, pricingMethod := none
        minSellingPrice := none, tenantId := 1, deletedAt := none }
    locations := Catalogue.till.locations.create
      { name := "Kiosk", status := .active, tenantId := 1 } }

/-- The same id for a new row of every table. -/
def Ids.all (n : ℕ) : Ids := ⟨n, n, n, n, n, n, n, n, n, n⟩

/-- The shop opens a session, and the kiosk takes in ten cups of cocoa. -/
def opened : List Event :=
  [⟨.all 0, ⟨0, 2024⟩, .openSession 0 ⟨0, 100⟩⟩,
    ⟨.all 10, ⟨1, 2024⟩, .stockIn 1 ⟨2, none, none, [⟨2, 10, 1, none⟩]⟩⟩]

/-- Besides, the kiosk sells a cup of cocoa for cash. -/
def soldIn (sessionId : Option Id) : List Event :=
  opened ++ [⟨.all 20, ⟨2, 2024⟩, .createSale 1
    ⟨2, sessionId, none, none, [⟨2, 1, some 5, none⟩], [⟨.cash, 5⟩], none⟩⟩]

theorem isolated_soldIn_none :
    SameFigures .exact 0 (serveEvents .exact opened (Store.initial .twoShops))
      (serveEvents .exact (soldIn none) (Store.initial .twoShops)) :=
  have hsame : opened.filter (Event.Shared 1) = (soldIn none).filter (Event.Shared 1) := rfl
  isolated hsame (by decide +kernel) (by decide +kernel) (by decide +kernel) (by decide +kernel)
    (by decide)

/-- The kiosk names the session of the shop, which then expects the cash of the kiosk. -/
theorem foreign_session :
    IsRun .exact .twoShops opened ∧ IsRun .exact .twoShops (soldIn (some 0)) ∧
      opened.filter (Event.Shared 1) = (soldIn (some 0)).filter (Event.Shared 1) ∧
      ¬SameFigures .exact 0 (serveEvents .exact opened (Store.initial .twoShops))
        (serveEvents .exact (soldIn (some 0)) (Store.initial .twoShops)) := by
  refine ⟨by decide +kernel, by decide +kernel, rfl, fun h => ?_⟩
  have hexpected := congrArg (fun answer => answer.toOption.map fun r => r.session.expectedBalance)
    (h.closed 0 ⟨100⟩)
  exact absurd hexpected (by decide +kernel)

end Cases

end Invetrixa
