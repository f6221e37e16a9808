import Invetrixa.Access.Location

/-!
# What a location takes with it

A location without balances, movements and reservations can be deleted. With it go its sales,
invoices, transfers, terminals and assignments, and the sessions and payments of these; only a
refund of one of the sales holds it back.

## Main definitions

- `IsBusinessRecord` — the models of which nothing should be lost
- `RecordsKept`
- `NoneAt` — no business record is at a location

## Main results

- `goesWith_of_mem_doomed` — how a row comes to go with a location
- `remove_keeps_records_iff`, `paid_invoice_lost`
-/

namespace Invetrixa

open Rowstore Cascade LocationRecords

def IsBusinessRecord : Model → Bool
  | .sale | .invoice | .stockTransfer | .posTerminal | .posSession | .userAssignment
  | .salePayment | .invoicePayment => true
  | _ => false

/-- No business record is gone. -/
def RecordsKept (s s' : LocationRecords) : Prop :=
  ∀ k, IsBusinessRecord k.1 = true → (s.table.find? k).isSome → (s'.table.find? k).isSome

/-- The business records that are at a location themselves. -/
def locationFields : List (Model × IdColumn) :=
  [(.sale, .locationId), (.invoice, .locationId), (.stockTransfer, .fromLocationId),
   (.stockTransfer, .toLocationId), (.posTerminal, .locationId), (.userAssignment, .locationId)]

/-- No business record is at the location. -/
def NoneAt (id : Id) (s : LocationRecords) : Prop :=
  ∀ f ∈ locationFields, s.count f.1 f.2 id = 0

/-- A sale of the location has a refund. -/
def HasRefund (id : Id) (s : LocationRecords) : Prop :=
  ∃ refund ∈ s.table.rows, refund.1.1 = .saleRefund ∧ ∃ saleId, refund.2 .saleId = some saleId ∧
    ∃ sale, s.table.find? (.sale, saleId) = some sale ∧ sale .locationId = some id

section Doomed

variable {id : Id} {s : LocationRecords}

/-- What a row must be like to go with a location. -/
structure GoesWith (id : Id) (s : LocationRecords) (k : Model × Id) : Prop where
  location : k.1 = .location → k.2 = id
  sale : k.1 = .sale → ∃ row, s.table.find? k = some row ∧ row .locationId = some id
  record : IsBusinessRecord k.1 = true → ¬NoneAt id s

theorem count_pos {model : Model} {field : IdColumn} {r : (Model × Id) × (IdColumn → Option Id)}
    (hr : r ∈ s.table.rows) (hmodel : r.1.1 = model) (hfield : r.2 field = some id) :
    0 < s.count model field id :=
  List.countP_pos_iff.mpr ⟨r, hr, decide_eq_true ⟨hmodel, hfield⟩⟩

theorem not_noneAt_of_mem {f : Model × IdColumn} (hf : f ∈ locationFields)
    (hcount : 0 < s.count f.1 f.2 id) : ¬NoneAt id s :=
  fun hnone => absurd (hnone f hf) hcount.ne'

/-- The foreign keys of the business records that cascade come from the location itself or from
another business record. -/
theorem cascade_source : ∀ fk ∈ locationSchema, fk.onDelete = .cascade →
    fk.source ≠ .location ∧ (fk.source = .sale → fk.field = .locationId ∧ fk.target = .location) ∧
      (IsBusinessRecord fk.source = true →
        fk.target = .location ∧ (fk.source, fk.field) ∈ locationFields ∨
          IsBusinessRecord fk.target = true) := by
  decide

theorem goesWith_of_mem_doomed :
    ∀ k ∈ doomed locationSchema s.table (.location, id), GoesWith id s k := by
  refine doomed_induction ⟨fun _ => rfl, nofun, nofun⟩ ?_
  intro r hr p hp hrefers
  obtain ⟨fk, hfk, haction, hsource, htarget, hfield⟩ := refers_iff.mp hrefers
  obtain ⟨hlocation, hsale, hrecord⟩ := cascade_source fk hfk haction
  rw [hsource] at hlocation hsale hrecord
  -- where the foreign key comes from the location, that is this location
  have hhere : fk.target = .location → r.2 fk.field = some id := fun htarget' => by
    rw [hfield, hp.location (htarget.symm.trans htarget')]
  refine ⟨fun h => absurd h hlocation, fun h => ?_, fun h => ?_⟩
  · obtain ⟨hcolumn, htarget'⟩ := hsale h
    exact ⟨r.2, Table.find?_of_mem_rows hr, hcolumn ▸ hhere htarget'⟩
  · rcases hrecord h with ⟨htarget', hmem⟩ | hparent
    · exact not_noneAt_of_mem hmem (count_pos hr rfl (hhere htarget'))
    · exact hp.record (htarget ▸ hparent)

end Doomed

section Remove

variable {tenantId id : Id} {s s' : LocationRecords}

theorem mem_keys_of_readRemove (h : readRemove tenantId id s = .ok ()) :
    (Model.location, id) ∈ s.table.rows.map Prod.fst := by
  by_contra hnone
  rw [readRemove, Table.find?_eq_none_iff.mpr hnone] at h
  cases h

theorem remove_eq_ok_iff :
    remove tenantId id s = .ok s' ↔ readRemove tenantId id s = .ok () ∧
      s.delete (.location, id) = .ok s' := by
  cases hread : readRemove tenantId id s with
  | error e =>
    have hrefused : remove tenantId id s = .error e := by rw [remove, hread]; rfl
    rw [hrefused]
    exact ⟨fun h => (by cases h), fun h => (by cases h.1)⟩
  | ok _ =>
    have hcommit : remove tenantId id s = commitRemove id s := by rw [remove, hread]; rfl
    rw [hcommit, commitRemove, eq_self, true_and]
    cases s.delete (.location, id) with
    | ok s'' => exact ⟨fun h => congrArg _ (Except.ok.inj h), fun h => congrArg _ (Except.ok.inj h)⟩
    | error e => cases e <;> exact ⟨fun h => (by cases h), fun h => (by cases h)⟩

/-- A business record at a location goes with it. -/
theorem mem_doomed_of_locationField (hkey : (Model.location, id) ∈ s.table.rows.map Prod.fst)
    {k : Model × Id} {row : IdColumn → Option Id} (hrow : s.table.find? k = some row)
    {field : IdColumn} (hfield : (k.1, field) ∈ locationFields) (hid : row field = some id) :
    k ∈ doomed locationSchema s.table (.location, id) := by
  have hdeclared : ∀ f ∈ locationFields,
      (⟨f.1, f.2, .location, .cascade⟩ : ForeignKey Model IdColumn) ∈ locationSchema := by
    decide
  exact mem_doomed_of_refers hkey hrow (hdeclared _ hfield) rfl rfl hid mem_doomed_self

/-- Only a refund of a sale of the location forbids the delete. -/
theorem restricted_iff (hkey : (Model.location, id) ∈ s.table.rows.map Prod.fst) :
    Restricted locationSchema s.table (doomed locationSchema s.table (.location, id)) ↔
      HasRefund id s := by
  have hrestrict : ∀ fk ∈ locationSchema, fk.onDelete = .restrict →
      fk = ⟨.saleRefund, .saleId, .sale, .restrict⟩ := by
    decide
  constructor
  · rintro ⟨r, hr, ⟨model, saleId⟩, hp, hrefers⟩
    obtain ⟨fk, hfk, haction, hsource, htarget, hfield⟩ := refers_iff.mp hrefers
    obtain rfl := hrestrict fk hfk haction
    obtain rfl : Model.sale = model := htarget
    obtain ⟨sale, hsale, hid⟩ := (goesWith_of_mem_doomed _ hp).sale rfl
    exact ⟨r, hr, hsource.symm, saleId, hfield, sale, hsale, hid⟩
  · rintro ⟨refund, hrefund, hmodel, saleId, hsaleId, sale, hsale, hid⟩
    have hfield : (Model.sale, IdColumn.locationId) ∈ locationFields := by decide
    refine ⟨refund, hrefund, (.sale, saleId),
      mem_doomed_of_locationField hkey hsale hfield hid, ?_⟩
    exact refers_iff.mpr ⟨⟨.saleRefund, .saleId, .sale, .restrict⟩, by decide, rfl, hmodel.symm,
      rfl, hsaleId⟩

/-- A business record that is at the location is lost where the location is deleted. -/
theorem lost_of_count_pos (hremove : remove tenantId id s = .ok s') {f : Model × IdColumn}
    (hf : f ∈ locationFields) (hcount : s.count f.1 f.2 id ≠ 0) : ¬RecordsKept s s' := by
  obtain ⟨_, hdelete⟩ := remove_eq_ok_iff.mp hremove
  obtain ⟨hkey, _, htable⟩ := delete_eq_ok_iff.mp hdelete
  obtain ⟨⟨k, row⟩, hr, hat⟩ := List.countP_pos_iff.mp (Nat.pos_of_ne_zero hcount)
  obtain ⟨hmodel, hfield⟩ := of_decide_eq_true hat
  have hrow : s.table.find? k = some row := Table.find?_of_mem_rows hr
  have hdoomed : k ∈ doomed locationSchema s.table (.location, id) :=
    mem_doomed_of_locationField hkey hrow (by rw [hmodel]; exact hf) hfield
  have hbusiness : ∀ f ∈ locationFields, IsBusinessRecord f.1 = true := by decide
  intro hkept
  have hthere := hkept k (by rw [hmodel]; exact hbusiness f hf) (by rw [hrow]; rfl)
  rw [htable, find?_remaining, if_pos hdoomed] at hthere
  cases hthere

/-- Where no business record is at the location, none is lost. -/
theorem kept_of_noneAt (hremove : remove tenantId id s = .ok s') (hnone : NoneAt id s) :
    RecordsKept s s' := by
  obtain ⟨_, hdelete⟩ := remove_eq_ok_iff.mp hremove
  obtain ⟨_, _, htable⟩ := delete_eq_ok_iff.mp hdelete
  intro k hbusiness hthere
  have hstays : k ∉ doomed locationSchema s.table (.location, id) :=
    fun hgone => (goesWith_of_mem_doomed k hgone).record hbusiness hnone
  rw [htable, find?_remaining, if_neg hstays, Option.isSome_map]
  exact hthere

/-- Deleting a location loses no business record exactly if it is refused, by the check of the stock
or for a refund, or none is at the location. -/
theorem remove_keeps_records_iff (tenantId id : Id) (s : LocationRecords) :
    (∀ s', remove tenantId id s = .ok s' → RecordsKept s s') ↔
      (∃ e, readRemove tenantId id s = .error e) ∨ HasRefund id s ∨ NoneAt id s := by
  constructor
  · intro hkept
    cases hread : readRemove tenantId id s with
    | error e => exact .inl ⟨e, rfl⟩
    | ok _ =>
      refine .inr (or_iff_not_imp_left.mpr fun hfree f hf => ?_)
      have hkey := mem_keys_of_readRemove hread
      have hdelete : s.delete (.location, id) =
          .ok ⟨remaining locationSchema s.table (doomed locationSchema s.table (.location, id)),
            sound_remaining s.sound (doomed_closed hkey) (mt (restricted_iff hkey).mp hfree)⟩ :=
        delete_eq_ok_iff.mpr ⟨hkey, mt (restricted_iff hkey).mp hfree, rfl⟩
      have hremove := remove_eq_ok_iff.mpr ⟨hread, hdelete⟩
      by_contra hcount
      exact lost_of_count_pos hremove hf hcount (hkept _ hremove)
  · rintro (⟨e, hread⟩ | hrefund | hnone) s' hremove
    · cases hread.symm.trans (remove_eq_ok_iff.mp hremove).1
    · obtain ⟨hkey, hfree, _⟩ := delete_eq_ok_iff.mp (remove_eq_ok_iff.mp hremove).2
      exact absurd ((restricted_iff hkey).mpr hrefund) hfree
    · exact kept_of_noneAt hremove hnone

end Remove

section Example

/-- A row with these ids. -/
def ids (values : List (IdColumn × Id)) : IdColumn → Option Id := fun field =>
  (values.find? fun v => v.1 = field).map Prod.snd

/-- A location that has had no stock: with a paid invoice, a terminal at which a session has been
closed, and a user who is assigned to it. -/
def office : LocationRecords where
  table :=
    ⟨[((.location, 0), ids [(.tenantId, 7)]),
      ((.userAssignment, 0), ids [(.tenantId, 7), (.locationId, 0)]),
      ((.posTerminal, 0), ids [(.tenantId, 7), (.locationId, 0)]),
      ((.posSession, 0), ids [(.tenantId, 7), (.terminalId, 0)]),
      ((.invoice, 0), ids [(.tenantId, 7), (.locationId, 0)]),
      ((.invoiceItem, 0), ids [(.invoiceId, 0)]),
      ((.invoicePayment, 0), ids [(.invoiceId, 0)])], by decide⟩
  sound := by decide

/-- The location is deleted, and with it all that has happened there. -/
theorem paid_invoice_lost : ∃ s', remove 7 0 office = .ok s' ∧ s'.table.rows.map Prod.fst = [] ∧
    ¬RecordsKept office s' := by
  refine ⟨_, rfl, by decide, fun hkept => ?_⟩
  exact absurd (hkept (.invoicePayment, 0) rfl rfl) (by decide)

end Example

end Invetrixa
