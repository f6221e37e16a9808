import Invetrixa.Pos.Terminal
import Invetrixa.Server

/-!
# The codes of terminals

The service lets a code be used that only deleted terminals have, and the unique constraint refuses
it: two rules decide one request, over different rows. A terminal that is removed keeps its code for
good.

## Main definitions

- `TerminalCall.AsksForFreeCode` — a request for a code that no terminal in use has
- `TerminalCall.AsksForDeletedCode` — a request for a code that a deleted terminal has
- `LiveCodesDistinct` — no two terminals of a tenant that are in use share a code

## Main results

- `deletedCode_kept` — the code of a deleted terminal stays taken in every run
- `codes_reusable_iff`, `removed_code_refused`
-/

namespace Invetrixa

open Rowstore TerminalService

/-- No terminal of the tenant that is in use has the code, but for one. -/
def FreeCode (tenantId : Id) (except : Option Id) (code : String) (t : TerminalTable) : Prop :=
  ∀ i r, t.find? i = some r → some i ≠ except → r.deletedAt = none → r.codeKey ≠ (code, tenantId)

/-- A deleted terminal of the tenant has the code. -/
def DeletedCode (tenantId : Id) (code : String) (t : TerminalTable) : Prop :=
  ∃ i r, t.find? i = some r ∧ r.deletedAt ≠ none ∧ r.codeKey = (code, tenantId)

/-- No two terminals of a tenant that are in use share a code. -/
def LiveCodesDistinct (t : TerminalTable) : Prop :=
  ∀ i j r r', t.find? i = some r → t.find? j = some r' → r.deletedAt = none →
    r'.deletedAt = none → r.tenantId = r'.tenantId → r.code = r'.code → i = j

namespace TerminalCall

/-- The code that a request asks for. -/
def code (call : TerminalCall) : Option String :=
  match call.request with
  | .create dto => some dto.code.text
  | .update _ dto => dto.code.map StringField.text
  | .remove _ => none

/-- A request to create or update a terminal, with a code that no other terminal in use has; the
location it names is the tenant's, and so is the terminal. -/
def AsksForFreeCode (call : TerminalCall) (t : TerminalTable) : Prop :=
  match call.request with
  | .create dto => findLocation call.tenantId dto.locationId call.books = .ok () ∧
      FreeCode call.tenantId none dto.code.text t
  | .update id dto => (t.live call.tenantId id).isSome ∧
      findNewLocation call.tenantId dto.locationId call.books = .ok () ∧
        ∀ code ∈ dto.code, FreeCode call.tenantId (some id) code.text t
  | .remove _ => False

/-- A request for a code that a deleted terminal of the tenant has. -/
def AsksForDeletedCode (call : TerminalCall) (t : TerminalTable) : Prop :=
  ∃ code, call.code = some code ∧ DeletedCode call.tenantId code t

def Accepted (call : TerminalCall) (t : TerminalTable) : Prop := ∃ t', call.answer t = .ok t'

end TerminalCall

variable {t t' : TerminalTable} {call : TerminalCall} {tenantId id : Id} {books : Store}

section Checks

theorem live_eq_some {r : TerminalRow} (h : t.live tenantId id = some r) :
    t.find? id = some r ∧ r.tenantId = tenantId ∧ r.deletedAt = none := by
  obtain ⟨hfind, hr⟩ := Option.mem_filter_iff.mp h
  exact ⟨hfind, of_decide_eq_true hr⟩

/-- The look-up of the service goes over the terminals in use. -/
theorem hasLiveCode_eq_false_iff {except : Option Id} {code : String} :
    t.hasLiveCode tenantId except code = false ↔ FreeCode tenantId except code t := by
  rw [TerminalTable.hasLiveCode, List.any_eq_false]
  constructor
  · intro h i r hfind hne hlive hkey
    obtain ⟨hcode, htenant⟩ := Prod.mk.inj hkey
    exact h (i, r) (Table.mem_rows_of_find? hfind) (decide_eq_true ⟨hcode, htenant, hlive, hne⟩)
  · rintro h ⟨i, r⟩ hmem hmatch
    obtain ⟨hcode, htenant, hlive, hne⟩ := of_decide_eq_true hmatch
    exact h i r (Table.find?_of_mem_rows hmem) hne hlive (Prod.ext hcode htenant)

/-- What the checks of a creation let through is left to the unique constraint. -/
theorem create_of_free {dto : CreateTerminalDto}
    (hlocation : findLocation tenantId dto.locationId books = .ok ())
    (hfree : FreeCode tenantId none dto.code.text t) :
    create tenantId dto books t =
      match t.insert (newTerminal tenantId dto) with
      | none => .error codeViolation
      | some created => .ok created := by
  have hread : readCreate tenantId dto books t = .ok () := by
    rw [readCreate, hlocation, hasLiveCode_eq_false_iff.mpr hfree]
    rfl
  rw [create, hread]
  rfl

theorem update_of_free {dto : UpdateTerminalDto} {r : TerminalRow}
    (hlive : t.live tenantId id = some r)
    (hlocation : findNewLocation tenantId dto.locationId books = .ok ())
    (hfree : ∀ code ∈ dto.code, FreeCode tenantId (some id) code.text t) :
    update tenantId id dto books t =
      match t.update id (written dto) with
      | none => .error codeViolation
      | some t' => .ok t' := by
  have hcode : findDuplicateCode tenantId id dto.code r t = .ok () := by
    simp only [findDuplicateCode]
    split
    · rfl
    · next code hcode =>
      rw [if_neg]
      rintro ⟨-, htaken⟩
      rw [hasLiveCode_eq_false_iff.mpr (hfree code hcode)] at htaken
      cases htaken
  have hread : readUpdate tenantId id dto books t = .ok () := by
    rw [readUpdate, hlive]
    dsimp only
    rw [hlocation]
    exact hcode
  rw [update, hread]
  rfl

/-- The terminal that is removed is in use. -/
theorem live_of_readRemove (h : readRemove tenantId id (t.store books) = .ok ()) :
    ∃ r, t.live tenantId id = some r := by
  rw [readRemove] at h
  split at h
  · cases h
  · next hsome =>
    have hrow : ((t.find? id).map TerminalRow.toPOSTerminal).filter
        (fun r => decide (r.tenantId = tenantId ∧ r.deletedAt = none)) ≠ none := by
      intro hnone
      refine hsome ?_
      show (((t.toSerial.map TerminalRow.toPOSTerminal).find? id).filter _).isNone = true
      rw [Serial.toTable_map, Table.find?_map, hnone]
      rfl
    obtain ⟨p, hp⟩ := Option.ne_none_iff_exists'.mp hrow
    obtain ⟨hp, hmatch⟩ := Option.mem_filter_iff.mp hp
    obtain ⟨r, hr, rfl⟩ := Option.map_eq_some_iff.mp hp
    exact ⟨r, Option.mem_filter_iff.mpr ⟨hr, hmatch⟩⟩

/-- An accepted request adds a row, or rewrites one that is in use. -/
theorem answer_ok (h : call.answer t = .ok t') :
    (∃ row, t'.toSerial = t.create row) ∨
      ∃ id r f, t.live call.tenantId id = some r ∧ t'.toSerial = t.modify id f := by
  rw [TerminalCall.answer] at h
  split at h
  · next dto _ =>
    obtain ⟨created, hcreate, h⟩ := Except.bind_eq_ok_iff.mp h
    obtain rfl := Except.ok.inj h
    obtain ⟨_, _, hcreate⟩ := Except.bind_eq_ok_iff.mp hcreate
    split at hcreate
    · cases hcreate
    · next inserted hinsert =>
      obtain rfl := Except.ok.inj hcreate
      exact .inl ⟨_, (UniqueTable.insert_eq_some hinsert).2⟩
  · next id dto _ =>
    obtain ⟨_, hread, hupdate⟩ := Except.bind_eq_ok_iff.mp h
    rw [readUpdate] at hread
    split at hread
    · cases hread
    · next r hlive =>
      split at hupdate
      · cases hupdate
      · next t₁ hwrite =>
        obtain rfl := Except.ok.inj hupdate
        exact .inr ⟨id, r, _, hlive, UniqueTable.update_eq_some hwrite⟩
  · next id _ =>
    obtain ⟨_, hread, hremove⟩ := Except.bind_eq_ok_iff.mp h
    obtain rfl := Except.ok.inj hremove
    obtain ⟨r, hlive⟩ := live_of_readRemove hread
    exact .inr ⟨id, r, _, hlive, rfl⟩

end Checks

section Runs

variable {code : String}

/-- A deleted terminal is not written again, so its code stays taken. -/
theorem DeletedCode.serve (h : DeletedCode tenantId code t) (call : TerminalCall) :
    DeletedCode tenantId code (serveTerminal t call) := by
  rw [serveTerminal]
  split
  · next t' hanswer =>
    obtain ⟨i, r, hfind, hdeleted, hkey⟩ := h
    rcases answer_ok hanswer with ⟨row, heq⟩ | ⟨id, existing, f, hlive, heq⟩
    · exact ⟨i, r, heq ▸ Serial.find?_create_of_some hfind row, hdeleted, hkey⟩
    · obtain ⟨hexisting, -, hnone⟩ := live_eq_some hlive
      have hne : i ≠ id := by
        rintro rfl
        obtain rfl := Option.some.inj (hfind.symm.trans hexisting)
        exact hdeleted hnone
      refine ⟨i, r, ?_, hdeleted, hkey⟩
      rw [heq, Serial.toTable_modify, Table.find?_modify, if_neg hne]
      exact hfind
  · exact h

/-- Once a terminal with a code is deleted, the code is taken in every later state. -/
theorem deletedCode_kept {calls : List TerminalCall}
    (h : DeletedCode tenantId code (serveTerminals calls)) (more : List TerminalCall) :
    DeletedCode tenantId code (serveTerminals (calls ++ more)) := by
  rw [serveTerminals, List.foldl_append]
  have hrun : ∀ t, DeletedCode tenantId code t →
      DeletedCode tenantId code (more.foldl serveTerminal t) := by
    induction more with
    | nil => exact fun t ht => ht
    | cons call rest ih => exact fun t ht => ih (serveTerminal t call) (ht.serve call)
  exact hrun _ h

/-- The constraint spans all rows, so also those in use. -/
theorem liveCodesDistinct (t : TerminalTable) : LiveCodesDistinct t := by
  intro i j r r' hfind hfind' _ _ htenant hcode
  exact t.unique i j r r' hfind hfind' (Prod.ext hcode htenant)

end Runs

section Requests

/-- A new terminal is refused exactly if a deleted one has its code. -/
theorem create_answer {dto : CreateTerminalDto}
    (hlocation : findLocation tenantId dto.locationId books = .ok ())
    (hfree : FreeCode tenantId none dto.code.text t) :
    (DeletedCode tenantId dto.code.text t →
        create tenantId dto books t = .error codeViolation) ∧
      (¬DeletedCode tenantId dto.code.text t →
        ∃ created, create tenantId dto books t = .ok created) := by
  have hrefused : t.insert (newTerminal tenantId dto) = none ↔
      DeletedCode tenantId dto.code.text t := by
    rw [UniqueTable.insert_eq_none_iff_of_free fun r : TerminalRow => r.deletedAt = none]
    · rfl
    · exact fun i r hfind hlive => hfree i r hfind nofun hlive
  rw [create_of_free hlocation hfree, ← hrefused]
  cases t.insert (newTerminal tenantId dto) with
  | none => exact ⟨fun _ => rfl, fun h => absurd rfl h⟩
  | some created => exact ⟨nofun, fun _ => ⟨created, rfl⟩⟩

/-- A terminal whose code is not to change keeps a code that no other row has. -/
theorem update_ne_none {r : TerminalRow} (hr : t.find? id = some r) {f : TerminalRow → TerminalRow}
    (hkey : (f r).codeKey = r.codeKey) : t.update id f ≠ none := by
  intro hnone
  obtain ⟨i, r', hfind, hne, hsame⟩ := (UniqueTable.update_eq_none_iff hr).mp hnone
  exact hne (t.unique i id r' r hfind hr (hsame.trans hkey))

/-- A terminal is not rewritten exactly if a deleted one has the code that it is to get. -/
theorem update_answer {dto : UpdateTerminalDto} {r : TerminalRow}
    (hlive : t.live tenantId id = some r)
    (hlocation : findNewLocation tenantId dto.locationId books = .ok ())
    (hfree : ∀ code ∈ dto.code, FreeCode tenantId (some id) code.text t) :
    ((∃ code ∈ dto.code, DeletedCode tenantId code.text t) →
        update tenantId id dto books t = .error codeViolation) ∧
      ((∀ code ∈ dto.code, ¬DeletedCode tenantId code.text t) →
        ∃ t', update tenantId id dto books t = .ok t') := by
  obtain ⟨hr, rfl, hnone⟩ := live_eq_some hlive
  rw [update_of_free hlive hlocation hfree]
  cases hcode : dto.code with
  | none =>
    have hkept : t.update id (written dto) ≠ none := by
      refine update_ne_none hr ?_
      rw [written, hcode]
      rfl
    refine ⟨fun ⟨_, h, _⟩ => (nomatch h), fun _ => ?_⟩
    obtain ⟨t', ht'⟩ := Option.ne_none_iff_exists'.mp hkept
    rw [ht']
    exact ⟨t', rfl⟩
  | some code =>
    have hkey : (written dto r).codeKey = (code.text, r.tenantId) := by
      rw [written, hcode]
      rfl
    -- The index knows no deletion: it refuses a code exactly if a removed terminal has it.
    have hrefused : t.update id (written dto) = none ↔ DeletedCode r.tenantId code.text t := by
      have hfree := hfree code hcode
      rw [UniqueTable.update_eq_none_iff_of_free (fun r => r.deletedAt = none) hr hnone, hkey]
      · rfl
      · intro i r' hfind hne hlive'
        rw [hkey]
        exact hfree i r' hfind (fun heq => hne (Option.some.inj heq)) hlive'
    constructor
    · rintro ⟨code', hmem, hdeleted⟩
      obtain rfl := Option.some.inj hmem
      rw [hrefused.mpr hdeleted]
    · intro hkept
      obtain ⟨t', ht'⟩ := Option.ne_none_iff_exists'.mp (mt hrefused.mp (hkept code rfl))
      rw [ht']
      exact ⟨t', rfl⟩

/-- A request for a free code goes through exactly if no deleted terminal has the code; else the
unique constraint refuses it. -/
theorem accepted_iff (hasks : call.AsksForFreeCode t) :
    (call.Accepted t ↔ ¬call.AsksForDeletedCode t) ∧
      (call.AsksForDeletedCode t → call.answer t = .error codeViolation) := by
  have hanswers : (call.AsksForDeletedCode t → call.answer t = .error codeViolation) ∧
      (¬call.AsksForDeletedCode t → call.Accepted t) := by
    obtain ⟨tenantId, now, books, request⟩ := call
    cases request with
    | create dto =>
      obtain ⟨hrefused, haccepted⟩ := create_answer hasks.1 hasks.2
      constructor
      · rintro ⟨code, hcode, hdeleted⟩
        obtain rfl := Option.some.inj hcode
        show (create tenantId dto books t >>= fun _ => _) = _
        rw [hrefused hdeleted]
        rfl
      · intro hnone
        obtain ⟨created, hcreated⟩ :=
          haccepted fun hdeleted => hnone ⟨dto.code.text, rfl, hdeleted⟩
        refine ⟨created.2, ?_⟩
        show (create tenantId dto books t >>= fun _ => _) = _
        rw [hcreated]
        rfl
    | update id dto =>
      obtain ⟨hsome, hlocation, hfree⟩ := hasks
      obtain ⟨r, hlive⟩ := Option.isSome_iff_exists.mp hsome
      obtain ⟨hrefused, haccepted⟩ := update_answer hlive hlocation hfree
      constructor
      · rintro ⟨code, hcode, hdeleted⟩
        obtain ⟨field, hfield, rfl⟩ := Option.map_eq_some_iff.mp hcode
        exact hrefused ⟨field, hfield, hdeleted⟩
      · intro hnone
        refine haccepted fun field hfield hdeleted => hnone ⟨field.text, ?_, hdeleted⟩
        exact Option.map_eq_some_iff.mpr ⟨field, hfield, rfl⟩
    | remove id => exact hasks.elim
  obtain ⟨hrefused, haccepted⟩ := hanswers
  refine ⟨⟨?_, haccepted⟩, hrefused⟩
  rintro ⟨t', hok⟩ hdeleted
  rw [hrefused hdeleted] at hok
  cases hok

/-- In every state that creations, updates and removals lead to, a request for a code that no
terminal in use has is accepted exactly if no deleted terminal has it, and no two terminals in use
share a code. -/
theorem codes_reusable_iff (calls : List TerminalCall) :
    (∀ call : TerminalCall, call.AsksForFreeCode (serveTerminals calls) →
      (call.Accepted (serveTerminals calls) ↔
        ¬call.AsksForDeletedCode (serveTerminals calls))) ∧
      LiveCodesDistinct (serveTerminals calls) :=
  ⟨fun _ hasks => (accepted_iff hasks).1, liveCodesDistinct _⟩

/-- A request to open the till `POS-1` at the front. -/
def newTill : TerminalCall where
  tenantId := 0
  now := 0
  books := Store.initial (.shop .fifo)
  request := .create ⟨⟨"Till", by decide, by decide⟩, ⟨"POS-1", by decide, by decide⟩, 0⟩

/-- The till is opened and removed. -/
def removedTill : List TerminalCall := [newTill, { newTill with request := .remove 0 }]

theorem asksForFreeCode_newTill : newTill.AsksForFreeCode (serveTerminals removedTill) := by
  refine ⟨by decide, hasLiveCode_eq_false_iff.mp ?_⟩
  decide +kernel

theorem codes_reusable_iff_removedTill :
    newTill.Accepted (serveTerminals removedTill) ↔
      ¬newTill.AsksForDeletedCode (serveTerminals removedTill) :=
  (codes_reusable_iff removedTill).1 newTill asksForFreeCode_newTill

/-- After a till is removed no other can be opened under its code. -/
theorem removed_code_refused : ¬∀ (calls : List TerminalCall) (call : TerminalCall),
    call.AsksForFreeCode (serveTerminals calls) → call.Accepted (serveTerminals calls) := by
  intro h
  obtain ⟨t', hok⟩ := h removedTill newTill asksForFreeCode_newTill
  have hrefused : (newTill.answer (serveTerminals removedTill)).toOption.isSome = false := by
    decide +kernel
  rw [hok] at hrefused
  cases hrefused

end Requests

end Invetrixa
