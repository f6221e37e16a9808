import Invetrixa.Library.Unique
import Invetrixa.Pos.Session
import Invetrixa.Text

/-!
# Terminals

`TerminalService`: terminals are created, updated and removed. A removed terminal stays in the
table. The service looks for a code among the terminals that are not deleted; the unique constraint
on code and tenant covers all rows. What a request reads elsewhere, locations and open sessions, it
finds in the other tables as they are by then.

## Main definitions

- `TerminalTable` — the rows of `pos_terminals` with their unique constraint
- `TerminalService.create`, `update`, `remove`
-/

namespace Invetrixa

open Rowstore

/-- A text that `StringField` accepts. The columns take what the fields accept. -/
structure StringField (min max : ℕ) where
  text : String
  min_le : min ≤ text.length
  le_max : text.length ≤ max

structure TerminalRow where
  name : String
  code : String
  isActive : Bool
  locationId : Id
  tenantId : Id
  deletedAt : Option ℕ
  deriving DecidableEq

/-- `@@unique([code, tenantId])` -/
def TerminalRow.codeKey (r : TerminalRow) : String × Id := (r.code, r.tenantId)

/-- The rows of `pos_terminals`. -/
abbrev TerminalTable := UniqueTable TerminalRow.codeKey

/-- A terminal as sales and sessions see it. -/
def TerminalRow.toPOSTerminal (r : TerminalRow) : POSTerminal where
  isActive := r.isActive
  tenantId := r.tenantId
  deletedAt := r.deletedAt

namespace TerminalTable

variable (t : TerminalTable)

/-- The other tables with these terminals. -/
def store (books : Store) : Store :=
  { books with terminals := t.toSerial.map TerminalRow.toPOSTerminal }

/-- A terminal of a tenant that is not deleted. -/
def live (tenantId id : Id) : Option TerminalRow :=
  (t.find? id).filter fun r => r.tenantId = tenantId ∧ r.deletedAt = none

/-- A terminal of a tenant with a code, not deleted, other than the one with the id. -/
def hasLiveCode (tenantId : Id) (except : Option Id) (code : String) : Bool :=
  t.rows.any fun x => x.2.code = code ∧ x.2.tenantId = tenantId ∧ x.2.deletedAt = none ∧
    some x.1 ≠ except

end TerminalTable

namespace TerminalService

structure CreateTerminalDto where
  name : StringField 2 100
  code : StringField 2 20
  locationId : Id

structure UpdateTerminalDto where
  name : Option (StringField 2 100)
  code : Option (StringField 2 20)
  locationId : Option Id
  isActive : Option Bool

def findLocation (tenantId locationId : Id) (books : Store) : Except HttpError Unit :=
  if ((books.locations.find? locationId).filter fun l => l.tenantId = tenantId).isNone then
    .error (.notFound "Location not found")
  else .ok ()

/-- The answer to a code that another terminal has. -/
def codeExists (code : String) : HttpError :=
  .conflict ("Terminal with code \"" ++ code ++ "\" already exists")

/-- The constraint on code and tenant is violated. -/
def codeViolation : HttpError := uniqueViolation ["code", "tenantId"]

def newTerminal (tenantId : Id) (dto : CreateTerminalDto) : TerminalRow where
  name := dto.name.text
  code := dto.code.text
  isActive := true
  locationId := dto.locationId
  tenantId := tenantId
  deletedAt := none

def readCreate (tenantId : Id) (dto : CreateTerminalDto) (books : Store) (t : TerminalTable) :
    Except HttpError Unit := do
  findLocation tenantId dto.locationId books
  if t.hasLiveCode tenantId none dto.code.text then .error (codeExists dto.code.text)
  else .ok ()

def create (tenantId : Id) (dto : CreateTerminalDto) (books : Store) (t : TerminalTable) :
    Except HttpError (Id × TerminalTable) := do
  readCreate tenantId dto books t
  match t.insert (newTerminal tenantId dto) with
  | none => .error codeViolation
  | some created => .ok created

/-- The fields that are given are written. -/
def written (dto : UpdateTerminalDto) (r : TerminalRow) : TerminalRow :=
  { r with
    name := (dto.name.map StringField.text).getD r.name
    code := (dto.code.map StringField.text).getD r.code
    locationId := dto.locationId.getD r.locationId
    isActive := dto.isActive.getD r.isActive }

/-- A location that is given is looked for. -/
def findNewLocation (tenantId : Id) (locationId : Option Id) (books : Store) :
    Except HttpError Unit :=
  match locationId with
  | none => .ok ()
  | some locationId => findLocation tenantId locationId books

/-- A code that changes is looked for among the other terminals. -/
def findDuplicateCode (tenantId id : Id) (code : Option (StringField 2 20))
    (existing : TerminalRow) (t : TerminalTable) : Except HttpError Unit :=
  match code with
  | none => .ok ()
  | some code =>
    if code.text ≠ existing.code ∧ t.hasLiveCode tenantId (some id) code.text then
      .error (codeExists code.text)
    else .ok ()

def readUpdate (tenantId id : Id) (dto : UpdateTerminalDto) (books : Store) (t : TerminalTable) :
    Except HttpError Unit :=
  match t.live tenantId id with
  | none => .error (.notFound "Terminal not found")
  | some existing => do
    findNewLocation tenantId dto.locationId books
    findDuplicateCode tenantId id dto.code existing t

def update (tenantId id : Id) (dto : UpdateTerminalDto) (books : Store) (t : TerminalTable) :
    Except HttpError TerminalTable := do
  readUpdate tenantId id dto books t
  match t.update id (written dto) with
  | none => .error codeViolation
  | some t' => .ok t'

/-- The terminal is marked as deleted; its code stays with it. -/
def markRemoved (now id : ℕ) (t : TerminalTable) : TerminalTable :=
  t.rewrite id (fun r => { r with deletedAt := some now, isActive := false }) fun _ => rfl

def remove (now tenantId id : ℕ) (books : Store) (t : TerminalTable) :
    Except HttpError TerminalTable := do
  readRemove tenantId id (t.store books)
  return markRemoved now id t

end TerminalService

open TerminalService

inductive TerminalRequest
  | create (dto : CreateTerminalDto)
  | update (id : Id) (dto : UpdateTerminalDto)
  | remove (id : Id)

/-- A request, with the other tables as it finds them. -/
structure TerminalCall where
  tenantId : Id
  now : ℕ
  books : Store
  request : TerminalRequest

def TerminalCall.answer (call : TerminalCall) (t : TerminalTable) :
    Except HttpError TerminalTable :=
  match call.request with
  | .create dto => do
    let (_, t') ← TerminalService.create call.tenantId dto call.books t
    return t'
  | .update id dto => TerminalService.update call.tenantId id dto call.books t
  | .remove id => TerminalService.remove call.now call.tenantId id call.books t

/-- The terminals after a request; a refused one writes nothing. -/
def serveTerminal (t : TerminalTable) (call : TerminalCall) : TerminalTable :=
  match call.answer t with
  | .ok t' => t'
  | .error _ => t

/-- The terminals after a list of requests. -/
def serveTerminals (calls : List TerminalCall) : TerminalTable :=
  calls.foldl serveTerminal UniqueTable.empty

end Invetrixa
