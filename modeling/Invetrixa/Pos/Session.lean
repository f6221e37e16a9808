import Invetrixa.Numbering

/-!
# Cash drawer sessions and terminals

`SessionService.open` and `close`: a session is opened on a terminal with what is in the drawer,
and closed with what is counted, against what its sales should have left there.
`TerminalService.remove`: a terminal goes out of use.

## Main definitions

- `SessionService.open`, `close`
- `SessionService.cashReceived` — the aggregate that the reconciliation rests on
-/

namespace Invetrixa

open Rowstore

/-- `session.status.toLowerCase()` -/
def POSSessionStatus.lowerCase : POSSessionStatus → String
  | .open => "open"
  | .closed => "closed"
  | .reconciling => "reconciling"

namespace SessionService

structure OpenSessionDto where
  terminalId : Id
  openingBalance : ℚ

structure CloseSessionDto where
  closingBalance : ℚ

/-- The checks of `open`: the terminal is the tenant's and in use, and has no open session. -/
def readOpen (tenantId : Id) (dto : OpenSessionDto) (s : Store) : Except HttpError Unit :=
  match (s.terminals.find? dto.terminalId).filter fun t =>
      t.tenantId = tenantId ∧ t.isActive ∧ t.deletedAt = none with
  | none => .error (.notFound "Terminal not found or inactive")
  | some _ =>
    match s.sessions.rows.find? fun r => r.2.terminalId = dto.terminalId ∧ r.2.status = .open with
    | some existingSession => .error (.conflict ("Terminal already has an open session (" ++
        existingSession.2.sessionNumber ++ "). Close it first."))
    | none => .ok ()

/-- The row of a new session. -/
def newSession (db : Database) (clock : Clock) (tenantId : Id) (dto : OpenSessionDto)
    (s : Store) : POSSession where
  sessionNumber := generateSessionNumber clock tenantId s
  openingBalance := db.decimal dto.openingBalance
  closingBalance := none
  expectedBalance := none
  variance := none
  status := .open
  terminalId := dto.terminalId
  tenantId := tenantId

/-- `pOSSession.create`, under the unique constraint. -/
def insertSession (session : POSSession) (s : Store) : Except HttpError (Id × Store) :=
  if (s.sessions.rows.any fun r =>
      r.2.sessionNumber = session.sessionNumber ∧ r.2.tenantId = session.tenantId) then
    .error (uniqueViolation ["sessionNumber", "tenantId"])
  else .ok (s.sessions.next, { s with sessions := s.sessions.create session })

def «open» (db : Database) (clock : Clock) (tenantId : Id) (dto : OpenSessionDto) (s : Store) :
    Except HttpError (Id × Store) := do
  readOpen tenantId dto s
  insertSession (newSession db clock tenantId dto s) s

/-- A sale counts for a session while it is completed. -/
def countsFor (sessionId : Id) (sale : Sale) : Bool :=
  sale.sessionId = some sessionId ∧ sale.status = .completed

/-- The sum of the cash payments of the completed sales of a session. -/
def cashReceived (sessionId : Id) (s : Store) : ℚ :=
  s.salePayments.sum fun _ p =>
    if (s.sales.find? p.saleId).any (countsFor sessionId) ∧ p.method = .cash then p.amount else 0

/-- The number of the completed sales of a session. -/
def salesCount (sessionId : Id) (s : Store) : ℕ :=
  (s.sales.rows.filter fun r => countsFor sessionId r.2).length

/-- The session that `close` works on. -/
def readClose (tenantId sessionId : Id) (s : Store) : Except HttpError POSSession :=
  match (s.sessions.find? sessionId).filter fun session => session.tenantId = tenantId with
  | none => .error (.notFound "Session not found")
  | some session =>
    if session.status ≠ .open then
      .error (.badRequest ("Cannot close " ++ session.status.lowerCase ++ " session"))
    else .ok session

/-- A session, reconciled. -/
def reconciled (db : Database) (cashReceived : ℚ) (dto : CloseSessionDto) (session : POSSession) :
    POSSession :=
  let expectedBalance := session.openingBalance + cashReceived
  { session with
    status := .closed
    closingBalance := some (db.decimal dto.closingBalance)
    expectedBalance := some (db.decimal expectedBalance)
    variance := some (db.decimal (dto.closingBalance - expectedBalance)) }

structure CloseSessionResponse where
  session : POSSession
  totalSales : ℕ
  totalCashReceived : ℚ

def close (db : Database) (tenantId sessionId : Id) (dto : CloseSessionDto) (s : Store) :
    Except HttpError (CloseSessionResponse × Store) := do
  let session ← readClose tenantId sessionId s
  let cashReceived := cashReceived sessionId s
  return (⟨reconciled db cashReceived dto session, salesCount sessionId s, cashReceived⟩,
    { s with sessions := s.sessions.modify sessionId (reconciled db cashReceived dto) })

end SessionService

namespace TerminalService

def readRemove (tenantId id : Id) (s : Store) : Except HttpError Unit :=
  if ((s.terminals.find? id).filter fun t => t.tenantId = tenantId ∧ t.deletedAt = none).isNone then
    .error (.notFound "Terminal not found")
  else if s.sessions.rows.any fun r => r.2.terminalId = id ∧ r.2.status = .open then
    .error (.badRequest
      "Cannot delete terminal with an open session. Close the session first.")
  else .ok ()

def commitRemove (now id : ℕ) (s : Store) : Store :=
  { s with
    terminals := s.terminals.modify id fun t => { t with deletedAt := some now, isActive := false } }

end TerminalService

end Invetrixa
