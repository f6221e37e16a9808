import Invetrixa.Schema

/-!
# Document numbers

The generators of sale, refund, transfer and session numbers: the largest number so far with the year's
prefix, as a string, is parsed and incremented.

## Main definitions

- `nextNumber` — the common generator
- `generateSaleNumber`, `generateRefundNumber`, `generateTransferNumber`,
  `generateSessionNumber` — its instances
-/

namespace Invetrixa

/-- `String.prototype.padStart` with zeros. -/
def padStart (text : String) (width : ℕ) : String :=
  String.ofList (List.replicate (width - text.length) '0') ++ text

/-- `parseInt(text, 10)` on what follows a prefix: the leading digits; `none` is `NaN`. -/
def parseDecimal (text : List Char) : Option ℕ :=
  match text.takeWhile Char.isDigit with
  | [] => none
  | digits => some (digits.foldl (fun n c => 10 * n + (c.toNat - '0'.toNat)) 0)

/-- The lexicographically largest string (`orderBy: desc`, first row). -/
def latest : List String → Option String
  | [] => none
  | a :: rest =>
    match latest rest with
    | none => some a
    | some b => some (if b < a then a else b)

/-- The number after the largest one that starts with `head`. -/
def nextNumber (head : String) (width : ℕ) (numbers : List String) : String :=
  match latest (numbers.filter fun n => head.toList.isPrefixOf n.toList) with
  | none => head ++ padStart (toString 1) width
  | some last =>
    match parseDecimal (last.toList.drop head.length) with
    | some n => head ++ padStart (toString (n + 1)) width
    | none => head ++ padStart "NaN" width

/-- `INV-YYYY-NNNNN` -/
def generateSaleNumber (clock : Clock) (tenantId : Id) (s : Store) : String :=
  nextNumber ("INV-" ++ toString clock.fullYear ++ "-") 5
    ((s.sales.rows.filter fun r => r.2.tenantId = tenantId).map fun r => r.2.saleNumber)

/-- `REF-YYYY-NNNNN` -/
def generateRefundNumber (clock : Clock) (tenantId : Id) (s : Store) : String :=
  nextNumber ("REF-" ++ toString clock.fullYear ++ "-") 5
    ((s.saleRefunds.rows.filter fun r => r.2.tenantId = tenantId).map fun r => r.2.refundNumber)

/-- `TRF-YYYY-NNNN` -/
def generateTransferNumber (clock : Clock) (tenantId : Id) (s : Store) : String :=
  nextNumber ("TRF-" ++ toString clock.fullYear ++ "-") 4
    ((s.transfers.rows.filter fun r => r.2.tenantId = tenantId).map fun r => r.2.transferNumber)

/-- `SES-YYYY-NNNNN` -/
def generateSessionNumber (clock : Clock) (tenantId : Id) (s : Store) : String :=
  nextNumber ("SES-" ++ toString clock.fullYear ++ "-") 5
    ((s.sessions.rows.filter fun r => r.2.tenantId = tenantId).map fun r => r.2.sessionNumber)

end Invetrixa
