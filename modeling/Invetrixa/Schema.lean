import Invetrixa.Library.Floats
import Invetrixa.Library.Runs
import Invetrixa.Library.Table
import Mathlib.Algebra.Group.Subgroup.Finite
import Mathlib.Algebra.Order.Floor.Ring
import Mathlib.Data.Rat.Floor
import Mathlib.Data.List.Sort
import Mathlib.Tactic.NormNum
import Mathlib.Tactic.Ring

/-!
# The database schema

The rows of the stock and point-of-sale tables and the store that holds them. Quantities are
integers, amounts and unit costs exact rationals; what the database decides for itself, the
order of rows with equal sort keys and the precision of decimal columns, is a `Database`, and so is
the arithmetic of the numbers that the program sends to it.

## Main definitions

- `Store` — all tables together
- `Numbers` — number arithmetic, where the program does not use decimals
- `Database` — the choices of the database
- `Store.onHand`, `Store.reserved`, `Store.layerQty`, … — the quantities the tables record
-/

namespace Invetrixa

open Rowstore

/-- Row ids. A uuid is a number of 128 bits; the tables count instead, which keeps ids fresh. -/
abbrev Id := ℕ

inductive PricingMethod
  | fifo | lifo | movingAverage
  deriving DecidableEq

inductive ProductType
  | simple | variable | variant
  deriving DecidableEq

inductive LocationStatus
  | active | inactive | closed
  deriving DecidableEq

inductive StockMovementType
  | in | out
  deriving DecidableEq

inductive StockReferenceType
  | purchase | sale | transfer | return | adjustment
  deriving DecidableEq

inductive TransferStatus
  | draft | inTransit | completed | cancelled
  deriving DecidableEq

inductive ReservationStatus
  | active | released | fulfilled | expired
  deriving DecidableEq

inductive SaleStatus
  | draft | pending | completed | partiallyPaid | voided | refunded | partiallyRefunded
  deriving DecidableEq

inductive POSSessionStatus
  | open | closed | reconciling
  deriving DecidableEq

inductive PaymentMethod
  | cash | card | bkash | nagad | rocket | mobileWallet | bankTransfer | storeCredit
  deriving DecidableEq

/-- A `referenceId` column: the id of a row, or any other text. -/
inductive Reference
  | id (i : Id)
  | text (t : String)
  deriving DecidableEq

/-- The answer to a request that is refused. -/
inductive HttpError
  | notFound (message : String)
  | badRequest (message : String)
  | unauthorized (message : String)
  | forbidden (message : String)
  | conflict (message : String)
  | internal (message : String)
  deriving DecidableEq

/-- A violated unique constraint (P2002), as the exception filter reports it for the fields in
`meta.target`. Where the driver adapter leaves `meta.target` out, as the one for PostgreSQL does, the
text is the one for no fields. -/
def uniqueViolation (fields : List String) : HttpError :=
  .conflict ("A record with this " ++ ", ".intercalate fields ++ " already exists")

/-- A record to be written is not there (P2025), as the exception filter reports it. -/
def recordNotFound : HttpError := .notFound "Record not found"

/-- A violated foreign key (P2003), as the exception filter reports it. -/
def invalidReference : HttpError := .badRequest "Invalid reference to related record"

/-- A value that does not fit its column, as the exception filter reports it. -/
def queryValidationError : HttpError := .badRequest "Validation error in database query"

/-- A value out of the range of its column (P2020), for which the exception filter has no case. -/
def valueOutOfRange : HttpError := .internal "Database operation failed"

/-- What an `Int` column takes of a number. -/
def intColumn (x : ℚ) : Except HttpError ℤ :=
  if x.den = 1 then .ok x.num else .error queryValidationError

theorem intColumn_ok {x : ℚ} {n : ℤ} (h : intColumn x = .ok n) : x = n := by
  rw [intColumn] at h
  split at h
  · next hden =>
    obtain rfl := Except.ok.inj h
    exact ((Rat.den_eq_one_iff x).mp hden).symm
  · cases h

/-- The range of an `Int` column. -/
def FitsInt (n : ℤ) : Prop := -2 ^ 31 ≤ n ∧ n < 2 ^ 31

instance : DecidablePred FitsInt := fun _ => inferInstanceAs (Decidable (_ ∧ _))

/-- What an `Int` column takes of a number, and refuses for its size. -/
def int4Column (x : ℚ) : Except HttpError ℤ := do
  let n ← intColumn x
  if FitsInt n then .ok n else .error valueOutOfRange

theorem int4Column_eq_ok_iff {x : ℚ} {n : ℤ} : int4Column x = .ok n ↔ x = n ∧ FitsInt n := by
  constructor
  · intro h
    obtain ⟨m, hint, h⟩ := Except.bind_eq_ok_iff.mp h
    split at h
    · next hfits =>
      obtain rfl := Except.ok.inj h
      exact ⟨intColumn_ok hint, hfits⟩
    · cases h
  · rintro ⟨rfl, hfits⟩
    exact Except.bind_eq_ok_iff.mpr ⟨n, if_pos rfl, if_pos hfits⟩

/-- A text that the database has: without the letter NUL. -/
def Storable (text : Option String) : Prop := ∀ x ∈ text, Char.ofNat 0 ∉ x.toList

instance : DecidablePred Storable := fun text => inferInstanceAs (Decidable (∀ x ∈ text, _))

/-- A text with the letter NUL, for which neither Prisma nor the exception filter has a case. -/
def textRefused : HttpError := .internal "Internal server error"

/-- What a text column takes. -/
def textColumn (text : Option String) : Except HttpError (Option String) :=
  if Storable text then .ok text else .error textRefused

theorem textColumn_eq_ok_iff {text kept : Option String} :
    textColumn text = .ok kept ↔ kept = text ∧ Storable text := by
  rw [textColumn]
  split
  · next hstorable => simp [hstorable, eq_comm]
  · next hrefused => simp [hrefused]

/-- A text that its column takes (else P2000, as the exception filter reports it). -/
def column (size : ℕ) (text : String) : Except HttpError Unit :=
  if text.length ≤ size then .ok ⟨⟩ else .error (.badRequest "Input value is too long")

/-- The wall clock as a request reads it. -/
structure Clock where
  /-- milliseconds -/
  time : ℕ
  fullYear : ℕ

structure Tenant where
  defaultPricingMethod : PricingMethod

structure Product where
  name : String
  productType : ProductType
  pricingMethod : Option PricingMethod
  minSellingPrice : Option ℚ
  tenantId : Id
  deletedAt : Option ℕ

structure Location where
  name : String
  status : LocationStatus
  tenantId : Id

structure InventoryBalance where
  tenantId : Id
  onHandQuantity : ℤ
  reservedQuantity : ℤ

structure ValuationLayer where
  unitCost : ℚ
  originalQty : ℤ
  remainingQty : ℤ
  productId : Id
  locationId : Id
  tenantId : Id
  sourceMovementId : Option Id
  batchId : Option Id
  createdAt : ℕ

structure ValuationLayerConsumption where
  quantity : ℤ
  unitCost : ℚ
  valuationLayerId : Id
  stockMovementId : Id

structure StockMovement where
  movementType : StockMovementType
  quantity : ℤ
  unitCost : ℚ
  totalCost : ℚ
  referenceType : StockReferenceType
  referenceId : Option Reference
  transferId : Option Id
  productId : Id
  locationId : Id
  tenantId : Id

/-- An item of a transfer. The schema makes `(transferId, productId)` unique, so the product
identifies the item within its transfer. -/
structure StockTransferItem where
  productId : Id
  requestedQuantity : ℤ
  shippedQuantity : ℤ
  receivedQuantity : ℤ
  shippedUnitCost : Option ℚ
  shortageReason : Option String

/-- A transfer with its items. -/
structure StockTransfer where
  transferNumber : String
  status : TransferStatus
  fromLocationId : Id
  toLocationId : Id
  tenantId : Id
  shippedAt : Option ℕ
  receivedAt : Option ℕ
  cancelledAt : Option ℕ
  items : List StockTransferItem
  /-- the unique constraint on `(transferId, productId)` -/
  items_nodup : (items.map StockTransferItem.productId).Nodup
  /-- no transfer is created between a location and itself -/
  locations_ne : fromLocationId ≠ toLocationId

/-- Rewrite the item of a product, keeping its product (`stockTransferItem.update`). -/
def StockTransfer.updateItem (t : StockTransfer) (productId : Id)
    (f : StockTransferItem → StockTransferItem) : StockTransfer :=
  { t with
    items := t.items.map fun i => if i.productId = productId then { f i with productId } else i
    items_nodup := by
      have hkeys : (t.items.map fun i =>
          if i.productId = productId then { f i with productId } else i).map
            StockTransferItem.productId = t.items.map StockTransferItem.productId := by
        rw [List.map_map]
        refine List.map_congr_left fun i _ => ?_
        by_cases hi : i.productId = productId <;> simp [hi]
      rw [hkeys]
      exact t.items_nodup }

structure StockReservation where
  quantity : ℤ
  expiresAt : ℕ
  status : ReservationStatus
  referenceType : Option String
  referenceId : Option Reference
  productId : Id
  locationId : Id
  tenantId : Id

structure POSTerminal where
  isActive : Bool
  tenantId : Id
  deletedAt : Option ℕ

structure POSSession where
  sessionNumber : String
  openingBalance : ℚ
  closingBalance : Option ℚ
  expectedBalance : Option ℚ
  variance : Option ℚ
  status : POSSessionStatus
  terminalId : Id
  tenantId : Id

structure Customer where
  tenantId : Id

structure Sale where
  saleNumber : String
  subtotal : ℚ
  discountAmount : ℚ
  taxAmount : ℚ
  totalAmount : ℚ
  paidAmount : ℚ
  changeAmount : ℚ
  status : SaleStatus
  locationId : Id
  terminalId : Option Id
  customerId : Option Id
  sessionId : Option Id
  tenantId : Id
  createdAt : ℕ

structure SaleItem where
  saleId : Id
  productId : Id
  quantity : ℤ
  unitPrice : ℚ
  unitCost : ℚ
  discountAmount : ℚ
  lineTotal : ℚ

structure SalePayment where
  saleId : Id
  amount : ℚ
  method : PaymentMethod

structure SaleRefund where
  saleId : Id
  tenantId : Id
  refundNumber : String
  amount : ℚ
  method : PaymentMethod

/-- All tables. A balance is found by its unique pair of product and location. -/
structure Store where
  tenants : Serial Tenant
  products : Serial Product
  locations : Serial Location
  terminals : Serial POSTerminal
  sessions : Serial POSSession
  customers : Serial Customer
  balances : Table (Id × Id) InventoryBalance
  layers : Serial ValuationLayer
  consumptions : Serial ValuationLayerConsumption
  movements : Serial StockMovement
  transfers : Serial StockTransfer
  reservations : Serial StockReservation
  sales : Serial Sale
  saleItems : Serial SaleItem
  salePayments : Serial SalePayment
  saleRefunds : Serial SaleRefund

inductive SortOrder
  | asc | desc
  deriving DecidableEq

/-- Whether the first of two sort keys may come before the second. -/
def SortOrder.before : SortOrder → ℕ → ℕ → Prop
  | .asc, a, b => a ≤ b
  | .desc, a, b => b ≤ a

instance (o : SortOrder) (a b : ℕ) : Decidable (o.before a b) := by
  cases o <;> exact Nat.decLe _ _

/-- Number arithmetic: the number that a result is rounded to, and the decimal that the database
gets for a number. -/
structure Numbers where
  round : ℚ → ℚ
  numeral : ℚ → ℚ
  round_zero : round 0 = 0
  round_mono : Monotone round
  numeral_zero : numeral 0 = 0
  numeral_mono : Monotone numeral

/-- Numbers without rounding. -/
def Numbers.exact : Numbers where
  round := id
  numeral := id
  round_zero := rfl
  round_mono := monotone_id
  numeral_zero := rfl
  numeral_mono := monotone_id

/-- The decimals that are sent to the database for doubles: those of sixteen digits. -/
def decimal16 : Floats.Format where
  base := 10
  precision := 16
  minExponent := -400
  one_lt_base := by norm_num
  one_le_precision := by norm_num

/-- Doubles. -/
def Numbers.double : Numbers where
  round := Floats.binary64.round
  numeral := decimal16.round
  round_zero := Floats.Format.round_zero
  round_mono := Floats.Format.round_mono
  numeral_zero := Floats.Format.round_zero
  numeral_mono := Floats.Format.round_mono

/-- What the program leaves to the database: in which order it returns layers with equal
`createdAt`, what a decimal column keeps of a value, and how numbers are computed before. -/
structure Database where
  orderByCreatedAt : SortOrder → List (Id × ValuationLayer) → List (Id × ValuationLayer)
  orderByCreatedAt_perm : ∀ o rows, (orderByCreatedAt o rows).Perm rows
  orderByCreatedAt_sorted : ∀ o rows,
    (orderByCreatedAt o rows).Pairwise fun a b => o.before a.2.createdAt b.2.createdAt
  decimal : ℚ → ℚ
  decimal_idem : ∀ x, decimal (decimal x) = decimal x
  numbers : Numbers

namespace Database

/-- An amount that was a number in the program. -/
def amount (db : Database) (x : ℚ) : ℚ := db.numbers.numeral (db.numbers.round x)

/-- What a line comes to, computed with numbers. -/
def lineTotal (db : Database) (unitPrice discountAmount quantity : ℚ) : ℚ :=
  let round := db.numbers.round
  db.amount (round (round unitPrice * quantity) - round (round discountAmount * quantity))

/-- The range of a decimal column with so many digits, four of them after the point. -/
def Fits (db : Database) (digits : ℕ) (x : ℚ) : Prop := |db.decimal x| < 10 ^ (digits - 4)

instance (db : Database) (digits : ℕ) : DecidablePred (db.Fits digits) :=
  fun _ => inferInstanceAs (Decidable (_ < _))

/-- What a decimal column keeps of a value, which it refuses for its size. -/
def decimalColumn (db : Database) (digits : ℕ) (x : ℚ) : Except HttpError ℚ :=
  if db.Fits digits x then .ok (db.decimal x) else .error valueOutOfRange

theorem amount_mono (db : Database) : Monotone db.amount :=
  db.numbers.numeral_mono.comp db.numbers.round_mono

theorem amount_zero (db : Database) : db.amount 0 = 0 := by
  rw [amount, db.numbers.round_zero, db.numbers.numeral_zero]

/-- A line is not negative if its discount is at most its price. -/
theorem lineTotal_nonneg (db : Database) {unitPrice discountAmount quantity : ℚ}
    (hquantity : 0 ≤ quantity) (hdiscount : discountAmount ≤ unitPrice) :
    0 ≤ db.lineTotal unitPrice discountAmount quantity := by
  have hround := db.numbers.round_mono
  have hproducts : db.numbers.round (db.numbers.round discountAmount * quantity) ≤
      db.numbers.round (db.numbers.round unitPrice * quantity) :=
    hround (mul_le_mul_of_nonneg_right (hround hdiscount) hquantity)
  rw [← db.amount_zero]
  exact db.amount_mono (sub_nonneg.mpr hproducts)

@[simp]
theorem lineTotal_zero (db : Database) (unitPrice discountAmount : ℚ) :
    db.lineTotal unitPrice discountAmount 0 = 0 := by
  simp [lineTotal, db.numbers.round_zero, db.amount_zero]

theorem decimalColumn_eq_ok_iff {db : Database} {digits : ℕ} {x y : ℚ} :
    db.decimalColumn digits x = .ok y ↔ db.decimal x = y ∧ db.Fits digits x := by
  rw [decimalColumn]
  split
  · next hfits => exact ⟨fun h => ⟨Except.ok.inj h, hfits⟩, fun h => congrArg Except.ok h.1⟩
  · next hfits => exact ⟨fun h => (nomatch h), fun h => absurd h.2 hfits⟩

end Database

section Amounts

variable {db : Database}

/-- The amounts that a column keeps. -/
def Database.amounts (db : Database)
    (hsub : ∀ x y, db.decimal x = x → db.decimal y = y → db.decimal (x - y) = x - y) :
    AddSubgroup ℚ :=
  AddSubgroup.ofSub {x | db.decimal x = x} ⟨db.decimal 0, db.decimal_idem 0⟩
    fun x hx y hy => by
      rw [← sub_eq_add_neg]
      exact hsub x y hx hy

variable (hsub : ∀ x y, db.decimal x = x → db.decimal y = y → db.decimal (x - y) = x - y)

include hsub

theorem decimal_zero : db.decimal 0 = 0 := (db.amounts hsub).zero_mem

theorem decimal_add {x y : ℚ} (hx : db.decimal x = x) (hy : db.decimal y = y) :
    db.decimal (x + y) = x + y :=
  (db.amounts hsub).add_mem hx hy

theorem decimal_mul_int {x : ℚ} (hx : db.decimal x = x) (n : ℤ) : db.decimal (x * n) = x * n := by
  have hmul := (db.amounts hsub).zsmul_mem hx n
  rw [zsmul_eq_mul, mul_comm] at hmul
  exact hmul

theorem decimal_sum {l : List ℚ} (hl : ∀ x ∈ l, db.decimal x = x) : db.decimal l.sum = l.sum :=
  (db.amounts hsub).list_sum_mem hl

end Amounts

/-- Rows in the order of `createdAt`, rows with equal keys as they are stored. -/
def insertionOrder (o : SortOrder) (rows : List (Id × ValuationLayer)) :
    List (Id × ValuationLayer) :=
  rows.insertionSort fun a b => o.before a.2.createdAt b.2.createdAt

theorem insertionOrder_perm (o : SortOrder) (rows : List (Id × ValuationLayer)) :
    (insertionOrder o rows).Perm rows :=
  List.perm_insertionSort _ rows

theorem insertionOrder_sorted (o : SortOrder) (rows : List (Id × ValuationLayer)) :
    (insertionOrder o rows).Pairwise fun a b => o.before a.2.createdAt b.2.createdAt := by
  cases o with
  | asc =>
    have : Std.Total fun a b : Id × ValuationLayer =>
        SortOrder.asc.before a.2.createdAt b.2.createdAt := ⟨fun a b => Nat.le_total _ _⟩
    have : IsTrans _ fun a b : Id × ValuationLayer =>
        SortOrder.asc.before a.2.createdAt b.2.createdAt := ⟨fun a b c => Nat.le_trans⟩
    exact List.pairwise_insertionSort _ rows
  | desc =>
    have : Std.Total fun a b : Id × ValuationLayer =>
        SortOrder.desc.before a.2.createdAt b.2.createdAt := ⟨fun a b => Nat.le_total _ _⟩
    have : IsTrans _ fun a b : Id × ValuationLayer =>
        SortOrder.desc.before a.2.createdAt b.2.createdAt :=
      ⟨fun a b c hab hbc => Nat.le_trans hbc hab⟩
    exact List.pairwise_insertionSort _ rows

/-- A database with exact decimal columns and numbers. -/
def Database.exact : Database where
  orderByCreatedAt := insertionOrder
  orderByCreatedAt_perm := insertionOrder_perm
  orderByCreatedAt_sorted := insertionOrder_sorted
  decimal := id
  decimal_idem _ := rfl
  numbers := .exact

/-- The nearest multiple of a ten-thousandth, halves away from zero. -/
def roundToScale4 (x : ℚ) : ℚ :=
  if 0 ≤ x then (x * 10000 + 1 / 2).floor / 10000 else -((-x * 10000 + 1 / 2).floor / 10000)

theorem floor_add_half (n : ℤ) : ((n : ℚ) + 1 / 2).floor = n := by
  have hfloor : ⌊(n : ℚ) + 1 / 2⌋ = n := by
    rw [Int.floor_eq_iff]
    constructor <;> norm_num
  exact hfloor

/-- A multiple of a ten-thousandth is kept. -/
theorem roundToScale4_of_int (n : ℤ) : roundToScale4 (n / 10000) = n / 10000 := by
  have hmul : (n / 10000 : ℚ) * 10000 = n := by norm_num
  have hneg : -(n / 10000 : ℚ) * 10000 = ((-n : ℤ) : ℚ) := by
    rw [neg_mul, hmul]
    push_cast
    rfl
  rw [roundToScale4]
  split
  · rw [hmul, floor_add_half]
  · rw [hneg, floor_add_half]
    push_cast
    ring

theorem exists_roundToScale4_eq (x : ℚ) : ∃ n : ℤ, roundToScale4 x = n / 10000 := by
  rw [roundToScale4]
  split
  · exact ⟨_, rfl⟩
  · exact ⟨-(-x * 10000 + 1 / 2).floor, by push_cast; ring⟩

theorem roundToScale4_idem (x : ℚ) : roundToScale4 (roundToScale4 x) = roundToScale4 x := by
  obtain ⟨n, hn⟩ := exists_roundToScale4_eq x
  rw [hn, roundToScale4_of_int]

/-- Rounding keeps the order. -/
theorem roundToScale4_mono : Monotone roundToScale4 := by
  have hfloor {x y : ℚ} (hxy : x ≤ y) :
      ((x * 10000 + 1 / 2).floor : ℚ) / 10000 ≤ (y * 10000 + 1 / 2).floor / 10000 := by
    have hle : ⌊x * 10000 + 1 / 2⌋ ≤ ⌊y * 10000 + 1 / 2⌋ := Int.floor_mono (by gcongr)
    have hcast : ((x * 10000 + 1 / 2).floor : ℚ) ≤ (y * 10000 + 1 / 2).floor := Int.cast_le.mpr hle
    gcongr
  have hnonneg {x : ℚ} (hx : 0 ≤ x) : (0 : ℚ) ≤ (x * 10000 + 1 / 2).floor / 10000 := by
    have hle : 0 ≤ ⌊x * 10000 + 1 / 2⌋ := Int.floor_nonneg.mpr (by positivity)
    have hcast : (0 : ℚ) ≤ (x * 10000 + 1 / 2).floor := Int.cast_nonneg hle
    positivity
  intro x y hxy
  rw [roundToScale4, roundToScale4]
  by_cases hx : 0 ≤ x
  · rw [if_pos hx, if_pos (hx.trans hxy)]
    exact hfloor hxy
  · rw [if_neg hx]
    have hx' : (0 : ℚ) ≤ (-x * 10000 + 1 / 2).floor / 10000 :=
      hnonneg (neg_nonneg.mpr (not_le.mp hx).le)
    by_cases hy : 0 ≤ y
    · rw [if_pos hy]
      exact (neg_nonpos.mpr hx').trans (hnonneg hy)
    · rw [if_neg hy]
      exact neg_le_neg (hfloor (neg_le_neg hxy))

/-- A column keeps the multiples of what it holds. -/
theorem roundToScale4_mul_int (x : ℚ) (m : ℤ) :
    roundToScale4 (roundToScale4 x * m) = roundToScale4 x * m := by
  obtain ⟨n, hn⟩ := exists_roundToScale4_eq x
  have hmul : roundToScale4 x * m = ((n * m : ℤ) : ℚ) / 10000 := by
    rw [hn]
    push_cast
    ring
  rw [hmul, roundToScale4_of_int]

/-- A column keeps the difference of what it holds. -/
theorem roundToScale4_sub (x y : ℚ) (hx : roundToScale4 x = x) (hy : roundToScale4 y = y) :
    roundToScale4 (x - y) = x - y := by
  obtain ⟨n, hn⟩ := exists_roundToScale4_eq x
  obtain ⟨m, hm⟩ := exists_roundToScale4_eq y
  have hdiff : x - y = ((n - m : ℤ) : ℚ) / 10000 := by
    rw [← hx, ← hy, hn, hm]
    push_cast
    ring
  rw [hdiff, roundToScale4_of_int]

/-- Decimal columns of scale four, as the schema declares them, and doubles. -/
def Database.scale4 : Database where
  orderByCreatedAt := insertionOrder
  orderByCreatedAt_perm := insertionOrder_perm
  orderByCreatedAt_sorted := insertionOrder_sorted
  decimal := roundToScale4
  decimal_idem := roundToScale4_idem
  numbers := .double

theorem Database.scale4_mono : Monotone Database.scale4.decimal := roundToScale4_mono

theorem Database.scale4_mul_int (x : ℚ) (m : ℤ) :
    Database.scale4.decimal (Database.scale4.decimal x * m) = Database.scale4.decimal x * m :=
  roundToScale4_mul_int x m

theorem Database.scale4_sub (x y : ℚ) (hx : Database.scale4.decimal x = x)
    (hy : Database.scale4.decimal y = y) : Database.scale4.decimal (x - y) = x - y :=
  roundToScale4_sub x y hx hy

namespace Store

variable (s : Store)

/-- The on-hand quantity of a product at a location, 0 without a balance row. -/
def onHand (productId locationId : Id) : ℤ :=
  ((s.balances.find? (productId, locationId)).map InventoryBalance.onHandQuantity).getD 0

/-- The reserved quantity of a product at a location, 0 without a balance row. -/
def reserved (productId locationId : Id) : ℤ :=
  ((s.balances.find? (productId, locationId)).map InventoryBalance.reservedQuantity).getD 0

/-- What remains in the valuation layers of a product at a location. -/
def layerQty (productId locationId : Id) : ℤ :=
  s.layers.sum fun _ l =>
    if l.productId = productId ∧ l.locationId = locationId then l.remainingQty else 0

/-- What the valuation layers of a product at a location are worth. -/
def layerValue (productId locationId : Id) : ℚ :=
  s.layers.sum fun _ l =>
    if l.productId = productId ∧ l.locationId = locationId then l.unitCost * l.remainingQty else 0

/-- The quantities of the active reservations of a product at a location. -/
def activeQty (productId locationId : Id) : ℤ :=
  s.reservations.sum fun _ r =>
    if r.productId = productId ∧ r.locationId = locationId ∧ r.status = .active then r.quantity
    else 0

/-- The tenant a product belongs to. -/
def tenantOf (productId : Id) : Option Id := (s.products.find? productId).map Product.tenantId

end Store

end Invetrixa
