import Mathlib.Algebra.Order.Ring.Rat
import Invetrixa.Library.Trees

/-!
# Responses

What a handler returns is put into an envelope by `TransformInterceptor` and then stripped of
secrets by `SanitizeResponseInterceptor`. The framework sends what `JSON.stringify` makes of it.

## Main definitions

- `JsValue` — a value of a handler
- `stringify` — the JSON of a value
- `TransformInterceptor.intercept`, `SanitizeResponseInterceptor.sanitize`
- `respond` — the body that is delivered
-/

namespace Invetrixa

open Trees

/-- A decimal of the database client: sign, exponent and digits. -/
structure PrismaDecimal where
  s : ℤ
  e : ℤ
  d : List ℕ

/-- A value without items and fields. A date is in milliseconds. -/
inductive JsLeaf
  | undefined
  | null
  | bool (b : Bool)
  | number (x : ℚ)
  | nan
  | infinity (negative : Bool)
  | string (text : String)
  | date (time : ℤ)
  | decimal (d : PrismaDecimal)

abbrev JsTree : Type := Tree String JsLeaf

/-- A value of a handler. -/
structure JsValue where
  tree : JsTree
  distinct : tree.Distinct

inductive JsonLeaf
  | null
  | bool (b : Bool)
  | number (x : ℚ)
  | string (text : String)

abbrev Json : Type := Tree String JsonLeaf

/-- The texts of dates and decimals. -/
structure Formats where
  isoString : ℤ → String
  decimalText : PrismaDecimal → String

/-- The JSON of a leaf. Dates and decimals have a `toJSON`. -/
def stringifyLeaf (formats : Formats) : JsLeaf → Option JsonLeaf
  | .undefined => none
  | .null | .nan | .infinity _ => some .null
  | .bool b => some (.bool b)
  | .number x => some (.number x)
  | .string text => some (.string text)
  | .date time => some (.string (formats.isoString time))
  | .decimal d => some (.string (formats.decimalText d))

/-- `JSON.stringify`. -/
def stringify (formats : Formats) (value : JsTree) : Option Json :=
  value.collect (stringifyLeaf formats) .null

/-- The entries of a decimal, as of any object. Its constructor is not sent. -/
def PrismaDecimal.entries (d : PrismaDecimal) : JsTree :=
  .object [("s", .leaf (.number d.s)), ("e", .leaf (.number d.e)),
    ("d", .array (d.d.map fun digit : ℕ => .leaf (.number digit)))]

/-- What JavaScript takes for true. -/
def isTruthy : JsTree → Bool
  | .leaf .undefined | .leaf .null | .leaf .nan => false
  | .leaf (.bool b) => b
  | .leaf (.number x) => x ≠ 0
  | .leaf (.string text) => text ≠ ""
  | _ => true

/-- The field of an object, or `undefined`. -/
def property (key : String) (fields : List (String × JsTree)) : JsTree :=
  (Tree.field? key fields).getD (.leaf .undefined)

/-- A key that cannot be assigned: it sets the prototype, which is not sent. -/
def IsPrototype (key : String) : Prop := key = "__proto__"

instance : DecidablePred IsPrototype := fun _ => inferInstanceAs (Decidable (_ = _))

namespace TransformInterceptor

def serializeLeaf (formats : Formats) : JsLeaf → JsTree
  | .date time => .leaf (.string (formats.isoString time))
  | .decimal d => d.entries
  | leaf => .leaf leaf

def serializeDates (formats : Formats) (obj : JsTree) : JsTree :=
  obj.rewrite IsPrototype (serializeLeaf formats)

/-- The fields of a `SuccessResponse`. -/
def envelope (statusCode : ℕ) (message : JsTree) (meta? : Option JsTree) (data : JsTree) :
    List (String × JsTree) :=
  [("statusCode", .leaf (.number statusCode)), ("success", .leaf (.bool true)),
    ("message", message)] ++ (meta?.map fun value => ("meta", value)).toList ++ [("data", data)]

/-- `key in data`. -/
def hasKey (key : String) (fields : List (String × JsTree)) : Bool :=
  (fields.map Prod.fst).contains key

/-- There is a message, and neither data nor meta. -/
def hasOnlyMessage (fields : List (String × JsTree)) : Bool :=
  hasKey "message" fields && !hasKey "data" fields && !hasKey "meta" fields

/-- `message`, or what stands for none. -/
def messageOr (fields : List (String × JsTree)) : JsTree :=
  if isTruthy (property "message" fields) then property "message" fields
  else .leaf (.string "Success")

def isUndefined : JsTree → Bool
  | .leaf .undefined => true
  | _ => false

def intercept (formats : Formats) (statusCode : ℕ) (data : JsTree) : List (String × JsTree) :=
  match data with
  | .object fields =>
    if hasKey "message" fields || hasKey "data" fields || hasKey "meta" fields then
      envelope statusCode (messageOr fields)
        (if isTruthy (property "meta" fields) then some (property "meta" fields) else none)
        (if hasOnlyMessage fields then .leaf .null
        else serializeDates formats
          (if isUndefined (property "data" fields) then data else property "data" fields))
    else envelope statusCode (.leaf (.string "Success")) none (serializeDates formats data)
  | _ => envelope statusCode (.leaf (.string "Success")) none (serializeDates formats data)

end TransformInterceptor

namespace SanitizeResponseInterceptor

def sensitiveFields : List String :=
  ["password", "passwordHash", "salt", "token", "refreshToken", "accessToken", "secret", "apiKey"]

/-- A date has no entries. -/
def sanitizeLeaf : JsLeaf → JsTree
  | .date _ => .object []
  | .decimal d => d.entries
  | leaf => .leaf leaf

def sanitize (data : JsTree) : JsTree :=
  data.rewrite (fun key => key ∈ sensitiveFields ∨ IsPrototype key) sanitizeLeaf

end SanitizeResponseInterceptor

/-- The body that is delivered: the last interceptor of the module transforms first. -/
def respond (formats : Formats) (statusCode : ℕ) (data : JsTree) : Option Json :=
  stringify formats (SanitizeResponseInterceptor.sanitize
    (.object (TransformInterceptor.intercept formats statusCode data)))

end Invetrixa
