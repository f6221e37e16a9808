import Invetrixa.Library.Runs

/-!
# The types of SQL conditions

A database analyses a query before it runs it, and refuses one whose expressions have no type,
whatever the tables hold. These are the types and the expressions of PostgreSQL that conditions on
columns are made of. A literal and a parameter have no type of their own and take the one they meet.

## Main definitions

- `SqlType`, `Expr` — types and expressions
- `SqlType.castable` — the types between which values can be cast
- `Expr.typeOf` — the type of an expression, or why it has none
- `conj` — conditions joined by `AND`

## Main results

- `boolean_of_typeOf_conj` — a conjunction has a type only if all its conditions are boolean
- `typeOf_cast_enum` — a condition is never cast to an enumeration
-/

namespace Sql

inductive SqlType
  | boolean | integer | numeric | text | timestamp
  | enum (name : String)
  /-- of literals and parameters -/
  | unknown
  deriving DecidableEq

inductive Expr
  | column (name : String) (type : SqlType)
  | parameter (position : ℕ)
  | compare (operator : String) (left right : Expr)
  | isIn (value : Expr) (literals : List String)
  | and (left right : Expr)
  | cast (value : Expr) (type : SqlType)

inductive SqlError
  | cannotCast (source target : SqlType)
  | noOperator (operator : String) (left right : SqlType)
  | notBoolean (type : SqlType)
  deriving DecidableEq

namespace SqlType

/-- Two types that an operator compares. -/
def comparable (a b : SqlType) : Bool :=
  a = b ∨ a = .unknown ∨ b = .unknown ∨ (a = .integer ∧ b = .numeric) ∨
    (a = .numeric ∧ b = .integer)

/-- What `::` casts. Texts are read and written as values of every type. -/
def castable : SqlType → SqlType → Bool
  | .unknown, _ | .text, _ | _, .text => true
  | .boolean, .integer | .integer, .boolean | .integer, .numeric | .numeric, .integer => true
  | a, b => a = b

end SqlType

namespace Expr

def typeOf : Expr → Except SqlError SqlType
  | .column _ type => .ok type
  | .parameter _ => .ok .unknown
  | .compare operator left right => do
    let a ← left.typeOf
    let b ← right.typeOf
    if a.comparable b then .ok .boolean else .error (.noOperator operator a b)
  | .isIn value _ => do
    let _ ← value.typeOf
    return .boolean
  | .and left right => do
    let a ← left.typeOf
    let b ← right.typeOf
    if a ≠ .boolean then .error (.notBoolean a)
    else if b ≠ .boolean then .error (.notBoolean b)
    else .ok .boolean
  | .cast value type => do
    let a ← value.typeOf
    if a.castable type then .ok type else .error (.cannotCast a type)

variable {a b e : Expr} {type : SqlType}

theorem typeOf_and_eq_ok_iff :
    (a.and b).typeOf = .ok type ↔
      type = .boolean ∧ a.typeOf = .ok .boolean ∧ b.typeOf = .ok .boolean := by
  rw [typeOf]
  constructor
  · intro h
    obtain ⟨s, hs, h⟩ := Except.bind_eq_ok_iff.mp h
    obtain ⟨t, ht, h⟩ := Except.bind_eq_ok_iff.mp h
    by_cases hsb : s = .boolean
    · by_cases htb : t = .boolean
      · rw [hsb, htb] at h
        exact ⟨(Except.ok.inj h).symm, hsb ▸ hs, htb ▸ ht⟩
      · rw [if_neg (not_not.mpr hsb), if_pos htb] at h
        cases h
    · rw [if_pos hsb] at h
      cases h
  · rintro ⟨rfl, ha, hb⟩
    rw [ha, hb]
    rfl

/-- A condition is never cast to an enumeration. -/
theorem typeOf_cast_enum (he : e.typeOf = .ok .boolean) (name : String) :
    (e.cast (.enum name)).typeOf = .error (.cannotCast .boolean (.enum name)) := by
  rw [typeOf, he]
  rfl

end Expr

/-- Conditions joined by `AND`, of which there is at least one. -/
def conj (e : Expr) (es : List Expr) : Expr := es.foldl .and e

/-- A conjunction has a type only if each of its conditions is boolean. -/
theorem boolean_of_typeOf_conj {e : Expr} {es : List Expr} {type : SqlType} (hne : es ≠ [])
    (h : (conj e es).typeOf = .ok type) :
    e.typeOf = .ok .boolean ∧ ∀ e' ∈ es, e'.typeOf = .ok .boolean := by
  induction es generalizing e with
  | nil => exact absurd rfl hne
  | cons e₁ rest ih =>
    rw [conj, List.foldl_cons] at h
    cases rest with
    | nil =>
      obtain ⟨_, he, he₁⟩ := Expr.typeOf_and_eq_ok_iff.mp h
      exact ⟨he, List.forall_mem_singleton.mpr he₁⟩
    | cons e₂ rest =>
      obtain ⟨hand, hrest⟩ := ih (List.cons_ne_nil _ _) h
      obtain ⟨_, he, he₁⟩ := Expr.typeOf_and_eq_ok_iff.mp hand
      exact ⟨he, List.forall_mem_cons.mpr ⟨he₁, hrest⟩⟩

end Sql
