import Mathlib.Data.List.Basic
import Mathlib.Data.Nat.Basic
import Mathlib.Tactic.Ring

/-!
# Texts of UUIDs

A UUID is a number of 128 bits. It is written as 32 hexadecimal digits in five groups with hyphens
between. A larger number has a longer first group here, so that every number has a text of its own.

## Main definitions

- `text` — the text of a number
- `value` — the number that hexadecimal digits spell

## Main results

- `value_text`, `text_injective`
- `text_join_inj` — two UUIDs can be read off their texts with a hyphen between
-/

namespace Uuids

open Nat (toDigits)

variable {n : ℕ}

/-- The hexadecimal digits of a number, at least 32 of them. -/
def digits (n : ℕ) : List Char :=
  List.replicate (32 - (toDigits 16 n).length) '0' ++ toDigits 16 n

/-- A hyphen after each group of the given sizes. -/
def hyphenate : List ℕ → List Char → List Char
  | [], l => l
  | size :: sizes, l => l.take size ++ '-' :: hyphenate sizes (l.drop size)

/-- The text of a UUID: groups of 8, 4, 4, 4 and 12 digits. -/
def text (n : ℕ) : String :=
  String.ofList (hyphenate [(digits n).length - 24, 4, 4, 4] (digits n))

section Hyphens

theorem digitChar_ne_hyphen : (n : ℕ) → n.digitChar ≠ '-'
  | 0 | 1 | 2 | 3 | 4 | 5 | 6 | 7 | 8 | 9 | 10 | 11 | 12 | 13 | 14 | 15 => by decide
  | _ + 16 => by simp [Nat.digitChar]

theorem hyphen_not_mem_toDigits (n : ℕ) : '-' ∉ toDigits 16 n := by
  induction n using Nat.strongRecOn with
  | ind n ih =>
    rcases Nat.lt_or_ge n 16 with hlt | hge
    · rw [Nat.toDigits_of_lt_base hlt, List.mem_singleton]
      exact (digitChar_ne_hyphen n).symm
    · rw [Nat.toDigits_of_base_le (by decide) hge, List.mem_append, List.mem_singleton]
      rintro (hmem | hlast)
      · exact ih (n / 16) (by omega) hmem
      · exact digitChar_ne_hyphen _ hlast.symm

theorem hyphen_not_mem_digits (n : ℕ) : '-' ∉ digits n := by
  intro h
  rcases List.mem_append.mp h with hzero | hdigit
  · exact absurd (List.eq_of_mem_replicate hzero) (by decide)
  · exact hyphen_not_mem_toDigits n hdigit

/-- Each group is followed by one hyphen, and nothing else is added. -/
theorem count_hyphenate (sizes : List ℕ) (l : List Char) :
    (hyphenate sizes l).count '-' = sizes.length + l.count '-' := by
  induction sizes generalizing l with
  | nil => rw [hyphenate, List.length_nil, Nat.zero_add]
  | cons size sizes ih =>
    have hsplit : l.count '-' = (l.take size).count '-' + (l.drop size).count '-' := by
      rw [← List.count_append, List.take_append_drop]
    rw [hyphenate, List.count_append, List.count_cons_self, ih, hsplit, List.length_cons]
    omega

theorem toList_text (n : ℕ) :
    (text n).toList = hyphenate [(digits n).length - 24, 4, 4, 4] (digits n) :=
  String.toList_ofList

/-- A text has four hyphens. -/
theorem count_text (n : ℕ) : (text n).toList.count '-' = 4 := by
  rw [toList_text, count_hyphenate, List.count_eq_zero_of_not_mem (hyphen_not_mem_digits n)]
  rfl

/-- Where the parts in front have as many separators, the parts can be told apart. -/
theorem append_cons_inj {α : Type*} [DecidableEq α] {sep : α} {a a' b b' : List α}
    (hcount : a.count sep = a'.count sep) (h : a ++ sep :: b = a' ++ sep :: b') :
    a = a' ∧ b = b' := by
  induction a generalizing a' with
  | nil =>
    cases a' with
    | nil => exact ⟨rfl, (List.cons.inj h).2⟩
    | cons x a' =>
      obtain ⟨rfl, -⟩ := List.cons.inj h
      rw [List.count_nil, List.count_cons_self] at hcount
      omega
  | cons x a ih =>
    cases a' with
    | nil =>
      obtain ⟨rfl, -⟩ := List.cons.inj h
      rw [List.count_nil, List.count_cons_self] at hcount
      omega
    | cons x' a' =>
      obtain ⟨rfl, hrest⟩ := List.cons.inj h
      rw [List.count_cons, List.count_cons] at hcount
      obtain ⟨rfl, rfl⟩ := ih (by omega) hrest
      exact ⟨rfl, rfl⟩

end Hyphens

section Values

/-- The value of a hexadecimal digit. -/
def digitValue (c : Char) : ℕ := if c.isDigit then c.toNat - 48 else c.toNat - 87

/-- One more digit; a hyphen is skipped. -/
def appendDigit (v : ℕ) (c : Char) : ℕ := if c = '-' then v else 16 * v + digitValue c

/-- The number that hexadecimal digits spell, wherever hyphens stand between. -/
def value (l : List Char) : ℕ := l.foldl appendDigit 0

theorem digitValue_digitChar (h : n < 16) : digitValue n.digitChar = n := by
  have hall : ∀ k < 16, digitValue (Nat.digitChar k) = k := by decide
  exact hall n h

theorem foldl_hyphenate (sizes : List ℕ) (l : List Char) (v : ℕ) :
    (hyphenate sizes l).foldl appendDigit v = l.foldl appendDigit v := by
  induction sizes generalizing l v with
  | nil => rfl
  | cons size sizes ih =>
    have hskip : ∀ v, appendDigit v '-' = v := fun _ => if_pos rfl
    rw [hyphenate, List.foldl_append, List.foldl_cons, hskip, ih, ← List.foldl_append,
      List.take_append_drop]

theorem value_toDigits (n : ℕ) : value (toDigits 16 n) = n := by
  have hdigit : ∀ v d, d < 16 → appendDigit v d.digitChar = 16 * v + d := by
    intro v d hd
    rw [appendDigit, if_neg (digitChar_ne_hyphen d), digitValue_digitChar hd]
  induction n using Nat.strongRecOn with
  | ind n ih =>
    rcases Nat.lt_or_ge n 16 with hlt | hge
    · rw [Nat.toDigits_of_lt_base hlt, value, List.foldl_cons, List.foldl_nil, hdigit 0 n hlt]
      omega
    · have hquotient : (toDigits 16 (n / 16)).foldl appendDigit 0 = n / 16 :=
        ih (n / 16) (by omega)
      rw [Nat.toDigits_of_base_le (by decide) hge, value, List.foldl_append, hquotient,
        List.foldl_cons, List.foldl_nil, hdigit _ _ (Nat.mod_lt n (by decide))]
      exact Nat.div_add_mod n 16

/-- The text spells the number. -/
theorem value_text (n : ℕ) : value (text n).toList = n := by
  have hzeros : ∀ k, (List.replicate k '0').foldl appendDigit 0 = 0 := by
    intro k
    induction k with
    | zero => rfl
    | succ k ih => exact ih
  rw [toList_text, value, foldl_hyphenate, digits, List.foldl_append, hzeros]
  exact value_toDigits n

theorem text_injective : Function.Injective text := by
  intro m n h
  rw [← value_text m, h, value_text]

/-- Two UUIDs are determined by their texts with a hyphen between, though the texts have hyphens
themselves: each has four. -/
theorem text_join_inj {p q p' q' : ℕ} (h : text p ++ "-" ++ text q = text p' ++ "-" ++ text q') :
    p = p' ∧ q = q' := by
  have hchars := congrArg String.toList h
  simp only [String.toList_append, List.append_assoc] at hchars
  have hparts := append_cons_inj ((count_text p).trans (count_text p').symm) hchars
  exact ⟨text_injective (String.toList_inj.mp hparts.1),
    text_injective (String.toList_inj.mp hparts.2)⟩

end Values

end Uuids
