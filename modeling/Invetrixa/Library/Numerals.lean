import Mathlib.Data.List.Basic
import Mathlib.Data.Nat.Basic
import Mathlib.Tactic.Ring

/-!
# Decimal numerals of fixed width

Numerals are padded with zeros up to a width. Up to the largest number of that width their order as
strings is that of the numbers. The next numeral is wider, and sorts below the one of all nines.

## Main definitions

- `padded` — the numeral of a number, padded with zeros

## Main results

- `lt_iff_ofDigitChars_lt` — digits of one length are ordered as their values
- `toString_join_inj` — two numbers can be read off their digits with a separator between
- `padded_lt_padded`, `padded_pow_lt` — the order within the width, and across its end
-/

namespace Numerals

open Nat (toDigits ofDigitChars)

variable {w m n : ℕ} {l l' : List Char}

/-- The decimal digits of a number, with zeros in front up to a width. -/
def padded (w n : ℕ) : List Char :=
  List.replicate (w - (toDigits 10 n).length) '0' ++ toDigits 10 n

theorem isDigit_of_mem_padded {c : Char} (h : c ∈ padded w n) : c.isDigit = true := by
  rcases List.mem_append.mp h with hzero | hdigit
  · rw [List.eq_of_mem_replicate hzero]
    rfl
  · exact Nat.isDigit_of_mem_toDigits (by decide) (by decide) hdigit

@[simp] theorem ofDigitChars_padded : ofDigitChars 10 (padded w n) 0 = n := by
  rw [padded, Nat.ofDigitChars_append, Nat.ofDigitChars_replicate_zero, Nat.mul_zero,
    Nat.ofDigitChars_ten_toDigits]

theorem padded_injective : Function.Injective (padded w) := by
  intro m n h
  have hvalue := congrArg (fun l => ofDigitChars 10 l 0) h
  simpa using hvalue

theorem padded_ne_nil : padded w n ≠ [] :=
  List.append_ne_nil_of_right_ne_nil _ Nat.toDigits_ne_nil

theorem length_padded (hw : 0 < w) (h : n < 10 ^ w) : (padded w n).length = w := by
  have hle : (toDigits 10 n).length ≤ w := (Nat.length_toDigits_le_iff (by decide) hw).mpr h
  rw [padded, List.length_append, List.length_replicate]
  omega

section Joined

theorem toList_toString (n : ℕ) : (toString n).toList = toDigits 10 n := by
  simp [toString, Nat.repr]

theorem toString_inj (h : toString m = toString n) : m = n := by
  have hdigits : toDigits 10 m = toDigits 10 n := by
    rw [← toList_toString, ← toList_toString, h]
  have hvalue := congrArg (fun ds => ofDigitChars 10 ds 0) hdigits
  simpa [Nat.ofDigitChars_toDigits] using hvalue

/-- The first number reaches up to the separator. -/
theorem takeWhile_toString {c : Char} (hc : c.isDigit = false) (n : ℕ) (rest : List Char) :
    ((toString n).toList ++ c :: rest).takeWhile (· ≠ c) = (toString n).toList := by
  rw [List.takeWhile_append_of_pos]
  · simp
  · intro d hd
    rw [toList_toString] at hd
    have hdigit := Nat.isDigit_of_mem_toDigits (by decide) (by decide) hd
    rw [decide_eq_true_eq]
    rintro rfl
    rw [hc] at hdigit
    cases hdigit

/-- Two numbers are determined by their digits with a separator between, which is no digit. -/
theorem toString_join_inj {c : Char} (hc : c.isDigit = false) {separator : String}
    (hseparator : separator.toList = [c]) {p l p' l' : ℕ}
    (h : toString p ++ separator ++ toString l = toString p' ++ separator ++ toString l') :
    p = p' ∧ l = l' := by
  have hchars := congrArg String.toList h
  simp only [String.toList_append] at hchars
  rw [List.append_assoc, List.append_assoc] at hchars
  have hp : toString p = toString p' := by
    have htake := congrArg (List.takeWhile (· ≠ c)) hchars
    rw [hseparator, List.singleton_append, List.singleton_append, takeWhile_toString hc,
      takeWhile_toString hc] at htake
    exact String.toList_inj.mp htake
  obtain rfl := toString_inj hp
  refine ⟨rfl, toString_inj (String.toList_inj.mp ?_)⟩
  exact List.append_cancel_left (List.append_cancel_left hchars)

end Joined

section Order

/-- The value of a digit. -/
theorem toNat_of_isDigit {c : Char} (h : c.isDigit = true) : ∃ d < 10, c.toNat = 48 + d := by
  obtain ⟨hlow, hhigh⟩ := Char.isDigit_iff_toNat.mp h
  have hlow' : 48 ≤ c.toNat := hlow
  have hhigh' : c.toNat ≤ 57 := hhigh
  exact ⟨c.toNat - 48, by omega, by omega⟩

theorem ofDigitChars_cons_eq {c : Char} {d : ℕ} (hc : c.toNat = 48 + d) :
    ofDigitChars 10 (c :: l) 0 = 10 ^ l.length * d + ofDigitChars 10 l 0 := by
  have hvalue : 10 * 0 + (c.toNat - '0'.toNat) = d := by
    rw [hc, Nat.mul_zero, Nat.zero_add]
    exact Nat.add_sub_cancel_left 48 d
  rw [Nat.ofDigitChars_cons, hvalue, Nat.ofDigitChars_eq_ofDigitChars_zero]

theorem ofDigitChars_lt_pow (h : ∀ c ∈ l, c.isDigit = true) :
    ofDigitChars 10 l 0 < 10 ^ l.length := by
  induction l with
  | nil => decide
  | cons c l ih =>
    obtain ⟨d, hd, hc⟩ := toNat_of_isDigit (h c List.mem_cons_self)
    have hl := ih fun d hd => h d (List.mem_cons_of_mem _ hd)
    rw [ofDigitChars_cons_eq hc, List.length_cons]
    calc 10 ^ l.length * d + ofDigitChars 10 l 0
        < 10 ^ l.length * d + 10 ^ l.length := Nat.add_lt_add_left hl _
      _ = 10 ^ l.length * (d + 1) := by ring
      _ ≤ 10 ^ l.length * 10 := Nat.mul_le_mul_left _ hd
      _ = 10 ^ (l.length + 1) := (pow_succ _ _).symm

/-- The leading digit decides, and then the rest. -/
theorem lead_lt_iff {base c d x y : ℕ} (hx : x < base) (hy : y < base) :
    c < d ∨ c = d ∧ x < y ↔ base * c + x < base * d + y := by
  rcases lt_trichotomy c d with hlt | rfl | hlt
  · have hmul : base * (c + 1) ≤ base * d := Nat.mul_le_mul_left _ hlt
    rw [Nat.mul_succ] at hmul
    exact iff_of_true (.inl hlt) (by omega)
  · simp
  · have hmul : base * (d + 1) ≤ base * c := Nat.mul_le_mul_left _ hlt
    rw [Nat.mul_succ] at hmul
    exact iff_of_false (by omega) (by omega)

/-- Digits of one length are ordered as their values. -/
theorem lt_iff_ofDigitChars_lt (hlength : l.length = l'.length) (h : ∀ c ∈ l, c.isDigit = true)
    (h' : ∀ c ∈ l', c.isDigit = true) : l < l' ↔ ofDigitChars 10 l 0 < ofDigitChars 10 l' 0 := by
  induction l generalizing l' with
  | nil =>
    obtain rfl := List.eq_nil_of_length_eq_zero hlength.symm
    simp
  | cons c l ih =>
    cases l' with
    | nil => cases hlength
    | cons d l' =>
      have hlength' : l.length = l'.length := Nat.succ.inj hlength
      have hl := fun x hx => h x (List.mem_cons_of_mem c hx)
      have hl' := fun x hx => h' x (List.mem_cons_of_mem d hx)
      have hlt := ofDigitChars_lt_pow hl
      have hlt' := ofDigitChars_lt_pow hl'
      rw [← hlength'] at hlt'
      obtain ⟨a, _, ha⟩ := toNat_of_isDigit (h c List.mem_cons_self)
      obtain ⟨b, _, hb⟩ := toNat_of_isDigit (h' d List.mem_cons_self)
      have hcd : c < d ↔ a < b := by
        show c.toNat < d.toNat ↔ a < b
        omega
      have hcd' : c = d ↔ a = b := by
        rw [← Char.toNat_inj]
        omega
      rw [List.cons_lt_cons_iff, ih hlength' hl hl', hcd, hcd', ofDigitChars_cons_eq ha,
        ofDigitChars_cons_eq hb, ← hlength']
      exact lead_lt_iff hlt hlt'

/-- Up to the width, numerals are ordered as their numbers. -/
theorem padded_lt_padded (hw : 0 < w) (hm : m < 10 ^ w) (hn : n < 10 ^ w) :
    padded w m < padded w n ↔ m < n := by
  rw [lt_iff_ofDigitChars_lt ((length_padded hw hm).trans (length_padded hw hn).symm)
    (fun _ => isDigit_of_mem_padded) (fun _ => isDigit_of_mem_padded), ofDigitChars_padded,
    ofDigitChars_padded]

theorem toDigits_pow (w : ℕ) : toDigits 10 (10 ^ w) = '1' :: List.replicate w '0' := by
  induction w with
  | zero => rfl
  | succ w ih =>
    have hdiv : 10 ^ (w + 1) / 10 = 10 ^ w := by
      rw [pow_succ, Nat.mul_div_cancel _ (by decide)]
    have hmod : 10 ^ (w + 1) % 10 = 0 := by rw [pow_succ, Nat.mul_mod_left]
    have hle : 10 ≤ 10 ^ (w + 1) := Nat.le_self_pow (Nat.succ_ne_zero w) 10
    rw [Nat.toDigits_of_base_le (by decide) hle, hdiv, hmod, ih, List.replicate_succ']
    rfl

theorem toDigits_pred_pow (w : ℕ) : toDigits 10 (10 ^ (w + 1) - 1) = List.replicate (w + 1) '9' := by
  induction w with
  | zero => rfl
  | succ w ih =>
    have hpos : 0 < 10 ^ (w + 1) := Nat.pow_pos (by decide)
    have hle : 10 ≤ 10 ^ (w + 1) := Nat.le_self_pow (Nat.succ_ne_zero w) 10
    have hpow : 10 ^ (w + 1 + 1) = 10 ^ (w + 1) * 10 := pow_succ _ _
    have hdiv : (10 ^ (w + 1 + 1) - 1) / 10 = 10 ^ (w + 1) - 1 := by omega
    have hmod : (10 ^ (w + 1 + 1) - 1) % 10 = 9 := by omega
    rw [Nat.toDigits_of_base_le (by decide) (by omega), hdiv, hmod, ih,
      List.replicate_succ' (n := w + 1)]
    rfl

/-- The first numeral that is wider sorts below the last one of the width. -/
theorem padded_pow_lt (hw : 0 < w) : padded w (10 ^ w) < padded w (10 ^ w - 1) := by
  obtain ⟨k, rfl⟩ := Nat.exists_eq_succ_of_ne_zero hw.ne'
  rw [padded, padded, toDigits_pow, toDigits_pred_pow, List.length_cons, List.length_replicate,
    List.length_replicate, Nat.sub_self]
  have hsub : k.succ - (k.succ + 1) = 0 := Nat.sub_eq_zero_of_le (Nat.le_succ _)
  rw [hsub]
  exact List.cons_lt_cons_iff.mpr (.inl (by decide))

end Order

end Numerals
