import Invetrixa.Catalog.Catalog
import Invetrixa.Library.Joined
import Invetrixa.Library.Numerals
import Mathlib

/-!
# Slugs and SKUs that are generated

A text is cleaned into words of letters that are joined by hyphens. What has no letter is cleaned
away, and then the identifier is empty or only a number after a hyphen.

## Main definitions

- `WordsOf` — words of letters, joined by hyphens
- `NormalForm` — letters and hyphens, none of which is at an edge or next to another
- `IdentifierCall` — what an identifier is asked for
- `IdentifierCall.GivesUsable` — it is not empty, in its normal form, and no other row has it

## Main results

- `generateSlug_eq_self_iff`, `sanitizeSku_eq_self_iff` — the normal forms are the joined words
- `wordsOf_generateSlug_iff`, `wordsOf_sanitizeSku_iff`
- `identifiers_usable_iff`
- `normalisers_idempotent`
-/

namespace Invetrixa

open Words SkuService

section Hyphens

variable {p : Char → Bool} {b : Bool} {c : Char} {l : List Char}

theorem of_mem_replaceRuns (h : c ∈ replaceRuns p b l) : c = '-' ∨ c ∈ l ∧ p c = false := by
  induction l generalizing b with
  | nil => cases h
  | cons d rest ih =>
    have hrest : ∀ b', c ∈ replaceRuns p b' rest → c = '-' ∨ c ∈ d :: rest ∧ p c = false :=
      fun b' hc => (ih hc).imp_right fun h => ⟨.tail _ h.1, h.2⟩
    by_cases hd : p d
    · cases b with
      | true =>
        rw [replaceRuns, if_pos hd, if_pos rfl] at h
        exact hrest true h
      | false =>
        rw [replaceRuns, if_pos hd, if_neg Bool.false_ne_true] at h
        rcases List.mem_cons.mp h with rfl | h
        · exact .inl rfl
        · exact hrest true h
    · rw [replaceRuns, if_neg hd] at h
      rcases List.mem_cons.mp h with rfl | h
      · exact .inr ⟨.head _, Bool.eq_false_iff.mpr hd⟩
      · exact hrest false h

/-- What does not match stays. -/
theorem mem_replaceRuns (hc : p c = false) (h : c ∈ l) : c ∈ replaceRuns p b l := by
  induction l generalizing b with
  | nil => cases h
  | cons d rest ih =>
    rcases List.mem_cons.mp h with rfl | h
    · rw [replaceRuns, if_neg (Bool.eq_false_iff.mp hc)]
      exact .head _
    · rw [replaceRuns]
      split
      · split
        · exact ih h
        · exact .tail _ (ih h)
      · exact .tail _ (ih h)

theorem replaceRuns_of_forall (h : ∀ c ∈ l, p c = false) : replaceRuns p b l = l := by
  induction l generalizing b with
  | nil => rfl
  | cons c rest ih =>
    obtain ⟨hc, hrest⟩ := List.forall_mem_cons.mp h
    rw [replaceRuns, if_neg (Bool.eq_false_iff.mp hc), ih hrest]

/-- Runs of hyphens are gone, also behind a hyphen. -/
theorem tight_replaceRuns (l : List Char) :
    Tight '-' ('-' :: replaceRuns (· = '-') true l) ∧
      Tight '-' (replaceRuns (· = '-') false l) := by
  induction l with
  | nil => exact ⟨.singleton _, .nil⟩
  | cons c rest ih =>
    by_cases hc : c = '-'
    · simp only [replaceRuns, hc, decide_true, if_true]
      exact ⟨ih.1, ih.1⟩
    · simp only [replaceRuns, hc, decide_false, Bool.false_eq_true, if_false]
      have htight : Tight '-' (c :: replaceRuns (· = '-') false rest) :=
        (tight_cons_of_ne hc).mpr ih.2
      exact ⟨tight_cons_sep_iff.mpr ⟨fun heq => hc (Option.some.inj heq), htight⟩, htight⟩

/-- Where there are no runs, nothing is replaced. -/
theorem replaceRuns_of_tight (l : List Char) :
    (Tight '-' ('-' :: l) → replaceRuns (· = '-') true l = l) ∧
      (Tight '-' l → replaceRuns (· = '-') false l = l) := by
  induction l with
  | nil => exact ⟨fun _ => rfl, fun _ => rfl⟩
  | cons c rest ih =>
    by_cases hc : c = '-'
    · subst hc
      simp only [replaceRuns, decide_true, if_true]
      constructor
      · intro h
        exact absurd rfl (tight_cons_sep_iff.mp h).1
      · intro h
        rw [ih.1 h]
        rfl
    · simp only [replaceRuns, hc, decide_false, Bool.false_eq_true, if_false]
      constructor
      · intro h
        rw [ih.2 ((tight_cons_of_ne hc).mp (tight_cons_sep_iff.mp h).2)]
      · intro h
        rw [ih.2 ((tight_cons_of_ne hc).mp h)]

/-- A text loses a hyphen at its head, or none, and then a hyphen at its end, or none. -/
theorem dropEdges_cases (l : List Char) :
    ∃ m, (l = m ∧ l.head? ≠ some '-' ∨ l = '-' :: m) ∧
      (m = dropEdges l ∧ m.getLast? ≠ some '-' ∨ m = dropEdges l ++ ['-']) := by
  have hlast : ∀ m : List Char,
      m = (if m.getLast? = some '-' then m.dropLast else m) ∧ m.getLast? ≠ some '-' ∨
        m = (if m.getLast? = some '-' then m.dropLast else m) ++ ['-'] := by
    intro m
    by_cases h : m.getLast? = some '-'
    · rw [if_pos h]
      exact .inr (List.dropLast_append_getLast? '-' h).symm
    · rw [if_neg h]
      exact .inl ⟨rfl, h⟩
  rw [dropEdges]
  by_cases hhead : l.head? = some '-'
  · rw [if_pos hhead]
    exact ⟨l.tail, .inr (List.eq_cons_of_mem_head? hhead), hlast l.tail⟩
  · rw [if_neg hhead]
    exact ⟨l, .inl ⟨rfl, hhead⟩, hlast l⟩

theorem mem_of_mem_dropEdges (h : c ∈ dropEdges l) : c ∈ l := by
  obtain ⟨m, hhead, hlast⟩ := dropEdges_cases l
  have hm : c ∈ m := by
    rcases hlast with ⟨heq, _⟩ | heq
    · exact heq ▸ h
    · exact heq ▸ List.mem_append_left _ h
  rcases hhead with ⟨rfl, _⟩ | rfl
  · exact hm
  · exact .tail _ hm

/-- Only hyphens are dropped. -/
theorem mem_dropEdges (hc : c ≠ '-') (h : c ∈ l) : c ∈ dropEdges l := by
  obtain ⟨m, hhead, hlast⟩ := dropEdges_cases l
  have hm : c ∈ m := by
    rcases hhead with ⟨rfl, _⟩ | rfl
    · exact h
    · exact (List.mem_cons.mp h).resolve_left hc
  rcases hlast with ⟨heq, _⟩ | heq
  · exact heq ▸ hm
  · rw [heq] at hm
    exact (List.mem_append.mp hm).resolve_right fun hend => hc (List.mem_singleton.mp hend)

theorem dropEdges_of_joined (h : Joined '-' l) : dropEdges l = l := by
  obtain ⟨_, _, hhead, hlast⟩ := joined_iff.mp h
  rw [dropEdges, if_neg hhead]
  exact if_neg hlast

/-- Of what is tight, words are left, joined. -/
theorem dropEdges_of_tight (h : Tight '-' l) (hne : dropEdges l ≠ []) :
    Joined '-' (dropEdges l) := by
  obtain ⟨m, hhead, hlast⟩ := dropEdges_cases l
  have hm : Tight '-' m ∧ m.head? ≠ some '-' := by
    rcases hhead with ⟨rfl, hhead⟩ | rfl
    · exact ⟨h, hhead⟩
    · exact (tight_cons_sep_iff.mp h).symm
  rcases hlast with ⟨heq, hend⟩ | heq
  · rw [← heq] at hne ⊢
    exact joined_iff.mpr ⟨hne, hm.1, hm.2, hend⟩
  · -- between the hyphens that are dropped the text is tight
    rw [heq] at hm
    exact tight_cons_sep_iff.mpr ⟨hm.2, hm.1⟩

end Hyphens

section Cleaning

variable {c : Char} {l : List Char} {text text' : String} {letter : Char → Bool}

/-- Hyphens for runs of them, and none at the edges. -/
def hyphenated (l : List Char) : List Char := dropEdges (replaceRuns (· = '-') false l)

theorem hyphenated_of_joined (h : Joined '-' l) : hyphenated l = l := by
  obtain ⟨_, htight, _⟩ := joined_iff.mp h
  rw [hyphenated, (replaceRuns_of_tight l).2 htight, dropEdges_of_joined h]

theorem mem_hyphenated_iff (hc : c ≠ '-') : c ∈ hyphenated l ↔ c ∈ l := by
  constructor
  · intro h
    exact ((of_mem_replaceRuns (mem_of_mem_dropEdges h)).resolve_left hc).1
  · intro h
    exact mem_dropEdges hc (mem_replaceRuns (decide_eq_false hc) h)

/-- Words are left, if there is more than hyphens. -/
theorem joined_hyphenated_iff : Joined '-' (hyphenated l) ↔ ∃ c ∈ l, c ≠ '-' := by
  constructor
  · intro h
    obtain ⟨c, hmem, hc⟩ := h.exists_ne
    exact ⟨c, (mem_hyphenated_iff hc).mp hmem, hc⟩
  · rintro ⟨c, hmem, hc⟩
    exact dropEdges_of_tight (tight_replaceRuns l).2
      (List.ne_nil_of_mem ((mem_hyphenated_iff hc).mpr hmem))

theorem mem_dropWhile_iff {p : Char → Bool} (hc : p c = false) :
    c ∈ l.dropWhile p ↔ c ∈ l := by
  constructor
  · exact fun h => (List.dropWhile_sublist p).mem h
  · intro h
    rw [← List.takeWhile_append_dropWhile (p := p) (l := l)] at h
    refine (List.mem_append.mp h).resolve_left fun htake => ?_
    rw [List.mem_takeWhile_imp htake] at hc
    cases hc

theorem dropWhile_of_forall {p : Char → Bool} (h : ∀ c ∈ l, p c = false) : l.dropWhile p = l := by
  cases l with
  | nil => rfl
  | cons c rest => exact List.dropWhile_cons_of_neg (Bool.eq_false_iff.mp (h c (.head _)))

theorem mem_trim_iff (hc : isWhiteSpace c = false) : c ∈ (trim text).toList ↔ c ∈ text.toList := by
  rw [trim, String.toList_ofList, List.mem_reverse, mem_dropWhile_iff hc, List.mem_reverse,
    mem_dropWhile_iff hc]

theorem trim_of_forall (h : ∀ c ∈ text.toList, isWhiteSpace c = false) : trim text = text := by
  rw [trim, dropWhile_of_forall h, dropWhile_of_forall fun c hc => h c (List.mem_reverse.mp hc),
    List.reverse_reverse, String.ofList_toList]

/-- One or more words of letters, joined by hyphens. -/
def WordsOf (letter : Char → Bool) (text : String) : Prop :=
  Joined '-' text.toList ∧ ∀ c ∈ text.toList, letter c = true ∨ c = '-'

theorem WordsOf.ne_empty (h : WordsOf letter text) : text ≠ "" := by
  rintro rfl
  exact not_joined_nil h.1

theorem wordsOf_append_iff : WordsOf letter (text ++ "-" ++ text') ↔
    WordsOf letter text ∧ WordsOf letter text' := by
  have hlist : (text ++ "-" ++ text').toList = text.toList ++ '-' :: text'.toList := by
    rw [String.toList_append, String.toList_append, List.append_assoc]
    rfl
  rw [WordsOf, hlist, joined_append_iff, List.forall_mem_append, List.forall_mem_cons]
  constructor
  · rintro ⟨⟨h, h'⟩, hletters, _, hletters'⟩
    exact ⟨⟨h, hletters⟩, h', hletters'⟩
  · rintro ⟨⟨h, hletters⟩, h', hletters'⟩
    exact ⟨⟨h, h'⟩, hletters, .inr rfl, hletters'⟩

theorem wordsOf_intercalate_iff {parts : List String} (hne : parts ≠ []) :
    WordsOf letter ("-".intercalate parts) ↔ ∀ part ∈ parts, WordsOf letter part := by
  induction parts with
  | nil => exact absurd rfl hne
  | cons part rest ih =>
    cases rest with
    | nil => simp
    | cons part' rest =>
      rw [String.intercalate_cons_cons, wordsOf_append_iff, ih (List.cons_ne_nil _ _)]
      exact List.forall_mem_cons.symm

theorem wordsOf_of_letters (hne : text ≠ "") (h : ∀ c ∈ text.toList, letter c = true)
    (hhyphen : letter '-' = false) : WordsOf letter text := by
  refine ⟨joined_of_not_mem ?_ fun hmem => ?_, fun c hc => .inl (h c hc)⟩
  · exact fun hnil => hne (String.toList_inj.mp hnil)
  · rw [h _ hmem] at hhyphen
    cases hhyphen

end Cleaning

section Letters

variable {c : Char} {text : String} {casing : Casing}

/-- The case mappings, as they are documented for ASCII: a text that has no letter of the other
case is kept, and no letter of the other case comes out. -/
structure Casing.Lawful (casing : Casing) : Prop where
  toLowerCase_eq : ∀ text : String,
    (∀ c ∈ text.toList, c.toNat < 128 ∧ c.isUpper = false) → casing.toLowerCase text = text
  not_isUpper : ∀ text, ∀ c ∈ (casing.toLowerCase text).toList, c.isUpper = false
  toUpperCase_eq : ∀ text : String,
    (∀ c ∈ text.toList, c.toNat < 128 ∧ c.isLower = false) → casing.toUpperCase text = text
  not_isLower : ∀ text, ∀ c ∈ (casing.toUpperCase text).toList, c.isLower = false

/-- The letters of a slug. -/
def isSlugLetter (c : Char) : Bool := isWordChar c && !c.isUpper

/-- The letters of an SKU. -/
def isSkuLetter (c : Char) : Bool := isWordChar c && !c.isLower

theorem toNat_of_isUpper (h : c.isUpper = true) : 65 ≤ c.toNat ∧ c.toNat ≤ 90 := by
  simpa [Char.isUpper, UInt32.le_iff_toNat_le] using h

theorem toNat_of_isLower (h : c.isLower = true) : 97 ≤ c.toNat ∧ c.toNat ≤ 122 := by
  simpa [Char.isLower, UInt32.le_iff_toNat_le] using h

theorem toNat_of_isWordChar (h : isWordChar c = true) : 48 ≤ c.toNat ∧ c.toNat ≤ 122 := by
  simp only [isWordChar, Char.isAlphanum, Char.isAlpha, Bool.or_eq_true, decide_eq_true_eq] at h
  rcases h with ((h | h) | h) | rfl
  · have hbounds := toNat_of_isUpper h
    omega
  · have hbounds := toNat_of_isLower h
    omega
  · obtain ⟨d, hd, hc⟩ := Numerals.toNat_of_isDigit h
    omega
  · decide

theorem isWhiteSpace_of_isWordChar (h : isWordChar c = true) : isWhiteSpace c = false := by
  obtain ⟨hlow, hhigh⟩ := toNat_of_isWordChar h
  refine decide_eq_false ?_
  simp only [List.mem_cons, List.not_mem_nil, or_false]
  omega

theorem toNat_lt_of_letter (h : isWordChar c = true ∨ c = '-') : c.toNat < 128 := by
  rcases h with h | rfl
  · exact (toNat_of_isWordChar h).2.trans_lt (by decide)
  · decide

theorem isWhiteSpace_of_letter (h : isWordChar c = true ∨ c = '-') : isWhiteSpace c = false := by
  rcases h with h | rfl
  · exact isWhiteSpace_of_isWordChar h
  · decide

theorem not_isWordChar_hyphen : isWordChar '-' = false := by decide

theorem isSlugLetter_iff : isSlugLetter c = true ↔ isWordChar c = true ∧ c.isUpper = false := by
  rw [isSlugLetter, Bool.and_eq_true, Bool.not_eq_true']

theorem isSkuLetter_iff : isSkuLetter c = true ↔ isWordChar c = true ∧ c.isLower = false := by
  rw [isSkuLetter, Bool.and_eq_true, Bool.not_eq_true']

theorem letters_of_isDigit (h : c.isDigit = true) :
    isSlugLetter c = true ∧ isSkuLetter c = true := by
  obtain ⟨d, hd, hc⟩ := Numerals.toNat_of_isDigit h
  have hword : isWordChar c = true := by
    simp [isWordChar, Char.isAlphanum, h]
  refine ⟨isSlugLetter_iff.mpr ⟨hword, ?_⟩, isSkuLetter_iff.mpr ⟨hword, ?_⟩⟩
  · by_contra hupper
    have hbounds := toNat_of_isUpper (Bool.not_eq_false _ ▸ hupper)
    omega
  · by_contra hlower
    have hbounds := toNat_of_isLower (Bool.not_eq_false _ ▸ hlower)
    omega

/-- What is cleaned is made of words if it has anything, and it has if there was a letter. -/
theorem wordsOf_hyphenated_iff {letter : Char → Bool} {cased chars : List Char}
    (hmem : ∀ c, c ≠ '-' → (c ∈ chars ↔ c ∈ cased ∧ isWordChar c = true))
    (hletter : ∀ c ∈ cased, isWordChar c = true → letter c = true) :
    (WordsOf letter (String.ofList (hyphenated chars)) ↔ ∃ c ∈ cased, isWordChar c = true) ∧
      (String.ofList (hyphenated chars) ≠ "" →
        WordsOf letter (String.ofList (hyphenated chars))) := by
  have hletters : ∀ c ∈ hyphenated chars, letter c = true ∨ c = '-' := by
    intro c hc
    by_cases hhyphen : c = '-'
    · exact .inr hhyphen
    · obtain ⟨hcased, hword⟩ := (hmem c hhyphen).mp ((mem_hyphenated_iff hhyphen).mp hc)
      exact .inl (hletter c hcased hword)
  rw [WordsOf, String.toList_ofList]
  refine ⟨⟨fun h => ?_, fun h => ⟨joined_hyphenated_iff.mpr ?_, hletters⟩⟩, fun hne => ⟨?_, hletters⟩⟩
  · obtain ⟨c, hc, hhyphen⟩ := joined_hyphenated_iff.mp h.1
    exact ⟨c, (hmem c hhyphen).mp hc⟩
  · obtain ⟨c, hcased, hword⟩ := h
    have hhyphen : c ≠ '-' := by
      rintro rfl
      rw [not_isWordChar_hyphen] at hword
      cases hword
    exact ⟨c, (hmem c hhyphen).mpr ⟨hcased, hword⟩, hhyphen⟩
  · refine dropEdges_of_tight (tight_replaceRuns chars).2 fun hnil => hne ?_
    rw [hyphenated, hnil]

end Letters

section Normal

variable {c : Char} {text : String} {casing : Casing}

/-- The characters of a slug before its hyphens are cleaned up. -/
def slugChars (casing : Casing) (text : String) : List Char :=
  replaceRuns isWhiteSpace false ((trim (casing.toLowerCase text)).toList.filter fun c =>
    isWordChar c || isWhiteSpace c || c = '-')

/-- The characters of an SKU before its hyphens are cleaned up. -/
def skuChars (casing : Casing) (text : String) : List Char :=
  (trim (casing.toUpperCase text)).toList.map fun c => if isWordChar c || c = '-' then c else '-'

theorem mem_slugChars_iff (casing : Casing) (text : String) (c : Char) (hc : c ≠ '-') :
    c ∈ slugChars casing text ↔
      c ∈ (casing.toLowerCase text).toList ∧ isWordChar c = true := by
  constructor
  · intro h
    obtain ⟨hkept, hspace⟩ := (of_mem_replaceRuns h).resolve_left hc
    obtain ⟨hmem, hkeep⟩ := List.mem_filter.mp hkept
    refine ⟨(mem_trim_iff hspace).mp hmem, ?_⟩
    simpa [hspace, hc] using hkeep
  · rintro ⟨hmem, hword⟩
    have hspace := isWhiteSpace_of_isWordChar hword
    refine mem_replaceRuns hspace (List.mem_filter.mpr ⟨(mem_trim_iff hspace).mpr hmem, ?_⟩)
    rw [hword]
    rfl

theorem mem_skuChars_iff (casing : Casing) (text : String) (c : Char) (hc : c ≠ '-') :
    c ∈ skuChars casing text ↔
      c ∈ (casing.toUpperCase text).toList ∧ isWordChar c = true := by
  constructor
  · intro h
    obtain ⟨d, hmem, hd⟩ := List.mem_map.mp h
    split at hd
    · next hkeep =>
      obtain rfl := hd
      have hword : isWordChar d = true := by simpa [hc] using hkeep
      exact ⟨(mem_trim_iff (isWhiteSpace_of_isWordChar hword)).mp hmem, hword⟩
    · exact absurd hd.symm hc
  · rintro ⟨hmem, hword⟩
    refine List.mem_map.mpr ⟨c, (mem_trim_iff (isWhiteSpace_of_isWordChar hword)).mpr hmem, ?_⟩
    rw [hword]
    rfl

variable (hcasing : casing.Lawful)
include hcasing

theorem wordsOf_generateSlug_iff :
    WordsOf isSlugLetter (generateSlug casing text) ↔
      ∃ c ∈ (casing.toLowerCase text).toList, isWordChar c = true :=
  (wordsOf_hyphenated_iff (mem_slugChars_iff casing text) fun c hc hword =>
    isSlugLetter_iff.mpr ⟨hword, hcasing.not_isUpper text c hc⟩).1

theorem wordsOf_sanitizeSku_iff :
    WordsOf isSkuLetter (sanitizeSku casing text) ↔
      ∃ c ∈ (casing.toUpperCase text).toList, isWordChar c = true :=
  (wordsOf_hyphenated_iff (mem_skuChars_iff casing text) fun c hc hword =>
    isSkuLetter_iff.mpr ⟨hword, hcasing.not_isLower text c hc⟩).1

/-- The normal forms of slugs are words joined by hyphens, and the empty text. -/
theorem generateSlug_eq_self_iff :
    generateSlug casing text = text ∧ text ≠ "" ↔ WordsOf isSlugLetter text := by
  constructor
  · rintro ⟨hfixed, hne⟩
    rw [← hfixed] at hne ⊢
    exact (wordsOf_hyphenated_iff (mem_slugChars_iff casing text) fun c hc hword =>
      isSlugLetter_iff.mpr ⟨hword, hcasing.not_isUpper text c hc⟩).2 hne
  · intro h
    refine ⟨?_, h.ne_empty⟩
    have hletters : ∀ c ∈ text.toList, isWordChar c = true ∨ c = '-' :=
      fun c hc => (h.2 c hc).imp_left fun hletter => (isSlugLetter_iff.mp hletter).1
    have hlower : casing.toLowerCase text = text := by
      refine hcasing.toLowerCase_eq text fun c hc => ⟨toNat_lt_of_letter (hletters c hc), ?_⟩
      rcases h.2 c hc with hletter | rfl
      · exact (isSlugLetter_iff.mp hletter).2
      · decide
    have hspace : ∀ c ∈ text.toList, isWhiteSpace c = false :=
      fun c hc => isWhiteSpace_of_letter (hletters c hc)
    have hkept : text.toList.filter (fun c => isWordChar c || isWhiteSpace c || c = '-') =
        text.toList := by
      refine List.filter_eq_self.mpr fun c hc => ?_
      rcases hletters c hc with hword | rfl
      · rw [hword]
        rfl
      · decide
    have hchars : slugChars casing text = text.toList := by
      rw [slugChars, hlower, trim_of_forall hspace, hkept, replaceRuns_of_forall hspace]
    show String.ofList (hyphenated (slugChars casing text)) = text
    rw [hchars, hyphenated_of_joined h.1, String.ofList_toList]

/-- The normal forms of SKUs are words joined by hyphens, and the empty text. -/
theorem sanitizeSku_eq_self_iff :
    sanitizeSku casing text = text ∧ text ≠ "" ↔ WordsOf isSkuLetter text := by
  constructor
  · rintro ⟨hfixed, hne⟩
    rw [← hfixed] at hne ⊢
    exact (wordsOf_hyphenated_iff (mem_skuChars_iff casing text) fun c hc hword =>
      isSkuLetter_iff.mpr ⟨hword, hcasing.not_isLower text c hc⟩).2 hne
  · intro h
    refine ⟨?_, h.ne_empty⟩
    have hletters : ∀ c ∈ text.toList, isWordChar c = true ∨ c = '-' :=
      fun c hc => (h.2 c hc).imp_left fun hletter => (isSkuLetter_iff.mp hletter).1
    have hupper : casing.toUpperCase text = text := by
      refine hcasing.toUpperCase_eq text fun c hc => ⟨toNat_lt_of_letter (hletters c hc), ?_⟩
      rcases h.2 c hc with hletter | rfl
      · exact (isSkuLetter_iff.mp hletter).2
      · decide
    have hkept : text.toList.map (fun c => if isWordChar c || c = '-' then c else '-') =
        text.toList := by
      refine (List.map_congr_left fun c hc => ?_).trans (List.map_id _)
      rcases hletters c hc with hword | rfl
      · rw [hword]
        rfl
      · rfl
    have hchars : skuChars casing text = text.toList := by
      rw [skuChars, hupper, trim_of_forall fun c hc => isWhiteSpace_of_letter (hletters c hc),
        hkept]
    show String.ofList (hyphenated (skuChars casing text)) = text
    rw [hchars, hyphenated_of_joined h.1, String.ofList_toList]

end Normal

section Search

variable {letter : Char → Bool} {base : String}

/-- A number does not change whether a text is made of words. -/
theorem wordsOf_suffixed_iff (hdigit : ∀ c : Char, c.isDigit = true → letter c = true)
    (hhyphen : letter '-' = false) (n : ℕ) :
    WordsOf letter (Fresh.suffixed base n) ↔ WordsOf letter base := by
  cases n with
  | zero => exact Iff.rfl
  | succ n =>
    refine wordsOf_append_iff.trans (and_iff_left (wordsOf_of_letters ?_ ?_ hhyphen))
    · exact fun hempty => Nat.toDigits_ne_nil (Numerals.toList_toString (n + 1) ▸
        congrArg String.toList hempty)
    · intro c hc
      rw [Numerals.toList_toString] at hc
      exact hdigit c (Nat.isDigit_of_mem_toDigits (by decide) (by decide) hc)

theorem wordsOf_ensureUnique_iff (hdigit : ∀ c : Char, c.isDigit = true → letter c = true)
    (hhyphen : letter '-' = false) (taken : List String) :
    WordsOf letter (ensureUnique taken base) ↔ WordsOf letter base := by
  obtain ⟨n, hn⟩ := Fresh.exists_firstFree_eq taken (Fresh.suffixed base)
  rw [ensureUnique, hn]
  exact wordsOf_suffixed_iff hdigit hhyphen n

end Search

section Calls

/-- Model names that support the check of slugs. -/
inductive SlugModel
  | productCategory | product

/-- What an identifier is asked for. -/
inductive IdentifierCall
  | slug (model : SlugModel) (slug name : Option String)
  | sku (baseSku : String)
  | variantSku (parentSku : String) (attributes : List AttributeDto) (index : ℕ)

namespace IdentifierCall

variable (casing : Casing) (s : CatalogStore) (tenantId : Id) (excludeId : Option Id)

/-- The identifiers that are looked up. -/
def taken : IdentifierCall → List String
  | .slug .productCategory _ _ => s.categorySlugs tenantId excludeId
  | .slug .product _ _ => s.productSlugs tenantId excludeId
  | .sku _ => s.skus tenantId excludeId
  | .variantSku _ _ _ => s.skus tenantId excludeId

def answer (call : IdentifierCall) : Except HttpError String :=
  match call with
  | .slug _ given name =>
    SlugService.createSlug casing (call.taken s tenantId excludeId) given name
  | .sku baseSku => .ok (createSku casing (call.taken s tenantId excludeId) baseSku)
  | .variantSku parentSku attributes index =>
    .ok (createVariantSku casing (call.taken s tenantId excludeId) parentSku attributes index)

def normalize : IdentifierCall → String → String
  | .slug _ _ _ => generateSlug casing
  | _ => sanitizeSku casing

/-- The identifier before a number is looked for. -/
def base : IdentifierCall → Option String
  | .slug _ given name => ((truthy given).or (truthy name)).map (generateSlug casing)
  | .sku baseSku => some (sanitizeSku casing baseSku)
  | .variantSku parentSku attributes index =>
    some (parentSku ++ "-" ++ generateVariantSkuSuffix casing attributes index)

/-- No other row of the tenant has the identifier. -/
def Differs (text : String) : IdentifierCall → Prop
  | .slug .productCategory _ _ => ∀ r ∈ s.categories.rows, r.2.tenantId = tenantId →
      excludeId ≠ some r.1 → r.2.slug ≠ text
  | .slug .product _ _ => ∀ r ∈ s.products.rows, r.2.tenantId = tenantId →
      excludeId ≠ some r.1 → r.2.slug ≠ some text
  | _ => ∀ r ∈ s.products.rows, r.2.tenantId = tenantId → excludeId ≠ some r.1 → r.2.sku ≠ text

/-- An identifier that a search has found: it is not empty, in its normal form, and no other row
has it. -/
structure Usable (call : IdentifierCall) (text : String) : Prop where
  nonempty : text ≠ ""
  normal : call.normalize casing text = text
  differs : call.Differs s tenantId excludeId text
  found : ∃ base ∈ call.base casing, ∃ fuel,
    Fresh.search (call.taken s tenantId excludeId) (Fresh.suffixed base) fuel 0 = some text

def GivesUsable (call : IdentifierCall) : Prop :=
  ∃ text, call.answer casing s tenantId excludeId = .ok text ∧
    call.Usable casing s tenantId excludeId text

/-- What is taken of an attribute. -/
def attributeStart (a : AttributeDto) : String :=
  String.ofList (takeUnits 3 (a.values.headD "").toList)

/-- There is an ASCII letter, a digit or an underscore, in each part that is put together; and
the SKU of a parent is in its normal form. -/
def Spells : IdentifierCall → Prop
  | .slug _ given name => ∃ text ∈ (truthy given).or (truthy name),
      ∃ c ∈ (casing.toLowerCase text).toList, isWordChar c = true
  | .sku baseSku => ∃ c ∈ (casing.toUpperCase baseSku).toList, isWordChar c = true
  | .variantSku parentSku attributes _ =>
      (sanitizeSku casing parentSku = parentSku ∧ parentSku ≠ "") ∧
        ∀ a ∈ attributes, ∃ c ∈ (casing.toUpperCase (attributeStart a)).toList,
          isWordChar c = true

variable {casing s tenantId excludeId} {call : IdentifierCall} {text : String}

theorem differs_of_not_mem (h : text ∉ call.taken s tenantId excludeId) :
    call.Differs s tenantId excludeId text := by
  rcases call with ⟨_ | _, given, name⟩ | baseSku | ⟨parentSku, attributes, index⟩
  · intro r hr htenant hexclude heq
    exact h (List.mem_map.mpr
      ⟨r, List.mem_filter.mpr ⟨hr, decide_eq_true ⟨htenant, hexclude⟩⟩, heq⟩)
  · intro r hr htenant hexclude heq
    exact h (List.mem_filterMap.mpr
      ⟨r, List.mem_filter.mpr ⟨hr, decide_eq_true ⟨htenant, hexclude⟩⟩, heq⟩)
  all_goals
    intro r hr htenant hexclude heq
    exact h (List.mem_map.mpr
      ⟨r, List.mem_filter.mpr ⟨hr, decide_eq_true ⟨htenant, hexclude⟩⟩, heq⟩)

theorem answer_eq (call : IdentifierCall) :
    (call.base casing = none ∧ ∃ e, call.answer casing s tenantId excludeId = .error e) ∨
    ∃ base, call.base casing = some base ∧ call.answer casing s tenantId excludeId =
      .ok (ensureUnique (call.taken s tenantId excludeId) base) := by
  rcases call with ⟨model, given, name⟩ | baseSku | ⟨parentSku, attributes, index⟩
  · simp only [base, answer, SlugService.createSlug]
    cases truthy given with
    | some given => exact .inr ⟨_, rfl, rfl⟩
    | none =>
      cases truthy name with
      | some name => exact .inr ⟨_, rfl, rfl⟩
      | none => exact .inl ⟨rfl, _, rfl⟩
  · exact .inr ⟨_, rfl, rfl⟩
  · exact .inr ⟨_, rfl, rfl⟩

/-- A search ends, and what it finds is free. -/
theorem usable_iff (s : CatalogStore) (tenantId : Id) (excludeId : Option Id) {base : String}
    (hbase : call.base casing = some base) :
    call.Usable casing s tenantId excludeId
        (ensureUnique (call.taken s tenantId excludeId) base) ↔
      call.normalize casing (ensureUnique (call.taken s tenantId excludeId) base) =
          ensureUnique (call.taken s tenantId excludeId) base ∧
        ensureUnique (call.taken s tenantId excludeId) base ≠ "" := by
  constructor
  · exact fun h => ⟨h.normal, h.nonempty⟩
  · rintro ⟨hnormal, hne⟩
    exact ⟨hne, hnormal, differs_of_not_mem (ensureUnique_not_mem _ _), base, hbase, _,
      Fresh.search_eq_some (Fresh.suffixed_injective base) _⟩

/-- The letters of an identifier. -/
def letter : IdentifierCall → Char → Bool
  | .slug _ _ _ => isSlugLetter
  | _ => isSkuLetter

theorem letter_of_isDigit (call : IdentifierCall) {c : Char} (h : c.isDigit = true) :
    call.letter c = true := by
  cases call with
  | slug model given name => exact (letters_of_isDigit h).1
  | sku baseSku => exact (letters_of_isDigit h).2
  | variantSku parentSku attributes index => exact (letters_of_isDigit h).2

theorem letter_hyphen (call : IdentifierCall) : call.letter '-' = false := by
  cases call with
  | slug model given name => exact (by decide : isSlugLetter '-' = false)
  | sku baseSku => exact (by decide : isSkuLetter '-' = false)
  | variantSku parentSku attributes index => exact (by decide : isSkuLetter '-' = false)

theorem normalize_eq_self_iff (hcasing : casing.Lawful) :
    call.normalize casing text = text ∧ text ≠ "" ↔ WordsOf call.letter text := by
  cases call with
  | slug model given name => exact generateSlug_eq_self_iff hcasing
  | sku baseSku => exact sanitizeSku_eq_self_iff hcasing
  | variantSku parentSku attributes index => exact sanitizeSku_eq_self_iff hcasing

/-- A suffix is made of words if every attribute has a letter at its start. -/
theorem wordsOf_suffix_iff (hcasing : casing.Lawful) (attributes : List AttributeDto)
    (index : ℕ) : WordsOf isSkuLetter (generateVariantSkuSuffix casing attributes index) ↔
      ∀ a ∈ attributes, ∃ c ∈ (casing.toUpperCase (attributeStart a)).toList,
        isWordChar c = true := by
  by_cases hnone : attributes = []
  · subst hnone
    refine iff_of_true (wordsOf_of_letters ?_ ?_ (by decide)) fun a ha => nomatch ha
    · exact fun hempty => absurd (congrArg String.length hempty) (by simp [generateVariantSkuSuffix])
    · intro c hc
      rw [generateVariantSkuSuffix, if_pos rfl, String.toList_append, Numerals.toList_toString] at hc
      rcases List.mem_append.mp hc with hfirst | hdigit
      · obtain rfl : c = 'V' := List.mem_singleton.mp hfirst
        decide
      · exact (letters_of_isDigit
          (Nat.isDigit_of_mem_toDigits (by decide) (by decide) hdigit)).2
  · rw [generateVariantSkuSuffix, if_neg hnone, wordsOf_intercalate_iff
      (mt List.map_eq_nil_iff.mp hnone), List.forall_mem_map]
    exact forall₂_congr fun a _ => wordsOf_sanitizeSku_iff hcasing

/-- What is put together is made of words if each part has letters. -/
theorem wordsOf_base_iff (hcasing : casing.Lawful) :
    (∃ base, call.base casing = some base ∧ WordsOf call.letter base) ↔ call.Spells casing := by
  rcases call with ⟨model, given, name⟩ | baseSku | ⟨parentSku, attributes, index⟩
  · constructor
    · rintro ⟨base, hbase, h⟩
      obtain ⟨text, htext, rfl⟩ := Option.map_eq_some_iff.mp hbase
      exact ⟨text, htext, (wordsOf_generateSlug_iff hcasing).mp h⟩
    · rintro ⟨text, htext, h⟩
      exact ⟨_, Option.map_eq_some_iff.mpr ⟨text, htext, rfl⟩,
        (wordsOf_generateSlug_iff hcasing).mpr h⟩
  · simp only [base, Option.some.injEq, exists_eq_left']
    exact wordsOf_sanitizeSku_iff hcasing
  · simp only [base, Option.some.injEq, exists_eq_left']
    exact wordsOf_append_iff.trans
      (and_congr (sanitizeSku_eq_self_iff hcasing).symm (wordsOf_suffix_iff hcasing _ _))

end IdentifierCall

/-- An identifier is usable exactly if what it is asked for has letters or digits in each part. -/
theorem identifiers_usable_iff {casing : Casing} (hcasing : casing.Lawful) (s : CatalogStore)
    (tenantId : Id) (excludeId : Option Id) (call : IdentifierCall) :
    call.GivesUsable casing s tenantId excludeId ↔ call.Spells casing := by
  rw [← IdentifierCall.wordsOf_base_iff hcasing]
  rcases IdentifierCall.answer_eq call with ⟨hnone, e, herror⟩ | ⟨base, hbase, hanswer⟩
  · refine iff_of_false ?_ ?_
    · rintro ⟨text, hok, _⟩
      rw [herror] at hok
      cases hok
    · rintro ⟨base, hbase, _⟩
      rw [hnone] at hbase
      cases hbase
  · have husable := IdentifierCall.usable_iff s tenantId excludeId hbase
    rw [IdentifierCall.normalize_eq_self_iff hcasing,
      wordsOf_ensureUnique_iff (fun _ => call.letter_of_isDigit) call.letter_hyphen] at husable
    constructor
    · rintro ⟨text, hok, h⟩
      obtain rfl := Except.ok.inj (hanswer.symm.trans hok)
      exact ⟨base, hbase, husable.mp h⟩
    · rintro ⟨base', hbase', h⟩
      obtain rfl := Option.some.inj (hbase.symm.trans hbase')
      exact ⟨_, hanswer, husable.mpr h⟩

theorem toLower_eq_or (c : Char) :
    c.toLower = c ∧ c.isUpper = false ∨ c.isUpper = true ∧ c.toLower.toNat = c.toNat + 32 := by
  by_cases h : c.val ≥ 'A'.val ∧ c.val ≤ 'Z'.val
  · have hupper : c.isUpper = true := by simpa [Char.isUpper] using h
    refine .inr ⟨hupper, ?_⟩
    have hbounds := toNat_of_isUpper hupper
    have hval : c.toLower.val = c.val + 32 := by rw [Char.toLower, dif_pos h]; rfl
    have hshift : (32 : UInt32).toNat = 32 := by decide
    rw [← Char.toNat_val, hval, UInt32.toNat_add, Char.toNat_val, hshift]
    omega
  · refine .inl ⟨dif_neg h, ?_⟩
    simpa [Char.isUpper] using h

theorem toUpper_eq_or (c : Char) :
    c.toUpper = c ∧ c.isLower = false ∨ c.isLower = true ∧ c.toUpper.toNat + 32 = c.toNat := by
  by_cases h : 'a'.val ≤ c.val ∧ c.val ≤ 'z'.val
  · have hlower : c.isLower = true := by simpa [Char.isLower] using h
    refine .inr ⟨hlower, ?_⟩
    have hbounds := toNat_of_isLower hlower
    have hval : c.toUpper.val = c.val + ('A'.val - 'a'.val) := by rw [Char.toUpper, dif_pos h]
    have hshift : ('A'.val - 'a'.val).toNat = 2 ^ 32 - 32 := by decide
    rw [← Char.toNat_val, hval, UInt32.toNat_add, Char.toNat_val, hshift]
    omega
  · refine .inl ⟨dif_neg h, ?_⟩
    simpa [Char.isLower] using h

theorem Casing.ascii_lawful : Casing.ascii.Lawful where
  toLowerCase_eq text h := by
    have hmap : text.toList.map Char.toLower = text.toList := by
      refine (List.map_congr_left fun c hc => ?_).trans (List.map_id _)
      rcases toLower_eq_or c with ⟨heq, _⟩ | ⟨hupper, _⟩
      · exact heq
      · rw [(h c hc).2] at hupper
        cases hupper
    show String.ofList (text.toList.map Char.toLower) = text
    rw [hmap, String.ofList_toList]
  not_isUpper text c hc := by
    rw [Casing.ascii, String.toList_ofList] at hc
    obtain ⟨d, _, rfl⟩ := List.mem_map.mp hc
    rcases toLower_eq_or d with ⟨heq, hupper⟩ | ⟨hupper, hnat⟩
    · rw [heq, hupper]
    · by_contra hlower
      have hbounds := toNat_of_isUpper hupper
      have hbounds' := toNat_of_isUpper (Bool.not_eq_false _ ▸ hlower)
      omega
  toUpperCase_eq text h := by
    have hmap : text.toList.map Char.toUpper = text.toList := by
      refine (List.map_congr_left fun c hc => ?_).trans (List.map_id _)
      rcases toUpper_eq_or c with ⟨heq, _⟩ | ⟨hlower, _⟩
      · exact heq
      · rw [(h c hc).2] at hlower
        cases hlower
    show String.ofList (text.toList.map Char.toUpper) = text
    rw [hmap, String.ofList_toList]
  not_isLower text c hc := by
    rw [Casing.ascii, String.toList_ofList] at hc
    obtain ⟨d, _, rfl⟩ := List.mem_map.mp hc
    rcases toUpper_eq_or d with ⟨heq, hlower⟩ | ⟨hlower, hnat⟩
    · rw [heq, hlower]
    · by_contra hupper
      have hbounds := toNat_of_isLower hlower
      have hbounds' := toNat_of_isLower (Bool.not_eq_false _ ▸ hupper)
      omega

theorem identifiers_usable_iff_tea :
    (IdentifierCall.slug .product none (some "Green Tea")).GivesUsable .ascii .empty 0 none ↔
      (IdentifierCall.slug .product none (some "Green Tea")).Spells .ascii :=
  identifiers_usable_iff Casing.ascii_lawful .empty 0 none _

/-- A name in a script that has no ASCII letters gives an empty slug. -/
theorem name_without_letters :
    (∃ c ∈ "茶".toList, isWhiteSpace c = false) ∧
      ¬(IdentifierCall.slug .product none (some "茶")).GivesUsable .ascii .empty 0 none := by
  refine ⟨⟨'茶', by decide +kernel, by decide⟩, ?_⟩
  rintro ⟨text, hok, h⟩
  have hempty : (IdentifierCall.slug .product none (some "茶")).answer .ascii .empty 0 none =
      .ok "" := by
    decide +kernel
  exact h.nonempty (Except.ok.inj (hok.symm.trans hempty))

end Calls

section NormalForms

variable {letter : Char → Bool} {casing : Casing} {text : String}

/-- What a normaliser is to produce: letters and hyphens, with no hyphen at an edge and no two
next to each other. The empty text is such a text. -/
structure NormalForm (letter : Char → Bool) (text : String) : Prop where
  letters : ∀ c ∈ text.toList, letter c = true ∨ c = '-'
  leading : text.toList.head? ≠ some '-'
  trailing : text.toList.getLast? ≠ some '-'
  doubled : ¬['-', '-'] <:+: text.toList

theorem normalForm_empty : NormalForm letter "" where
  letters _ hc := nomatch hc
  leading := nofun
  trailing := nofun
  doubled h := absurd (List.infix_nil.mp h) (List.cons_ne_nil _ _)

/-- What is not empty is in normal form if it is words that are joined. -/
theorem normalForm_iff (hne : text ≠ "") : NormalForm letter text ↔ WordsOf letter text := by
  have hlist : text.toList ≠ [] := fun hnil => hne (String.toList_inj.mp hnil)
  rw [WordsOf, joined_iff, tight_iff_not_infix]
  constructor
  · intro h
    exact ⟨⟨hlist, h.doubled, h.leading, h.trailing⟩, h.letters⟩
  · rintro ⟨⟨_, hdoubled, hleading, htrailing⟩, hletters⟩
    exact ⟨hletters, hleading, htrailing, hdoubled⟩

variable (hcasing : casing.Lawful)
include hcasing

/-- A slug is kept by the normaliser exactly if it is in normal form. -/
theorem generateSlug_eq_self_iff_normalForm :
    generateSlug casing text = text ↔ NormalForm isSlugLetter text := by
  by_cases hempty : text = ""
  · subst hempty
    have hlower : casing.toLowerCase "" = "" := hcasing.toLowerCase_eq "" fun _ hc => nomatch hc
    refine iff_of_true ?_ normalForm_empty
    rw [generateSlug, hlower]
    rfl
  · rw [normalForm_iff hempty, ← generateSlug_eq_self_iff hcasing]
    exact (and_iff_left hempty).symm

theorem sanitizeSku_eq_self_iff_normalForm :
    sanitizeSku casing text = text ↔ NormalForm isSkuLetter text := by
  by_cases hempty : text = ""
  · subst hempty
    have hupper : casing.toUpperCase "" = "" := hcasing.toUpperCase_eq "" fun _ hc => nomatch hc
    refine iff_of_true ?_ normalForm_empty
    rw [sanitizeSku, hupper]
    rfl
  · rw [normalForm_iff hempty, ← sanitizeSku_eq_self_iff hcasing]
    exact (and_iff_left hempty).symm

theorem normalForm_generateSlug (text : String) :
    NormalForm isSlugLetter (generateSlug casing text) := by
  by_cases hempty : generateSlug casing text = ""
  · rw [hempty]
    exact normalForm_empty
  · have hletters : ∀ c ∈ (casing.toLowerCase text).toList, isWordChar c = true →
        isSlugLetter c = true :=
      fun c hc hword => isSlugLetter_iff.mpr ⟨hword, hcasing.not_isUpper text c hc⟩
    have hwords := (wordsOf_hyphenated_iff (mem_slugChars_iff casing text) hletters).2 hempty
    exact (normalForm_iff hempty).mpr hwords

theorem normalForm_sanitizeSku (sku : String) :
    NormalForm isSkuLetter (sanitizeSku casing sku) := by
  by_cases hempty : sanitizeSku casing sku = ""
  · rw [hempty]
    exact normalForm_empty
  · have hletters : ∀ c ∈ (casing.toUpperCase sku).toList, isWordChar c = true →
        isSkuLetter c = true :=
      fun c hc hword => isSkuLetter_iff.mpr ⟨hword, hcasing.not_isLower sku c hc⟩
    have hwords := (wordsOf_hyphenated_iff (mem_skuChars_iff casing sku) hletters).2 hempty
    exact (normalForm_iff hempty).mpr hwords

/-- Both normalisers give a normal form, and give it back when they are used again. -/
theorem normalisers_idempotent (text : String) :
    (generateSlug casing (generateSlug casing text) = generateSlug casing text ∧
      NormalForm isSlugLetter (generateSlug casing text)) ∧
    sanitizeSku casing (sanitizeSku casing text) = sanitizeSku casing text ∧
      NormalForm isSkuLetter (sanitizeSku casing text) := by
  have hslug := normalForm_generateSlug hcasing text
  have hsku := normalForm_sanitizeSku hcasing text
  exact ⟨⟨(generateSlug_eq_self_iff_normalForm hcasing).mpr hslug, hslug⟩,
    (sanitizeSku_eq_self_iff_normalForm hcasing).mpr hsku, hsku⟩

omit hcasing in
theorem normalisers_idempotent_tea :
    (generateSlug .ascii (generateSlug .ascii "- Green  Tea! -") =
        generateSlug .ascii "- Green  Tea! -" ∧
      NormalForm isSlugLetter (generateSlug .ascii "- Green  Tea! -")) ∧
    sanitizeSku .ascii (sanitizeSku .ascii "- Green  Tea! -") =
        sanitizeSku .ascii "- Green  Tea! -" ∧
      NormalForm isSkuLetter (sanitizeSku .ascii "- Green  Tea! -") :=
  normalisers_idempotent Casing.ascii_lawful "- Green  Tea! -"

end NormalForms

end Invetrixa
