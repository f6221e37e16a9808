import Mathlib.Data.List.Chain

/-!
# Words joined by a separator

Lists that are made of words with one separator between each two: neither edge is a separator, and
no two separators are next to each other.

## Main definitions

- `Tight` — no two separators are next to each other
- `Joined` — one or more words, joined

## Main results

- `tight_iff_not_infix`
- `joined_append_iff` — joining joined parts
- `joined_iff`
-/

namespace Words

variable {α : Type*} {sep : α} {l l' : List α}

/-- No two separators are next to each other. -/
def Tight (sep : α) (l : List α) : Prop := l.IsChain fun a b => a = sep → b ≠ sep

/-- One or more words, joined: between separators the list is still tight. -/
def Joined (sep : α) (l : List α) : Prop := Tight sep (sep :: (l ++ [sep]))

theorem tight_cons_of_ne {a : α} (ha : a ≠ sep) : Tight sep (a :: l) ↔ Tight sep l := by
  rw [Tight, List.isChain_cons, Tight]
  exact and_iff_right fun _ _ heq => absurd heq ha

theorem tight_cons_sep_iff : Tight sep (sep :: l) ↔ l.head? ≠ some sep ∧ Tight sep l := by
  rw [Tight, List.isChain_cons, Tight]
  refine and_congr_left fun _ => ⟨fun h heq => ?_, fun h b hb _ heq => ?_⟩
  · exact h sep heq rfl rfl
  · exact h (heq ▸ hb)

/-- Two separators next to each other are what a tight list does not have. -/
theorem tight_iff_not_infix : Tight sep l ↔ ¬[sep, sep] <:+: l := by
  constructor
  · rintro h ⟨before, after, rfl⟩
    rw [List.append_assoc] at h
    exact (tight_cons_sep_iff.mp (List.isChain_append.mp h).2.1).1 rfl
  · intro h
    induction l with
    | nil => exact .nil
    | cons a rest ih =>
      have hrest : Tight sep rest :=
        ih fun hsub => h (hsub.trans (List.suffix_cons a rest).isInfix)
      by_cases ha : a = sep
      · subst ha
        refine tight_cons_sep_iff.mpr ⟨fun hhead => h ?_, hrest⟩
        obtain ⟨tail, rfl⟩ := List.head?_eq_some_iff.mp hhead
        exact (List.prefix_append [a, a] tail).isInfix
      · exact (tight_cons_of_ne ha).mpr hrest

theorem not_joined_nil : ¬Joined sep [] := by
  intro h
  exact (tight_cons_sep_iff.mp h).1 rfl

theorem joined_iff : Joined sep l ↔
    l ≠ [] ∧ Tight sep l ∧ l.head? ≠ some sep ∧ l.getLast? ≠ some sep := by
  cases l with
  | nil => exact iff_of_false not_joined_nil fun h => h.1 rfl
  | cons a rest =>
    have hlast : Tight sep (a :: rest ++ [sep]) ↔
        Tight sep (a :: rest) ∧ (a :: rest).getLast? ≠ some sep := by
      rw [Tight, List.isChain_append, Tight]
      refine and_congr_right fun _ => ⟨fun h heq => ?_, fun h => ⟨.singleton _, ?_⟩⟩
      · exact h.2 sep heq sep rfl rfl rfl
      · intro x hx y _ heq
        exact absurd (heq ▸ hx) h
    rw [Joined, tight_cons_sep_iff, hlast, List.cons_append, List.head?_cons, List.head?_cons]
    constructor
    · rintro ⟨hhead, htight, hend⟩
      exact ⟨List.cons_ne_nil _ _, htight, hhead, hend⟩
    · rintro ⟨_, htight, hhead, hend⟩
      exact ⟨hhead, htight, hend⟩

/-- Two joined lists are joined by a separator, and only they are. -/
theorem joined_append_iff : Joined sep (l ++ sep :: l') ↔ Joined sep l ∧ Joined sep l' := by
  rw [Joined, Tight, List.append_assoc, List.cons_append]
  exact List.isChain_cons_split

theorem joined_of_not_mem (hne : l ≠ []) (h : sep ∉ l) : Joined sep l := by
  refine joined_iff.mpr ⟨hne, ?_, ?_, ?_⟩
  · clear hne
    induction l with
    | nil => exact .nil
    | cons a rest ih =>
      rw [tight_cons_of_ne (List.ne_of_not_mem_cons h).symm]
      exact ih fun hrest => h (List.mem_cons_of_mem _ hrest)
  · intro heq
    exact h (List.mem_of_head? heq)
  · intro heq
    exact h (List.mem_of_getLast? heq)

/-- A joined list has more than separators. -/
theorem Joined.exists_ne (h : Joined sep l) : ∃ a ∈ l, a ≠ sep := by
  obtain ⟨hne, _, hhead, _⟩ := joined_iff.mp h
  cases l with
  | nil => exact absurd rfl hne
  | cons a rest => exact ⟨a, List.mem_cons_self, fun heq => hhead (congrArg some heq)⟩

end Words
