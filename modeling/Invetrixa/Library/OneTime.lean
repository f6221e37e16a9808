import Invetrixa.Library.Runs

/-!
# Secrets that are used once

Requests that present a secret read whether it is used, check it, and mark it as used in a later
commit. A request accepted is one whose commit is made for a secret. No secret is accepted twice
exactly if every commit still finds its secret unused.

## Main results

- `ReadCommit.OneTime.Inv.nodup_accepted_iff` — along a schedule, the accepted secrets are distinct
  exactly if each was unused when its commit was made
-/

namespace Requests

namespace ReadCommit

variable {σ ρ δ κ : Type*} {S : ReadCommit σ ρ δ}

/-- What a system of requests must say of its secrets: which of them a request in flight will
use, which are used, and which have been accepted. `I` holds of every state, and `K` is what a
request in flight relies on. -/
structure OneTime (S : ReadCommit σ ρ δ) (κ : Type*) where
  secret : δ → Option κ
  Used : σ → κ → Prop
  accepted : σ → List κ
  I : σ → Prop
  K : σ → ρ → δ → Prop
  read : ∀ s r d, I s → S.read r s = some d → K s r d ∧ ∀ k ∈ secret d, ¬Used s k
  commit : ∀ s r d, I s → K s r d → I (S.commit r d s)
  keep : ∀ s r d r' d', K s r d → K s r' d' → K (S.commit r d s) r' d'
  accept : ∀ s r d, K s r d → accepted (S.commit r d s) = (secret d).toList ++ accepted s
  use : ∀ s r d k, K s r d → k ∈ secret d → Used (S.commit r d s) k
  used_mono : ∀ s r d k, K s r d → Used s k → Used (S.commit r d s) k
  /-- a secret that a request in flight will use is marked only by the commits that use it -/
  used_of_commit : ∀ s r d r' d' k, K s r d → K s r' d' → k ∈ secret d' →
    Used (S.commit r d s) k → Used s k ∨ k ∈ secret d

namespace OneTime

variable (O : S.OneTime κ) {c : Config σ ρ δ}

/-- A commit finds its secret unused. -/
def Unused (s : σ) (_ : ρ) (d : δ) : Prop := ∀ k ∈ O.secret d, ¬O.Used s k

/-- The accepted secrets are used, and a secret that a request in flight will use is used only
if it has been accepted. -/
structure Inv (c : Config σ ρ δ) : Prop where
  state : O.I c.state
  used_of_accepted : ∀ k ∈ O.accepted c.state, O.Used c.state k
  inFlight : ∀ x ∈ c.inFlight, O.K c.state x.1 x.2
  accepted_of_used : ∀ x ∈ c.inFlight, ∀ k ∈ O.secret x.2, O.Used c.state k →
    k ∈ O.accepted c.state

variable {O}

theorem Inv.exec (h : O.Inv c) (e : Event ρ) : O.Inv (S.exec c e) := by
  cases e with
  | read r =>
    simp only [ReadCommit.exec]
    split
    · next d hread =>
      obtain ⟨hK, hunused⟩ := O.read _ _ _ h.state hread
      refine ⟨h.state, h.used_of_accepted, fun x hx => ?_, fun x hx k hk hused => ?_⟩
      · rcases List.mem_append.mp hx with hx | hx
        · exact h.inFlight x hx
        · obtain rfl := List.mem_singleton.mp hx
          exact hK
      · rcases List.mem_append.mp hx with hx | hx
        · exact h.accepted_of_used x hx k hk hused
        · obtain rfl := List.mem_singleton.mp hx
          exact absurd hused (hunused k hk)
    · exact h
  | commit i =>
    simp only [ReadCommit.exec]
    split
    · next r d hi =>
      have hK := h.inFlight _ (List.mem_of_getElem? hi)
      have haccept := O.accept _ _ _ hK
      refine ⟨O.commit _ _ _ h.state hK, fun k hk => ?_, fun x hx => ?_,
        fun x hx k hk hused => ?_⟩
      · rw [haccept, List.mem_append, Option.mem_toList] at hk
        rcases hk with hk | hk
        · exact O.use _ _ _ _ hK hk
        · exact O.used_mono _ _ _ _ hK (h.used_of_accepted k hk)
      · exact O.keep _ _ _ _ _ hK (h.inFlight x (List.mem_of_mem_eraseIdx hx))
      · have hx := List.mem_of_mem_eraseIdx hx
        rw [haccept, List.mem_append, Option.mem_toList]
        -- What is used now was used before, or by the request that has just been accepted.
        rcases O.used_of_commit _ _ _ _ _ k hK (h.inFlight x hx) hk hused with hbefore | hnow
        · exact .inr (h.accepted_of_used x hx k hk hbefore)
        · exact .inl hnow
    · exact h

/-- What has been accepted stays accepted. -/
theorem Inv.suffix_execAll (h : O.Inv c) (events : List (Event ρ)) :
    O.accepted c.state <:+ O.accepted (S.execAll events c).state := by
  induction events generalizing c with
  | nil => exact List.suffix_refl _
  | cons e rest ih =>
    refine List.IsSuffix.trans ?_ (ih (h.exec e))
    cases e with
    | read r =>
      simp only [ReadCommit.exec]
      split <;> exact List.suffix_refl _
    | commit i =>
      simp only [ReadCommit.exec]
      split
      · next r d hi =>
        dsimp only
        rw [O.accept _ _ _ (h.inFlight _ (List.mem_of_getElem? hi))]
        exact List.suffix_append _ _
      · exact List.suffix_refl _

/-- The secrets accepted along a schedule are distinct exactly if each was unused when its commit
was made. -/
theorem Inv.nodup_accepted_iff (h : O.Inv c) (events : List (Event ρ))
    (hc : (O.accepted c.state).Nodup) :
    (O.accepted (S.execAll events c).state).Nodup ↔ S.AllMeet O.Unused events c := by
  induction events generalizing c with
  | nil => exact ⟨fun _ => trivial, fun _ => hc⟩
  | cons e rest ih =>
    have hrest := h.exec e
    have hall : S.execAll (e :: rest) c = S.execAll rest (S.exec c e) := rfl
    rw [hall]
    cases e with
    | read r =>
      have hacc : O.accepted (S.exec c (.read r)).state = O.accepted c.state := by
        simp only [ReadCommit.exec]
        split <;> rfl
      rw [ih hrest (hacc ▸ hc)]
      exact ⟨fun hmeet => ⟨trivial, hmeet⟩, fun hmeet => hmeet.2⟩
    | commit i =>
      cases hi : c.inFlight[i]? with
      | none =>
        -- a commit of nothing changes nothing
        have hexec : S.exec c (.commit i) = c := by simp only [ReadCommit.exec, hi]
        rw [hexec] at hrest ⊢
        rw [ih hrest hc]
        refine ⟨fun hmeet => ⟨fun x hx => ?_, by rwa [hexec]⟩, fun hmeet => by
          have := hmeet.2
          rwa [hexec] at this⟩
        rw [hi] at hx
        cases hx
      | some x =>
        obtain ⟨r, d⟩ := x
        have hexec : S.exec c (.commit i) = ⟨S.commit r d c.state, c.inFlight.eraseIdx i⟩ := by
          simp only [ReadCommit.exec, hi]
        have hmem := List.mem_of_getElem? hi
        have hacc := O.accept _ _ _ (h.inFlight _ hmem)
        constructor
        · intro hnodup
          -- what is accepted by now is a suffix of what is accepted in the end
          have hhead : (O.accepted (S.commit r d c.state)).Nodup := by
            have hsuffix := hrest.suffix_execAll rest
            rw [hexec] at hsuffix
            rw [hexec] at hnodup
            exact hnodup.sublist hsuffix.sublist
          refine ⟨fun x hx k hk hused => ?_, (ih hrest (hexec ▸ hhead)).mp hnodup⟩
          obtain rfl := Option.some.inj (hi.symm.trans hx)
          rw [hacc, Option.mem_def.mp hk] at hhead
          exact (List.nodup_cons.mp hhead).1 (h.accepted_of_used _ hmem k hk hused)
        · rintro ⟨hunused, hmeet⟩
          refine (ih hrest ?_).mpr hmeet
          rw [hexec]
          dsimp only
          rw [hacc]
          cases hsecret : O.secret d with
          | none => exact hc
          | some k =>
            refine List.nodup_cons.mpr ⟨fun hk => ?_, hc⟩
            exact hunused (r, d) hi k hsecret (h.used_of_accepted k hk)

end OneTime

end ReadCommit

end Requests
