import Invetrixa.Library.Table

/-!
# Stored views and the jobs that refresh them

For each key a value can be computed from a state, and is stored under the key. Whatever changes the
state queues keys, and a job computes the value of a queued key anew. If every key whose value may
have changed is queued, what is stored is the value of the state wherever no job is waiting.

## Main definitions

- `Current` — what is stored under a key is its value, and what is not stored is blank
- `Fresh` — every key without a waiting job is current

## Main results

- `Fresh.change`, `Fresh.refresh` — what a change and a job keep
-/

namespace Views

open Rowstore

variable {σ κ β : Type*} [DecidableEq κ] {shows : κ → σ → β → Prop} {blank : κ → σ → Prop}
  {s s' : σ} {stored : Table κ β} {jobs jobs' : List κ} {k : κ}

/-- What is stored under the key is its value in the state, and without it the key is blank. -/
structure Current (shows : κ → σ → β → Prop) (blank : κ → σ → Prop) (s : σ) (stored : Table κ β)
    (k : κ) : Prop where
  shown : ∀ b, stored.find? k = some b → shows k s b
  missing : stored.find? k = none → blank k s

/-- Every key without a waiting job is current. -/
def Fresh (shows : κ → σ → β → Prop) (blank : κ → σ → Prop) (s : σ) (stored : Table κ β)
    (jobs : List κ) : Prop :=
  ∀ k, k ∉ jobs → Current shows blank s stored k

/-- Nothing is stored, and there is nothing to store. -/
theorem fresh_empty (h : ∀ k, blank k s) : Fresh shows blank s .empty jobs :=
  fun k _ => ⟨fun _ hfind => (by cases hfind), fun _ => h k⟩

/-- A change of the state after which jobs wait for all keys that it may have touched. -/
theorem Fresh.change (h : Fresh shows blank s stored jobs) (hjobs : jobs ⊆ jobs')
    (hshows : ∀ k b, k ∉ jobs' → shows k s b → shows k s' b)
    (hblank : ∀ k, k ∉ jobs' → blank k s → blank k s') : Fresh shows blank s' stored jobs' := by
  intro k hk
  obtain ⟨hshown, hmissing⟩ := h k fun hmem => hk (hjobs hmem)
  exact ⟨fun b hfind => hshows k b hk (hshown b hfind), fun hfind => hblank k hk (hmissing hfind)⟩

/-- A job that stores the value of its key. -/
theorem Fresh.refresh (h : Fresh shows blank s stored jobs) {i : ℕ} (hjob : jobs[i]? = some k)
    {b : β} (hshows : shows k s b) :
    Fresh shows blank s (stored.upsert k b fun _ => b) (jobs.eraseIdx i) := by
  intro k' hk'
  by_cases hk : k' = k
  · subst hk
    have hfind : (stored.upsert k' b fun _ => b).find? k' = some b :=
      (Table.find?_upsert_const b).trans (if_pos rfl)
    refine ⟨fun b' hb' => ?_, fun hnone => ?_⟩
    · obtain rfl := Option.some.inj (hfind.symm.trans hb')
      exact hshows
    · cases hfind.symm.trans hnone
  · have hfind : (stored.upsert k b fun _ => b).find? k' = stored.find? k' :=
      (Table.find?_upsert_const b).trans (if_neg hk)
    have hnotin : k' ∉ jobs := by
      intro hmem
      obtain ⟨j, hj⟩ := List.mem_iff_getElem?.mp hmem
      refine hk' (List.mem_eraseIdx_iff_getElem?.mpr ⟨j, ?_, hj⟩)
      rintro rfl
      exact hk (Option.some.inj (hj.symm.trans hjob))
    obtain ⟨hshown, hmissing⟩ := h k' hnotin
    exact ⟨fun b' hb' => hshown b' (hfind ▸ hb'), fun hnone => hmissing (hfind ▸ hnone)⟩

end Views
