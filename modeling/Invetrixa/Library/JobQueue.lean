import Invetrixa.Library.Table

/-!
# Job queues

A queue of delayed jobs as its client sees it. A job has an id; adding a job whose id is in use
is ignored. A job starts at or after the time it is due; while it runs it is locked and cannot be
removed. A job that completes disappears, and one that fails is tried again after a backoff until
its attempts are used up, and then stays as failed.

## Main definitions

- `Job`, `JobState` — a job with its data, and where it is
- `Queue` — the jobs under their ids
- `Queue.add`, `Queue.remove`, `Queue.start`, `Queue.proceed`, `Queue.complete`, `Queue.fail`
-/

namespace Jobs

open Rowstore

universe u v w

/-- Where a job is; `ω` is what a worker has got to with a job that runs. -/
inductive JobState (ω : Type w)
  | delayed (dueAt : ℕ)
  | active (progress : ω)
  | failed

structure Job (δ : Type v) (ω : Type w) where
  data : δ
  attemptsMade : ℕ
  state : JobState ω

/-- Jobs under their ids. -/
abbrev Queue (κ : Type u) (δ : Type v) (ω : Type w) := Table κ (Job δ ω)

/-- The refusal to touch a job that a worker has locked. -/
inductive QueueError
  | locked

variable {κ : Type u} {δ : Type v} {ω : Type w}

namespace Job

/-- A worker has the job. -/
def isActive (job : Job δ ω) : Bool :=
  match job.state with
  | .active _ => true
  | .delayed _ | .failed => false

/-- A failure: try again after the backoff, or give up. -/
def retry (attempts : ℕ) (backoff : ℕ → ℕ) (now : ℕ) (job : Job δ ω) : Job δ ω :=
  { job with
    attemptsMade := job.attemptsMade + 1
    state :=
      if job.attemptsMade + 1 < attempts then .delayed (now + backoff (job.attemptsMade + 1))
      else .failed }

end Job

namespace Queue

variable [DecidableEq κ] (q : Queue κ δ ω)

/-- Add a job that is due after a delay; nothing happens when the id is in use. -/
def add (jobId : κ) (data : δ) (now delay : ℕ) : Queue κ δ ω :=
  q.insert jobId ⟨data, 0, .delayed (now + delay)⟩

/-- Remove a job, unless it runs. -/
def remove (jobId : κ) : Except QueueError (Queue κ δ ω) :=
  if (q.find? jobId).any Job.isActive then .error .locked
  else .ok (q.deleteWhere fun k _ => k = jobId)

/-- A worker starts a job that is due. -/
def start (jobId : κ) (progress : ω) (now : ℕ) : Queue κ δ ω :=
  q.modify jobId fun job =>
    match job.state with
    | .delayed dueAt => if dueAt ≤ now then { job with state := .active progress } else job
    | .active _ | .failed => job

/-- The worker of a job gets on. -/
def proceed (jobId : κ) (progress : ω) : Queue κ δ ω :=
  q.modify jobId fun job => { job with state := .active progress }

/-- A job that completes is removed. -/
def complete (jobId : κ) : Queue κ δ ω := q.deleteWhere fun k _ => k = jobId

/-- A job fails. -/
def fail (jobId : κ) (attempts : ℕ) (backoff : ℕ → ℕ) (now : ℕ) : Queue κ δ ω :=
  q.modify jobId (Job.retry attempts backoff now)

variable {q} {k jobId : κ} {job : Job δ ω}

theorem find?_add_of_some (h : q.find? jobId = some job) (data : δ) (now delay : ℕ) :
    q.add jobId data now delay = q := by
  have hmem : jobId ∈ q.rows.map Prod.fst :=
    List.mem_map.mpr ⟨(jobId, job), Table.mem_rows_of_find? h, rfl⟩
  exact dif_pos hmem

theorem find?_add_of_none (h : q.find? jobId = none) (data : δ) (now delay : ℕ) :
    (q.add jobId data now delay).find? k =
      if k = jobId then some ⟨data, 0, .delayed (now + delay)⟩ else q.find? k :=
  Table.find?_insert_of_none h _

/-- A job that is found after an addition was there, or is the one that was added. -/
theorem find?_add_cases {data : δ} {now delay : ℕ}
    (h : (q.add jobId data now delay).find? k = some job) :
    q.find? k = some job ∨
      (k = jobId ∧ q.find? jobId = none ∧ job = ⟨data, 0, .delayed (now + delay)⟩) := by
  cases hfind : q.find? jobId with
  | some old =>
    rw [find?_add_of_some hfind] at h
    exact .inl h
  | none =>
    rw [find?_add_of_none hfind] at h
    split at h
    · next hk => exact .inr ⟨hk, rfl, (Option.some.inj h).symm⟩
    · exact .inl h

theorem find?_deleteId : (Table.deleteWhere q fun k _ => k = jobId).find? k =
    if k = jobId then none else q.find? k := by
  rw [Table.find?_deleteWhere]
  by_cases hk : k = jobId
  · cases q.find? k <;> simp [hk]
  · cases q.find? k <;> simp [hk]

theorem find?_complete :
    (q.complete jobId).find? k = if k = jobId then none else q.find? k :=
  find?_deleteId

/-- A removal that succeeds drops one job, which does not run. -/
theorem remove_ok {q' : Queue κ δ ω} (h : q.remove jobId = .ok q') :
    (∀ job, q.find? jobId = some job → job.isActive = false) ∧
      ∀ k, q'.find? k = if k = jobId then none else q.find? k := by
  rw [remove] at h
  split at h
  · cases h
  · next hidle =>
    obtain rfl := Except.ok.inj h
    constructor
    · intro job hjob
      simpa [hjob] using hidle
    · intro k
      exact find?_deleteId

theorem find?_proceed (progress : ω) : (q.proceed jobId progress).find? k =
    if k = jobId then (q.find? k).map fun job => { job with state := .active progress }
    else q.find? k := by
  rw [proceed, Table.find?_modify]

/-- The jobs with an id are at most one. -/
theorem filter_id (h : q.find? jobId = some job) :
    (q.rows.filter fun j => j.1 = jobId) = [(jobId, job)] :=
  Table.filter_key h

end Queue

end Jobs
