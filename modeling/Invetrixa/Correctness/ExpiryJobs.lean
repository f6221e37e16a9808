import Invetrixa.Correctness.GivenBack
import Invetrixa.Stock.ReservationQueue

/-!
# Reservations and their expiry jobs

A reservation and its job are kept in two stores, and each request on reservations changes first
the one and then the other. As long as every job that is added replaces what the reservation
needs, and no job that decides to skip is the last word on a reservation, each active reservation
that nothing works on has one job, due when it expires. A job that fires while its reservation is
being extended blocks its own replacement, decides to do nothing, and leaves the reservation
without a job.

## Main definitions

- `WillExpire`, `ToSchedule` — a job that will have a reservation expire, a request that is yet
  to add one
- `KeepsExpiry` — no addition is lost, and none outdated
- `QueuedStore.Sound`, `QueuedStore.Covered` — the invariant

## Main results

- `Covered.exec` — what one step keeps
- `active_has_expiry_job`, `extended_while_firing`
-/

namespace Invetrixa

open Rowstore Requests Jobs ReservationService ReservationQueueProcessor ReservationQueueService

/-- A job of the queue. -/
abbrev ExpiryJob := Job ExpireReservationJobData ProcessState

/-- The job will have the reservation expire: it is due when the reservation expires, or it runs
and has not decided to skip. -/
def WillExpire (r : StockReservation) (job : ExpiryJob) : Prop :=
  match job.state with
  | .delayed dueAt => dueAt = r.expiresAt
  | .active .called | .active (.expiring _) => True
  | .active .returned | .failed => False

instance (r : StockReservation) (job : ExpiryJob) : Decidable (WillExpire r job) := by
  rw [WillExpire]
  split <;> infer_instance

/-- The reservation that a request works on, when it has one. -/
def ReservationTask.reservationId : ReservationTask → Option Id
  | .create _ _ => none
  | .update _ id _ _ | .release id _ | .cancel id | .reschedule _ id _ | .schedule _ id _ => some id

/-- The request has changed the reservation and is yet to add its job. -/
def ReservationTask.Schedules (id : Id) : ReservationTask → Prop
  | .reschedule _ id' _ | .schedule _ id' _ => id' = id
  | .create _ _ | .update _ _ _ _ | .release _ _ | .cancel _ => False

instance (id : Id) (task : ReservationTask) : Decidable (task.Schedules id) := by
  simp only [ReservationTask.Schedules]
  split <;> infer_instance

/-- One of the requests is yet to add the job of the reservation. -/
def ToSchedule (tasks : List ReservationTask) (id : Id) : Prop :=
  ∃ task ∈ tasks, task.Schedules id

instance (tasks : List ReservationTask) (id : Id) : Decidable (ToSchedule tasks id) :=
  inferInstanceAs (Decidable (∃ task ∈ tasks, task.Schedules id))

/-- When the job of an active reservation is added: another request is to add it once more, or
the id is free and what is scheduled is what the reservation has and has not passed, or the job
that is there will do. -/
def AddsJob (c : QueuedStore) (others : List ReservationTask) : ReservationTask → Prop
  | .schedule _ id expiresAt => ∀ r ∈ c.store.reservations.find? id, r.status = .active →
      ToSchedule others id ∨
      ((c.queue.find? id).isNone ∧ expiresAt = r.expiresAt ∧ c.clock.time ≤ expiresAt) ∨
      ∃ job ∈ c.queue.find? id, WillExpire r job
  | .create _ _ | .update _ _ _ _ | .release _ _ | .cancel _ | .reschedule _ _ _ => True

/-- A job that reads finds its reservation expired, or closed, or about to get another job. -/
def FiresInTime (c : QueuedStore) (id : Id) (job : ExpiryJob) : Prop :=
  match job.state with
  | .active .called => ∀ r ∈ c.store.reservations.find? id, r.status = .active →
      r.expiresAt ≤ c.clock.time ∨ ToSchedule c.tasks id
  | _ => True

/-- No addition is lost, and none outdated. -/
def KeepsExpiry (c : QueuedStore) : ReservationEvent → Prop
  | .next i => ∀ task ∈ c.tasks[i]?, AddsJob c (c.tasks.eraseIdx i) task
  | .work id => ∀ job ∈ c.queue.find? id, FiresInTime c id job
  | .tick _ | .create _ _ | .update _ _ _ | .release _ _ => True

instance (c : QueuedStore) (others : List ReservationTask) (task : ReservationTask) :
    Decidable (AddsJob c others task) := by
  simp only [AddsJob]
  split <;> infer_instance

instance (c : QueuedStore) (id : Id) (job : ExpiryJob) : Decidable (FiresInTime c id job) := by
  rw [FiresInTime]
  split <;> infer_instance

instance (c : QueuedStore) (e : ReservationEvent) : Decidable (KeepsExpiry c e) := by
  simp only [KeepsExpiry]
  split <;> infer_instance

variable {s s' : Store} {c : QueuedStore} {id : Id} {r : StockReservation}

section Queue

variable {queue : ReservationQueue} {clock : Clock} {tenantId : Id} {expiresAt : ℕ} {k : Id}

/-- With the id free, the job is due at `expiresAt`, or at once. -/
theorem find?_scheduleExpiry (h : queue.find? id = none) :
    (scheduleExpiry clock id tenantId expiresAt queue).find? k =
      if k = id then some ⟨⟨id, tenantId⟩, 0, .delayed (max clock.time expiresAt)⟩
      else queue.find? k := by
  have hdue : clock.time + (max 0 ((expiresAt : ℤ) - clock.time)).toNat =
      max clock.time expiresAt := by omega
  show (queue.add id _ _ _).find? k = _
  rw [Queue.find?_add_of_none h, hdue]

/-- Jobs of other reservations stay. -/
theorem find?_scheduleExpiry_of_ne (h : k ≠ id) :
    (scheduleExpiry clock id tenantId expiresAt queue).find? k = queue.find? k := by
  cases hfind : queue.find? id with
  | none => rw [find?_scheduleExpiry hfind, if_neg h]
  | some job => exact congrArg (Table.find? · k) (Queue.find?_add_of_some hfind _ _ _)

/-- A job that can be removed is, and any other stays. -/
theorem cancelExpiry_cases (id : Id) (queue : ReservationQueue) :
    cancelExpiry id queue = queue ∨
      ∀ k, (cancelExpiry id queue).find? k = if k = id then none else queue.find? k := by
  rw [cancelExpiry]
  cases hfind : queue.find? id with
  | none => exact .inl rfl
  | some job =>
    dsimp only
    cases hremove : queue.remove id with
    | error e => exact .inl rfl
    | ok queue' => exact .inr (Queue.remove_ok hremove).2

theorem find?_cancelExpiry_of_ne (h : k ≠ id) :
    (cancelExpiry id queue).find? k = queue.find? k := by
  rcases cancelExpiry_cases id queue with heq | hfind
  · rw [heq]
  · rw [hfind, if_neg h]

end Queue

section Rows

/-- Every reservation has the balance row of its place. -/
def Store.Backed (s : Store) : Prop :=
  ∀ id r, s.reservations.find? id = some r → s.HasBalance r.productId r.locationId

/-- The reservation is there, and it is the tenant's. -/
def Owned (s : Store) (tenantId id : Id) : Prop :=
  ∃ r, s.reservations.find? id = some r ∧ r.tenantId = tenantId

/-- Reservations stay at their places and with their tenants, and closed ones stay closed. -/
structure RowsStay (s s' : Store) : Prop where
  inPlace : ∀ x, InPlace s x → InPlace s' x
  closed : ∀ id r, s.reservations.find? id = some r → r.status ≠ .active →
    ∃ r', s'.reservations.find? id = some r' ∧ r'.status ≠ .active

theorem RowsStay.owned (h : RowsStay s s') {tenantId : Id} (hs : Owned s tenantId id) :
    Owned s' tenantId id := by
  obtain ⟨r, hr, rfl⟩ := hs
  obtain ⟨r', hr', _, _, ht⟩ := h.inPlace (id, r) ⟨r, hr, rfl, rfl, rfl⟩
  exact ⟨r', hr', ht⟩

/-- What a request on one reservation may write of it. -/
structure Amends (f : StockReservation → StockReservation) : Prop where
  productId : ∀ r, (f r).productId = r.productId
  locationId : ∀ r, (f r).locationId = r.locationId
  tenantId : ∀ r, (f r).tenantId = r.tenantId
  status : ∀ r, r.status ≠ .active → (f r).status ≠ .active

theorem amends_updateData (dto : UpdateReservationDto) : Amends (updateData dto) :=
  ⟨fun _ => rfl, fun _ => rfl, fun _ => rfl, fun _ h => h⟩

theorem amends_close {status : ReservationStatus} (h : status ≠ .active) :
    Amends fun r => { r with status } :=
  ⟨fun _ => rfl, fun _ => rfl, fun _ => rfl, fun _ _ => h⟩

/-- The rows after one reservation has been amended. -/
def AmendedTo (id : Id) (f : StockReservation → StockReservation) (s s' : Store) : Prop :=
  (∀ k, s'.reservations.find? k = (s.reservations.find? k).map fun r =>
      if k = id then f r else r) ∧
    ∀ p l, s.HasBalance p l → s'.HasBalance p l

theorem amendedTo_of_amend {f : StockReservation → StockReservation} {diff : ℤ}
    (h : s' = book .exact (.amend id f r.productId r.locationId diff) s) : AmendedTo id f s s' := by
  obtain ⟨hfind, hbalances⟩ := find?_of_amend h
  refine ⟨hfind, fun p l hrow => ?_⟩
  rw [Store.HasBalance, hbalances p l, Option.isSome_map]
  exact hrow

theorem AmendedTo.find? {f : StockReservation → StockReservation} (h : AmendedTo id f s s')
    (hr : s.reservations.find? id = some r) : s'.reservations.find? id = some (f r) := by
  rw [h.1, hr, Option.map_some, if_pos rfl]

theorem AmendedTo.rowsStay {f : StockReservation → StockReservation} (h : AmendedTo id f s s')
    (hf : Amends f) : RowsStay s s' := by
  constructor
  · rintro ⟨k, x⟩ ⟨r, hr, hp, hl, ht⟩
    refine ⟨if k = id then f r else r, by rw [h.1, hr, Option.map_some], ?_⟩
    split
    · exact ⟨(hf.productId r).trans hp, (hf.locationId r).trans hl, (hf.tenantId r).trans ht⟩
    · exact ⟨hp, hl, ht⟩
  · intro k r hr hclosed
    refine ⟨if k = id then f r else r, by rw [h.1, hr, Option.map_some], ?_⟩
    split
    · exact hf.status r hclosed
    · exact hclosed

theorem AmendedTo.backed {f : StockReservation → StockReservation} (h : AmendedTo id f s s')
    (hf : Amends f) (hs : s.Backed) : s'.Backed := by
  intro k r' hr'
  rw [h.1] at hr'
  obtain ⟨r, hr, rfl⟩ := Option.map_eq_some_iff.mp hr'
  have hrow := h.2 _ _ (hs k r hr)
  split
  · rw [hf.productId, hf.locationId]
    exact hrow
  · exact hrow

/-- The rows after `create`. -/
theorem reserve_rows {s : Store} (r : StockReservation) :
    RowsStay s (reserve r s) ∧ (s.Backed → (reserve r s).Backed) := by
  have hfind : ∀ {k r'}, s.reservations.find? k = some r' →
      (reserve r s).reservations.find? k = some r' :=
    fun h => Serial.find?_create_of_some h r
  have hrow : ∀ p l, s.HasBalance p l ∨ (p, l) = (r.productId, r.locationId) →
      (reserve r s).HasBalance p l := by
    intro p l h
    show ((s.balances.upsert _ _ _).find? (p, l)).isSome = true
    rw [Table.find?_upsert]
    split
    · rfl
    · next hne => exact h.resolve_right hne
  refine ⟨⟨?_, fun k r' hr' hclosed => ⟨r', hfind hr', hclosed⟩⟩, fun hs k r' hr' => ?_⟩
  · rintro ⟨k, x⟩ ⟨r', hr', hplace⟩
    exact ⟨r', hfind hr', hplace⟩
  · rcases Serial.find?_create_cases hr' with hr' | ⟨_, rfl⟩
    · exact hrow _ _ (.inl (hs k r' hr'))
    · exact hrow _ _ (.inr rfl)

/-- The transaction that closes a reservation finds its rows. -/
theorem close_isOk (hs : s.Backed) (status : ReservationStatus) (hr : InPlace s (id, r)) :
    ∃ s', close id status r s = .ok ((), s') := by
  obtain ⟨r₀, hr₀, hp, hl, _⟩ := hr
  have hrow := hs id r₀ hr₀
  dsimp only at hp hl hr₀
  rw [hp, hl, Store.HasBalance] at hrow
  obtain ⟨b, hb⟩ := Option.isSome_iff_exists.mp hrow
  let s₁ := { s with reservations := s.reservations.modify id fun r => { r with status } }
  have hupdate : updateReservation id (fun r => { r with status }) s = .ok s₁ := by
    rw [updateReservation, hr₀]
  obtain ⟨s₂, hbalance⟩ : ∃ s₂,
      incrementReserved r.productId r.locationId (-r.quantity) s₁ = .ok s₂ := by
    rw [incrementReserved, show s₁.balances.find? (r.productId, r.locationId) = some b from hb]
    exact ⟨_, rfl⟩
  refine ⟨s₂, ?_⟩
  rw [close, hupdate]
  show (incrementReserved r.productId r.locationId (-r.quantity) s₁ >>= _) = _
  rw [hbalance]
  rfl

end Rows

section Soundness

/-- A step of a request leaves the other requests alone. -/
theorem ReservationTask.tasks_step (task : ReservationTask) (c : QueuedStore) :
    (task.step c).1.tasks = c.tasks := by
  cases task
  all_goals
    simp only [ReservationTask.step]
    try split <;> rfl

/-- What a request in progress relies on. -/
def ReservationTask.Fits (s : Store) : ReservationTask → Prop
  | .create _ _ => True
  | .update tenantId id _ r => r.tenantId = tenantId ∧ InPlace s (id, r)
  | .release id r => InPlace s (id, r)
  | .cancel id => ∃ r, s.reservations.find? id = some r ∧ r.status ≠ .active
  | .reschedule tenantId id _ | .schedule tenantId id _ => Owned s tenantId id

/-- The job is of a reservation that is there, and what it has read is in its place. -/
structure JobFits (s : Store) (id : Id) (job : ExpiryJob) : Prop where
  reservationId : job.data.reservationId = id
  owned : Owned s job.data.tenantId id
  expiring : ∀ r, job.state = .active (.expiring r) → InPlace s (id, r)

theorem ReservationTask.Fits.mono (hstay : RowsStay s s') {task : ReservationTask}
    (h : task.Fits s) : task.Fits s' := by
  cases task with
  | create tenantId dto => trivial
  | update tenantId id dto r => exact ⟨h.1, hstay.inPlace _ h.2⟩
  | release id r => exact hstay.inPlace _ h
  | cancel id =>
    obtain ⟨r, hr, hclosed⟩ := h
    exact hstay.closed id r hr hclosed
  | reschedule tenantId id expiresAt => exact hstay.owned h
  | schedule tenantId id expiresAt => exact hstay.owned h

theorem JobFits.mono (hstay : RowsStay s s') {job : ExpiryJob} (h : JobFits s id job) :
    JobFits s' id job where
  reservationId := h.reservationId
  owned := hstay.owned h.owned
  expiring r hr := hstay.inPlace _ (h.expiring r hr)

/-- A job of a reservation that has not read it. -/
theorem JobFits.of_data {job job' : ExpiryJob} (h : JobFits s id job) (hdata : job'.data = job.data)
    (hstate : ∀ r, job'.state ≠ .active (.expiring r)) : JobFits s id job' where
  reservationId := hdata ▸ h.reservationId
  owned := hdata ▸ h.owned
  expiring r hr := absurd hr (hstate r)

namespace QueuedStore

/-- The rows, the requests in progress and the jobs fit together. -/
structure Sound (c : QueuedStore) : Prop where
  backed : c.store.Backed
  tasks : ∀ task ∈ c.tasks, task.Fits c.store
  jobs : c.queue.All (JobFits c.store)

theorem Sound.withStore (h : c.Sound) (hstay : RowsStay c.store s') (hbacked : s'.Backed) :
    Sound { c with store := s' } where
  backed := hbacked
  tasks task hmem := (h.tasks task hmem).mono hstay
  jobs := h.jobs.imp fun _ _ hjob => hjob.mono hstay

theorem Sound.withQueue (h : c.Sound) {queue : ReservationQueue}
    (hjobs : queue.All (JobFits c.store)) : Sound { c with queue } where
  backed := h.backed
  tasks := h.tasks
  jobs := hjobs

theorem Sound.withTasks (h : c.Sound) {tasks : List ReservationTask}
    (htasks : ∀ task ∈ tasks, task.Fits c.store) : Sound { c with tasks } where
  backed := h.backed
  tasks := htasks
  jobs := h.jobs

theorem Sound.amended (h : c.Sound) {f : StockReservation → StockReservation}
    (hs : AmendedTo id f c.store s') (hf : Amends f) : Sound { c with store := s' } :=
  h.withStore (hs.rowsStay hf) (hs.backed hf h.backed)

theorem Sound.cancelExpiry (h : c.Sound) (id : Id) :
    Sound { c with queue := cancelExpiry id c.queue } := by
  refine h.withQueue fun k job hjob => h.jobs k job ?_
  rcases cancelExpiry_cases id c.queue with heq | hfind
  · rwa [heq] at hjob
  · rw [hfind] at hjob
    split at hjob
    · cases hjob
    · exact hjob

theorem Sound.scheduleExpiry (h : c.Sound) {tenantId : Id} (hid : Owned c.store tenantId id)
    (expiresAt : ℕ) :
    Sound { c with queue := scheduleExpiry c.clock id tenantId expiresAt c.queue } := by
  refine h.withQueue fun k job hjob => ?_
  rcases Queue.find?_add_cases hjob with hold | ⟨rfl, _, rfl⟩
  · exact h.jobs k job hold
  · exact ⟨rfl, hid, nofun⟩

theorem Sound.accept (h : c.Sound) {task : ReservationTask} (hfit : task.Fits c.store) :
    (c.accept task).Sound := by
  refine h.withTasks fun task' hmem => ?_
  rcases List.mem_append.mp hmem with hmem | hmem
  · exact h.tasks task' hmem
  · rwa [List.mem_singleton.mp hmem]

/-- A step of a request keeps the state sound, and leaves a request that fits it. -/
theorem Sound.step (h : c.Sound) {task : ReservationTask} (hfit : task.Fits c.store) :
    (task.step c).1.Sound ∧ ∀ rest ∈ (task.step c).2, rest.Fits (task.step c).1.store := by
  cases task with
  | create tenantId dto =>
    simp only [ReservationTask.step]
    split
    · next id store hcommit =>
      obtain ⟨quantity, rfl, rfl⟩ := commitCreate_ok hcommit
      obtain ⟨hstay, hbacked⟩ := reserve_rows (s := c.store) (newReservation tenantId dto quantity)
      refine ⟨h.withStore hstay (hbacked h.backed), fun rest hrest => ?_⟩
      obtain rfl := Option.some.inj hrest
      refine ⟨newReservation tenantId dto quantity, ?_, rfl⟩
      exact (Serial.find?_create _).trans (if_pos rfl)
    · exact ⟨h, fun rest hrest => absurd hrest (Option.not_mem_none rest)⟩
  | update tenantId id dto r =>
    simp only [ReservationTask.step]
    split
    · next store hcommit =>
      have hs := amendedTo_of_amend (commitUpdate_ok .exact hcommit).1
      have hsound := h.amended hs (amends_updateData dto)
      refine ⟨hsound, fun rest hrest => ?_⟩
      obtain ⟨e, _, rfl⟩ := Option.map_eq_some_iff.mp hrest
      obtain ⟨r', hr', _, _, ht⟩ := (hs.rowsStay (amends_updateData dto)).inPlace _ hfit.2
      exact ⟨r', hr', ht.trans hfit.1⟩
    · exact ⟨h, fun rest hrest => absurd hrest (Option.not_mem_none rest)⟩
  | release id r =>
    simp only [ReservationTask.step]
    split
    · next store hcommit =>
      have hs := amendedTo_of_amend (close_ok .exact hcommit).1
      refine ⟨h.amended hs (amends_close (by decide)), fun rest hrest => ?_⟩
      obtain rfl := Option.some.inj hrest
      obtain ⟨r₀, hr₀, _⟩ := hfit
      exact ⟨{ r₀ with status := .released }, hs.find? hr₀, nofun⟩
    · exact ⟨h, fun rest hrest => absurd hrest (Option.not_mem_none rest)⟩
  | cancel id =>
    simp only [ReservationTask.step]
    exact ⟨h.cancelExpiry id, fun rest hrest => absurd hrest (Option.not_mem_none rest)⟩
  | reschedule tenantId id expiresAt =>
    simp only [ReservationTask.step]
    -- The job is removed first and added again in a task of its own.
    refine ⟨h.cancelExpiry id, fun rest hrest => ?_⟩
    obtain rfl := Option.some.inj hrest
    exact hfit
  | schedule tenantId id expiresAt =>
    simp only [ReservationTask.step]
    exact ⟨h.scheduleExpiry hfit expiresAt,
      fun rest hrest => absurd hrest (Option.not_mem_none rest)⟩

/-- A step of the worker keeps the state sound. -/
theorem Sound.work (h : c.Sound) (id : Id) : (c.work id).Sound := by
  have hproceed {c : QueuedStore} (h : c.Sound) {progress : ProcessState}
      (hread : ∀ r, progress = .expiring r → InPlace c.store (id, r)) :
      Sound { c with queue := c.queue.proceed id progress } := by
    refine h.withQueue (h.jobs.modify fun job _ hjob => ⟨hjob.1, hjob.2, fun r hr => ?_⟩)
    exact hread r (JobState.active.inj hr)
  rw [QueuedStore.work]
  cases hjob : c.queue.find? id with
  | none => exact h
  | some job =>
    have hfits := h.jobs id job hjob
    dsimp only
    split
    · refine h.withQueue (h.jobs.modify fun job _ hjob => ?_)
      split
      · split
        · refine hjob.of_data rfl fun r hr => ?_
          cases hr
        · exact hjob
      · exact hjob
      · exact hjob
    · split
      · refine hproceed h fun r hr => ?_
        cases hr
      · next r hread =>
        refine hproceed h fun r' hr' => ?_
        obtain rfl := ProcessState.expiring.inj hr'
        have hr := (readProcess_eq_some hread).1
        rw [hfits.reservationId] at hr
        exact ⟨r, hr, rfl, rfl, rfl⟩
    · split
      · next store hcommit =>
        have hs := amendedTo_of_amend (close_ok .exact hcommit).1
        refine hproceed (h.amended hs (amends_close (by decide))) fun r hr => ?_
        cases hr
      · refine h.withQueue (h.jobs.modify fun job _ hjob => hjob.of_data rfl fun r hr => ?_)
        rw [Job.retry] at hr
        dsimp only at hr
        split at hr <;> cases hr
    · exact h.withQueue (h.jobs.deleteWhere _)
    · exact h

theorem Sound.exec (h : c.Sound) (e : ReservationEvent) : (c.exec e).Sound := by
  cases e with
  | tick clock =>
    simp only [QueuedStore.exec]
    split
    · exact ⟨h.backed, h.tasks, h.jobs⟩
    · exact h
  | create tenantId dto =>
    simp only [QueuedStore.exec]
    split
    · exact h.accept trivial
    · exact h
  | update tenantId id dto =>
    simp only [QueuedStore.exec]
    split
    · next r hread =>
      obtain ⟨hr, ht⟩ := findReservation_ok (readUpdate_found hread).1
      exact h.accept ⟨ht, r, hr, rfl, rfl, rfl⟩
    · exact h
  | release tenantId id =>
    simp only [QueuedStore.exec]
    split
    · next r hread => exact h.accept ⟨r, (readRelease_ok hread).1, rfl, rfl, rfl⟩
    · exact h
  | next i =>
    simp only [QueuedStore.exec]
    split
    · exact h
    · next task htask =>
      obtain ⟨hstep, hrest⟩ := h.step (h.tasks task (List.mem_of_getElem? htask))
      refine hstep.withTasks fun task' hmem => ?_
      rcases List.mem_append.mp hmem with hmem | hmem
      · refine hstep.tasks task' ?_
        rw [task.tasks_step]
        exact List.mem_of_mem_eraseIdx hmem
      · exact hrest task' (Option.mem_toList.mp hmem)
  | work id => exact h.work id

end QueuedStore

end Soundness

section Coverage

variable {queue : ReservationQueue} {tasks rest : List ReservationTask} {task : ReservationTask}
  {i : ℕ}

/-- A job that will have the reservation expire is there, or is yet to be added. -/
def Expiring (queue : ReservationQueue) (tasks : List ReservationTask) (id : Id)
    (r : StockReservation) : Prop :=
  (∃ job, queue.find? id = some job ∧ WillExpire r job) ∨ ToSchedule tasks id

/-- Every active reservation is going to expire. -/
def QueuedStore.Covered (c : QueuedStore) : Prop :=
  ∀ id r, c.store.reservations.find? id = some r → r.status = .active →
    Expiring c.queue c.tasks id r

/-- Only the time at which it expires matters of a reservation. -/
theorem WillExpire.congr {r' : StockReservation} {job : ExpiryJob} (h : WillExpire r job)
    (htime : r'.expiresAt = r.expiresAt) : WillExpire r' job := by
  unfold WillExpire at h ⊢
  rw [htime]
  exact h

theorem readProcess_eq_none {clock : Clock} {tenantId : Id}
    (h : readProcess clock tenantId id s = none) (hr : s.reservations.find? id = some r)
    (ht : r.tenantId = tenantId) (hactive : r.status = .active) : clock.time < r.expiresAt := by
  rw [readProcess] at h
  rw [hr] at h
  simpa [ht, hactive] using h

theorem AmendedTo.cases {f : StockReservation → StockReservation} {k : Id}
    {r' : StockReservation} (h : AmendedTo id f s s')
    (hr' : s'.reservations.find? k = some r') :
    ∃ r, s.reservations.find? k = some r ∧ ((k = id ∧ r' = f r) ∨ (k ≠ id ∧ r' = r)) := by
  rw [h.1] at hr'
  obtain ⟨r, hr, rfl⟩ := Option.map_eq_some_iff.mp hr'
  refine ⟨r, hr, ?_⟩
  by_cases hk : k = id
  · exact .inl ⟨hk, if_pos hk⟩
  · exact .inr ⟨hk, if_neg hk⟩

/-- A request that is yet to add the job still is after a step of another request, or after its
own step when that does not add it. -/
theorem ToSchedule.next (htask : c.tasks[i]? = some task) (h : ToSchedule c.tasks id)
    (hrest : task.Schedules id → ToSchedule rest id) :
    ToSchedule (c.tasks.eraseIdx i ++ rest) id := by
  obtain ⟨other, hother, hschedules⟩ := h
  obtain ⟨j, hj⟩ := List.mem_iff_getElem?.mp hother
  by_cases hji : j = i
  · subst hji
    obtain rfl := Option.some.inj (htask.symm.trans hj)
    obtain ⟨next, hnext, hid⟩ := hrest hschedules
    exact ⟨next, List.mem_append_right _ hnext, hid⟩
  · have hmem := List.mem_eraseIdx_iff_getElem?.mpr ⟨j, hji, hj⟩
    exact ⟨other, List.mem_append_left _ hmem, hschedules⟩

namespace QueuedStore

/-- A step of a request that leaves the jobs alone, and makes no reservation expire at another
time unless it goes on to add the job. -/
theorem Covered.ofRows (h : c.Covered) (htask : c.tasks[i]? = some task)
    (hschedules : ∀ k, ¬task.Schedules k)
    (hrows : ∀ k r', s'.reservations.find? k = some r' → r'.status = .active →
      (∃ r, c.store.reservations.find? k = some r ∧ r.status = .active ∧
        r'.expiresAt = r.expiresAt) ∨ ToSchedule rest k) :
    Covered { c with store := s', tasks := c.tasks.eraseIdx i ++ rest } := by
  intro k r' hr' hactive
  rcases hrows k r' hr' hactive with ⟨r, hr, hactive', htime⟩ | ⟨next, hnext, hid⟩
  · rcases h k r hr hactive' with ⟨job, hjob, hwill⟩ | hto
    · exact .inl ⟨job, hjob, hwill.congr htime⟩
    · exact .inr (hto.next htask fun hid => absurd hid (hschedules k))
  · exact .inr ⟨next, List.mem_append_right _ hnext, hid⟩

/-- A step of a request that leaves the rows alone, and the jobs of active reservations unless it
goes on to add the job. -/
theorem Covered.ofQueue (h : c.Covered) (htask : c.tasks[i]? = some task)
    (hjobs : ∀ k r, c.store.reservations.find? k = some r → r.status = .active →
      (queue.find? k = c.queue.find? k ∧ ¬task.Schedules k) ∨ ToSchedule rest k) :
    Covered { c with queue, tasks := c.tasks.eraseIdx i ++ rest } := by
  intro k r hr hactive
  rcases hjobs k r hr hactive with ⟨hfind, hschedules⟩ | ⟨next, hnext, hid⟩
  · rcases h k r hr hactive with ⟨job, hjob, hwill⟩ | hto
    · exact .inl ⟨job, hfind.trans hjob, hwill⟩
    · exact .inr (hto.next htask fun hid => absurd hid hschedules)
  · exact .inr ⟨next, List.mem_append_right _ hnext, hid⟩

/-- When the job is added under the condition, the reservation will expire. -/
theorem Covered.schedule (h : c.Covered) {tenantId : Id} {expiresAt : ℕ}
    (htask : c.tasks[i]? = some (.schedule tenantId id expiresAt))
    (hadds : AddsJob c (c.tasks.eraseIdx i) (.schedule tenantId id expiresAt)) :
    Covered
      { c with
        queue := scheduleExpiry c.clock id tenantId expiresAt c.queue
        tasks := c.tasks.eraseIdx i ++ [] } := by
  intro k r hr hactive
  dsimp only at hr ⊢
  by_cases hk : k = id
  · subst hk
    rcases hadds r hr hactive with hto | ⟨hfree, htime, hclock⟩ | ⟨job, hjob, hwill⟩
    · rw [List.append_nil]
      exact .inr hto
    · refine .inl ⟨_, (find?_scheduleExpiry (Option.isNone_iff_eq_none.mp hfree)).trans
        (if_pos rfl), ?_⟩
      show max c.clock.time expiresAt = r.expiresAt
      omega
    · refine .inl ⟨job, ?_, hwill⟩
      show (c.queue.add _ _ _ _).find? k = some job
      rw [Queue.find?_add_of_some hjob]
      exact hjob
  · rcases h k r hr hactive with ⟨job, hjob, hwill⟩ | hto
    · exact .inl ⟨job, (find?_scheduleExpiry_of_ne hk).trans hjob, hwill⟩
    · exact .inr (hto.next htask fun hid => absurd hid.symm hk)

/-- What one step of a request keeps. -/
theorem Covered.next (h : c.Covered) (hsound : c.Sound) (htask : c.tasks[i]? = some task)
    (hadds : AddsJob c (c.tasks.eraseIdx i) task) :
    Covered { (task.step c).1 with tasks := c.tasks.eraseIdx i ++ (task.step c).2.toList } := by
  have hfit := hsound.tasks task (List.mem_of_getElem? htask)
  -- A transaction that fails leaves the rows as they are, and its request was not to add a job.
  have hfailed (hschedules : ∀ k, ¬task.Schedules k) :
      Covered { c with tasks := c.tasks.eraseIdx i ++ [] } :=
    h.ofRows htask hschedules fun k r hr hactive => .inl ⟨r, hr, hactive, rfl⟩
  cases task with
  | create tenantId dto =>
    simp only [ReservationTask.step]
    split
    · next id store hcommit =>
      obtain ⟨quantity, rfl, rfl⟩ := commitCreate_ok hcommit
      refine h.ofRows htask (fun _ => not_false) fun k r' hr' hactive => ?_
      rcases Serial.find?_create_cases hr' with hold | ⟨rfl, _⟩
      · exact .inl ⟨r', hold, hactive, rfl⟩
      · exact .inr ⟨_, List.mem_singleton_self _, rfl⟩
    · exact hfailed fun _ => not_false
  | update tenantId id dto r =>
    simp only [ReservationTask.step]
    split
    · next store hcommit =>
      have hs := amendedTo_of_amend (commitUpdate_ok .exact hcommit).1
      refine h.ofRows htask (fun _ => not_false) fun k r' hr' hactive => ?_
      obtain ⟨r₀, hr₀, ⟨rfl, rfl⟩ | ⟨_, rfl⟩⟩ := hs.cases hr'
      · cases htime : dto.expiresAt with
        | none => exact .inl ⟨r₀, hr₀, hactive, by simp [updateData, htime]⟩
        | some expiresAt => exact .inr ⟨_, List.mem_singleton_self _, rfl⟩
      · exact .inl ⟨r', hr₀, hactive, rfl⟩
    · exact hfailed fun _ => not_false
  | release id r =>
    simp only [ReservationTask.step]
    split
    · next store hcommit =>
      have hs := amendedTo_of_amend (close_ok .exact hcommit).1
      refine h.ofRows htask (fun _ => not_false) fun k r' hr' hactive => ?_
      obtain ⟨r₀, hr₀, ⟨rfl, rfl⟩ | ⟨_, rfl⟩⟩ := hs.cases hr'
      · cases hactive
      · exact .inl ⟨r', hr₀, hactive, rfl⟩
    · exact hfailed fun _ => not_false
  | cancel id =>
    simp only [ReservationTask.step]
    refine h.ofQueue htask fun k r hr hactive => .inl ⟨?_, not_false⟩
    obtain ⟨r₀, hr₀, hclosed⟩ := hfit
    refine find?_cancelExpiry_of_ne fun hk => hclosed ?_
    subst hk
    rwa [← Option.some.inj (hr.symm.trans hr₀)]
  | reschedule tenantId id expiresAt =>
    simp only [ReservationTask.step]
    refine h.ofQueue htask fun k r hr hactive => ?_
    by_cases hk : k = id
    · subst hk
      exact .inr ⟨_, List.mem_singleton_self _, rfl⟩
    · exact .inl ⟨find?_cancelExpiry_of_ne hk, fun hid => hk hid.symm⟩
  | schedule tenantId id expiresAt => exact h.schedule htask hadds

/-- A change of one job that keeps it going to expire an active reservation. -/
theorem Covered.ofJob (h : c.Covered) (id : Id)
    (hother : ∀ k ≠ id, queue.find? k = c.queue.find? k)
    (hjob : ∀ r, c.store.reservations.find? id = some r → r.status = .active → ∀ job,
      c.queue.find? id = some job → WillExpire r job → Expiring queue c.tasks id r) :
    Covered { c with queue } := by
  intro k r hr hactive
  rcases h k r hr hactive with ⟨job, hfind, hwill⟩ | hto
  · by_cases hk : k = id
    · subst hk
      exact hjob r hr hactive job hfind hwill
    · exact .inl ⟨job, (hother k hk).trans hfind, hwill⟩
  · exact .inr hto

/-- What one step of the worker keeps. -/
theorem Covered.work (h : c.Covered) (hsound : c.Sound)
    (hfires : ∀ job ∈ c.queue.find? id, FiresInTime c id job) : (c.work id).Covered := by
  rw [QueuedStore.work]
  cases hjob : c.queue.find? id with
  | none => exact h
  | some job =>
    have hfits := hsound.jobs id job hjob
    have hproceed (progress : ProcessState) : (c.queue.proceed id progress).find? id =
        some { job with state := .active progress } := by
      rw [Queue.find?_proceed, if_pos rfl, hjob, Option.map_some]
    have hother (progress : ProcessState) (k : Id) (hk : k ≠ id) :
        (c.queue.proceed id progress).find? k = c.queue.find? k := by
      rw [Queue.find?_proceed, if_neg hk]
    dsimp only
    split
    · next dueAt hdelayed =>
      refine h.ofJob id (fun k hk => ?_) fun r _ _ job' hjob' hwill => ?_
      · rw [Queue.start, Table.find?_modify, if_neg hk]
      · obtain rfl := Option.some.inj (hjob.symm.trans hjob')
        refine .inl ⟨_, by rw [Queue.start, Table.find?_modify, if_pos rfl, hjob]; rfl, ?_⟩
        simp only [hdelayed]
        split
        · trivial
        · exact hwill
    · next hcalled =>
      split
      · next hread =>
        refine h.ofJob id (hother _) fun r hr hactive job' hjob' _ => .inr ?_
        -- The reservation was read and found not yet expired: another request is to add the job.
        have hfires := hfires job hjob
        rw [FiresInTime, hcalled] at hfires
        refine (hfires r hr hactive).resolve_left fun hexpired => ?_
        obtain ⟨r₀, hr₀, ht⟩ := hfits.owned
        obtain rfl := Option.some.inj (hr.symm.trans hr₀)
        rw [hfits.reservationId] at hread
        exact absurd hexpired (not_le.mpr (readProcess_eq_none hread hr ht hactive))
      · exact h.ofJob id (hother _) fun r _ _ _ _ _ => .inl ⟨_, hproceed _, trivial⟩
    · next reservation hexpiring =>
      split
      · next store hcommit =>
        have hs := amendedTo_of_amend (close_ok .exact hcommit).1
        rw [hfits.reservationId] at hs
        intro k r' hr' hactive
        obtain ⟨r₀, hr₀, ⟨_, rfl⟩ | ⟨hk, rfl⟩⟩ := hs.cases hr'
        · cases hactive
        · rcases h k r' hr₀ hactive with ⟨job', hjob', hwill⟩ | hto
          · exact .inl ⟨job', (hother _ k hk).trans hjob', hwill⟩
          · exact .inr hto
      · next error hcommit =>
        -- The rows that were read are still there, so the transaction does not fail.
        obtain ⟨s', hok⟩ := close_isOk hsound.backed .expired
          (hfits.expiring reservation hexpiring)
        rw [hfits.reservationId, commitProcess, hok] at hcommit
        cases hcommit
    · next hreturned =>
      refine h.ofJob id (fun k hk => ?_) fun r _ _ job' hjob' hwill => ?_
      · rw [Queue.find?_complete, if_neg hk]
      · obtain rfl := Option.some.inj (hjob.symm.trans hjob')
        rw [WillExpire, hreturned] at hwill
        exact hwill.elim
    · exact h

/-- What one step keeps. -/
theorem Covered.exec {e : ReservationEvent} (h : c.Covered) (hsound : c.Sound)
    (hok : KeepsExpiry c e) : (c.exec e).Covered := by
  have haccept (task : ReservationTask) : (c.accept task).Covered := by
    intro k r hr hactive
    refine (h k r hr hactive).imp_right fun hto => ?_
    obtain ⟨other, hmem, hid⟩ := hto
    exact ⟨other, List.mem_append_left _ hmem, hid⟩
  cases e with
  | tick clock =>
    simp only [QueuedStore.exec]
    split
    · exact h
    · exact h
  | create tenantId dto =>
    simp only [QueuedStore.exec]
    split
    · exact haccept _
    · exact h
  | update tenantId id dto =>
    simp only [QueuedStore.exec]
    split
    · exact haccept _
    · exact h
  | release tenantId id =>
    simp only [QueuedStore.exec]
    split
    · exact haccept _
    · exact h
  | next i =>
    simp only [QueuedStore.exec]
    split
    · exact h
    · next task htask => exact h.next hsound htask (hok task htask)
  | work id => exact h.work hsound hok

end QueuedStore

end Coverage

section Runs

/-- No request on the reservation is in progress, and no worker has its job. -/
def QueuedStore.Rests (c : QueuedStore) (id : Id) : Prop :=
  (∀ task ∈ c.tasks, task.reservationId ≠ some id) ∧
    ∀ job ∈ c.queue.find? id, job.isActive = false

instance (c : QueuedStore) (id : Id) : Decidable (c.Rests id) :=
  inferInstanceAs (Decidable (_ ∧ _))

theorem reservationId_of_schedules {task : ReservationTask} (h : task.Schedules id) :
    task.reservationId = some id := by
  cases task with
  | reschedule tenantId id' expiresAt => exact congrArg some h
  | schedule tenantId id' expiresAt => exact congrArg some h
  | create | update | release | cancel => exact h.elim

/-- The invariant of runs that lose no addition. -/
theorem covered_of_runs {clock : Clock} (hnone : s.reservations.rows = [])
    (hrun : Runs QueuedStore.exec KeepsExpiry (.start clock s) c) : c.Sound ∧ c.Covered := by
  have hempty : ∀ id, s.reservations.find? id = none := by
    intro id
    rw [Table.find?_eq_none_iff, hnone]
    exact List.not_mem_nil
  have htasks : ∀ task ∈ (QueuedStore.start clock s).tasks, task.Fits s :=
    fun task hmem => absurd hmem List.not_mem_nil
  refine Runs.invariant (I := fun c => c.Sound ∧ c.Covered) hrun ⟨⟨?_, htasks, nofun⟩, ?_⟩
    fun c e hc hok => ⟨hc.1.exec e, hc.2.exec hc.1 hok⟩
  · intro id r hr
    cases (hempty id).symm.trans hr
  · intro id r hr
    cases (hempty id).symm.trans hr

/-- In every run in which no addition of a job is lost and none is outdated, an active
reservation that neither a request nor a worker is at has exactly one job, which waits for the
time at which the reservation expires. -/
theorem active_has_expiry_job {clock : Clock} (hnone : s.reservations.rows = [])
    (hrun : Runs QueuedStore.exec KeepsExpiry (.start clock s) c) (id : Id)
    (r : StockReservation) (hr : c.store.reservations.find? id = some r)
    (hactive : r.status = .active) (hrests : c.Rests id) :
    ∃ job, (c.queue.rows.filter fun j => j.2.data.reservationId = id) = [(id, job)] ∧
      job.data.tenantId = r.tenantId ∧ job.state = .delayed r.expiresAt := by
  obtain ⟨hsound, hcovered⟩ := covered_of_runs hnone hrun
  rcases hcovered id r hr hactive with ⟨job, hjob, hwill⟩ | ⟨task, htask, hid⟩
  · obtain ⟨r₀, hr₀, ht⟩ := (hsound.jobs id job hjob).owned
    obtain rfl := Option.some.inj (hr.symm.trans hr₀)
    refine ⟨job, ?_, ht.symm, ?_⟩
    · -- Every job is under the id of its reservation.
      rw [← Queue.filter_id hjob]
      refine List.filter_congr fun j hj => ?_
      rw [(hsound.jobs j.1 j.2 (Table.find?_of_mem_rows hj)).reservationId]
    · have hidle := hrests.2 job hjob
      rw [WillExpire] at hwill
      rw [Job.isActive] at hidle
      cases hstate : job.state with
      | delayed dueAt =>
        rw [hstate] at hwill
        exact congrArg _ hwill
      | active progress => simp [hstate] at hidle
      | failed => simp [hstate] at hwill
  · exact absurd (reservationId_of_schedules hid) (hrests.1 task htask)

/-- Ten on the shelf. -/
def shelf : Store :=
  serveAll .exact [⟨⟨0, 2024⟩, .stockIn 0 ⟨0, none, none, [⟨0, 10, 1, none⟩]⟩⟩]
    (Store.initial (.shop .fifo))

/-- Five of it are reserved until 10, and later until 20. -/
def extension : List ReservationEvent :=
  [.create 0 ⟨0, 0, 5, 10, none, none⟩, .next 0, .next 0, .tick ⟨5, 2024⟩,
    .update 0 0 ⟨none, some 20, none, none⟩, .next 0, .next 0, .next 0]

def extended : QueuedStore :=
  extension.foldl (fun c e => c.exec e) (.start ⟨0, 2024⟩ shelf)

def extendedReservation : StockReservation :=
  (extended.store.reservations.find? 0).get (by decide +kernel)

theorem active_has_expiry_job_extended :
    ∃ job, (extended.queue.rows.filter fun j => j.2.data.reservationId = 0) = [(0, job)] ∧
      job.data.tenantId = extendedReservation.tenantId ∧
      job.state = .delayed extendedReservation.expiresAt :=
  active_has_expiry_job (s := shelf) (by decide +kernel)
    (show Runs _ _ _ extended from Runs.of_allMeet (by decide +kernel)) 0 extendedReservation
    (Option.some_get _).symm (by decide +kernel) (by decide +kernel)

/-- The same extension, while the job of 10 fires. The job starts, the update commits, and the
job reads a reservation that has not expired; it cannot be removed while it runs, and its id is
in use when the update adds the job again. -/
def extensionWhileFiring : List ReservationEvent :=
  [.create 0 ⟨0, 0, 5, 10, none, none⟩, .next 0, .next 0, .tick ⟨5, 2024⟩,
    .update 0 0 ⟨none, some 20, none, none⟩, .tick ⟨10, 2024⟩, .work 0, .next 0, .work 0, .next 0,
    .next 0, .work 0]

def extendedWhileFiring : QueuedStore :=
  extensionWhileFiring.foldl (fun c e => c.exec e) (.start ⟨0, 2024⟩ shelf)

/-- Nothing is in progress, the reservation is active, and there is no job. -/
theorem extended_while_firing :
    shelf.reservations.rows = [] ∧
      Runs QueuedStore.exec (fun _ _ => True) (.start ⟨0, 2024⟩ shelf) extendedWhileFiring ∧
      (extendedWhileFiring.store.reservations.find? 0).map StockReservation.status =
        some .active ∧
      extendedWhileFiring.tasks = [] ∧ extendedWhileFiring.Rests 0 ∧
      extendedWhileFiring.queue.rows = [] :=
  ⟨by decide +kernel, Runs.of_allMeet (by decide +kernel), by decide +kernel⟩

end Runs

end Invetrixa
