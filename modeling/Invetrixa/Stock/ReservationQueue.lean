import Invetrixa.Library.JobQueue
import Invetrixa.Stock.Reservation

/-!
# The queue of reservation expiries

`ReservationQueueService`, the calls that `ReservationService` makes to it, and the worker that
runs `ReservationQueueProcessor.process`. The rows of a reservation and its job are two stores:
a request first commits its transaction and then, in steps of their own, removes the job and adds
it again. The worker starts a job, reads, commits or skips, and completes.

## Main definitions

- `ReservationQueueService.scheduleExpiry`, `cancelExpiry`, `rescheduleExpiry`
- `ReservationTask`, `QueuedStore` — what a request has yet to do, and the two stores with the
  requests in progress
- `QueuedStore.exec` — a step of a request or of the worker
-/

namespace Invetrixa

open Rowstore Jobs ReservationService ReservationQueueProcessor

structure ExpireReservationJobData where
  reservationId : Id
  tenantId : Id

/-- Where `process` is: called, or with a reservation that it has read and is to expire, or
returned. -/
inductive ProcessState
  | called
  | expiring (reservation : StockReservation)
  | returned

/-- The queue; the job `expire-${id}` is the one under `id`. -/
abbrev ReservationQueue := Queue Id ExpireReservationJobData ProcessState

namespace ReservationQueueService

/-- Retry up to 3 times. -/
def attempts : ℕ := 3

/-- Exponential, 5 seconds at first. -/
def backoff (attemptsMade : ℕ) : ℕ := 5000 * 2 ^ (attemptsMade - 1)

/-- Schedule a reservation to expire at its `expiresAt`; one that has passed is due at once. -/
def scheduleExpiry (clock : Clock) (reservationId tenantId : Id) (expiresAt : ℕ)
    (queue : ReservationQueue) : ReservationQueue :=
  let delay : ℤ := expiresAt - clock.time
  queue.add reservationId ⟨reservationId, tenantId⟩ clock.time (max 0 delay).toNat

/-- Cancel a scheduled expiry. A job that cannot be removed is only logged. -/
def cancelExpiry (reservationId : Id) (queue : ReservationQueue) : ReservationQueue :=
  match queue.find? reservationId with
  | none => queue
  | some _ =>
    match queue.remove reservationId with
    | .ok queue => queue
    | .error _ => queue

def rescheduleExpiry (clock : Clock) (reservationId tenantId : Id) (newExpiresAt : ℕ)
    (queue : ReservationQueue) : ReservationQueue :=
  scheduleExpiry clock reservationId tenantId newExpiresAt (cancelExpiry reservationId queue)

end ReservationQueueService

open ReservationQueueService

/-- What a request on reservations has yet to do. -/
inductive ReservationTask
  /-- the transaction of `create` -/
  | create (tenantId : Id) (dto : CreateReservationDto)
  /-- the transaction of `update`, with the reservation that was read -/
  | update (tenantId id : Id) (dto : UpdateReservationDto) (reservation : StockReservation)
  /-- the transaction of `release`, with the reservation that was read -/
  | release (id : Id) (reservation : StockReservation)
  /-- `cancelExpiry`, and nothing more -/
  | cancel (id : Id)
  /-- `cancelExpiry` and `scheduleExpiry` -/
  | reschedule (tenantId id : Id) (expiresAt : ℕ)
  | schedule (tenantId id : Id) (expiresAt : ℕ)

/-- The database and the queue, with the requests in progress. -/
structure QueuedStore where
  store : Store
  clock : Clock
  queue : ReservationQueue
  tasks : List ReservationTask

/-- The next step of a request, and what it has yet to do after it. A transaction that fails ends
the request. -/
def ReservationTask.step (c : QueuedStore) : ReservationTask → QueuedStore × Option ReservationTask
  | .create tenantId dto =>
    match commitCreate tenantId dto c.store with
    | .ok (id, store) => ({ c with store }, some (.schedule tenantId id dto.expiresAt))
    | .error _ => (c, none)
  | .update tenantId id dto reservation =>
    match commitUpdate id dto reservation c.store with
    | .ok ((), store) => ({ c with store }, dto.expiresAt.map (.reschedule tenantId id))
    | .error _ => (c, none)
  | .release id reservation =>
    match commitRelease id reservation c.store with
    | .ok ((), store) => ({ c with store }, some (.cancel id))
    | .error _ => (c, none)
  | .cancel id => ({ c with queue := cancelExpiry id c.queue }, none)
  | .reschedule tenantId id expiresAt =>
    ({ c with queue := cancelExpiry id c.queue }, some (.schedule tenantId id expiresAt))
  | .schedule tenantId id expiresAt =>
    ({ c with queue := scheduleExpiry c.clock id tenantId expiresAt c.queue }, none)

/-- The two steps of an update, with nothing between them, are `rescheduleExpiry`. -/
example (tenantId id : Id) (expiresAt : ℕ) (c : QueuedStore) :
    ((ReservationTask.schedule tenantId id expiresAt).step
      ((ReservationTask.reschedule tenantId id expiresAt).step c).1).1.queue =
      rescheduleExpiry c.clock id tenantId expiresAt c.queue :=
  rfl

/-- The next step of the worker on the job of a reservation: start it when it is due, read the
reservation, commit, complete. An error of the transaction is thrown again, which has the job
retried. -/
def QueuedStore.work (id : Id) (c : QueuedStore) : QueuedStore :=
  match c.queue.find? id with
  | none => c
  | some job =>
    match job.state with
    | .delayed _ => { c with queue := c.queue.start id .called c.clock.time }
    | .active .called =>
      match readProcess c.clock job.data.tenantId job.data.reservationId c.store with
      | none => { c with queue := c.queue.proceed id .returned }
      | some reservation => { c with queue := c.queue.proceed id (.expiring reservation) }
    | .active (.expiring reservation) =>
      match commitProcess job.data.reservationId reservation c.store with
      | .ok ((), store) => { c with store, queue := c.queue.proceed id .returned }
      | .error _ => { c with queue := c.queue.fail id attempts backoff c.clock.time }
    | .active .returned => { c with queue := c.queue.complete id }
    | .failed => c

inductive ReservationEvent
  /-- time goes by -/
  | tick (clock : Clock)
  | create (tenantId : Id) (dto : CreateReservationDto)
  | update (tenantId id : Id) (dto : UpdateReservationDto)
  | release (tenantId id : Id)
  /-- the next step of a request in progress -/
  | next (i : ℕ)
  /-- the next step of the worker on the job of a reservation -/
  | work (id : Id)

namespace QueuedStore

/-- One more request in progress. -/
def accept (c : QueuedStore) (task : ReservationTask) : QueuedStore :=
  { c with tasks := c.tasks ++ [task] }

/-- The state after an event. A request that is refused when it reads leaves nothing to do. -/
def exec (e : ReservationEvent) (c : QueuedStore) : QueuedStore :=
  match e with
  | .tick clock => if c.clock.time ≤ clock.time then { c with clock } else c
  | .create tenantId dto =>
    match readCreate c.clock tenantId dto c.store with
    | .ok () => c.accept (.create tenantId dto)
    | .error _ => c
  | .update tenantId id dto =>
    match readUpdate c.clock tenantId id dto c.store with
    | .ok reservation => c.accept (.update tenantId id dto reservation)
    | .error _ => c
  | .release tenantId id =>
    match readRelease tenantId id c.store with
    | .ok reservation => c.accept (.release id reservation)
    | .error _ => c
  | .next i =>
    match c.tasks[i]? with
    | none => c
    | some task =>
      { (task.step c).1 with tasks := c.tasks.eraseIdx i ++ (task.step c).2.toList }
  | .work id => c.work id

/-- Nothing is in progress and no job is queued. -/
def start (clock : Clock) (s : Store) : QueuedStore := ⟨s, clock, Table.empty, []⟩

end QueuedStore

end Invetrixa
