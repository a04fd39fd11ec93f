import Kronkeeper.SharedState

namespace Kronkeeper

/-!
# The scheduler loop

`Scheduler::run` of `src/scheduler.rs`.  The heap is local to the task, so
popping an entry and leasing it are one step.  `BinaryHeap` serves a maximal
element under the reversed order of `ScheduledJob`, that is an entry with the
least `scheduled_at`; which one among equal instants is left to the action.
-/

/-- Where the scheduler stands in its loop. -/
inductive SchedulerPosition where
  /-- In `refresh_heap`, before its query. -/
  | refreshing
  /-- In `select!`, with the instant at which the sleep ends. -/
  | waiting (wakeAt : Time)
  /-- At the head of the dispatch loop; `now` was read on entry. -/
  | dispatching (now : Time)
  /-- Before `try_send`. -/
  | sending (now : Time) (job : Job)
  /-- The channel was full: before `schedule_retry`. -/
  | returning (job : Job)
  /-- The channel was full: before `notify_one`. -/
  | notifying
  deriving Repr, DecidableEq

structure SchedulerTask where
  heap : List ScheduledJob
  position : SchedulerPosition
  deriving Repr, DecidableEq

inductive SchedulerAction where
  | refresh (fetched : List ScheduledJob)
  | refreshFails
  | sleepElapsed
  | notified
  | lease (entry : ScheduledJob) (reply : Reply)
  | dispatchDone
  | trySend
  | returnJob (reply : Reply)
  | notifyOne
  deriving Repr, DecidableEq

namespace SchedulerTask

/-- A fresh process refreshes its empty heap first. -/
def initial : SchedulerTask where
  heap := []
  position := .refreshing

/-- The end of the sleep computed at the head of the loop. -/
def wakeInstant (clock : Time) (heap : List ScheduledJob) : Time :=
  match EarliestFirst.earliest? ScheduledJob.scheduledAt heap with
  | some scheduledAt => max clock scheduledAt
  | none => clock + Time.seconds 3600

/-- Back at the head of the loop, into `select!`. -/
def await (shared : Shared) (heap : List ScheduledJob) : SchedulerTask where
  heap := heap
  position := .waiting (wakeInstant shared.clock heap)

/-- No entry of the heap is due at `now`. -/
def NothingDue (heap : List ScheduledJob) (now : Time) : Prop :=
  ∀ entry ∈ heap, now < entry.scheduledAt

instance (heap : List ScheduledJob) (now : Time) :
    Decidable (NothingDue heap now) :=
  inferInstanceAs (Decidable (∀ entry ∈ heap, now < entry.scheduledAt))

/-- The dispatch loop may pop this entry. -/
def Pops (heap : List ScheduledJob) (now : Time) (entry : ScheduledJob) :
    Prop :=
  EarliestFirst.IsLeast ScheduledJob.scheduledAt heap entry ∧
    entry.scheduledAt ≤ now

instance (heap : List ScheduledJob) (now : Time) (entry : ScheduledJob) :
    Decidable (Pops heap now entry) :=
  inferInstanceAs (Decidable (_ ∧ _))

/-- `build_heap`: the heap is the collection of the fetched entries. -/
def buildHeap (jobs : List ScheduledJob) : List ScheduledJob :=
  jobs

def step?
    (config : Config)
    (channelClosed : Bool)
    (shared : Shared)
    (task : SchedulerTask)
    (action : SchedulerAction) : Option (Shared × SchedulerTask) :=
  match task.position, action with
  | .refreshing, .refresh fetched =>
      if JobRepository.FetchScheduledJobs shared.jobs
          config.heapLookaheadLimit fetched then
        some (shared, await shared (buildHeap fetched))
      else
        none
  | .refreshing, .refreshFails => some (shared, await shared task.heap)
  | .waiting wakeAt, .sleepElapsed =>
      if wakeAt ≤ shared.clock then
        some (shared, { task with position := .dispatching shared.clock })
      else
        none
  | .waiting _, .notified =>
      if shared.permit then
        some ({ shared with permit := false },
          { task with position := .refreshing })
      else
        none
  | .dispatching now, .lease entry reply =>
      if Pops task.heap now entry then
        let heap := task.heap.erase entry
        match reply with
        | .ok =>
            let lease :=
              JobRepository.leaseJob shared.clock entry.id
                config.leaseDurationSecs
            match shared.jobs.returning lease with
            | some job =>
                some (shared.update lease,
                  { heap := heap, position := .sending now job })
            | none =>
                some (shared,
                  { heap := heap, position := .dispatching now })
        | .error _ => some (shared, await shared heap)
        | .inserted _ => none
      else
        none
  | .dispatching now, .dispatchDone =>
      if NothingDue task.heap now then
        some (shared, await shared task.heap)
      else
        none
  | .sending now job, .trySend =>
      if channelClosed then
        some (shared, await shared task.heap)
      else if shared.channel.length < config.workerQueueSize then
        some ({ shared with channel := shared.channel ++ [job] },
          { task with position := .dispatching now })
      else
        some (shared, { task with position := .returning job })
  | .returning job, .returnJob reply =>
      match reply with
      | .ok =>
          some (shared.update
              (JobRepository.scheduleRetry shared.clock job.id
                job.scheduledAt job.attemptCount),
            { task with position := .notifying })
      | .error _ => some (shared, await shared task.heap)
      | .inserted _ => none
  | .notifying, .notifyOne =>
      some (shared.notifyOne, await shared task.heap)
  | _, _ => none

end SchedulerTask

end Kronkeeper
