import Kronkeeper.JobRepository

namespace Kronkeeper

/-!
# What the tasks of one process share

The clock, the table, the `Notify` of the scheduler, the worker channel and the
counter of active workers.  A task step touches the shared state at most once:
it runs one SQL statement, or one channel, notification or counter operation,
together with the task-local code up to the next such access.
-/

structure Shared where
  clock : Time
  jobs : JobTable
  /-- The one permit of `tokio::sync::Notify`. -/
  permit : Bool
  /-- The jobs waiting in the `mpsc` channel, oldest first. -/
  channel : List Job
  active : Nat

/--
How a repository call ends.  An `INSERT` that the constraints admit answers
with the generated id; `error` leaves the table as it was.
-/
inductive Reply where
  | ok
  | inserted (id : Uuid)
  | error (message : String)
  deriving Repr, DecidableEq

namespace Reply

/-- The call took effect. -/
def succeeded : Reply → Bool
  | .error _ => false
  | _ => true

end Reply

namespace Shared

/-- Run an `UPDATE`. -/
def update (shared : Shared) (change : JobUpdate) : Shared :=
  { shared with jobs := shared.jobs.update change }

/-- `notify_one`: store the permit, or wake the waiting scheduler through it. -/
def notifyOne (shared : Shared) : Shared :=
  { shared with permit := true }

end Shared

end Kronkeeper
