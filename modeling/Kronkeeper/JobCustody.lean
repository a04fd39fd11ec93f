import Kronkeeper.Handoff
import Kronkeeper.TaskMoves

namespace Kronkeeper

/-!
# Who holds a copy of a job

A leased job leaves the table as a copy: first in the scheduler's hand, then in
the worker channel, last with a worker.  The views below read those copies off
a state; the library of hand-offs then applies to them.
-/

/-! ## Views of a worker -/

namespace WorkerTask

/-- The job a worker took off the channel and has not let go of. -/
def job? : WorkerTask → Option Job
  | .received job => some job
  | .starting job => some job
  | .executing job => some job
  | .handling job _ _ => some job
  | .retried job => some job
  | .spawning job _ => some job
  | .emitting job _ => some job
  | _ => none

/-- The job between `set_running` and the return of `handle`. -/
def inFlight? : WorkerTask → Option Job
  | .executing job => some job
  | .handling job _ _ => some job
  | .retried job => some job
  | .spawning job _ => some job
  | .emitting job _ => some job
  | _ => none

/-- The job between `set_running` and the first write of `handle`. -/
def executing? : WorkerTask → Option Job
  | .executing job => some job
  | .handling job _ _ => some job
  | _ => none

/-- The job taken off the channel, before `set_running`. -/
def pending? : WorkerTask → Option Job
  | .received job => some job
  | .starting job => some job
  | _ => none

/-- The job taken off the channel, before the first write of `handle`. -/
def unsettled? : WorkerTask → Option Job
  | .received job => some job
  | .starting job => some job
  | .executing job => some job
  | .handling job _ _ => some job
  | _ => none

theorem job?_of_inFlight?
    {task : WorkerTask}
    {job : Job}
    (inFlight : task.inFlight? = some job) :
    task.job? = some job := by
  cases task <;> simp_all [inFlight?, job?]

theorem unsettled?_eq_some_iff
    {task : WorkerTask}
    {job : Job} :
    task.unsettled? = some job ↔
      task.pending? = some job ∨ task.executing? = some job := by
  cases task <;> simp [unsettled?, pending?, executing?]

theorem inFlight?_of_executing?
    {task : WorkerTask}
    {job : Job}
    (executing : task.executing? = some job) :
    task.inFlight? = some job := by
  cases task <;> simp_all [executing?, inFlight?]

theorem job?_of_unsettled?
    {task : WorkerTask}
    {job : Job}
    (unsettled : task.unsettled? = some job) :
    task.job? = some job := by
  cases task <;> simp_all [unsettled?, job?]

theorem executing?_notifyWaiter
    (task : WorkerTask) :
    task.notifyWaiter.executing? = task.executing? := by
  cases task <;> rfl

/-! ### The views after each part of an iteration -/

@[simp] theorem unsettled?_afterSettle
    (job : Job)
    (disposition : Disposition) :
    (afterSettle job disposition).unsettled? = none := by
  cases disposition <;> try rfl
  unfold afterSettle
  cases job.parentJobId <;> rfl

@[simp] theorem unsettled?_afterSpawn
    (job : Job)
    (progress : SpawnProgress) :
    (afterSpawn job progress).unsettled? = none := by
  rcases progress with call | (_ | _) <;> rfl

@[simp] theorem unsettled?_afterEmit
    (job : Job)
    (progress : EmitProgress) :
    (afterEmit job progress).unsettled? = none := by
  cases progress <;> rfl

@[simp] theorem job?_afterSettle
    (job : Job)
    (disposition : Disposition) :
    (afterSettle job disposition).job? = some job := by
  cases disposition <;> try rfl
  unfold afterSettle
  cases job.parentJobId <;> rfl

theorem job?_afterSpawn
    {job other : Job}
    {progress : SpawnProgress}
    (held : (afterSpawn job progress).job? = some other) :
    job = other := by
  rcases progress with call | (_ | _) <;> simp_all [afterSpawn, job?]

theorem job?_afterEmit
    {job other : Job}
    {progress : EmitProgress}
    (held : (afterEmit job progress).job? = some other) :
    job = other := by
  cases progress <;> simp_all [afterEmit, job?]

/--
A view of a worker that starts at `recv` and lasts for a part of the iteration:
no other move gives the worker a job it did not have.
-/
structure Tracks (view : WorkerTask → Option Job) : Prop where
  idle : ∀ notified, view (.idle notified) = none
  received : ∀ job, view (.received job) = some job
  keeps :
    ∀ {config : Config} {externals : Externals} {shared after : Shared}
      {task next : WorkerTask} {action : WorkerAction},
      task.Move config externals shared action after next →
      action ≠ .recv →
      ∀ job, view next = some job → view task = some job

theorem Tracks.notifyWaiter_eq
    {view : WorkerTask → Option Job}
    (tracks : Tracks view)
    (task : WorkerTask) :
    view task.notifyWaiter = view task := by
  cases task with
  | idle notified =>
      exact (tracks.idle true).trans (tracks.idle notified).symm
  | _ =>
      rfl

theorem tracks_job? : Tracks job? where
  idle _ := rfl
  received _ := rfl
  keeps := by
    intro config externals shared after task next action moved notRecv
    cases moved with
    | receive =>
        exact (notRecv rfl).elim
    | spawn job call reply after progress =>
        intro other held
        exact congrArg some (job?_afterSpawn held)
    | emit | post =>
        intro other held
        exact congrArg some (job?_afterEmit held)
    | settle =>
        rw [job?_afterSettle]
        exact fun _ same => same
    | _ =>
        simp [job?]

theorem tracks_unsettled? : Tracks unsettled? where
  idle _ := rfl
  received _ := rfl
  keeps := by
    intro config externals shared after task next action moved notRecv
    cases moved with
    | receive =>
        exact (notRecv rfl).elim
    | settle | spawn | emit | post =>
        simp
    | _ =>
        simp [unsettled?]

end WorkerTask

/-! ## Views of the scheduler -/

/-- The job the scheduler has leased and neither sent nor given back. -/
def SchedulerPosition.hand? : SchedulerPosition → Option Job
  | .sending _ job => some job
  | .returning job => some job
  | _ => none

/-! ## Custody across the daemon -/

namespace State

variable {config : Config} {slots : Nat}

/-- The id of the job in the scheduler's hand. -/
def handId? (state : State config slots) : Option Uuid :=
  state.scheduler.position.hand?.map Job.id

/-- The ids of the jobs in the channel. -/
def queuedIds (state : State config slots) : List Uuid :=
  state.channel.map Job.id

/-- The id of the job each worker holds under a view. -/
def heldId?
    (view : WorkerTask → Option Job)
    (state : State config slots)
    (worker : Fin config.workerCount) : Option Uuid :=
  (view (state.workers worker)).map Job.id

variable {view : WorkerTask → Option Job}
variable {externals : Externals}
variable {state : State config slots}
variable {hand : Option Uuid}

/-- Dropping the receiver only clears the queue. -/
theorem custody_dropClosed
    (custody :
      Handoff.SingleCustody hand state.queuedIds (state.heldId? view)) :
    Handoff.SingleCustody hand state.dropClosed.queuedIds
      (state.dropClosed.heldId? view) := by
  have sameHolders :
      state.dropClosed.heldId? view = state.heldId? view := by
    funext worker
    simp [heldId?]
  rw [sameHolders]
  rcases state.dropClosed_channel with same | emptied
  · simpa [queuedIds, same] using custody
  · simpa [queuedIds, emptied] using custody.clear

/-- A worker's move passes a token on or drops it. -/
theorem custody_worker
    (tracks : WorkerTask.Tracks view)
    (custody :
      Handoff.SingleCustody hand state.queuedIds (state.heldId? view))
    {worker : Fin config.workerCount}
    {action : WorkerAction}
    {shared : Shared}
    {task : WorkerTask}
    {after : State config slots}
    (moved :
      (state.workers worker).Move config externals state.toShared action
        shared task)
    (sameChannel : after.channel = shared.channel)
    (sameWorkers :
      after.workers = Function.update state.workers worker task) :
    Handoff.SingleCustody hand after.queuedIds (after.heldId? view) := by
  have holders :
      after.heldId? view =
        Function.update (state.heldId? view) worker
          ((view task).map Job.id) := by
    funext other
    unfold heldId?
    rw [sameWorkers]
    exact Function.apply_update
      (fun _ task => (view task).map Job.id) state.workers worker task
      other
  rw [holders, queuedIds, sameChannel]
  by_cases isRecv : action = .recv
  · subst action
    generalize state.workers worker = current at moved
    cases moved with
    | receive notified job rest queued =>
        have queuedCustody :
            Handoff.SingleCustody hand (job.id :: rest.map Job.id)
              (state.heldId? view) := by
          simpa [queuedIds, queued] using custody
        simpa [tracks.received] using queuedCustody.pop worker
  · rw [moved.channel_eq isRecv]
    refine custody.shrink ?_
    intro other token held
    rcases eq_or_ne other worker with rfl | different
    · rw [Function.update_self, Option.map_eq_some_iff] at held
      obtain ⟨job, viewed, rfl⟩ := held
      have before := tracks.keeps moved isRecv job viewed
      simp [heldId?, before]
    · rwa [Function.update_of_ne different] at held

/-- `notify_waiters` gives no worker a job. -/
theorem heldId?_notifyWaiter
    (deaf : ∀ task : WorkerTask, view task.notifyWaiter = view task)
    {after : State config slots}
    (sameWorkers :
      after.workers = fun worker => (state.workers worker).notifyWaiter) :
    after.heldId? view = state.heldId? view := by
  funext worker
  unfold heldId?
  rw [sameWorkers, deaf]

end State

end Kronkeeper
