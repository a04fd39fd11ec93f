import Kronkeeper.JobCustody
import Kronkeeper.WorkerCapacity

namespace Kronkeeper

/-!
# Shutdown of the worker pool

`shutdown` is one `notify_waiters`: it reaches the workers that wait in
`select!` at that moment and stores nothing for the others.  A worker that is
reached stops, if its `select!` prefers the signal to a message.  One that is
missed waits for jobs again after its loop iteration, and nothing but an empty
channel keeps it from the next job.
-/

namespace WorkerTask

/-- In `select!`, and reached by `notify_waiters`. -/
def reached : WorkerTask → Bool
  | .idle notified => notified
  | _ => false

/-- In `select!`, and not reached by `notify_waiters`. -/
def missed : WorkerTask → Bool
  | .idle notified => !notified
  | _ => false

/-- Whoever waits in `select!` at the signal is reached by it. -/
theorem not_missed_notifyWaiter (task : WorkerTask) :
    task.notifyWaiter.missed = false := by
  cases task <;> rfl

theorem not_missed_of_counted
    {task : WorkerTask}
    (counted : task.counted = true) :
    task.missed = false := by
  cases task <;> first | rfl | cases counted

/-- A worker comes to wait unreached by its `fetch_sub` only. -/
theorem Move.eq_deactivate
    {config : Config}
    {externals : Externals}
    {shared after : Shared}
    {task next : WorkerTask}
    {action : WorkerAction}
    (moved : task.Move config externals shared action after next)
    (missed : next.missed = true) :
    action = .deactivate := by
  cases moved with
  | deactivate =>
      rfl
  | settle job result now disposition =>
      rw [not_missed_of_counted
        (counted_afterSettle job disposition)] at missed
      cases missed
  | spawn job call reply after progress =>
      rw [not_missed_of_counted
        (counted_afterSpawn job progress)] at missed
      cases missed
  | emit job call reply progress | post job call delivered progress =>
      rw [not_missed_of_counted (counted_afterEmit job progress)] at missed
      cases missed
  | _ =>
      cases missed

/-- A worker has just received a job by `recv` only. -/
theorem Move.eq_recv
    {config : Config}
    {externals : Externals}
    {shared after : Shared}
    {task next : WorkerTask}
    {action : WorkerAction}
    (moved : task.Move config externals shared action after next)
    {job : Job}
    (received : next = .received job) :
    action = .recv := by
  cases moved with
  | receive =>
      rfl
  | settle job result now disposition =>
      have counted := counted_afterSettle job disposition
      rw [received] at counted
      cases counted
  | spawn job call reply after progress =>
      have counted := counted_afterSpawn job progress
      rw [received] at counted
      cases counted
  | emit job call reply progress | post job call delivered progress =>
      have counted := counted_afterEmit job progress
      rw [received] at counted
      cases counted
  | _ =>
      cases received

/-- A worker leaves the point after `recv` by its `fetch_add` only. -/
theorem Move.eq_activate
    {config : Config}
    {externals : Externals}
    {shared after : Shared}
    {next : WorkerTask}
    {action : WorkerAction}
    {job : Job}
    (moved :
      (WorkerTask.received job).Move config externals shared action after
        next) :
    action = .activate := by
  cases moved
  rfl

/-- A worker outside the counter has a job only right after `recv`. -/
theorem received_of_not_charged
    {task : WorkerTask}
    (notCharged : task.charged = false)
    {job : Job}
    (held : task.job? = some job) :
    task = .received job := by
  cases task with
  | received other =>
      obtain rfl := Option.some.inj held
      rfl
  | idle | finishing | stopped | panicked =>
      cases held
  | starting | executing | handling | retried | spawning | emitting =>
      cases notCharged

end WorkerTask

namespace State

variable {config : Config} {slots : Nat}
variable {externals : Externals}
variable {state after : State config slots}
variable {action : Action config slots}

/-- No worker that the signal has missed waits where a message is. -/
def MissedStarve (state : State config slots) : Prop :=
  ∀ worker, (state.workers worker).missed = true → state.channel = []

/--
The process lives on; a worker that the signal has reached takes the signal and
no message; one that it has missed comes back to an empty channel, and nothing
is sent while it waits there.
-/
structure HeedsShutdown
    (state : State config slots)
    (action : Action config slots) : Prop where
  lives : action ≠ .restart
  /-- Where `select!` finds a message and the signal, the signal wins. -/
  prefers :
    ∀ worker,
      action = .worker worker .recv →
      (state.workers worker).reached = false
  returns :
    ∀ worker, action = .worker worker .deactivate → state.channel = []
  sends :
    action = .scheduler .trySend →
    state.ChannelClosed ∨
      config.workerQueueSize ≤ state.channel.length ∨
      ∀ worker, (state.workers worker).missed = false

instance decidableHeedsShutdown
    (state : State config slots)
    (action : Action config slots) :
    Decidable (state.HeedsShutdown action) :=
  decidable_of_iff
    (action ≠ .restart ∧
      (∀ worker,
        action = .worker worker .recv →
        (state.workers worker).reached = false) ∧
      (∀ worker,
        action = .worker worker .deactivate → state.channel = []) ∧
      (action = .scheduler .trySend →
        state.ChannelClosed ∨
          config.workerQueueSize ≤ state.channel.length ∨
          ∀ worker, (state.workers worker).missed = false))
    ⟨fun ⟨lives, prefers, returns, sends⟩ =>
        ⟨lives, prefers, returns, sends⟩,
      fun heeds =>
        ⟨heeds.lives, heeds.prefers, heeds.returns, heeds.sends⟩⟩

/-- Right after the signal nobody in `select!` is missed. -/
theorem missedStarve_of_shutdown
    (signals : step? externals state .shutdown = some after) :
    after.MissedStarve := by
  intro worker missed
  cases signals
  rw [WorkerTask.not_missed_notifyWaiter] at missed
  cases missed

/-- The channel can only shrink unless the scheduler sends. -/
theorem channel_subset_of_step?
    (taken : step? externals state action = some after)
    (notSend : action ≠ .scheduler .trySend) :
    after.channel ⊆ state.channel := by
  cases move_of_step? taken with
  | scheduler action shared task moved =>
      have same := moved.channel_eq fun isSend => notSend (isSend ▸ rfl)
      exact same ▸ List.Subset.refl _
  | worker worker action shared task moved =>
      exact fun job member =>
        moved.channel_subset (dropClosed_channel_subset _ member)
  | reaper action shared task moved =>
      exact moved.channel_eq ▸ List.Subset.refl _
  | api slot action shared task moved =>
      exact moved.channel_eq ▸ List.Subset.refl _
  | tick | shutdown =>
      exact List.Subset.refl _
  | restart =>
      exact List.nil_subset _

/-- A worker waits unreached as before, or has just come back. -/
theorem missed_of_step?
    (taken : step? externals state action = some after)
    (lives : action ≠ .restart)
    {worker : Fin config.workerCount}
    (missed : (after.workers worker).missed = true) :
    (state.workers worker).missed = true ∨
      action = .worker worker .deactivate := by
  cases move_of_step? taken with
  | worker mover workerAction shared task moved =>
      rw [dropClosed_workers] at missed
      by_cases isMover : worker = mover
      · subst isMover
        simp only [Function.update_self] at missed
        exact Or.inr (by rw [moved.eq_deactivate missed])
      · simp only [Function.update_of_ne isMover] at missed
        exact Or.inl missed
  | shutdown =>
      rw [WorkerTask.not_missed_notifyWaiter] at missed
      cases missed
  | restart =>
      exact (lives rfl).elim
  | tick | scheduler | reaper | api =>
      exact Or.inl missed

theorem MissedStarve.step
    (starve : state.MissedStarve)
    (heeds : state.HeedsShutdown action)
    (taken : step? externals state action = some after) :
    after.MissedStarve := by
  intro worker missed
  by_cases isSend : action = .scheduler .trySend
  · subst isSend
    have waited : (state.workers worker).missed = true := by
      rcases missed_of_step? taken heeds.lives missed with
        waited | isWorker
      · exact waited
      · cases isWorker
    have empty := starve worker waited
    have moved := schedulerMove_of_step? taken
    generalize state.scheduler.position = position at moved
    change after.toShared.channel = []
    generalize after.toShared = later at moved
    generalize after.scheduler = next at moved
    cases moved with
    | sendClosed | sendFull =>
        exact empty
    | send now job notClosed room =>
        rcases heeds.sends rfl with isClosed | full | noneMissed
        · rw [decide_eq_false_iff_not] at notClosed
          exact (notClosed isClosed).elim
        · exact (Nat.not_lt.mpr full room).elim
        · rw [noneMissed worker] at waited
          cases waited
  · have shrinks := channel_subset_of_step? taken isSend
    have empty : state.channel = [] := by
      rcases missed_of_step? taken heeds.lives missed with
        waited | isWorker
      · exact starve worker waited
      · exact heeds.returns worker isWorker
    rw [empty] at shrinks
    exact List.subset_nil.mp shrinks

/-- Neither a reached nor a missed worker takes a job. -/
theorem MissedStarve.not_recv
    (starve : state.MissedStarve)
    (heeds : state.HeedsShutdown action)
    (taken : step? externals state action = some after)
    (worker : Fin config.workerCount) :
    action ≠ .worker worker .recv := by
  rintro rfl
  have unreached := heeds.prefers worker rfl
  obtain ⟨shared, moved, _⟩ := workerMove_of_step? taken
  generalize held : state.workers worker = task at moved unreached
  generalize after.workers worker = next at moved
  cases moved with
  | receive notified job rest queued =>
      have empty := starve worker (by
        rw [held]
        simpa [WorkerTask.missed, WorkerTask.reached] using unreached)
      rw [empty] at queued
      cases queued

/-- Without `recv` a worker holds no job that it did not hold before. -/
theorem job?_of_step?
    (taken : step? externals state action = some after)
    {worker : Fin config.workerCount}
    (notRecv : action ≠ .worker worker .recv)
    {job : Job}
    (held : (after.workers worker).job? = some job) :
    (state.workers worker).job? = some job := by
  cases workerStep_of_step? taken worker with
  | kept same =>
      exact same ▸ held
  | idle notified isIdle =>
      rw [isIdle] at held
      cases held
  | moved workerAction shared isWorker moved =>
      refine WorkerTask.tracks_job?.keeps moved ?_ job held
      rintro rfl
      exact notRecv isWorker

/-- Only `fetch_add` takes a worker on from `recv`, if nothing is received. -/
theorem received_iff_of_step?
    (taken : step? externals state action = some after)
    (lives : action ≠ .restart)
    {worker : Fin config.workerCount}
    (notRecv : action ≠ .worker worker .recv)
    {job : Job} :
    after.workers worker = .received job ↔
      state.workers worker = .received job ∧
        action ≠ .worker worker .activate := by
  cases workerStep_of_step? taken worker with
  | kept same =>
      rw [same]
      refine ⟨fun received => ⟨received, ?_⟩, And.left⟩
      rintro rfl
      obtain ⟨shared, moved, _⟩ := workerMove_of_step? taken
      rw [same, received] at moved
      cases moved
  | idle notified isIdle wasIdle =>
      rcases wasIdle with isRestart | ⟨before, wasIdle⟩
      · exact (lives isRestart).elim
      · rw [isIdle, wasIdle]
        exact ⟨nofun, fun ⟨received, _⟩ => nomatch received⟩
  | moved workerAction shared isWorker moved =>
      constructor
      · intro received
        exact (notRecv (isWorker.trans
          (by rw [moved.eq_recv received]))).elim
      · rintro ⟨received, notActivate⟩
        rw [received] at moved
        exact (notActivate (isWorker.trans
          (by rw [moved.eq_activate]))).elim

/-- `wait_for_drain` comes back early when it reads no active worker. -/
def Drained (state : State config slots) : Prop :=
  state.active = 0

/-- With nobody counted only a worker before its `fetch_add` has a job. -/
theorem ActiveCharged.none_held_iff
    (charged : state.ActiveCharged)
    (drained : state.Drained) :
    (∀ worker, (state.workers worker).job? = none) ↔
      ∀ worker job, state.workers worker ≠ .received job := by
  have notCharged :=
    Handoff.tally_eq_zero_iff.mp (charged.symm.trans drained)
  constructor
  · intro noneHeld worker job received
    have held := noneHeld worker
    rw [received] at held
    cases held
  · intro noneReceived worker
    by_contra isHeld
    obtain ⟨job, held⟩ := Option.ne_none_iff_exists'.mp isHeld
    exact noneReceived worker job
      (WorkerTask.received_of_not_charged (notCharged worker) held)

/-- While the signal is heeded no worker takes a job. -/
theorem MissedStarve.not_recv_mem
    {trailing : List (Action config slots)}
    {final : State config slots}
    (starve : state.MissedStarve)
    (drains : Run externals HeedsShutdown state trailing final)
    (worker : Fin config.workerCount) :
    .worker worker .recv ∉ trailing := by
  induction drains with
  | nil state =>
      exact List.not_mem_nil
  | cons heeds taken _ inductionHypothesis =>
      rw [List.mem_cons, not_or]
      exact ⟨(starve.not_recv heeds taken worker).symm,
        inductionHypothesis (starve.step heeds taken)⟩

/-- Meanwhile each worker keeps to the job that it had. -/
theorem MissedStarve.job?_kept
    {trailing : List (Action config slots)}
    {final : State config slots}
    (starve : state.MissedStarve)
    (drains : Run externals HeedsShutdown state trailing final)
    {worker : Fin config.workerCount}
    {job : Job}
    (held : (final.workers worker).job? = some job) :
    (state.workers worker).job? = some job := by
  induction drains with
  | nil state =>
      exact held
  | cons heeds taken _ inductionHypothesis =>
      exact job?_of_step? taken (starve.not_recv heeds taken worker)
        (inductionHypothesis (starve.step heeds taken) held)

/-- Who stands behind `recv` has stood there since, without a `fetch_add`. -/
theorem MissedStarve.received_iff
    {trailing : List (Action config slots)}
    {final : State config slots}
    (starve : state.MissedStarve)
    (drains : Run externals HeedsShutdown state trailing final)
    {worker : Fin config.workerCount}
    {job : Job} :
    final.workers worker = .received job ↔
      state.workers worker = .received job ∧
        .worker worker .activate ∉ trailing := by
  induction drains with
  | nil state =>
      simp
  | cons heeds taken _ inductionHypothesis =>
      rw [inductionHypothesis (starve.step heeds taken),
        received_iff_of_step? taken heeds.lives
          (starve.not_recv heeds taken worker),
        List.mem_cons, not_or, and_assoc, ne_comm]

end State

/-! ## Concrete runs -/

namespace Sample

/-- Worker 0 ends its loop iteration on a script that succeeds. -/
def finishFirst : List (Action config 1) :=
  [ .worker 0 (.execute succeeds),
    .worker 0 (.settle .ok),
    .worker 0 (.emit .ok),
    .worker 0 .deactivate ]

/-- What is left to worker 0 after its `recv`; worker 1 stops. -/
def startAndFinish : List (Action config 1) :=
  [ .worker 1 .stop,
    .worker 0 .activate,
    .worker 0 (.setRunning .ok) ] ++
    finishFirst

/-- Jobs 1 and 2 are sent; worker 0 is busy with job 1. -/
def sendTwo : List (Action config 2) :=
  [ .api 0 (.arrive (.createJob clientId (oneOff "first"))),
    .api 0 (.call .ok),
    .api 0 (.call (.inserted 1)),
    .api 0 .notifyOne,
    .api 1 (.arrive (.createJob clientId (oneOff "second"))),
    .api 1 (.call .ok),
    .api 1 (.call (.inserted 2)),
    .api 1 .notifyOne,
    .scheduler (.refresh [⟨1, 0⟩, ⟨2, 0⟩]),
    .scheduler .sleepElapsed,
    .scheduler (.lease ⟨1, 0⟩ .ok),
    .scheduler .trySend,
    .scheduler (.lease ⟨2, 0⟩ .ok),
    .scheduler .trySend,
    .worker 0 .recv,
    .worker 0 .activate,
    .worker 0 (.setRunning .ok) ]

/-- The busy worker finishes job 1 and takes job 2. -/
def takeSecond : List (Action config 2) :=
  [ .worker 0 (.execute succeeds),
    .worker 0 (.settle .ok),
    .worker 0 (.emit .ok),
    .worker 0 .deactivate,
    .worker 0 .recv ]

/-- The id of the job each worker holds. -/
def heldIds (state : State config 2) : List (Option Uuid) :=
  [(state.workers 0).job?.map Job.id, (state.workers 1).job?.map Job.id]

/-- The pool counts as drained while a worker has a job before `fetch_add`. -/
theorem received_job_escapes_drain :
    ∃ final,
      State.Run externals TransitionSystem.Unrestricted
          (State.initial config 1 0)
          (createAndSend ++ [.worker 0 .recv, .shutdown]) final ∧
        final.active = 0 ∧
        ((final.workers 0).job?.map Job.id) = some 1 :=
  TransitionSystem.exists_run_of_replay?
    (State.step? externals) TransitionSystem.Unrestricted
    (State.initial config 1 0)
    (createAndSend ++ [.worker 0 .recv, .shutdown])
    (fun final =>
      final.active = 0 ∧
        ((final.workers 0).job?.map Job.id) = some 1)
    (by decide)

end Sample

end Kronkeeper
