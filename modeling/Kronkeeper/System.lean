import Mathlib.Data.Fintype.Basic
import Mathlib.Logic.Function.Basic
import Kronkeeper.ApiTask
import Kronkeeper.SchedulerTask
import Kronkeeper.TransitionSystem
import Kronkeeper.WorkerTask

namespace Kronkeeper

/-!
# The whole daemon

All tasks of one process over the shared state: the scheduler, the workers, the
lease reaper and the API requests, plus the clock, the shutdown signal and the
restart of the process.  A state is indexed by the configuration and by the
number of request slots; a finite run needs only finitely many slots, and every
result holds for every number of them.
-/

/-- Where `run_lease_reaper` stands in its loop. -/
inductive ReaperTask where
  | ticking
  /-- Rows were reaped; before `notify_one`. -/
  | notifying
  deriving Repr, DecidableEq

inductive ReaperAction where
  | reap (reply : Reply)
  | notifyOne
  deriving Repr, DecidableEq

def ReaperTask.step?
    (shared : Shared) :
    ReaperTask → ReaperAction → Option (Shared × ReaperTask)
  | .ticking, .reap .ok =>
      let reap := JobRepository.reapExpiredLeases shared.clock
      if 0 < shared.jobs.affected reap then
        some (shared.update reap, .notifying)
      else
        some (shared.update reap, .ticking)
  | .ticking, .reap (.error _) => some (shared, .ticking)
  | .notifying, .notifyOne => some (shared.notifyOne, .ticking)
  | _, _ => none

structure State (config : Config) (slots : Nat) extends Shared where
  scheduler : SchedulerTask
  workers : Fin config.workerCount → WorkerTask
  reaper : ReaperTask
  requests : Fin slots → RequestTask

inductive Action (config : Config) (slots : Nat) where
  | tick (elapsed : Nat)
  | scheduler (action : SchedulerAction)
  | worker (worker : Fin config.workerCount) (action : WorkerAction)
  | reaper (action : ReaperAction)
  | api (slot : Fin slots) (action : RequestAction)
  /-- `WorkerPoolHandle::shutdown`. -/
  | shutdown
  /-- The process dies and comes back; its first statement recovers. -/
  | restart
  deriving DecidableEq

namespace Action

variable {config : Config} {slots : Nat}

/-- No repository call fails in this step. -/
def succeeds : Action config slots → Bool
  | .scheduler .refreshFails => false
  | .scheduler (.lease _ reply) => reply.succeeded
  | .scheduler (.returnJob reply) => reply.succeeded
  | .worker _ (.setRunning reply) => reply.succeeded
  | .worker _ (.settle reply) => reply.succeeded
  | .worker _ (.spawn reply) => reply.succeeded
  | .worker _ (.emit reply) => reply.succeeded
  | .reaper (.reap reply) => reply.succeeded
  | .api _ (.call reply) => reply.succeeded
  | _ => true

end Action

namespace State

variable {config : Config} {slots : Nat}

/-- A process that has just started over a table. -/
def booted
    (config : Config)
    (slots : Nat)
    (clock : Time)
    (jobs : JobTable) : State config slots where
  clock := clock
  jobs := jobs
  permit := false
  channel := []
  active := 0
  scheduler := .initial
  workers := fun _ => .idle false
  reaper := .ticking
  requests := fun _ => .absent

/-- The first start, on the table the migrations leave empty. -/
def initial
    (config : Config)
    (slots : Nat)
    (clock : Time) : State config slots :=
  booted config slots clock RecordTable.empty

/-- The receiver is dropped with the last worker. -/
def ChannelClosed (state : State config slots) : Prop :=
  ∀ worker, (state.workers worker).ended = true

instance (state : State config slots) : Decidable state.ChannelClosed :=
  inferInstanceAs (Decidable (∀ _, _))

/-- Dropping the receiver drops the jobs still in the channel. -/
def dropClosed (state : State config slots) : State config slots :=
  if state.ChannelClosed then { state with channel := [] } else state

/-- Only answers survive the process; open requests are lost with it. -/
def afterCrash (task : RequestTask) : RequestTask :=
  if task.inProgress then .absent else task

/-- The recovery of `main` over the table a crash left behind. -/
def restarted (state : State config slots) : State config slots :=
  { booted config slots state.clock
      (state.jobs.update (JobRepository.recoverOnStartup state.clock)) with
    requests := fun slot => afterCrash (state.requests slot) }

def step?
    (externals : Externals)
    (state : State config slots) :
    Action config slots → Option (State config slots)
  | .tick elapsed => some { state with clock := state.clock + elapsed }
  | .scheduler action =>
      (SchedulerTask.step? config (decide state.ChannelClosed)
        state.toShared state.scheduler action).map
          fun (shared, task) =>
            { state with toShared := shared, scheduler := task }
  | .worker worker action =>
      (WorkerTask.step? config externals state.toShared
        (state.workers worker) action).map
          fun (shared, task) =>
            dropClosed
              { state with
                toShared := shared
                workers := Function.update state.workers worker task }
  | .reaper action =>
      (ReaperTask.step? state.toShared state.reaper action).map
        fun (shared, task) =>
          { state with toShared := shared, reaper := task }
  | .api slot action =>
      (RequestTask.step? externals state.toShared
        (state.requests slot) action).map
          fun (shared, task) =>
            { state with
              toShared := shared
              requests := Function.update state.requests slot task }
  | .shutdown =>
      some { state with
        workers := fun worker => (state.workers worker).notifyWaiter }
  | .restart => some state.restarted

/-- Runs of the daemon whose steps all satisfy a condition. -/
abbrev Run
    (externals : Externals)
    (allowed : State config slots → Action config slots → Prop) :
    State config slots → List (Action config slots) →
      State config slots → Prop :=
  TransitionSystem.Run (step? externals) allowed

end State

/-! ## A small daemon -/

namespace Sample

/-- Two workers, as the concrete runs of this development use them. -/
abbrev config : Config where
  workerCount := 2
  workerQueueSize := 10
  heapLookaheadLimit := 10
  leaseDurationSecs := 30
  maxRetryBackoffSecs := 3600
  webhookMaxRetries := 3

/-- One request slot, which numerals name. -/
instance oneSlot : NeZero 1 :=
  ⟨by decide⟩

/-- Two workers or request slots, which numerals name. -/
instance twoSlots : NeZero 2 :=
  ⟨by decide⟩

/-- Two decimal digits. -/
def twoDigits (value : Int) : String :=
  String.ofList
    [Char.ofNat (48 + (value / 10 % 10).toNat),
      Char.ofNat (48 + (value % 10).toNat)]

/--
The foreign functions on the inputs of the concrete runs: the cron expression
of every minute, ids below ten, whole seconds of the first hour of 1970.
-/
def externals : Externals where
  scheduleFromStr expr :=
    if expr = "0 * * * * * *" then
      .ok fun instant => some ((instant / 60000000 + 1) * 60000000)
    else
      .error "Invalid expression"
  uuidText id :=
    "00000000-0000-0000-0000-0000000000" ++ twoDigits id.toNat
  toRfc3339 instant :=
    "1970-01-01T00:" ++ twoDigits (instant / 60000000) ++ ":" ++
      twoDigits (instant / 1000000 % 60) ++ "+00:00"
  uniqueViolation :=
    "error returned from database: duplicate key value violates " ++
      "unique constraint \"jobs_idempotency_key_key\""

/-- A client. -/
def clientId : Uuid :=
  7

/-- A one-off script job that is due at once. -/
def oneOff (idempotencyKey : String) : CreateJobRequest where
  idempotencyKey := idempotencyKey
  payload := .script "/bin/true" [] 30
  scheduledAt := 0
  expiresAt := none
  maxRetries := 3
  retryDelaySec := 60
  webhookUrl := none
  recurrence := none

/-- The same job once every minute, under the default policy. -/
def everyMinute (idempotencyKey : String) : CreateJobRequest :=
  { oneOff idempotencyKey with
    recurrence :=
      some {
        cronExpr := "* * * * *"
        endAt := none
        maxOccurrences := none
        concurrencyPolicy := .queueOnce } }

/-- A script that succeeds without output. -/
def succeeds : ExecutionOutcome :=
  .scriptOutput true (some 0) "" ""

/-- A script that fails without output. -/
def fails : ExecutionOutcome :=
  .scriptOutput false (some 1) "" ""

/-- Create job 1 and bring a copy of it into the channel. -/
def createAndSend : List (Action config 1) :=
  [ .api 0 (.arrive (.createJob clientId (oneOff "key"))),
    .api 0 (.call .ok),
    .api 0 (.call (.inserted 1)),
    .api 0 .notifyOne,
    .scheduler (.refresh [⟨1, 0⟩]),
    .scheduler .sleepElapsed,
    .scheduler (.lease ⟨1, 0⟩ .ok),
    .scheduler .trySend ]

/-- A worker takes the oldest copy and sets its row running. -/
def begin (worker : Fin config.workerCount) : List (Action config 1) :=
  [ .worker worker .recv,
    .worker worker .activate,
    .worker worker (.setRunning .ok) ]

/-- Create template 1 with its first instance, job 2. -/
def createRecurring : List (Action config 2) :=
  [ .api 0 (.arrive (.createJob clientId (everyMinute "key"))),
    .api 0 (.call .ok),
    .api 0 (.call (.inserted 1)),
    .api 0 (.call (.inserted 2)),
    .api 0 .notifyOne,
    .api 0 .notifyOne ]

/-- Bring the first instance to execution when it is due. -/
def executeInstance : List (Action config 2) :=
  [ .scheduler (.refresh [⟨2, 60000000⟩]),
    .tick 60000000,
    .scheduler .sleepElapsed,
    .scheduler (.lease ⟨2, 60000000⟩ .ok),
    .scheduler .trySend,
    .worker 0 .recv,
    .worker 0 .activate,
    .worker 0 (.setRunning .ok) ]

end Sample

end Kronkeeper
