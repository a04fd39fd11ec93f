import Kronkeeper.SpawnInstance

namespace Kronkeeper

/-!
# The worker loop

One worker of `src/worker/pool.rs` with everything it runs: the executor, the
result handler and the webhook emitter.  What the outside world does (a script,
an HTTP peer, a webhook endpoint) is part of the action.  Logs and gauges are
left out; the counters are kept beside the steps, in a module of their own.
-/

/-! ## Executing a payload -/

structure ExecutionResult where
  success : Bool
  output : String
  statusCode : Option Nat
  deriving Repr, DecidableEq

/-- What the outside world answers to one execution. -/
inductive ExecutionOutcome where
  | timedOut
  | httpBadMethod (message : String)
  | httpAnswer (status : Nat) (text : String)
  | httpError (message : String)
  | scriptRejected (message : String)
  | scriptOutput
      (success : Bool) (code : Option Int) (stdout stderr : String)
  | scriptError (message : String)
  deriving Repr, DecidableEq

namespace Executor

def maxCaptureBytes : Nat :=
  64 * 1024

/-- `&s[..n]`: the prefix of `n` bytes, `none` off a character boundary. -/
def bytePrefix? : Nat → List Char → Option (List Char)
  | 0, _ => some []
  | _, [] => none
  | budget, c :: rest =>
      if c.utf8Size ≤ budget then
        (bytePrefix? (budget - c.utf8Size) rest).map (c :: ·)
      else
        none

/-- `truncate`; `none` is the panic of the slice. -/
def truncate? (s : String) : Option String :=
  if s.utf8ByteSize ≤ maxCaptureBytes then
    some s
  else
    (bytePrefix? maxCaptureBytes s.toList).map fun kept =>
      String.ofList kept ++ "...(truncated)"

/-- A payload meets only outcomes of its own kind. -/
def outcomeFits : JobPayload → ExecutionOutcome → Bool
  | _, .timedOut => true
  | .http .., .httpBadMethod _ => true
  | .http .., .httpAnswer _ _ => true
  | .http .., .httpError _ => true
  | .script .., .scriptRejected _ => true
  | .script .., .scriptOutput .. => true
  | .script .., .scriptError _ => true
  | _, _ => false

/-- `execute`; `none` is a panic while the output is captured. -/
def execute?
    (payload : JobPayload) : ExecutionOutcome → Option ExecutionResult
  | .timedOut =>
      some {
        success := false
        output :=
          "execution timed out after " ++ toString payload.timeoutSec ++ "s"
        statusCode := none }
  | .httpBadMethod message =>
      some {
        success := false
        output := "invalid HTTP method: " ++ message
        statusCode := none }
  | .httpAnswer status text =>
      (truncate? text).map fun output =>
        { success := decide (200 ≤ status) && decide (status < 300)
          output := output
          statusCode := some status }
  | .httpError message =>
      some { success := false, output := message, statusCode := none }
  | .scriptRejected message =>
      some { success := false, output := message, statusCode := none }
  | .scriptOutput success code stdout stderr => do
      let stdout ← truncate? stdout
      let stderr ← truncate? stderr
      pure {
        success := success
        output :=
          if stderr.isEmpty then
            stdout
          else
            stdout ++ "\nstderr: " ++ stderr
        statusCode := code.map fun code => (code % 65536).toNat }
  | .scriptError message =>
      some { success := false, output := message, statusCode := none }

end Executor

/-! ## Deciding what becomes of the job -/

/-- The first write of `ResultHandler::handle`. -/
inductive Disposition where
  | complete
  | expire
  | deadLetter
  | retry (retryAt : Time) (attempt : Int)
  deriving Repr, DecidableEq

namespace ResultHandler

/--
`now + ChronoDuration::seconds(delay)`; `none` is a panic, either of the
duration (beyond `i64::MAX` milliseconds) or of the date arithmetic.
-/
def retryInstant? (now : Time) (delaySecs : Int) : Option Time :=
  if delaySecs.natAbs ≤ 9223372036854775 then
    let instant := now + Time.seconds delaySecs
    if Time.seconds (-8334601228800) ≤ instant ∧
        instant < Time.seconds 8210266876800 then
      some instant
    else
      none
  else
    none

/-- The branches of `handle`; what a retry comes to is left open. -/
def branch
    {Answer : Type}
    (job : Job)
    (result : ExecutionResult)
    (now : Time)
    (known : Disposition → Answer)
    (retry : Int → Answer) : Answer :=
  if result.success then
    known .complete
  else if job.expiresAt.any fun expiresAt => decide (expiresAt ≤ now) then
    known .expire
  else
    let nextAttempt := wrapI32 (job.attemptCount + 1)
    if job.maxRetries < nextAttempt then
      known .deadLetter
    else
      retry nextAttempt

/-- `handle` up to its first repository call. -/
def dispose?
    (config : Config)
    (job : Job)
    (result : ExecutionResult)
    (now : Time) : Option Disposition :=
  branch job result now some fun nextAttempt =>
    let delaySecs :=
      computeRetryDelay job.retryDelaySec nextAttempt
        config.maxRetryBackoffSecs
    (retryInstant? now delaySecs).map fun retryAt =>
      .retry retryAt nextAttempt

/-- The statement behind a disposition. -/
def dispositionUpdate
    (now : Time)
    (id : Uuid) : Disposition → JobUpdate
  | .complete => JobRepository.setCompleted now id
  | .expire => JobRepository.setState now id .expired
  | .deadLetter => JobRepository.setState now id .deadLetter
  | .retry retryAt attempt =>
      JobRepository.scheduleRetry now id retryAt attempt

end ResultHandler

/-! ## Delivering the webhook -/

/-- The step `emit` takes next; `post` carries the body's job. -/
inductive EmitCall where
  | loadJob
  | post (job : Job) (url : String) (attempts : Int)
  | recordResult (success : Bool) (attempts : Int)
  deriving Repr, DecidableEq

inductive EmitProgress where
  | next (call : EmitCall)
  | returned
  deriving Repr, DecidableEq

namespace WebhookEmitter

/-- The head of the delivery loop: deliver once more or record the result. -/
def attempt
    (config : Config)
    (job : Job)
    (url : String)
    (attempts : Int) : EmitProgress :=
  if attempts ≤ config.webhookMaxRetries then
    .next (.post job url attempts)
  else
    .next (.recordResult false attempts)

/-- The checks between the load and the first delivery. -/
def planDelivery
    (config : Config)
    (read : Option Job) : EmitProgress :=
  match read with
  | none => .returned
  | some job =>
      if !job.state.isTerminal then
        .returned
      else
        match job.webhookUrl with
        | none => .returned
        | some url => attempt config job url job.webhookAttempts

/-- After one POST; the pause before the next one only lets time pass. -/
def afterPost
    (config : Config)
    (job : Job)
    (url : String)
    (attempts : Int)
    (delivered : Bool) : EmitProgress :=
  if delivered then
    .next (.recordResult true (wrapI32 (attempts + 1)))
  else
    attempt config job url (wrapI32 (attempts + 1))

end WebhookEmitter

/-! ## The task -/

/-- Where a worker stands in its loop. -/
inductive WorkerTask where
  /-- In `select!`; the flag says that `notify_waiters` has reached it. -/
  | idle (notified : Bool)
  /-- Took a job off the channel, before `active.fetch_add`. -/
  | received (job : Job)
  /-- Before `set_running`. -/
  | starting (job : Job)
  /-- In `execute`. -/
  | executing (job : Job)
  /-- In `handle`, before its first repository call; `now` is its clock. -/
  | handling (job : Job) (result : ExecutionResult) (now : Time)
  /-- In `handle`, between `schedule_retry` and `notify_one`. -/
  | retried (job : Job)
  | spawning (job : Job) (call : SpawnCall)
  | emitting (job : Job) (call : EmitCall)
  /-- `handle` has returned, or `set_running` failed; before `fetch_sub`. -/
  | finishing
  | stopped
  | panicked
  deriving Repr, DecidableEq

inductive WorkerAction where
  | recv
  | activate
  | setRunning (reply : Reply)
  | execute (outcome : ExecutionOutcome)
  | settle (reply : Reply)
  | notifyOne
  | spawn (reply : Reply)
  | emit (reply : Reply)
  | posted (delivered : Bool)
  | deactivate
  | stop
  deriving Repr, DecidableEq

namespace WorkerTask

/-- The task has ended and dropped its half of the channel. -/
def ended : WorkerTask → Bool
  | .stopped => true
  | .panicked => true
  | _ => false

/-- `notify_waiters` reaches exactly the workers waiting in `select!`. -/
def notifyWaiter : WorkerTask → WorkerTask
  | .idle _ => .idle true
  | task => task

/-- The continuation of `handle` after its state write. -/
def afterSettle (job : Job) : Disposition → WorkerTask
  | .complete =>
      match job.parentJobId with
      | some parentId =>
          .spawning job (.readTemplate parentId job.scheduledAt)
      | none => .emitting job .loadJob
  | .expire => .emitting job .loadJob
  | .deadLetter => .emitting job .loadJob
  | .retry _ _ => .retried job

def afterSpawn (job : Job) : SpawnProgress → WorkerTask
  | .next call => .spawning job call
  | .returned true => .emitting job .loadJob
  -- The `?` on `spawn_next_instance` leaves `handle` before `emit`.
  | .returned false => .finishing

def afterEmit (job : Job) : EmitProgress → WorkerTask
  | .next call => .emitting job call
  | .returned => .finishing

def step?
    (config : Config)
    (externals : Externals)
    (shared : Shared) :
    WorkerTask → WorkerAction → Option (Shared × WorkerTask)
  | .idle _, .recv =>
      match shared.channel with
      | [] => none
      | job :: rest =>
          some ({ shared with channel := rest }, .received job)
  | .idle true, .stop => some (shared, .stopped)
  | .received job, .activate =>
      some ({ shared with active := shared.active + 1 }, .starting job)
  | .starting job, .setRunning .ok =>
      some (shared.update (JobRepository.setRunning shared.clock job.id),
        .executing job)
  | .starting _, .setRunning (.error _) => some (shared, .finishing)
  | .executing job, .execute outcome =>
      if Executor.outcomeFits job.payload outcome then
        match Executor.execute? job.payload outcome with
        | some result => some (shared, .handling job result shared.clock)
        | none => some (shared, .panicked)
      else
        none
  | .handling job result now, .settle reply =>
      match ResultHandler.dispose? config job result now with
      | none => some (shared, .panicked)
      | some disposition =>
          match reply with
          | .ok =>
              some (shared.update
                  (ResultHandler.dispositionUpdate shared.clock job.id
                    disposition),
                afterSettle job disposition)
          | .error _ => some (shared, .finishing)
          | .inserted _ => none
  | .retried _, .notifyOne => some (shared.notifyOne, .finishing)
  | .spawning job call, .spawn reply =>
      (call.step? externals reply shared).map fun (shared, progress) =>
        (shared, afterSpawn job progress)
  | .emitting job .loadJob, .emit .ok =>
      some (shared,
        afterEmit job
          (WebhookEmitter.planDelivery config
            (JobRepository.getJobByIdInternal shared.jobs job.id)))
  | .emitting _ .loadJob, .emit (.error _) => some (shared, .finishing)
  | .emitting job (.post body url attempts), .posted delivered =>
      some (shared,
        afterEmit job
          (WebhookEmitter.afterPost config body url attempts delivered))
  | .emitting job (.recordResult success attempts), .emit .ok =>
      some (shared.update
          (JobRepository.updateWebhookResult shared.clock job.id success
            attempts),
        .finishing)
  | .emitting _ (.recordResult _ _), .emit (.error _) =>
      some (shared, .finishing)
  | .finishing, .deactivate =>
      some ({ shared with active := shared.active - 1 }, .idle false)
  | _, _ => none

end WorkerTask

end Kronkeeper
