import Mathlib.Algebra.Ring.Int.Defs
import Mathlib.Algebra.Ring.Nat
import Kronkeeper.RecordTable

namespace Kronkeeper

/-!
# Jobs

The data types of `src/models/job.rs`.  The text columns `state` and
`concurrency_policy` are held decoded, as the enumerations `Job::from_row`
builds from them.  `INT` columns are integers; the two places where the source
computes with them in `i32` or `i64` wrap explicitly, as the release build does.
-/

/-- `uuid::Uuid`. -/
abbrev Uuid := BitVec 128

/-- `DateTime<Utc>`, in microseconds, the resolution of `TIMESTAMPTZ`. -/
abbrev Time := Int

/-- A number of seconds as a span of `Time`. -/
def Time.seconds (count : Int) : Int :=
  count * 1000000

/-- Two's complement wrapping of an `i32` result. -/
def wrapI32 (value : Int) : Int :=
  value.bmod (2 ^ 32)

/-- Two's complement wrapping of an `i64` result. -/
def wrapI64 (value : Int) : Int :=
  value.bmod (2 ^ 64)

inductive JobState where
  | scheduled
  | leased
  | running
  | completed
  | failed
  | expired
  | cancelled
  | deadLetter
  deriving Repr, DecidableEq

namespace JobState

def isTerminal : JobState → Bool
  | .completed => true
  | .failed => true
  | .expired => true
  | .deadLetter => true
  | .cancelled => true
  | _ => false

end JobState

/-- Request headers keep their pairs; the source's map has no order to keep. -/
inductive JobPayload where
  | http
      (method : String)
      (url : String)
      (headers : List (String × String))
      (body : Option String)
      (timeoutSec : Nat)
  | script
      (path : String)
      (args : List String)
      (timeoutSec : Nat)
  deriving Repr, DecidableEq

def JobPayload.timeoutSec : JobPayload → Nat
  | .http _ _ _ _ timeoutSec => timeoutSec
  | .script _ _ timeoutSec => timeoutSec

inductive ConcurrencyPolicy where
  | skip
  | allow
  | queueOnce
  deriving Repr, DecidableEq

structure RecurrenceConfig where
  cronExpr : String
  endAt : Option Time
  maxOccurrences : Option Int
  concurrencyPolicy : ConcurrencyPolicy
  deriving Repr, DecidableEq

structure CreateJobRequest where
  idempotencyKey : String
  payload : JobPayload
  scheduledAt : Time
  expiresAt : Option Time
  maxRetries : Int
  retryDelaySec : Int
  webhookUrl : Option String
  recurrence : Option RecurrenceConfig
  deriving Repr, DecidableEq

structure PatchJobRequest where
  cronExpr : String
  deriving Repr, DecidableEq

structure Job where
  id : Uuid
  idempotencyKey : String
  clientId : Option Uuid
  payload : JobPayload
  state : JobState
  scheduledAt : Time
  leasedUntil : Option Time
  expiresAt : Option Time
  attemptCount : Int
  maxRetries : Int
  retryDelaySec : Int
  createdAt : Time
  updatedAt : Time
  webhookUrl : Option String
  webhookSuccess : Option Bool
  webhookAttempts : Int
  isRecurring : Bool
  cronExpr : Option String
  nextInstanceAt : Option Time
  maxOccurrences : Option Int
  occurrencesCompleted : Int
  recurrenceEndAt : Option Time
  parentJobId : Option Uuid
  concurrencyPolicy : ConcurrencyPolicy
  isTemplate : Bool
  deriving Repr, DecidableEq

/-- The columns that no statement of the repository ever assigns. -/
structure JobIdentity where
  id : Uuid
  idempotencyKey : String
  clientId : Option Uuid
  payload : JobPayload
  expiresAt : Option Time
  maxRetries : Int
  retryDelaySec : Int
  createdAt : Time
  webhookUrl : Option String
  isRecurring : Bool
  maxOccurrences : Option Int
  recurrenceEndAt : Option Time
  parentJobId : Option Uuid
  concurrencyPolicy : ConcurrencyPolicy
  isTemplate : Bool
  deriving Repr, DecidableEq

def Job.identity (job : Job) : JobIdentity where
  id := job.id
  idempotencyKey := job.idempotencyKey
  clientId := job.clientId
  payload := job.payload
  expiresAt := job.expiresAt
  maxRetries := job.maxRetries
  retryDelaySec := job.retryDelaySec
  createdAt := job.createdAt
  webhookUrl := job.webhookUrl
  isRecurring := job.isRecurring
  maxOccurrences := job.maxOccurrences
  recurrenceEndAt := job.recurrenceEndAt
  parentJobId := job.parentJobId
  concurrencyPolicy := job.concurrencyPolicy
  isTemplate := job.isTemplate

namespace Job

variable {first second : Job}

theorem id_eq_of_identity
    (same : first.identity = second.identity) :
    first.id = second.id :=
  congrArg JobIdentity.id same

theorem idempotencyKey_eq_of_identity
    (same : first.identity = second.identity) :
    first.idempotencyKey = second.idempotencyKey :=
  congrArg JobIdentity.idempotencyKey same

theorem clientId_eq_of_identity
    (same : first.identity = second.identity) :
    first.clientId = second.clientId :=
  congrArg JobIdentity.clientId same

theorem isTemplate_eq_of_identity
    (same : first.identity = second.identity) :
    first.isTemplate = second.isTemplate :=
  congrArg JobIdentity.isTemplate same

theorem isRecurring_eq_of_identity
    (same : first.identity = second.identity) :
    first.isRecurring = second.isRecurring :=
  congrArg JobIdentity.isRecurring same

theorem parentJobId_eq_of_identity
    (same : first.identity = second.identity) :
    first.parentJobId = second.parentJobId :=
  congrArg JobIdentity.parentJobId same

end Job

/-- The body of every successful answer that returns a job. -/
structure JobResponse where
  id : Uuid
  idempotencyKey : String
  state : JobState
  payload : JobPayload
  scheduledAt : Time
  expiresAt : Option Time
  attemptCount : Int
  maxRetries : Int
  retryDelaySec : Int
  webhookUrl : Option String
  isRecurring : Bool
  cronExpr : Option String
  nextInstanceAt : Option Time
  maxOccurrences : Option Int
  occurrencesCompleted : Int
  recurrenceEndAt : Option Time
  parentJobId : Option Uuid
  concurrencyPolicy : ConcurrencyPolicy
  isTemplate : Bool
  createdAt : Time
  updatedAt : Time
  deriving Repr, DecidableEq

/-- `impl From<Job> for JobResponse`. -/
def JobResponse.ofJob (job : Job) : JobResponse where
  id := job.id
  idempotencyKey := job.idempotencyKey
  state := job.state
  payload := job.payload
  scheduledAt := job.scheduledAt
  expiresAt := job.expiresAt
  attemptCount := job.attemptCount
  maxRetries := job.maxRetries
  retryDelaySec := job.retryDelaySec
  webhookUrl := job.webhookUrl
  isRecurring := job.isRecurring
  cronExpr := job.cronExpr
  nextInstanceAt := job.nextInstanceAt
  maxOccurrences := job.maxOccurrences
  occurrencesCompleted := job.occurrencesCompleted
  recurrenceEndAt := job.recurrenceEndAt
  parentJobId := job.parentJobId
  concurrencyPolicy := job.concurrencyPolicy
  isTemplate := job.isTemplate
  createdAt := job.createdAt
  updatedAt := job.updatedAt

/-- An entry of the scheduler's heap. -/
structure ScheduledJob where
  id : Uuid
  scheduledAt : Time
  deriving Repr, DecidableEq

/-- `2i64.saturating_pow(exp)`. -/
def saturatingPowTwo (exp : Nat) : Int :=
  if exp < 63 then 2 ^ exp else 2 ^ 63 - 1

/-- The power saturates, the product wraps. -/
def computeRetryDelay
    (retryDelaySec attemptCount maxBackoffSecs : Int) : Int :=
  let exp := (max (attemptCount - 1) 0).toNat
  let delay := wrapI64 (retryDelaySec * saturatingPowTwo exp)
  min delay maxBackoffSecs

/-- The settings of `src/config.rs` that the modelled tasks read. -/
structure Config where
  workerCount : Nat
  workerQueueSize : Nat
  heapLookaheadLimit : Int
  leaseDurationSecs : Nat
  maxRetryBackoffSecs : Int
  webhookMaxRetries : Int
  deriving Repr, DecidableEq

end Kronkeeper
