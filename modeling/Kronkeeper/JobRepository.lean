import Kronkeeper.CronExpr
import Kronkeeper.EarliestFirst

namespace Kronkeeper

/-!
# The job repository

The statements of `src/db/queries.rs`.  Each `UPDATE` is a `RowUpdate`, so the
columns of `JobIdentity` are constant by construction; `now` is the `NOW()` of
the statement.  A `SELECT` is a function of the table.  Column width limits and
foreign keys are not modelled: they are among the reasons for which a call may
answer an error, and a task decides nothing by the reason.
-/

/-- The `jobs` table: `id` is its primary key, `idempotency_key` is unique. -/
abbrev JobTable :=
  RecordTable Job.identity JobIdentity.id JobIdentity.idempotencyKey

/-- An `UPDATE jobs` statement. -/
abbrev JobUpdate :=
  RowUpdate Job.identity

namespace JobRepository

/-! ## Reads -/

def getByIdempotencyKey
    (jobs : JobTable)
    (idempotencyKey : String) : Option Job :=
  jobs.findUnique? idempotencyKey

def getJobById
    (jobs : JobTable)
    (id clientId : Uuid) : Option Job :=
  jobs.rows.find? fun row => row.id == id && row.clientId == some clientId

def getJobByIdInternal
    (jobs : JobTable)
    (id : Uuid) : Option Job :=
  jobs.find? id

/-- The rows `fetch_scheduled_jobs` ranges over, before order and limit. -/
def scheduledJobs (jobs : JobTable) : List ScheduledJob :=
  (jobs.rows.filter fun row =>
      row.state == .scheduled && !row.isTemplate).map fun row =>
    { id := row.id, scheduledAt := row.scheduledAt }

/--
`fetch_scheduled_jobs` may answer `fetched`.  SQL leaves the order among equal
instants open, hence a relation; a negative `LIMIT` is an error.
-/
def FetchScheduledJobs
    (jobs : JobTable)
    (limit : Int)
    (fetched : List ScheduledJob) : Prop :=
  0 ≤ limit ∧
    EarliestFirst.Window ScheduledJob.scheduledAt
      limit.toNat (scheduledJobs jobs) fetched

instance
    (jobs : JobTable)
    (limit : Int)
    (fetched : List ScheduledJob) :
    Decidable (FetchScheduledJobs jobs limit fetched) :=
  inferInstanceAs (Decidable (_ ∧ _))

/-- The states `count_active_siblings` counts under a policy. -/
def activeStates : ConcurrencyPolicy → List JobState
  | .skip => [.leased, .running]
  | .queueOnce => [.scheduled, .leased, .running]
  | .allow => []

def countActiveSiblings
    (jobs : JobTable)
    (parentId : Uuid)
    (policy : ConcurrencyPolicy) : Nat :=
  jobs.count fun row =>
    row.parentJobId == some parentId &&
      (activeStates policy).contains row.state

theorem countActiveSiblings_pos_iff
    {jobs : JobTable}
    {parentId : Uuid}
    {policy : ConcurrencyPolicy} :
    0 < countActiveSiblings jobs parentId policy ↔
      ∃ row ∈ jobs.rows,
        row.parentJobId = some parentId ∧
          row.state ∈ activeStates policy := by
  simp [countActiveSiblings, RecordTable.count, List.countP_pos_iff]

/-- The templates `count_recurring_active` counts. -/
def recurringActive (row : Job) : Bool :=
  row.isTemplate && row.isRecurring &&
    !([.completed, .cancelled, .deadLetter] : List JobState).contains
      row.state

def countRecurringActive (jobs : JobTable) : Nat :=
  jobs.count recurringActive

/-! ## Inserts -/

/-- The row an `INSERT` builds: bound columns and column defaults. -/
def newRow
    (now : Time)
    (id clientId : Uuid)
    (req : CreateJobRequest)
    (isTemplate isRecurring : Bool)
    (cronExpr : Option String)
    (nextInstanceAt : Option Time)
    (maxOccurrences : Option Int)
    (recurrenceEndAt : Option Time)
    (concurrencyPolicy : ConcurrencyPolicy)
    (parentJobId : Option Uuid)
    (scheduledAt : Time) : Job where
  id := id
  idempotencyKey := req.idempotencyKey
  clientId := some clientId
  payload := req.payload
  state := .scheduled
  scheduledAt := scheduledAt
  leasedUntil := none
  expiresAt := req.expiresAt
  attemptCount := 0
  maxRetries := req.maxRetries
  retryDelaySec := req.retryDelaySec
  createdAt := now
  updatedAt := now
  webhookUrl := req.webhookUrl
  webhookSuccess := none
  webhookAttempts := 0
  isRecurring := isRecurring
  cronExpr := cronExpr
  nextInstanceAt := nextInstanceAt
  maxOccurrences := maxOccurrences
  occurrencesCompleted := 0
  recurrenceEndAt := recurrenceEndAt
  parentJobId := parentJobId
  concurrencyPolicy := concurrencyPolicy
  isTemplate := isTemplate

/-- The template row of `create_recurring`. -/
def templateRow
    (now : Time)
    (id clientId : Uuid)
    (req : CreateJobRequest)
    (recurrence : RecurrenceConfig)
    (firstFire : Time) : Job :=
  newRow now id clientId req true true
    (some recurrence.cronExpr) (some firstFire)
    recurrence.maxOccurrences recurrence.endAt
    recurrence.concurrencyPolicy none req.scheduledAt

/-- The row of a job without recurrence. -/
def oneOffRow
    (now : Time)
    (id clientId : Uuid)
    (req : CreateJobRequest) : Job :=
  newRow now id clientId req false false
    none none none none .queueOnce none req.scheduledAt

/-- The row `insert_instance` builds from a template and a fire time. -/
def instanceRow
    (now : Time)
    (id : Uuid)
    (template : Job)
    (scheduledAt : Time)
    (idempotencyKey : String) : Job :=
  newRow now id (template.clientId.getD 0)
    { idempotencyKey := idempotencyKey
      payload := template.payload
      scheduledAt := scheduledAt
      expiresAt := template.expiresAt
      maxRetries := template.maxRetries
      retryDelaySec := template.retryDelaySec
      webhookUrl := template.webhookUrl
      recurrence := none }
    false false none none none none
    template.concurrencyPolicy (some template.id) scheduledAt

/-! ## Updates -/

/-- `lease_job`; the lease is cast from `u64` seconds to `i64`. -/
def leaseJob
    (now : Time)
    (id : Uuid)
    (leaseDurationSecs : Nat) : JobUpdate where
  applies row := row.id == id && row.state == .scheduled
  assign row :=
    { row with
      state := .leased
      leasedUntil := some (now + Time.seconds (wrapI64 leaseDurationSecs))
      updatedAt := now }
  keepsIdentity _ := rfl

def setRunning (now : Time) (id : Uuid) : JobUpdate where
  applies row := row.id == id
  assign row := { row with state := .running, updatedAt := now }
  keepsIdentity _ := rfl

def setCompleted (now : Time) (id : Uuid) : JobUpdate where
  applies row := row.id == id
  assign row := { row with state := .completed, updatedAt := now }
  keepsIdentity _ := rfl

def setState (now : Time) (id : Uuid) (state : JobState) : JobUpdate where
  applies row := row.id == id
  assign row := { row with state := state, updatedAt := now }
  keepsIdentity _ := rfl

def scheduleRetry
    (now : Time)
    (id : Uuid)
    (scheduledAt : Time)
    (attemptCount : Int) : JobUpdate where
  applies row := row.id == id
  assign row :=
    { row with
      state := .scheduled
      scheduledAt := scheduledAt
      attemptCount := attemptCount
      leasedUntil := none
      updatedAt := now }
  keepsIdentity _ := rfl

def cancelJob (now : Time) (id clientId : Uuid) : JobUpdate where
  applies row :=
    row.id == id && row.clientId == some clientId &&
      row.state == .scheduled
  assign row := { row with state := .cancelled, updatedAt := now }
  keepsIdentity _ := rfl

/-- The first statement of `cancel_template_and_instances`. -/
def cancelTemplate (now : Time) (templateId clientId : Uuid) : JobUpdate where
  applies row :=
    row.id == templateId && row.clientId == some clientId && row.isTemplate
  assign row := { row with state := .cancelled, updatedAt := now }
  keepsIdentity _ := rfl

/-- The second statement of `cancel_template_and_instances`. -/
def cancelInstances (now : Time) (templateId : Uuid) : JobUpdate where
  applies row :=
    row.parentJobId == some templateId && row.state == .scheduled
  assign row := { row with state := .cancelled, updatedAt := now }
  keepsIdentity _ := rfl

def updateCronExpr
    (now : Time)
    (id clientId : Uuid)
    (cronExpr : String) : JobUpdate where
  applies row :=
    row.id == id && row.clientId == some clientId && row.isTemplate &&
      row.isRecurring
  assign row := { row with cronExpr := some cronExpr, updatedAt := now }
  keepsIdentity _ := rfl

/-- `leased_until < NOW()`; a comparison with NULL is not true. -/
def leaseExpired (now : Time) (row : Job) : Bool :=
  match row.leasedUntil with
  | some deadline => decide (deadline < now)
  | none => false

def reapExpiredLeases (now : Time) : JobUpdate where
  applies row := row.state == .leased && leaseExpired now row
  assign row :=
    { row with state := .scheduled, leasedUntil := none, updatedAt := now }
  keepsIdentity _ := rfl

def recoverOnStartup (now : Time) : JobUpdate where
  applies row :=
    (row.state == .leased || row.state == .running) &&
      (row.leasedUntil.isNone || leaseExpired now row)
  assign row :=
    { row with state := .scheduled, leasedUntil := none, updatedAt := now }
  keepsIdentity _ := rfl

def updateWebhookResult
    (now : Time)
    (id : Uuid)
    (success : Bool)
    (attempts : Int) : JobUpdate where
  applies row := row.id == id
  assign row :=
    { row with
      webhookSuccess := some success
      webhookAttempts := attempts
      updatedAt := now }
  keepsIdentity _ := rfl

def incrementTemplateOccurrences
    (now : Time)
    (templateId : Uuid)
    (nextInstanceAt : Option Time) : JobUpdate where
  applies row := row.id == templateId
  assign row :=
    { row with
      occurrencesCompleted := row.occurrencesCompleted + 1
      nextInstanceAt := nextInstanceAt
      updatedAt := now }
  keepsIdentity _ := rfl

def completeTemplate (now : Time) (templateId : Uuid) : JobUpdate where
  applies row := row.id == templateId
  assign row := { row with state := .completed, updatedAt := now }
  keepsIdentity _ := rfl

end JobRepository

end Kronkeeper
