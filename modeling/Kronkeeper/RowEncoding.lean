import Kronkeeper.RowHistory
import Kronkeeper.StoredRows

namespace Kronkeeper

/-!
# The stored form of a job

`encode` is what the columns of a job hold.  Every statement of the repository,
run on stored rows, does to the encoding of a job what the `RowUpdate` of the
model does to the job, and every encoding decodes to its job.
-/

variable {Json : Type}

open SqlValue in
/-- The stored row of a job. -/
def encode (serde : Serde Json) (job : Job) : StoredRow Json
  | .id => .uuid job.id
  | .idempotencyKey => .text job.idempotencyKey
  | .clientId => ofOption uuid job.clientId
  | .payload => .json (serde.toValue job.payload)
  | .state => .text job.state.asStr
  | .scheduledAt => .timestamp job.scheduledAt
  | .leasedUntil => ofOption timestamp job.leasedUntil
  | .expiresAt => ofOption timestamp job.expiresAt
  | .attemptCount => .int job.attemptCount
  | .maxRetries => .int job.maxRetries
  | .retryDelaySec => .int job.retryDelaySec
  | .createdAt => .timestamp job.createdAt
  | .updatedAt => .timestamp job.updatedAt
  | .webhookUrl => ofOption text job.webhookUrl
  | .webhookSuccess => ofOption boolean job.webhookSuccess
  | .webhookAttempts => .int job.webhookAttempts
  | .isRecurring => .boolean job.isRecurring
  | .cronExpr => ofOption text job.cronExpr
  | .nextInstanceAt => ofOption timestamp job.nextInstanceAt
  | .maxOccurrences => ofOption int job.maxOccurrences
  | .occurrencesCompleted => .int job.occurrencesCompleted
  | .recurrenceEndAt => ofOption timestamp job.recurrenceEndAt
  | .parentJobId => ofOption uuid job.parentJobId
  | .concurrencyPolicy => .text job.concurrencyPolicy.asStr
  | .isTemplate => .boolean job.isTemplate

namespace SqlValue

variable (Json)

@[simp] theorem nullable_uuid (value : Option Uuid) :
    nullable uuid? (ofOption (uuid : Uuid → SqlValue Json) value) =
      some value := by
  cases value <;> rfl

@[simp] theorem nullable_text (value : Option String) :
    nullable text? (ofOption (text : String → SqlValue Json) value) =
      some value := by
  cases value <;> rfl

@[simp] theorem nullable_timestamp (value : Option Time) :
    nullable timestamp?
        (ofOption (timestamp : Time → SqlValue Json) value) =
      some value := by
  cases value <;> rfl

@[simp] theorem nullable_int (value : Option Int) :
    nullable int? (ofOption (int : Int → SqlValue Json) value) =
      some value := by
  cases value <;> rfl

@[simp] theorem nullable_boolean (value : Option Bool) :
    nullable boolean? (ofOption (boolean : Bool → SqlValue Json) value) =
      some value := by
  cases value <;> rfl

variable {Json}

@[simp] theorem uuid?_uuid (value : Uuid) :
    uuid? (uuid value : SqlValue Json) = some value :=
  rfl

@[simp] theorem text?_text (value : String) :
    text? (text value : SqlValue Json) = some value :=
  rfl

@[simp] theorem json?_json (value : Json) :
    json? (json value) = some value :=
  rfl

@[simp] theorem timestamp?_timestamp (value : Time) :
    timestamp? (timestamp value : SqlValue Json) = some value :=
  rfl

@[simp] theorem int?_int (value : Int) :
    int? (int value : SqlValue Json) = some value :=
  rfl

@[simp] theorem boolean?_boolean (value : Bool) :
    boolean? (boolean value : SqlValue Json) = some value :=
  rfl

end SqlValue

/-- Every column is selected, so a field is read from the stored row. -/
theorem field?_jobColumns
    {Value : Type}
    (stored : StoredRow Json)
    (column : Column)
    (read : SqlValue Json → Option Value) :
    field? jobColumns stored column read = read (stored column) := by
  have listed : column ∈ jobColumns := by
    cases column <;> decide
  exact if_pos listed

/-- The stored row of a job decodes to the job. -/
theorem decode?_encode
    {serde : Serde Json}
    (inverts :
      ∀ payload, serde.fromValue (serde.toValue payload) = .ok payload)
    (job : Job) :
    decode? serde (encode serde job) = some job := by
  simp only [decode?, JobRow.fromSelected?, field?_jobColumns, encode,
    SqlValue.nullable_uuid, SqlValue.nullable_text,
    SqlValue.nullable_timestamp, SqlValue.nullable_int,
    SqlValue.nullable_boolean, SqlValue.uuid?_uuid, SqlValue.text?_text,
    SqlValue.json?_json, SqlValue.timestamp?_timestamp,
    SqlValue.int?_int, SqlValue.boolean?_boolean, Option.bind_eq_bind,
    Option.bind_some, Option.pure_def, Job.fromRow,
    JobState.fromStr_asStr, inverts, ConcurrencyPolicy.fromStr_asStr,
    Option.getD_some]
  rfl

/-! ## Conditions on a stored row -/

section Conditions

variable (serde : Serde Json) (job : Job)

@[simp] theorem isUuid_id (id : Uuid) :
    (encode serde job .id).isUuid id = (job.id == id) := by
  rfl

@[simp] theorem isUuid_clientId (id : Uuid) :
    (encode serde job .clientId).isUuid id =
      (job.clientId == some id) := by
  cases client : job.clientId <;>
    simp [encode, client, SqlValue.ofOption, SqlValue.isUuid,
      SqlValue.uuid?]

@[simp] theorem isUuid_parentJobId (id : Uuid) :
    (encode serde job .parentJobId).isUuid id =
      (job.parentJobId == some id) := by
  cases parent : job.parentJobId <;>
    simp [encode, parent, SqlValue.ofOption, SqlValue.isUuid,
      SqlValue.uuid?]

@[simp] theorem isText_state (state : JobState) :
    (encode serde job .state).isText state.asStr =
      (job.state == state) := by
  simp [encode, SqlValue.isText, SqlValue.text?,
    ← JobState.asStr_beq]

@[simp] theorem isTrue_isTemplate :
    (encode serde job .isTemplate).isTrue = job.isTemplate := by
  simp [encode, SqlValue.isTrue, SqlValue.boolean?]

@[simp] theorem isTrue_isRecurring :
    (encode serde job .isRecurring).isTrue = job.isRecurring := by
  simp [encode, SqlValue.isTrue, SqlValue.boolean?]

@[simp] theorem isNull_leasedUntil :
    (encode serde job .leasedUntil).isNull =
      job.leasedUntil.isNone := by
  cases lease : job.leasedUntil <;>
    simp [encode, lease, SqlValue.ofOption, SqlValue.isNull]

@[simp] theorem isBefore_leasedUntil (now : Time) :
    (encode serde job .leasedUntil).isBefore now =
      JobRepository.leaseExpired now job := by
  cases lease : job.leasedUntil <;>
    simp [encode, lease, SqlValue.ofOption, SqlValue.isBefore,
      SqlValue.timestamp?, JobRepository.leaseExpired]

/-- The stored row of a job meets the constraints of the table. -/
theorem violation?_encode :
    violation? (encode serde job) = none := by
  have states : ∀ state : JobState, state.asStr ∈ checkedStates := by
    intro state
    cases state <;> decide
  have policies :
      ∀ policy : ConcurrencyPolicy, policy.asStr ∈ checkedPolicies := by
    intro policy
    cases policy <;> decide
  simp [violation?, requiredColumns, encode, SqlValue.isNull,
    SqlValue.isListed, SqlValue.text?, states, policies]

theorem collides_encode (other : Job) :
    collides (encode serde job) (encode serde other) =
      (job.id == other.id ||
        job.idempotencyKey == other.idempotencyKey) := by
  rfl

end Conditions

/-! ## Statements on stored rows -/

/-- The stored statement does to the encoding what the model does to the job. -/
structure Represents
    (serde : Serde Json)
    (stored : StoredUpdate Json)
    (change : JobUpdate) : Prop where
  selects : ∀ job, stored.selects (encode serde job) = change.applies job
  assign :
    ∀ job,
      stored.assign (encode serde job) =
        encode serde (change.assign job)

namespace Represents

variable {serde : Serde Json}
variable {stored : StoredUpdate Json}
variable {change : JobUpdate}

theorem image
    (represents : Represents serde stored change)
    (job : Job) :
    stored.image (encode serde job) =
      encode serde (change.image job) := by
  unfold StoredUpdate.image RowUpdate.image
  rw [represents.selects]
  split
  · exact represents.assign job
  · rfl

/-- The constraints admit every stored row the statement leaves behind. -/
theorem run
    (represents : Represents serde stored change)
    (now : Time)
    (jobs : JobTable) :
    (Statement.update stored).run now
        (jobs.rows.map (encode serde)) =
      .ok ((jobs.update change).rows.map (encode serde)) := by
  have images :
      (jobs.rows.map (encode serde)).map stored.image =
        (jobs.update change).rows.map (encode serde) := by
    simp [RecordTable.update, Function.comp_def, represents.image]
  have admitted :
      ((jobs.update change).rows.map (encode serde)).findSome?
          violation? =
        none := by
    simp [violation?_encode]
  simp only [Statement.run, images, admitted]

end Represents

section Updates

variable (serde : Serde Json) (now : Time) (id clientId : Uuid)

theorem represents_leaseJob (leaseDurationSecs : Nat) :
    Represents serde
      (StoredRepository.leaseJob now id leaseDurationSecs)
      (JobRepository.leaseJob now id leaseDurationSecs) where
  selects job := by
    exact congrArg ((job.id == id) && ·)
      (isText_state serde job .scheduled)
  assign job := by
    funext column
    cases column <;> rfl

theorem represents_setRunning :
    Represents serde (StoredRepository.setRunning now id)
      (JobRepository.setRunning now id) where
  selects _ := rfl
  assign job := by
    funext column
    cases column <;> rfl

theorem represents_setCompleted :
    Represents serde (StoredRepository.setCompleted now id)
      (JobRepository.setCompleted now id) where
  selects _ := rfl
  assign job := by
    funext column
    cases column <;> rfl

theorem represents_setState (state : JobState) :
    Represents serde (StoredRepository.setState now id state)
      (JobRepository.setState now id state) where
  selects _ := rfl
  assign job := by
    funext column
    cases column <;> rfl

theorem represents_scheduleRetry
    (scheduledAt : Time)
    (attemptCount : Int) :
    Represents serde
      (StoredRepository.scheduleRetry now id scheduledAt attemptCount)
      (JobRepository.scheduleRetry now id scheduledAt attemptCount) where
  selects _ := rfl
  assign job := by
    funext column
    cases column <;> rfl

theorem represents_cancelJob :
    Represents serde (StoredRepository.cancelJob now id clientId)
      (JobRepository.cancelJob now id clientId) where
  selects job := by
    have scheduled := isText_state serde job .scheduled
    simp only [JobState.asStr] at scheduled
    simp [StoredRepository.cancelJob, JobRepository.cancelJob, scheduled]
  assign job := by
    funext column
    cases column <;> rfl

theorem represents_cancelTemplate :
    Represents serde (StoredRepository.cancelTemplate now id clientId)
      (JobRepository.cancelTemplate now id clientId) where
  selects job := by
    simp [StoredRepository.cancelTemplate, JobRepository.cancelTemplate]
  assign job := by
    funext column
    cases column <;> rfl

theorem represents_cancelInstances :
    Represents serde (StoredRepository.cancelInstances now id)
      (JobRepository.cancelInstances now id) where
  selects job := by
    have scheduled := isText_state serde job .scheduled
    simp only [JobState.asStr] at scheduled
    simp [StoredRepository.cancelInstances,
      JobRepository.cancelInstances, scheduled]
  assign job := by
    funext column
    cases column <;> rfl

theorem represents_updateCronExpr (cronExpr : String) :
    Represents serde
      (StoredRepository.updateCronExpr now id clientId cronExpr)
      (JobRepository.updateCronExpr now id clientId cronExpr) where
  selects job := by
    simp [StoredRepository.updateCronExpr, JobRepository.updateCronExpr]
  assign job := by
    funext column
    cases column <;> rfl

theorem represents_reapExpiredLeases :
    Represents serde (StoredRepository.reapExpiredLeases now)
      (JobRepository.reapExpiredLeases now) where
  selects job := by
    have leased := isText_state serde job .leased
    simp only [JobState.asStr] at leased
    simp [StoredRepository.reapExpiredLeases,
      JobRepository.reapExpiredLeases, leased]
  assign job := by
    funext column
    cases column <;> rfl

theorem represents_recoverOnStartup :
    Represents serde (StoredRepository.recoverOnStartup now)
      (JobRepository.recoverOnStartup now) where
  selects job := by
    have leased := isText_state serde job .leased
    have running := isText_state serde job .running
    simp only [JobState.asStr] at leased running
    simp [StoredRepository.recoverOnStartup,
      JobRepository.recoverOnStartup, leased, running]
  assign job := by
    funext column
    cases column <;> rfl

theorem represents_updateWebhookResult
    (success : Bool)
    (attempts : Int) :
    Represents serde
      (StoredRepository.updateWebhookResult now id success attempts)
      (JobRepository.updateWebhookResult now id success attempts) where
  selects _ := rfl
  assign job := by
    funext column
    cases column <;> rfl

theorem represents_incrementTemplateOccurrences
    (nextInstanceAt : Option Time) :
    Represents serde
      (StoredRepository.incrementTemplateOccurrences now id
        nextInstanceAt)
      (JobRepository.incrementTemplateOccurrences now id
        nextInstanceAt) where
  selects _ := rfl
  assign job := by
    funext column
    cases column <;> rfl

theorem represents_completeTemplate :
    Represents serde (StoredRepository.completeTemplate now id)
      (JobRepository.completeTemplate now id) where
  selects _ := rfl
  assign job := by
    funext column
    cases column <;> rfl

end Updates

end Kronkeeper
