import Kronkeeper.JobRepository

namespace Kronkeeper

/-!
# Rows as the database stores them

The table of the model holds decoded jobs.  Here a row is what PostgreSQL
keeps: a value in each column, with the states and policies as texts and the
payload as JSON.  Each statement of `src/db/queries.rs` is given by its SQL
text and its bind list, with its literals.  What `serde_json` does is a
parameter.
-/

/-- A column of the `jobs` table. -/
inductive Column where
  | id
  | idempotencyKey
  | clientId
  | payload
  | state
  | scheduledAt
  | leasedUntil
  | expiresAt
  | attemptCount
  | maxRetries
  | retryDelaySec
  | createdAt
  | updatedAt
  | webhookUrl
  | webhookSuccess
  | webhookAttempts
  | isRecurring
  | cronExpr
  | nextInstanceAt
  | maxOccurrences
  | occurrencesCompleted
  | recurrenceEndAt
  | parentJobId
  | concurrencyPolicy
  | isTemplate
  deriving Repr, DecidableEq

/-- A stored value; `Json` stands for `serde_json::Value`. -/
inductive SqlValue (Json : Type) where
  | null
  | uuid (value : Uuid)
  | text (value : String)
  | json (value : Json)
  | timestamp (value : Time)
  | int (value : Int)
  | boolean (value : Bool)
  deriving Repr, DecidableEq

abbrev StoredRow (Json : Type) :=
  Column → SqlValue Json

/-- `serde_json` on the derived `JobPayload`. -/
structure Serde (Json : Type) where
  toValue : JobPayload → Json
  fromValue : Json → Except String JobPayload

/-! ## Texts of the enumerations -/

namespace JobState

def asStr : JobState → String
  | .scheduled => "SCHEDULED"
  | .leased => "LEASED"
  | .running => "RUNNING"
  | .completed => "COMPLETED"
  | .failed => "FAILED"
  | .expired => "EXPIRED"
  | .cancelled => "CANCELLED"
  | .deadLetter => "DEAD_LETTER"

def fromStr : String → Option JobState
  | "SCHEDULED" => some .scheduled
  | "LEASED" => some .leased
  | "RUNNING" => some .running
  | "COMPLETED" => some .completed
  | "FAILED" => some .failed
  | "EXPIRED" => some .expired
  | "CANCELLED" => some .cancelled
  | "DEAD_LETTER" => some .deadLetter
  | _ => none

@[simp] theorem fromStr_asStr (state : JobState) :
    fromStr state.asStr = some state := by
  cases state <;> rfl

theorem asStr_beq (first second : JobState) :
    (first.asStr == second.asStr) = (first == second) := by
  cases first <;> cases second <;> rfl

end JobState

namespace ConcurrencyPolicy

def asStr : ConcurrencyPolicy → String
  | .skip => "skip"
  | .allow => "allow"
  | .queueOnce => "queue_once"

def fromStr : String → Option ConcurrencyPolicy
  | "skip" => some .skip
  | "allow" => some .allow
  | "queue_once" => some .queueOnce
  | _ => none

@[simp] theorem fromStr_asStr (policy : ConcurrencyPolicy) :
    fromStr policy.asStr = some policy := by
  cases policy <;> rfl

end ConcurrencyPolicy

/-! ## Reading a row -/

/-- `JobRow`, whose fields `sqlx` fills by column name. -/
structure JobRow (Json : Type) where
  id : Uuid
  idempotencyKey : String
  clientId : Option Uuid
  payload : Json
  state : String
  scheduledAt : Time
  leasedUntil : Option Time
  expiresAt : Option Time
  attemptCount : Int
  maxRetries : Int
  retryDelaySec : Int
  createdAt : Time
  updatedAt : Time
  webhookUrl : Option String
  webhookSuccess : Option Bool
  webhookAttempts : Int
  isRecurring : Bool
  cronExpr : Option String
  nextInstanceAt : Option Time
  maxOccurrences : Option Int
  occurrencesCompleted : Int
  recurrenceEndAt : Option Time
  parentJobId : Option Uuid
  concurrencyPolicy : String
  isTemplate : Bool

namespace SqlValue

variable {Json : Type}

/-- A field of type `Option`. -/
def ofOption
    {Value : Type}
    (wrap : Value → SqlValue Json) : Option Value → SqlValue Json
  | none => .null
  | some value => wrap value

def uuid? : SqlValue Json → Option Uuid
  | .uuid value => some value
  | _ => none

def text? : SqlValue Json → Option String
  | .text value => some value
  | _ => none

def json? : SqlValue Json → Option Json
  | .json value => some value
  | _ => none

def timestamp? : SqlValue Json → Option Time
  | .timestamp value => some value
  | _ => none

def int? : SqlValue Json → Option Int
  | .int value => some value
  | _ => none

def boolean? : SqlValue Json → Option Bool
  | .boolean value => some value
  | _ => none

/-- `NULL` decodes into a field of type `Option` only. -/
def nullable
    {Value : Type}
    (read : SqlValue Json → Option Value) :
    SqlValue Json → Option (Option Value)
  | .null => some none
  | value => (read value).map some

end SqlValue

/-- The columns of a `SELECT` or `RETURNING`, in the order of its text. -/
def jobColumns : List Column :=
  [ .id, .idempotencyKey, .clientId, .payload, .state,
    .scheduledAt, .leasedUntil, .expiresAt,
    .attemptCount, .maxRetries, .retryDelaySec,
    .createdAt, .updatedAt,
    .webhookUrl, .webhookSuccess, .webhookAttempts,
    .isRecurring, .cronExpr, .nextInstanceAt,
    .maxOccurrences, .occurrencesCompleted, .recurrenceEndAt,
    .parentJobId, .concurrencyPolicy, .isTemplate ]

section Decoding

variable {Json : Type}

/-- One field of a selected row: no such column, or a value of its type. -/
def field?
    {Value : Type}
    (columns : List Column)
    (stored : StoredRow Json)
    (column : Column)
    (read : SqlValue Json → Option Value) : Option Value :=
  if column ∈ columns then read (stored column) else none

open SqlValue in
/-- The derived `FromRow`; `none` is an error of `sqlx`. -/
def JobRow.fromSelected?
    (columns : List Column)
    (stored : StoredRow Json) : Option (JobRow Json) := do
  let id ← field? columns stored .id uuid?
  let idempotencyKey ← field? columns stored .idempotencyKey text?
  let clientId ← field? columns stored .clientId (nullable uuid?)
  let payload ← field? columns stored .payload json?
  let state ← field? columns stored .state text?
  let scheduledAt ← field? columns stored .scheduledAt timestamp?
  let leasedUntil ←
    field? columns stored .leasedUntil (nullable timestamp?)
  let expiresAt ← field? columns stored .expiresAt (nullable timestamp?)
  let attemptCount ← field? columns stored .attemptCount int?
  let maxRetries ← field? columns stored .maxRetries int?
  let retryDelaySec ← field? columns stored .retryDelaySec int?
  let createdAt ← field? columns stored .createdAt timestamp?
  let updatedAt ← field? columns stored .updatedAt timestamp?
  let webhookUrl ← field? columns stored .webhookUrl (nullable text?)
  let webhookSuccess ←
    field? columns stored .webhookSuccess (nullable boolean?)
  let webhookAttempts ← field? columns stored .webhookAttempts int?
  let isRecurring ← field? columns stored .isRecurring boolean?
  let cronExpr ← field? columns stored .cronExpr (nullable text?)
  let nextInstanceAt ←
    field? columns stored .nextInstanceAt (nullable timestamp?)
  let maxOccurrences ←
    field? columns stored .maxOccurrences (nullable int?)
  let occurrencesCompleted ←
    field? columns stored .occurrencesCompleted int?
  let recurrenceEndAt ←
    field? columns stored .recurrenceEndAt (nullable timestamp?)
  let parentJobId ← field? columns stored .parentJobId (nullable uuid?)
  let concurrencyPolicy ← field? columns stored .concurrencyPolicy text?
  let isTemplate ← field? columns stored .isTemplate boolean?
  pure {
    id := id
    idempotencyKey := idempotencyKey
    clientId := clientId
    payload := payload
    state := state
    scheduledAt := scheduledAt
    leasedUntil := leasedUntil
    expiresAt := expiresAt
    attemptCount := attemptCount
    maxRetries := maxRetries
    retryDelaySec := retryDelaySec
    createdAt := createdAt
    updatedAt := updatedAt
    webhookUrl := webhookUrl
    webhookSuccess := webhookSuccess
    webhookAttempts := webhookAttempts
    isRecurring := isRecurring
    cronExpr := cronExpr
    nextInstanceAt := nextInstanceAt
    maxOccurrences := maxOccurrences
    occurrencesCompleted := occurrencesCompleted
    recurrenceEndAt := recurrenceEndAt
    parentJobId := parentJobId
    concurrencyPolicy := concurrencyPolicy
    isTemplate := isTemplate }

/-- `Job::from_row`. -/
def Job.fromRow
    (serde : Serde Json)
    (row : JobRow Json) : Except String Job := do
  let state ←
    match JobState.fromStr row.state with
    | some state => pure state
    | none => throw ("unknown job state: " ++ row.state)
  let payload ← serde.fromValue row.payload
  let concurrencyPolicy :=
    (ConcurrencyPolicy.fromStr row.concurrencyPolicy).getD .queueOnce
  pure {
    id := row.id
    idempotencyKey := row.idempotencyKey
    clientId := row.clientId
    payload := payload
    state := state
    scheduledAt := row.scheduledAt
    leasedUntil := row.leasedUntil
    expiresAt := row.expiresAt
    attemptCount := row.attemptCount
    maxRetries := row.maxRetries
    retryDelaySec := row.retryDelaySec
    createdAt := row.createdAt
    updatedAt := row.updatedAt
    webhookUrl := row.webhookUrl
    webhookSuccess := row.webhookSuccess
    webhookAttempts := row.webhookAttempts
    isRecurring := row.isRecurring
    cronExpr := row.cronExpr
    nextInstanceAt := row.nextInstanceAt
    maxOccurrences := row.maxOccurrences
    occurrencesCompleted := row.occurrencesCompleted
    recurrenceEndAt := row.recurrenceEndAt
    parentJobId := row.parentJobId
    concurrencyPolicy := concurrencyPolicy
    isTemplate := row.isTemplate }

/-- What a query over `JOB_COLUMNS` makes of a row; `none` is an error. -/
def decode? (serde : Serde Json) (stored : StoredRow Json) : Option Job :=
  (JobRow.fromSelected? jobColumns stored).bind fun row =>
    (Job.fromRow serde row).toOption

end Decoding

/-! ## Statements -/

section Statements

variable {Json : Type}

/-- An `UPDATE jobs SET .. WHERE ..`. -/
structure StoredUpdate (Json : Type) where
  selects : StoredRow Json → Bool
  assignments : StoredRow Json → List (Column × SqlValue Json)

namespace StoredUpdate

/-- The row with its assignments made. -/
def assign
    (change : StoredUpdate Json)
    (stored : StoredRow Json) : StoredRow Json :=
  fun column =>
    ((change.assignments stored).lookup column).getD (stored column)

def image
    (change : StoredUpdate Json)
    (stored : StoredRow Json) : StoredRow Json :=
  if change.selects stored then change.assign stored else stored

end StoredUpdate

/-- A statement that writes, with what it binds. -/
inductive Statement (Json : Type) where
  | insert
      (id : Uuid) (columns : List Column) (binds : List (SqlValue Json))
  | update (change : StoredUpdate Json)

/-- What the table gives a column that an `INSERT` does not name. -/
def columnDefault (now : Time) (id : Uuid) : Column → SqlValue Json
  | .id => .uuid id
  | .state => .text "SCHEDULED"
  | .attemptCount => .int 0
  | .maxRetries => .int 3
  | .retryDelaySec => .int 60
  | .createdAt => .timestamp now
  | .updatedAt => .timestamp now
  | .webhookAttempts => .int 0
  | .isRecurring => .boolean false
  | .occurrencesCompleted => .int 0
  | .concurrencyPolicy => .text "queue_once"
  | .isTemplate => .boolean false
  | _ => .null

/-- The row of an `INSERT`: the n-th value goes into the n-th column. -/
def insertedRow
    (now : Time)
    (id : Uuid)
    (columns : List Column)
    (binds : List (SqlValue Json)) : StoredRow Json :=
  fun column =>
    ((columns.zip binds).lookup column).getD (columnDefault now id column)

/-- Columns declared `NOT NULL`. -/
def requiredColumns : List Column :=
  [ .id, .idempotencyKey, .payload, .state, .scheduledAt, .attemptCount,
    .maxRetries, .retryDelaySec, .createdAt, .updatedAt, .isRecurring,
    .occurrencesCompleted, .concurrencyPolicy, .isTemplate ]

/-- The texts the `CHECK` on `state` admits. -/
def checkedStates : List String :=
  [ "SCHEDULED", "LEASED", "RUNNING",
    "COMPLETED", "FAILED", "EXPIRED",
    "CANCELLED", "DEAD_LETTER" ]

/-- The texts the `CHECK` on `concurrency_policy` admits. -/
def checkedPolicies : List String :=
  ["skip", "allow", "queue_once"]

namespace SqlValue

/-- `column = $n` for a bound id; `NULL` equals nothing. -/
def isUuid (value : SqlValue Json) (id : Uuid) : Bool :=
  value.uuid? == some id

/-- `column = 'literal'`. -/
def isText (value : SqlValue Json) (literal : String) : Bool :=
  value.text? == some literal

/-- `column = TRUE`. -/
def isTrue (value : SqlValue Json) : Bool :=
  value.boolean? == some true

def isNull : SqlValue Json → Bool
  | .null => true
  | _ => false

/-- `column < NOW()`. -/
def isBefore (value : SqlValue Json) (now : Time) : Bool :=
  value.timestamp?.any fun instant => decide (instant < now)

/-- A text that a `CHECK` lists. -/
def isListed (value : SqlValue Json) (texts : List String) : Bool :=
  value.text?.any fun text => texts.contains text

/-- `column + 1`. -/
def plusOne : SqlValue Json → SqlValue Json
  | .int value => .int (value + 1)
  | value => value

end SqlValue

/-- Why the database refuses a row. -/
inductive Violation where
  | notNull
  | check
  | unique
  deriving Repr, DecidableEq

/-- The constraint on a single row that this one violates, if any. -/
def violation? (stored : StoredRow Json) : Option Violation :=
  if requiredColumns.any fun column => (stored column).isNull then
    some .notNull
  else if (stored .state).isListed checkedStates &&
      (stored .concurrencyPolicy).isListed checkedPolicies then
    none
  else
    some .check

/-- The two rows have the same id or the same idempotency key. -/
def collides (first second : StoredRow Json) : Bool :=
  (first .id).uuid? == (second .id).uuid? ||
    (first .idempotencyKey).text? == (second .idempotencyKey).text?

/--
Run a statement on columns that store what is bound to them: the widths and
ranges of their types and the foreign keys are left out, so a statement that
fails for one of these is a call that fails.
-/
def Statement.run
    (now : Time)
    (table : List (StoredRow Json)) :
    Statement Json → Except Violation (List (StoredRow Json))
  | .insert id columns binds =>
      let row := insertedRow now id columns binds
      match violation? row with
      | some violation => .error violation
      | none =>
          if table.any (collides row) then
            .error .unique
          else
            .ok (table ++ [row])
  | .update change =>
      -- No `UPDATE` of the repository assigns to `id` or the key.
      let rows := table.map change.image
      match rows.findSome? violation? with
      | some violation => .error violation
      | none => .ok rows

end Statements

/-! ## The statements of the repository -/

namespace StoredRepository

variable {Json : Type}

/-- The column list of `insert_job`. -/
def insertColumns : List Column :=
  [ .idempotencyKey, .clientId, .payload, .state,
    .scheduledAt, .expiresAt, .maxRetries, .retryDelaySec,
    .webhookUrl, .isRecurring, .cronExpr, .nextInstanceAt,
    .maxOccurrences, .recurrenceEndAt, .parentJobId,
    .concurrencyPolicy, .isTemplate ]

open SqlValue in
/-- `insert_job` with its calls of `bind`. -/
def insertJob
    (serde : Serde Json)
    (id clientId : Uuid)
    (req : CreateJobRequest)
    (isTemplate isRecurring : Bool)
    (cronExpr : Option String)
    (nextInstanceAt : Option Time)
    (maxOccurrences : Option Int)
    (recurrenceEndAt : Option Time)
    (concurrencyPolicy : ConcurrencyPolicy)
    (parentJobId : Option Uuid)
    (scheduledAt : Time) : Statement Json :=
  .insert id insertColumns
    [ .text req.idempotencyKey,
      .uuid clientId,
      .json (serde.toValue req.payload),
      .text JobState.scheduled.asStr,
      .timestamp scheduledAt,
      ofOption timestamp req.expiresAt,
      .int req.maxRetries,
      .int req.retryDelaySec,
      ofOption text req.webhookUrl,
      .boolean isRecurring,
      ofOption text cronExpr,
      ofOption timestamp nextInstanceAt,
      ofOption int maxOccurrences,
      ofOption timestamp recurrenceEndAt,
      ofOption uuid parentJobId,
      .text concurrencyPolicy.asStr,
      .boolean isTemplate ]

def insertInstance
    (serde : Serde Json)
    (id : Uuid)
    (template : Job)
    (scheduledAt : Time)
    (idempotencyKey : String) : Statement Json :=
  insertJob serde id (template.clientId.getD 0)
    { idempotencyKey := idempotencyKey
      payload := template.payload
      scheduledAt := scheduledAt
      expiresAt := template.expiresAt
      maxRetries := template.maxRetries
      retryDelaySec := template.retryDelaySec
      webhookUrl := template.webhookUrl
      recurrence := none }
    false false none none none none
    template.concurrencyPolicy (some template.id) scheduledAt

def leaseJob
    (now : Time)
    (id : Uuid)
    (leaseDurationSecs : Nat) : StoredUpdate Json where
  selects stored :=
    (stored .id).isUuid id && (stored .state).isText "SCHEDULED"
  assignments _ :=
    [ (.state, .text "LEASED"),
      (.leasedUntil,
        .timestamp (now + Time.seconds (wrapI64 leaseDurationSecs))),
      (.updatedAt, .timestamp now) ]

def setRunning (now : Time) (id : Uuid) : StoredUpdate Json where
  selects stored := (stored .id).isUuid id
  assignments _ :=
    [(.state, .text "RUNNING"), (.updatedAt, .timestamp now)]

def setCompleted (now : Time) (id : Uuid) : StoredUpdate Json where
  selects stored := (stored .id).isUuid id
  assignments _ :=
    [(.state, .text "COMPLETED"), (.updatedAt, .timestamp now)]

def setState
    (now : Time)
    (id : Uuid)
    (state : JobState) : StoredUpdate Json where
  selects stored := (stored .id).isUuid id
  assignments _ :=
    [(.state, .text state.asStr), (.updatedAt, .timestamp now)]

def scheduleRetry
    (now : Time)
    (id : Uuid)
    (scheduledAt : Time)
    (attemptCount : Int) : StoredUpdate Json where
  selects stored := (stored .id).isUuid id
  assignments _ :=
    [ (.state, .text "SCHEDULED"),
      (.scheduledAt, .timestamp scheduledAt),
      (.attemptCount, .int attemptCount),
      (.leasedUntil, .null),
      (.updatedAt, .timestamp now) ]

def cancelJob (now : Time) (id clientId : Uuid) : StoredUpdate Json where
  selects stored :=
    (stored .id).isUuid id && (stored .clientId).isUuid clientId &&
      (stored .state).isText "SCHEDULED"
  assignments _ :=
    [(.state, .text "CANCELLED"), (.updatedAt, .timestamp now)]

def cancelTemplate
    (now : Time)
    (templateId clientId : Uuid) : StoredUpdate Json where
  selects stored :=
    (stored .id).isUuid templateId &&
      (stored .clientId).isUuid clientId && (stored .isTemplate).isTrue
  assignments _ :=
    [(.state, .text "CANCELLED"), (.updatedAt, .timestamp now)]

def cancelInstances
    (now : Time)
    (templateId : Uuid) : StoredUpdate Json where
  selects stored :=
    (stored .parentJobId).isUuid templateId &&
      (stored .state).isText "SCHEDULED"
  assignments _ :=
    [(.state, .text "CANCELLED"), (.updatedAt, .timestamp now)]

def updateCronExpr
    (now : Time)
    (id clientId : Uuid)
    (cronExpr : String) : StoredUpdate Json where
  selects stored :=
    (stored .id).isUuid id && (stored .clientId).isUuid clientId &&
      (stored .isTemplate).isTrue && (stored .isRecurring).isTrue
  assignments _ :=
    [(.cronExpr, .text cronExpr), (.updatedAt, .timestamp now)]

def reapExpiredLeases (now : Time) : StoredUpdate Json where
  selects stored :=
    (stored .state).isText "LEASED" && (stored .leasedUntil).isBefore now
  assignments _ :=
    [ (.state, .text "SCHEDULED"),
      (.leasedUntil, .null),
      (.updatedAt, .timestamp now) ]

def recoverOnStartup (now : Time) : StoredUpdate Json where
  selects stored :=
    ((stored .state).isText "LEASED" ||
        (stored .state).isText "RUNNING") &&
      ((stored .leasedUntil).isNull ||
        (stored .leasedUntil).isBefore now)
  assignments _ :=
    [ (.state, .text "SCHEDULED"),
      (.leasedUntil, .null),
      (.updatedAt, .timestamp now) ]

def updateWebhookResult
    (now : Time)
    (id : Uuid)
    (success : Bool)
    (attempts : Int) : StoredUpdate Json where
  selects stored := (stored .id).isUuid id
  assignments _ :=
    [ (.webhookSuccess, .boolean success),
      (.webhookAttempts, .int attempts),
      (.updatedAt, .timestamp now) ]

def incrementTemplateOccurrences
    (now : Time)
    (templateId : Uuid)
    (nextInstanceAt : Option Time) : StoredUpdate Json where
  selects stored := (stored .id).isUuid templateId
  assignments stored :=
    [ (.occurrencesCompleted, (stored .occurrencesCompleted).plusOne),
      (.nextInstanceAt, .ofOption .timestamp nextInstanceAt),
      (.updatedAt, .timestamp now) ]

def completeTemplate
    (now : Time)
    (templateId : Uuid) : StoredUpdate Json where
  selects stored := (stored .id).isUuid templateId
  assignments _ :=
    [(.state, .text "COMPLETED"), (.updatedAt, .timestamp now)]

end StoredRepository

end Kronkeeper
