import Kronkeeper.PayloadJson
import Kronkeeper.StoredRuns

namespace Kronkeeper

/-!
# What the queries read from stored rows

The `SELECT`s of `src/db/queries.rs`, the rows that `RETURNING` hands back and
the row counts of the `UPDATE`s, over rows as PostgreSQL keeps them.  A row
that `JobRow` or `Job::from_row` cannot decode is an error; no table of a run
of the daemon holds one, and every query answers what the model's answers.
Column widths and ranges, foreign keys and what a text or `JSONB` cannot hold
are left out: where PostgreSQL refuses a statement for these, the call fails.
-/

variable {Json : Type}

namespace SqlValue

/-- `column = FALSE`. -/
def isFalse (value : SqlValue Json) : Bool :=
  value.boolean? == some false

/-- `column NOT IN (literals)`; `NULL` is in no list and not outside of one. -/
def isUnlisted (value : SqlValue Json) (texts : List String) : Bool :=
  value.text?.any fun text => !texts.contains text

end SqlValue

namespace StoredRepository

variable (serde : Serde Json)

/-- `fetch_optional` with `Job::from_row`; `none` is an error. -/
def fetchOptional?
    (rows : List (StoredRow Json)) : Option (Option Job) :=
  match rows with
  | [] => some none
  | row :: _ => (decode? serde row).map some

def getByIdempotencyKey?
    (table : List (StoredRow Json))
    (idempotencyKey : String) : Option (Option Job) :=
  fetchOptional? serde
    (table.filter fun stored =>
      (stored .idempotencyKey).isText idempotencyKey)

def getJobById?
    (table : List (StoredRow Json))
    (id clientId : Uuid) : Option (Option Job) :=
  fetchOptional? serde
    (table.filter fun stored =>
      (stored .id).isUuid id && (stored .clientId).isUuid clientId)

def getJobByIdInternal?
    (table : List (StoredRow Json))
    (id : Uuid) : Option (Option Job) :=
  fetchOptional? serde
    (table.filter fun stored => (stored .id).isUuid id)

/-- The `RETURNING` of an `UPDATE`. -/
def returning?
    (table : List (StoredRow Json))
    (change : StoredUpdate Json) : Option (Option Job) :=
  fetchOptional? serde
    ((table.filter change.selects).map change.assign)

/-- `rows_affected` of an `UPDATE`. -/
def rowsAffected
    (table : List (StoredRow Json))
    (change : StoredUpdate Json) : Nat :=
  table.countP change.selects

/--
What an `INSERT .. RETURNING` hands back, or nothing for a violated uniqueness;
`none` is any other error.
-/
def inserted?
    (now : Time)
    (table : List (StoredRow Json))
    (statement : Statement Json) : Option (Option Job) :=
  match statement, statement.run now table with
  | .insert id columns binds, .ok _ =>
      (decode? serde (insertedRow now id columns binds)).map some
  | _, .error .unique => some none
  | _, _ => none

/-- A row of the query `SELECT id, scheduled_at`. -/
def scheduledJob? (stored : StoredRow Json) : Option ScheduledJob := do
  let id ← (stored .id).uuid?
  let scheduledAt ← (stored .scheduledAt).timestamp?
  pure { id := id, scheduledAt := scheduledAt }

/-- The rows `fetch_scheduled_jobs` ranges over, before order and limit. -/
def scheduledJobs?
    (table : List (StoredRow Json)) : Option (List ScheduledJob) :=
  (table.filter fun stored =>
      (stored .state).isText "SCHEDULED" &&
        (stored .isTemplate).isFalse).mapM
    scheduledJob?

/-- The literals that `count_active_siblings` binds for a policy. -/
def activeTexts : ConcurrencyPolicy → List String
  | .skip => ["LEASED", "RUNNING"]
  | .queueOnce => ["SCHEDULED", "LEASED", "RUNNING"]
  | .allow => []

def countActiveSiblings
    (table : List (StoredRow Json))
    (parentId : Uuid)
    (policy : ConcurrencyPolicy) : Nat :=
  match policy with
  -- The source answers zero here without a query.
  | .allow => 0
  | _ =>
      table.countP fun stored =>
        (stored .parentJobId).isUuid parentId &&
          (stored .state).isListed (activeTexts policy)

def countRecurringActive (table : List (StoredRow Json)) : Nat :=
  table.countP fun stored =>
    (stored .isTemplate).isTrue && (stored .isRecurring).isTrue &&
      (stored .state).isUnlisted ["COMPLETED", "CANCELLED", "DEAD_LETTER"]

end StoredRepository

/-! ## Conditions on a stored row -/

section Conditions

variable (serde : Serde Json) (job : Job)

theorem isText_idempotencyKey (idempotencyKey : String) :
    (encode serde job .idempotencyKey).isText idempotencyKey =
      (job.idempotencyKey == idempotencyKey) := by
  simp [encode, SqlValue.isText, SqlValue.text?]

theorem isFalse_isTemplate :
    (encode serde job .isTemplate).isFalse = !job.isTemplate := by
  cases isTemplate : job.isTemplate <;>
    simp [encode, isTemplate, SqlValue.isFalse, SqlValue.boolean?]

theorem contains_asStr
    (states : List JobState)
    (state : JobState) :
    (states.map JobState.asStr).contains state.asStr =
      states.contains state := by
  induction states with
  | nil =>
      rfl
  | cons first rest inductionHypothesis =>
      rw [List.map_cons, List.contains_cons, List.contains_cons,
        inductionHypothesis, JobState.asStr_beq]

theorem isListed_state (states : List JobState) :
    (encode serde job .state).isListed (states.map JobState.asStr) =
      states.contains job.state := by
  simp only [encode, SqlValue.isListed, SqlValue.text?_text,
    Option.any_some, contains_asStr]

theorem isUnlisted_state (states : List JobState) :
    (encode serde job .state).isUnlisted (states.map JobState.asStr) =
      !states.contains job.state := by
  simp only [encode, SqlValue.isUnlisted, SqlValue.text?_text,
    Option.any_some, contains_asStr]

theorem activeTexts_eq (policy : ConcurrencyPolicy) :
    StoredRepository.activeTexts policy =
      (JobRepository.activeStates policy).map JobState.asStr := by
  cases policy <;> rfl

end Conditions

/-! ## Queries on the stored form of a table -/

section Queries

variable {serde : Serde Json}

/-- Of encoded rows, the first one comes back. -/
theorem fetchOptional?_encode
    (inverts :
      ∀ payload, serde.fromValue (serde.toValue payload) = .ok payload)
    (jobs : List Job) :
    StoredRepository.fetchOptional? serde (jobs.map (encode serde)) =
      some jobs.head? := by
  cases jobs with
  | nil =>
      rfl
  | cons job rest =>
      simp only [List.map_cons, StoredRepository.fetchOptional?,
        decode?_encode inverts, Option.map_some, List.head?_cons]

/-- A condition on columns picks the encodings of the jobs it is true of. -/
theorem filter_encode
    {selects : StoredRow Json → Bool}
    {condition : Job → Bool}
    (agrees : ∀ job, selects (encode serde job) = condition job)
    (jobs : List Job) :
    (jobs.map (encode serde)).filter selects =
      (jobs.filter condition).map (encode serde) := by
  rw [List.filter_map]
  congr 2
  funext job
  exact agrees job

theorem countP_encode
    {selects : StoredRow Json → Bool}
    {condition : Job → Bool}
    (agrees : ∀ job, selects (encode serde job) = condition job)
    (jobs : List Job) :
    (jobs.map (encode serde)).countP selects = jobs.countP condition := by
  rw [List.countP_map]
  exact List.countP_congr fun job _ => by
    rw [Function.comp_apply, agrees job]

theorem fetchOptional?_filter
    (inverts :
      ∀ payload, serde.fromValue (serde.toValue payload) = .ok payload)
    {selects : StoredRow Json → Bool}
    {condition : Job → Bool}
    (agrees : ∀ job, selects (encode serde job) = condition job)
    (jobs : List Job) :
    StoredRepository.fetchOptional? serde
        ((jobs.map (encode serde)).filter selects) =
      some (jobs.find? condition) := by
  rw [filter_encode agrees, fetchOptional?_encode inverts,
    List.head?_filter]

theorem mapM_scheduledJob? (jobs : List Job) :
    (jobs.map (encode serde)).mapM StoredRepository.scheduledJob? =
      some
        (jobs.map fun job =>
          { id := job.id, scheduledAt := job.scheduledAt }) := by
  induction jobs with
  | nil =>
      rfl
  | cons job rest inductionHypothesis =>
      have head :
          StoredRepository.scheduledJob? (encode serde job) =
            some { id := job.id, scheduledAt := job.scheduledAt } :=
        rfl
      simp [-List.mapM_map, head, inductionHypothesis]

end Queries

/-! ## All queries of the repository -/

/-- A query of the repository, or the answer of a statement that writes. -/
inductive Query where
  | byIdempotencyKey (idempotencyKey : String)
  | byId (id clientId : Uuid)
  | byIdInternal (id : Uuid)
  | scheduled
  | activeSiblings (parentId : Uuid) (policy : ConcurrencyPolicy)
  | recurringActive
  | insertJob
      (now : Time)
      (id clientId : Uuid)
      (req : CreateJobRequest)
      (isTemplate isRecurring : Bool)
      (cronExpr : Option String)
      (nextInstanceAt : Option Time)
      (maxOccurrences : Option Int)
      (recurrenceEndAt : Option Time)
      (concurrencyPolicy : ConcurrencyPolicy)
      (parentJobId : Option Uuid)
      (scheduledAt : Time)
  | leaseJob (now : Time) (id : Uuid) (leaseDurationSecs : Nat)
  | cancelJob (now : Time) (id clientId : Uuid)
  | cancelTemplate (now : Time) (templateId clientId : Uuid)
  | cancelInstances (now : Time) (templateId : Uuid)
  | updateCronExpr (now : Time) (id clientId : Uuid) (cronExpr : String)
  | reapExpiredLeases (now : Time)
  | recoverOnStartup (now : Time)

inductive QueryAnswer where
  | job (found : Option Job)
  | jobs (found : List ScheduledJob)
  | count (rows : Nat)
  deriving DecidableEq

namespace Query

/-- What the model's repository answers. -/
def answer (jobs : JobTable) : Query → QueryAnswer
  | .byIdempotencyKey idempotencyKey =>
      .job (JobRepository.getByIdempotencyKey jobs idempotencyKey)
  | .byId id clientId => .job (JobRepository.getJobById jobs id clientId)
  | .byIdInternal id => .job (JobRepository.getJobByIdInternal jobs id)
  | .scheduled => .jobs (JobRepository.scheduledJobs jobs)
  | .activeSiblings parentId policy =>
      .count (JobRepository.countActiveSiblings jobs parentId policy)
  | .recurringActive => .count (JobRepository.countRecurringActive jobs)
  | .insertJob now id clientId req isTemplate isRecurring cronExpr
      nextInstanceAt maxOccurrences recurrenceEndAt concurrencyPolicy
      parentJobId scheduledAt =>
      let row :=
        JobRepository.newRow now id clientId req isTemplate isRecurring
          cronExpr nextInstanceAt maxOccurrences recurrenceEndAt
          concurrencyPolicy parentJobId scheduledAt
      .job ((jobs.insert? row).map fun _ => row)
  | .leaseJob now id leaseDurationSecs =>
      .job (jobs.returning (JobRepository.leaseJob now id leaseDurationSecs))
  | .cancelJob now id clientId =>
      .count (jobs.affected (JobRepository.cancelJob now id clientId))
  | .cancelTemplate now templateId clientId =>
      .count
        (jobs.affected (JobRepository.cancelTemplate now templateId clientId))
  | .cancelInstances now templateId =>
      .count (jobs.affected (JobRepository.cancelInstances now templateId))
  | .updateCronExpr now id clientId cronExpr =>
      .count
        (jobs.affected
          (JobRepository.updateCronExpr now id clientId cronExpr))
  | .reapExpiredLeases now =>
      .count (jobs.affected (JobRepository.reapExpiredLeases now))
  | .recoverOnStartup now =>
      .count (jobs.affected (JobRepository.recoverOnStartup now))

/-- What the statement answers over stored rows; `none` is an error. -/
def answerStored?
    (serde : Serde Json)
    (table : List (StoredRow Json)) : Query → Option QueryAnswer
  | .byIdempotencyKey idempotencyKey =>
      (StoredRepository.getByIdempotencyKey? serde table
        idempotencyKey).map .job
  | .byId id clientId =>
      (StoredRepository.getJobById? serde table id clientId).map .job
  | .byIdInternal id =>
      (StoredRepository.getJobByIdInternal? serde table id).map .job
  | .scheduled => (StoredRepository.scheduledJobs? table).map .jobs
  | .activeSiblings parentId policy =>
      some
        (.count
          (StoredRepository.countActiveSiblings table parentId policy))
  | .recurringActive =>
      some (.count (StoredRepository.countRecurringActive table))
  | .insertJob now id clientId req isTemplate isRecurring cronExpr
      nextInstanceAt maxOccurrences recurrenceEndAt concurrencyPolicy
      parentJobId scheduledAt =>
      (StoredRepository.inserted? serde now table
        (StoredRepository.insertJob serde id clientId req isTemplate
          isRecurring cronExpr nextInstanceAt maxOccurrences
          recurrenceEndAt concurrencyPolicy parentJobId
          scheduledAt)).map .job
  | .leaseJob now id leaseDurationSecs =>
      (StoredRepository.returning? serde table
        (StoredRepository.leaseJob now id leaseDurationSecs)).map .job
  | .cancelJob now id clientId =>
      some
        (.count
          (StoredRepository.rowsAffected table
            (StoredRepository.cancelJob now id clientId)))
  | .cancelTemplate now templateId clientId =>
      some
        (.count
          (StoredRepository.rowsAffected table
            (StoredRepository.cancelTemplate now templateId clientId)))
  | .cancelInstances now templateId =>
      some
        (.count
          (StoredRepository.rowsAffected table
            (StoredRepository.cancelInstances now templateId)))
  | .updateCronExpr now id clientId cronExpr =>
      some
        (.count
          (StoredRepository.rowsAffected table
            (StoredRepository.updateCronExpr now id clientId cronExpr)))
  | .reapExpiredLeases now =>
      some
        (.count
          (StoredRepository.rowsAffected table
            (StoredRepository.reapExpiredLeases now)))
  | .recoverOnStartup now =>
      some
        (.count
          (StoredRepository.rowsAffected table
            (StoredRepository.recoverOnStartup now)))

end Query

section Answers

variable {serde : Serde Json}

/-- An `UPDATE` counts the rows that the model's counts. -/
theorem Represents.rowsAffected
    {stored : StoredUpdate Json}
    {change : JobUpdate}
    (represents : Represents serde stored change)
    (jobs : JobTable) :
    StoredRepository.rowsAffected (jobs.rows.map (encode serde)) stored =
      jobs.affected change :=
  countP_encode represents.selects jobs.rows

/-- An `UPDATE` hands back the row that the model's hands back. -/
theorem Represents.returning?
    (inverts :
      ∀ payload, serde.fromValue (serde.toValue payload) = .ok payload)
    {stored : StoredUpdate Json}
    {change : JobUpdate}
    (represents : Represents serde stored change)
    (jobs : JobTable) :
    StoredRepository.returning? serde (jobs.rows.map (encode serde))
        stored =
      some (jobs.returning change) := by
  have assigned :
      ((jobs.rows.filter change.applies).map (encode serde)).map
          stored.assign =
        ((jobs.rows.filter change.applies).map change.assign).map
          (encode serde) := by
    simp [Function.comp_def, represents.assign]
  rw [StoredRepository.returning?, filter_encode represents.selects,
    assigned, fetchOptional?_encode inverts, List.head?_map,
    List.head?_filter, RecordTable.returning]

variable (jobs : JobTable)

theorem getByIdempotencyKey?_encode
    (inverts :
      ∀ payload, serde.fromValue (serde.toValue payload) = .ok payload)
    (idempotencyKey : String) :
    StoredRepository.getByIdempotencyKey? serde
        (jobs.rows.map (encode serde)) idempotencyKey =
      some (JobRepository.getByIdempotencyKey jobs idempotencyKey) :=
  fetchOptional?_filter inverts
    (fun job => isText_idempotencyKey serde job idempotencyKey) jobs.rows

theorem getJobById?_encode
    (inverts :
      ∀ payload, serde.fromValue (serde.toValue payload) = .ok payload)
    (id clientId : Uuid) :
    StoredRepository.getJobById? serde (jobs.rows.map (encode serde)) id
        clientId =
      some (JobRepository.getJobById jobs id clientId) := by
  refine fetchOptional?_filter inverts (fun job => ?_) jobs.rows
  rw [isUuid_id, isUuid_clientId]

theorem getJobByIdInternal?_encode
    (inverts :
      ∀ payload, serde.fromValue (serde.toValue payload) = .ok payload)
    (id : Uuid) :
    StoredRepository.getJobByIdInternal? serde
        (jobs.rows.map (encode serde)) id =
      some (JobRepository.getJobByIdInternal jobs id) :=
  fetchOptional?_filter inverts (fun job => isUuid_id serde job id)
    jobs.rows

theorem scheduledJobs?_encode :
    StoredRepository.scheduledJobs? (jobs.rows.map (encode serde)) =
      some (JobRepository.scheduledJobs jobs) := by
  have agrees :
      ∀ job,
        ((encode serde job .state).isText "SCHEDULED" &&
            (encode serde job .isTemplate).isFalse) =
          (job.state == .scheduled && !job.isTemplate) := by
    intro job
    rw [isFalse_isTemplate]
    exact congrArg (· && !job.isTemplate)
      (isText_state serde job .scheduled)
  have picked :
      (jobs.rows.map (encode serde)).filter
          (fun stored =>
            (stored .state).isText "SCHEDULED" &&
              (stored .isTemplate).isFalse) =
        (jobs.rows.filter fun row =>
          row.state == .scheduled && !row.isTemplate).map
            (encode serde) :=
    filter_encode agrees jobs.rows
  rw [StoredRepository.scheduledJobs?, picked, mapM_scheduledJob?]
  rfl

theorem countActiveSiblings_encode
    (parentId : Uuid)
    (policy : ConcurrencyPolicy) :
    StoredRepository.countActiveSiblings (jobs.rows.map (encode serde))
        parentId policy =
      JobRepository.countActiveSiblings jobs parentId policy := by
  have counted :
      (jobs.rows.map (encode serde)).countP
          (fun stored =>
            (stored .parentJobId).isUuid parentId &&
              (stored .state).isListed
                (StoredRepository.activeTexts policy)) =
        JobRepository.countActiveSiblings jobs parentId policy := by
    refine countP_encode (fun job => ?_) jobs.rows
    rw [isUuid_parentJobId, activeTexts_eq, isListed_state]
  cases policy with
  | allow =>
      simp [StoredRepository.countActiveSiblings,
        JobRepository.countActiveSiblings, JobRepository.activeStates,
        RecordTable.count]
  | skip | queueOnce =>
      exact counted

theorem countRecurringActive_encode :
    StoredRepository.countRecurringActive (jobs.rows.map (encode serde)) =
      JobRepository.countRecurringActive jobs := by
  refine countP_encode (fun job => ?_) jobs.rows
  rw [isTrue_isTemplate, isTrue_isRecurring]
  exact congrArg (job.isTemplate && job.isRecurring && ·)
    (isUnlisted_state serde job [.completed, .cancelled, .deadLetter])

/-- An `INSERT` hands back its row, or is refused, where the model's is. -/
theorem inserted?_encode
    (inverts :
      ∀ payload, serde.fromValue (serde.toValue payload) = .ok payload)
    {now : Time}
    {statement : Statement Json}
    {row : Job}
    (builds : Builds serde now statement row) :
    StoredRepository.inserted? serde now (jobs.rows.map (encode serde))
        statement =
      some ((jobs.insert? row).map fun _ => row) := by
  have ran :
      statement.run now (jobs.rows.map (encode serde)) =
        (jobs.insert? row).elim (.error .unique) fun after =>
          .ok (after.rows.map (encode serde)) :=
    Carries.run_insert builds
  obtain ⟨id, columns, binds, rfl, isRow⟩ := builds
  unfold StoredRepository.inserted?
  rw [ran]
  cases jobs.insert? row with
  | some after =>
      simp only [Option.elim_some, isRow, decode?_encode inverts,
        Option.map_some]
  | none =>
      rfl

/-- On the stored form of any table, every query answers as the model does. -/
theorem Query.answerStored?_encode
    (inverts :
      ∀ payload, serde.fromValue (serde.toValue payload) = .ok payload)
    (query : Query) :
    query.answerStored? serde (jobs.rows.map (encode serde)) =
      some (query.answer jobs) := by
  cases query with
  | byIdempotencyKey idempotencyKey =>
      simp only [answerStored?, getByIdempotencyKey?_encode jobs inverts,
        Option.map_some, answer]
  | byId id clientId =>
      simp only [answerStored?, getJobById?_encode jobs inverts,
        Option.map_some, answer]
  | byIdInternal id =>
      simp only [answerStored?, getJobByIdInternal?_encode jobs inverts,
        Option.map_some, answer]
  | scheduled =>
      simp only [answerStored?, scheduledJobs?_encode, Option.map_some,
        answer]
  | activeSiblings parentId policy =>
      simp only [answerStored?, countActiveSiblings_encode, answer]
  | recurringActive =>
      simp only [answerStored?, countRecurringActive_encode, answer]
  | insertJob =>
      simp only [answerStored?,
        inserted?_encode jobs inverts (builds_insertJob ..),
        Option.map_some, answer]
  | leaseJob now id leaseDurationSecs =>
      have represents :=
        represents_leaseJob serde now id leaseDurationSecs
      simp only [answerStored?, represents.returning? inverts,
        Option.map_some, answer]
  | cancelJob now id clientId =>
      have represents := represents_cancelJob serde now id clientId
      simp only [answerStored?, represents.rowsAffected, answer]
  | cancelTemplate now templateId clientId =>
      have represents :=
        represents_cancelTemplate serde now templateId clientId
      simp only [answerStored?, represents.rowsAffected, answer]
  | cancelInstances now templateId =>
      have represents := represents_cancelInstances serde now templateId
      simp only [answerStored?, represents.rowsAffected, answer]
  | updateCronExpr now id clientId cronExpr =>
      have represents :=
        represents_updateCronExpr serde now id clientId cronExpr
      simp only [answerStored?, represents.rowsAffected, answer]
  | reapExpiredLeases now =>
      have represents := represents_reapExpiredLeases serde now
      simp only [answerStored?, represents.rowsAffected, answer]
  | recoverOnStartup now =>
      have represents := represents_recoverOnStartup serde now
      simp only [answerStored?, represents.rowsAffected, answer]

end Answers

/-! ## Queries along a run -/

/--
Wherever a run of the daemon has got to, no statement has met a row that breaks
a `NOT NULL` or a `CHECK`, and every query answers on the stored table what the
model answers.
-/
theorem State.queries_answer_alike
    {config : Config}
    {slots : Nat}
    {externals : Externals}
    {serde : Serde Json}
    (inverts :
      ∀ payload, serde.fromValue (serde.toValue payload) = .ok payload)
    {clock : Time}
    {actions : List (Action config slots)}
    {final : State config slots}
    (run :
      Run externals TransitionSystem.Unrestricted
        (initial config slots clock) actions final) :
    ∃ stored,
      storedAfter? serde externals (initial config slots clock) actions
          [] =
        some stored ∧
      ∀ query : Query,
        query.answerStored? serde stored = some (query.answer final.jobs) :=
  ⟨_, storedAfter?_of_run serde run,
    fun query => query.answerStored?_encode final.jobs inverts⟩

namespace Sample

/-- After the creation of job 1, its stored row is found by key and by id. -/
theorem stored_job_is_found :
    ∃ stored,
      State.storedAfter? Serde.json externals
          (State.initial config 1 0) createAndSend [] =
        some stored ∧
      (Query.byIdempotencyKey "key").answerStored? Serde.json stored ≠
          some (.job none) ∧
      (Query.scheduled).answerStored? Serde.json stored =
          some (.jobs []) := by
  obtain ⟨final, run, found, scheduled⟩ :=
    TransitionSystem.exists_run_of_replay?
      (State.step? externals) TransitionSystem.Unrestricted
      (State.initial config 1 0) createAndSend
      (fun final =>
        (Query.byIdempotencyKey "key").answer final.jobs ≠ .job none ∧
          Query.scheduled.answer final.jobs = .jobs [])
      (by decide)
  obtain ⟨stored, isStored, alike⟩ :=
    State.queries_answer_alike Serde.json_inverts run
  refine ⟨stored, isStored, ?_, ?_⟩
  · rw [alike]
    exact fun same => found (Option.some.inj same)
  · rw [alike, scheduled]

end Sample

end Kronkeeper
