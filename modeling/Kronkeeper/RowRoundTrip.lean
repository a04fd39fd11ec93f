import Kronkeeper.PayloadJson
import Kronkeeper.Provenance
import Kronkeeper.StoredRuns

namespace Kronkeeper

/-!
# Rows decode to what was asked for, and keep their identity

A create request inserts one row, or a template and its first instance.  Each
decodes to the job the request asks for, and whatever runs afterwards, it goes
on decoding, to a job with the identity it was inserted with.
-/

/-! ## What a create request asks for -/

namespace Job

variable (job : Job)

/-- The columns that every row of a create request has from it. -/
structure AskedBy (clientId : Uuid) (req : CreateJobRequest) : Prop where
  clientId : job.clientId = some clientId
  payload : job.payload = req.payload
  isScheduled : job.state = .scheduled
  expiresAt : job.expiresAt = req.expiresAt
  attemptCount : job.attemptCount = 0
  maxRetries : job.maxRetries = req.maxRetries
  retryDelaySec : job.retryDelaySec = req.retryDelaySec
  webhookUrl : job.webhookUrl = req.webhookUrl

/-- The row of a request without recurrence. -/
structure IsOneOff (req : CreateJobRequest) : Prop where
  idempotencyKey : job.idempotencyKey = req.idempotencyKey
  scheduledAt : job.scheduledAt = req.scheduledAt
  cronExpr : job.cronExpr = none
  concurrencyPolicy : job.concurrencyPolicy = .queueOnce
  parentJobId : job.parentJobId = none
  isRecurring : job.isRecurring = false
  isTemplate : job.isTemplate = false

/-- The template of a recurring request. -/
structure IsTemplateOf
    (req : CreateJobRequest)
    (recurrence : RecurrenceConfig)
    (firstFire : Time) : Prop where
  idempotencyKey : job.idempotencyKey = req.idempotencyKey
  scheduledAt : job.scheduledAt = req.scheduledAt
  cronExpr : job.cronExpr = some recurrence.cronExpr
  nextInstanceAt : job.nextInstanceAt = some firstFire
  maxOccurrences : job.maxOccurrences = recurrence.maxOccurrences
  recurrenceEndAt : job.recurrenceEndAt = recurrence.endAt
  concurrencyPolicy : job.concurrencyPolicy = recurrence.concurrencyPolicy
  parentJobId : job.parentJobId = none
  isRecurring : job.isRecurring = true
  isTemplate : job.isTemplate = true

/-- The first instance of a recurring request. -/
structure IsFirstInstanceOf
    (externals : Externals)
    (recurrence : RecurrenceConfig)
    (firstFire : Time) : Prop where
  idempotencyKey :
    ∃ templateId,
      job.parentJobId = some templateId ∧
        job.idempotencyKey =
          RecurringService.instanceKey externals templateId firstFire
  scheduledAt : job.scheduledAt = firstFire
  cronExpr : job.cronExpr = none
  concurrencyPolicy : job.concurrencyPolicy = recurrence.concurrencyPolicy
  isRecurring : job.isRecurring = false
  isTemplate : job.isTemplate = false

/-- The job is one that the request asks for. -/
def Answers
    (externals : Externals)
    (clientId : Uuid)
    (req : CreateJobRequest) : Prop :=
  job.AskedBy clientId req ∧
    match req.recurrence with
    | none => job.IsOneOff req
    | some recurrence =>
        ∃ firstFire,
          RecurringService.nextFireAfter externals recurrence.cronExpr
              req.scheduledAt =
              .ok firstFire ∧
            (job.IsTemplateOf req recurrence firstFire ∨
              job.IsFirstInstanceOf externals recurrence firstFire)

end Job

/-! ## What a create request has settled before it inserts -/

namespace RequestTask

/-- The recurrence and the first fire are those of the request. -/
def Planned (externals : Externals) : RequestTask → Prop
  | .creating _ req .insertJob => req.recurrence = none
  | .creating _ req (.insertTemplate recurrence firstFire) =>
      req.recurrence = some recurrence ∧
        RecurringService.nextFireAfter externals recurrence.cronExpr
            req.scheduledAt =
          .ok firstFire
  | .creating clientId req (.insertInstance template firstFire) =>
      ∃ recurrence now id,
        req.recurrence = some recurrence ∧
          RecurringService.nextFireAfter externals recurrence.cronExpr
              req.scheduledAt =
            .ok firstFire ∧
          template =
            JobRepository.templateRow now id clientId req recurrence
              firstFire
  | _ => True

variable {externals : Externals}

theorem planned_planCreate
    (clientId : Uuid)
    (req : CreateJobRequest) :
    (planCreate externals clientId req).Planned externals := by
  unfold planCreate
  split
  · assumption
  · rename_i recurrence isRecurring
    split
    · exact trivial
    · rename_i firstFire isNext
      exact ⟨isRecurring, isNext⟩

theorem Move.planned
    {shared after : Shared}
    {task next : RequestTask}
    {action : RequestAction}
    (moved : task.Move externals shared action after next)
    (planned : task.Planned externals) :
    next.Planned externals := by
  cases moved with
  | arrive request =>
      cases request <;> simp only [start] <;> try exact trivial
      all_goals split <;> exact trivial
  | create clientId req position action after next created =>
      cases created with
      | plan missing =>
          exact planned_planCreate clientId req
      | insertTemplate recurrence firstFire id jobs inserted =>
          exact ⟨recurrence, shared.clock, id, planned.1, planned.2, rfl⟩
      | _ =>
          exact trivial
  | cancel clientId id position action after next cancelled =>
      cases cancelled with
      | read =>
          unfold planCancel
          split
          · exact trivial
          · split <;> exact trivial
      | _ =>
          exact trivial
  | _ =>
      exact trivial

/-- The row a step of a create adds is one the request asks for. -/
theorem Planned.answers
    {shared after : Shared}
    {clientId : Uuid}
    {req : CreateJobRequest}
    {position : CreatePosition}
    {action : RequestAction}
    {next : RequestTask}
    (planned : (creating clientId req position).Planned externals)
    (moved :
      CreateMove externals shared clientId req position action after
        next)
    {row : Job}
    (member : row ∈ after.jobs.rows)
    (isNew : row ∉ shared.jobs.rows) :
    row.Answers externals clientId req := by
  cases moved with
  | insertJob id jobs inserted =>
      obtain rfl :=
        ((RecordTable.mem_of_insert? inserted).mp member).resolve_left
          isNew
      refine ⟨⟨rfl, rfl, rfl, rfl, rfl, rfl, rfl, rfl⟩, ?_⟩
      rw [show req.recurrence = none from planned]
      exact ⟨rfl, rfl, rfl, rfl, rfl, rfl, rfl⟩
  | insertTemplate recurrence firstFire id jobs inserted =>
      obtain rfl :=
        ((RecordTable.mem_of_insert? inserted).mp member).resolve_left
          isNew
      refine ⟨⟨rfl, rfl, rfl, rfl, rfl, rfl, rfl, rfl⟩, ?_⟩
      rw [planned.1]
      exact ⟨firstFire, planned.2,
        Or.inl ⟨rfl, rfl, rfl, rfl, rfl, rfl, rfl, rfl, rfl, rfl⟩⟩
  | insertInstance template firstFire id jobs inserted =>
      obtain ⟨recurrence, now, templateId, isRecurring, isNext, rfl⟩ :=
        planned
      obtain rfl :=
        ((RecordTable.mem_of_insert? inserted).mp member).resolve_left
          isNew
      refine ⟨⟨rfl, rfl, rfl, rfl, rfl, rfl, rfl, rfl⟩, ?_⟩
      rw [isRecurring]
      exact ⟨firstFire, isNext,
        Or.inr ⟨⟨templateId, rfl, rfl⟩, rfl, rfl, rfl, rfl, rfl⟩⟩
  | _ =>
      exact (isNew member).elim

end RequestTask

/-! ## Rows along a run -/

variable {Json : Type}

/--
The row decodes, the table still has a row with its id, and every such row
decodes to a job with the same identity.
-/
def StaysInto
    (serde : Serde Json)
    (table : List (StoredRow Json))
    (row : StoredRow Json) : Prop :=
  ∃ job,
    decode? serde row = some job ∧
      (∃ later ∈ table, later .id = row .id) ∧
      ∀ later ∈ table, later .id = row .id →
        ∃ laterJob,
          decode? serde later = some laterJob ∧
            laterJob.identity = job.identity

/-- Growth of the table is what the stored rows stay through. -/
theorem staysInto_of_extends
    {serde : Serde Json}
    (inverts :
      ∀ payload, serde.fromValue (serde.toValue payload) = .ok payload)
    {jobs later : JobTable}
    (growth : jobs.Extends later)
    {row : StoredRow Json}
    (member : row ∈ jobs.rows.map (encode serde)) :
    StaysInto serde (later.rows.map (encode serde)) row := by
  obtain ⟨job, jobMember, rfl⟩ := List.mem_map.mp member
  obtain ⟨kept, keptMember, same⟩ := growth job jobMember
  refine ⟨job, decode?_encode inverts job, ?_, ?_⟩
  · refine ⟨encode serde kept, List.mem_map_of_mem keptMember, ?_⟩
    exact congrArg SqlValue.uuid (Job.id_eq_of_identity same)
  · intro laterRow laterMember sameId
    obtain ⟨laterJob, laterJobMember, rfl⟩ := List.mem_map.mp laterMember
    refine ⟨laterJob, decode?_encode inverts laterJob, ?_⟩
    have sameKey : laterJob.id = job.id := SqlValue.uuid.inj sameId
    have isKept : laterJob = kept :=
      RecordTable.eq_of_primary laterJobMember keptMember
        (sameKey.trans (Job.id_eq_of_identity same).symm)
    rw [isKept, same]

namespace State

variable {config : Config} {slots : Nat}
variable {externals : Externals}

/-- Every open create goes by the recurrence and fire of its request. -/
def CreatesPlanned
    (externals : Externals)
    (state : State config slots) : Prop :=
  ∀ slot, (state.requests slot).Planned externals

theorem createsPlanned_of_run
    {clock : Time}
    {actions : List (Action config slots)}
    {final : State config slots}
    (run :
      Run externals TransitionSystem.Unrestricted
        (initial config slots clock) actions final) :
    final.CreatesPlanned externals :=
  run.invariant
    (fun planned _ taken =>
      forall_requests_step trivial
        (fun moved before => moved.planned before) taken planned)
    (fun _ => trivial)

end State

namespace Sample

/-- What came before the template insert of the recurring create. -/
def lookUp : List (Action config 2) :=
  [ .api 0 (.arrive (.createJob clientId (everyMinute "key"))),
    .api 0 (.call .ok) ]

/-- The insert of the template. -/
def insertTemplate : Action config 2 :=
  .api 0 (.call (.inserted 1))

/-- The rest of the create, up to a failing execution of its instance. -/
def insertAndExecute : List (Action config 2) :=
  [ .api 0 (.call (.inserted 2)),
    .api 0 .notifyOne,
    .api 0 .notifyOne ] ++
    executeInstance ++ [.worker 0 (.execute fails)]

/-- The first write of `handle`. -/
def settle : Action config 2 :=
  .worker 0 (.settle .ok)

end Sample

end Kronkeeper
