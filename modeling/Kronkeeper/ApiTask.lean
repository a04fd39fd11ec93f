import Kronkeeper.SpawnInstance

namespace Kronkeeper

/-!
# API requests

The job handlers of `src/api/handlers/jobs.rs` with `create_recurring` of
`src/recurring.rs`.  The middleware has already turned the API key into a
client id.  A request is a task that makes one repository call, or one
notification, at a time and ends with its answer.
-/

/-- `ApiError`, with the text of its body. -/
inductive ApiError where
  | notFound
  | badRequest (message : String)
  | internal (message : String)
  deriving Repr, DecidableEq

inductive Response where
  | created (body : JobResponse)
  | ok (body : JobResponse)
  | noContent
  | failed (error : ApiError)
  deriving Repr, DecidableEq

namespace Response

/-- The HTTP status of the answer. -/
def status : Response → Nat
  | .created _ => 201
  | .ok _ => 200
  | .noContent => 204
  | .failed .notFound => 404
  | .failed (.badRequest _) => 400
  | .failed (.internal _) => 500

/-- The job a successful answer returns. -/
def body? : Response → Option JobResponse
  | .created body => some body
  | .ok body => some body
  | _ => none

end Response

inductive Request where
  | createJob (clientId : Uuid) (req : CreateJobRequest)
  | getJob (clientId id : Uuid)
  | cancelJob (clientId id : Uuid)
  | patchJob (clientId id : Uuid) (req : PatchJobRequest)
  deriving Repr, DecidableEq

/-- Where `create_job` stands: the call it makes next. -/
inductive CreatePosition where
  | lookup
  | insertJob
  | insertTemplate (recurrence : RecurrenceConfig) (firstFire : Time)
  | insertInstance (template : Job) (firstFire : Time)
  /-- The `notify_one` of `create_recurring`. -/
  | notifyRecurring (template instanceJob : Job)
  | notify (job : Job)
  deriving Repr, DecidableEq

/-- Where `cancel_job` stands. -/
inductive CancelPosition where
  | read
  | cancelJob
  | cancelTemplate
  | cancelInstances (templates : Nat)
  | notify
  deriving Repr, DecidableEq

/-- Where `patch_job` stands. -/
inductive PatchPosition where
  | update
  | read
  | notify (job : Job)
  deriving Repr, DecidableEq

inductive RequestTask where
  | absent
  | creating
      (clientId : Uuid) (req : CreateJobRequest) (position : CreatePosition)
  | getting (clientId id : Uuid)
  | cancelling (clientId id : Uuid) (position : CancelPosition)
  | patching
      (clientId id : Uuid) (req : PatchJobRequest) (position : PatchPosition)
  | answered (request : Request) (response : Response)
  deriving Repr, DecidableEq

inductive RequestAction where
  | arrive (request : Request)
  | call (reply : Reply)
  | notifyOne
  deriving Repr, DecidableEq

namespace RequestTask

/-- A request that is neither absent nor answered. -/
def inProgress : RequestTask → Bool
  | .absent => false
  | .answered _ _ => false
  | _ => true

/-- The request has its answer. -/
def isAnswered : RequestTask → Bool
  | .answered _ _ => true
  | _ => false

/-- The checks a handler makes before its first call. -/
def start : Request → RequestTask
  | .createJob clientId req =>
      if req.idempotencyKey.isEmpty then
        .answered (.createJob clientId req)
          (.failed (.badRequest "idempotency_key is required"))
      else
        .creating clientId req .lookup
  | .getJob clientId id => .getting clientId id
  | .cancelJob clientId id => .cancelling clientId id .read
  | .patchJob clientId id req =>
      if req.cronExpr.isEmpty then
        .answered (.patchJob clientId id req)
          (.failed (.badRequest "cron_expr is required"))
      else
        .patching clientId id req .update

/-- `create_job` after a lookup that found nothing. -/
def planCreate
    (externals : Externals)
    (clientId : Uuid)
    (req : CreateJobRequest) : RequestTask :=
  match req.recurrence with
  | none => .creating clientId req .insertJob
  | some recurrence =>
      match RecurringService.nextFireAfter externals recurrence.cronExpr
          req.scheduledAt with
      | .error message =>
          .answered (.createJob clientId req) (.failed (.internal message))
      | .ok firstFire =>
          .creating clientId req (.insertTemplate recurrence firstFire)

/-- `cancel_job` after its read. -/
def planCancel (clientId id : Uuid) (read : Option Job) : RequestTask :=
  match read with
  | none => .answered (.cancelJob clientId id) (.failed .notFound)
  | some job =>
      if job.isTemplate then
        .cancelling clientId id .cancelTemplate
      else
        .cancelling clientId id .cancelJob

/-- `create_job`, one call or notification at a time. -/
def createStep?
    (externals : Externals)
    (shared : Shared)
    (clientId : Uuid)
    (req : CreateJobRequest) :
    CreatePosition → RequestAction → Option (Shared × RequestTask)
  | .lookup, .call .ok =>
      match JobRepository.getByIdempotencyKey shared.jobs
          req.idempotencyKey with
      | some existing =>
          some (shared,
            .answered (.createJob clientId req)
              (.ok (JobResponse.ofJob existing)))
      | none => some (shared, planCreate externals clientId req)
  | .insertJob, .call (.inserted id) =>
      let row := JobRepository.oneOffRow shared.clock id clientId req
      match shared.jobs.insert? row with
      | some jobs =>
          some ({ shared with jobs := jobs },
            .creating clientId req (.notify row))
      | none =>
          some (shared,
            .answered (.createJob clientId req)
              (.failed (.internal externals.uniqueViolation)))
  | .insertTemplate recurrence firstFire, .call (.inserted id) =>
      let row :=
        JobRepository.templateRow shared.clock id clientId req recurrence
          firstFire
      match shared.jobs.insert? row with
      | some jobs =>
          some ({ shared with jobs := jobs },
            .creating clientId req (.insertInstance row firstFire))
      | none =>
          some (shared,
            .answered (.createJob clientId req)
              (.failed (.internal externals.uniqueViolation)))
  | .insertInstance template firstFire, .call (.inserted id) =>
      let row :=
        JobRepository.instanceRow shared.clock id template firstFire
          (RecurringService.instanceKey externals template.id firstFire)
      match shared.jobs.insert? row with
      | some jobs =>
          some ({ shared with jobs := jobs },
            .creating clientId req (.notifyRecurring template row))
      | none =>
          some (shared,
            .answered (.createJob clientId req)
              (.failed (.internal externals.uniqueViolation)))
  | .notifyRecurring _ instanceJob, .notifyOne =>
      some (shared.notifyOne, .creating clientId req (.notify instanceJob))
  | .notify job, .notifyOne =>
      some (shared.notifyOne,
        .answered (.createJob clientId req)
          (.created (JobResponse.ofJob job)))
  | .lookup, .call (.error message)
  | .insertJob, .call (.error message)
  | .insertTemplate _ _, .call (.error message)
  | .insertInstance _ _, .call (.error message) =>
      some (shared,
        .answered (.createJob clientId req) (.failed (.internal message)))
  | _, _ => none

/-- `cancel_job`, one call or notification at a time. -/
def cancelStep?
    (shared : Shared)
    (clientId id : Uuid) :
    CancelPosition → RequestAction → Option (Shared × RequestTask)
  | .read, .call .ok =>
      some (shared,
        planCancel clientId id
          (JobRepository.getJobById shared.jobs id clientId))
  | .cancelJob, .call .ok =>
      let cancel := JobRepository.cancelJob shared.clock id clientId
      if 0 < shared.jobs.affected cancel then
        some (shared.update cancel, .cancelling clientId id .notify)
      else
        some (shared,
          .answered (.cancelJob clientId id)
            (.failed (.badRequest "only scheduled jobs can be cancelled")))
  | .cancelTemplate, .call .ok =>
      let cancel := JobRepository.cancelTemplate shared.clock id clientId
      some (shared.update cancel,
        .cancelling clientId id
          (.cancelInstances (shared.jobs.affected cancel)))
  | .cancelInstances templates, .call .ok =>
      let cancel := JobRepository.cancelInstances shared.clock id
      if templates + shared.jobs.affected cancel = 0 then
        some (shared.update cancel,
          .answered (.cancelJob clientId id) (.failed .notFound))
      else
        some (shared.update cancel, .cancelling clientId id .notify)
  | .notify, .notifyOne =>
      some (shared.notifyOne,
        .answered (.cancelJob clientId id) .noContent)
  | .read, .call (.error message)
  | .cancelJob, .call (.error message)
  | .cancelTemplate, .call (.error message)
  | .cancelInstances _, .call (.error message) =>
      some (shared,
        .answered (.cancelJob clientId id) (.failed (.internal message)))
  | _, _ => none

/-- `patch_job`, one call or notification at a time. -/
def patchStep?
    (shared : Shared)
    (clientId id : Uuid)
    (req : PatchJobRequest) :
    PatchPosition → RequestAction → Option (Shared × RequestTask)
  | .update, .call .ok =>
      let patch :=
        JobRepository.updateCronExpr shared.clock id clientId req.cronExpr
      if 0 < shared.jobs.affected patch then
        some (shared.update patch, .patching clientId id req .read)
      else
        some (shared,
          .answered (.patchJob clientId id req) (.failed .notFound))
  | .read, .call .ok =>
      match JobRepository.getJobById shared.jobs id clientId with
      | none =>
          some (shared,
            .answered (.patchJob clientId id req) (.failed .notFound))
      | some job => some (shared, .patching clientId id req (.notify job))
  | .notify job, .notifyOne =>
      some (shared.notifyOne,
        .answered (.patchJob clientId id req)
          (.ok (JobResponse.ofJob job)))
  | .update, .call (.error message)
  | .read, .call (.error message) =>
      some (shared,
        .answered (.patchJob clientId id req)
          (.failed (.internal message)))
  | _, _ => none

def step?
    (externals : Externals)
    (shared : Shared) :
    RequestTask → RequestAction → Option (Shared × RequestTask)
  | .absent, .arrive request => some (shared, start request)
  | .creating clientId req position, action =>
      createStep? externals shared clientId req position action
  | .getting clientId id, .call .ok =>
      match JobRepository.getJobById shared.jobs id clientId with
      | none =>
          some (shared, .answered (.getJob clientId id) (.failed .notFound))
      | some job =>
          some (shared,
            .answered (.getJob clientId id) (.ok (JobResponse.ofJob job)))
  | .getting clientId id, .call (.error message) =>
      some (shared,
        .answered (.getJob clientId id) (.failed (.internal message)))
  | .cancelling clientId id position, action =>
      cancelStep? shared clientId id position action
  | .patching clientId id req position, action =>
      patchStep? shared clientId id req position action
  | _, _ => none

end RequestTask

end Kronkeeper
