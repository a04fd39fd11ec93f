import Kronkeeper.ApiTask
import Kronkeeper.AtomicObject

namespace Kronkeeper

/-!
# The API as an atomic object

What a client may rely on without knowing the handlers: the jobs are a map from
ids to rows, a call is one atomic operation on it, or two where the handler
runs two dependent statements, and a call that answers an internal error has
done nothing since its last completed operation.
-/

/-- The jobs as clients see them, with the time of the database. -/
@[ext] structure JobStore where
  clock : Time
  row? : Uuid → Option Job

namespace JobStore

/-- The store behind the shared state. -/
def ofShared (shared : Shared) : JobStore where
  clock := shared.clock
  row? := shared.jobs.find?

/-- Write a row under its own id. -/
def put (store : JobStore) (row : Job) : JobStore where
  clock := store.clock
  row? := Function.update store.row? row.id (some row)

/-- No job has the id or the key of the row. -/
structure Admits (store : JobStore) (row : Job) : Prop where
  newId : store.row? row.id = none
  newKey :
    ∀ id other,
      store.row? id = some other →
      other.idempotencyKey ≠ row.idempotencyKey

/-- The client has a job of this id. -/
structure Owns
    (store : JobStore)
    (clientId id : Uuid)
    (row : Job) : Prop where
  found : store.row? id = some row
  owner : row.clientId = some clientId

/-- A row as a cancellation leaves it. -/
def cancelled (store : JobStore) (row : Job) : Job :=
  { row with state := .cancelled, updatedAt := store.clock }

/-- A row as a patch leaves it. -/
def patched (store : JobStore) (cronExpr : String) (row : Job) : Job :=
  { row with cronExpr := some cronExpr, updatedAt := store.clock }

/-- Cancel what is still waiting among the instances of a template. -/
def cancelInstances (store : JobStore) (templateId : Uuid) : JobStore where
  clock := store.clock
  row? id :=
    (store.row? id).map fun row =>
      if row.parentJobId = some templateId ∧ row.state = .scheduled then
        store.cancelled row
      else
        row

/-- The clock has moved on and no row has lost its identity. -/
structure Evolves (elapsed : Nat) (before after : JobStore) : Prop where
  clock : after.clock = before.clock + elapsed
  rows :
    ∀ id row,
      before.row? id = some row →
      ∃ later,
        after.row? id = some later ∧ later.identity = row.identity

end JobStore

/-- What is left to do of a call. -/
inductive ApiTodo where
  | call (request : Request)
  /-- The template is there, its first instance is not. -/
  | addInstance
      (clientId : Uuid)
      (req : CreateJobRequest)
      (template : Job)
      (firstFire : Time)
  /-- The template is cancelled, its instances are not. -/
  | cancelInstances (clientId id : Uuid)
  /-- The expression is written and not yet read back. -/
  | readPatched (clientId id : Uuid) (req : PatchJobRequest)
  | reply (request : Request) (response : Response)
  deriving DecidableEq

namespace ApiTodo

/-- The call behind it. -/
def request : ApiTodo → Request
  | .call request => request
  | .addInstance clientId req _ _ => .createJob clientId req
  | .cancelInstances clientId id => .cancelJob clientId id
  | .readPatched clientId id req => .patchJob clientId id req
  | .reply request _ => request

/-- Malformed calls are answered at once. -/
def start : Request → ApiTodo
  | .createJob clientId req =>
      if req.idempotencyKey.isEmpty then
        .reply (.createJob clientId req)
          (.failed (.badRequest "idempotency_key is required"))
      else
        .call (.createJob clientId req)
  | .patchJob clientId id req =>
      if req.cronExpr.isEmpty then
        .reply (.patchJob clientId id req)
          (.failed (.badRequest "cron_expr is required"))
      else
        .call (.patchJob clientId id req)
  | request => .call request

def settled? : ApiTodo → Option (Request × Response)
  | .reply request response => some (request, response)
  | _ => none

/-- The call has its answer. -/
def isReply (todo : ApiTodo) : Bool :=
  todo.settled?.isSome

/-- The atomic operations of the API. -/
inductive Performs
    (externals : Externals)
    (store : JobStore) : ApiTodo → JobStore → ApiTodo → Prop where
  | found
      (clientId id : Uuid)
      (req : CreateJobRequest)
      (row : Job)
      (isRow : store.row? id = some row)
      (sameKey : row.idempotencyKey = req.idempotencyKey) :
      Performs externals store (.call (.createJob clientId req)) store
        (.reply (.createJob clientId req) (.ok (JobResponse.ofJob row)))
  | create
      (clientId id : Uuid)
      (req : CreateJobRequest)
      (row : Job)
      (oneOff : req.recurrence = none)
      (isRow : row = JobRepository.oneOffRow store.clock id clientId req)
      (admits : store.Admits row) :
      Performs externals store (.call (.createJob clientId req))
        (store.put row)
        (.reply (.createJob clientId req)
          (.created (JobResponse.ofJob row)))
  | createTemplate
      (clientId id : Uuid)
      (req : CreateJobRequest)
      (recurrence : RecurrenceConfig)
      (firstFire : Time)
      (row : Job)
      (recurring : req.recurrence = some recurrence)
      (isFirst :
        RecurringService.nextFireAfter externals recurrence.cronExpr
          req.scheduledAt = .ok firstFire)
      (isRow :
        row =
          JobRepository.templateRow store.clock id clientId req recurrence
            firstFire)
      (admits : store.Admits row) :
      Performs externals store (.call (.createJob clientId req))
        (store.put row) (.addInstance clientId req row firstFire)
  | addInstance
      (clientId id : Uuid)
      (req : CreateJobRequest)
      (template : Job)
      (firstFire : Time)
      (row : Job)
      (isRow :
        row =
          JobRepository.instanceRow store.clock id template firstFire
            (RecurringService.instanceKey externals template.id firstFire))
      (admits : store.Admits row) :
      Performs externals store
        (.addInstance clientId req template firstFire) (store.put row)
        (.reply (.createJob clientId req)
          (.created (JobResponse.ofJob row)))
  | get
      (clientId id : Uuid)
      (row : Job)
      (owns : store.Owns clientId id row) :
      Performs externals store (.call (.getJob clientId id)) store
        (.reply (.getJob clientId id) (.ok (JobResponse.ofJob row)))
  | getNothing
      (clientId id : Uuid)
      (nothing : ∀ row, ¬store.Owns clientId id row) :
      Performs externals store (.call (.getJob clientId id)) store
        (.reply (.getJob clientId id) (.failed .notFound))
  | cancelNothing
      (clientId id : Uuid)
      (nothing : ∀ row, ¬store.Owns clientId id row) :
      Performs externals store (.call (.cancelJob clientId id)) store
        (.reply (.cancelJob clientId id) (.failed .notFound))
  | cancel
      (clientId id : Uuid)
      (row : Job)
      (owns : store.Owns clientId id row)
      (notTemplate : row.isTemplate = false)
      (scheduled : row.state = .scheduled) :
      Performs externals store (.call (.cancelJob clientId id))
        (store.put (store.cancelled row))
        (.reply (.cancelJob clientId id) .noContent)
  | cancelRefused
      (clientId id : Uuid)
      (row : Job)
      (owns : store.Owns clientId id row)
      (notTemplate : row.isTemplate = false)
      (notScheduled : row.state ≠ .scheduled) :
      Performs externals store (.call (.cancelJob clientId id)) store
        (.reply (.cancelJob clientId id)
          (.failed (.badRequest "only scheduled jobs can be cancelled")))
  | cancelTemplate
      (clientId id : Uuid)
      (row : Job)
      (owns : store.Owns clientId id row)
      (isTemplate : row.isTemplate = true) :
      Performs externals store (.call (.cancelJob clientId id))
        (store.put (store.cancelled row)) (.cancelInstances clientId id)
  | cancelInstances (clientId id : Uuid) :
      Performs externals store (.cancelInstances clientId id)
        (store.cancelInstances id)
        (.reply (.cancelJob clientId id) .noContent)
  | patch
      (clientId id : Uuid)
      (req : PatchJobRequest)
      (row : Job)
      (owns : store.Owns clientId id row)
      (isTemplate : row.isTemplate = true)
      (isRecurring : row.isRecurring = true) :
      Performs externals store (.call (.patchJob clientId id req))
        (store.put (store.patched req.cronExpr row))
        (.readPatched clientId id req)
  | patchNothing
      (clientId id : Uuid)
      (req : PatchJobRequest)
      (nothing :
        ∀ row,
          store.Owns clientId id row →
          ¬(row.isTemplate = true ∧ row.isRecurring = true)) :
      Performs externals store (.call (.patchJob clientId id req)) store
        (.reply (.patchJob clientId id req) (.failed .notFound))
  | readPatched
      (clientId id : Uuid)
      (req : PatchJobRequest)
      (row : Job)
      (owns : store.Owns clientId id row) :
      Performs externals store (.readPatched clientId id req) store
        (.reply (.patchJob clientId id req)
          (.ok (JobResponse.ofJob row)))
  | fail
      (todo : ApiTodo)
      (message : String)
      (isOpen : todo.isReply = false) :
      Performs externals store todo store
        (.reply todo.request (.failed (.internal message)))

end ApiTodo

/-- The API of the daemon; what else runs is summed up by the time it takes. -/
def JobStore.api
    (externals : Externals) :
    AtomicObject Request Response ApiTodo JobStore Nat where
  start := ApiTodo.start
  Performs := ApiTodo.Performs externals
  settled? := ApiTodo.settled?
  Acts := JobStore.Evolves

end Kronkeeper
