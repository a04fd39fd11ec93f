import Kronkeeper.CopyPlaces

namespace Kronkeeper

/-!
# Why a row changes

The one inversion theorem on the table: whatever a step does, every row of the
table after it is an old row whose schedule it left alone, an old row whose
state one of ten statements wrote, or a row one of four `INSERT`s added.
-/

/-- The state the first write of `handle` leaves behind. -/
def Disposition.state : Disposition → JobState
  | .complete => .completed
  | .expire => .expired
  | .deadLetter => .deadLetter
  | .retry _ _ => .scheduled

@[simp] theorem ResultHandler.dispositionUpdate_applies
    (now : Time)
    (id : Uuid)
    (disposition : Disposition)
    (row : Job) :
    (dispositionUpdate now id disposition).applies row = (row.id == id) := by
  cases disposition <;> rfl

@[simp] theorem ResultHandler.dispositionUpdate_assign_state
    (now : Time)
    (id : Uuid)
    (disposition : Disposition)
    (row : Job) :
    ((dispositionUpdate now id disposition).assign row).state =
      disposition.state := by
  cases disposition <;> rfl

/-- The row waits for a start. -/
def JobState.awaitsStart : JobState → Bool
  | .scheduled => true
  | .leased => true
  | _ => false

namespace RequestTask

/-- The row a request asks the table to insert. -/
def insertsRow?
    (externals : Externals)
    (clock : Time) : RequestTask → RequestAction → Option Job
  | .creating clientId req .insertJob, .call (.inserted id) =>
      some (JobRepository.oneOffRow clock id clientId req)
  | .creating clientId req (.insertTemplate recurrence firstFire),
      .call (.inserted id) =>
      some
        (JobRepository.templateRow clock id clientId req recurrence
          firstFire)
  | .creating _ _ (.insertInstance template firstFire),
      .call (.inserted id) =>
      some
        (JobRepository.instanceRow clock id template firstFire
          (RecurringService.instanceKey externals template.id firstFire))
  | _, _ => none

end RequestTask

namespace State

variable {config : Config} {slots : Nat}

/-- The columns the scheduler goes by are as they were. -/
structure SameSchedule (old new : Job) : Prop where
  state : new.state = old.state
  scheduledAt : new.scheduledAt = old.scheduledAt
  leasedUntil : new.leasedUntil = old.leasedUntil

/-- The statements that write the state of a row, and who runs them. -/
inductive StateChange
    (state : State config slots)
    (row : Job) :
    Action config slots → JobState → Prop where
  | lease
      (now : Time)
      (entry : ScheduledJob)
      (dispatching : state.scheduler.position = .dispatching now)
      (pops : SchedulerTask.Pops state.scheduler.heap now entry)
      (sameId : row.id = entry.id)
      (scheduled : row.state = .scheduled) :
      StateChange state row (.scheduler (.lease entry .ok)) .leased
  | begin
      (worker : Fin config.workerCount)
      (job : Job)
      (starting : state.workers worker = .starting job)
      (sameId : row.id = job.id) :
      StateChange state row (.worker worker (.setRunning .ok)) .running
  | settle
      (worker : Fin config.workerCount)
      (job : Job)
      (result : ExecutionResult)
      (now : Time)
      (disposition : Disposition)
      (handling : state.workers worker = .handling job result now)
      (disposed :
        ResultHandler.dispose? config job result now =
          some disposition)
      (sameId : row.id = job.id) :
      StateChange state row (.worker worker (.settle .ok))
        disposition.state
  | giveBack
      (job : Job)
      (returning : state.scheduler.position = .returning job)
      (sameId : row.id = job.id) :
      StateChange state row (.scheduler (.returnJob .ok)) .scheduled
  | reap
      (ticking : state.reaper = .ticking)
      (leased : row.state = .leased)
      (expired : JobRepository.leaseExpired state.clock row = true) :
      StateChange state row (.reaper (.reap .ok)) .scheduled
  | recover
      (orphaned : row.state = .leased ∨ row.state = .running) :
      StateChange state row .restart .scheduled
  | cancelJob
      (slot : Fin slots)
      (clientId : Uuid)
      (cancelling :
        state.requests slot = .cancelling clientId row.id .cancelJob)
      (scheduled : row.state = .scheduled) :
      StateChange state row (.api slot (.call .ok)) .cancelled
  | cancelTemplate
      (slot : Fin slots)
      (clientId : Uuid)
      (cancelling :
        state.requests slot = .cancelling clientId row.id .cancelTemplate)
      (isTemplate : row.isTemplate = true) :
      StateChange state row (.api slot (.call .ok)) .cancelled
  | cancelInstances
      (slot : Fin slots)
      (clientId id : Uuid)
      (templates : Nat)
      (cancelling :
        state.requests slot =
          .cancelling clientId id (.cancelInstances templates))
      (isInstance : row.parentJobId = some id)
      (scheduled : row.state = .scheduled) :
      StateChange state row (.api slot (.call .ok)) .cancelled
  | completeTemplate
      (worker : Fin config.workerCount)
      (job template : Job)
      (spawning :
        state.workers worker = .spawning job (.completeTemplate template))
      (sameId : row.id = template.id) :
      StateChange state row (.worker worker (.spawn .ok)) .completed

/-- The `INSERT`s, who runs them and the row they add. -/
inductive Inserts
    (externals : Externals)
    (state : State config slots) :
    Action config slots → Job → Prop where
  | job
      (slot : Fin slots)
      (clientId : Uuid)
      (req : CreateJobRequest)
      (id : Uuid)
      (creating :
        state.requests slot = .creating clientId req .insertJob) :
      Inserts externals state (.api slot (.call (.inserted id)))
        (JobRepository.oneOffRow state.clock id clientId req)
  | template
      (slot : Fin slots)
      (clientId : Uuid)
      (req : CreateJobRequest)
      (recurrence : RecurrenceConfig)
      (firstFire : Time)
      (id : Uuid)
      (creating :
        state.requests slot =
          .creating clientId req (.insertTemplate recurrence firstFire)) :
      Inserts externals state (.api slot (.call (.inserted id)))
        (JobRepository.templateRow state.clock id clientId req recurrence
          firstFire)
  | firstInstance
      (slot : Fin slots)
      (clientId : Uuid)
      (req : CreateJobRequest)
      (template : Job)
      (firstFire : Time)
      (id : Uuid)
      (creating :
        state.requests slot =
          .creating clientId req (.insertInstance template firstFire)) :
      Inserts externals state (.api slot (.call (.inserted id)))
        (JobRepository.instanceRow state.clock id template firstFire
          (RecurringService.instanceKey externals template.id firstFire))
  | nextInstance
      (worker : Fin config.workerCount)
      (job template : Job)
      (nextFire : Time)
      (id : Uuid)
      (spawning :
        state.workers worker =
          .spawning job (.insertInstance template nextFire)) :
      Inserts externals state (.worker worker (.spawn (.inserted id)))
        (JobRepository.instanceRow state.clock id template nextFire
          (RecurringService.instanceKey externals template.id nextFire))

/-- The row a step asks the table to insert. -/
def insertedRow?
    (externals : Externals)
    (state : State config slots) : Action config slots → Option Job
  | .api slot action =>
      (state.requests slot).insertsRow? externals state.clock action
  | .worker worker (.spawn (.inserted id)) =>
      match state.workers worker with
      | .spawning _ (.insertInstance template nextFire) =>
          some
            (JobRepository.instanceRow state.clock id template nextFire
              (RecurringService.instanceKey externals template.id
                nextFire))
      | _ => none
  | _ => none

theorem Inserts.insertedRow?_eq
    {externals : Externals}
    {state : State config slots}
    {action : Action config slots}
    {row : Job}
    (insertion : state.Inserts externals action row) :
    state.insertedRow? externals action = some row := by
  cases insertion with
  | job _ _ _ _ asks | template _ _ _ _ _ _ asks
  | firstInstance _ _ _ _ _ _ asks =>
      simp only [insertedRow?, asks]
      rfl
  | nextInstance _ _ _ _ _ asks =>
      simp only [insertedRow?, asks]

/-- The `UPDATE`s and who runs them. -/
inductive Updates
    (state : State config slots) :
    Action config slots → JobUpdate → Prop where
  | lease
      (now : Time)
      (entry : ScheduledJob)
      (dispatching : state.scheduler.position = .dispatching now)
      (pops : SchedulerTask.Pops state.scheduler.heap now entry) :
      Updates state (.scheduler (.lease entry .ok))
        (JobRepository.leaseJob state.clock entry.id
          config.leaseDurationSecs)
  | giveBack
      (job : Job)
      (returning : state.scheduler.position = .returning job) :
      Updates state (.scheduler (.returnJob .ok))
        (JobRepository.scheduleRetry state.clock job.id job.scheduledAt
          job.attemptCount)
  | begin
      (worker : Fin config.workerCount)
      (job : Job)
      (starting : state.workers worker = .starting job) :
      Updates state (.worker worker (.setRunning .ok))
        (JobRepository.setRunning state.clock job.id)
  | settle
      (worker : Fin config.workerCount)
      (job : Job)
      (result : ExecutionResult)
      (now : Time)
      (disposition : Disposition)
      (handling : state.workers worker = .handling job result now)
      (disposed :
        ResultHandler.dispose? config job result now =
          some disposition) :
      Updates state (.worker worker (.settle .ok))
        (ResultHandler.dispositionUpdate state.clock job.id disposition)
  | record
      (worker : Fin config.workerCount)
      (job : Job)
      (success : Bool)
      (attempts : Int)
      (emitting :
        state.workers worker =
          .emitting job (.recordResult success attempts)) :
      Updates state (.worker worker (.emit .ok))
        (JobRepository.updateWebhookResult state.clock job.id success
          attempts)
  | completeTemplate
      (worker : Fin config.workerCount)
      (job template : Job)
      (spawning :
        state.workers worker = .spawning job (.completeTemplate template)) :
      Updates state (.worker worker (.spawn .ok))
        (JobRepository.completeTemplate state.clock template.id)
  | increment
      (worker : Fin config.workerCount)
      (job template : Job)
      (nextFire : Time)
      (spawning :
        state.workers worker =
            .spawning job (.incrementSkipped template nextFire) ∨
          state.workers worker =
            .spawning job (.incrementInserted template nextFire)) :
      Updates state (.worker worker (.spawn .ok))
        (JobRepository.incrementTemplateOccurrences state.clock
          template.id (some nextFire))
  | reap (ticking : state.reaper = .ticking) :
      Updates state (.reaper (.reap .ok))
        (JobRepository.reapExpiredLeases state.clock)
  | recover :
      Updates state .restart (JobRepository.recoverOnStartup state.clock)
  | cancelJob
      (slot : Fin slots)
      (clientId id : Uuid)
      (cancelling :
        state.requests slot = .cancelling clientId id .cancelJob) :
      Updates state (.api slot (.call .ok))
        (JobRepository.cancelJob state.clock id clientId)
  | cancelTemplate
      (slot : Fin slots)
      (clientId id : Uuid)
      (cancelling :
        state.requests slot = .cancelling clientId id .cancelTemplate) :
      Updates state (.api slot (.call .ok))
        (JobRepository.cancelTemplate state.clock id clientId)
  | cancelInstances
      (slot : Fin slots)
      (clientId id : Uuid)
      (templates : Nat)
      (cancelling :
        state.requests slot =
          .cancelling clientId id (.cancelInstances templates)) :
      Updates state (.api slot (.call .ok))
        (JobRepository.cancelInstances state.clock id)
  | patch
      (slot : Fin slots)
      (clientId id : Uuid)
      (req : PatchJobRequest)
      (patching :
        state.requests slot = .patching clientId id req .update) :
      Updates state (.api slot (.call .ok))
        (JobRepository.updateCronExpr state.clock id clientId
          req.cronExpr)

/-! ## The whole table across a step -/

/-- What a step did to the table. -/
inductive TableStep
    (externals : Externals)
    (state : State config slots)
    (action : Action config slots)
    (after : JobTable) : Prop where
  | updated
      (change : JobUpdate)
      (same : after = state.jobs.update change)
      (updates : state.Updates action change)
  | inserted
      (row : Job)
      (added : state.jobs.insert? row = some after)
      (insertion : state.Inserts externals action row)
  | same (same : after = state.jobs)

section TableSteps

variable {externals : Externals}
variable {state : State config slots}

private theorem tableStep_scheduler
    {schedulerAction : SchedulerAction}
    {shared : Shared}
    {task : SchedulerTask}
    {channelClosed : Bool}
    (moved :
      SchedulerTask.Move config channelClosed state.toShared
        state.scheduler.heap state.scheduler.position schedulerAction
        shared task) :
    state.TableStep externals (.scheduler schedulerAction)
      shared.jobs := by
  generalize position : state.scheduler.position = current at moved
  cases moved with
  | lease now entry job pops leased =>
      exact .updated _ rfl (.lease now entry position pops)
  | giveBack job =>
      exact .updated _ rfl (.giveBack job position)
  | _ =>
      exact .same rfl

private theorem tableStep_worker
    {worker : Fin config.workerCount}
    {workerAction : WorkerAction}
    {shared : Shared}
    {task : WorkerTask}
    (moved :
      (state.workers worker).Move config externals state.toShared
        workerAction shared task) :
    state.TableStep externals (.worker worker workerAction)
      shared.jobs := by
  generalize before : state.workers worker = current at moved
  cases moved with
  | begin job =>
      exact .updated _ rfl (.begin worker job before)
  | settle job result now disposition disposed =>
      exact .updated _ rfl
        (.settle worker job result now disposition before disposed)
  | record job success attempts =>
      exact .updated _ rfl (.record worker job success attempts before)
  | spawn job call reply after progress spawned =>
      cases spawned with
      | complete template =>
          exact .updated _ rfl
            (.completeTemplate worker job template before)
      | skip template nextFire =>
          exact .updated _ rfl
            (.increment worker job template nextFire (Or.inl before))
      | increment template nextFire =>
          exact .updated _ rfl
            (.increment worker job template nextFire (Or.inr before))
      | insert template nextFire id jobs inserted =>
          exact .inserted _ inserted
            (.nextInstance worker job template nextFire id before)
      | _ =>
          exact .same rfl
  | _ =>
      exact .same rfl

private theorem tableStep_api
    {slot : Fin slots}
    {requestAction : RequestAction}
    {shared : Shared}
    {task : RequestTask}
    (moved :
      (state.requests slot).Move externals state.toShared requestAction
        shared task) :
    state.TableStep externals (.api slot requestAction) shared.jobs := by
  generalize before : state.requests slot = current at moved
  cases moved with
  | create clientId req position action after next created =>
      cases created with
      | insertJob id jobs inserted =>
          exact .inserted _ inserted (.job slot clientId req id before)
      | insertTemplate recurrence firstFire id jobs inserted =>
          exact .inserted _ inserted
            (.template slot clientId req recurrence firstFire id before)
      | insertInstance template firstFire id jobs inserted =>
          exact .inserted _ inserted
            (.firstInstance slot clientId req template firstFire id
              before)
      | _ =>
          exact .same rfl
  | cancel clientId id position action after next cancelled =>
      cases cancelled with
      | cancelJob =>
          exact .updated _ rfl (.cancelJob slot clientId id before)
      | cancelTemplate =>
          exact .updated _ rfl (.cancelTemplate slot clientId id before)
      | cancelInstances templates | cancelNothing templates =>
          exact .updated _ rfl
            (.cancelInstances slot clientId id templates before)
      | _ =>
          exact .same rfl
  | patch clientId id req =>
      exact .updated _ rfl (.patch slot clientId id req before)
  | _ =>
      exact .same rfl

/-- A step runs one `UPDATE` or one `INSERT`, or leaves the table alone. -/
theorem tableStep_of_step?
    {action : Action config slots}
    {after : State config slots}
    (taken : step? externals state action = some after) :
    state.TableStep externals action after.jobs := by
  cases move_of_step? taken with
  | scheduler action shared task moved =>
      exact tableStep_scheduler moved
  | worker worker action shared task moved =>
      rw [dropClosed_jobs]
      exact tableStep_worker moved
  | reaper action shared task moved =>
      generalize before : state.reaper = current at moved
      cases moved with
      | reap | reapNothing =>
          exact .updated _ rfl (.reap before)
      | _ =>
          exact .same rfl
  | api slot action shared task moved =>
      exact tableStep_api moved
  | restart =>
      exact .updated _ rfl .recover
  | tick | shutdown =>
      exact .same rfl

end TableSteps

/-! ## One row across a step -/

/-- Where a row of the table after a step comes from. -/
inductive RowOrigin
    (externals : Externals)
    (state : State config slots)
    (action : Action config slots)
    (new : Job) : Prop where
  | kept
      (old : Job)
      (member : old ∈ state.jobs.rows)
      (identity : new.identity = old.identity)
      (hasCron : old.cronExpr.isSome → new.cronExpr.isSome)
      (schedule : SameSchedule old new)
  | changed
      (old : Job)
      (member : old ∈ state.jobs.rows)
      (identity : new.identity = old.identity)
      (hasCron : old.cronExpr.isSome → new.cronExpr.isSome)
      (change : state.StateChange old action new.state)
  | inserted
      (fresh : state.jobs.Fresh new)
      (insertion : state.Inserts externals action new)

section Origins

variable {externals : Externals}
variable {state : State config slots}
variable {action : Action config slots}
variable {change : JobUpdate}

/-- No statement takes the cron expression of a row away. -/
private theorem Updates.hasCron
    (updates : state.Updates action change)
    {old : Job}
    (hasCron : old.cronExpr.isSome) :
    (change.assign old).cronExpr.isSome := by
  cases updates with
  | settle worker job result now disposition =>
      cases disposition <;> exact hasCron
  | patch =>
      rfl
  | _ =>
      exact hasCron

/-- A statement leaves the schedule of a row alone or writes its state. -/
private theorem Updates.effect
    (updates : state.Updates action change)
    {old : Job}
    (applies : change.applies old = true) :
    SameSchedule old (change.assign old) ∨
      state.StateChange old action (change.assign old).state := by
  cases updates with
  | lease now entry dispatching pops =>
      simp only [JobRepository.leaseJob, Bool.and_eq_true,
        beq_iff_eq] at applies
      exact Or.inr (.lease now entry dispatching pops applies.1 applies.2)
  | giveBack job returning =>
      simp only [JobRepository.scheduleRetry, beq_iff_eq] at applies
      exact Or.inr (.giveBack job returning applies)
  | begin worker job starting =>
      simp only [JobRepository.setRunning, beq_iff_eq] at applies
      exact Or.inr (.begin worker job starting applies)
  | settle worker job result now disposition handling disposed =>
      rw [ResultHandler.dispositionUpdate_applies, beq_iff_eq] at applies
      rw [ResultHandler.dispositionUpdate_assign_state]
      exact Or.inr (.settle worker job result now disposition handling
        disposed applies)
  | record | increment | patch =>
      exact Or.inl ⟨rfl, rfl, rfl⟩
  | completeTemplate worker job template spawning =>
      simp only [JobRepository.completeTemplate, beq_iff_eq] at applies
      exact Or.inr
        (.completeTemplate worker job template spawning applies)
  | reap ticking =>
      simp only [JobRepository.reapExpiredLeases, Bool.and_eq_true,
        beq_iff_eq] at applies
      exact Or.inr (.reap ticking applies.1 applies.2)
  | recover =>
      simp only [JobRepository.recoverOnStartup, Bool.and_eq_true,
        Bool.or_eq_true, beq_iff_eq] at applies
      exact Or.inr (.recover applies.1)
  | cancelJob slot clientId id cancelling =>
      simp only [JobRepository.cancelJob, Bool.and_eq_true,
        beq_iff_eq] at applies
      obtain ⟨⟨rfl, _⟩, scheduled⟩ := applies
      exact Or.inr (.cancelJob slot clientId cancelling scheduled)
  | cancelTemplate slot clientId id cancelling =>
      simp only [JobRepository.cancelTemplate, Bool.and_eq_true,
        beq_iff_eq] at applies
      obtain ⟨⟨rfl, _⟩, isTemplate⟩ := applies
      exact Or.inr (.cancelTemplate slot clientId cancelling isTemplate)
  | cancelInstances slot clientId id templates cancelling =>
      simp only [JobRepository.cancelInstances, Bool.and_eq_true,
        beq_iff_eq] at applies
      exact Or.inr (.cancelInstances slot clientId id templates cancelling
        applies.1 applies.2)

/-- Every row after a step has one of the listed origins. -/
theorem rowOrigin_of_step?
    {after : State config slots}
    (taken : step? externals state action = some after)
    {new : Job}
    (member : new ∈ after.jobs.rows) :
    state.RowOrigin externals action new := by
  cases tableStep_of_step? taken with
  | same same =>
      rw [same] at member
      exact .kept new member rfl id ⟨rfl, rfl, rfl⟩
  | inserted row added insertion =>
      rcases (RecordTable.mem_of_insert? added).mp member with old | rfl
      · exact .kept new old rfl id ⟨rfl, rfl, rfl⟩
      · exact .inserted (RecordTable.insert?_eq_some_iff.mp added).1
          insertion
  | updated change same updates =>
      rw [same] at member
      obtain ⟨old, oldMember, rfl⟩ := RecordTable.mem_update.mp member
      cases applies : change.applies old with
      | false =>
          rw [RowUpdate.image_of_not_applies applies]
          exact .kept old oldMember rfl id ⟨rfl, rfl, rfl⟩
      | true =>
          have identity := change.identity_image old
          rw [RowUpdate.image_of_applies applies] at identity ⊢
          rcases updates.effect applies with schedule | changed
          · exact .kept old oldMember identity updates.hasCron schedule
          · exact .changed old oldMember identity updates.hasCron changed

/-- A row that the step found is as it was, or a statement assigned to it. -/
theorem rowImage_of_step?
    {after : State config slots}
    (taken : step? externals state action = some after)
    {old new : Job}
    (oldMember : old ∈ state.jobs.rows)
    (newMember : new ∈ after.jobs.rows)
    (sameId : new.id = old.id) :
    new = old ∨
      ∃ change,
        state.Updates action change ∧
          change.applies old = true ∧
          new = change.assign old := by
  cases tableStep_of_step? taken with
  | same same =>
      rw [same] at newMember
      exact Or.inl (RecordTable.eq_of_primary newMember oldMember sameId)
  | inserted row added insertion =>
      rcases (RecordTable.mem_of_insert? added).mp newMember with
        member | rfl
      · exact Or.inl (RecordTable.eq_of_primary member oldMember sameId)
      · have fresh := (RecordTable.insert?_eq_some_iff.mp added).1
        exact (fresh.1 old oldMember sameId.symm).elim
  | updated change same updates =>
      rw [same] at newMember
      rw [RecordTable.image_of_mem_update oldMember newMember sameId]
      cases applies : change.applies old with
      | false =>
          exact Or.inl (RowUpdate.image_of_not_applies applies)
      | true =>
          exact Or.inr ⟨change, updates, applies,
            RowUpdate.image_of_applies applies⟩

/-- The write of a result handler puts the row of its job into its state. -/
theorem state_of_settled
    {after : State config slots}
    {worker : Fin config.workerCount}
    {job : Job}
    {result : ExecutionResult}
    {now : Time}
    {disposition : Disposition}
    (handling : state.workers worker = .handling job result now)
    (disposed :
      ResultHandler.dispose? config job result now = some disposition)
    (taken :
      step? externals state (.worker worker (.settle .ok)) = some after)
    {row : Job}
    (member : row ∈ after.jobs.rows)
    (sameId : row.id = job.id) :
    row.state = disposition.state := by
  rw [(settled_of_step? handling disposed taken).2] at member
  obtain ⟨old, _, rfl⟩ := RecordTable.mem_update.mp member
  have oldId : old.id = job.id :=
    (Job.id_eq_of_identity (RowUpdate.identity_image _ old)).symm.trans
      sameId
  rw [RowUpdate.image_of_applies (by simp [oldId])]
  exact ResultHandler.dispositionUpdate_assign_state ..

/-- What became of a row that the step found. -/
theorem stateChange_of_step?
    {after : State config slots}
    (taken : step? externals state action = some after)
    {old new : Job}
    (oldMember : old ∈ state.jobs.rows)
    (newMember : new ∈ after.jobs.rows)
    (sameId : new.id = old.id) :
    SameSchedule old new ∨ state.StateChange old action new.state := by
  rcases rowImage_of_step? taken oldMember newMember sameId with
    rfl | ⟨change, updates, applies, rfl⟩
  · exact Or.inl ⟨rfl, rfl, rfl⟩
  · exact updates.effect applies

/-! ## Starts, reschedules and patches -/

/--
The copy a worker starts to execute.  The write of `set_running` and its return
are one step here, so no time passes between the write and `execute`.
-/
def started?
    (state : State config slots) : Action config slots → Option Job
  | .worker worker (.setRunning .ok) =>
      match state.workers worker with
      | .starting job => some job
      | _ => none
  | _ => none

/-- The copy whose handler takes the retry branch. -/
def retried?
    (state : State config slots) : Action config slots → Option Job
  | .worker worker (.settle .ok) =>
      match state.workers worker with
      | .handling job result now =>
          match ResultHandler.dispose? config job result now with
          | some (.retry _ _) => some job
          | _ => none
      | _ => none
  | _ => none

/-- The copy that a full channel sends back to its row. -/
def returned?
    (state : State config slots) : Action config slots → Option Job
  | .scheduler (.returnJob .ok) =>
      match state.scheduler.position with
      | .returning job => some job
      | _ => none
  | _ => none

/-- What `schedule_retry` binds. -/
structure Reschedule where
  id : Uuid
  scheduledAt : Time
  attemptCount : Int
  deriving DecidableEq

/-- The `schedule_retry` of a result handler or of the dispatch loop. -/
def reschedule?
    (state : State config slots) : Action config slots → Option Reschedule
  | .worker worker (.settle .ok) =>
      match state.workers worker with
      | .handling job result now =>
          match ResultHandler.dispose? config job result now with
          | some (.retry retryAt attempt) =>
              some {
                id := job.id
                scheduledAt := retryAt
                attemptCount := attempt }
          | _ => none
      | _ => none
  | .scheduler (.returnJob .ok) =>
      match state.scheduler.position with
      | .returning job =>
          some {
            id := job.id
            scheduledAt := job.scheduledAt
            attemptCount := job.attemptCount }
      | _ => none
  | _ => none

/-- The `UPDATE` of a patch request. -/
def patch?
    (state : State config slots) : Action config slots → Option JobUpdate
  | .api slot (.call .ok) =>
      match state.requests slot with
      | .patching clientId id req .update =>
          some
            (JobRepository.updateCronExpr state.clock id clientId
              req.cronExpr)
      | _ => none
  | _ => none

/-- Only `schedule_retry` changes when a row is due or its attempts. -/
theorem schedule_of_step?
    {after : State config slots}
    (taken : step? externals state action = some after)
    {old new : Job}
    (oldMember : old ∈ state.jobs.rows)
    (newMember : new ∈ after.jobs.rows)
    (sameId : new.id = old.id) :
    (new.scheduledAt = old.scheduledAt ∧
        new.attemptCount = old.attemptCount) ∨
      state.reschedule? action =
          some {
            id := old.id
            scheduledAt := new.scheduledAt
            attemptCount := new.attemptCount } ∧
        new.state = .scheduled := by
  rcases rowImage_of_step? taken oldMember newMember sameId with
    rfl | ⟨change, updates, applies, rfl⟩
  · exact Or.inl ⟨rfl, rfl⟩
  · cases updates with
    | settle worker job result now disposition handling disposed =>
        rw [ResultHandler.dispositionUpdate_applies, beq_iff_eq] at applies
        cases disposition with
        | retry retryAt attempt =>
            refine Or.inr ⟨?_, rfl⟩
            simp only [reschedule?, handling, disposed, applies]
            rfl
        | _ =>
            exact Or.inl ⟨rfl, rfl⟩
    | giveBack job returning =>
        simp only [JobRepository.scheduleRetry, beq_iff_eq] at applies
        refine Or.inr ⟨?_, rfl⟩
        simp only [reschedule?, returning, applies]
        rfl
    | _ =>
        exact Or.inl ⟨rfl, rfl⟩

/-- Only a patch request changes the cron expression of a row. -/
theorem cronExpr_of_step?
    {after : State config slots}
    (taken : step? externals state action = some after)
    {old new : Job}
    (oldMember : old ∈ state.jobs.rows)
    (newMember : new ∈ after.jobs.rows)
    (sameId : new.id = old.id) :
    new.cronExpr = old.cronExpr ∨
      ∃ slot clientId id req,
        state.requests slot = .patching clientId id req .update ∧
          action = .api slot (.call .ok) ∧
          (JobRepository.updateCronExpr state.clock id clientId
            req.cronExpr).applies old = true := by
  rcases rowImage_of_step? taken oldMember newMember sameId with
    rfl | ⟨change, updates, applies, rfl⟩
  · exact Or.inl rfl
  · cases updates with
    | settle worker job result now disposition =>
        cases disposition <;> exact Or.inl rfl
    | patch slot clientId id req patching =>
        exact Or.inr ⟨slot, clientId, id, req, patching, rfl, applies⟩
    | _ =>
        exact Or.inl rfl

end Origins

/-! ## Jobs out of everybody's reach -/

/-- The row of the job is not live, and no copy speaks for it. -/
structure Inert (state : State config slots) (id : Uuid) : Prop where
  exists_row : ∃ row ∈ state.jobs.rows, row.id = id
  notLive :
    ∀ row ∈ state.jobs.rows,
      row.id = id →
      row.state ≠ .scheduled ∧ row.state ≠ .leased ∧
        row.state ≠ .running
  noCopy : state.NoCopy id

section InertSteps

variable {externals : Externals}
variable {state after : State config slots}
variable {action : Action config slots}
variable {id : Uuid}

/-- An inert row is cancelled once more, or completed as a template. -/
theorem Inert.stateChange
    (inert : state.Inert id)
    {row : Job}
    (member : row ∈ state.jobs.rows)
    (sameId : row.id = id)
    {new : JobState}
    (change : state.StateChange row action new) :
    new = .cancelled ∨
      (new = .completed ∧
        ∃ worker job template,
          state.workers worker =
              .spawning job (.completeTemplate template) ∧
            row.id = template.id) := by
  obtain ⟨notScheduled, notLeased, notRunning⟩ :=
    inert.notLive row member sameId
  have nowhere := noCopy_iff.mp inert.noCopy
  cases change with
  | lease now entry dispatching pops entryId scheduled =>
      exact (notScheduled scheduled).elim
  | begin worker job starting jobId =>
      exact (nowhere _ job _ (expects_of_worker starting rfl)
        (jobId.symm.trans sameId)).elim
  | settle worker job result now disposition handling _ jobId =>
      exact (nowhere _ job _ (expects_of_worker handling rfl)
        (jobId.symm.trans sameId)).elim
  | giveBack job returning jobId =>
      exact (nowhere _ job _ (expects_of_hand returning rfl)
        (jobId.symm.trans sameId)).elim
  | reap ticking leased =>
      exact (notLeased leased).elim
  | recover orphaned =>
      exact (orphaned.elim notLeased notRunning).elim
  | cancelJob | cancelTemplate | cancelInstances =>
      exact Or.inl rfl
  | completeTemplate worker job template spawning templateId =>
      exact Or.inr ⟨rfl, worker, job, template, spawning, templateId⟩

/-- Only the lease of a scheduled row makes a copy. -/
theorem NoCopy.step
    (noCopy : state.NoCopy id)
    (notScheduled :
      ∀ row ∈ state.jobs.rows, row.id = id → row.state ≠ .scheduled)
    (taken : step? externals state action = some after) :
    after.NoCopy id := by
  have nowhere := noCopy_iff.mp noCopy
  rw [noCopy_iff]
  intro place job expected expects sameId
  cases earlier_of_step? taken expects with
  | held source before =>
      exact nowhere source job expected before sameId
  | leased now entry isLease pops returned =>
      obtain ⟨row, member, applies, rfl⟩ :=
        RecordTable.returning_eq_some returned
      simp only [JobRepository.leaseJob, Bool.and_eq_true,
        beq_iff_eq] at applies
      exact notScheduled row member sameId applies.2
  | begun worker isBegin starting =>
      exact nowhere _ job _ (expects_of_worker starting rfl) sameId

/-- Whatever happens next, an inert job stays inert. -/
theorem Inert.step
    (inert : state.Inert id)
    (taken : step? externals state action = some after) :
    after.Inert id := by
  obtain ⟨old, oldMember, oldId⟩ := inert.exists_row
  refine ⟨?_, ?_, ?_⟩
  · obtain ⟨new, newMember, identity⟩ :=
      extends_of_step? taken old oldMember
    exact ⟨new, newMember,
      (Job.id_eq_of_identity identity).trans oldId⟩
  · intro row member sameId
    rcases stateChange_of_step? taken oldMember member
        (sameId.trans oldId.symm) with schedule | change
    · rw [schedule.state]
      exact inert.notLive old oldMember oldId
    · rcases inert.stateChange oldMember oldId change with
        cancelled | ⟨completed, _⟩
      · rw [cancelled]
        exact ⟨nofun, nofun, nofun⟩
      · rw [completed]
        exact ⟨nofun, nofun, nofun⟩
  · exact inert.noCopy.step
      (fun row member sameId => (inert.notLive row member sameId).1) taken

end InertSteps

end State

end Kronkeeper
