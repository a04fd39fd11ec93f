import Kronkeeper.LoneWorker

namespace Kronkeeper

/-!
# One attempt at a job after the other

A job is leased, set running, executed and passed to `handle`, and nothing else
touches it in the meantime; no repository call fails.  What an attempt does to
the row of its job follows from the branch that `handle` takes.
-/

/-- `handle` as in `dispose?`, but with this date for a retry. -/
def ResultHandler.disposeAt
    (retryAt : Time)
    (job : Job)
    (result : ExecutionResult)
    (now : Time) : Disposition :=
  branch job result now id (.retry retryAt)

/-- The attempts a disposition leaves in the row. -/
def Disposition.attempts (earlier : Int) : Disposition → Int
  | .retry _ attempt => attempt
  | _ => earlier

/-- One execution of a job: its result, and what is left to chance around it. -/
structure Execution where
  /-- From the return of the handler before it to `lease_job`. -/
  leasedAfter : Nat
  /-- From `lease_job` to `set_running`. -/
  startedAfter : Nat
  /-- From `set_running` to the clock reading of `handle`. -/
  handledAfter : Nat
  /-- From there to the first write. -/
  settledAfter : Nat
  result : ExecutionResult
  retryAt : Time
  /-- What follows the first write. -/
  rest : List (Nat × WorkerAction)

namespace Execution

/-- The clock reading of `handle`. -/
def handledAt (execution : Execution) (clock : Time) : Time :=
  clock + execution.leasedAfter + execution.startedAfter +
    execution.handledAfter

/-- The branch `handle` takes for a job that waited at this time. -/
def disposition
    (execution : Execution)
    (clock : Time)
    (job : Job) : Disposition :=
  ResultHandler.disposeAt execution.retryAt job execution.result
    (execution.handledAt clock)

/-- After `lease_job` and `set_running`. -/
def started
    (config : Config)
    (id : Uuid)
    (before : Shared)
    (execution : Execution) : Shared :=
  let leasing := before.tick execution.leasedAfter
  let leased :=
    leasing.update
      (JobRepository.leaseJob leasing.clock id config.leaseDurationSecs)
  let starting := leased.tick execution.startedAfter
  starting.update (JobRepository.setRunning starting.clock id)

/-- After the first write of `handle`. -/
def settled
    (config : Config)
    (id : Uuid)
    (before : Shared)
    (execution : Execution)
    (job : Job) : Shared :=
  let handling :=
    (execution.started config id before).tick execution.handledAfter
  let settling := handling.tick execution.settledAfter
  settling.update
    (ResultHandler.dispositionUpdate settling.clock id
      (ResultHandler.disposeAt execution.retryAt job execution.result
        handling.clock))

/-- The job as `lease_job` hands it out. -/
def leased?
    (config : Config)
    (id : Uuid)
    (before : Shared)
    (execution : Execution) : Option Job :=
  let leasing := before.tick execution.leasedAfter
  leasing.jobs.returning
    (JobRepository.leaseJob leasing.clock id config.leaseDurationSecs)

/-- What a handler that has returned leaves behind. -/
def returned? : LoneWorker → Option Shared
  | (after, .finishing) => some after
  | _ => none

theorem returned?_eq_some
    {worker : LoneWorker}
    {after : Shared}
    (returned : returned? worker = some after) :
    worker = (after, .finishing) := by
  unfold returned? at returned
  split at returned
  · cases returned
    rfl
  · cases returned

/-- A whole attempt, to the return of `handle`. -/
def attempt?
    (config : Config)
    (externals : Externals)
    (id : Uuid)
    (before : Shared)
    (execution : Execution) : Option Shared :=
  (execution.leased? config id before).bind fun job =>
    let worker : LoneWorker :=
      (execution.settled config id before job,
        .afterSettle job (execution.disposition before.clock job))
    (TransitionSystem.replay? (LoneWorker.step? config externals)
      LoneWorker.Concludes worker execution.rest).bind returned?

end Execution

/-! ## The row of the job -/

section Attempt

variable {config : Config}
variable {externals : Externals}
variable {id : Uuid}
variable {before after : Shared}
variable {execution : Execution}
variable {row : Job}

theorem Execution.leased?_eq_some
    {job : Job}
    (leased : execution.leased? config id before = some job) :
    ∃ row ∈ before.jobs.rows,
      row.id = id ∧ row.state = .scheduled ∧
        job =
          (JobRepository.leaseJob (before.tick execution.leasedAfter).clock
            id config.leaseDurationSecs).assign row := by
  obtain ⟨row, member, applies, isJob⟩ :=
    RecordTable.returning_eq_some leased
  simp only [JobRepository.leaseJob, Bool.and_eq_true, beq_iff_eq]
    at applies
  exact ⟨row, member, applies.1, applies.2, isJob⟩

/-- `lease_job` hands out a row that is SCHEDULED. -/
theorem Execution.leased?_of_scheduled
    (member : row ∈ before.jobs.rows)
    (sameId : row.id = id)
    (scheduled : row.state = .scheduled) :
    execution.leased? config id before =
      some
        ((JobRepository.leaseJob (before.tick execution.leasedAfter).clock
          id config.leaseDurationSecs).assign row) := by
  have keyed :
      ∀ other,
        (JobRepository.leaseJob (before.tick execution.leasedAfter).clock
            id config.leaseDurationSecs).applies other = true →
          JobIdentity.id other.identity = id := by
    intro other applies
    simp only [JobRepository.leaseJob, Bool.and_eq_true, beq_iff_eq]
      at applies
    exact applies.1
  have found :
      before.jobs.rows.find?
          (JobRepository.leaseJob
            (before.tick execution.leasedAfter).clock id
            config.leaseDurationSecs).applies =
        some row :=
    (RecordTable.find?_keyed_eq_some_iff keyed).mpr
      ⟨member, by simp [JobRepository.leaseJob, sameId, scheduled]⟩
  exact Option.map_eq_some_iff.mpr ⟨row, found, rfl⟩

/-- What the attempt has made of a row when its first write is done. -/
structure SettledRow
    (row current : Job)
    (disposition : Disposition) : Prop where
  identity : current.identity = row.identity
  state : current.state = disposition.state
  attemptCount :
    current.attemptCount = disposition.attempts row.attemptCount

/-- The three statements of an attempt, one after the other, on its row. -/
theorem Execution.settled_row
    (config : Config)
    (execution : Execution)
    (job : Job)
    (member : row ∈ before.jobs.rows)
    (sameId : row.id = id)
    (scheduled : row.state = .scheduled) :
    ∃ current ∈ (execution.settled config id before job).jobs.rows,
      SettledRow row current (execution.disposition before.clock job) := by
  let leasing := before.tick execution.leasedAfter
  let lease :=
    JobRepository.leaseJob leasing.clock id config.leaseDurationSecs
  let begin :=
    JobRepository.setRunning
      ((leasing.update lease).tick execution.startedAfter).clock id
  let settling :=
    ((execution.started config id before).tick
      execution.handledAfter).tick execution.settledAfter
  let disposition := execution.disposition before.clock job
  let settle :=
    ResultHandler.dispositionUpdate settling.clock id disposition
  have leased : lease.image row = lease.assign row :=
    RowUpdate.image_of_applies
      (by simp [lease, JobRepository.leaseJob, sameId, scheduled])
  have begun :
      begin.image (lease.assign row) = begin.assign (lease.assign row) :=
    RowUpdate.image_of_applies
      (by simp [begin, lease, JobRepository.setRunning,
        JobRepository.leaseJob, sameId])
  have settledHere :
      settle.image (begin.assign (lease.assign row)) =
        settle.assign (begin.assign (lease.assign row)) := by
    refine RowUpdate.image_of_applies ?_
    rw [ResultHandler.dispositionUpdate_applies]
    simp [begin, lease, JobRepository.setRunning, JobRepository.leaseJob,
      sameId]
  refine ⟨settle.assign (begin.assign (lease.assign row)), ?_, ?_⟩
  · refine RecordTable.mem_update.mpr ⟨begin.assign (lease.assign row), ?_,
      settledHere⟩
    refine RecordTable.mem_update.mpr ⟨lease.assign row, ?_, begun⟩
    exact RecordTable.mem_update.mpr ⟨row, member, leased⟩
  · constructor
    · calc
        (settle.assign (begin.assign (lease.assign row))).identity =
            (begin.assign (lease.assign row)).identity :=
          settle.keepsIdentity _
        _ = (lease.assign row).identity := begin.keepsIdentity _
        _ = row.identity := lease.keepsIdentity _
    · exact ResultHandler.dispositionUpdate_assign_state ..
    · change
        ((ResultHandler.dispositionUpdate settling.clock id
            disposition).assign _).attemptCount =
          disposition.attempts row.attemptCount
      cases disposition <;> rfl

/-- The task after the first write is at a spawn of its parent or past it. -/
theorem WorkerTask.spares_afterSettle
    (id : Uuid)
    (job : Job)
    (disposition : Disposition) :
    (WorkerTask.afterSettle job disposition).Spares id := by
  cases disposition with
  | complete =>
      unfold afterSettle
      cases job.parentJobId with
      | some parentId =>
          intro template held
          cases held
      | none =>
          exact trivial
  | expire | deadLetter | retry =>
      exact trivial

/-- A whole attempt leaves its row as its first write did. -/
theorem Execution.attempt?_row
    (member : row ∈ before.jobs.rows)
    (sameId : row.id = id)
    (notTemplate : row.isTemplate = false)
    (attempted :
      execution.attempt? config externals id before = some after) :
    row.state = .scheduled ∧
      ∃ current ∈ after.jobs.rows,
        SettledRow row current (execution.disposition before.clock row) := by
  obtain ⟨job, leased, concluded⟩ := Option.bind_eq_some_iff.mp attempted
  obtain ⟨leasedRow, leasedMember, leasedId, scheduled, rfl⟩ :=
    Execution.leased?_eq_some leased
  obtain rfl :=
    RecordTable.eq_of_primary leasedMember member
      (leasedId.trans sameId.symm)
  refine ⟨scheduled, ?_⟩
  obtain ⟨worker, replayed, returned⟩ :=
    Option.bind_eq_some_iff.mp concluded
  obtain rfl := Execution.returned?_eq_some returned
  obtain ⟨first, firstMember, settledRow⟩ :=
    Execution.settled_row config execution _ member sameId scheduled
  have firstNotTemplate : first.isTemplate = false :=
    (Job.isTemplate_eq_of_identity settledRow.identity).trans notTemplate
  have keeps : LoneWorker.Keeps first (after, .finishing) :=
    LoneWorker.Keeps.run
      ⟨HoldsAttempt.of_mem firstMember,
        WorkerTask.spares_afterSettle first.id _ _⟩
      firstNotTemplate (TransitionSystem.run_of_replay? replayed)
  obtain ⟨current, currentMember, identity, same⟩ := keeps.holds
  exact ⟨current, currentMember, identity.trans settledRow.identity,
    same.state.trans settledRow.state,
    same.attemptCount.trans settledRow.attemptCount⟩

end Attempt

/-! ## Every handler can come to its return -/

namespace LoneWorker

variable {config : Config}
variable {externals : Externals}

/-- From here `handle` can return without a failed call. -/
def CanConclude
    (config : Config)
    (externals : Externals)
    (worker : LoneWorker) : Prop :=
  ∃ timed after,
    TransitionSystem.Run (step? config externals) Concludes worker timed
      (after, .finishing)

theorem CanConclude.of_step
    {worker next : LoneWorker}
    (action : WorkerAction)
    (concludes : action.concludes = true)
    (taken : step? config externals worker (0, action) = some next)
    (later : CanConclude config externals next) :
    CanConclude config externals worker := by
  obtain ⟨timed, after, run⟩ := later
  exact ⟨(0, action) :: timed, after, .cons concludes taken run⟩

theorem canConclude_finishing (shared : Shared) :
    CanConclude config externals (shared, .finishing) :=
  ⟨[], shared, .nil _⟩

/-- The first delivery may succeed. -/
theorem canConclude_emitting
    (shared : Shared)
    (job : Job) :
    CanConclude config externals (shared, .emitting job .loadJob) := by
  have recording :
      ∀ (shared : Shared) (success : Bool) (attempts : Int),
        CanConclude config externals
          (shared, .emitting job (.recordResult success attempts)) :=
    fun shared success attempts =>
      .of_step (.emit .ok) rfl rfl (canConclude_finishing _)
  have planned :
      ∀ (shared : Shared) (progress : EmitProgress),
        (∃ read, progress = WebhookEmitter.planDelivery config read) →
        CanConclude config externals
          (shared, WorkerTask.afterEmit job progress) := by
    rintro shared progress ⟨read, rfl⟩
    unfold WebhookEmitter.planDelivery
    split
    · exact canConclude_finishing _
    · split
      · exact canConclude_finishing _
      · split
        · exact canConclude_finishing _
        · unfold WebhookEmitter.attempt
          split
          · exact .of_step (.posted true) rfl rfl
              (recording _ _ _)
          · exact recording _ _ _
  exact .of_step (.emit .ok) rfl rfl
    (planned _ _ ⟨_, rfl⟩)

section Spawning

variable (shared : Shared) (job template : Job) (nextFire : Time)

private theorem canConclude_returned
    (succeeded : Bool) :
    CanConclude config externals
      (shared, WorkerTask.afterSpawn job (.returned succeeded)) := by
  cases succeeded with
  | true => exact canConclude_emitting shared job
  | false => exact canConclude_finishing shared

private theorem canConclude_notifying :
    CanConclude config externals
      (shared, .spawning job (.notifyOne template)) :=
  .of_step (.spawn .ok) rfl rfl (canConclude_returned _ _ true)

private theorem canConclude_completing :
    CanConclude config externals
      (shared, .spawning job (.completeTemplate template)) :=
  .of_step (.spawn .ok) rfl rfl (canConclude_returned _ _ true)

private theorem canConclude_skipping :
    CanConclude config externals
      (shared, .spawning job (.incrementSkipped template nextFire)) :=
  .of_step (.spawn .ok) rfl rfl (canConclude_returned _ _ true)

private theorem canConclude_incrementing :
    CanConclude config externals
      (shared, .spawning job (.incrementInserted template nextFire)) :=
  .of_step (.spawn .ok) rfl rfl (canConclude_notifying _ _ _)

private theorem canConclude_inserting :
    CanConclude config externals
      (shared, .spawning job (.insertInstance template nextFire)) := by
  cases inserted :
      (shared.tick 0).jobs.insert?
        (JobRepository.instanceRow (shared.tick 0).clock 0 template
          nextFire
          (RecurringService.instanceKey externals template.id
            nextFire)) with
  | some jobs =>
      refine .of_step (.spawn (.inserted 0)) rfl ?_
        (canConclude_incrementing { shared.tick 0 with jobs := jobs } job
          template nextFire)
      simp only [step?, WorkerTask.step?, SpawnCall.step?, inserted,
        Option.map_some, WorkerTask.afterSpawn]
  | none =>
      refine .of_step (.spawn (.inserted 0)) rfl ?_
        (canConclude_returned (shared.tick 0) job false)
      simp only [step?, WorkerTask.step?, SpawnCall.step?, inserted,
        Option.map_some]

private theorem canConclude_searching :
    CanConclude config externals
      (shared, .spawning job (.lookupKey template nextFire)) := by
  cases found :
      JobRepository.getByIdempotencyKey (shared.tick 0).jobs
        (RecurringService.instanceKey externals template.id
          nextFire) with
  | some existing =>
      refine .of_step (.spawn .ok) rfl ?_
        (canConclude_returned (shared.tick 0) job true)
      simp only [step?, WorkerTask.step?, SpawnCall.step?, found,
        Option.map_some]
  | none =>
      refine .of_step (.spawn .ok) rfl ?_
        (canConclude_inserting (shared.tick 0) job template nextFire)
      simp only [step?, WorkerTask.step?, SpawnCall.step?, found,
        Option.map_some, WorkerTask.afterSpawn]

private theorem canConclude_counting :
    CanConclude config externals
      (shared, .spawning job (.countSiblings template nextFire)) := by
  by_cases busy :
      0 < JobRepository.countActiveSiblings (shared.tick 0).jobs
            template.id template.concurrencyPolicy ∧
        template.concurrencyPolicy ≠ .allow
  · refine .of_step (.spawn .ok) rfl ?_
      (canConclude_skipping (shared.tick 0) job template nextFire)
    simp only [step?, WorkerTask.step?, SpawnCall.step?, if_pos busy,
      Option.map_some, WorkerTask.afterSpawn]
  · refine .of_step (.spawn .ok) rfl ?_
      (canConclude_searching (shared.tick 0) job template nextFire)
    simp only [step?, WorkerTask.step?, SpawnCall.step?, if_neg busy,
      Option.map_some, WorkerTask.afterSpawn]

end Spawning

/-- Every call of a spawn may go through. -/
theorem canConclude_spawning
    (shared : Shared)
    (job : Job)
    (templateId : Uuid)
    (lastScheduledAt : Time) :
    CanConclude config externals
      (shared,
        .spawning job (.readTemplate templateId lastScheduledAt)) := by
  refine .of_step (.spawn .ok) rfl rfl ?_
  cases planned :
      RecurringService.planSpawn externals lastScheduledAt
        (JobRepository.getJobByIdInternal (shared.tick 0).jobs
          templateId) with
  | next call =>
      obtain ⟨template, _, _, _, _, rfl | ⟨nextFire, rfl⟩⟩ :=
        RecurringService.planSpawn_eq_next planned
      · exact canConclude_completing _ _ _
      · exact canConclude_counting _ _ _ _
  | returned succeeded =>
      exact canConclude_returned _ _ succeeded

theorem canConclude_afterSettle
    (shared : Shared)
    (job : Job)
    (disposition : Disposition) :
    CanConclude config externals
      (shared, .afterSettle job disposition) := by
  cases disposition with
  | complete =>
      unfold WorkerTask.afterSettle
      cases job.parentJobId with
      | some parentId => exact canConclude_spawning _ _ _ _
      | none => exact canConclude_emitting _ _
  | expire | deadLetter =>
      exact canConclude_emitting _ _
  | retry retryAt attempt =>
      exact .of_step .notifyOne rfl rfl (canConclude_finishing _)

end LoneWorker

/-- A SCHEDULED job can be attempted once more, whatever comes out of it. -/
theorem Execution.exists_attempt?
    {config : Config}
    {externals : Externals}
    {id : Uuid}
    {before : Shared}
    {row : Job}
    (execution : Execution)
    (member : row ∈ before.jobs.rows)
    (sameId : row.id = id)
    (scheduled : row.state = .scheduled) :
    ∃ rest after,
      ({ execution with rest := rest } : Execution).attempt? config
        externals id before = some after := by
  let job :=
    (JobRepository.leaseJob (before.tick execution.leasedAfter).clock id
      config.leaseDurationSecs).assign row
  have canConclude :
      LoneWorker.CanConclude config externals
        (execution.settled config id before job,
          .afterSettle job (execution.disposition before.clock job)) :=
    LoneWorker.canConclude_afterSettle _ _ _
  obtain ⟨rest, after, run⟩ := canConclude
  refine ⟨rest, after, ?_⟩
  have leased :
      ({ execution with rest := rest } : Execution).leased? config id
          before =
        some job :=
    Execution.leased?_of_scheduled member sameId scheduled
  have replayed :
      TransitionSystem.replay? (LoneWorker.step? config externals)
          LoneWorker.Concludes
          (execution.settled config id before job,
            .afterSettle job (execution.disposition before.clock job))
          rest =
        some (after, .finishing) :=
    run.replay?_eq
  refine Option.bind_eq_some_iff.mpr ⟨job, leased, ?_⟩
  exact Option.bind_eq_some_iff.mpr ⟨_, replayed, rfl⟩

end Kronkeeper
