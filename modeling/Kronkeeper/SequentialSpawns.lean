import Kronkeeper.SequentialAttempts
import Kronkeeper.SpawnEffect

namespace Kronkeeper

/-!
# One spawn after the other

The handler of a successful instance spawns the next one while nothing else
runs and no call fails.  What it leaves of the table is what the effect of its
spawn leaves, up to the delivery of the webhook.
-/

/-- The id that an `INSERT` of a spawn generates. -/
def WorkerAction.generatedId? : WorkerAction → Option Uuid
  | .spawn (.inserted id) => some id
  | _ => none

/-- No row has an id that is generated. -/
def GeneratesNewIds
    (jobs : JobTable)
    (timed : List (Nat × WorkerAction)) : Prop :=
  ∀ step ∈ timed, ∀ id ∈ step.2.generatedId?,
    ∀ row ∈ jobs.rows, row.id ≠ id

instance
    (jobs : JobTable)
    (timed : List (Nat × WorkerAction)) :
    Decidable (GeneratesNewIds jobs timed) :=
  -- Searched for, the instance would run through all ids there can be.
  decidable_of_iff
    (timed.all fun step =>
        step.2.generatedId?.all fun id =>
          jobs.rows.all fun row => row.id != id)
    (by simp [GeneratesNewIds, Option.all_eq_true])

section Spawning

open RecurringService

variable {config : Config}
variable {externals : Externals}
variable {jobs : JobTable}
variable {templateId : Uuid}
variable {lastScheduledAt : Time}
variable {left : JobTable → Prop}

/-- A handler in its spawn, or past it with this left of the table. -/
inductive Spawns
    (externals : Externals)
    (jobs : JobTable)
    (templateId : Uuid)
    (lastScheduledAt : Time)
    (left : JobTable → Prop) : LoneWorker → Prop where
  | spawning
      (shared : Shared)
      (job : Job)
      (call : SpawnCall)
      (stands :
        SpawnStands externals jobs templateId lastScheduledAt call
          shared.jobs) :
      Spawns externals jobs templateId lastScheduledAt left
        (shared, .spawning job call)
  | emitting
      (shared : Shared)
      (job : Job)
      (call : EmitCall)
      (isLeft : left shared.jobs) :
      Spawns externals jobs templateId lastScheduledAt left
        (shared, .emitting job call)
  | finishing
      (shared : Shared)
      (isLeft : left shared.jobs) :
      Spawns externals jobs templateId lastScheduledAt left
        (shared, .finishing)

/-- The instance that comes next has a new key, and its id is new. -/
theorem SpawnStands.fresh
    {shared : Shared}
    {template : Job}
    {nextFire : Time}
    {id : Uuid}
    (stands :
      SpawnStands externals jobs templateId lastScheduledAt
        (.insertInstance template nextFire) shared.jobs)
    (newId : ∀ row ∈ jobs.rows, row.id ≠ id) :
    shared.jobs.Fresh
      (JobRepository.instanceRow shared.clock id template nextFire
        (instanceKey externals template.id nextFire)) := by
  generalize isTable : shared.jobs = current at stands ⊢
  cases stands with
  | inserting _ _ isEffect =>
      have decides :
          SpawnDecides externals jobs templateId lastScheduledAt
            (spawnEffect externals jobs templateId lastScheduledAt) :=
        spawnDecides
      rw [isEffect] at decides
      cases decides with
      | inserts _ _ read planned free isNew =>
          exact ⟨newId, RecordTable.findUnique?_eq_none_iff.mp isNew⟩

/-- No answer of a flawless call is an error. -/
theorem SpawnStands.failure?_eq_none
    {shared : Shared}
    {call : SpawnCall}
    {reply : Reply}
    (stands :
      SpawnStands externals jobs templateId lastScheduledAt call
        shared.jobs)
    (succeeded : reply.succeeded = true)
    (newId :
      ∀ id, reply = .inserted id → ∀ row ∈ jobs.rows, row.id ≠ id) :
    call.failure? externals shared reply = none := by
  cases reply with
  | error message =>
      cases succeeded
  | ok =>
      cases call <;> rfl
  | inserted id =>
      cases call with
      | insertInstance template nextFire =>
          exact if_pos (stands.fresh (newId id rfl))
      | _ =>
          rfl

/-- One step of the handler. -/
theorem Spawns.step
    {worker next : LoneWorker}
    {timed : Nat × WorkerAction}
    (spawns :
      Spawns externals jobs templateId lastScheduledAt left worker)
    (leaves :
      ∀ after succeeded,
        SpawnLeaves externals jobs
            (spawnEffect externals jobs templateId lastScheduledAt) none
            after succeeded →
          left after)
    (recorded :
      ∀ table now id success attempts, left table →
        left (table.update
          (JobRepository.updateWebhookResult now id success attempts)))
    (newIds : GeneratesNewIds jobs [timed])
    (concludes : worker.Concludes timed)
    (taken : LoneWorker.step? config externals worker timed = some next) :
    Spawns externals jobs templateId lastScheduledAt left next := by
  obtain ⟨elapsed, action⟩ := timed
  cases spawns with
  | spawning shared job call stands =>
      cases action with
      | spawn reply =>
          have standsLater :
              SpawnStands externals jobs templateId lastScheduledAt call
                (shared.tick elapsed).jobs :=
            stands
          obtain ⟨⟨after, progress⟩, called, rfl⟩ :=
            Option.map_eq_some_iff.mp taken
          have noFailure :=
            standsLater.failure?_eq_none concludes fun id isInsert =>
              newIds _ (.head _) id (by rw [isInsert]; rfl)
          have reaches := standsLater.step called
          rw [noFailure] at reaches
          cases progress with
          | next nextCall =>
              exact .spawning after job nextCall reaches
          | returned succeeded =>
              have isLeft := leaves _ _ reaches
              cases succeeded with
              | true => exact .emitting after job .loadJob isLeft
              | false => exact .finishing after isLeft
      | _ =>
          cases taken
  | finishing shared isLeft =>
      cases action with
      | deactivate => cases concludes
      | _ => cases taken
  | emitting shared job call isLeft =>
      obtain ⟨later, nextTask⟩ := next
      cases WorkerTask.move_of_step? taken with
      | emit job call reply progress =>
          cases progress with
          | next nextCall => exact .emitting _ _ _ isLeft
          | returned => exact .finishing _ isLeft
      | post job call delivered progress =>
          cases progress with
          | next nextCall => exact .emitting _ _ _ isLeft
          | returned => exact .finishing _ isLeft
      | record job success attempts =>
          exact .finishing _ (recorded _ _ _ _ _ isLeft)

/-- The handler to its return. -/
theorem Spawns.run
    {worker final : LoneWorker}
    {timed : List (Nat × WorkerAction)}
    (spawns :
      Spawns externals jobs templateId lastScheduledAt left worker)
    (leaves :
      ∀ after succeeded,
        SpawnLeaves externals jobs
            (spawnEffect externals jobs templateId lastScheduledAt) none
            after succeeded →
          left after)
    (recorded :
      ∀ table now id success attempts, left table →
        left (table.update
          (JobRepository.updateWebhookResult now id success attempts)))
    (newIds : GeneratesNewIds jobs timed)
    (run :
      TransitionSystem.Run (LoneWorker.step? config externals)
        LoneWorker.Concludes worker timed final) :
    Spawns externals jobs templateId lastScheduledAt left final := by
  induction run with
  | nil worker =>
      exact spawns
  | cons concludes taken _ inductionHypothesis =>
      obtain ⟨newId, newLater⟩ := List.forall_mem_cons.mp newIds
      have next :=
        spawns.step leaves recorded
          (List.forall_mem_singleton.mpr newId) concludes taken
      exact inductionHypothesis next newLater

end Spawning

/-! ## The first write of a success -/

section FirstWrite

variable {config : Config}
variable {before : Shared}
variable {execution : Execution}

/-- A row through the lease, the start and the completion of a job. -/
def completedImage
    (config : Config)
    (id : Uuid)
    (leasedAt startedAt settledAt : Time)
    (row : Job) : Job :=
  (JobRepository.setCompleted settledAt id).image
    ((JobRepository.setRunning startedAt id).image
      ((JobRepository.leaseJob leasedAt id config.leaseDurationSecs).image
        row))

theorem completedImage_identity
    (config : Config)
    (id : Uuid)
    (leasedAt startedAt settledAt : Time)
    (row : Job) :
    (completedImage config id leasedAt startedAt settledAt row).identity =
      row.identity :=
  ((RowUpdate.identity_image _ _).trans
    (RowUpdate.identity_image _ _)).trans (RowUpdate.identity_image _ _)

/-- Other rows stay as they are. -/
theorem completedImage_of_ne
    {id : Uuid}
    {row : Job}
    (isOther : row.id ≠ id)
    (config : Config)
    (leasedAt startedAt settledAt : Time) :
    completedImage config id leasedAt startedAt settledAt row = row := by
  have leased :
      (JobRepository.leaseJob leasedAt id config.leaseDurationSecs).image
          row = row :=
    RowUpdate.image_of_not_applies
      (by simp [JobRepository.leaseJob, isOther])
  have begun : (JobRepository.setRunning startedAt id).image row = row :=
    RowUpdate.image_of_not_applies
      (by simp [JobRepository.setRunning, isOther])
  have ended : (JobRepository.setCompleted settledAt id).image row = row :=
    RowUpdate.image_of_not_applies
      (by simp [JobRepository.setCompleted, isOther])
  simp only [completedImage, leased, begun, ended]

/-- The row of the job ends up COMPLETED. -/
theorem completedImage_state
    {row : Job}
    (scheduled : row.state = .scheduled)
    (config : Config)
    (leasedAt startedAt settledAt : Time) :
    (completedImage config row.id leasedAt startedAt settledAt row).state =
      .completed := by
  have leased :
      (JobRepository.leaseJob leasedAt row.id
          config.leaseDurationSecs).image row =
        (JobRepository.leaseJob leasedAt row.id
          config.leaseDurationSecs).assign row :=
    RowUpdate.image_of_applies (by simp [JobRepository.leaseJob, scheduled])
  rw [completedImage, leased, RowUpdate.image_of_applies,
    RowUpdate.image_of_applies]
  · rfl
  · simp [JobRepository.setRunning, JobRepository.leaseJob]
  · simp [JobRepository.setCompleted, RowUpdate.image,
      JobRepository.setRunning, JobRepository.leaseJob]

/-- What a success has made of the table when its spawn begins. -/
theorem Execution.settled_rows_of_success
    (config : Config)
    (id : Uuid)
    (before : Shared)
    (job : Job)
    (succeeded : execution.result.success = true) :
    ∃ leasedAt startedAt settledAt,
      (execution.settled config id before job).jobs.rows =
        before.jobs.rows.map
          (completedImage config id leasedAt startedAt settledAt) := by
  have completes :
      ∀ now,
        ResultHandler.disposeAt execution.retryAt job execution.result
          now = .complete :=
    fun now => if_pos succeeded
  have written :
      ∃ leasedAt startedAt settledAt,
        (execution.settled config id before job).jobs =
          ((before.jobs.update
              (JobRepository.leaseJob leasedAt id
                config.leaseDurationSecs)).update
            (JobRepository.setRunning startedAt id)).update
              (JobRepository.setCompleted settledAt id) := by
    rw [settled, completes]
    exact ⟨_, _, _, rfl⟩
  obtain ⟨leasedAt, startedAt, settledAt, isTable⟩ := written
  refine ⟨leasedAt, startedAt, settledAt, ?_⟩
  rw [isTable]
  simp only [RecordTable.update, List.map_map]
  rfl

/-- Whether a key is in use is the same before and after a first write. -/
theorem Execution.settled_findUnique?_eq_none_iff
    (config : Config)
    (id : Uuid)
    (before : Shared)
    (job : Job)
    (succeeded : execution.result.success = true)
    (key : String) :
    (execution.settled config id before job).jobs.findUnique? key = none ↔
      before.jobs.findUnique? key = none := by
  obtain ⟨leasedAt, startedAt, settledAt, isTable⟩ :=
    Execution.settled_rows_of_success config id before job succeeded
  simp only [RecordTable.findUnique?_eq_none_iff, isTable, List.mem_map,
    forall_exists_index, and_imp, forall_apply_eq_imp_iff₂,
    completedImage_identity]

/-- So is whether an id is. -/
theorem GeneratesNewIds.settled
    {timed : List (Nat × WorkerAction)}
    (newIds : GeneratesNewIds before.jobs timed)
    (id : Uuid)
    (job : Job)
    (succeeded : execution.result.success = true) :
    GeneratesNewIds (execution.settled config id before job).jobs
      timed := by
  obtain ⟨leasedAt, startedAt, settledAt, isTable⟩ :=
    Execution.settled_rows_of_success config id before job succeeded
  intro step isStep generated isGenerated row member
  rw [isTable] at member
  obtain ⟨old, oldMember, rfl⟩ := List.mem_map.mp member
  rw [Job.id_eq_of_identity (completedImage_identity ..)]
  exact newIds step isStep generated isGenerated old oldMember

end FirstWrite

end Kronkeeper
