import Kronkeeper.RowEncoding

namespace Kronkeeper

/-!
# Runs over stored rows

The statement each step of a task sends to the database, with what it binds.
Run on stored rows beside a run of the daemon, the statements keep the stored
table the encoding of the model's table.
-/

variable {Json : Type}

/-- The statement is the `INSERT` of the stored row of a job. -/
def Builds
    (serde : Serde Json)
    (now : Time)
    (statement : Statement Json)
    (row : Job) : Prop :=
  ∃ id columns binds,
    statement = .insert id columns binds ∧
      insertedRow now id columns binds = encode serde row

section Inserts

variable (serde : Serde Json) (now : Time) (id : Uuid)

/-- What is bound and what the table adds make up the row of the model. -/
theorem builds_insertJob
    (clientId : Uuid)
    (req : CreateJobRequest)
    (isTemplate isRecurring : Bool)
    (cronExpr : Option String)
    (nextInstanceAt : Option Time)
    (maxOccurrences : Option Int)
    (recurrenceEndAt : Option Time)
    (concurrencyPolicy : ConcurrencyPolicy)
    (parentJobId : Option Uuid)
    (scheduledAt : Time) :
    Builds serde now
      (StoredRepository.insertJob serde id clientId req isTemplate
        isRecurring cronExpr nextInstanceAt maxOccurrences
        recurrenceEndAt concurrencyPolicy parentJobId scheduledAt)
      (JobRepository.newRow now id clientId req isTemplate isRecurring
        cronExpr nextInstanceAt maxOccurrences recurrenceEndAt
        concurrencyPolicy parentJobId scheduledAt) := by
  refine ⟨_, _, _, rfl, ?_⟩
  funext column
  cases column <;> rfl

theorem builds_insertInstance
    (template : Job)
    (scheduledAt : Time)
    (idempotencyKey : String) :
    Builds serde now
      (StoredRepository.insertInstance serde id template scheduledAt
        idempotencyKey)
      (JobRepository.instanceRow now id template scheduledAt
        idempotencyKey) :=
  builds_insertJob ..

end Inserts

/--
Run the statement a step sends, if it sends one.  A violated uniqueness is an
error for the caller and leaves the table as it was.
-/
def runStatement?
    (now : Time)
    (statement? : Option (Statement Json))
    (table : List (StoredRow Json)) : Option (List (StoredRow Json)) :=
  match statement? with
  | none => some table
  | some statement =>
      match statement.run now table with
      | .ok after => some after
      | .error .unique => some table
      | .error _ => none

/-- The statement takes the stored form of one table to that of another. -/
def Carries
    (serde : Serde Json)
    (now : Time)
    (statement? : Option (Statement Json))
    (before after : JobTable) : Prop :=
  runStatement? now statement? (before.rows.map (encode serde)) =
    some (after.rows.map (encode serde))

namespace Carries

variable {serde : Serde Json}
variable {now : Time}
variable {jobs after : JobTable}

theorem none :
    Carries serde now none jobs jobs :=
  rfl

theorem update
    {stored : StoredUpdate Json}
    {change : JobUpdate}
    (represents : Represents serde stored change) :
    Carries serde now (some (.update stored)) jobs
      (jobs.update change) := by
  simp only [Carries, runStatement?, represents.run now jobs]

/-- An `UPDATE` that finds no row leaves the stored table as it was. -/
theorem spared
    {stored : StoredUpdate Json}
    {change : JobUpdate}
    (represents : Represents serde stored change)
    (spares : ∀ row ∈ jobs.rows, change.applies row = false) :
    Carries serde now (some (.update stored)) jobs jobs := by
  have carried : Carries serde now (some (.update stored)) jobs
      (jobs.update change) := update represents
  rwa [RecordTable.update_eq_self spares] at carried

/-- A row collides with a stored one exactly where the model refuses it. -/
theorem any_collides_iff
    (jobs : JobTable)
    (row : Job) :
    (jobs.rows.map (encode serde)).any (collides (encode serde row)) =
        true ↔
      ¬jobs.Fresh row := by
  rw [List.any_eq_true]
  constructor
  · rintro ⟨stored, member, collision⟩ fresh
    obtain ⟨old, oldMember, rfl⟩ := List.mem_map.mp member
    rw [collides_encode, Bool.or_eq_true, beq_iff_eq, beq_iff_eq]
      at collision
    rcases collision with sameId | sameKey
    · exact fresh.1 old oldMember sameId.symm
    · exact fresh.2 old oldMember sameKey.symm
  · intro stale
    by_contra apart
    refine stale ⟨?_, ?_⟩
    all_goals
      intro old member same
      refine apart ⟨encode serde old, List.mem_map_of_mem member, ?_⟩
      rw [collides_encode, Bool.or_eq_true, beq_iff_eq, beq_iff_eq]
    · exact Or.inl same.symm
    · exact Or.inr same.symm

/-- An `INSERT` is refused for uniqueness exactly where the model's is. -/
theorem run_insert
    {statement : Statement Json}
    {row : Job}
    (builds : Builds serde now statement row) :
    statement.run now (jobs.rows.map (encode serde)) =
      (jobs.insert? row).elim (.error .unique) fun after =>
        .ok (after.rows.map (encode serde)) := by
  obtain ⟨id, columns, binds, rfl, isRow⟩ := builds
  cases inserted : jobs.insert? row with
  | some after =>
      obtain ⟨fresh, rows⟩ := RecordTable.insert?_eq_some_iff.mp inserted
      have apart :
          ¬(jobs.rows.map (encode serde)).any
              (collides (encode serde row)) =
            true :=
        fun collision => (any_collides_iff jobs row).mp collision fresh
      simp only [Statement.run, isRow, violation?_encode, if_neg apart,
        rows, List.map_append, List.map_singleton, Option.elim_some]
  | none =>
      have collision :
          (jobs.rows.map (encode serde)).any
              (collides (encode serde row)) =
            true :=
        (any_collides_iff jobs row).mpr
          (RecordTable.insert?_eq_none_iff.mp inserted)
      simp only [Statement.run, isRow, violation?_encode, collision,
        if_true, Option.elim_none]

/-- The `INSERT` of the stored row of a job, into a table that takes it. -/
theorem insert
    {statement : Statement Json}
    {row : Job}
    (builds : Builds serde now statement row)
    (inserted : jobs.insert? row = some after) :
    Carries serde now (some statement) jobs after := by
  simp only [Carries, runStatement?, run_insert builds, inserted,
    Option.elim_some]

/-- The same into a table that refuses it. -/
theorem refused
    {statement : Statement Json}
    {row : Job}
    (builds : Builds serde now statement row)
    (refuses : jobs.insert? row = Option.none) :
    Carries serde now (some statement) jobs jobs := by
  simp only [Carries, runStatement?, run_insert builds, refuses,
    Option.elim_none]

end Carries

/-! ## What the tasks send -/

section Tasks

variable (serde : Serde Json)

namespace SpawnCall

/-- The statement of one call of `spawn_next_instance`. -/
def statement?
    (externals : Externals)
    (now : Time) : SpawnCall → Reply → Option (Statement Json)
  | .completeTemplate template, .ok =>
      some (.update (StoredRepository.completeTemplate now template.id))
  | .incrementSkipped template nextFire, .ok =>
      some
        (.update
          (StoredRepository.incrementTemplateOccurrences now template.id
            (some nextFire)))
  | .insertInstance template nextFire, .inserted id =>
      some
        (StoredRepository.insertInstance serde id template nextFire
          (RecurringService.instanceKey externals template.id nextFire))
  | .incrementInserted template nextFire, .ok =>
      some
        (.update
          (StoredRepository.incrementTemplateOccurrences now template.id
            (some nextFire)))
  | _, _ => none

theorem carries_of_step?
    {externals : Externals}
    {shared after : Shared}
    {call : SpawnCall}
    {reply : Reply}
    {progress : SpawnProgress}
    (taken : call.step? externals reply shared = some (after, progress)) :
    Carries serde shared.clock
      (call.statement? serde externals shared.clock reply)
      shared.jobs after.jobs := by
  cases move_of_step? taken with
  | complete template =>
      exact .update (represents_completeTemplate ..)
  | skip template nextFire =>
      exact .update (represents_incrementTemplateOccurrences ..)
  | increment template nextFire =>
      exact .update (represents_incrementTemplateOccurrences ..)
  | insert template nextFire id jobs inserted =>
      exact .insert (builds_insertInstance ..) inserted
  | duplicate template nextFire id refused =>
      exact .refused (builds_insertInstance ..) refused
  | fails call message =>
      cases call <;> exact .none
  | _ =>
      exact .none

end SpawnCall

namespace StoredRepository

/-- The statement behind the first write of `handle`. -/
def dispositionUpdate
    (now : Time)
    (id : Uuid) : Disposition → StoredUpdate Json
  | .complete => setCompleted now id
  | .expire => setState now id .expired
  | .deadLetter => setState now id .deadLetter
  | .retry retryAt attempt => scheduleRetry now id retryAt attempt

end StoredRepository

theorem represents_dispositionUpdate
    (now : Time)
    (id : Uuid)
    (disposition : Disposition) :
    Represents serde
      (StoredRepository.dispositionUpdate now id disposition)
      (ResultHandler.dispositionUpdate now id disposition) := by
  cases disposition with
  | complete =>
      exact represents_setCompleted ..
  | expire =>
      exact represents_setState ..
  | deadLetter =>
      exact represents_setState ..
  | retry retryAt attempt =>
      exact represents_scheduleRetry ..

namespace WorkerTask

/-- The statement of one step of a worker. -/
def statement?
    (config : Config)
    (externals : Externals)
    (now : Time) : WorkerTask → WorkerAction → Option (Statement Json)
  | .starting job, .setRunning .ok =>
      some (.update (StoredRepository.setRunning now job.id))
  | .handling job result handledAt, .settle .ok =>
      (ResultHandler.dispose? config job result handledAt).map
        fun disposition =>
          .update
            (StoredRepository.dispositionUpdate now job.id disposition)
  | .spawning _ call, .spawn reply =>
      call.statement? serde externals now reply
  | .emitting job (.recordResult success attempts), .emit .ok =>
      some
        (.update
          (StoredRepository.updateWebhookResult now job.id success
            attempts))
  | _, _ => none

theorem carries_of_step?
    {config : Config}
    {externals : Externals}
    {shared after : Shared}
    {task next : WorkerTask}
    {action : WorkerAction}
    (taken :
      task.step? config externals shared action = some (after, next)) :
    Carries serde shared.clock
      (task.statement? serde config externals shared.clock action)
      shared.jobs after.jobs := by
  unfold step? at taken
  split at taken
  · split at taken
    · cases taken
    · cases taken
      exact .none
  · cases taken
    exact .none
  · cases taken
    exact .none
  · cases taken
    exact .update (represents_setRunning ..)
  · cases taken
    exact .none
  · split at taken
    · split at taken
      · cases taken
        exact .none
      · cases taken
        exact .none
    · cases taken
  · rename_i job result handledAt reply
    split at taken
    · rename_i panics
      cases taken
      cases reply <;> simp only [statement?, panics, Option.map_none] <;>
        exact .none
    · rename_i disposition disposed
      split at taken
      · cases taken
        simp only [statement?, disposed, Option.map_some]
        exact .update (represents_dispositionUpdate ..)
      · cases taken
        exact .none
      · cases taken
  · cases taken
    exact .none
  · obtain ⟨⟨shared, progress⟩, spawned, same⟩ :=
      Option.map_eq_some_iff.mp taken
    cases same
    exact SpawnCall.carries_of_step? serde spawned
  · cases taken
    exact .none
  · cases taken
    exact .none
  · cases taken
    exact .none
  · cases taken
    exact .update (represents_updateWebhookResult ..)
  · cases taken
    exact .none
  · cases taken
    exact .none
  · cases taken

end WorkerTask

namespace SchedulerTask

/-- The statement of one step of the scheduler. -/
def statement?
    (config : Config)
    (now : Time) :
    SchedulerPosition → SchedulerAction → Option (Statement Json)
  | .dispatching _, .lease entry .ok =>
      some
        (.update
          (StoredRepository.leaseJob now entry.id
            config.leaseDurationSecs))
  | .returning job, .returnJob .ok =>
      some
        (.update
          (StoredRepository.scheduleRetry now job.id job.scheduledAt
            job.attemptCount))
  | _, _ => none

theorem carries_of_step?
    {config : Config}
    {channelClosed : Bool}
    {shared after : Shared}
    {task next : SchedulerTask}
    {action : SchedulerAction}
    (taken :
      task.step? config channelClosed shared action =
        some (after, next)) :
    Carries serde shared.clock
      (statement? config shared.clock task.position action)
      shared.jobs after.jobs := by
  have moved := move_of_step? taken
  generalize task.position = position at moved
  cases moved with
  | lease now entry job pops leased =>
      exact .update (represents_leaseJob ..)
  | leaseMisses now entry pops missed =>
      exact .spared (represents_leaseJob ..)
        (RecordTable.returning_eq_none_iff.mp missed)
  | giveBack job =>
      exact .update (represents_scheduleRetry ..)
  | _ =>
      exact .none

end SchedulerTask

namespace ReaperTask

/-- The statement of one step of the reaper. -/
def statement?
    (now : Time) : ReaperTask → ReaperAction → Option (Statement Json)
  | .ticking, .reap .ok =>
      some (.update (StoredRepository.reapExpiredLeases now))
  | _, _ => none

theorem carries_of_step?
    {shared after : Shared}
    {task next : ReaperTask}
    {action : ReaperAction}
    (taken : task.step? shared action = some (after, next)) :
    Carries serde shared.clock
      (task.statement? shared.clock action)
      shared.jobs after.jobs := by
  cases move_of_step? taken with
  | reap =>
      exact .update (represents_reapExpiredLeases ..)
  | reapNothing nothing =>
      exact .update (represents_reapExpiredLeases ..)
  | _ =>
      exact .none

end ReaperTask

namespace RequestTask

/-- The statement of one step of `create_job`. -/
def createStatement?
    (externals : Externals)
    (clientId : Uuid)
    (req : CreateJobRequest) :
    CreatePosition → RequestAction → Option (Statement Json)
  | .insertJob, .call (.inserted id) =>
      some
        (StoredRepository.insertJob serde id clientId req false false
          none none none none .queueOnce none req.scheduledAt)
  | .insertTemplate recurrence firstFire, .call (.inserted id) =>
      some
        (StoredRepository.insertJob serde id clientId req true true
          (some recurrence.cronExpr) (some firstFire)
          recurrence.maxOccurrences recurrence.endAt
          recurrence.concurrencyPolicy none req.scheduledAt)
  | .insertInstance template firstFire, .call (.inserted id) =>
      some
        (StoredRepository.insertInstance serde id template firstFire
          (RecurringService.instanceKey externals template.id firstFire))
  | _, _ => none

/-- The statement of one step of `cancel_job`. -/
def cancelStatement?
    (now : Time)
    (clientId id : Uuid) :
    CancelPosition → RequestAction → Option (Statement Json)
  | .cancelJob, .call .ok =>
      some (.update (StoredRepository.cancelJob now id clientId))
  | .cancelTemplate, .call .ok =>
      some (.update (StoredRepository.cancelTemplate now id clientId))
  | .cancelInstances _, .call .ok =>
      some (.update (StoredRepository.cancelInstances now id))
  | _, _ => none

/-- The statement of one step of `patch_job`. -/
def patchStatement?
    (now : Time)
    (clientId id : Uuid)
    (req : PatchJobRequest) :
    PatchPosition → RequestAction → Option (Statement Json)
  | .update, .call .ok =>
      some
        (.update
          (StoredRepository.updateCronExpr now id clientId req.cronExpr))
  | _, _ => none

/-- The statement of one step of an API request. -/
def statement?
    (externals : Externals)
    (now : Time) : RequestTask → RequestAction → Option (Statement Json)
  | .creating clientId req position, action =>
      createStatement? serde externals clientId req position action
  | .cancelling clientId id position, action =>
      cancelStatement? now clientId id position action
  | .patching clientId id req position, action =>
      patchStatement? now clientId id req position action
  | _, _ => none

variable {externals : Externals}
variable {shared after : Shared}
variable {clientId id : Uuid}
variable {action : RequestAction}
variable {next : RequestTask}

theorem carries_of_createStep?
    {req : CreateJobRequest}
    {position : CreatePosition}
    (taken :
      createStep? externals shared clientId req position action =
        some (after, next)) :
    Carries serde shared.clock
      (createStatement? serde externals clientId req position action)
      shared.jobs after.jobs := by
  unfold createStep? at taken
  split at taken
  · split at taken
    · cases taken
      exact .none
    · cases taken
      exact .none
  · dsimp only at taken
    split at taken
    · rename_i jobs inserted
      cases taken
      exact .insert (builds_insertJob ..) inserted
    · rename_i refuses
      cases taken
      exact .refused (builds_insertJob ..) refuses
  · dsimp only at taken
    split at taken
    · rename_i jobs inserted
      cases taken
      exact .insert (builds_insertJob ..) inserted
    · rename_i refuses
      cases taken
      exact .refused (builds_insertJob ..) refuses
  · dsimp only at taken
    split at taken
    · rename_i jobs inserted
      cases taken
      exact .insert (builds_insertInstance ..) inserted
    · rename_i refuses
      cases taken
      exact .refused (builds_insertInstance ..) refuses
  all_goals cases taken
  all_goals exact .none

theorem carries_of_cancelStep?
    {position : CancelPosition}
    (taken :
      cancelStep? shared clientId id position action =
        some (after, next)) :
    Carries serde shared.clock
      (cancelStatement? shared.clock clientId id position action)
      shared.jobs after.jobs := by
  unfold cancelStep? at taken
  split at taken
  · cases taken
    exact .none
  · dsimp only at taken
    split at taken
    · cases taken
      exact .update (represents_cancelJob ..)
    · rename_i unaffected
      cases taken
      rw [RecordTable.affected_pos_iff] at unaffected
      push Not at unaffected
      exact .spared (represents_cancelJob ..) fun row member =>
        Bool.eq_false_iff.mpr (unaffected row member)
  · cases taken
    exact .update (represents_cancelTemplate ..)
  · dsimp only at taken
    split at taken
    · cases taken
      exact .update (represents_cancelInstances ..)
    · cases taken
      exact .update (represents_cancelInstances ..)
  all_goals cases taken
  all_goals exact .none

theorem carries_of_patchStep?
    {req : PatchJobRequest}
    {position : PatchPosition}
    (taken :
      patchStep? shared clientId id req position action =
        some (after, next)) :
    Carries serde shared.clock
      (patchStatement? shared.clock clientId id req position action)
      shared.jobs after.jobs := by
  unfold patchStep? at taken
  split at taken
  · dsimp only at taken
    split at taken
    · cases taken
      exact .update (represents_updateCronExpr ..)
    · rename_i unaffected
      cases taken
      rw [RecordTable.affected_pos_iff] at unaffected
      push Not at unaffected
      exact .spared (represents_updateCronExpr ..) fun row member =>
        Bool.eq_false_iff.mpr (unaffected row member)
  · split at taken
    · cases taken
      exact .none
    · cases taken
      exact .none
  all_goals cases taken
  all_goals exact .none

theorem carries_of_step?
    {task : RequestTask}
    (taken :
      task.step? externals shared action = some (after, next)) :
    Carries serde shared.clock
      (task.statement? serde externals shared.clock action)
      shared.jobs after.jobs := by
  unfold step? at taken
  split at taken
  · cases taken
    exact .none
  · exact carries_of_createStep? serde taken
  · split at taken
    · cases taken
      exact .none
    · cases taken
      exact .none
  · cases taken
    exact .none
  · exact carries_of_cancelStep? serde taken
  · exact carries_of_patchStep? serde taken
  · cases taken

end RequestTask

end Tasks

/-! ## The stored table along a run -/

namespace State

variable {config : Config} {slots : Nat}
variable {externals : Externals}

/-- The statement of one step of the daemon. -/
def statement?
    (serde : Serde Json)
    (externals : Externals)
    (state : State config slots) :
    Action config slots → Option (Statement Json)
  | .scheduler action =>
      SchedulerTask.statement? config state.clock
        state.scheduler.position action
  | .worker worker action =>
      (state.workers worker).statement? serde config externals
        state.clock action
  | .reaper action => state.reaper.statement? state.clock action
  | .api slot action =>
      (state.requests slot).statement? serde externals state.clock action
  | .restart =>
      some (.update (StoredRepository.recoverOnStartup state.clock))
  | .tick _ => none
  | .shutdown => none

theorem carries_of_step?
    {state after : State config slots}
    {action : Action config slots}
    (serde : Serde Json)
    (taken : step? externals state action = some after) :
    Carries serde state.clock (state.statement? serde externals action)
      state.jobs after.jobs := by
  cases action with
  | tick elapsed =>
      cases taken
      exact .none
  | scheduler action =>
      obtain ⟨⟨shared, task⟩, stepped, rfl⟩ :=
        Option.map_eq_some_iff.mp taken
      exact SchedulerTask.carries_of_step? serde stepped
  | worker worker action =>
      obtain ⟨⟨shared, task⟩, stepped, rfl⟩ :=
        Option.map_eq_some_iff.mp taken
      rw [dropClosed_jobs]
      exact WorkerTask.carries_of_step? serde stepped
  | reaper action =>
      obtain ⟨⟨shared, task⟩, stepped, rfl⟩ :=
        Option.map_eq_some_iff.mp taken
      exact ReaperTask.carries_of_step? serde stepped
  | api slot action =>
      obtain ⟨⟨shared, task⟩, stepped, rfl⟩ :=
        Option.map_eq_some_iff.mp taken
      exact RequestTask.carries_of_step? serde stepped
  | shutdown =>
      cases taken
      exact .none
  | restart =>
      cases taken
      exact .update (represents_recoverOnStartup ..)

/-- The stored table after the statements of a run. -/
def storedAfter?
    (serde : Serde Json)
    (externals : Externals) :
    State config slots → List (Action config slots) →
      List (StoredRow Json) → Option (List (StoredRow Json))
  | _, [], table => some table
  | state, action :: rest, table => do
      let next ← step? externals state action
      let table ←
        runStatement? state.clock (state.statement? serde externals action)
          table
      storedAfter? serde externals next rest table

/-- No statement of a run fails, and the stored table encodes the model's. -/
theorem storedAfter?_of_run
    {allowed : State config slots → Action config slots → Prop}
    {initial final : State config slots}
    {actions : List (Action config slots)}
    (serde : Serde Json)
    (run : Run externals allowed initial actions final) :
    storedAfter? serde externals initial actions
        (initial.jobs.rows.map (encode serde)) =
      some (final.jobs.rows.map (encode serde)) := by
  induction run with
  | nil state =>
      rfl
  | cons permitted taken _ inductionHypothesis =>
      have carried := carries_of_step? serde taken
      simp only [storedAfter?, taken, Option.bind_eq_bind,
        Option.bind_some]
      rw [carried, Option.bind_some]
      exact inductionHypothesis

end State

end Kronkeeper
