import Kronkeeper.System

namespace Kronkeeper

/-!
# What one step of a task can do

One inversion theorem per task: a step of the task is one of the listed moves,
with the guard under which it is taken and the state it leads to.  Invariants
are proved by cases on the move and never unfold a step function.
-/

/-! ## The spawn of a next instance -/

namespace SpawnCall

/-- The moves of `spawn_next_instance`. -/
inductive Move
    (externals : Externals)
    (shared : Shared) :
    SpawnCall → Reply → Shared → SpawnProgress → Prop where
  | read (templateId : Uuid) (lastScheduledAt : Time) :
      Move externals shared (.readTemplate templateId lastScheduledAt) .ok
        shared
        (RecurringService.planSpawn externals lastScheduledAt
          (JobRepository.getJobByIdInternal shared.jobs templateId))
  | complete (template : Job) :
      Move externals shared (.completeTemplate template) .ok
        (shared.update
          (JobRepository.completeTemplate shared.clock template.id))
        (.returned true)
  | overlap
      (template : Job)
      (nextFire : Time)
      (active :
        0 < JobRepository.countActiveSiblings shared.jobs template.id
          template.concurrencyPolicy) :
      Move externals shared (.countSiblings template nextFire) .ok
        shared (.next (.incrementSkipped template nextFire))
  | noOverlap (template : Job) (nextFire : Time) :
      Move externals shared (.countSiblings template nextFire) .ok
        shared (.next (.lookupKey template nextFire))
  | skip (template : Job) (nextFire : Time) :
      Move externals shared (.incrementSkipped template nextFire) .ok
        (shared.update
          (JobRepository.incrementTemplateOccurrences shared.clock
            template.id (some nextFire)))
        (.returned true)
  | keyUsed
      (template : Job)
      (nextFire : Time)
      (existing : Job)
      (used :
        JobRepository.getByIdempotencyKey shared.jobs
          (RecurringService.instanceKey externals template.id nextFire) =
            some existing) :
      Move externals shared (.lookupKey template nextFire) .ok
        shared (.returned true)
  | keyFree (template : Job) (nextFire : Time) :
      Move externals shared (.lookupKey template nextFire) .ok
        shared (.next (.insertInstance template nextFire))
  | insert
      (template : Job)
      (nextFire : Time)
      (id : Uuid)
      (jobs : JobTable)
      (inserted :
        shared.jobs.insert?
          (JobRepository.instanceRow shared.clock id template nextFire
            (RecurringService.instanceKey externals template.id
              nextFire)) = some jobs) :
      Move externals shared (.insertInstance template nextFire)
        (.inserted id) { shared with jobs := jobs }
        (.next (.incrementInserted template nextFire))
  | duplicate
      (template : Job)
      (nextFire : Time)
      (id : Uuid)
      (refused :
        shared.jobs.insert?
          (JobRepository.instanceRow shared.clock id template nextFire
            (RecurringService.instanceKey externals template.id
              nextFire)) = none) :
      Move externals shared (.insertInstance template nextFire)
        (.inserted id) shared (.returned false)
  | increment (template : Job) (nextFire : Time) :
      Move externals shared (.incrementInserted template nextFire) .ok
        (shared.update
          (JobRepository.incrementTemplateOccurrences shared.clock
            template.id (some nextFire)))
        (.next (.notifyOne template))
  | announce (template : Job) :
      Move externals shared (.notifyOne template) .ok
        shared.notifyOne (.returned true)
  | fails (call : SpawnCall) (message : String) :
      Move externals shared call (.error message)
        shared (.returned false)

theorem move_of_step?
    {externals : Externals}
    {shared after : Shared}
    {call : SpawnCall}
    {reply : Reply}
    {progress : SpawnProgress}
    (taken :
      call.step? externals reply shared = some (after, progress)) :
    Move externals shared call reply after progress := by
  cases call <;> cases reply <;>
    simp only [step?, Option.some.injEq, Prod.mk.injEq,
      reduceCtorEq] at taken
  case readTemplate.ok =>
    obtain ⟨rfl, rfl⟩ := taken
    exact .read ..
  case completeTemplate.ok =>
    obtain ⟨rfl, rfl⟩ := taken
    exact .complete ..
  case countSiblings.ok =>
    split at taken
    · rename_i busy
      cases taken
      exact .overlap _ _ busy.1
    · cases taken
      exact .noOverlap ..
  case countSiblings.error =>
    split at taken
    · cases taken
    · cases taken
      exact .fails ..
  case incrementSkipped.ok =>
    obtain ⟨rfl, rfl⟩ := taken
    exact .skip ..
  case lookupKey.ok =>
    split at taken
    · rename_i existing used
      cases taken
      exact .keyUsed _ _ existing used
    · cases taken
      exact .keyFree ..
  case insertInstance.inserted =>
    split at taken
    · rename_i jobs inserted
      cases taken
      exact .insert _ _ _ jobs inserted
    · rename_i refused
      cases taken
      exact .duplicate _ _ _ refused
  case incrementInserted.ok =>
    obtain ⟨rfl, rfl⟩ := taken
    exact .increment ..
  case notifyOne.ok =>
    obtain ⟨rfl, rfl⟩ := taken
    exact .announce ..
  all_goals
    obtain ⟨rfl, rfl⟩ := taken
    exact .fails ..

/-- What `spawn_next_instance` requires of the template it has read. -/
structure Reads
    (shared : Shared)
    (templateId : Uuid)
    (template : Job) : Prop where
  member : template ∈ shared.jobs.rows
  sameId : template.id = templateId
  isTemplate : template.isTemplate = true
  isRecurring : template.isRecurring = true
  notCancelled : template.state ≠ .cancelled

/-- The calls of a spawn that follow on each other. -/
inductive Successor
    (externals : Externals)
    (shared : Shared) : SpawnCall → Reply → SpawnCall → Prop where
  | complete
      (templateId : Uuid)
      (lastScheduledAt : Time)
      (template : Job)
      (reads : Reads shared templateId template) :
      Successor externals shared
        (.readTemplate templateId lastScheduledAt) .ok
        (.completeTemplate template)
  | count
      (templateId : Uuid)
      (lastScheduledAt : Time)
      (template : Job)
      (nextFire : Time)
      (reads : Reads shared templateId template)
      (planned :
        RecurringService.planSpawn externals lastScheduledAt
            (some template) =
          .next (.countSiblings template nextFire)) :
      Successor externals shared
        (.readTemplate templateId lastScheduledAt) .ok
        (.countSiblings template nextFire)
  | skip (template : Job) (nextFire : Time) :
      Successor externals shared (.countSiblings template nextFire) .ok
        (.incrementSkipped template nextFire)
  | lookup (template : Job) (nextFire : Time) :
      Successor externals shared (.countSiblings template nextFire) .ok
        (.lookupKey template nextFire)
  | insert (template : Job) (nextFire : Time) :
      Successor externals shared (.lookupKey template nextFire) .ok
        (.insertInstance template nextFire)
  | increment (template : Job) (nextFire : Time) (id : Uuid) :
      Successor externals shared (.insertInstance template nextFire)
        (.inserted id) (.incrementInserted template nextFire)
  | announce (template : Job) (nextFire : Time) :
      Successor externals shared (.incrementInserted template nextFire)
        .ok (.notifyOne template)

theorem Move.successor
    {externals : Externals}
    {shared after : Shared}
    {call next : SpawnCall}
    {reply : Reply}
    (moved : call.Move externals shared reply after (.next next)) :
    Successor externals shared call reply next := by
  generalize reached : SpawnProgress.next next = progress at moved
  cases moved with
  | read templateId lastScheduledAt =>
      obtain ⟨template, found, isTemplate, isRecurring, notCancelled,
        shape⟩ := RecurringService.planSpawn_eq_next reached.symm
      obtain ⟨member, sameId⟩ := RecordTable.find?_eq_some_iff.mp found
      have reads : Reads shared templateId template :=
        ⟨member, sameId, isTemplate, isRecurring, notCancelled⟩
      rcases shape with rfl | ⟨nextFire, rfl⟩
      · exact .complete templateId lastScheduledAt template reads
      · rw [found] at reached
        exact .count templateId lastScheduledAt template nextFire reads
          reached.symm
  | overlap =>
      cases reached
      exact .skip ..
  | noOverlap =>
      cases reached
      exact .lookup ..
  | keyFree =>
      cases reached
      exact .insert ..
  | insert =>
      cases reached
      exact .increment ..
  | increment =>
      cases reached
      exact .announce ..
  | _ =>
      cases reached

/-- A spawn leaves the channel alone. -/
theorem Move.channel_eq
    {externals : Externals}
    {shared after : Shared}
    {call : SpawnCall}
    {reply : Reply}
    {progress : SpawnProgress}
    (moved : call.Move externals shared reply after progress) :
    after.channel = shared.channel := by
  cases moved <;> rfl

/-- A spawn leaves the clock alone. -/
theorem Move.clock_eq
    {externals : Externals}
    {shared after : Shared}
    {call : SpawnCall}
    {reply : Reply}
    {progress : SpawnProgress}
    (moved : call.Move externals shared reply after progress) :
    after.clock = shared.clock := by
  cases moved <;> rfl

end SpawnCall

/-! ## A worker -/

namespace WorkerTask

/-- The moves of a worker. -/
inductive Move
    (config : Config)
    (externals : Externals)
    (shared : Shared) :
    WorkerTask → WorkerAction → Shared → WorkerTask → Prop where
  | receive
      (notified : Bool)
      (job : Job)
      (rest : List Job)
      (queued : shared.channel = job :: rest) :
      Move config externals shared (.idle notified) .recv
        { shared with channel := rest } (.received job)
  | stop :
      Move config externals shared (.idle true) .stop shared .stopped
  | activate (job : Job) :
      Move config externals shared (.received job) .activate
        { shared with active := shared.active + 1 } (.starting job)
  | begin (job : Job) :
      Move config externals shared (.starting job) (.setRunning .ok)
        (shared.update (JobRepository.setRunning shared.clock job.id))
        (.executing job)
  | decline (job : Job) (message : String) :
      Move config externals shared (.starting job)
        (.setRunning (.error message)) shared .finishing
  | execute
      (job : Job)
      (outcome : ExecutionOutcome)
      (result : ExecutionResult)
      (captured : Executor.execute? job.payload outcome = some result) :
      Move config externals shared (.executing job) (.execute outcome)
        shared (.handling job result shared.clock)
  | executePanics
      (job : Job)
      (outcome : ExecutionOutcome)
      (panics : Executor.execute? job.payload outcome = none) :
      Move config externals shared (.executing job) (.execute outcome)
        shared .panicked
  | settle
      (job : Job)
      (result : ExecutionResult)
      (now : Time)
      (disposition : Disposition)
      (disposed :
        ResultHandler.dispose? config job result now =
          some disposition) :
      Move config externals shared (.handling job result now)
        (.settle .ok)
        (shared.update
          (ResultHandler.dispositionUpdate shared.clock job.id
            disposition))
        (afterSettle job disposition)
  | settleFails
      (job : Job)
      (result : ExecutionResult)
      (now : Time)
      (message : String) :
      Move config externals shared (.handling job result now)
        (.settle (.error message)) shared .finishing
  | settlePanics
      (job : Job)
      (result : ExecutionResult)
      (now : Time)
      (reply : Reply)
      (panics :
        ResultHandler.dispose? config job result now = none) :
      Move config externals shared (.handling job result now)
        (.settle reply) shared .panicked
  | announce (job : Job) :
      Move config externals shared (.retried job) .notifyOne
        shared.notifyOne .finishing
  | spawn
      (job : Job)
      (call : SpawnCall)
      (reply : Reply)
      (after : Shared)
      (progress : SpawnProgress)
      (moved : call.Move externals shared reply after progress) :
      Move config externals shared (.spawning job call) (.spawn reply)
        after (afterSpawn job progress)
  | emit
      (job : Job)
      (call : EmitCall)
      (reply : Reply)
      (progress : EmitProgress) :
      Move config externals shared (.emitting job call) (.emit reply)
        shared (afterEmit job progress)
  | post
      (job : Job)
      (call : EmitCall)
      (delivered : Bool)
      (progress : EmitProgress) :
      Move config externals shared (.emitting job call)
        (.posted delivered) shared (afterEmit job progress)
  | record (job : Job) (success : Bool) (attempts : Int) :
      Move config externals shared
        (.emitting job (.recordResult success attempts)) (.emit .ok)
        (shared.update
          (JobRepository.updateWebhookResult shared.clock job.id success
            attempts))
        .finishing
  | deactivate :
      Move config externals shared .finishing .deactivate
        { shared with active := shared.active - 1 } (.idle false)

theorem move_of_step?
    {config : Config}
    {externals : Externals}
    {shared after : Shared}
    {task next : WorkerTask}
    {action : WorkerAction}
    (taken :
      task.step? config externals shared action = some (after, next)) :
    task.Move config externals shared action after next := by
  unfold step? at taken
  split at taken
  · split at taken
    · cases taken
    · rename_i job rest queued
      cases taken
      exact .receive _ job rest queued
  · cases taken
    exact .stop
  · cases taken
    exact .activate _
  · cases taken
    exact .begin _
  · cases taken
    exact .decline ..
  · split at taken
    · split at taken
      · rename_i result captured
        cases taken
        exact .execute _ _ result captured
      · rename_i panics
        cases taken
        exact .executePanics _ _ panics
    · cases taken
  · split at taken
    · rename_i panics
      cases taken
      exact .settlePanics _ _ _ _ panics
    · rename_i disposition disposed
      split at taken
      · cases taken
        exact .settle _ _ _ disposition disposed
      · cases taken
        exact .settleFails ..
      · cases taken
  · cases taken
    exact .announce _
  · obtain ⟨⟨_, progress⟩, spawned, same⟩ :=
      Option.map_eq_some_iff.mp taken
    cases same
    exact .spawn _ _ _ _ progress (SpawnCall.move_of_step? spawned)
  · cases taken
    exact .emit ..
  · cases taken
    exact .emit _ _ _ .returned
  · cases taken
    exact .post ..
  · cases taken
    exact .record ..
  · cases taken
    exact .emit _ _ _ .returned
  · cases taken
    exact .deactivate
  · cases taken

/-- How a worker comes to a call of a spawn. -/
inductive SpawnOrigin
    (config : Config)
    (externals : Externals)
    (shared after : Shared)
    (job : Job)
    (call : SpawnCall) : WorkerTask → WorkerAction → Prop where
  | goesOn
      (previous : SpawnCall)
      (reply : Reply)
      (moved :
        previous.Move externals shared reply after (.next call)) :
      SpawnOrigin config externals shared after job call
        (.spawning job previous) (.spawn reply)
  | begins
      (result : ExecutionResult)
      (now : Time)
      (parentId : Uuid)
      (disposed :
        ResultHandler.dispose? config job result now = some .complete)
      (isChild : job.parentJobId = some parentId)
      (isRead : call = .readTemplate parentId job.scheduledAt) :
      SpawnOrigin config externals shared after job call
        (.handling job result now) (.settle .ok)

theorem Move.spawnOrigin
    {config : Config}
    {externals : Externals}
    {shared after : Shared}
    {task : WorkerTask}
    {action : WorkerAction}
    {job : Job}
    {call : SpawnCall}
    (moved :
      task.Move config externals shared action after
        (.spawning job call)) :
    SpawnOrigin config externals shared after job call task action := by
  generalize reached : spawning job call = next at moved
  cases moved with
  | settle settled result now disposition disposed =>
      cases disposition with
      | complete =>
          simp only [afterSettle] at reached
          split at reached
          · rename_i parentId isChild
            cases reached
            exact .begins result now parentId disposed isChild rfl
          · cases reached
      | _ =>
          cases reached
  | spawn spawner previous reply after progress spawned =>
      rcases progress with next | (_ | _) <;> cases reached
      exact .goesOn previous reply spawned
  | emit _ _ _ progress =>
      cases progress <;> cases reached
  | post _ _ _ progress =>
      cases progress <;> cases reached
  | _ =>
      cases reached

/-- Only `recv` touches the channel. -/
theorem Move.channel_eq
    {config : Config}
    {externals : Externals}
    {shared after : Shared}
    {task next : WorkerTask}
    {action : WorkerAction}
    (moved : task.Move config externals shared action after next)
    (notRecv : action ≠ .recv) :
    after.channel = shared.channel := by
  cases moved with
  | receive =>
      exact (notRecv rfl).elim
  | spawn job call reply after progress spawned =>
      exact spawned.channel_eq
  | _ =>
      rfl

/-- A worker puts nothing into the channel. -/
theorem Move.channel_subset
    {config : Config}
    {externals : Externals}
    {shared after : Shared}
    {task next : WorkerTask}
    {action : WorkerAction}
    (moved : task.Move config externals shared action after next) :
    after.channel ⊆ shared.channel := by
  by_cases isRecv : action = .recv
  · subst action
    cases moved with
    | receive notified job rest queued =>
        rw [queued]
        exact List.subset_cons_self job rest
  · rw [moved.channel_eq isRecv]
    exact List.Subset.refl _

theorem Move.clock_eq
    {config : Config}
    {externals : Externals}
    {shared after : Shared}
    {task next : WorkerTask}
    {action : WorkerAction}
    (moved : task.Move config externals shared action after next) :
    after.clock = shared.clock := by
  cases moved with
  | spawn job call reply after progress spawned =>
      exact spawned.clock_eq
  | _ =>
      rfl

end WorkerTask

/-! ## The scheduler -/

namespace SchedulerTask

/-- The moves of the scheduler. -/
inductive Move
    (config : Config)
    (channelClosed : Bool)
    (shared : Shared)
    (heap : List ScheduledJob) :
    SchedulerPosition → SchedulerAction → Shared → SchedulerTask →
      Prop where
  | refresh
      (fetched : List ScheduledJob)
      (answers :
        JobRepository.FetchScheduledJobs shared.jobs
          config.heapLookaheadLimit fetched) :
      Move config channelClosed shared heap .refreshing (.refresh fetched)
        shared (await shared (buildHeap fetched))
  | refreshFails :
      Move config channelClosed shared heap .refreshing .refreshFails
        shared (await shared heap)
  | wake (wakeAt : Time) (elapsed : wakeAt ≤ shared.clock) :
      Move config channelClosed shared heap (.waiting wakeAt) .sleepElapsed
        shared { heap := heap, position := .dispatching shared.clock }
  | notified (wakeAt : Time) (stored : shared.permit = true) :
      Move config channelClosed shared heap (.waiting wakeAt) .notified
        { shared with permit := false }
        { heap := heap, position := .refreshing }
  | lease
      (now : Time)
      (entry : ScheduledJob)
      (job : Job)
      (pops : Pops heap now entry)
      (leased :
        shared.jobs.returning
          (JobRepository.leaseJob shared.clock entry.id
            config.leaseDurationSecs) = some job) :
      Move config channelClosed shared heap (.dispatching now)
        (.lease entry .ok)
        (shared.update
          (JobRepository.leaseJob shared.clock entry.id
            config.leaseDurationSecs))
        { heap := heap.erase entry, position := .sending now job }
  | leaseMisses
      (now : Time)
      (entry : ScheduledJob)
      (pops : Pops heap now entry)
      (missed :
        shared.jobs.returning
          (JobRepository.leaseJob shared.clock entry.id
            config.leaseDurationSecs) = none) :
      Move config channelClosed shared heap (.dispatching now)
        (.lease entry .ok)
        shared
        { heap := heap.erase entry, position := .dispatching now }
  | leaseFails
      (now : Time)
      (entry : ScheduledJob)
      (message : String)
      (pops : Pops heap now entry) :
      Move config channelClosed shared heap (.dispatching now)
        (.lease entry (.error message))
        shared (await shared (heap.erase entry))
  | dispatchDone (now : Time) :
      Move config channelClosed shared heap (.dispatching now) .dispatchDone
        shared (await shared heap)
  | sendClosed (now : Time) (job : Job) :
      Move config channelClosed shared heap (.sending now job) .trySend
        shared (await shared heap)
  | send
      (now : Time)
      (job : Job)
      (isOpen : channelClosed = false)
      (room : shared.channel.length < config.workerQueueSize) :
      Move config channelClosed shared heap (.sending now job) .trySend
        { shared with channel := shared.channel ++ [job] }
        { heap := heap, position := .dispatching now }
  | sendFull (now : Time) (job : Job) :
      Move config channelClosed shared heap (.sending now job) .trySend
        shared { heap := heap, position := .returning job }
  | giveBack (job : Job) :
      Move config channelClosed shared heap (.returning job) (.returnJob .ok)
        (shared.update
          (JobRepository.scheduleRetry shared.clock job.id
            job.scheduledAt job.attemptCount))
        { heap := heap, position := .notifying }
  | giveBackFails (job : Job) (message : String) :
      Move config channelClosed shared heap (.returning job)
        (.returnJob (.error message))
        shared (await shared heap)
  | announce :
      Move config channelClosed shared heap .notifying .notifyOne
        shared.notifyOne (await shared heap)

theorem move_of_step?
    {config : Config}
    {channelClosed : Bool}
    {shared after : Shared}
    {task next : SchedulerTask}
    {action : SchedulerAction}
    (taken :
      task.step? config channelClosed shared action =
        some (after, next)) :
    Move config channelClosed shared task.heap task.position action after
      next := by
  obtain ⟨heap, position⟩ := task
  dsimp only [step?] at taken ⊢
  split at taken
  · split at taken
    · rename_i answers
      cases taken
      exact .refresh _ answers
    · cases taken
  · cases taken
    exact .refreshFails
  · split at taken
    · rename_i elapsed
      cases taken
      exact .wake _ elapsed
    · cases taken
  · split at taken
    · rename_i stored
      cases taken
      exact .notified _ stored
    · cases taken
  · split at taken
    · rename_i pops
      split at taken
      · split at taken
        · rename_i job leased
          cases taken
          exact .lease _ _ job pops leased
        · rename_i missed
          cases taken
          exact .leaseMisses _ _ pops missed
      · cases taken
        exact .leaseFails _ _ _ pops
      · cases taken
    · cases taken
  · split at taken
    · cases taken
      exact .dispatchDone _
    · cases taken
  · split at taken
    · cases taken
      exact .sendClosed ..
    · rename_i notClosed
      split at taken
      · rename_i room
        cases taken
        exact .send _ _ (Bool.eq_false_iff.mpr notClosed) room
      · cases taken
        exact .sendFull ..
  · split at taken
    · cases taken
      exact .giveBack _
    · cases taken
      exact .giveBackFails ..
    · cases taken
  · cases taken
    exact .announce
  · cases taken

/-- Only `try_send` touches the channel. -/
theorem Move.channel_eq
    {config : Config}
    {channelClosed : Bool}
    {shared after : Shared}
    {heap : List ScheduledJob}
    {position : SchedulerPosition}
    {action : SchedulerAction}
    {next : SchedulerTask}
    (moved : Move config channelClosed shared heap position action after next)
    (notSend : action ≠ .trySend) :
    after.channel = shared.channel := by
  cases moved with
  | send =>
      exact (notSend rfl).elim
  | _ =>
      rfl

end SchedulerTask

/-! ## The reaper -/

namespace ReaperTask

/-- The moves of the reaper. -/
inductive Move
    (shared : Shared) :
    ReaperTask → ReaperAction → Shared → ReaperTask → Prop where
  | reap :
      Move shared .ticking (.reap .ok)
        (shared.update (JobRepository.reapExpiredLeases shared.clock))
        .notifying
  | reapNothing
      (nothing :
        ∀ row ∈ shared.jobs.rows,
          (JobRepository.reapExpiredLeases shared.clock).applies row =
            false) :
      Move shared .ticking (.reap .ok)
        (shared.update (JobRepository.reapExpiredLeases shared.clock))
        .ticking
  | reapFails (message : String) :
      Move shared .ticking (.reap (.error message)) shared .ticking
  | announce :
      Move shared .notifying .notifyOne shared.notifyOne .ticking

theorem move_of_step?
    {shared after : Shared}
    {task next : ReaperTask}
    {action : ReaperAction}
    (taken : task.step? shared action = some (after, next)) :
    task.Move shared action after next := by
  unfold step? at taken
  split at taken
  · dsimp only at taken
    split at taken
    · cases taken
      exact .reap
    · rename_i none_affected
      cases taken
      rw [RecordTable.affected_pos_iff] at none_affected
      push Not at none_affected
      exact .reapNothing fun row member =>
        Bool.eq_false_iff.mpr (none_affected row member)
  · cases taken
    exact .reapFails _
  · cases taken
    exact .announce
  · cases taken

theorem Move.channel_eq
    {shared after : Shared}
    {task next : ReaperTask}
    {action : ReaperAction}
    (moved : task.Move shared action after next) :
    after.channel = shared.channel := by
  cases moved <;> rfl

theorem Move.clock_eq
    {shared after : Shared}
    {task next : ReaperTask}
    {action : ReaperAction}
    (moved : task.Move shared action after next) :
    after.clock = shared.clock := by
  cases moved <;> rfl

end ReaperTask

/-! ## An API request -/

namespace RequestTask

/-- The moves of a `create_job` request. -/
inductive CreateMove
    (externals : Externals)
    (shared : Shared)
    (clientId : Uuid)
    (req : CreateJobRequest) :
    CreatePosition → RequestAction → Shared → RequestTask → Prop where
  | found
      (existing : Job)
      (looked :
        JobRepository.getByIdempotencyKey shared.jobs
          req.idempotencyKey = some existing) :
      CreateMove externals shared clientId req .lookup (.call .ok) shared
        (.answered (.createJob clientId req)
          (.ok (JobResponse.ofJob existing)))
  | plan
      (missing :
        JobRepository.getByIdempotencyKey shared.jobs
          req.idempotencyKey = none) :
      CreateMove externals shared clientId req .lookup (.call .ok) shared
        (planCreate externals clientId req)
  | insertJob
      (id : Uuid)
      (jobs : JobTable)
      (inserted :
        shared.jobs.insert?
          (JobRepository.oneOffRow shared.clock id clientId req) =
            some jobs) :
      CreateMove externals shared clientId req .insertJob
        (.call (.inserted id)) { shared with jobs := jobs }
        (.creating clientId req
          (.notify
            (JobRepository.oneOffRow shared.clock id clientId req)))
  | insertTemplate
      (recurrence : RecurrenceConfig)
      (firstFire : Time)
      (id : Uuid)
      (jobs : JobTable)
      (inserted :
        shared.jobs.insert?
          (JobRepository.templateRow shared.clock id clientId req
            recurrence firstFire) = some jobs) :
      CreateMove externals shared clientId req
        (.insertTemplate recurrence firstFire)
        (.call (.inserted id)) { shared with jobs := jobs }
        (.creating clientId req
          (.insertInstance
            (JobRepository.templateRow shared.clock id clientId req
              recurrence firstFire) firstFire))
  | insertInstance
      (template : Job)
      (firstFire : Time)
      (id : Uuid)
      (jobs : JobTable)
      (inserted :
        shared.jobs.insert?
          (JobRepository.instanceRow shared.clock id template firstFire
            (RecurringService.instanceKey externals template.id
              firstFire)) = some jobs) :
      CreateMove externals shared clientId req
        (.insertInstance template firstFire)
        (.call (.inserted id)) { shared with jobs := jobs }
        (.creating clientId req
          (.notifyRecurring template
            (JobRepository.instanceRow shared.clock id template firstFire
              (RecurringService.instanceKey externals template.id
                firstFire))))
  | duplicateJob
      (id : Uuid)
      (refused :
        shared.jobs.insert?
          (JobRepository.oneOffRow shared.clock id clientId req) = none) :
      CreateMove externals shared clientId req .insertJob
        (.call (.inserted id)) shared
        (.answered (.createJob clientId req)
          (.failed (.internal externals.uniqueViolation)))
  | duplicateTemplate
      (recurrence : RecurrenceConfig)
      (firstFire : Time)
      (id : Uuid) :
      CreateMove externals shared clientId req
        (.insertTemplate recurrence firstFire)
        (.call (.inserted id)) shared
        (.answered (.createJob clientId req)
          (.failed (.internal externals.uniqueViolation)))
  | duplicateInstance
      (template : Job)
      (firstFire : Time)
      (id : Uuid)
      (refused :
        shared.jobs.insert?
          (JobRepository.instanceRow shared.clock id template firstFire
            (RecurringService.instanceKey externals template.id
              firstFire)) = none) :
      CreateMove externals shared clientId req
        (.insertInstance template firstFire)
        (.call (.inserted id)) shared
        (.answered (.createJob clientId req)
          (.failed (.internal externals.uniqueViolation)))
  | announceRecurring (template instanceJob : Job) :
      CreateMove externals shared clientId req
        (.notifyRecurring template instanceJob) .notifyOne
        shared.notifyOne (.creating clientId req (.notify instanceJob))
  | announce (job : Job) :
      CreateMove externals shared clientId req (.notify job) .notifyOne
        shared.notifyOne
        (.answered (.createJob clientId req)
          (.created (JobResponse.ofJob job)))
  | fails (position : CreatePosition) (message : String) :
      CreateMove externals shared clientId req position
        (.call (.error message)) shared
        (.answered (.createJob clientId req)
          (.failed (.internal message)))

theorem createMove_of_createStep?
    {externals : Externals}
    {shared after : Shared}
    {clientId : Uuid}
    {req : CreateJobRequest}
    {position : CreatePosition}
    {action : RequestAction}
    {next : RequestTask}
    (taken :
      createStep? externals shared clientId req position action =
        some (after, next)) :
    CreateMove externals shared clientId req position action after
      next := by
  unfold createStep? at taken
  split at taken
  · split at taken
    · rename_i existing looked
      cases taken
      exact .found existing looked
    · rename_i missing
      cases taken
      exact .plan missing
  · dsimp only at taken
    split at taken
    · rename_i jobs inserted
      cases taken
      exact .insertJob _ jobs inserted
    · rename_i refused
      cases taken
      exact .duplicateJob _ refused
  · dsimp only at taken
    split at taken
    · rename_i jobs inserted
      cases taken
      exact .insertTemplate _ _ _ jobs inserted
    · cases taken
      exact .duplicateTemplate ..
  · dsimp only at taken
    split at taken
    · rename_i jobs inserted
      cases taken
      exact .insertInstance _ _ _ jobs inserted
    · rename_i refused
      cases taken
      exact .duplicateInstance _ _ _ refused
  · cases taken
    exact .announceRecurring ..
  · cases taken
    exact .announce _
  all_goals cases taken
  all_goals exact .fails ..

/-- The moves of a `cancel_job` request. -/
inductive CancelMove
    (shared : Shared)
    (clientId id : Uuid) :
    CancelPosition → RequestAction → Shared → RequestTask → Prop where
  | read :
      CancelMove shared clientId id .read (.call .ok) shared
        (planCancel clientId id
          (JobRepository.getJobById shared.jobs id clientId))
  | cancelJob
      (affected :
        0 < shared.jobs.affected
          (JobRepository.cancelJob shared.clock id clientId)) :
      CancelMove shared clientId id .cancelJob (.call .ok)
        (shared.update (JobRepository.cancelJob shared.clock id clientId))
        (.cancelling clientId id .notify)
  | notScheduled :
      CancelMove shared clientId id .cancelJob (.call .ok) shared
        (.answered (.cancelJob clientId id)
          (.failed (.badRequest "only scheduled jobs can be cancelled")))
  | cancelTemplate :
      CancelMove shared clientId id .cancelTemplate (.call .ok)
        (shared.update
          (JobRepository.cancelTemplate shared.clock id clientId))
        (.cancelling clientId id
          (.cancelInstances
            (shared.jobs.affected
              (JobRepository.cancelTemplate shared.clock id clientId))))
  | cancelInstances (templates : Nat) :
      CancelMove shared clientId id (.cancelInstances templates)
        (.call .ok)
        (shared.update (JobRepository.cancelInstances shared.clock id))
        (.cancelling clientId id .notify)
  | cancelNothing (templates : Nat) :
      CancelMove shared clientId id (.cancelInstances templates)
        (.call .ok)
        (shared.update (JobRepository.cancelInstances shared.clock id))
        (.answered (.cancelJob clientId id) (.failed .notFound))
  | announce :
      CancelMove shared clientId id .notify .notifyOne
        shared.notifyOne
        (.answered (.cancelJob clientId id) .noContent)
  | fails (position : CancelPosition) (message : String) :
      CancelMove shared clientId id position (.call (.error message))
        shared
        (.answered (.cancelJob clientId id) (.failed (.internal message)))

theorem cancelMove_of_cancelStep?
    {shared after : Shared}
    {clientId id : Uuid}
    {position : CancelPosition}
    {action : RequestAction}
    {next : RequestTask}
    (taken :
      cancelStep? shared clientId id position action =
        some (after, next)) :
    CancelMove shared clientId id position action after next := by
  unfold cancelStep? at taken
  split at taken
  · cases taken
    exact .read
  · dsimp only at taken
    split at taken
    · rename_i affected
      cases taken
      exact .cancelJob affected
    · cases taken
      exact .notScheduled
  · cases taken
    exact .cancelTemplate
  · dsimp only at taken
    split at taken
    · cases taken
      exact .cancelNothing _
    · cases taken
      exact .cancelInstances _
  · cases taken
    exact .announce
  all_goals cases taken
  all_goals exact .fails ..

/-- The moves of an API request. -/
inductive Move
    (externals : Externals)
    (shared : Shared) :
    RequestTask → RequestAction → Shared → RequestTask → Prop where
  | arrive (request : Request) :
      Move externals shared .absent (.arrive request) shared
        (start request)
  | create
      (clientId : Uuid)
      (req : CreateJobRequest)
      (position : CreatePosition)
      (action : RequestAction)
      (after : Shared)
      (next : RequestTask)
      (moved :
        CreateMove externals shared clientId req position action after
          next) :
      Move externals shared (.creating clientId req position) action
        after next
  | get
      (clientId id : Uuid)
      (reply : Reply)
      (response : Response) :
      Move externals shared (.getting clientId id) (.call reply) shared
        (.answered (.getJob clientId id) response)
  | cancel
      (clientId id : Uuid)
      (position : CancelPosition)
      (action : RequestAction)
      (after : Shared)
      (next : RequestTask)
      (moved : CancelMove shared clientId id position action after next) :
      Move externals shared (.cancelling clientId id position) action
        after next
  | patch (clientId id : Uuid) (req : PatchJobRequest) :
      Move externals shared (.patching clientId id req .update)
        (.call .ok)
        (shared.update
          (JobRepository.updateCronExpr shared.clock id clientId
            req.cronExpr))
        (.patching clientId id req .read)
  | readPatched
      (clientId id : Uuid)
      (req : PatchJobRequest)
      (job : Job) :
      Move externals shared (.patching clientId id req .read) (.call .ok)
        shared (.patching clientId id req (.notify job))
  | answerPatch
      (clientId id : Uuid)
      (req : PatchJobRequest)
      (position : PatchPosition)
      (reply : Reply)
      (error : ApiError) :
      Move externals shared (.patching clientId id req position)
        (.call reply) shared
        (.answered (.patchJob clientId id req) (.failed error))
  | announcePatch
      (clientId id : Uuid)
      (req : PatchJobRequest)
      (job : Job) :
      Move externals shared (.patching clientId id req (.notify job))
        .notifyOne shared.notifyOne
        (.answered (.patchJob clientId id req)
          (.ok (JobResponse.ofJob job)))

private theorem patchMove_of_patchStep?
    {externals : Externals}
    {shared after : Shared}
    {clientId id : Uuid}
    {req : PatchJobRequest}
    {position : PatchPosition}
    {action : RequestAction}
    {next : RequestTask}
    (taken :
      patchStep? shared clientId id req position action =
        some (after, next)) :
    Move externals shared (.patching clientId id req position) action
      after next := by
  unfold patchStep? at taken
  split at taken
  · dsimp only at taken
    split at taken
    · cases taken
      exact .patch ..
    · cases taken
      exact .answerPatch ..
  · split at taken
    · cases taken
      exact .answerPatch ..
    · cases taken
      exact .readPatched ..
  · cases taken
    exact .announcePatch ..
  all_goals cases taken
  all_goals exact .answerPatch ..

theorem move_of_step?
    {externals : Externals}
    {shared after : Shared}
    {task next : RequestTask}
    {action : RequestAction}
    (taken :
      task.step? externals shared action = some (after, next)) :
    task.Move externals shared action after next := by
  unfold step? at taken
  split at taken
  · cases taken
    exact .arrive _
  · exact .create _ _ _ _ _ _ (createMove_of_createStep? taken)
  · split at taken
    · cases taken
      exact .get ..
    · cases taken
      exact .get ..
  · cases taken
    exact .get ..
  · exact .cancel _ _ _ _ _ _ (cancelMove_of_cancelStep? taken)
  · exact patchMove_of_patchStep? taken
  · cases taken

theorem Move.channel_eq
    {externals : Externals}
    {shared after : Shared}
    {task next : RequestTask}
    {action : RequestAction}
    (moved : task.Move externals shared action after next) :
    after.channel = shared.channel := by
  cases moved with
  | create clientId req position action after next created =>
      cases created <;> rfl
  | cancel clientId id position action after next cancelled =>
      cases cancelled <;> rfl
  | _ =>
      rfl

theorem Move.clock_eq
    {externals : Externals}
    {shared after : Shared}
    {task next : RequestTask}
    {action : RequestAction}
    (moved : task.Move externals shared action after next) :
    after.clock = shared.clock := by
  cases moved with
  | create clientId req position action after next created =>
      cases created <;> rfl
  | cancel clientId id position action after next cancelled =>
      cases cancelled <;> rfl
  | _ =>
      rfl

end RequestTask

/-! ## The daemon -/

namespace State

variable {config : Config} {slots : Nat}

section DropClosed

variable (state : State config slots)

@[simp] theorem dropClosed_clock :
    state.dropClosed.clock = state.clock := by
  unfold dropClosed
  split <;> rfl

@[simp] theorem dropClosed_jobs :
    state.dropClosed.jobs = state.jobs := by
  unfold dropClosed
  split <;> rfl

@[simp] theorem dropClosed_permit :
    state.dropClosed.permit = state.permit := by
  unfold dropClosed
  split <;> rfl

@[simp] theorem dropClosed_active :
    state.dropClosed.active = state.active := by
  unfold dropClosed
  split <;> rfl

@[simp] theorem dropClosed_scheduler :
    state.dropClosed.scheduler = state.scheduler := by
  unfold dropClosed
  split <;> rfl

@[simp] theorem dropClosed_workers :
    state.dropClosed.workers = state.workers := by
  unfold dropClosed
  split <;> rfl

@[simp] theorem dropClosed_reaper :
    state.dropClosed.reaper = state.reaper := by
  unfold dropClosed
  split <;> rfl

@[simp] theorem dropClosed_requests :
    state.dropClosed.requests = state.requests := by
  unfold dropClosed
  split <;> rfl

theorem dropClosed_channel :
    state.dropClosed.channel = state.channel ∨
      state.dropClosed.channel = [] := by
  unfold dropClosed
  split
  · exact Or.inr rfl
  · exact Or.inl rfl

theorem dropClosed_channel_subset :
    state.dropClosed.channel ⊆ state.channel := by
  rcases state.dropClosed_channel with same | emptied
  · rw [same]
    exact List.Subset.refl _
  · rw [emptied]
    exact List.nil_subset _

end DropClosed

/-- The moves of the daemon: one task moves, or the environment does. -/
inductive Move
    (externals : Externals)
    (state : State config slots) :
    Action config slots → State config slots → Prop where
  | tick (elapsed : Nat) :
      Move externals state (.tick elapsed)
        { state with clock := state.clock + elapsed }
  | scheduler
      (action : SchedulerAction)
      (shared : Shared)
      (task : SchedulerTask)
      (moved :
        SchedulerTask.Move config (decide state.ChannelClosed)
          state.toShared state.scheduler.heap state.scheduler.position
          action shared task) :
      Move externals state (.scheduler action)
        { state with toShared := shared, scheduler := task }
  | worker
      (worker : Fin config.workerCount)
      (action : WorkerAction)
      (shared : Shared)
      (task : WorkerTask)
      (moved :
        (state.workers worker).Move config externals state.toShared action
          shared task) :
      Move externals state (.worker worker action)
        (dropClosed
          { state with
            toShared := shared
            workers := Function.update state.workers worker task })
  | reaper
      (action : ReaperAction)
      (shared : Shared)
      (task : ReaperTask)
      (moved : state.reaper.Move state.toShared action shared task) :
      Move externals state (.reaper action)
        { state with toShared := shared, reaper := task }
  | api
      (slot : Fin slots)
      (action : RequestAction)
      (shared : Shared)
      (task : RequestTask)
      (moved :
        (state.requests slot).Move externals state.toShared action
          shared task) :
      Move externals state (.api slot action)
        { state with
          toShared := shared
          requests := Function.update state.requests slot task }
  | shutdown :
      Move externals state .shutdown
        { state with
          workers := fun worker => (state.workers worker).notifyWaiter }
  | restart :
      Move externals state .restart state.restarted

theorem move_of_step?
    {externals : Externals}
    {state after : State config slots}
    {action : Action config slots}
    (taken : step? externals state action = some after) :
    state.Move externals action after := by
  cases action with
  | tick elapsed =>
      cases taken
      exact .tick elapsed
  | scheduler action =>
      obtain ⟨⟨shared, task⟩, stepped, same⟩ :=
        Option.map_eq_some_iff.mp taken
      cases same
      exact .scheduler _ _ _ (SchedulerTask.move_of_step? stepped)
  | worker worker action =>
      obtain ⟨⟨shared, task⟩, stepped, same⟩ :=
        Option.map_eq_some_iff.mp taken
      cases same
      exact .worker _ _ _ _ (WorkerTask.move_of_step? stepped)
  | reaper action =>
      obtain ⟨⟨shared, task⟩, stepped, same⟩ :=
        Option.map_eq_some_iff.mp taken
      cases same
      exact .reaper _ _ _ (ReaperTask.move_of_step? stepped)
  | api slot action =>
      obtain ⟨⟨shared, task⟩, stepped, same⟩ :=
        Option.map_eq_some_iff.mp taken
      cases same
      exact .api _ _ _ _ (RequestTask.move_of_step? stepped)
  | shutdown =>
      cases taken
      exact .shutdown
  | restart =>
      cases taken
      exact .restart

/-! ## One task across a step -/

variable {externals : Externals}
variable {state after : State config slots}
variable {action : Action config slots}

theorem schedulerMove_of_step?
    {schedulerAction : SchedulerAction}
    (taken :
      step? externals state (.scheduler schedulerAction) = some after) :
    SchedulerTask.Move config (decide state.ChannelClosed) state.toShared
      state.scheduler.heap state.scheduler.position schedulerAction
      after.toShared after.scheduler := by
  cases move_of_step? taken with
  | scheduler _ shared task moved =>
      exact moved

theorem workerMove_of_step?
    {worker : Fin config.workerCount}
    {workerAction : WorkerAction}
    (taken :
      step? externals state (.worker worker workerAction) = some after) :
    ∃ shared,
      (state.workers worker).Move config externals state.toShared
          workerAction shared (after.workers worker) ∧
        after.jobs = shared.jobs ∧
        after.permit = shared.permit := by
  cases move_of_step? taken with
  | worker _ _ shared task moved =>
      refine ⟨shared, ?_, dropClosed_jobs _, dropClosed_permit _⟩
      rw [dropClosed_workers]
      simpa only [Function.update_self] using moved

/-- The step of the worker behind a step of the system. -/
theorem workerTaken_of_step?
    {worker : Fin config.workerCount}
    {workerAction : WorkerAction}
    (taken :
      step? externals state (.worker worker workerAction) = some after) :
    ∃ shared,
      (state.workers worker).step? config externals state.toShared
          workerAction =
        some (shared, after.workers worker) := by
  obtain ⟨⟨shared, task⟩, workerTaken, rfl⟩ :=
    Option.map_eq_some_iff.mp taken
  refine ⟨shared, ?_⟩
  rw [dropClosed_workers]
  simpa only [Function.update_self] using workerTaken

/-- What a result handler leaves behind when its write has succeeded. -/
theorem settled_of_step?
    {worker : Fin config.workerCount}
    {job : Job}
    {result : ExecutionResult}
    {now : Time}
    {disposition : Disposition}
    (handling : state.workers worker = .handling job result now)
    (disposed :
      ResultHandler.dispose? config job result now = some disposition)
    (taken :
      step? externals state (.worker worker (.settle .ok)) = some after) :
    after.workers worker = .afterSettle job disposition ∧
      after.jobs =
        state.jobs.update
          (ResultHandler.dispositionUpdate state.clock job.id
            disposition) := by
  obtain ⟨shared, moved, sameJobs, _⟩ := workerMove_of_step? taken
  rw [handling] at moved
  rw [sameJobs]
  generalize after.workers worker = next at moved
  cases moved with
  | settle _ _ _ other otherDisposed =>
      obtain rfl := Option.some.inj (otherDisposed.symm.trans disposed)
      exact ⟨rfl, rfl⟩
  | settlePanics _ _ _ _ panics =>
      rw [disposed] at panics
      cases panics

theorem reaperMove_of_step?
    {reaperAction : ReaperAction}
    (taken :
      step? externals state (.reaper reaperAction) = some after) :
    state.reaper.Move state.toShared reaperAction after.toShared
      after.reaper := by
  cases move_of_step? taken with
  | reaper _ shared task moved =>
      exact moved

theorem requestMove_of_step?
    {slot : Fin slots}
    {requestAction : RequestAction}
    (taken :
      step? externals state (.api slot requestAction) = some after) :
    (state.requests slot).Move externals state.toShared requestAction
      after.toShared (after.requests slot) := by
  cases move_of_step? taken with
  | api _ _ shared task moved =>
      simpa only [Function.update_self] using moved

/-- What a step did to one worker. -/
inductive WorkerStep
    (externals : Externals)
    (state after : State config slots)
    (action : Action config slots)
    (worker : Fin config.workerCount) : Prop where
  | kept (same : after.workers worker = state.workers worker)
  | idle
      (notified : Bool)
      (isIdle : after.workers worker = .idle notified)
      (wasIdle :
        action = .restart ∨ ∃ before, state.workers worker = .idle before)
  | moved
      (workerAction : WorkerAction)
      (shared : Shared)
      (isWorker : action = .worker worker workerAction)
      (moved :
        (state.workers worker).Move config externals state.toShared
          workerAction shared (after.workers worker))
      (sameJobs : after.jobs = shared.jobs)
      (samePermit : after.permit = shared.permit)

/-- What a step did to one request. -/
inductive RequestStep
    (externals : Externals)
    (state after : State config slots)
    (action : Action config slots)
    (slot : Fin slots) : Prop where
  | kept (same : after.requests slot = state.requests slot)
  | lost
      (isAbsent : after.requests slot = .absent)
      (isRestart : action = .restart)
  | moved
      (requestAction : RequestAction)
      (isApi : action = .api slot requestAction)
      (moved :
        (state.requests slot).Move externals state.toShared requestAction
          after.toShared (after.requests slot))

theorem workerStep_of_step?
    (taken : step? externals state action = some after)
    (worker : Fin config.workerCount) :
    WorkerStep externals state after action worker := by
  cases move_of_step? taken with
  | worker mover workerAction shared task moved =>
      rcases eq_or_ne worker mover with rfl | different
      · obtain ⟨moverShared, moverMoved, sameJobs, samePermit⟩ :=
          workerMove_of_step? taken
        exact .moved workerAction moverShared rfl moverMoved sameJobs
          samePermit
      · apply WorkerStep.kept
        rw [dropClosed_workers]
        exact Function.update_of_ne different task state.workers
  | shutdown =>
      cases current : state.workers worker with
      | idle notified =>
          refine .idle true ?_ (Or.inr ⟨notified, current⟩)
          change (state.workers worker).notifyWaiter = _
          rw [current]
          rfl
      | _ =>
          apply WorkerStep.kept
          change (state.workers worker).notifyWaiter = _
          rw [current]
          rfl
  | restart =>
      exact .idle false rfl (Or.inl rfl)
  | tick | scheduler | reaper | api =>
      exact .kept rfl

/-- What holds of idle workers and survives every move holds of all workers. -/
theorem forall_workers_step
    {property : WorkerTask → Prop}
    (idle : ∀ notified, property (.idle notified))
    (kept :
      ∀ {task next : WorkerTask} {workerAction : WorkerAction}
        {shared : Shared},
        task.Move config externals state.toShared workerAction shared
          next →
        property task →
        property next)
    (taken : step? externals state action = some after)
    (holds : ∀ worker, property (state.workers worker))
    (worker : Fin config.workerCount) :
    property (after.workers worker) := by
  cases workerStep_of_step? taken worker with
  | kept same =>
      rw [same]
      exact holds worker
  | idle notified isIdle =>
      rw [isIdle]
      exact idle notified
  | moved workerAction shared isWorker moved =>
      exact kept moved (holds worker)

theorem requestStep_of_step?
    (taken : step? externals state action = some after)
    (slot : Fin slots) :
    RequestStep externals state after action slot := by
  cases move_of_step? taken with
  | api mover requestAction shared task moved =>
      rcases eq_or_ne slot mover with rfl | different
      · exact .moved requestAction rfl (requestMove_of_step? taken)
      · exact .kept (Function.update_of_ne different task state.requests)
  | worker worker workerAction shared task moved =>
      apply RequestStep.kept
      rw [dropClosed_requests]
  | restart =>
      by_cases isOpen : (state.requests slot).inProgress = true
      · exact .lost (if_pos isOpen) rfl
      · exact .kept (if_neg isOpen)
  | tick | scheduler | reaper | shutdown =>
      exact .kept rfl

/-- What holds of an absent request and survives every move holds of all. -/
theorem forall_requests_step
    {property : RequestTask → Prop}
    (absent : property .absent)
    (kept :
      ∀ {task next : RequestTask} {requestAction : RequestAction}
        {shared : Shared},
        task.Move externals state.toShared requestAction shared next →
        property task →
        property next)
    (taken : step? externals state action = some after)
    (holds : ∀ slot, property (state.requests slot))
    (slot : Fin slots) :
    property (after.requests slot) := by
  cases requestStep_of_step? taken slot with
  | kept same =>
      rw [same]
      exact holds slot
  | lost isAbsent =>
      rw [isAbsent]
      exact absent
  | moved requestAction isApi moved =>
      exact kept moved (holds slot)

end State

end Kronkeeper
