import Kronkeeper.RowHistory

namespace Kronkeeper

/-!
# Reports of terminal states

`ResultHandler::handle` calls `emit` after its write, on the success branch only
if `spawn_next_instance` has returned `Ok`.  The cancel paths of the API call it
nowhere.  This module follows whoever writes a terminal state to the end of its
operation and counts the calls.
-/

/-- A state whose transition a webhook is for. -/
def JobState.isReported : JobState → Bool
  | .completed => true
  | .expired => true
  | .deadLetter => true
  | .cancelled => true
  | _ => false

/-- A job that is no template and has a webhook comes into such a state. -/
structure Ends (old new : Job) : Prop where
  sameId : new.id = old.id
  notTemplate : old.isTemplate = false
  hasWebhook : old.webhookUrl.isSome = true
  changed : new.state ≠ old.state
  reported : new.state.isReported = true

instance decidableEnds (old new : Job) : Decidable (Ends old new) :=
  @decidable_of_iff _
    (new.id = old.id ∧ old.isTemplate = false ∧
      old.webhookUrl.isSome = true ∧ new.state ≠ old.state ∧
      new.state.isReported = true)
    ⟨fun ⟨sameId, notTemplate, hasWebhook, changed, reported⟩ =>
        ⟨sameId, notTemplate, hasWebhook, changed, reported⟩,
      fun ends =>
        ⟨ends.sameId, ends.notTemplate, ends.hasWebhook, ends.changed,
          ends.reported⟩⟩
    inferInstance

/-! ## Spawns that fail -/

namespace RecurringService

/-- The template goes on, but its cron expression has no next fire time. -/
def hasNoNextFire
    (externals : Externals)
    (lastScheduledAt : Time)
    (template : Job) : Bool :=
  template.isTemplate && template.isRecurring &&
    template.state != .cancelled && !occurrencesReached template &&
    template.cronExpr.any fun cronExpr =>
      !(nextFireAfter externals cronExpr lastScheduledAt).isOk

theorem planSpawn_eq_failed_iff
    {externals : Externals}
    {lastScheduledAt : Time}
    {read : Option Job} :
    planSpawn externals lastScheduledAt read = .returned false ↔
      read.any (hasNoNextFire externals lastScheduledAt) = true := by
  cases read with
  | none =>
      simp [planSpawn]
  | some template =>
      by_cases recurring :
          (template.isTemplate && template.isRecurring) = true
      · by_cases cancelled : template.state = .cancelled
        · simp [planSpawn, hasNoNextFire, recurring, cancelled]
        · cases isCron : template.cronExpr with
          | none =>
              simp [planSpawn, hasNoNextFire, recurring, cancelled,
                isCron]
          | some cronExpr =>
              cases reached : occurrencesReached template with
              | true =>
                  simp [planSpawn, hasNoNextFire, recurring, cancelled,
                    isCron, reached]
              | false =>
                  cases fire :
                      nextFireAfter externals cronExpr
                        lastScheduledAt with
                  | error message =>
                      simp [planSpawn, hasNoNextFire, recurring,
                        cancelled, isCron, reached, fire, Except.isOk,
                        Except.toBool]
                  | ok nextFire =>
                      by_cases past : pastEnd template nextFire = true <;>
                        simp [planSpawn, hasNoNextFire, recurring,
                          cancelled, isCron, reached, fire, past,
                          Except.isOk, Except.toBool]
      · simp [planSpawn, hasNoNextFire, recurring]

end RecurringService

/--
The call of a spawn fails: the repository reports an error, the `INSERT` meets
a key in use, or there is no next fire time.
-/
def SpawnCall.fails
    (externals : Externals)
    (shared : Shared) : SpawnCall → Reply → Bool
  | _, .error _ => true
  | .readTemplate templateId lastScheduledAt, _ =>
      (JobRepository.getJobByIdInternal shared.jobs templateId).any
        (RecurringService.hasNoNextFire externals lastScheduledAt)
  | .insertInstance template nextFire, .inserted id =>
      (shared.jobs.insert?
        (JobRepository.instanceRow shared.clock id template nextFire
          (RecurringService.instanceKey externals template.id
            nextFire))).isNone
  | _, _ => false

theorem SpawnCall.Move.fails_iff
    {externals : Externals}
    {shared after : Shared}
    {call : SpawnCall}
    {reply : Reply}
    {progress : SpawnProgress}
    (moved : call.Move externals shared reply after progress) :
    call.fails externals shared reply = true ↔
      progress = .returned false := by
  cases moved with
  | read templateId lastScheduledAt =>
      exact RecurringService.planSpawn_eq_failed_iff.symm
  | insert _ _ _ _ inserted =>
      simp [SpawnCall.fails, inserted]
  | duplicate _ _ _ refused =>
      simp [SpawnCall.fails, refused]
  | fails call message =>
      cases call <;> simp [SpawnCall.fails]
  | _ =>
      simp [SpawnCall.fails]

/-! ## The handler after its write -/

namespace WorkerTask

/-- `handle` has written and has not returned yet. -/
def hasWritten : WorkerTask → Bool
  | .retried _ => true
  | .spawning _ _ => true
  | .emitting _ _ => true
  | _ => false

/-- The worker has just called `emit` for this job. -/
def callsEmit? : WorkerTask → Option Uuid
  | .emitting job .loadJob => some job.id
  | _ => none

/-- The calls of `emit` still to come if nothing fails. -/
def owedCalls : WorkerTask → Nat
  | .spawning _ _ => 1
  | _ => 0

/-- The spawn of this worker fails in its step. -/
def spawnFails
    (externals : Externals)
    (shared : Shared) : WorkerTask → WorkerAction → Bool
  | .spawning _ call, .spawn reply => call.fails externals shared reply
  | _, _ => false

/-- `handle` has written a terminal state for this job, or has returned. -/
def Concludes (id : Uuid) : WorkerTask → Prop
  | .spawning job _ => job.id = id
  | .emitting job _ => job.id = id
  | .finishing => True
  | _ => False

section Steps

variable {config : Config} {externals : Externals}
variable {shared after : Shared}
variable {task next : WorkerTask}
variable {action : WorkerAction}

/-- `emit` does not call itself. -/
theorem callsEmit?_of_emitting
    {job : Job}
    {call : EmitCall}
    (taken :
      (emitting job call).step? config externals shared action =
        some (after, next)) :
    next.callsEmit? = none := by
  have attemptDelivers :
      ∀ body url attempts,
        (afterEmit job
          (WebhookEmitter.attempt config body url
            attempts)).callsEmit? = none := by
    intro body url attempts
    unfold WebhookEmitter.attempt
    split <;> rfl
  cases call with
  | loadJob =>
      cases action with
      | emit reply =>
          cases reply with
          | ok =>
              cases taken
              unfold WebhookEmitter.planDelivery
              repeat' split
              · rfl
              · rfl
              · rfl
              · exact attemptDelivers ..
          | error message =>
              cases taken
              rfl
          | inserted id =>
              cases taken
      | _ =>
          cases taken
  | post body url attempts =>
      cases action with
      | posted delivered =>
          cases taken
          unfold WebhookEmitter.afterPost
          split
          · rfl
          · exact attemptDelivers ..
      | _ =>
          cases taken
  | recordResult success attempts =>
      cases action with
      | emit reply =>
          cases reply <;> cases taken <;> rfl
      | _ =>
          cases taken

/-- A handler that concludes makes its owed call of `emit`, or fails. -/
theorem concludes_step
    {id : Uuid}
    (taken :
      task.step? config externals shared action = some (after, next))
    (concludes : task.Concludes id)
    (written : task.hasWritten = true) :
    next.Concludes id ∧
      (decide (next.callsEmit? = some id)).toNat +
            (task.spawnFails externals shared action).toNat +
          next.owedCalls =
        task.owedCalls := by
  have moved := move_of_step? taken
  cases moved with
  | spawn job call reply after progress spawned =>
      have isId : job.id = id := concludes
      have failing := spawned.fails_iff
      rcases progress with next | (_ | _)
      · refine ⟨isId, ?_⟩
        have succeeds : call.fails externals shared reply = false :=
          Bool.eq_false_iff.mpr fun fails => by
            cases failing.mp fails
        simp [afterSpawn, callsEmit?, spawnFails, succeeds, owedCalls]
      · refine ⟨trivial, ?_⟩
        simp [afterSpawn, callsEmit?, spawnFails, failing.mpr rfl,
          owedCalls]
      · refine ⟨isId, ?_⟩
        have succeeds : call.fails externals shared reply = false :=
          Bool.eq_false_iff.mpr fun fails => by
            cases failing.mp fails
        simp [afterSpawn, callsEmit?, spawnFails, succeeds, owedCalls,
          isId]
  | emit job call reply progress =>
      have silent := callsEmit?_of_emitting taken
      refine ⟨?_, ?_⟩
      · cases progress with
        | next call => exact concludes
        | returned => exact trivial
      · rw [silent]
        cases progress <;> rfl
  | post job call delivered progress =>
      have silent := callsEmit?_of_emitting taken
      refine ⟨?_, ?_⟩
      · cases progress with
        | next call => exact concludes
        | returned => exact trivial
      · rw [silent]
        cases progress <;> rfl
  | record job success attempts =>
      exact ⟨trivial, rfl⟩
  | announce job =>
      cases concludes
  | _ =>
      cases written

/-- Once it has written a terminal state, `handle` owes one call of `emit`. -/
theorem concludes_afterSettle
    {job : Job}
    {disposition : Disposition}
    (reported : disposition.state.isReported = true) :
    (afterSettle job disposition).Concludes job.id ∧
      (decide ((afterSettle job disposition).callsEmit? =
            some job.id)).toNat +
          (afterSettle job disposition).owedCalls =
        1 := by
  cases disposition with
  | complete =>
      cases isChild : job.parentJobId <;>
        simp [afterSettle, isChild, Concludes, callsEmit?, owedCalls]
  | expire | deadLetter =>
      simp [afterSettle, Concludes, callsEmit?, owedCalls]
  | retry retryAt attempt =>
      cases reported

end Steps

end WorkerTask

/-! ## Operations -/

/-- Who can write a terminal state. -/
inductive Operation (config : Config) (slots : Nat) where
  | handler (worker : Fin config.workerCount)
  | request (slot : Fin slots)
  deriving DecidableEq

def Operation.isHandler
    {config : Config}
    {slots : Nat} : Operation config slots → Bool
  | .handler _ => true
  | .request _ => false

/-- The operation that takes a step. -/
def Action.operation?
    {config : Config}
    {slots : Nat} :
    Action config slots → Option (Operation config slots)
  | .worker actor _ => some (.handler actor)
  | .api slot _ => some (.request slot)
  | _ => none

namespace State

variable {config : Config} {slots : Nat}

/-- The operation has not returned yet. -/
def underway
    (state : State config slots) : Operation config slots → Bool
  | .handler worker => (state.workers worker).hasWritten
  | .request slot => (state.requests slot).inProgress

/-- A step other than a crash, before the operation has returned. -/
def Pending
    (operation : Operation config slots)
    (state : State config slots)
    (action : Action config slots) : Prop :=
  action ≠ .restart ∧ state.underway operation = true

instance decidablePending
    (operation : Operation config slots)
    (state : State config slots)
    (action : Action config slots) :
    Decidable (Pending operation state action) :=
  inferInstanceAs (Decidable (_ ∧ _))

/-- The operation calls `emit` for the job; no request ever does. -/
def reports
    (externals : Externals)
    (operation : Operation config slots)
    (id : Uuid)
    (state : State config slots) : Action config slots → Bool
  | .worker worker action =>
      decide (operation = .handler worker) &&
        match (state.workers worker).step? config externals
            state.toShared action with
        | some (_, next) => decide (next.callsEmit? = some id)
        | none => false
  | _ => false

/-- A call of the spawn that the operation waits for fails. -/
def spawnFails
    (externals : Externals)
    (operation : Operation config slots)
    (state : State config slots) : Action config slots → Bool
  | .worker worker action =>
      decide (operation = .handler worker) &&
        (state.workers worker).spawnFails externals state.toShared action
  | _ => false

/-- The rest of an operation, among whatever else happens meanwhile. -/
structure Returns
    (externals : Externals)
    (operation : Operation config slots)
    (state : State config slots)
    (actions : List (Action config slots))
    (final : State config slots) : Prop where
  run : Run externals (Pending operation) state actions final
  returned : final.underway operation = false

variable {externals : Externals}
variable {state after : State config slots}
variable {action : Action config slots}

/-- A pending handler makes its owed call of `emit`, or its spawn fails. -/
private theorem concludes_of_step?
    {worker : Fin config.workerCount}
    {id : Uuid}
    (concludes : (state.workers worker).Concludes id)
    (pending : Pending (.handler worker) state action)
    (taken : step? externals state action = some after) :
    (after.workers worker).Concludes id ∧
      (reports externals (.handler worker) id state action).toNat +
            (spawnFails externals (.handler worker) state action).toNat +
          (after.workers worker).owedCalls =
        (state.workers worker).owedCalls := by
  by_cases acts : ∃ workerAction, action = .worker worker workerAction
  · obtain ⟨workerAction, rfl⟩ := acts
    obtain ⟨shared, workerTaken⟩ := workerTaken_of_step? taken
    have stepped :=
      WorkerTask.concludes_step workerTaken concludes pending.2
    simpa [reports, spawnFails, workerTaken] using stepped
  · have silent :
        reports externals (.handler worker) id state action = false ∧
          spawnFails externals (.handler worker) state action = false := by
      cases action with
      | worker actor workerAction =>
          have other : worker ≠ actor := by
            rintro rfl
            exact acts ⟨workerAction, rfl⟩
          simp [reports, spawnFails, other]
      | _ =>
          exact ⟨rfl, rfl⟩
    rw [silent.1, silent.2]
    cases workerStep_of_step? taken worker with
    | kept same =>
        rw [same]
        exact ⟨concludes, by simp⟩
    | idle notified isIdle wasIdle =>
        rcases wasIdle with isRestart | ⟨before, wasIdle⟩
        · exact (pending.1 isRestart).elim
        · rw [wasIdle] at concludes
          cases concludes
    | moved workerAction shared isWorker =>
        exact (acts ⟨workerAction, isWorker⟩).elim

/-- Over the rest of its operation a handler reports, or its spawn fails. -/
private theorem reports_add_spawnFails
    {worker : Fin config.workerCount}
    {id : Uuid}
    {actions : List (Action config slots)}
    {final : State config slots}
    (returns :
      Returns externals (.handler worker) state actions final)
    (concludes : (state.workers worker).Concludes id) :
    TransitionSystem.occurrences (step? externals)
          (reports externals (.handler worker) id) state actions +
        TransitionSystem.occurrences (step? externals)
          (spawnFails externals (.handler worker)) state actions =
      (state.workers worker).owedCalls := by
  have balances :
      ∀ {before after : State config slots} {action : Action config slots},
        (before.workers worker).Concludes id →
        Pending (.handler worker) before action →
        step? externals before action = some after →
        (after.workers worker).Concludes id ∧
          (reports externals (.handler worker) id before action).toNat +
                (spawnFails externals (.handler worker) before
                  action).toNat +
              (after.workers worker).owedCalls =
            (before.workers worker).owedCalls :=
    fun holds pending taken => concludes_of_step? holds pending taken
  have balance := returns.run.occurrences_balance balances concludes
  have paid : (final.workers worker).owedCalls = 0 := by
    have returned := returns.returned
    change (final.workers worker).hasWritten = false at returned
    cases current : final.workers worker with
    | spawning job call =>
        rw [current] at returned
        cases returned
    | _ =>
        rfl
  rw [paid] at balance
  exact balance

variable (externals) in
/-- No request calls `emit`. -/
private theorem reports_request
    (slot : Fin slots)
    (id : Uuid)
    (state : State config slots)
    (action : Action config slots) :
    reports externals (.request slot) id state action = false := by
  cases action <;> simp [reports]

/-- The writes that bring a job into a reported state. -/
inductive EndedBy
    (state : State config slots)
    (id : Uuid) : Action config slots → Prop where
  | handler
      (worker : Fin config.workerCount)
      (job : Job)
      (result : ExecutionResult)
      (now : Time)
      (disposition : Disposition)
      (handling : state.workers worker = .handling job result now)
      (disposed :
        ResultHandler.dispose? config job result now =
          some disposition)
      (sameId : job.id = id)
      (reported : disposition.state.isReported = true) :
      EndedBy state id (.worker worker (.settle .ok))
  | request (slot : Fin slots) :
      EndedBy state id (.api slot (.call .ok))

/-- Only result handlers and requests end jobs that are no templates. -/
theorem endedBy_of_step?
    (grounded : state.Grounded)
    (taken : step? externals state action = some after)
    {old new : Job}
    (oldMember : old ∈ state.jobs.rows)
    (newMember : new ∈ after.jobs.rows)
    (ends : Ends old new) :
    state.EndedBy old.id action := by
  have reported := ends.reported
  rcases stateChange_of_step? taken oldMember newMember ends.sameId with
    schedule | change
  · exact (ends.changed schedule.state).elim
  · generalize new.state = reached at change reported
    cases change with
    | lease | begin | giveBack | reap | recover =>
        cases reported
    | settle worker job result now disposition handling disposed sameId =>
        exact .handler worker job result now disposition handling disposed
          sameId.symm reported
    | cancelJob slot | cancelTemplate slot | cancelInstances slot =>
        exact .request slot
    | completeTemplate worker job template spawning sameId =>
        have read :=
          (grounded.workers worker).template template
            (by rw [spawning]; rfl)
        have isTemplate := read.row_isTemplate oldMember sameId
        rw [ends.notTemplate] at isTemplate
        cases isTemplate

/-- The write of a terminal state leaves one call of `emit` owed or made. -/
private theorem concludes_of_settle
    {worker : Fin config.workerCount}
    {job : Job}
    {result : ExecutionResult}
    {now : Time}
    {disposition : Disposition}
    (handling : state.workers worker = .handling job result now)
    (disposed :
      ResultHandler.dispose? config job result now = some disposition)
    (reported : disposition.state.isReported = true)
    (taken :
      step? externals state (.worker worker (.settle .ok)) = some after) :
    (after.workers worker).Concludes job.id ∧
      (reports externals (.handler worker) job.id state
            (.worker worker (.settle .ok))).toNat +
          (after.workers worker).owedCalls =
        1 := by
  obtain ⟨shared, workerTaken⟩ := workerTaken_of_step? taken
  have settled := (settled_of_step? handling disposed taken).1
  simp only [reports, workerTaken, decide_true, Bool.true_and, settled]
  exact WorkerTask.concludes_afterSettle reported

/--
Whatever ends a job with a webhook is an operation.  If the process lives until
it returns, it has called `emit` for the job exactly once if and only if it is a
result handler whose spawn, if it makes one, has not failed.
-/
theorem reported_once_iff
    {clock : Time}
    {leading : List (Action config slots)}
    (run :
      Run externals TransitionSystem.Unrestricted
        (initial config slots clock) leading state)
    (taken : step? externals state action = some after)
    {old new : Job}
    (oldMember : old ∈ state.jobs.rows)
    (newMember : new ∈ after.jobs.rows)
    (ends : Ends old new) :
    ∃ operation ∈ action.operation?, ∀ rest final,
      Returns externals operation after rest final →
      (TransitionSystem.occurrences (step? externals)
            (reports externals operation old.id) state (action :: rest) =
          1 ↔
        operation.isHandler = true ∧
          TransitionSystem.occurrences (step? externals)
              (spawnFails externals operation) after rest =
            0) := by
  have grounded : state.Grounded :=
    run.invariant
      (fun grounded _ taken => grounded.step taken)
      (grounded_booted clock RecordTable.empty)
  cases endedBy_of_step? grounded taken oldMember newMember ends with
  | handler worker job result now disposition handling disposed sameId
      reported =>
      refine ⟨.handler worker, rfl, fun rest final returns => ?_⟩
      obtain ⟨concludes, written⟩ :=
        concludes_of_settle handling disposed reported taken
      have balance := reports_add_spawnFails returns concludes
      rw [← sameId]
      simp only [TransitionSystem.occurrences, taken,
        Operation.isHandler, true_and]
      omega
  | request slot =>
      refine ⟨.request slot, rfl, fun rest final _ => ?_⟩
      rw [TransitionSystem.occurrences_eq_zero
        (reports_request externals slot old.id)]
      simp [Operation.isHandler]

end State

/-! ## Concrete runs -/

namespace Sample

/-- A job for every minute that reports to a webhook. -/
def reported : CreateJobRequest :=
  { everyMinute "key" with webhookUrl := some "https://example.com" }

/-- Instance 2 has been executed with success, but nothing is written yet. -/
def executeReported : List (Action config 2) :=
  [ .api 0 (.arrive (.createJob clientId reported)),
    .api 0 (.call .ok),
    .api 0 (.call (.inserted 1)),
    .api 0 (.call (.inserted 2)),
    .api 0 .notifyOne,
    .api 0 .notifyOne ] ++
  executeInstance ++
  [ .worker 0 (.execute succeeds) ]

/-- The spawn inserts instance 3, and the delivery succeeds at once. -/
def spawnAndDeliver : List (Action config 2) :=
  [ .worker 0 (.spawn .ok),
    .worker 0 (.spawn .ok),
    .worker 0 (.spawn .ok),
    .worker 0 (.spawn (.inserted 3)),
    .worker 0 (.spawn .ok),
    .worker 0 (.spawn .ok),
    .worker 0 (.emit .ok),
    .worker 0 (.posted true),
    .worker 0 (.emit .ok) ]

/-- The spawn does not get to read its template. -/
def spawnFails : List (Action config 2) :=
  [ .worker 0 (.spawn (.error "pool timed out")) ]

/-- Instance 2 comes into its terminal state. -/
def EndsInstance (before after : JobTable) : Prop :=
  ∃ old ∈ before.rows, ∃ new ∈ after.rows,
    old.id = 2 ∧ new.state = .completed ∧ Ends old new

instance decidableEndsInstance (before after : JobTable) :
    Decidable (EndsInstance before after) :=
  inferInstanceAs (Decidable (∃ _ ∈ _, ∃ _ ∈ _, _))

/-- The success of instance 2 is written, and its handler returns. -/
structure Completes
    (rest : List (Action config 2))
    (state after final : State config 2) : Prop where
  run :
    State.Run externals TransitionSystem.Unrestricted
      (State.initial config 2 0) executeReported state
  taken :
    State.step? externals state (.worker 0 (.settle .ok)) = some after
  ends : EndsInstance state.jobs after.jobs
  returns : State.Returns externals (.handler 0) after rest final

/-- A replay that completes instance 2 and lets its handler return. -/
private theorem completes_of_replay?
    (rest : List (Action config 2))
    (check : State config 2 → State config 2 → Prop)
    (replayed :
      ∃ state ∈ TransitionSystem.replay? (State.step? externals)
          TransitionSystem.Unrestricted (State.initial config 2 0)
          executeReported,
        ∃ after ∈ State.step? externals state (.worker 0 (.settle .ok)),
          ∃ final ∈ TransitionSystem.replay? (State.step? externals)
              (State.Pending (.handler 0)) after rest,
            EndsInstance state.jobs after.jobs ∧
              final.underway (.handler 0) = false ∧
              check state after) :
    ∃ state after final,
      Completes rest state after final ∧ check state after := by
  obtain ⟨state, reached, after, taken, final, continued, ends, returned,
    checked⟩ := replayed
  exact ⟨state, after, final,
    { run := TransitionSystem.run_of_replay? reached
      taken := taken
      ends := ends
      returns := ⟨TransitionSystem.run_of_replay? continued, returned⟩ },
    checked⟩

/-- A success whose spawn goes well is reported once. -/
theorem successful_instance_reports_once :
    ∃ state after final,
      Completes spawnAndDeliver state after final ∧
        TransitionSystem.occurrences (State.step? externals)
            (State.reports externals (.handler 0) 2) state
            (.worker 0 (.settle .ok) :: spawnAndDeliver) =
          1 := by
  obtain ⟨state, after, final, completes, succeeds⟩ :=
    completes_of_replay? spawnAndDeliver
      (fun _ after =>
        TransitionSystem.occurrences (State.step? externals)
            (State.spawnFails externals (.handler 0)) after
            spawnAndDeliver =
          0)
      (by decide)
  obtain ⟨old, oldMember, new, newMember, isJob, _, ends⟩ :=
    completes.ends
  obtain ⟨operation, isHandler, reports⟩ :=
    State.reported_once_iff completes.run completes.taken oldMember
      newMember ends
  obtain rfl := Option.some.inj isHandler
  rw [isJob] at reports
  exact ⟨state, after, final, completes,
    (reports spawnAndDeliver final completes.returns).mpr
      ⟨rfl, succeeds⟩⟩

/-- A success is not reported if the spawn after it fails. -/
theorem failed_spawn_drops_report :
    ∃ state after final,
      Completes spawnFails state after final ∧
        TransitionSystem.occurrences (State.step? externals)
            (State.reports externals (.handler 0) 2) state
            (.worker 0 (.settle .ok) :: spawnFails) =
          0 :=
  completes_of_replay? _ _ (by decide)

end Sample

end Kronkeeper
