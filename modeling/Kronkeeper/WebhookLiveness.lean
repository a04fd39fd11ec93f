import Kronkeeper.JobCompletion
import Kronkeeper.WebhookDelivery

namespace Kronkeeper

/-!
# Every ended job is reported

Whoever settles a one-off job for good goes on to `emit`.  There the row is
still terminal and still has its URL, the delivery loop is bounded, and behind
the loop the outcome is recorded.
-/

namespace State

open JobRepository

variable {config : Config} {slots : Nat}

/-- The worker records the outcome of the delivery of its copy's job. -/
def RecordsDelivery
    (state : State config slots)
    (action : Action config slots)
    (worker : Fin config.workerCount)
    (job : Job)
    (success : Bool)
    (attempts : Int) : Prop :=
  action = .worker worker (.emit .ok) ∧
    state.workers worker = .emitting job (.recordResult success attempts)

variable {externals : Externals}
variable {state after : State config slots}
variable {action : Action config slots}
variable {row : Job}

/-- What is recorded is in the row. -/
theorem RecordsDelivery.recorded
    {worker : Fin config.workerCount}
    {job : Job}
    {success : Bool}
    {attempts : Int}
    (records : state.RecordsDelivery action worker job success attempts)
    (taken : step? externals state action = some after)
    (member : row ∈ state.jobs.rows)
    (jobId : job.id = row.id) :
    ∃ new ∈ after.jobs.rows,
      new.identity = row.identity ∧ new.state = row.state ∧
        new.webhookSuccess = some success ∧
        new.webhookAttempts = attempts := by
  obtain ⟨rfl, emitting⟩ := records
  simp only [step?, emitting, WorkerTask.step?, Option.map_some,
    Option.some.injEq] at taken
  subst after
  let update :=
    updateWebhookResult state.clock job.id success attempts
  have applies : update.applies row = true := by
    simp [update, updateWebhookResult, jobId]
  refine ⟨update.image row, ?_, update.identity_image row, ?_⟩
  · rw [dropClosed_jobs]
    exact RecordTable.mem_update.mpr ⟨row, member, rfl⟩
  · rw [RowUpdate.image_of_applies applies]
    exact ⟨rfl, rfl, rfl⟩

/-- With the row terminal and its URL in it, `emit` goes on to its record. -/
theorem KeepsEveryCopy.emits_on
    (keepsCopies : state.KeepsEveryCopy action)
    (taken : step? externals state action = some after)
    {worker : Fin config.workerCount}
    {job : Job}
    {call : EmitCall}
    (emitting : state.workers worker = .emitting job call)
    (member : row ∈ state.jobs.rows)
    (jobId : job.id = row.id)
    (terminal : row.state.isTerminal = true)
    (hasWebhook : row.webhookUrl.isSome = true) :
    (∃ next, after.workers worker = .emitting job next) ∨
      ∃ success attempts,
        state.RecordsDelivery action worker job success attempts := by
  have attempts_on (body : Job) (url : String) (attempts : Int) :
      ∃ next,
        WorkerTask.afterEmit job
            (WebhookEmitter.attempt config body url attempts) =
          .emitting job next := by
    unfold WebhookEmitter.attempt
    split <;> exact ⟨_, rfl⟩
  cases workerStep_of_step? taken worker with
  | kept same =>
      exact Or.inl ⟨call, same.trans emitting⟩
  | idle notified isIdle wasIdle =>
      rcases wasIdle with isRestart | ⟨before, wasIdle⟩
      · exact (keepsCopies.withRoom.notRestart isRestart).elim
      · rw [wasIdle] at emitting
        cases emitting
  | moved workerAction shared isWorker =>
      subst isWorker
      have succeeds := keepsCopies.withRoom.succeeds
      obtain ⟨_, workerTaken⟩ := workerTaken_of_step? taken
      rw [emitting] at workerTaken
      generalize after.workers worker = task at workerTaken ⊢
      cases call with
      | loadJob =>
          cases workerAction with
          | emit reply =>
              cases reply with
              | ok =>
                  left
                  cases workerTaken
                  have found :
                      getJobByIdInternal state.jobs job.id = some row :=
                    RecordTable.find?_eq_some_iff.mpr
                      ⟨member, jobId.symm⟩
                  obtain ⟨url, isUrl⟩ :=
                    Option.isSome_iff_exists.mp hasWebhook
                  simp only [WebhookEmitter.planDelivery, found, terminal,
                    isUrl, Bool.not_true, Bool.false_eq_true, if_false]
                  exact attempts_on _ _ _
              | error =>
                  cases succeeds
              | inserted =>
                  cases workerTaken
          | _ =>
              cases workerTaken
      | post body url attempts =>
          cases workerAction with
          | posted delivered =>
              left
              cases workerTaken
              unfold WebhookEmitter.afterPost
              split
              · exact ⟨_, rfl⟩
              · exact attempts_on _ _ _
          | _ =>
              cases workerTaken
      | recordResult success attempts =>
          cases workerAction with
          | emit reply =>
              cases reply with
              | ok =>
                  exact Or.inr ⟨success, attempts, rfl, emitting⟩
              | error =>
                  cases succeeds
              | inserted =>
                  cases workerTaken
          | _ =>
              cases workerTaken

/-! ## Along an execution -/

/--
From the end of the job on the worker is in `emit` for it, and then it records
the outcome.
-/
structure Execution.Reports
    (execution : Execution config slots externals)
    (ended recorded : Nat)
    (worker : Fin config.workerCount)
    (job : Job)
    (success : Bool)
    (attempts : Int) : Prop where
  order : ended ≤ recorded
  emits :
    ∀ between, ended ≤ between → between ≤ recorded →
      ∃ call,
        (execution.state between).workers worker = .emitting job call
  records :
    (execution.state recorded).RecordsDelivery (execution.action recorded)
      worker job success attempts

namespace FairCompletion

variable {execution : Execution config slots externals}
variable {start : Nat}

/-- A worker about to report on an ended job comes to record the outcome. -/
theorem reports
    (completion : FairCompletion externals execution)
    (member : row ∈ (execution.state start).jobs.rows)
    (notTemplate : row.isTemplate = false)
    (terminal : row.state.isTerminal = true)
    (hasWebhook : row.webhookUrl.isSome = true)
    {worker : Fin config.workerCount}
    {job : Job}
    (jobId : job.id = row.id)
    (emitting :
      (execution.state start).workers worker = .emitting job .loadJob) :
    ∃ recorded success attempts,
      execution.Reports start recorded worker job success attempts := by
  suffices comes :
      ∃ recorded, start ≤ recorded ∧ ∃ success attempts,
        execution.Reports start recorded worker job success attempts by
    obtain ⟨recorded, _, reports⟩ := comes
    exact ⟨recorded, reports⟩
  refine @FairDispatch.reaches _ _ _ _ start completion.toFairDispatch
    (.worker worker)
    (fun index =>
      start ≤ index ∧
        ∀ between, start ≤ between → between ≤ index →
          ∃ call,
            (execution.state between).workers worker = .emitting job call)
    (fun index =>
      ∃ success attempts,
        execution.Reports start index worker job success attempts)
    ?_ ?_ ⟨Nat.le_refl _, fun between after before => ?_⟩
  · rintro index ⟨after, emits⟩
    obtain ⟨call, emitting⟩ := emits index after (Nat.le_refl _)
    refine WorkerTask.busy_iff_work_pos.mp ?_
    rw [emitting]
    rfl
  · rintro index ⟨after, emits⟩ unmet
    obtain ⟨call, emitting⟩ := emits index after (Nat.le_refl _)
    obtain ⟨current, currentMember, identity, stillTerminal⟩ :=
      completion.stays_ended member notTemplate terminal after
    have sameId := Job.id_eq_of_identity identity
    have stillWebhook : current.webhookUrl.isSome = true :=
      (congrArg (fun identity => identity.webhookUrl.isSome)
        identity).trans hasWebhook
    refine ⟨after.trans (Nat.le_succ _), fun between further before => ?_⟩
    rcases Nat.le_succ_iff.mp before with earlier | rfl
    · exact emits between further earlier
    · rcases (completion.keepsCopies index).emits_on
          (execution.taken index) emitting currentMember
          (jobId.trans sameId.symm) stillTerminal stillWebhook with
        goesOn | ⟨success, attempts, records⟩
      · exact goesOn
      · exact (unmet ⟨success, attempts, after, emits, records⟩).elim
  · rw [Nat.le_antisymm before after]
    exact ⟨_, emitting⟩

end FairCompletion

end State

/-! ## A concrete execution -/

namespace Sample

/-- Job 1 succeeds, and its webhook is delivered with the second POST. -/
def succeedAndDeliver : List (Action config 1) :=
  sendWithWebhook.drop 3 ++ begin 0 ++
  [ .worker 0 (.execute succeeds),
    .worker 0 (.settle .ok),
    .worker 0 (.emit .ok),
    .worker 0 (.posted false),
    .worker 0 (.posted true),
    .worker 0 (.emit .ok),
    .worker 0 .deactivate,
    .scheduler .notified,
    .scheduler (.refresh []) ]

end Sample

end Kronkeeper
