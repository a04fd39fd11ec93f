import Kronkeeper.Provenance

namespace Kronkeeper

/-!
# Repeated webhook deliveries

`emit` resumes its count of attempts from the row, but never reads
`webhook_success`.  What keeps a later call from touching a delivered row is
its check of the state alone.
-/

namespace WebhookEmitter

theorem attempt_ne_returned
    (config : Config)
    (job : Job)
    (url : String)
    (attempts : Int) :
    attempt config job url attempts ≠ .returned := by
  unfold attempt
  split <;> nofun

/-- `emit` goes on to deliver exactly for a terminal row with a URL. -/
theorem planDelivery_eq_returned_iff
    {config : Config}
    {read : Option Job} :
    planDelivery config read = .returned ↔
      ∀ row ∈ read,
        row.state.isTerminal = true → row.webhookUrl = none := by
  cases read with
  | none =>
      simp [planDelivery]
  | some row =>
      cases terminal : row.state.isTerminal with
      | false =>
          simp [planDelivery, terminal]
      | true =>
          cases isUrl : row.webhookUrl with
          | none =>
              simp [planDelivery, terminal, isUrl]
          | some url =>
              simp [planDelivery, terminal, isUrl, attempt_ne_returned]

end WebhookEmitter

namespace WorkerTask

/-- The job whose webhook a worker is delivering, past the checks. -/
def delivers? : WorkerTask → Option Job
  | .emitting job (.post _ _ _) => some job
  | .emitting job (.recordResult _ _) => some job
  | _ => none

/-- `emit` leaves a worker with the job it was called for. -/
theorem eq_of_delivers?_afterEmit
    {job delivered : Job}
    {progress : EmitProgress}
    (delivering : (afterEmit job progress).delivers? = some delivered) :
    delivered = job := by
  rcases progress with (_ | _ | _) | _ <;> cases delivering
  · rfl
  · rfl

section Steps

variable {config : Config} {externals : Externals}
variable {shared after : Shared}
variable {task next : WorkerTask}
variable {action : WorkerAction}

/-- A delivery goes on, or `emit` has just found a row that asks for it. -/
theorem delivers?_of_step?
    (taken :
      task.step? config externals shared action = some (after, next))
    {job : Job}
    (delivering : next.delivers? = some job) :
    task.delivers? = some job ∨
      ∃ row ∈ shared.jobs.rows,
        row.id = job.id ∧ row.webhookUrl.isSome = true := by
  have moved := move_of_step? taken
  cases moved with
  | emit held call reply progress =>
      obtain rfl := eq_of_delivers?_afterEmit delivering
      cases call with
      | loadJob =>
          cases reply with
          | ok =>
              simp only [step?, Option.some.injEq, Prod.mk.injEq,
                true_and] at taken
              rw [← taken] at delivering
              have goesOn :
                  WebhookEmitter.planDelivery config
                      (JobRepository.getJobByIdInternal shared.jobs
                        job.id) ≠ .returned := by
                intro returned
                rw [returned] at delivering
                cases delivering
              rw [Ne, WebhookEmitter.planDelivery_eq_returned_iff]
                at goesOn
              push Not at goesOn
              obtain ⟨row, found, _, hasUrl⟩ := goesOn
              obtain ⟨member, sameId⟩ :=
                RecordTable.find?_eq_some_iff.mp found
              exact Or.inr ⟨row, member, sameId,
                Option.isSome_iff_ne_none.mpr hasUrl⟩
          | error message =>
              simp only [step?, Option.some.injEq, Prod.mk.injEq,
                true_and] at taken
              rw [← taken] at delivering
              cases delivering
          | inserted id =>
              cases taken
      | post | recordResult =>
          exact Or.inl rfl
  | post held call delivered progress =>
      obtain rfl := eq_of_delivers?_afterEmit delivering
      cases call with
      | loadJob =>
          cases taken
      | post | recordResult =>
          exact Or.inl rfl
  | settle held result now disposition =>
      cases disposition with
      | complete =>
          cases isChild : held.parentJobId <;>
            simp [afterSettle, isChild, delivers?] at delivering
      | expire | deadLetter | retry =>
          cases delivering
  | spawn held call reply after progress =>
      rcases progress with _ | _ | _ <;> cases delivering
  | _ =>
      cases delivering

end Steps

end WorkerTask

namespace State

variable {config : Config} {slots : Nat}
variable {externals : Externals}
variable {state after : State config slots}
variable {action : Action config slots}

/-- A delivery is for a row with a webhook. -/
def DeliversToUrls (state : State config slots) : Prop :=
  ∀ worker job,
    (state.workers worker).delivers? = some job →
    ∃ row ∈ state.jobs.rows,
      row.id = job.id ∧ row.webhookUrl.isSome = true

/-- A row with a webhook keeps it. -/
private theorem hasUrl_grow
    {before later : JobTable}
    {id : Uuid}
    (growth : before.Extends later)
    (hasUrl :
      ∃ row ∈ before.rows,
        row.id = id ∧ row.webhookUrl.isSome = true) :
    ∃ row ∈ later.rows,
      row.id = id ∧ row.webhookUrl.isSome = true := by
  obtain ⟨row, member, sameId, isSome⟩ := hasUrl
  obtain ⟨new, newMember, same⟩ := growth row member
  exact ⟨new, newMember, (Job.id_eq_of_identity same).trans sameId,
    (congrArg (fun identity => identity.webhookUrl.isSome) same).trans
      isSome⟩

theorem DeliversToUrls.step
    (delivers : state.DeliversToUrls)
    (taken : step? externals state action = some after) :
    after.DeliversToUrls := by
  intro worker job delivering
  refine hasUrl_grow (extends_of_step? taken) ?_
  cases workerStep_of_step? taken worker with
  | kept same =>
      exact delivers worker job (same ▸ delivering)
  | idle notified isIdle =>
      rw [isIdle] at delivering
      cases delivering
  | moved workerAction shared isWorker moved =>
      subst isWorker
      obtain ⟨_, workerTaken⟩ := workerTaken_of_step? taken
      rcases WorkerTask.delivers?_of_step? workerTaken delivering with
        before | found
      · exact delivers worker job before
      · exact found

theorem deliversToUrls_initial
    (clock : Time) :
    (initial config slots clock).DeliversToUrls :=
  fun _ _ delivering => by cases delivering

/-! ## A later call of `emit` -/

/-- The worker does not get to its next job. -/
def WithinCall
    (worker : Fin config.workerCount)
    (_ : State config slots)
    (action : Action config slots) : Prop :=
  action ≠ .worker worker .deactivate ∧ action ≠ .restart

/-- The step POSTs the webhook, or records that it was not delivered. -/
inductive Redelivers
    (state : State config slots)
    (worker : Fin config.workerCount) :
    Action config slots → Prop where
  | post (delivered : Bool) :
      Redelivers state worker (.worker worker (.posted delivered))
  | recordFailure
      (job : Job)
      (attempts : Int)
      (recording :
        state.workers worker =
          .emitting job (.recordResult false attempts)) :
      Redelivers state worker (.worker worker (.emit .ok))

/-- However the call goes on, it neither POSTs nor records a failure. -/
def LeavesAlone
    (externals : Externals)
    (worker : Fin config.workerCount)
    (state : State config slots) : Prop :=
  ∀ actions last,
    Run externals (WithinCall worker) state actions last →
    ∀ action after,
      step? externals last action = some after →
      ¬last.Redelivers worker action

/-- A worker whose `handle` has returned waits to be counted off. -/
private theorem finishing_step
    {worker : Fin config.workerCount}
    (finishing : state.workers worker = .finishing)
    (within : state.WithinCall worker action)
    (taken : step? externals state action = some after) :
    after.workers worker = .finishing := by
  cases workerStep_of_step? taken worker with
  | kept same =>
      exact same.trans finishing
  | idle notified isIdle wasIdle =>
      rcases wasIdle with isRestart | ⟨before, isBefore⟩
      · exact (within.2 isRestart).elim
      · rw [finishing] at isBefore
        cases isBefore
  | moved workerAction shared isWorker moved =>
      rw [finishing] at moved
      generalize after.workers worker = next at moved
      cases moved with
      | deactivate =>
          exact (within.1 isWorker).elim

/-- A call that has returned leaves the webhook alone. -/
private theorem leavesAlone_of_finishing
    {worker : Fin config.workerCount}
    (finishing : state.workers worker = .finishing) :
    LeavesAlone externals worker state := by
  intro actions last run action after taken redelivers
  have stillFinishing : last.workers worker = .finishing :=
    run.invariant
      (fun finishing within taken => finishing_step finishing within taken)
      finishing
  cases redelivers with
  | post delivered =>
      obtain ⟨_, moved, _⟩ := workerMove_of_step? taken
      rw [stillFinishing] at moved
      generalize after.workers worker = next at moved
      cases moved
  | recordFailure job attempts recording =>
      rw [stillFinishing] at recording
      cases recording

/-- A call past its checks can POST, or record that it has not delivered. -/
private theorem not_leavesAlone_of_attempt
    {worker : Fin config.workerCount}
    {job body : Job}
    {url : String}
    {attempts : Int}
    (attempting :
      state.workers worker =
        .afterEmit job
          (WebhookEmitter.attempt config body url attempts)) :
    ¬LeavesAlone externals worker state := by
  intro leavesAlone
  unfold WebhookEmitter.attempt at attempting
  split at attempting
  · have posts :=
      leavesAlone [] state (.nil state) (.worker worker (.posted true))
    simp only [step?, attempting, WorkerTask.afterEmit,
      WorkerTask.step?] at posts
    exact posts _ rfl (.post true)
  · have records :=
      leavesAlone [] state (.nil state) (.worker worker (.emit .ok))
    simp only [step?, attempting, WorkerTask.afterEmit,
      WorkerTask.step?] at records
    exact records _ rfl (.recordFailure job attempts attempting)

/--
A call of `emit` for a job whose delivery has been recorded leaves the webhook
alone if and only if it reads the row in no terminal state, or fails to read it.
-/
theorem leavesAlone_iff_of_delivered
    {clock : Time}
    {leading trailing : List (Action config slots)}
    {before recorded current loaded : State config slots}
    (reached :
      Run externals TransitionSystem.Unrestricted
        (initial config slots clock) leading before)
    {deliverer : Fin config.workerCount}
    {copy : Job}
    {attempts : Int}
    (delivered :
      before.workers deliverer =
        .emitting copy (.recordResult true attempts))
    (records :
      step? externals before (.worker deliverer (.emit .ok)) =
        some recorded)
    (later :
      Run externals TransitionSystem.Unrestricted recorded trailing
        current)
    {worker : Fin config.workerCount}
    {job : Job}
    (calls : current.workers worker = .emitting job .loadJob)
    (sameJob : job.id = copy.id)
    {reply : Reply}
    (loads :
      step? externals current (.worker worker (.emit reply)) =
        some loaded) :
    LeavesAlone externals worker loaded ↔
      (reply = .ok →
        ∀ row ∈ current.jobs.rows,
          row.id = job.id → row.state.isTerminal = false) := by
  obtain ⟨_, workerTaken⟩ := workerTaken_of_step? loads
  rw [calls] at workerTaken
  cases reply with
  | inserted id =>
      cases workerTaken
  | error message =>
      simp only [WorkerTask.step?, Option.some.injEq,
        Prod.mk.injEq] at workerTaken
      exact iff_of_true (leavesAlone_of_finishing workerTaken.2.symm)
        nofun
  | ok =>
      simp only [WorkerTask.step?, Option.some.injEq,
        Prod.mk.injEq] at workerTaken
      have progress := workerTaken.2.symm
      have delivers : before.DeliversToUrls :=
        reached.invariant
          (fun delivers _ taken => delivers.step taken)
          (deliversToUrls_initial clock)
      have growth : before.jobs.Extends current.jobs :=
        (extends_of_step? records).trans (extends_of_run later)
      obtain ⟨row, member, sameId, hasUrl⟩ :=
        hasUrl_grow growth
          (delivers deliverer copy (by rw [delivered]; rfl))
      have rowId : row.id = job.id := sameId.trans sameJob.symm
      have found :
          JobRepository.getJobByIdInternal current.jobs job.id =
            some row :=
        RecordTable.find?_eq_some_iff.mpr ⟨member, rowId⟩
      obtain ⟨url, isUrl⟩ := Option.isSome_iff_exists.mp hasUrl
      have onlyRow :
          (∀ other ∈ current.jobs.rows,
              other.id = job.id → other.state.isTerminal = false) ↔
            row.state.isTerminal = false := by
        constructor
        · exact fun idle => idle row member rowId
        · intro idle other otherMember otherId
          rw [RecordTable.eq_of_primary otherMember member
            (otherId.trans rowId.symm)]
          exact idle
      simp only [forall_const, onlyRow]
      rw [found] at progress
      cases terminal : row.state.isTerminal with
      | false =>
          have returned :
              WebhookEmitter.planDelivery config (some row) =
                .returned := by
            rw [WebhookEmitter.planDelivery_eq_returned_iff]
            intro other isOther isTerminal
            obtain rfl := Option.some.inj isOther
            rw [terminal] at isTerminal
            cases isTerminal
          rw [returned] at progress
          exact iff_of_true (leavesAlone_of_finishing progress) rfl
      | true =>
          simp only [WebhookEmitter.planDelivery, terminal, isUrl]
            at progress
          exact iff_of_false (not_leavesAlone_of_attempt progress) nofun

end State

/-! ## Concrete runs -/

namespace Sample

/-- Create job 1 with a webhook and bring a copy of it into the channel. -/
def sendWithWebhook : List (Action config 1) :=
  [ .api 0 (.arrive (.createJob clientId
      { oneOff "key" with webhookUrl := some "https://example.com" })),
    .api 0 (.call .ok),
    .api 0 (.call (.inserted 1)),
    .api 0 .notifyOne,
    .scheduler (.refresh [⟨1, 0⟩]),
    .scheduler .sleepElapsed,
    .scheduler (.lease ⟨1, 0⟩ .ok),
    .scheduler .trySend,
    .scheduler .dispatchDone ]

/-- The lease of the waiting copy expires, and job 1 is sent once more. -/
def sendAgain : List (Action config 1) :=
  [ .tick 31000000,
    .reaper (.reap .ok),
    .reaper .notifyOne,
    .scheduler .notified,
    .scheduler (.refresh [⟨1, 0⟩]),
    .scheduler .sleepElapsed,
    .scheduler (.lease ⟨1, 0⟩ .ok),
    .scheduler .trySend,
    .scheduler .dispatchDone ]

/-- Both workers start a copy; the first one completes and is delivered. -/
def deliverFirst : List (Action config 1) :=
  begin 0 ++ begin 1 ++
  [ .worker 0 (.execute succeeds),
    .worker 0 (.settle .ok),
    .worker 0 (.emit .ok),
    .worker 0 (.posted true) ]

/-- The second copy completes as well. -/
def completeSecond : List (Action config 1) :=
  [ .worker 1 (.execute succeeds),
    .worker 1 (.settle .ok) ]

/-- Job 1 is delivered by worker 0; then worker 1 calls `emit` for it. -/
structure CallsAgain
    (leading trailing : List (Action config 1))
    (before recorded current loaded : State config 1) : Prop where
  reached :
    State.Run externals TransitionSystem.Unrestricted
      (State.initial config 1 0) leading before
  delivered :
    ∃ copy attempts,
      before.workers 0 = .emitting copy (.recordResult true attempts) ∧
        copy.id = 1
  records :
    State.step? externals before (.worker 0 (.emit .ok)) = some recorded
  later :
    State.Run externals TransitionSystem.Unrestricted recorded trailing
      current
  calls : ∃ job, current.workers 1 = .emitting job .loadJob ∧ job.id = 1
  loads :
    State.step? externals current (.worker 1 (.emit .ok)) = some loaded

/-- The job a worker has in `emit`, where it stands in the call. -/
private def emits? : WorkerTask → Option (Uuid × EmitCall)
  | .emitting job call => some (job.id, call)
  | _ => none

private theorem emitting_of_emits?
    {task : WorkerTask}
    {id : Uuid}
    {call : EmitCall}
    (emits : emits? task = some (id, call)) :
    ∃ job, task = .emitting job call ∧ job.id = id := by
  unfold emits? at emits
  split at emits
  · rename_i job held
    cases emits
    exact ⟨job, rfl, rfl⟩
  · cases emits

/-- A replay in which worker 1 calls `emit` for the delivered job. -/
private theorem callsAgain_of_replay?
    (leading trailing : List (Action config 1))
    (check : State config 1 → State config 1 → Prop)
    (replayed :
      ∃ before ∈ TransitionSystem.replay? (State.step? externals)
          TransitionSystem.Unrestricted (State.initial config 1 0)
          leading,
        ∃ recorded ∈ State.step? externals before
            (.worker 0 (.emit .ok)),
          ∃ current ∈ TransitionSystem.replay? (State.step? externals)
              TransitionSystem.Unrestricted recorded trailing,
            ∃ loaded ∈ State.step? externals current
                (.worker 1 (.emit .ok)),
              emits? (before.workers 0) =
                  some (1, .recordResult true 1) ∧
                emits? (current.workers 1) = some (1, .loadJob) ∧
                check current loaded) :
    ∃ before recorded current loaded,
      CallsAgain leading trailing before recorded current loaded ∧
        check current loaded := by
  obtain ⟨before, reached, recorded, records, current, continued, loaded,
    loads, delivered, calls, checked⟩ := replayed
  obtain ⟨copy, isCopy, copyId⟩ := emitting_of_emits? delivered
  exact ⟨before, recorded, current, loaded,
    { reached := TransitionSystem.run_of_replay? reached
      delivered := ⟨copy, 1, isCopy, copyId⟩
      records := records
      later := TransitionSystem.run_of_replay? continued
      calls := emitting_of_emits? calls
      loads := loads },
    checked⟩

set_option maxRecDepth 4000 in
/-- A later call that finds the job running again leaves it alone. -/
theorem running_job_is_left_alone :
    ∃ before recorded current loaded,
      CallsAgain
          (sendWithWebhook ++ sendAgain ++ sendAgain ++ deliverFirst)
          (.worker 0 .deactivate :: completeSecond ++ begin 0)
          before recorded current loaded ∧
        State.LeavesAlone externals 1 loaded := by
  obtain ⟨before, recorded, current, loaded, again, idle⟩ :=
    callsAgain_of_replay?
      (sendWithWebhook ++ sendAgain ++ sendAgain ++ deliverFirst)
      (.worker 0 .deactivate :: completeSecond ++ begin 0)
      (fun current _ =>
        ∀ row ∈ current.jobs.rows, row.state.isTerminal = false)
      (by decide)
  obtain ⟨copy, attempts, delivered, copyId⟩ := again.delivered
  obtain ⟨job, calls, jobId⟩ := again.calls
  exact ⟨before, recorded, current, loaded, again,
    (State.leavesAlone_iff_of_delivered again.reached delivered
      again.records again.later calls (jobId.trans copyId.symm)
      again.loads).mpr
        fun _ row member _ => idle row member⟩

set_option synthInstance.maxSize 256 in
/-- The second completion of a delivered job makes `emit` POST again. -/
theorem delivered_webhook_is_posted_again :
    ∃ before recorded current loaded,
      CallsAgain (sendWithWebhook ++ sendAgain ++ deliverFirst)
          (.worker 0 .deactivate :: completeSecond)
          before recorded current loaded ∧
        current.jobs.rows.map Job.webhookSuccess = [some true] ∧
        ¬State.LeavesAlone externals 1 loaded := by
  obtain ⟨before, recorded, current, loaded, again, stored, posts⟩ :=
    callsAgain_of_replay?
      (sendWithWebhook ++ sendAgain ++ deliverFirst)
      (.worker 0 .deactivate :: completeSecond)
      (fun current loaded =>
        current.jobs.rows.map Job.webhookSuccess = [some true] ∧
          (State.step? externals loaded
            (.worker 1 (.posted true))).isSome = true)
      (by decide)
  obtain ⟨after, posts⟩ := Option.isSome_iff_exists.mp posts
  exact ⟨before, recorded, current, loaded, again, stored,
    fun leavesAlone =>
      leavesAlone [] loaded (.nil loaded) _ after posts (.post true)⟩

end Sample

end Kronkeeper
