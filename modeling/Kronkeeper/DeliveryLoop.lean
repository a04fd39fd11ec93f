import Kronkeeper.BoundedRetry
import Kronkeeper.RetryBudget
import Kronkeeper.LoneWorker

namespace Kronkeeper

/-!
# The delivery loop of a webhook

One call of `emit` for a job whose row is terminal and has a webhook.  What the
rest of the process does to the shared state between its steps is arbitrary;
`outcomes` fixes in advance how each POST would end.
-/

open BoundedRetry

/-- A task goes on, over whatever shared state it finds. -/
def WorkerTask.next?
    (config : Config)
    (externals : Externals)
    (task : WorkerTask)
    (step : Shared × WorkerAction) : Option WorkerTask :=
  (task.step? config externals step.1 step.2).map Prod.snd

namespace WebhookEmitter

/-- No repository call of the emitter fails. -/
def Emits (_ : WorkerTask) (step : Shared × WorkerAction) : Prop :=
  step.2.concludes = true

instance (task : WorkerTask) (step : Shared × WorkerAction) :
    Decidable (Emits task step) :=
  inferInstanceAs (Decidable (_ = _))

/-- How a step ends a POST, if it is one. -/
def delivered? : Shared × WorkerAction → Option Bool
  | (_, .posted delivered) => some delivered
  | _ => none

/-- How the POSTs of these steps ended. -/
def deliveries (steps : List (Shared × WorkerAction)) : List Bool :=
  steps.filterMap delivered?

/-- The POSTs end as `outcomes` says, from the one after `posted` others on. -/
def FollowsFrom
    (outcomes : Nat → Bool)
    (posted : Nat)
    (steps : List (Shared × WorkerAction)) : Prop :=
  deliveries steps =
    (List.range' posted (deliveries steps).length).map outcomes

/-- How many POSTs are left to a job that has made this many attempts. -/
def postLimit (config : Config) (attempts : Int) : Nat :=
  (config.webhookMaxRetries + 1 - attempts).toNat

/-- Where a call of `emit` stands that has loaded its job. -/
inductive Stands
    (config : Config)
    (job body : Job)
    (url : String)
    (outcomes : Nat → Bool)
    (posted : Nat) : WorkerTask → Prop where
  | delivering
      (pending :
        Pending outcomes (postLimit config body.webhookAttempts) posted) :
      Stands config job body url outcomes posted
        (.emitting job (.post body url (body.webhookAttempts + posted)))
  | recording
      (succeeded : Bool)
      (stops :
        StopsAfter outcomes (postLimit config body.webhookAttempts) posted
          succeeded) :
      Stands config job body url outcomes posted
        (.emitting job
          (.recordResult succeeded (body.webhookAttempts + posted)))

section Loop

variable {config : Config}
variable {externals : Externals}
variable {job body : Job}
variable {url : String}
variable {outcomes : Nat → Bool}
variable {posted : Nat}

/-- The head of the loop, after so many POSTs that all failed. -/
theorem stands_attempt
    (failed : ∀ earlier < posted, outcomes earlier = false)
    (within : posted ≤ postLimit config body.webhookAttempts) :
    Stands config job body url outcomes posted
      (WorkerTask.afterEmit job
        (attempt config body url (body.webhookAttempts + posted))) := by
  unfold attempt
  unfold postLimit at within
  split
  · exact .delivering ⟨by unfold postLimit; omega, failed⟩
  · rename_i exhausted
    have atLimit :
        posted = postLimit config body.webhookAttempts := by
      unfold postLimit
      omega
    refine .recording false ?_
    rw [atLimit] at failed ⊢
    exact .exhausts failed

/-- The attempts of a pending delivery do not wrap. -/
theorem wrapI32_attempts
    (nonneg : 0 ≤ body.webhookAttempts)
    (limited : config.webhookMaxRetries < 2 ^ 31 - 1)
    (pending :
      Pending outcomes (postLimit config body.webhookAttempts) posted) :
    wrapI32 (body.webhookAttempts + posted + 1) =
      body.webhookAttempts + (posted + 1 : Nat) := by
  have within := pending.within
  unfold postLimit at within
  rw [wrapI32_eq_self (by omega) (by omega)]
  omega

/-- One POST more. -/
theorem stands_afterPost
    (nonneg : 0 ≤ body.webhookAttempts)
    (limited : config.webhookMaxRetries < 2 ^ 31 - 1)
    (pending :
      Pending outcomes (postLimit config body.webhookAttempts) posted) :
    Stands config job body url outcomes (posted + 1)
      (WorkerTask.afterEmit job
        (afterPost config body url (body.webhookAttempts + posted)
          (outcomes posted))) := by
  unfold afterPost
  rw [wrapI32_attempts nonneg limited pending]
  cases outcome : outcomes posted with
  | true =>
      exact .recording true (pending.succeeds outcome)
  | false =>
      refine stands_attempt ?_ pending.within
      intro earlier before
      rcases Nat.lt_succ_iff_lt_or_eq.mp before with before | rfl
      · exact pending.failed earlier before
      · exact outcome

/-- A step of a delivering task is the end of its POST. -/
theorem next?_delivering
    {attempts : Int}
    {step : Shared × WorkerAction}
    {next : WorkerTask}
    (taken :
      WorkerTask.next? config externals
          (.emitting job (.post body url attempts)) step =
        some next) :
    ∃ shared delivered,
      step = (shared, .posted delivered) ∧
        next =
          WorkerTask.afterEmit job
            (afterPost config body url attempts delivered) := by
  obtain ⟨shared, action⟩ := step
  cases action with
  | posted delivered =>
      exact ⟨shared, delivered, rfl, (Option.some.inj taken).symm⟩
  | emit reply =>
      cases reply <;> cases taken
  | _ =>
      cases taken

/-- A step of a recording task is its write. -/
theorem next?_recording
    {success : Bool}
    {attempts : Int}
    {step : Shared × WorkerAction}
    {next : WorkerTask}
    (emits : step.2.concludes = true)
    (taken :
      WorkerTask.next? config externals
          (.emitting job (.recordResult success attempts)) step =
        some next) :
    step.2 = .emit .ok ∧ next = .finishing := by
  obtain ⟨shared, action⟩ := step
  cases action with
  | emit reply =>
      cases reply with
      | ok => exact ⟨rfl, (Option.some.inj taken).symm⟩
      | inserted id => cases taken
      | error message => cases emits
  | _ =>
      cases taken

/-- The emitter has nothing to do once it has returned. -/
theorem run_finishing
    {steps : List (Shared × WorkerAction)}
    {final : WorkerTask}
    (run :
      TransitionSystem.Run (WorkerTask.next? config externals) Emits
        .finishing steps final) :
    steps = [] := by
  cases run with
  | nil =>
      rfl
  | @cons _ _ _ step _ emits taken _ =>
      obtain ⟨shared, action⟩ := step
      cases action with
      | deactivate => cases emits
      | _ => cases taken

theorem followsFrom_posted
    {shared : Shared}
    {delivered : Bool}
    {rest : List (Shared × WorkerAction)}
    (follows :
      FollowsFrom outcomes posted ((shared, .posted delivered) :: rest)) :
    delivered = outcomes posted ∧ FollowsFrom outcomes (posted + 1) rest :=
  List.cons.inj follows

/--
The emitter records, as its last step, how many POSTs it has made and whether
the last one succeeded.
-/
def RecordsAfter
    (config : Config)
    (externals : Externals)
    (job body : Job)
    (outcomes : Nat → Bool)
    (total : Nat)
    (task : WorkerTask)
    (steps : List (Shared × WorkerAction)) : Prop :=
  ∃ earlier last succeeded,
    steps = earlier ++ [(last, .emit .ok)] ∧
      StopsAfter outcomes (postLimit config body.webhookAttempts) total
        succeeded ∧
      TransitionSystem.Run (WorkerTask.next? config externals) Emits task
        earlier
        (.emitting job
          (.recordResult succeeded (body.webhookAttempts + total)))

/-- The induction over the POSTs that are left. -/
theorem Stands.recordsAfter
    {task : WorkerTask}
    {steps : List (Shared × WorkerAction)}
    (nonneg : 0 ≤ body.webhookAttempts)
    (limited : config.webhookMaxRetries < 2 ^ 31 - 1)
    (stands : Stands config job body url outcomes posted task)
    (follows : FollowsFrom outcomes posted steps)
    (run :
      TransitionSystem.Run (WorkerTask.next? config externals) Emits task
        steps .finishing) :
    RecordsAfter config externals job body outcomes
      (posted + (deliveries steps).length) task steps := by
  generalize isEnd : WorkerTask.finishing = final at run
  induction run generalizing posted with
  | nil task =>
      subst isEnd
      cases stands
  | @cons task next final step rest emits taken later
      inductionHypothesis =>
      cases stands with
      | delivering pending =>
          obtain ⟨shared, delivered, rfl, rfl⟩ := next?_delivering taken
          obtain ⟨rfl, followsLater⟩ := followsFrom_posted follows
          have sameTotal :
              posted +
                  (deliveries
                    ((shared, .posted (outcomes posted)) :: rest)).length =
                posted + 1 + (deliveries rest).length := by
            change posted + ((deliveries rest).length + 1) = _
            omega
          obtain ⟨earlier, last, succeeded, split, stops, recorded⟩ :=
            inductionHypothesis
              (stands_afterPost nonneg limited pending) followsLater isEnd
          rw [sameTotal]
          exact ⟨(shared, .posted (outcomes posted)) :: earlier, last,
            succeeded, congrArg _ split, stops,
            .cons emits taken recorded⟩
      | recording succeeded stops =>
          obtain ⟨isWrite, rfl⟩ := next?_recording emits taken
          obtain rfl := run_finishing later
          obtain ⟨shared, action⟩ := step
          obtain rfl : action = .emit .ok := isWrite
          exact ⟨[], shared, succeeded, rfl, stops, .nil _⟩

/-- Some steps, over these shared states, take the emitter to its end. -/
def CanRecord
    (config : Config)
    (externals : Externals)
    (outcomes : Nat → Bool)
    (posted : Nat)
    (task : WorkerTask) : Prop :=
  ∀ environment : Nat → Shared,
    ∃ steps,
      steps.map Prod.fst =
          (List.range steps.length).map environment ∧
        FollowsFrom outcomes posted steps ∧
        TransitionSystem.Run (WorkerTask.next? config externals) Emits task
          steps .finishing

/-- One step more in front. -/
theorem CanRecord.of_step
    {task next : WorkerTask}
    {later : Nat}
    (action : WorkerAction)
    (emits : action.concludes = true)
    (taken :
      ∀ shared,
        WorkerTask.next? config externals task (shared, action) =
          some next)
    (follows :
      ∀ shared rest,
        FollowsFrom outcomes later rest →
        FollowsFrom outcomes posted ((shared, action) :: rest))
    (canRecord : CanRecord config externals outcomes later next) :
    CanRecord config externals outcomes posted task := by
  intro environment
  obtain ⟨rest, states, followsLater, run⟩ :=
    canRecord fun index => environment (index + 1)
  refine ⟨(environment 0, action) :: rest, ?_, follows _ _ followsLater,
    .cons emits (taken _) run⟩
  rw [List.map_cons, states, List.length_cons, List.range_succ_eq_map,
    List.map_cons, List.map_map]
  rfl

theorem canRecord_finishing :
    CanRecord config externals outcomes posted .finishing :=
  fun _ => ⟨[], rfl, rfl, .nil _⟩

/-- The loop ends however the POSTs do. -/
theorem Stands.canRecord
    {task : WorkerTask}
    (nonneg : 0 ≤ body.webhookAttempts)
    (limited : config.webhookMaxRetries < 2 ^ 31 - 1)
    (stands : Stands config job body url outcomes posted task) :
    CanRecord config externals outcomes posted task := by
  generalize left :
    postLimit config body.webhookAttempts - posted = remaining
  induction remaining generalizing posted task with
  | zero =>
      cases stands with
      | delivering pending =>
          have within := pending.within
          omega
      | recording succeeded stops =>
          exact .of_step (.emit .ok) rfl (fun _ => rfl)
            (fun _ _ follows => follows) canRecord_finishing
  | succ remaining inductionHypothesis =>
      cases stands with
      | delivering pending =>
          refine .of_step (.posted (outcomes posted)) rfl (fun _ => rfl)
            ?_ (inductionHypothesis
              (stands_afterPost nonneg limited pending) (by omega))
          intro shared rest follows
          exact congrArg (outcomes posted :: ·) follows
      | recording succeeded stops =>
          exact .of_step (.emit .ok) rfl (fun _ => rfl)
            (fun _ _ follows => follows) canRecord_finishing

/-- A call of `emit` in its loop or past it. -/
inductive Loops (config : Config) : WorkerTask → Prop where
  | posting
      (job body : Job)
      (url : String)
      (attempts : Int)
      (nonneg : 0 ≤ attempts)
      (within : attempts ≤ config.webhookMaxRetries) :
      Loops config (.emitting job (.post body url attempts))
  | recording (job : Job) (success : Bool) (attempts : Int) :
      Loops config (.emitting job (.recordResult success attempts))
  | returned : Loops config .finishing

/-- The steps that are left to a call of `emit`. -/
def stepsLeft (config : Config) : WorkerTask → Nat
  | .emitting _ (.post _ _ attempts) => postLimit config attempts + 1
  | .emitting _ (.recordResult _ _) => 1
  | _ => 0

theorem loops_attempt
    {attempts : Int}
    (nonneg : 0 ≤ attempts) :
    Loops config
        (WorkerTask.afterEmit job (attempt config body url attempts)) ∧
      stepsLeft config
          (WorkerTask.afterEmit job (attempt config body url attempts)) ≤
        postLimit config attempts + 1 := by
  unfold attempt
  split
  · rename_i within
    exact ⟨.posting job body url attempts nonneg within, Nat.le_refl _⟩
  · exact ⟨.recording job false attempts, Nat.le_add_left 1 _⟩

/-- Every step of the loop leaves fewer steps. -/
theorem Loops.step
    {task next : WorkerTask}
    {step : Shared × WorkerAction}
    (limited : config.webhookMaxRetries < 2 ^ 31 - 1)
    (loops : Loops config task)
    (emits : Emits task step)
    (taken : WorkerTask.next? config externals task step = some next) :
    Loops config next ∧ stepsLeft config next < stepsLeft config task := by
  cases loops with
  | posting job body url attempts nonneg within =>
      obtain ⟨shared, delivered, rfl, rfl⟩ := next?_delivering taken
      have noWrap : wrapI32 (attempts + 1) = attempts + 1 :=
        wrapI32_eq_self (by omega) (by omega)
      have positive : 0 < postLimit config attempts := by
        unfold postLimit
        omega
      unfold afterPost
      rw [noWrap]
      cases delivered with
      | true =>
          exact ⟨.recording job true (attempts + 1),
            Nat.succ_lt_succ positive⟩
      | false =>
          have nextNonneg : 0 ≤ attempts + 1 := by omega
          obtain ⟨loops, bound⟩ := loops_attempt nextNonneg
          refine ⟨loops, Nat.lt_of_le_of_lt bound ?_⟩
          simp only [stepsLeft, postLimit] at positive ⊢
          omega
  | recording job success attempts =>
      obtain ⟨_, rfl⟩ := next?_recording emits taken
      exact ⟨.returned, Nat.zero_lt_one⟩
  | returned =>
      have none := run_finishing (.cons emits taken (.nil next))
      cases none

end Loop

/-! ## The whole call -/

section Call

variable {config : Config}
variable {externals : Externals}
variable {shared : Shared}
variable {job row : Job}
variable {url : String}

/-- The row that `emit` loads is due a delivery. -/
structure Deliverable
    (shared : Shared)
    (job row : Job)
    (url : String) : Prop where
  member : row ∈ shared.jobs.rows
  sameId : row.id = job.id
  terminal : row.state.isTerminal = true
  hasUrl : row.webhookUrl = some url
  nonneg : 0 ≤ row.webhookAttempts

/-- The load takes the task to the head of its loop. -/
theorem Deliverable.loads
    (deliverable : Deliverable shared job row url) :
    WorkerTask.next? config externals (.emitting job .loadJob)
        (shared, .emit .ok) =
      some
        (WorkerTask.afterEmit job
          (attempt config row url row.webhookAttempts)) := by
  have found :
      JobRepository.getJobByIdInternal shared.jobs job.id = some row :=
    RecordTable.find?_eq_some_iff.mpr
      ⟨deliverable.member, deliverable.sameId⟩
  simp only [WorkerTask.next?, WorkerTask.step?, found, Option.map_some,
    planDelivery, deliverable.terminal, deliverable.hasUrl,
    Bool.not_true, Bool.false_eq_true, if_false]

/-- The columns that `update_webhook_result` leaves in the row of the job. -/
theorem recorded_row
    {current : Job}
    (now : Time)
    (success : Bool)
    (attempts : Int)
    (member :
      current ∈
        (shared.jobs.update
          (JobRepository.updateWebhookResult now job.id success
            attempts)).rows)
    (sameId : current.id = job.id) :
    current.webhookSuccess = some success ∧
      current.webhookAttempts = attempts := by
  obtain ⟨old, _, rfl⟩ := RecordTable.mem_update.mp member
  have oldId : old.id = job.id := by
    rw [← sameId]
    exact (Job.id_eq_of_identity
      (RowUpdate.identity_image
        (JobRepository.updateWebhookResult now job.id success attempts)
        old)).symm
  rw [RowUpdate.image_of_applies
    (by simp [JobRepository.updateWebhookResult, oldId])]
  exact ⟨rfl, rfl⟩

/--
A call of `emit` posts up to its first success or as often as its limit admits,
comes to its end whatever happens, and records the attempts and the success of
its last POST.
-/
theorem delivery_bounded_and_recorded
    (deliverable : Deliverable shared job row url)
    (limited : config.webhookMaxRetries < 2 ^ 31 - 1)
    (outcomes : Nat → Bool) :
    (∀ environment : Nat → Shared,
      environment 0 = shared →
      ∃ steps,
        steps.map Prod.fst =
            (List.range steps.length).map environment ∧
          FollowsFrom outcomes 0 steps ∧
          TransitionSystem.Run (WorkerTask.next? config externals) Emits
            (.emitting job .loadJob) steps .finishing) ∧
      (∀ steps final,
        TransitionSystem.Run (WorkerTask.next? config externals) Emits
          (.emitting job .loadJob) ((shared, .emit .ok) :: steps) final →
        steps.length ≤ postLimit config row.webhookAttempts + 1) ∧
      ∀ steps,
        TransitionSystem.Run (WorkerTask.next? config externals) Emits
          (.emitting job .loadJob) ((shared, .emit .ok) :: steps)
          .finishing →
        FollowsFrom outcomes 0 steps →
        ∃ earlier last succeeded after,
          (shared, WorkerAction.emit .ok) :: steps =
              earlier ++ [(last, .emit .ok)] ∧
            StopsAfter outcomes (postLimit config row.webhookAttempts)
              (deliveries steps).length succeeded ∧
            TransitionSystem.Run (WorkerTask.next? config externals) Emits
              (.emitting job .loadJob) earlier
              (.emitting job
                (.recordResult succeeded
                  (row.webhookAttempts + (deliveries steps).length))) ∧
            WorkerTask.step? config externals last
                (.emitting job
                  (.recordResult succeeded
                    (row.webhookAttempts + (deliveries steps).length)))
                (.emit .ok) =
              some (after, .finishing) ∧
            ∀ current ∈ after.jobs.rows,
              current.id = job.id →
              current.webhookSuccess = some succeeded ∧
                current.webhookAttempts =
                  row.webhookAttempts + (deliveries steps).length := by
  have nonneg := deliverable.nonneg
  have stands :
      Stands config job row url outcomes 0
        (WorkerTask.afterEmit job
          (attempt config row url row.webhookAttempts)) := by
    have head :
        Stands config job row url outcomes 0
          (WorkerTask.afterEmit job
            (attempt config row url (row.webhookAttempts + (0 : Nat)))) :=
      stands_attempt (fun _ before => (Nat.not_lt_zero _ before).elim)
        (Nat.zero_le _)
    rwa [Int.natCast_zero, Int.add_zero] at head
  refine ⟨?_, ?_, ?_⟩
  · intro environment isShared
    have canRecord : CanRecord config externals outcomes 0 _ :=
      stands.canRecord nonneg limited
    obtain ⟨rest, states, follows, run⟩ :=
      canRecord fun index => environment (index + 1)
    refine ⟨(environment 0, .emit .ok) :: rest, ?_, follows,
      .cons rfl (isShared ▸ deliverable.loads) run⟩
    rw [List.map_cons, states, List.length_cons, List.range_succ_eq_map,
      List.map_cons, List.map_map]
    rfl
  · intro steps final run
    obtain ⟨_, later⟩ :=
      (TransitionSystem.Run.cons_iff deliverable.loads).mp run
    have head :
        Loops config
            (WorkerTask.afterEmit job
              (attempt config row url row.webhookAttempts)) ∧
          stepsLeft config
              (WorkerTask.afterEmit job
                (attempt config row url row.webhookAttempts)) ≤
            postLimit config row.webhookAttempts + 1 :=
      loops_attempt nonneg
    exact Nat.le_trans
      (later.length_le (Loops config) (stepsLeft config)
        (fun loops emits taken => loops.step limited emits taken) head.1)
      head.2
  · intro steps run follows
    obtain ⟨emits, later⟩ :=
      (TransitionSystem.Run.cons_iff deliverable.loads).mp run
    obtain ⟨earlier, last, succeeded, split, stops, recorded⟩ :=
      stands.recordsAfter nonneg limited follows later
    rw [Nat.zero_add] at stops recorded
    refine ⟨(shared, .emit .ok) :: earlier, last, succeeded, _,
      congrArg _ split, stops,
      .cons emits deliverable.loads recorded, rfl, ?_⟩
    intro current member sameId
    exact recorded_row last.clock succeeded _ member sameId

end Call

end WebhookEmitter

/-! ## A concrete delivery -/

namespace Sample

/-- A completed job with a webhook. -/
def completedJob : Job :=
  { JobRepository.oneOffRow 0 1 clientId
      { oneOff "key" with webhookUrl := some "http://hook" } with
    state := .completed }

/-- Two deliveries fail, the third one succeeds, and that is recorded. -/
def deliverAtThird : List (Shared × WorkerAction) :=
  [ (sharing completedJob, .posted false),
    (sharing completedJob, .posted false),
    (sharing completedJob, .posted true),
    (sharing completedJob, .emit .ok) ]

/-- The third POST is the last one, and counted as the third. -/
theorem third_delivery_is_recorded :
    ∃ last after succeeded,
      BoundedRetry.StopsAfter (fun index => index == 2)
          (WebhookEmitter.postLimit config 0) 3 succeeded ∧
        WorkerTask.step? config externals last
            (.emitting completedJob (.recordResult succeeded 3))
            (.emit .ok) =
          some (after, .finishing) ∧
        ∀ current ∈ after.jobs.rows,
          current.id = 1 →
          current.webhookSuccess = some succeeded ∧
            current.webhookAttempts = 3 := by
  have deliverable :
      WebhookEmitter.Deliverable (sharing completedJob) completedJob
        completedJob "http://hook" :=
    ⟨List.mem_singleton_self _, rfl, rfl, rfl, by decide⟩
  have limited : config.webhookMaxRetries < 2 ^ 31 - 1 := by decide
  have run :
      TransitionSystem.Run (WorkerTask.next? config externals)
        WebhookEmitter.Emits (.emitting completedJob .loadJob)
        ((sharing completedJob, .emit .ok) :: deliverAtThird)
        .finishing :=
    TransitionSystem.run_of_replay? (by decide)
  obtain ⟨_, _, records⟩ :=
    WebhookEmitter.delivery_bounded_and_recorded deliverable limited
      (fun index => index == 2)
  obtain ⟨_, last, succeeded, after, _, stops, _, recorded, columns⟩ :=
    records deliverAtThird run rfl
  exact ⟨last, after, succeeded, stops, recorded, columns⟩

end Sample

end Kronkeeper
