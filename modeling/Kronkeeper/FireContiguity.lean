import Kronkeeper.InstanceKeys

namespace Kronkeeper

/-!
# Consecutive fire times

A success spawns the instance for the fire after the `scheduled_at` its worker
was given.  A retry has moved that column since the `INSERT`, so the fire that
follows is the next one of the schedule only if no fire lies in between.
-/

/-! ## Least elements above two bounds -/

section LeastAbove

/-- The same elements of the set lie above both bounds. -/
def NoneBetween
    {Instant : Type*}
    [LT Instant]
    (matching : Set Instant)
    (first second : Instant) : Prop :=
  ∀ instant ∈ matching, first < instant ↔ second < instant

variable {Instant : Type*} [Preorder Instant]
variable {matching : Set Instant} {lower upper least : Instant}

theorem NoneBetween.refl
    (matching : Set Instant)
    (instant : Instant) :
    NoneBetween matching instant instant :=
  fun _ _ => Iff.rfl

/-- What is least above one bound is least above the other in this case only. -/
theorem isLeast_above_iff
    (isLeast :
      IsLeast {instant | instant ∈ matching ∧ upper < instant} least) :
    IsLeast {instant | instant ∈ matching ∧ lower < instant} least ↔
      NoneBetween matching lower upper := by
  constructor
  · intro isLeastToo instant isMatch
    constructor
    · intro above
      exact isLeast.1.2.trans_le (isLeastToo.2 ⟨isMatch, above⟩)
    · intro above
      exact isLeastToo.1.2.trans_le (isLeast.2 ⟨isMatch, above⟩)
  · intro none
    constructor
    · exact ⟨isLeast.1.1, (none least isLeast.1.1).mpr isLeast.1.2⟩
    · rintro instant ⟨isMatch, above⟩
      exact isLeast.2 ⟨isMatch, (none instant isMatch).mp above⟩

end LeastAbove

/-! ## What a spawn computes -/

/-- `schedule.after(&t).next()` answers the least matching instant after `t`. -/
def Externals.AnswersLeast
    (externals : Externals)
    (matching : String → Set Time) : Prop :=
  ∀ expr schedule,
    externals.scheduleFromStr expr = .ok schedule →
    ∀ after fire,
      schedule after = some fire ↔
        IsLeast {instant | instant ∈ matching expr ∧ after < instant} fire

namespace RecurringService

variable {externals : Externals}
variable {matching : String → Set Time}
variable {cronExpr : String}
variable {after earlier fire : Time}

/-- Two instants have the same next fire if none lies between them. -/
theorem nextFireAfter_eq_iff
    (least : externals.AnswersLeast matching)
    (isNext : nextFireAfter externals cronExpr after = .ok fire) :
    nextFireAfter externals cronExpr earlier = .ok fire ↔
      NoneBetween (matching (normalizeCronExpr cronExpr)) earlier
        after := by
  obtain ⟨schedule, parsed, answer⟩ := nextFireAfter_eq_ok_iff.mp isNext
  have answers := least _ schedule parsed
  rw [← isLeast_above_iff ((answers after fire).mp answer),
    ← answers earlier fire, nextFireAfter_eq_ok_iff]
  constructor
  · rintro ⟨other, otherParsed, otherAnswer⟩
    obtain rfl := Except.ok.inj (parsed.symm.trans otherParsed)
    exact otherAnswer
  · exact fun sameAnswer => ⟨schedule, parsed, sameAnswer⟩

end RecurringService

/-- The fire a spawn is at work on comes next after its job's instant. -/
def SpawnCall.FollowsOn
    (externals : Externals)
    (scheduledAt : Time) : SpawnCall → Prop
  | .readTemplate _ lastScheduledAt => lastScheduledAt = scheduledAt
  | .completeTemplate _ => True
  | .countSiblings template nextFire
  | .incrementSkipped template nextFire
  | .lookupKey template nextFire
  | .insertInstance template nextFire
  | .incrementInserted template nextFire =>
      ∃ cronExpr,
        template.cronExpr = some cronExpr ∧
          RecurringService.nextFireAfter externals cronExpr scheduledAt =
            .ok nextFire
  | .notifyOne _ => True

def WorkerTask.FollowsOn (externals : Externals) : WorkerTask → Prop
  | .spawning job call => call.FollowsOn externals job.scheduledAt
  | _ => True

section Moves

variable {config : Config} {externals : Externals}
variable {shared after : Shared}

theorem SpawnCall.Move.followsOn
    {scheduledAt : Time}
    {call next : SpawnCall}
    {reply : Reply}
    (moved : call.Move externals shared reply after (.next next))
    (follows : call.FollowsOn externals scheduledAt) :
    next.FollowsOn externals scheduledAt := by
  cases moved.successor with
  | count templateId lastScheduledAt template nextFire reads planned =>
      obtain rfl : lastScheduledAt = scheduledAt := follows
      exact (RecurringService.planSpawn_eq_countSiblings planned).2.2
  | complete | announce =>
      exact trivial
  | skip | lookup | insert | increment =>
      exact follows

theorem WorkerTask.Move.followsOn
    {task next : WorkerTask}
    {action : WorkerAction}
    (moved : task.Move config externals shared action after next)
    (follows : task.FollowsOn externals) :
    next.FollowsOn externals := by
  cases next with
  | spawning job call =>
      cases moved.spawnOrigin with
      | goesOn previous reply spawned =>
          exact spawned.followsOn follows
      | begins _ _ _ _ _ isRead =>
          subst isRead
          exact rfl
  | _ =>
      exact trivial

/-- A spawn carries the template it carried before, or one just read. -/
theorem WorkerTask.Move.template?_cases
    {task next : WorkerTask}
    {action : WorkerAction}
    (moved : task.Move config externals shared action after next)
    {template : Job}
    (carried : next.template? = some template) :
    task.template? = some template ∨ template ∈ shared.jobs.rows := by
  cases next with
  | spawning job call =>
      cases moved.spawnOrigin with
      | goesOn previous reply spawned =>
          cases spawned.successor with
          | complete _ _ _ reads | count _ _ _ _ reads =>
              obtain rfl := Option.some.inj carried
              exact Or.inr reads.member
          | _ =>
              exact Or.inl carried
      | begins _ _ _ _ _ isRead =>
          subst isRead
          cases carried
  | _ =>
      cases carried

end Moves

namespace State

variable {config : Config} {slots : Nat}

/-- The step does not patch the row with this id. -/
def KeepsCron
    (templateId : Uuid)
    (state : State config slots)
    (action : Action config slots) : Prop :=
  ∀ patch ∈ state.patch? action, ∀ row ∈ state.jobs.rows,
    row.id = templateId → patch.applies row = false

instance decidableKeepsCron
    (templateId : Uuid)
    (state : State config slots)
    (action : Action config slots) :
    Decidable (state.KeepsCron templateId action) :=
  (state.patch? action).decidableForallMem

/-- Whose success a worker follows up. -/
def spawner?
    (state : State config slots) : Action config slots → Option Job
  | .worker worker (.spawn _) =>
      match state.workers worker with
      | .spawning job _ => some job
      | _ => none
  | _ => none

/-- The step inserts `row` for `firing` as the successor of `job`. -/
structure SpawnsFor
    (state after : State config slots)
    (action : Action config slots)
    (job : Job)
    (firing : Firing)
    (row : Job) : Prop
    extends InsertsFor state after action firing row where
  isSpawner : state.spawner? action = some job

/-- What a spawn knows about its template and its predecessor. -/
structure SpawnsOnTime
    (externals : Externals)
    (templateId : Uuid)
    (state : State config slots) : Prop where
  grounded : state.Grounded
  spawnsOwn : state.SpawnsOwn
  followsOn : ∀ worker, (state.workers worker).FollowsOn externals
  cronRead :
    ∀ worker template,
      (state.workers worker).template? = some template →
      template.id = templateId →
      ∀ row ∈ state.jobs.rows,
        row.id = templateId → row.cronExpr = template.cronExpr

variable {externals : Externals}
variable {templateId : Uuid}

theorem spawnsOnTime_initial
    (clock : Time) :
    (initial config slots clock).SpawnsOnTime externals templateId where
  grounded := grounded_booted clock RecordTable.empty
  spawnsOwn := fun _ => trivial
  followsOn := fun _ => trivial
  cronRead := fun _ _ carried => by cases carried

variable {state after : State config slots}
variable {action : Action config slots}

/-- A template in the hands of a spawn has the cron expression of its row. -/
private theorem SpawnsOnTime.cronRead_step
    (onTime : state.SpawnsOnTime externals templateId)
    (keeps : state.KeepsCron templateId action)
    (taken : step? externals state action = some after)
    {worker : Fin config.workerCount}
    {template : Job}
    (carried : (after.workers worker).template? = some template)
    (isTemplate : template.id = templateId)
    {row : Job}
    (member : row ∈ after.jobs.rows)
    (isRow : row.id = templateId) :
    row.cronExpr = template.cronExpr := by
  have source :
      ∃ old ∈ state.jobs.rows,
        old.id = templateId ∧ old.cronExpr = template.cronExpr := by
    have carriedBefore :
        (state.workers worker).template? = some template →
        ∃ old ∈ state.jobs.rows,
          old.id = templateId ∧ old.cronExpr = template.cronExpr := by
      intro before
      have read := (onTime.grounded.workers worker).template template before
      obtain ⟨old, oldMember, identity⟩ := read.known
      have oldId :=
        (Job.id_eq_of_identity identity).trans isTemplate
      exact ⟨old, oldMember, oldId,
        onTime.cronRead worker template before isTemplate old oldMember
          oldId⟩
    cases workerStep_of_step? taken worker with
    | kept same =>
        exact carriedBefore (same ▸ carried)
    | idle notified isIdle =>
        rw [isIdle] at carried
        cases carried
    | moved workerAction shared isWorker moved =>
        rcases moved.template?_cases carried with before | isRead
        · exact carriedBefore before
        · exact ⟨template, isRead, isTemplate, rfl⟩
  obtain ⟨old, oldMember, oldId, sameCron⟩ := source
  rcases cronExpr_of_step? taken oldMember member
      (isRow.trans oldId.symm) with
    same | ⟨slot, clientId, id, req, patching, rfl, applies⟩
  · exact same.trans sameCron
  · have isPatch :
        state.patch? (.api slot (.call .ok)) =
          some
            (JobRepository.updateCronExpr state.clock id clientId
              req.cronExpr) := by
      simp [patch?, patching]
    have spared := keeps _ isPatch old oldMember oldId
    rw [applies] at spared
    cases spared

theorem SpawnsOnTime.step
    (onTime : state.SpawnsOnTime externals templateId)
    (keeps : state.KeepsCron templateId action)
    (taken : step? externals state action = some after) :
    after.SpawnsOnTime externals templateId where
  grounded := onTime.grounded.step taken
  spawnsOwn := onTime.spawnsOwn.step taken
  followsOn :=
    forall_workers_step (fun _ => trivial)
      (fun moved follows => moved.followsOn follows) taken
      onTime.followsOn
  cronRead := fun _ _ carried isTemplate _ member isRow =>
    onTime.cronRead_step keeps taken carried isTemplate member isRow

/-- The worker and the call behind an inserted successor. -/
theorem SpawnsFor.spawning
    {job : Job}
    {firing : Firing}
    {row : Job}
    (spawns : state.SpawnsFor after action job firing row) :
    ∃ worker template nextFire,
      state.workers worker =
          .spawning job (.insertInstance template nextFire) ∧
        firing = { templateId := template.id, fire := nextFire } := by
  have isSpawner := spawns.isSpawner
  have isFiring := spawns.isFiring
  cases action with
  | worker worker workerAction =>
      cases workerAction with
      | spawn reply =>
          simp only [spawner?] at isSpawner
          split at isSpawner
          · rename_i current call spawning
            cases isSpawner
            cases reply with
            | inserted id =>
                simp only [firing?, spawning] at isFiring
                split at isFiring
                · rename_i template nextFire sameTask
                  cases sameTask
                  exact ⟨worker, template, nextFire, spawning,
                    (Option.some.inj isFiring).symm⟩
                · cases isFiring
            | _ =>
                cases isFiring
          · cases isSpawner
      | _ =>
          cases isSpawner
  | _ =>
      cases isSpawner

/--
In a run that never patches a template, let an instance be inserted for one
fire time and have a successor inserted later.  The successor belongs to the
same template, and it is for the next fire time exactly if no fire time lies
between that of its predecessor and the `scheduled_at` the worker was given.
-/
theorem next_fire_contiguous_iff
    {matching : String → Set Time}
    (least : externals.AnswersLeast matching)
    {clock : Time}
    {leading trailing : List (Action config slots)}
    {before between state after : State config slots}
    {action nextAction : Action config slots}
    {fire : Time}
    {firing : Firing}
    {previous job next row : Job}
    {cronExpr : String}
    (earlier :
      Run externals (KeepsCron templateId) (initial config slots clock)
        leading before)
    (taken :
      Run externals (KeepsCron templateId) before [action] between)
    (inserts :
      before.InsertsFor between action
        { templateId := templateId, fire := fire } previous)
    (later :
      Run externals (KeepsCron templateId) between trailing state)
    (nextTaken : step? externals state nextAction = some after)
    (spawns : state.SpawnsFor after nextAction job firing next)
    (isPrevious : job.id = previous.id)
    (member : row ∈ state.jobs.rows)
    (isTemplate : row.id = templateId)
    (isCron : row.cronExpr = some cronExpr) :
    next.parentJobId = some templateId ∧
      next.scheduledAt = firing.fire ∧
      (RecurringService.nextFireAfter externals cronExpr fire =
          .ok firing.fire ↔
        NoneBetween
          (matching (RecurringService.normalizeCronExpr cronExpr)) fire
          job.scheduledAt) := by
  have onTime : state.SpawnsOnTime externals templateId :=
    (earlier.append (taken.append later)).invariant
      (fun onTime keeps taken => onTime.step keeps taken)
      (spawnsOnTime_initial clock)
  obtain ⟨_, _, nextParent, nextScheduled⟩ := spawns.row nextTaken
  obtain ⟨worker, template, nextFire, spawning, rfl⟩ := spawns.spawning
  have sameTemplate : template.id = templateId := by
    obtain ⟨_, _, isChild, _⟩ := inserts.row taken.single.2
    obtain ⟨child, childMember, childId, childParent⟩ :=
      onTime.spawnsOwn.exists_row onTime.grounded spawning
    have growth : between.jobs.Extends state.jobs :=
      extends_of_run later
    obtain ⟨old, oldMember, identity⟩ := growth previous inserts.member
    have oldId := Job.id_eq_of_identity identity
    have same : child = old :=
      RecordTable.eq_of_primary childMember oldMember
        (childId.trans (isPrevious.trans oldId.symm))
    rw [same, Job.parentJobId_eq_of_identity identity,
      isChild] at childParent
    exact (Option.some.inj childParent).symm
  refine ⟨nextParent.trans (congrArg some sameTemplate), nextScheduled,
    ?_⟩
  have follows := onTime.followsOn worker
  rw [spawning] at follows
  obtain ⟨readCron, isReadCron, isNext⟩ := follows
  have sameCron :=
    onTime.cronRead worker template (by rw [spawning]; rfl) sameTemplate
      row member isTemplate
  rw [isCron, isReadCron] at sameCron
  obtain rfl := Option.some.inj sameCron
  exact RecurringService.nextFireAfter_eq_iff least isNext

end State

/-! ## Concrete runs -/

namespace Sample

/-- The whole minutes match the expression of every minute, and no other. -/
def everyMinuteMatches (expr : String) : Set Time :=
  {instant | expr = "0 * * * * * *" ∧ instant % 60000000 = 0}

theorem isLeast_nextMinute
    (after : Int) :
    IsLeast {instant : Int | instant % 60000000 = 0 ∧ after < instant}
      ((after / 60000000 + 1) * 60000000) := by
  constructor
  · constructor <;> omega
  · rintro instant ⟨isMinute, isLater⟩
    omega

theorem externals_answersLeast :
    externals.AnswersLeast everyMinuteMatches := by
  intro expr schedule parsed after fire
  simp only [externals] at parsed
  split at parsed
  · rename_i isEveryMinute
    obtain rfl := Except.ok.inj parsed
    simp only [everyMinuteMatches, isEveryMinute, true_and,
      Set.mem_ofPred_eq, Option.some.injEq]
    constructor
    · rintro rfl
      exact isLeast_nextMinute after
    · exact fun isLeast => (isLeast_nextMinute after).unique isLeast
  · cases parsed

/-- Create template 1. -/
def createTemplate : List (Action config 2) :=
  [ .api 0 (.arrive (.createJob clientId (everyMinute "key"))),
    .api 0 (.call .ok),
    .api 0 (.call (.inserted 1)) ]

/-- Insert its first instance, job 2. -/
def insertFirst : Action config 2 :=
  .api 0 (.call (.inserted 2))

/-- Insert the successor of job 2, job 3. -/
def insertSuccessor : Action config 2 :=
  .worker 0 (.spawn (.inserted 3))

/-- Job 2 succeeds, and its spawn gets to the `INSERT`. -/
def succeedAndSpawn : List (Action config 2) :=
  [ .worker 0 (.execute succeeds),
    .worker 0 (.settle .ok),
    .worker 0 (.spawn .ok),
    .worker 0 (.spawn .ok),
    .worker 0 (.spawn .ok) ]

/-- Job 2 is executed when it is due. -/
def succeedAtOnce : List (Action config 2) :=
  [ .api 0 .notifyOne,
    .api 0 .notifyOne ] ++
  executeInstance ++ succeedAndSpawn

/-- Jobs 2 and 3 are inserted, 3 as the successor of a copy of 2. -/
def Succeeds
    (scheduledAt nextFire : Time)
    (before between state after : State config 2) : Prop :=
  before.firing? insertFirst =
      some { templateId := 1, fire := 60000000 } ∧
    (∀ old ∈ before.jobs.rows, old.id ≠ 2) ∧
    (∃ previous ∈ between.jobs.rows, previous.id = 2) ∧
    (∃ job ∈ state.spawner? insertSuccessor,
      job.id = 2 ∧ job.scheduledAt = scheduledAt) ∧
    state.firing? insertSuccessor =
      some { templateId := 1, fire := nextFire } ∧
    (∀ old ∈ state.jobs.rows, old.id ≠ 3) ∧
    (∃ next ∈ after.jobs.rows, next.id = 3) ∧
    ∃ row ∈ state.jobs.rows,
      row.id = 1 ∧ row.cronExpr = some "* * * * *"

instance decidableSucceeds
    (scheduledAt nextFire : Time)
    (before between state after : State config 2) :
    Decidable
      (Succeeds scheduledAt nextFire before between state after) :=
  inferInstanceAs (Decidable (_ ∧ _))

/-- The runs around the two `INSERT`s, and the rows they insert. -/
def SuccessorOf
    (scheduledAt nextFire : Time)
    (trailing : List (Action config 2))
    (before between state after : State config 2)
    (previous job next row : Job) : Prop :=
  State.Run externals (State.KeepsCron 1) (State.initial config 2 0)
      createTemplate before ∧
    State.Run externals (State.KeepsCron 1) before [insertFirst]
      between ∧
    State.Run externals (State.KeepsCron 1) between trailing state ∧
    State.step? externals state insertSuccessor = some after ∧
    before.InsertsFor between insertFirst
      { templateId := 1, fire := 60000000 } previous ∧
    state.SpawnsFor after insertSuccessor job
      { templateId := 1, fire := nextFire } next ∧
    job.id = previous.id ∧
    job.scheduledAt = scheduledAt ∧
    row ∈ state.jobs.rows ∧
    row.id = 1 ∧
    row.cronExpr = some "* * * * *"

/-- A replay yields both `INSERT`s. -/
theorem exists_successor
    {scheduledAt nextFire : Time}
    {trailing : List (Action config 2)}
    (replayed :
      ∃ before between state after,
        State.Run externals (State.KeepsCron 1)
            (State.initial config 2 0) createTemplate before ∧
          State.Run externals (State.KeepsCron 1) before [insertFirst]
            between ∧
          State.Run externals (State.KeepsCron 1) between trailing
            state ∧
          State.Run externals (State.KeepsCron 1) state [insertSuccessor]
            after ∧
          Succeeds scheduledAt nextFire before between state after) :
    ∃ before between state after previous job next row,
      SuccessorOf scheduledAt nextFire trailing before between state
        after previous job next row := by
  obtain ⟨before, between, state, after, earlier, taken, later, nextTaken,
    isFirst, isNew, ⟨previous, previousMember, previousId⟩,
    ⟨job, isSpawner, jobId, jobTime⟩, isNext, isNextNew,
    ⟨next, nextMember, nextId⟩, ⟨row, member, rowId, isCron⟩⟩ := replayed
  refine ⟨before, between, state, after, previous, job, next, row,
    earlier, taken, later, nextTaken.single.2,
    ⟨isFirst, ?_, previousMember⟩,
    ⟨⟨isNext, ?_, nextMember⟩, isSpawner⟩,
    jobId.trans previousId.symm, jobTime, member, rowId, isCron⟩
  · rw [previousId]
    exact isNew
  · rw [nextId]
    exact isNextNew

/-- A success at the first attempt is followed by the next minute. -/
theorem punctual_success_is_contiguous :
    ∃ before between state after previous job next row,
      SuccessorOf 60000000 120000000 succeedAtOnce before between state
          after previous job next row ∧
        next.scheduledAt = 120000000 ∧
        RecurringService.nextFireAfter externals "* * * * *" 60000000 =
          .ok 120000000 := by
  obtain ⟨before, between, state, after, previous, job, next, row,
      successor⟩ :=
    exists_successor
      (TransitionSystem.exists_steps_of_replay? _ _ _ _ _ succeedAtOnce _
        (Succeeds 60000000 120000000) (by decide))
  refine ⟨before, between, state, after, previous, job, next, row,
    successor, ?_⟩
  obtain ⟨earlier, taken, later, nextTaken, inserts, spawns, isPrevious,
    onTime, member, isTemplate, isCron⟩ := successor
  obtain ⟨_, nextTime, contiguous⟩ :=
    State.next_fire_contiguous_iff externals_answersLeast earlier taken
      inserts later nextTaken spawns isPrevious member isTemplate isCron
  refine ⟨nextTime, contiguous.mpr ?_⟩
  rw [onTime]
  exact NoneBetween.refl _ _

/-- Job 2 fails at the first minute and is executed again at the second. -/
def failAndRetry : List (Action config 2) :=
  [ .worker 0 (.execute fails),
    .worker 0 (.settle .ok),
    .worker 0 .notifyOne,
    .worker 0 .deactivate,
    .scheduler .dispatchDone,
    .scheduler .notified,
    .scheduler (.refresh [⟨2, 120000000⟩]),
    .tick 60000000,
    .scheduler .sleepElapsed,
    .scheduler (.lease ⟨2, 120000000⟩ .ok),
    .scheduler .trySend,
    .worker 0 .recv,
    .worker 0 .activate,
    .worker 0 (.setRunning .ok) ]

/-- The second execution succeeds. -/
def failAndSucceed : List (Action config 2) :=
  [ .api 0 .notifyOne,
    .api 0 .notifyOne ] ++
  executeInstance ++ failAndRetry ++ succeedAndSpawn

/-- After a retry the fire of the second minute is left out. -/
theorem retried_success_skips_fire :
    (∃ before between state after previous job next row,
      SuccessorOf 120000000 180000000 failAndSucceed before between state
        after previous job next row) ∧
      RecurringService.nextFireAfter externals "* * * * *" 60000000 =
        .ok 120000000 ∧
      RecurringService.nextFireAfter externals "* * * * *" 60000000 ≠
        .ok 180000000 := by
  refine ⟨exists_successor
    (TransitionSystem.exists_steps_of_replay? _ _ _ _ _ failAndSucceed _
      (Succeeds 120000000 180000000) (by decide)), rfl, ?_⟩
  intro same
  cases same

end Sample

end Kronkeeper
