import Kronkeeper.InstanceRows
import Kronkeeper.LastRestart
import Kronkeeper.RecurringChain

namespace Kronkeeper

/-!
# Every success is followed up

A chain goes on by one link at a time: the worker that completes an instance
runs the spawn for its template.  Where no copy is lost the spawn comes to its
decision, and an instance it inserts comes to its own end, after which the next
link follows in the same way.
-/

/-! ## What a spawn decides -/

namespace RecurringService

variable {externals : Externals}
variable {template : Job}
variable {lastScheduledAt : Time}
variable {cronExpr : String}

/-- The template fires at `fire` next after this instant. -/
def FiresNext
    (externals : Externals)
    (template : Job)
    (lastScheduledAt fire : Time) : Prop :=
  ∃ cronExpr,
    template.cronExpr = some cronExpr ∧
      nextFireAfter externals cronExpr lastScheduledAt = .ok fire

/-- The template has run out of occurrences, or its next fire is too late. -/
def IsOver
    (externals : Externals)
    (template : Job)
    (lastScheduledAt : Time) : Prop :=
  occurrencesReached template = true ∨
    ∃ fire,
      FiresNext externals template lastScheduledAt fire ∧
        pastEnd template fire = true

/-- The template is cancelled, or its expression yields no next fire. -/
def IsStopped
    (externals : Externals)
    (template : Job)
    (lastScheduledAt : Time) : Prop :=
  template.state = .cancelled ∨
    ∃ cronExpr message,
      template.cronExpr = some cronExpr ∧
        nextFireAfter externals cronExpr lastScheduledAt = .error message

/-- The checks of a spawn on the template of a row. -/
theorem planSpawn_cases
    (isTemplate : template.isTemplate = true)
    (templateRow : TemplateRow template) :
    (IsStopped externals template lastScheduledAt ∧
        ∃ succeeded,
          planSpawn externals lastScheduledAt (some template) =
            .returned succeeded) ∨
      (IsOver externals template lastScheduledAt ∧
        planSpawn externals lastScheduledAt (some template) =
          .next (.completeTemplate template)) ∨
      ∃ fire,
        FiresNext externals template lastScheduledAt fire ∧
          planSpawn externals lastScheduledAt (some template) =
            .next (.countSiblings template fire) := by
  obtain ⟨cronExpr, isCron⟩ :=
    Option.isSome_iff_exists.mp templateRow.hasCron
  by_cases isCancelled : template.state = .cancelled
  · exact Or.inl ⟨Or.inl isCancelled, true, by
      simp [planSpawn, isTemplate, templateRow.isRecurring, isCancelled]⟩
  · have isRecurring := templateRow.isRecurring
    by_cases reached : occurrencesReached template = true
    · refine Or.inr (Or.inl ⟨Or.inl reached, ?_⟩)
      simp [planSpawn, isTemplate, isRecurring, isCancelled, isCron,
        reached]
    · cases isFire : nextFireAfter externals cronExpr lastScheduledAt with
      | error message =>
          refine Or.inl
            ⟨Or.inr ⟨cronExpr, message, isCron, isFire⟩, false, ?_⟩
          simp [planSpawn, isTemplate, isRecurring, isCancelled, isCron,
            reached, isFire]
      | ok fire =>
          have firesNext :
              FiresNext externals template lastScheduledAt fire :=
            ⟨cronExpr, isCron, isFire⟩
          by_cases tooLate : pastEnd template fire = true
          · refine Or.inr (Or.inl ⟨Or.inr ⟨fire, firesNext, tooLate⟩, ?_⟩)
            simp [planSpawn, isTemplate, isRecurring, isCancelled, isCron,
              reached, isFire, tooLate]
          · refine Or.inr (Or.inr ⟨fire, firesNext, ?_⟩)
            simp [planSpawn, isTemplate, isRecurring, isCancelled, isCron,
              reached, isFire, tooLate]

end RecurringService

open RecurringService

/-- The spawn after this job has not yet come to its decision. -/
inductive SpawnCall.Undecided
    (externals : Externals)
    (job : Job)
    (templateId : Uuid) : SpawnCall → Prop where
  | reads :
      Undecided externals job templateId
        (.readTemplate templateId job.scheduledAt)
  | completes
      (template : Job)
      (isParent : template.id = templateId)
      (isOver : IsOver externals template job.scheduledAt) :
      Undecided externals job templateId (.completeTemplate template)
  | counts
      (template : Job)
      (fire : Time)
      (isParent : template.id = templateId)
      (firesNext : FiresNext externals template job.scheduledAt fire) :
      Undecided externals job templateId (.countSiblings template fire)
  | looks
      (template : Job)
      (fire : Time)
      (isParent : template.id = templateId)
      (firesNext : FiresNext externals template job.scheduledAt fire) :
      Undecided externals job templateId (.lookupKey template fire)
  | inserts
      (template : Job)
      (fire : Time)
      (isParent : template.id = templateId)
      (firesNext : FiresNext externals template job.scheduledAt fire) :
      Undecided externals job templateId (.insertInstance template fire)

namespace State

variable {config : Config} {slots : Nat}

/-- What the spawn after the job comes to, and the instance it adds if any. -/
inductive FollowsUp
    (externals : Externals)
    (state after : State config slots)
    (worker : Fin config.workerCount)
    (job : Job)
    (templateId : Uuid) : Action config slots → Option Job → Prop where
  /-- The instance for the next fire is in the table. -/
  | inserted
      (template : Job)
      (fire : Time)
      (id : Uuid)
      (row : Job)
      (spawning :
        state.workers worker = .spawning job (.insertInstance template fire))
      (isParent : template.id = templateId)
      (firesNext : FiresNext externals template job.scheduledAt fire)
      (isNew : ∀ old ∈ state.jobs.rows, old.id ≠ row.id)
      (member : row ∈ after.jobs.rows)
      (isInstance : row.parentJobId = some templateId)
      (scheduled : row.state = .scheduled)
      (onTime : row.scheduledAt = fire) :
      FollowsUp externals state after worker job templateId
        (.worker worker (.spawn (.inserted id))) (some row)
  /-- The template is completed. -/
  | completed
      (template row : Job)
      (spawning :
        state.workers worker = .spawning job (.completeTemplate template))
      (isParent : template.id = templateId)
      (isOver : IsOver externals template job.scheduledAt)
      (member : row ∈ after.jobs.rows)
      (isRow : row.id = templateId)
      (isCompleted : row.state = .completed) :
      FollowsUp externals state after worker job templateId
        (.worker worker (.spawn .ok)) none
  /-- The template is found stopped. -/
  | declined
      (template : Job)
      (spawning :
        state.workers worker =
          .spawning job (.readTemplate templateId job.scheduledAt))
      (member : template ∈ state.jobs.rows)
      (isParent : template.id = templateId)
      (isStopped : IsStopped externals template job.scheduledAt) :
      FollowsUp externals state after worker job templateId
        (.worker worker (.spawn .ok)) none
  /-- Another instance is active, which the policy of the template forbids. -/
  | skipped
      (template sibling : Job)
      (fire : Time)
      (spawning :
        state.workers worker = .spawning job (.countSiblings template fire))
      (isParent : template.id = templateId)
      (firesNext : FiresNext externals template job.scheduledAt fire)
      (member : sibling ∈ state.jobs.rows)
      (isInstance : sibling.parentJobId = some templateId)
      (isActive :
        sibling.state ∈
          JobRepository.activeStates template.concurrencyPolicy) :
      FollowsUp externals state after worker job templateId
        (.worker worker (.spawn .ok)) none
  /-- The key of the next instance is in the table. -/
  | keyUsed
      (template existing : Job)
      (fire : Time)
      (spawning :
        state.workers worker = .spawning job (.lookupKey template fire))
      (isParent : template.id = templateId)
      (firesNext : FiresNext externals template job.scheduledAt fire)
      (member : existing ∈ state.jobs.rows)
      (sameKey :
        existing.idempotencyKey = instanceKey externals templateId fire) :
      FollowsUp externals state after worker job templateId
        (.worker worker (.spawn .ok)) none
  /-- The key, or the generated id, has come into the table since. -/
  | refused
      (template existing : Job)
      (fire : Time)
      (id : Uuid)
      (spawning :
        state.workers worker = .spawning job (.insertInstance template fire))
      (isParent : template.id = templateId)
      (firesNext : FiresNext externals template job.scheduledAt fire)
      (member : existing ∈ state.jobs.rows)
      (clash :
        existing.id = id ∨
          existing.idempotencyKey = instanceKey externals templateId fire) :
      FollowsUp externals state after worker job templateId
        (.worker worker (.spawn (.inserted id))) none

variable {externals : Externals}
variable {state after : State config slots}
variable {action : Action config slots}
variable {worker : Fin config.workerCount}
variable {job : Job}
variable {templateId : Uuid}
variable {call : SpawnCall}

/-- The template of an instance is in the table. -/
theorem InstanceRows.exists_template
    (rows : state.InstanceRows)
    (grounded : state.Grounded)
    (spawnsOwn : state.SpawnsOwn)
    (spawning : state.workers worker = .spawning job call) :
    ∃ template ∈ state.jobs.rows,
      template.id = call.templateId ∧ template.isTemplate = true := by
  obtain ⟨row, member, _, isInstance⟩ :=
    spawnsOwn.exists_row grounded spawning
  obtain ⟨parent, parentMember, parentId, isTemplate, _⟩ :=
    (rows.instances row member _ isInstance).parent
  exact ⟨parent, parentMember, parentId, isTemplate⟩

theorem exists_completed
    {jobs : JobTable}
    (now : Time)
    {template : Job}
    (known : jobs.Knows template.identity) :
    ∃ row ∈
        (jobs.update (JobRepository.completeTemplate now template.id)).rows,
      row.id = template.id ∧ row.state = .completed := by
  obtain ⟨row, member, identity⟩ := known
  let update := JobRepository.completeTemplate now template.id
  have applies : update.applies row = true :=
    beq_iff_eq.mpr (Job.id_eq_of_identity identity)
  refine ⟨update.image row, RecordTable.mem_update.mpr ⟨row, member, rfl⟩,
    ?_, ?_⟩
  · exact Job.id_eq_of_identity
      ((update.identity_image row).trans identity)
  · rw [RowUpdate.image_of_applies applies]
    rfl

/-- A unique violation is about the id or about the key. -/
theorem exists_clash
    {jobs : JobTable}
    {row : Job}
    (refused : jobs.insert? row = none) :
    ∃ existing ∈ jobs.rows,
      existing.id = row.id ∨
        existing.idempotencyKey = row.idempotencyKey := by
  by_contra none
  push Not at none
  exact RecordTable.insert?_eq_none_iff.mp refused
    ⟨fun old member => (none old member).1,
      fun old member => (none old member).2⟩

/-- One call of the spawn leads on, or it is the decision. -/
theorem undecided_or_followsUp
    (rows : state.InstanceRows)
    (templates : state.TemplateRows)
    (grounded : state.Grounded)
    (spawnsOwn : state.SpawnsOwn)
    (keeps : state.KeepsEveryCopy action)
    (taken : step? externals state action = some after)
    (spawning : state.workers worker = .spawning job call)
    (undecided : call.Undecided externals job templateId) :
    (∃ next,
        after.workers worker = .spawning job next ∧
          next.Undecided externals job templateId) ∨
      ∃ added,
        FollowsUp externals state after worker job templateId action
          added := by
  cases workerStep_of_step? taken worker with
  | kept same =>
      exact Or.inl ⟨call, same.trans spawning, undecided⟩
  | idle notified isIdle wasIdle =>
      rcases wasIdle with isRestart | ⟨before, wasIdle⟩
      · exact (keeps.withRoom.notRestart isRestart).elim
      · rw [wasIdle] at spawning
        cases spawning
  | moved workerAction shared isWorker moved sameJobs =>
      subst isWorker
      have succeeds := keeps.withRoom.succeeds
      have known := rows.exists_template grounded spawnsOwn spawning
      rw [spawning] at moved
      generalize after.workers worker = task at moved ⊢
      cases moved with
      | spawn _ _ reply after' progress spawned =>
          cases spawned with
          | fails =>
              cases succeeds
          | read _ last =>
              cases undecided
              obtain ⟨template, member, isParent, isTemplate⟩ := known
              change template.id = templateId at isParent
              have found :
                  JobRepository.getJobByIdInternal
                      state.toShared.jobs templateId =
                    some template :=
                RecordTable.find?_eq_some_iff.mpr ⟨member, isParent⟩
              rw [found]
              rcases @planSpawn_cases externals template job.scheduledAt
                  isTemplate (templates template member isTemplate) with
                ⟨isStopped, succeeded, plan⟩ | ⟨isOver, plan⟩ |
                ⟨fire, firesNext, plan⟩
              · exact Or.inr ⟨none,
                  .declined template spawning member isParent isStopped⟩
              · rw [plan]
                exact Or.inl
                  ⟨_, rfl, .completes template isParent isOver⟩
              · rw [plan]
                exact Or.inl
                  ⟨_, rfl, .counts template fire isParent firesNext⟩
          | complete template =>
              cases undecided with
              | completes _ isParent isOver =>
                  obtain ⟨row, member, rowId, isCompleted⟩ :=
                    exists_completed state.clock
                      ((grounded.workers worker).template template
                        (by rw [spawning]; rfl)).known
                  have sameTable :
                      after.jobs =
                        state.jobs.update
                          (JobRepository.completeTemplate state.clock
                            template.id) :=
                    sameJobs
                  rw [← sameTable] at member
                  exact Or.inr ⟨none, .completed template row spawning
                    isParent isOver member (rowId.trans isParent)
                    isCompleted⟩
          | overlap template fire active =>
              cases undecided with
              | counts _ _ isParent firesNext =>
                  obtain ⟨sibling, member, isInstance, isActive⟩ :=
                    JobRepository.countActiveSiblings_pos_iff.mp active
                  rw [isParent] at isInstance
                  exact Or.inr ⟨none, .skipped template sibling fire
                    spawning isParent firesNext member isInstance isActive⟩
          | noOverlap template fire =>
              cases undecided with
              | counts _ _ isParent firesNext =>
                  exact Or.inl
                    ⟨_, rfl, .looks template fire isParent firesNext⟩
          | keyUsed template fire existing used =>
              cases undecided with
              | looks _ _ isParent firesNext =>
                  obtain ⟨member, sameKey⟩ :=
                    RecordTable.findUnique?_eq_some_iff.mp used
                  rw [isParent] at sameKey
                  exact Or.inr ⟨none, .keyUsed template existing fire
                    spawning isParent firesNext member sameKey⟩
          | keyFree template fire =>
              cases undecided with
              | looks _ _ isParent firesNext =>
                  exact Or.inl
                    ⟨_, rfl, .inserts template fire isParent firesNext⟩
          | insert template fire id jobs inserted =>
              cases undecided with
              | inserts _ _ isParent firesNext =>
                  obtain ⟨fresh, _⟩ :=
                    RecordTable.insert?_eq_some_iff.mp inserted
                  have member :=
                    (RecordTable.mem_of_insert? inserted).mpr
                      (Or.inr rfl)
                  have sameTable : after.jobs = jobs := sameJobs
                  rw [← sameTable] at member
                  exact Or.inr ⟨_, .inserted template fire id _ spawning
                    isParent firesNext fresh.1 member
                    (congrArg some isParent) rfl rfl⟩
          | duplicate template fire id refused =>
              cases undecided with
              | inserts _ _ isParent firesNext =>
                  obtain ⟨existing, member, clash⟩ :=
                    exists_clash refused
                  rw [isParent] at clash
                  exact Or.inr ⟨none, .refused template existing fire id
                    spawning isParent firesNext member clash⟩
          | skip | increment | announce =>
              cases undecided

/-! ## Along an execution -/

variable {execution : Execution config slots externals}

/-- From the success on the worker is in the spawn that follows it. -/
def Execution.SpawnsSince
    (execution : Execution config slots externals)
    (settled : Nat)
    (worker : Fin config.workerCount)
    (job : Job)
    (templateId : Uuid)
    (index : Nat) : Prop :=
  settled < index ∧
    ∀ between, settled < between → between ≤ index →
      ∃ call,
        (execution.state between).workers worker = .spawning job call ∧
          call.Undecided externals job templateId

/-- What every spawn rests on. -/
theorem Execution.FairSince.spawns_own
    {boot : Nat}
    (since : execution.FairSince boot)
    (index : Nat) :
    (execution.state index).InstanceRows ∧
      (execution.state index).SpawnsOwn := by
  induction index with
  | zero =>
      obtain ⟨clock, starts⟩ := since.starts
      rw [starts]
      exact ⟨instanceRows_initial clock, fun _ => trivial⟩
  | succ index inductionHypothesis =>
      have grounded := (since.always index).2.2.1.grounded
      have taken := execution.taken index
      exact ⟨inductionHypothesis.1.step grounded taken,
        inductionHypothesis.2.step taken⟩

end State

/-! ## A concrete execution -/

namespace Sample

/-- Instance 2 is executed, and its worker is about to complete it. -/
def createAndExecute : List (Action config 2) :=
  createRecurring ++ executeInstance ++ [.worker 0 (.execute succeeds)]

/-- Its spawn inserts instance 3; then the client cancels the template. -/
def spawnAndCancel : List (Action config 2) :=
  [.worker 0 (.spawn .ok)] ++ insertNext ++ finishSpawn ++
    cancelTemplate ++
    [ .scheduler .dispatchDone,
      .scheduler .notified,
      .scheduler (.refresh []) ]

/-- Worker 0 is about to complete an instance of template 1. -/
def HasSucceeded (state : State config 2) : Prop :=
  match state.workers 0 with
  | .handling job result now =>
      ResultHandler.dispose? config job result now = some .complete ∧
        job.parentJobId = some 1
  | _ => False

instance : DecidablePred HasSucceeded := by
  intro state
  unfold HasSucceeded
  split <;> infer_instance

end Sample

end Kronkeeper
