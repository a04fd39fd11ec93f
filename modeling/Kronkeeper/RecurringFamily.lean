import Kronkeeper.OccurrenceLimit
import Kronkeeper.RetryBudget
import Kronkeeper.SequentialSpawns

namespace Kronkeeper

/-!
# A template and its instances

What a recurring job amounts to between two executions: the row of its
template, the number of its instances and how many of them are COMPLETED, and
what the execution of one instance with success makes of these.
-/

/-- How many instances of a template are COMPLETED. -/
def completedCount (jobs : JobTable) (templateId : Uuid) : Nat :=
  jobs.count fun row =>
    row.parentJobId == some templateId && row.state == .completed

/-- There is a next fire, and no row has the key of its instance. -/
def GoesOn
    (externals : Externals)
    (jobs : JobTable)
    (templateId : Uuid)
    (cronExpr : String)
    (lastScheduledAt : Time) : Prop :=
  ∃ nextFire,
    RecurringService.nextFireAfter externals cronExpr lastScheduledAt =
        .ok nextFire ∧
      JobRepository.getByIdempotencyKey jobs
          (RecurringService.instanceKey externals templateId nextFire) =
        none

/-- The row of a template with a maximum and no end date. -/
structure LimitedTemplate
    (templateId : Uuid)
    (cronExpr : String)
    (maximum : Nat)
    (template : Job) : Prop where
  sameId : template.id = templateId
  isTemplate : template.isTemplate = true
  isRecurring : template.isRecurring = true
  noParent : template.parentJobId = none
  hasCron : template.cronExpr = some cronExpr
  limit : template.maxOccurrences = some (maximum : Int)
  endless : template.recurrenceEndAt = none

/-- The template, in this state, with its counter and its instances. -/
structure Family
    (templateId : Uuid)
    (cronExpr : String)
    (maximum : Nat)
    (state : JobState)
    (counter instances completed : Nat)
    (jobs : JobTable) : Prop where
  template :
    ∃ template ∈ jobs.rows,
      LimitedTemplate templateId cronExpr maximum template ∧
        template.state = state ∧
        template.occurrencesCompleted = counter
  instances : instanceCount jobs templateId = instances
  completed : completedCount jobs templateId = completed

/-- The rows of a recurring job: its template and the instances of it. -/
def OfFamily (templateId : Uuid) (identity : JobIdentity) : Prop :=
  identity.id = templateId ∨ identity.parentJobId = some templateId

section Families

variable {templateId : Uuid}
variable {cronExpr : String}
variable {maximum : Nat}
variable {state : JobState}
variable {counter instances completed : Nat}
variable {jobs after : JobTable}

/-- A statement keeps what it leaves of these columns. -/
theorem LimitedTemplate.of_identity
    {template other : Job}
    (limited : LimitedTemplate templateId cronExpr maximum template)
    (identity : other.identity = template.identity)
    (sameCron : other.cronExpr = template.cronExpr) :
    LimitedTemplate templateId cronExpr maximum other where
  sameId := (Job.id_eq_of_identity identity).trans limited.sameId
  isTemplate :=
    (Job.isTemplate_eq_of_identity identity).trans limited.isTemplate
  isRecurring :=
    (Job.isRecurring_eq_of_identity identity).trans limited.isRecurring
  noParent :=
    (Job.parentJobId_eq_of_identity identity).trans limited.noParent
  hasCron := sameCron.trans limited.hasCron
  limit :=
    (congrArg JobIdentity.maxOccurrences identity).trans limited.limit
  endless :=
    (congrArg JobIdentity.recurrenceEndAt identity).trans limited.endless

/-- The one row of the template. -/
theorem Family.row
    (family :
      Family templateId cronExpr maximum state counter instances completed
        jobs)
    {template : Job}
    (member : template ∈ jobs.rows)
    (sameId : template.id = templateId) :
    LimitedTemplate templateId cronExpr maximum template ∧
      template.state = state ∧
      template.occurrencesCompleted = counter := by
  obtain ⟨row, rowMember, limited, isState, counts⟩ := family.template
  obtain rfl :=
    RecordTable.eq_of_primary member rowMember
      (sameId.trans limited.sameId.symm)
  exact ⟨limited, isState, counts⟩

/-- What happens to other rows is nothing to a recurring job. -/
theorem Family.of_agreesOn
    (family :
      Family templateId cronExpr maximum state counter instances completed
        jobs)
    (agrees : RecordTable.AgreesOn (OfFamily templateId) jobs after) :
    Family templateId cronExpr maximum state counter instances completed
      after := by
  obtain ⟨template, member, limited, rest⟩ := family.template
  refine ⟨⟨template, (agrees template (.inl limited.sameId)).mpr member,
    limited, rest⟩, ?_, ?_⟩
  · refine (agrees.count_eq fun row isInstance => ?_).trans
      family.instances
    exact .inr (beq_iff_eq.mp isInstance)
  · refine (agrees.count_eq fun row isCompleted => ?_).trans
      family.completed
    rw [Bool.and_eq_true, beq_iff_eq] at isCompleted
    exact .inr isCompleted.1

/-- Recording a delivery is nothing to it either. -/
theorem Family.recorded
    (family :
      Family templateId cronExpr maximum state counter instances completed
        jobs)
    (now : Time)
    (id : Uuid)
    (success : Bool)
    (attempts : Int) :
    Family templateId cronExpr maximum state counter instances completed
      (jobs.update
        (JobRepository.updateWebhookResult now id success attempts)) := by
  let change := JobRepository.updateWebhookResult now id success attempts
  have kept :
      ∀ row : Job,
        (change.image row).state = row.state ∧
          (change.image row).cronExpr = row.cronExpr ∧
          (change.image row).occurrencesCompleted =
            row.occurrencesCompleted := by
    intro row
    unfold RowUpdate.image
    split <;> exact ⟨rfl, rfl, rfl⟩
  obtain ⟨template, member, limited, isState, counts⟩ := family.template
  obtain ⟨sameState, sameCron, sameCounter⟩ := kept template
  refine ⟨⟨change.image template,
    RecordTable.mem_update.mpr ⟨template, member, rfl⟩,
    limited.of_identity (change.identity_image template) sameCron,
    sameState.trans isState, sameCounter.trans counts⟩, ?_, ?_⟩
  · exact (instanceCount_update jobs change templateId).trans
      family.instances
  · refine (RecordTable.count_update fun row _ => ?_).trans
      family.completed
    rw [(kept row).1,
      Job.parentJobId_eq_of_identity (change.identity_image row)]

/-- Where all instances are COMPLETED, each of them is. -/
theorem Family.state_of_instance
    (family :
      Family templateId cronExpr maximum state counter instances instances
        jobs)
    {row : Job}
    (member : row ∈ jobs.rows)
    (isInstance : row.parentJobId = some templateId) :
    row.state = .completed := by
  let ofTemplate (row : Job) : Bool :=
    row.parentJobId == some templateId
  let isCompleted (row : Job) : Bool :=
    row.parentJobId == some templateId && row.state == .completed
  have within :
      (jobs.rows.filter isCompleted).Sublist
        (jobs.rows.filter ofTemplate) :=
    List.monotone_filter_right _ fun row holds =>
      (Bool.and_eq_true _ _ ▸ holds).1
  have asMany :
      (jobs.rows.filter isCompleted).length =
        (jobs.rows.filter ofTemplate).length := by
    rw [← List.countP_eq_length_filter, ← List.countP_eq_length_filter]
    exact family.completed.trans family.instances.symm
  have isOne : row ∈ jobs.rows.filter ofTemplate :=
    List.mem_filter.mpr ⟨member, beq_iff_eq.mpr isInstance⟩
  rw [← within.eq_of_length asMany] at isOne
  have holds := (List.mem_filter.mp isOne).2
  simp only [isCompleted, Bool.and_eq_true, beq_iff_eq] at holds
  exact holds.2

end Families

/-! ## One execution -/

section Execution

variable {config : Config}
variable {externals : Externals}
variable {templateId : Uuid}
variable {cronExpr : String}
variable {maximum : Nat}
variable {state : JobState}
variable {counter instances completed : Nat}
variable {before after : Shared}
variable {execution : Execution}
variable {row : Job}

/-- The instance is COMPLETED, and nothing else has changed. -/
theorem Family.settled
    (family :
      Family templateId cronExpr maximum state counter instances completed
        before.jobs)
    (member : row ∈ before.jobs.rows)
    (isInstance : row.parentJobId = some templateId)
    (scheduled : row.state = .scheduled)
    (succeeded : execution.result.success = true)
    (job : Job) :
    Family templateId cronExpr maximum state counter instances
      (completed + 1) (execution.settled config row.id before job).jobs := by
  obtain ⟨leasedAt, startedAt, settledAt, isTable⟩ :=
    Execution.settled_rows_of_success config row.id before job succeeded
  have identity :=
    fun other =>
      completedImage_identity config row.id leasedAt startedAt settledAt
        other
  obtain ⟨template, templateMember, limited, rest⟩ := family.template
  have notRow : template.id ≠ row.id := by
    intro sameId
    obtain rfl := RecordTable.eq_of_primary templateMember member sameId
    rw [limited.noParent] at isInstance
    cases isInstance
  constructor
  · refine ⟨template, ?_, limited, rest⟩
    rw [isTable]
    exact List.mem_map.mpr ⟨template, templateMember,
      completedImage_of_ne notRow config leasedAt startedAt settledAt⟩
  · rw [← family.instances]
    refine RecordTable.count_eq_of_rewrite isTable fun other _ => ?_
    rw [identity]
  · rw [← family.completed]
    refine RecordTable.count_of_rewrite isTable member ?_ ?_ ?_
    · simp [scheduled]
    · simp [Job.parentJobId_eq_of_identity (identity row), isInstance,
        completedImage_state scheduled]
    · intro other otherMember isOther
      have notSame : other.id ≠ row.id := fun sameId =>
        isOther (RecordTable.eq_of_primary otherMember member sameId)
      rw [completedImage_of_ne notSame]

end Execution

/-! ## What a handler leaves -/

/-- The recurring job after one handler more than these earlier ones. -/
inductive HandlerLeaves
    (templateId : Uuid)
    (cronExpr : String)
    (maximum : Nat)
    (goesOn : Prop)
    (earlier : Nat)
    (jobs : JobTable) : Prop where
  /-- The next instance waits, and the success is counted. -/
  | waits
      (within : earlier + 1 < maximum)
      (goes : goesOn)
      (family :
        Family templateId cronExpr maximum .scheduled (earlier + 1)
          (earlier + 2) (earlier + 1) jobs)
  /-- The template is COMPLETED, and the last success is not counted. -/
  | ended
      (isLast : earlier + 1 = maximum)
      (family :
        Family templateId cronExpr maximum .completed earlier
          (earlier + 1) (earlier + 1) jobs)
  /-- There is no next instance, and the template stays SCHEDULED. -/
  | stuck
      (within : earlier + 1 < maximum)
      (stops : ¬goesOn)
      (family :
        Family templateId cronExpr maximum .scheduled earlier
          (earlier + 1) (earlier + 1) jobs)

section Handlers

open RecurringService

variable {externals : Externals}
variable {templateId : Uuid}
variable {cronExpr : String}
variable {maximum earlier : Nat}
variable {jobs after : JobTable}
variable {lastScheduledAt : Time}

/-- A family keeps its numbers where only its template is written. -/
theorem Family.update_template
    {state newState : JobState}
    {counter newCounter instances completed : Nat}
    {change : JobUpdate}
    (family :
      Family templateId cronExpr maximum state counter instances completed
        jobs)
    (onTemplate :
      ∀ template : Job,
        template.id = templateId →
        template.state = state →
        template.occurrencesCompleted = counter →
        (change.image template).state = newState ∧
          (change.image template).cronExpr = template.cronExpr ∧
          (change.image template).occurrencesCompleted = newCounter)
    (onOther :
      ∀ other : Job, other.id ≠ templateId → change.image other = other) :
    Family templateId cronExpr maximum newState newCounter instances
      completed (jobs.update change) := by
  obtain ⟨template, member, limited, isState, counts⟩ := family.template
  obtain ⟨isNewState, sameCron, isNewCounter⟩ :=
    onTemplate template limited.sameId isState counts
  refine ⟨⟨change.image template,
    RecordTable.mem_update.mpr ⟨template, member, rfl⟩,
    limited.of_identity (change.identity_image template) sameCron,
    isNewState, isNewCounter⟩, ?_, ?_⟩
  · exact (instanceCount_update jobs change templateId).trans
      family.instances
  · refine (RecordTable.count_update fun row rowMember => ?_).trans
      family.completed
    by_cases isTemplate : row.id = templateId
    · obtain rfl :=
        RecordTable.eq_of_primary rowMember member
          (isTemplate.trans limited.sameId.symm)
      have identity := change.identity_image row
      simp [Job.parentJobId_eq_of_identity identity, limited.noParent]
    · rw [onOther row isTemplate]

/-- `complete_template` on the template of the family. -/
theorem Family.completeTemplate
    {state : JobState}
    {counter instances completed : Nat}
    (family :
      Family templateId cronExpr maximum state counter instances completed
        jobs)
    (now : Time) :
    Family templateId cronExpr maximum .completed counter instances
      completed
      (jobs.update (JobRepository.completeTemplate now templateId)) := by
  refine family.update_template ?_ ?_
  · intro template sameId _ counts
    rw [RowUpdate.image_of_applies
      (by simp [JobRepository.completeTemplate, sameId])]
    exact ⟨rfl, rfl, counts⟩
  · intro other isOther
    exact RowUpdate.image_of_not_applies
      (by simp [JobRepository.completeTemplate, isOther])

/-- `increment_template_occurrences` on it. -/
theorem Family.increment
    {state : JobState}
    {counter instances completed : Nat}
    (family :
      Family templateId cronExpr maximum state counter instances completed
        jobs)
    (now : Time)
    (nextInstanceAt : Option Time) :
    Family templateId cronExpr maximum state (counter + 1) instances
      completed
      (jobs.update
        (JobRepository.incrementTemplateOccurrences now templateId
          nextInstanceAt)) := by
  refine family.update_template ?_ ?_
  · intro template sameId isState counts
    rw [RowUpdate.image_of_applies
      (by simp [JobRepository.incrementTemplateOccurrences, sameId])]
    refine ⟨isState, rfl, ?_⟩
    change template.occurrencesCompleted + 1 = _
    rw [counts]
    push_cast
    rfl
  · intro other isOther
    exact RowUpdate.image_of_not_applies
      (by simp [JobRepository.incrementTemplateOccurrences, isOther])

/-- The next instance of it is inserted. -/
theorem Family.insertInstance
    {state : JobState}
    {counter instances completed : Nat}
    {template : Job}
    {now nextFire : Time}
    {id : Uuid}
    {idempotencyKey : String}
    (family :
      Family templateId cronExpr maximum state counter instances completed
        jobs)
    (sameId : template.id = templateId)
    (inserted :
      jobs.insert?
        (JobRepository.instanceRow now id template nextFire
          idempotencyKey) =
        some after) :
    Family templateId cronExpr maximum state counter (instances + 1)
      completed after := by
  obtain ⟨row, member, rest⟩ := family.template
  refine ⟨⟨row, (RecordTable.mem_of_insert? inserted).mpr (.inl member),
    rest⟩, ?_, ?_⟩
  · have isInstance :
        (JobRepository.instanceRow now id template nextFire
          idempotencyKey).parentJobId = some templateId :=
      congrArg some sameId
    rw [instanceCount_insert? inserted, if_pos isInstance,
      family.instances]
  · rw [completedCount, RecordTable.count_insert? inserted,
      if_neg (by simp [JobRepository.instanceRow, JobRepository.newRow])]
    exact family.completed

/-- No instance is in the way of the next one. -/
theorem Family.not_spawnBlocked
    {state : JobState}
    {counter instances : Nat}
    {template : Job}
    (family :
      Family templateId cronExpr maximum state counter instances instances
        jobs)
    (sameId : template.id = templateId) :
    ¬SpawnBlocked jobs template := by
  rintro ⟨active, _⟩
  obtain ⟨sibling, member, isActive⟩ := List.countP_pos_iff.mp active
  rw [Bool.and_eq_true, beq_iff_eq, sameId] at isActive
  have completed := family.state_of_instance member isActive.1
  have inStates := isActive.2
  rw [completed] at inStates
  cases policy : template.concurrencyPolicy <;>
    simp [policy, JobRepository.activeStates] at inStates

/-- The limit is reached with the last instance. -/
theorem LimitedTemplate.occurrencesReached_iff
    {template : Job}
    (limited : LimitedTemplate templateId cronExpr maximum template)
    (counts : template.occurrencesCompleted = earlier)
    (within : earlier + 1 ≤ maximum)
    (bounded : maximum < 2 ^ 31) :
    occurrencesReached template = true ↔ earlier + 1 = maximum := by
  have noWrap :
      wrapI32 (template.occurrencesCompleted + 1) = (earlier : Int) + 1 := by
    rw [counts]
    exact wrapI32_eq_self (by omega) (by omega)
  rw [occurrencesReached, limited.limit, noWrap]
  simp only [decide_eq_true_eq]
  omega

/-- How a spawn short of its limit goes on without an end date. -/
def spawnAfterFire (template : Job) : Except String Time → SpawnProgress
  | .error _ => .returned false
  | .ok nextFire => .next (.countSiblings template nextFire)

/-- What the checks of a spawn come to for such a template. -/
theorem LimitedTemplate.planSpawn_eq
    {template : Job}
    (limited : LimitedTemplate templateId cronExpr maximum template)
    (isState : template.state = .scheduled) :
    planSpawn externals lastScheduledAt (some template) =
      if occurrencesReached template then
        .next (.completeTemplate template)
      else
        spawnAfterFire template
          (nextFireAfter externals cronExpr lastScheduledAt) := by
  simp only [planSpawn, limited.isTemplate, limited.isRecurring, isState,
    limited.hasCron, pastEnd, limited.endless]
  cases nextFireAfter externals cronExpr lastScheduledAt <;> rfl

/-- What such a spawn does to the table. -/
def effectAfterFire
    (externals : Externals)
    (jobs : JobTable)
    (template : Job) : Except String Time → SpawnEffect
  | .error _ => .refused
  | .ok nextFire =>
      effectOfLookup template nextFire
        (JobRepository.getByIdempotencyKey jobs
          (instanceKey externals template.id nextFire))

/-- The effect of the spawn after the success of every instance. -/
theorem Family.spawnEffect_eq
    {template : Job}
    (family :
      Family templateId cronExpr maximum .scheduled earlier (earlier + 1)
        (earlier + 1) jobs)
    (member : template ∈ jobs.rows)
    (sameId : template.id = templateId)
    (within : earlier + 1 ≤ maximum)
    (bounded : maximum < 2 ^ 31) :
    spawnEffect externals jobs templateId lastScheduledAt =
      if earlier + 1 = maximum then
        .completes template
      else
        effectAfterFire externals jobs template
          (nextFireAfter externals cronExpr lastScheduledAt) := by
  obtain ⟨limited, isState, counts⟩ := family.row member sameId
  have read :
      JobRepository.getJobByIdInternal jobs templateId = some template :=
    RecordTable.find?_eq_some_iff.mpr ⟨member, sameId⟩
  have plan :
      planSpawn externals lastScheduledAt (some template) =
        if occurrencesReached template then
          .next (.completeTemplate template)
        else
          spawnAfterFire template
            (nextFireAfter externals cronExpr lastScheduledAt) :=
    limited.planSpawn_eq isState
  have reached := limited.occurrencesReached_iff counts within bounded
  by_cases isLast : earlier + 1 = maximum
  · rw [spawnEffect, read, plan, if_pos (reached.mpr isLast),
      if_pos isLast]
    rfl
  · rw [if_neg fun isReached => isLast (reached.mp isReached)] at plan
    rw [if_neg isLast]
    cases isFire : nextFireAfter externals cronExpr lastScheduledAt with
    | error message =>
        rw [spawnEffect, read, plan, isFire]
        rfl
    | ok nextFire =>
        rw [isFire, spawnAfterFire] at plan
        rw [spawnEffect_of_planned (by rw [read, plan]),
          if_neg (family.not_spawnBlocked sameId), effectAfterFire]

/-- The spawn after the success of an instance. -/
theorem Family.handlerLeaves
    {succeeded : Bool}
    (family :
      Family templateId cronExpr maximum .scheduled earlier (earlier + 1)
        (earlier + 1) jobs)
    (within : earlier + 1 ≤ maximum)
    (bounded : maximum < 2 ^ 31)
    (leaves :
      SpawnLeaves externals jobs
        (spawnEffect externals jobs templateId lastScheduledAt) none after
        succeeded) :
    HandlerLeaves templateId cronExpr maximum
      (GoesOn externals jobs templateId cronExpr lastScheduledAt) earlier
      after := by
  obtain ⟨template, member, limited, _⟩ := family.template
  obtain rfl := limited.sameId
  rw [family.spawnEffect_eq member rfl within bounded] at leaves
  by_cases isLast : earlier + 1 = maximum
  · rw [if_pos isLast] at leaves
    cases leaves with
    | completes _ clock =>
        exact .ended isLast (family.completeTemplate clock)
  · rw [if_neg isLast] at leaves
    have short : earlier + 1 < maximum := by omega
    cases isFire : nextFireAfter externals cronExpr lastScheduledAt with
    | error message =>
        rw [isFire, effectAfterFire] at leaves
        cases leaves with
        | refused =>
            refine .stuck short ?_ family
            rintro ⟨nextFire, isNext, _⟩
            rw [isFire] at isNext
            cases isNext
    | ok nextFire =>
        rw [isFire, effectAfterFire] at leaves
        cases found :
            JobRepository.getByIdempotencyKey jobs
              (instanceKey externals template.id nextFire) with
        | some existing =>
            rw [found] at leaves
            cases leaves with
            | nothing =>
                refine .stuck short ?_ family
                rintro ⟨other, isNext, isFree⟩
                rw [isFire] at isNext
                obtain rfl := Except.ok.inj isNext
                rw [found] at isFree
                cases isFree
        | none =>
            rw [found] at leaves
            cases leaves with
            | inserts _ _ insertedAt clock id isInsert =>
                refine .waits short ⟨nextFire, isFire, found⟩ ?_
                exact (family.insertInstance rfl isInsert).increment clock
                  (some nextFire)

/-- What `create_recurring` inserts for a template of a new id. -/
theorem Family.of_create_recurring
    {shared middle reached : Shared}
    {elapsed : Nat}
    {clientId instanceId : Uuid}
    {req : CreateJobRequest}
    {recurrence : RecurrenceConfig}
    {firstFire : Time}
    {template instanceJob : Job}
    (isLimit : recurrence.maxOccurrences = some (maximum : Int))
    (endless : recurrence.endAt = none)
    (noInstance : NoInstance shared.jobs templateId)
    (insertsTemplate :
      RequestTask.createStep? externals shared clientId req
          (.insertTemplate recurrence firstFire)
          (.call (.inserted templateId)) =
        some (middle,
          .creating clientId req (.insertInstance template firstFire)))
    (insertsInstance :
      RequestTask.createStep? externals (middle.tick elapsed) clientId req
          (.insertInstance template firstFire)
          (.call (.inserted instanceId)) =
        some (reached,
          .creating clientId req
            (.notifyRecurring template instanceJob))) :
    Family templateId recurrence.cronExpr maximum .scheduled 0 1 0
      reached.jobs := by
  simp only [RequestTask.createStep?] at insertsTemplate
  split at insertsTemplate
  · rename_i templateJobs templateInserted
    cases insertsTemplate
    simp only [RequestTask.createStep?] at insertsInstance
    split at insertsInstance
    · rename_i instanceJobs instanceInserted
      cases insertsInstance
      have templateOnly :
          Family templateId recurrence.cronExpr maximum .scheduled 0 0 0
            templateJobs := by
        refine ⟨⟨_, (RecordTable.mem_of_insert? templateInserted).mpr
          (.inr rfl), ⟨rfl, rfl, rfl, rfl, rfl, isLimit, endless⟩, rfl,
          rfl⟩, ?_, ?_⟩
        · rw [instanceCount_insert? templateInserted,
            instanceCount_eq_zero_iff.mpr noInstance]
          rfl
        · rw [completedCount, RecordTable.count_insert? templateInserted]
          have noneCompleted :
              shared.jobs.rows.countP (fun row =>
                row.parentJobId == some templateId &&
                  row.state == .completed) = 0 := by
            rw [List.countP_eq_zero]
            intro row member isCompleted
            rw [Bool.and_eq_true, beq_iff_eq] at isCompleted
            exact noInstance row member isCompleted.1
          rw [RecordTable.count, noneCompleted]
          rfl
      exact templateOnly.insertInstance rfl instanceInserted
    · cases insertsInstance
  · cases insertsTemplate

/-- What the family has does not change with other rows. -/
theorem HandlerLeaves.of_agreesOn
    {goesOn : Prop}
    {jobs other : JobTable}
    {earlier : Nat}
    (leaves :
      HandlerLeaves templateId cronExpr maximum goesOn earlier jobs)
    (agrees : RecordTable.AgreesOn (OfFamily templateId) jobs other) :
    HandlerLeaves templateId cronExpr maximum goesOn earlier other := by
  cases leaves with
  | waits within goes family =>
      exact .waits within goes (family.of_agreesOn agrees)
  | ended isLast family =>
      exact .ended isLast (family.of_agreesOn agrees)
  | stuck within stops family =>
      exact .stuck within stops (family.of_agreesOn agrees)

/-- Nor with a delivery. -/
theorem HandlerLeaves.recorded
    {goesOn : Prop}
    {jobs : JobTable}
    {earlier : Nat}
    (leaves :
      HandlerLeaves templateId cronExpr maximum goesOn earlier jobs)
    (now : Time)
    (id : Uuid)
    (success : Bool)
    (attempts : Int) :
    HandlerLeaves templateId cronExpr maximum goesOn earlier
      (jobs.update
        (JobRepository.updateWebhookResult now id success attempts)) := by
  cases leaves with
  | waits within goes family =>
      exact .waits within goes (family.recorded now id success attempts)
  | ended isLast family =>
      exact .ended isLast (family.recorded now id success attempts)
  | stuck within stops family =>
      exact .stuck within stops (family.recorded now id success attempts)

end Handlers

end Kronkeeper
