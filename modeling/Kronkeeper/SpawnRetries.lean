import Kronkeeper.SpawnStages
import Kronkeeper.System

namespace Kronkeeper

/-!
# Calling `spawn_next_instance` again

Calls for one template and one instant, one after another and each failing at
some repository function or at none, go through the stages of `SpawnPlan`.  So
it is settled for every table when they leave what one call leaves.
-/

open RecurringService

/-! ## What the planning reads -/

section Planning

variable {externals : Externals}
variable {lastScheduledAt nextFire : Time}
variable {template image : Job}
variable {call : SpawnCall}

/-- What a call that goes on has seen of its template. -/
structure Plannable (template : Job) (cronExpr : String) : Prop where
  isTemplate : template.isTemplate = true
  isRecurring : template.isRecurring = true
  notCancelled : template.state ≠ .cancelled
  isCron : template.cronExpr = some cronExpr

theorem Plannable.completes_iff
    {cronExpr : String}
    (plannable : Plannable template cronExpr) :
    planSpawn externals lastScheduledAt (some template) =
        .next (.completeTemplate template) ↔
      occurrencesReached template = true ∨
        ∃ nextFire,
          nextFireAfter externals cronExpr lastScheduledAt =
              .ok nextFire ∧
            pastEnd template nextFire = true := by
  unfold planSpawn
  simp only [plannable.isTemplate, plannable.isRecurring,
    plannable.notCancelled, plannable.isCron, beq_iff_eq, Bool.and_self,
    Bool.not_true, Bool.false_eq_true, if_false]
  cases occurrencesReached template with
  | true =>
      simp
  | false =>
      cases nextFireAfter externals cronExpr lastScheduledAt with
      | error message =>
          simp
      | ok nextFire =>
          cases past : pastEnd template nextFire <;> simp [past]

theorem Plannable.counts_iff
    {cronExpr : String}
    (plannable : Plannable template cronExpr) :
    planSpawn externals lastScheduledAt (some template) =
        .next (.countSiblings template nextFire) ↔
      occurrencesReached template = false ∧
        nextFireAfter externals cronExpr lastScheduledAt =
            .ok nextFire ∧
          pastEnd template nextFire = false := by
  unfold planSpawn
  simp only [plannable.isTemplate, plannable.isRecurring,
    plannable.notCancelled, plannable.isCron, beq_iff_eq, Bool.and_self,
    Bool.not_true, Bool.false_eq_true, if_false]
  cases occurrencesReached template with
  | true =>
      simp
  | false =>
      cases nextFireAfter externals cronExpr lastScheduledAt with
      | error message =>
          simp
      | ok fire =>
          constructor
          · intro planned
            cases past : pastEnd template fire with
            | true =>
                simp [past] at planned
            | false =>
                simp only [past, Bool.false_eq_true, if_false] at planned
                cases planned
                exact ⟨rfl, rfl, past⟩
          · rintro ⟨_, sameFire, notPast⟩
            cases sameFire
            simp [notPast]

theorem plannable_of_planned
    (planned :
      planSpawn externals lastScheduledAt (some template) = .next call) :
    ∃ cronExpr, Plannable template cronExpr := by
  obtain ⟨read, isRead, isTemplate, isRecurring, notCancelled, _⟩ :=
    planSpawn_eq_next planned
  obtain rfl := Option.some.inj isRead
  cases isCron : template.cronExpr with
  | some cronExpr =>
      exact ⟨cronExpr, isTemplate, isRecurring, notCancelled, isCron⟩
  | none =>
      unfold planSpawn at planned
      simp [isTemplate, isRecurring, notCancelled, isCron] at planned

end Planning

/-! ## What is compared -/

/-- A row without what the database generates for it. -/
def Job.content (row : Job) : Job :=
  { row with id := 0, createdAt := 0, updatedAt := 0 }

/-- The columns of a template that a spawn may change. -/
def Job.progress (template : Job) : JobState × Int × Option Time :=
  (template.state, template.occurrencesCompleted, template.nextInstanceAt)

def instanceContents (jobs : JobTable) (templateId : Uuid) : List Job :=
  (jobs.rows.filter fun row =>
    row.parentJobId == some templateId).map Job.content

/-- The template stands the same and has the same set of instances. -/
structure SpawnedAlike
    (templateId : Uuid)
    (first second : JobTable) : Prop where
  template :
    (JobRepository.getJobByIdInternal first templateId).map Job.progress =
      (JobRepository.getJobByIdInternal second templateId).map Job.progress
  instances :
    ∀ content,
      content ∈ instanceContents first templateId ↔
        content ∈ instanceContents second templateId

theorem mem_instanceContents
    {jobs : JobTable}
    {templateId : Uuid}
    {content : Job} :
    content ∈ instanceContents jobs templateId ↔
      ∃ row ∈ jobs.rows,
        row.parentJobId = some templateId ∧ row.content = content := by
  simp [instanceContents, and_assoc]

/-! ## Tables at a stage -/

namespace SpawnStage

/-- The template row at a stage. -/
def image
    (stage : SpawnStage)
    (template : Job)
    (nextFire updatedAt : Time) : Job :=
  { template with
    state := if stage.completed then .completed else template.state
    occurrencesCompleted :=
      template.occurrencesCompleted + stage.increments
    nextInstanceAt :=
      if stage.increments = 0 then template.nextInstanceAt
      else some nextFire
    updatedAt := updatedAt }

/-- The rows that the calls have added to a table. -/
inductive Added
    (externals : Externals)
    (jobs : JobTable)
    (template : Job)
    (nextFire : Time) : Bool → List Job → Prop where
  | nothing :
      Added externals jobs template nextFire false []
  | spawned
      (clock : Time)
      (id : Uuid)
      (otherId : id ≠ template.id)
      (newKey :
        ∀ row ∈ jobs.rows,
          row.idempotencyKey ≠
            instanceKey externals template.id nextFire) :
      Added externals jobs template nextFire true
        [JobRepository.instanceRow clock id template nextFire
          (instanceKey externals template.id nextFire)]

end SpawnStage

/-- A table the calls have come to from `jobs`. -/
structure AtStage
    (externals : Externals)
    (jobs : JobTable)
    (template : Job)
    (nextFire : Time)
    (plan : SpawnPlan)
    (stage : SpawnStage)
    (current : JobTable) : Prop where
  templateRow :
    ∃ updatedAt, stage.image template nextFire updatedAt ∈ current.rows
  otherRows :
    ∃ added,
      SpawnStage.Added externals jobs template nextFire stage.inserted
          added ∧
        ∀ row, row.id ≠ template.id →
          (row ∈ current.rows ↔ row ∈ jobs.rows ∨ row ∈ added)
  idle : plan.ends 0 = true → stage.increments = 0
  completedAtEnd :
    stage.completed = true → plan.ends stage.increments = true

/-- The plan says how calls for this template go on from the table. -/
structure SpawnPlan.Describes
    (plan : SpawnPlan)
    (externals : Externals)
    (jobs : JobTable)
    (lastScheduledAt : Time)
    (template : Job)
    (nextFire : Time) : Prop where
  member : template ∈ jobs.rows
  completes :
    ∀ stage : SpawnStage, ∀ updatedAt,
      (plan.ends 0 = true → stage.increments = 0) →
      plan.ends stage.increments = true →
      planSpawn externals lastScheduledAt
          (some (stage.image template nextFire updatedAt)) =
        .next
          (.completeTemplate (stage.image template nextFire updatedAt))
  counts :
    ∀ stage : SpawnStage, ∀ updatedAt,
      plan.ends 0 = false →
      plan.ends stage.increments = false →
      planSpawn externals lastScheduledAt
          (some (stage.image template nextFire updatedAt)) =
        .next
          (.countSiblings (stage.image template nextFire updatedAt)
            nextFire)
  blocked :
    plan.ends 0 = false →
      (plan.blocked = true ↔ SpawnBlocked jobs template)
  requeues :
    plan.requeues = true ↔ template.concurrencyPolicy = .queueOnce
  newKey :
    plan.ends 0 = false →
      plan.blocked = false →
      ∀ row ∈ jobs.rows,
        row.idempotencyKey ≠ instanceKey externals template.id nextFire

namespace AtStage

variable {externals : Externals}
variable {jobs current after : JobTable}
variable {lastScheduledAt nextFire : Time}
variable {template : Job}
variable {plan : SpawnPlan}
variable {stage : SpawnStage}

/-- The first call finds the table as it is. -/
theorem start
    (describes :
      plan.Describes externals jobs lastScheduledAt template nextFire) :
    AtStage externals jobs template nextFire plan SpawnPlan.start jobs where
  templateRow := by
    refine ⟨template.updatedAt, ?_⟩
    have same :
        SpawnPlan.start.image template nextFire template.updatedAt =
          template := by
      simp [SpawnStage.image, SpawnPlan.start]
    rw [same]
    exact describes.member
  otherRows := ⟨[], .nothing, fun row _ => by simp⟩
  idle := fun _ => rfl
  completedAtEnd := fun completed => by cases completed

/-- A row of the table is the template's, an old one or the instance. -/
theorem row_cases
    (atStage :
      AtStage externals jobs template nextFire plan stage current)
    {row : Job}
    (member : row ∈ current.rows) :
    (∃ updatedAt, row = stage.image template nextFire updatedAt) ∨
      (row.id ≠ template.id ∧ row ∈ jobs.rows) ∨
      (stage.inserted = true ∧
        ∃ clock id,
          row =
            JobRepository.instanceRow clock id template nextFire
              (instanceKey externals template.id nextFire)) := by
  by_cases sameId : row.id = template.id
  · obtain ⟨updatedAt, templateMember⟩ := atStage.templateRow
    exact Or.inl ⟨updatedAt,
      RecordTable.eq_of_primary member templateMember sameId⟩
  · obtain ⟨added, isAdded, others⟩ := atStage.otherRows
    rcases (others row sameId).mp member with old | new
    · exact Or.inr (Or.inl ⟨sameId, old⟩)
    · generalize stage.inserted = inserted at isAdded
      cases isAdded with
      | nothing =>
          cases new
      | spawned clock id otherId newKey =>
          exact Or.inr (Or.inr ⟨rfl, clock, id, List.mem_singleton.mp new⟩)

/-- Old rows stay, except for the template's. -/
theorem old_mem
    (atStage :
      AtStage externals jobs template nextFire plan stage current)
    {row : Job}
    (member : row ∈ jobs.rows)
    (otherId : row.id ≠ template.id) :
    row ∈ current.rows := by
  obtain ⟨added, _, others⟩ := atStage.otherRows
  exact (others row otherId).mpr (Or.inl member)

/-- An instance that was added is still there. -/
theorem added_mem
    (atStage :
      AtStage externals jobs template nextFire plan stage current)
    (inserted : stage.inserted = true) :
    ∃ clock id,
      JobRepository.instanceRow clock id template nextFire
          (instanceKey externals template.id nextFire) ∈
        current.rows := by
  obtain ⟨added, isAdded, others⟩ := atStage.otherRows
  rw [inserted] at isAdded
  cases isAdded with
  | spawned clock id otherId newKey =>
      refine ⟨clock, id, (others _ otherId).mpr (Or.inr ?_)⟩
      exact List.mem_singleton_self _

/-- The key of an instance that was added was not in use. -/
theorem newKey_of_inserted
    (atStage :
      AtStage externals jobs template nextFire plan stage current)
    (inserted : stage.inserted = true) :
    ∀ row ∈ jobs.rows,
      row.idempotencyKey ≠ instanceKey externals template.id nextFire := by
  obtain ⟨added, isAdded, _⟩ := atStage.otherRows
  rw [inserted] at isAdded
  cases isAdded with
  | spawned clock id otherId newKey =>
      exact newKey

/-- The template is read as it stands at the stage. -/
theorem read_template
    (atStage :
      AtStage externals jobs template nextFire plan stage current) :
    ∃ updatedAt,
      JobRepository.getJobByIdInternal current template.id =
        some (stage.image template nextFire updatedAt) := by
  obtain ⟨updatedAt, member⟩ := atStage.templateRow
  exact ⟨updatedAt, RecordTable.find?_eq_some_iff.mpr ⟨member, rfl⟩⟩

/-- What stands in the way of a call, at each stage. -/
theorem blocked_iff
    (describes :
      plan.Describes externals jobs lastScheduledAt template nextFire)
    (atStage :
      AtStage externals jobs template nextFire plan stage current)
    (short : plan.ends 0 = false)
    (goesOn : plan.ends stage.increments = false)
    (updatedAt : Time) :
    SpawnBlocked current (stage.image template nextFire updatedAt) ↔
      plan.blocks stage = true := by
  have running : stage.completed = false := by
    rw [Bool.eq_false_iff]
    intro completed
    rw [atStage.completedAtEnd completed] at goesOn
    cases goesOn
  have sameState (updatedAt : Time) :
      (stage.image template nextFire updatedAt).state =
        template.state := by
    simp [SpawnStage.image, running]
  rw [SpawnPlan.blocks_iff, describes.blocked short, describes.requeues]
  unfold SpawnBlocked
  rw [JobRepository.countActiveSiblings_pos_iff,
    JobRepository.countActiveSiblings_pos_iff]
  constructor
  · rintro ⟨⟨row, member, isChild, active⟩, notAllow⟩
    rcases atStage.row_cases member with
      ⟨writtenAt, rfl⟩ | ⟨_, old⟩ | ⟨inserted, clock, id, rfl⟩
    · rw [sameState] at active
      exact Or.inl
        ⟨⟨template, describes.member, isChild, active⟩, notAllow⟩
    · exact Or.inl ⟨⟨row, old, isChild, active⟩, notAllow⟩
    · refine Or.inr ⟨inserted, ?_⟩
      change JobState.scheduled ∈
        JobRepository.activeStates template.concurrencyPolicy at active
      cases policy : template.concurrencyPolicy with
      | queueOnce =>
          rfl
      | skip | allow =>
          rw [policy] at active
          simp [JobRepository.activeStates] at active
  · rintro (⟨⟨row, member, isChild, active⟩, notAllow⟩ |
      ⟨inserted, requeues⟩)
    · refine ⟨?_, notAllow⟩
      by_cases sameId : row.id = template.id
      · obtain ⟨writtenAt, templateMember⟩ := atStage.templateRow
        obtain rfl : row = template :=
          RecordTable.eq_of_primary member describes.member sameId
        refine ⟨_, templateMember, isChild, ?_⟩
        rw [sameState]
        exact active
      · exact ⟨row, atStage.old_mem member sameId, isChild, active⟩
    · obtain ⟨clock, id, member⟩ := atStage.added_mem inserted
      change (∃ row ∈ current.rows,
          row.parentJobId = some template.id ∧
            row.state ∈
              JobRepository.activeStates template.concurrencyPolicy) ∧
        template.concurrencyPolicy ≠ .allow
      rw [requeues]
      refine ⟨⟨_, member, rfl, ?_⟩, by decide⟩
      simp [JobRepository.activeStates, JobRepository.instanceRow,
        JobRepository.newRow]

/-- A call that goes on belongs to a template that was not at its end. -/
theorem short_of_goesOn
    (atStage :
      AtStage externals jobs template nextFire plan stage current)
    (goesOn : plan.ends stage.increments = false) :
    plan.ends 0 = false := by
  rw [Bool.eq_false_iff]
  intro atEnd
  rw [atStage.idle atEnd, atEnd] at goesOn
  cases goesOn

/-- The derived key is found exactly once the instance is in. -/
theorem key_isSome
    (describes :
      plan.Describes externals jobs lastScheduledAt template nextFire)
    (atStage :
      AtStage externals jobs template nextFire plan stage current)
    (short : plan.ends 0 = false)
    (notBlocked : plan.blocked = false) :
    (JobRepository.getByIdempotencyKey current
        (instanceKey externals template.id nextFire)).isSome =
      stage.inserted := by
  have isNew := describes.newKey short notBlocked
  unfold JobRepository.getByIdempotencyKey
  cases found :
      current.findUnique?
        (instanceKey externals template.id nextFire) with
  | some row =>
      obtain ⟨member, sameKey⟩ :=
        RecordTable.findUnique?_eq_some_iff.mp found
      rcases atStage.row_cases member with
        ⟨writtenAt, rfl⟩ | ⟨_, old⟩ | ⟨inserted, _⟩
      · exact absurd sameKey (isNew template describes.member)
      · exact absurd sameKey (isNew row old)
      · exact inserted.symm
  | none =>
      have missing := RecordTable.findUnique?_eq_none_iff.mp found
      cases isInserted : stage.inserted with
      | false =>
          rfl
      | true =>
          obtain ⟨clock, id, member⟩ := atStage.added_mem isInserted
          exact absurd rfl (missing _ member)

/-- What a call does at a stage. -/
theorem effect
    (describes :
      plan.Describes externals jobs lastScheduledAt template nextFire)
    (atStage :
      AtStage externals jobs template nextFire plan stage current) :
    ∃ updatedAt,
      spawnEffect externals current template.id lastScheduledAt =
        if plan.ends stage.increments = true then
          .completes (stage.image template nextFire updatedAt)
        else if plan.blocks stage = true then
          .skips (stage.image template nextFire updatedAt) nextFire
        else if stage.inserted = true then
          .nothing
        else
          .inserts (stage.image template nextFire updatedAt) nextFire := by
  obtain ⟨updatedAt, read⟩ := atStage.read_template
  refine ⟨updatedAt, ?_⟩
  cases ends : plan.ends stage.increments with
  | true =>
      have planned := describes.completes stage updatedAt atStage.idle ends
      unfold spawnEffect
      rw [read, planned, if_pos rfl]
      rfl
  | false =>
      have short := atStage.short_of_goesOn ends
      have planned := describes.counts stage updatedAt short ends
      have blockedIff := blocked_iff describes atStage short ends updatedAt
      rw [← read] at planned
      rw [spawnEffect_of_planned planned, if_neg Bool.false_ne_true]
      cases blocks : plan.blocks stage with
      | true =>
          rw [if_pos (blockedIff.mpr blocks), if_pos rfl]
      | false =>
          have free :
              ¬SpawnBlocked current
                (stage.image template nextFire updatedAt) := by
            rw [blockedIff, blocks]
            exact Bool.false_ne_true
          have isSome :=
            key_isSome describes atStage short
              (SpawnPlan.not_blocked_of_free blocks)
          rw [if_neg free, if_neg Bool.false_ne_true, ← isSome]
          change effectOfLookup _ nextFire
              (JobRepository.getByIdempotencyKey current
                (instanceKey externals template.id nextFire)) = _
          cases JobRepository.getByIdempotencyKey current
              (instanceKey externals template.id nextFire) with
          | some row => rfl
          | none => rfl

/-- An `UPDATE` of the template's row alone. -/
theorem update
    {next : SpawnStage}
    {change : JobUpdate}
    (atStage :
      AtStage externals jobs template nextFire plan stage current)
    (applies : ∀ row, change.applies row = (row.id == template.id))
    (assigns :
      ∀ updatedAt, ∃ writtenAt,
        change.assign (stage.image template nextFire updatedAt) =
          next.image template nextFire writtenAt)
    (inserted : next.inserted = stage.inserted)
    (idle : plan.ends 0 = true → next.increments = 0)
    (completedAtEnd :
      next.completed = true → plan.ends next.increments = true) :
    AtStage externals jobs template nextFire plan next
      (current.update change) where
  templateRow := by
    obtain ⟨updatedAt, member⟩ := atStage.templateRow
    obtain ⟨writtenAt, assigned⟩ := assigns updatedAt
    have isTemplate :
        change.applies (stage.image template nextFire updatedAt) = true := by
      rw [applies]
      exact beq_self_eq_true template.id
    refine ⟨writtenAt, RecordTable.mem_update.mpr ⟨_, member, ?_⟩⟩
    rw [RowUpdate.image_of_applies isTemplate, assigned]
  otherRows := by
    obtain ⟨added, isAdded, others⟩ := atStage.otherRows
    refine ⟨added, inserted ▸ isAdded, fun row otherId => ?_⟩
    have spared (old : Job) (sameId : old.id = row.id) :
        change.image old = old := by
      refine RowUpdate.image_of_not_applies ?_
      rw [applies, sameId]
      exact beq_eq_false_iff_ne.mpr otherId
    rw [← others row otherId, RecordTable.mem_update]
    constructor
    · rintro ⟨old, member, rfl⟩
      have sameId : old.id = (change.image old).id :=
        (Job.id_eq_of_identity (change.identity_image old)).symm
      rw [spared old sameId]
      exact member
    · exact fun member => ⟨row, member, spared row rfl⟩
  idle := idle
  completedAtEnd := completedAtEnd

theorem complete
    (atStage :
      AtStage externals jobs template nextFire plan stage current)
    (atEnd : plan.ends stage.increments = true)
    (clock : Time) :
    AtStage externals jobs template nextFire plan
      { stage with completed := true }
      (current.update
        (JobRepository.completeTemplate clock template.id)) :=
  atStage.update (fun _ => rfl)
    (fun _ => ⟨clock, by
      simp [JobRepository.completeTemplate, SpawnStage.image]⟩)
    rfl atStage.idle fun _ => atEnd

theorem increment
    (atStage :
      AtStage externals jobs template nextFire plan stage current)
    (goesOn : plan.ends stage.increments = false)
    (clock : Time) :
    AtStage externals jobs template nextFire plan
      { stage with increments := stage.increments + 1 }
      (current.update
        (JobRepository.incrementTemplateOccurrences clock template.id
          (some nextFire))) := by
  have short := atStage.short_of_goesOn goesOn
  refine atStage.update (fun _ => rfl) (fun _ => ⟨clock, ?_⟩) rfl
    (fun atEnd => ?_) fun completed => ?_
  · simp [JobRepository.incrementTemplateOccurrences, SpawnStage.image,
      Int.add_assoc]
  · rw [short] at atEnd
    cases atEnd
  · rw [atStage.completedAtEnd completed] at goesOn
    cases goesOn

/-- The instance goes in beside the old rows. -/
theorem insert
    {insertedAt : Time}
    {id : Uuid}
    (atStage :
      AtStage externals jobs template nextFire plan stage current)
    (isNew : stage.inserted = false)
    (newKey :
      ∀ row ∈ jobs.rows,
        row.idempotencyKey ≠ instanceKey externals template.id nextFire)
    (isInsert :
      current.insert?
          (JobRepository.instanceRow insertedAt id template nextFire
            (instanceKey externals template.id nextFire)) =
        some after) :
    AtStage externals jobs template nextFire plan
      { stage with inserted := true } after where
  templateRow := by
    obtain ⟨updatedAt, member⟩ := atStage.templateRow
    exact ⟨updatedAt,
      (RecordTable.mem_of_insert? isInsert).mpr (Or.inl member)⟩
  otherRows := by
    obtain ⟨freshId, _⟩ :=
      (RecordTable.insert?_eq_some_iff.mp isInsert).1
    obtain ⟨updatedAt, templateMember⟩ := atStage.templateRow
    obtain ⟨added, isAdded, others⟩ := atStage.otherRows
    rw [isNew] at isAdded
    cases isAdded with
    | nothing =>
        refine ⟨_, .spawned insertedAt id (freshId _ templateMember).symm
          newKey, fun row otherId => ?_⟩
        rw [RecordTable.mem_of_insert? isInsert, others row otherId,
          List.mem_singleton]
        simp
  idle := atStage.idle
  completedAtEnd := atStage.completedAtEnd

/-- A call that skips nothing cannot fail early at an increment. -/
theorem fails_of_early
    {effect : SpawnEffect}
    {query : SpawnQuery}
    (early :
      query = .incrementTemplateOccurrences →
        ∃ template nextFire, effect = .skips template nextFire)
    (other :
      ∀ template nextFire, effect ≠ .skips template nextFire) :
    plan.Call stage (some query) stage := by
  refine .fails stage query fun isIncrement => ?_
  obtain ⟨_, _, isSkip⟩ := early isIncrement
  exact (other _ _ isSkip).elim

/-- One call goes on to the next stage. -/
theorem step
    {failure : Option SpawnQuery}
    {succeeded : Bool}
    (describes :
      plan.Describes externals jobs lastScheduledAt template nextFire)
    (atStage :
      AtStage externals jobs template nextFire plan stage current)
    (leaves :
      SpawnLeaves externals current
        (spawnEffect externals current template.id lastScheduledAt)
        failure after succeeded) :
    ∃ next,
      plan.Call stage failure next ∧
        AtStage externals jobs template nextFire plan next after := by
  obtain ⟨updatedAt, isEffect⟩ := effect describes atStage
  rw [isEffect] at leaves
  cases ends : plan.ends stage.increments with
  | true =>
      rw [if_pos ends] at leaves
      cases leaves with
      | completes other clock =>
          exact ⟨_, .completes stage ends, atStage.complete ends clock⟩
      | fails _ query early =>
          exact ⟨stage, fails_of_early early fun _ _ => by simp, atStage⟩
  | false =>
      have short := atStage.short_of_goesOn ends
      rw [ends, if_neg Bool.false_ne_true] at leaves
      cases blocks : plan.blocks stage with
      | true =>
          rw [if_pos blocks] at leaves
          cases leaves with
          | skips other fire clock =>
              exact ⟨_, .skips stage ends blocks,
                atStage.increment ends clock⟩
          | fails _ query early =>
              exact ⟨stage, .fails stage query fun _ => blocks, atStage⟩
      | false =>
          rw [blocks, if_neg Bool.false_ne_true] at leaves
          cases isInserted : stage.inserted with
          | true =>
              rw [if_pos isInserted] at leaves
              cases leaves with
              | nothing =>
                  exact ⟨stage, .finds stage ends blocks isInserted,
                    atStage⟩
              | fails _ query early =>
                  exact ⟨stage, fails_of_early early fun _ _ => by simp,
                    atStage⟩
          | false =>
              rw [isInserted, if_neg Bool.false_ne_true] at leaves
              have newKey :=
                describes.newKey short (SpawnPlan.not_blocked_of_free blocks)
              cases leaves with
              | inserts other fire insertedAt clock id isInsert =>
                  refine ⟨_, .inserts stage ends blocks isInserted, ?_⟩
                  exact (atStage.insert isInserted newKey isInsert).increment
                    ends clock
              | strands other fire insertedAt id isInsert =>
                  exact ⟨_, .strands stage ends blocks isInserted,
                    atStage.insert isInserted newKey isInsert⟩
              | fails _ query early =>
                  exact ⟨stage, fails_of_early early fun _ _ => by simp,
                    atStage⟩

/-- A table at the same stage has each instance of the other. -/
theorem instances_subset
    {otherStage : SpawnStage}
    {other : JobTable}
    (atStage :
      AtStage externals jobs template nextFire plan stage current)
    (same :
      SpawnPlan.Same (template.state = .completed) stage otherStage)
    (otherAtStage :
      AtStage externals jobs template nextFire plan otherStage other)
    {content : Job}
    (member : content ∈ instanceContents current template.id) :
    content ∈ instanceContents other template.id := by
  obtain ⟨row, rowMember, isChild, rfl⟩ := mem_instanceContents.mp member
  rw [mem_instanceContents]
  rcases atStage.row_cases rowMember with
    ⟨writtenAt, rfl⟩ | ⟨otherId, old⟩ | ⟨inserted, clock, id, rfl⟩
  · obtain ⟨otherAt, otherMember⟩ := otherAtStage.templateRow
    refine ⟨_, otherMember, isChild, ?_⟩
    by_cases wasCompleted : template.state = .completed
    · simp [Job.content, SpawnStage.image, same.increments, wasCompleted]
    · simp [Job.content, SpawnStage.image, same.increments,
        same.completed wasCompleted]
  · exact ⟨row, otherAtStage.old_mem old otherId, isChild, rfl⟩
  · obtain ⟨otherClock, otherId, otherMember⟩ :=
      otherAtStage.added_mem (same.inserted ▸ inserted)
    exact ⟨_, otherMember, rfl, rfl⟩

/-- An instance is not confused with what was there before. -/
theorem inserted_of_alike
    {otherStage : SpawnStage}
    {other : JobTable}
    (atStage :
      AtStage externals jobs template nextFire plan stage current)
    (describes :
      plan.Describes externals jobs lastScheduledAt template nextFire)
    (otherAtStage :
      AtStage externals jobs template nextFire plan otherStage other)
    (alike :
      ∀ content,
        content ∈ instanceContents current template.id →
          content ∈ instanceContents other template.id)
    (inserted : stage.inserted = true) :
    otherStage.inserted = true := by
  have newKey := atStage.newKey_of_inserted inserted
  obtain ⟨clock, id, member⟩ := atStage.added_mem inserted
  obtain ⟨row, rowMember, _, sameContent⟩ :=
    mem_instanceContents.mp
      (alike _ (mem_instanceContents.mpr ⟨_, member, rfl, rfl⟩))
  have sameKey :
      row.idempotencyKey = instanceKey externals template.id nextFire :=
    congrArg Job.idempotencyKey sameContent
  rcases otherAtStage.row_cases rowMember with
    ⟨writtenAt, rfl⟩ | ⟨_, old⟩ | ⟨otherInserted, _⟩
  · exact absurd sameKey (newKey template describes.member)
  · exact absurd sameKey (newKey row old)
  · exact otherInserted

/-- Tables can be told apart as far as their stages can. -/
theorem alike_iff
    {otherStage : SpawnStage}
    {other : JobTable}
    (describes :
      plan.Describes externals jobs lastScheduledAt template nextFire)
    (atStage :
      AtStage externals jobs template nextFire plan stage current)
    (otherAtStage :
      AtStage externals jobs template nextFire plan otherStage other) :
    SpawnedAlike template.id current other ↔
      SpawnPlan.Same (template.state = .completed) stage otherStage := by
  obtain ⟨updatedAt, read⟩ := atStage.read_template
  obtain ⟨otherAt, otherRead⟩ := otherAtStage.read_template
  constructor
  · intro alike
    have sameProgress := alike.template
    rw [read, otherRead] at sameProgress
    simp only [Option.map_some, Option.some.injEq, Job.progress,
      SpawnStage.image, Prod.mk.injEq] at sameProgress
    obtain ⟨sameState, sameCount, _⟩ := sameProgress
    refine ⟨?_, by omega, fun wasNot => ?_⟩
    · rw [Bool.eq_iff_iff]
      exact ⟨
        atStage.inserted_of_alike describes otherAtStage fun content =>
          (alike.instances content).mp,
        otherAtStage.inserted_of_alike describes atStage fun content =>
          (alike.instances content).mpr⟩
    · have completedIff (stage : SpawnStage) :
          (if stage.completed = true then JobState.completed
              else template.state) = .completed ↔
            stage.completed = true := by
        cases stage.completed <;> simp [wasNot]
      rw [Bool.eq_iff_iff, ← completedIff stage, sameState,
        completedIff otherStage]
  · intro same
    have sameBack :
        SpawnPlan.Same (template.state = .completed) otherStage stage :=
      ⟨same.inserted.symm, same.increments.symm,
        fun wasNot => (same.completed wasNot).symm⟩
    refine ⟨?_, fun content =>
      ⟨atStage.instances_subset same otherAtStage,
        otherAtStage.instances_subset sameBack atStage⟩⟩
    rw [read, otherRead]
    by_cases wasCompleted : template.state = .completed
    · simp [Job.progress, SpawnStage.image, same.increments, wasCompleted]
    · simp [Job.progress, SpawnStage.image, same.increments,
        same.completed wasCompleted]

end AtStage

/-! ## The plans of a template -/

section Plans

variable {externals : Externals}
variable {jobs : JobTable}
variable {lastScheduledAt nextFire : Time}
variable {template : Job}

/-- A template at its end: nothing but completing it is left to do. -/
def SpawnPlan.atEnd (template : Job) : SpawnPlan where
  ends := fun _ => true
  blocked := false
  requeues := decide (template.concurrencyPolicy = .queueOnce)

/-- A template short of its end. -/
def SpawnPlan.short (template : Job) (blocked : Bool) : SpawnPlan where
  ends increments :=
    occurrencesReached
      { template with
        occurrencesCompleted :=
          template.occurrencesCompleted + increments }
  blocked := blocked
  requeues := decide (template.concurrencyPolicy = .queueOnce)

/-- A template that could be planned for still can at each stage. -/
theorem Plannable.image
    {cronExpr : String}
    (plannable : Plannable template cronExpr)
    (stage : SpawnStage)
    (updatedAt : Time) :
    Plannable (stage.image template nextFire updatedAt) cronExpr where
  isTemplate := plannable.isTemplate
  isRecurring := plannable.isRecurring
  notCancelled := by
    unfold SpawnStage.image
    dsimp only
    split
    · exact fun isCancelled => by cases isCancelled
    · exact plannable.notCancelled
  isCron := plannable.isCron

theorem describes_atEnd
    (member : template ∈ jobs.rows)
    (planned :
      planSpawn externals lastScheduledAt (some template) =
        .next (.completeTemplate template)) :
    (SpawnPlan.atEnd template).Describes externals jobs lastScheduledAt
      template nextFire where
  member := member
  completes := by
    intro stage updatedAt idle _
    obtain ⟨cronExpr, plannable⟩ := plannable_of_planned planned
    rw [plannable.completes_iff] at planned
    rw [(plannable.image stage updatedAt).completes_iff]
    have sameCount :
        (stage.image template nextFire updatedAt).occurrencesCompleted =
          template.occurrencesCompleted := by
      simp [SpawnStage.image, idle rfl]
    have sameReached :
        occurrencesReached (stage.image template nextFire updatedAt) =
          occurrencesReached template := by
      unfold occurrencesReached
      rw [sameCount]
      rfl
    rw [sameReached]
    exact planned
  counts := fun _ _ short => by cases short
  blocked := fun short => by cases short
  requeues := decide_eq_true_iff
  newKey := fun short => by cases short

theorem describes_short
    {blocked : Bool}
    (member : template ∈ jobs.rows)
    (planned :
      planSpawn externals lastScheduledAt (some template) =
        .next (.countSiblings template nextFire))
    (isBlocked : blocked = true ↔ SpawnBlocked jobs template)
    (newKey :
      blocked = false →
        ∀ row ∈ jobs.rows,
          row.idempotencyKey ≠
            instanceKey externals template.id nextFire) :
    (SpawnPlan.short template blocked).Describes externals jobs
      lastScheduledAt template nextFire where
  member := member
  completes := by
    intro stage updatedAt _ ends
    obtain ⟨cronExpr, plannable⟩ := plannable_of_planned planned
    rw [(plannable.image stage updatedAt).completes_iff]
    exact Or.inl ends
  counts := by
    intro stage updatedAt _ goesOn
    obtain ⟨cronExpr, plannable⟩ := plannable_of_planned planned
    rw [plannable.counts_iff] at planned
    rw [(plannable.image stage updatedAt).counts_iff]
    exact ⟨goesOn, planned.2.1, planned.2.2⟩
  blocked := fun _ => isBlocked
  requeues := decide_eq_true_iff
  newKey := fun _ => newKey

end Plans

/-! ## Whole sequences of calls -/

/-- The next instance would not be spawned for want of occurrences. -/
def EndsNext (template : Job) : Prop :=
  occurrencesReached
      { template with
        occurrencesCompleted := template.occurrencesCompleted + 1 } =
    true

/--
Calls with these failures, then one that returns `Ok`, leave what one call of
this effect leaves.  `none` is a call that has met no error.
-/
def SpawnEffect.RetriesSafely
    (failures : List (Option SpawnQuery)) : SpawnEffect → Prop
  | .skips template _ =>
      none ∈ failures → EndsNext template ∧ template.state = .completed
  | .inserts template _ =>
      if template.concurrencyPolicy = .queueOnce then
        none ∈ failures → EndsNext template ∧ template.state = .completed
      else
        some .incrementTemplateOccurrences ∉ failures ∧
          (none ∈ failures →
            EndsNext template → template.state = .completed)
  | .nothing | .refused | .completes _ => True

instance (template : Job) : Decidable (EndsNext template) :=
  inferInstanceAs (Decidable (_ = _))

instance SpawnEffect.decidableRetriesSafely
    (failures : List (Option SpawnQuery)) :
    ∀ effect : SpawnEffect, Decidable (effect.RetriesSafely failures)
  | .skips template _ =>
      inferInstanceAs
        (Decidable
          (none ∈ failures →
            EndsNext template ∧ template.state = .completed))
  | .inserts template _ =>
      inferInstanceAs
        (Decidable
          (if template.concurrencyPolicy = .queueOnce then
            none ∈ failures →
              EndsNext template ∧ template.state = .completed
          else
            some .incrementTemplateOccurrences ∉ failures ∧
              (none ∈ failures →
                EndsNext template → template.state = .completed)))
  | .nothing => isTrue trivial
  | .refused => isTrue trivial
  | .completes _ => isTrue trivial

/-- One call that runs by itself, with the failure it meets. -/
def SpawnAttempt
    (externals : Externals)
    (templateId : Uuid)
    (lastScheduledAt : Time)
    (before : Shared)
    (failure : Option SpawnQuery)
    (after : Shared) : Prop :=
  ∃ answers succeeded,
    SpawnCall.run? externals answers before
        (.readTemplate templateId lastScheduledAt) =
      some { shared := after, failure := failure, succeeded := succeeded }

section Sequences

variable {externals : Externals}
variable {templateId : Uuid}
variable {lastScheduledAt nextFire : Time}
variable {template : Job}
variable {plan : SpawnPlan}
variable {start middle : Shared}
variable {failures : List (Option SpawnQuery)}
variable {answers onceAnswers : List (Nat × Reply)}
variable {last once : SpawnOutcome}

/-- The calls of a template go through the stages of its plan. -/
theorem alike_iff_of_describes
    (describes :
      plan.Describes externals start.jobs lastScheduledAt template
        nextFire)
    (isTemplate : template.id = templateId)
    (earlier :
      TransitionSystem.Trace
        (SpawnAttempt externals templateId lastScheduledAt) start failures
        middle)
    (lastCall :
      SpawnCall.run? externals answers middle
          (.readTemplate templateId lastScheduledAt) =
        some last)
    (isOk : last.succeeded = true)
    (onceCall :
      SpawnCall.run? externals onceAnswers start
          (.readTemplate templateId lastScheduledAt) =
        some once)
    (undisturbed : once.failure = none) :
    SpawnedAlike templateId once.shared.jobs last.shared.jobs ↔
      plan.RetriesSafely (template.state = .completed) failures := by
  subst isTemplate
  have follows :
      ∀ {stage : SpawnStage} {before after : Shared}
        {failure : Option SpawnQuery},
        AtStage externals start.jobs template nextFire plan stage
          before.jobs →
        SpawnAttempt externals template.id lastScheduledAt before failure
          after →
        ∃ next,
          plan.Call stage failure next ∧
            AtStage externals start.jobs template nextFire plan next
              after.jobs := by
    intro stage before after failure atStage attempt
    obtain ⟨_, _, run⟩ := attempt
    exact atStage.step describes (spawnLeaves_of_run? run)
  have atStart := AtStage.start describes
  obtain ⟨stage, trace, atStage⟩ :=
    earlier.simulate
      (fun stage shared =>
        AtStage externals start.jobs template nextFire plan stage
          shared.jobs)
      follows atStart
  have lastLeaves := spawnLeaves_of_run? lastCall
  rw [isOk] at lastLeaves
  rw [lastLeaves.failure_eq_none] at lastLeaves
  have onceLeaves := spawnLeaves_of_run? onceCall
  rw [undisturbed] at onceLeaves
  obtain ⟨final, finalCall, atFinal⟩ := atStage.step describes lastLeaves
  obtain ⟨single, singleCall, atSingle⟩ :=
    atStart.step describes onceLeaves
  rw [atSingle.alike_iff describes atFinal]
  exact SpawnPlan.retries_iff trace finalCall singleCall

/-- Calls without an effect leave the table as it was. -/
theorem jobs_eq_of_idle
    (idle :
      spawnEffect externals start.jobs templateId lastScheduledAt =
          .nothing ∨
        spawnEffect externals start.jobs templateId lastScheduledAt =
          .refused)
    (earlier :
      TransitionSystem.Trace
        (SpawnAttempt externals templateId lastScheduledAt) start failures
        middle) :
    middle.jobs = start.jobs := by
  have preserved :
      ∀ {before after : Shared} {failure : Option SpawnQuery},
        before.jobs = start.jobs →
        SpawnAttempt externals templateId lastScheduledAt before failure
          after →
        after.jobs = start.jobs := by
    intro before after failure same attempt
    obtain ⟨_, _, run⟩ := attempt
    have leaves := spawnLeaves_of_run? run
    rw [same] at leaves
    exact leaves.eq_self idle
  exact earlier.invariant (fun shared => shared.jobs = start.jobs)
    preserved rfl

theorem alike_of_idle
    (idle :
      spawnEffect externals start.jobs templateId lastScheduledAt =
          .nothing ∨
        spawnEffect externals start.jobs templateId lastScheduledAt =
          .refused)
    (earlier :
      TransitionSystem.Trace
        (SpawnAttempt externals templateId lastScheduledAt) start failures
        middle)
    (lastCall :
      SpawnCall.run? externals answers middle
          (.readTemplate templateId lastScheduledAt) =
        some last)
    (onceCall :
      SpawnCall.run? externals onceAnswers start
          (.readTemplate templateId lastScheduledAt) =
        some once) :
    SpawnedAlike templateId once.shared.jobs last.shared.jobs := by
  have unchanged := jobs_eq_of_idle idle earlier
  have lastLeaves := spawnLeaves_of_run? lastCall
  rw [unchanged] at lastLeaves
  rw [lastLeaves.eq_self idle,
    (spawnLeaves_of_run? onceCall).eq_self idle]
  exact ⟨rfl, fun _ => Iff.rfl⟩

/-- A template that siblings are counted for is short of its end. -/
theorem ends_zero
    {blocked : Bool}
    (planned :
      planSpawn externals lastScheduledAt (some template) =
        .next (.countSiblings template nextFire)) :
    (SpawnPlan.short template blocked).ends 0 = false := by
  have notReached := (planSpawn_eq_countSiblings planned).2.1
  simpa [SpawnPlan.short] using notReached

theorem SpawnPlan.retriesSafely_short_of_blocked
    (short : (SpawnPlan.short template true).ends 0 = false) :
    (SpawnPlan.short template true).RetriesSafely
        (template.state = .completed) failures ↔
      (SpawnEffect.skips template nextFire).RetriesSafely failures := by
  rw [SpawnPlan.retriesSafely_iff short]
  exact Iff.rfl

theorem SpawnPlan.retriesSafely_short_of_free
    (short : (SpawnPlan.short template false).ends 0 = false) :
    (SpawnPlan.short template false).RetriesSafely
        (template.state = .completed) failures ↔
      (SpawnEffect.inserts template nextFire).RetriesSafely failures := by
  rw [SpawnPlan.retriesSafely_iff short]
  simp only [SpawnEffect.RetriesSafely]
  by_cases requeues : template.concurrencyPolicy = .queueOnce
  · have unguarded :
        ¬(SpawnPlan.short template false).guarded = true := by
      simp [SpawnPlan.guarded, SpawnPlan.short, requeues]
    rw [if_neg unguarded, if_pos requeues]
    exact Iff.rfl
  · have guarded : (SpawnPlan.short template false).guarded = true := by
      simp [SpawnPlan.guarded, SpawnPlan.short, requeues]
    rw [if_pos guarded, if_neg requeues]
    exact Iff.rfl

/--
Calls of `spawn_next_instance` for one template and one instant, each of which
may fail at any repository function, leave what a single call without a failure
leaves, once one returns `Ok`, exactly if they retry safely.
-/
theorem spawn_retries_iff
    (earlier :
      TransitionSystem.Trace
        (SpawnAttempt externals templateId lastScheduledAt) start failures
        middle)
    (lastCall :
      SpawnCall.run? externals answers middle
          (.readTemplate templateId lastScheduledAt) =
        some last)
    (isOk : last.succeeded = true)
    (onceCall :
      SpawnCall.run? externals onceAnswers start
          (.readTemplate templateId lastScheduledAt) =
        some once)
    (undisturbed : once.failure = none) :
    SpawnedAlike templateId once.shared.jobs last.shared.jobs ↔
      (spawnEffect externals start.jobs templateId
        lastScheduledAt).RetriesSafely failures := by
  have decides :
      SpawnDecides externals start.jobs templateId lastScheduledAt
        (spawnEffect externals start.jobs templateId lastScheduledAt) :=
    spawnDecides
  generalize isEffect :
      spawnEffect externals start.jobs templateId lastScheduledAt =
        effect at decides ⊢
  cases decides with
  | nothing =>
      exact iff_of_true
        (alike_of_idle (Or.inl isEffect) earlier lastCall onceCall) trivial
  | refused =>
      exact iff_of_true
        (alike_of_idle (Or.inr isEffect) earlier lastCall onceCall) trivial
  | completes template read planned =>
      obtain ⟨member, isTemplate⟩ := RecordTable.find?_eq_some_iff.mp read
      have describes : (SpawnPlan.atEnd template).Describes externals
          start.jobs lastScheduledAt template 0 :=
        describes_atEnd member planned
      rw [alike_iff_of_describes describes isTemplate earlier lastCall isOk
        onceCall undisturbed]
      exact iff_of_true (fun short => by cases short) trivial
  | skips template nextFire read planned blocked =>
      obtain ⟨member, isTemplate⟩ := RecordTable.find?_eq_some_iff.mp read
      have describes : (SpawnPlan.short template true).Describes externals
          start.jobs lastScheduledAt template nextFire :=
        describes_short member planned (iff_of_true rfl blocked)
          fun free => by cases free
      rw [alike_iff_of_describes describes isTemplate earlier lastCall isOk
        onceCall undisturbed]
      exact SpawnPlan.retriesSafely_short_of_blocked (ends_zero planned)
  | inserts template nextFire read planned free isNew =>
      obtain ⟨member, isTemplate⟩ := RecordTable.find?_eq_some_iff.mp read
      have describes : (SpawnPlan.short template false).Describes externals
          start.jobs lastScheduledAt template nextFire :=
        describes_short member planned
          (iff_of_false Bool.false_ne_true free)
          fun _ => RecordTable.findUnique?_eq_none_iff.mp isNew
      rw [alike_iff_of_describes describes isTemplate earlier lastCall isOk
        onceCall undisturbed]
      exact SpawnPlan.retriesSafely_short_of_free (ends_zero planned)

end Sequences

namespace Sample

/-- The first instance of template 1, job 2, runs and succeeds. -/
def completeFirst : List (Action config 2) :=
  createRecurring ++ executeInstance ++
    [ .worker 0 (.execute succeeds),
      .worker 0 (.settle .ok) ]

/-- The spawn that follows the success of job 2. -/
def spawnNext : SpawnCall :=
  .readTemplate 1 60000000

/-- It inserts job 3 and goes through. -/
def goesThrough : List (Nat × Reply) :=
  [ (0, .ok),
    (0, .ok),
    (0, .ok),
    (0, .inserted 3),
    (0, .ok),
    (0, .ok) ]

/-- It inserts job 3, and the increment fails. -/
def failsToIncrement : List (Nat × Reply) :=
  [ (0, .ok),
    (0, .ok),
    (0, .ok),
    (0, .inserted 3),
    (5000000, .error "pool timed out") ]

/-- It finds job 3 in its way. -/
def skips : List (Nat × Reply) :=
  [ (1000000, .ok),
    (0, .ok),
    (0, .ok) ]

/-- Under `queue_once` a retry makes up for an increment that has failed. -/
theorem retry_makes_up_for_increment :
    ∃ start middle : Shared, ∃ last once : SpawnOutcome,
      SpawnAttempt externals 1 60000000 start
          (some .incrementTemplateOccurrences) middle ∧
        SpawnCall.run? externals skips middle spawnNext = some last ∧
        SpawnCall.run? externals goesThrough start spawnNext =
          some once ∧
        once.shared.jobs.rows.map Job.state =
          [.scheduled, .completed, .scheduled] ∧
        SpawnedAlike 1 once.shared.jobs last.shared.jobs := by
  obtain ⟨reached, _, first, isFirst, failure, last, isLast, isOk, once,
      isOnce, undisturbed, states, safe⟩ :
      ∃ reached ∈ TransitionSystem.replay? (State.step? externals)
          TransitionSystem.Unrestricted (State.initial config 2 0)
          completeFirst,
        ∃ first ∈ SpawnCall.run? externals failsToIncrement
            reached.toShared spawnNext,
          first.failure = some .incrementTemplateOccurrences ∧
          ∃ last ∈ SpawnCall.run? externals skips first.shared spawnNext,
            last.succeeded = true ∧
            ∃ once ∈ SpawnCall.run? externals goesThrough
                reached.toShared spawnNext,
              once.failure = none ∧
                once.shared.jobs.rows.map Job.state =
                  [.scheduled, .completed, .scheduled] ∧
                (spawnEffect externals reached.jobs 1
                  60000000).RetriesSafely
                    [some .incrementTemplateOccurrences] := by
    decide
  have attempt :
      SpawnAttempt externals 1 60000000 reached.toShared
        (some .incrementTemplateOccurrences) first.shared :=
    ⟨failsToIncrement, first.succeeded, failure ▸ isFirst⟩
  exact ⟨reached.toShared, first.shared, last, once, attempt, isLast,
    isOnce, states,
    (spawn_retries_iff (.cons attempt (.nil _)) isLast isOk isOnce
      undisturbed).mpr safe⟩

/-- Under `queue_once` a call that is repeated counts a second occurrence. -/
theorem repeated_spawn_counts_twice :
    ∃ start middle : Shared, ∃ last once : SpawnOutcome,
      SpawnAttempt externals 1 60000000 start none middle ∧
        SpawnCall.run? externals skips middle spawnNext = some last ∧
        last.succeeded = true ∧
        SpawnCall.run? externals goesThrough start spawnNext =
          some once ∧
        once.failure = none ∧
        ¬SpawnedAlike 1 once.shared.jobs last.shared.jobs := by
  obtain ⟨reached, _, once, isOnce, undisturbed, last, isLast, isOk,
      differ⟩ :
      ∃ reached ∈ TransitionSystem.replay? (State.step? externals)
          TransitionSystem.Unrestricted (State.initial config 2 0)
          completeFirst,
        ∃ once ∈ SpawnCall.run? externals goesThrough
            reached.toShared spawnNext,
          once.failure = none ∧
          ∃ last ∈ SpawnCall.run? externals skips once.shared spawnNext,
            last.succeeded = true ∧
              (JobRepository.getJobByIdInternal once.shared.jobs 1).map
                  Job.progress ≠
                (JobRepository.getJobByIdInternal last.shared.jobs 1).map
                  Job.progress := by
    decide
  have attempt :
      SpawnAttempt externals 1 60000000 reached.toShared none
        once.shared :=
    ⟨goesThrough, once.succeeded, undisturbed ▸ isOnce⟩
  exact ⟨reached.toShared, once.shared, last, once, attempt, isLast, isOk,
    isOnce, undisturbed, fun alike => differ alike.template⟩

end Sample

end Kronkeeper
