import Kronkeeper.OccurrenceLimit
import Kronkeeper.RetryBudget
import Kronkeeper.RowRoundTrip
import Kronkeeper.SpawnRetries

namespace Kronkeeper

/-!
# The limits of a recurrence

`spawn_next_instance` holds the next fire against the end of the recurrence and
the counter of its template against the maximum.  `create_recurring` inserts
the first instance without a look at either.  As long as the spawns of a
template take turns and none of its increments is lost, the first instance is
the only one that can be beyond the limits.
-/

/-! ## Spawns that work with a counter they have read -/

/-- The template and the fire of a spawn from its read to its increment. -/
def SpawnCall.counted? : SpawnCall → Option (Job × Time)
  | .countSiblings template nextFire => some (template, nextFire)
  | .incrementSkipped template nextFire => some (template, nextFire)
  | .lookupKey template nextFire => some (template, nextFire)
  | .insertInstance template nextFire => some (template, nextFire)
  | .incrementInserted template nextFire => some (template, nextFire)
  | _ => none

/-- The template that has an instance more than its counter accounts for. -/
def SpawnCall.owed? : SpawnCall → Option Job
  | .incrementInserted template _ => some template
  | _ => none

def WorkerTask.counted? : WorkerTask → Option (Job × Time)
  | .spawning _ call => call.counted?
  | _ => none

def WorkerTask.owed? : WorkerTask → Option Job
  | .spawning _ call => call.owed?
  | _ => none

/-- A next instance at this fire is short of the end of the template. -/
structure ShortOfLimits (counted : Job × Time) : Prop where
  notReached : RecurringService.occurrencesReached counted.1 = false
  notPast : RecurringService.pastEnd counted.1 counted.2 = false

theorem WorkerTask.template?_of_counted
    {task : WorkerTask}
    {counted : Job × Time}
    (counts : task.counted? = some counted) :
    task.template? = some counted.1 := by
  cases task with
  | spawning job call =>
      cases call <;> cases counts <;> rfl
  | _ =>
      cases counts

theorem WorkerTask.spawning_of_owed
    {task : WorkerTask}
    {template : Job}
    (owes : task.owed? = some template) :
    ∃ job nextFire,
      task = .spawning job (.incrementInserted template nextFire) := by
  cases task with
  | spawning job call =>
      cases call with
      | incrementInserted other nextFire =>
          cases owes
          exact ⟨job, nextFire, rfl⟩
      | _ =>
          cases owes
  | _ =>
      cases owes

section Moves

variable {config : Config} {externals : Externals}
variable {shared after : Shared}

theorem RecurringService.shortOfLimits_of_planSpawn
    {lastScheduledAt nextFire : Time}
    {template : Job}
    (planned :
      planSpawn externals lastScheduledAt (some template) =
        .next (.countSiblings template nextFire)) :
    ShortOfLimits (template, nextFire) := by
  obtain ⟨_, read, isTemplate, isRecurring, notCancelled, _⟩ :=
    planSpawn_eq_next planned
  obtain rfl := Option.some.inj read
  obtain ⟨_, _, cronExpr, isCron, _⟩ := planSpawn_eq_countSiblings planned
  have plannable : Plannable template cronExpr :=
    ⟨isTemplate, isRecurring, notCancelled, isCron⟩
  obtain ⟨notReached, _, notPast⟩ := plannable.counts_iff.mp planned
  exact ⟨notReached, notPast⟩

/-- A read changes nothing. -/
theorem SpawnCall.Move.of_readTemplate
    {templateId : Uuid}
    {lastScheduledAt : Time}
    {reply : Reply}
    {progress : SpawnProgress}
    (moved :
      Move externals shared (.readTemplate templateId lastScheduledAt)
        reply after progress) :
    after = shared := by
  cases moved <;> rfl

/-- How a worker comes to work with a counter. -/
inductive WorkerTask.CountedOrigin
    (shared after : Shared)
    (counted : Job × Time) : WorkerTask → WorkerAction → Prop where
  | goesOn
      (task : WorkerTask)
      (action : WorkerAction)
      (before : task.counted? = some counted) :
      CountedOrigin shared after counted task action
  | reads
      (job : Job)
      (lastScheduledAt : Time)
      (member : counted.1 ∈ shared.jobs.rows)
      (short : ShortOfLimits counted)
      (same : after = shared) :
      CountedOrigin shared after counted
        (.spawning job (.readTemplate counted.1.id lastScheduledAt))
        (.spawn .ok)

theorem WorkerTask.Move.countedOrigin
    {task next : WorkerTask}
    {action : WorkerAction}
    (moved : task.Move config externals shared action after next)
    {counted : Job × Time}
    (counts : next.counted? = some counted) :
    CountedOrigin shared after counted task action := by
  cases next with
  | spawning job call =>
      cases moved.spawnOrigin with
      | goesOn previous reply spawned =>
          cases spawned.successor with
          | count templateId lastScheduledAt template nextFire reads
              planned =>
              obtain rfl := Option.some.inj counts
              obtain rfl := reads.sameId
              exact .reads job lastScheduledAt reads.member
                (RecurringService.shortOfLimits_of_planSpawn planned)
                spawned.of_readTemplate
          | complete | announce =>
              cases counts
          | skip | lookup | insert | increment =>
              exact .goesOn _ _ counts
      | begins _ _ _ _ _ isRead =>
          subst isRead
          cases counts
  | _ =>
      cases counts

/-- Every spawn works towards an instance short of the end. -/
theorem WorkerTask.Move.shortOfLimits
    {task next : WorkerTask}
    {action : WorkerAction}
    (moved : task.Move config externals shared action after next)
    (short : ∀ counted ∈ task.counted?, ShortOfLimits counted) :
    ∀ counted ∈ next.counted?, ShortOfLimits counted := by
  intro counted counts
  cases moved.countedOrigin counts with
  | goesOn _ _ before =>
      exact short counted before
  | reads _ _ _ isShort =>
      exact isShort

end Moves

/-! ## Runs whose spawns take turns -/

namespace State

variable {config : Config} {slots : Nat}

/-- No spawn works with the counter of the template. -/
def NotCounting (state : State config slots) (id : Uuid) : Prop :=
  ∀ worker, ∀ counted ∈ (state.workers worker).counted?,
    counted.1.id ≠ id

/-- A spawn reads its template when no other one works with the counter. -/
def TakesTurn
    (state : State config slots)
    (action : Action config slots) : Prop :=
  ∀ read ∈ state.readTemplate? action, state.NotCounting read.1

/-- The template whose increment a step takes from the worker. -/
def lostIncrement?
    (state : State config slots)
    (action : Action config slots)
    (worker : Fin config.workerCount) : Option Job :=
  match action with
  | .worker mover (.spawn (.error _)) =>
      if mover = worker then (state.workers worker).owed? else none
  | .restart => (state.workers worker).owed?
  | _ => none

/-- No template with a maximum loses an increment. -/
def KeepsIncrement
    (state : State config slots)
    (action : Action config slots) : Prop :=
  ∀ worker, ∀ template ∈ state.lostIncrement? action worker,
    template.maxOccurrences = none

/-- Spawns of a template follow on each other, each with its increment. -/
def CountsInTurn
    (state : State config slots)
    (action : Action config slots) : Prop :=
  state.TakesTurn action ∧ state.KeepsIncrement action

instance (state : State config slots) (id : Uuid) :
    Decidable (state.NotCounting id) :=
  have counting :=
    fun worker => (state.workers worker).counted?.decidableForallMem
  @Nat.decidableForallFin _ _ counting

instance
    (state : State config slots)
    (action : Action config slots) :
    Decidable (state.TakesTurn action) :=
  (state.readTemplate? action).decidableForallMem

instance
    (state : State config slots)
    (action : Action config slots) :
    Decidable (state.KeepsIncrement action) :=
  have losing :=
    fun worker => (state.lostIncrement? action worker).decidableForallMem
  @Nat.decidableForallFin _ _ losing

instance
    (state : State config slots)
    (action : Action config slots) :
    Decidable (state.CountsInTurn action) :=
  inferInstanceAs (Decidable (_ ∧ _))

/-- The template whose counter a step increments. -/
def incremented?
    (state : State config slots) : Action config slots → Option Uuid
  | .worker worker (.spawn .ok) =>
      match state.workers worker with
      | .spawning _ (.incrementSkipped template _) => some template.id
      | .spawning _ (.incrementInserted template _) => some template.id
      | _ => none
  | _ => none

variable {externals : Externals}
variable {state after : State config slots}
variable {action : Action config slots}

/-! ## What a step does to a counter and its instances -/

/-- An increment ends the work with the counter. -/
theorem worker_of_incremented
    (taken : step? externals state action = some after)
    {id : Uuid}
    (increments : state.incremented? action = some id) :
    ∃ worker template nextFire,
      (state.workers worker).counted? = some (template, nextFire) ∧
        template.id = id ∧
        (after.workers worker).counted? = none ∧
        after.jobs =
          state.jobs.update
            (JobRepository.incrementTemplateOccurrences state.clock id
              (some nextFire)) := by
  unfold incremented? at increments
  split at increments
  · rename_i worker
    obtain ⟨shared, moved, sameJobs, _⟩ := workerMove_of_step? taken
    split at increments
    all_goals
      try
        rename_i job template nextFire isTask
        obtain rfl := Option.some.inj increments
        refine ⟨worker, template, nextFire, by rw [isTask]; rfl, rfl, ?_⟩
        rw [isTask] at moved
        generalize after.workers worker = next at moved ⊢
        cases moved with
        | spawn _ _ _ _ _ spawned =>
            cases spawned
            exact ⟨rfl, sameJobs⟩
    cases increments
  · cases increments

/-- What a step does to a template and the number of its instances. -/
inductive CounterStep
    (externals : Externals)
    (state after : State config slots)
    (action : Action config slots)
    (row : Job) : Prop where
  | kept
      (old : Job)
      (member : old ∈ state.jobs.rows)
      (identity : row.identity = old.identity)
      (sameCounter : row.occurrencesCompleted = old.occurrencesCompleted)
      (sameCount :
        instanceCount after.jobs row.id = instanceCount state.jobs row.id)
      (notCounted : state.incremented? action ≠ some row.id)
  | incremented
      (old : Job)
      (member : old ∈ state.jobs.rows)
      (identity : row.identity = old.identity)
      (increments : state.incremented? action = some row.id)
      (counter :
        row.occurrencesCompleted = old.occurrencesCompleted + 1)
      (sameCount :
        instanceCount after.jobs row.id = instanceCount state.jobs row.id)
  | inserted
      (member : row ∈ state.jobs.rows)
      (added : Job)
      (insertion : state.Inserts externals action added)
      (isInstance : added.parentJobId = some row.id)
      (nextCount :
        instanceCount after.jobs row.id =
          instanceCount state.jobs row.id + 1)
  | created
      (fresh : ∀ old ∈ state.jobs.rows, old.id ≠ row.id)
      (counter : row.occurrencesCompleted = 0)
      (noInstance : instanceCount after.jobs row.id = 0)

/-- Only an increment writes the counter of a row. -/
theorem occurrencesCompleted_of_not_incremented
    (taken : step? externals state action = some after)
    {old new : Job}
    (oldMember : old ∈ state.jobs.rows)
    (newMember : new ∈ after.jobs.rows)
    (sameId : new.id = old.id)
    (notCounted : state.incremented? action ≠ some old.id) :
    new.occurrencesCompleted = old.occurrencesCompleted := by
  rcases rowImage_of_step? taken oldMember newMember sameId with
    rfl | ⟨change, updates, applies, rfl⟩
  · rfl
  · cases updates with
    | increment worker job template nextFire spawning =>
        simp only [JobRepository.incrementTemplateOccurrences,
          beq_iff_eq] at applies
        refine (notCounted ?_).elim
        rcases spawning with spawning | spawning <;>
          simp only [incremented?, spawning, applies]
    | settle worker job result now disposition =>
        cases disposition <;> rfl
    | _ =>
        rfl

/-- Every step is one of these to a template. -/
theorem CreationKept.counterStep
    (kept : state.CreationKept)
    (taken : step? externals state action = some after)
    {row : Job}
    (member : row ∈ after.jobs.rows)
    (isTemplate : row.isTemplate = true) :
    CounterStep externals state after action row := by
  by_cases increments : state.incremented? action = some row.id
  · obtain ⟨worker, template, nextFire, counts, sameId, _, isTable⟩ :=
      worker_of_incremented taken increments
    rw [isTable] at member
    obtain ⟨old, oldMember, isImage⟩ := RecordTable.mem_update.mp member
    have identity : row.identity = old.identity := by
      rw [← isImage]
      exact RowUpdate.identity_image _ old
    refine .incremented old oldMember identity increments ?_ ?_
    · rw [← isImage, RowUpdate.image_of_applies]
      · rfl
      · simp [JobRepository.incrementTemplateOccurrences,
          Job.id_eq_of_identity identity]
    · rw [isTable, instanceCount_update]
  · cases tableStep_of_step? taken with
    | same same =>
        rw [same] at member
        exact .kept row member rfl rfl (by rw [same]) increments
    | updated change same =>
        have imageMember := member
        rw [same] at imageMember
        obtain ⟨old, oldMember, rfl⟩ :=
          RecordTable.mem_update.mp imageMember
        have identity := change.identity_image old
        have sameId := Job.id_eq_of_identity identity
        refine .kept old oldMember identity ?_ ?_ increments
        · exact occurrencesCompleted_of_not_incremented taken oldMember
            member sameId (sameId ▸ increments)
        · rw [same, instanceCount_update]
    | inserted added inserted insertion =>
        have counted := instanceCount_insert? inserted row.id
        rcases (RecordTable.mem_of_insert? inserted).mp member with
          oldMember | rfl
        · by_cases isInstance : added.parentJobId = some row.id
          · rw [if_pos isInstance] at counted
            exact .inserted oldMember added insertion isInstance counted
          · rw [if_neg isInstance] at counted
            exact .kept row oldMember rfl rfl counted increments
        · have fresh := (RecordTable.insert?_eq_some_iff.mp inserted).1
          have noneYet : NoInstance state.jobs row.id :=
            kept.noInstance_of_fresh fresh.1
          rw [instanceCount_eq_zero_iff.mpr noneYet] at counted
          cases insertion with
          | template =>
              exact .created fresh.1 rfl counted
          | job | firstInstance | nextInstance =>
              cases isTemplate

/-- How a worker comes to work with a counter. -/
inductive CountedStep
    (state after : State config slots)
    (action : Action config slots)
    (worker : Fin config.workerCount)
    (counted : Job × Time) : Prop where
  | goesOn (before : (state.workers worker).counted? = some counted)
  | reads
      (lastScheduledAt : Time)
      (isSpawn : action = .worker worker (.spawn .ok))
      (reads :
        state.readTemplate? action =
          some (counted.1.id, lastScheduledAt))
      (member : counted.1 ∈ state.jobs.rows)
      (sameJobs : after.jobs = state.jobs)

theorem countedStep_of_step?
    (taken : step? externals state action = some after)
    {worker : Fin config.workerCount}
    {counted : Job × Time}
    (counts : (after.workers worker).counted? = some counted) :
    CountedStep state after action worker counted := by
  cases workerStep_of_step? taken worker with
  | kept same =>
      exact .goesOn (same ▸ counts)
  | idle notified isIdle =>
      rw [isIdle] at counts
      cases counts
  | moved workerAction shared isWorker moved sameJobs =>
      subst isWorker
      generalize isTask : state.workers worker = task at moved
      cases moved.countedOrigin counts with
      | goesOn _ _ before =>
          exact .goesOn (isTask ▸ before)
      | reads job lastScheduledAt member short same =>
          refine .reads lastScheduledAt rfl ?_ member ?_
          · simp only [readTemplate?, isTask]
          · rw [sameJobs, same]

/-- A worker has an increment of the template to do. -/
def Owed (state : State config slots) (id : Uuid) : Prop :=
  ∃ worker, ∃ template ∈ (state.workers worker).owed?, template.id = id

/-- The account of a template with a maximum. -/
structure AccountKept
    (state : State config slots)
    (row : Job) : Prop where
  nonnegative : 0 ≤ row.occurrencesCompleted
  bounded : row.occurrencesCompleted + 1 < 2 ^ 31
  counted :
    (instanceCount state.jobs row.id : Int) ≤ row.occurrencesCompleted + 2
  caughtUp :
    ¬state.Owed row.id →
    (instanceCount state.jobs row.id : Int) ≤ row.occurrencesCompleted + 1

/-- What spawns that take turns keep of the counters. -/
structure CountersKept (state : State config slots) : Prop where
  creation : state.CreationKept
  short :
    ∀ worker, ∀ counted ∈ (state.workers worker).counted?,
      ShortOfLimits counted
  oneAtATime :
    ∀ first second counted other,
      (state.workers first).counted? = some counted →
      (state.workers second).counted? = some other →
      counted.1.id = other.1.id →
      first = second
  current :
    ∀ worker, ∀ counted ∈ (state.workers worker).counted?,
      ∀ row ∈ state.jobs.rows,
        row.id = counted.1.id →
        row.occurrencesCompleted = counted.1.occurrencesCompleted
  accounts :
    ∀ row ∈ state.jobs.rows, ∀ maximum ∈ row.maxOccurrences,
      row.isTemplate = true →
      maximum < 2 ^ 31 →
      state.AccountKept row

theorem countersKept_initial
    (clock : Time) :
    (initial config slots clock).CountersKept where
  creation := creationKept_initial clock
  short := fun _ _ counts => by cases counts
  oneAtATime := fun _ _ _ _ counts => by cases counts
  current := fun _ _ counts => by cases counts
  accounts := fun _ member => by cases member

/-! ## The invariants across a step -/

/-- The template of a spawn is a row of the table. -/
private theorem CreationKept.templateRead
    (kept : state.CreationKept)
    {worker : Fin config.workerCount}
    {counted : Job × Time}
    (counts : (state.workers worker).counted? = some counted) :
    state.jobs.TemplateRead counted.1 :=
  (kept.grounded.workers worker).template counted.1
    (WorkerTask.template?_of_counted counts)

private theorem CountersKept.oneAtATime_step
    (kept : state.CountersKept)
    (permitted : state.CountsInTurn action)
    (taken : step? externals state action = some after)
    {first second : Fin config.workerCount}
    {counted other : Job × Time}
    (firstCounts : (after.workers first).counted? = some counted)
    (secondCounts : (after.workers second).counted? = some other)
    (sameId : counted.1.id = other.1.id) :
    first = second := by
  cases countedStep_of_step? taken firstCounts with
  | goesOn firstBefore =>
      cases countedStep_of_step? taken secondCounts with
      | goesOn secondBefore =>
          exact kept.oneAtATime first second counted other firstBefore
            secondBefore sameId
      | reads lastScheduledAt _ reads =>
          exact (permitted.1 _ reads first counted firstBefore
            sameId).elim
  | reads lastScheduledAt isFirst reads =>
      cases countedStep_of_step? taken secondCounts with
      | goesOn secondBefore =>
          exact (permitted.1 _ reads second other secondBefore
            sameId.symm).elim
      | reads _ isSecond =>
          have sameAction := isFirst.symm.trans isSecond
          cases sameAction
          rfl

private theorem CountersKept.current_step
    (kept : state.CountersKept)
    (taken : step? externals state action = some after)
    {worker : Fin config.workerCount}
    {counted : Job × Time}
    (counts : (after.workers worker).counted? = some counted)
    {row : Job}
    (member : row ∈ after.jobs.rows)
    (sameId : row.id = counted.1.id) :
    row.occurrencesCompleted = counted.1.occurrencesCompleted := by
  cases countedStep_of_step? taken counts with
  | reads _ _ _ oldMember sameJobs =>
      rw [sameJobs] at member
      rw [RecordTable.eq_of_primary member oldMember sameId]
  | goesOn before =>
      have laterRead := (kept.creation.step taken).templateRead counts
      have isTemplate := laterRead.row_isTemplate member sameId
      cases kept.creation.counterStep taken member isTemplate with
      | kept old oldMember identity sameCounter =>
          exact sameCounter.trans
            (kept.current worker counted before old oldMember
              ((Job.id_eq_of_identity identity).symm.trans sameId))
      | incremented _ _ _ increments =>
          obtain ⟨mover, template, nextFire, moverCounts, templateId,
            isOver, _⟩ := worker_of_incremented taken increments
          have sameWorker : mover = worker :=
            kept.oneAtATime mover worker _ counted moverCounts before
              (templateId.trans sameId)
          rw [sameWorker, counts] at isOver
          cases isOver
      | inserted oldMember =>
          exact kept.current worker counted before row oldMember sameId
      | created fresh =>
          obtain ⟨old, oldMember, identity⟩ :=
            (kept.creation.templateRead before).known
          exact (fresh old oldMember
            ((Job.id_eq_of_identity identity).trans sameId.symm)).elim

/-- What is owed stays owed until it is done. -/
private theorem CountersKept.owed_step
    (kept : state.CountersKept)
    (permitted : state.CountsInTurn action)
    (taken : step? externals state action = some after)
    {old : Job}
    (oldMember : old ∈ state.jobs.rows)
    (limited : old.maxOccurrences ≠ none)
    (notCounted : state.incremented? action ≠ some old.id)
    (owed : state.Owed old.id) :
    after.Owed old.id := by
  obtain ⟨worker, template, owes, sameId⟩ := owed
  obtain ⟨job, nextFire, isTask⟩ := WorkerTask.spawning_of_owed owes
  have counts :
      (state.workers worker).counted? = some (template, nextFire) := by
    rw [isTask]
    rfl
  have read := kept.creation.templateRead counts
  have templateLimited : template.maxOccurrences ≠ none := by
    have identity := read.row oldMember sameId.symm
    have sameMaximum : old.maxOccurrences = template.maxOccurrences :=
      congrArg JobIdentity.maxOccurrences identity
    exact sameMaximum ▸ limited
  cases workerStep_of_step? taken worker with
  | kept same =>
      exact ⟨worker, template, same ▸ owes, sameId⟩
  | idle notified _ wasIdle =>
      rcases wasIdle with rfl | ⟨before, wasIdle⟩
      · exact (templateLimited (permitted.2 worker template owes)).elim
      · rw [wasIdle] at isTask
        cases isTask
  | moved workerAction shared isWorker moved =>
      subst isWorker
      rw [isTask] at moved
      generalize after.workers worker = next at moved
      cases moved with
      | spawn _ _ reply _ _ spawned =>
          cases spawned with
          | increment =>
              refine (notCounted ?_).elim
              simp only [incremented?, isTask, sameId]
          | fails _ message =>
              refine (templateLimited (permitted.2 worker template ?_)).elim
              exact (if_pos rfl).trans owes

/-- A spawn increments the counter of a template short of its maximum. -/
private theorem CountersKept.increment_below
    (kept : state.CountersKept)
    {worker : Fin config.workerCount}
    {counted : Job × Time}
    (counts : (state.workers worker).counted? = some counted)
    {row : Job}
    (member : row ∈ state.jobs.rows)
    (sameId : row.id = counted.1.id)
    {maximum : Int}
    (isMaximum : row.maxOccurrences = some maximum)
    (account : state.AccountKept row) :
    row.occurrencesCompleted + 1 < maximum := by
  have read := kept.creation.templateRead counts
  have sameMaximum : counted.1.maxOccurrences = some maximum :=
    (congrArg JobIdentity.maxOccurrences
      (read.row member sameId)).symm.trans isMaximum
  have below :=
    RecurringService.nextOccurrences_lt
      (kept.short worker counted counts).notReached sameMaximum
  have current := kept.current worker counted counts row member sameId
  have nonnegative := account.nonnegative
  have noWrap :
      RecurringService.nextOccurrences counted.1 =
        row.occurrencesCompleted + 1 := by
    rw [RecurringService.nextOccurrences, ← current]
    exact wrapI32_eq_self (by omega) account.bounded
  rw [noWrap] at below
  exact below

/-- Nothing is owed for a template while a spawn is to insert for it. -/
private theorem CountersKept.not_owed
    (kept : state.CountersKept)
    {worker : Fin config.workerCount}
    {job template : Job}
    {nextFire : Time}
    (spawning :
      state.workers worker =
        .spawning job (.insertInstance template nextFire)) :
    ¬state.Owed template.id := by
  rintro ⟨debtor, other, owes, sameId⟩
  obtain ⟨_, otherFire, isTask⟩ := WorkerTask.spawning_of_owed owes
  have sameWorker : debtor = worker :=
    kept.oneAtATime debtor worker (other, otherFire) (template, nextFire)
      (by rw [isTask]; rfl) (by rw [spawning]; rfl) sameId
  rw [sameWorker, spawning] at isTask
  cases isTask

/-- An `INSERT` that took place leaves its increment to do. -/
private theorem owed_of_inserted
    {worker : Fin config.workerCount}
    {job template : Job}
    {nextFire : Time}
    {id : Uuid}
    (spawning :
      state.workers worker =
        .spawning job (.insertInstance template nextFire))
    (taken :
      step? externals state (.worker worker (.spawn (.inserted id))) =
        some after)
    (tookPlace : after.jobs ≠ state.jobs) :
    after.Owed template.id := by
  obtain ⟨shared, moved, sameJobs, _⟩ := workerMove_of_step? taken
  rw [spawning] at moved
  generalize isNext : after.workers worker = next at moved
  cases moved with
  | spawn _ _ _ _ _ spawned =>
      cases spawned with
      | insert =>
          exact ⟨worker, template, by rw [isNext]; rfl, rfl⟩
      | duplicate =>
          exact (tookPlace sameJobs).elim

/-- The account of a template that gets an instance. -/
private theorem CountersKept.account_of_inserted
    (kept : state.CountersKept)
    (taken : step? externals state action = some after)
    {row added : Job}
    (account : state.AccountKept row)
    (insertion : state.Inserts externals action added)
    (isInstance : added.parentJobId = some row.id)
    (nextCount :
      instanceCount after.jobs row.id =
        instanceCount state.jobs row.id + 1) :
    after.AccountKept row := by
  have nonnegative := account.nonnegative
  cases insertion with
  | job | template =>
      cases isInstance
  | firstInstance slot _ _ template _ _ creating =>
      have sameId : template.id = row.id := Option.some.inj isInstance
      have noneYet : NoInstance state.jobs row.id :=
        kept.creation.noneYet slot row.id
          (by rw [creating, ← sameId]; rfl)
      rw [instanceCount_eq_zero_iff.mpr noneYet] at nextCount
      exact ⟨nonnegative, account.bounded, by omega, fun _ => by omega⟩
  | nextInstance worker job template nextFire id spawning =>
      have sameId : template.id = row.id := Option.some.inj isInstance
      have notOwed := kept.not_owed spawning
      rw [sameId] at notOwed
      have caughtUp := account.caughtUp notOwed
      have tookPlace : after.jobs ≠ state.jobs := by
        intro same
        rw [same] at nextCount
        omega
      have owed := owed_of_inserted spawning taken tookPlace
      rw [sameId] at owed
      exact ⟨nonnegative, account.bounded, by omega,
        fun notOwedAfter => (notOwedAfter owed).elim⟩

private theorem CountersKept.accounts_step
    (kept : state.CountersKept)
    (permitted : state.CountsInTurn action)
    (taken : step? externals state action = some after)
    {row : Job}
    (member : row ∈ after.jobs.rows)
    {maximum : Int}
    (isMaximum : row.maxOccurrences = some maximum)
    (isTemplate : row.isTemplate = true)
    (typed : maximum < 2 ^ 31) :
    after.AccountKept row := by
  have before :
      ∀ old ∈ state.jobs.rows,
        row.identity = old.identity →
          old.maxOccurrences = some maximum ∧ state.AccountKept old := by
    intro old oldMember identity
    have sameMaximum :=
      (congrArg JobIdentity.maxOccurrences identity).symm.trans isMaximum
    exact ⟨sameMaximum,
      kept.accounts old oldMember maximum sameMaximum
        ((Job.isTemplate_eq_of_identity identity).symm.trans isTemplate)
        typed⟩
  cases kept.creation.counterStep taken member isTemplate with
  | kept old oldMember identity sameCounter sameCount notCounted =>
      obtain ⟨oldMaximum, account⟩ := before old oldMember identity
      have sameId := Job.id_eq_of_identity identity
      rw [sameId] at sameCount notCounted
      constructor
      · exact sameCounter ▸ account.nonnegative
      · exact sameCounter ▸ account.bounded
      · rw [sameId, sameCount, sameCounter]
        exact account.counted
      · rw [sameId, sameCount, sameCounter]
        intro notOwed
        refine account.caughtUp fun owed => notOwed ?_
        exact kept.owed_step permitted taken oldMember
          (by simp [oldMaximum]) notCounted owed
  | incremented old oldMember identity increments counter sameCount =>
      obtain ⟨oldMaximum, account⟩ := before old oldMember identity
      have sameId := Job.id_eq_of_identity identity
      obtain ⟨worker, template, nextFire, counts, templateId, _⟩ :=
        worker_of_incremented taken increments
      have below :=
        kept.increment_below counts oldMember
          (sameId.symm.trans templateId.symm) oldMaximum account
      have nonnegative := account.nonnegative
      have counted := account.counted
      rw [sameId] at sameCount
      constructor
      · omega
      · omega
      · rw [sameId, sameCount]
        omega
      · rw [sameId, sameCount]
        omega
  | inserted oldMember added insertion isInstance nextCount =>
      exact kept.account_of_inserted taken
        (before row oldMember rfl).2 insertion isInstance nextCount
  | created _ counter noInstance =>
      exact ⟨by omega, by omega, by omega, fun _ => by omega⟩

theorem CountersKept.step
    (kept : state.CountersKept)
    (permitted : state.CountsInTurn action)
    (taken : step? externals state action = some after) :
    after.CountersKept where
  creation := kept.creation.step taken
  short :=
    forall_workers_step (fun _ _ counts => by cases counts)
      (fun moved short => moved.shortOfLimits short) taken kept.short
  oneAtATime := fun _ _ _ _ first second sameId =>
    kept.oneAtATime_step permitted taken first second sameId
  current := fun _ _ counts _ member sameId =>
    kept.current_step taken counts member sameId
  accounts := fun _ member _ isMaximum isTemplate typed =>
    kept.accounts_step permitted taken member isMaximum isTemplate typed

theorem countersKept_of_run
    {clock : Time}
    {actions : List (Action config slots)}
    {final : State config slots}
    (run :
      Run externals CountsInTurn (initial config slots clock) actions
        final) :
    final.CountersKept :=
  run.invariant
    (fun kept permitted taken => kept.step permitted taken)
    (countersKept_initial clock)

/-! ## The limits of an instance that is inserted -/

end State

/-- The limits of a template bind an instance of it. -/
structure LimitsBind (jobs : JobTable) (template row : Job) : Prop where
  withinEnd : ∀ endAt ∈ template.recurrenceEndAt, row.scheduledAt ≤ endAt
  withinMaximum :
    ∀ maximum ∈ template.maxOccurrences,
      (instanceCount jobs template.id : Int) ≤ max maximum 0

/-- The limits of a recurrence leave room for a first instance. -/
def RecurrenceConfig.Admits
    (recurrence : RecurrenceConfig)
    (firstFire : Time) : Prop :=
  (∀ endAt ∈ recurrence.endAt, firstFire ≤ endAt) ∧
    ∀ maximum ∈ recurrence.maxOccurrences, 1 ≤ maximum

/-- The first fire of a request is within the limits of its recurrence. -/
def CreateJobRequest.StartsWithinLimits
    (externals : Externals)
    (req : CreateJobRequest) : Prop :=
  ∀ recurrence ∈ req.recurrence,
    ∀ firstFire ∈
        (RecurringService.nextFireAfter externals recurrence.cronExpr
          req.scheduledAt).toOption,
      recurrence.Admits firstFire

instance (recurrence : RecurrenceConfig) (firstFire : Time) :
    Decidable (recurrence.Admits firstFire) :=
  have ends := recurrence.endAt.decidableForallMem
  have counts := recurrence.maxOccurrences.decidableForallMem
  @instDecidableAnd _ _ ends counts

instance (externals : Externals) (req : CreateJobRequest) :
    Decidable (req.StartsWithinLimits externals) :=
  have fires :=
    fun recurrence : RecurrenceConfig =>
      (RecurringService.nextFireAfter externals recurrence.cronExpr
        req.scheduledAt).toOption.decidableForallMem
  @Option.decidableForallMem _ _ fires req.recurrence

theorem CreateJobRequest.startsWithinLimits_iff
    {externals : Externals}
    {req : CreateJobRequest}
    {recurrence : RecurrenceConfig}
    {firstFire : Time}
    (isRecurring : req.recurrence = some recurrence)
    (isNext :
      RecurringService.nextFireAfter externals recurrence.cronExpr
          req.scheduledAt =
        .ok firstFire) :
    req.StartsWithinLimits externals ↔ recurrence.Admits firstFire := by
  simp [StartsWithinLimits, isRecurring, isNext, Except.toOption]

theorem RecurringService.le_of_not_pastEnd
    {template : Job}
    {nextFire endAt : Time}
    (notPast : pastEnd template nextFire = false)
    (isEnd : template.recurrenceEndAt = some endAt) :
    nextFire ≤ endAt := by
  simp only [pastEnd, isEnd, decide_eq_false_iff_not] at notPast
  exact Int.not_lt.mp notPast

namespace State

variable {config : Config} {slots : Nat}
variable {externals : Externals}
variable {state after : State config slots}
variable {action : Action config slots}

/-- The request whose first instance a step inserts. -/
def insertsFirst?
    (state : State config slots) :
    Action config slots → Option CreateJobRequest
  | .api slot (.call (.inserted _)) =>
      match state.requests slot with
      | .creating _ req (.insertInstance _ _) => some req
      | _ => none
  | _ => none

/-- A first instance that a step inserts is within the limits. -/
def FirstWithinLimits
    (externals : Externals)
    (state : State config slots)
    (action : Action config slots) : Prop :=
  ∀ req ∈ state.insertsFirst? action, req.StartsWithinLimits externals

instance
    (externals : Externals)
    (state : State config slots)
    (action : Action config slots) :
    Decidable (state.FirstWithinLimits externals action) :=
  (state.insertsFirst? action).decidableForallMem

/-- The limits of its template bind the instance that a spawn inserts. -/
private theorem CountersKept.next_instance_bound
    (kept : state.CountersKept)
    (growth : state.jobs.Extends after.jobs)
    {worker : Fin config.workerCount}
    {job read template row : Job}
    {nextFire : Time}
    (spawning :
      state.workers worker = .spawning job (.insertInstance read nextFire))
    (parent : template ∈ after.jobs.rows)
    (sameId : template.id = read.id)
    (isNext : row.scheduledAt = nextFire)
    (nextCount :
      instanceCount after.jobs template.id =
        instanceCount state.jobs template.id + 1)
    (typed : ∀ maximum ∈ template.maxOccurrences, maximum < 2 ^ 31) :
    LimitsBind after.jobs template row := by
  have counts : (state.workers worker).counted? = some (read, nextFire) := by
    rw [spawning]
    rfl
  have known := kept.creation.templateRead counts
  have identity : template.identity = read.identity :=
    (known.grow growth).row parent sameId
  constructor
  · intro endAt isEnd
    rw [isNext]
    exact RecurringService.le_of_not_pastEnd
      (kept.short worker _ counts).notPast
      ((congrArg JobIdentity.recurrenceEndAt identity).symm.trans isEnd)
  · intro maximum isMaximum
    obtain ⟨old, oldMember, oldIdentity⟩ := known.known
    have oldId : old.id = template.id :=
      (Job.id_eq_of_identity oldIdentity).trans sameId.symm
    have oldMaximum : old.maxOccurrences = some maximum := by
      have sameColumns := oldIdentity.trans identity.symm
      exact (congrArg JobIdentity.maxOccurrences sameColumns).trans
        isMaximum
    have account : state.AccountKept old :=
      kept.accounts old oldMember maximum oldMaximum
        ((Job.isTemplate_eq_of_identity oldIdentity).trans
          known.isTemplate)
        (typed maximum isMaximum)
    have below :=
      kept.increment_below counts oldMember (oldId.trans sameId)
        oldMaximum account
    have caughtUp := account.caughtUp
    rw [oldId, sameId] at caughtUp
    have counted := caughtUp (kept.not_owed spawning)
    rw [sameId] at nextCount ⊢
    omega

/-- They bind the first one if the request starts within them. -/
private theorem CountersKept.first_instance_bound_iff
    (kept : state.CountersKept)
    (growth : state.jobs.Extends after.jobs)
    (planned : state.CreatesPlanned externals)
    {slot : Fin slots}
    {clientId : Uuid}
    {req : CreateJobRequest}
    {created template row : Job}
    {firstFire : Time}
    (creating :
      state.requests slot =
        .creating clientId req (.insertInstance created firstFire))
    (parent : template ∈ after.jobs.rows)
    (sameId : template.id = created.id)
    (isNext : row.scheduledAt = firstFire)
    (nextCount :
      instanceCount after.jobs template.id =
        instanceCount state.jobs template.id + 1) :
    LimitsBind after.jobs template row ↔
      req.StartsWithinLimits externals := by
  have known : state.jobs.TemplateRead created := by
    have grounded := kept.creation.grounded.requests slot
    rw [creating] at grounded
    exact grounded
  have identity : template.identity = created.identity :=
    (known.grow growth).row parent sameId
  have settled := planned slot
  rw [creating] at settled
  obtain ⟨recurrence, now, id, isRecurring, isFire, isCreated⟩ := settled
  have sameEnd : template.recurrenceEndAt = recurrence.endAt := by
    refine (congrArg JobIdentity.recurrenceEndAt identity).trans ?_
    rw [isCreated]
    rfl
  have sameMaximum : template.maxOccurrences = recurrence.maxOccurrences := by
    refine (congrArg JobIdentity.maxOccurrences identity).trans ?_
    rw [isCreated]
    rfl
  have noneYet : NoInstance state.jobs template.id :=
    kept.creation.noneYet slot template.id
      (by rw [creating, sameId]; rfl)
  rw [instanceCount_eq_zero_iff.mpr noneYet] at nextCount
  rw [CreateJobRequest.startsWithinLimits_iff isRecurring isFire]
  constructor
  · rintro ⟨withinEnd, withinMaximum⟩
    rw [isNext, sameEnd] at withinEnd
    rw [nextCount, sameMaximum] at withinMaximum
    refine ⟨withinEnd, fun maximum isMaximum => ?_⟩
    have bound := withinMaximum maximum isMaximum
    omega
  · rintro ⟨withinEnd, withinMaximum⟩
    constructor
    · rw [isNext, sameEnd]
      exact withinEnd
    · rw [nextCount, sameMaximum]
      intro maximum isMaximum
      have bound := withinMaximum maximum isMaximum
      omega

/--
In every run whose spawns take turns at a counter and lose no increment, the
limits of a template bind every instance that is inserted for it, save the
first one of a request that starts beyond them.
-/
theorem limits_bind_iff
    {clock : Time}
    {actions : List (Action config slots)}
    (run :
      Run externals CountsInTurn (initial config slots clock) actions
        state)
    (taken : step? externals state action = some after)
    {row template : Job}
    (member : row ∈ after.jobs.rows)
    (isNew : ∀ old ∈ state.jobs.rows, old.id ≠ row.id)
    (parent : template ∈ after.jobs.rows)
    (isInstance : row.parentJobId = some template.id)
    (typed : ∀ maximum ∈ template.maxOccurrences, maximum < 2 ^ 31) :
    LimitsBind after.jobs template row ↔
      state.FirstWithinLimits externals action := by
  have kept := countersKept_of_run run
  have planned : state.CreatesPlanned externals :=
    createsPlanned_of_run (run.mono fun _ _ _ => trivial)
  have growth := extends_of_step? taken
  cases tableStep_of_step? taken with
  | same same =>
      rw [same] at member
      exact (isNew row member rfl).elim
  | updated change same =>
      rw [same] at member
      obtain ⟨old, oldMember, rfl⟩ := RecordTable.mem_update.mp member
      exact (isNew old oldMember
        (Job.id_eq_of_identity (change.identity_image old)).symm).elim
  | inserted added inserted insertion =>
      rcases (RecordTable.mem_of_insert? inserted).mp member with
        oldMember | rfl
      · exact (isNew row oldMember rfl).elim
      · have nextCount := instanceCount_insert? inserted template.id
        rw [if_pos isInstance] at nextCount
        cases insertion with
        | job | template =>
            cases isInstance
        | firstInstance slot clientId req created firstFire id creating =>
            have sameId : template.id = created.id :=
              (Option.some.inj isInstance).symm
            have isFirst :
                state.insertsFirst? (.api slot (.call (.inserted id))) =
                  some req := by
              simp only [insertsFirst?, creating]
            rw [kept.first_instance_bound_iff growth planned creating
              parent sameId rfl nextCount, FirstWithinLimits, isFirst]
            simp
        | nextInstance worker job read nextFire id spawning =>
            have sameId : template.id = read.id :=
              (Option.some.inj isInstance).symm
            refine iff_of_true ?_ fun _ isFirst => by cases isFirst
            exact kept.next_instance_bound growth spawning parent sameId rfl
              nextCount typed

end State

/-! ## Concrete runs -/

namespace Sample

/-- A job that ends before its first fire and may not occur at all. -/
def never : CreateJobRequest :=
  { everyMinute "key" with
    recurrence :=
      some {
        cronExpr := "* * * * *"
        endAt := some 0
        maxOccurrences := some 0
        concurrencyPolicy := .queueOnce } }

/-- A create request, up to the `INSERT` of template 1. -/
def askFor (req : CreateJobRequest) : List (Action config 2) :=
  [ .api 0 (.arrive (.createJob clientId req)),
    .api 0 (.call .ok),
    .api 0 (.call (.inserted 1)) ]

/-- A job for two occurrences in the first two minutes. -/
def twiceInTime : CreateJobRequest :=
  { everyMinute "key" with
    recurrence :=
      some {
        cronExpr := "* * * * *"
        endAt := some 120000000
        maxOccurrences := some 2
        concurrencyPolicy := .queueOnce } }

/-- From the first instance up to the `INSERT` of the second. -/
def succeedFirst : List (Action config 2) :=
  [ .api 0 (.call (.inserted 2)),
    .api 0 .notifyOne,
    .api 0 .notifyOne ] ++
  executeInstance ++ completeAndRead ++
  [ .worker 0 (.spawn .ok),
    .worker 0 (.spawn .ok) ]

/-- The instance a step has just inserted, with its template. -/
def InsertsInstance
    (before after : State config 2)
    (id : Uuid)
    (row template : Job) : Prop :=
  row ∈ after.jobs.rows ∧
    template ∈ after.jobs.rows ∧
    row.id = id ∧
    row.parentJobId = some template.id ∧
    template.recurrenceEndAt = some 120000000 ∧
    template.maxOccurrences = some 2 ∧
    ∀ old ∈ before.jobs.rows, old.id ≠ row.id

instance decidableInsertsInstance
    (before after : State config 2)
    (id : Uuid)
    (row template : Job) :
    Decidable (InsertsInstance before after id row template) :=
  inferInstanceAs (Decidable (_ ∧ _))

/-- The first instance and the one its success spawns are within the limits. -/
theorem instances_are_within_limits :
    ∃ first afterFirst second afterSecond,
      State.Run externals State.CountsInTurn (State.initial config 2 0)
          (askFor twiceInTime) first ∧
        State.step? externals first (.api 0 (.call (.inserted 2))) =
          some afterFirst ∧
        (∃ row template,
          InsertsInstance first afterFirst 2 row template ∧
            LimitsBind afterFirst.jobs template row) ∧
        State.Run externals State.CountsInTurn (State.initial config 2 0)
          (askFor twiceInTime ++ succeedFirst) second ∧
        State.step? externals second (.worker 0 (.spawn (.inserted 3))) =
          some afterSecond ∧
        ∃ row template,
          InsertsInstance second afterSecond 3 row template ∧
            LimitsBind afterSecond.jobs template row := by
  obtain ⟨first, reached, afterFirst, taken, isWithin, row, _, template, _,
      member, parent, isRow, isInstance, isEnd, isMaximum, isNew⟩ :
      ∃ first ∈ TransitionSystem.replay? (State.step? externals)
          State.CountsInTurn (State.initial config 2 0)
          (askFor twiceInTime),
        ∃ after ∈ State.step? externals first
            (.api 0 (.call (.inserted 2))),
          first.FirstWithinLimits externals
              (.api 0 (.call (.inserted 2))) ∧
            ∃ row ∈ after.jobs.rows, ∃ template ∈ after.jobs.rows,
              InsertsInstance first after 2 row template := by
    decide
  obtain ⟨second, reachedSecond, afterSecond, takenSecond, next, _, source,
      _, nextMember, sourceMember, isNext, isNextInstance, isSourceEnd,
      isSourceMaximum, isNextNew⟩ :
      ∃ second ∈ TransitionSystem.replay? (State.step? externals)
          State.CountsInTurn (State.initial config 2 0)
          (askFor twiceInTime ++ succeedFirst),
        ∃ after ∈ State.step? externals second
            (.worker 0 (.spawn (.inserted 3))),
          ∃ row ∈ after.jobs.rows, ∃ template ∈ after.jobs.rows,
            InsertsInstance second after 3 row template := by
    decide
  have run := TransitionSystem.run_of_replay? reached
  have runSecond := TransitionSystem.run_of_replay? reachedSecond
  have typed :
      ∀ maximum ∈ template.maxOccurrences, maximum < 2 ^ 31 := by
    simp [isMaximum]
  have sourceTyped :
      ∀ maximum ∈ source.maxOccurrences, maximum < 2 ^ 31 := by
    simp [isSourceMaximum]
  refine ⟨first, afterFirst, second, afterSecond, run, taken,
    ⟨row, template, ⟨member, parent, isRow, isInstance, isEnd, isMaximum,
      isNew⟩, ?_⟩,
    runSecond, takenSecond, next, source,
    ⟨nextMember, sourceMember, isNext, isNextInstance, isSourceEnd,
      isSourceMaximum, isNextNew⟩, ?_⟩
  · exact (State.limits_bind_iff run taken member isNew parent isInstance
      typed).mpr isWithin
  · exact (State.limits_bind_iff runSecond takenSecond nextMember isNextNew
      sourceMember isNextInstance sourceTyped).mpr
        fun _ isFirst => by cases isFirst

/-- An instance beyond both limits of its template. -/
theorem first_instance_exceeds_limits :
    ∃ state after,
      State.Run externals State.CountsInTurn (State.initial config 2 0)
          (askFor never) state ∧
        State.step? externals state (.api 0 (.call (.inserted 2))) =
          some after ∧
        ∃ row ∈ after.jobs.rows, ∃ template ∈ after.jobs.rows,
          (∀ old ∈ state.jobs.rows, old.id ≠ row.id) ∧
            row.parentJobId = some template.id ∧
            template.recurrenceEndAt = some 0 ∧
            row.scheduledAt = 60000000 ∧
            template.maxOccurrences = some 0 ∧
            instanceCount after.jobs template.id = 1 ∧
            ¬LimitsBind after.jobs template row := by
  obtain ⟨state, after, run, next, row, member, template, parent, isNew,
      isInstance, isEnd, isFire, isMaximum, count⟩ :=
    TransitionSystem.exists_runs_of_replay?
      (State.step? externals) State.CountsInTurn
      (State.initial config 2 0) (askFor never)
      [.api 0 (.call (.inserted 2))]
      (fun state after =>
        ∃ row ∈ after.jobs.rows, ∃ template ∈ after.jobs.rows,
          (∀ old ∈ state.jobs.rows, old.id ≠ row.id) ∧
            row.parentJobId = some template.id ∧
            template.recurrenceEndAt = some 0 ∧
            row.scheduledAt = 60000000 ∧
            template.maxOccurrences = some 0 ∧
            instanceCount after.jobs template.id = 1)
      (by decide)
  cases next with
  | cons _ taken rest =>
      cases rest
      refine ⟨state, after, run, taken, row, member, template, parent,
        isNew, isInstance, isEnd, isFire, isMaximum, count,
        fun binds => ?_⟩
      have bound := binds.withinEnd 0 isEnd
      rw [isFire] at bound
      exact absurd bound (by decide)

/-- After a lost increment a template for two occurrences gets a third. -/
theorem lost_increment_exceeds_limit :
    ∃ final,
      State.Run externals State.TakesTurn (State.initial config 2 0)
          (createLimited ++
            .worker 0 (.spawn (.error "connection closed")) ::
              overtakeIncrement)
          final ∧
        (∃ template ∈ final.jobs.rows,
          template.id = 1 ∧ template.maxOccurrences = some 2) ∧
        instanceCount final.jobs 1 = 3 :=
  TransitionSystem.exists_run_of_replay?
    (State.step? externals) State.TakesTurn (State.initial config 2 0)
    (createLimited ++
      .worker 0 (.spawn (.error "connection closed")) ::
        overtakeIncrement)
    (fun final =>
      (∃ template ∈ final.jobs.rows,
          template.id = 1 ∧ template.maxOccurrences = some 2) ∧
        instanceCount final.jobs 1 = 3)
    (by decide)

end Sample

end Kronkeeper
