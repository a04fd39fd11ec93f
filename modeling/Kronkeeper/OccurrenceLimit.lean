import Kronkeeper.InstanceRows
import Kronkeeper.TemplateTermination

namespace Kronkeeper

/-!
# The number of instances of a template

`spawn_next_instance` compares the maximum with the counter it read, inserts,
and increments the counter in a statement of its own.  The comparison bounds
the number of instances as long as the counter that was read had caught up with
the instances inserted so far when the next one is inserted.
-/

/-- The number of instances of a template. -/
def instanceCount (jobs : JobTable) (templateId : Uuid) : Nat :=
  jobs.countIdentity fun row => row.parentJobId == some templateId

/-- `next_occurrences` of `spawn_next_instance`. -/
def RecurringService.nextOccurrences (template : Job) : Int :=
  wrapI32 (template.occurrencesCompleted + 1)

/-- A template short of its maximum comes next below it. -/
theorem RecurringService.nextOccurrences_lt
    {template : Job}
    {maximum : Int}
    (notReached : occurrencesReached template = false)
    (isMaximum : template.maxOccurrences = some maximum) :
    nextOccurrences template < maximum := by
  simp only [occurrencesReached, isMaximum,
    decide_eq_false_iff_not] at notReached
  exact Int.not_le.mp notReached

/-- No row is an instance of the template. -/
def NoInstance (jobs : JobTable) (templateId : Uuid) : Prop :=
  ∀ row ∈ jobs.rows, row.parentJobId ≠ some templateId

theorem instanceCount_eq_zero_iff
    {jobs : JobTable}
    {templateId : Uuid} :
    instanceCount jobs templateId = 0 ↔ NoInstance jobs templateId := by
  simp [instanceCount, RecordTable.countIdentity_eq_zero_iff, NoInstance,
    Job.identity]

theorem instanceCount_update
    (jobs : JobTable)
    (change : JobUpdate)
    (templateId : Uuid) :
    instanceCount (jobs.update change) templateId =
      instanceCount jobs templateId :=
  jobs.countIdentity_update change _

theorem instanceCount_insert?
    {before after : JobTable}
    {row : Job}
    (inserted : before.insert? row = some after)
    (templateId : Uuid) :
    instanceCount after templateId =
      instanceCount before templateId +
        if row.parentJobId = some templateId then 1 else 0 := by
  have counted :=
    RecordTable.countIdentity_insert? inserted
      fun row => row.parentJobId == some templateId
  simpa [instanceCount, Job.identity] using counted

/-! ## Spawns short of the maximum -/

/-- The template for which a spawn goes on towards its `INSERT`. -/
def SpawnCall.insertsOf? : SpawnCall → Option Job
  | .countSiblings template _ => some template
  | .lookupKey template _ => some template
  | .insertInstance template _ => some template
  | _ => none

/-- A spawn on its way to the `INSERT` has read a counter short of the end. -/
def WorkerTask.ShortOfEnd : WorkerTask → Prop
  | .spawning _ call =>
      ∀ template ∈ call.insertsOf?,
        RecurringService.occurrencesReached template = false
  | _ => True

section Moves

variable {config : Config} {externals : Externals}
variable {shared after : Shared}

theorem SpawnCall.Move.shortOfEnd
    {call next : SpawnCall}
    {reply : Reply}
    (moved : call.Move externals shared reply after (.next next))
    (short :
      ∀ template ∈ call.insertsOf?,
        RecurringService.occurrencesReached template = false) :
    ∀ template ∈ next.insertsOf?,
      RecurringService.occurrencesReached template = false := by
  cases moved.successor with
  | count templateId lastScheduledAt template nextFire reads planned =>
      intro read inserts
      obtain rfl := Option.some.inj inserts
      exact (RecurringService.planSpawn_eq_countSiblings planned).2.1
  | lookup | insert =>
      exact short
  | _ =>
      intro read inserts
      cases inserts

theorem WorkerTask.Move.shortOfEnd
    {task next : WorkerTask}
    {action : WorkerAction}
    (moved : task.Move config externals shared action after next)
    (short : task.ShortOfEnd) :
    next.ShortOfEnd := by
  cases next with
  | spawning job call =>
      cases moved.spawnOrigin with
      | goesOn previous reply spawned =>
          exact spawned.shortOfEnd short
      | begins _ _ _ _ _ isRead =>
          subst isRead
          intro template inserts
          cases inserts
  | _ =>
      exact trivial

end Moves

namespace State

variable {config : Config} {slots : Nat}

/-- The template of which a worker inserts the next instance. -/
def nextInstanceOf?
    (state : State config slots) : Action config slots → Option Job
  | .worker worker (.spawn (.inserted _)) =>
      match state.workers worker with
      | .spawning _ (.insertInstance template _) => some template
      | _ => none
  | _ => none

/--
A worker inserts an instance of a template with a maximum only if the counter
it has read accounts for all instances there are.
-/
def InsertsCounted
    (state : State config slots)
    (action : Action config slots) : Prop :=
  ∀ template ∈ state.nextInstanceOf? action,
    template.maxOccurrences ≠ none →
    (instanceCount state.jobs template.id : Int) ≤
      RecurringService.nextOccurrences template

instance
    (state : State config slots)
    (action : Action config slots) :
    Decidable (state.InsertsCounted action) :=
  (state.nextInstanceOf? action).decidableForallMem

/-- No template with a positive maximum has more instances than that. -/
def OccurrencesLimited (state : State config slots) : Prop :=
  ∀ template ∈ state.jobs.rows, ∀ maximum ∈ template.maxOccurrences,
    template.isTemplate = true →
    1 ≤ maximum →
    (instanceCount state.jobs template.id : Int) ≤ maximum

/-- A creation in progress is the only one for its template. -/
structure CreationKept (state : State config slots) : Prop where
  grounded : state.Grounded
  rows : state.InstanceRows
  spawnsOwn : state.SpawnsOwn
  noneYet :
    ∀ slot id,
      (state.requests slot).insertsFor? = some id →
      NoInstance state.jobs id
  oneCreator :
    ∀ first second id,
      (state.requests first).insertsFor? = some id →
      (state.requests second).insertsFor? = some id →
      first = second

theorem creationKept_initial
    (clock : Time) :
    (initial config slots clock).CreationKept where
  grounded := grounded_booted clock RecordTable.empty
  rows := instanceRows_initial clock
  spawnsOwn := fun _ => trivial
  noneYet := fun _ _ inserts => by cases inserts
  oneCreator := fun _ _ _ inserts => by cases inserts

/-- What bounds the number of instances in a permitted run. -/
structure OccurrencesKept (state : State config slots) : Prop where
  grounded : state.Grounded
  rows : state.InstanceRows
  spawnsOwn : state.SpawnsOwn
  shortOfEnd : ∀ worker, (state.workers worker).ShortOfEnd
  noneYet :
    ∀ slot id,
      (state.requests slot).insertsFor? = some id →
      NoInstance state.jobs id
  oneCreator :
    ∀ first second id,
      (state.requests first).insertsFor? = some id →
      (state.requests second).insertsFor? = some id →
      first = second
  limited : state.OccurrencesLimited

theorem OccurrencesKept.creation
    {state : State config slots}
    (kept : state.OccurrencesKept) :
    state.CreationKept where
  grounded := kept.grounded
  rows := kept.rows
  spawnsOwn := kept.spawnsOwn
  noneYet := kept.noneYet
  oneCreator := kept.oneCreator

theorem occurrencesKept_initial
    (clock : Time) :
    (initial config slots clock).OccurrencesKept :=
  have creation : (initial config slots clock).CreationKept :=
    creationKept_initial clock
  { grounded := creation.grounded
    rows := creation.rows
    spawnsOwn := creation.spawnsOwn
    shortOfEnd := fun _ => trivial
    noneYet := creation.noneYet
    oneCreator := creation.oneCreator
    limited := fun _ member => by cases member }

/-! ## The invariants across a step -/

variable {externals : Externals}
variable {state after : State config slots}
variable {action : Action config slots}

/-- An `INSERT` by a worker finds an earlier instance of its template. -/
private theorem CreationKept.not_noInstance
    (kept : state.CreationKept)
    {worker : Fin config.workerCount}
    {job template : Job}
    {nextFire : Time}
    (spawning :
      state.workers worker =
        .spawning job (.insertInstance template nextFire)) :
    ¬NoInstance state.jobs template.id := by
  intro noInstance
  obtain ⟨row, member, _, isInstance⟩ :=
    kept.spawnsOwn.exists_row kept.grounded spawning
  exact noInstance row member isInstance

/-- A new row brings a template without instances. -/
theorem CreationKept.noInstance_of_fresh
    (kept : state.CreationKept)
    {id : Uuid}
    (fresh : ∀ row ∈ state.jobs.rows, row.id ≠ id) :
    NoInstance state.jobs id := by
  intro row member isInstance
  obtain ⟨parent, parentMember, parentId, _⟩ :=
    (kept.rows.instances row member id isInstance).parent
  exact fresh parent parentMember parentId

private theorem CreationKept.noneYet_step
    (kept : state.CreationKept)
    (taken : step? externals state action = some after)
    {slot : Fin slots}
    {id : Uuid}
    (inserts : (after.requests slot).insertsFor? = some id) :
    NoInstance after.jobs id := by
  have noneBefore : NoInstance state.jobs id := by
    cases requestStep_of_step? taken slot with
    | kept same =>
        exact kept.noneYet slot id (same ▸ inserts)
    | lost isAbsent =>
        rw [isAbsent] at inserts
        cases inserts
    | moved requestAction isApi moved =>
        exact kept.noInstance_of_fresh (moved.insertsFor?_cases inserts)
  intro row member isInstance
  cases rowOrigin_of_step? taken member with
  | kept old oldMember identity | changed old oldMember identity =>
      exact noneBefore old oldMember
        ((Job.parentJobId_eq_of_identity identity).symm.trans isInstance)
  | inserted fresh insertion =>
      cases insertion with
      | job | template =>
          cases isInstance
      | nextInstance worker job template nextFire newId spawning =>
          obtain rfl := Option.some.inj isInstance
          exact kept.not_noInstance spawning noneBefore
      | firstInstance creator clientId req template firstFire newId
          creating =>
          obtain rfl := Option.some.inj isInstance
          have creates :
              (state.requests creator).insertsFor? = some template.id := by
            rw [creating]
            rfl
          have read := kept.grounded.requests creator
          rw [creating] at read
          obtain ⟨parent, parentMember, identity⟩ := read.known
          have parentId := Job.id_eq_of_identity identity
          by_cases isCreator : slot = creator
          · subst isCreator
            exact (requestMove_of_step? taken).insertsFor?_cases inserts
              parent parentMember parentId
          · cases requestStep_of_step? taken slot with
            | kept same =>
                exact isCreator
                  (kept.oneCreator slot creator template.id
                    (same ▸ inserts) creates)
            | lost isAbsent =>
                rw [isAbsent] at inserts
                cases inserts
            | moved requestAction isApi moved =>
                exact moved.insertsFor?_cases inserts parent parentMember
                  parentId

/-- A request inserts for a template it was at work for, or a new one. -/
private theorem insertsFor?_before
    (taken : step? externals state action = some after)
    {slot : Fin slots}
    {id : Uuid}
    (inserts : (after.requests slot).insertsFor? = some id) :
    (state.requests slot).insertsFor? = some id ∨
      (∀ row ∈ state.jobs.rows, row.id ≠ id) ∧
        ∃ requestAction, action = .api slot requestAction := by
  cases requestStep_of_step? taken slot with
  | kept same =>
      exact Or.inl (same ▸ inserts)
  | lost isAbsent =>
      rw [isAbsent] at inserts
      cases inserts
  | moved requestAction isApi moved =>
      exact Or.inr ⟨moved.insertsFor?_cases inserts, requestAction,
        isApi⟩

private theorem CreationKept.oneCreator_step
    (kept : state.CreationKept)
    (taken : step? externals state action = some after)
    {first second : Fin slots}
    {id : Uuid}
    (firstInserts : (after.requests first).insertsFor? = some id)
    (secondInserts : (after.requests second).insertsFor? = some id) :
    first = second := by
  rcases insertsFor?_before taken firstInserts with
    firstBefore | ⟨firstFresh, firstAction, isFirst⟩
  · rcases insertsFor?_before taken secondInserts with
      secondBefore | ⟨secondFresh, _⟩
    · exact kept.oneCreator first second id firstBefore secondBefore
    · obtain ⟨row, member, sameId⟩ :=
        kept.grounded.exists_template firstBefore
      exact (secondFresh row member sameId).elim
  · rcases insertsFor?_before taken secondInserts with
      secondBefore | ⟨_, secondAction, isSecond⟩
    · obtain ⟨row, member, sameId⟩ :=
        kept.grounded.exists_template secondBefore
      exact (firstFresh row member sameId).elim
    · have sameAction := isFirst.symm.trans isSecond
      cases sameAction
      rfl

theorem CreationKept.step
    (kept : state.CreationKept)
    (taken : step? externals state action = some after) :
    after.CreationKept where
  grounded := kept.grounded.step taken
  rows := kept.rows.step kept.grounded taken
  spawnsOwn := kept.spawnsOwn.step taken
  noneYet := fun _ _ inserts => kept.noneYet_step taken inserts
  oneCreator := fun _ _ _ first second =>
    kept.oneCreator_step taken first second

/-- The instance a permitted step inserts is within the maximum. -/
private theorem OccurrencesKept.room
    (kept : state.OccurrencesKept)
    (permitted : state.InsertsCounted action)
    {row : Job}
    (insertion : state.Inserts externals action row)
    {template : Job}
    (member : template ∈ state.jobs.rows)
    (isInstance : row.parentJobId = some template.id)
    {maximum : Int}
    (isMaximum : template.maxOccurrences = some maximum)
    (positive : 1 ≤ maximum) :
    (instanceCount state.jobs template.id : Int) + 1 ≤ maximum := by
  cases insertion with
  | job | template =>
      cases isInstance
  | firstInstance slot clientId req created firstFire id creating =>
      have sameId : created.id = template.id := Option.some.inj isInstance
      have noneYet : NoInstance state.jobs template.id :=
        kept.noneYet slot template.id (by rw [creating, ← sameId]; rfl)
      rw [instanceCount_eq_zero_iff.mpr noneYet]
      simpa using positive
  | nextInstance worker job read nextFire id spawning =>
      have sameId : read.id = template.id := Option.some.inj isInstance
      have known :=
        (kept.grounded.workers worker).template read
          (by rw [spawning]; rfl)
      have sameMaximum : read.maxOccurrences = some maximum := by
        have identity := known.row member sameId.symm
        exact (congrArg JobIdentity.maxOccurrences identity).symm.trans
          isMaximum
      have short := kept.shortOfEnd worker
      rw [spawning] at short
      have below :=
        RecurringService.nextOccurrences_lt (short read rfl) sameMaximum
      have isNext :
          state.nextInstanceOf? (.worker worker (.spawn (.inserted id))) =
            some read := by
        simp [nextInstanceOf?, spawning]
      have counted := permitted read isNext (by simp [sameMaximum])
      rw [sameId] at counted
      omega

private theorem OccurrencesKept.limited_step
    (kept : state.OccurrencesKept)
    (permitted : state.InsertsCounted action)
    (taken : step? externals state action = some after) :
    after.OccurrencesLimited := by
  intro template member maximum isMaximum isTemplate positive
  cases tableStep_of_step? taken with
  | same same =>
      rw [same] at member ⊢
      exact kept.limited template member maximum isMaximum isTemplate
        positive
  | updated change same =>
      rw [same] at member ⊢
      rw [instanceCount_update]
      obtain ⟨old, oldMember, rfl⟩ := RecordTable.mem_update.mp member
      have identity := change.identity_image old
      rw [Job.id_eq_of_identity identity]
      exact kept.limited old oldMember maximum
        ((congrArg JobIdentity.maxOccurrences identity).symm.trans
          isMaximum)
        ((Job.isTemplate_eq_of_identity identity).symm.trans isTemplate)
        positive
  | inserted row added insertion =>
      rw [instanceCount_insert? added]
      rcases (RecordTable.mem_of_insert? added).mp member with
        oldMember | rfl
      · by_cases isInstance : row.parentJobId = some template.id
        · rw [if_pos isInstance]
          exact_mod_cast kept.room permitted insertion oldMember
            isInstance isMaximum positive
        · rw [if_neg isInstance]
          exact kept.limited template oldMember maximum isMaximum
            isTemplate positive
      · have fresh := (RecordTable.insert?_eq_some_iff.mp added).1
        have noneYet : NoInstance state.jobs template.id :=
          kept.creation.noInstance_of_fresh fresh.1
        have notOwn : template.parentJobId ≠ some template.id := by
          cases insertion with
          | template =>
              simp [JobRepository.templateRow, JobRepository.newRow]
          | job | firstInstance | nextInstance =>
              cases isTemplate
        rw [instanceCount_eq_zero_iff.mpr noneYet, if_neg notOwn]
        have nonnegative : 0 ≤ maximum := by omega
        simpa using nonnegative

theorem OccurrencesKept.step
    (kept : state.OccurrencesKept)
    (permitted : state.InsertsCounted action)
    (taken : step? externals state action = some after) :
    after.OccurrencesKept :=
  have creation : after.CreationKept := kept.creation.step taken
  { grounded := creation.grounded
    rows := creation.rows
    spawnsOwn := creation.spawnsOwn
    shortOfEnd :=
      forall_workers_step (fun _ => trivial)
        (fun moved short => moved.shortOfEnd short) taken kept.shortOfEnd
    noneYet := creation.noneYet
    oneCreator := creation.oneCreator
    limited := kept.limited_step permitted taken }

/--
In every run whose workers insert on a counter that has caught up, no template
has more instances than its maximum.
-/
theorem occurrencesLimited_of_insertsCounted
    {clock : Time}
    {actions : List (Action config slots)}
    {final : State config slots}
    (run :
      Run externals InsertsCounted (initial config slots clock) actions
        final) :
    final.OccurrencesLimited := by
  have kept : final.OccurrencesKept :=
    run.invariant
      (fun kept permitted taken => kept.step permitted taken)
      (occurrencesKept_initial clock)
  exact kept.limited

end State

/-! ## Concrete runs -/

namespace Sample

/-- A job for every minute with two occurrences. -/
def twice : CreateJobRequest :=
  { everyMinute "key" with
    recurrence :=
      some {
        cronExpr := "* * * * *"
        endAt := none
        maxOccurrences := some 2
        concurrencyPolicy := .queueOnce } }

/-- Create template 1 and instance 2, whose first success inserts instance 3. -/
def createLimited : List (Action config 2) :=
  [ .api 0 (.arrive (.createJob clientId twice)),
    .api 0 (.call .ok),
    .api 0 (.call (.inserted 1)),
    .api 0 (.call (.inserted 2)),
    .api 0 .notifyOne,
    .api 0 .notifyOne ] ++
  executeInstance ++ completeAndRead ++ insertNext

/-- An instance that the counter accounts for is within the maximum. -/
theorem counted_insert_is_within_limit :
    ∃ final,
      State.Run externals State.InsertsCounted
          (State.initial config 2 0) createLimited final ∧
        instanceCount final.jobs 1 = 2 ∧
        final.OccurrencesLimited := by
  obtain ⟨final, run, count⟩ :=
    TransitionSystem.exists_run_of_replay?
      (State.step? externals) State.InsertsCounted
      (State.initial config 2 0) createLimited
      (fun final => instanceCount final.jobs 1 = 2)
      (by decide)
  exact ⟨final, run, count,
    State.occurrencesLimited_of_insertsCounted run⟩

/-- Instance 3 succeeds while the counter for it is still to be incremented. -/
def overtakeIncrement : List (Action config 2) :=
  [ .scheduler .dispatchDone,
    .scheduler .notified,
    .scheduler (.refresh [⟨3, 120000000⟩]),
    .tick 60000000,
    .scheduler .sleepElapsed,
    .scheduler (.lease ⟨3, 120000000⟩ .ok),
    .scheduler .trySend,
    .worker 1 .recv,
    .worker 1 .activate,
    .worker 1 (.setRunning .ok),
    .worker 1 (.execute succeeds),
    .worker 1 (.settle .ok),
    .worker 1 (.spawn .ok),
    .worker 1 (.spawn .ok),
    .worker 1 (.spawn .ok),
    .worker 1 (.spawn (.inserted 4)) ]

/-- A template for two occurrences gets a third instance. -/
theorem overtaken_increment_exceeds_limit :
    ∃ final,
      State.Run externals TransitionSystem.Unrestricted
          (State.initial config 2 0) (createLimited ++ overtakeIncrement)
          final ∧
        (∃ template ∈ final.jobs.rows,
          template.id = 1 ∧ template.isTemplate = true ∧
            template.maxOccurrences = some 2) ∧
        instanceCount final.jobs 1 = 3 ∧
        ¬final.OccurrencesLimited := by
  obtain ⟨final, run, limit, count⟩ :=
    TransitionSystem.exists_run_of_replay?
      (State.step? externals) TransitionSystem.Unrestricted
      (State.initial config 2 0) (createLimited ++ overtakeIncrement)
      (fun final =>
        (∃ template ∈ final.jobs.rows,
          template.id = 1 ∧ template.isTemplate = true ∧
            template.maxOccurrences = some 2) ∧
          instanceCount final.jobs 1 = 3)
      (by decide)
  refine ⟨final, run, limit, count, fun limited => ?_⟩
  obtain ⟨template, member, sameId, isTemplate, isMaximum⟩ := limit
  have bound := limited template member 2 isMaximum isTemplate (by decide)
  rw [sameId, count] at bound
  exact absurd bound (by decide)

end Sample

end Kronkeeper
