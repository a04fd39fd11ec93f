import Kronkeeper.InstanceKeys

namespace Kronkeeper

/-!
# Whose row a derived key finds

`spawn_next_instance` takes any row under the derived key for the instance it
was about to insert.  Such a row is that instance unless a client has had one
of its own jobs inserted under the key, which nothing prevents.
-/

namespace State

variable {config : Config} {slots : Nat}
variable {externals : Externals}
variable {state after : State config slots}
variable {action : Action config slots}

/-- The key a client chose for the row a step asks the table to insert. -/
def submittedKey?
    (state : State config slots) : Action config slots → Option String
  | .api slot (.call (.inserted _)) =>
      match state.requests slot with
      | .creating _ req .insertJob => some req.idempotencyKey
      | .creating _ req (.insertTemplate _ _) => some req.idempotencyKey
      | _ => none
  | _ => none

/-- The step inserts a client's own row, and the key is new with it. -/
structure SubmitsUnder
    (state after : State config slots)
    (action : Action config slots)
    (key : String) : Prop where
  submitted : state.submittedKey? action = some key
  isNew : ∀ old ∈ state.jobs.rows, old.idempotencyKey ≠ key
  added : ∃ row ∈ after.jobs.rows, row.idempotencyKey = key

end State

/-- The firing whose key the spawn of a worker looks up next. -/
def WorkerTask.lookedUp? : WorkerTask → Option Firing
  | .spawning _ (.lookupKey template nextFire) =>
      some { templateId := template.id, fire := nextFire }
  | _ => none

theorem WorkerTask.lookedUp?_eq_some
    {task : WorkerTask}
    {firing : Firing}
    (looks : task.lookedUp? = some firing) :
    ∃ job template,
      task = .spawning job (.lookupKey template firing.fire) ∧
        template.id = firing.templateId := by
  unfold lookedUp? at looks
  split at looks
  · cases looks
    exact ⟨_, _, rfl, rfl⟩
  · cases looks

namespace State

variable {config : Config} {slots : Nat}
variable {externals : Externals}
variable {state after : State config slots}
variable {action : Action config slots}

/-- A spawn looks the key of a firing up and finds a row there. -/
structure FindsDuplicate
    (externals : Externals)
    (state : State config slots)
    (worker : Fin config.workerCount)
    (firing : Firing)
    (existing : Job) : Prop where
  looks : (state.workers worker).lookedUp? = some firing
  found :
    JobRepository.getByIdempotencyKey state.jobs
      (firing.key externals) = some existing

/-- The spawn then returns `Ok` without a write. -/
theorem FindsDuplicate.returns
    {worker : Fin config.workerCount}
    {firing : Firing}
    {existing : Job}
    (finds : state.FindsDuplicate externals worker firing existing) :
    ∃ job after,
      step? externals state (.worker worker (.spawn .ok)) = some after ∧
        after.workers worker = .emitting job .loadJob ∧
        after.jobs = state.jobs := by
  obtain ⟨job, template, looking, sameId⟩ :=
    WorkerTask.lookedUp?_eq_some finds.looks
  have found := finds.found
  rw [Firing.key, ← sameId] at found
  have taken :
      step? externals state (.worker worker (.spawn .ok)) =
        some (dropClosed
          { state with
            workers :=
              Function.update state.workers worker
                (.emitting job .loadJob) }) := by
    simp only [step?, looking, WorkerTask.step?, SpawnCall.step?, found,
      Option.map_some, WorkerTask.afterSpawn]
  refine ⟨job, _, taken, ?_, dropClosed_jobs _⟩
  rw [dropClosed_workers]
  exact Function.update_self ..

/-! ## How a row got into the table -/

/-- Every row of a run from the empty table was inserted by one of its steps. -/
theorem inserts_of_mem
    {clock : Time}
    {actions : List (Action config slots)}
    (run :
      Run externals TransitionSystem.Unrestricted
        (initial config slots clock) actions state)
    {row : Job}
    (member : row ∈ state.jobs.rows) :
    TransitionSystem.Passes (step? externals)
      TransitionSystem.Unrestricted
      (fun before action after =>
        ∃ original ∈ after.jobs.rows,
          original.identity = row.identity ∧
            before.jobs.Fresh original ∧
            before.Inserts externals action original)
      (initial config slots clock) actions state := by
  have absent : ¬(initial config slots clock).jobs.Knows row.identity := by
    rintro ⟨old, oldMember, _⟩
    cases oldMember
  obtain ⟨leading, action, trailing, before, after, split, toBefore,
    taken, toFinal, unknown, original, originalMember, identity⟩ :=
    run.established (fun state => state.jobs.Knows row.identity) absent
      ⟨row, member, rfl⟩
  refine ⟨leading, action, trailing, before, after, split, toBefore,
    taken, toFinal, original, originalMember, identity, ?_⟩
  cases rowOrigin_of_step? taken originalMember with
  | kept old oldMember same | changed old oldMember same =>
      exact (unknown ⟨old, oldMember, same.symm.trans identity⟩).elim
  | inserted fresh insertion =>
      exact ⟨fresh, insertion⟩

/-- An inserted row is the instance of a firing or a client's own. -/
theorem Inserts.for_or_under
    {row : Job}
    (insertion : state.Inserts externals action row)
    (fresh : state.jobs.Fresh row)
    (member : row ∈ after.jobs.rows) :
    (∃ firing, state.InsertsFor after action firing row) ∨
      state.SubmitsUnder after action row.idempotencyKey := by
  cases insertion with
  | job slot clientId req id creating =>
      refine Or.inr ⟨?_, fresh.2, _, member, rfl⟩
      simp only [submittedKey?, creating]
      rfl
  | template slot clientId req recurrence firstFire id creating =>
      refine Or.inr ⟨?_, fresh.2, _, member, rfl⟩
      simp only [submittedKey?, creating]
      rfl
  | firstInstance slot clientId req template firstFire id creating =>
      refine Or.inl ⟨⟨template.id, firstFire⟩, ?_, fresh.1, member⟩
      simp only [firing?, creating]
  | nextInstance worker job template nextFire id spawning =>
      refine Or.inl ⟨⟨template.id, nextFire⟩, ?_, fresh.1, member⟩
      simp only [firing?, spawning]

/-- A client's own row has no parent. -/
theorem SubmitsUnder.noParent
    {key : String}
    (submits : state.SubmitsUnder after action key)
    (taken : step? externals state action = some after) :
    ∃ row ∈ after.jobs.rows,
      row.idempotencyKey = key ∧ row.parentJobId = none := by
  obtain ⟨row, member, isKey⟩ := submits.added
  refine ⟨row, member, isKey, ?_⟩
  cases rowOrigin_of_step? taken member with
  | kept old oldMember same | changed old oldMember same =>
      have oldKey :=
        (Job.idempotencyKey_eq_of_identity same).symm.trans isKey
      exact (submits.isNew old oldMember oldKey).elim
  | inserted fresh insertion =>
      have submitted := submits.submitted
      cases insertion with
      | job | template =>
          rfl
      | firstInstance slot clientId req template firstFire id creating =>
          simp [submittedKey?, creating] at submitted
      | nextInstance worker job template nextFire id spawning =>
          simp [submittedKey?] at submitted

/-! ## The duplicate exit -/

/-- Some step of the run inserted this row as the instance of the firing. -/
def InsertedFor
    (externals : Externals)
    (clock : Time)
    (actions : List (Action config slots))
    (state : State config slots)
    (firing : Firing)
    (row : Job) : Prop :=
  TransitionSystem.Passes (step? externals) TransitionSystem.Unrestricted
    (fun before action after =>
      ∃ original,
        original.identity = row.identity ∧
          before.InsertsFor after action firing original)
    (initial config slots clock) actions state

/-- Some step of the run inserted a client's own row under this key. -/
def SubmittedUnder
    (externals : Externals)
    (clock : Time)
    (actions : List (Action config slots))
    (state : State config slots)
    (key : String) : Prop :=
  TransitionSystem.Passes (step? externals) TransitionSystem.Unrestricted
    (fun before action after => before.SubmitsUnder after action key)
    (initial config slots clock) actions state

/-- Instances carry the parent of their firing. -/
theorem InsertedFor.parent
    {clock : Time}
    {actions : List (Action config slots)}
    {firing : Firing}
    {row : Job}
    (inserted : InsertedFor externals clock actions state firing row) :
    row.parentJobId = some firing.templateId := by
  obtain ⟨_, _, _, before, after, _, _, taken, _, original, identity,
    inserts⟩ := inserted
  obtain ⟨_, _, parent, _⟩ := inserts.row taken
  exact (Job.parentJobId_eq_of_identity identity).symm.trans parent

/-- A row that was submitted under a key keeps the key to itself. -/
theorem SubmittedUnder.noParent
    {clock : Time}
    {actions : List (Action config slots)}
    {key : String}
    (submitted : SubmittedUnder externals clock actions state key)
    {row : Job}
    (member : row ∈ state.jobs.rows)
    (isKey : row.idempotencyKey = key) :
    row.parentJobId = none := by
  obtain ⟨_, _, _, before, after, _, _, taken, toFinal, submits⟩ :=
    submitted
  obtain ⟨original, originalMember, originalKey, noParent⟩ :=
    submits.noParent taken
  obtain ⟨later, laterMember, identity⟩ :=
    extends_of_run toFinal original originalMember
  have sameKey : later.idempotencyKey = row.idempotencyKey :=
    calc
      later.idempotencyKey = original.idempotencyKey :=
        Job.idempotencyKey_eq_of_identity identity
      _ = key := originalKey
      _ = row.idempotencyKey := isKey.symm
  have sameRow : later = row :=
    RecordTable.eq_of_unique laterMember member sameKey
  rw [← sameRow, Job.parentJobId_eq_of_identity identity]
  exact noParent

/-- The row under the key of a firing, if no client's own, is its instance. -/
theorem insertedFor_of_not_submitted
    (keyInjective : Function.Injective (Firing.key externals))
    {clock : Time}
    {actions : List (Action config slots)}
    (run :
      Run externals TransitionSystem.Unrestricted
        (initial config slots clock) actions state)
    {firing : Firing}
    {row : Job}
    (member : row ∈ state.jobs.rows)
    (isKey : row.idempotencyKey = firing.key externals)
    (notSubmitted :
      ¬SubmittedUnder externals clock actions state
        (firing.key externals)) :
    InsertedFor externals clock actions state firing row := by
  obtain ⟨leading, action, trailing, before, after, split, toBefore,
    taken, toFinal, original, originalMember, identity, fresh,
    insertion⟩ := inserts_of_mem run member
  have originalKey : original.idempotencyKey = firing.key externals :=
    (Job.idempotencyKey_eq_of_identity identity).trans isKey
  rcases insertion.for_or_under fresh originalMember with
    ⟨other, inserts⟩ | submits
  · obtain ⟨_, otherKey, _⟩ := inserts.row taken
    have sameFiring : other = firing :=
      keyInjective (otherKey.symm.trans originalKey)
    rw [sameFiring] at inserts
    exact ⟨leading, action, trailing, before, after, split, toBefore,
      taken, toFinal, original, identity, inserts⟩
  · rw [originalKey] at submits
    exact (notSubmitted ⟨leading, action, trailing, before, after, split,
      toBefore, taken, toFinal, submits⟩).elim

/--
A spawn that finds its derived key returns `Ok` without a write, and it has
found the instance of that fire time exactly if no client's own job was
inserted under the key before.
-/
theorem duplicate_exit_genuine_iff
    {width : Nat}
    (fixedWidth : ∀ id, (externals.uuidText id).length = width)
    (uuidInjective : Function.Injective externals.uuidText)
    (instantInjective : Function.Injective externals.toRfc3339)
    {clock : Time}
    {actions : List (Action config slots)}
    (run :
      Run externals TransitionSystem.Unrestricted
        (initial config slots clock) actions state)
    {worker : Fin config.workerCount}
    {firing : Firing}
    {existing : Job}
    (finds : state.FindsDuplicate externals worker firing existing) :
    (∃ job after,
      step? externals state (.worker worker (.spawn .ok)) = some after ∧
        after.workers worker = .emitting job .loadJob ∧
        after.jobs = state.jobs) ∧
      (InsertedFor externals clock actions state firing existing ↔
        ¬SubmittedUnder externals clock actions state
          (firing.key externals)) := by
  obtain ⟨member, isKey⟩ :=
    RecordTable.findUnique?_eq_some_iff.mp finds.found
  refine ⟨finds.returns, ?_, ?_⟩
  · intro inserted submitted
    have noParent := submitted.noParent member isKey
    rw [inserted.parent] at noParent
    cases noParent
  · intro notSubmitted
    exact insertedFor_of_not_submitted
      (Firing.key_injective fixedWidth uuidInjective instantInjective)
      run member isKey notSubmitted

end State

/-! ## Concrete runs -/

namespace Sample

/-- A client submits a job under the key of the second fire of template 1. -/
def claimKey : List (Action config 2) :=
  [ .api 1
      (.arrive
        (.createJob clientId
          (oneOff
            ("00000000-0000-0000-0000-000000000001:" ++
              "1970-01-01T00:02:00+00:00")))),
    .api 1 (.call .ok),
    .api 1 (.call (.inserted 3)),
    .api 1 .notifyOne ]

/-- Instance 2 succeeds after that, and its spawn gets to the lookup. -/
def claimKeyAndSucceed : List (Action config 2) :=
  createRecurring ++ executeInstance ++ claimKey ++
    [ .worker 0 (.execute succeeds),
      .worker 0 (.settle .ok),
      .worker 0 (.spawn .ok),
      .worker 0 (.spawn .ok) ]

/-- The second occurrence is dropped in favour of a client's job. -/
theorem client_key_drops_occurrence :
    ∃ state existing,
      State.Run externals TransitionSystem.Unrestricted
          (State.initial config 2 0) claimKeyAndSucceed state ∧
        state.FindsDuplicate externals 0 ⟨1, 120000000⟩ existing ∧
        existing.parentJobId = none ∧
        ¬State.InsertedFor externals 0 claimKeyAndSucceed state
          ⟨1, 120000000⟩ existing := by
  obtain ⟨state, run, looks, taken⟩ :=
    TransitionSystem.exists_run_of_replay?
      (State.step? externals) TransitionSystem.Unrestricted
      (State.initial config 2 0) claimKeyAndSucceed
      (fun state =>
        (state.workers 0).lookedUp? = some ⟨1, 120000000⟩ ∧
          (JobRepository.getByIdempotencyKey state.jobs
              (Firing.key externals ⟨1, 120000000⟩)).map
            Job.parentJobId = some none)
      (by decide)
  obtain ⟨existing, found, noParent⟩ := Option.map_eq_some_iff.mp taken
  refine ⟨state, existing, run, ⟨looks, found⟩, noParent, ?_⟩
  intro inserted
  have parent := inserted.parent
  rw [noParent] at parent
  cases parent

/-- The same job once every minute, instances overlapping. -/
def overlapping : CreateJobRequest :=
  { oneOff "key" with
    recurrence :=
      some {
        cronExpr := "* * * * *"
        endAt := none
        maxOccurrences := none
        concurrencyPolicy := .allow } }

/--
The lease of instance 2 runs out in the channel; both its copies succeed, and
the spawn of the second one finds the instance that the first one inserted.
-/
def succeedTwice : List (Action config 2) :=
  [ .api 0 (.arrive (.createJob clientId overlapping)),
    .api 0 (.call .ok),
    .api 0 (.call (.inserted 1)),
    .api 0 (.call (.inserted 2)),
    .api 0 .notifyOne,
    .api 0 .notifyOne,
    .scheduler (.refresh [⟨2, 60000000⟩]),
    .tick 60000000,
    .scheduler .sleepElapsed,
    .scheduler (.lease ⟨2, 60000000⟩ .ok),
    .scheduler .trySend,
    .tick 31000000,
    .reaper (.reap .ok),
    .reaper .notifyOne,
    .scheduler .dispatchDone,
    .scheduler .notified,
    .scheduler (.refresh [⟨2, 60000000⟩]),
    .scheduler .sleepElapsed,
    .scheduler (.lease ⟨2, 60000000⟩ .ok),
    .scheduler .trySend,
    .worker 0 .recv,
    .worker 0 .activate,
    .worker 0 (.setRunning .ok),
    .worker 1 .recv,
    .worker 1 .activate,
    .worker 1 (.setRunning .ok),
    .worker 0 (.execute succeeds),
    .worker 0 (.settle .ok),
    .worker 0 (.spawn .ok),
    .worker 0 (.spawn .ok),
    .worker 0 (.spawn .ok),
    .worker 0 (.spawn (.inserted 3)),
    .worker 0 (.spawn .ok),
    .worker 1 (.execute succeeds),
    .worker 1 (.settle .ok),
    .worker 1 (.spawn .ok),
    .worker 1 (.spawn .ok) ]

/-- The exit on a duplicate is genuine where no client holds the key. -/
theorem second_copy_finds_instance :
    ∃ state existing,
      State.Run textExternals TransitionSystem.Unrestricted
          (State.initial config 2 0) succeedTwice state ∧
        state.FindsDuplicate textExternals 1 ⟨1, 120000000⟩ existing ∧
        existing.parentJobId = some 1 ∧
        State.InsertedFor textExternals 0 succeedTwice state
          ⟨1, 120000000⟩ existing := by
  obtain ⟨state, run, looks, taken⟩ :=
    TransitionSystem.exists_run_of_replay?
      (State.step? textExternals) TransitionSystem.Unrestricted
      (State.initial config 2 0) succeedTwice
      (fun state =>
        (state.workers 1).lookedUp? = some ⟨1, 120000000⟩ ∧
          (JobRepository.getByIdempotencyKey state.jobs
              (Firing.key textExternals ⟨1, 120000000⟩)).map
            Job.parentJobId = some (some 1))
      (by decide +kernel)
  obtain ⟨existing, found, parent⟩ := Option.map_eq_some_iff.mp taken
  have finds :
      state.FindsDuplicate textExternals 1 ⟨1, 120000000⟩ existing :=
    ⟨looks, found⟩
  obtain ⟨member, isKey⟩ := RecordTable.findUnique?_eq_some_iff.mp found
  have fixedWidth : ∀ id, (textExternals.uuidText id).length = 36 :=
    length_hyphenated
  have uuidInjective : Function.Injective textExternals.uuidText :=
    hyphenated_injective
  have instantInjective : Function.Injective textExternals.toRfc3339 :=
    firstHourText_injective
  refine ⟨state, existing, run, finds, parent, ?_⟩
  refine (State.duplicate_exit_genuine_iff fixedWidth uuidInjective
    instantInjective run finds).2.mpr ?_
  intro submitted
  have noParent := submitted.noParent member isKey
  rw [parent] at noParent
  cases noParent

end Sample

end Kronkeeper
