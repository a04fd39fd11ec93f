import Kronkeeper.DispatchLiveness
import Kronkeeper.HandoffLiveness
import Kronkeeper.JobLifecycle
import Kronkeeper.LeaseLiveness
import Kronkeeper.RetryBudget
import Kronkeeper.RunningOwnership

namespace Kronkeeper

/-!
# The way of a job to its end

A job is scheduled, leased, handed over, executed and settled, and a failure
within its budget starts it over.  Where no copy is lost each stage comes about,
every round costs one of finitely many attempts, and what has ended stays as it
is.
-/

/-- The worker comes back to the channel. -/
def WorkerTask.staysOn : WorkerTask → Bool
  | .idle notified => !notified
  | .stopped => false
  | .panicked => false
  | _ => true

namespace WorkerTask

theorem not_ended_of_staysOn
    {task : WorkerTask}
    (stays : task.staysOn = true) :
    task.ended = false := by
  cases task <;> simp_all [staysOn, ended]

@[simp] theorem staysOn_afterSettle
    (job : Job)
    (disposition : Disposition) :
    (afterSettle job disposition).staysOn = true := by
  unfold afterSettle
  split
  · split <;> rfl
  all_goals rfl

@[simp] theorem staysOn_afterSpawn
    (job : Job)
    (progress : SpawnProgress) :
    (afterSpawn job progress).staysOn = true := by
  unfold afterSpawn
  split <;> rfl

@[simp] theorem staysOn_afterEmit
    (job : Job)
    (progress : EmitProgress) :
    (afterEmit job progress).staysOn = true := by
  cases progress <;> rfl

end WorkerTask

namespace State

open JobRepository

variable {config : Config} {slots : Nat}

/--
No copy is lost: calls succeed with room, no lease is reaped under a waiting
copy, no worker panics, no attempt counts beyond `i32` and nobody shuts the
workers down.
-/
structure KeepsEveryCopy
    (state : State config slots)
    (action : Action config slots) : Prop where
  withRoom : state.SucceedsWithRoom action
  unwaited : state.ReapsUnwaited action
  noPanic : state.dropped? action = none
  countsUp : state.CountsUp action
  goesOn : action ≠ .shutdown

instance decidableKeepsEveryCopy
    (state : State config slots)
    (action : Action config slots) :
    Decidable (state.KeepsEveryCopy action) :=
  @decidable_of_iff _
    (state.SucceedsWithRoom action ∧ state.ReapsUnwaited action ∧
      state.dropped? action = none ∧ state.CountsUp action ∧
      action ≠ .shutdown)
    ⟨fun ⟨withRoom, unwaited, noPanic, countsUp, goesOn⟩ =>
        ⟨withRoom, unwaited, noPanic, countsUp, goesOn⟩,
      fun keeps =>
        ⟨keeps.withRoom, keeps.unwaited, keeps.noPanic, keeps.countsUp,
          keeps.goesOn⟩⟩
    inferInstance

variable {externals : Externals}
variable {state after : State config slots}
variable {action : Action config slots}

/-- No worker ends. -/
theorem KeepsEveryCopy.staysOn
    (keeps : state.KeepsEveryCopy action)
    (stays : ∀ worker, (state.workers worker).staysOn = true)
    (taken : step? externals state action = some after)
    (worker : Fin config.workerCount) :
    (after.workers worker).staysOn = true := by
  cases move_of_step? taken with
  | worker mover workerAction shared task moved =>
      rw [dropClosed_workers]
      by_cases isMover : worker = mover
      · subst isMover
        simp only [Function.update_self]
        have noPanic := keeps.noPanic
        have before := stays worker
        generalize isTask : state.workers worker = current at moved before
        cases moved with
        | stop =>
            cases before
        | executePanics job outcome panics =>
            simp [dropped?, isTask, panics] at noPanic
        | settlePanics job result now reply panics =>
            simp [dropped?, isTask, panics] at noPanic
        | settle | spawn | emit | post =>
            simp
        | _ =>
            rfl
      · simp only [Function.update_of_ne isMover]
        exact stays worker
  | shutdown =>
      exact (keeps.goesOn rfl).elim
  | restart =>
      exact (keeps.withRoom.notRestart rfl).elim
  | tick | scheduler | reaper | api =>
      exact stays worker

/-! ## One stage after the other -/

/-- The row is scheduled as it was, at the attempt it was at. -/
structure SameTurn (old new : Job) : Prop where
  identity : new.identity = old.identity
  state : new.state = .scheduled
  scheduledAt : new.scheduledAt = old.scheduledAt
  attemptCount : new.attemptCount = old.attemptCount

/-- Without a copy nothing reschedules the row. -/
theorem InStep.attempts_kept
    (inStep : state.InStep)
    (taken : step? externals state action = some after)
    {row new : Job}
    (member : row ∈ state.jobs.rows)
    (newMember : new ∈ after.jobs.rows)
    (sameId : new.id = row.id)
    (scheduled : row.state = .scheduled) :
    new.attemptCount = row.attemptCount := by
  rcases schedule_of_step? taken member newMember sameId with
    same | ⟨puts, _⟩
  · exact same.2
  · have free := noCopy_iff.mp (inStep.noCopy member scheduled)
    rcases reschedule?_cases puts with
      ⟨job, place, _, expects, jobId, _⟩ |
      ⟨job, place, _, expects, jobId, _⟩
    · exact (free place job _ expects jobId.symm).elim
    · exact (free place job _ expects jobId.symm).elim

/-- The lease of a scheduled row puts the row itself into the hand. -/
theorem hand_of_lease
    {entry : ScheduledJob}
    (taken :
      step? externals state (.scheduler (.lease entry .ok)) = some after)
    {row new : Job}
    (member : row ∈ state.jobs.rows)
    (newMember : new ∈ after.jobs.rows)
    (sameId : new.id = row.id)
    (isEntry : row.id = entry.id)
    (scheduled : row.state = .scheduled) :
    ∃ now, after.scheduler.position = .sending now new := by
  have applies :
      (leaseJob state.clock entry.id config.leaseDurationSecs).applies
          row =
        true := by
    simp [leaseJob, isEntry, scheduled]
  have moved := schedulerMove_of_step? taken
  change new ∈ after.toShared.jobs.rows at newMember
  generalize state.scheduler.position = position at moved
  generalize after.scheduler = task at moved ⊢
  generalize after.toShared = shared at moved newMember
  cases moved with
  | lease now _ job pops leased =>
      refine ⟨now, ?_⟩
      have isImage :=
        RecordTable.image_of_mem_update member newMember sameId
      rw [RowUpdate.image_of_applies applies] at isImage
      obtain ⟨old, oldMember, oldApplies, rfl⟩ :=
        RecordTable.returning_eq_some leased
      have isRow : old = row := by
        refine RecordTable.eq_of_primary oldMember member ?_
        simp only [leaseJob, Bool.and_eq_true, beq_iff_eq] at oldApplies
        exact oldApplies.1.trans isEntry.symm
      rw [isImage, isRow]
  | leaseMisses now _ pops missed =>
      have skipped :=
        RecordTable.returning_eq_none_iff.mp missed row member
      rw [applies] at skipped
      cases skipped

/-- A scheduled row stays so, is cancelled or is leased. -/
theorem InStep.scheduled_cases
    (inStep : state.InStep)
    (keeps : state.KeepsEveryCopy action)
    (taken : step? externals state action = some after)
    {row : Job}
    (member : row ∈ state.jobs.rows)
    (scheduled : row.state = .scheduled)
    (notTemplate : row.isTemplate = false) :
    ∃ new ∈ after.jobs.rows,
      SameTurn row new ∨
        new.identity = row.identity ∧
          (new.state = .cancelled ∨
            new.attemptCount = row.attemptCount ∧
              ∃ now, after.scheduler.position = .sending now new) := by
  obtain ⟨new, newMember, identity⟩ := extends_of_step? taken row member
  have sameId := Job.id_eq_of_identity identity
  have attempts :=
    inStep.attempts_kept taken member newMember sameId scheduled
  have free := noCopy_iff.mp (inStep.noCopy member scheduled)
  refine ⟨new, newMember, ?_⟩
  rcases stateChange_of_step? taken member newMember sameId with
    schedule | change
  · exact Or.inl
      { identity := identity
        state := schedule.state.trans scheduled
        scheduledAt := schedule.scheduledAt
        attemptCount := attempts }
  · refine Or.inr ⟨identity, ?_⟩
    generalize isNew : new.state = written at change ⊢
    cases change with
    | lease now entry dispatching pops isEntry =>
        exact Or.inr ⟨attempts,
          hand_of_lease taken member newMember sameId isEntry scheduled⟩
    | begin worker job starting jobId =>
        exact (free (.worker worker) job _ (expects_of_worker starting rfl)
          jobId.symm).elim
    | settle worker job result now disposition handling disposed jobId =>
        exact (free (.worker worker) job _ (expects_of_worker handling rfl)
          jobId.symm).elim
    | giveBack job returning jobId =>
        exact (free .hand job _ (expects_of_hand returning rfl)
          jobId.symm).elim
    | reap ticking leased =>
        rw [scheduled] at leased
        cases leased
    | recover =>
        exact (keeps.withRoom.notRestart rfl).elim
    | cancelJob | cancelInstances =>
        exact Or.inl rfl
    | cancelTemplate slot clientId cancelling isTemplate =>
        rw [notTemplate] at isTemplate
        cases isTemplate
    | completeTemplate worker job template spawning templateId =>
        have read := (inStep.grounded.workers worker).template template (by
          rw [spawning]
          rfl)
        rw [read.row_isTemplate member templateId] at notTemplate
        cases notTemplate

/-- A copy about to be sent stays so until it is in the channel. -/
theorem SucceedsWithRoom.sending_or_queued
    (withRoom : state.SucceedsWithRoom action)
    (taken : step? externals state action = some after)
    {now : Time}
    {job : Job}
    (sending : state.scheduler.position = .sending now job) :
    after.scheduler.position = .sending now job ∨
      job ∈ after.channel := by
  rcases position_of_step? taken withRoom.notRestart with
    same | ⟨own, rfl⟩
  · exact Or.inl (same.trans sending)
  · right
    cases own with
    | trySend =>
        obtain ⟨isOpen, room⟩ : state.Accepts := withRoom
        refine queued_of_sent taken ?_
        simp [parted, sending, isOpen, room]
    | _ =>
        have moved := schedulerMove_of_step? taken
        rw [sending] at moved
        cases moved

/-- What leaves the channel is received. -/
theorem KeepsEveryCopy.received_of_departed
    (keeps : state.KeepsEveryCopy action)
    (stays : ∀ worker, (after.workers worker).staysOn = true)
    (taken : step? externals state action = some after)
    {job : Job}
    {departure : Departure config}
    (departs : (job, departure) ∈ state.departed externals action) :
    ∃ worker, departure = .received worker := by
  cases departure with
  | received worker =>
      exact ⟨worker, rfl⟩
  | discarded =>
      unfold departed at departs
      split at departs
      · obtain ⟨_, _, same⟩ := List.mem_map.mp departs
        cases same
      · rename_i worker own _
        rw [taken] at departs
        dsimp only at departs
        split at departs
        · rename_i closed
          have ended := closed worker
          rw [WorkerTask.not_ended_of_staysOn (stays worker)] at ended
          cases ended
        · cases departs
      · exact (keeps.withRoom.notRestart rfl).elim
      · cases departs

/-- A worker lets go of a copy by settling its row. -/
theorem KeepsEveryCopy.settles_of_fate
    (keeps : state.KeepsEveryCopy action)
    {worker : Fin config.workerCount}
    {job : Job}
    {fate : Fate}
    (met : (job, fate) ∈ state.fates worker action) :
    ∃ result now disposition,
      action = .worker worker (.settle .ok) ∧
        state.workers worker = .handling job result now ∧
        ResultHandler.dispose? config job result now =
          some disposition := by
  have succeeds := keeps.withRoom.succeeds
  have noPanic := keeps.noPanic
  unfold fates at met
  split at met
  · rename_i mover own
    split at met
    · rename_i isMover
      subst isMover
      have fate? := Option.mem_toList.mp met
      generalize isTask : state.workers mover = current at fate?
      unfold WorkerTask.fate? at fate?
      split at fate?
      · cases succeeds
      · rename_i copy outcome
        split at fate?
        · cases fate?
        · rename_i panics
          simp [dropped?, isTask, panics] at noPanic
      · rename_i copy result now reply
        split at fate?
        · rename_i panics
          simp [dropped?, isTask, panics] at noPanic
        · rename_i disposition disposed
          cases reply with
          | ok =>
              cases fate?
              exact ⟨result, now, disposition, rfl, rfl, disposed⟩
          | error =>
              cases succeeds
          | inserted =>
              cases fate?
      · cases fate?
    · cases met
  · exact (keeps.withRoom.notRestart rfl).elim
  · cases met

/-- The worker settles its copy of the row's job; a one-off is reported. -/
structure Settles
    (before after : State config slots)
    (action : Action config slots)
    (worker : Fin config.workerCount)
    (job row : Job) : Prop where
  isSettle : action = .worker worker (.settle .ok)
  handling :
    ∃ result now, before.workers worker = .handling job result now
  sameId : job.id = row.id
  reports :
    row.parentJobId = none →
      after.workers worker = .emitting job .loadJob

theorem Settles.congr
    {before after : State config slots}
    {action : Action config slots}
    {worker : Fin config.workerCount}
    {job old new : Job}
    (settles : Settles before after action worker job old)
    (identity : old.identity = new.identity) :
    Settles before after action worker job new where
  isSettle := settles.isSettle
  handling := settles.handling
  sameId := settles.sameId.trans (Job.id_eq_of_identity identity)
  reports := fun oneOff =>
    settles.reports ((Job.parentJobId_eq_of_identity identity).trans oneOff)

/-- The settled row has ended, or is scheduled at its next attempt. -/
theorem KeepsEveryCopy.settled_cases
    (keeps : state.KeepsEveryCopy action)
    (budgeted : state.AllBudgeted)
    (taken : step? externals state action = some after)
    {worker : Fin config.workerCount}
    {job row : Job}
    {result : ExecutionResult}
    {now : Time}
    {disposition : Disposition}
    (isSettle : action = .worker worker (.settle .ok))
    (handling : state.workers worker = .handling job result now)
    (disposed :
      ResultHandler.dispose? config job result now = some disposition)
    (member : row ∈ state.jobs.rows)
    (jobId : row.id = job.id) :
    ∃ new ∈ after.jobs.rows,
      new.identity = row.identity ∧
        (new.state.isTerminal = true ∧
            Settles state after action worker job new ∨
          new.state = .scheduled ∧
            new.attemptCount = job.attemptCount + 1 ∧
            new.attemptCount ≤ job.maxRetries) := by
  obtain ⟨new, newMember, identity⟩ := extends_of_step? taken row member
  have sameId := Job.id_eq_of_identity identity
  have settles (reports : _) :
      Settles state after action worker job new :=
    { isSettle := isSettle
      handling := ⟨result, now, handling⟩
      sameId := jobId.symm.trans sameId.symm
      reports := reports }
  subst isSettle
  refine ⟨new, newMember, identity, ?_⟩
  obtain ⟨isTask, sameJobs⟩ := settled_of_step? handling disposed taken
  have isImage :
      new = (ResultHandler.dispositionUpdate state.clock job.id
        disposition).assign row := by
    rw [sameJobs] at newMember
    rw [RecordTable.image_of_mem_update member newMember sameId]
    exact RowUpdate.image_of_applies (by simp [jobId])
  cases disposition with
  | retry retryAt attempt =>
      right
      obtain ⟨isNext, withinLimit⟩ :=
        ResultHandler.dispose?_eq_retry disposed
      have below :=
        keeps.countsUp job (by simp [retried?, handling, disposed])
      have above :=
        (budgeted.copies _ job _ (expects_of_worker handling rfl)).1
      rw [wrapI32_eq_self (by omega) below] at isNext
      rw [isImage]
      exact ⟨rfl, isNext, withinLimit⟩
  | complete =>
      left
      refine ⟨by rw [isImage]; rfl, settles fun oneOff => ?_⟩
      have copied :=
        (budgeted.grounded.copy_of_expects
          (expects_of_worker handling rfl)).row member jobId
      rw [Job.parentJobId_eq_of_identity (identity.trans copied)] at oneOff
      rw [isTask]
      simp [WorkerTask.afterSettle, oneOff]
  | expire | deadLetter =>
      left
      exact ⟨by rw [isImage]; rfl, settles fun _ => isTask⟩

/-- What has ended stays as it is. -/
theorem InStep.terminal_kept
    (inStep : state.InStep)
    (taken : step? externals state action = some after)
    {row : Job}
    (member : row ∈ state.jobs.rows)
    (notTemplate : row.isTemplate = false)
    (terminal : row.state.isTerminal = true) :
    ∃ new ∈ after.jobs.rows,
      new.identity = row.identity ∧ new.state.isTerminal = true := by
  obtain ⟨new, newMember, identity⟩ := extends_of_step? taken row member
  refine ⟨new, newMember, identity, ?_⟩
  have follows :=
    inStep.row_follows taken member newMember
      (Job.id_eq_of_identity identity) fun isTemplate => by
        rw [notTemplate] at isTemplate
        cases isTemplate
  rcases follows with same | edge
  · rw [same]
    exact terminal
  · exact (JobState.not_transition_of_isTerminal terminal edge).elim

/-! ## Along an execution -/

/-- No party is put off for ever. -/
structure Execution.Fair
    (execution : Execution config slots externals) : Prop where
  works : ∀ party, execution.Works party
  served : ∀ worker, execution.Serves (.worker worker)
  /-- `select!` does not pass over the permit for ever. -/
  hears :
    execution.StronglyFair fun action => action = .scheduler .notified
  /-- `select!` does not pass over the sleep for ever. -/
  wakes :
    execution.StronglyFair fun action => action = .scheduler .sleepElapsed
  /-- As time passes every sleep ends. -/
  timePasses :
    ∀ instant, ∃ index, instant ≤ (execution.state index).clock

/-- No copy is lost, and no party on the way of a job is put off. -/
structure FairCompletion
    (externals : Externals)
    (execution : Execution config slots externals) : Prop
    extends FairDispatch externals execution where
  keepsCopies :
    ∀ index,
      (execution.state index).KeepsEveryCopy (execution.action index)
  served : ∀ worker, execution.Serves (.worker worker)
  timePasses :
    ∀ instant, ∃ index, instant ≤ (execution.state index).clock
  inStep : ∀ index, (execution.state index).InStep
  sound : ∀ index, (execution.state index).Sound
  budgeted : ∀ index, (execution.state index).AllBudgeted
  staysOn :
    ∀ index worker,
      ((execution.state index).workers worker).staysOn = true

/-- All tasks are at their start, over rows that the daemon wrote. -/
structure FreshStart (state : State config slots) : Prop where
  scheduler : state.scheduler = .initial
  channel : state.channel = []
  workers : ∀ worker, state.workers worker = .idle false
  grounded : state.Grounded
  templates : state.TemplateRows
  attempts : ∀ row ∈ state.jobs.rows, 0 ≤ row.webhookAttempts
  budgeted : ∀ row ∈ state.jobs.rows, row.Budgeted

theorem freshStart_initial
    (clock : Time) :
    (initial config slots clock).FreshStart where
  scheduler := rfl
  channel := rfl
  workers := fun _ => rfl
  grounded := grounded_booted clock RecordTable.empty
  templates := templates_initial clock
  attempts := fun _ member => by cases member
  budgeted := fun _ member => by cases member

namespace FreshStart

/-- No process hands its copies on to the next one. -/
theorem expects_nothing
    (fresh : state.FreshStart)
    {place : Place config}
    {job : Job}
    {expected : JobState} :
    ¬state.Expects place job expected := by
  intro expects
  cases place with
  | hand =>
      have held := expects.1
      rw [fresh.scheduler] at held
      cases held
  | queue =>
      have queued := expects.1
      rw [fresh.channel] at queued
      cases queued
  | worker worker =>
      change (state.workers worker).stage? = some (job, expected)
        at expects
      rw [fresh.workers worker] at expects
      cases expects

theorem noCopy
    (fresh : state.FreshStart)
    (id : Uuid) :
    state.NoCopy id :=
  noCopy_iff.mpr fun _ _ _ expects => (fresh.expects_nothing expects).elim

theorem inStep (fresh : state.FreshStart) : state.InStep where
  grounded := fresh.grounded
  templates := fresh.templates
  oneCopy := by
    have isEmpty :
        state.OneCopy ↔
          Handoff.SingleCustody none []
            (state.heldId? WorkerTask.unsettled?) := by
      simp [OneCopy, handId?, queuedIds, fresh.scheduler, fresh.channel,
        SchedulerTask.initial, SchedulerPosition.hand?]
    refine isEmpty.mpr (Handoff.SingleCustody.empty fun worker => ?_)
    simp [heldId?, fresh.workers worker, WorkerTask.unsettled?]
  expected := fun _ _ _ expects => (fresh.expects_nothing expects).elim

theorem allBudgeted (fresh : state.FreshStart) : state.AllBudgeted where
  grounded := fresh.grounded
  rows := fresh.budgeted
  copies := fun _ _ _ expects => (fresh.expects_nothing expects).elim

theorem workBounded (fresh : state.FreshStart) : state.WorkBounded where
  rows := fresh.attempts
  workers := by
    intro worker
    rw [fresh.workers worker]
    trivial
  scheduler := by
    rw [fresh.scheduler]
    exact Nat.zero_le _

end FreshStart

/-- From a start on, an execution that is fair and keeps every copy. -/
theorem fairCompletion_of_freshStart
    {execution : Execution config slots externals}
    (limited : config.webhookMaxRetries < 2 ^ 31 - 1)
    (fresh : (execution.state 0).FreshStart)
    (keepsCopies :
      ∀ index,
        (execution.state index).KeepsEveryCopy (execution.action index))
    (fair : execution.Fair) :
    FairCompletion externals execution := by
  have withRoom := fun index => (keepsCopies index).withRoom
  have invariant :=
    dispatchInvariant_always limited
      (dispatchInvariant_of_start fresh.grounded fresh.workBounded
        fresh.scheduler)
      withRoom
  have keeps :
      ∀ index,
        (execution.state index).InStep ∧
          (execution.state index).ClosedEmpty ∧
          (execution.state index).AllBudgeted ∧
          ∀ worker,
            ((execution.state index).workers worker).staysOn = true := by
    intro index
    induction index with
    | zero =>
        refine ⟨fresh.inStep, fun _ => fresh.channel, fresh.allBudgeted,
          fun worker => ?_⟩
        rw [fresh.workers worker]
        rfl
    | succ index inductionHypothesis =>
        obtain ⟨inStep, empties, budgeted, stays⟩ := inductionHypothesis
        have taken := execution.taken index
        exact ⟨inStep.step (keepsCopies index).unwaited taken,
          empties.step taken,
          budgeted.step (keepsCopies index).countsUp taken,
          (keepsCopies index).staysOn stays taken⟩
  exact
    { limited := limited
      invariant := invariant
      withRoom := withRoom
      works := fair.works
      hears := fair.hears
      wakes := fair.wakes
      keepsCopies := keepsCopies
      served := fair.served
      timePasses := fair.timePasses
      inStep := fun index => (keeps index).1
      sound := fun index =>
        ⟨(invariant index).bounded, (keeps index).2.1⟩
      budgeted := fun index => (keeps index).2.2.1
      staysOn := fun index => (keeps index).2.2.2 }

/-- The job is cancelled, or has been settled for good up to this moment. -/
def Execution.EndedAt
    (execution : Execution config slots externals)
    (moment : Nat)
    (row : Job) : Prop :=
  row.state = .cancelled ∨
    row.state.isTerminal = true ∧
      ∃ settled worker job,
        moment = settled + 1 ∧
          Settles (execution.state settled) (execution.state moment)
            (execution.action settled) worker job row

theorem Execution.EndedAt.terminal
    {execution : Execution config slots externals}
    {moment : Nat}
    {row : Job}
    (ended : execution.EndedAt moment row) :
    row.state.isTerminal = true := by
  rcases ended with cancelled | ⟨terminal, _⟩
  · rw [cancelled]
    rfl
  · exact terminal

/-- The row of the job is terminal from some moment on. -/
def Execution.EndsForGood
    (execution : Execution config slots externals)
    (row : Job) : Prop :=
  ∃ ended, ∀ later, ended ≤ later →
    ∃ current ∈ (execution.state later).jobs.rows,
      current.identity = row.identity ∧ current.state.isTerminal = true

/-- A row is never deleted. -/
theorem Execution.persists
    (execution : Execution config slots externals)
    {start later : Nat}
    {row : Job}
    (member : row ∈ (execution.state start).jobs.rows)
    (after : start ≤ later) :
    ∃ new ∈ (execution.state later).jobs.rows,
      new.identity = row.identity := by
  induction later, after using Nat.le_induction with
  | base =>
      exact ⟨row, member, rfl⟩
  | succ later after inductionHypothesis =>
      obtain ⟨old, oldMember, same⟩ := inductionHypothesis
      obtain ⟨new, newMember, identity⟩ :=
        extends_of_step? (execution.taken later) old oldMember
      exact ⟨new, newMember, identity.trans same⟩

namespace FairCompletion

variable {execution : Execution config slots externals}
variable {start later : Nat}
variable {row : Job}

/-- The row is cancelled, or leased with its attempts unchanged. -/
theorem leaves_schedule
    (completion : FairCompletion externals execution)
    (member : row ∈ (execution.state start).jobs.rows)
    (scheduled : row.state = .scheduled)
    (notTemplate : row.isTemplate = false) :
    ∃ later, start ≤ later ∧
      ∃ new ∈ (execution.state later).jobs.rows,
        new.identity = row.identity ∧
          (new.state = .cancelled ∨
            new.attemptCount = row.attemptCount ∧
              ∃ now,
                (execution.state later).scheduler.position =
                  .sending now new) := by
  by_contra never
  push Not at never
  have sameTurn :
      ∀ later, start ≤ later →
        ∃ new ∈ (execution.state later).jobs.rows, SameTurn row new := by
    intro later after
    induction later, after using Nat.le_induction with
    | base =>
        exact ⟨row, member, rfl, scheduled, rfl, rfl⟩
    | succ later after inductionHypothesis =>
        obtain ⟨old, oldMember, turn⟩ := inductionHypothesis
        have notTemplate :=
          (Job.isTemplate_eq_of_identity turn.identity).trans notTemplate
        obtain ⟨new, newMember, same | ⟨identity, leaves⟩⟩ :=
          (completion.inStep later).scheduled_cases
            (completion.keepsCopies later) (execution.taken later)
            oldMember turn.state notTemplate
        · exact ⟨new, newMember,
            { identity := same.identity.trans turn.identity
              state := same.state
              scheduledAt := same.scheduledAt.trans turn.scheduledAt
              attemptCount :=
                same.attemptCount.trans turn.attemptCount }⟩
        · obtain ⟨notCancelled, notLeased⟩ :=
            never (later + 1) (after.trans (Nat.le_succ _)) new newMember
              (identity.trans turn.identity)
          rcases leaves with cancelled | ⟨attempts, now, sending⟩
          · exact (notCancelled cancelled).elim
          · exact (notLeased (attempts.trans turn.attemptCount) now
              sending).elim
  refine @FairDispatch.not_always_scheduled _ _ _
    ⟨row.id, row.scheduledAt⟩ _ start completion.toFairDispatch
    completion.timePasses ?_
  intro later after
  obtain ⟨new, newMember, turn⟩ := sameTurn later after
  refine mem_scheduledJobs.mpr ⟨new, newMember, turn.state,
    (Job.isTemplate_eq_of_identity turn.identity).trans notTemplate, ?_⟩
  rw [Job.id_eq_of_identity turn.identity, turn.scheduledAt]

/-- A leased copy goes through the channel to a worker that settles it. -/
theorem settles
    (completion : FairCompletion externals execution)
    {now : Time}
    {job : Job}
    (sending :
      (execution.state start).scheduler.position = .sending now job) :
    ∃ later, start ≤ later ∧ ∃ worker result now disposition,
      execution.action later = .worker worker (.settle .ok) ∧
        (execution.state later).workers worker =
          .handling job result now ∧
        ResultHandler.dispose? config job result now =
          some disposition := by
  obtain ⟨sent, afterStart, queued⟩ :=
    @FairDispatch.reaches _ _ _ _ start completion.toFairDispatch
      .scheduler
      (fun index =>
        (execution.state index).scheduler.position = .sending now job)
      (fun index => job ∈ (execution.state (index + 1)).channel)
      (by
        intro index position
        simp [workOf, SchedulerTask.work, position])
      (fun position unmet =>
        ((completion.withRoom _).sending_or_queued (execution.taken _)
          position).resolve_right unmet)
      sending
  obtain ⟨received, departure, afterSent, departs⟩ :=
    queued_departs execution completion.limited completion.sound
      completion.served queued
  obtain ⟨worker, rfl⟩ :=
    (completion.keepsCopies received).received_of_departed
      (completion.staysOn (received + 1)) (execution.taken received)
      departs
  obtain ⟨settled, afterReceived, fate, met⟩ :=
    worker_lets_go execution completion.limited completion.sound
      (completion.works (.worker worker))
      (unsettled_of_received (execution.taken received) departs)
  obtain ⟨result, now, disposition, isSettle, handling, disposed⟩ :=
    (completion.keepsCopies settled).settles_of_fate met
  exact ⟨settled, by omega, worker, result, now, disposition, isSettle,
    handling, disposed⟩

/-- One turn ends the job or costs it one of its attempts. -/
theorem turn
    (completion : FairCompletion externals execution)
    (member : row ∈ (execution.state start).jobs.rows)
    (scheduled : row.state = .scheduled)
    (notTemplate : row.isTemplate = false) :
    ∃ later, start ≤ later ∧
      ∃ new ∈ (execution.state later).jobs.rows,
        new.identity = row.identity ∧
          (execution.EndedAt later new ∨
            new.state = .scheduled ∧
              new.attemptCount = row.attemptCount + 1 ∧
              new.attemptCount ≤ new.maxRetries) := by
  obtain ⟨leaves, afterStart, job, jobMember, isRow,
      cancelled | ⟨attempts, now, sending⟩⟩ :=
    completion.leaves_schedule member scheduled notTemplate
  · exact ⟨leaves, afterStart, job, jobMember, isRow,
      Or.inl (Or.inl cancelled)⟩
  · obtain ⟨settled, afterLease, worker, result, now, disposition,
        isSettle, handling, disposed⟩ :=
      completion.settles sending
    obtain ⟨old, oldMember, same⟩ :=
      execution.persists jobMember afterLease
    obtain ⟨new, newMember, identity, ending⟩ :=
      (completion.keepsCopies settled).settled_cases
        (completion.budgeted settled) (execution.taken settled) isSettle
        handling disposed oldMember (Job.id_eq_of_identity same)
    refine ⟨settled + 1, by omega, new, newMember,
      identity.trans (same.trans isRow), ?_⟩
    rcases ending with
      ⟨terminal, settles⟩ | ⟨again, isNext, withinLimit⟩
    · exact Or.inl (Or.inr
        ⟨terminal, settled, worker, job, rfl, settles⟩)
    · have sameLimit : new.maxRetries = job.maxRetries :=
        congrArg JobIdentity.maxRetries (identity.trans same)
      rw [attempts] at isNext
      rw [← sameLimit] at withinLimit
      exact Or.inr ⟨again, isNext, withinLimit⟩

/-- A scheduled job ends, since its attempts run out. -/
theorem ends
    (completion : FairCompletion externals execution)
    (member : row ∈ (execution.state start).jobs.rows)
    (scheduled : row.state = .scheduled)
    (notTemplate : row.isTemplate = false) :
    ∃ later, start ≤ later ∧
      ∃ new ∈ (execution.state later).jobs.rows,
        new.identity = row.identity ∧ execution.EndedAt later new := by
  induction left : (row.maxRetries - row.attemptCount).toNat
    using Nat.strongRecOn generalizing start row with
  | ind left inductionHypothesis =>
      obtain ⟨next, afterStart, new, newMember, identity,
          ended | ⟨again, isNext, withinLimit⟩⟩ :=
        completion.turn member scheduled notTemplate
      · exact ⟨next, afterStart, new, newMember, identity, ended⟩
      · have sameLimit : new.maxRetries = row.maxRetries :=
          congrArg JobIdentity.maxRetries identity
        obtain ⟨last, afterNext, final, finalMember, same, ended⟩ :=
          inductionHypothesis _ (by omega) newMember again
            ((Job.isTemplate_eq_of_identity identity).trans notTemplate)
            rfl
        exact ⟨last, afterStart.trans afterNext, final, finalMember,
          same.trans identity, ended⟩

/-- What has ended has ended for good. -/
theorem stays_ended
    (completion : FairCompletion externals execution)
    (member : row ∈ (execution.state start).jobs.rows)
    (notTemplate : row.isTemplate = false)
    (terminal : row.state.isTerminal = true)
    (after : start ≤ later) :
    ∃ new ∈ (execution.state later).jobs.rows,
      new.identity = row.identity ∧ new.state.isTerminal = true := by
  induction later, after using Nat.le_induction with
  | base =>
      exact ⟨row, member, rfl, terminal⟩
  | succ later after inductionHypothesis =>
      obtain ⟨old, oldMember, same, oldTerminal⟩ := inductionHypothesis
      obtain ⟨new, newMember, identity, newTerminal⟩ :=
        (completion.inStep later).terminal_kept (execution.taken later)
          oldMember
          ((Job.isTemplate_eq_of_identity same).trans notTemplate)
          oldTerminal
      exact ⟨new, newMember, identity.trans same, newTerminal⟩

/-- A scheduled job ends for good. -/
theorem ends_for_good
    (completion : FairCompletion externals execution)
    (member : row ∈ (execution.state start).jobs.rows)
    (scheduled : row.state = .scheduled)
    (notTemplate : row.isTemplate = false) :
    execution.EndsForGood row := by
  obtain ⟨last, _, final, finalMember, same, ended⟩ :=
    completion.ends member scheduled notTemplate
  refine ⟨last, fun later after => ?_⟩
  obtain ⟨current, currentMember, stays, terminal⟩ :=
    completion.stays_ended finalMember
      ((Job.isTemplate_eq_of_identity same).trans notTemplate)
      ended.terminal after
  exact ⟨current, currentMember, stays.trans same, terminal⟩

end FairCompletion

end State

/-! ## Empty hours -/

namespace Sample

variable {slots : Nat}

/-- An empty hour loses no copy: it has none. -/
theorem InEmptyHour.keepsEveryCopy
    {index : Nat}
    {state : State config slots}
    (hour : InEmptyHour index state) :
    state.KeepsEveryCopy (emptyHour index) := by
  refine
    { withRoom := succeedsWithRoom_emptyHour index state
      unwaited := ?_
      noPanic := ?_
      countsUp := ?_
      goesOn := ?_ }
  · intro _ _ row member applies
    exfalso
    simp only [JobRepository.reapExpiredLeases, Bool.and_eq_true,
      beq_iff_eq] at applies
    exact hour.1.noneLeased row member applies.1
  all_goals
    unfold emptyHour
    split_ifs
    all_goals
      simp [State.dropped?, State.CountsUp, State.retried?]

namespace RunsEmpty

variable {execution : State.Execution config slots externals}
variable {moment : Nat}

/-- In an empty hour there is nothing to receive. -/
theorem serves
    (empty : RunsEmpty execution moment)
    (worker : Fin config.workerCount) :
    State.Execution.Serves execution (.worker worker) := by
  refine execution.weaklyFair_of_disabled fun start => ?_
  obtain ⟨later, after, deserted, _⟩ := empty.hour_begins start
  exact ⟨later, after,
    State.worker_waits (deserted.workers worker) deserted.channel⟩

theorem fair
    (empty : RunsEmpty execution moment)
    (bounded : ∀ index, (execution.state index).WorkBounded) :
    State.Execution.Fair execution where
  works := empty.works bounded
  served := empty.serves
  hears := empty.hears
  wakes := empty.wakes
  timePasses := empty.timePasses

end RunsEmpty

end Sample

end Kronkeeper
