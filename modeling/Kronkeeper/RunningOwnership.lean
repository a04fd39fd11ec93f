import Kronkeeper.RowHistory

namespace Kronkeeper

/-!
# Running rows and their workers

While a process lives nobody but a worker moves a row out of `RUNNING`: the
reaper looks at leases only.  So a running row has a worker for as long as no
worker drops it, which a failed write of `handle` does, and so does a panic on
the way to it.
-/

namespace State

variable {config : Config} {slots : Nat}

/-- Every running row is the job of a worker between `set_running` and the
return of `handle`. -/
def RunningOwned (state : State config slots) : Prop :=
  ∀ row ∈ state.jobs.rows,
    row.state = .running →
    ∃ worker, state.heldId? WorkerTask.inFlight? worker = some row.id

instance (state : State config slots) : Decidable state.RunningOwned :=
  inferInstanceAs (Decidable (∀ _ ∈ _, _))

/-- The row is not running, or another worker is about to write it. -/
def Droppable
    (state : State config slots)
    (worker : Fin config.workerCount)
    (id : Uuid) : Prop :=
  (∀ row ∈ state.jobs.rows, row.id = id → row.state ≠ .running) ∨
    ∃ other,
      other ≠ worker ∧
        state.heldId? WorkerTask.executing? other = some id

instance
    (state : State config slots)
    (worker : Fin config.workerCount)
    (id : Uuid) :
    Decidable (state.Droppable worker id) :=
  inferInstanceAs (Decidable (_ ∨ _))

/-- The worker that fails to write the row of its job, and the job. -/
def dropped?
    (state : State config slots) :
    Action config slots → Option (Fin config.workerCount × Uuid)
  | .worker worker (.execute outcome) =>
      match state.workers worker with
      | .executing job =>
          if Executor.execute? job.payload outcome = none then
            some (worker, job.id)
          else
            none
      | _ => none
  | .worker worker (.settle reply) =>
      match state.workers worker with
      | .handling job result now =>
          if reply.succeeded = false ∨
              ResultHandler.dispose? config job result now = none then
            some (worker, job.id)
          else
            none
      | _ => none
  | _ => none

/--
The steps of one process lifetime in which no worker fails to write a running
row that only it can write.
-/
def DropsSafely
    (state : State config slots)
    (action : Action config slots) : Prop :=
  action ≠ .restart ∧
    ∀ drop ∈ state.dropped? action, state.Droppable drop.1 drop.2

instance
    (state : State config slots)
    (action : Action config slots) :
    Decidable (state.DropsSafely action) :=
  have drops := (state.dropped? action).decidableForallMem
  @instDecidableAnd _ _ inferInstance drops

/-- Every running row is a worker's that has yet to write it. -/
def Owned (state : State config slots) : Prop :=
  ∀ row ∈ state.jobs.rows,
    row.state = .running →
    ∃ worker, state.heldId? WorkerTask.executing? worker = some row.id

theorem Owned.runningOwned
    {state : State config slots}
    (owned : state.Owned) :
    state.RunningOwned := by
  intro row member running
  obtain ⟨worker, held⟩ := owned row member running
  obtain ⟨job, executing, sameId⟩ := Option.map_eq_some_iff.mp held
  exact ⟨worker, Option.map_eq_some_iff.mpr
    ⟨job, WorkerTask.inFlight?_of_executing? executing, sameId⟩⟩

section Steps

variable {externals : Externals}
variable {state after : State config slots}
variable {action : Action config slots}

/-- A running row was owned before the step, or the step set it running. -/
theorem Owned.before_step
    (owned : state.Owned)
    (taken : step? externals state action = some after)
    {row : Job}
    (member : row ∈ after.jobs.rows)
    (running : row.state = .running) :
    (∃ worker old,
        state.heldId? WorkerTask.executing? worker = some row.id ∧
          old ∈ state.jobs.rows ∧ old.id = row.id ∧
          old.state = .running) ∨
      ∃ worker job,
        action = .worker worker (.setRunning .ok) ∧
          state.workers worker = .starting job ∧ job.id = row.id := by
  cases rowOrigin_of_step? taken member with
  | kept old oldMember identity hasCron schedule =>
      have oldRunning := schedule.state.symm.trans running
      have sameId := Job.id_eq_of_identity identity
      obtain ⟨worker, held⟩ := owned old oldMember oldRunning
      exact Or.inl
        ⟨worker, old, sameId ▸ held, oldMember, sameId.symm, oldRunning⟩
  | changed old oldMember identity hasCron change =>
      have sameId := Job.id_eq_of_identity identity
      rw [running] at change
      generalize written : JobState.running = new at change
      cases change with
      | begin worker job starting jobId =>
          exact Or.inr ⟨worker, job, rfl, starting,
            jobId.symm.trans sameId.symm⟩
      | settle worker job result now disposition =>
          cases disposition <;> cases written
      | _ =>
          cases written
  | inserted fresh insertion =>
      cases insertion <;> cases running

/-- A step of another task leaves a worker executing what it executed. -/
theorem heldId?_of_other_worker
    {view : WorkerTask → Option Job}
    {worker other : Fin config.workerCount}
    {task : WorkerTask}
    (different : other ≠ worker)
    (sameWorkers :
      after.workers = Function.update state.workers worker task) :
    after.heldId? view other = state.heldId? view other := by
  unfold heldId?
  rw [sameWorkers, Function.update_of_ne different]

theorem heldId?_of_worker
    {view : WorkerTask → Option Job}
    {worker : Fin config.workerCount}
    {task : WorkerTask}
    {job : Job}
    (isTask : state.workers worker = task)
    (viewed : view task = some job) :
    state.heldId? view worker = some job.id := by
  unfold heldId?
  rw [isTask, viewed]
  rfl

/-- A worker that is allowed to drop its running row leaves it to another. -/
theorem Droppable.other
    {worker : Fin config.workerCount}
    {id : Uuid}
    (droppable : state.Droppable worker id)
    {row : Job}
    (member : row ∈ state.jobs.rows)
    (sameId : row.id = id)
    (running : row.state = .running) :
    ∃ other,
      other ≠ worker ∧
        state.heldId? WorkerTask.executing? other = some id := by
  rcases droppable with notRunning | other
  · exact (notRunning row member sameId running).elim
  · exact other

/-- The worker that executes a running row still does, or leaves it to
another that does. -/
theorem owner_after_move
    {worker : Fin config.workerCount}
    {workerAction : WorkerAction}
    {shared : Shared}
    {task : WorkerTask}
    (moved :
      (state.workers worker).Move config externals state.toShared
        workerAction shared task)
    (permitted : state.DropsSafely (.worker worker workerAction))
    (sameJobs : after.jobs = shared.jobs)
    (sameWorkers :
      after.workers = Function.update state.workers worker task)
    {old row : Job}
    (oldMember : old ∈ state.jobs.rows)
    (oldRunning : old.state = .running)
    (sameId : old.id = row.id)
    (member : row ∈ after.jobs.rows)
    (running : row.state = .running)
    (held :
      state.heldId? WorkerTask.executing? worker = some row.id) :
    ∃ owner, after.heldId? WorkerTask.executing? owner = some row.id := by
  have leavesToOther :
      state.Droppable worker row.id →
      ∃ owner,
        after.heldId? WorkerTask.executing? owner = some row.id := by
    intro droppable
    obtain ⟨other, different, otherHeld⟩ :=
      droppable.other oldMember sameId oldRunning
    exact ⟨other,
      (heldId?_of_other_worker different sameWorkers).trans otherHeld⟩
  have isTask : after.workers worker = task := by
    rw [sameWorkers, Function.update_self]
  obtain ⟨job, executing, jobId⟩ := Option.map_eq_some_iff.mp held
  generalize before : state.workers worker = current at moved executing
  cases moved with
  | execute first outcome result captured =>
      cases executing
      exact ⟨worker, jobId ▸ heldId?_of_worker isTask rfl⟩
  | executePanics first outcome panics =>
      cases executing
      have drops :
          state.dropped? (.worker worker (.execute outcome)) =
            some (worker, job.id) := by
        simp [dropped?, before, panics]
      exact leavesToOther (jobId ▸ permitted.2 _ drops)
  | settle first result now disposition disposed =>
      cases executing
      rw [sameJobs] at member
      have written :=
        RecordTable.image_of_mem_update oldMember member sameId.symm
      rw [RowUpdate.image_of_applies (by simp [sameId, jobId])] at written
      rw [written, ResultHandler.dispositionUpdate_assign_state] at running
      cases disposition <;> cases running
  | settleFails first result now message =>
      cases executing
      have drops :
          state.dropped? (.worker worker (.settle (.error message))) =
            some (worker, job.id) := by
        simp [dropped?, before, Reply.succeeded]
      exact leavesToOther (jobId ▸ permitted.2 _ drops)
  | settlePanics first result now reply panics =>
      cases executing
      have drops :
          state.dropped? (.worker worker (.settle reply)) =
            some (worker, job.id) := by
        simp [dropped?, before, panics]
      exact leavesToOther (jobId ▸ permitted.2 _ drops)
  | _ =>
      cases executing

/-- Every permitted step leaves running rows with an owner. -/
theorem Owned.step
    (owned : state.Owned)
    (permitted : state.DropsSafely action)
    (taken : step? externals state action = some after) :
    after.Owned := by
  intro row member running
  have origin := owned.before_step taken member running
  cases move_of_step? taken with
  | worker worker action shared task moved =>
      rcases origin with
        ⟨owner, old, held, oldMember, sameId, oldRunning⟩ |
          ⟨starter, job, isBegin, starting, sameId⟩
      · by_cases isOwner : owner = worker
        · subst owner
          exact owner_after_move moved permitted (dropClosed_jobs _)
            (dropClosed_workers _) oldMember oldRunning sameId member
            running held
        · exact ⟨owner, (heldId?_of_other_worker isOwner
            (dropClosed_workers _)).trans held⟩
      · cases isBegin
        rw [starting] at moved
        cases moved with
        | begin =>
            have isTask :
                (dropClosed
                  { state with
                    toShared :=
                      state.update
                        (JobRepository.setRunning state.clock job.id)
                    workers :=
                      Function.update state.workers worker
                        (.executing job) }).workers worker =
                  .executing job := by
              simp
            exact ⟨worker, sameId ▸ heldId?_of_worker isTask rfl⟩
  | restart =>
      exact (permitted.1 rfl).elim
  | shutdown =>
      rcases origin with ⟨owner, _, held, _⟩ | ⟨_, _, isBegin, _⟩
      · refine ⟨owner, ?_⟩
        rwa [heldId?_notifyWaiter WorkerTask.executing?_notifyWaiter rfl]
      · cases isBegin
  | tick | scheduler | reaper | api =>
      rcases origin with ⟨owner, _, held, _⟩ | ⟨_, _, isBegin, _⟩
      · exact ⟨owner, held⟩
      · cases isBegin

end Steps

/--
In a process lifetime that starts without running rows and in which no worker
drops a running row that only it can write, every running row has its worker.
-/
theorem runningOwned_of_dropsSafely
    {externals : Externals}
    {clock : Time}
    {jobs : JobTable}
    {actions : List (Action config slots)}
    {final : State config slots}
    (noRunning : ∀ row ∈ jobs.rows, row.state ≠ .running)
    (run :
      Run externals DropsSafely (booted config slots clock jobs) actions
        final) :
    final.RunningOwned := by
  have owned : final.Owned :=
    run.invariant
      (fun owned permitted taken => owned.step permitted taken)
      (fun row member running => (noRunning row member running).elim)
  exact owned.runningOwned

end State

/-! ## Concrete runs -/

namespace Sample

/-- A job that is being executed is its worker's. -/
theorem running_row_has_its_worker :
    ∃ final,
      State.Run externals State.DropsSafely
          (State.booted config 1 0 RecordTable.empty)
          (createAndSend ++ begin 0) final ∧
        final.jobs.rows.map Job.state = [.running] ∧
        final.RunningOwned := by
  obtain ⟨final, run, running⟩ :=
    TransitionSystem.exists_run_of_replay?
      (State.step? externals) State.DropsSafely
      (State.booted config 1 0 RecordTable.empty)
      (createAndSend ++ begin 0)
      (fun final => final.jobs.rows.map Job.state = [.running])
      (by decide)
  exact ⟨final, run, running,
    State.runningOwned_of_dropsSafely
      (fun _ member => by cases member) run⟩

/-- The database is gone when the handler of a job writes its result. -/
def writeFails : List (Action config 1) :=
  [ .worker 0 (.execute succeeds),
    .worker 0 (.settle (.error "connection closed")) ]

/-- A failed write of `handle` leaves a running row to nobody. -/
theorem failed_write_strands_running_row :
    ∃ final,
      State.Run externals TransitionSystem.Unrestricted
          (State.initial config 1 0)
          (createAndSend ++ begin 0 ++ writeFails) final ∧
        ¬final.RunningOwned :=
  TransitionSystem.exists_run_of_replay?
    (State.step? externals) TransitionSystem.Unrestricted
    (State.initial config 1 0)
    (createAndSend ++ begin 0 ++ writeFails)
    (fun final => ¬final.RunningOwned)
    (by decide)

end Sample

end Kronkeeper
