import Kronkeeper.Provenance

namespace Kronkeeper

/-!
# Copies that still speak for their row

From the lease to the first write of `handle` a copy stands for the state its
row should be in: leased until `set_running`, running after it.  This module
says where such copies are and where each of them was one step earlier.
-/

/-- The copy of a worker before `handle` has written, and its row's state. -/
def WorkerTask.stage? : WorkerTask → Option (Job × JobState)
  | .received job => some (job, .leased)
  | .starting job => some (job, .leased)
  | .executing job => some (job, .running)
  | .handling job _ _ => some (job, .running)
  | _ => none

theorem WorkerTask.unsettled?_eq_some_iff_stage?
    {task : WorkerTask}
    {job : Job} :
    task.unsettled? = some job ↔
      ∃ state, task.stage? = some (job, state) := by
  cases task <;> simp [unsettled?, stage?]

theorem WorkerTask.stage?_eq_running_iff
    {task : WorkerTask}
    {job : Job} :
    task.stage? = some (job, .running) ↔
      task.executing? = some job := by
  cases task <;> simp [stage?, executing?]

theorem WorkerTask.stage?_eq_none_of_unsettled?
    {task : WorkerTask}
    (settled : task.unsettled? = none) :
    task.stage? = none := by
  cases task <;> simp_all [unsettled?, stage?]

theorem WorkerTask.stage?_states
    {task : WorkerTask}
    {job : Job}
    {expected : JobState}
    (stage : task.stage? = some (job, expected)) :
    expected = .leased ∨ expected = .running := by
  cases task <;> simp_all [stage?]

theorem WorkerTask.stage?_notifyWaiter
    (task : WorkerTask) :
    task.notifyWaiter.stage? = task.stage? := by
  cases task <;> rfl

/-- Where a copy is. -/
inductive Place (config : Config) where
  | hand
  | queue
  | worker (worker : Fin config.workerCount)
  deriving DecidableEq

namespace State

variable {config : Config} {slots : Nat}

/-- A copy at this place says that its row is in this state. -/
def Expects
    (state : State config slots)
    (place : Place config)
    (job : Job)
    (expected : JobState) : Prop :=
  match place with
  | .hand =>
      state.scheduler.position.hand? = some job ∧ expected = .leased
  | .queue => job ∈ state.channel ∧ expected = .leased
  | .worker worker =>
      (state.workers worker).stage? = some (job, expected)

/-- No copy of the job speaks for its row. -/
abbrev NoCopy (state : State config slots) (id : Uuid) : Prop :=
  Handoff.Free state.handId? state.queuedIds
    (state.heldId? WorkerTask.unsettled?) id

/-- Every copy that speaks for its row is the only one. -/
abbrev OneCopy (state : State config slots) : Prop :=
  Handoff.SingleCustody state.handId? state.queuedIds
    (state.heldId? WorkerTask.unsettled?)

variable {state : State config slots}

theorem expects_states
    {place : Place config}
    {job : Job}
    {expected : JobState}
    (expects : state.Expects place job expected) :
    expected = .leased ∨ expected = .running := by
  cases place with
  | hand | queue =>
      exact Or.inl expects.2
  | worker worker =>
      exact WorkerTask.stage?_states expects

theorem expects_of_worker
    {worker : Fin config.workerCount}
    {task : WorkerTask}
    {job : Job}
    {expected : JobState}
    (isTask : state.workers worker = task)
    (stage : task.stage? = some (job, expected)) :
    state.Expects (.worker worker) job expected := by
  subst isTask
  exact stage

theorem expects_of_hand
    {position : SchedulerPosition}
    {job : Job}
    (isPosition : state.scheduler.position = position)
    (held : position.hand? = some job) :
    state.Expects .hand job .leased := by
  subst isPosition
  exact ⟨held, rfl⟩

theorem held_of_expects
    {worker : Fin config.workerCount}
    {job : Job}
    {expected : JobState}
    (expects : state.Expects (.worker worker) job expected) :
    state.heldId? WorkerTask.unsettled? worker = some job.id :=
  Option.map_eq_some_iff.mpr
    ⟨job, WorkerTask.unsettled?_eq_some_iff_stage?.mpr
      ⟨expected, expects⟩, rfl⟩

theorem handId?_of_expects
    {job : Job}
    {expected : JobState}
    (expects : state.Expects .hand job expected) :
    state.handId? = some job.id :=
  Option.map_eq_some_iff.mpr ⟨job, expects.1, rfl⟩

theorem queued_of_expects
    {job : Job}
    {expected : JobState}
    (expects : state.Expects .queue job expected) :
    job.id ∈ state.queuedIds :=
  List.mem_map_of_mem expects.1

/-- A job without a copy is expected nowhere, and conversely. -/
theorem noCopy_iff
    {id : Uuid} :
    state.NoCopy id ↔
      ∀ place job expected,
        state.Expects place job expected → job.id ≠ id := by
  constructor
  · intro free place job expected expects
    rintro rfl
    cases place with
    | hand =>
        exact free.hand (handId?_of_expects expects)
    | queue =>
        exact free.queue (queued_of_expects expects)
    | worker worker =>
        exact free.holder worker (held_of_expects expects)
  · intro nowhere
    refine ⟨?_, ?_, ?_⟩
    · intro isHand
      obtain ⟨job, held, sameId⟩ := Option.map_eq_some_iff.mp isHand
      exact nowhere .hand job .leased ⟨held, rfl⟩ sameId
    · intro isQueued
      obtain ⟨job, member, sameId⟩ := List.mem_map.mp isQueued
      exact nowhere .queue job .leased ⟨member, rfl⟩ sameId
    · intro worker isHeld
      obtain ⟨job, held, sameId⟩ := Option.map_eq_some_iff.mp isHeld
      obtain ⟨expected, stage⟩ :=
        WorkerTask.unsettled?_eq_some_iff_stage?.mp held
      exact nowhere (.worker worker) job expected stage sameId

/-- Under single custody a job has one place. -/
theorem OneCopy.place_eq
    (custody : state.OneCopy)
    {first second : Place config}
    {firstJob secondJob : Job}
    {firstState secondState : JobState}
    (firstExpects : state.Expects first firstJob firstState)
    (secondExpects : state.Expects second secondJob secondState)
    (sameId : firstJob.id = secondJob.id) :
    first = second := by
  cases first with
  | hand =>
      have held := handId?_of_expects firstExpects
      cases second with
      | hand =>
          rfl
      | queue =>
          exact (custody.handNotQueued _ held
            (sameId ▸ queued_of_expects secondExpects)).elim
      | worker worker =>
          exact (custody.handNotHeld _ held worker
            (sameId ▸ held_of_expects secondExpects)).elim
  | queue =>
      have queued := queued_of_expects firstExpects
      cases second with
      | hand =>
          exact (custody.handNotQueued _
            (handId?_of_expects secondExpects) (sameId ▸ queued)).elim
      | queue =>
          rfl
      | worker worker =>
          exact (custody.queuedNotHeld _ queued worker
            (sameId ▸ held_of_expects secondExpects)).elim
  | worker worker =>
      have held := held_of_expects firstExpects
      cases second with
      | hand =>
          exact (custody.handNotHeld _
            (handId?_of_expects secondExpects) worker
            (sameId ▸ held)).elim
      | queue =>
          exact (custody.queuedNotHeld _
            (queued_of_expects secondExpects) worker
            (sameId ▸ held)).elim
      | worker other =>
          have otherHeld := held_of_expects secondExpects
          rw [← sameId] at otherHeld
          rw [custody.holderUnique worker other _ held otherHeld]

/-- A copy that speaks for its row is a copy. -/
theorem Grounded.copy_of_expects
    (grounded : state.Grounded)
    {place : Place config}
    {job : Job}
    {expected : JobState}
    (expects : state.Expects place job expected) :
    state.jobs.Copy job := by
  cases place with
  | hand =>
      exact grounded.scheduler.hand job expects.1
  | queue =>
      exact grounded.channel job expects.1
  | worker worker =>
      exact (grounded.workers worker).copy job
        (WorkerTask.job?_of_unsettled?
          (WorkerTask.unsettled?_eq_some_iff_stage?.mpr
            ⟨expected, expects⟩))

/-! ## One step earlier -/

/-- The step writes the row on behalf of the copy at this place. -/
def Writes
    (action : Action config slots)
    (place : Place config) : Prop :=
  (∃ worker,
      place = .worker worker ∧
        (action = .worker worker (.setRunning .ok) ∨
          action = .worker worker (.settle .ok))) ∨
    (place = .hand ∧ action = .scheduler (.returnJob .ok)) ∨
    action = .restart

/-- How a copy came to its place. -/
inductive Earlier
    (state after : State config slots)
    (action : Action config slots)
    (job : Job)
    (expected : JobState) : Prop where
  | held
      (source : Place config)
      (expects : state.Expects source job expected)
      (spared : ¬Writes action source)
  | leased
      (now : Time)
      (entry : ScheduledJob)
      (isLease : action = .scheduler (.lease entry .ok))
      (pops : SchedulerTask.Pops state.scheduler.heap now entry)
      (returned :
        state.jobs.returning
          (JobRepository.leaseJob state.clock entry.id
            config.leaseDurationSecs) = some job)
      (isLeased : expected = .leased)
      (jobs :
        after.jobs =
          state.jobs.update
            (JobRepository.leaseJob state.clock entry.id
              config.leaseDurationSecs))
  | begun
      (worker : Fin config.workerCount)
      (isBegin : action = .worker worker (.setRunning .ok))
      (starting : state.workers worker = .starting job)
      (isRunning : expected = .running)
      (jobs :
        after.jobs =
          state.jobs.update
            (JobRepository.setRunning state.clock job.id))

section Steps

variable {externals : Externals}
variable {after : State config slots}
variable {action : Action config slots}

variable (state action) in
/-- A step that touches none of the places leaves the copies there. -/
private theorem earlier_of_same
    {place : Place config}
    {job : Job}
    {expected : JobState}
    (expects : after.Expects place job expected)
    (samePosition : after.scheduler.position = state.scheduler.position)
    (channel : after.channel ⊆ state.channel)
    (sameWorkers :
      ∀ worker,
        (after.workers worker).stage? = (state.workers worker).stage?)
    (silent : ∀ place, ¬Writes action place) :
    state.Earlier after action job expected := by
  refine .held place ?_ (silent place)
  cases place with
  | hand =>
      exact ⟨samePosition ▸ expects.1, expects.2⟩
  | queue =>
      exact ⟨channel expects.1, expects.2⟩
  | worker worker =>
      exact (sameWorkers worker).symm.trans expects

private theorem earlier_scheduler
    {schedulerAction : SchedulerAction}
    {shared : Shared}
    {task : SchedulerTask}
    {channelClosed : Bool}
    (moved :
      SchedulerTask.Move config channelClosed state.toShared
        state.scheduler.heap state.scheduler.position schedulerAction
        shared task)
    {place : Place config}
    {job : Job}
    {expected : JobState}
    (expects :
      Expects { state with toShared := shared, scheduler := task }
        place job expected) :
    state.Earlier { state with toShared := shared, scheduler := task }
      (.scheduler schedulerAction) job expected := by
  cases place with
  | worker worker =>
      exact .held (.worker worker) expects (by simp [Writes])
  | queue =>
      by_cases isSend : schedulerAction = .trySend
      · subst schedulerAction
        generalize position : state.scheduler.position = current at moved
        cases moved with
        | sendClosed | sendFull =>
            exact .held .queue expects (by simp [Writes])
        | send now sent =>
            rcases List.mem_append.mp expects.1 with queued | isSent
            · exact .held .queue ⟨queued, expects.2⟩ (by simp [Writes])
            · obtain rfl := List.mem_singleton.mp isSent
              rw [expects.2]
              exact .held .hand (expects_of_hand position rfl)
                (by simp [Writes])
      · refine .held .queue ⟨?_, expects.2⟩ (by simp [Writes])
        have queued := expects.1
        rwa [moved.channel_eq isSend] at queued
  | hand =>
      obtain ⟨held, isLeased⟩ := expects
      generalize position : state.scheduler.position = current at moved
      cases moved with
      | lease now entry leased pops returned =>
          obtain rfl := Option.some.inj held
          exact .leased now entry rfl pops returned isLeased rfl
      | sendFull now sent =>
          rw [isLeased]
          exact .held .hand (expects_of_hand position held)
            (by simp [Writes])
      | _ =>
          cases held

private theorem earlier_worker
    {worker : Fin config.workerCount}
    {workerAction : WorkerAction}
    {shared : Shared}
    {task : WorkerTask}
    (moved :
      (state.workers worker).Move config externals state.toShared
        workerAction shared task)
    {place : Place config}
    {job : Job}
    {expected : JobState}
    (expects : after.Expects place job expected)
    (sameScheduler : after.scheduler = state.scheduler)
    (channel : after.channel ⊆ shared.channel)
    (sameJobs : after.jobs = shared.jobs)
    (sameWorkers :
      after.workers = Function.update state.workers worker task) :
    state.Earlier after (.worker worker workerAction) job expected := by
  cases place with
  | hand =>
      exact .held .hand ⟨sameScheduler ▸ expects.1, expects.2⟩
        (by simp [Writes])
  | queue =>
      exact .held .queue
        ⟨moved.channel_subset (channel expects.1), expects.2⟩
        (by simp [Writes])
  | worker other =>
      change (after.workers other).stage? = some (job, expected) at expects
      rw [sameWorkers] at expects
      rcases eq_or_ne other worker with rfl | different
      · simp only [Function.update_self] at expects
        generalize before : state.workers other = current at moved
        cases moved with
        | receive notified first rest queued =>
            cases expects
            refine .held .queue ⟨?_, rfl⟩ (by simp [Writes])
            rw [queued]
            exact List.mem_cons_self
        | activate | execute =>
            exact .held _ (expects_of_worker before expects)
              (by simp [Writes])
        | begin first =>
            cases expects
            exact .begun other rfl before rfl sameJobs
        | settle | spawn | emit | post =>
            rw [WorkerTask.stage?_eq_none_of_unsettled? (by simp)]
              at expects
            cases expects
        | _ =>
            cases expects
      · rw [Function.update_of_ne different] at expects
        refine .held (.worker other) expects ?_
        simp [Writes, different.symm]

/-- A copy after a step was somewhere before it, or the step made it. -/
theorem earlier_of_step?
    (taken : step? externals state action = some after)
    {place : Place config}
    {job : Job}
    {expected : JobState}
    (expects : after.Expects place job expected) :
    state.Earlier after action job expected := by
  cases move_of_step? taken with
  | tick elapsed =>
      exact earlier_of_same state (.tick elapsed) expects rfl
        (List.Subset.refl _) (fun _ => rfl) (by simp [Writes])
  | scheduler action shared task moved =>
      exact earlier_scheduler moved expects
  | worker worker action shared task moved =>
      exact earlier_worker moved expects (dropClosed_scheduler _)
        (dropClosed_channel_subset _) (dropClosed_jobs _)
        (dropClosed_workers _)
  | reaper action shared task moved =>
      refine earlier_of_same state (.reaper action) expects rfl ?_
        (fun _ => rfl) (by simp [Writes])
      intro job member
      rwa [← moved.channel_eq]
  | api slot action shared task moved =>
      refine earlier_of_same state (.api slot action) expects rfl ?_
        (fun _ => rfl) (by simp [Writes])
      intro job member
      rwa [← moved.channel_eq]
  | shutdown =>
      exact earlier_of_same state .shutdown expects rfl
        (List.Subset.refl _)
        (fun worker => (state.workers worker).stage?_notifyWaiter)
        (by simp [Writes])
  | restart =>
      cases place with
      | hand =>
          cases expects.1
      | queue =>
          cases expects.1
      | worker worker =>
          cases expects

/-- Single custody lasts as long as a job is leased only without a copy. -/
theorem OneCopy.step
    (custody : state.OneCopy)
    (leasesFree :
      ∀ entry job,
        action = .scheduler (.lease entry .ok) →
        state.jobs.returning
            (JobRepository.leaseJob state.clock entry.id
              config.leaseDurationSecs) = some job →
        state.NoCopy job.id)
    (taken : step? externals state action = some after) :
    after.OneCopy := by
  cases move_of_step? taken with
  | tick elapsed =>
      exact custody
  | scheduler action shared task moved =>
      generalize position : state.scheduler.position = current at moved
      unfold OneCopy handId? at custody
      rw [position] at custody
      cases moved with
      | lease now entry job pops leased =>
          exact custody.release.take
            ⟨by simp, (leasesFree entry job rfl leased).queue,
              (leasesFree entry job rfl leased).holder⟩
      | send now job isOpen room =>
          have sent := custody.push
          rw [queuedIds, ← List.map_singleton, ← List.map_append] at sent
          exact sent
      | sendFull =>
          exact custody
      | _ =>
          exact custody.release
  | worker worker action shared task moved =>
      unfold OneCopy handId?
      rw [dropClosed_scheduler]
      apply custody_dropClosed
      exact custody_worker WorkerTask.tracks_unsettled? custody moved rfl
        rfl
  | reaper action shared task moved =>
      change Handoff.SingleCustody _ (shared.channel.map Job.id) _
      rw [moved.channel_eq]
      exact custody
  | api slot action shared task moved =>
      change Handoff.SingleCustody _ (shared.channel.map Job.id) _
      rw [moved.channel_eq]
      exact custody
  | shutdown =>
      unfold OneCopy
      rw [heldId?_notifyWaiter WorkerTask.tracks_unsettled?.notifyWaiter_eq rfl]
      exact custody
  | restart =>
      exact Handoff.SingleCustody.empty fun _ => rfl

end Steps

end State

end Kronkeeper
