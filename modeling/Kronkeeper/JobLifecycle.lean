import Mathlib.Logic.Relation
import Kronkeeper.CopyPlaces
import Kronkeeper.TemplateRows

namespace Kronkeeper

/-!
# The job state machine

The machine drawn in the README, and when the daemon follows it.  Most
statements that write the state are guarded by its old value; `set_running`,
the writes of `handle` and the two writes to a template are not.  They follow
the machine as long as no lease is reaped under a waiting copy, no completed
template is cancelled and no cancelled template is completed.
-/

namespace JobState

/-- The edges of the machine for every job. -/
def edges : List (JobState × JobState) :=
  [ (.scheduled, .leased),
    (.scheduled, .cancelled),
    (.leased, .running),
    (.leased, .scheduled),
    (.running, .completed),
    (.running, .scheduled),
    (.running, .expired),
    (.running, .deadLetter) ]

/-- A change of state the machine draws; templates have one more edge. -/
def Transition (isTemplate : Bool) (old new : JobState) : Prop :=
  (old, new) ∈ edges ∨
    (isTemplate = true ∧ (old, new) = (.scheduled, .completed))

instance (isTemplate : Bool) (old new : JobState) :
    Decidable (Transition isTemplate old new) :=
  inferInstanceAs (Decidable (_ ∨ _))

/-- No edge leaves a terminal state. -/
theorem not_transition_of_isTerminal
    {isTemplate : Bool}
    {old new : JobState}
    (terminal : old.isTerminal = true) :
    ¬Transition isTemplate old new := by
  cases old <;> simp_all [isTerminal, Transition, edges]

/-- A path of the machine from a terminal state has not moved. -/
theorem eq_of_path_of_isTerminal
    {isTemplate : Bool}
    {old new : JobState}
    (path : Relation.ReflTransGen (Transition isTemplate) old new)
    (terminal : old.isTerminal = true) :
    new = old := by
  induction path using Relation.ReflTransGen.head_induction_on with
  | refl =>
      rfl
  | head edge _ _ =>
      exact (not_transition_of_isTerminal terminal edge).elim

end JobState

/-- The step runs `reap_expired_leases`. -/
def Action.reaps
    {config : Config}
    {slots : Nat} : Action config slots → Bool
  | .reaper (.reap .ok) => true
  | _ => false

namespace State

variable {config : Config} {slots : Nat}

/-- Every row changed state along an edge of the machine, or not at all. -/
def FollowsLifecycle (before after : State config slots) : Prop :=
  ∀ old ∈ before.jobs.rows,
    ∀ new ∈ after.jobs.rows,
      new.id = old.id →
      new.state = old.state ∨
        JobState.Transition old.isTemplate old.state new.state

instance (before after : State config slots) :
    Decidable (FollowsLifecycle before after) :=
  inferInstanceAs (Decidable (∀ _ ∈ _, _))

/-- No copy of the job waits for a worker's `set_running`. -/
abbrev NoneWaiting (state : State config slots) (id : Uuid) : Prop :=
  Handoff.Free state.handId? state.queuedIds
    (state.heldId? WorkerTask.pending?) id

/-- No lease is reaped while a copy of its job waits for a worker. -/
def ReapsUnwaited
    (state : State config slots)
    (action : Action config slots) : Prop :=
  action.reaps = true →
    state.reaper = .ticking →
    ∀ row ∈ state.jobs.rows,
      (JobRepository.reapExpiredLeases state.clock).applies row = true →
      state.NoneWaiting row.id

instance
    (state : State config slots)
    (action : Action config slots) :
    Decidable (state.ReapsUnwaited action) :=
  inferInstanceAs (Decidable (_ → _ → _))

/-- The steps after which the daemon still follows the machine. -/
def KeepsLifecycle
    (state : State config slots)
    (action : Action config slots) : Prop :=
  state.ReapsUnwaited action ∧
    (∀ id ∈ state.cancelledTemplate? action,
      ∀ row ∈ state.jobs.rows, row.id = id → row.state ≠ .completed) ∧
    ∀ id ∈ state.completedTemplate? action,
      ∀ row ∈ state.jobs.rows, row.id = id → row.state ≠ .cancelled

instance
    (state : State config slots)
    (action : Action config slots) :
    Decidable (state.KeepsLifecycle action) :=
  have cancels := (state.cancelledTemplate? action).decidableForallMem
  have completes := (state.completedTemplate? action).decidableForallMem
  @instDecidableAnd _ _ inferInstance
    (@instDecidableAnd _ _ cancels completes)

/-- Every row is in the state its one copy stands for. -/
structure InStep (state : State config slots) : Prop where
  grounded : state.Grounded
  templates : state.TemplateRows
  oneCopy : state.OneCopy
  expected :
    ∀ place job expected,
      state.Expects place job expected →
      ∀ row ∈ state.jobs.rows, row.id = job.id → row.state = expected

theorem inStep_initial
    (clock : Time) :
    (initial config slots clock).InStep where
  grounded := grounded_booted clock RecordTable.empty
  templates := templates_initial clock
  oneCopy := Handoff.SingleCustody.empty fun _ => rfl
  expected := fun _ _ _ _ _ member => by cases member

section Steps

variable {externals : Externals}
variable {state after : State config slots}
variable {action : Action config slots}

/-- A scheduled row has no copy. -/
theorem InStep.noCopy
    (inStep : state.InStep)
    {row : Job}
    (member : row ∈ state.jobs.rows)
    (scheduled : row.state = .scheduled) :
    state.NoCopy row.id := by
  rw [noCopy_iff]
  intro place job expected expects sameId
  have agrees :=
    inStep.expected place job expected expects row member sameId.symm
  rw [scheduled] at agrees
  subst expected
  rcases expects_states expects with isLeased | isRunning
  · cases isLeased
  · cases isRunning

/-- A leased row has no executing copy, so any copy of it waits. -/
theorem InStep.noCopy_of_noneWaiting
    (inStep : state.InStep)
    {row : Job}
    (member : row ∈ state.jobs.rows)
    (leased : row.state = .leased)
    (idle : state.NoneWaiting row.id) :
    state.NoCopy row.id := by
  refine ⟨idle.hand, idle.queue, ?_⟩
  intro worker held
  obtain ⟨job, unsettled, sameId⟩ := Option.map_eq_some_iff.mp held
  rcases WorkerTask.unsettled?_eq_some_iff.mp unsettled with
    pending | executing
  · exact idle.holder worker
      (Option.map_eq_some_iff.mpr ⟨job, pending, sameId⟩)
  · have expects : state.Expects (.worker worker) job .running :=
      expects_of_worker rfl
        (WorkerTask.stage?_eq_running_iff.mpr executing)
    have agrees :=
      inStep.expected _ job .running expects row member sameId.symm
    rw [leased] at agrees
    cases agrees

/-- No statement writes a row behind the back of its copy. -/
theorem InStep.undisturbed
    (inStep : state.InStep)
    (unwaited : state.ReapsUnwaited action)
    {place : Place config}
    {job : Job}
    {expected : JobState}
    (expects : state.Expects place job expected)
    (spared : ¬Writes action place)
    {row : Job}
    (member : row ∈ state.jobs.rows)
    (sameId : row.id = job.id)
    {new : JobState} :
    ¬state.StateChange row action new := by
  intro change
  have agrees :=
    inStep.expected place job expected expects row member sameId
  have notScheduled : row.state ≠ .scheduled := by
    intro scheduled
    exact noCopy_iff.mp (inStep.noCopy member scheduled) place job expected
      expects sameId.symm
  have notTemplate : row.isTemplate = false :=
    (inStep.grounded.copy_of_expects expects).row_isTemplate member sameId
  -- A copy elsewhere that writes the row would be a second one.
  have ownWrite :
      ∀ {other : Place config} {otherJob : Job} {otherState : JobState},
        state.Expects other otherJob otherState →
        row.id = otherJob.id →
        Writes action other →
        False := by
    intro other otherJob otherState otherExpects otherId writes
    have samePlace :=
      inStep.oneCopy.place_eq otherExpects expects
        (otherId.symm.trans sameId)
    exact spared (samePlace ▸ writes)
  cases change with
  | lease now entry dispatching pops entryId scheduled =>
      exact notScheduled scheduled
  | begin worker other starting otherId =>
      exact ownWrite (expects_of_worker starting rfl) otherId
        (Or.inl ⟨worker, rfl, Or.inl rfl⟩)
  | settle worker other result now disposition handling _ otherId =>
      exact ownWrite (expects_of_worker handling rfl) otherId
        (Or.inl ⟨worker, rfl, Or.inr rfl⟩)
  | giveBack other returning otherId =>
      exact ownWrite (expects_of_hand returning rfl) otherId
        (Or.inr (Or.inl ⟨rfl, rfl⟩))
  | reap ticking leased expired =>
      have applies :
          (JobRepository.reapExpiredLeases state.clock).applies row =
            true := by
        simp [JobRepository.reapExpiredLeases, leased, expired]
      have free :=
        inStep.noCopy_of_noneWaiting member leased
          (unwaited rfl ticking row member applies)
      exact noCopy_iff.mp free place job expected expects sameId.symm
  | recover =>
      exact spared (Or.inr (Or.inr rfl))
  | cancelJob slot clientId cancelling scheduled =>
      exact notScheduled scheduled
  | cancelTemplate slot clientId cancelling isTemplate =>
      rw [notTemplate] at isTemplate
      cases isTemplate
  | cancelInstances slot clientId id templates _ _ scheduled =>
      exact notScheduled scheduled
  | completeTemplate worker other template spawning templateId =>
      have read :=
        (inStep.grounded.workers worker).template template (by
          rw [spawning]
          rfl)
      have isTemplate := read.row_isTemplate member templateId
      rw [notTemplate] at isTemplate
      cases isTemplate

/-- Every permitted step keeps rows and copies in step. -/
theorem InStep.step
    (inStep : state.InStep)
    (unwaited : state.ReapsUnwaited action)
    (taken : step? externals state action = some after) :
    after.InStep where
  grounded := inStep.grounded.step taken
  templates := inStep.templates.step inStep.grounded taken
  oneCopy := by
    refine inStep.oneCopy.step ?_ taken
    intro entry job _ returned
    obtain ⟨old, oldMember, applies, rfl⟩ :=
      RecordTable.returning_eq_some returned
    simp only [JobRepository.leaseJob, Bool.and_eq_true,
      beq_iff_eq] at applies
    have free := inStep.noCopy oldMember applies.2
    exact free
  expected := by
    intro place job expected expects row member sameId
    cases earlier_of_step? taken expects with
    | held source before spared =>
        obtain ⟨old, oldMember, identity⟩ :=
          (inStep.grounded.copy_of_expects before).known
        have oldId := Job.id_eq_of_identity identity
        rcases stateChange_of_step? taken oldMember member
            (sameId.trans oldId.symm) with schedule | change
        · exact schedule.state.trans
            (inStep.expected source job expected before old oldMember
              oldId)
        · exact (inStep.undisturbed unwaited before spared oldMember
            oldId change).elim
    | leased now entry isLease pops returned isLeased jobs =>
        obtain ⟨old, oldMember, applies, rfl⟩ :=
          RecordTable.returning_eq_some returned
        rw [jobs] at member
        rw [RecordTable.image_of_mem_update oldMember member sameId,
          RowUpdate.image_of_applies applies, isLeased]
        rfl
    | begun worker isBegin starting isRunning jobs =>
        rw [jobs] at member
        obtain ⟨old, oldMember, rfl⟩ := RecordTable.mem_update.mp member
        rw [Job.id_eq_of_identity
          ((JobRepository.setRunning state.clock job.id).identity_image
            old)] at sameId
        have applies :
            (JobRepository.setRunning state.clock job.id).applies old =
              true := by
          simp [JobRepository.setRunning, sameId]
        rw [RowUpdate.image_of_applies applies, isRunning]
        rfl

/--
A row changes state along an edge, unless it is a template whose two ends are
crossed.
-/
theorem InStep.row_follows
    (inStep : state.InStep)
    (taken : step? externals state action = some after)
    {old new : Job}
    (oldMember : old ∈ state.jobs.rows)
    (newMember : new ∈ after.jobs.rows)
    (sameId : new.id = old.id)
    (notCrossed :
      old.isTemplate = true →
      (old.id ∈ state.cancelledTemplate? action →
          old.state ≠ .completed) ∧
        (old.id ∈ state.completedTemplate? action →
          old.state ≠ .cancelled)) :
    new.state = old.state ∨
      JobState.Transition old.isTemplate old.state new.state := by
  rcases stateChange_of_step? taken oldMember newMember sameId with
    schedule | change
  · exact Or.inl schedule.state
  generalize new.state = written at change ⊢
  cases change with
  | lease now entry dispatching pops entryId scheduled =>
      right
      simp [JobState.Transition, JobState.edges, scheduled]
  | begin worker job starting jobId =>
      right
      have leased :=
        inStep.expected _ job .leased (expects_of_worker starting rfl) old
          oldMember jobId
      simp [JobState.Transition, JobState.edges, leased]
  | settle worker job result now disposition handling _ jobId =>
      right
      have running :=
        inStep.expected _ job .running (expects_of_worker handling rfl) old
          oldMember jobId
      cases disposition <;>
        simp [JobState.Transition, JobState.edges, running,
          Disposition.state]
  | giveBack job returning jobId =>
      right
      have leased :=
        inStep.expected _ job .leased (expects_of_hand returning rfl) old
          oldMember jobId
      simp [JobState.Transition, JobState.edges, leased]
  | reap ticking leased =>
      right
      simp [JobState.Transition, JobState.edges, leased]
  | recover orphaned =>
      right
      rcases orphaned with leased | running
      · simp [JobState.Transition, JobState.edges, leased]
      · simp [JobState.Transition, JobState.edges, running]
  | cancelJob slot clientId cancelling scheduled =>
      right
      simp [JobState.Transition, JobState.edges, scheduled]
  | cancelTemplate slot clientId cancelling isTemplate =>
      rcases (inStep.templates old oldMember isTemplate).state with
        scheduled | completed | cancelled
      · right
        simp [JobState.Transition, JobState.edges, scheduled]
      · exact ((notCrossed isTemplate).1 (cancelledTemplate?_eq cancelling)
          completed).elim
      · exact Or.inl cancelled.symm
  | cancelInstances slot clientId id templates _ _ scheduled =>
      right
      simp [JobState.Transition, JobState.edges, scheduled]
  | completeTemplate worker job template spawning templateId =>
      have read :=
        (inStep.grounded.workers worker).template template (by
          rw [spawning]
          rfl)
      have isTemplate := read.row_isTemplate oldMember templateId
      rcases (inStep.templates old oldMember isTemplate).state with
        scheduled | completed | cancelled
      · right
        simp [JobState.Transition, isTemplate, scheduled]
      · exact Or.inl completed.symm
      · have isCompleted := completedTemplate?_eq spawning
        rw [← templateId] at isCompleted
        exact ((notCrossed isTemplate).2 isCompleted cancelled).elim

/-- Every change a permitted step makes is drawn in the machine. -/
theorem InStep.followsLifecycle
    (inStep : state.InStep)
    (permitted : state.KeepsLifecycle action)
    (taken : step? externals state action = some after) :
    FollowsLifecycle state after := by
  intro old oldMember new newMember sameId
  exact inStep.row_follows taken oldMember newMember sameId fun _ =>
    ⟨fun isCancelled =>
        permitted.2.1 old.id isCancelled old oldMember rfl,
      fun isCompleted =>
        permitted.2.2 old.id isCompleted old oldMember rfl⟩

/-- A row of the first state moved along a path of the machine. -/
def RowsFollowPaths (before after : State config slots) : Prop :=
  ∀ old ∈ before.jobs.rows,
    ∃ new ∈ after.jobs.rows,
      new.identity = old.identity ∧
        Relation.ReflTransGen (JobState.Transition old.isTemplate)
          old.state new.state

theorem RowsFollowPaths.refl
    (state : State config slots) :
    RowsFollowPaths state state :=
  fun row member => ⟨row, member, rfl, .refl⟩

theorem RowsFollowPaths.trans
    {first second third : State config slots}
    (earlier : RowsFollowPaths first second)
    (later : RowsFollowPaths second third) :
    RowsFollowPaths first third := by
  intro row member
  obtain ⟨middle, middleMember, middleSame, leading⟩ := earlier row member
  obtain ⟨last, lastMember, lastSame, trailing⟩ :=
    later middle middleMember
  rw [Job.isTemplate_eq_of_identity middleSame] at trailing
  exact ⟨last, lastMember, lastSame.trans middleSame,
    leading.trans trailing⟩

/-- One permitted step is a path of at most one edge. -/
theorem InStep.rowsFollowPaths
    (inStep : state.InStep)
    (permitted : state.KeepsLifecycle action)
    (taken : step? externals state action = some after) :
    RowsFollowPaths state after := by
  intro old oldMember
  obtain ⟨new, newMember, same⟩ := extends_of_step? taken old oldMember
  refine ⟨new, newMember, same, ?_⟩
  rcases inStep.followsLifecycle permitted taken old oldMember new
      newMember (Job.id_eq_of_identity same) with unchanged | edge
  · rw [unchanged]
  · exact .single edge

end Steps

/-- Every state of a permitted run is in step. -/
theorem inStep_of_run
    {externals : Externals}
    {clock : Time}
    {actions : List (Action config slots)}
    {final : State config slots}
    (run :
      Run externals KeepsLifecycle (initial config slots clock) actions
        final) :
    final.InStep :=
  run.invariant
    (fun inStep permitted taken => inStep.step permitted.1 taken)
    (inStep_initial clock)

/--
In a run that reaps no lease under a waiting copy and crosses no end of a
template with the other, every step follows the machine, every row is on a path
of it, and a terminal state is final.
-/
theorem rows_follow_lifecycle
    {externals : Externals}
    {clock : Time}
    {earlier later : List (Action config slots)}
    {middle final : State config slots}
    (reached :
      Run externals KeepsLifecycle (initial config slots clock) earlier
        middle)
    (continued : Run externals KeepsLifecycle middle later final) :
    (∀ action after,
        middle.KeepsLifecycle action →
        step? externals middle action = some after →
        FollowsLifecycle middle after) ∧
      RowsFollowPaths middle final ∧
      ∀ old ∈ middle.jobs.rows,
        old.state.isTerminal = true →
        ∀ new ∈ final.jobs.rows,
          new.id = old.id → new.state = old.state := by
  have inStep := inStep_of_run reached
  have paths : RowsFollowPaths middle final :=
    continued.related RowsFollowPaths.refl RowsFollowPaths.trans
      (fun inStep permitted taken =>
        ⟨inStep.step permitted.1 taken,
          inStep.rowsFollowPaths permitted taken⟩)
      inStep
  refine ⟨?_, paths, ?_⟩
  · intro action after permitted taken
    exact inStep.followsLifecycle permitted taken
  · intro old oldMember terminal new newMember sameId
    obtain ⟨last, lastMember, same, path⟩ := paths old oldMember
    have lastId := Job.id_eq_of_identity same
    rw [RecordTable.eq_of_primary newMember lastMember
      (sameId.trans lastId.symm)]
    exact JobState.eq_of_path_of_isTerminal path terminal

end State

/-! ## Concrete runs -/

namespace Sample

/-- The script succeeds and the handler records it. -/
def complete (worker : Fin config.workerCount) : List (Action config 1) :=
  [ .worker worker (.execute succeeds),
    .worker worker (.settle .ok) ]

/-- A job that is dispatched once completes and stays completed. -/
theorem completed_job_stays_completed :
    ∃ middle final,
      State.Run externals State.KeepsLifecycle (State.initial config 1 0)
          (createAndSend ++ begin 0 ++ complete 0) middle ∧
        State.Run externals State.KeepsLifecycle middle
          [.tick 31000000, .reaper (.reap .ok), .restart] final ∧
        middle.jobs.rows.map Job.state = [.completed] ∧
        State.RowsFollowPaths middle final ∧
        ∀ old ∈ middle.jobs.rows,
          old.state.isTerminal = true →
          ∀ new ∈ final.jobs.rows,
            new.id = old.id → new.state = old.state := by
  obtain ⟨middle, final, reached, continued, completed⟩ :=
    TransitionSystem.exists_runs_of_replay?
      (State.step? externals) State.KeepsLifecycle
      (State.initial config 1 0)
      (createAndSend ++ begin 0 ++ complete 0)
      [.tick 31000000, .reaper (.reap .ok), .restart]
      (fun middle _ => middle.jobs.rows.map Job.state = [.completed])
      (by decide)
  exact ⟨middle, final, reached, continued, completed,
    (State.rows_follow_lifecycle reached continued).2⟩

/-- The reaped copy is still in the channel when a worker takes it. -/
def reapAndReceive : List (Action config 1) :=
  [ .tick 31000000,
    .reaper (.reap .ok),
    .worker 0 .recv,
    .worker 0 .activate ]

/-- `set_running` takes a reaped row from scheduled to running. -/
theorem reaped_row_set_running :
    ∃ before after,
      State.Run externals TransitionSystem.Unrestricted
          (State.initial config 1 0)
          (createAndSend ++ reapAndReceive) before ∧
        State.Run externals TransitionSystem.Unrestricted before
          [.worker 0 (.setRunning .ok)] after ∧
        ¬State.FollowsLifecycle before after :=
  TransitionSystem.exists_runs_of_replay?
    (State.step? externals) TransitionSystem.Unrestricted
    (State.initial config 1 0) (createAndSend ++ reapAndReceive)
    [.worker 0 (.setRunning .ok)]
    (fun before after => ¬State.FollowsLifecycle before after)
    (by decide)

end Sample

end Kronkeeper
