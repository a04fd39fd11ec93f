import Kronkeeper.CopyPlaces
import Kronkeeper.TemplateRows

namespace Kronkeeper

/-!
# Cancelling a single job

`cancel_job` looks at the state of the row alone.  A cancelled row that has no
copy anywhere is out of everybody's reach and stays as it is.  A row that was
reaped while its copy still waited can be cancelled too, and then the copy
brings it back.
-/

namespace RequestTask

/-- The id of a cancel that has succeeded, up to its answer and beyond. -/
def cancelled? : RequestTask → Option Uuid
  | .cancelling _ id .notify => some id
  | .answered (.cancelJob _ id) .noContent => some id
  | _ => none

/-- A cancel succeeds by the write of a job or of a template's instances. -/
theorem Move.cancelled?_cases
    {externals : Externals}
    {shared after : Shared}
    {task next : RequestTask}
    {action : RequestAction}
    (moved : task.Move externals shared action after next)
    {id : Uuid}
    (cancelled : next.cancelled? = some id) :
    task.cancelled? = some id ∨
      (∃ clientId,
        task = .cancelling clientId id .cancelJob ∧
          action = .call .ok ∧
          0 < shared.jobs.affected
            (JobRepository.cancelJob shared.clock id clientId) ∧
          after =
            shared.update
              (JobRepository.cancelJob shared.clock id clientId)) ∨
        ∃ clientId templates,
          task = .cancelling clientId id (.cancelInstances templates) ∧
            action = .call .ok ∧
            after =
              shared.update
                (JobRepository.cancelInstances shared.clock id) := by
  cases moved with
  | arrive request =>
      cases request <;> simp only [start] at cancelled <;>
        try cases cancelled
      all_goals split at cancelled <;> cases cancelled
  | create clientId req position action after next created =>
      cases created with
      | plan missing =>
          unfold planCreate at cancelled
          repeat' split at cancelled
          all_goals cases cancelled
      | _ =>
          cases cancelled
  | cancel clientId target position action after next cancels =>
      cases cancels with
      | read =>
          unfold planCancel at cancelled
          repeat' split at cancelled
          all_goals cases cancelled
      | cancelJob affected =>
          cases cancelled
          exact Or.inr (Or.inl ⟨clientId, rfl, rfl, affected, rfl⟩)
      | cancelInstances templates =>
          cases cancelled
          exact Or.inr (Or.inr ⟨clientId, templates, rfl, rfl, rfl⟩)
      | announce =>
          cases cancelled
          exact Or.inl rfl
      | _ =>
          cases cancelled
  | _ =>
      cases cancelled

end RequestTask

namespace State

variable {config : Config} {slots : Nat}

/-- A worker starts to execute the job in this step. -/
def BeginsExecuting
    (state : State config slots)
    (action : Action config slots)
    (id : Uuid) : Prop :=
  ∃ worker job,
    state.workers worker = .starting job ∧
      job.id = id ∧
      action = .worker worker (.setRunning .ok)

/-- The client and the job of the single cancel that a step writes. -/
def singleCancel?
    (state : State config slots) :
    Action config slots → Option (Uuid × Uuid)
  | .api slot (.call .ok) =>
      match state.requests slot with
      | .cancelling clientId id .cancelJob => some (clientId, id)
      | _ => none
  | _ => none

/-- The write of a single cancel finds its row without a copy. -/
def CancelsUnclaimed
    (state : State config slots)
    (action : Action config slots) : Prop :=
  ∀ cancel ∈ state.singleCancel? action,
    0 < state.jobs.affected
        (JobRepository.cancelJob state.clock cancel.2 cancel.1) →
    state.NoCopy cancel.2

instance
    (state : State config slots)
    (action : Action config slots) :
    Decidable (state.CancelsUnclaimed action) :=
  (state.singleCancel? action).decidableForallMem

/-- The job is no template, cancelled and out of everybody's reach. -/
structure Dead (state : State config slots) (id : Uuid) : Prop where
  inert : state.Inert id
  cancelled :
    ∀ row ∈ state.jobs.rows,
      row.id = id → row.state = .cancelled ∧ row.isTemplate = false

section Steps

variable {externals : Externals}
variable {state after : State config slots}
variable {action : Action config slots}

/-- Whatever happens next, a dead job stays dead. -/
theorem Dead.step
    {id : Uuid}
    (dead : state.Dead id)
    (grounded : state.Grounded)
    (taken : step? externals state action = some after) :
    after.Dead id where
  inert := dead.inert.step taken
  cancelled := by
    obtain ⟨old, oldMember, oldId⟩ := dead.inert.exists_row
    obtain ⟨cancelled, notTemplate⟩ := dead.cancelled old oldMember oldId
    intro row member sameId
    have kind : row.isTemplate = false := by
      obtain ⟨new, newMember, identity⟩ :=
        extends_of_step? taken old oldMember
      have newId := (Job.id_eq_of_identity identity).trans oldId
      rw [RecordTable.eq_of_primary member newMember
        (sameId.trans newId.symm)]
      exact (Job.isTemplate_eq_of_identity identity).trans notTemplate
    refine ⟨?_, kind⟩
    rcases stateChange_of_step? taken oldMember member
        (sameId.trans oldId.symm) with schedule | change
    · exact schedule.state.trans cancelled
    · rcases dead.inert.stateChange oldMember oldId change with
        isCancelled | ⟨_, worker, job, template, spawning, templateId⟩
      · exact isCancelled
      · have read :=
          (grounded.workers worker).template template (by
            rw [spawning]
            rfl)
        rw [read.row_isTemplate oldMember templateId] at notTemplate
        cases notTemplate

/-- A dead job is dead at the end of every run. -/
theorem Dead.run
    {allowed : State config slots → Action config slots → Prop}
    {actions : List (Action config slots)}
    {final : State config slots}
    {id : Uuid}
    (dead : state.Dead id)
    (grounded : state.Grounded)
    (run : Run externals allowed state actions final) :
    final.Dead id := by
  induction run with
  | nil =>
      exact dead
  | cons _ taken _ inductionHypothesis =>
      exact inductionHypothesis (dead.step grounded taken)
        (grounded.step taken)

/-- A dead job is not started. -/
theorem Dead.not_beginsExecuting
    {id : Uuid}
    (dead : state.Dead id) :
    ¬state.BeginsExecuting action id := by
  rintro ⟨worker, job, starting, sameId, _⟩
  exact noCopy_iff.mp dead.inert.noCopy _ job _
    (expects_of_worker starting rfl) sameId

/-- Every job whose cancel has succeeded is a template or dead. -/
structure CancelsHold (state : State config slots) : Prop where
  grounded : state.Grounded
  holds :
    ∀ slot id,
      (state.requests slot).cancelled? = some id →
      (∃ row ∈ state.jobs.rows,
          row.id = id ∧ row.isTemplate = true) ∨
        state.Dead id

/-- A job found cancelled or a template is so after every step. -/
private theorem cancelsHold_stable
    (grounded : state.Grounded)
    (taken : step? externals state action = some after)
    {id : Uuid}
    (holds :
      (∃ row ∈ state.jobs.rows,
          row.id = id ∧ row.isTemplate = true) ∨
        state.Dead id) :
    (∃ row ∈ after.jobs.rows,
        row.id = id ∧ row.isTemplate = true) ∨
      after.Dead id := by
  rcases holds with ⟨row, member, sameId, isTemplate⟩ | dead
  · obtain ⟨new, newMember, identity⟩ :=
      extends_of_step? taken row member
    exact Or.inl ⟨new, newMember,
      (Job.id_eq_of_identity identity).trans sameId,
      (Job.isTemplate_eq_of_identity identity).trans isTemplate⟩
  · exact Or.inr (dead.step grounded taken)

/-- The write of a single cancel kills a job without copies. -/
private theorem dead_of_cancelJob
    (grounded : state.Grounded)
    {slot : Fin slots}
    {clientId id : Uuid}
    {task : RequestTask}
    (cancelling :
      state.requests slot = .cancelling clientId id .cancelJob)
    (affected :
      0 < state.jobs.affected
        (JobRepository.cancelJob state.clock id clientId))
    (noCopy : state.NoCopy id) :
    Dead
      { state with
        toShared :=
          state.update (JobRepository.cancelJob state.clock id clientId)
        requests := Function.update state.requests slot task } id := by
  have found := grounded.requests slot
  rw [cancelling] at found
  obtain ⟨row, member, sameId, _, notTemplate⟩ := found
  obtain ⟨target, targetMember, applies⟩ :=
    RecordTable.affected_pos_iff.mp affected
  have targetId : target.id = id := by
    simp only [JobRepository.cancelJob, Bool.and_eq_true,
      beq_iff_eq] at applies
    exact applies.1.1
  have sameRow : row = target :=
    RecordTable.eq_of_primary member targetMember
      (sameId.trans targetId.symm)
  have cancelled :
      ∀ new ∈
          (state.jobs.update
            (JobRepository.cancelJob state.clock id clientId)).rows,
        new.id = id →
        new.state = .cancelled ∧ new.isTemplate = false := by
    intro new newMember newId
    rw [RecordTable.image_of_mem_update targetMember newMember
      (newId.trans targetId.symm), RowUpdate.image_of_applies applies]
    exact ⟨rfl, sameRow ▸ notTemplate⟩
  refine ⟨⟨?_, ?_, noCopy⟩, cancelled⟩
  · obtain ⟨new, newMember, identity⟩ :=
      RecordTable.Extends.update state.jobs
        (JobRepository.cancelJob state.clock id clientId) row member
    exact ⟨new, newMember, (Job.id_eq_of_identity identity).trans sameId⟩
  · intro new newMember newId
    rw [(cancelled new newMember newId).1]
    exact ⟨by decide, by decide, by decide⟩

/-- Every permitted step keeps the successful cancels. -/
theorem CancelsHold.step
    (cancels : state.CancelsHold)
    (permitted : state.CancelsUnclaimed action)
    (taken : step? externals state action = some after) :
    after.CancelsHold where
  grounded := cancels.grounded.step taken
  holds := by
    intro slot id cancelled
    have stable :
        (state.requests slot).cancelled? = some id →
        (∃ row ∈ after.jobs.rows,
            row.id = id ∧ row.isTemplate = true) ∨
          after.Dead id :=
      fun before =>
        cancelsHold_stable cancels.grounded taken
          (cancels.holds slot id before)
    cases move_of_step? taken with
    | api caller action shared task moved =>
        change (Function.update state.requests caller task slot).cancelled?
          = some id at cancelled
        rcases eq_or_ne slot caller with rfl | different
        · rw [Function.update_self] at cancelled
          rcases moved.cancelled?_cases cancelled with
            before | ⟨clientId, cancelling, rfl, affected, rfl⟩ |
              ⟨clientId, templates, cancelling, _⟩
          · exact stable before
          · have isCancel :
                state.singleCancel? (.api slot (.call .ok)) =
                  some (clientId, id) := by
              simp [singleCancel?, cancelling]
            exact Or.inr (dead_of_cancelJob cancels.grounded cancelling
              affected (permitted _ isCancel affected))
          · have found := cancels.grounded.requests slot
            rw [cancelling] at found
            obtain ⟨row, member, sameId, _, isTemplate⟩ := found
            exact cancelsHold_stable cancels.grounded taken
              (Or.inl ⟨row, member, sameId, isTemplate⟩)
        · rw [Function.update_of_ne different] at cancelled
          exact stable cancelled
    | worker worker action shared task moved =>
        rw [dropClosed_requests] at cancelled
        exact stable cancelled
    | restart =>
        apply stable
        change (afterCrash (state.requests slot)).cancelled? = some id
          at cancelled
        unfold afterCrash at cancelled
        split at cancelled
        · cases cancelled
        · exact cancelled
    | tick | scheduler | reaper | shutdown =>
        exact stable cancelled

end Steps

/--
In a run whose single cancels write only rows without a copy, a cancel that was
answered with 204 is final: the row stays cancelled and no worker starts it.
-/
theorem cancelled_job_stays_cancelled
    {externals : Externals}
    {clock : Time}
    {earlier later : List (Action config slots)}
    {middle final : State config slots}
    (reached :
      Run externals CancelsUnclaimed (initial config slots clock) earlier
        middle)
    (continued : Run externals CancelsUnclaimed middle later final)
    {slot : Fin slots}
    {clientId id : Uuid}
    (answered :
      middle.requests slot =
        .answered (.cancelJob clientId id) .noContent)
    {job : Job}
    (member : job ∈ middle.jobs.rows)
    (sameId : job.id = id)
    (notTemplate : job.isTemplate = false) :
    (∀ row ∈ final.jobs.rows, row.id = id → row.state = .cancelled) ∧
      ∀ action, ¬final.BeginsExecuting action id := by
  have cancels : middle.CancelsHold :=
    reached.invariant
      (fun cancels permitted taken => cancels.step permitted taken)
      ⟨grounded_booted clock RecordTable.empty,
        fun slot id cancelled => by cases cancelled⟩
  have dead : middle.Dead id := by
    have held :=
      cancels.holds slot id (by rw [answered]; rfl)
    rcases held with ⟨row, rowMember, rowId, isTemplate⟩ | dead
    · rw [RecordTable.eq_of_primary rowMember member
        (rowId.trans sameId.symm), notTemplate] at isTemplate
      cases isTemplate
    · exact dead
  have stays := dead.run cancels.grounded continued
  exact ⟨fun row rowMember rowId =>
      (stays.cancelled row rowMember rowId).1,
    fun _ => stays.not_beginsExecuting⟩

end State

/-! ## Concrete runs -/

namespace Sample

/-- Create job 1 in one request and cancel it in another. -/
def createAndCancel : List (Action config 2) :=
  [ .api 0 (.arrive (.createJob clientId (oneOff "key"))),
    .api 0 (.call .ok),
    .api 0 (.call (.inserted 1)),
    .api 0 .notifyOne,
    .api 1 (.arrive (.cancelJob clientId 1)),
    .api 1 (.call .ok),
    .api 1 (.call .ok),
    .api 1 .notifyOne ]

/-- A job that is cancelled before it is leased stays cancelled. -/
theorem cancel_before_lease_is_final :
    ∃ middle final,
      State.Run externals State.CancelsUnclaimed
          (State.initial config 2 0) createAndCancel middle ∧
        State.Run externals State.CancelsUnclaimed middle
          [.scheduler (.refresh []), .tick 31000000, .restart] final ∧
        middle.requests 1 =
          .answered (.cancelJob clientId 1) .noContent ∧
        (∀ row ∈ final.jobs.rows, row.id = 1 → row.state = .cancelled) ∧
        ∀ action, ¬final.BeginsExecuting action 1 := by
  obtain ⟨middle, final, reached, continued, answered, job, member,
      sameId, notTemplate⟩ :=
    TransitionSystem.exists_runs_of_replay?
      (State.step? externals) State.CancelsUnclaimed
      (State.initial config 2 0) createAndCancel
      [.scheduler (.refresh []), .tick 31000000, .restart]
      (fun middle _ =>
        middle.requests 1 =
            .answered (.cancelJob clientId 1) .noContent ∧
          ∃ job ∈ middle.jobs.rows,
            job.id = 1 ∧ job.isTemplate = false)
      (by decide)
  exact ⟨middle, final, reached, continued, answered,
    State.cancelled_job_stays_cancelled reached continued answered member
      sameId notTemplate⟩

/-- Job 1 is leased and sent, its lease is reaped, and then it is cancelled. -/
def cancelReapedJob : List (Action config 2) :=
  [ .api 0 (.arrive (.createJob clientId (oneOff "key"))),
    .api 0 (.call .ok),
    .api 0 (.call (.inserted 1)),
    .api 0 .notifyOne,
    .scheduler (.refresh [⟨1, 0⟩]),
    .scheduler .sleepElapsed,
    .scheduler (.lease ⟨1, 0⟩ .ok),
    .scheduler .trySend,
    .tick 31000000,
    .reaper (.reap .ok),
    .api 1 (.arrive (.cancelJob clientId 1)),
    .api 1 (.call .ok),
    .api 1 (.call .ok),
    .api 1 .notifyOne ]

/-- After the 204 a worker takes the waiting copy and executes it. -/
theorem cancelled_job_executes :
    ∃ middle final,
      State.Run externals TransitionSystem.Unrestricted
          (State.initial config 2 0) cancelReapedJob middle ∧
        State.Run externals TransitionSystem.Unrestricted middle
          [ .worker 0 .recv,
            .worker 0 .activate,
            .worker 0 (.setRunning .ok) ] final ∧
        middle.requests 1 =
          .answered (.cancelJob clientId 1) .noContent ∧
        (∃ job ∈ middle.jobs.rows,
          job.id = 1 ∧ job.isTemplate = false) ∧
        (final.workers 0).inFlight?.map Job.id = some 1 ∧
        ¬∀ row ∈ final.jobs.rows, row.id = 1 → row.state = .cancelled :=
  TransitionSystem.exists_runs_of_replay?
    (State.step? externals) TransitionSystem.Unrestricted
    (State.initial config 2 0) cancelReapedJob
    [ .worker 0 .recv,
      .worker 0 .activate,
      .worker 0 (.setRunning .ok) ]
    (fun middle final =>
      middle.requests 1 =
          .answered (.cancelJob clientId 1) .noContent ∧
        (∃ job ∈ middle.jobs.rows,
          job.id = 1 ∧ job.isTemplate = false) ∧
        (final.workers 0).inFlight?.map Job.id = some 1 ∧
        ¬∀ row ∈ final.jobs.rows, row.id = 1 → row.state = .cancelled)
    (by decide)

end Sample

end Kronkeeper
