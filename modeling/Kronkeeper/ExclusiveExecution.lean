import Kronkeeper.JobCustody

namespace Kronkeeper

/-!
# At most one execution of a job in flight

`set_running` has no guard on the state of its row, so nothing in the table
keeps two workers apart.  What does is custody: as long as a job is sent only
while no other copy of it is in the channel or with a worker, no two workers
run it at once.  A lease that is reaped while its message still waits breaks
the premise, and the last theorem shows two workers running one job.
-/

namespace State

variable {config : Config} {slots : Nat}

/-- No two workers are between `set_running` and the end of `handle` for one
job. -/
def ExclusiveExecution (state : State config slots) : Prop :=
  ∀ first second,
    (state.heldId? WorkerTask.inFlight? first).isSome →
    state.heldId? WorkerTask.inFlight? first =
      state.heldId? WorkerTask.inFlight? second →
    first = second

instance (state : State config slots) :
    Decidable state.ExclusiveExecution :=
  inferInstanceAs (Decidable (∀ _ _, _))

/-- `try_send` would put a job into the channel. -/
def Accepts (state : State config slots) : Prop :=
  ¬state.ChannelClosed ∧ state.channel.length < config.workerQueueSize

instance (state : State config slots) : Decidable state.Accepts :=
  inferInstanceAs (Decidable (_ ∧ _))

/-- No copy of the job is in the channel or with a worker. -/
abbrev Unheld (state : State config slots) (id : Uuid) : Prop :=
  Handoff.Free none state.queuedIds (state.heldId? WorkerTask.job?) id

/-- The job the scheduler tries to send. -/
def sent?
    (state : State config slots) : Action config slots → Option Job
  | .scheduler .trySend => state.scheduler.position.hand?
  | _ => none

/-- With two workers or more, a job is sent only while it is unheld. -/
def SendsUnheld
    (state : State config slots)
    (action : Action config slots) : Prop :=
  ∀ job ∈ state.sent? action,
    1 < config.workerCount →
    state.Accepts →
    state.Unheld job.id

instance
    (state : State config slots)
    (action : Action config slots) :
    Decidable (state.SendsUnheld action) :=
  (state.sent? action).decidableForallMem

/-- Every copy outside the scheduler's hand is the only one. -/
abbrev Exclusive (state : State config slots) : Prop :=
  Handoff.SingleCustody none state.queuedIds
    (state.heldId? WorkerTask.job?)

theorem Exclusive.exclusiveExecution
    {state : State config slots}
    (exclusive : state.Exclusive) :
    state.ExclusiveExecution := by
  intro first second firstRuns same
  obtain ⟨id, firstId⟩ := Option.isSome_iff_exists.mp firstRuns
  have held :
      ∀ worker,
        state.heldId? WorkerTask.inFlight? worker = some id →
        state.heldId? WorkerTask.job? worker = some id := by
    intro worker runs
    obtain ⟨job, inFlight, rfl⟩ := Option.map_eq_some_iff.mp runs
    exact Option.map_eq_some_iff.mpr
      ⟨job, WorkerTask.job?_of_inFlight? inFlight, rfl⟩
  exact exclusive.holderUnique first second id
    (held first firstId) (held second (same ▸ firstId))

theorem exclusive_booted
    (clock : Time)
    (jobs : JobTable) :
    (booted config slots clock jobs).Exclusive :=
  Handoff.SingleCustody.empty fun _ => rfl

theorem Exclusive.step
    {externals : Externals}
    {state after : State config slots}
    {action : Action config slots}
    (workers : 1 < config.workerCount)
    (exclusive : state.Exclusive)
    (permitted : state.SendsUnheld action)
    (taken : step? externals state action = some after) :
    after.Exclusive := by
  cases move_of_step? taken with
  | tick elapsed =>
      exact exclusive
  | scheduler action shared task moved =>
      by_cases isSend : action = .trySend
      · subst action
        generalize position : state.scheduler.position = current at moved
        cases moved with
        | sendClosed | sendFull =>
            exact exclusive
        | send now job isOpen room =>
            have accepts : state.Accepts :=
              ⟨of_decide_eq_false isOpen, room⟩
            have inHand : job ∈ state.scheduler.position.hand? := by
              rw [position]
              rfl
            have free := permitted job inHand workers accepts
            have sent := (exclusive.take free).push
            rw [queuedIds, ← List.map_singleton, ← List.map_append] at sent
            exact sent
      · have sameChannel := moved.channel_eq isSend
        change Handoff.SingleCustody _ (shared.channel.map Job.id) _
        rw [sameChannel]
        exact exclusive
  | worker worker action shared task moved =>
      apply custody_dropClosed
      exact custody_worker WorkerTask.tracks_job? exclusive moved rfl rfl
  | reaper action shared task moved =>
      change Handoff.SingleCustody _ (shared.channel.map Job.id) _
      rw [moved.channel_eq]
      exact exclusive
  | api slot action shared task moved =>
      change Handoff.SingleCustody _ (shared.channel.map Job.id) _
      rw [moved.channel_eq]
      exact exclusive
  | shutdown =>
      unfold Exclusive
      rw [heldId?_notifyWaiter WorkerTask.tracks_job?.notifyWaiter_eq rfl]
      exact exclusive
  | restart =>
      exact Handoff.SingleCustody.empty fun _ => rfl

/--
In every run in which jobs are sent only while no other copy of them is around,
no two workers execute one job at once.
-/
theorem exclusiveExecution_of_sendsUnheld
    {externals : Externals}
    {clock : Time}
    {jobs : JobTable}
    {actions : List (Action config slots)}
    {final : State config slots}
    (run :
      Run externals SendsUnheld (booted config slots clock jobs) actions
        final) :
    final.ExclusiveExecution := by
  rcases Nat.lt_or_ge 1 config.workerCount with several | atMostOne
  · have exclusive : final.Exclusive :=
      run.invariant
        (fun exclusive permitted taken =>
          exclusive.step several permitted taken)
        (exclusive_booted clock jobs)
    exact exclusive.exclusiveExecution
  · intro first second _ _
    have := first.isLt
    have := second.isLt
    exact Fin.ext (by omega)

end State

/-! ## Concrete runs -/

namespace Sample

/-- A job that is sent once is executed by one worker alone. -/
theorem sent_job_executes_exclusively :
    ∃ final,
      State.Run externals State.SendsUnheld
          (State.booted config 1 0 RecordTable.empty)
          (createAndSend ++ begin 0) final ∧
        (final.workers 0).inFlight?.isSome ∧
        final.ExclusiveExecution := by
  obtain ⟨final, run, inFlight⟩ :=
    TransitionSystem.exists_run_of_replay?
      (State.step? externals) State.SendsUnheld
      (State.booted config 1 0 RecordTable.empty)
      (createAndSend ++ begin 0)
      (fun final => (final.workers 0).inFlight?.isSome)
      (by decide)
  exact ⟨final, run, inFlight,
    State.exclusiveExecution_of_sendsUnheld run⟩

/-- The lease runs out in the queue; the reaped job is leased and sent again. -/
def reapAndSendAgain : List (Action config 1) :=
  [ .tick 31000000,
    .reaper (.reap .ok),
    .reaper .notifyOne,
    .scheduler .dispatchDone,
    .scheduler .notified,
    .scheduler (.refresh [⟨1, 0⟩]),
    .scheduler .sleepElapsed,
    .scheduler (.lease ⟨1, 0⟩ .ok),
    .scheduler .trySend ]

set_option maxRecDepth 4000 in
/-- A job whose lease runs out in the channel ends up on two workers. -/
theorem two_workers_execute_one_job :
    ∃ final,
      State.Run externals TransitionSystem.Unrestricted
          (State.initial config 1 0)
          (createAndSend ++ reapAndSendAgain ++ begin 0 ++ begin 1)
          final ∧
        ¬final.ExclusiveExecution :=
  TransitionSystem.exists_run_of_replay?
    (State.step? externals) TransitionSystem.Unrestricted
    (State.initial config 1 0)
    (createAndSend ++ reapAndSendAgain ++ begin 0 ++ begin 1)
    (fun final => ¬final.ExclusiveExecution)
    (by decide)

end Sample

end Kronkeeper
