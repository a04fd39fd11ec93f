import Kronkeeper.RowHistory

namespace Kronkeeper

/-!
# Starts and deadlines

`expires_at` is compared once, when an execution has failed.  A job that waits
for a start is not looked at again, so it starts in time only if its deadline
does not pass, and has not passed, while it waits.
-/

/-- The job has not expired at this instant. -/
def Job.Unexpired (now : Time) (job : Job) : Prop :=
  ∀ expiresAt ∈ job.expiresAt, now < expiresAt

instance (now : Time) (job : Job) : Decidable (job.Unexpired now) :=
  job.expiresAt.decidableForallMem

theorem Job.Unexpired.of_identity
    {now : Time}
    {first second : Job}
    (unexpired : first.Unexpired now)
    (identity : second.identity = first.identity) :
    second.Unexpired now := by
  have sameDeadline : second.expiresAt = first.expiresAt :=
    congrArg JobIdentity.expiresAt identity
  rw [Unexpired, sameDeadline]
  exact unexpired

/-- The time a step lets pass. -/
def Action.elapsed?
    {config : Config}
    {slots : Nat} : Action config slots → Option Nat
  | .tick elapsed => some elapsed
  | _ => none

namespace State

variable {config : Config} {slots : Nat}

/-- Every job that waits for a start, as a row or as a copy, is like this. -/
structure AllWaiting
    (property : Job → Prop)
    (state : State config slots) : Prop where
  rows :
    ∀ row ∈ state.jobs.rows,
      row.isTemplate = false →
      row.state.awaitsStart = true →
      property row
  hand : ∀ job ∈ state.scheduler.position.hand?, property job
  queue : ∀ job ∈ state.channel, property job
  workers :
    ∀ worker, ∀ job ∈ (state.workers worker).pending?, property job

instance decidableAllWaiting
    (property : Job → Prop)
    [DecidablePred property]
    (state : State config slots) :
    Decidable (state.AllWaiting property) :=
  have hand := state.scheduler.position.hand?.decidableForallMem
  have pending :=
    fun worker => (state.workers worker).pending?.decidableForallMem
  @decidable_of_iff _
    ((∀ row ∈ state.jobs.rows,
        row.isTemplate = false →
        row.state.awaitsStart = true →
        property row) ∧
      (∀ job ∈ state.scheduler.position.hand?, property job) ∧
      (∀ job ∈ state.channel, property job) ∧
      ∀ worker, ∀ job ∈ (state.workers worker).pending?, property job)
    ⟨fun ⟨rows, hand, queue, workers⟩ => ⟨rows, hand, queue, workers⟩,
      fun waiting =>
        ⟨waiting.rows, waiting.hand, waiting.queue, waiting.workers⟩⟩
    (@instDecidableAnd _ _ inferInstance
      (@instDecidableAnd _ _ hand
        (@instDecidableAnd _ _ inferInstance
          (@Nat.decidableForallFin _ _ pending))))

/--
The clock does not reach the deadline of a waiting job, and no job whose
deadline has passed is inserted, retried or recovered.
-/
structure WaitsInTime
    (externals : Externals)
    (state : State config slots)
    (action : Action config slots) : Prop where
  clock :
    ∀ elapsed ∈ action.elapsed?,
      state.AllWaiting (Job.Unexpired (state.clock + elapsed))
  inserts :
    ∀ row ∈ state.insertedRow? externals action,
      row.isTemplate = false → row.Unexpired state.clock
  retries :
    ∀ job ∈ state.retried? action, job.Unexpired state.clock
  recovers :
    action = .restart →
    ∀ row ∈ state.jobs.rows,
      row.state = .running → row.Unexpired state.clock

instance decidableWaitsInTime
    (externals : Externals)
    (state : State config slots)
    (action : Action config slots) :
    Decidable (state.WaitsInTime externals action) :=
  have clock := action.elapsed?.decidableForallMem
  have inserts := (state.insertedRow? externals action).decidableForallMem
  have retries := (state.retried? action).decidableForallMem
  @decidable_of_iff _
    ((∀ elapsed ∈ action.elapsed?,
        state.AllWaiting (Job.Unexpired (state.clock + elapsed))) ∧
      (∀ row ∈ state.insertedRow? externals action,
        row.isTemplate = false → row.Unexpired state.clock) ∧
      (∀ job ∈ state.retried? action, job.Unexpired state.clock) ∧
      (action = .restart →
        ∀ row ∈ state.jobs.rows,
          row.state = .running → row.Unexpired state.clock))
    ⟨fun ⟨clock, inserts, retries, recovers⟩ =>
        ⟨clock, inserts, retries, recovers⟩,
      fun inTime =>
        ⟨inTime.clock, inTime.inserts, inTime.retries,
          inTime.recovers⟩⟩
    (@instDecidableAnd _ _ clock
      (@instDecidableAnd _ _ inserts
        (@instDecidableAnd _ _ retries inferInstance)))

/-- No job waits past its deadline. -/
structure InTime (state : State config slots) : Prop where
  grounded : state.Grounded
  waiting : state.AllWaiting (Job.Unexpired state.clock)

theorem inTime_initial
    (clock : Time) :
    (initial config slots clock).InTime where
  grounded := grounded_booted clock RecordTable.empty
  waiting :=
    { rows := fun _ member => by cases member
      hand := fun _ held => by cases held
      queue := fun _ member => by cases member
      workers := fun _ _ pending => by cases pending }

variable {externals : Externals}
variable {state after : State config slots}
variable {action : Action config slots}

/-- Only a tick moves the clock. -/
theorem clock_of_step?
    (taken : step? externals state action = some after)
    (noTick : action.elapsed? = none) :
    after.clock = state.clock := by
  cases move_of_step? taken with
  | tick elapsed =>
      cases noTick
  | scheduler action shared task moved =>
      generalize state.scheduler.position = current at moved
      cases moved <;> rfl
  | worker worker action shared task moved =>
      rw [dropClosed_clock]
      exact moved.clock_eq
  | reaper action shared task moved | api slot action shared task moved =>
      exact moved.clock_eq
  | shutdown | restart =>
      rfl

/-- The clock never goes back. -/
theorem clock_le_of_step?
    (taken : step? externals state action = some after) :
    state.clock ≤ after.clock := by
  cases action with
  | tick elapsed =>
      cases taken
      exact Int.le_add_of_nonneg_right (Int.natCast_nonneg elapsed)
  | _ =>
      exact (clock_of_step? taken rfl).symm.le

/-- A copy that expects its row to be leased waits. -/
theorem AllWaiting.of_expects
    {property : Job → Prop}
    (waiting : state.AllWaiting property)
    {place : Place config}
    {job : Job}
    (expects : state.Expects place job .leased) :
    property job := by
  cases place with
  | hand =>
      exact waiting.hand job expects.1
  | queue =>
      exact waiting.queue job expects.1
  | worker worker =>
      refine waiting.workers worker job ?_
      have stage : (state.workers worker).stage? = some (job, .leased) :=
        expects
      cases current : state.workers worker <;>
        simp_all [WorkerTask.stage?, WorkerTask.pending?]

/-- Conversely, the waiting copies are those that expect a leased row. -/
theorem AllWaiting.of_copies
    {property : Job → Prop}
    (rows :
      ∀ row ∈ state.jobs.rows,
        row.isTemplate = false →
        row.state.awaitsStart = true →
        property row)
    (copies :
      ∀ place job, state.Expects place job .leased → property job) :
    state.AllWaiting property where
  rows := rows
  hand := fun job held => copies .hand job ⟨held, rfl⟩
  queue := fun job member => copies .queue job ⟨member, rfl⟩
  workers := by
    intro worker job pending
    refine copies (.worker worker) job ?_
    change (state.workers worker).stage? = some (job, .leased)
    cases current : state.workers worker <;>
      simp_all [WorkerTask.stage?, WorkerTask.pending?]

/-- A row that waits after a step has not expired. -/
private theorem InTime.rows_step
    (inTime : state.InTime)
    (waits : state.WaitsInTime externals action)
    (taken : step? externals state action = some after)
    {row : Job}
    (member : row ∈ after.jobs.rows)
    (notTemplate : row.isTemplate = false)
    (awaits : row.state.awaitsStart = true) :
    row.Unexpired state.clock := by
  cases rowOrigin_of_step? taken member with
  | inserted fresh insertion =>
      exact waits.inserts row insertion.insertedRow?_eq notTemplate
  | kept old oldMember identity hasCron schedule =>
      have oldKind :=
        (Job.isTemplate_eq_of_identity identity).symm.trans notTemplate
      rw [schedule.state] at awaits
      exact (inTime.waiting.rows old oldMember oldKind awaits).of_identity
        identity
  | changed old oldMember identity hasCron change =>
      have oldKind :=
        (Job.isTemplate_eq_of_identity identity).symm.trans notTemplate
      have waited :
          old.state.awaitsStart = true → row.Unexpired state.clock :=
        fun oldAwaits =>
          (inTime.waiting.rows old oldMember oldKind
            oldAwaits).of_identity identity
      have ofCopy :
          ∀ place job expected,
            state.Expects place job expected →
            old.id = job.id →
            job.Unexpired state.clock →
            row.Unexpired state.clock := by
        intro place job expected expects sameId unexpired
        exact unexpired.of_identity
          (identity.trans
            ((inTime.grounded.copy_of_expects expects).row oldMember
              sameId))
      generalize reached : row.state = new at change
      rw [reached] at awaits
      cases change with
      | lease _ _ _ _ _ scheduled =>
          exact waited (by rw [scheduled]; rfl)
      | reap _ leased =>
          exact waited (by rw [leased]; rfl)
      | settle worker job result now disposition handling disposed
          sameId =>
          cases disposition with
          | retry retryAt attempt =>
              refine ofCopy _ job _ (expects_of_worker handling rfl)
                sameId (waits.retries job ?_)
              simp [retried?, handling, disposed]
          | _ =>
              cases awaits
      | giveBack job returning sameId =>
          have expects := expects_of_hand returning rfl
          exact ofCopy .hand job .leased expects sameId
            (inTime.waiting.of_expects expects)
      | recover orphaned =>
          rcases orphaned with leased | running
          · exact waited (by rw [leased]; rfl)
          · exact (waits.recovers rfl old oldMember running).of_identity
              identity
      | _ =>
          cases awaits

theorem InTime.step
    (inTime : state.InTime)
    (waits : state.WaitsInTime externals action)
    (taken : step? externals state action = some after) :
    after.InTime where
  grounded := inTime.grounded.step taken
  waiting := by
    by_cases noTick : action.elapsed? = none
    · rw [clock_of_step? taken noTick]
      refine .of_copies
        (fun row member => inTime.rows_step waits taken member) ?_
      intro place job expects
      cases earlier_of_step? taken expects with
      | held source before =>
          exact inTime.waiting.of_expects before
      | leased now entry isLease pops returned =>
          obtain ⟨old, oldMember, applies, rfl⟩ :=
            RecordTable.returning_eq_some returned
          simp only [JobRepository.leaseJob, Bool.and_eq_true,
            beq_iff_eq] at applies
          have notTemplate :=
            (inTime.grounded.scheduler.heap entry
              pops.1.1).row_isTemplate oldMember applies.1
          have unexpired :=
            inTime.waiting.rows old oldMember notTemplate
              (by rw [applies.2]; rfl)
          exact unexpired.of_identity rfl
      | begun worker isBegin starting isRunning =>
          cases isRunning
    · cases action with
      | tick elapsed =>
          have waiting := waits.clock elapsed rfl
          cases taken
          exact ⟨waiting.rows, waiting.hand, waiting.queue,
            waiting.workers⟩
      | _ =>
          exact (noTick rfl).elim

/--
In every run whose jobs wait in time, whatever a worker starts next has not
expired.
-/
theorem starts_before_expiry
    {clock : Time}
    {actions : List (Action config slots)}
    (run :
      Run externals (WaitsInTime externals) (initial config slots clock)
        actions state) :
    ∀ job ∈ state.started? action, ∀ expiresAt ∈ job.expiresAt,
      state.clock < expiresAt := by
  have inTime : state.InTime :=
    run.invariant
      (fun inTime waits taken => inTime.step waits taken)
      (inTime_initial clock)
  intro job started
  unfold started? at started
  split at started
  · split at started
    · rename_i worker task copy starting
      cases started
      exact inTime.waiting.of_expects (expects_of_worker starting rfl)
    · cases started
  · cases started

end State

/-! ## Concrete runs -/

namespace Sample

/-- A job that is due at once and expires after ten seconds. -/
def shortLived : CreateJobRequest :=
  { oneOff "key" with expiresAt := some 10000000 }

/-- Create job 1, and let a worker receive it after some time. -/
def receiveAfter (delay : Nat) : List (Action config 1) :=
  [ .api 0 (.arrive (.createJob clientId shortLived)),
    .api 0 (.call .ok),
    .api 0 (.call (.inserted 1)),
    .api 0 .notifyOne,
    .scheduler (.refresh [⟨1, 0⟩]),
    .scheduler .sleepElapsed,
    .scheduler (.lease ⟨1, 0⟩ .ok),
    .scheduler .trySend,
    .tick delay,
    .worker 0 .recv,
    .worker 0 .activate ]

/-- A copy received after nine seconds starts in time. -/
theorem received_in_time_starts_in_time :
    ∃ state,
      State.Run externals (State.WaitsInTime externals)
          (State.initial config 1 0) (receiveAfter 9000000) state ∧
        (state.started? (.worker 0 (.setRunning .ok))).map
            (fun job => (job.id, job.expiresAt)) =
          some (1, some 10000000) ∧
        ∀ job ∈ state.started? (.worker 0 (.setRunning .ok)),
          ∀ expiresAt ∈ job.expiresAt, state.clock < expiresAt := by
  obtain ⟨state, run, isStart⟩ :=
    TransitionSystem.exists_run_of_replay?
      (State.step? externals) (State.WaitsInTime externals)
      (State.initial config 1 0) (receiveAfter 9000000)
      (fun state =>
        (state.started? (.worker 0 (.setRunning .ok))).map
            (fun job => (job.id, job.expiresAt)) =
          some (1, some 10000000))
      (by decide)
  exact ⟨state, run, isStart, State.starts_before_expiry run⟩

/-- A copy received after eleven seconds starts all the same. -/
theorem expired_job_starts :
    ∃ state,
      State.Run externals TransitionSystem.Unrestricted
          (State.initial config 1 0) (receiveAfter 11000000) state ∧
        (State.step? externals state
          (.worker 0 (.setRunning .ok))).isSome ∧
        state.clock = 11000000 ∧
        (state.started? (.worker 0 (.setRunning .ok))).map
            (fun job => (job.id, job.expiresAt)) =
          some (1, some 10000000) :=
  TransitionSystem.exists_run_of_replay? _ _ _ _ _ (by decide)

end Sample

end Kronkeeper
