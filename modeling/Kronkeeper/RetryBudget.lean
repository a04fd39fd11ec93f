import Kronkeeper.RowHistory

namespace Kronkeeper

/-!
# The retry budget

`attempt_count` is written as one more than the count in the worker's copy.
A start is paid for by the attempt its row is at, so the starts of a job stay
within the budget as long as every copy that is started or put back is at the
attempt its row is at.
-/

theorem wrapI32_eq_self
    {value : Int}
    (above : -2 ^ 31 ≤ value)
    (below : value < 2 ^ 31) :
    wrapI32 value = value :=
  Int.bmod_eq_of_le_mul_two (by omega) (by omega)

/-- The starts that the attempts of a row account for. -/
def Job.attemptsSpent (row : Job) : Int :=
  if row.state.awaitsStart then row.attemptCount else row.attemptCount + 1

namespace Job

variable {row : Job}

theorem attemptsSpent_of_awaits
    (awaits : row.state.awaitsStart = true) :
    row.attemptsSpent = row.attemptCount :=
  if_pos awaits

theorem attemptsSpent_of_begun
    (begun : row.state.awaitsStart = false) :
    row.attemptsSpent = row.attemptCount + 1 :=
  if_neg (Bool.not_eq_true _ ▸ begun)

theorem attemptCount_le_attemptsSpent :
    row.attemptCount ≤ row.attemptsSpent := by
  unfold attemptsSpent
  split <;> omega

theorem attemptsSpent_le :
    row.attemptsSpent ≤ row.attemptCount + 1 := by
  unfold attemptsSpent
  split <;> omega

end Job

/-- The attempts are within `max_retries`. -/
def Job.Budgeted (job : Job) : Prop :=
  0 ≤ job.attemptCount ∧ job.attemptCount ≤ max job.maxRetries 0

/-- A retry counts one attempt more, and no more than allowed. -/
theorem ResultHandler.dispose?_eq_retry
    {config : Config}
    {job : Job}
    {result : ExecutionResult}
    {now retryAt : Time}
    {attempt : Int}
    (disposed :
      dispose? config job result now = some (.retry retryAt attempt)) :
    attempt = wrapI32 (job.attemptCount + 1) ∧
      attempt ≤ job.maxRetries := by
  unfold dispose? branch at disposed
  split at disposed
  · cases disposed
  · split at disposed
    · cases disposed
    · dsimp only at disposed
      split at disposed
      · cases disposed
      · rename_i withinLimit
        obtain ⟨instant, _, same⟩ := Option.map_eq_some_iff.mp disposed
        cases same
        exact ⟨rfl, Int.not_lt.mp withinLimit⟩

namespace State

variable {config : Config} {slots : Nat}

/-- The step starts an execution of the job. -/
def starts
    (id : Uuid)
    (state : State config slots)
    (action : Action config slots) : Bool :=
  (state.started? action).any fun job => job.id == id

/-- No retry counts beyond `i32`. -/
def CountsUp
    (state : State config slots)
    (action : Action config slots) : Prop :=
  ∀ job ∈ state.retried? action, job.attemptCount + 1 < 2 ^ 31

instance decidableCountsUp
    (state : State config slots)
    (action : Action config slots) :
    Decidable (state.CountsUp action) :=
  (state.retried? action).decidableForallMem

/--
The process goes on, and every copy that is started, retried or sent back finds
its row where it was handed out, at the same attempt.
-/
structure InTurn
    (state : State config slots)
    (action : Action config slots) : Prop where
  goesOn : action ≠ .restart
  starts :
    ∀ job ∈ state.started? action, ∀ row ∈ state.jobs.rows,
      row.id = job.id → row.state.awaitsStart = true
  retries :
    ∀ job ∈ state.retried? action, ∀ row ∈ state.jobs.rows,
      row.id = job.id →
      row.state = .running ∧ row.attemptCount = job.attemptCount
  countsUp : state.CountsUp action
  returns :
    ∀ job ∈ state.returned? action, ∀ row ∈ state.jobs.rows,
      row.id = job.id →
      row.state.awaitsStart = true ∧ row.attemptCount = job.attemptCount

instance decidableInTurn
    (state : State config slots)
    (action : Action config slots) :
    Decidable (state.InTurn action) :=
  have starts := (state.started? action).decidableForallMem
  have retries := (state.retried? action).decidableForallMem
  have returns := (state.returned? action).decidableForallMem
  @decidable_of_iff _
    (action ≠ .restart ∧
      (∀ job ∈ state.started? action, ∀ row ∈ state.jobs.rows,
        row.id = job.id → row.state.awaitsStart = true) ∧
      (∀ job ∈ state.retried? action, ∀ row ∈ state.jobs.rows,
        row.id = job.id →
        row.state = .running ∧ row.attemptCount = job.attemptCount) ∧
      state.CountsUp action ∧
      ∀ job ∈ state.returned? action, ∀ row ∈ state.jobs.rows,
        row.id = job.id →
        row.state.awaitsStart = true ∧
          row.attemptCount = job.attemptCount)
    ⟨fun ⟨goesOn, starts, retries, countsUp, returns⟩ =>
        ⟨goesOn, starts, retries, countsUp, returns⟩,
      fun inTurn =>
        ⟨inTurn.goesOn, inTurn.starts, inTurn.retries, inTurn.countsUp,
          inTurn.returns⟩⟩
    (@instDecidableAnd _ _ inferInstance
      (@instDecidableAnd _ _ starts
        (@instDecidableAnd _ _ retries
          (@instDecidableAnd _ _ inferInstance returns))))

/-! ## Attempts within the budget -/

/-- All rows, and all copies of them on their way, are within the budget. -/
structure AllBudgeted (state : State config slots) : Prop where
  grounded : state.Grounded
  rows : ∀ row ∈ state.jobs.rows, row.Budgeted
  copies :
    ∀ place job expected,
      state.Expects place job expected → job.Budgeted

theorem allBudgeted_initial
    (clock : Time) :
    (initial config slots clock).AllBudgeted where
  grounded := grounded_booted clock RecordTable.empty
  rows := fun _ member => by cases member
  copies := by
    intro place job expected expects
    cases place <;> cases expects
    all_goals contradiction

variable {externals : Externals}
variable {state after : State config slots}
variable {action : Action config slots}

/-- A new row is at its first attempt. -/
theorem Inserts.attemptCount_eq
    {row : Job}
    (insertion : state.Inserts externals action row) :
    row.attemptCount = 0 ∧ row.state = .scheduled := by
  cases insertion <;> exact ⟨rfl, rfl⟩

/-- What a rescheduled row counts, and on whose behalf. -/
theorem reschedule?_cases
    {reschedule : Reschedule}
    (puts : state.reschedule? action = some reschedule) :
    (∃ job place,
        state.retried? action = some job ∧
          state.Expects place job .running ∧
          reschedule.id = job.id ∧
          reschedule.attemptCount = wrapI32 (job.attemptCount + 1) ∧
          reschedule.attemptCount ≤ job.maxRetries) ∨
      ∃ job place,
        state.returned? action = some job ∧
          state.Expects place job .leased ∧
          reschedule.id = job.id ∧
          reschedule.attemptCount = job.attemptCount := by
  unfold reschedule? at puts
  split at puts
  · split at puts
    · rename_i worker task job result now handling
      split at puts
      · rename_i retryAt attempt disposed
        obtain rfl := Option.some.inj puts
        obtain ⟨isNext, withinLimit⟩ :=
          ResultHandler.dispose?_eq_retry disposed
        refine Or.inl ⟨job, .worker worker, ?_,
          expects_of_worker handling rfl, rfl, isNext, withinLimit⟩
        simp [retried?, handling, disposed]
      · cases puts
    · cases puts
  · split at puts
    · rename_i task job returning
      obtain rfl := Option.some.inj puts
      refine Or.inr ⟨job, .hand, ?_, expects_of_hand returning rfl, rfl,
        rfl⟩
      simp [returned?, returning]
    · cases puts
  · cases puts

/-- A copy at work has the retry limit of its row. -/
private theorem AllBudgeted.maxRetries_eq
    (budgeted : state.AllBudgeted)
    {place : Place config}
    {job row : Job}
    {expected : JobState}
    (expects : state.Expects place job expected)
    (member : row ∈ state.jobs.rows)
    (sameId : row.id = job.id) :
    row.maxRetries = job.maxRetries :=
  congrArg JobIdentity.maxRetries
    ((budgeted.grounded.copy_of_expects expects).row member sameId)

private theorem AllBudgeted.rows_step
    (budgeted : state.AllBudgeted)
    (countsUp : state.CountsUp action)
    (taken : step? externals state action = some after)
    {row : Job}
    (member : row ∈ after.jobs.rows) :
    row.Budgeted := by
  cases rowOrigin_of_step? taken member with
  | inserted fresh insertion =>
      rw [Job.Budgeted, insertion.attemptCount_eq.1]
      exact ⟨le_rfl, le_max_right _ _⟩
  | kept old oldMember identity | changed old oldMember identity =>
      have sameId := Job.id_eq_of_identity identity
      have sameLimit : row.maxRetries = old.maxRetries :=
        congrArg JobIdentity.maxRetries identity
      have oldBudgeted := budgeted.rows old oldMember
      rcases schedule_of_step? taken oldMember member sameId with
        ⟨_, sameCount⟩ | ⟨puts, _⟩
      · rw [Job.Budgeted, sameCount, sameLimit]
        exact oldBudgeted
      · rcases reschedule?_cases puts with
          ⟨job, place, retried, expects, jobId, isNext, withinLimit⟩ |
          ⟨job, place, _, expects, jobId, sameCount⟩
        · have jobBudgeted := budgeted.copies place job _ expects
          have below := countsUp job retried
          rw [wrapI32_eq_self (by have := jobBudgeted.1; omega) below]
            at isNext
          dsimp only at isNext withinLimit
          rw [Job.Budgeted, sameLimit,
            budgeted.maxRetries_eq expects oldMember jobId]
          have nonnegative := jobBudgeted.1
          omega
        · dsimp only at sameCount
          rw [Job.Budgeted, sameLimit,
            budgeted.maxRetries_eq expects oldMember jobId, sameCount]
          exact budgeted.copies place job _ expects

theorem AllBudgeted.step
    (budgeted : state.AllBudgeted)
    (countsUp : state.CountsUp action)
    (taken : step? externals state action = some after) :
    after.AllBudgeted where
  grounded := budgeted.grounded.step taken
  rows := fun _ member => budgeted.rows_step countsUp taken member
  copies := by
    intro place job expected expects
    cases earlier_of_step? taken expects with
    | held source before =>
        exact budgeted.copies source job expected before
    | leased now entry isLease pops returned =>
        obtain ⟨old, oldMember, _, rfl⟩ :=
          RecordTable.returning_eq_some returned
        exact budgeted.rows old oldMember
    | begun worker isBegin starting =>
        exact budgeted.copies _ job _ (expects_of_worker starting rfl)

/-! ## Starts that attempts pay for -/

theorem starts_cases
    {id : Uuid}
    (starts : state.starts id action = true) :
    ∃ worker job,
      action = .worker worker (.setRunning .ok) ∧
        state.workers worker = .starting job ∧
        job.id = id := by
  obtain ⟨job, started, sameId⟩ := (Option.any_eq_true _ _).mp starts
  unfold started? at started
  split at started
  · split at started
    · rename_i worker task copy starting
      cases started
      exact ⟨worker, job, rfl, starting, beq_iff_eq.mp sameId⟩
    · cases started
  · cases started

/-- What a start makes of its row. -/
theorem row_of_start
    {worker : Fin config.workerCount}
    {job old new : Job}
    (taken :
      step? externals state (.worker worker (.setRunning .ok)) =
        some after)
    (starting : state.workers worker = .starting job)
    (oldMember : old ∈ state.jobs.rows)
    (newMember : new ∈ after.jobs.rows)
    (sameId : new.id = old.id)
    (isJob : job.id = old.id) :
    new = { old with state := .running, updatedAt := state.clock } := by
  obtain ⟨shared, moved, sameJobs, _⟩ := workerMove_of_step? taken
  generalize after.workers worker = next at moved
  rw [starting] at moved
  cases moved with
  | begin =>
      rw [sameJobs] at newMember
      rw [RecordTable.image_of_mem_update oldMember newMember sameId]
      exact RowUpdate.image_of_applies (by simp [JobRepository.setRunning,
        isJob])

/-- A retry leaves its row scheduled. -/
theorem scheduled_of_retry
    {job new : Job}
    (taken : step? externals state action = some after)
    (retried : state.retried? action = some job)
    (newMember : new ∈ after.jobs.rows)
    (newId : new.id = job.id) :
    new.state = .scheduled := by
  unfold retried? at retried
  split at retried
  · rename_i worker
    split at retried
    · rename_i task copy result now handling
      split at retried
      · rename_i retryAt attempt disposed
        obtain rfl := Option.some.inj retried
        exact state_of_settled handling disposed taken newMember newId
      · cases retried
    · cases retried
  · cases retried

/-- A permitted statement takes no attempt back. -/
private theorem AllBudgeted.spends
    (budgeted : state.AllBudgeted)
    (inTurn : state.InTurn action)
    {change : JobUpdate}
    (updates : state.Updates action change)
    {row : Job}
    (member : row ∈ state.jobs.rows)
    (applies : change.applies row = true) :
    row.attemptCount ≤ (change.assign row).attemptCount ∧
      row.attemptsSpent ≤ (change.assign row).attemptsSpent := by
  -- A statement that keeps the count and leaves no start to wait for.
  have kept :
      ∀ new : Job,
        new.attemptCount = row.attemptCount →
        new.state.awaitsStart = false ∨ new.state = row.state →
        row.attemptCount ≤ new.attemptCount ∧
          row.attemptsSpent ≤ new.attemptsSpent := by
    intro new sameCount begunOrSame
    refine ⟨sameCount.ge, ?_⟩
    rcases begunOrSame with begun | sameState
    · rw [Job.attemptsSpent_of_begun begun, sameCount]
      exact Job.attemptsSpent_le
    · simp only [Job.attemptsSpent, sameState, sameCount, le_refl]
  cases updates with
  | lease now entry dispatching pops =>
      simp only [JobRepository.leaseJob, Bool.and_eq_true,
        beq_iff_eq] at applies
      refine ⟨le_rfl, ?_⟩
      rw [Job.attemptsSpent_of_awaits (by rw [applies.2]; rfl),
        Job.attemptsSpent_of_awaits rfl]
      exact le_rfl
  | giveBack job returning =>
      simp only [JobRepository.scheduleRetry, beq_iff_eq] at applies
      obtain ⟨awaits, sameCount⟩ :=
        inTurn.returns job (by simp [returned?, returning]) row member
          applies
      refine ⟨sameCount.le, ?_⟩
      rw [Job.attemptsSpent_of_awaits awaits,
        Job.attemptsSpent_of_awaits rfl]
      exact sameCount.le
  | begin =>
      exact kept _ rfl (Or.inl rfl)
  | settle worker job result now disposition handling disposed =>
      rw [ResultHandler.dispositionUpdate_applies, beq_iff_eq] at applies
      cases disposition with
      | retry retryAt attempt =>
          have retried : state.retried? (.worker worker (.settle .ok)) =
              some job := by
            simp [retried?, handling, disposed]
          obtain ⟨isRunning, sameCount⟩ :=
            inTurn.retries job retried row member applies
          have below := inTurn.countsUp job retried
          have nonnegative := (budgeted.rows row member).1
          have isNext :=
            (ResultHandler.dispose?_eq_retry disposed).1
          rw [← sameCount, wrapI32_eq_self (by omega) (by omega)] at isNext
          subst isNext
          refine ⟨Int.le_add_one le_rfl, ?_⟩
          rw [Job.attemptsSpent_of_begun (by rw [isRunning]; rfl),
            Job.attemptsSpent_of_awaits rfl]
          exact le_rfl
      | complete | expire | deadLetter =>
          exact kept _ rfl (Or.inl rfl)
  | record | increment | patch =>
      exact kept _ rfl (Or.inr rfl)
  | reap =>
      simp only [JobRepository.reapExpiredLeases, Bool.and_eq_true,
        beq_iff_eq] at applies
      refine ⟨le_rfl, ?_⟩
      rw [Job.attemptsSpent_of_awaits (by rw [applies.1]; rfl),
        Job.attemptsSpent_of_awaits rfl]
      exact le_rfl
  | recover =>
      exact (inTurn.goesOn rfl).elim
  | completeTemplate | cancelJob | cancelTemplate | cancelInstances =>
      exact kept _ rfl (Or.inl rfl)

/-- A permitted step takes no attempt back, and pays for a start. -/
private theorem AllBudgeted.pays_row
    (budgeted : state.AllBudgeted)
    (inTurn : state.InTurn action)
    (taken : step? externals state action = some after)
    {old new : Job}
    (oldMember : old ∈ state.jobs.rows)
    (newMember : new ∈ after.jobs.rows)
    (sameId : new.id = old.id) :
    old.attemptCount ≤ new.attemptCount ∧
      (state.starts old.id action).toNat + old.attemptsSpent ≤
        new.attemptsSpent := by
  cases isStart : state.starts old.id action with
  | true =>
      obtain ⟨worker, job, rfl, starting, isJob⟩ := starts_cases isStart
      have awaits :=
        inTurn.starts job (by simp [started?, starting]) old oldMember
          isJob.symm
      rw [row_of_start taken starting oldMember newMember sameId isJob]
      refine ⟨le_rfl, ?_⟩
      rw [Job.attemptsSpent_of_awaits awaits,
        Job.attemptsSpent_of_begun rfl]
      exact (add_comm _ _).le
  | false =>
      rcases rowImage_of_step? taken oldMember newMember sameId with
        rfl | ⟨change, updates, applies, rfl⟩
      · simp
      · simpa using budgeted.spends inTurn updates oldMember applies

/-- The starts that the attempts of a job account for, none without a row. -/
def attemptsSpent (id : Uuid) (state : State config slots) : Int :=
  match state.jobs.find? id with
  | some row => row.attemptsSpent
  | none => 0

theorem attemptsSpent_eq
    {row : Job}
    (member : row ∈ state.jobs.rows) :
    state.attemptsSpent row.id = row.attemptsSpent := by
  have found : state.jobs.find? row.id = some row :=
    RecordTable.find?_eq_some_iff.mpr ⟨member, rfl⟩
  simp only [attemptsSpent, found]

theorem AllBudgeted.attemptsSpent_nonneg
    (budgeted : state.AllBudgeted)
    (id : Uuid) :
    0 ≤ state.attemptsSpent id := by
  unfold attemptsSpent
  split
  · rename_i row found
    have member := (RecordTable.find?_eq_some_iff.mp found).1
    exact (budgeted.rows row member).1.trans
      Job.attemptCount_le_attemptsSpent
  · exact le_rfl

/-- Every permitted step pays for the start it is. -/
private theorem AllBudgeted.pays
    (budgeted : state.AllBudgeted)
    (inTurn : state.InTurn action)
    (taken : step? externals state action = some after)
    (id : Uuid) :
    after.AllBudgeted ∧
      (state.starts id action).toNat + state.attemptsSpent id ≤
        after.attemptsSpent id := by
  have budgetedAfter := budgeted.step inTurn.countsUp taken
  refine ⟨budgetedAfter, ?_⟩
  by_cases exists_row : ∃ row ∈ state.jobs.rows, row.id = id
  · obtain ⟨old, oldMember, rfl⟩ := exists_row
    obtain ⟨new, newMember, identity⟩ :=
      extends_of_step? taken old oldMember
    have sameId := Job.id_eq_of_identity identity
    rw [attemptsSpent_eq oldMember, ← sameId, attemptsSpent_eq newMember,
      sameId]
    exact (budgeted.pays_row inTurn taken oldMember newMember sameId).2
  · have noStart : state.starts id action = false := by
      refine Bool.eq_false_iff.mpr fun isStart => exists_row ?_
      obtain ⟨worker, job, _, starting, isJob⟩ := starts_cases isStart
      obtain ⟨row, member, identity⟩ :=
        (budgeted.grounded.copy_of_expects
          (expects_of_worker starting rfl)).known
      exact ⟨row, member, (Job.id_eq_of_identity identity).trans isJob⟩
    have noRow : state.attemptsSpent id = 0 := by
      unfold attemptsSpent
      split
      · rename_i row found
        exact (exists_row
          ⟨row, RecordTable.find?_eq_some_iff.mp found⟩).elim
      · rfl
    rw [noStart, noRow]
    simpa using budgetedAfter.attemptsSpent_nonneg id

/-- No row has lost an attempt. -/
def AttemptsKept (before after : State config slots) : Prop :=
  ∀ old ∈ before.jobs.rows,
    ∃ new ∈ after.jobs.rows,
      new.id = old.id ∧ old.attemptCount ≤ new.attemptCount

private theorem AttemptsKept.refl
    (state : State config slots) :
    state.AttemptsKept state :=
  fun row member => ⟨row, member, rfl, le_rfl⟩

private theorem AttemptsKept.trans
    {first second third : State config slots}
    (earlier : first.AttemptsKept second)
    (later : second.AttemptsKept third) :
    first.AttemptsKept third := by
  intro row member
  obtain ⟨middle, middleMember, middleId, middleCount⟩ :=
    earlier row member
  obtain ⟨last, lastMember, lastId, lastCount⟩ :=
    later middle middleMember
  exact ⟨last, lastMember, lastId.trans middleId,
    middleCount.trans lastCount⟩

/--
After whatever earlier lifetimes, in one process lifetime whose copies are all
in turn: no row loses an attempt, the retry branch counts one more, and no job
is started more often than its retries allow.
-/
theorem retry_budget_kept
    {clock : Time}
    {leading actions : List (Action config slots)}
    {state final : State config slots}
    (earlier :
      Run externals CountsUp (initial config slots clock) leading state)
    (run : Run externals InTurn state actions final) :
    (∀ old ∈ state.jobs.rows, ∀ new ∈ final.jobs.rows,
        new.id = old.id → old.attemptCount ≤ new.attemptCount) ∧
      (∀ action after,
        final.InTurn action →
        step? externals final action = some after →
        ∀ job ∈ final.retried? action,
        ∀ old ∈ final.jobs.rows, ∀ new ∈ after.jobs.rows,
          old.id = job.id →
          new.id = job.id →
          old.attemptCount < new.attemptCount) ∧
      ∀ row ∈ final.jobs.rows,
        (TransitionSystem.occurrences (step? externals) (starts row.id)
          state actions : Int) ≤ max row.maxRetries 0 + 1 := by
  have budgeted : state.AllBudgeted :=
    earlier.invariant
      (fun budgeted countsUp taken => budgeted.step countsUp taken)
      (allBudgeted_initial clock)
  have budgetedFinal : final.AllBudgeted :=
    run.invariant
      (fun budgeted inTurn taken => budgeted.step inTurn.countsUp taken)
      budgeted
  refine ⟨?_, ?_, ?_⟩
  · have kept : state.AttemptsKept final := by
      refine run.related AttemptsKept.refl AttemptsKept.trans ?_ budgeted
      intro before after action budgeted inTurn taken
      refine ⟨budgeted.step inTurn.countsUp taken, ?_⟩
      intro old oldMember
      obtain ⟨new, newMember, identity⟩ :=
        extends_of_step? taken old oldMember
      have sameId := Job.id_eq_of_identity identity
      exact ⟨new, newMember, sameId,
        (budgeted.pays_row inTurn taken oldMember newMember sameId).1⟩
    intro old oldMember new newMember sameId
    obtain ⟨other, otherMember, otherId, grown⟩ := kept old oldMember
    rwa [RecordTable.eq_of_primary newMember otherMember
      (sameId.trans otherId.symm)]
  · intro action after inTurn taken job retried old oldMember new
      newMember oldId newId
    obtain ⟨isRunning, _⟩ := inTurn.retries job retried old oldMember oldId
    have isScheduled := scheduled_of_retry taken retried newMember newId
    have paid :=
      (budgetedFinal.pays_row inTurn taken oldMember newMember
        (newId.trans oldId.symm)).2
    rw [Job.attemptsSpent_of_begun (by rw [isRunning]; rfl),
      Job.attemptsSpent_of_awaits (by rw [isScheduled]; rfl)] at paid
    omega
  · intro row member
    have paid :=
      run.occurrences_add_le
        (fun budgeted inTurn taken => budgeted.pays inTurn taken row.id)
        budgeted
    rw [attemptsSpent_eq member] at paid
    have before := budgeted.attemptsSpent_nonneg row.id
    have after := @Job.attemptsSpent_le row
    have within := (budgetedFinal.rows row member).2
    omega

end State

/-! ## Concrete runs -/

namespace Sample

/-- Job 1 fails, is retried a minute later and succeeds. -/
def failThenSucceed : List (Action config 1) :=
  createAndSend ++ begin 0 ++
  [ .worker 0 (.execute fails),
    .worker 0 (.settle .ok),
    .worker 0 .notifyOne,
    .worker 0 .deactivate,
    .scheduler .dispatchDone,
    .scheduler .notified,
    .scheduler (.refresh [⟨1, 60000000⟩]),
    .tick 60000000,
    .scheduler .sleepElapsed,
    .scheduler (.lease ⟨1, 60000000⟩ .ok),
    .scheduler .trySend ] ++
  begin 0 ++
  [ .worker 0 (.execute succeeds),
    .worker 0 (.settle .ok) ]

/-- Both of its starts are within the budget of three retries. -/
theorem retried_job_within_budget :
    ∃ final,
      State.Run externals State.InTurn (State.initial config 1 0)
          failThenSucceed final ∧
        TransitionSystem.occurrences (State.step? externals)
            (State.starts 1) (State.initial config 1 0)
            failThenSucceed = 2 ∧
        ∀ row ∈ final.jobs.rows,
          (TransitionSystem.occurrences (State.step? externals)
            (State.starts row.id) (State.initial config 1 0)
            failThenSucceed : Int) ≤ max row.maxRetries 0 + 1 := by
  obtain ⟨final, run, _⟩ :=
    TransitionSystem.exists_run_of_replay?
      (State.step? externals) State.InTurn
      (State.initial config 1 0) failThenSucceed
      (fun _ => True) (by decide)
  exact ⟨final, run, by decide,
    (State.retry_budget_kept (.nil _) run).2.2⟩

/-- Job 1 is leased again while its first copy waits; both copies start. -/
def startTwice : List (Action config 1) :=
  createAndSend ++
  [ .scheduler .dispatchDone,
    .tick 31000000,
    .reaper (.reap .ok),
    .reaper .notifyOne,
    .scheduler .notified,
    .scheduler (.refresh [⟨1, 0⟩]),
    .scheduler .sleepElapsed,
    .scheduler (.lease ⟨1, 0⟩ .ok),
    .scheduler .trySend ] ++
  begin 0 ++ begin 1 ++
  [ .worker 0 (.execute fails),
    .worker 1 (.execute fails),
    .worker 0 (.settle .ok) ]

/-- The second failure counts as the first one again. -/
theorem attempt_is_lost :
    ∃ state after,
      State.Run externals TransitionSystem.Unrestricted
          (State.initial config 1 0) startTwice state ∧
        State.Run externals TransitionSystem.Unrestricted state
          [.worker 1 (.settle .ok)] after ∧
        (state.retried? (.worker 1 (.settle .ok))).map Job.id = some 1 ∧
        (state.jobs.rows.map fun row => (row.id, row.attemptCount)) =
          [(1, 1)] ∧
        (after.jobs.rows.map fun row => (row.id, row.attemptCount)) =
          [(1, 1)] := by
  obtain ⟨state, after, run, settled, checked⟩ :=
    TransitionSystem.exists_runs_of_replay?
      (State.step? externals) TransitionSystem.Unrestricted
      (State.initial config 1 0) startTwice [.worker 1 (.settle .ok)]
      (fun state after =>
        (state.retried? (.worker 1 (.settle .ok))).map Job.id = some 1 ∧
          (state.jobs.rows.map fun row => (row.id, row.attemptCount)) =
            [(1, 1)] ∧
          (after.jobs.rows.map fun row => (row.id, row.attemptCount)) =
            [(1, 1)])
      (by decide)
  exact ⟨state, after, run, settled, checked⟩

end Sample

end Kronkeeper
