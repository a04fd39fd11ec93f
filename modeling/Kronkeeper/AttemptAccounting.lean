import Kronkeeper.RetryLifecycle

namespace Kronkeeper

/-!
# What `attempt_count` reports

`handle` counts the failed attempt before it decides what becomes of the job,
but only `schedule_retry` writes the new count.  So the row counts the failures
as long as every one of them is followed by a retry.
-/

/-- How many of the executions have failed. -/
def failures (executions : List Execution) : Nat :=
  executions.countP fun execution => !execution.result.success

/-- The row of the job is this far on, and if dead, it is beyond its budget. -/
def CountsFailures
    (id : Uuid)
    (failed : Nat)
    (shared : Shared) : Prop :=
  ∃ row ∈ shared.jobs.rows,
    row.id = id ∧ row.attemptCount = failed ∧
      (row.state = .deadLetter → row.maxRetries < row.attemptCount)

/-- The execution succeeds, or its failure leaves another attempt in time. -/
def KeepsCount
    (id : Uuid)
    (before : Shared)
    (execution : Execution) : Prop :=
  execution.result.success = true ∨
    ∀ row ∈ before.jobs.rows,
      row.id = id →
      (∀ expiresAt ∈ row.expiresAt,
        ¬expiresAt ≤ execution.handledAt before.clock) ∧
        row.attemptCount + 1 ≤ row.maxRetries

instance
    (id : Uuid)
    (before : Shared)
    (execution : Execution) :
    Decidable (KeepsCount id before execution) :=
  inferInstanceAs (Decidable (_ ∨ ∀ _ ∈ _, _ → (∀ _ ∈ _, _) ∧ _))

/-- The job as an attempt finds and leaves it. -/
structure AttemptedJob (id : Uuid) (shared : Shared) (row : Job) : Prop where
  member : row ∈ shared.jobs.rows
  sameId : row.id = id
  notTemplate : row.isTemplate = false
  retriesFit : row.maxRetries < 2 ^ 31

theorem wrapI32_le_self
    {value : Int}
    (nonneg : 0 ≤ value) :
    wrapI32 value ≤ value := by
  unfold wrapI32
  rw [Int.bmod_def]
  split <;> omega

section Accounting

variable {config : Config}
variable {externals : Externals}
variable {id : Uuid}
variable {before after start reached : Shared}
variable {execution : Execution}
variable {executions : List Execution}
variable {row : Job}
variable {failed : Nat}

/-- With one row for the job, the condition is about that row. -/
theorem AttemptedJob.keepsCount_iff
    (attemptedJob : AttemptedJob id before row) :
    KeepsCount id before execution ↔
      execution.result.success = true ∨
        (∀ expiresAt ∈ row.expiresAt,
          ¬expiresAt ≤ execution.handledAt before.clock) ∧
          row.attemptCount + 1 ≤ row.maxRetries := by
  refine or_congr_right ⟨fun keeps => ?_, fun keeps other member same => ?_⟩
  · exact keeps row attemptedJob.member attemptedJob.sameId
  · obtain rfl :=
      RecordTable.eq_of_primary member attemptedJob.member
        (same.trans attemptedJob.sameId.symm)
    exact keeps

/-- With one row for the job, the count is that of the row. -/
theorem AttemptedJob.countsFailures_iff
    (attemptedJob : AttemptedJob id before row) :
    CountsFailures id failed before ↔
      row.attemptCount = failed ∧
        (row.state = .deadLetter → row.maxRetries < row.attemptCount) := by
  constructor
  · rintro ⟨other, member, sameId, counts⟩
    obtain rfl :=
      RecordTable.eq_of_primary member attemptedJob.member
        (sameId.trans attemptedJob.sameId.symm)
    exact counts
  · intro counts
    exact ⟨row, attemptedJob.member, attemptedJob.sameId, counts⟩

/-- A failure at or past the deadline expires the job. -/
theorem Execution.disposition_of_expiry
    {clock : Time}
    (failed : execution.result.success = false)
    (expired :
      ∃ expiresAt ∈ row.expiresAt,
        expiresAt ≤ execution.handledAt clock) :
    execution.disposition clock row = .expire := by
  rw [Execution.disposition, ResultHandler.disposeAt,
    ResultHandler.branch,
    if_neg (by rw [failed]; exact Bool.false_ne_true),
    if_pos (ResultHandler.expired_iff.mpr expired)]
  rfl

/-- A row that counts is counted on exactly by a retry or a success. -/
theorem SettledRow.counts_iff
    {current : Job}
    {clock : Time}
    (settled :
      SettledRow row current (execution.disposition clock row))
    (counted : row.attemptCount = failed)
    (retriesFit : row.maxRetries < 2 ^ 31) :
    (current.attemptCount = (failed + failures [execution] : Nat) ∧
        (current.state = .deadLetter →
          current.maxRetries < current.attemptCount)) ↔
      execution.result.success = true ∨
        (∀ expiresAt ∈ row.expiresAt,
          ¬expiresAt ≤ execution.handledAt clock) ∧
          row.attemptCount + 1 ≤ row.maxRetries := by
  have attemptCount := settled.attemptCount
  have state := settled.state
  cases outcome : execution.result.success with
  | true =>
      rw [Execution.disposition_of_success outcome] at attemptCount state
      have noFailure : failures [execution] = 0 := by
        simp [failures, outcome]
      rw [noFailure, attemptCount, state]
      simpa [Disposition.attempts, Disposition.state] using counted
  | false =>
      have oneFailure : failures [execution] = 1 := by
        simp [failures, outcome]
      rw [oneFailure, or_iff_right Bool.false_ne_true]
      by_cases expired :
          ∃ expiresAt ∈ row.expiresAt,
            expiresAt ≤ execution.handledAt clock
      · rw [Execution.disposition_of_expiry outcome expired] at attemptCount
        constructor
        · rintro ⟨counts, _⟩
          simp only [Disposition.attempts] at attemptCount
          omega
        · rintro ⟨notExpired, _⟩
          obtain ⟨expiresAt, isDeadline, passed⟩ := expired
          exact (notExpired expiresAt isDeadline passed).elim
      · have notExpired :
            ∀ expiresAt ∈ row.expiresAt,
              ¬expiresAt ≤ execution.handledAt clock :=
          fun expiresAt isDeadline passed =>
            expired ⟨expiresAt, isDeadline, passed⟩
        rw [Execution.disposition_of_failure outcome notExpired]
          at attemptCount state
        by_cases exhausted :
            row.maxRetries < wrapI32 (row.attemptCount + 1)
        · rw [if_pos exhausted] at attemptCount
          have bound : wrapI32 (row.attemptCount + 1) ≤
              row.attemptCount + 1 :=
            wrapI32_le_self (by omega)
          simp only [Disposition.attempts] at attemptCount
          constructor
          · rintro ⟨counts, _⟩
            omega
          · rintro ⟨_, withinBudget⟩
            omega
        · rw [if_neg exhausted] at attemptCount state
          simp only [Disposition.attempts] at attemptCount
          constructor
          · rintro ⟨counts, _⟩
            exact ⟨notExpired, by omega⟩
          · rintro ⟨_, withinBudget⟩
            have noWrap :
                wrapI32 (row.attemptCount + 1) = row.attemptCount + 1 :=
              wrapI32_eq_self (by omega) (by omega)
            refine ⟨by omega, fun isDead => ?_⟩
            rw [state] at isDead
            cases isDead

/-- What an attempt makes of the job, and whether the count stays right. -/
theorem AttemptedJob.next
    (attemptedJob : AttemptedJob id before row)
    (counted : row.attemptCount = failed)
    (attempted :
      execution.attempt? config externals id before = some after) :
    ∃ current,
      AttemptedJob id after current ∧
        (CountsFailures id (failed + failures [execution]) after ↔
          KeepsCount id before execution) := by
  obtain ⟨_, current, member, settled⟩ :=
    Execution.attempt?_row attemptedJob.member attemptedJob.sameId
      attemptedJob.notTemplate attempted
  have sameRetries : current.maxRetries = row.maxRetries :=
    congrArg JobIdentity.maxRetries settled.identity
  have later : AttemptedJob id after current := {
    member := member
    sameId :=
      (Job.id_eq_of_identity settled.identity).trans attemptedJob.sameId
    notTemplate :=
      (Job.isTemplate_eq_of_identity settled.identity).trans
        attemptedJob.notTemplate
    retriesFit := sameRetries ▸ attemptedJob.retriesFit }
  refine ⟨current, later, ?_⟩
  rw [later.countsFailures_iff, attemptedJob.keepsCount_iff]
  exact settled.counts_iff counted attemptedJob.retriesFit

/-! ## Whole sequences of attempts -/

/-- After every handler of the sequence the row counts the failures so far. -/
def AlwaysCounts
    (config : Config)
    (externals : Externals)
    (id : Uuid)
    (failed : Nat)
    (start : Shared)
    (executions : List Execution) : Prop :=
  ∀ leading trailing middle,
    executions = leading ++ trailing →
    TransitionSystem.Run (Execution.attempt? config externals id)
      TransitionSystem.Unrestricted start leading middle →
    CountsFailures id (failed + failures leading) middle

theorem failures_cons
    (execution : Execution)
    (executions : List Execution) :
    failures (execution :: executions) =
      failures [execution] + failures executions := by
  simp only [failures, List.countP_cons, List.countP_nil]
  omega

/-- From a row that counts, it goes on counting exactly if every step keeps it. -/
theorem alwaysCounts_iff
    (run :
      TransitionSystem.Run (Execution.attempt? config externals id)
        TransitionSystem.Unrestricted start executions reached)
    (attemptedJob : AttemptedJob id start row)
    (counts : CountsFailures id failed start) :
    AlwaysCounts config externals id failed start executions ↔
      TransitionSystem.Run (Execution.attempt? config externals id)
        (KeepsCount id) start executions reached := by
  induction run generalizing row failed with
  | nil start =>
      refine iff_of_true ?_ (.nil start)
      intro leading trailing middle split toMiddle
      obtain rfl := (List.append_eq_nil_iff.mp split.symm).1
      cases toMiddle
      exact counts
  | @cons start middle reached execution rest _ taken later
      inductionHypothesis =>
      have counted := (attemptedJob.countsFailures_iff.mp counts).1
      obtain ⟨current, nextJob, stepIff⟩ :=
        attemptedJob.next counted taken
      rw [TransitionSystem.Run.cons_iff taken]
      constructor
      · intro always
        have first := always [execution] rest middle rfl
          (.cons trivial taken (.nil middle))
        refine ⟨stepIff.mp first, ?_⟩
        refine (inductionHypothesis nextJob first).mp ?_
        intro leading trailing reached split toReached
        have whole := always (execution :: leading) trailing reached
          (by rw [split, List.cons_append])
          (.cons trivial taken toReached)
        rw [failures_cons] at whole
        rw [Nat.add_assoc]
        exact whole
      · rintro ⟨keeps, keepsLater⟩
        have first := stepIff.mpr keeps
        have always := (inductionHypothesis nextJob first).mpr keepsLater
        intro leading trailing other split toOther
        cases leading with
        | nil =>
            cases toOther
            exact counts
        | cons head leading =>
            obtain ⟨rfl, sameRest⟩ := List.cons.inj split
            obtain ⟨_, toOther⟩ :=
              (TransitionSystem.Run.cons_iff taken).mp toOther
            rw [failures_cons, ← Nat.add_assoc]
            exact always leading trailing other sameRest toOther

/--
After every handler the row counts the failed executions, and counts beyond its
budget if it is dead, exactly if no failure is handled as an expiry or as the
end of the budget.
-/
theorem attempts_visible_iff
    (fresh : FreshJob start.jobs id row)
    (retriesFit : row.maxRetries < 2 ^ 31)
    (run :
      TransitionSystem.Run (Execution.attempt? config externals id)
        TransitionSystem.Unrestricted start executions reached) :
    AlwaysCounts config externals id 0 start executions ↔
      TransitionSystem.Run (Execution.attempt? config externals id)
        (KeepsCount id) start executions reached := by
  have attemptedJob : AttemptedJob id start row :=
    ⟨fresh.member, fresh.sameId, fresh.notTemplate, retriesFit⟩
  refine alwaysCounts_iff run attemptedJob ?_
  refine attemptedJob.countsFailures_iff.mpr ⟨fresh.unattempted, ?_⟩
  intro isDead
  rw [fresh.scheduled] at isDead
  cases isDead

end Accounting

/-! ## Concrete jobs -/

namespace Sample

/-- The row of a job without retries. -/
def unretriedJob : Job :=
  { waitingJob with maxRetries := 0 }

/-- A failure, a retry a minute later, and a success. -/
def failOnce : List Execution :=
  [ { Execution.withResult (silentResult false) with
      retryAt := 60000000, rest := [(0, .notifyOne)] },
    { Execution.withResult (silentResult true) with
      leasedAfter := 60000000, rest := [(0, .emit .ok)] } ]

/-- With a retry in between, the completed job reports its one failure. -/
theorem retried_failure_is_counted :
    ∃ reached,
      TransitionSystem.Run (Execution.attempt? config externals 1)
          TransitionSystem.Unrestricted (sharing waitingJob) failOnce
          reached ∧
        AlwaysCounts config externals 1 0 (sharing waitingJob)
          failOnce := by
  have retriesFit : waitingJob.maxRetries < 2 ^ 31 := by decide
  obtain ⟨reached, run, _⟩ :=
    TransitionSystem.exists_run_of_replay?
      (Execution.attempt? config externals 1)
      (KeepsCount 1) (sharing waitingJob) failOnce
      (fun reached => reached.jobs.rows.map Job.attemptCount = [1])
      (by decide)
  have unrestricted := run.mono fun _ _ _ => trivial
  exact ⟨reached, unrestricted,
    (attempts_visible_iff fresh_waitingJob retriesFit unrestricted).mpr
      run⟩

/-- The only failure of a job without retries. -/
def failForGood : List Execution :=
  [ { Execution.withResult (silentResult false) with
      rest := [(0, .emit .ok)] } ]

/-- What a row shows of its attempts. -/
def attemptsShown (row : Job) : JobState × Int × Int :=
  (row.state, row.attemptCount, row.maxRetries)

/-- A dead job with a failure reports none. -/
theorem dead_letter_is_not_counted :
    ∃ reached,
      TransitionSystem.Run (Execution.attempt? config externals 1)
          TransitionSystem.Unrestricted (sharing unretriedJob)
          failForGood reached ∧
        failures failForGood = 1 ∧
        reached.jobs.rows.map attemptsShown = [(.deadLetter, 0, 0)] ∧
        ¬CountsFailures 1 (failures failForGood) reached := by
  obtain ⟨reached, run, rows⟩ :=
    TransitionSystem.exists_run_of_replay?
      (Execution.attempt? config externals 1)
      TransitionSystem.Unrestricted (sharing unretriedJob) failForGood
      (fun reached =>
        reached.jobs.rows.map attemptsShown = [(.deadLetter, 0, 0)])
      (by decide)
  refine ⟨reached, run, rfl, rows, ?_⟩
  rintro ⟨row, member, _, counts, _⟩
  have shown : attemptsShown row ∈ reached.jobs.rows.map attemptsShown :=
    List.mem_map_of_mem member
  rw [rows, List.mem_singleton] at shown
  have noAttempts : row.attemptCount = 0 :=
    congrArg (fun shown => shown.2.1) shown
  rw [noAttempts] at counts
  exact absurd counts (by decide)

end Sample

end Kronkeeper
