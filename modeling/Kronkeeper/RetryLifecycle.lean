import Kronkeeper.BoundedRetry
import Kronkeeper.RetryBudget
import Kronkeeper.SequentialAttempts
import Kronkeeper.WorkerCapacity

namespace Kronkeeper

/-!
# The life of a job under retries

A job without a deadline is attempted until its first success, but no more than
once and then `max_retries` times again; then it is COMPLETED or DEAD_LETTER.
-/

open BoundedRetry

/-- An execution with this result that takes no time. -/
def Execution.withResult (result : ExecutionResult) : Execution where
  leasedAfter := 0
  startedAfter := 0
  handledAfter := 0
  settledAfter := 0
  result := result
  retryAt := 0
  rest := []

/-- The job has been executed so often, with these results. -/
inductive Executed
    (config : Config)
    (externals : Externals)
    (id : Uuid)
    (start : Shared)
    (results : Nat → ExecutionResult) : Nat → Shared → Prop where
  | start : Executed config externals id start results 0 start
  | next
      {count : Nat}
      {before after : Shared}
      {execution : Execution}
      (earlier : Executed config externals id start results count before)
      (sameResult : execution.result = results count)
      (attempted :
        execution.attempt? config externals id before = some after) :
      Executed config externals id start results (count + 1) after

/-- A job as its `INSERT` leaves it, if it has no deadline. -/
structure FreshJob (jobs : JobTable) (id : Uuid) (row : Job) : Prop where
  member : row ∈ jobs.rows
  sameId : row.id = id
  notTemplate : row.isTemplate = false
  scheduled : row.state = .scheduled
  unattempted : row.attemptCount = 0

/-- How often the job may be executed. -/
def Job.executionLimit (row : Job) : Nat :=
  (max row.maxRetries 0).toNat + 1

/-- The row of the job after so many executions. -/
inductive AttemptStands
    (outcomes : Nat → Bool)
    (limit : Nat)
    (current : Job) : Nat → Prop where
  | waits
      {count : Nat}
      (pending : Pending outcomes limit count)
      (scheduled : current.state = .scheduled)
      (attempts : current.attemptCount = count) :
      AttemptStands outcomes limit current count
  | ended
      {count : Nat}
      (succeeded : Bool)
      (stops : StopsAfter outcomes limit count succeeded)
      (isState :
        current.state = if succeeded then .completed else .deadLetter) :
      AttemptStands outcomes limit current count

/-! ## The branch of one execution -/

section Disposition

variable {execution : Execution}
variable {row : Job}
variable {clock : Time}

theorem Execution.disposition_of_success
    (succeeded : execution.result.success = true) :
    execution.disposition clock row = .complete :=
  if_pos succeeded

theorem Execution.disposition_of_failure
    (failed : execution.result.success = false)
    (notExpired :
      ∀ expiresAt ∈ row.expiresAt,
        ¬expiresAt ≤ execution.handledAt clock) :
    execution.disposition clock row =
      if row.maxRetries < wrapI32 (row.attemptCount + 1) then
        .deadLetter
      else
        .retry execution.retryAt (wrapI32 (row.attemptCount + 1)) := by
  have notExpiredHere :
      ¬(row.expiresAt.any fun expiresAt =>
          decide (expiresAt ≤ execution.handledAt clock)) = true := by
    rw [ResultHandler.expired_iff]
    rintro ⟨expiresAt, isDeadline, passed⟩
    exact notExpired expiresAt isDeadline passed
  have notSucceeded : ¬execution.result.success = true := by
    rw [failed]
    exact Bool.false_ne_true
  rw [disposition, ResultHandler.disposeAt, ResultHandler.branch,
    if_neg notSucceeded, if_neg notExpiredHere]
  rfl

end Disposition

/-! ## The lifecycle -/

section Lifecycle

variable {config : Config}
variable {externals : Externals}
variable {id : Uuid}
variable {start : Shared}
variable {row : Job}
variable {results : Nat → ExecutionResult}

/-- Whether the execution after so many earlier ones succeeds. -/
abbrev successes (results : Nat → ExecutionResult) (count : Nat) : Bool :=
  (results count).success

/-- One execution more. -/
theorem AttemptStands.next
    {count : Nat}
    {current next : Job}
    {execution : Execution}
    {clock : Time}
    (stands :
      AttemptStands (successes results) row.executionLimit current count)
    (identity : current.identity = row.identity)
    (noDeadline : row.expiresAt = none)
    (bounded : max row.maxRetries 0 < 2 ^ 31 - 1)
    (scheduled : current.state = .scheduled)
    (sameResult : execution.result = results count)
    (settled :
      SettledRow current next (execution.disposition clock current)) :
    AttemptStands (successes results) row.executionLimit next
      (count + 1) := by
  cases stands with
  | ended succeeded stops isState =>
      rw [scheduled] at isState
      cases succeeded <;> cases isState
  | waits pending _ attempts =>
      cases outcome : execution.result.success with
      | true =>
          have stops := pending.succeeds
            (show successes results count = true by
              rw [successes, ← sameResult, outcome])
          have state := settled.state
          rw [Execution.disposition_of_success outcome] at state
          exact .ended true stops state
      | false =>
          have failure : successes results count = false := by
            rw [successes, ← sameResult, outcome]
          have sameLimit : current.maxRetries = row.maxRetries :=
            congrArg JobIdentity.maxRetries identity
          have sameDeadline : current.expiresAt = row.expiresAt :=
            congrArg JobIdentity.expiresAt identity
          have within : count < row.executionLimit := pending.within
          unfold Job.executionLimit at within
          have noWrap :
              wrapI32 (current.attemptCount + 1) = (count : Int) + 1 := by
            rw [attempts]
            exact wrapI32_eq_self (by omega) (by omega)
          have notExpired :
              ∀ expiresAt ∈ current.expiresAt,
                ¬expiresAt ≤ execution.handledAt clock := by
            rw [sameDeadline, noDeadline]
            exact fun _ isDeadline => by cases isDeadline
          have branch :=
            Execution.disposition_of_failure outcome notExpired
          rw [noWrap, sameLimit] at branch
          by_cases exhausted : row.maxRetries < (count : Int) + 1
          · rw [if_pos exhausted] at branch
            have state := settled.state
            rw [branch] at state
            refine .ended false (pending.exhausts failure ?_) state
            unfold Job.executionLimit
            omega
          · rw [if_neg exhausted] at branch
            have state := settled.state
            have attemptCount := settled.attemptCount
            rw [branch] at state attemptCount
            refine .waits (pending.fails failure ?_) state ?_
            · unfold Job.executionLimit
              omega
            · rw [attemptCount]
              push_cast
              rfl

/-- Where the row stands after any number of executions. -/
theorem Executed.stands
    {count : Nat}
    {reached : Shared}
    (fresh : FreshJob start.jobs id row)
    (noDeadline : row.expiresAt = none)
    (bounded : max row.maxRetries 0 < 2 ^ 31 - 1)
    (executed :
      Executed config externals id start results count reached) :
    ∃ current ∈ reached.jobs.rows,
      current.identity = row.identity ∧
        AttemptStands (successes results) row.executionLimit current
          count := by
  induction executed with
  | start =>
      exact ⟨row, fresh.member, rfl,
        .waits (pending_zero (Nat.succ_pos _)) fresh.scheduled
          fresh.unattempted⟩
  | @next count before after execution _ sameResult attempted
      inductionHypothesis =>
      obtain ⟨current, member, identity, stands⟩ := inductionHypothesis
      obtain ⟨scheduled, next, nextMember, settled⟩ :=
        Execution.attempt?_row member
          ((Job.id_eq_of_identity identity).trans fresh.sameId)
          ((Job.isTemplate_eq_of_identity identity).trans
            fresh.notTemplate)
          attempted
      exact ⟨next, nextMember, settled.identity.trans identity,
        stands.next identity noDeadline bounded scheduled sameResult
          settled⟩

/-- The job is executed exactly so often, ends like this and stays there. -/
structure ExecutedExactly
    (config : Config)
    (externals : Externals)
    (id : Uuid)
    (start : Shared)
    (results : Nat → ExecutionResult)
    (total : Nat)
    (final : JobState) : Prop where
  counts :
    ∀ count,
      (∃ reached,
        Executed config externals id start results count reached) ↔
        count ≤ total
  ends :
    ∀ reached,
      Executed config externals id start results total reached →
      ∃ current ∈ reached.jobs.rows,
        current.id = id ∧ current.state = final
  neverLeased :
    ∀ reached,
      Executed config externals id start results total reached →
      ∀ now leaseDurationSecs,
        reached.jobs.returning
          (JobRepository.leaseJob now id leaseDurationSecs) = none

/-- A job that has been executed to its end is in the final state. -/
private theorem Executed.final_row
    {reached : Shared}
    {total : Nat}
    {succeeded : Bool}
    (executed : Executed config externals id start results total reached)
    (fresh : FreshJob start.jobs id row)
    (noDeadline : row.expiresAt = none)
    (bounded : max row.maxRetries 0 < 2 ^ 31 - 1)
    (stops :
      StopsAfter (successes results) row.executionLimit total
        succeeded) :
    ∃ current ∈ reached.jobs.rows,
      current.id = id ∧
        current.state =
          if succeeded then .completed else .deadLetter := by
  obtain ⟨current, member, identity, stands⟩ :=
    executed.stands fresh noDeadline bounded
  refine ⟨current, member,
    (Job.id_eq_of_identity identity).trans fresh.sameId, ?_⟩
  cases stands with
  | waits pending =>
      exact absurd (pending.lt stops) (Nat.lt_irrefl total)
  | ended other otherStops isState =>
      rw [(stops.unique otherStops).2]
      exact isState

/-- No job is executed after its end. -/
private theorem Executed.count_le
    {reached : Shared}
    {count total : Nat}
    {succeeded : Bool}
    (executed : Executed config externals id start results count reached)
    (fresh : FreshJob start.jobs id row)
    (noDeadline : row.expiresAt = none)
    (bounded : max row.maxRetries 0 < 2 ^ 31 - 1)
    (stops :
      StopsAfter (successes results) row.executionLimit total
        succeeded) :
    count ≤ total := by
  obtain ⟨current, _, _, stands⟩ :=
    executed.stands fresh noDeadline bounded
  cases stands with
  | waits pending =>
      exact Nat.le_of_lt (pending.lt stops)
  | ended other otherStops _ =>
      exact Nat.le_of_eq (otherStops.unique stops).1

/-- Up to its end it can be executed once more. -/
private theorem exists_executed_of_le
    {count total : Nat}
    {succeeded : Bool}
    (fresh : FreshJob start.jobs id row)
    (noDeadline : row.expiresAt = none)
    (bounded : max row.maxRetries 0 < 2 ^ 31 - 1)
    (stops :
      StopsAfter (successes results) row.executionLimit total
        succeeded)
    (within : count ≤ total) :
    ∃ reached,
      Executed config externals id start results count reached := by
  induction count with
  | zero =>
      exact ⟨start, .start⟩
  | succ count inductionHypothesis =>
      obtain ⟨reached, executed⟩ := inductionHypothesis (by omega)
      obtain ⟨current, member, identity, stands⟩ :=
        executed.stands fresh noDeadline bounded
      cases stands with
      | ended other otherStops _ =>
          have same := (otherStops.unique stops).1
          omega
      | waits _ scheduled _ =>
          have next :
              ∃ rest after,
                ({ Execution.withResult (results count) with
                    rest := rest } : Execution).attempt? config
                  externals id reached = some after :=
            Execution.exists_attempt? _ member
              ((Job.id_eq_of_identity identity).trans fresh.sameId)
              scheduled
          obtain ⟨rest, after, attempted⟩ := next
          exact ⟨after, .next executed rfl attempted⟩

theorem executedExactly_of_stopsAfter
    {total : Nat}
    {succeeded : Bool}
    (fresh : FreshJob start.jobs id row)
    (noDeadline : row.expiresAt = none)
    (bounded : max row.maxRetries 0 < 2 ^ 31 - 1)
    (stops :
      StopsAfter (successes results) row.executionLimit total
        succeeded) :
    ExecutedExactly config externals id start results total
      (if succeeded then .completed else .deadLetter) where
  counts := fun count =>
    ⟨fun ⟨_, executed⟩ =>
        executed.count_le fresh noDeadline bounded stops,
      exists_executed_of_le fresh noDeadline bounded stops⟩
  ends := fun _ executed =>
    executed.final_row fresh noDeadline bounded stops
  neverLeased := by
    intro reached executed now leaseDurationSecs
    obtain ⟨current, member, sameId, isState⟩ :=
      executed.final_row fresh noDeadline bounded stops
    rw [RecordTable.returning_eq_none_iff]
    intro other otherMember
    by_cases isCurrent : other.id = id
    · obtain rfl :=
        RecordTable.eq_of_primary otherMember member
          (isCurrent.trans sameId.symm)
      cases succeeded <;>
        simp [JobRepository.leaseJob, isState]
    · simp [JobRepository.leaseJob, isCurrent]

/--
Before each execution the row counts the executions so far; the job is executed
up to its first success, or as often as the budget admits, and never leased
again after that.
-/
theorem sequential_retry_lifecycle
    (fresh : FreshJob start.jobs id row)
    (noDeadline : row.expiresAt = none)
    (bounded : max row.maxRetries 0 < 2 ^ 31 - 1)
    (results : Nat → ExecutionResult) :
    (∀ count reached (execution : Execution) after,
      Executed config externals id start results count reached →
      execution.attempt? config externals id reached = some after →
      ∃ current ∈ reached.jobs.rows,
        current.id = id ∧ current.attemptCount = count) ∧
      (∀ count < row.executionLimit,
        (∀ earlier < count, (results earlier).success = false) →
        (results count).success = true →
        ExecutedExactly config externals id start results (count + 1)
          .completed) ∧
      ((∀ earlier < row.executionLimit,
          (results earlier).success = false) →
        ExecutedExactly config externals id start results
          row.executionLimit .deadLetter) := by
  refine ⟨?_, ?_, ?_⟩
  · intro count reached execution after executed attempted
    obtain ⟨current, member, identity, stands⟩ :=
      executed.stands fresh noDeadline bounded
    have sameId := (Job.id_eq_of_identity identity).trans fresh.sameId
    refine ⟨current, member, sameId, ?_⟩
    obtain ⟨scheduled, _⟩ :=
      Execution.attempt?_row member sameId
        ((Job.isTemplate_eq_of_identity identity).trans fresh.notTemplate)
        attempted
    cases stands with
    | waits _ _ attempts =>
        exact attempts
    | ended succeeded _ isState =>
        rw [scheduled] at isState
        cases succeeded <;> cases isState
  · intro count within failed success
    exact executedExactly_of_stopsAfter fresh noDeadline bounded
      (.succeeds count within failed success)
  · intro failed
    exact executedExactly_of_stopsAfter fresh noDeadline bounded
      (.exhausts failed)

end Lifecycle

/-! ## A concrete job -/

namespace Sample

/-- The row of a job with three retries. -/
def waitingJob : Job :=
  JobRepository.oneOffRow 0 1 clientId (oneOff "key")

/-- An execution result without output. -/
def silentResult (success : Bool) : ExecutionResult where
  success := success
  output := ""
  statusCode := none

theorem fresh_waitingJob :
    FreshJob (sharing waitingJob).jobs 1 waitingJob where
  member := List.mem_singleton_self _
  sameId := rfl
  notTemplate := rfl
  scheduled := rfl
  unattempted := rfl

/-- A success at the third execution ends the job, failures only the budget. -/
theorem three_retries_are_made :
    ExecutedExactly config externals 1 (sharing waitingJob)
        (fun count => silentResult (count == 2)) 3 .completed ∧
      ExecutedExactly config externals 1 (sharing waitingJob)
        (fun _ => silentResult false) 4 .deadLetter := by
  have bounded : max waitingJob.maxRetries 0 < 2 ^ 31 - 1 := by decide
  obtain ⟨_, third, _⟩ :=
    sequential_retry_lifecycle fresh_waitingJob rfl bounded
      (fun count => silentResult (count == 2))
  obtain ⟨_, _, never⟩ :=
    sequential_retry_lifecycle fresh_waitingJob rfl bounded
      (fun _ => silentResult false)
  exact ⟨third 2 (by decide) (by decide) rfl, never fun _ _ => rfl⟩

end Sample

end Kronkeeper
