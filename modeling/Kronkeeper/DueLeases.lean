import Kronkeeper.RowHistory

namespace Kronkeeper

/-!
# Leases and due times

The dispatch loop goes by the `scheduled_at` of a heap entry, `lease_job` by
the state of the row.  The row is due whenever its entry is, as long as nobody
puts a row off of which the heap still lists an earlier instant.
-/

namespace SchedulerTask

variable {config : Config}
variable {channelClosed : Bool}
variable {shared after : Shared}
variable {heap : List ScheduledJob}
variable {position : SchedulerPosition}
variable {action : SchedulerAction}
variable {next : SchedulerTask}

/-- A heap entry was there before, or has just been read from its row. -/
theorem Move.heap_cases
    (moved :
      Move config channelClosed shared heap position action after next)
    {entry : ScheduledJob}
    (member : entry ∈ next.heap) :
    entry ∈ heap ∨
      after.jobs = shared.jobs ∧
        ∃ row ∈ shared.jobs.rows,
          row.id = entry.id ∧ row.scheduledAt = entry.scheduledAt := by
  cases moved with
  | refresh fetched answers =>
      have listed := answers.2.mem_rows member
      simp only [JobRepository.scheduledJobs, List.mem_map] at listed
      obtain ⟨row, rowMember, rfl⟩ := listed
      exact Or.inr ⟨rfl, row, List.mem_of_mem_filter rowMember, rfl, rfl⟩
  | lease | leaseMisses | leaseFails =>
      exact Or.inl (List.mem_of_mem_erase member)
  | _ =>
      exact Or.inl member

end SchedulerTask

namespace State

variable {config : Config} {slots : Nat}

/-- The instant a dispatch goes by and the row it leases. -/
def leased?
    (state : State config slots) :
    Action config slots → Option (Time × Job)
  | .scheduler (.lease entry .ok) =>
      match state.scheduler.position with
      | .dispatching now =>
          (state.jobs.returning
            (JobRepository.leaseJob state.clock entry.id
              config.leaseDurationSecs)).map fun job => (now, job)
      | _ => none
  | _ => none

/-- A row is put off only if the heap lists no earlier instant for it. -/
def PutsOffUnlisted
    (state : State config slots)
    (action : Action config slots) : Prop :=
  ∀ reschedule ∈ state.reschedule? action,
    ∀ entry ∈ state.scheduler.heap,
      entry.id = reschedule.id →
      reschedule.scheduledAt ≤ entry.scheduledAt

instance decidablePutsOffUnlisted
    (state : State config slots)
    (action : Action config slots) :
    Decidable (state.PutsOffUnlisted action) :=
  (state.reschedule? action).decidableForallMem

/-- Every row is due by the instant the heap lists for it. -/
structure ListsDue (state : State config slots) : Prop where
  grounded : state.Grounded
  due :
    ∀ entry ∈ state.scheduler.heap, ∀ row ∈ state.jobs.rows,
      row.id = entry.id → row.scheduledAt ≤ entry.scheduledAt

theorem listsDue_booted
    (clock : Time)
    (jobs : JobTable) :
    (booted config slots clock jobs).ListsDue where
  grounded := grounded_booted clock jobs
  due := fun _ member => by cases member

variable {externals : Externals}
variable {state after : State config slots}
variable {action : Action config slots}

/-- A heap entry survives a step, or was read from its row in it. -/
theorem heap_cases_of_step?
    (taken : step? externals state action = some after)
    {entry : ScheduledJob}
    (member : entry ∈ after.scheduler.heap) :
    entry ∈ state.scheduler.heap ∨
      after.jobs = state.jobs ∧
        ∃ row ∈ state.jobs.rows,
          row.id = entry.id ∧ row.scheduledAt = entry.scheduledAt := by
  cases move_of_step? taken with
  | scheduler action shared task moved =>
      exact moved.heap_cases member
  | worker worker action shared task moved =>
      rw [dropClosed_scheduler] at member
      exact Or.inl member
  | restart =>
      cases member
  | tick | reaper | api | shutdown =>
      exact Or.inl member

theorem ListsDue.step
    (lists : state.ListsDue)
    (permitted : state.PutsOffUnlisted action)
    (taken : step? externals state action = some after) :
    after.ListsDue where
  grounded := lists.grounded.step taken
  due := by
    intro entry listed row member sameId
    rcases heap_cases_of_step? taken listed with
      listedBefore | ⟨sameJobs, read, readMember, readId, readTime⟩
    · obtain ⟨old, oldMember, oldId, _⟩ :=
        lists.grounded.scheduler.heap entry listedBefore
      rcases schedule_of_step? taken oldMember member
          (sameId.trans oldId.symm) with ⟨sameTime, _⟩ | ⟨puts, _⟩
      · rw [sameTime]
        exact lists.due entry listedBefore old oldMember oldId
      · exact permitted _ puts entry listedBefore oldId.symm
    · rw [sameJobs] at member
      have same : row = read :=
        RecordTable.eq_of_primary member readMember
          (sameId.trans readId.symm)
      rw [same, readTime]

/-- What a dispatch leases is due at the instant it goes by. -/
theorem ListsDue.due_of_leased
    (lists : state.ListsDue)
    (taken : step? externals state action = some after)
    {now : Time}
    {job : Job}
    (leased : state.leased? action = some (now, job)) :
    job.scheduledAt ≤ now := by
  cases move_of_step? taken with
  | scheduler schedulerAction shared task moved =>
      generalize position : state.scheduler.position = current at moved
      cases moved with
      | lease started entry row pops returned =>
          simp only [leased?, position, returned, Option.map_some,
            Option.some.injEq, Prod.mk.injEq] at leased
          obtain ⟨rfl, rfl⟩ := leased
          obtain ⟨old, oldMember, applies, rfl⟩ :=
            RecordTable.returning_eq_some returned
          simp only [JobRepository.leaseJob, Bool.and_eq_true,
            beq_iff_eq] at applies
          calc
            old.scheduledAt ≤ entry.scheduledAt :=
              lists.due entry pops.1.1 old oldMember applies.1
            _ ≤ started := pops.2
      | leaseMisses started entry pops missed =>
          simp [leased?, position, missed] at leased
      | _ =>
          cases leased
  | _ =>
      cases leased

/--
In every run, from any table, that puts rows off only unlisted, whatever a
dispatch leases next is due at the instant it goes by.
-/
theorem leases_due
    {clock : Time}
    {jobs : JobTable}
    {actions : List (Action config slots)}
    (run :
      Run externals PutsOffUnlisted (booted config slots clock jobs)
        actions state)
    (taken : step? externals state action = some after) :
    ∀ lease ∈ state.leased? action, lease.2.scheduledAt ≤ lease.1 := by
  have lists : state.ListsDue :=
    run.invariant
      (fun lists permitted taken => lists.step permitted taken)
      (listsDue_booted clock jobs)
  exact fun lease leased => lists.due_of_leased taken leased

end State

/-! ## Concrete runs -/

namespace Sample

/-- The retry of job 1, one minute later, up to its lease. -/
def failAndDispatch : List (Action config 1) :=
  createAndSend ++ begin 0 ++
  [ .scheduler .dispatchDone,
    .worker 0 (.execute fails),
    .worker 0 (.settle .ok),
    .worker 0 .notifyOne,
    .scheduler .notified,
    .scheduler (.refresh [⟨1, 60000000⟩]),
    .tick 60000000,
    .scheduler .sleepElapsed ]

/-- A job that was put off while the heap did not list it is leased in time. -/
theorem retry_lease_is_due :
    ∃ state,
      State.Run externals State.PutsOffUnlisted
          (State.booted config 1 0 RecordTable.empty) failAndDispatch
          state ∧
        (state.leased? (.scheduler (.lease ⟨1, 60000000⟩ .ok))).isSome ∧
        ∀ lease ∈ state.leased? (.scheduler (.lease ⟨1, 60000000⟩ .ok)),
          lease.2.scheduledAt ≤ lease.1 := by
  obtain ⟨state, run, leases, goesOn⟩ :=
    TransitionSystem.exists_run_of_replay?
      (State.step? externals) State.PutsOffUnlisted
      (State.booted config 1 0 RecordTable.empty) failAndDispatch
      (fun state =>
        (state.leased? (.scheduler (.lease ⟨1, 60000000⟩ .ok))).isSome ∧
          (State.step? externals state
            (.scheduler (.lease ⟨1, 60000000⟩ .ok))).isSome)
      (by decide)
  obtain ⟨after, taken⟩ := Option.isSome_iff_exists.mp goesOn
  exact ⟨state, run, leases, State.leases_due run taken⟩

/--
The lease of job 1 expires in the channel and the heap lists it again; then
its copy fails, and the row is put off to 91 s while the entry stays.
-/
def putOffListed : List (Action config 1) :=
  createAndSend ++
  [ .scheduler .dispatchDone,
    .tick 31000000,
    .reaper (.reap .ok),
    .reaper .notifyOne,
    .scheduler .notified,
    .scheduler (.refresh [⟨1, 0⟩]),
    .worker 0 .recv,
    .worker 0 .activate,
    .worker 0 (.setRunning .ok),
    .worker 0 (.execute fails),
    .worker 0 (.settle .ok),
    .scheduler .sleepElapsed ]

/-- At 31 s the dispatch leases a row that is due at 91 s. -/
theorem retry_is_leased_early :
    ∃ state,
      State.Run externals TransitionSystem.Unrestricted
          (State.initial config 1 0) putOffListed state ∧
        (State.step? externals state
          (.scheduler (.lease ⟨1, 0⟩ .ok))).isSome ∧
        (state.leased? (.scheduler (.lease ⟨1, 0⟩ .ok))).map
            (fun lease => (lease.1, lease.2.id, lease.2.scheduledAt)) =
          some (31000000, 1, 91000000) :=
  TransitionSystem.exists_run_of_replay? _ _ _ _ _ (by decide)

end Sample

end Kronkeeper
