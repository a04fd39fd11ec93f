import Kronkeeper.UnexecutedTemplates

namespace Kronkeeper

/-!
# The lease column

`reap_expired_leases` compares `leased_until` with the clock, and no comparison
with NULL is true.  A leased row without a deadline would stay leased until the
next start.  The statements that write `state` and not `leased_until` write
neither `SCHEDULED` nor `LEASED`.
-/

/-- The reaper's steps up to and including its next reap. -/
def ReaperTask.untilReaped : ReaperTask → List ReaperAction
  | .ticking => [.reap .ok]
  | .notifying => [.notifyOne, .reap .ok]

/-- The row as `reap_expired_leases` leaves it. -/
def Job.reaped (row : Job) (now : Time) : Job :=
  { row with state := .scheduled, leasedUntil := none, updatedAt := now }

/-- The reaper takes exactly the leased rows whose deadline has passed. -/
theorem JobRepository.reapExpiredLeases_applies_iff
    {now deadline : Time}
    {row : Job}
    (isLeased : row.state = .leased)
    (dated : row.leasedUntil = some deadline) :
    (reapExpiredLeases now).applies row = true ↔ deadline < now := by
  simp [reapExpiredLeases, leaseExpired, isLeased, dated]

namespace State

variable {config : Config} {slots : Nat}
variable {externals : Externals}
variable {state after : State config slots}
variable {action : Action config slots}
variable {change : JobUpdate}

/-- A row that a statement leaves leased has a deadline, or had its lease. -/
theorem Updates.leasedUntil
    (updates : state.Updates action change)
    {row : Job}
    (isLeased : (change.assign row).state = .leased) :
    (∃ deadline, (change.assign row).leasedUntil = some deadline) ∨
      row.state = .leased ∧
        (change.assign row).leasedUntil = row.leasedUntil := by
  cases updates with
  | lease now entry dispatching pops =>
      exact .inl ⟨_, rfl⟩
  | settle worker job result now disposition =>
      cases disposition <;> cases isLeased
  | record | increment | patch =>
      exact .inr ⟨isLeased, rfl⟩
  | giveBack | begin | reap | recover | completeTemplate | cancelJob
  | cancelTemplate | cancelInstances =>
      cases isLeased

/-- Every `INSERT` writes `SCHEDULED`. -/
theorem Inserts.isScheduled
    {row : Job}
    (insertion : state.Inserts externals action row) :
    row.state = .scheduled := by
  cases insertion <;> rfl

/-- A leased row has a deadline. -/
def LeasedDated (state : State config slots) : Prop :=
  ∀ row ∈ state.jobs.rows,
    row.state = .leased → ∃ deadline, row.leasedUntil = some deadline

/-- Only `lease_job` writes `LEASED`, and it writes a deadline with it. -/
theorem LeasedDated.step
    (dated : state.LeasedDated)
    (taken : step? externals state action = some after) :
    after.LeasedDated := by
  intro row member isLeased
  cases tableStep_of_step? taken with
  | same same =>
      rw [same] at member
      exact dated row member isLeased
  | inserted added isAdded insertion =>
      rcases (RecordTable.mem_of_insert? isAdded).mp member with
        old | rfl
      · exact dated row old isLeased
      · rw [insertion.isScheduled] at isLeased
        cases isLeased
  | updated change same updates =>
      rw [same] at member
      obtain ⟨old, oldMember, rfl⟩ := RecordTable.mem_update.mp member
      cases applies : change.applies old with
      | false =>
          rw [RowUpdate.image_of_not_applies applies] at isLeased ⊢
          exact dated old oldMember isLeased
      | true =>
          rw [RowUpdate.image_of_applies applies] at isLeased ⊢
          rcases updates.leasedUntil isLeased with
            opened | ⟨wasLeased, sameLease⟩
          · exact opened
          · rw [sameLease]
            exact dated old oldMember wasLeased

/-- Both halves of the pairing, in every state. -/
structure LeasesPaired (state : State config slots) : Prop where
  scheduled : state.ScheduledUnleased
  leased : state.LeasedDated

theorem LeasesPaired.step
    (paired : state.LeasesPaired)
    (taken : step? externals state action = some after) :
    after.LeasesPaired where
  scheduled := paired.scheduled.step taken
  leased := paired.leased.step taken

theorem leasesPaired_initial
    (clock : Time) :
    (initial config slots clock).LeasesPaired where
  scheduled := fun _ member => by cases member
  leased := fun _ member => by cases member

/-! ## The reaper's next round -/

/-- A successful reap is one `UPDATE` of the table. -/
theorem reap_step?
    (externals : Externals)
    (ticking : state.reaper = .ticking) :
    ∃ after,
      step? externals state (.reaper (.reap .ok)) = some after ∧
        after.jobs =
          state.jobs.update
            (JobRepository.reapExpiredLeases state.clock) := by
  simp only [step?, ticking, ReaperTask.step?]
  split
  · exact ⟨_, rfl, rfl⟩
  · exact ⟨_, rfl, rfl⟩

/-- From any position the reaper comes to its next reap. -/
theorem exists_reaper_round
    (externals : Externals)
    (state : State config slots) :
    ∃ after,
      Run externals TransitionSystem.Unrestricted state
          (state.reaper.untilReaped.map .reaper) after ∧
        after.jobs =
          state.jobs.update
            (JobRepository.reapExpiredLeases state.clock) := by
  cases position : state.reaper with
  | ticking =>
      obtain ⟨after, taken, jobs⟩ := reap_step? externals position
      exact ⟨after, .cons trivial taken (.nil _), jobs⟩
  | notifying =>
      let woken : State config slots :=
        { state with
          toShared := state.toShared.notifyOne
          reaper := .ticking }
      have notified :
          step? externals state (.reaper .notifyOne) = some woken := by
        simp only [step?, position, ReaperTask.step?]
        rfl
      have ticking : woken.reaper = .ticking := rfl
      obtain ⟨after, taken, jobs⟩ := reap_step? externals ticking
      exact ⟨after, .cons trivial notified (.cons trivial taken (.nil _)),
        jobs⟩

/-- The next reap after a deadline puts the row back. -/
theorem exists_release
    (state : State config slots)
    {row : Job}
    (member : row ∈ state.jobs.rows)
    (isLeased : row.state = .leased)
    {deadline : Time}
    (dated : row.leasedUntil = some deadline)
    {elapsed : Nat}
    (past : deadline < state.clock + elapsed) :
    ∃ after,
      Run externals TransitionSystem.Unrestricted state
          (.tick elapsed :: state.reaper.untilReaped.map .reaper) after ∧
        after.jobs.find? row.id =
          some (row.reaped (state.clock + elapsed)) := by
  let later : State config slots :=
    { state with clock := state.clock + elapsed }
  obtain ⟨after, run, jobs⟩ := exists_reaper_round externals later
  refine ⟨after, .cons trivial rfl run, ?_⟩
  rw [jobs, RecordTable.find?_eq_some_iff, RecordTable.mem_update]
  have applies :=
    (JobRepository.reapExpiredLeases_applies_iff isLeased dated).mpr past
  exact ⟨⟨row, member, RowUpdate.image_of_applies applies⟩, rfl⟩

/--
In every state of every run a `SCHEDULED` row has no `leased_until`, and a
`LEASED` row has one: the reaper takes the row exactly after that deadline, and
its next round then puts the row back.
-/
theorem lease_columns_consistent
    {clock : Time}
    {actions : List (Action config slots)}
    {final : State config slots}
    (run :
      Run externals TransitionSystem.Unrestricted
        (initial config slots clock) actions final) :
    ∀ row ∈ final.jobs.rows,
      (row.state = .scheduled → row.leasedUntil = none) ∧
      (row.state = .leased →
        ∃ deadline,
          row.leasedUntil = some deadline ∧
          (∀ now,
            (JobRepository.reapExpiredLeases now).applies row = true ↔
              deadline < now) ∧
          ∀ elapsed : Nat,
            deadline < final.clock + elapsed →
              ∃ after,
                Run externals TransitionSystem.Unrestricted final
                    (.tick elapsed ::
                      final.reaper.untilReaped.map .reaper) after ∧
                  after.jobs.find? row.id =
                    some (row.reaped (final.clock + elapsed))) := by
  have paired : final.LeasesPaired :=
    run.invariant
      (fun paired _ taken => paired.step taken)
      (leasesPaired_initial clock)
  intro row member
  refine ⟨paired.scheduled row member, fun isLeased => ?_⟩
  obtain ⟨deadline, dated⟩ := paired.leased row member isLeased
  refine ⟨deadline, dated, fun now => ?_, fun elapsed past => ?_⟩
  · exact JobRepository.reapExpiredLeases_applies_iff isLeased dated
  · exact exists_release final member isLeased dated past

end State

namespace Sample

/-- A leased job waits in the channel until its deadline at 30 s. -/
theorem waiting_lease_is_dated :
    ∃ final,
      State.Run externals TransitionSystem.Unrestricted
          (State.initial config 1 0) createAndSend final ∧
        (final.jobs.rows.map fun row => (row.state, row.leasedUntil)) =
          [(.leased, some 30000000)] ∧
        ∀ row ∈ final.jobs.rows,
          (row.state = .scheduled → row.leasedUntil = none) ∧
          (row.state = .leased →
            ∃ deadline,
              row.leasedUntil = some deadline ∧
              (∀ now,
                (JobRepository.reapExpiredLeases now).applies row = true ↔
                  deadline < now) ∧
              ∀ elapsed : Nat,
                deadline < final.clock + elapsed →
                  ∃ after,
                    State.Run externals TransitionSystem.Unrestricted final
                        (.tick elapsed ::
                          final.reaper.untilReaped.map .reaper) after ∧
                      after.jobs.find? row.id =
                        some (row.reaped (final.clock + elapsed))) := by
  obtain ⟨final, run, columns⟩ :=
    TransitionSystem.exists_run_of_replay?
      (State.step? externals) TransitionSystem.Unrestricted
      (State.initial config 1 0) createAndSend
      (fun final =>
        (final.jobs.rows.map fun row => (row.state, row.leasedUntil)) =
          [(.leased, some 30000000)])
      (by decide)
  exact ⟨final, run, columns, State.lease_columns_consistent run⟩

end Sample

end Kronkeeper
