import Kronkeeper.TaskMoves

namespace Kronkeeper

/-!
# Recovery at a restart

`recover_on_startup` takes back rows whose lease is over, the first reap after
the last deadline takes back the leases that were still open.  Between the two
falls the row that was running under an open lease: recovery leaves it for
later, and the reaper never looks at it.
-/

namespace JobRepository

/-- `recover_on_startup` passes the row over. -/
def leaseOpen (now : Time) (row : Job) : Bool :=
  row.leasedUntil.isSome && !leaseExpired now row

/-- What recovery and one later reap make of a row. -/
def recovered (startup reaped : Time) (row : Job) : Job :=
  (reapExpiredLeases reaped).image ((recoverOnStartup startup).image row)

variable {startup reaped : Time}
variable {row : Job}

variable (startup reaped row) in
theorem identity_recovered :
    (recovered startup reaped row).identity = row.identity :=
  ((reapExpiredLeases reaped).identity_image _).trans
    ((recoverOnStartup startup).identity_image row)

/-- Rows that nobody was working on are left alone. -/
theorem recovered_of_idle
    (notLeased : row.state ≠ .leased)
    (notRunning : row.state ≠ .running) :
    recovered startup reaped row = row := by
  have skipped :
      (recoverOnStartup startup).image row = row :=
    RowUpdate.image_of_not_applies (by
      simp [recoverOnStartup, notLeased, notRunning])
  unfold recovered
  rw [skipped]
  exact RowUpdate.image_of_not_applies (by
    simp [reapExpiredLeases, notLeased])

/-- A row whose lease is over is scheduled again by the recovery. -/
theorem recovered_of_over
    (orphaned : row.state = .leased ∨ row.state = .running)
    (leaseOver : leaseOpen startup row = false) :
    (recovered startup reaped row).state = .scheduled ∧
      (recovered startup reaped row).leasedUntil = none := by
  have applies : (recoverOnStartup startup).applies row = true := by
    unfold leaseOpen at leaseOver
    cases lease : row.leasedUntil <;>
      simp_all [recoverOnStartup, leaseExpired]
  unfold recovered
  rw [RowUpdate.image_of_applies applies,
    RowUpdate.image_of_not_applies rfl]
  exact ⟨rfl, rfl⟩

/-- A lease that was still open is reaped once its deadline has passed. -/
theorem recovered_of_open_leased
    (leased : row.state = .leased)
    (isOpen : leaseOpen startup row = true)
    (late : leaseExpired reaped row = true) :
    (recovered startup reaped row).state = .scheduled ∧
      (recovered startup reaped row).leasedUntil = none := by
  have skipped :
      (recoverOnStartup startup).image row = row :=
    RowUpdate.image_of_not_applies (by
      unfold leaseOpen at isOpen
      cases lease : row.leasedUntil <;>
        simp_all [recoverOnStartup, leaseExpired])
  unfold recovered
  rw [skipped, RowUpdate.image_of_applies (by
    simp [reapExpiredLeases, leased, late])]
  exact ⟨rfl, rfl⟩

/-- A row that was running under an open lease is passed over twice. -/
theorem recovered_of_open_running
    (running : row.state = .running)
    (isOpen : leaseOpen startup row = true) :
    recovered startup reaped row = row := by
  have skipped :
      (recoverOnStartup startup).image row = row :=
    RowUpdate.image_of_not_applies (by
      unfold leaseOpen at isOpen
      cases lease : row.leasedUntil <;>
        simp_all [recoverOnStartup, leaseExpired])
  unfold recovered
  rw [skipped]
  exact RowUpdate.image_of_not_applies (by
    simp [reapExpiredLeases, running])

end JobRepository

namespace State

open JobRepository

variable {config : Config} {slots : Nat}

/-- Nothing is left leased or running, and all of it is scheduled again. -/
def RecoveryComplete (crashed recovered : JobTable) : Prop :=
  (∀ row ∈ recovered.rows,
      row.state ≠ .leased ∧ row.state ≠ .running) ∧
    ∀ old ∈ crashed.rows,
      (old.state = .leased ∨ old.state = .running) →
      ∃ new ∈ recovered.rows,
        new.id = old.id ∧ new.state = .scheduled ∧
          new.leasedUntil = none

instance (crashed recovered : JobTable) :
    Decidable (RecoveryComplete crashed recovered) :=
  inferInstanceAs (Decidable (_ ∧ _))

/-- A restart and a reap some time later, with nothing in between. -/
def restartAndReap (elapsed : Nat) : List (Action config slots) :=
  [.restart, .tick elapsed, .reaper (.reap .ok)]

/-- What a restart and a later reap leave in the table. -/
theorem rows_after_restartAndReap
    {externals : Externals}
    {crashed final : State config slots}
    {elapsed : Nat}
    (run :
      Run externals TransitionSystem.Unrestricted crashed
        (restartAndReap elapsed) final) :
    final.clock = crashed.clock + elapsed ∧
      final.jobs.rows =
        crashed.jobs.rows.map
          (recovered crashed.clock (crashed.clock + elapsed)) := by
  cases run with
  | cons _ restarts rest =>
  cases rest with
  | cons _ ticks rest =>
  cases rest with
  | cons _ reaps rest =>
  cases rest
  cases restarts
  cases ticks
  cases move_of_step? reaps with
  | reaper action shared task moved =>
      cases moved with
      | reap | reapNothing =>
          exact ⟨rfl, List.map_map⟩

/--
After a restart and a reap past every deadline the recovery is complete exactly
if no row was running under a lease still open at the restart.
-/
theorem recoveryComplete_iff
    {externals : Externals}
    {crashed final : State config slots}
    {elapsed : Nat}
    (run :
      Run externals TransitionSystem.Unrestricted crashed
        (restartAndReap elapsed) final)
    (late :
      ∀ row ∈ crashed.jobs.rows,
        ∀ deadline ∈ row.leasedUntil, deadline < final.clock) :
    RecoveryComplete crashed.jobs final.jobs ↔
      ∀ row ∈ crashed.jobs.rows,
        row.state = .running → leaseOpen crashed.clock row = false := by
  obtain ⟨clock, rows⟩ := rows_after_restartAndReap run
  rw [clock] at late
  have scheduledAgain :
      ∀ row ∈ crashed.jobs.rows,
        (row.state = .running → leaseOpen crashed.clock row = false) →
        (row.state = .leased ∨ row.state = .running) →
        (recovered crashed.clock (crashed.clock + elapsed) row).state =
            .scheduled ∧
          (recovered crashed.clock (crashed.clock + elapsed)
            row).leasedUntil = none := by
    intro row member leaseOver orphaned
    cases isOpen : leaseOpen crashed.clock row with
    | false =>
        exact recovered_of_over orphaned isOpen
    | true =>
        rcases orphaned with leased | running
        · refine recovered_of_open_leased leased isOpen ?_
          obtain ⟨deadline, isDeadline⟩ :=
            Option.isSome_iff_exists.mp
              (Bool.and_eq_true_iff.mp isOpen).1
          simp [leaseExpired, isDeadline,
            late row member deadline isDeadline]
        · rw [leaseOver running] at isOpen
          cases isOpen
  constructor
  · intro complete row member running
    cases isOpen : leaseOpen crashed.clock row with
    | false =>
        rfl
    | true =>
        have stays : row ∈ final.jobs.rows := by
          rw [rows]
          exact List.mem_map.mpr
            ⟨row, member, recovered_of_open_running running isOpen⟩
        exact ((complete.1 row stays).2 running).elim
  · intro leaseOver
    constructor
    · intro row member
      rw [rows] at member
      obtain ⟨old, oldMember, rfl⟩ := List.mem_map.mp member
      by_cases orphaned : old.state = .leased ∨ old.state = .running
      · rw [(scheduledAgain old oldMember (leaseOver old oldMember)
          orphaned).1]
        exact ⟨nofun, nofun⟩
      · push Not at orphaned
        rw [recovered_of_idle orphaned.1 orphaned.2]
        exact orphaned
    · intro old oldMember orphaned
      obtain ⟨scheduled, noLease⟩ :=
        scheduledAgain old oldMember (leaseOver old oldMember) orphaned
      refine ⟨_, ?_, ?_, scheduled, noLease⟩
      · rw [rows]
        exact List.mem_map_of_mem oldMember
      · exact Job.id_eq_of_identity (identity_recovered ..)

end State

/-! ## Concrete runs -/

namespace Sample

/-- A job that was still in the channel at the crash is scheduled again. -/
theorem queued_job_recovers :
    ∃ crashed final,
      State.Run externals TransitionSystem.Unrestricted
          (State.initial config 1 0) createAndSend crashed ∧
        State.Run externals TransitionSystem.Unrestricted crashed
          (State.restartAndReap 31000000) final ∧
        crashed.jobs.rows.map Job.state = [.leased] ∧
        State.RecoveryComplete crashed.jobs final.jobs := by
  obtain ⟨crashed, final, reached, recovery, leased, late, leaseOver⟩ :=
    TransitionSystem.exists_runs_of_replay?
      (State.step? externals) TransitionSystem.Unrestricted
      (State.initial config 1 0) createAndSend
      (State.restartAndReap 31000000)
      (fun crashed final =>
        crashed.jobs.rows.map Job.state = [.leased] ∧
          (∀ row ∈ crashed.jobs.rows,
            ∀ deadline ∈ row.leasedUntil, deadline < final.clock) ∧
          ∀ row ∈ crashed.jobs.rows,
            row.state = .running →
              JobRepository.leaseOpen crashed.clock row = false)
      (by decide)
  exact ⟨crashed, final, reached, recovery, leased,
    (State.recoveryComplete_iff recovery late).mpr leaseOver⟩

/-- A job that was running under an open lease stays running for good. -/
theorem running_job_not_recovered :
    ∃ crashed final,
      State.Run externals TransitionSystem.Unrestricted
          (State.initial config 1 0) (createAndSend ++ begin 0) crashed ∧
        State.Run externals TransitionSystem.Unrestricted crashed
          (State.restartAndReap 31000000) final ∧
        (∀ row ∈ crashed.jobs.rows,
          ∀ deadline ∈ row.leasedUntil, deadline < final.clock) ∧
        ¬State.RecoveryComplete crashed.jobs final.jobs :=
  TransitionSystem.exists_runs_of_replay?
    (State.step? externals) TransitionSystem.Unrestricted
    (State.initial config 1 0) (createAndSend ++ begin 0)
    (State.restartAndReap 31000000)
    (fun crashed final =>
      (∀ row ∈ crashed.jobs.rows,
          ∀ deadline ∈ row.leasedUntil, deadline < final.clock) ∧
        ¬State.RecoveryComplete crashed.jobs final.jobs)
    (by decide)

end Sample

end Kronkeeper
