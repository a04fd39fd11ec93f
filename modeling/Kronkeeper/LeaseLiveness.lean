import Kronkeeper.FairParties
import Kronkeeper.LeaseColumns

namespace Kronkeeper

/-!
# No lease is for ever

A process that dies leaves its leases behind, and recovery frees only those that
are over.  The deadline is in the row, so whatever else crashes, fails or
writes, a reaper that succeeds now and then frees the row in the end.
-/

namespace State

variable {config : Config} {slots : Nat}
variable {externals : Externals}
variable {state after : State config slots}
variable {action : Action config slots}
variable {row new : Job}

/-- A row that stays leased keeps its deadline. -/
theorem leasedUntil_kept
    (taken : step? externals state action = some after)
    (member : row ∈ state.jobs.rows)
    (newMember : new ∈ after.jobs.rows)
    (sameId : new.id = row.id)
    (isLeased : row.state = .leased)
    (stays : new.state = .leased) :
    new.leasedUntil = row.leasedUntil := by
  rcases stateChange_of_step? taken member newMember sameId with
    schedule | change
  · exact schedule.leasedUntil
  · rw [stays] at change
    generalize written : JobState.leased = target at change
    cases change with
    | lease now entry dispatching pops isEntry scheduled =>
        rw [isLeased] at scheduled
        cases scheduled
    | settle worker job result now disposition =>
        cases disposition <;> cases written
    | _ =>
        cases written

/-- A reap takes every leased row whose deadline is over. -/
theorem freed_of_reap
    (taken :
      step? externals state (.reaper (.reap .ok)) = some after)
    (member : row ∈ state.jobs.rows)
    (newMember : new ∈ after.jobs.rows)
    (sameId : new.id = row.id)
    (isLeased : row.state = .leased)
    {deadline : Time}
    (dated : row.leasedUntil = some deadline)
    (past : deadline < state.clock) :
    new.state ≠ .leased := by
  have applies :=
    (JobRepository.reapExpiredLeases_applies_iff isLeased dated).mpr past
  have moved := reaperMove_of_step? taken
  change new ∈ after.toShared.jobs.rows at newMember
  generalize state.reaper = before at moved
  generalize after.reaper = task at moved
  generalize after.toShared = shared at moved newMember
  cases moved with
  | reap | reapNothing =>
      rw [RecordTable.image_of_mem_update member newMember sameId,
        RowUpdate.image_of_applies applies]
      exact nofun

/-- Where nothing is leased a reap changes nothing. -/
theorem reap_of_noneLeased
    (externals : Externals)
    (ticking : state.reaper = .ticking)
    (noneLeased : ∀ row ∈ state.jobs.rows, row.state ≠ .leased) :
    step? externals state (.reaper (.reap .ok)) = some state := by
  have spares :
      ∀ row ∈ state.jobs.rows,
        (JobRepository.reapExpiredLeases state.clock).applies row =
          false := by
    intro row member
    simp [JobRepository.reapExpiredLeases, noneLeased row member]
  have noneTaken :
      ¬0 < state.jobs.affected
        (JobRepository.reapExpiredLeases state.clock) := by
    intro taken
    obtain ⟨row, member, applies⟩ := RecordTable.affected_pos_iff.mp taken
    rw [spares row member] at applies
    cases applies
  have reaped :
      state.reaper.step? state.toShared (.reap .ok) =
        some (state.toShared, state.reaper) := by
    rw [ticking]
    simp [ReaperTask.step?, noneTaken, Shared.update,
      RecordTable.update_eq_self spares]
  simp only [step?, reaped, Option.map_some]

/-- With a reaper that succeeds again and again no row stays leased. -/
theorem not_always_leased
    {execution : Execution config slots externals}
    (dated : ∀ index, (execution.state index).LeasedDated)
    (reaps :
      ∀ moment, ∃ later, moment ≤ later ∧
        execution.action later = .reaper (.reap .ok))
    (timePasses :
      ∀ instant, ∃ index, instant ≤ (execution.state index).clock)
    {start : Nat}
    (member : row ∈ (execution.state start).jobs.rows) :
    ¬∀ later, start ≤ later →
      ∀ current ∈ (execution.state later).jobs.rows,
        current.identity = row.identity → current.state = .leased := by
  intro always
  obtain ⟨deadline, isDated⟩ :=
    dated start row member (always start (Nat.le_refl _) row member rfl)
  have stays :
      ∀ later, start ≤ later →
        ∃ current ∈ (execution.state later).jobs.rows,
          current.identity = row.identity ∧
            current.leasedUntil = some deadline := by
    intro later after
    induction later, after using Nat.le_induction with
    | base =>
        exact ⟨row, member, rfl, isDated⟩
    | succ later after inductionHypothesis =>
        obtain ⟨old, oldMember, same, oldDated⟩ := inductionHypothesis
        obtain ⟨new, newMember, identity⟩ :=
          extends_of_step? (execution.taken later) old oldMember
        have stillSame := identity.trans same
        refine ⟨new, newMember, stillSame, ?_⟩
        rw [leasedUntil_kept (execution.taken later) oldMember newMember
          (Job.id_eq_of_identity identity)
          (always later after old oldMember same)
          (always (later + 1) (after.trans (Nat.le_succ _)) new newMember
            stillSame)]
        exact oldDated
  obtain ⟨passed, isOver⟩ := timePasses (deadline + 1)
  obtain ⟨later, after, isReap⟩ := reaps (max start passed)
  have afterStart := (Nat.le_max_left ..).trans after
  have past : deadline < (execution.state later).clock :=
    Int.lt_of_add_one_le
      (isOver.trans
        (execution.clock_mono ((Nat.le_max_right ..).trans after)))
  have taken := execution.taken later
  rw [isReap] at taken
  obtain ⟨current, currentMember, same, currentDated⟩ :=
    stays later afterStart
  obtain ⟨new, newMember, identity⟩ :=
    extends_of_step? taken current currentMember
  exact freed_of_reap taken currentMember newMember
    (Job.id_eq_of_identity identity)
    (always later afterStart current currentMember same) currentDated past
    (always (later + 1) (afterStart.trans (Nat.le_succ _)) new newMember
      (identity.trans same))

end State

/-! ## A concrete execution -/

namespace Sample

/-- A minute later the reaper frees what is leased. -/
def freeAndNotify : List (Action config 1) :=
  [.tick 60000000, .reaper (.reap .ok), .reaper .notifyOne]

/-- The time goes on, and the reaper looks again. -/
def reapAgain (index : Nat) : Action config 1 :=
  if index % 2 = 0 then .tick 2 else .reaper (.reap .ok)

/-- Nothing is leased any more, and the reaper waits for its next turn. -/
def NothingLeased (index : Nat) (state : State config 1) : Prop :=
  state.reaper = .ticking ∧
    (∀ row ∈ state.jobs.rows, row.state ≠ .leased) ∧
    ((index + index % 2 : Nat) : Int) ≤ state.clock

theorem NothingLeased.goesOn
    {index : Nat}
    {before : State config 1}
    (nothing : NothingLeased index before) :
    ∃ after,
      State.step? externals before (reapAgain index) = some after ∧
        NothingLeased (index + 1) after := by
  obtain ⟨ticking, noLease, late⟩ := nothing
  by_cases even : index % 2 = 0
  · rw [reapAgain, if_pos even]
    have grows :
        ((index + 1 + (index + 1) % 2 : Nat) : Int) ≤
          ((index + index % 2 : Nat) : Int) + 2 := by
      omega
    exact ⟨_, rfl, ticking, noLease,
      grows.trans (Int.add_le_add_right late 2)⟩
  · rw [reapAgain, if_neg even]
    exact ⟨before, State.reap_of_noneLeased externals ticking noLease,
      ticking, noLease, le_trans (by omega) late⟩

end Sample

end Kronkeeper
