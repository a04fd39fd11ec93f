import Kronkeeper.TemplateRows

namespace Kronkeeper

/-!
# Templates are never executed

`lease_job` and the `set_*` statements go by id and do not look at
`is_template`.  What keeps templates out of them is where the ids come from:
the heap is fetched from rows that are no templates, and every copy on its way
to a worker was leased through the heap.
-/

namespace State

variable {config : Config} {slots : Nat}
variable {externals : Externals}
variable {state after : State config slots}
variable {action : Action config slots}
variable {change : JobUpdate}

/-! ## The lease of a row -/

/-- What a statement leaves in `leased_until` of a row it applies to. -/
inductive LeaseEffect
    (state : State config slots)
    (row image : Job) : Prop where
  | leased
      (entry : ScheduledJob)
      (inHeap : entry ∈ state.scheduler.heap)
      (sameId : row.id = entry.id)
      (isLeased : image.state = .leased)
  | cleared (noLease : image.leasedUntil = none)
  | kept
      (sameLease : image.leasedUntil = row.leasedUntil)
      (written : image.state = row.state ∨ image.state ≠ .scheduled)

/-- Only `lease_job` opens a lease, and only on the row of a heap entry. -/
theorem Updates.leaseEffect
    (updates : state.Updates action change)
    {row : Job}
    (applies : change.applies row = true) :
    state.LeaseEffect row (change.assign row) := by
  cases updates with
  | lease now entry dispatching pops =>
      simp only [JobRepository.leaseJob, Bool.and_eq_true,
        beq_iff_eq] at applies
      exact .leased entry pops.1.1 applies.1 rfl
  | giveBack | reap | recover =>
      exact .cleared rfl
  | settle worker job result now disposition =>
      cases disposition with
      | retry =>
          exact .cleared rfl
      | complete | expire | deadLetter =>
          exact .kept rfl (Or.inr fun same => by cases same)
  | record | increment | patch =>
      exact .kept rfl (Or.inl rfl)
  | begin | completeTemplate | cancelJob | cancelTemplate
  | cancelInstances =>
      exact .kept rfl (Or.inr fun same => by cases same)

/-- No `INSERT` writes `leased_until`. -/
theorem Inserts.leasedUntil
    {row : Job}
    (insertion : state.Inserts externals action row) :
    row.leasedUntil = none := by
  cases insertion <;> rfl

/-- A scheduled row has no lease. -/
def ScheduledUnleased (state : State config slots) : Prop :=
  ∀ row ∈ state.jobs.rows,
    row.state = .scheduled → row.leasedUntil = none

/-- No template has a lease. -/
def TemplatesUnleased (state : State config slots) : Prop :=
  ∀ row ∈ state.jobs.rows,
    row.isTemplate = true → row.leasedUntil = none

/-- Every way back to `SCHEDULED` clears the lease. -/
theorem ScheduledUnleased.step
    (unleased : state.ScheduledUnleased)
    (taken : step? externals state action = some after) :
    after.ScheduledUnleased := by
  intro row member scheduled
  cases tableStep_of_step? taken with
  | same same =>
      rw [same] at member
      exact unleased row member scheduled
  | inserted added isAdded insertion =>
      rcases (RecordTable.mem_of_insert? isAdded).mp member with
        old | rfl
      · exact unleased row old scheduled
      · exact insertion.leasedUntil
  | updated change same updates =>
      rw [same] at member
      obtain ⟨old, oldMember, rfl⟩ := RecordTable.mem_update.mp member
      cases applies : change.applies old with
      | false =>
          rw [RowUpdate.image_of_not_applies applies] at scheduled ⊢
          exact unleased old oldMember scheduled
      | true =>
          rw [RowUpdate.image_of_applies applies] at scheduled ⊢
          cases updates.leaseEffect applies with
          | leased entry inHeap sameId isLeased =>
              rw [scheduled] at isLeased
              cases isLeased
          | cleared noLease =>
              exact noLease
          | kept sameLease written =>
              rcases written with sameState | notScheduled
              · rw [sameLease]
                exact unleased old oldMember (sameState ▸ scheduled)
              · exact (notScheduled scheduled).elim

/-- No template is in the heap, so no template is leased. -/
theorem TemplatesUnleased.step
    (unleased : state.TemplatesUnleased)
    (grounded : state.Grounded)
    (taken : step? externals state action = some after) :
    after.TemplatesUnleased := by
  intro row member isTemplate
  cases tableStep_of_step? taken with
  | same same =>
      rw [same] at member
      exact unleased row member isTemplate
  | inserted added isAdded insertion =>
      rcases (RecordTable.mem_of_insert? isAdded).mp member with
        old | rfl
      · exact unleased row old isTemplate
      · exact insertion.leasedUntil
  | updated change same updates =>
      rw [same] at member
      obtain ⟨old, oldMember, rfl⟩ := RecordTable.mem_update.mp member
      have oldIsTemplate :=
        (Job.isTemplate_eq_of_identity
          (change.identity_image old)).symm.trans isTemplate
      have noLease := unleased old oldMember oldIsTemplate
      cases applies : change.applies old with
      | false =>
          rw [RowUpdate.image_of_not_applies applies]
          exact noLease
      | true =>
          rw [RowUpdate.image_of_applies applies]
          cases updates.leaseEffect applies with
          | leased entry inHeap sameId =>
              have notTemplate :=
                (grounded.scheduler.heap entry inHeap).row_isTemplate
                  oldMember sameId
              rw [oldIsTemplate] at notTemplate
              cases notTemplate
          | cleared cleared =>
              exact cleared
          | kept sameLease =>
              rw [sameLease]
              exact noLease

/-! ## No template on the way to a worker -/

/-- The row is neither leased nor run, and no copy of it is under way. -/
structure Undispatched
    (state : State config slots)
    (row : Job) : Prop where
  idle :
    row.state = .scheduled ∨ row.state = .completed ∨
      row.state = .cancelled
  noLease : row.leasedUntil = none
  heap : ∀ entry ∈ state.scheduler.heap, entry.id ≠ row.id
  hand :
    ∀ job, state.scheduler.position.hand? = some job → job.id ≠ row.id
  channel : ∀ job ∈ state.channel, job.id ≠ row.id
  workers :
    ∀ worker job,
      (state.workers worker).job? = some job → job.id ≠ row.id

/-- What every reachable state knows about its templates. -/
structure TemplatesIdle (state : State config slots) : Prop where
  grounded : state.Grounded
  templates : state.TemplateRows
  unleased : state.TemplatesUnleased

theorem TemplatesIdle.step
    (idle : state.TemplatesIdle)
    (taken : step? externals state action = some after) :
    after.TemplatesIdle where
  grounded := idle.grounded.step taken
  templates := idle.templates.step idle.grounded taken
  unleased := idle.unleased.step idle.grounded taken

theorem templatesIdle_initial
    (clock : Time) :
    (initial config slots clock).TemplatesIdle where
  grounded := grounded_booted clock RecordTable.empty
  templates := templates_initial clock
  unleased := fun _ member => by cases member

/-- Copies and heap entries belong to rows that are no templates. -/
theorem TemplatesIdle.undispatched
    (idle : state.TemplatesIdle)
    {row : Job}
    (member : row ∈ state.jobs.rows)
    (isTemplate : row.isTemplate = true) :
    state.Undispatched row := by
  have notCopied :
      ∀ {job : Job}, state.jobs.Copy job → job.id ≠ row.id := by
    intro job copy sameId
    have notTemplate := copy.row_isTemplate member sameId.symm
    rw [isTemplate] at notTemplate
    cases notTemplate
  constructor
  · exact (idle.templates row member isTemplate).state
  · exact idle.unleased row member isTemplate
  · intro entry inHeap sameId
    have notTemplate :=
      (idle.grounded.scheduler.heap entry inHeap).row_isTemplate member
        sameId.symm
    rw [isTemplate] at notTemplate
    cases notTemplate
  · intro job held
    exact notCopied (idle.grounded.scheduler.hand job held)
  · intro job queued
    exact notCopied (idle.grounded.channel job queued)
  · intro worker job held
    exact notCopied ((idle.grounded.workers worker).copy job held)

/--
In every state of every run each template is `SCHEDULED`, `COMPLETED` or
`CANCELLED` without a lease, and its id is in no heap, channel or worker.
-/
theorem templates_never_executed
    {clock : Time}
    {actions : List (Action config slots)}
    {final : State config slots}
    (run :
      Run externals TransitionSystem.Unrestricted
        (initial config slots clock) actions final) :
    ∀ row ∈ final.jobs.rows,
      row.isTemplate = true → final.Undispatched row := by
  have idle : final.TemplatesIdle :=
    run.invariant
      (fun idle _ taken => idle.step taken)
      (templatesIdle_initial clock)
  intro row member isTemplate
  exact idle.undispatched member isTemplate

end State

namespace Sample

/-- While its instance executes the template waits in the table. -/
theorem template_waits_for_instance :
    ∃ final,
      State.Run externals TransitionSystem.Unrestricted
          (State.initial config 2 0)
          (createRecurring ++ executeInstance) final ∧
        final.jobs.rows.map Job.state = [.scheduled, .running] ∧
        ∀ row ∈ final.jobs.rows,
          row.isTemplate = true → final.Undispatched row := by
  obtain ⟨final, run, states⟩ :=
    TransitionSystem.exists_run_of_replay?
      (State.step? externals) TransitionSystem.Unrestricted
      (State.initial config 2 0) (createRecurring ++ executeInstance)
      (fun final =>
        final.jobs.rows.map Job.state = [.scheduled, .running])
      (by decide)
  exact ⟨final, run, states, State.templates_never_executed run⟩

end Sample

end Kronkeeper
