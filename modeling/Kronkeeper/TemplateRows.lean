import Kronkeeper.RowHistory

namespace Kronkeeper

/-!
# Rows of templates

No copy that travels to a worker is a template, so only the cancel of a
template and the end of its recurrence write the state of a template row.
-/

/-- What holds of the row of a template. -/
structure TemplateRow (row : Job) : Prop where
  isRecurring : row.isRecurring = true
  noParent : row.parentJobId = none
  hasCron : row.cronExpr.isSome = true
  state :
    row.state = .scheduled ∨ row.state = .completed ∨
      row.state = .cancelled

namespace State

variable {config : Config} {slots : Nat}
variable {externals : Externals}
variable {state after : State config slots}
variable {action : Action config slots}

/-- Every template row is as `create_recurring` and its writers leave it. -/
def TemplateRows (state : State config slots) : Prop :=
  ∀ row ∈ state.jobs.rows, row.isTemplate = true → TemplateRow row

/-- The template whose row a step cancels. -/
def cancelledTemplate?
    (state : State config slots) : Action config slots → Option Uuid
  | .api slot (.call .ok) =>
      match state.requests slot with
      | .cancelling _ id .cancelTemplate => some id
      | _ => none
  | _ => none

/-- The template whose row a step completes. -/
def completedTemplate?
    (state : State config slots) : Action config slots → Option Uuid
  | .worker worker (.spawn .ok) =>
      match state.workers worker with
      | .spawning _ (.completeTemplate template) => some template.id
      | _ => none
  | _ => none

theorem cancelledTemplate?_eq
    {slot : Fin slots}
    {clientId id : Uuid}
    (cancelling :
      state.requests slot = .cancelling clientId id .cancelTemplate) :
    state.cancelledTemplate? (.api slot (.call .ok)) = some id := by
  simp [cancelledTemplate?, cancelling]

theorem completedTemplate?_eq
    {worker : Fin config.workerCount}
    {job template : Job}
    (spawning :
      state.workers worker = .spawning job (.completeTemplate template)) :
    state.completedTemplate? (.worker worker (.spawn .ok)) =
      some template.id := by
  simp [completedTemplate?, spawning]

/-- The two ways in which the state of a template row is written. -/
inductive TemplateChange
    (state : State config slots)
    (row : Job) :
    Action config slots → JobState → Prop where
  | cancel
      (slot : Fin slots)
      (clientId : Uuid)
      (cancelling :
        state.requests slot =
          .cancelling clientId row.id .cancelTemplate) :
      TemplateChange state row (.api slot (.call .ok)) .cancelled
  | complete
      (worker : Fin config.workerCount)
      (job template : Job)
      (spawning :
        state.workers worker = .spawning job (.completeTemplate template))
      (sameId : row.id = template.id) :
      TemplateChange state row (.worker worker (.spawn .ok)) .completed

/-- A change of state of a template row is one of the two. -/
theorem StateChange.of_template
    (grounded : state.Grounded)
    (templates : state.TemplateRows)
    {row : Job}
    (member : row ∈ state.jobs.rows)
    (isTemplate : row.isTemplate = true)
    {new : JobState}
    (change : state.StateChange row action new) :
    state.TemplateChange row action new := by
  have template := templates row member isTemplate
  have notCopied :
      ∀ {job : Job}, state.jobs.Copy job → row.id ≠ job.id := by
    intro job copy sameId
    have notTemplate := copy.row_isTemplate member sameId
    rw [isTemplate] at notTemplate
    cases notTemplate
  cases change with
  | lease now entry dispatching pops sameId =>
      have notTemplate :=
        (grounded.scheduler.heap entry pops.1.1).row_isTemplate member
          sameId
      rw [isTemplate] at notTemplate
      cases notTemplate
  | begin worker job starting sameId =>
      have held : (state.workers worker).job? = some job := by
        rw [starting]
        rfl
      exact (notCopied ((grounded.workers worker).copy job held)
        sameId).elim
  | settle worker job result now disposition handling disposed sameId =>
      have held : (state.workers worker).job? = some job := by
        rw [handling]
        rfl
      exact (notCopied ((grounded.workers worker).copy job held)
        sameId).elim
  | giveBack job returning sameId =>
      have held : state.scheduler.position.hand? = some job := by
        rw [returning]
        rfl
      exact (notCopied (grounded.scheduler.hand job held) sameId).elim
  | reap ticking leased =>
      have := template.state
      simp [leased] at this
  | recover orphaned =>
      have := template.state
      rcases orphaned with leased | running
      · simp [leased] at this
      · simp [running] at this
  | cancelJob slot clientId cancelling =>
      have found := grounded.requests slot
      rw [cancelling] at found
      obtain ⟨other, otherMember, sameId, _, notTemplate⟩ := found
      obtain rfl := RecordTable.eq_of_primary otherMember member sameId
      rw [isTemplate] at notTemplate
      cases notTemplate
  | cancelTemplate slot clientId cancelling =>
      exact .cancel slot clientId cancelling
  | cancelInstances slot clientId id templates cancelling isInstance =>
      rw [template.noParent] at isInstance
      cases isInstance
  | completeTemplate worker job template spawning sameId =>
      exact .complete worker job template spawning sameId

/-- Every step keeps the template rows as they should be. -/
theorem TemplateRows.step
    (templates : state.TemplateRows)
    (grounded : state.Grounded)
    (taken : step? externals state action = some after) :
    after.TemplateRows := by
  intro row member isTemplate
  cases rowOrigin_of_step? taken member with
  | kept old oldMember identity hasCron schedule =>
      have template := templates old oldMember
        ((Job.isTemplate_eq_of_identity identity).symm.trans isTemplate)
      exact {
        isRecurring :=
          (Job.isRecurring_eq_of_identity identity).trans
            template.isRecurring
        noParent :=
          (Job.parentJobId_eq_of_identity identity).trans
            template.noParent
        hasCron := hasCron template.hasCron
        state := schedule.state ▸ template.state }
  | changed old oldMember identity hasCron change =>
      have oldIsTemplate :=
        (Job.isTemplate_eq_of_identity identity).symm.trans isTemplate
      have template := templates old oldMember oldIsTemplate
      have written : row.state = .completed ∨ row.state = .cancelled := by
        have change :=
          change.of_template grounded templates oldMember oldIsTemplate
        generalize row.state = new at change
        cases change with
        | cancel =>
            exact Or.inr rfl
        | complete =>
            exact Or.inl rfl
      exact {
        isRecurring :=
          (Job.isRecurring_eq_of_identity identity).trans
            template.isRecurring
        noParent :=
          (Job.parentJobId_eq_of_identity identity).trans
            template.noParent
        hasCron := hasCron template.hasCron
        state := Or.inr written }
  | inserted fresh insertion =>
      cases insertion with
      | template slot clientId req recurrence firstFire id creating =>
          exact ⟨rfl, rfl, rfl, Or.inl rfl⟩
      | job | firstInstance | nextInstance =>
          cases isTemplate

/-- What became of a template row that the step found. -/
theorem templateChange_of_step?
    (grounded : state.Grounded)
    (templates : state.TemplateRows)
    (taken : step? externals state action = some after)
    {old new : Job}
    (oldMember : old ∈ state.jobs.rows)
    (newMember : new ∈ after.jobs.rows)
    (sameId : new.id = old.id)
    (isTemplate : old.isTemplate = true) :
    new.state = old.state ∨
      state.TemplateChange old action new.state := by
  rcases stateChange_of_step? taken oldMember newMember sameId with
    schedule | change
  · exact Or.inl schedule.state
  · exact Or.inr
      (change.of_template grounded templates oldMember isTemplate)

/-- The empty table has no template that could be wrong. -/
theorem templates_initial
    (clock : Time) :
    (initial config slots clock).TemplateRows :=
  fun _ member => by cases member

end State

end Kronkeeper
