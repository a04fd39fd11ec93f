import Kronkeeper.TaskMoves

namespace Kronkeeper

/-!
# What a failed request leaves behind

A request is a sequence of statements without a transaction around them.  Run
alone, it has at each of its calls written at most one statement, and a call
that makes it fail writes nothing.
-/

namespace RequestTask

/--
What a request that fails at its next call leaves of the table: only the last
call of a recurring create, of a template cancel and of a patch comes after a
statement that has written.
-/
def Leaves (before after : JobTable) : RequestTask → Prop
  | .creating clientId req (.insertInstance template firstFire) =>
      before.insert? template = some after ∧
        ∃ recurrence clock id,
          req.recurrence = some recurrence ∧
            template =
              JobRepository.templateRow clock id clientId req recurrence
                firstFire
  | .cancelling clientId id (.cancelInstances _) =>
      (∃ clock,
          after =
            before.update
              (JobRepository.cancelTemplate clock id clientId)) ∧
        ∃ row ∈ before.rows,
          row.id = id ∧ row.clientId = some clientId ∧
            row.isTemplate = true
  | .patching clientId id req .read =>
      ∃ clock,
        after =
          before.update
            (JobRepository.updateCronExpr clock id clientId req.cronExpr)
  | _ => after = before

/-- How a request that runs alone has changed the table so far. -/
def Wrote (before now : JobTable) : RequestTask → Prop
  | .creating _ req (.insertTemplate recurrence _) =>
      now = before ∧ req.recurrence = some recurrence
  | .cancelling clientId id .cancelTemplate =>
      now = before ∧
        ∃ row ∈ before.rows,
          row.id = id ∧ row.clientId = some clientId ∧
            row.isTemplate = true
  -- Nothing can fail any more.
  | .creating _ _ (.notifyRecurring _ _) => True
  | .creating _ _ (.notify _) => True
  | .cancelling _ _ .notify => True
  | .patching _ _ _ (.notify _) => True
  | .answered _ _ => True
  | task => task.Leaves before now

variable {externals : Externals}
variable {shared after : Shared}
variable {action : RequestAction}

theorem wrote_start (jobs : JobTable) (request : Request) :
    (start request).Wrote jobs jobs := by
  cases request <;> simp only [start]
  · split
    · exact trivial
    · rfl
  · rfl
  · rfl
  · split
    · exact trivial
    · rfl

theorem wrote_planCreate
    (jobs : JobTable)
    (clientId : Uuid)
    (req : CreateJobRequest) :
    (planCreate externals clientId req).Wrote jobs jobs := by
  unfold planCreate
  split
  · rfl
  · rename_i recurrence isRecurring
    split
    · exact trivial
    · exact ⟨rfl, isRecurring⟩

theorem wrote_planCancel
    (jobs : JobTable)
    (clientId id : Uuid) :
    (planCancel clientId id
      (JobRepository.getJobById jobs id clientId)).Wrote jobs jobs := by
  unfold planCancel
  split
  · exact trivial
  · rename_i job found
    split
    · rename_i isTemplate
      have owned := List.find?_some found
      simp only [Bool.and_eq_true, beq_iff_eq] at owned
      exact ⟨rfl, job, List.mem_of_find?_eq_some found, owned.1, owned.2,
        isTemplate⟩
    · rfl

/-- One call of a request that runs alone writes at most one statement. -/
theorem Move.wrote
    {before : JobTable}
    {task next : RequestTask}
    (moved : task.Move externals shared action after next)
    (wrote : task.Wrote before shared.jobs) :
    next.Wrote before after.jobs := by
  cases moved with
  | arrive request =>
      obtain rfl : shared.jobs = before := wrote
      exact wrote_start shared.jobs request
  | create clientId req position action after next created =>
      cases created with
      | plan missing =>
          obtain rfl : shared.jobs = before := wrote
          exact wrote_planCreate shared.jobs clientId req
      | insertTemplate recurrence firstFire id jobs inserted =>
          obtain ⟨rfl, isRecurring⟩ := wrote
          exact ⟨inserted, recurrence, shared.clock, id, isRecurring, rfl⟩
      | _ =>
          exact trivial
  | cancel clientId id position action after next cancelled =>
      cases cancelled with
      | read =>
          obtain rfl : shared.jobs = before := wrote
          exact wrote_planCancel shared.jobs clientId id
      | cancelTemplate =>
          obtain ⟨rfl, isTemplate⟩ := wrote
          exact ⟨⟨shared.clock, rfl⟩, isTemplate⟩
      | _ =>
          exact trivial
  | patch clientId id req =>
      obtain rfl : shared.jobs = before := wrote
      exact ⟨shared.clock, rfl⟩
  | _ =>
      exact trivial

private theorem jobs_eq_of_failedCancel
    {clientId id : Uuid}
    {position : CancelPosition}
    {request : Request}
    {error : ApiError}
    (taken :
      cancelStep? shared clientId id position action =
        some (after, .answered request (.failed error))) :
    after.jobs = shared.jobs := by
  unfold cancelStep? at taken
  split at taken
  · obtain ⟨rfl, _⟩ := Prod.mk.inj (Option.some.inj taken)
    rfl
  · dsimp only at taken
    split at taken
    · cases taken
    · cases taken
      rfl
  · cases taken
  · dsimp only at taken
    split at taken
    · rename_i nothing
      cases taken
      have unaffected :
          ¬0 < shared.jobs.affected
            (JobRepository.cancelInstances shared.clock id) := by
        omega
      rw [RecordTable.affected_pos_iff] at unaffected
      push Not at unaffected
      exact RecordTable.update_eq_self fun row member =>
        Bool.eq_false_iff.mpr (unaffected row member)
    · cases taken
  · cases taken
  all_goals cases taken
  all_goals rfl

/-- The call that makes a request fail leaves the table as it was. -/
theorem jobs_eq_of_failed
    {task : RequestTask}
    {request : Request}
    {error : ApiError}
    (taken :
      task.step? externals shared action =
        some (after, .answered request (.failed error))) :
    after.jobs = shared.jobs := by
  generalize isNext :
    RequestTask.answered request (.failed error) = next at taken
  cases move_of_step? taken with
  | create clientId req position action after next created =>
      cases created <;> first | rfl | cases isNext
  | cancel clientId id position action after next cancelled =>
      exact jobs_eq_of_failedCancel (isNext ▸ taken)
  | patch clientId id req =>
      cases isNext
  | _ =>
      rfl

theorem Wrote.leaves
    {before : JobTable}
    {task : RequestTask}
    {request : Request}
    {error : ApiError}
    (wrote : task.Wrote before shared.jobs)
    (taken :
      task.step? externals shared action =
        some (after, .answered request (.failed error))) :
    task.Leaves before after.jobs := by
  rw [jobs_eq_of_failed taken]
  cases task with
  | creating clientId req position =>
      cases position with
      | insertTemplate recurrence firstFire =>
          exact wrote.1
      | notifyRecurring template instanceJob =>
          cases action <;> cases taken
      | notify job =>
          cases action <;> cases taken
      | _ =>
          exact wrote
  | cancelling clientId id position =>
      cases position with
      | cancelTemplate =>
          exact wrote.1
      | notify =>
          cases action <;> cases taken
      | _ =>
          exact wrote
  | patching clientId id req position =>
      cases position with
      | notify job =>
          cases action <;> cases taken
      | _ =>
          exact wrote
  | answered request response =>
      cases action <;> cases taken
  | _ =>
      exact wrote

end RequestTask

/-! ## A request that runs alone -/

namespace State

variable {config : Config} {slots : Nat}
variable {externals : Externals}
variable {before middle after : State config slots}
variable {actions : List (Action config slots)}
variable {slot : Fin slots}

/-- Nothing but the request of this slot runs, and time passes. -/
def Alone
    (slot : Fin slots)
    (_ : State config slots) : Action config slots → Prop
  | .tick _ => True
  | .api other _ => other = slot
  | _ => False

instance decidableAlone
    (slot : Fin slots)
    (state : State config slots) :
    ∀ action, Decidable (Alone slot state action)
  | .tick _ => isTrue trivial
  | .api other _ => inferInstanceAs (Decidable (other = slot))
  | .scheduler _ => isFalse id
  | .worker _ _ => isFalse id
  | .reaper _ => isFalse id
  | .shutdown => isFalse id
  | .restart => isFalse id

/-- How the request of a slot has changed a table so far. -/
def RequestWrote
    (slot : Fin slots)
    (jobs : JobTable)
    (state : State config slots) : Prop :=
  (state.requests slot).Wrote jobs state.jobs

theorem requestWrote_step
    {jobs : JobTable}
    {action : Action config slots}
    (wrote : before.RequestWrote slot jobs)
    (alone : Alone slot before action)
    (taken : step? externals before action = some after) :
    after.RequestWrote slot jobs := by
  cases action with
  | tick elapsed =>
      cases taken
      exact wrote
  | api other requestAction =>
      obtain rfl : other = slot := alone
      exact (requestMove_of_step? taken).wrote wrote
  | scheduler | worker | reaper | shutdown | restart =>
      exact alone.elim

/--
A request that runs alone and is answered with an error leaves the table it
found, except when it fails at the last call of a recurring create, of a
template cancel or of a patch: then the statement before that call stays.
-/
theorem failed_request_leaves
    {requestAction : RequestAction}
    {request : Request}
    {error : ApiError}
    (absent : before.requests slot = .absent)
    (run : Run externals (Alone slot) before actions middle)
    (taken : step? externals middle (.api slot requestAction) = some after)
    (answered : after.requests slot = .answered request (.failed error)) :
    (middle.requests slot).Leaves before.jobs after.jobs := by
  have initially : before.RequestWrote slot before.jobs := by
    unfold RequestWrote
    rw [absent]
    exact rfl
  have wrote : middle.RequestWrote slot before.jobs :=
    run.invariant
      (fun wrote alone taken => requestWrote_step wrote alone taken)
      initially
  obtain ⟨⟨shared, task⟩, stepped, rfl⟩ :=
    Option.map_eq_some_iff.mp taken
  dsimp only at answered
  rw [Function.update_self] at answered
  rw [answered] at stepped
  exact wrote.leaves stepped

end State

namespace Sample

/-- The answer of the database that makes a call fail. -/
def unreachable : RequestAction :=
  .call (.error "pool timed out while waiting")

/-- Cancel template 1, up to the statement on its instances. -/
def beginCancel : List (Action config 2) :=
  [ .api 1 (.arrive (.cancelJob clientId 1)),
    .api 1 (.call .ok),
    .api 1 (.call .ok) ]

/-- A cancel that fails at its second statement leaves the first one done. -/
theorem failed_cancel_leaves_template_cancelled :
    ∃ before middle after,
      State.Run externals (State.Alone 1) before beginCancel middle ∧
        State.step? externals middle (.api 1 unreachable) = some after ∧
        before.jobs.rows.map Job.state = [.scheduled, .scheduled] ∧
        after.jobs.rows.map Job.state = [.cancelled, .scheduled] ∧
        ∃ clock,
          after.jobs =
            before.jobs.update
              (JobRepository.cancelTemplate clock 1 clientId) := by
  obtain ⟨before, _, isAbsent, statesBefore, middle, replayed,
      isCancelling, after, taken, isAnswered, statesAfter⟩ :
      ∃ before ∈ TransitionSystem.replay? (State.step? externals)
          TransitionSystem.Unrestricted (State.initial config 2 0)
          createRecurring,
        before.requests 1 = .absent ∧
          before.jobs.rows.map Job.state = [.scheduled, .scheduled] ∧
          ∃ middle ∈ TransitionSystem.replay? (State.step? externals)
              (State.Alone 1) before beginCancel,
            middle.requests 1 =
                .cancelling clientId 1 (.cancelInstances 1) ∧
              ∃ after ∈ State.step? externals middle (.api 1 unreachable),
                after.requests 1 =
                    .answered (.cancelJob clientId 1)
                      (.failed
                        (.internal
                          "pool timed out while waiting")) ∧
                  after.jobs.rows.map Job.state =
                    [.cancelled, .scheduled] := by
    decide
  have run := TransitionSystem.run_of_replay? replayed
  have leaves := State.failed_request_leaves isAbsent run taken isAnswered
  rw [isCancelling] at leaves
  exact ⟨before, middle, after, run, taken, statesBefore, statesAfter,
    leaves.1⟩

/-- A recurring create that fails at its second insert leaves its template. -/
theorem failed_create_leaves_template :
    ∃ middle after : State config 1,
      State.Run externals (State.Alone 0) (State.initial config 1 0)
          [ .api 0 (.arrive (.createJob clientId (everyMinute "key"))),
            .api 0 (.call .ok),
            .api 0 (.call (.inserted 1)) ] middle ∧
        State.step? externals middle (.api 0 unreachable) = some after ∧
        after.requests 0 =
          .answered (.createJob clientId (everyMinute "key"))
            (.failed (.internal "pool timed out while waiting")) ∧
        after.jobs ≠ (State.initial config 1 0).jobs := by
  obtain ⟨middle, after, run, last, isAnswered, isTemplate⟩ :=
    TransitionSystem.exists_runs_of_replay?
      (State.step? externals) (State.Alone 0) (State.initial config 1 0)
      [ .api 0 (.arrive (.createJob clientId (everyMinute "key"))),
        .api 0 (.call .ok),
        .api 0 (.call (.inserted 1)) ]
      [.api 0 unreachable]
      (fun _ after =>
        after.requests 0 =
            .answered (.createJob clientId (everyMinute "key"))
              (.failed (.internal "pool timed out while waiting")) ∧
          after.jobs.rows.map Job.isTemplate = [true])
      (by decide)
  refine ⟨middle, after, run, last.single.2, isAnswered, ?_⟩
  intro same
  rw [same] at isTemplate
  cases isTemplate

end Sample

end Kronkeeper
