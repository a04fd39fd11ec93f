import Kronkeeper.RowHistory

namespace Kronkeeper

/-!
# Stored cron expressions

A cron expression enters the table by a recurring create, which has computed a
first fire from it, or by a patch, which stores what the client sent.  It is
parsed again when an instance succeeds.
-/

namespace RecurringService

/-- The parser accepts the expression as `normalize_cron_expr` leaves it. -/
def acceptsCron (externals : Externals) (cronExpr : String) : Bool :=
  (externals.scheduleFromStr (normalizeCronExpr cronExpr)).isOk

/-- An expression with a next fire is one the parser accepts. -/
theorem acceptsCron_of_nextFireAfter
    {externals : Externals}
    {cronExpr : String}
    {after fire : Time}
    (isNext : nextFireAfter externals cronExpr after = .ok fire) :
    acceptsCron externals cronExpr = true := by
  obtain ⟨schedule, parsed, _⟩ := nextFireAfter_eq_ok_iff.mp isNext
  simp [acceptsCron, parsed, Except.isOk, Except.toBool]

/-- On an accepted expression `next_fire_after` only runs out of fires. -/
theorem nextFireAfter_error_of_acceptsCron
    {externals : Externals}
    {cronExpr message : String}
    {after : Time}
    (accepted : acceptsCron externals cronExpr = true)
    (fails : nextFireAfter externals cronExpr after = .error message) :
    message = "no next fire time for cron expression" := by
  unfold acceptsCron at accepted
  unfold nextFireAfter at fails
  cases parsed :
      externals.scheduleFromStr (normalizeCronExpr cronExpr) with
  | error reason =>
      rw [parsed] at accepted
      cases accepted
  | ok schedule =>
      cases answer : schedule after <;>
        simp only [parsed, bind, Except.bind, pure, Except.pure, throw,
          throwThe, MonadExceptOf.throw, answer, reduceCtorEq,
          Except.error.injEq] at fails
      exact fails.symm

end RecurringService

/-- The row holds a cron expression that the parser accepts. -/
def Job.UsableCron (externals : Externals) (row : Job) : Prop :=
  ∃ cronExpr ∈ row.cronExpr,
    RecurringService.acceptsCron externals cronExpr = true

instance Job.decidableUsableCron
    (externals : Externals)
    (row : Job) :
    Decidable (row.UsableCron externals) :=
  row.cronExpr.decidableExistsMem

/-- A create about to insert a template has computed a fire from its cron. -/
def RequestTask.ParsedCron (externals : Externals) : RequestTask → Prop
  | .creating _ _ (.insertTemplate recurrence _) =>
      RecurringService.acceptsCron externals recurrence.cronExpr = true
  | _ => True

theorem RequestTask.Move.parsedCron
    {externals : Externals}
    {shared after : Shared}
    {task next : RequestTask}
    {action : RequestAction}
    (moved : task.Move externals shared action after next) :
    next.ParsedCron externals := by
  cases moved with
  | arrive request =>
      cases request <;> simp only [start] <;> try exact trivial
      all_goals split <;> exact trivial
  | create clientId req position action after next created =>
      cases created with
      | plan missing =>
          unfold planCreate
          split
          · exact trivial
          · split
            · exact trivial
            · rename_i firstFire isNext
              exact RecurringService.acceptsCron_of_nextFireAfter isNext
      | _ =>
          exact trivial
  | cancel clientId id position action after next cancelled =>
      cases cancelled with
      | read =>
          unfold planCancel
          split
          · exact trivial
          · split <;> exact trivial
      | _ =>
          exact trivial
  | _ =>
      exact trivial

namespace State

variable {config : Config} {slots : Nat}
variable {externals : Externals}
variable {state after : State config slots}
variable {action : Action config slots}

/-- Every recurring template has a cron expression the parser accepts. -/
def CronsUsable
    (externals : Externals)
    (state : State config slots) : Prop :=
  ∀ row ∈ state.jobs.rows,
    row.isTemplate = true →
    row.isRecurring = true →
    row.UsableCron externals

instance (state : State config slots) :
    Decidable (state.CronsUsable externals) :=
  inferInstanceAs (Decidable (∀ row ∈ state.jobs.rows, _))

/-- A patch request at its `UPDATE`. -/
structure PatchCall where
  clientId : Uuid
  id : Uuid
  req : PatchJobRequest

/-- The request whose `UPDATE` the step executes. -/
def patchCall?
    (state : State config slots) : Action config slots → Option PatchCall
  | .api slot (.call .ok) =>
      match state.requests slot with
      | .patching clientId id req .update => some ⟨clientId, id, req⟩
      | _ => none
  | _ => none

/-- A patch that finds its row asks for an expression the parser accepts. -/
def PatchesUsable
    (externals : Externals)
    (state : State config slots)
    (action : Action config slots) : Prop :=
  ∀ patch ∈ state.patchCall? action,
    (∃ row ∈ state.jobs.rows,
      row.id = patch.id ∧ row.clientId = some patch.clientId ∧
        row.isTemplate = true ∧ row.isRecurring = true) →
    RecurringService.acceptsCron externals patch.req.cronExpr = true

instance
    (state : State config slots)
    (action : Action config slots) :
    Decidable (state.PatchesUsable externals action) :=
  (state.patchCall? action).decidableForallMem

/-- What every state of a run of usable patches satisfies. -/
structure CronsChecked
    (externals : Externals)
    (state : State config slots) : Prop where
  parsed : ∀ slot, (state.requests slot).ParsedCron externals
  usable : state.CronsUsable externals

/-- The statement that patches a row leaves its kind alone. -/
private theorem CronsChecked.usable_step
    (checked : state.CronsChecked externals)
    (permitted : state.PatchesUsable externals action)
    (taken : step? externals state action = some after) :
    after.CronsUsable externals := by
  intro row member isTemplate isRecurring
  cases tableStep_of_step? taken with
  | same same =>
      rw [same] at member
      exact checked.usable row member isTemplate isRecurring
  | inserted added isAdded insertion =>
      rcases (RecordTable.mem_of_insert? isAdded).mp member with
        old | rfl
      · exact checked.usable row old isTemplate isRecurring
      · cases insertion with
        | template slot clientId req recurrence firstFire id creating =>
            have parsed := checked.parsed slot
            rw [creating] at parsed
            exact ⟨recurrence.cronExpr, rfl, parsed⟩
        | job | firstInstance | nextInstance =>
            cases isTemplate
  | updated change same updates =>
      rw [same] at member
      obtain ⟨old, oldMember, rfl⟩ := RecordTable.mem_update.mp member
      have identity := change.identity_image old
      have usable : old.UsableCron externals :=
        checked.usable old oldMember
          ((Job.isTemplate_eq_of_identity identity).symm.trans isTemplate)
          ((Job.isRecurring_eq_of_identity identity).symm.trans
            isRecurring)
      cases applies : change.applies old with
      | false =>
          rw [RowUpdate.image_of_not_applies applies]
          exact usable
      | true =>
          rw [RowUpdate.image_of_applies applies]
          cases updates with
          | patch slot clientId id req patching =>
              simp only [JobRepository.updateCronExpr, Bool.and_eq_true,
                beq_iff_eq] at applies
              obtain ⟨⟨⟨sameId, sameClient⟩, template⟩, recurring⟩ :=
                applies
              have accepted :=
                permitted ⟨clientId, id, req⟩
                  (by simp [patchCall?, patching])
                  ⟨old, oldMember, sameId, sameClient, template, recurring⟩
              exact ⟨req.cronExpr, rfl, accepted⟩
          | settle worker job result now disposition =>
              cases disposition <;> exact usable
          | _ =>
              exact usable

theorem CronsChecked.step
    (checked : state.CronsChecked externals)
    (permitted : state.PatchesUsable externals action)
    (taken : step? externals state action = some after) :
    after.CronsChecked externals where
  parsed :=
    forall_requests_step trivial (fun moved _ => moved.parsedCron) taken
      checked.parsed
  usable := checked.usable_step permitted taken

theorem cronsChecked_initial
    (clock : Time) :
    (initial config slots clock).CronsChecked externals where
  parsed := fun _ => trivial
  usable := fun _ member => by cases member

/--
In a run that patches usable expressions all stored ones are usable: the only
error `next_fire_after` has for them is that their schedule is over.
-/
theorem cronsUsable_of_patchesUsable
    {clock : Time}
    {actions : List (Action config slots)}
    {final : State config slots}
    (run :
      Run externals (PatchesUsable externals)
        (initial config slots clock) actions final) :
    final.CronsUsable externals ∧
      ∀ row ∈ final.jobs.rows,
        row.isTemplate = true →
        row.isRecurring = true →
        ∀ cronExpr ∈ row.cronExpr, ∀ instant message,
          RecurringService.nextFireAfter externals cronExpr instant =
            .error message →
          message = "no next fire time for cron expression" := by
  have checked : final.CronsChecked externals :=
    run.invariant
      (fun checked permitted taken => checked.step permitted taken)
      (cronsChecked_initial clock)
  refine ⟨checked.usable, ?_⟩
  intro row member isTemplate isRecurring cronExpr isCron instant message
  obtain ⟨stored, isStored, accepted⟩ :=
    checked.usable row member isTemplate isRecurring
  obtain rfl := Option.some.inj (isStored.symm.trans isCron)
  exact RecurringService.nextFireAfter_error_of_acceptsCron accepted

end State

namespace Sample

/-- Patch the cron expression of template 1. -/
def patchCron (cronExpr : String) : List (Action config 2) :=
  [ .api 1 (.arrive (.patchJob clientId 1 { cronExpr := cronExpr })),
    .api 1 (.call .ok),
    .api 1 (.call .ok),
    .api 1 .notifyOne ]

/-- A patch with an expression of seven fields keeps the template usable. -/
theorem usable_patch_keeps_cron_usable :
    ∃ final,
      State.Run externals (State.PatchesUsable externals)
          (State.initial config 2 0)
          (createRecurring ++ patchCron "0 * * * * * *") final ∧
        final.jobs.rows.map Job.cronExpr =
          [some "0 * * * * * *", none] ∧
        final.CronsUsable externals := by
  obtain ⟨final, run, stored⟩ :=
    TransitionSystem.exists_run_of_replay?
      (State.step? externals) (State.PatchesUsable externals)
      (State.initial config 2 0)
      (createRecurring ++ patchCron "0 * * * * * *")
      (fun final =>
        final.jobs.rows.map Job.cronExpr =
          [some "0 * * * * * *", none])
      (by decide)
  exact ⟨final, run, stored, (State.cronsUsable_of_patchesUsable run).1⟩

/-- A patch stores an expression that the parser refuses. -/
theorem refused_cron_is_stored :
    ∃ final,
      State.Run externals TransitionSystem.Unrestricted
          (State.initial config 2 0)
          (createRecurring ++ patchCron "every monday") final ∧
        ¬final.CronsUsable externals :=
  TransitionSystem.exists_run_of_replay?
    (State.step? externals) TransitionSystem.Unrestricted
    (State.initial config 2 0)
    (createRecurring ++ patchCron "every monday")
    (fun final => ¬final.CronsUsable externals)
    (by decide)

end Sample

end Kronkeeper
