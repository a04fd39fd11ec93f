import Kronkeeper.InstanceRows

namespace Kronkeeper

/-!
# A client's requests leave other clients' rows alone

Most statements of the API name the client.  The second statement of
`cancel_template_and_instances` does not; it is confined to the client's rows
because instances belong to the owner of their template.
-/

/-- The client a request comes from. -/
def Request.clientId : Request → Uuid
  | .createJob clientId _ => clientId
  | .getJob clientId _ => clientId
  | .cancelJob clientId _ => clientId
  | .patchJob clientId _ _ => clientId

/-- The client a request task works for. -/
def RequestTask.clientId? : RequestTask → Option Uuid
  | .absent => none
  | .creating clientId _ _ => some clientId
  | .getting clientId _ => some clientId
  | .cancelling clientId _ _ => some clientId
  | .patching clientId _ _ _ => some clientId
  | .answered request _ => some request.clientId

/-- The row does not belong to the client. -/
def ForeignTo (clientId : Uuid) (row : JobIdentity) : Prop :=
  row.clientId ≠ some clientId

namespace RequestTask

variable {externals : Externals}
variable {shared after : Shared}
variable {task next : RequestTask}
variable {action : RequestAction}
variable {clientId : Uuid}

theorem clientId?_start
    (request : Request) :
    (start request).clientId? = some request.clientId := by
  cases request <;> simp only [start] <;> try rfl
  all_goals split <;> rfl

theorem clientId?_planCreate
    (externals : Externals)
    (clientId : Uuid)
    (req : CreateJobRequest) :
    (planCreate externals clientId req).clientId? = some clientId := by
  unfold planCreate
  split
  · rfl
  · split <;> rfl

theorem clientId?_planCancel
    (clientId id : Uuid)
    (read : Option Job) :
    (planCancel clientId id read).clientId? = some clientId := by
  unfold planCancel
  split
  · rfl
  · split <;> rfl

/-- A request works for one client from its arrival to its answer. -/
theorem Move.clientId?_eq
    (moved : task.Move externals shared action after next)
    (arrived : task ≠ .absent) :
    next.clientId? = task.clientId? := by
  cases moved with
  | arrive request =>
      exact (arrived rfl).elim
  | create clientId req position action after next created =>
      cases created with
      | plan missing =>
          exact clientId?_planCreate externals clientId req
      | _ =>
          rfl
  | cancel clientId id position action after next cancels =>
      cases cancels with
      | read =>
          exact clientId?_planCancel clientId id _
      | _ =>
          rfl
  | _ =>
      rfl

/-- The template a request has inserted belongs to the caller. -/
def HoldsOwn : RequestTask → Prop
  | .creating clientId _ (.insertInstance template _) =>
      template.clientId = some clientId
  | _ => True

theorem Move.holdsOwn
    (moved : task.Move externals shared action after next) :
    next.HoldsOwn := by
  cases moved with
  | arrive request =>
      cases request <;> simp only [start] <;> try exact trivial
      all_goals split <;> exact trivial
  | create clientId req position action after next created =>
      cases created with
      | plan missing =>
          unfold planCreate
          split
          · exact trivial
          · split <;> exact trivial
      | insertTemplate =>
          exact rfl
      | _ =>
          exact trivial
  | cancel clientId id position action after next cancels =>
      cases cancels with
      | read =>
          unfold planCancel
          split
          · exact trivial
          · split <;> exact trivial
      | _ =>
          exact trivial
  | _ =>
      exact trivial

/-- The rows of other clients are not among those a request writes. -/
theorem Move.agreesOn_foreign
    (moved : task.Move externals shared action after next)
    (isClient : next.clientId? = some clientId)
    (grounded : task.Grounded shared.jobs)
    (holdsOwn : task.HoldsOwn)
    (instances :
      ∀ row ∈ shared.jobs.rows, ∀ parentId,
        row.parentJobId = some parentId →
        InstanceRow shared.jobs parentId row) :
    RecordTable.AgreesOn (ForeignTo clientId) shared.jobs after.jobs := by
  cases moved with
  | create caller req position action after next created =>
      cases created with
      | insertJob id jobs inserted =>
          exact .insert? inserted fun isForeign => isForeign isClient
      | insertTemplate recurrence firstFire id jobs inserted =>
          exact .insert? inserted fun isForeign => isForeign isClient
      | insertInstance template firstFire id jobs inserted =>
          refine .insert? inserted fun isForeign => isForeign ?_
          have owner : template.clientId = some caller := holdsOwn
          calc
            some (template.clientId.getD 0) = some caller := by
              rw [owner]
              rfl
            _ = some clientId := isClient
      | _ =>
          exact .refl _
  | cancel caller id position action after next cancels =>
      cases cancels with
      | cancelJob affected =>
          obtain rfl := Option.some.inj isClient
          refine .update fun row member isForeign => ?_
          have notClient : row.clientId ≠ some caller := isForeign
          simp [JobRepository.cancelJob, notClient]
      | cancelTemplate =>
          obtain rfl := Option.some.inj isClient
          refine .update fun row member isForeign => ?_
          have notClient : row.clientId ≠ some caller := isForeign
          simp [JobRepository.cancelTemplate, notClient]
      | cancelInstances templates | cancelNothing templates =>
          obtain rfl := Option.some.inj isClient
          obtain ⟨template, templateMember, templateId, owner, _⟩ :=
            grounded
          refine .update fun row member isForeign => ?_
          have notInstance : row.parentJobId ≠ some id := by
            intro isInstance
            obtain ⟨parent, parentMember, parentId, _, sameClient⟩ :=
              (instances row member id isInstance).parent
            have same : parent = template :=
              RecordTable.eq_of_primary parentMember templateMember
                (parentId.trans templateId.symm)
            rw [same] at sameClient
            exact isForeign (sameClient.symm.trans owner)
          simp [JobRepository.cancelInstances, notInstance]
      | _ =>
          exact .refl _
  | patch caller id req =>
      obtain rfl := Option.some.inj isClient
      refine .update fun row member isForeign => ?_
      have notClient : row.clientId ≠ some caller := isForeign
      simp [JobRepository.updateCronExpr, notClient]
  | _ =>
      exact .refl _

end RequestTask

namespace State

variable {config : Config} {slots : Nat}
variable {externals : Externals}
variable {state after : State config slots}
variable {action : Action config slots}

/-- What keeps the clients apart in every reachable state. -/
structure TenantsApart (state : State config slots) : Prop where
  grounded : state.Grounded
  rows : state.InstanceRows
  holdsOwn : ∀ slot, (state.requests slot).HoldsOwn

theorem tenantsApart_initial
    (clock : Time) :
    (initial config slots clock).TenantsApart where
  grounded := grounded_booted clock RecordTable.empty
  rows := instanceRows_initial clock
  holdsOwn := fun _ => trivial

theorem TenantsApart.step
    (apart : state.TenantsApart)
    (taken : step? externals state action = some after) :
    after.TenantsApart where
  grounded := apart.grounded.step taken
  rows := apart.rows.step apart.grounded taken
  holdsOwn := by
    intro slot
    cases requestStep_of_step? taken slot with
    | kept same =>
        rw [same]
        exact apart.holdsOwn slot
    | lost isAbsent =>
        rw [isAbsent]
        exact trivial
    | moved requestAction isApi moved =>
        exact moved.holdsOwn

/-- The rows of other clients are the same in both states. -/
def ForeignKept
    (clientId : Uuid)
    (before after : State config slots) : Prop :=
  RecordTable.AgreesOn (ForeignTo clientId) before.jobs after.jobs

/-- A step of a request leaves the rows of other clients as they were. -/
theorem TenantsApart.foreignKept
    (apart : state.TenantsApart)
    {slot : Fin slots}
    {requestAction : RequestAction}
    (taken :
      step? externals state (.api slot requestAction) = some after)
    {clientId : Uuid}
    (isClient : (after.requests slot).clientId? = some clientId) :
    ForeignKept clientId state after :=
  (requestMove_of_step? taken).agreesOn_foreign isClient
    (apart.grounded.requests slot) (apart.holdsOwn slot)
    apart.rows.instances

/-- The step is one of a request that works for the client. -/
def ActsFor
    (externals : Externals)
    (clientId : Uuid)
    (state : State config slots)
    (action : Action config slots) : Prop :=
  ∃ slot requestAction after,
    action = .api slot requestAction ∧
      step? externals state action = some after ∧
      (after.requests slot).clientId? = some clientId

/--
In every reachable state instances belong to the owner of their template and
are neither templates nor recurring, and whatever requests of a client do, for
one step among any others or over a whole run, rows of others stay as they are.
-/
theorem tenants_apart
    {clock : Time}
    {actions : List (Action config slots)}
    (run :
      Run externals TransitionSystem.Unrestricted
        (initial config slots clock) actions state) :
    (∀ row ∈ state.jobs.rows, ∀ parentId,
        row.parentJobId = some parentId →
        row.isTemplate = false ∧ row.isRecurring = false ∧
          ∃ parent ∈ state.jobs.rows,
            parent.id = parentId ∧ parent.isTemplate = true ∧
              parent.clientId = row.clientId) ∧
      ∀ clientId later final,
        Run externals (ActsFor externals clientId) state later final →
        ∀ row : Job,
          row.clientId ≠ some clientId →
          (row ∈ final.jobs.rows ↔ row ∈ state.jobs.rows) := by
  have apart : state.TenantsApart :=
    run.invariant
      (fun apart _ taken => apart.step taken)
      (tenantsApart_initial clock)
  constructor
  · intro row member parentId isInstance
    have instanceRow :=
      apart.rows.instances row member parentId isInstance
    exact ⟨instanceRow.notTemplate, instanceRow.notRecurring,
      instanceRow.parent⟩
  · intro clientId later final continued
    have kept : ForeignKept clientId state final := by
      refine continued.related
        (fun state => RecordTable.AgreesOn.refl state.jobs)
        RecordTable.AgreesOn.trans ?_ apart
      intro before after action apart permitted taken
      obtain ⟨slot, requestAction, reached, rfl, stepped, isClient⟩ :=
        permitted
      obtain rfl := Option.some.inj (taken.symm.trans stepped)
      exact ⟨apart.step taken, apart.foreignKept taken isClient⟩
    exact kept

end State

/-! ## Concrete runs -/

namespace Sample

/-- Whatever client 8 does, the recurring job of client 7 stays as it is. -/
theorem recurring_job_untouched_by_others :
    ∃ state,
      State.Run externals TransitionSystem.Unrestricted
          (State.initial config 2 0) createRecurring state ∧
        state.jobs.rows.map Job.parentJobId = [none, some 1] ∧
        ∀ later final,
          State.Run externals (State.ActsFor externals 8) state later
            final →
          ∀ row ∈ state.jobs.rows, row ∈ final.jobs.rows := by
  obtain ⟨state, run, parents, owners⟩ :=
    TransitionSystem.exists_run_of_replay?
      (State.step? externals) TransitionSystem.Unrestricted
      (State.initial config 2 0) createRecurring
      (fun state =>
        state.jobs.rows.map Job.parentJobId = [none, some 1] ∧
          ∀ row ∈ state.jobs.rows, row.clientId ≠ some 8)
      (by decide)
  refine ⟨state, run, parents, ?_⟩
  intro later final continued row member
  have untouched :=
    (State.tenants_apart run).2 8 later final continued row
      (owners row member)
  exact untouched.mpr member

end Sample

end Kronkeeper
