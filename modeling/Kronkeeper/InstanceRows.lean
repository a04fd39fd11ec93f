import Kronkeeper.RowHistory

namespace Kronkeeper

/-!
# Rows of instances

Every instance is inserted from a template that its task holds, and takes the
client from it.  No statement assigns the columns concerned, so what the
`INSERT` establishes holds for good.
-/

/-- What holds of the row of an instance of this parent. -/
structure InstanceRow
    (jobs : JobTable)
    (parentId : Uuid)
    (row : Job) : Prop where
  notTemplate : row.isTemplate = false
  notRecurring : row.isRecurring = false
  parent :
    jobs.Has fun parent =>
      parent.id = parentId ∧ parent.isTemplate = true ∧
        parent.clientId = row.clientId

section Growth

variable {before after : JobTable}

theorem InstanceRow.grow
    {parentId : Uuid}
    {old new : Job}
    (instanceRow : InstanceRow before parentId old)
    (identity : new.identity = old.identity)
    (growth : before.Extends after) :
    InstanceRow after parentId new where
  notTemplate :=
    (Job.isTemplate_eq_of_identity identity).trans instanceRow.notTemplate
  notRecurring :=
    (Job.isRecurring_eq_of_identity identity).trans
      instanceRow.notRecurring
  parent := by
    rw [Job.clientId_eq_of_identity identity]
    exact instanceRow.parent.grow growth

/-- An instance of a template that was read is as it should be. -/
theorem InstanceRow.of_instanceRow
    {template : Job}
    (read : before.TemplateRead template)
    (owned : ∀ row ∈ before.rows, row.clientId.isSome = true)
    (growth : before.Extends after)
    (now : Time)
    (id : Uuid)
    (fire : Time)
    (key : String) :
    InstanceRow after template.id
      (JobRepository.instanceRow now id template fire key) where
  notTemplate := rfl
  notRecurring := rfl
  parent := by
    obtain ⟨row, member, identity⟩ := read.known
    obtain ⟨clientId, isClient⟩ :=
      Option.isSome_iff_exists.mp (owned row member)
    have templateClient : template.clientId = some clientId :=
      (Job.clientId_eq_of_identity identity).symm.trans isClient
    have here :
        before.Has fun parent =>
          parent.id = template.id ∧ parent.isTemplate = true ∧
            parent.clientId = some clientId := by
      refine ⟨row, member, ?_⟩
      rw [identity]
      exact ⟨rfl, read.isTemplate, templateClient⟩
    simpa [JobRepository.instanceRow, JobRepository.newRow,
      templateClient] using here.grow growth

end Growth

namespace State

variable {config : Config} {slots : Nat}
variable {externals : Externals}
variable {state after : State config slots}
variable {action : Action config slots}

/-- Every row has an owner, and every instance is as its `INSERT` left it. -/
structure InstanceRows (state : State config slots) : Prop where
  owned : ∀ row ∈ state.jobs.rows, row.clientId.isSome = true
  instances :
    ∀ row ∈ state.jobs.rows, ∀ parentId,
      row.parentJobId = some parentId →
      InstanceRow state.jobs parentId row

theorem instanceRows_initial
    (clock : Time) :
    (initial config slots clock).InstanceRows where
  owned := fun _ member => by cases member
  instances := fun _ member => by cases member

private theorem InstanceRows.owned_step
    (rows : state.InstanceRows)
    (taken : step? externals state action = some after)
    {row : Job}
    (member : row ∈ after.jobs.rows) :
    row.clientId.isSome = true := by
  cases rowOrigin_of_step? taken member with
  | kept old oldMember identity | changed old oldMember identity =>
      rw [Job.clientId_eq_of_identity identity]
      exact rows.owned old oldMember
  | inserted fresh insertion =>
      cases insertion <;> rfl

private theorem InstanceRows.instances_step
    (rows : state.InstanceRows)
    (grounded : state.Grounded)
    (taken : step? externals state action = some after)
    {row : Job}
    (member : row ∈ after.jobs.rows)
    {parentId : Uuid}
    (isInstance : row.parentJobId = some parentId) :
    InstanceRow after.jobs parentId row := by
  have growth := extends_of_step? taken
  cases rowOrigin_of_step? taken member with
  | kept old oldMember identity | changed old oldMember identity =>
      have oldInstance :=
        (Job.parentJobId_eq_of_identity identity).symm.trans isInstance
      exact (rows.instances old oldMember parentId oldInstance).grow
        identity growth
  | inserted fresh insertion =>
      cases insertion with
      | job | template =>
          cases isInstance
      | firstInstance slot clientId req template firstFire id creating =>
          have read := grounded.requests slot
          rw [creating] at read
          obtain rfl := Option.some.inj isInstance
          exact .of_instanceRow read rows.owned growth ..
      | nextInstance worker job template nextFire id spawning =>
          have read :=
            (grounded.workers worker).template template
              (by rw [spawning]; rfl)
          obtain rfl := Option.some.inj isInstance
          exact .of_instanceRow read rows.owned growth ..

/-- Every step keeps the instance rows as they should be. -/
theorem InstanceRows.step
    (rows : state.InstanceRows)
    (grounded : state.Grounded)
    (taken : step? externals state action = some after) :
    after.InstanceRows where
  owned := fun _ member => rows.owned_step taken member
  instances := fun _ member _ isInstance =>
    rows.instances_step grounded taken member isInstance

end State

/-! ## Whose instance a spawn continues -/

/-- The template a call of a spawn is about. -/
def SpawnCall.templateId : SpawnCall → Uuid
  | .readTemplate templateId _ => templateId
  | .completeTemplate template => template.id
  | .countSiblings template _ => template.id
  | .incrementSkipped template _ => template.id
  | .lookupKey template _ => template.id
  | .insertInstance template _ => template.id
  | .incrementInserted template _ => template.id
  | .notifyOne template => template.id

/-- The job of a spawn is an instance of the template it is about. -/
def WorkerTask.SpawnsOwn : WorkerTask → Prop
  | .spawning job call => job.parentJobId = some call.templateId
  | _ => True

section Spawns

variable {config : Config} {slots : Nat}
variable {externals : Externals}
variable {shared shared' : Shared}

theorem SpawnCall.Move.templateId_eq
    {call next : SpawnCall}
    {reply : Reply}
    (moved : call.Move externals shared reply shared' (.next next)) :
    next.templateId = call.templateId := by
  cases moved.successor with
  | complete _ _ _ reads | count _ _ _ _ reads =>
      exact reads.sameId
  | _ =>
      rfl

theorem WorkerTask.Move.spawnsOwn
    {task next : WorkerTask}
    {action : WorkerAction}
    (moved : task.Move config externals shared action shared' next)
    (own : task.SpawnsOwn) :
    next.SpawnsOwn := by
  cases next with
  | spawning job call =>
      cases moved.spawnOrigin with
      | goesOn previous reply spawned =>
          change job.parentJobId = some call.templateId
          rw [spawned.templateId_eq]
          exact own
      | begins _ _ _ _ isChild isRead =>
          subst isRead
          exact isChild
  | _ =>
      exact trivial

/-- Every spawn is about the parent of its job. -/
def State.SpawnsOwn (state : State config slots) : Prop :=
  ∀ worker, (state.workers worker).SpawnsOwn

theorem State.SpawnsOwn.step
    {state after : State config slots}
    {action : Action config slots}
    (own : state.SpawnsOwn)
    (taken : step? externals state action = some after) :
    after.SpawnsOwn :=
  forall_workers_step (fun _ => trivial)
    (fun moved own => moved.spawnsOwn own) taken own

/-- A spawn is about the template of a row of the table. -/
theorem State.SpawnsOwn.exists_row
    {state : State config slots}
    (own : state.SpawnsOwn)
    (grounded : state.Grounded)
    {worker : Fin config.workerCount}
    {job : Job}
    {call : SpawnCall}
    (spawning : state.workers worker = .spawning job call) :
    ∃ row ∈ state.jobs.rows,
      row.id = job.id ∧ row.parentJobId = some call.templateId := by
  have isChild := own worker
  rw [spawning] at isChild
  have copy :=
    (grounded.workers worker).copy job (by rw [spawning]; rfl)
  obtain ⟨row, member, identity⟩ := copy.known
  exact ⟨row, member, Job.id_eq_of_identity identity,
    (Job.parentJobId_eq_of_identity identity).trans isChild⟩

end Spawns

end Kronkeeper
