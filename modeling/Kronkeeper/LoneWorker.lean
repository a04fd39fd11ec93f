import Kronkeeper.RowHistory

namespace Kronkeeper

/-!
# A worker that has the process to itself

Sequential runs execute one job after another.  Here one worker makes its steps
with nothing but time passing between them; from the first write of `handle` on
it leaves the attempt of the job it has executed alone.
-/

/-- Time passes. -/
def Shared.tick (shared : Shared) (elapsed : Nat) : Shared :=
  { shared with clock := shared.clock + elapsed }

@[simp] theorem Shared.tick_jobs
    (shared : Shared)
    (elapsed : Nat) :
    (shared.tick elapsed).jobs = shared.jobs :=
  rfl

@[simp] theorem Shared.update_jobs
    (shared : Shared)
    (change : JobUpdate) :
    (shared.update change).jobs = shared.jobs.update change :=
  rfl

/-- A process whose table has only this row. -/
def Sample.sharing (row : Job) : Shared where
  clock := 0
  jobs :=
    { rows := [row]
      primaryNodup := List.nodup_singleton _
      uniqueNodup := List.nodup_singleton _ }
  permit := false
  channel := []
  active := 0

/-- The state of a worker and of what it shares with nobody just now. -/
abbrev LoneWorker :=
  Shared × WorkerTask

namespace LoneWorker

/-- A step of the worker, some time after the one before it. -/
def step?
    (config : Config)
    (externals : Externals)
    (worker : LoneWorker)
    (timed : Nat × WorkerAction) : Option LoneWorker :=
  worker.2.step? config externals (worker.1.tick timed.1) timed.2

end LoneWorker

/-- A step of `handle` after its first write, in which no call fails. -/
def WorkerAction.concludes : WorkerAction → Bool
  | .notifyOne => true
  | .spawn reply => reply.succeeded
  | .emit reply => reply.succeeded
  | .posted _ => true
  | _ => false

namespace LoneWorker

/-- The rest of `handle`, with no call failing. -/
def Concludes (_ : LoneWorker) (timed : Nat × WorkerAction) : Prop :=
  timed.2.concludes = true

instance (worker : LoneWorker) (timed : Nat × WorkerAction) :
    Decidable (worker.Concludes timed) :=
  inferInstanceAs (Decidable (_ = _))

end LoneWorker

/-! ## What the rest of a handler leaves alone -/

/-- The columns that an execution goes by are as they were. -/
structure SameAttempt (old new : Job) : Prop
    extends State.SameSchedule old new where
  attemptCount : new.attemptCount = old.attemptCount

namespace SameAttempt

theorem refl (row : Job) : SameAttempt row row :=
  ⟨⟨rfl, rfl, rfl⟩, rfl⟩

theorem trans
    {first second third : Job}
    (earlier : SameAttempt first second)
    (later : SameAttempt second third) :
    SameAttempt first third where
  state := later.state.trans earlier.state
  scheduledAt := later.scheduledAt.trans earlier.scheduledAt
  leasedUntil := later.leasedUntil.trans earlier.leasedUntil
  attemptCount := later.attemptCount.trans earlier.attemptCount

/-- Recording a delivery leaves the attempt alone. -/
theorem image_updateWebhookResult
    (now : Time)
    (id : Uuid)
    (success : Bool)
    (attempts : Int)
    (row : Job) :
    SameAttempt row
      ((JobRepository.updateWebhookResult now id success attempts).image
        row) := by
  unfold RowUpdate.image
  split
  · exact ⟨⟨rfl, rfl, rfl⟩, rfl⟩
  · exact refl row

end SameAttempt

/-- The table has this row, up to columns no execution goes by. -/
def HoldsAttempt (jobs : JobTable) (row : Job) : Prop :=
  ∃ current ∈ jobs.rows,
    current.identity = row.identity ∧ SameAttempt row current

namespace HoldsAttempt

variable {jobs after : JobTable}
variable {row : Job}

theorem of_mem
    (member : row ∈ jobs.rows) :
    HoldsAttempt jobs row :=
  ⟨row, member, rfl, SameAttempt.refl row⟩

/-- A statement that leaves the attempt of each such row alone. -/
theorem update
    (holds : HoldsAttempt jobs row)
    {change : JobUpdate}
    (spares :
      ∀ current ∈ jobs.rows,
        current.identity = row.identity →
        SameAttempt current (change.image current)) :
    HoldsAttempt (jobs.update change) row := by
  obtain ⟨current, member, identity, same⟩ := holds
  exact ⟨change.image current,
    RecordTable.mem_update.mpr ⟨current, member, rfl⟩,
    (change.identity_image current).trans identity,
    same.trans (spares current member identity)⟩

/-- A statement on another row. -/
theorem update_other
    (holds : HoldsAttempt jobs row)
    {change : JobUpdate}
    {id : Uuid}
    (keyed : ∀ other, change.applies other = (other.id == id))
    (other : id ≠ row.id) :
    HoldsAttempt (jobs.update change) row := by
  refine holds.update fun current _ identity => ?_
  have sameId := Job.id_eq_of_identity identity
  rw [RowUpdate.image_of_not_applies
    (by rw [keyed, sameId]; exact beq_false_of_ne other.symm)]
  exact SameAttempt.refl current

theorem insert?
    (holds : HoldsAttempt jobs row)
    {added : Job}
    (inserted : jobs.insert? added = some after) :
    HoldsAttempt after row := by
  obtain ⟨current, member, rest⟩ := holds
  exact ⟨current, (RecordTable.mem_of_insert? inserted).mpr (Or.inl member),
    rest⟩

end HoldsAttempt

/-- The task writes no row but this one's webhook columns. -/
def WorkerTask.Spares (id : Uuid) : WorkerTask → Prop
  | .spawning _ call => ∀ template ∈ call.template?, template.id ≠ id
  | _ => True

section Spares

variable {config : Config}
variable {externals : Externals}
variable {shared after : Shared}
variable {row : Job}

/-- A spawn reads its template, which the row of a one-off job is not. -/
theorem SpawnCall.Move.spares
    {call next : SpawnCall}
    {reply : Reply}
    (moved : call.Move externals shared reply after (.next next))
    (holds : HoldsAttempt shared.jobs row)
    (notTemplate : row.isTemplate = false)
    (spares : ∀ template ∈ call.template?, template.id ≠ row.id) :
    ∀ template ∈ next.template?, template.id ≠ row.id := by
  have readSpares :
      ∀ {templateId : Uuid} {template : Job},
        SpawnCall.Reads shared templateId template →
        template.id ≠ row.id := by
    intro templateId template reads sameId
    obtain ⟨current, member, identity, _⟩ := holds
    have isRow : template = current :=
      RecordTable.eq_of_primary reads.member member
        (sameId.trans (Job.id_eq_of_identity identity).symm)
    have isTemplate := reads.isTemplate
    rw [isRow, Job.isTemplate_eq_of_identity identity, notTemplate]
      at isTemplate
    cases isTemplate
  intro template held
  cases moved.successor with
  | complete _ _ _ reads | count _ _ _ _ reads =>
      obtain rfl := Option.some.inj held
      exact readSpares reads
  | skip | lookup | insert | increment | announce =>
      exact spares template held

/-- A call of a spawn leaves the attempt of other rows alone. -/
theorem SpawnCall.Move.holdsAttempt
    {call : SpawnCall}
    {reply : Reply}
    {progress : SpawnProgress}
    (moved : call.Move externals shared reply after progress)
    (holds : HoldsAttempt shared.jobs row)
    (spares : ∀ template ∈ call.template?, template.id ≠ row.id) :
    HoldsAttempt after.jobs row := by
  cases moved with
  | complete template =>
      exact holds.update_other (fun _ => rfl) (spares template rfl)
  | skip template nextFire | increment template nextFire =>
      exact holds.update_other (fun _ => rfl) (spares template rfl)
  | insert template nextFire id jobs inserted =>
      exact holds.insert? inserted
  | _ =>
      exact holds

namespace LoneWorker

/-- The row stands as it did, and the worker is not about to change that. -/
structure Keeps (row : Job) (worker : LoneWorker) : Prop where
  holds : HoldsAttempt worker.1.jobs row
  spares : worker.2.Spares row.id

theorem Keeps.step
    {worker next : LoneWorker}
    {timed : Nat × WorkerAction}
    (keeps : worker.Keeps row)
    (notTemplate : row.isTemplate = false)
    (concludes : worker.Concludes timed)
    (taken : step? config externals worker timed = some next) :
    next.Keeps row := by
  obtain ⟨shared, task⟩ := worker
  obtain ⟨elapsed, action⟩ := timed
  obtain ⟨later, nextTask⟩ := next
  obtain ⟨holds, spares⟩ := keeps
  cases WorkerTask.move_of_step? taken with
  | announce job =>
      exact ⟨holds, trivial⟩
  | spawn job call reply after progress moved =>
      refine ⟨moved.holdsAttempt holds spares, ?_⟩
      cases progress with
      | next nextCall =>
          exact moved.spares holds notTemplate spares
      | returned succeeded =>
          cases succeeded <;> exact trivial
  | emit job call reply progress =>
      cases progress <;> exact ⟨holds, trivial⟩
  | post job call delivered progress =>
      cases progress <;> exact ⟨holds, trivial⟩
  | record job success attempts =>
      exact ⟨holds.update fun current _ _ =>
        SameAttempt.image_updateWebhookResult .., trivial⟩
  | receive | stop | activate | begin | decline | execute
  | executePanics | settle | settleFails | settlePanics | deactivate =>
      cases concludes

/-- The rest of a handler keeps the attempt of its job. -/
theorem Keeps.run
    {worker final : LoneWorker}
    {timed : List (Nat × WorkerAction)}
    (keeps : worker.Keeps row)
    (notTemplate : row.isTemplate = false)
    (run :
      TransitionSystem.Run (step? config externals) Concludes worker timed
        final) :
    final.Keeps row :=
  run.invariant
    (fun keeps concludes taken => keeps.step notTemplate concludes taken)
    keeps

end LoneWorker

end Spares

end Kronkeeper
