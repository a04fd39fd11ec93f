import Kronkeeper.JobCustody

namespace Kronkeeper

/-!
# Where the jobs in memory come from

A task acts on values it read earlier.  Rows are never deleted and the columns
of `JobIdentity` never change, so such a value still says the truth about those
columns of its row.  `Grounded` collects what every task may rely on: copies on
their way to a worker are no templates, spawns work on recurring templates.
-/

/-! ## Rows are never lost -/

section Growth

variable {config : Config} {externals : Externals}
variable {shared after : Shared}

theorem SpawnCall.Move.extends
    {call : SpawnCall}
    {reply : Reply}
    {progress : SpawnProgress}
    (moved : call.Move externals shared reply after progress) :
    shared.jobs.Extends after.jobs := by
  cases moved with
  | complete | skip | increment =>
      exact .update _ _
  | insert template nextFire id jobs inserted =>
      exact .insert? inserted
  | _ =>
      exact .refl _

theorem WorkerTask.Move.extends
    {task next : WorkerTask}
    {action : WorkerAction}
    (moved : task.Move config externals shared action after next) :
    shared.jobs.Extends after.jobs := by
  cases moved with
  | begin | settle | record =>
      exact .update _ _
  | spawn job call reply after progress spawned =>
      exact spawned.extends
  | _ =>
      exact .refl _

theorem SchedulerTask.Move.extends
    {channelClosed : Bool}
    {heap : List ScheduledJob}
    {position : SchedulerPosition}
    {action : SchedulerAction}
    {next : SchedulerTask}
    (moved :
      Move config channelClosed shared heap position action after next) :
    shared.jobs.Extends after.jobs := by
  cases moved with
  | lease | giveBack =>
      exact .update _ _
  | _ =>
      exact .refl _

theorem ReaperTask.Move.extends
    {task next : ReaperTask}
    {action : ReaperAction}
    (moved : task.Move shared action after next) :
    shared.jobs.Extends after.jobs := by
  cases moved with
  | reap | reapNothing =>
      exact .update _ _
  | _ =>
      exact .refl _

theorem RequestTask.Move.extends
    {task next : RequestTask}
    {action : RequestAction}
    (moved : task.Move externals shared action after next) :
    shared.jobs.Extends after.jobs := by
  cases moved with
  | create clientId req position action after next created =>
      cases created with
      | insertJob id jobs inserted =>
          exact .insert? inserted
      | insertTemplate recurrence firstFire id jobs inserted =>
          exact .insert? inserted
      | insertInstance template firstFire id jobs inserted =>
          exact .insert? inserted
      | _ =>
          exact .refl _
  | cancel clientId id position action after next cancelled =>
      cases cancelled with
      | cancelJob | cancelTemplate | cancelInstances | cancelNothing =>
          exact .update _ _
      | _ =>
          exact .refl _
  | patch =>
      exact .update _ _
  | _ =>
      exact .refl _

/-- Every step keeps every row and its identity. -/
theorem State.extends_of_step?
    {slots : Nat}
    {state next : State config slots}
    {action : Action config slots}
    (taken : step? externals state action = some next) :
    state.jobs.Extends next.jobs := by
  cases move_of_step? taken with
  | scheduler action shared task moved =>
      exact moved.extends
  | worker worker action shared task moved =>
      rw [dropClosed_jobs]
      exact moved.extends
  | reaper action shared task moved =>
      exact moved.extends
  | api slot action shared task moved =>
      exact moved.extends
  | restart =>
      exact .update _ _
  | tick | shutdown =>
      exact .refl _

/-- So does every run. -/
theorem State.extends_of_run
    {slots : Nat}
    {allowed : State config slots → Action config slots → Prop}
    {state final : State config slots}
    {actions : List (Action config slots)}
    (run : Run externals allowed state actions final) :
    state.jobs.Extends final.jobs := by
  induction run with
  | nil state =>
      exact .refl state.jobs
  | cons permitted taken _ inductionHypothesis =>
      exact (extends_of_step? taken).trans inductionHypothesis

end Growth

/-! ## Values read earlier -/

namespace JobTable

/-- The job is a copy of a row that is no template. -/
structure Copy (jobs : JobTable) (job : Job) : Prop where
  known : jobs.Knows job.identity
  notTemplate : job.isTemplate = false

/-- The job was read from the row of a recurring template. -/
structure TemplateRead (jobs : JobTable) (template : Job) : Prop where
  known : jobs.Knows template.identity
  isTemplate : template.isTemplate = true
  isRecurring : template.isRecurring = true

/-- The heap entry belongs to a row that is no template. -/
def Entry (jobs : JobTable) (entry : ScheduledJob) : Prop :=
  ∃ row ∈ jobs.rows, row.id = entry.id ∧ row.isTemplate = false

variable {before after : JobTable}

theorem Copy.grow
    {job : Job}
    (copy : before.Copy job)
    (growth : before.Extends after) :
    after.Copy job where
  known := copy.known.grow growth
  notTemplate := copy.notTemplate

theorem TemplateRead.grow
    {template : Job}
    (read : before.TemplateRead template)
    (growth : before.Extends after) :
    after.TemplateRead template where
  known := read.known.grow growth
  isTemplate := read.isTemplate
  isRecurring := read.isRecurring

theorem Entry.grow
    {entry : ScheduledJob}
    (listed : before.Entry entry)
    (growth : before.Extends after) :
    after.Entry entry := by
  obtain ⟨row, member, sameId, notTemplate⟩ := listed
  obtain ⟨later, laterMember, same⟩ := growth row member
  exact ⟨later, laterMember,
    (Job.id_eq_of_identity same).trans sameId,
    (Job.isTemplate_eq_of_identity same).trans notTemplate⟩

/-- The row a copy was taken from. -/
theorem Copy.row
    {job row : Job}
    (copy : before.Copy job)
    (member : row ∈ before.rows)
    (sameId : row.id = job.id) :
    row.identity = job.identity :=
  copy.known.identity_eq member sameId

theorem Copy.row_isTemplate
    {job row : Job}
    (copy : before.Copy job)
    (member : row ∈ before.rows)
    (sameId : row.id = job.id) :
    row.isTemplate = false :=
  (Job.isTemplate_eq_of_identity (copy.row member sameId)).trans
    copy.notTemplate

theorem TemplateRead.row
    {template row : Job}
    (read : before.TemplateRead template)
    (member : row ∈ before.rows)
    (sameId : row.id = template.id) :
    row.identity = template.identity :=
  read.known.identity_eq member sameId

theorem TemplateRead.row_isTemplate
    {template row : Job}
    (read : before.TemplateRead template)
    (member : row ∈ before.rows)
    (sameId : row.id = template.id) :
    row.isTemplate = true :=
  (Job.isTemplate_eq_of_identity (read.row member sameId)).trans
    read.isTemplate

theorem Entry.row_isTemplate
    {entry : ScheduledJob}
    {row : Job}
    (listed : before.Entry entry)
    (member : row ∈ before.rows)
    (sameId : row.id = entry.id) :
    row.isTemplate = false := by
  obtain ⟨other, otherMember, otherId, notTemplate⟩ := listed
  have same : row = other :=
    RecordTable.eq_of_primary member otherMember
      (sameId.trans otherId.symm)
  rw [same]
  exact notTemplate

end JobTable

/-! ## What every task may rely on -/

/-- The template a worker's spawn carries along. -/
def WorkerTask.template? : WorkerTask → Option Job
  | .spawning _ call => call.template?
  | _ => none

structure WorkerTask.Grounded
    (jobs : JobTable)
    (task : WorkerTask) : Prop where
  copy : ∀ job, task.job? = some job → jobs.Copy job
  template :
    ∀ template, task.template? = some template →
      jobs.TemplateRead template

structure SchedulerTask.Grounded
    (jobs : JobTable)
    (task : SchedulerTask) : Prop where
  heap : ∀ entry ∈ task.heap, jobs.Entry entry
  hand : ∀ job, task.position.hand? = some job → jobs.Copy job

/-- What an open request has found out about the row it works on. -/
def RequestTask.Grounded (jobs : JobTable) : RequestTask → Prop
  | .creating _ _ (.insertInstance template _) =>
      jobs.TemplateRead template
  | .creating _ _ (.notifyRecurring template _) =>
      jobs.TemplateRead template
  | .cancelling clientId id .cancelJob =>
      ∃ row ∈ jobs.rows,
        row.id = id ∧ row.clientId = some clientId ∧
          row.isTemplate = false
  | .cancelling clientId id .cancelTemplate =>
      ∃ row ∈ jobs.rows,
        row.id = id ∧ row.clientId = some clientId ∧
          row.isTemplate = true
  | .cancelling clientId id (.cancelInstances _) =>
      ∃ row ∈ jobs.rows,
        row.id = id ∧ row.clientId = some clientId ∧
          row.isTemplate = true
  | _ => True

section Grow

variable {before after : JobTable}

theorem WorkerTask.Grounded.grow
    {task : WorkerTask}
    (grounded : task.Grounded before)
    (growth : before.Extends after) :
    task.Grounded after where
  copy job held := (grounded.copy job held).grow growth
  template job carried := (grounded.template job carried).grow growth

theorem SchedulerTask.Grounded.grow
    {task : SchedulerTask}
    (grounded : task.Grounded before)
    (growth : before.Extends after) :
    task.Grounded after where
  heap entry member := (grounded.heap entry member).grow growth
  hand job held := (grounded.hand job held).grow growth

/-- A row found by its id and client is found again after growth. -/
private theorem owned_row_grow
    {clientId id : Uuid}
    {isTemplate : Bool}
    (owned :
      ∃ row ∈ before.rows,
        row.id = id ∧ row.clientId = some clientId ∧
          row.isTemplate = isTemplate)
    (growth : before.Extends after) :
    ∃ row ∈ after.rows,
      row.id = id ∧ row.clientId = some clientId ∧
        row.isTemplate = isTemplate := by
  obtain ⟨row, member, sameId, sameClient, kind⟩ := owned
  obtain ⟨later, laterMember, same⟩ := growth row member
  exact ⟨later, laterMember,
    (Job.id_eq_of_identity same).trans sameId,
    (Job.clientId_eq_of_identity same).trans sameClient,
    (Job.isTemplate_eq_of_identity same).trans kind⟩

theorem RequestTask.Grounded.grow
    {task : RequestTask}
    (grounded : task.Grounded before)
    (growth : before.Extends after) :
    task.Grounded after := by
  unfold Grounded at *
  split
  · exact JobTable.TemplateRead.grow grounded growth
  · exact JobTable.TemplateRead.grow grounded growth
  · exact owned_row_grow grounded growth
  · exact owned_row_grow grounded growth
  · exact owned_row_grow grounded growth
  · trivial

end Grow

section Steps

variable {config : Config} {externals : Externals}
variable {shared after : Shared}

/-- A spawn keeps working on the recurring template it read. -/
theorem SpawnCall.Move.template_read
    {call next : SpawnCall}
    {reply : Reply}
    (moved : call.Move externals shared reply after (.next next))
    (grounded :
      ∀ template, call.template? = some template →
        shared.jobs.TemplateRead template)
    {template : Job}
    (carried : next.template? = some template) :
    shared.jobs.TemplateRead template := by
  cases moved.successor with
  | complete _ _ _ reads | count _ _ _ _ reads =>
      obtain rfl := Option.some.inj carried
      exact ⟨.of_mem reads.member, reads.isTemplate, reads.isRecurring⟩
  | _ =>
      exact grounded template carried

theorem WorkerTask.Grounded.move
    {task next : WorkerTask}
    {action : WorkerAction}
    (moved : task.Move config externals shared action after next)
    (grounded : task.Grounded shared.jobs)
    (queued : ∀ job ∈ shared.channel, shared.jobs.Copy job) :
    next.Grounded after.jobs := by
  refine WorkerTask.Grounded.grow ?_ moved.extends
  constructor
  · intro job held
    by_cases isRecv : action = .recv
    · subst action
      cases moved with
      | receive notified first rest inChannel =>
          obtain rfl := Option.some.inj held
          exact queued first (by simp [inChannel])
    · exact grounded.copy job (tracks_job?.keeps moved isRecv job held)
  · intro template carried
    cases next with
    | spawning job call =>
        cases moved.spawnOrigin with
        | goesOn previous reply spawned =>
            exact spawned.template_read
              (fun other => grounded.template other) carried
        | begins _ _ _ _ _ isRead =>
            subst isRead
            cases carried
    | _ =>
        cases carried

theorem SchedulerTask.Grounded.move
    {channelClosed : Bool}
    {heap : List ScheduledJob}
    {position : SchedulerPosition}
    {action : SchedulerAction}
    {next : SchedulerTask}
    (moved :
      Move config channelClosed shared heap position action after next)
    (grounded :
      SchedulerTask.Grounded shared.jobs
        { heap := heap, position := position }) :
    next.Grounded after.jobs := by
  refine SchedulerTask.Grounded.grow ?_ moved.extends
  have erased :
      ∀ popped, ∀ entry ∈ heap.erase popped, shared.jobs.Entry entry :=
    fun popped entry member =>
      grounded.heap entry (List.mem_of_mem_erase member)
  cases moved with
  | refresh fetched answers =>
      refine ⟨?_, fun job held => by cases held⟩
      intro entry member
      have listed := answers.2.mem_rows member
      simp only [JobRepository.scheduledJobs, List.mem_map,
        List.mem_filter, Bool.and_eq_true, Bool.not_eq_true'] at listed
      obtain ⟨row, ⟨rowMember, _, notTemplate⟩, rfl⟩ := listed
      exact ⟨row, rowMember, rfl, notTemplate⟩
  | lease now entry job pops leased =>
      refine ⟨erased entry, ?_⟩
      intro held isHeld
      obtain rfl := Option.some.inj isHeld
      obtain ⟨old, oldMember, applies, rfl⟩ :=
        RecordTable.returning_eq_some leased
      simp only [JobRepository.leaseJob, Bool.and_eq_true,
        beq_iff_eq] at applies
      have notTemplate :=
        (grounded.heap entry pops.1.1).row_isTemplate oldMember applies.1
      exact ⟨⟨old, oldMember, rfl⟩, notTemplate⟩
  | leaseMisses now entry | leaseFails now entry =>
      exact ⟨erased entry, fun job held => by cases held⟩
  | sendFull now job =>
      exact ⟨grounded.heap, fun other held => grounded.hand other held⟩
  | _ =>
      exact ⟨grounded.heap, fun job held => by cases held⟩

theorem RequestTask.Grounded.move
    {task next : RequestTask}
    {action : RequestAction}
    (moved : task.Move externals shared action after next)
    (grounded : task.Grounded shared.jobs) :
    next.Grounded after.jobs := by
  have growth := moved.extends
  cases moved with
  | arrive request =>
      cases request <;> simp only [start] <;> try exact trivial
      all_goals split <;> exact trivial
  | create clientId req position action after next created =>
      cases created with
      | plan missing =>
          unfold planCreate
          split
          · exact trivial
          · split <;> exact trivial
      | insertTemplate recurrence firstFire id jobs inserted =>
          exact ⟨.of_mem ((RecordTable.mem_of_insert? inserted).mpr
            (Or.inr rfl)), rfl, rfl⟩
      | insertInstance template firstFire id jobs inserted =>
          exact JobTable.TemplateRead.grow grounded growth
      | _ =>
          exact trivial
  | cancel clientId id position action after next cancelled =>
      cases cancelled with
      | read =>
          unfold planCancel
          split
          · exact trivial
          · rename_i job found
            have member := List.mem_of_find?_eq_some found
            have matched := List.find?_some found
            simp only [Bool.and_eq_true, beq_iff_eq] at matched
            split
            · rename_i isTemplate
              exact ⟨job, member, matched.1, matched.2, isTemplate⟩
            · rename_i notTemplate
              exact ⟨job, member, matched.1, matched.2,
                Bool.eq_false_iff.mpr notTemplate⟩
      | cancelTemplate =>
          exact owned_row_grow grounded growth
      | _ =>
          exact trivial
  | _ =>
      exact trivial

theorem WorkerTask.Grounded.notifyWaiter
    {jobs : JobTable}
    {task : WorkerTask}
    (grounded : task.Grounded jobs) :
    task.notifyWaiter.Grounded jobs := by
  cases task with
  | idle notified =>
      exact ⟨fun _ held => (by cases held),
        fun _ carried => (by cases carried)⟩
  | _ =>
      exact grounded

theorem RequestTask.Grounded.afterCrash
    {jobs : JobTable}
    {task : RequestTask}
    (grounded : task.Grounded jobs) :
    RequestTask.Grounded jobs (State.afterCrash task) := by
  unfold State.afterCrash
  split
  · exact trivial
  · exact grounded

end Steps

namespace State

variable {config : Config} {slots : Nat}

/-- Every value a task acts on goes back to a row of the table. -/
structure Grounded (state : State config slots) : Prop where
  scheduler : state.scheduler.Grounded state.jobs
  channel : ∀ job ∈ state.channel, state.jobs.Copy job
  workers : ∀ worker, (state.workers worker).Grounded state.jobs
  requests : ∀ slot, (state.requests slot).Grounded state.jobs

theorem grounded_booted
    (clock : Time)
    (jobs : JobTable) :
    (booted config slots clock jobs).Grounded where
  scheduler :=
    { heap := fun _ member => by cases member
      hand := fun _ held => by cases held }
  channel := fun _ member => by cases member
  workers := fun _ =>
    { copy := fun _ held => by cases held
      template := fun _ carried => by cases carried }
  requests := fun _ => trivial

/-- Every step keeps the tasks grounded. -/
theorem Grounded.step
    {externals : Externals}
    {state after : State config slots}
    {action : Action config slots}
    (grounded : state.Grounded)
    (taken : step? externals state action = some after) :
    after.Grounded := by
  have growth := extends_of_step? taken
  have channel :
      ∀ job ∈ state.channel, after.jobs.Copy job :=
    fun job member => (grounded.channel job member).grow growth
  have workers :
      ∀ worker, (state.workers worker).Grounded after.jobs :=
    fun worker => (grounded.workers worker).grow growth
  have requests :
      ∀ slot, (state.requests slot).Grounded after.jobs :=
    fun slot => (grounded.requests slot).grow growth
  cases move_of_step? taken with
  | tick elapsed =>
      exact ⟨grounded.scheduler, channel, workers, requests⟩
  | scheduler action shared task moved =>
      refine ⟨grounded.scheduler.move moved, ?_, workers, requests⟩
      intro job member
      by_cases isSend : action = .trySend
      · subst action
        generalize position : state.scheduler.position = current at moved
        cases moved with
        | sendClosed | sendFull =>
            exact channel job member
        | send now sent =>
            rcases List.mem_append.mp member with queued | isSent
            · exact channel job queued
            · obtain rfl := List.mem_singleton.mp isSent
              exact grounded.scheduler.hand job (by rw [position]; rfl)
      · exact channel job (moved.channel_eq isSend ▸ member)
  | worker worker action shared task moved =>
      have moves :=
        (grounded.workers worker).move moved grounded.channel
      rw [dropClosed_jobs] at growth channel workers requests
      constructor
      · rw [dropClosed_scheduler, dropClosed_jobs]
        exact grounded.scheduler.grow growth
      · intro job member
        rw [dropClosed_jobs]
        exact channel job
          (moved.channel_subset (dropClosed_channel_subset _ member))
      · rw [dropClosed_workers, dropClosed_jobs]
        exact (Function.forall_update_iff state.workers
          fun _ (task : WorkerTask) => task.Grounded shared.jobs).mpr
            ⟨moves, fun other _ => workers other⟩
      · rw [dropClosed_requests, dropClosed_jobs]
        exact requests
  | reaper action shared task moved =>
      exact ⟨grounded.scheduler.grow growth,
        fun job member => channel job (moved.channel_eq ▸ member),
        workers, requests⟩
  | api slot action shared task moved =>
      have moves := (grounded.requests slot).move moved
      refine ⟨grounded.scheduler.grow growth,
        fun job member => channel job (moved.channel_eq ▸ member),
        workers, ?_⟩
      exact (Function.forall_update_iff state.requests
        fun _ (task : RequestTask) => task.Grounded shared.jobs).mpr
          ⟨moves, fun other _ => requests other⟩
  | shutdown =>
      exact ⟨grounded.scheduler, channel,
        fun worker => (workers worker).notifyWaiter, requests⟩
  | restart =>
      have fresh :=
        @grounded_booted config slots state.clock
          (state.jobs.update
            (JobRepository.recoverOnStartup state.clock))
      exact ⟨fresh.scheduler, fresh.channel, fresh.workers,
        fun slot => (requests slot).afterCrash⟩

end State

end Kronkeeper
