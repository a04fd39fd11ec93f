import Kronkeeper.RowHistory

namespace Kronkeeper

/-!
# No lost wake-up

The scheduler sleeps until the earliest entry of its heap.  The heap is a window
on the table, taken at the last notification, and every writer that makes a row
due notifies afterwards.  So the heap covers the table whenever nothing is
under way, with one gap: popping its last entry leaves nothing to wake up for,
and nobody notifies for the rows beyond the window.
-/

/-! ## Who has yet to notify -/

namespace WorkerTask

/-- The worker has made a row due and not yet notified. -/
def owesNotify : WorkerTask → Bool
  | .retried _ => true
  | .spawning _ (.incrementInserted _ _) => true
  | .spawning _ (.notifyOne _) => true
  | _ => false

end WorkerTask

namespace RequestTask

/-- The request stands between a write and the notification after it. -/
def owesNotify : RequestTask → Bool
  | .creating _ _ (.insertInstance _ _) => true
  | .creating _ _ (.notifyRecurring _ _) => true
  | .creating _ _ (.notify _) => true
  | .cancelling _ _ (.cancelInstances _) => true
  | .cancelling _ _ .notify => true
  | .patching _ _ _ .read => true
  | .patching _ _ _ (.notify _) => true
  | _ => false

/-- The request has made a row due and not yet notified. -/
def owesDue : RequestTask → Bool
  | .creating _ _ (.notifyRecurring _ _) => true
  | .creating _ _ (.notify _) => true
  | _ => false

theorem owesNotify_of_owesDue
    {task : RequestTask}
    (owes : task.owesDue = true) :
    task.owesNotify = true := by
  unfold owesDue at owes
  split at owes <;> first | rfl | cases owes

end RequestTask

namespace State

open JobRepository

variable {config : Config} {slots : Nat}

/-- Another task stands between a write and the `notify_one` after it. -/
def OwesNotify (state : State config slots) : Prop :=
  (∃ worker, (state.workers worker).owesNotify = true) ∨
    (∃ slot, (state.requests slot).owesNotify = true) ∨
    state.reaper = .notifying

/-- A row has become due, and the task that made it so has yet to notify. -/
def OwesDue (state : State config slots) : Prop :=
  (∃ worker, (state.workers worker).owesNotify = true) ∨
    (∃ slot, (state.requests slot).owesDue = true) ∨
    state.reaper = .notifying

theorem OwesDue.owesNotify
    {state : State config slots}
    (owes : state.OwesDue) :
    state.OwesNotify := by
  rcases owes with worker | ⟨slot, request⟩ | reaper
  · exact Or.inl worker
  · exact Or.inr (Or.inl
      ⟨slot, RequestTask.owesNotify_of_owesDue request⟩)
  · exact Or.inr (Or.inr reaper)

/--
While the scheduler waits and no notification is stored or on its way, its heap
starts no later than any scheduled row, and neither does the end of its sleep.
-/
def WakesInTime (state : State config slots) : Prop :=
  match state.scheduler.position with
  | .waiting wakeAt =>
      state.permit = false →
      ¬state.OwesNotify →
      ∀ due ∈ scheduledJobs state.jobs,
        (∃ entry ∈ state.scheduler.heap,
            entry.scheduledAt ≤ due.scheduledAt) ∧
          wakeAt ≤ max state.clock due.scheduledAt
  | _ => True

instance (state : State config slots) : Decidable state.OwesNotify :=
  inferInstanceAs (Decidable (_ ∨ _))

instance (state : State config slots) : Decidable state.OwesDue :=
  inferInstanceAs (Decidable (_ ∨ _))

instance (state : State config slots) : Decidable state.WakesInTime := by
  unfold WakesInTime
  split <;> infer_instance

/-- The entry with which a step empties the heap. -/
def lastPopped?
    (state : State config slots) :
    Action config slots → Option ScheduledJob
  | .scheduler (.lease entry _) =>
      if state.scheduler.heap.erase entry = [] then some entry else none
  | _ => none

/--
All repository calls succeed, and the last entry of the heap is popped only if
a refresh is on its way or no other row is scheduled.
-/
def KeepsHeap
    (state : State config slots)
    (action : Action config slots) : Prop :=
  action.succeeds = true ∧
    ∀ entry ∈ state.lastPopped? action,
      state.permit = true ∨ state.OwesDue ∨
        ∀ due ∈ scheduledJobs state.jobs, due.id = entry.id

instance
    (state : State config slots)
    (action : Action config slots) :
    Decidable (state.KeepsHeap action) :=
  have pops := (state.lastPopped? action).decidableForallMem
  @instDecidableAnd _ _ inferInstance pops

/-- A refresh is coming: it is due at once, stored or owed. -/
def RefreshComing (state : State config slots) : Prop :=
  state.permit = true ∨
    state.scheduler.position = .refreshing ∨
    state.scheduler.position = .notifying ∨
    state.OwesDue

/-- The heap covers the table, or a refresh is coming. -/
def HeapCovers (state : State config slots) : Prop :=
  state.RefreshComing ∨
    EarliestFirst.Covers ScheduledJob.scheduledAt
      state.scheduler.heap (scheduledJobs state.jobs)

/-- The sleep ends no later than any entry of the heap falls due. -/
def SleepBounded (state : State config slots) : Prop :=
  ∀ wakeAt,
    state.scheduler.position = .waiting wakeAt →
    ∀ entry ∈ state.scheduler.heap,
      wakeAt ≤ max state.clock entry.scheduledAt

theorem mem_scheduledJobs
    {jobs : JobTable}
    {due : ScheduledJob} :
    due ∈ scheduledJobs jobs ↔
      ∃ row ∈ jobs.rows,
        row.state = .scheduled ∧ row.isTemplate = false ∧
          due = { id := row.id, scheduledAt := row.scheduledAt } := by
  simp only [scheduledJobs, List.mem_map, List.mem_filter,
    Bool.and_eq_true, beq_iff_eq, Bool.not_eq_true']
  constructor
  · rintro ⟨row, ⟨member, scheduled, notTemplate⟩, rfl⟩
    exact ⟨row, member, scheduled, notTemplate, rfl⟩
  · rintro ⟨row, member, scheduled, notTemplate, rfl⟩
    exact ⟨row, ⟨member, scheduled, notTemplate⟩, rfl⟩

section Steps

variable {externals : Externals}
variable {state after : State config slots}
variable {action : Action config slots}

/-- A step that sets a row scheduled brings a refresh on its way. -/
theorem refreshComing_of_change
    (taken : step? externals state action = some after)
    {row : Job}
    (member : row ∈ state.jobs.rows)
    (change : state.StateChange row action .scheduled) :
    after.RefreshComing := by
  generalize written : JobState.scheduled = new at change
  cases change with
  | settle worker job result now disposition handling disposed =>
      refine Or.inr (Or.inr (Or.inr (Or.inl ⟨worker, ?_⟩)))
      rw [(settled_of_step? handling disposed taken).1]
      cases disposition <;> first | rfl | cases written
  | giveBack job returning =>
      have moved := schedulerMove_of_step? taken
      refine Or.inr (Or.inr (Or.inl ?_))
      rw [returning] at moved
      generalize after.scheduler = task at moved ⊢
      generalize after.toShared = shared at moved
      cases moved
      rfl
  | reap ticking leased expired =>
      have moved := reaperMove_of_step? taken
      refine Or.inr (Or.inr (Or.inr (Or.inr (Or.inr ?_))))
      rw [ticking] at moved
      generalize after.reaper = task at moved ⊢
      generalize after.toShared = shared at moved
      cases moved with
      | reap =>
          rfl
      | reapNothing nothing =>
          have skipped := nothing row member
          simp [reapExpiredLeases, leased, expired] at skipped
  | recover =>
      cases taken
      exact Or.inr (Or.inl rfl)
  | _ =>
      cases written

/-- A step that inserts a row to run brings a refresh on its way. -/
theorem refreshComing_of_inserts
    (taken : step? externals state action = some after)
    {row : Job}
    (insertion : state.Inserts externals action row)
    (notTemplate : row.isTemplate = false)
    (added : after.jobs ≠ state.jobs) :
    after.RefreshComing := by
  cases insertion with
  | job slot clientId req id creating =>
      have moved := requestMove_of_step? taken
      refine Or.inr (Or.inr (Or.inr (Or.inr (Or.inl ⟨slot, ?_⟩))))
      rw [creating] at moved
      generalize after.requests slot = task at moved ⊢
      generalize after.toShared = shared at moved added
      cases moved with
      | create _ _ _ _ _ _ created =>
          cases created with
          | insertJob =>
              rfl
          | duplicateJob =>
              exact (added rfl).elim
  | template =>
      cases notTemplate
  | firstInstance slot clientId req template firstFire id creating =>
      have moved := requestMove_of_step? taken
      refine Or.inr (Or.inr (Or.inr (Or.inr (Or.inl ⟨slot, ?_⟩))))
      rw [creating] at moved
      generalize after.requests slot = task at moved ⊢
      generalize after.toShared = shared at moved added
      cases moved with
      | create _ _ _ _ _ _ created =>
          cases created with
          | insertInstance =>
              rfl
          | duplicateInstance =>
              exact (added rfl).elim
  | nextInstance worker job template nextFire id spawning =>
      obtain ⟨shared, moved, sameJobs, _⟩ := workerMove_of_step? taken
      refine Or.inr (Or.inr (Or.inr (Or.inl ⟨worker, ?_⟩)))
      rw [sameJobs] at added
      rw [spawning] at moved
      generalize after.workers worker = task at moved ⊢
      cases moved with
      | spawn _ _ _ _ progress spawned =>
          cases spawned with
          | insert =>
              rfl
          | duplicate =>
              exact (added rfl).elim

/-- A step that makes a row due brings a refresh on its way. -/
theorem due_or_refreshComing
    (taken : step? externals state action = some after)
    {due : ScheduledJob}
    (member : due ∈ scheduledJobs after.jobs) :
    due ∈ scheduledJobs state.jobs ∨ after.RefreshComing := by
  obtain ⟨row, rowMember, scheduled, notTemplate, rfl⟩ :=
    mem_scheduledJobs.mp member
  cases rowOrigin_of_step? taken rowMember with
  | kept old oldMember identity hasCron schedule =>
      left
      refine mem_scheduledJobs.mpr ⟨old, oldMember,
        schedule.state.symm.trans scheduled,
        (Job.isTemplate_eq_of_identity identity).symm.trans notTemplate,
        ?_⟩
      rw [Job.id_eq_of_identity identity, schedule.scheduledAt]
  | changed old oldMember identity hasCron change =>
      rw [scheduled] at change
      exact Or.inr (refreshComing_of_change taken oldMember change)
  | inserted fresh insertion =>
      -- A refused insert leaves the table, which the row is fresh for.
      have added : after.jobs ≠ state.jobs := by
        intro same
        exact fresh.1 row (same ▸ rowMember) rfl
      exact Or.inr
        (refreshComing_of_inserts taken insertion notTemplate added)

/-- A spawn that owes a notification still does, or has made it. -/
private theorem owes_or_notified_spawn
    {shared later : Shared}
    {job : Job}
    {call : SpawnCall}
    {reply : Reply}
    {progress : SpawnProgress}
    (moved : call.Move externals shared reply later progress)
    (owes : (WorkerTask.spawning job call).owesNotify = true)
    (succeeds : reply.succeeded = true) :
    (WorkerTask.afterSpawn job progress).owesNotify = true ∨
      later.permit = true := by
  cases moved with
  | increment =>
      exact Or.inl rfl
  | announce =>
      exact Or.inr rfl
  | fails =>
      cases succeeds
  | _ =>
      cases owes

/-- A worker that owes a notification still does, or has made it. -/
theorem owes_or_notified_worker
    {worker : Fin config.workerCount}
    (owes : (state.workers worker).owesNotify = true)
    (succeeds : action.succeeds = true)
    (notRestart : action ≠ .restart)
    (taken : step? externals state action = some after) :
    (after.workers worker).owesNotify = true ∨ after.permit = true := by
  cases workerStep_of_step? taken worker with
  | kept same =>
      exact Or.inl (same ▸ owes)
  | idle notified isIdle wasIdle =>
      rcases wasIdle with isRestart | ⟨before, wasIdle⟩
      · exact (notRestart isRestart).elim
      · rw [wasIdle] at owes
        cases owes
  | moved workerAction shared isWorker moved sameJobs samePermit =>
      rw [samePermit]
      subst isWorker
      generalize state.workers worker = task at moved owes
      generalize after.workers worker = next at moved ⊢
      cases moved with
      | announce =>
          exact Or.inr rfl
      | spawn job call reply later progress spawned =>
          exact owes_or_notified_spawn spawned owes succeeds
      | _ =>
          cases owes

/-- A request that has made a row due still owes, or has notified. -/
theorem owes_or_notified_request
    {slot : Fin slots}
    (owes : (state.requests slot).owesDue = true)
    (succeeds : action.succeeds = true)
    (notRestart : action ≠ .restart)
    (taken : step? externals state action = some after) :
    (after.requests slot).owesDue = true ∨ after.permit = true := by
  cases requestStep_of_step? taken slot with
  | kept same =>
      exact Or.inl (same ▸ owes)
  | lost isAbsent isRestart =>
      exact (notRestart isRestart).elim
  | moved requestAction isApi moved =>
      subst isApi
      generalize state.requests slot = task at moved owes
      generalize after.requests slot = next at moved ⊢
      generalize after.toShared = shared at moved ⊢
      cases moved with
      | create clientId req position requestAction _ _ created =>
          cases created with
          | announceRecurring | announce =>
              exact Or.inr rfl
          | fails position message =>
              cases succeeds
          | _ =>
              cases owes
      | _ =>
          cases owes

/-- What is owed stays owed until the notification is made. -/
private theorem OwesDue.step
    (owes : state.OwesDue)
    (succeeds : action.succeeds = true)
    (notRestart : action ≠ .restart)
    (taken : step? externals state action = some after) :
    after.OwesDue ∨ after.permit = true := by
  rcases owes with ⟨worker, owes⟩ | ⟨slot, owes⟩ | notifying
  · rcases owes_or_notified_worker owes succeeds notRestart taken with
      still | notified
    · exact Or.inl (Or.inl ⟨worker, still⟩)
    · exact Or.inr notified
  · rcases owes_or_notified_request owes succeeds notRestart taken with
      still | notified
    · exact Or.inl (Or.inr (Or.inl ⟨slot, still⟩))
    · exact Or.inr notified
  · cases move_of_step? taken with
    | reaper reaperAction shared task moved =>
        rw [notifying] at moved
        cases moved
        exact Or.inr rfl
    | restart =>
        exact (notRestart rfl).elim
    | worker worker workerAction shared task moved =>
        refine Or.inl (Or.inr (Or.inr ?_))
        rw [dropClosed_reaper]
        exact notifying
    | tick | scheduler | api | shutdown =>
        exact Or.inl (Or.inr (Or.inr notifying))

/-- Only the scheduler takes the permit, and it refreshes then. -/
theorem permit_step
    (stored : state.permit = true)
    (taken : step? externals state action = some after) :
    after.permit = true ∨ after.scheduler.position = .refreshing := by
  cases move_of_step? taken with
  | scheduler schedulerAction shared task moved =>
      generalize state.scheduler.position = position at moved
      cases moved with
      | notified =>
          exact Or.inr rfl
      | announce =>
          exact Or.inl rfl
      | _ =>
          exact Or.inl stored
  | worker worker workerAction shared task moved =>
      rw [dropClosed_permit]
      generalize state.workers worker = before at moved
      cases moved with
      | announce =>
          exact Or.inl rfl
      | spawn job call reply later progress spawned =>
          cases spawned with
          | announce =>
              exact Or.inl rfl
          | _ =>
              exact Or.inl stored
      | _ =>
          exact Or.inl stored
  | reaper reaperAction shared task moved =>
      generalize state.reaper = before at moved
      cases moved with
      | announce =>
          exact Or.inl rfl
      | _ =>
          exact Or.inl stored
  | api slot requestAction shared task moved =>
      generalize state.requests slot = before at moved
      cases moved with
      | create _ _ _ _ _ _ created =>
          cases created with
          | announceRecurring | announce =>
              exact Or.inl rfl
          | _ =>
              exact Or.inl stored
      | cancel _ _ _ _ _ _ cancels =>
          cases cancels with
          | announce =>
              exact Or.inl rfl
          | _ =>
              exact Or.inl stored
      | announcePatch =>
          exact Or.inl rfl
      | _ =>
          exact Or.inl stored
  | restart =>
      exact Or.inr rfl
  | tick | shutdown =>
      exact Or.inl stored

/-- A coming refresh still comes, unless the step was the refresh. -/
theorem RefreshComing.step
    (coming : state.RefreshComing)
    (succeeds : action.succeeds = true)
    (notRefresh : ∀ fetched, action ≠ .scheduler (.refresh fetched))
    (taken : step? externals state action = some after) :
    after.RefreshComing := by
  by_cases isRestart : action = .restart
  · subst isRestart
    cases taken
    exact Or.inr (Or.inl rfl)
  rcases coming with stored | refreshing | notifying | owes
  · rcases permit_step stored taken with still | refreshing
    · exact Or.inl still
    · exact Or.inr (Or.inl refreshing)
  · cases move_of_step? taken with
    | scheduler schedulerAction shared task moved =>
        rw [refreshing] at moved
        cases moved with
        | refresh fetched =>
            exact (notRefresh fetched rfl).elim
        | refreshFails =>
            cases succeeds
    | worker =>
        refine Or.inr (Or.inl ?_)
        rw [dropClosed_scheduler]
        exact refreshing
    | restart =>
        exact (isRestart rfl).elim
    | tick | reaper | api | shutdown =>
        exact Or.inr (Or.inl refreshing)
  · cases move_of_step? taken with
    | scheduler schedulerAction shared task moved =>
        rw [notifying] at moved
        cases moved
        exact Or.inl rfl
    | worker =>
        refine Or.inr (Or.inr (Or.inl ?_))
        rw [dropClosed_scheduler]
        exact notifying
    | restart =>
        exact (isRestart rfl).elim
    | tick | reaper | api | shutdown =>
        exact Or.inr (Or.inr (Or.inl notifying))
  · rcases owes.step succeeds isRestart taken with still | notified
    · exact Or.inr (Or.inr (Or.inr still))
    · exact Or.inl notified

/-- A dispatch step leaves no scheduled row with the id it popped. -/
theorem popped_not_scheduled
    {entry : ScheduledJob}
    (taken :
      step? externals state (.scheduler (.lease entry .ok)) = some after)
    {due : ScheduledJob}
    (member : due ∈ scheduledJobs after.jobs) :
    due.id ≠ entry.id := by
  intro dueId
  obtain ⟨row, rowMember, scheduled, _, rfl⟩ :=
    mem_scheduledJobs.mp member
  have sameId : row.id = entry.id := dueId
  have moved := schedulerMove_of_step? taken
  generalize state.scheduler.position = position at moved
  generalize after.scheduler = task at moved
  change row ∈ after.toShared.jobs.rows at rowMember
  generalize after.toShared = shared at moved rowMember
  cases moved with
  | lease now _ job pops leased =>
      obtain ⟨old, oldMember, isImage⟩ :=
        RecordTable.mem_update.mp rowMember
      cases applies :
          (leaseJob state.clock entry.id
            config.leaseDurationSecs).applies old with
      | true =>
          rw [RowUpdate.image_of_applies applies] at isImage
          rw [← isImage] at scheduled
          cases scheduled
      | false =>
          rw [RowUpdate.image_of_not_applies applies] at isImage
          subst isImage
          simp [leaseJob, sameId, scheduled] at applies
  | leaseMisses now _ pops missed =>
      have skipped :=
        RecordTable.returning_eq_none_iff.mp missed row rowMember
      simp [leaseJob, sameId, scheduled] at skipped

/-- Only the scheduler changes its heap: it refreshes or pops. -/
theorem heap_step
    (taken : step? externals state action = some after) :
    after.scheduler.heap = state.scheduler.heap ∨
      (∃ entry reply,
        action = .scheduler (.lease entry reply) ∧
          after.scheduler.heap = state.scheduler.heap.erase entry) ∨
      (∃ fetched, action = .scheduler (.refresh fetched)) ∨
      action = .restart := by
  cases move_of_step? taken with
  | scheduler schedulerAction shared task moved =>
      generalize state.scheduler.position = position at moved
      cases moved with
      | refresh fetched =>
          exact Or.inr (Or.inr (Or.inl ⟨fetched, rfl⟩))
      | lease now entry | leaseMisses now entry | leaseFails now entry =>
          exact Or.inr (Or.inl ⟨entry, _, rfl, rfl⟩)
      | _ =>
          exact Or.inl rfl
  | worker =>
      rw [dropClosed_scheduler]
      exact Or.inl rfl
  | restart =>
      exact Or.inr (Or.inr (Or.inr rfl))
  | tick | reaper | api | shutdown =>
      exact Or.inl rfl

/-- A refresh with a positive limit covers the table. -/
private theorem covers_of_refresh
    (positive : 1 ≤ config.heapLookaheadLimit)
    {fetched : List ScheduledJob}
    (taken :
      step? externals state (.scheduler (.refresh fetched)) =
        some after) :
    EarliestFirst.Covers ScheduledJob.scheduledAt
      after.scheduler.heap (scheduledJobs after.jobs) := by
  have moved := schedulerMove_of_step? taken
  generalize state.scheduler.position = position at moved
  change EarliestFirst.Covers _ _ (scheduledJobs after.toShared.jobs)
  generalize after.scheduler = task at moved ⊢
  generalize after.toShared = shared at moved ⊢
  cases moved with
  | refresh _ answers =>
      exact .of_window answers.2 (by omega)

/-- A pop that does not run the heap dry in front of a row keeps it covering. -/
private theorem covers_after_pop
    {entry : ScheduledJob}
    {reply : Reply}
    (notComing : ¬state.RefreshComing)
    (covers :
      EarliestFirst.Covers ScheduledJob.scheduledAt
        state.scheduler.heap (scheduledJobs after.jobs))
    (succeeds : reply.succeeded = true)
    (leaves :
      state.scheduler.heap.erase entry = [] →
      state.permit = true ∨ state.OwesDue ∨
        ∀ due ∈ scheduledJobs state.jobs, due.id = entry.id)
    (nothingNew : scheduledJobs after.jobs ⊆ scheduledJobs state.jobs)
    (taken :
      step? externals state (.scheduler (.lease entry reply)) =
        some after) :
    EarliestFirst.Covers ScheduledJob.scheduledAt
      (state.scheduler.heap.erase entry) (scheduledJobs after.jobs) := by
  have isOk : reply = .ok := by
    have moved := schedulerMove_of_step? taken
    generalize state.scheduler.position = position at moved
    generalize after.toShared = shared at moved
    generalize after.scheduler = task at moved
    cases moved with
    | lease | leaseMisses =>
        rfl
    | leaseFails =>
        cases succeeds
  subst isOk
  by_cases dry : state.scheduler.heap.erase entry = []
  · rcases leaves dry with stored | owes | alone
    · exact (notComing (Or.inl stored)).elim
    · exact (notComing (Or.inr (Or.inr (Or.inr owes)))).elim
    · intro due member
      exact (popped_not_scheduled taken member
        (alone due (nothingNew member))).elim
  · refine covers.erase ?_ dry
    intro member
    exact popped_not_scheduled taken member rfl

/-- Every permitted step keeps the heap covering the table. -/
theorem HeapCovers.step
    (positive : 1 ≤ config.heapLookaheadLimit)
    (heapCovers : state.HeapCovers)
    (permitted : state.KeepsHeap action)
    (taken : step? externals state action = some after) :
    after.HeapCovers := by
  obtain ⟨succeeds, leaves⟩ := permitted
  by_cases coming : after.RefreshComing
  · exact Or.inl coming
  have nothingNew :
      scheduledJobs after.jobs ⊆ scheduledJobs state.jobs :=
    fun due member =>
      (due_or_refreshComing taken member).resolve_right coming
  by_cases isRefresh : ∃ fetched, action = .scheduler (.refresh fetched)
  · obtain ⟨fetched, rfl⟩ := isRefresh
    exact Or.inr (covers_of_refresh positive taken)
  have notRefresh :
      ∀ fetched, action ≠ .scheduler (.refresh fetched) :=
    fun fetched same => isRefresh ⟨fetched, same⟩
  have notComing : ¬state.RefreshComing :=
    fun before => coming (before.step succeeds notRefresh taken)
  have covers := (heapCovers.resolve_left notComing).mono nothingNew
  right
  rcases heap_step taken with
    same | ⟨entry, reply, rfl, erased⟩ | ⟨fetched, same⟩ | isRestart
  · rw [same]
    exact covers
  · rw [erased]
    exact covers_after_pop notComing covers succeeds
      (fun dry => leaves entry (if_pos dry)) nothingNew taken
  · exact (notRefresh fetched same).elim
  · subst isRestart
    cases taken
    exact (coming (Or.inr (Or.inl rfl))).elim

/-- A sleep that starts now ends no later than any entry falls due. -/
private theorem await_bounded
    {shared : Shared}
    {heap : List ScheduledJob}
    {wakeAt : Time}
    (waits :
      (SchedulerTask.await shared heap).position = .waiting wakeAt)
    {entry : ScheduledJob}
    (member : entry ∈ heap) :
    wakeAt ≤ max shared.clock entry.scheduledAt := by
  have isWake :
      SchedulerTask.wakeInstant shared.clock heap = wakeAt := by
    simpa [SchedulerTask.await] using waits
  subst isWake
  unfold SchedulerTask.wakeInstant
  cases earliest :
      EarliestFirst.earliest? ScheduledJob.scheduledAt heap with
  | none =>
      have isEmpty := List.minimum_eq_top.mp earliest
      rw [List.map_eq_nil_iff.mp isEmpty] at member
      cases member
  | some rank =>
      exact max_le_max le_rfl (EarliestFirst.earliest?_le earliest member)

/-- The end of the sleep stays bounded while the clock goes on. -/
theorem SleepBounded.step
    (bounded : state.SleepBounded)
    (taken : step? externals state action = some after) :
    after.SleepBounded := by
  intro wakeAt waits entry member
  cases move_of_step? taken with
  | tick elapsed =>
      refine (bounded wakeAt waits entry member).trans ?_
      exact max_le_max
        (Int.le_add_of_nonneg_right (Int.natCast_nonneg elapsed)) le_rfl
  | scheduler schedulerAction shared task moved =>
      generalize state.scheduler.position = position at moved
      cases moved with
      | refresh | refreshFails | leaseFails | dispatchDone | sendClosed |
          giveBackFails | announce =>
          exact await_bounded waits member
      | _ =>
          cases waits
  | worker worker workerAction shared task moved =>
      rw [dropClosed_scheduler] at waits member
      rw [dropClosed_clock]
      change wakeAt ≤ max shared.clock entry.scheduledAt
      rw [moved.clock_eq]
      exact bounded wakeAt waits entry member
  | reaper reaperAction shared task moved =>
      change wakeAt ≤ max shared.clock entry.scheduledAt
      rw [moved.clock_eq]
      exact bounded wakeAt waits entry member
  | api slot requestAction shared task moved =>
      change wakeAt ≤ max shared.clock entry.scheduledAt
      rw [moved.clock_eq]
      exact bounded wakeAt waits entry member
  | restart =>
      cases waits
  | shutdown =>
      exact bounded wakeAt waits entry member

end Steps

/-- A heap that covers the table and bounds the sleep wakes in time. -/
theorem wakesInTime_of_heapCovers
    {state : State config slots}
    (heapCovers : state.HeapCovers)
    (bounded : state.SleepBounded) :
    state.WakesInTime := by
  unfold WakesInTime
  split
  · rename_i wakeAt waits
    intro noPermit noDebt due member
    have notComing : ¬state.RefreshComing := by
      rintro (stored | refreshing | notifying | owes)
      · rw [noPermit] at stored
        cases stored
      · rw [waits] at refreshing
        cases refreshing
      · rw [waits] at notifying
        cases notifying
      · exact noDebt owes.owesNotify
    have covers := heapCovers.resolve_left notComing
    obtain ⟨entry, entryMember, earlier⟩ := covers.exists_le member
    refine ⟨⟨entry, entryMember, earlier⟩, ?_⟩
    calc
      wakeAt ≤ max state.clock entry.scheduledAt :=
        bounded wakeAt waits entry entryMember
      _ ≤ max state.clock due.scheduledAt := max_le_max le_rfl earlier
  · trivial

/--
With a positive lookahead, in a run whose calls succeed and which pops the last
entry of the heap only if a refresh is coming or no other row is scheduled, the
scheduler never sleeps past a deadline.
-/
theorem wakesInTime_of_keepsHeap
    {externals : Externals}
    (positive : 1 ≤ config.heapLookaheadLimit)
    {clock : Time}
    {jobs : JobTable}
    {actions : List (Action config slots)}
    {final : State config slots}
    (run :
      Run externals KeepsHeap (booted config slots clock jobs) actions
        final) :
    final.WakesInTime := by
  have heapCovers : final.HeapCovers :=
    run.invariant
      (fun covers permitted taken => covers.step positive permitted taken)
      (Or.inl (Or.inr (Or.inl rfl)))
  have bounded : final.SleepBounded :=
    run.invariant
      (fun bounded _ taken => bounded.step taken)
      (fun wakeAt waits => by cases waits)
  exact wakesInTime_of_heapCovers heapCovers bounded

end State

/-! ## Concrete runs -/

namespace Sample

/-- A daemon that looks ahead by one job. -/
abbrev shortSighted : Config :=
  { config with heapLookaheadLimit := 1 }

/-- A job that is due after ten seconds. -/
def later (idempotencyKey : String) : CreateJobRequest :=
  { oneOff idempotencyKey with scheduledAt := 10000000 }

/-- Two jobs are created, and the scheduler looks ahead to the first. -/
def createTwo : List (Action shortSighted 2) :=
  [ .api 0 (.arrive (.createJob clientId (oneOff "first"))),
    .api 0 (.call .ok),
    .api 0 (.call (.inserted 1)),
    .api 0 .notifyOne,
    .api 1 (.arrive (.createJob clientId (later "second"))),
    .api 1 (.call .ok),
    .api 1 (.call (.inserted 2)),
    .api 1 .notifyOne,
    .scheduler (.refresh [⟨1, 0⟩]),
    .scheduler .notified,
    .scheduler (.refresh [⟨1, 0⟩]) ]

/-- The scheduler sends the first job and goes back to sleep. -/
def dispatchFirst : List (Action shortSighted 2) :=
  [ .scheduler .sleepElapsed,
    .scheduler (.lease ⟨1, 0⟩ .ok),
    .scheduler .trySend,
    .scheduler .dispatchDone ]

/-- As long as the window has not run dry the sleep ends in time. -/
theorem window_wakes_in_time :
    ∃ final,
      State.Run externals State.KeepsHeap
          (State.booted shortSighted 2 0 RecordTable.empty)
          createTwo final ∧
        (JobRepository.scheduledJobs final.jobs).length = 2 ∧
        final.WakesInTime := by
  obtain ⟨final, run, scheduled⟩ :=
    TransitionSystem.exists_run_of_replay?
      (State.step? externals) State.KeepsHeap
      (State.booted shortSighted 2 0 RecordTable.empty) createTwo
      (fun final =>
        (JobRepository.scheduledJobs final.jobs).length = 2)
      (by decide)
  exact ⟨final, run, scheduled,
    State.wakesInTime_of_keepsHeap (by decide) run⟩

/-- Once it has, the scheduler sleeps for an hour in front of the second job. -/
theorem dry_window_sleeps_past_deadline :
    ∃ final,
      State.Run externals TransitionSystem.Unrestricted
          (State.initial shortSighted 2 0)
          (createTwo ++ dispatchFirst) final ∧
        (∀ action ∈ createTwo ++ dispatchFirst,
          action.succeeds = true) ∧
        final.scheduler.position = .waiting 3600000000 ∧
        ¬final.WakesInTime := by
  obtain ⟨final, run, waits, late⟩ :=
    TransitionSystem.exists_run_of_replay?
      (State.step? externals) TransitionSystem.Unrestricted
      (State.initial shortSighted 2 0) (createTwo ++ dispatchFirst)
      (fun final =>
        final.scheduler.position = .waiting 3600000000 ∧
          ¬final.WakesInTime)
      (by decide)
  exact ⟨final, run, by decide, waits, late⟩

end Sample

end Kronkeeper
