import Mathlib.Algebra.BigOperators.Fin
import Mathlib.Algebra.Order.BigOperators.Group.Finset
import Kronkeeper.RetryBudget
import Kronkeeper.RowHistory

namespace Kronkeeper

/-!
# No task works for ever

Every task waits somewhere: a worker for a job, the scheduler for a deadline or
a permit, the reaper for its interval, a request slot for a request.  Between
two waits it makes a bounded number of steps of its own, however the steps of
the others fall between them, and never has to wait for another task.
-/

/-! ## A spawn -/

namespace SpawnCall

/-- The calls that are left to a spawn, the next one included. -/
def callsLeft : SpawnCall → Nat
  | .readTemplate _ _ => 6
  | .countSiblings _ _ => 5
  | .lookupKey _ _ => 4
  | .insertInstance _ _ => 3
  | .incrementInserted _ _ => 2
  | .completeTemplate _ => 1
  | .incrementSkipped _ _ => 1
  | .notifyOne _ => 1

theorem callsLeft_pos (call : SpawnCall) : 0 < call.callsLeft := by
  cases call <;> simp [callsLeft]

theorem callsLeft_le (call : SpawnCall) : call.callsLeft ≤ 6 := by
  cases call <;> simp [callsLeft]

theorem Move.callsLeft_lt
    {externals : Externals}
    {shared after : Shared}
    {call next : SpawnCall}
    {reply : Reply}
    (moved : call.Move externals shared reply after (.next next)) :
    next.callsLeft < call.callsLeft := by
  cases moved.successor <;> simp [callsLeft]

/-- Some answer of the database lets every call go on. -/
theorem exists_step?
    (externals : Externals)
    (shared : Shared)
    (call : SpawnCall) :
    ∃ reply after, call.step? externals reply shared = some after := by
  cases call with
  | insertInstance template nextFire =>
      refine ⟨.inserted 0, ?_⟩
      simp only [step?]
      split
      · exact ⟨_, rfl⟩
      · exact ⟨_, rfl⟩
  | countSiblings template nextFire =>
      refine ⟨.ok, ?_⟩
      simp only [step?]
      split
      · exact ⟨_, rfl⟩
      · exact ⟨_, rfl⟩
  | lookupKey template nextFire =>
      refine ⟨.ok, ?_⟩
      simp only [step?]
      split
      · exact ⟨_, rfl⟩
      · exact ⟨_, rfl⟩
  | _ =>
      exact ⟨.ok, _, rfl⟩

end SpawnCall

/-! ## A worker -/

/-- A step that does not begin by waiting. -/
def WorkerAction.toils : WorkerAction → Bool
  | .recv => false
  | .stop => false
  | _ => true

namespace WorkerTask

/-- The task has something to do. -/
def busy : WorkerTask → Bool
  | .idle _ => false
  | .stopped => false
  | .panicked => false
  | _ => true

/-- The longest call of `emit`, with the end of the loop iteration. -/
def emitWork (config : Config) : Nat :=
  (config.webhookMaxRetries + 1).toNat + 3

/-- The most steps that are left until the task waits again. -/
def work (config : Config) : WorkerTask → Nat
  | .idle _ => 0
  | .received _ => emitWork config + 10
  | .starting _ => emitWork config + 9
  | .executing _ => emitWork config + 8
  | .handling _ _ _ => emitWork config + 7
  | .retried _ => 2
  | .spawning _ call => emitWork config + call.callsLeft
  | .emitting _ .loadJob => emitWork config
  | .emitting _ (.post _ _ attempts) =>
      (config.webhookMaxRetries + 1 - attempts).toNat + 2
  | .emitting _ (.recordResult _ _) => 2
  | .finishing => 1
  | .stopped => 0
  | .panicked => 0

/-- The attempts a delivery has counted are within its limit. -/
def AttemptsCounted (config : Config) : WorkerTask → Prop
  | .emitting _ (.post _ _ attempts) =>
      0 ≤ attempts ∧ attempts ≤ config.webhookMaxRetries
  | .emitting _ (.recordResult _ attempts) => 0 ≤ attempts
  | _ => True

variable {config : Config}
variable {externals : Externals}
variable {shared after : Shared}
variable {task next : WorkerTask}
variable {action : WorkerAction}

theorem work_le
    (counted : task.AttemptsCounted config) :
    task.work config ≤ emitWork config + 10 := by
  cases task with
  | spawning job call =>
      have few := call.callsLeft_le
      simp only [work]
      omega
  | emitting job call =>
      cases call with
      | post body url attempts =>
          obtain ⟨nonneg, _⟩ := counted
          simp only [work, emitWork]
          omega
      | _ =>
          simp only [work, emitWork]
          omega
  | _ =>
      simp [work]

theorem attemptsCounted_afterSettle
    (job : Job)
    (disposition : Disposition) :
    (afterSettle job disposition).AttemptsCounted config := by
  cases disposition <;> simp only [afterSettle]
  case complete => split <;> exact trivial
  all_goals exact trivial

theorem work_afterSettle_lt
    (job : Job)
    (disposition : Disposition) :
    (afterSettle job disposition).work config < emitWork config + 7 := by
  cases disposition <;> simp only [afterSettle]
  case complete =>
    split
    · simp [work, SpawnCall.callsLeft]
    · simp [work]
  all_goals
    simp only [work]
    omega

/-- The head of the delivery loop is paid for by the attempts left. -/
theorem attempt_counted
    (config : Config)
    (job body : Job)
    (url : String)
    {attempts : Int}
    (nonneg : 0 ≤ attempts) :
    (afterEmit job
          (WebhookEmitter.attempt config body url attempts)).AttemptsCounted
        config ∧
      (afterEmit job
          (WebhookEmitter.attempt config body url attempts)).work config ≤
        (config.webhookMaxRetries + 1 - attempts).toNat + 2 := by
  unfold WebhookEmitter.attempt
  split
  · rename_i within
    exact ⟨⟨nonneg, within⟩, Nat.le_refl _⟩
  · exact ⟨nonneg, Nat.le_add_left 2 _⟩

private theorem emit_work
    {job : Job}
    {call : EmitCall}
    (limited : config.webhookMaxRetries < 2 ^ 31 - 1)
    (rows : ∀ row ∈ shared.jobs.rows, 0 ≤ row.webhookAttempts)
    (counted : (emitting job call).AttemptsCounted config)
    (taken :
      (emitting job call).step? config externals shared action =
        some (after, next)) :
    next.AttemptsCounted config ∧
      next.work config < (emitting job call).work config := by
  cases call with
  | loadJob =>
      rcases action with _ | _ | _ | _ | _ | _ | _ | (_ | _ | _) | _ | _ | _ <;>
        simp only [step?, reduceCtorEq] at taken
      · cases taken
        unfold WebhookEmitter.planDelivery
        split
        · exact ⟨trivial, by simp [afterEmit, work, emitWork]⟩
        · rename_i row found
          have nonneg :=
            rows row (RecordTable.find?_eq_some_iff.mp found).1
          split
          · exact ⟨trivial, by simp [afterEmit, work, emitWork]⟩
          · split
            · exact ⟨trivial, by simp [afterEmit, work, emitWork]⟩
            · rename_i url _
              obtain ⟨attemptCounted, bound⟩ :=
                attempt_counted config job row url nonneg
              refine ⟨attemptCounted, Nat.lt_of_le_of_lt bound ?_⟩
              simp only [work, emitWork]
              omega
      · cases taken
        exact ⟨trivial, by simp [work, emitWork]⟩
  | post body url attempts =>
      obtain ⟨nonneg, within⟩ := counted
      rcases action with _ | _ | _ | _ | _ | _ | _ | _ | delivered | _ | _ <;>
        simp only [step?, reduceCtorEq] at taken
      cases taken
      have noWrap : wrapI32 (attempts + 1) = attempts + 1 :=
        wrapI32_eq_self (by omega) (by omega)
      unfold WebhookEmitter.afterPost
      rw [noWrap]
      split
      · refine ⟨?_, ?_⟩
        · change 0 ≤ attempts + 1
          omega
        · simp only [afterEmit, work]
          omega
      · have nextNonneg : 0 ≤ attempts + 1 := by omega
        obtain ⟨attemptCounted, bound⟩ :=
          attempt_counted config job body url nextNonneg
        refine ⟨attemptCounted, Nat.lt_of_le_of_lt bound ?_⟩
        simp only [work]
        omega
  | recordResult success attempts =>
      rcases action with _ | _ | _ | _ | _ | _ | _ | (_ | _ | _) | _ | _ | _ <;>
        simp only [step?, reduceCtorEq] at taken
      all_goals
        cases taken
        exact ⟨trivial, by simp [work]⟩

/-- A step of a worker that is not waiting leaves it less to do. -/
theorem work_lt_of_step?
    (limited : config.webhookMaxRetries < 2 ^ 31 - 1)
    (rows : ∀ row ∈ shared.jobs.rows, 0 ≤ row.webhookAttempts)
    (counted : task.AttemptsCounted config)
    (toils : action.toils = true)
    (taken :
      task.step? config externals shared action = some (after, next)) :
    next.AttemptsCounted config ∧ next.work config < task.work config := by
  have moved := move_of_step? taken
  cases task with
  | emitting job call =>
      exact emit_work limited rows counted taken
  | idle notified =>
      cases moved <;> cases toils
  | handling job result now =>
      cases moved with
      | settle _ _ _ disposition disposed =>
          exact ⟨attemptsCounted_afterSettle job disposition,
            work_afterSettle_lt job disposition⟩
      | settleFails | settlePanics =>
          exact ⟨trivial, by simp [work]⟩
  | spawning job call =>
      cases moved with
      | spawn _ _ reply after progress spawned =>
          have positive := call.callsLeft_pos
          rcases progress with call | (_ | _)
          · have fewer := spawned.callsLeft_lt
            exact ⟨trivial, Nat.add_lt_add_left fewer _⟩
          · refine ⟨trivial, ?_⟩
            simp only [afterSpawn, work, emitWork]
            omega
          · exact ⟨trivial, Nat.lt_add_of_pos_right positive⟩
  | received | starting | executing | retried | finishing =>
      cases moved <;> exact ⟨trivial, by simp [work]⟩
  | stopped | panicked =>
      cases moved

/-- A step that a worker waits for leaves it at most its longest work. -/
theorem work_of_step?
    (idles : action.toils = false)
    (taken :
      task.step? config externals shared action = some (after, next)) :
    task.work config = 0 ∧ next.AttemptsCounted config ∧
      next.work config ≤
        (emitWork config + 10) * (action == .recv).toNat := by
  cases move_of_step? taken with
  | receive | stop =>
      exact ⟨rfl, trivial, by simp [work]⟩
  | _ =>
      cases idles

/-- A busy worker can go on, whatever the others do. -/
theorem exists_step_of_busy
    (config : Config)
    (externals : Externals)
    (shared : Shared)
    (isBusy : task.busy = true) :
    ∃ action result,
      action.toils = true ∧
        task.step? config externals shared action = some result := by
  cases task with
  | idle | stopped | panicked =>
      cases isBusy
  | received job =>
      exact ⟨.activate, _, rfl, rfl⟩
  | starting job =>
      exact ⟨.setRunning .ok, _, rfl, rfl⟩
  | executing job =>
      have fits :
          Executor.outcomeFits job.payload .timedOut = true := by
        simp [Executor.outcomeFits]
      refine ⟨.execute .timedOut, ?_⟩
      simp only [step?, fits, if_true, Executor.execute?]
      exact ⟨_, rfl, rfl⟩
  | handling job result now =>
      cases disposed : ResultHandler.dispose? config job result now with
      | none =>
          refine ⟨.settle .ok, ?_⟩
          simp only [step?, disposed]
          exact ⟨_, rfl, rfl⟩
      | some disposition =>
          refine ⟨.settle .ok, ?_⟩
          simp only [step?, disposed]
          exact ⟨_, rfl, rfl⟩
  | retried job =>
      exact ⟨.notifyOne, _, rfl, rfl⟩
  | spawning job call =>
      obtain ⟨reply, ⟨after, progress⟩, taken⟩ :=
        call.exists_step? externals shared
      refine ⟨.spawn reply, ?_⟩
      simp only [step?, taken, Option.map_some]
      exact ⟨_, rfl, rfl⟩
  | emitting job call =>
      cases call with
      | loadJob =>
          exact ⟨.emit .ok, _, rfl, rfl⟩
      | post =>
          exact ⟨.posted true, _, rfl, rfl⟩
      | recordResult =>
          exact ⟨.emit .ok, _, rfl, rfl⟩
  | finishing =>
      exact ⟨.deactivate, _, rfl, rfl⟩

end WorkerTask

/-! ## The scheduler -/

/-- A step that does not begin by waiting. -/
def SchedulerAction.toils : SchedulerAction → Bool
  | .sleepElapsed => false
  | .notified => false
  | _ => true

namespace SchedulerTask

/-- The task has something to do. -/
def busy (task : SchedulerTask) : Bool :=
  match task.position with
  | .waiting _ => false
  | _ => true

/-- The most steps that are left until the task waits again. -/
def work (task : SchedulerTask) : Nat :=
  match task.position with
  | .refreshing => 1
  | .waiting _ => 0
  | .dispatching _ => 2 * task.heap.length + 2
  | .sending _ _ => 2 * task.heap.length + 3
  | .returning _ => 2
  | .notifying => 1

/-- The longest round of the loop. -/
def roundWork (config : Config) : Nat :=
  2 * config.heapLookaheadLimit.toNat + 3

/-- The heap is no larger than a refresh can make it. -/
def HeapLimited (config : Config) (task : SchedulerTask) : Prop :=
  task.heap.length ≤ config.heapLookaheadLimit.toNat

variable {config : Config}
variable {channelClosed : Bool}
variable {shared after : Shared}
variable {task next : SchedulerTask}
variable {action : SchedulerAction}

theorem work_le
    (limited : task.HeapLimited config) :
    task.work ≤ roundWork config := by
  unfold HeapLimited at limited
  unfold work roundWork
  split <;> omega

/-- A round of the loop is paid for by the heap. -/
theorem work_of_step?
    (limited : task.HeapLimited config)
    (taken :
      task.step? config channelClosed shared action = some (after, next)) :
    next.HeapLimited config ∧
      if action.toils then next.work < task.work
      else task.work = 0 := by
  have moved := move_of_step? taken
  obtain ⟨heap, position⟩ := task
  unfold HeapLimited at limited ⊢
  dsimp only at limited moved
  cases moved with
  | refresh fetched answers =>
      have isWindow := answers.2.length
      exact ⟨by simp only [await, buildHeap]; omega, Nat.zero_lt_one⟩
  | wake | notified =>
      exact ⟨limited, rfl⟩
  | lease now entry job pops =>
      have shorter := List.length_erase_of_mem pops.1.1
      have positive := List.length_pos_of_mem pops.1.1
      exact ⟨by simp only [shorter]; omega,
        by simp only [SchedulerAction.toils, if_true, work]; omega⟩
  | leaseMisses now entry pops =>
      have shorter := List.length_erase_of_mem pops.1.1
      have positive := List.length_pos_of_mem pops.1.1
      exact ⟨by simp only [shorter]; omega,
        by simp only [SchedulerAction.toils, if_true, work]; omega⟩
  | leaseFails now entry message pops =>
      have shorter := List.length_erase_of_mem pops.1.1
      exact ⟨by simp only [await, shorter]; omega,
        by simp [SchedulerAction.toils, work, await]⟩
  | refreshFails | dispatchDone | sendClosed | giveBackFails | announce =>
      exact ⟨limited, by simp [SchedulerAction.toils, work, await]⟩
  | send | sendFull | giveBack =>
      exact ⟨limited, by simp [SchedulerAction.toils, work]⟩

/-- A busy scheduler can go on, whatever the others do. -/
theorem exists_step_of_busy
    (config : Config)
    (channelClosed : Bool)
    (shared : Shared)
    (isBusy : task.busy = true) :
    ∃ action result,
      action.toils = true ∧
        task.step? config channelClosed shared action = some result := by
  obtain ⟨heap, position⟩ := task
  cases position with
  | waiting =>
      cases isBusy
  | refreshing =>
      exact ⟨.refreshFails, _, rfl, rfl⟩
  | dispatching now =>
      by_cases nothing : NothingDue heap now
      · exact ⟨.dispatchDone, _, rfl, if_pos nothing⟩
      · unfold NothingDue at nothing
        push Not at nothing
        obtain ⟨due, dueMember, isDue⟩ := nothing
        obtain ⟨entry, least⟩ :
            ∃ entry,
              EarliestFirst.IsLeast ScheduledJob.scheduledAt heap entry :=
          EarliestFirst.exists_isLeast dueMember
        have pops : Pops heap now entry :=
          ⟨least, (least.2 due dueMember).trans isDue⟩
        refine ⟨.lease entry (.error ""), ?_⟩
        simp only [step?, if_pos pops]
        exact ⟨_, rfl, rfl⟩
  | sending now job =>
      cases channelClosed with
      | true =>
          exact ⟨.trySend, _, rfl, rfl⟩
      | false =>
          by_cases room : shared.channel.length < config.workerQueueSize
          · refine ⟨.trySend, ?_⟩
            simp only [step?, if_pos room, Bool.false_eq_true, if_false]
            exact ⟨_, rfl, rfl⟩
          · refine ⟨.trySend, ?_⟩
            simp only [step?, if_neg room, Bool.false_eq_true, if_false]
            exact ⟨_, rfl, rfl⟩
  | returning job =>
      exact ⟨.returnJob .ok, _, rfl, rfl⟩
  | notifying =>
      exact ⟨.notifyOne, _, rfl, rfl⟩

end SchedulerTask

/-! ## The reaper -/

/-- A step that does not begin by waiting. -/
def ReaperAction.toils : ReaperAction → Bool
  | .reap _ => false
  | .notifyOne => true

namespace ReaperTask

/-- The steps that are left until the task waits again. -/
def work : ReaperTask → Nat
  | .ticking => 0
  | .notifying => 1

variable {shared after : Shared}
variable {task next : ReaperTask}
variable {action : ReaperAction}

theorem work_le (task : ReaperTask) : task.work ≤ 1 := by
  cases task <;> simp [work]

theorem work_of_step?
    (taken : task.step? shared action = some (after, next)) :
    if action.toils then next.work < task.work else task.work = 0 := by
  cases move_of_step? taken <;> simp [ReaperAction.toils, work]

end ReaperTask

/-! ## An API request -/

/-- A step that does not begin by waiting. -/
def RequestAction.toils : RequestAction → Bool
  | .arrive _ => false
  | _ => true

namespace RequestTask

/-- The most steps that are left until the answer. -/
def work : RequestTask → Nat
  | .absent => 0
  | .creating _ _ .lookup => 5
  | .creating _ _ .insertJob => 2
  | .creating _ _ (.insertTemplate _ _) => 4
  | .creating _ _ (.insertInstance _ _) => 3
  | .creating _ _ (.notifyRecurring _ _) => 2
  | .creating _ _ (.notify _) => 1
  | .getting _ _ => 1
  | .cancelling _ _ .read => 4
  | .cancelling _ _ .cancelJob => 2
  | .cancelling _ _ .cancelTemplate => 3
  | .cancelling _ _ (.cancelInstances _) => 2
  | .cancelling _ _ .notify => 1
  | .patching _ _ _ .update => 3
  | .patching _ _ _ .read => 2
  | .patching _ _ _ (.notify _) => 1
  | .answered _ _ => 0

variable {externals : Externals}
variable {shared after : Shared}
variable {task next : RequestTask}
variable {action : RequestAction}

theorem work_le (task : RequestTask) : task.work ≤ 5 := by
  unfold work
  split <;> decide

theorem work_planCreate_lt
    (clientId : Uuid)
    (req : CreateJobRequest) :
    (planCreate externals clientId req).work < 5 := by
  unfold planCreate
  split
  · simp [work]
  · split <;> simp [work]

theorem work_planCancel_lt
    (clientId id : Uuid)
    (read : Option Job) :
    (planCancel clientId id read).work < 4 := by
  unfold planCancel
  split
  · simp [work]
  · split <;> simp [work]

/-- A step of a request brings it nearer to its answer. -/
theorem work_of_step?
    (taken : task.step? externals shared action = some (after, next)) :
    if action.toils then next.work < task.work else task.work = 0 := by
  have moved := move_of_step? taken
  cases moved with
  | arrive request =>
      exact rfl
  | create clientId req position action after next created =>
      cases created with
      | plan missing =>
          exact work_planCreate_lt clientId req
      | fails position message =>
          cases position <;> simp [RequestAction.toils, work]
      | _ =>
          simp [RequestAction.toils, work]
  | cancel clientId id position action after next cancelled =>
      cases cancelled with
      | read =>
          exact work_planCancel_lt ..
      | fails position message =>
          cases position <;> simp [RequestAction.toils, work]
      | _ =>
          simp [RequestAction.toils, work]
  | answerPatch clientId id req position =>
      cases position <;> simp [RequestAction.toils, work]
  | get | patch | readPatched | announcePatch =>
      simp [RequestAction.toils, work]

private theorem exists_createStep?
    (externals : Externals)
    (shared : Shared)
    (clientId : Uuid)
    (req : CreateJobRequest)
    (position : CreatePosition) :
    ∃ action result,
      action.toils = true ∧
        createStep? externals shared clientId req position action =
          some result := by
  cases position with
  | notifyRecurring | notify =>
      exact ⟨.notifyOne, _, rfl, rfl⟩
  | _ =>
      exact ⟨.call (.error ""), _, rfl, rfl⟩

/-- A request in progress can go on, whatever the others do. -/
theorem exists_step_of_inProgress
    (externals : Externals)
    (shared : Shared)
    (isOpen : task.inProgress = true) :
    ∃ action result,
      action.toils = true ∧
        task.step? externals shared action = some result := by
  cases task with
  | absent | answered =>
      cases isOpen
  | creating clientId req position =>
      exact exists_createStep? externals shared clientId req position
  | getting =>
      exact ⟨.call (.error ""), _, rfl, rfl⟩
  | cancelling clientId id position =>
      cases position with
      | notify =>
          exact ⟨.notifyOne, _, rfl, rfl⟩
      | _ =>
          exact ⟨.call (.error ""), _, rfl, rfl⟩
  | patching clientId id req position =>
      cases position with
      | notify =>
          exact ⟨.notifyOne, _, rfl, rfl⟩
      | _ =>
          exact ⟨.call (.error ""), _, rfl, rfl⟩

end RequestTask

/-! ## The parties of the daemon -/

/-- Who makes steps of its own. -/
inductive Party (config : Config) (slots : Nat) where
  | scheduler
  | reaper
  | worker (worker : Fin config.workerCount)
  | request (slot : Fin slots)
  deriving DecidableEq

/-- The most steps a party makes between two waits. -/
def Party.limit {config : Config} {slots : Nat} :
    Party config slots → Nat
  | .scheduler => SchedulerTask.roundWork config
  | .reaper => 1
  | .worker _ => WorkerTask.emitWork config + 10
  | .request _ => 5

namespace Action

variable {config : Config} {slots : Nat}

/-- Whose step it is. -/
def party? : Action config slots → Option (Party config slots)
  | .scheduler _ => some .scheduler
  | .reaper _ => some .reaper
  | .worker index _ => some (.worker index)
  | .api slot _ => some (.request slot)
  | _ => none

/-- A step of a party that was not waiting. -/
def toils : Action config slots → Bool
  | .scheduler action => action.toils
  | .reaper action => action.toils
  | .worker _ action => action.toils
  | .api _ action => action.toils
  | _ => false

/-- The party goes on with its work. -/
def toilsFor (party : Party config slots) (action : Action config slots) :
    Bool :=
  action.toils && action.party? == some party

/-- The party's wait ends, be it by its own doing, or the process restarts. -/
def wakes (party : Party config slots) (action : Action config slots) :
    Bool :=
  !action.toils && action.party? == some party || action == .restart

variable {party : Party config slots}
variable {action : Action config slots}

theorem toilsFor_of_own
    (isOwn : action.party? = some party) :
    action.toilsFor party = action.toils := by
  simp [toilsFor, isOwn]

theorem toilsFor_of_other
    (notOwn : action.party? ≠ some party) :
    action.toilsFor party = false := by
  simp [toilsFor, notOwn]

theorem wakes_of_own
    (isOwn : action.party? = some party)
    (waits : action.toils = false) :
    action.wakes party = true := by
  simp [wakes, isOwn, waits]

theorem wakes_restart :
    (restart : Action config slots).wakes party = true := by
  simp [wakes]

/-- Work belongs to somebody and wakes nobody. -/
theorem exists_party_of_toils
    (toils : action.toils = true) :
    (∃ party, action.toilsFor party = true) ∧
      ∀ party, action.wakes party = false := by
  cases action with
  | tick | shutdown | restart =>
      cases toils
  | scheduler own =>
      exact ⟨⟨.scheduler, by simpa [toilsFor, party?] using toils⟩,
        fun party => by simp [wakes, toils]⟩
  | reaper own =>
      exact ⟨⟨.reaper, by simpa [toilsFor, party?] using toils⟩,
        fun party => by simp [wakes, toils]⟩
  | worker index own =>
      exact ⟨⟨.worker index, by simpa [toilsFor, party?] using toils⟩,
        fun party => by simp [wakes, toils]⟩
  | api slot own =>
      exact ⟨⟨.request slot, by simpa [toilsFor, party?] using toils⟩,
        fun party => by simp [wakes, toils]⟩

end Action

namespace State

variable {config : Config} {slots : Nat}
variable {externals : Externals}
variable {state after : State config slots}
variable {action : Action config slots}

/-- What is left to do for a party until it waits again. -/
def workOf (state : State config slots) : Party config slots → Nat
  | .scheduler => state.scheduler.work
  | .reaper => state.reaper.work
  | .worker worker => (state.workers worker).work config
  | .request slot => (state.requests slot).work

/-- What is left to do for all of them together. -/
def work (state : State config slots) : Nat :=
  state.workOf .scheduler + state.workOf .reaper +
      ∑ worker, state.workOf (.worker worker) +
    ∑ slot, state.workOf (.request slot)

/-- The most that is ever left to do. -/
def workLimit (config : Config) (slots : Nat) : Nat :=
  SchedulerTask.roundWork config + 1 +
      config.workerCount * (WorkerTask.emitWork config + 10) +
    slots * 5

/-- Everybody is at its wait, whatever may be there already to end it. -/
structure Quiet (state : State config slots) : Prop where
  scheduler : state.scheduler.busy = false
  reaper : state.reaper = .ticking
  workers : ∀ worker, (state.workers worker).busy = false
  requests : ∀ slot, (state.requests slot).inProgress = false

/-- What the bounds rest on. -/
structure WorkBounded (state : State config slots) : Prop where
  rows : ∀ row ∈ state.jobs.rows, 0 ≤ row.webhookAttempts
  workers : ∀ worker, (state.workers worker).AttemptsCounted config
  scheduler : state.scheduler.HeapLimited config

theorem workBounded_booted
    {clock : Time}
    {jobs : JobTable}
    (rows : ∀ row ∈ jobs.rows, 0 ≤ row.webhookAttempts) :
    (booted config slots clock jobs).WorkBounded where
  rows := rows
  workers := fun _ => trivial
  scheduler := Nat.zero_le _

/-- Only the end of a delivery writes the attempts of a webhook. -/
private theorem WorkBounded.rows_step
    (bounded : state.WorkBounded)
    (taken : step? externals state action = some after)
    {row : Job}
    (member : row ∈ after.jobs.rows) :
    0 ≤ row.webhookAttempts := by
  cases tableStep_of_step? taken with
  | same same =>
      rw [same] at member
      exact bounded.rows row member
  | inserted added inserted insertion =>
      rcases (RecordTable.mem_of_insert? inserted).mp member with
        old | rfl
      · exact bounded.rows row old
      · cases insertion <;> exact Int.le_refl 0
  | updated change same updates =>
      rw [same] at member
      obtain ⟨old, oldMember, rfl⟩ := RecordTable.mem_update.mp member
      have nonneg := bounded.rows old oldMember
      cases applies : change.applies old with
      | false =>
          rw [RowUpdate.image_of_not_applies applies]
          exact nonneg
      | true =>
          rw [RowUpdate.image_of_applies applies]
          cases updates with
          | settle worker job result now disposition =>
              cases disposition <;> exact nonneg
          | record worker job success attempts emitting =>
              have counted := bounded.workers worker
              rw [emitting] at counted
              exact counted
          | _ =>
              exact nonneg

/-- The step of the scheduler behind a step of the system. -/
theorem schedulerTaken_of_step?
    {schedulerAction : SchedulerAction}
    (taken :
      step? externals state (.scheduler schedulerAction) = some after) :
    ∃ shared,
      state.scheduler.step? config (decide state.ChannelClosed)
          state.toShared schedulerAction =
        some (shared, after.scheduler) := by
  obtain ⟨⟨shared, task⟩, schedulerTaken, rfl⟩ :=
    Option.map_eq_some_iff.mp taken
  exact ⟨shared, schedulerTaken⟩

/-- A step of nobody else leaves the scheduler alone. -/
theorem scheduler_of_step?
    (taken : step? externals state action = some after)
    (notScheduler : ∀ own, action ≠ .scheduler own)
    (notRestart : action ≠ .restart) :
    after.scheduler = state.scheduler := by
  cases move_of_step? taken with
  | scheduler own =>
      exact (notScheduler own rfl).elim
  | restart =>
      exact (notRestart rfl).elim
  | worker =>
      exact dropClosed_scheduler _
  | _ =>
      rfl

theorem WorkBounded.step
    (limited : config.webhookMaxRetries < 2 ^ 31 - 1)
    (bounded : state.WorkBounded)
    (taken : step? externals state action = some after) :
    after.WorkBounded where
  rows _ member := bounded.rows_step taken member
  workers worker := by
    cases workerStep_of_step? taken worker with
    | kept same =>
        rw [same]
        exact bounded.workers worker
    | idle notified isIdle =>
        rw [isIdle]
        exact trivial
    | moved workerAction shared isWorker =>
        subst isWorker
        obtain ⟨_, workerTaken⟩ := workerTaken_of_step? taken
        cases toils : workerAction.toils with
        | true =>
            exact (WorkerTask.work_lt_of_step? limited bounded.rows
              (bounded.workers worker) toils workerTaken).1
        | false =>
            exact (WorkerTask.work_of_step? toils workerTaken).2.1
  scheduler := by
    by_cases isRestart : action = .restart
    · subst isRestart
      cases taken
      exact Nat.zero_le _
    · by_cases isOwn : ∃ own, action = .scheduler own
      · obtain ⟨own, rfl⟩ := isOwn
        obtain ⟨_, schedulerTaken⟩ := schedulerTaken_of_step? taken
        exact (SchedulerTask.work_of_step? bounded.scheduler
          schedulerTaken).1
      · rw [scheduler_of_step? taken
          (fun own same => isOwn ⟨own, same⟩) isRestart]
        exact bounded.scheduler

/-! ## One step and one party -/

/-- A party is not concerned by the steps of others, but for a restart. -/
private theorem workOf_of_other
    (taken : step? externals state action = some after)
    (party : Party config slots)
    (notOwn : action.party? ≠ some party)
    (notRestart : action ≠ .restart) :
    after.workOf party ≤ state.workOf party := by
  cases party with
  | scheduler =>
      have same := scheduler_of_step? taken
        (fun own isOwn => notOwn (by rw [isOwn]; rfl)) notRestart
      simp only [workOf, same, Nat.le_refl]
  | reaper =>
      have same : after.reaper = state.reaper := by
        cases move_of_step? taken with
        | reaper =>
            exact (notOwn rfl).elim
        | restart =>
            exact (notRestart rfl).elim
        | worker =>
            exact dropClosed_reaper _
        | _ =>
            rfl
      simp only [workOf, same, Nat.le_refl]
  | worker worker =>
      cases workerStep_of_step? taken worker with
      | kept same =>
          simp only [workOf, same, Nat.le_refl]
      | idle notified isIdle =>
          simp only [workOf, isIdle, WorkerTask.work, Nat.zero_le]
      | moved workerAction shared isWorker =>
          subst isWorker
          exact (notOwn rfl).elim
  | request slot =>
      cases requestStep_of_step? taken slot with
      | kept same =>
          simp only [workOf, same, Nat.le_refl]
      | lost isAbsent =>
          simp only [workOf, isAbsent, RequestTask.work, Nat.zero_le]
      | moved requestAction isApi =>
          subst isApi
          exact (notOwn rfl).elim

/-- A party's own step, by whether it was waiting. -/
private theorem workOf_of_own
    (limited : config.webhookMaxRetries < 2 ^ 31 - 1)
    (bounded : state.WorkBounded)
    (taken : step? externals state action = some after)
    (party : Party config slots)
    (isOwn : action.party? = some party) :
    if action.toils then after.workOf party < state.workOf party
    else after.workOf party ≤ party.limit := by
  have stillBounded := bounded.step limited taken
  cases action with
  | tick | shutdown | restart =>
      cases isOwn
  | scheduler own =>
      cases isOwn
      obtain ⟨_, schedulerTaken⟩ := schedulerTaken_of_step? taken
      have shrinks :=
        (SchedulerTask.work_of_step? bounded.scheduler schedulerTaken).2
      cases toils : own.toils with
      | true =>
          simpa [Action.toils, toils, workOf, Party.limit] using shrinks
      | false =>
          simpa [Action.toils, toils, workOf, Party.limit] using
            SchedulerTask.work_le stillBounded.scheduler
  | reaper own =>
      cases isOwn
      have reaperTaken :
          state.reaper.step? state.toShared own =
            some (after.toShared, after.reaper) := by
        obtain ⟨⟨shared, task⟩, reaperTaken, rfl⟩ :=
          Option.map_eq_some_iff.mp taken
        exact reaperTaken
      have shrinks := ReaperTask.work_of_step? reaperTaken
      cases toils : own.toils with
      | true =>
          simpa [Action.toils, toils, workOf, Party.limit] using shrinks
      | false =>
          simpa [Action.toils, toils, workOf, Party.limit] using
            after.reaper.work_le
  | worker worker own =>
      cases isOwn
      obtain ⟨_, workerTaken⟩ := workerTaken_of_step? taken
      cases toils : own.toils with
      | true =>
          have shrinks :=
            (WorkerTask.work_lt_of_step? limited bounded.rows
              (bounded.workers worker) toils workerTaken).2
          simpa [Action.toils, toils, workOf, Party.limit] using shrinks
      | false =>
          simpa [Action.toils, toils, workOf, Party.limit] using
            WorkerTask.work_le (stillBounded.workers worker)
  | api slot own =>
      cases isOwn
      have requestTaken :
          (state.requests slot).step? externals state.toShared own =
            some (after.toShared, after.requests slot) := by
        obtain ⟨⟨shared, task⟩, requestTaken, rfl⟩ :=
          Option.map_eq_some_iff.mp taken
        simpa only [Function.update_self] using requestTaken
      have shrinks := RequestTask.work_of_step? requestTaken
      cases toils : own.toils with
      | true =>
          simpa [Action.toils, toils, workOf, Party.limit] using shrinks
      | false =>
          simpa [Action.toils, toils, workOf, Party.limit] using
            (after.requests slot).work_le

/-- What a step does to the work of a party. -/
theorem workOf_of_step?
    (limited : config.webhookMaxRetries < 2 ^ 31 - 1)
    (bounded : state.WorkBounded)
    (taken : step? externals state action = some after)
    (party : Party config slots) :
    (action.toilsFor party).toNat + after.workOf party ≤
      state.workOf party + party.limit * (action.wakes party).toNat := by
  by_cases isRestart : action = .restart
  · subst isRestart
    cases taken
    have within :
        (restarted state).workOf party ≤ party.limit := by
      cases party with
      | scheduler =>
          change 1 ≤ SchedulerTask.roundWork config
          unfold SchedulerTask.roundWork
          omega
      | reaper | worker =>
          exact Nat.zero_le _
      | request slot =>
          exact RequestTask.work_le _
    rw [Action.wakes_restart, Bool.toNat_true, Nat.mul_one]
    exact (Nat.zero_add _).le.trans
      (within.trans (Nat.le_add_left _ _))
  · by_cases isOwn : action.party? = some party
    · have own := workOf_of_own limited bounded taken party isOwn
      rw [Action.toilsFor_of_own isOwn]
      cases toils : action.toils with
      | true =>
          simp only [toils, if_true] at own
          simp only [Bool.toNat_true]
          omega
      | false =>
          simp only [toils, Bool.false_eq_true, if_false] at own
          rw [Action.wakes_of_own isOwn toils, Bool.toNat_true, Nat.mul_one]
          simp only [Bool.toNat_false]
          omega
    · have other := workOf_of_other taken party isOwn isRestart
      rw [Action.toilsFor_of_other isOwn]
      simp only [Bool.toNat_false]
      omega

/-! ## All parties together -/

theorem workOf_le
    (bounded : state.WorkBounded)
    (party : Party config slots) :
    state.workOf party ≤ party.limit := by
  cases party with
  | scheduler =>
      exact SchedulerTask.work_le bounded.scheduler
  | reaper =>
      exact state.reaper.work_le
  | worker worker =>
      exact WorkerTask.work_le (bounded.workers worker)
  | request slot =>
      exact (state.requests slot).work_le

theorem work_le
    (bounded : state.WorkBounded) :
    state.work ≤ workLimit config slots := by
  have workers :
      ∑ worker, state.workOf (.worker worker) ≤
        config.workerCount * (WorkerTask.emitWork config + 10) := by
    simpa using
      Finset.sum_le_card_nsmul Finset.univ _ _
        fun worker _ => workOf_le bounded (.worker worker)
  have requests :
      ∑ slot, state.workOf (.request slot) ≤ slots * 5 := by
    simpa using
      Finset.sum_le_card_nsmul Finset.univ _ _
        fun slot _ => workOf_le bounded (.request slot)
  have scheduler := workOf_le bounded .scheduler
  have reaper := workOf_le bounded .reaper
  simp only [Party.limit] at scheduler reaper
  unfold work workLimit
  omega

/-- Whoever goes on with its work, less is left to do. -/
theorem work_lt_of_toils
    (limited : config.webhookMaxRetries < 2 ^ 31 - 1)
    (bounded : state.WorkBounded)
    (toils : action.toils = true)
    (taken : step? externals state action = some after) :
    after.work < state.work := by
  obtain ⟨⟨party, own⟩, noWakes⟩ := action.exists_party_of_toils toils
  have each :
      ∀ party,
        (action.toilsFor party).toNat + after.workOf party ≤
          state.workOf party := by
    intro party
    have bound := workOf_of_step? limited bounded taken party
    rw [noWakes party, Bool.toNat_false, Nat.mul_zero, Nat.add_zero] at bound
    exact bound
  have atMost : ∀ party, after.workOf party ≤ state.workOf party :=
    fun party => (Nat.le_add_left _ _).trans (each party)
  have less : after.workOf party < state.workOf party := by
    have paid := each party
    rw [own, Bool.toNat_true] at paid
    omega
  have scheduler := atMost .scheduler
  have reaper := atMost .reaper
  have workers :
      ∑ worker, after.workOf (.worker worker) ≤
        ∑ worker, state.workOf (.worker worker) :=
    Finset.sum_le_sum fun worker _ => atMost (.worker worker)
  have requests :
      ∑ slot, after.workOf (.request slot) ≤
        ∑ slot, state.workOf (.request slot) :=
    Finset.sum_le_sum fun slot _ => atMost (.request slot)
  unfold work
  cases party with
  | scheduler | reaper =>
      omega
  | worker worker =>
      have lessWorkers :
          ∑ worker, after.workOf (.worker worker) <
            ∑ worker, state.workOf (.worker worker) :=
        Finset.sum_lt_sum (fun worker _ => atMost (.worker worker))
          ⟨worker, Finset.mem_univ worker, less⟩
      omega
  | request slot =>
      have lessRequests :
          ∑ slot, after.workOf (.request slot) <
            ∑ slot, state.workOf (.request slot) :=
        Finset.sum_lt_sum (fun slot _ => atMost (.request slot))
          ⟨slot, Finset.mem_univ slot, less⟩
      omega

/-- Somebody can go on unless everybody waits. -/
theorem quiet_or_toils
    (externals : Externals)
    (state : State config slots) :
    state.Quiet ∨
      ∃ action after,
        action.toils = true ∧ step? externals state action = some after := by
  by_cases schedulerBusy : state.scheduler.busy = true
  · obtain ⟨own, result, toils, taken⟩ :=
      SchedulerTask.exists_step_of_busy config (decide state.ChannelClosed)
        state.toShared schedulerBusy
    refine Or.inr ⟨.scheduler own, ?_⟩
    simp only [step?, taken, Option.map_some]
    exact ⟨_, toils, rfl⟩
  by_cases reaperBusy : state.reaper = .notifying
  · refine Or.inr ⟨.reaper .notifyOne, ?_⟩
    simp only [step?, reaperBusy, ReaperTask.step?, Option.map_some]
    exact ⟨_, rfl, rfl⟩
  by_cases workerBusy : ∃ worker, (state.workers worker).busy = true
  · obtain ⟨worker, isBusy⟩ := workerBusy
    obtain ⟨own, result, toils, taken⟩ :=
      WorkerTask.exists_step_of_busy config externals state.toShared isBusy
    refine Or.inr ⟨.worker worker own, ?_⟩
    simp only [step?, taken, Option.map_some]
    exact ⟨_, toils, rfl⟩
  by_cases requestOpen : ∃ slot, (state.requests slot).inProgress = true
  · obtain ⟨slot, isOpen⟩ := requestOpen
    obtain ⟨own, result, toils, taken⟩ :=
      RequestTask.exists_step_of_inProgress externals state.toShared isOpen
    refine Or.inr ⟨.api slot own, ?_⟩
    simp only [step?, taken, Option.map_some]
    exact ⟨_, toils, rfl⟩
  refine Or.inl ⟨Bool.eq_false_iff.mpr schedulerBusy, ?_, ?_, ?_⟩
  · cases current : state.reaper with
    | ticking =>
        rfl
    | notifying =>
        exact (reaperBusy current).elim
  · exact fun worker =>
      Bool.eq_false_iff.mpr fun isBusy => workerBusy ⟨worker, isBusy⟩
  · exact fun slot =>
      Bool.eq_false_iff.mpr fun isOpen => requestOpen ⟨slot, isOpen⟩

/-- Nobody has anything left to do where everybody waits. -/
theorem Quiet.workOf_eq_zero
    (quiet : state.Quiet)
    (party : Party config slots) :
    state.workOf party = 0 := by
  cases party with
  | scheduler =>
      have waits := quiet.scheduler
      unfold SchedulerTask.busy at waits
      simp only [workOf, SchedulerTask.work]
      split at waits
      · rename_i wakeAt position
        rw [position]
      · cases waits
  | reaper =>
      simp only [workOf, quiet.reaper, ReaperTask.work]
  | worker worker =>
      have waits := quiet.workers worker
      simp only [workOf]
      cases current : state.workers worker <;>
        simp_all [WorkerTask.busy, WorkerTask.work]
  | request slot =>
      have waits := quiet.requests slot
      simp only [workOf]
      cases current : state.requests slot <;>
        simp_all [RequestTask.inProgress, RequestTask.work]

/-- Only what is going on anyway: no intake, no waiting, no restart. -/
def Toils
    (_ : State config slots)
    (action : Action config slots) : Prop :=
  action.toils = true

instance (state : State config slots) (action : Action config slots) :
    Decidable (state.Toils action) :=
  inferInstanceAs (Decidable (_ = _))

theorem workBounded_of_run
    (limited : config.webhookMaxRetries < 2 ^ 31 - 1)
    {allowed : State config slots → Action config slots → Prop}
    {actions : List (Action config slots)}
    {final : State config slots}
    (run : Run externals allowed state actions final)
    (bounded : state.WorkBounded) :
    final.WorkBounded :=
  run.invariant (fun bounded _ taken => bounded.step limited taken) bounded

/--
From every reachable state, whatever the database, the scripts and the peers
answer and however the tasks interleave, what is going on comes to an end after
a fixed number of steps, and ends nowhere but where every task waits.
-/
theorem work_runs_out
    (limited : config.webhookMaxRetries < 2 ^ 31 - 1)
    {clock : Time}
    {actions : List (Action config slots)}
    (run :
      Run externals TransitionSystem.Unrestricted
        (initial config slots clock) actions state) :
    ∀ later final,
      Run externals Toils state later final →
      later.length ≤ workLimit config slots ∧
        (final.Quiet ↔
          ∀ action,
            action.toils = true → step? externals final action = none) := by
  intro later final toiling
  have bounded : state.WorkBounded :=
    workBounded_of_run limited run
      (workBounded_booted fun _ member => by cases member)
  constructor
  · have within :=
      toiling.length_le WorkBounded work
        (fun bounded toils taken =>
          ⟨bounded.step limited taken,
            work_lt_of_toils limited bounded toils taken⟩)
        bounded
    exact within.trans (work_le bounded)
  · have finalBounded := workBounded_of_run limited toiling bounded
    constructor
    · intro quiet action toils
      cases taken : step? externals final action with
      | none =>
          rfl
      | some after =>
          obtain ⟨⟨party, own⟩, noWakes⟩ :=
            action.exists_party_of_toils toils
          have paid := workOf_of_step? limited finalBounded taken party
          rw [own, noWakes party, quiet.workOf_eq_zero party] at paid
          simp at paid
    · intro stuck
      rcases quiet_or_toils externals final with
        quiet | ⟨action, after, toils, taken⟩
      · exact quiet
      · rw [stuck action toils] at taken
        cases taken

/--
In every run, each party makes at most a fixed number of steps of its own for
each time it is woken, however many steps of the others fall between them.
-/
theorem steps_paid_by_wakes
    (limited : config.webhookMaxRetries < 2 ^ 31 - 1)
    {clock : Time}
    {actions : List (Action config slots)}
    {final : State config slots}
    (run :
      Run externals TransitionSystem.Unrestricted
        (initial config slots clock) actions final)
    (party : Party config slots) :
    TransitionSystem.occurrences (step? externals)
        (fun _ action => action.toilsFor party)
        (initial config slots clock) actions ≤
      party.limit *
        (1 +
          TransitionSystem.occurrences (step? externals)
            (fun _ action => action.wakes party)
            (initial config slots clock) actions) := by
  have bounded : (initial config slots clock).WorkBounded :=
    workBounded_booted fun _ member => by cases member
  have paid :
      TransitionSystem.occurrences (step? externals)
            (fun _ action => action.toilsFor party)
            (initial config slots clock) actions +
          final.workOf party ≤
        (initial config slots clock).workOf party +
          party.limit *
            TransitionSystem.occurrences (step? externals)
              (fun _ action => action.wakes party)
              (initial config slots clock) actions :=
    run.occurrences_le_recharged
      (fun bounded _ taken =>
        ⟨WorkBounded.step limited bounded taken,
          workOf_of_step? limited bounded taken party⟩)
      bounded
  have atFirst := workOf_le bounded party
  rw [Nat.mul_add, Nat.mul_one]
  omega

end State

/-! ## Concrete runs -/

namespace Sample

/-- Everything that is left to do once job 1 is executing. -/
def finishJob : List (Action config 1) :=
  [ .scheduler .dispatchDone,
    .worker 0 (.execute succeeds),
    .worker 0 (.settle .ok),
    .worker 0 (.emit .ok),
    .worker 0 .deactivate ]

/-- A daemon that executes a job comes to rest when the job is done. -/
theorem executing_daemon_comes_to_rest :
    ∃ state final,
      State.Run externals State.Toils state finishJob final ∧
        state.workers 0 ≠ .idle false ∧
        finishJob.length ≤ State.workLimit config 1 ∧
        final.Quiet := by
  obtain ⟨state, run, executing, replays⟩ :=
    TransitionSystem.exists_run_of_replay?
      (State.step? externals) TransitionSystem.Unrestricted
      (State.initial config 1 0) (createAndSend ++ begin 0)
      (fun state =>
        state.workers 0 ≠ .idle false ∧
          (TransitionSystem.replay? (State.step? externals) State.Toils
              state finishJob).map
            (fun final =>
              decide
                (final.scheduler.busy = false ∧
                  final.reaper = .ticking ∧
                  (∀ worker, (final.workers worker).busy = false) ∧
                  ∀ slot, (final.requests slot).inProgress = false)) =
            some true)
      (by decide)
  obtain ⟨final, toiling, scheduler, reaper, workers, requests⟩ :=
    TransitionSystem.exists_run_of_replay? _ _ _ _ _ replays
  obtain ⟨within, quietIff⟩ :=
    State.work_runs_out (by decide) run finishJob final toiling
  have quiet : final.Quiet := ⟨scheduler, reaper, workers, requests⟩
  exact ⟨state, final, toiling, executing, within,
    quietIff.mpr (quietIff.mp quiet)⟩

/-- The steps of the worker that takes job 1, its one wait included. -/
theorem worker_steps_of_one_job :
    TransitionSystem.occurrences (State.step? externals)
        (fun _ action => action.toilsFor (.worker 0))
        (State.initial config 1 0)
        (createAndSend ++ begin 0 ++ finishJob) ≤
      34 := by
  obtain ⟨final, run, _⟩ :=
    TransitionSystem.exists_run_of_replay?
      (State.step? externals) TransitionSystem.Unrestricted
      (State.initial config 1 0) (createAndSend ++ begin 0 ++ finishJob)
      (fun final => final.workers 0 = .idle false)
      (by decide)
  have bound :=
    State.steps_paid_by_wakes (by decide) run (.worker 0)
  have wokenOnce :
      TransitionSystem.occurrences (State.step? externals)
          (fun _ action => action.wakes (.worker 0))
          (State.initial config 1 0)
          (createAndSend ++ begin 0 ++ finishJob) =
        1 := by
    decide
  rw [wokenOnce] at bound
  exact bound

end Sample

end Kronkeeper
