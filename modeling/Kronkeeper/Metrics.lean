import Kronkeeper.HandoffLedger
import Kronkeeper.RecurrenceLimits

namespace Kronkeeper

/-!
# What the counters say

The counters of `src/metrics.rs`, which `GET /metrics` renders, live as long as
the process, and they count from the moment on at which `metrics::init` installs
the recorder: `main` has spawned its tasks by then, and what they have recorded
before is lost.  A step records what the source records between two accesses to
the shared state.  Two books are kept against the counters: the copies that went
to the workers and the rows that came into the table.
-/

/-- The counters; each `record_*` adds one to its own. -/
inductive Counter where
  | jobsScheduled
  | jobsDispatched
  | jobsCompleted
  | jobsFailed
  | jobsExpired
  | webhookFailures
  | recurringInstancesCreated
  deriving Repr, DecidableEq

/-- What `handle` records after its first write. -/
def Disposition.counter? : Disposition → Option Counter
  | .complete => some .jobsCompleted
  | .expire => some .jobsExpired
  | .deadLetter => some .jobsFailed
  | .retry _ _ => none

/-- The counter that knows of this end. -/
def Fate.counter? : Fate → Option Counter
  | .settled disposition => disposition.counter?
  | _ => none

/-- The counter is about copies that have ended. -/
def Counter.isEnd : Counter → Bool
  | .jobsCompleted => true
  | .jobsFailed => true
  | .jobsExpired => true
  | _ => false

theorem Counter.length_filter_isEnd (counters : List Counter) :
    (counters.filter isEnd).length =
      counters.count .jobsCompleted + counters.count .jobsFailed +
        counters.count .jobsExpired := by
  induction counters with
  | nil =>
      rfl
  | cons counter rest inductionHypothesis =>
      cases counter <;>
        simp [List.filter_cons, isEnd, inductionHypothesis] <;> omega

theorem Fate.length_eq (fates : List Fate) :
    fates.length =
      (fates.filterMap counter?).length +
        fates.countP fun fate => fate.counter?.isNone := by
  induction fates with
  | nil =>
      rfl
  | cons fate rest inductionHypothesis =>
      cases counts : fate.counter? <;>
        simp [counts, inductionHypothesis] <;> omega

theorem Disposition.isEnd_of_counter?
    {disposition : Disposition}
    {counter : Counter}
    (counts : disposition.counter? = some counter) :
    counter.isEnd = true := by
  cases disposition <;> cases counts <;> rfl

namespace WorkerTask

/-- What a worker records in a step. -/
def records (config : Config) : WorkerTask → WorkerAction → List Counter
  | .handling job result now, .settle .ok =>
      ((ResultHandler.dispose? config job result now).bind
        Disposition.counter?).toList
  | .spawning _ (.incrementInserted _ _), .spawn .ok =>
      [.recurringInstancesCreated]
  | .emitting _ (.post _ _ _), .posted false => [.webhookFailures]
  | _, _ => []

/-- A worker records an end exactly when its copy meets that fate. -/
theorem records_isEnd
    (config : Config)
    (task : WorkerTask)
    (action : WorkerAction) :
    (records config task action).filter Counter.isEnd =
      ((fate? config task action).toList.map Prod.snd).filterMap
        Fate.counter? := by
  cases task with
  | handling job result now =>
      cases action with
      | settle reply =>
          cases disposed : ResultHandler.dispose? config job result now with
          | none =>
              cases reply <;> simp [records, fate?, disposed, Fate.counter?]
          | some disposition =>
              cases reply with
              | ok =>
                  cases counts : disposition.counter? with
                  | none =>
                      simp [records, fate?, disposed, Fate.counter?, counts]
                  | some counter =>
                      simp [records, fate?, disposed, Fate.counter?, counts,
                        disposition.isEnd_of_counter? counts]
              | _ =>
                  simp [records, fate?, disposed, Fate.counter?]
      | _ =>
          rfl
  | starting job =>
      cases action with
      | setRunning reply =>
          cases reply <;> rfl
      | _ =>
          rfl
  | executing job =>
      cases action with
      | execute outcome =>
          cases captured : Executor.execute? job.payload outcome <;>
            simp [records, fate?, captured, Fate.counter?]
      | _ =>
          rfl
  | spawning job call =>
      cases call <;> cases action with
      | spawn reply => cases reply <;> rfl
      | _ => rfl
  | emitting job call =>
      cases call <;> cases action with
      | posted delivered => cases delivered <;> rfl
      | _ => rfl
  | _ =>
      rfl

/-- Only the scheduler records a dispatch. -/
theorem ne_dispatched_of_records
    {config : Config}
    {task : WorkerTask}
    {action : WorkerAction}
    {counter : Counter}
    (member : counter ∈ records config task action) :
    counter ≠ .jobsDispatched := by
  unfold records at member
  split at member
  · obtain ⟨disposition, _, counts⟩ :=
      Option.bind_eq_some_iff.mp (Option.mem_toList.mp member)
    cases disposition <;> cases counts <;> simp
  all_goals simp_all

end WorkerTask

namespace RequestTask

/-- What a request records in a step. -/
def records
    (externals : Externals)
    (shared : Shared) : RequestTask → RequestAction → List Counter
  | .creating clientId req .insertJob, .call (.inserted id) =>
      if (shared.jobs.insert?
          (JobRepository.oneOffRow shared.clock id clientId req)).isSome then
        [.jobsScheduled]
      else
        []
  | .creating _ _ (.insertInstance template firstFire),
      .call (.inserted id) =>
      if (shared.jobs.insert?
          (JobRepository.instanceRow shared.clock id template firstFire
            (RecurringService.instanceKey externals template.id
              firstFire))).isSome then
        [.recurringInstancesCreated]
      else
        []
  -- `create_recurring` has returned to `create_job`.
  | .creating _ _ (.notifyRecurring _ _), .notifyOne => [.jobsScheduled]
  | _, _ => []

/-- A request records only what comes into the table. -/
theorem eq_of_records
    {externals : Externals}
    {shared : Shared}
    {task : RequestTask}
    {action : RequestAction}
    {counter : Counter}
    (member : counter ∈ records externals shared task action) :
    counter = .jobsScheduled ∨ counter = .recurringInstancesCreated := by
  unfold records at member
  repeat' split at member
  all_goals simp_all

end RequestTask

namespace State

variable {config : Config} {slots : Nat}

/-- What the process records in a step. -/
def records
    (externals : Externals)
    (state : State config slots) :
    Action config slots → List Counter
  | .scheduler action =>
      (state.sent (.scheduler action)).map fun _ => .jobsDispatched
  | .worker worker action =>
      (state.workers worker).records config action
  | .api slot action =>
      (state.requests slot).records externals state.toShared action
  | _ => []

/-- The counters are gone with the process. -/
def SameProcess
    (_ : State config slots)
    (action : Action config slots) : Prop :=
  action ≠ .restart

instance (state : State config slots) (action : Action config slots) :
    Decidable (state.SameProcess action) :=
  inferInstanceAs (Decidable (action ≠ .restart))

/-- What a counter shows these steps after the recorder was installed. -/
def metric
    (externals : Externals)
    (installed : State config slots)
    (actions : List (Action config slots))
    (counter : Counter) : Nat :=
  (entries externals (records externals) installed actions).count counter

/-! ## The copies that went to the workers -/

/-- How the copies end that leave the workers and the channel in a step. -/
def endings
    (externals : Externals)
    (state : State config slots)
    (action : Action config slots) : List Fate :=
  match action with
  | .worker worker _ =>
      (state.fates worker action).map Prod.snd ++
        ((state.departed externals action).filter fun entry =>
          entry.2 == .discarded).map fun _ => .lost
  | _ => []

/-- The copies in the channel or with a worker that has not settled. -/
def inFlight (state : State config slots) : Nat :=
  state.channel.length +
    Handoff.tally fun worker =>
      (state.workers worker).unsettled?.isSome

variable {externals : Externals}
variable {state after : State config slots}
variable {action : Action config slots}

/-- A departure in a worker's step is its own receipt or a loss. -/
theorem length_departed_worker
    {worker : Fin config.workerCount}
    {workerAction : WorkerAction}
    (taken :
      step? externals state (.worker worker workerAction) = some after) :
    (state.departed externals (.worker worker workerAction)).length =
      (receivedBy worker
          (state.departed externals (.worker worker workerAction))).length +
        ((state.departed externals (.worker worker workerAction)).filter
          fun entry => entry.2 == .discarded).length := by
  by_cases isRecv : workerAction = .recv
  · subst isRecv
    simp only [departed, receivedBy_received, if_pos]
    generalize state.channel.take 1 = jobs
    simp [List.filter_map, Function.comp_def]
  · rw [departed_worker isRecv taken]
    split
    · simp [List.filter_map, Function.comp_def]
    · rfl

/-- What a step sends to the workers ends in it or is in flight after it. -/
theorem inFlight_of_step?
    (goesOn : action ≠ .restart)
    (taken : step? externals state action = some after) :
    state.inFlight + (state.sent action).length =
      (state.endings externals action).length + after.inFlight := by
  have channels := congrArg List.length (channel_of_step? taken)
  simp only [List.length_append, List.length_map] at channels
  cases move_of_step? taken with
  | worker worker workerAction shared task moved =>
      have kept := congrArg List.length (worker_of_step? taken worker)
      have departs := length_departed_worker taken
      have tallied :=
        Handoff.tally_update (fun task => task.unsettled?.isSome)
          state.workers worker task
      have asList :
          ∀ held : Option Job, held.toList.length = held.isSome.toNat := by
        intro held
        cases held <;> rfl
      simp only [List.length_append, List.length_map, asList,
        dropClosed_workers, Function.update_self] at kept
      simp only [endings, inFlight, List.length_append, List.length_map,
        dropClosed_workers]
      omega
  | restart =>
      exact (goesOn rfl).elim
  | shutdown =>
      simp only [endings, inFlight,
        WorkerTask.tracks_unsettled?.notifyWaiter_eq]
      simpa [departed] using channels
  | tick | scheduler | reaper | api =>
      simp only [departed, List.length_nil] at channels
      simp only [endings, inFlight, List.length_nil]
      omega

/-- `record_job_dispatched` is called for what is sent, and only then. -/
theorem records_dispatched
    (state : State config slots)
    (action : Action config slots) :
    ((state.records externals action).filter fun counter =>
        counter == .jobsDispatched) =
      (state.sent action).map fun _ => .jobsDispatched := by
  cases action with
  | scheduler schedulerAction =>
      simp [records]
  | worker worker workerAction =>
      rw [sent_eq_nil (by simp), List.map_nil, List.filter_eq_nil_iff]
      intro counter member
      simpa using WorkerTask.ne_dispatched_of_records member
  | api slot requestAction =>
      rw [sent_eq_nil (by simp), List.map_nil, List.filter_eq_nil_iff]
      intro counter member
      rcases RequestTask.eq_of_records member with rfl | rfl <;> simp
  | _ =>
      rw [sent_eq_nil (by simp)]
      rfl

/-- The ends that are counted are counted as what they are. -/
theorem records_isEnd
    (state : State config slots)
    (action : Action config slots) :
    (state.records externals action).filter Counter.isEnd =
      (state.endings externals action).filterMap Fate.counter? := by
  cases action with
  | scheduler schedulerAction =>
      simp [records, endings, Counter.isEnd]
  | worker worker workerAction =>
      have lost :
          ((((state.departed externals (.worker worker workerAction)).filter
              fun entry => entry.2 == .discarded).map
                fun _ => Fate.lost).filterMap Fate.counter?) = [] := by
        rw [List.filterMap_eq_nil_iff]
        intro fate member
        obtain ⟨entry, _, rfl⟩ := List.mem_map.mp member
        rfl
      simp only [records, endings, List.filterMap_append, lost,
        List.append_nil, fates, if_pos]
      exact WorkerTask.records_isEnd config (state.workers worker)
        workerAction
  | api slot requestAction =>
      refine List.filter_eq_nil_iff.mpr ?_
      intro counter member
      rcases RequestTask.eq_of_records member with rfl | rfl <;>
        simp [Counter.isEnd]
  | _ =>
      rfl

/-- The dispatches counted are the copies sent. -/
theorem metric_dispatched
    (start : State config slots)
    (actions : List (Action config slots)) :
    metric externals start actions .jobsDispatched =
      (entries externals sent start actions).length := by
  have counted :
      ((entries externals (records externals) start actions).filter
          fun counter => counter == .jobsDispatched) =
        entries externals
          (fun state action =>
            (state.records externals action).filter
              fun counter => counter == .jobsDispatched)
          start actions :=
    TransitionSystem.observed_map
      (List.filter fun counter => counter == Counter.jobsDispatched)
      rfl (by simp) start actions
  have copies :
      (entries externals sent start actions).map
          (fun _ => Counter.jobsDispatched) =
        entries externals
          (fun state action =>
            (state.sent action).map fun _ => Counter.jobsDispatched)
          start actions :=
    TransitionSystem.observed_map
      (List.map fun _ => Counter.jobsDispatched)
      rfl (by simp) start actions
  simp only [records_dispatched] at counted
  rw [metric, List.count_eq_length_filter, counted, ← copies,
    List.length_map]

/-- The ends counted are the copies that ended that way. -/
theorem metric_ended
    (start : State config slots)
    (actions : List (Action config slots)) :
    metric externals start actions .jobsCompleted +
          metric externals start actions .jobsFailed +
        metric externals start actions .jobsExpired =
      ((entries externals (endings externals) start actions).filterMap
        Fate.counter?).length := by
  have counted :
      (entries externals (records externals) start actions).filter
          Counter.isEnd =
        entries externals
          (fun state action =>
            (state.records externals action).filter Counter.isEnd)
          start actions :=
    TransitionSystem.observed_map (List.filter Counter.isEnd)
      rfl (by simp) start actions
  have ends :
      (entries externals (endings externals) start actions).filterMap
          Fate.counter? =
        entries externals
          (fun state action =>
            (state.endings externals action).filterMap Fate.counter?)
          start actions :=
    TransitionSystem.observed_map (List.filterMap Fate.counter?)
      rfl (by simp) start actions
  simp only [records_isEnd] at counted
  rw [metric, metric, metric, ← Counter.length_filter_isEnd, counted, ends]

/-- The copies of a run that ended without a counter knowing of it. -/
def uncounted
    (externals : Externals)
    (start : State config slots)
    (actions : List (Action config slots)) : Nat :=
  (entries externals (endings externals) start actions).countP
    fun fate => fate.counter?.isNone

/--
Wherever in a process the recorder is installed, what `jobs_dispatched_total`
shows from then on, with the copies that were in flight at that moment, is what
the three counters of final states show, plus the copies that ended for a retry,
an error or a loss, plus the copies in the channel and with the workers.
-/
theorem dispatches_balance
    {actions : List (Action config slots)}
    {installed final : State config slots}
    (run : Run externals SameProcess installed actions final) :
    metric externals installed actions .jobsDispatched +
        installed.inFlight =
      metric externals installed actions .jobsCompleted +
          metric externals installed actions .jobsFailed +
          metric externals installed actions .jobsExpired +
        uncounted externals installed actions +
        final.inFlight := by
  have balanced :
      (installed.inFlight : Int) +
          (entries externals sent installed actions).length =
        (entries externals (endings externals) installed
            actions).length +
          final.inFlight :=
    run.observed_length (fun state => (state.inFlight : Int))
      (fun goesOn taken => by exact_mod_cast inFlight_of_step? goesOn taken)
  rw [metric_dispatched, metric_ended]
  have split :=
    Fate.length_eq
      (entries externals (endings externals) installed actions)
  unfold uncounted
  omega

end State

/-! ## The rows that came into the table -/

/-- The rows whose creation this counter is to count. -/
def Counter.brings : Counter → JobIdentity → Bool
  | .jobsScheduled, row => row.parentJobId.isNone
  | .recurringInstancesCreated, row => row.parentJobId.isSome
  | _, _ => false

/-- The counter counts creations. -/
def Counter.IsCreation (counter : Counter) : Prop :=
  counter = .jobsScheduled ∨ counter = .recurringInstancesCreated

namespace WorkerTask

/-- A row is in the table and its record is still to come. -/
def owes : WorkerTask → Option Counter
  | .spawning _ (.incrementInserted _ _) => some .recurringInstancesCreated
  | _ => none

@[simp] theorem owes_afterSettle
    (job : Job)
    (disposition : Disposition) :
    (afterSettle job disposition).owes = none := by
  cases disposition <;> try rfl
  unfold afterSettle
  cases job.parentJobId <;> rfl

@[simp] theorem owes_afterEmit
    (job : Job)
    (progress : EmitProgress) :
    (afterEmit job progress).owes = none := by
  cases progress <;> rfl

@[simp] theorem owes_of_planSpawn
    (externals : Externals)
    (job : Job)
    (lastScheduledAt : Time)
    (read : Option Job) :
    (afterSpawn job
        (RecurringService.planSpawn externals lastScheduledAt
          read)).owes = none := by
  cases planned :
      RecurringService.planSpawn externals lastScheduledAt read with
  | returned succeeded =>
      cases succeeded <;> rfl
  | next call =>
      obtain ⟨template, _, _, _, _, rfl | ⟨nextFire, rfl⟩⟩ :=
        RecurringService.planSpawn_eq_next planned
      · rfl
      · rfl

/-- The record of a row that a failed call leaves out. -/
def omits : WorkerTask → WorkerAction → List Counter
  | .spawning _ (.incrementInserted _ _), .spawn (.error _) =>
      [.recurringInstancesCreated]
  | _, _ => []

end WorkerTask

namespace RequestTask

/-- A row is in the table and its record is still to come. -/
def owes : RequestTask → Option Counter
  | .creating _ _ (.insertInstance _ _) => some .jobsScheduled
  | .creating _ _ (.notifyRecurring _ _) => some .jobsScheduled
  | _ => none

theorem owes_start (request : Request) :
    (start request).owes = none := by
  cases request <;> simp only [start] <;> (try split) <;> rfl

theorem owes_planCreate
    (externals : Externals)
    (clientId : Uuid)
    (req : CreateJobRequest) :
    (planCreate externals clientId req).owes = none := by
  unfold planCreate
  repeat' split
  all_goals rfl

theorem owes_planCancel
    (clientId id : Uuid)
    (read : Option Job) :
    (planCancel clientId id read).owes = none := by
  unfold planCancel
  repeat' split
  all_goals rfl

/-- The record of a template that a failed first instance leaves out. -/
def omits
    (externals : Externals)
    (shared : Shared) : RequestTask → RequestAction → List Counter
  | .creating _ _ (.insertInstance template firstFire),
      .call (.inserted id) =>
      if (shared.jobs.insert?
          (JobRepository.instanceRow shared.clock id template firstFire
            (RecurringService.instanceKey externals template.id
              firstFire))).isSome then
        []
      else
        [.jobsScheduled]
  | .creating _ _ (.insertInstance _ _), .call (.error _) =>
      [.jobsScheduled]
  | _, _ => []

end RequestTask

section Creations

variable {config : Config} {externals : Externals}
variable {shared after : Shared}
variable {counter : Counter}

/-- An instance is a row that only its own counter is to count. -/
theorem Counter.brings_instanceRow
    (creation : counter.IsCreation)
    (now nextFire : Time)
    (id : Uuid)
    (template : Job)
    (idempotencyKey : String) :
    counter.brings
        (JobRepository.instanceRow now id template nextFire
          idempotencyKey).identity =
      (counter == .recurringInstancesCreated) := by
  rcases creation with rfl | rfl <;> rfl

theorem Counter.brings_newRow
    (creation : counter.IsCreation)
    {row : Job}
    (parentless : row.parentJobId = none) :
    counter.brings row.identity = (counter == .jobsScheduled) := by
  rcases creation with rfl | rfl <;> simp [brings, Job.identity, parentless]

/-- A worker's step brings a row, records it, or leaves its record out. -/
theorem WorkerTask.Move.creations
    {task next : WorkerTask}
    {action : WorkerAction}
    (moved : task.Move config externals shared action after next)
    (creation : counter.IsCreation) :
    (task.owes == some counter).toNat +
        after.jobs.countIdentity counter.brings =
      shared.jobs.countIdentity counter.brings +
          (task.records config action).count counter +
        (task.omits action).count counter +
        (next.owes == some counter).toNat := by
  cases moved with
  | begin | record =>
      simp [owes, records, omits, Shared.update,
        RecordTable.countIdentity_update]
  | announce job =>
      simp [owes, records, omits, Shared.notifyOne]
  | settle job result now disposition disposed =>
      have notEnd : (disposition.counter?.toList).count counter = 0 := by
        rcases creation with rfl | rfl <;> cases disposition <;> rfl
      rw [owes_afterSettle]
      simp [owes, records, omits, disposed, notEnd, Shared.update,
        RecordTable.countIdentity_update]
  | settlePanics job result now reply panics =>
      cases reply <;> simp [owes, records, omits, panics]
  | spawn job call reply after progress spawned =>
      cases spawned with
      | insert template nextFire id jobs inserted =>
          have grown :=
            RecordTable.countIdentity_insert? inserted counter.brings
          rw [Counter.brings_instanceRow creation] at grown
          rcases creation with rfl | rfl <;>
            simp_all [owes, records, omits, afterSpawn]
      | read templateId lastScheduledAt =>
          rw [owes_of_planSpawn]
          simp [owes, records, omits]
      | fails call message =>
          rcases creation with rfl | rfl <;> cases call <;>
            simp [owes, records, omits, afterSpawn, Nat.add_comm]
      | increment template nextFire =>
          simp only [owes, records, omits, afterSpawn, Shared.update,
            RecordTable.countIdentity_update]
          rcases creation with rfl | rfl <;> simp
          omega
      | _ =>
          simp [owes, records, omits, afterSpawn, Shared.update,
            Shared.notifyOne, RecordTable.countIdentity_update]
  | emit job call reply progress =>
      rw [owes_afterEmit]
      simp [owes, records, omits]
  | post job call delivered progress =>
      have notFailure : counter ≠ .webhookFailures := by
        rcases creation with rfl | rfl <;> simp
      rw [owes_afterEmit]
      cases call <;> cases delivered <;>
        simp [owes, records, omits, notFailure.symm]
  | _ =>
      simp [owes, records, omits]

/-- So does a request's step. -/
theorem RequestTask.creations_of_step?
    {task next : RequestTask}
    {action : RequestAction}
    (taken : task.step? externals shared action = some (after, next))
    (creation : counter.IsCreation) :
    (task.owes == some counter).toNat +
        after.jobs.countIdentity counter.brings =
      shared.jobs.countIdentity counter.brings +
          (task.records externals shared action).count counter +
        (task.omits externals shared action).count counter +
        (next.owes == some counter).toNat := by
  cases move_of_step? taken with
  | create clientId req position action after next created =>
      cases created with
      | insertJob id jobs inserted =>
          have grown :=
            RecordTable.countIdentity_insert? inserted counter.brings
          rw [Counter.brings_newRow creation rfl] at grown
          rcases creation with rfl | rfl <;>
            simp_all [owes, records, omits]
      | insertTemplate recurrence firstFire id jobs inserted =>
          have grown :=
            RecordTable.countIdentity_insert? inserted counter.brings
          rw [Counter.brings_newRow creation rfl] at grown
          rcases creation with rfl | rfl <;>
            simp_all [owes, records, omits]
      | insertInstance template firstFire id jobs inserted =>
          have grown :=
            RecordTable.countIdentity_insert? inserted counter.brings
          rw [Counter.brings_instanceRow creation] at grown
          rcases creation with rfl | rfl <;>
            simp_all [owes, records, omits, Nat.add_comm]
      | duplicateJob id refused =>
          simp [owes, records, omits, refused]
      | duplicateInstance template firstFire id refused =>
          rcases creation with rfl | rfl <;>
            simp [owes, records, omits, refused, Nat.add_comm]
      | announceRecurring template instanceJob =>
          rcases creation with rfl | rfl <;>
            simp [owes, records, omits, Shared.notifyOne, Nat.add_comm]
      | fails position message =>
          cases position with
          | notifyRecurring template instanceJob =>
              simp [step?, createStep?] at taken
          | _ =>
              rcases creation with rfl | rfl <;>
                simp [owes, records, omits, Nat.add_comm]
      | plan missing =>
          rw [owes_planCreate]
          simp [owes, records, omits]
      | _ =>
          simp [owes, records, omits, Shared.notifyOne]
  | cancel clientId id position action after next cancelled =>
      cases cancelled with
      | read =>
          rw [owes_planCancel]
          simp [owes, records, omits]
      | _ =>
          simp [owes, records, omits, Shared.update, Shared.notifyOne,
            RecordTable.countIdentity_update]
  | arrive request =>
      rw [owes_start]
      simp [owes, records, omits]
  | _ =>
      simp [owes, records, omits, Shared.update, Shared.notifyOne,
        RecordTable.countIdentity_update]

end Creations

namespace State

variable {config : Config} {slots : Nat}
variable {externals : Externals}
variable {state after : State config slots}
variable {action : Action config slots}
variable {counter : Counter}

/-- The records that a step leaves out for good. -/
def omits
    (externals : Externals)
    (state : State config slots) :
    Action config slots → List Counter
  | .worker worker action => (state.workers worker).omits action
  | .api slot action =>
      (state.requests slot).omits externals state.toShared action
  | _ => []

/-- The records that are still to come. -/
def owing (state : State config slots) (counter : Counter) : Nat :=
  (Handoff.tally fun worker =>
      (state.workers worker).owes == some counter) +
    Handoff.tally fun slot => (state.requests slot).owes == some counter

/-- A row comes with its record, with one to come, or without one. -/
theorem creations_of_step?
    (creation : counter.IsCreation)
    (goesOn : action ≠ .restart)
    (taken : step? externals state action = some after) :
    state.owing counter + after.jobs.countIdentity counter.brings =
      state.jobs.countIdentity counter.brings +
          (state.records externals action).count counter +
        (state.omits externals action).count counter +
        after.owing counter := by
  cases action with
  | api slot requestAction =>
      obtain ⟨⟨shared, task⟩, requestTaken, rfl⟩ :=
        Option.map_eq_some_iff.mp taken
      have created :=
        RequestTask.creations_of_step? requestTaken creation
      have tallied :=
        Handoff.tally_update
          (fun task : RequestTask => task.owes == some counter)
          state.requests slot task
      simp only [owing, records, omits]
      omega
  | scheduler schedulerAction =>
      have notDispatched : counter ≠ .jobsDispatched := by
        rcases creation with rfl | rfl <;> simp
      cases move_of_step? taken with
      | scheduler _ shared task moved =>
          have same :
              shared.jobs.countIdentity counter.brings =
                state.jobs.countIdentity counter.brings := by
            generalize state.scheduler.position = position at moved
            cases moved <;>
              simp [Shared.update, Shared.notifyOne,
                RecordTable.countIdentity_update]
          simp [owing, records, omits, same, List.count_eq_zero,
            notDispatched, Nat.add_comm]
  | worker worker workerAction =>
      cases move_of_step? taken with
      | worker _ _ shared task moved =>
          have created := moved.creations creation
          have tallied :=
            Handoff.tally_update
              (fun task : WorkerTask => task.owes == some counter)
              state.workers worker task
          simp only [owing, records, omits, dropClosed_workers,
            dropClosed_jobs, dropClosed_requests]
          omega
  | reaper reaperAction =>
      cases move_of_step? taken with
      | reaper _ shared task moved =>
          have same :
              shared.jobs.countIdentity counter.brings =
                state.jobs.countIdentity counter.brings := by
            generalize state.reaper = reaper at moved
            cases moved <;>
              simp [Shared.update, Shared.notifyOne,
                RecordTable.countIdentity_update]
          simp [owing, records, omits, same, Nat.add_comm]
  | shutdown =>
      cases taken
      have deaf :
          ∀ task : WorkerTask, task.notifyWaiter.owes = task.owes := by
        intro task
        cases task <;> rfl
      simp [owing, records, omits, deaf, Nat.add_comm]
  | tick elapsed =>
      cases taken
      simp [owing, records, omits, Nat.add_comm]
  | restart =>
      exact (goesOn rfl).elim

/-- The records of one counter that a run has left out. -/
def omitted
    (externals : Externals)
    (start : State config slots)
    (actions : List (Action config slots))
    (counter : Counter) : Nat :=
  (entries externals (omits externals) start actions).count counter

/-- How often a run lists a counter is how often its steps list it. -/
theorem count_entries
    (record : State config slots → Action config slots → List Counter)
    (start : State config slots)
    (actions : List (Action config slots)) :
    (entries externals record start actions).count counter =
      (entries externals
        (fun state action =>
          (record state action).filter fun other => other == counter)
        start actions).length := by
  rw [List.count_eq_length_filter]
  exact congrArg List.length
    (TransitionSystem.observed_map
      (List.filter fun other => other == counter)
      rfl (by simp) start actions)

/--
Wherever in a process the recorder is installed, the rows that come into the
table from then on, with those whose record was still to come, are those the two
counters of creations show, plus those whose record a failed call left out, plus
those whose record is still to come.
-/
theorem creations_balance
    {actions : List (Action config slots)}
    {installed final : State config slots}
    (run : Run externals SameProcess installed actions final)
    (creation : counter.IsCreation) :
    final.jobs.countIdentity counter.brings + installed.owing counter =
      installed.jobs.countIdentity counter.brings +
          metric externals installed actions counter +
        omitted externals installed actions counter +
        final.owing counter := by
  have nothing :
      entries externals (fun _ _ => ([] : List Counter)) installed
          actions =
        [] :=
    (@TransitionSystem.observed_map _ _ Counter Counter _
      (records externals) (fun _ => []) rfl (fun _ _ => rfl) _
      actions).symm
  have balanced :
      ((installed.owing counter : Int) -
            installed.jobs.countIdentity counter.brings) +
          (entries externals (fun _ _ => ([] : List Counter)) installed
            actions).length =
        (entries externals
            (fun state action =>
              ((state.records externals action).filter
                  fun other => other == counter) ++
                (state.omits externals action).filter
                  fun other => other == counter)
            installed actions).length +
          ((final.owing counter : Int) -
            final.jobs.countIdentity counter.brings) :=
    run.observed_length
      (fun state =>
        (state.owing counter : Int) -
          state.jobs.countIdentity counter.brings)
      (fun goesOn taken => by
        have created := creations_of_step? creation goesOn taken
        simp only [List.length_append, List.length_nil,
          ← List.count_eq_length_filter]
        omega)
  rw [nothing, TransitionSystem.length_observed_append] at balanced
  rw [metric, omitted, count_entries, count_entries]
  simp only [entries, List.length_nil] at balanced ⊢
  omega

end State

/-! ## Concrete runs -/

namespace Sample

/-- After a restart job 1 is due, and its copy is sent at once. -/
def restartAndSend : List (Action config 1) :=
  createAndSend.take 4 ++
  [ .restart,
    .scheduler (.refresh [⟨1, 0⟩]),
    .scheduler .sleepElapsed,
    .scheduler (.lease ⟨1, 0⟩ .ok),
    .scheduler .trySend ]

/-- The recorder is installed; the copy fails and waits for its retry. -/
def failOnceForRetry : List (Action config 1) :=
  begin 0 ++ [.worker 0 (.execute fails), .worker 0 (.settle .ok)]

/-- No dispatch is counted, but a copy was in flight: it ended for a retry. -/
theorem early_dispatch_is_uncounted :
    ∃ installed final : State config 1,
      installed.inFlight = 1 ∧
        State.metric externals installed failOnceForRetry
            .jobsDispatched +
            installed.inFlight =
          State.metric externals installed failOnceForRetry
                .jobsCompleted +
              State.metric externals installed failOnceForRetry
                .jobsFailed +
              State.metric externals installed failOnceForRetry
                .jobsExpired +
            State.uncounted externals installed failOnceForRetry +
            final.inFlight := by
  obtain ⟨installed, final, _, toFinal, inFlight⟩ :=
    TransitionSystem.exists_stages_of_replay? (State.step? externals)
      TransitionSystem.Unrestricted State.SameProcess
      (State.initial config 1 0) restartAndSend failOnceForRetry
      (fun installed _ => installed.inFlight = 1)
      (by decide)
  exact ⟨installed, final, inFlight, State.dispatches_balance toFinal⟩

/-- After a restart the spawn of instance 2 has inserted instance 3. -/
def restartAndSpawn : List (Action config 2) :=
  createRecurring ++ [.restart] ++ executeInstance ++
    [ .worker 0 (.execute succeeds),
      .worker 0 (.settle .ok),
      .worker 0 (.spawn .ok),
      .worker 0 (.spawn .ok),
      .worker 0 (.spawn .ok),
      .worker 0 (.spawn (.inserted 3)) ]

/-- Its record comes after the recorder is installed, and is counted. -/
theorem early_instance_is_counted :
    ∃ installed final : State config 2,
      installed.owing .recurringInstancesCreated = 1 ∧
        final.jobs.countIdentity
              Counter.recurringInstancesCreated.brings +
            installed.owing .recurringInstancesCreated =
          installed.jobs.countIdentity
                Counter.recurringInstancesCreated.brings +
              State.metric externals installed [.worker 0 (.spawn .ok)]
                .recurringInstancesCreated +
            State.omitted externals installed [.worker 0 (.spawn .ok)]
              .recurringInstancesCreated +
            final.owing .recurringInstancesCreated := by
  obtain ⟨installed, final, _, toFinal, owing⟩ :=
    TransitionSystem.exists_stages_of_replay? (State.step? externals)
      TransitionSystem.Unrestricted State.SameProcess
      (State.initial config 2 0) restartAndSpawn
      [.worker 0 (.spawn .ok)]
      (fun installed _ =>
        installed.owing .recurringInstancesCreated = 1)
      (by decide)
  exact ⟨installed, final, owing,
    State.creations_balance toFinal (Or.inr rfl)⟩

end Sample

end Kronkeeper
