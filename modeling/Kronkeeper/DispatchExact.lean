import Kronkeeper.DispatchLoop
import Kronkeeper.UnexecutedTemplates

namespace Kronkeeper

/-!
# What a dispatch without errors does

Run by itself on an open channel, with every repository call taking effect,
`dispatch_due_jobs` returns, and what it has done is a function of the heap, the
table, the time and the free capacity.
-/

namespace JobRepository

/-- The rows that wait and have a due entry in the heap. -/
def isDue (heap : List ScheduledJob) (now : Time) (row : Job) : Bool :=
  row.state == .scheduled &&
    heap.any fun entry =>
      entry.id == row.id && decide (entry.scheduledAt ≤ now)

end JobRepository

/-- A row that waited under a popped id is leased, any other is untouched. -/
def DispatchedRow
    (config : Config)
    (popped : List ScheduledJob)
    (old new : Job) : Prop :=
  if old.state = .scheduled ∧ ∃ entry ∈ popped, entry.id = old.id then
    ∃ clock,
      new =
        (JobRepository.leaseJob clock old.id
          config.leaseDurationSecs).assign old
  else
    new = old

section Rows

variable {config : Config}
variable {jobs : JobTable}
variable {popped : List ScheduledJob}
variable {old new : Job}

/-- The leased ids are those of the rows that waited under a popped id. -/
theorem id_mem_leasedIds_iff (member : old ∈ jobs.rows) :
    old.id ∈ leasedIds jobs popped ↔
      old.state = .scheduled ∧ ∃ entry ∈ popped, entry.id = old.id := by
  rw [mem_leasedIds, and_comm, JobRepository.isScheduled_iff]
  refine and_congr_left fun _ => ⟨?_, fun scheduled => ?_⟩
  · rintro ⟨row, rowMember, sameId, scheduled⟩
    rw [← RecordTable.eq_of_primary rowMember member sameId]
    exact scheduled
  · exact ⟨old, member, rfl, scheduled⟩

theorem LeasedRow.dispatchedRow
    (leased : LeasedRow config (leasedIds jobs popped) old new)
    (member : old ∈ jobs.rows) :
    DispatchedRow config popped old new := by
  unfold LeasedRow at leased
  unfold DispatchedRow
  simpa only [id_mem_leasedIds_iff member] using leased

/-- As many jobs are leased as there are rows with a leased id. -/
theorem length_leasedIds (jobs : JobTable) (popped : List ScheduledJob) :
    (leasedIds jobs popped).length =
      jobs.count fun row => decide (row.id ∈ leasedIds jobs popped) := by
  have distinct :
      ((jobs.rows.filter fun row =>
        decide (row.id ∈ leasedIds jobs popped)).map Job.id).Nodup :=
    jobs.primaryNodup.sublist (List.filter_sublist.map _)
  have sameIds :
      (leasedIds jobs popped).Perm
        ((jobs.rows.filter fun row =>
          decide (row.id ∈ leasedIds jobs popped)).map Job.id) := by
    refine (List.perm_ext_iff_of_nodup (nodup_leasedIds popped)
      distinct).mpr fun id => ⟨fun leased => ?_, fun listed => ?_⟩
    · obtain ⟨row, member, rfl, _⟩ :=
        JobRepository.isScheduled_iff.mp (mem_leasedIds.mp leased).2
      exact List.mem_map_of_mem
        (List.mem_filter.mpr ⟨member, decide_eq_true leased⟩)
    · obtain ⟨row, member, rfl⟩ := List.mem_map.mp listed
      exact of_decide_eq_true (List.mem_filter.mp member).2
  rw [sameIds.length_eq, List.length_map, RecordTable.count,
    List.countP_eq_length_filter]

theorem isDue_iff
    {heap : List ScheduledJob}
    {now : Time}
    {row : Job} :
    JobRepository.isDue heap now row = true ↔
      row.state = .scheduled ∧
        ∃ entry ∈ heap, entry.id = row.id ∧ entry.scheduledAt ≤ now := by
  simp [JobRepository.isDue]

end Rows

/-! ## The two ways to return -/

namespace State

variable {config : Config} {slots : Nat}
variable {externals : Externals}

/-- A step of the dispatch loop in which no call fails, or time passes. -/
def DispatchesCleanly
    (state : State config slots)
    (action : Action config slots) : Prop :=
  Dispatches state action ∧ action.succeeds = true

instance
    (state : State config slots)
    (action : Action config slots) :
    Decidable (DispatchesCleanly state action) :=
  inferInstanceAs (Decidable (_ ∧ _))

/-- Everything due was popped, and what could be leased was sent. -/
structure DispatchedAll
    (start : State config slots)
    (now : Time)
    (popped : List ScheduledJob)
    (sent : List Job)
    (final : State config slots) : Prop where
  poppedDue :
    popped.Perm
      (start.scheduler.heap.filter fun entry =>
        decide (entry.scheduledAt ≤ now))
  keptLate :
    final.scheduler.heap.Perm
      (start.scheduler.heap.filter fun entry =>
        decide (now < entry.scheduledAt))
  channel : final.channel = start.channel ++ sent
  ids : sent.map Job.id = leasedIds start.jobs popped
  held : ∀ job ∈ sent, job ∈ final.jobs.rows ∧ job.state = .leased
  rows :
    RecordTable.Matches (DispatchedRow config popped)
      start.jobs final.jobs
  samePermit : final.permit = start.permit

/--
The channel took what it had room for, the row of the next entry is as before
but for `updated_at`, and what was not popped is still in the heap.
-/
structure DispatchedFull
    (start : State config slots)
    (popped : List ScheduledJob)
    (entry : ScheduledJob)
    (sent : List Job)
    (final : State config slots) : Prop where
  keptRest :
    (popped ++ entry :: final.scheduler.heap).Perm start.scheduler.heap
  keptLater :
    ∀ other ∈ final.scheduler.heap, entry.scheduledAt ≤ other.scheduledAt
  channel : final.channel = start.channel ++ sent
  full : sent.length = freeCapacity config start.toShared
  ids : sent.map Job.id = leasedIds start.jobs popped
  held : ∀ job ∈ sent, job ∈ final.jobs.rows ∧ job.state = .leased
  waits : JobRepository.isScheduled start.jobs entry.id = true
  rows :
    RecordTable.Matches
      (fun old new =>
        if old.id = entry.id then
          ∃ clock, new = { old with updatedAt := clock }
        else
          DispatchedRow config popped old new)
      start.jobs final.jobs
  permit : final.permit = true

/-! ## Every loop returns -/

/-- The state with another shared part and another scheduler. -/
def withTask
    (base : State config slots)
    (shared : Shared)
    (task : SchedulerTask) : State config slots :=
  { base with toShared := shared, scheduler := task }

section Progress

variable {base : State config slots}
variable {shared after : Shared}
variable {heap : List ScheduledJob}
variable {task next : SchedulerTask}
variable {action : SchedulerAction}
variable {now : Time}

theorem schedulerStep
    (isOpen : ¬base.ChannelClosed)
    (stepped : task.step? config false shared action = some (after, next)) :
    step? externals (base.withTask shared task) (.scheduler action) =
      some (base.withTask after next) := by
  have stillOpen :
      decide (base.withTask shared task).ChannelClosed = false :=
    decide_eq_false isOpen
  simp only [step?, stillOpen]
  exact congrArg _ stepped

/-- The loop goes on from here to its end. -/
def CanReturn
    (externals : Externals)
    (state : State config slots) : Prop :=
  ∃ actions final,
    Run externals DispatchesCleanly state actions final ∧ final.Returned

theorem canReturn_of_step
    (isOpen : ¬base.ChannelClosed)
    (dispatches : action.dispatches = true)
    (succeeds :
      (Action.scheduler action : Action config slots).succeeds = true)
    (stepped : task.step? config false shared action = some (after, next))
    (later : (base.withTask after next).CanReturn externals) :
    (base.withTask shared task).CanReturn externals := by
  obtain ⟨actions, final, run, returned⟩ := later
  exact ⟨.scheduler action :: actions, final,
    .cons ⟨dispatches, succeeds⟩ (schedulerStep isOpen stepped) run,
    returned⟩

theorem canReturn_of_waiting (wakeAt : Time) :
    (base.withTask shared
      { heap := heap, position := .waiting wakeAt }).CanReturn externals :=
  ⟨[], _, .nil _, wakeAt, rfl⟩

theorem canReturn_of_nothingDue
    (isOpen : ¬base.ChannelClosed)
    (nothing : SchedulerTask.NothingDue heap now) :
    (base.withTask shared
      { heap := heap, position := .dispatching now }).CanReturn externals := by
  have stepped :
      SchedulerTask.step? config false shared
          { heap := heap, position := .dispatching now } .dispatchDone =
        some (shared, SchedulerTask.await shared heap) :=
    if_pos nothing
  exact canReturn_of_step isOpen rfl rfl stepped (canReturn_of_waiting _)

/-- A job that does not fit is given back, and the loop ends. -/
theorem canReturn_of_returning
    (isOpen : ¬base.ChannelClosed)
    (job : Job) :
    (base.withTask shared
      { heap := heap, position := .returning job }).CanReturn externals := by
  have returned :
      SchedulerTask.step? config false shared
          { heap := heap, position := .returning job } (.returnJob .ok) =
        some
          (shared.update
            (JobRepository.scheduleRetry shared.clock job.id
              job.scheduledAt job.attemptCount),
            { heap := heap, position := .notifying }) :=
    rfl
  refine canReturn_of_step isOpen rfl rfl returned ?_
  have notified :
      ∀ given : Shared,
        SchedulerTask.step? config false given
            { heap := heap, position := .notifying } .notifyOne =
          some (given.notifyOne, SchedulerTask.await given heap) :=
    fun _ => rfl
  exact canReturn_of_step isOpen rfl rfl (notified _) (canReturn_of_waiting _)

/-- A job in hand is sent, or the loop ends. -/
theorem canReturn_of_sending
    (isOpen : ¬base.ChannelClosed)
    (job : Job)
    (goesOn :
      ∀ after : Shared,
        (base.withTask after
          { heap := heap, position := .dispatching now }).CanReturn
            externals) :
    (base.withTask shared
      { heap := heap, position := .sending now job }).CanReturn
        externals := by
  by_cases room : shared.channel.length < config.workerQueueSize
  · have sent :
        SchedulerTask.step? config false shared
            { heap := heap, position := .sending now job } .trySend =
          some
            ({ shared with channel := shared.channel ++ [job] },
              { heap := heap, position := .dispatching now }) :=
      if_pos room
    exact canReturn_of_step isOpen rfl rfl sent (goesOn _)
  · have kept :
        SchedulerTask.step? config false shared
            { heap := heap, position := .sending now job } .trySend =
          some (shared, { heap := heap, position := .returning job }) :=
      if_neg room
    exact canReturn_of_step isOpen rfl rfl kept
      (canReturn_of_returning isOpen job)

/-- A heap with a due entry has one that can be popped. -/
theorem exists_pops
    (someDue : ¬SchedulerTask.NothingDue heap now) :
    ∃ entry, SchedulerTask.Pops heap now entry := by
  unfold SchedulerTask.NothingDue at someDue
  push Not at someDue
  obtain ⟨due, member, isDue⟩ := someDue
  obtain ⟨least, isLeast⟩ :
      ∃ least,
        EarliestFirst.IsLeast ScheduledJob.scheduledAt heap least :=
    EarliestFirst.exists_isLeast member
  exact ⟨least, isLeast, (isLeast.2 due member).trans isDue⟩

/-- From the head of the loop, a heap is worked off in finitely many steps. -/
theorem canReturn_of_dispatching
    (isOpen : ¬base.ChannelClosed)
    (count : Nat)
    (length : heap.length = count) :
    (base.withTask shared
      { heap := heap, position := .dispatching now }).CanReturn externals := by
  induction count generalizing heap shared with
  | zero =>
      refine canReturn_of_nothingDue isOpen ?_
      rw [List.length_eq_zero_iff.mp length]
      exact fun entry member => by cases member
  | succ count inductionHypothesis =>
      by_cases nothing : SchedulerTask.NothingDue heap now
      · exact canReturn_of_nothingDue isOpen nothing
      · obtain ⟨entry, pops⟩ := exists_pops nothing
        have shorter : (heap.erase entry).length = count := by
          rw [List.length_erase_of_mem pops.1.1, length]
          rfl
        cases returned :
            shared.jobs.returning
              (JobRepository.leaseJob shared.clock entry.id
                config.leaseDurationSecs) with
        | none =>
            have missed :
                SchedulerTask.step? config false shared
                    { heap := heap, position := .dispatching now }
                    (.lease entry .ok) =
                  some
                    (shared,
                      { heap := heap.erase entry
                        position := .dispatching now }) := by
              simp only [SchedulerTask.step?, if_pos pops, returned]
            exact canReturn_of_step isOpen rfl rfl missed
              (inductionHypothesis shorter)
        | some job =>
            have leased :
                SchedulerTask.step? config false shared
                    { heap := heap, position := .dispatching now }
                    (.lease entry .ok) =
                  some
                    (shared.update
                      (JobRepository.leaseJob shared.clock entry.id
                        config.leaseDurationSecs),
                      { heap := heap.erase entry
                        position := .sending now job }) := by
              simp only [SchedulerTask.step?, if_pos pops, returned]
            exact canReturn_of_step isOpen rfl rfl leased
              (canReturn_of_sending isOpen job fun _ =>
                inductionHypothesis shorter)

end Progress

/-! ## What a loop has done when it returns -/

theorem dispatchedAll_of_leasing
    {start final : State config slots}
    {now : Time}
    {popped : List ScheduledJob}
    {sent : List Job}
    (leasing :
      Leasing config start.toShared start.scheduler.heap now popped
        final.jobs final.permit final.scheduler.heap sent)
    (channel : final.channel = start.channel ++ sent)
    (nothing : SchedulerTask.NothingDue final.scheduler.heap now) :
    start.DispatchedAll now popped sent final where
  poppedDue := (leasing.served.filter_perm leasing.due nothing).1
  keptLate := (leasing.served.filter_perm leasing.due nothing).2
  channel := channel
  ids := leasing.ids
  held := leasing.held
  rows := by
    refine leasing.rows.mono fun old member new _ leased => ?_
    rw [leasing.ids] at leased
    exact leased.dispatchedRow member
  samePermit := leasing.samePermit

/-- As many jobs are leased as rows wait under a due entry. -/
theorem length_eq_of_nothingDue
    {start : Shared}
    {heap popped rest : List ScheduledJob}
    {now : Time}
    {jobs : JobTable}
    {permit : Bool}
    {sent : List Job}
    (leasing :
      Leasing config start heap now popped jobs permit rest sent)
    (nothing : SchedulerTask.NothingDue rest now) :
    sent.length = start.jobs.count (JobRepository.isDue heap now) := by
  have poppedDue := (leasing.served.filter_perm leasing.due nothing).1
  calc
    sent.length = (leasedIds start.jobs popped).length := by
      rw [← leasing.ids, List.length_map]
    _ = start.jobs.count
          fun row => decide (row.id ∈ leasedIds start.jobs popped) :=
      length_leasedIds start.jobs popped
    _ = start.jobs.count (JobRepository.isDue heap now) := by
      refine List.countP_congr fun row member => ?_
      rw [decide_eq_true_iff, id_mem_leasedIds_iff member, isDue_iff]
      refine and_congr_right fun _ => exists_congr fun entry => ?_
      rw [poppedDue.mem_iff, List.mem_filter, decide_eq_true_iff]
      tauto

/-- More rows wait under a due entry than were sent. -/
theorem length_lt_of_restored
    {start : Shared}
    {heap popped rest : List ScheduledJob}
    {now : Time}
    {jobs : JobTable}
    {sent : List Job}
    {job : Job}
    (restored :
      Restored config start heap now popped jobs rest sent job) :
    sent.length < start.jobs.count (JobRepository.isDue heap now) := by
  calc
    sent.length < (leasedIds start.jobs popped).length := by
      rw [← restored.ids, List.length_append, List.length_map]
      exact Nat.lt_succ_self _
    _ = start.jobs.count
          fun row => decide (row.id ∈ leasedIds start.jobs popped) :=
      length_leasedIds start.jobs popped
    _ ≤ start.jobs.count (JobRepository.isDue heap now) := by
      refine List.countP_mono_left fun row member leased => ?_
      rw [decide_eq_true_iff, id_mem_leasedIds_iff member] at leased
      obtain ⟨scheduled, entry, entryMember, sameId⟩ := leased
      exact isDue_iff.mpr ⟨scheduled, entry,
        restored.served.mem_queue entryMember, sameId,
        restored.due entry entryMember⟩

theorem dispatchedFull_of_restored
    {start final : State config slots}
    (unleased : start.ScheduledUnleased)
    {now : Time}
    {history : List SchedulerAction}
    {sent : List Job}
    {job : Job}
    (restored :
      Restored config start.toShared start.scheduler.heap now
        (history.flatMap SchedulerAction.popped) final.jobs
        final.scheduler.heap sent job)
    (last : EndsWith start.toShared history job.id)
    (channel : final.channel = start.channel ++ sent)
    (noRoom : sent.length = freeCapacity config start.toShared)
    (permit : final.permit = true) :
    ∃ popped entry,
      history.flatMap SchedulerAction.popped = popped ++ [entry] ∧
        start.DispatchedFull popped entry sent final := by
  obtain ⟨popped, entry, isPopped, sameId, notLeased⟩ := last
  have listed :
      job.id ∈ leasedIds start.jobs
        (history.flatMap SchedulerAction.popped) := by
    rw [← restored.ids]
    simp
  have waits : JobRepository.isScheduled start.jobs entry.id = true := by
    rw [sameId]
    exact (mem_leasedIds.mp listed).2
  have ids : sent.map Job.id = leasedIds start.jobs popped := by
    have all := restored.ids
    rw [isPopped, leasedIds_append_new waits (sameId ▸ notLeased),
      sameId] at all
    exact List.append_cancel_right all
  refine ⟨popped, entry, isPopped, ?_, ?_, channel, noRoom, ids,
    restored.held, waits, ?_, permit⟩
  · have perm := restored.served.perm
    rw [isPopped, List.append_assoc] at perm
    exact perm
  · refine restored.served.before entry ?_
    rw [isPopped]
    exact List.mem_append_right _ (List.mem_singleton_self entry)
  · refine restored.rows.mono fun old member new _ related => ?_
    unfold RestoredRow at related
    rw [sameId]
    split at related
    · rename_i isHand
      obtain ⟨scheduled, clock, isNew⟩ := related
      rw [if_pos isHand]
      refine ⟨clock, ?_⟩
      rw [isNew, ← unleased old member scheduled]
    · rename_i isOther
      rw [if_neg isOther]
      rw [ids] at related
      exact related.dispatchedRow member

/-- A run without errors has taken no step that answers one. -/
theorem not_mem_schedulerHistory
    {start final : State config slots}
    {actions : List (Action config slots)}
    (run : Run externals DispatchesCleanly start actions final)
    (action : SchedulerAction)
    (fails :
      (Action.scheduler action : Action config slots).succeeds = false) :
    action ∉ schedulerHistory actions := by
  intro member
  obtain ⟨taken, takenMember, isAction⟩ := List.mem_filterMap.mp member
  have succeeds :=
    run.forall_actions (fun _ _ clean => clean.2) taken takenMember
  cases taken with
  | scheduler other =>
      cases isAction
      rw [fails] at succeeds
      cases succeeds
  | tick | worker | reaper | api | shutdown | restart =>
      cases isAction

theorem scheduledUnleased_of_run
    {allowed : State config slots → Action config slots → Prop}
    {clock : Time}
    {actions : List (Action config slots)}
    {final : State config slots}
    (run :
      Run externals allowed (initial config slots clock) actions final) :
    final.ScheduledUnleased :=
  run.invariant
    (fun unleased _ taken => unleased.step taken)
    (fun _ member => by cases member)

/--
On every heap and over every reachable table a dispatch without errors returns.
It pops in order.  If the channel has room for the waiting jobs that are due it
sends them all; otherwise it sends as many as fit and gives the next one back.
-/
theorem dispatch_exact
    {clock now : Time}
    {earlier : List (Action config slots)}
    {reached start : State config slots}
    (run :
      Run externals TransitionSystem.Unrestricted
        (initial config slots clock) earlier reached)
    (sameTable : start.jobs = reached.jobs)
    (entered : start.scheduler.position = .dispatching now)
    (isOpen : ¬start.ChannelClosed) :
    start.CanReturn externals ∧
      ∀ actions final,
        Run externals DispatchesCleanly start actions final →
        final.Returned →
        (poppedEntries actions).Pairwise
            (fun first second => first.scheduledAt ≤ second.scheduledAt) ∧
          if start.jobs.count
                (JobRepository.isDue start.scheduler.heap now) ≤
              freeCapacity config start.toShared then
            ∃ sent, start.DispatchedAll now (poppedEntries actions) sent final
          else
            ∃ popped entry sent,
              poppedEntries actions = popped ++ [entry] ∧
                start.DispatchedFull popped entry sent final := by
  constructor
  · have atHead :
        start =
          start.withTask start.toShared
            { heap := start.scheduler.heap, position := .dispatching now } := by
      unfold withTask
      rw [← entered]
    rw [atHead]
    exact canReturn_of_dispatching isOpen _ rfl
  · intro actions final dispatch returned
    have loops :=
      (loopsTo_start entered).run (fun _ _ clean => clean.1) dispatch
    rw [List.nil_append] at loops
    have outcome := loops.outcome returned
    unfold poppedEntries
    generalize isHistory : schedulerHistory actions = history at outcome ⊢
    generalize isRest : final.scheduler.heap = rest at outcome
    cases outcome with
    | done sent leasing channel room nothing =>
        subst isRest
        refine ⟨leasing.served.ordered, ?_⟩
        rw [length_eq_of_nothingDue leasing nothing] at room
        rw [if_pos room]
        exact ⟨sent, dispatchedAll_of_leasing leasing channel nothing⟩
    | full sent job restored last channel noRoom permit =>
        subst isRest
        refine ⟨restored.served.ordered, ?_⟩
        have more := length_lt_of_restored restored
        rw [noRoom] at more
        rw [if_neg (Nat.not_le.mpr more)]
        have unleased : start.ScheduledUnleased := by
          unfold ScheduledUnleased
          rw [sameTable]
          exact scheduledUnleased_of_run run
        obtain ⟨popped, entry, isPopped, dispatched⟩ :=
          dispatchedFull_of_restored unleased restored last channel noRoom
            permit
        exact ⟨popped, entry, sent, isPopped, dispatched⟩
    | leaseFails sent entry message leasing channel pops =>
        refine absurd ?_
          (not_mem_schedulerHistory dispatch
            (.lease entry (.error message)) rfl)
        rw [isHistory]
        exact List.mem_append_right _ (List.mem_singleton_self _)
    | closed sent job leasing channel isClosed =>
        exact (isOpen (of_decide_eq_true isClosed)).elim
    | returnFails sent job message leasing channel =>
        refine absurd ?_
          (not_mem_schedulerHistory dispatch
            (.returnJob (.error message)) rfl)
        rw [isHistory]
        exact List.mem_append_right _ (List.mem_singleton_self _)

end State

namespace Sample

/-- A daemon whose channel holds one job. -/
abbrev oneJobQueue : Config :=
  { config with workerQueueSize := 1 }

/-- Create jobs 1 and 2, both due at once, and enter the dispatch loop. -/
def createTwoDue : List (Action oneJobQueue 2) :=
  [ .api 0 (.arrive (.createJob clientId (oneOff "first"))),
    .api 0 (.call .ok),
    .api 0 (.call (.inserted 1)),
    .api 0 .notifyOne,
    .api 1 (.arrive (.createJob clientId (oneOff "second"))),
    .api 1 (.call .ok),
    .api 1 (.call (.inserted 2)),
    .api 1 .notifyOne,
    .scheduler (.refresh [⟨1, 0⟩, ⟨2, 0⟩]),
    .scheduler .sleepElapsed ]

/-- The second of two jobs does not fit, and waits again. -/
theorem second_job_is_given_back :
    ∃ start : State oneJobQueue 2, ∃ actions final,
      State.Run externals State.DispatchesCleanly start actions final ∧
        start.jobs.rows.map Job.state = [.scheduled, .scheduled] ∧
        final.jobs.rows.map Job.state = [.leased, .scheduled] ∧
        ∃ popped entry sent,
          State.poppedEntries actions = popped ++ [entry] ∧
            State.DispatchedFull start popped entry sent final := by
  obtain ⟨start, isStart, entered, isOpen, due, statesBefore, final,
      dispatched, isWaiting, statesAfter⟩ :
      ∃ start ∈ TransitionSystem.replay? (State.step? externals)
          TransitionSystem.Unrestricted (State.initial oneJobQueue 2 0)
          createTwoDue,
        start.scheduler.position = .dispatching 0 ∧
          ¬start.ChannelClosed ∧
          ¬start.jobs.count
                (JobRepository.isDue start.scheduler.heap 0) ≤
              freeCapacity oneJobQueue start.toShared ∧
          start.jobs.rows.map Job.state = [.scheduled, .scheduled] ∧
          ∃ final ∈ TransitionSystem.replay? (State.step? externals)
              State.DispatchesCleanly start
              [ .scheduler (.lease ⟨1, 0⟩ .ok),
                .scheduler .trySend,
                .scheduler (.lease ⟨2, 0⟩ .ok),
                .scheduler .trySend,
                .scheduler (.returnJob .ok),
                .scheduler .notifyOne ],
            final.scheduler.position = .waiting 3600000000 ∧
              final.jobs.rows.map Job.state = [.leased, .scheduled] := by
    decide
  have reached := TransitionSystem.run_of_replay? isStart
  have dispatch := TransitionSystem.run_of_replay? dispatched
  obtain ⟨_, exact⟩ := State.dispatch_exact reached rfl entered isOpen
  obtain ⟨_, outcome⟩ := exact _ final dispatch ⟨_, isWaiting⟩
  rw [if_neg due] at outcome
  exact ⟨start, _, final, dispatch, statesBefore, statesAfter, outcome⟩

end Sample

end Kronkeeper
