import Kronkeeper.JobCustody

namespace Kronkeeper

/-!
# The books of the hand-off

A lease puts a copy of the row into the scheduler's hand, `try_send` puts it
into the channel, `recv` gives it to a worker and the first write of `handle`
settles it.  Each station is a queue of its own: what enters it and what leaves
it, and how, is read off the steps of a run.
-/

/-- How the scheduler parts with a copy. -/
inductive Parting where
  /-- `try_send` put it into the channel. -/
  | sent
  /-- The channel was closed; the row stays leased. -/
  | refused
  /-- The channel was full and `schedule_retry` gave the row back. -/
  | givenBack
  /-- The channel was full and `schedule_retry` failed. -/
  | stranded
  /-- The process died. -/
  | lost
  deriving Repr, DecidableEq

/-- How a copy leaves the channel. -/
inductive Departure (config : Config) where
  | received (worker : Fin config.workerCount)
  /-- The receiver was dropped, with the last worker or with the process. -/
  | discarded
  deriving DecidableEq

/-- What becomes of a copy that a worker has received. -/
inductive Fate where
  /-- `set_running` failed. -/
  | unstarted
  /-- The worker panicked before the first write of `handle`. -/
  | panicked
  /-- The first write of `handle` failed. -/
  | unsettled
  | settled (disposition : Disposition)
  /-- The process died. -/
  | lost
  deriving Repr, DecidableEq

/-- The worker a copy went to. -/
def Departure.receiver?
    {config : Config} : Departure config → Option (Fin config.workerCount)
  | .received worker => some worker
  | .discarded => none

namespace WorkerTask

/-- The copy a worker lets go of in a step, and what becomes of it. -/
def fate?
    (config : Config) : WorkerTask → WorkerAction → Option (Job × Fate)
  | .starting job, .setRunning (.error _) => some (job, .unstarted)
  | .executing job, .execute outcome =>
      match Executor.execute? job.payload outcome with
      | some _ => none
      | none => some (job, .panicked)
  | .handling job result now, .settle reply =>
      match ResultHandler.dispose? config job result now with
      | none => some (job, .panicked)
      | some disposition =>
          match reply with
          | .ok => some (job, .settled disposition)
          | .error _ => some (job, .unsettled)
          | .inserted _ => none
  | _, _ => none

/-- Between two receipts a worker lets go of its copy or keeps it. -/
theorem Move.unsettled?_eq
    {config : Config}
    {externals : Externals}
    {shared after : Shared}
    {task next : WorkerTask}
    {action : WorkerAction}
    (moved : task.Move config externals shared action after next)
    (notRecv : action ≠ .recv) :
    task.unsettled?.toList =
      (fate? config task action).toList.map Prod.fst ++
        next.unsettled?.toList := by
  cases moved with
  | receive =>
      exact (notRecv rfl).elim
  | execute job outcome result captured =>
      simp [fate?, captured, unsettled?]
  | executePanics job outcome panics =>
      simp [fate?, panics, unsettled?]
  | settle job result now disposition disposed =>
      rw [unsettled?_afterSettle]
      simp [fate?, disposed, unsettled?]
  | settleFails job result now message =>
      cases disposed : ResultHandler.dispose? config job result now <;>
        simp [fate?, disposed, unsettled?]
  | settlePanics job result now reply panics =>
      simp [fate?, panics, unsettled?]
  | spawn =>
      rw [unsettled?_afterSpawn]
      rfl
  | emit | post =>
      rw [unsettled?_afterEmit]
      rfl
  | _ =>
      rfl

end WorkerTask

namespace State

variable {config : Config} {slots : Nat}

/-! ## What enters and leaves each station -/

/-- The copy that a lease puts into the scheduler's hand. -/
def leased
    (state : State config slots)
    (action : Action config slots) : List Job :=
  match state.scheduler.position, action with
  | .dispatching _, .scheduler (.lease entry .ok) =>
      (state.jobs.returning
        (JobRepository.leaseJob state.clock entry.id
          config.leaseDurationSecs)).toList
  | _, _ => []

/-- The copy the scheduler parts with, and how. -/
def parted
    (state : State config slots)
    (action : Action config slots) : List (Job × Parting) :=
  match state.scheduler.position, action with
  | .sending _ job, .scheduler .trySend =>
      if state.ChannelClosed then
        [(job, .refused)]
      else if state.channel.length < config.workerQueueSize then
        [(job, .sent)]
      else
        []
  | .returning job, .scheduler (.returnJob reply) =>
      if reply.succeeded then [(job, .givenBack)] else [(job, .stranded)]
  | position, .restart => position.hand?.toList.map fun job => (job, .lost)
  | _, _ => []

/-- The copy that enters the channel. -/
def sent
    (state : State config slots)
    (action : Action config slots) : List Job :=
  ((state.parted action).filter fun entry =>
    entry.2 == .sent).map Prod.fst

/-- The copies that leave the channel, and how. -/
def departed
    (externals : Externals)
    (state : State config slots)
    (action : Action config slots) : List (Job × Departure config) :=
  match action with
  | .worker worker .recv =>
      (state.channel.take 1).map fun job => (job, .received worker)
  | .worker _ _ =>
      match step? externals state action with
      | none => []
      | some after =>
          if after.ChannelClosed then
            state.channel.map fun job => (job, .discarded)
          else
            []
  | .restart => state.channel.map fun job => (job, .discarded)
  | _ => []

/-- The copies a worker lets go of, and what becomes of them. -/
def fates
    (worker : Fin config.workerCount)
    (state : State config slots)
    (action : Action config slots) : List (Job × Fate) :=
  match action with
  | .worker mover workerAction =>
      if mover = worker then
        ((state.workers worker).fate? config workerAction).toList
      else
        []
  | .restart =>
      (state.workers worker).unsettled?.toList.map fun job => (job, .lost)
  | _ => []

/-- The copies that one worker has received. -/
def receivedBy
    (worker : Fin config.workerCount)
    (departures : List (Job × Departure config)) : List Job :=
  (departures.filter fun entry =>
    entry.2.receiver? == some worker).map Prod.fst

/-! ## The law of each station -/

variable {externals : Externals}
variable {state after : State config slots}
variable {action : Action config slots}

/-- What `try_send` does with the copy in the scheduler's hand. -/
theorem trySend_of_step?
    {now : Time}
    {job : Job}
    (sending : state.scheduler.position = .sending now job)
    (taken : step? externals state (.scheduler .trySend) = some after) :
    (state.parted (.scheduler .trySend)).map Prod.fst ++
          after.scheduler.position.hand?.toList =
        [job] ∧
      after.channel = state.channel ++ state.sent (.scheduler .trySend) ∧
      (after.channel.length ≤ state.channel.length ∨
        after.channel.length ≤ config.workerQueueSize) := by
  simp only [step?, SchedulerTask.step?, sending, decide_eq_true_eq]
    at taken
  by_cases closed : state.ChannelClosed
  · simp only [if_pos closed, Option.map_some, Option.some.injEq] at taken
    subst after
    simp [parted, sent, sending, closed, SchedulerTask.await,
      SchedulerPosition.hand?]
  · by_cases room : state.channel.length < config.workerQueueSize
    · simp only [if_neg closed, if_pos room, Option.map_some,
        Option.some.injEq] at taken
      subst after
      have within : state.channel.length + 1 ≤ config.workerQueueSize :=
        room
      simp [parted, sent, sending, closed, room, within,
        SchedulerPosition.hand?]
    · simp only [if_neg closed, if_neg room, Option.map_some,
        Option.some.injEq] at taken
      subst after
      simp [parted, sent, sending, closed, room,
        SchedulerPosition.hand?]

/-- What the scheduler holds it has leased, and it parts with it once. -/
theorem hand_of_step?
    (taken : step? externals state action = some after) :
    state.scheduler.position.hand?.toList ++ state.leased action =
      (state.parted action).map Prod.fst ++
        after.scheduler.position.hand?.toList := by
  cases move_of_step? taken with
  | scheduler schedulerAction shared task moved =>
      cases position : state.scheduler.position with
      | sending now job =>
          rw [position] at moved
          have isSend : schedulerAction = .trySend := by
            cases moved <;> rfl
          subst isSend
          rw [(trySend_of_step? position taken).1]
          simp [leased, position, SchedulerPosition.hand?]
      | _ =>
          rw [position] at moved
          cases moved <;>
            simp_all [leased, parted, SchedulerTask.await,
              SchedulerPosition.hand?, Reply.succeeded]
  | worker worker workerAction shared task moved =>
      rw [dropClosed_scheduler]
      cases position : state.scheduler.position <;>
        simp [leased, parted, position]
  | restart =>
      cases position : state.scheduler.position <;>
        simp [leased, parted, position, restarted, booted,
          SchedulerTask.initial, SchedulerPosition.hand?]
  | tick | reaper | api | shutdown =>
      cases position : state.scheduler.position <;>
        simp [leased, parted, position]

/-- Only `try_send` puts a copy into the channel. -/
theorem sent_eq_nil
    (notSend : action ≠ .scheduler .trySend) :
    state.sent action = [] := by
  unfold sent parted
  split
  · exact (notSend rfl).elim
  · split <;> rfl
  · simp
  · rfl

/-- A worker's step clears the channel if it was the last to end. -/
theorem dropClosed_channel_eq (state : State config slots) :
    state.dropClosed.channel =
      if state.dropClosed.ChannelClosed then [] else state.channel := by
  by_cases closed : state.ChannelClosed
  · have stays : state.dropClosed.ChannelClosed := by
      simpa only [ChannelClosed, dropClosed_workers] using closed
    rw [if_pos stays, dropClosed, if_pos closed]
  · have stays : ¬state.dropClosed.ChannelClosed := by
      simpa only [ChannelClosed, dropClosed_workers] using closed
    rw [if_neg stays, dropClosed, if_neg closed]

/-- What leaves the channel in a worker's step that is not `recv`. -/
theorem departed_worker
    {worker : Fin config.workerCount}
    {workerAction : WorkerAction}
    (notRecv : workerAction ≠ .recv)
    (taken :
      step? externals state (.worker worker workerAction) = some after) :
    state.departed externals (.worker worker workerAction) =
      if after.ChannelClosed then
        state.channel.map fun job => (job, .discarded)
      else
        [] := by
  cases workerAction with
  | recv =>
      exact (notRecv rfl).elim
  | _ =>
      simp only [departed, taken]

/-- The channel passes on what is sent, in order. -/
theorem channel_of_step?
    (taken : step? externals state action = some after) :
    state.channel ++ state.sent action =
      (state.departed externals action).map Prod.fst ++ after.channel := by
  by_cases isSend : action = .scheduler .trySend
  · subst isSend
    cases position : state.scheduler.position with
    | sending now job =>
        exact (trySend_of_step? position taken).2.1.symm
    | _ =>
        have moved := schedulerMove_of_step? taken
        rw [position] at moved
        cases moved
  · rw [sent_eq_nil isSend, List.append_nil]
    cases move_of_step? taken with
    | scheduler schedulerAction shared task moved =>
        have notSend : schedulerAction ≠ .trySend :=
          fun same => isSend (congrArg Action.scheduler same)
        exact (moved.channel_eq notSend).symm
    | worker worker workerAction shared task moved =>
        by_cases isRecv : workerAction = .recv
        · subst isRecv
          generalize state.workers worker = current at moved
          cases moved with
          | receive notified job rest queued =>
              rw [dropClosed_channel_eq, if_neg]
              · simp [departed, queued]
              · intro closed
                have ended := closed worker
                simp [WorkerTask.ended] at ended
        · rw [departed_worker isRecv taken, dropClosed_channel_eq]
          have same := moved.channel_eq isRecv
          split
          · simp [Function.comp_def]
          · simpa using same.symm
    | reaper _ _ _ moved =>
        exact moved.channel_eq.symm
    | api _ _ _ _ moved =>
        exact moved.channel_eq.symm
    | restart =>
        simp [departed, restarted, booted, Function.comp_def]
    | tick | shutdown =>
        rfl

/-- What is discarded no worker receives. -/
@[simp] theorem receivedBy_discarded
    (worker : Fin config.workerCount)
    (jobs : List Job) :
    receivedBy worker (jobs.map fun job => (job, .discarded)) = [] := by
  simp [receivedBy, Departure.receiver?]

@[simp] theorem receivedBy_nil (worker : Fin config.workerCount) :
    receivedBy worker [] = [] :=
  rfl

theorem receivedBy_received
    (worker mover : Fin config.workerCount)
    (jobs : List Job) :
    receivedBy worker (jobs.map fun job => (job, .received mover)) =
      if mover = worker then jobs else [] := by
  unfold receivedBy
  rw [List.filter_map]
  by_cases same : mover = worker <;>
    simp [Departure.receiver?, same, Function.comp_def]

/-- A worker holds what it received until it lets go of it. -/
theorem worker_of_step?
    (taken : step? externals state action = some after)
    (worker : Fin config.workerCount) :
    (state.workers worker).unsettled?.toList ++
        receivedBy worker (state.departed externals action) =
      (state.fates worker action).map Prod.fst ++
        (after.workers worker).unsettled?.toList := by
  cases move_of_step? taken with
  | worker mover workerAction shared task moved =>
      simp only [dropClosed_workers]
      by_cases isMover : mover = worker
      · subst isMover
        rw [Function.update_self]
        by_cases isRecv : workerAction = .recv
        · subst isRecv
          generalize current : state.workers mover = before at moved
          cases moved with
          | receive notified job rest queued =>
              simp only [departed, receivedBy_received]
              simp [queued, fates, current, WorkerTask.fate?,
                WorkerTask.unsettled?]
        · rw [departed_worker isRecv taken]
          have kept := moved.unsettled?_eq isRecv
          split <;> simpa [fates] using kept
      · rw [Function.update_of_ne (Ne.symm isMover)]
        have others :
            receivedBy worker
                (state.departed externals (.worker mover workerAction)) =
              [] := by
          by_cases isRecv : workerAction = .recv
          · subst isRecv
            simp only [departed, receivedBy_received, if_neg isMover]
          · rw [departed_worker isRecv taken]
            split
            · simp
            · rfl
        simp [others, fates, isMover]
  | restart =>
      simp [departed, fates, restarted, booted, WorkerTask.unsettled?,
        Function.comp_def]
  | shutdown =>
      simp only [WorkerTask.tracks_unsettled?.notifyWaiter_eq]
      simp [departed, fates, receivedBy]
  | tick | scheduler | reaper | api =>
      simp [departed, fates, receivedBy]

/-- The channel never holds more than its capacity. -/
theorem channel_length_of_step?
    (taken : step? externals state action = some after)
    (within : state.channel.length ≤ config.workerQueueSize) :
    after.channel.length ≤ config.workerQueueSize := by
  by_cases isSend : action = .scheduler .trySend
  · subst isSend
    cases position : state.scheduler.position with
    | sending now job =>
        rcases (trySend_of_step? position taken).2.2 with shorter | bounded
        · exact shorter.trans within
        · exact bounded
    | _ =>
        have moved := schedulerMove_of_step? taken
        rw [position] at moved
        cases moved
  · have passes := channel_of_step? taken
    rw [sent_eq_nil isSend, List.append_nil] at passes
    have lengths := congrArg List.length passes
    rw [List.length_append] at lengths
    omega

/-! ## The books -/

/-- The entries of a run, in order. -/
abbrev entries
    {Entry : Type}
    (externals : Externals)
    (record : State config slots → Action config slots → List Entry)
    (start : State config slots)
    (actions : List (Action config slots)) : List Entry :=
  TransitionSystem.observed (step? externals) record start actions

/-- What a whole run sends are the copies that left the hand that way. -/
theorem entries_sent
    (start : State config slots)
    (actions : List (Action config slots)) :
    ((entries externals parted start actions).filter fun entry =>
        entry.2 == .sent).map Prod.fst =
      entries externals sent start actions :=
  TransitionSystem.observed_map
    (fun entries : List (Job × Parting) =>
      (entries.filter fun entry => entry.2 == .sent).map Prod.fst)
    rfl (by simp) start actions

/-- What a whole run gives to one worker. -/
theorem entries_receivedBy
    (worker : Fin config.workerCount)
    (start : State config slots)
    (actions : List (Action config slots)) :
    receivedBy worker
        (entries externals (departed externals) start actions) =
      entries externals
        (fun state action =>
          receivedBy worker (state.departed externals action))
        start actions :=
  TransitionSystem.observed_map (receivedBy worker) rfl
    (by simp [receivedBy]) start actions

/-- The jobs of the entries of a whole run. -/
theorem entries_jobs
    {Kind : Type}
    (record :
      State config slots → Action config slots → List (Job × Kind))
    (start : State config slots)
    (actions : List (Action config slots)) :
    (entries externals record start actions).map Prod.fst =
      entries externals
        (fun state action => (record state action).map Prod.fst)
        start actions :=
  TransitionSystem.observed_map (List.map Prod.fst) rfl (by simp)
    start actions

/--
From any start of the process, every copy goes its way once and in order: what
was leased is parted with or in the scheduler's hand, what was sent has left
the channel or waits in it, and what a worker has received has met its fate or
is with that worker.
-/
theorem copies_accounted_for
    {clock : Time}
    {jobs : JobTable}
    {actions : List (Action config slots)}
    {final : State config slots}
    (run :
      Run externals TransitionSystem.Unrestricted
        (booted config slots clock jobs) actions final) :
    entries externals leased (booted config slots clock jobs) actions =
        (entries externals parted (booted config slots clock jobs)
            actions).map Prod.fst ++
          final.scheduler.position.hand?.toList ∧
      ((entries externals parted (booted config slots clock jobs)
            actions).filter fun entry => entry.2 == .sent).map Prod.fst =
        (entries externals (departed externals)
            (booted config slots clock jobs) actions).map Prod.fst ++
          final.channel ∧
      final.channel.length ≤ config.workerQueueSize ∧
      ∀ worker,
        receivedBy worker
            (entries externals (departed externals)
              (booted config slots clock jobs) actions) =
          (entries externals (fates worker)
              (booted config slots clock jobs) actions).map Prod.fst ++
            (final.workers worker).unsettled?.toList := by
  refine ⟨?_, ?_, ?_, ?_⟩
  · rw [entries_jobs]
    exact run.observed_queue
      (fun state : State config slots =>
        state.scheduler.position.hand?.toList)
      (fun _ taken => hand_of_step? taken)
  · rw [entries_sent, entries_jobs]
    exact run.observed_queue
      (fun state : State config slots => state.channel)
      (fun _ taken => channel_of_step? taken)
  · exact run.invariant
      (fun within _ taken => channel_length_of_step? taken within)
      (Nat.zero_le _)
  · intro worker
    rw [entries_receivedBy, entries_jobs]
    exact run.observed_queue
      (fun state : State config slots =>
        (state.workers worker).unsettled?.toList)
      (fun _ taken => worker_of_step? taken worker)

end State

/-! ## A concrete run -/

namespace Sample

/-- The copy of job 1 was leased, sent and received, and is with worker 0. -/
theorem copy_is_with_its_worker :
    ∃ final : State config 1,
      (final.workers 0).unsettled?.map Job.id = some 1 ∧
        (State.entries externals State.leased (State.initial config 1 0)
            (createAndSend ++ begin 0)).length = 1 ∧
        State.receivedBy 0
            (State.entries externals (State.departed externals)
              (State.initial config 1 0) (createAndSend ++ begin 0)) =
          (State.entries externals (State.fates 0)
              (State.initial config 1 0)
              (createAndSend ++ begin 0)).map Prod.fst ++
            (final.workers 0).unsettled?.toList := by
  obtain ⟨final, run, held⟩ :=
    TransitionSystem.exists_run_of_replay?
      (State.step? externals) TransitionSystem.Unrestricted
      (State.initial config 1 0) (createAndSend ++ begin 0)
      (fun final => (final.workers 0).unsettled?.map Job.id = some 1)
      (by decide)
  obtain ⟨_, _, _, received⟩ := State.copies_accounted_for run
  exact ⟨final, held, by decide, received 0⟩

end Sample

end Kronkeeper
