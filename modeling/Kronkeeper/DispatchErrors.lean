import Kronkeeper.DispatchExact

namespace Kronkeeper

/-!
# Jobs a failing dispatch loses

While `dispatch_due_jobs` moves a job it has left the heap and is not yet in the
channel.  Where a call fails there, the job is in neither.
-/

/--
Every popped job that waited is leased and in the part of the channel the loop
filled, or waits again and the scheduler will come back to it; and what the loop
leased it has sent.
-/
structure NoneLost
    (start : Shared)
    (popped : List ScheduledJob)
    (final : Shared)
    (rest : List ScheduledJob) : Prop where
  reachable :
    ∀ entry ∈ popped,
      JobRepository.isScheduled start.jobs entry.id = true →
      (∃ job ∈ final.channel.drop start.channel.length,
          job.id = entry.id ∧ job.state = .leased ∧
            job ∈ final.jobs.rows) ∨
        (JobRepository.isScheduled final.jobs entry.id = true ∧
          ((∃ other ∈ rest, other.id = entry.id) ∨ final.permit = true))
  announced :
    ∀ row ∈ final.jobs.rows, row.state = .leased →
      row ∈ start.jobs.rows ∨
        row ∈ final.channel.drop start.channel.length

section Outcomes

variable {config : Config}
variable {start final : Shared}
variable {heap popped rest : List ScheduledJob}
variable {now : Time}
variable {sent : List Job}
variable {job : Job}
variable {entry : ScheduledJob}

theorem drop_channel
    (channel : final.channel = start.channel ++ sent) :
    final.channel.drop start.channel.length = sent := by
  rw [channel, List.drop_left]

/-- A leased id is that of a job that was leased, and still is. -/
theorem Leasing.sent_of_leasedId
    (leasing :
      Leasing config start heap now popped final.jobs final.permit rest
        sent)
    {id : Uuid}
    (leased : id ∈ leasedIds start.jobs popped) :
    ∃ job ∈ sent,
      job.id = id ∧ job.state = .leased ∧ job ∈ final.jobs.rows := by
  rw [← leasing.ids] at leased
  obtain ⟨job, member, sameId⟩ := List.mem_map.mp leased
  obtain ⟨inTable, isLeased⟩ := leasing.held job member
  exact ⟨job, member, sameId, isLeased, inTable⟩

/-- A row that is leased now was leased before, or by the loop. -/
theorem Leasing.announced
    (leasing :
      Leasing config start heap now popped final.jobs final.permit rest
        sent)
    {row : Job}
    (member : row ∈ final.jobs.rows) :
    row ∈ start.jobs.rows ∨ row ∈ sent := by
  obtain ⟨old, oldMember, related⟩ := leasing.rows.backward row member
  have sameId := related.id_eq
  unfold LeasedRow at related
  split at related
  · rename_i listed
    obtain ⟨job, jobMember, jobId⟩ := List.mem_map.mp listed
    have same : row = job :=
      RecordTable.eq_of_primary member (leasing.held job jobMember).1
        (sameId.trans jobId.symm)
    exact Or.inr (same ▸ jobMember)
  · exact Or.inl (related ▸ oldMember)

theorem noneLost_of_leasing
    (leasing :
      Leasing config start heap now popped final.jobs final.permit rest
        sent)
    (channel : final.channel = start.channel ++ sent) :
    NoneLost start popped final rest where
  reachable := by
    intro entry member waits
    rw [drop_channel channel]
    exact Or.inl
      (leasing.sent_of_leasedId
        (mem_leasedIds.mpr ⟨⟨entry, member, rfl⟩, waits⟩))
  announced := by
    intro row member _
    rw [drop_channel channel]
    exact leasing.announced member

/-- A job that was given back waits, and a permit is stored. -/
theorem noneLost_of_restored
    (restored :
      Restored config start heap now popped final.jobs rest sent job)
    (channel : final.channel = start.channel ++ sent)
    (permit : final.permit = true) :
    NoneLost start popped final rest where
  reachable := by
    intro entry member waits
    rw [drop_channel channel]
    have leased : entry.id ∈ leasedIds start.jobs popped :=
      mem_leasedIds.mpr ⟨⟨entry, member, rfl⟩, waits⟩
    rw [← restored.ids, List.mem_append, List.mem_singleton] at leased
    rcases leased with wasSent | isHand
    · obtain ⟨other, otherMember, sameId⟩ := List.mem_map.mp wasSent
      obtain ⟨inTable, isLeased⟩ := restored.held other otherMember
      exact Or.inl ⟨other, otherMember, sameId, isLeased, inTable⟩
    · obtain ⟨old, oldMember, oldId, scheduled⟩ :=
        JobRepository.isScheduled_iff.mp waits
      obtain ⟨new, newMember, related⟩ :=
        restored.rows.forward old oldMember
      unfold RestoredRow at related
      rw [if_pos (oldId.trans isHand)] at related
      obtain ⟨_, clock, rfl⟩ := related
      exact Or.inr
        ⟨JobRepository.isScheduled_iff.mpr
          ⟨_, newMember, oldId, scheduled⟩, Or.inr permit⟩
  announced := by
    intro row member isLeased
    rw [drop_channel channel]
    obtain ⟨old, oldMember, related⟩ := restored.rows.backward row member
    unfold RestoredRow at related
    split at related
    · obtain ⟨scheduled, clock, rfl⟩ := related
      rw [show old.state = .leased from isLeased] at scheduled
      cases scheduled
    · have sameId := related.id_eq
      unfold LeasedRow at related
      split at related
      · rename_i listed
        obtain ⟨other, otherMember, otherId⟩ := List.mem_map.mp listed
        have same : row = other :=
          RecordTable.eq_of_primary member
            (restored.held other otherMember).1
            (sameId.trans otherId.symm)
        exact Or.inr (same ▸ otherMember)
      · exact Or.inl (related ▸ oldMember)

theorem not_isScheduled_of_leased
    {jobs : JobTable}
    (member : job ∈ jobs.rows)
    (isLeased : job.state = .leased) :
    ¬JobRepository.isScheduled jobs job.id = true := by
  intro waits
  obtain ⟨row, rowMember, sameId, scheduled⟩ :=
    JobRepository.isScheduled_iff.mp waits
  rw [RecordTable.eq_of_primary rowMember member sameId, isLeased]
    at scheduled
  cases scheduled

/-- A failed lease loses the job unless something leads back to it. -/
theorem noneLost_of_leaseFails_iff
    (leasing :
      Leasing config start heap now popped final.jobs final.permit rest
        sent)
    (channel : final.channel = start.channel ++ sent) :
    NoneLost start (popped ++ [entry]) final (rest.erase entry) ↔
      (JobRepository.isScheduled final.jobs entry.id = true →
        (∃ other ∈ rest.erase entry, other.id = entry.id) ∨
          final.permit = true) := by
  constructor
  · intro noneLost waits
    obtain ⟨row, member, sameId, scheduled⟩ :=
      JobRepository.isScheduled_iff.mp waits
    have waited : JobRepository.isScheduled start.jobs entry.id = true :=
      JobRepository.isScheduled_iff.mpr
        ⟨row, (leasing.eq_of_scheduled member scheduled).1, sameId,
          scheduled⟩
    rcases noneLost.reachable entry
        (List.mem_append_right _ (List.mem_singleton_self entry)) waited
        with ⟨job, _, jobId, isLeased, inTable⟩ | ⟨_, leadsBack⟩
    · exact (not_isScheduled_of_leased inTable isLeased
        (jobId ▸ waits)).elim
    · exact leadsBack
  · intro leadsBack
    have before := noneLost_of_leasing leasing channel
    refine ⟨fun other member waited => ?_, before.announced⟩
    rw [drop_channel channel]
    by_cases leased : other.id ∈ leasedIds start.jobs popped
    · exact Or.inl (leasing.sent_of_leasedId leased)
    · have isEntry : other = entry := by
        rcases List.mem_append.mp member with earlier | last
        · exact (leased
            (mem_leasedIds.mpr ⟨⟨other, earlier, rfl⟩, waited⟩)).elim
        · exact List.mem_singleton.mp last
      subst isEntry
      have waits := leasing.isScheduled_of_notLeased waited leased
      exact Or.inr ⟨waits, leadsBack waits⟩

/-- A job in hand that is neither sent nor given back is lost. -/
theorem not_noneLost_of_hand
    (leasing :
      Leasing config start heap now popped final.jobs final.permit rest
        (sent ++ [job]))
    (channel : final.channel = start.channel ++ sent) :
    ¬NoneLost start popped final rest := by
  intro noneLost
  have leased : job.id ∈ leasedIds start.jobs popped := by
    rw [← leasing.ids_hand]
    simp
  obtain ⟨⟨entry, member, sameId⟩, waited⟩ := mem_leasedIds.mp leased
  rcases noneLost.reachable entry member (sameId ▸ waited) with
    ⟨other, wasSent, otherId, _⟩ | ⟨waits, _⟩
  · rw [drop_channel channel] at wasSent
    refine leasing.hand_notSent ?_
    rw [← sameId, ← otherId]
    exact List.mem_map_of_mem wasSent
  · obtain ⟨inTable, isLeased⟩ := leasing.held job (by simp)
    exact not_isScheduled_of_leased inTable isLeased (sameId ▸ waits)

end Outcomes

/-! ## The steps that lose a job -/

/--
The step loses no job: a lease fails only where another entry or a permit leads
back to the waiting job, and a job in hand is sent or given back.
-/
def SchedulerTask.KeepsJob
    (channelClosed : Bool)
    (shared : Shared)
    (task : SchedulerTask) : SchedulerAction → Prop
  | .lease entry (.error _) =>
      JobRepository.isScheduled shared.jobs entry.id = true →
        (∃ other ∈ task.heap.erase entry, other.id = entry.id) ∨
          shared.permit = true
  | .trySend => channelClosed = false
  | .returnJob (.error _) => False
  | _ => True

instance SchedulerTask.decidableKeepsJob
    (channelClosed : Bool)
    (shared : Shared)
    (task : SchedulerTask) :
    ∀ action, Decidable (task.KeepsJob channelClosed shared action)
  | .lease entry (.error _) =>
      inferInstanceAs
        (Decidable
          (JobRepository.isScheduled shared.jobs entry.id = true →
            (∃ other ∈ task.heap.erase entry, other.id = entry.id) ∨
              shared.permit = true))
  | .trySend => inferInstanceAs (Decidable (channelClosed = false))
  | .returnJob (.error _) => isFalse id
  | .lease _ .ok => isTrue trivial
  | .lease _ (.inserted _) => isTrue trivial
  | .returnJob .ok => isTrue trivial
  | .returnJob (.inserted _) => isTrue trivial
  | .refresh _ => isTrue trivial
  | .refreshFails => isTrue trivial
  | .sleepElapsed => isTrue trivial
  | .notified => isTrue trivial
  | .dispatchDone => isTrue trivial
  | .notifyOne => isTrue trivial

section Steps

variable {config : Config} {channelClosed : Bool}
variable {start current after : Shared}
variable {heap : List ScheduledJob}
variable {now : Time}
variable {history : List SchedulerAction}
variable {task next : SchedulerTask}
variable {action : SchedulerAction}

/-- Back from the head of the loop: nothing was due, or a lease has failed. -/
theorem noneLost_iff_of_dispatching
    {rest : List ScheduledJob}
    {sent : List Job}
    (leasing :
      Leasing config start heap now
        (history.flatMap SchedulerAction.popped) current.jobs
        current.permit rest sent)
    (channel : current.channel = start.channel ++ sent)
    (dispatches : action.dispatches = true)
    (taken :
      SchedulerTask.step? config channelClosed current
          { heap := rest, position := .dispatching now } action =
        some (after, next))
    {wakeAt : Time}
    (waiting : next.position = .waiting wakeAt) :
    NoneLost start ((history ++ [action]).flatMap SchedulerAction.popped)
        after next.heap ↔
      SchedulerTask.KeepsJob channelClosed current
        { heap := rest, position := .dispatching now } action := by
  cases action with
  | lease entry reply =>
      simp only [SchedulerTask.step?] at taken
      split at taken
      · cases reply with
        | ok =>
            dsimp only at taken
            split at taken
            · cases taken
              cases waiting
            · cases taken
              cases waiting
        | error message =>
            cases taken
            rw [flatMap_popped_append]
            exact noneLost_of_leaseFails_iff leasing channel
        | inserted id =>
            cases taken
      · cases taken
  | dispatchDone =>
      simp only [SchedulerTask.step?] at taken
      split at taken
      · cases taken
        rw [flatMap_popped_of_none rfl]
        exact iff_of_true (noneLost_of_leasing leasing channel) trivial
      · cases taken
  | trySend | returnJob | notifyOne =>
      cases taken
  | refresh | refreshFails | sleepElapsed | notified =>
      cases dispatches

/-- Back with a job in hand: the channel is closed. -/
theorem noneLost_iff_of_sending
    {rest : List ScheduledJob}
    {sent : List Job}
    {job : Job}
    (leasing :
      Leasing config start heap now
        (history.flatMap SchedulerAction.popped) current.jobs
        current.permit rest (sent ++ [job]))
    (channel : current.channel = start.channel ++ sent)
    (dispatches : action.dispatches = true)
    (taken :
      SchedulerTask.step? config channelClosed current
          { heap := rest, position := .sending now job } action =
        some (after, next))
    {wakeAt : Time}
    (waiting : next.position = .waiting wakeAt) :
    NoneLost start ((history ++ [action]).flatMap SchedulerAction.popped)
        after next.heap ↔
      SchedulerTask.KeepsJob channelClosed current
        { heap := rest, position := .sending now job } action := by
  cases action with
  | trySend =>
      simp only [SchedulerTask.step?] at taken
      split at taken
      · rename_i isClosed
        cases taken
        rw [flatMap_popped_of_none rfl]
        refine iff_of_false
          (not_noneLost_of_hand leasing channel) fun isOpen => ?_
        rw [isClosed] at isOpen
        cases isOpen
      · split at taken
        · cases taken
          cases waiting
        · cases taken
          cases waiting
  | lease | dispatchDone | returnJob | notifyOne =>
      cases taken
  | refresh | refreshFails | sleepElapsed | notified =>
      cases dispatches

/-- A loop that comes back has lost nothing if its last step lost nothing. -/
theorem DispatchLoop.noneLost_iff
    (loop :
      DispatchLoop config channelClosed start heap now history current
        task)
    (dispatches : action.dispatches = true)
    (taken :
      task.step? config channelClosed current action =
        some (after, next))
    {wakeAt : Time}
    (waiting : next.position = .waiting wakeAt) :
    NoneLost start ((history ++ [action]).flatMap SchedulerAction.popped)
        after next.heap ↔
      task.KeepsJob channelClosed current action := by
  cases loop with
  | dispatching sent leasing channel room =>
      exact noneLost_iff_of_dispatching leasing channel dispatches taken
        waiting
  | sending sent job leasing last channel room =>
      exact noneLost_iff_of_sending leasing channel dispatches taken
        waiting
  | returning sent job leasing last channel noRoom =>
      cases action with
      | returnJob reply =>
          cases reply with
          | ok =>
              cases taken
              cases waiting
          | error message =>
              cases taken
              rw [flatMap_popped_of_none rfl]
              exact iff_of_false
                (not_noneLost_of_hand leasing channel) id
          | inserted id =>
              cases taken
      | lease | dispatchDone | trySend | notifyOne =>
          cases taken
      | refresh | refreshFails | sleepElapsed | notified =>
          cases dispatches
  | notifying sent job restored last channel noRoom =>
      cases action with
      | notifyOne =>
          cases taken
          rw [flatMap_popped_of_none rfl]
          exact iff_of_true (noneLost_of_restored restored channel rfl)
            trivial
      | lease | dispatchDone | trySend | returnJob =>
          cases taken
      | refresh | refreshFails | sleepElapsed | notified =>
          cases dispatches
  | returned wakeAt outcome =>
      cases action with
      | lease | dispatchDone | trySend | returnJob | notifyOne =>
          cases taken
      | refresh | refreshFails | sleepElapsed | notified =>
          cases dispatches

/-- A step that loses a job is the last one of its loop. -/
theorem waiting_of_not_keepsJob
    (taken :
      task.step? config channelClosed current action =
        some (after, next))
    (loses : ¬task.KeepsJob channelClosed current action) :
    ∃ wakeAt, next.position = .waiting wakeAt := by
  obtain ⟨heap, position⟩ := task
  unfold SchedulerTask.KeepsJob at loses
  split at loses
  · cases position with
    | dispatching now =>
        simp only [SchedulerTask.step?] at taken
        split at taken
        · cases taken
          exact ⟨_, rfl⟩
        · cases taken
    | _ =>
        cases taken
  · cases position with
    | sending now job =>
        simp only [SchedulerTask.step?] at taken
        rw [if_pos (by simpa using loses)] at taken
        cases taken
        exact ⟨_, rfl⟩
    | _ =>
        cases taken
  · cases position with
    | returning job =>
        cases taken
        exact ⟨_, rfl⟩
    | _ =>
        cases taken
  · exact (loses trivial).elim

end Steps

/-! ## Whole dispatches -/

namespace State

variable {config : Config} {slots : Nat}
variable {externals : Externals}
variable {start current after final : State config slots}
variable {now : Time}
variable {history : List SchedulerAction}
variable {actions : List (Action config slots)}

/-- A step of the dispatch loop that loses no job, or time passes. -/
def DispatchesSafely
    (state : State config slots) : Action config slots → Prop
  | .tick _ => True
  | .scheduler action =>
      action.dispatches = true ∧
        state.scheduler.KeepsJob (decide state.ChannelClosed)
          state.toShared action
  | _ => False

instance decidableDispatchesSafely
    (state : State config slots) :
    ∀ action, Decidable (DispatchesSafely state action)
  | .tick _ => isTrue trivial
  | .scheduler action =>
      inferInstanceAs
        (Decidable
          (action.dispatches = true ∧
            state.scheduler.KeepsJob (decide state.ChannelClosed)
              state.toShared action))
  | .worker _ _ => isFalse id
  | .reaper _ => isFalse id
  | .api _ _ => isFalse id
  | .shutdown => isFalse id
  | .restart => isFalse id

theorem DispatchesSafely.dispatches
    {action : Action config slots}
    (safe : DispatchesSafely current action) :
    Dispatches current action := by
  cases action with
  | tick elapsed =>
      trivial
  | scheduler action =>
      exact safe.1
  | worker | reaper | api | shutdown | restart =>
      exact safe.elim

/-- Between these two states the loop that popped these entries lost no job. -/
def DispatchLosesNone
    (start : State config slots)
    (popped : List ScheduledJob)
    (final : State config slots) : Prop :=
  NoneLost start.toShared popped final.toShared final.scheduler.heap

/-- A loop that has returned does nothing more by itself. -/
theorem not_dispatches_of_returned
    {action : SchedulerAction}
    (returned : current.Returned)
    (taken : step? externals current (.scheduler action) = some after) :
    ¬action.dispatches = true := by
  intro dispatches
  obtain ⟨wakeAt, waiting⟩ := returned
  obtain ⟨_, stepped, _⟩ := Option.map_eq_some_iff.mp taken
  unfold SchedulerTask.step? at stepped
  rw [waiting] at stepped
  cases action with
  | lease | dispatchDone | trySend | returnJob | notifyOne =>
      cases stepped
  | refresh | refreshFails | sleepElapsed | notified =>
      cases dispatches

/-- Once a loop has returned, only time passes. -/
theorem run_of_returned
    (returned : current.Returned)
    (run : Run externals Dispatches current actions final) :
    schedulerHistory actions = [] ∧
      Run externals DispatchesSafely current actions final ∧
      ∀ popped,
        DispatchLosesNone start popped final ↔
          DispatchLosesNone start popped current := by
  induction run with
  | nil state =>
      exact ⟨rfl, .nil state, fun _ => Iff.rfl⟩
  | @cons initial middle final action rest dispatches taken _
      inductionHypothesis =>
      cases action with
      | tick elapsed =>
          obtain ⟨noStep, safe, same⟩ :=
            inductionHypothesis (by cases taken; exact returned)
          refine ⟨noStep, .cons trivial taken safe, fun popped => ?_⟩
          rw [same]
          cases taken
          exact ⟨fun none => ⟨none.reachable, none.announced⟩,
            fun none => ⟨none.reachable, none.announced⟩⟩
      | scheduler action =>
          exact (not_dispatches_of_returned returned taken
            dispatches).elim
      | worker | reaper | api | shutdown | restart =>
          exact dispatches.elim

/-- A loop that is on its way loses nothing if no step of it does. -/
theorem LoopsTo.losesNone_iff
    (loops : LoopsTo start now history current)
    (onItsWay : ¬current.Returned)
    (run : Run externals Dispatches current actions final)
    (returned : final.Returned) :
    DispatchLosesNone start
        ((history ++ schedulerHistory actions).flatMap
          SchedulerAction.popped)
        final ↔
      Run externals DispatchesSafely current actions final := by
  induction run generalizing history with
  | nil state =>
      exact (onItsWay returned).elim
  | @cons initial middle final action rest dispatches taken later
      inductionHypothesis =>
      have loopsOn := loops.step dispatches taken
      have split :
          Run externals DispatchesSafely initial (action :: rest) final ↔
            DispatchesSafely initial action ∧
              Run externals DispatchesSafely middle rest final :=
        TransitionSystem.Run.cons_iff taken
      rw [split, schedulerHistory_cons, ← List.append_assoc]
      cases action with
      | tick elapsed =>
          rw [inductionHypothesis loopsOn (by cases taken; exact onItsWay)
            returned]
          exact (and_iff_right trivial).symm
      | scheduler action =>
          obtain ⟨⟨shared, task⟩, stepped, isMiddle⟩ :=
            Option.map_eq_some_iff.mp taken
          by_cases comesBack : middle.Returned
          · -- The step that comes back decides it; only time passes after it.
            obtain ⟨noStep, safe, same⟩ :
                schedulerHistory rest = [] ∧
                  Run externals DispatchesSafely middle rest final ∧
                  ∀ popped,
                    DispatchLosesNone start popped final ↔
                      DispatchLosesNone start popped middle :=
              run_of_returned comesBack later
            obtain ⟨wakeAt, waiting⟩ := comesBack
            subst isMiddle
            rw [decide_eq_decide.mpr loops.channelClosed_iff] at stepped
            rw [noStep, List.append_nil, same]
            refine (loops.loop.noneLost_iff dispatches stepped
              waiting).trans ?_
            rw [← decide_eq_decide.mpr loops.channelClosed_iff]
            exact ⟨fun keeps => ⟨⟨dispatches, keeps⟩, safe⟩,
              fun both => both.1.2⟩
          · have keeps :
                initial.scheduler.KeepsJob (decide initial.ChannelClosed)
                  initial.toShared action := by
              by_contra loses
              obtain ⟨wakeAt, waiting⟩ :=
                waiting_of_not_keepsJob stepped loses
              subst isMiddle
              exact comesBack ⟨wakeAt, waiting⟩
            rw [inductionHypothesis loopsOn comesBack returned]
            exact (and_iff_right ⟨dispatches, keeps⟩).symm
      | worker | reaper | api | shutdown | restart =>
          exact dispatches.elim

/--
A dispatch loses no job, whatever fails in it, if and only if no step of it
does: it finds the channel open, no `schedule_retry` fails, and a `lease_job`
fails only where something else leads back to the job.
-/
theorem dispatch_losesNone_iff
    (entered : start.scheduler.position = .dispatching now)
    (run : Run externals Dispatches start actions final)
    (returned : final.Returned) :
    DispatchLosesNone start (poppedEntries actions) final ↔
      Run externals DispatchesSafely start actions final := by
  have onItsWay : ¬start.Returned := by
    rintro ⟨wakeAt, waiting⟩
    rw [entered] at waiting
    cases waiting
  exact (loopsTo_start entered).losesNone_iff onItsWay run returned

end State

namespace Sample

/-- The second lease fails while a permit is stored. -/
theorem failed_lease_keeps_job :
    ∃ start : State oneJobQueue 2, ∃ actions final,
      State.Run externals State.Dispatches start actions final ∧
        final.jobs.rows.map Job.state = [.leased, .scheduled] ∧
        final.scheduler.heap = [] ∧
        State.DispatchLosesNone start (State.poppedEntries actions)
          final := by
  obtain ⟨start, _, entered, final, safe, isWaiting, states, empty⟩ :
      ∃ start ∈ TransitionSystem.replay? (State.step? externals)
          TransitionSystem.Unrestricted (State.initial oneJobQueue 2 0)
          createTwoDue,
        start.scheduler.position = .dispatching 0 ∧
          ∃ final ∈ TransitionSystem.replay? (State.step? externals)
              State.DispatchesSafely start
              [ .scheduler (.lease ⟨1, 0⟩ .ok),
                .scheduler .trySend,
                .scheduler (.lease ⟨2, 0⟩ (.error "pool timed out")) ],
            final.scheduler.position = .waiting 3600000000 ∧
              final.jobs.rows.map Job.state = [.leased, .scheduled] ∧
              final.scheduler.heap = [] := by
    decide
  have safeRun := TransitionSystem.run_of_replay? safe
  have run := safeRun.mono fun _ _ keeps => keeps.dispatches
  exact ⟨start, _, final, run, states, empty,
    (State.dispatch_losesNone_iff entered run ⟨_, isWaiting⟩).mpr
      safeRun⟩

/-- The job that did not fit stays leased when giving it back fails. -/
theorem failed_return_strands_job :
    ∃ start : State oneJobQueue 2, ∃ actions final,
      State.Run externals State.Dispatches start actions final ∧
        final.Returned ∧
        ¬State.DispatchLosesNone start (State.poppedEntries actions)
          final := by
  obtain ⟨start, _, final, dispatched, isWaiting, row, member, isLeased,
      isNew, notSent⟩ :
      ∃ start ∈ TransitionSystem.replay? (State.step? externals)
          TransitionSystem.Unrestricted (State.initial oneJobQueue 2 0)
          createTwoDue,
        ∃ final ∈ TransitionSystem.replay? (State.step? externals)
            State.Dispatches start
            [ .scheduler (.lease ⟨1, 0⟩ .ok),
              .scheduler .trySend,
              .scheduler (.lease ⟨2, 0⟩ .ok),
              .scheduler .trySend,
              .scheduler (.returnJob (.error "pool timed out")) ],
          final.scheduler.position = .waiting 3600000000 ∧
            ∃ row ∈ final.jobs.rows,
              row.state = .leased ∧
                row ∉ start.jobs.rows ∧
                row ∉ final.channel.drop start.channel.length := by
    decide
  refine ⟨start, _, final, TransitionSystem.run_of_replay? dispatched,
    ⟨_, isWaiting⟩, fun losesNone => ?_⟩
  rcases losesNone.announced row member isLeased with wasThere | wasSent
  · exact isNew wasThere
  · exact notSent wasSent

end Sample

end Kronkeeper
