import Kronkeeper.ExclusiveExecution
import Kronkeeper.FairParties
import Kronkeeper.LeaseLiveness
import Kronkeeper.SchedulerWakeup

namespace Kronkeeper

/-!
# No due job is forgotten

Between the write that makes a row due and its lease stand a notification, a
refresh, a sleep and a dispatch round.  When nothing stands in the way (calls
succeed, the window holds every scheduled row, the channel has room), each of
them comes about, so the row is leased unless another statement is first.
-/

namespace State

open JobRepository

variable {config : Config} {slots : Nat}

/--
No call fails, no refresh leaves a row out, no copy is refused and the process
goes on.
-/
def SucceedsWithRoom (state : State config slots) : Action config slots → Prop
  | .scheduler (.refresh _) =>
      (scheduledJobs state.jobs).length ≤ config.heapLookaheadLimit.toNat
  | .scheduler .trySend => state.Accepts
  | .restart => False
  | action => action.succeeds = true

instance
    (state : State config slots)
    (action : Action config slots) :
    Decidable (state.SucceedsWithRoom action) := by
  unfold SucceedsWithRoom
  split <;> infer_instance

/-- Every scheduled row is in the heap, or a refresh is coming. -/
def Tracked (state : State config slots) : Prop :=
  ∀ due ∈ scheduledJobs state.jobs,
    due ∈ state.scheduler.heap ∨ state.RefreshComing

variable {externals : Externals}
variable {state after : State config slots}
variable {action : Action config slots}
variable {due : ScheduledJob}

theorem SucceedsWithRoom.succeeds
    (withRoom : state.SucceedsWithRoom action) :
    action.succeeds = true := by
  unfold SucceedsWithRoom at withRoom
  split at withRoom <;> first | rfl | exact withRoom.elim | exact withRoom

theorem SucceedsWithRoom.notRestart
    (withRoom : state.SucceedsWithRoom action) :
    action ≠ .restart := by
  rintro rfl
  exact withRoom

/-- A refresh that leaves nothing out puts every scheduled row in the heap. -/
theorem mem_heap_of_refresh
    {fetched : List ScheduledJob}
    (withRoom : state.SucceedsWithRoom (.scheduler (.refresh fetched)))
    (taken :
      step? externals state (.scheduler (.refresh fetched)) = some after)
    (member : due ∈ scheduledJobs after.jobs) :
    due ∈ after.scheduler.heap := by
  have within :
      (scheduledJobs state.jobs).length ≤
        config.heapLookaheadLimit.toNat :=
    withRoom
  have moved := schedulerMove_of_step? taken
  generalize state.scheduler.position = position at moved
  change due ∈ scheduledJobs after.toShared.jobs at member
  generalize after.scheduler = task at moved ⊢
  generalize after.toShared = shared at moved member
  cases moved with
  | refresh _ answers =>
      have all : fetched.Perm (scheduledJobs state.jobs) := by
        refine answers.2.subperm.perm_of_length_le ?_
        rw [answers.2.length]
        exact Nat.le_min.mpr ⟨within, Nat.le_refl _⟩
      exact all.mem_iff.mpr member

/-- What is in the heap stays there while its row is scheduled. -/
theorem mem_heap_of_step?
    (withRoom : state.SucceedsWithRoom action)
    (taken : step? externals state action = some after)
    (inHeap : due ∈ state.scheduler.heap)
    (member : due ∈ scheduledJobs after.jobs) :
    due ∈ after.scheduler.heap := by
  rcases heap_step taken with
    same | ⟨entry, reply, rfl, erased⟩ | ⟨fetched, rfl⟩ | isRestart
  · rw [same]
    exact inHeap
  · rw [erased]
    refine (List.mem_erase_of_ne ?_).mpr inHeap
    rintro rfl
    have succeeds := withRoom.succeeds
    have isOk : reply = .ok := by
      have moved := schedulerMove_of_step? taken
      generalize state.scheduler.position = position at moved
      generalize after.toShared = shared at moved
      generalize after.scheduler = task at moved
      cases moved with
      | lease | leaseMisses =>
          rfl
      | leaseFails =>
          cases succeeds
    subst isOk
    exact popped_not_scheduled taken member rfl
  · exact mem_heap_of_refresh withRoom taken member
  · exact (withRoom.notRestart isRestart).elim

/-- Every scheduled row stays tracked. -/
theorem Tracked.step
    (tracked : state.Tracked)
    (withRoom : state.SucceedsWithRoom action)
    (taken : step? externals state action = some after) :
    after.Tracked := by
  intro due member
  rcases due_or_refreshComing taken member with before | coming
  · rcases tracked due before with inHeap | coming
    · exact Or.inl (mem_heap_of_step? withRoom taken inHeap member)
    · by_cases isRefresh :
          ∃ fetched, action = .scheduler (.refresh fetched)
      · obtain ⟨fetched, rfl⟩ := isRefresh
        exact Or.inl (mem_heap_of_refresh withRoom taken member)
      · exact Or.inr
          (coming.step withRoom.succeeds
            (fun fetched same => isRefresh ⟨fetched, same⟩) taken)
  · exact Or.inr coming

/-- What takes a scheduled row out of the schedule. -/
inductive LeavesSchedule
    (state : State config slots)
    (id : Uuid) : Action config slots → Prop where
  /-- The scheduler pops its entry and leases it. -/
  | leased
      (entry : ScheduledJob)
      (sameId : entry.id = id) :
      LeavesSchedule state id (.scheduler (.lease entry .ok))
  /-- A request cancels it. -/
  | cancelled
      (slot : Fin slots)
      (row : Job)
      (rowId : row.id = id)
      (change :
        state.StateChange row (.api slot (.call .ok)) .cancelled) :
      LeavesSchedule state id (.api slot (.call .ok))
  /-- A copy from an earlier lease is still out and writes the row. -/
  | overwritten
      (place : Place config)
      (copy row : Job)
      (expected new : JobState)
      (action : Action config slots)
      (out : state.Expects place copy expected)
      (copyId : copy.id = id)
      (rowId : row.id = id)
      (change : state.StateChange row action new) :
      LeavesSchedule state id action

/-- Whatever writes the state of a scheduled row is one of these. -/
theorem leavesSchedule_of_change
    (grounded : state.Grounded)
    (notRestart : action ≠ .restart)
    {row : Job}
    {new : JobState}
    (member : row ∈ state.jobs.rows)
    (scheduled : row.state = .scheduled)
    (notTemplate : row.isTemplate = false)
    (change : state.StateChange row action new) :
    state.LeavesSchedule row.id action := by
  have written := change
  cases change with
  | lease now entry dispatching pops sameId =>
      exact .leased entry sameId.symm
  | begin worker job starting sameId =>
      exact .overwritten (.worker worker) job row .leased _ _
        (expects_of_worker starting rfl) sameId.symm rfl written
  | settle worker job result now disposition handling disposed sameId =>
      exact .overwritten (.worker worker) job row .running _ _
        (expects_of_worker handling rfl) sameId.symm rfl written
  | giveBack job returning sameId =>
      exact .overwritten .hand job row .leased _ _
        (expects_of_hand returning rfl) sameId.symm rfl written
  | reap ticking leased =>
      rw [scheduled] at leased
      cases leased
  | recover =>
      exact (notRestart rfl).elim
  | cancelJob slot | cancelTemplate slot | cancelInstances slot =>
      exact .cancelled slot row rfl written
  | completeTemplate worker job template spawning sameId =>
      have read := (grounded.workers worker).template template (by
        rw [spawning]
        rfl)
      rw [read.row_isTemplate member sameId] at notTemplate
      cases notTemplate

/-- A scheduled row stays as it is or leaves the schedule. -/
theorem leaves_or_scheduled
    (grounded : state.Grounded)
    (notRestart : action ≠ .restart)
    (taken : step? externals state action = some after)
    (member : due ∈ scheduledJobs state.jobs) :
    state.LeavesSchedule due.id action ∨
      due ∈ scheduledJobs after.jobs := by
  obtain ⟨row, rowMember, scheduled, notTemplate, rfl⟩ :=
    mem_scheduledJobs.mp member
  obtain ⟨new, newMember, identity⟩ :=
    extends_of_step? taken row rowMember
  cases rowOrigin_of_step? taken newMember with
  | kept old oldMember sameIdentity _ schedule =>
      have isRow : old = row :=
        RecordTable.eq_of_primary oldMember rowMember
          (Job.id_eq_of_identity (sameIdentity.symm.trans identity))
      subst isRow
      refine Or.inr (mem_scheduledJobs.mpr ⟨new, newMember,
        schedule.state.trans scheduled,
        (Job.isTemplate_eq_of_identity identity).trans notTemplate, ?_⟩)
      rw [Job.id_eq_of_identity identity, schedule.scheduledAt]
  | changed old oldMember sameIdentity _ change =>
      have isRow : old = row :=
        RecordTable.eq_of_primary oldMember rowMember
          (Job.id_eq_of_identity (sameIdentity.symm.trans identity))
      subst isRow
      exact Or.inl (leavesSchedule_of_change grounded notRestart oldMember
        scheduled notTemplate change)
  | inserted fresh insertion =>
      exact (fresh.1 row rowMember
        (Job.id_eq_of_identity identity).symm).elim

/-- A reaper that has reaped notifies with its next step. -/
theorem notifying_or_notified
    (notifying : state.reaper = .notifying)
    (notRestart : action ≠ .restart)
    (taken : step? externals state action = some after) :
    after.reaper = .notifying ∨ after.permit = true := by
  cases move_of_step? taken with
  | reaper reaperAction shared task moved =>
      rw [notifying] at moved
      cases moved
      exact Or.inr rfl
  | restart =>
      exact (notRestart rfl).elim
  | worker worker workerAction shared task moved =>
      rw [dropClosed_reaper]
      exact Or.inl notifying
  | tick | scheduler | api | shutdown =>
      exact Or.inl notifying

/-- The scheduler stays where it is until its own step. -/
theorem position_of_step?
    (taken : step? externals state action = some after)
    (notRestart : action ≠ .restart) :
    after.scheduler.position = state.scheduler.position ∨
      ∃ own, action = .scheduler own := by
  by_cases isOwn : ∃ own, action = .scheduler own
  · exact Or.inr isOwn
  · left
    rw [scheduler_of_step? taken (fun own same => isOwn ⟨own, same⟩)
      notRestart]

/-- The scheduler is in the dispatch round that began at `now`. -/
def InRound (state : State config slots) (now : Time) : Prop :=
  state.scheduler.position = .dispatching now ∨
    ∃ job, state.scheduler.position = .sending now job

/-- A round with a due row left in the heap goes on. -/
theorem InRound.step
    {now : Time}
    (round : state.InRound now)
    (withRoom : state.SucceedsWithRoom action)
    (taken : step? externals state action = some after)
    (inHeap : due ∈ state.scheduler.heap)
    (isDue : due.scheduledAt ≤ now) :
    after.InRound now := by
  rcases position_of_step? taken withRoom.notRestart with
    same | ⟨own, rfl⟩
  · unfold InRound
    rw [same]
    exact round
  rcases round with dispatching | ⟨job, sending⟩
  · have moved := schedulerMove_of_step? taken
    unfold InRound
    rw [dispatching] at moved
    generalize after.toShared = shared at moved
    generalize after.scheduler = task at moved ⊢
    cases moved with
    | lease =>
        exact Or.inr ⟨_, rfl⟩
    | leaseMisses =>
        exact Or.inl rfl
    | leaseFails =>
        cases withRoom
    | dispatchDone =>
        obtain ⟨_, schedulerTaken⟩ := schedulerTaken_of_step? taken
        simp only [SchedulerTask.step?, dispatching,
          Option.ite_none_right_eq_some] at schedulerTaken
        exact (not_lt.mpr isDue (schedulerTaken.1 due inHeap)).elim
  · cases own with
    | trySend =>
        obtain ⟨isOpen, room⟩ : state.Accepts := withRoom
        obtain ⟨_, schedulerTaken⟩ := schedulerTaken_of_step? taken
        simp only [SchedulerTask.step?, sending, decide_eq_true_eq,
          if_neg isOpen, if_pos room, Option.some.injEq,
          Prod.mk.injEq] at schedulerTaken
        left
        rw [← schedulerTaken.2]
    | _ =>
        have moved := schedulerMove_of_step? taken
        rw [sending] at moved
        cases moved

/-- Without work the scheduler is in `select!`. -/
theorem waiting_of_no_work
    (idle : state.workOf .scheduler = 0) :
    ∃ wakeAt, state.scheduler.position = .waiting wakeAt := by
  simp only [workOf, SchedulerTask.work] at idle
  split at idle
  · cases idle
  · rename_i wakeAt position
    exact ⟨wakeAt, position⟩
  all_goals omega

/-! ## Along an execution -/

/-- What holds at every moment if all calls succeed with room. -/
structure DispatchInvariant (state : State config slots) : Prop where
  grounded : state.Grounded
  bounded : state.WorkBounded
  tracked : state.Tracked
  sleep : state.SleepBounded

/-- At the start a refresh is coming, and nobody sleeps. -/
theorem dispatchInvariant_of_start
    (grounded : state.Grounded)
    (bounded : state.WorkBounded)
    (starts : state.scheduler = .initial) :
    state.DispatchInvariant where
  grounded := grounded
  bounded := bounded
  tracked := fun _ _ => Or.inr (Or.inr (Or.inl (by rw [starts]; rfl)))
  sleep := by
    intro wakeAt waits
    rw [starts] at waits
    cases waits

theorem dispatchInvariant_booted
    {clock : Time}
    {jobs : JobTable}
    (attempts : ∀ row ∈ jobs.rows, 0 ≤ row.webhookAttempts) :
    (booted config slots clock jobs).DispatchInvariant :=
  dispatchInvariant_of_start (grounded_booted clock jobs)
    (workBounded_booted attempts) rfl

theorem dispatchInvariant_always
    {execution : Execution config slots externals}
    (limited : config.webhookMaxRetries < 2 ^ 31 - 1)
    (initially : (execution.state 0).DispatchInvariant)
    (withRoom :
      ∀ index,
        (execution.state index).SucceedsWithRoom (execution.action index))
    (index : Nat) :
    (execution.state index).DispatchInvariant := by
  induction index with
  | zero =>
      exact initially
  | succ index inductionHypothesis =>
      have taken := execution.taken index
      exact
        { grounded := inductionHypothesis.grounded.step taken
          bounded := inductionHypothesis.bounded.step limited taken
          tracked := inductionHypothesis.tracked.step (withRoom index) taken
          sleep := inductionHypothesis.sleep.step taken }

/-- All calls succeed with room and no party to a dispatch is put off. -/
structure FairDispatch
    (externals : Externals)
    (execution : Execution config slots externals) : Prop where
  limited : config.webhookMaxRetries < 2 ^ 31 - 1
  invariant : ∀ index, (execution.state index).DispatchInvariant
  withRoom :
    ∀ index,
      (execution.state index).SucceedsWithRoom (execution.action index)
  works : ∀ party, execution.Works party
  /-- `select!` does not pass over the permit for ever. -/
  hears :
    execution.StronglyFair fun action => action = .scheduler .notified
  /-- `select!` does not pass over the sleep for ever. -/
  wakes :
    execution.StronglyFair fun action => action = .scheduler .sleepElapsed

namespace FairDispatch

variable {execution : Execution config slots externals}
variable {start : Nat}

theorem reaches
    (fairDispatch : FairDispatch externals execution)
    (party : Party config slots)
    {Awaited Event : Nat → Prop}
    (atWork :
      ∀ {index : Nat},
        Awaited index → 0 < (execution.state index).workOf party)
    (keeps :
      ∀ {index : Nat},
        Awaited index → ¬Event index → Awaited (index + 1))
    (awaited : Awaited start) :
    ∃ later, start ≤ later ∧ Event later :=
  (fairDispatch.works party).reaches fairDispatch.limited
    (fun index => (fairDispatch.invariant index).bounded) atWork
    (fun holds unmet =>
      ⟨keeps holds unmet, (fairDispatch.withRoom _).notRestart⟩)
    awaited

/-- Whoever has made a row due comes to its notification. -/
theorem notifies
    (fairDispatch : FairDispatch externals execution)
    (owes : (execution.state start).OwesDue) :
    ∃ later, start ≤ later ∧ (execution.state later).permit = true := by
  suffices notified :
      ∃ later, start ≤ later ∧
        (execution.state (later + 1)).permit = true by
    obtain ⟨later, after, stored⟩ := notified
    exact ⟨later + 1, after.trans (Nat.le_succ _), stored⟩
  have withRoom := fairDispatch.withRoom
  rcases owes with ⟨worker, owes⟩ | ⟨slot, owes⟩ | notifying
  · refine @reaches _ _ _ _ _ fairDispatch (.worker worker)
      (fun index =>
        ((execution.state index).workers worker).owesNotify = true)
      (fun index => (execution.state (index + 1)).permit = true)
      ?_ ?_ owes
    · intro index owing
      refine WorkerTask.busy_iff_work_pos.mp ?_
      cases task : (execution.state index).workers worker <;>
        simp_all [WorkerTask.owesNotify, WorkerTask.busy]
    · intro index owing unmet
      exact (owes_or_notified_worker owing (withRoom index).succeeds
        (withRoom index).notRestart (execution.taken index)).resolve_right
        unmet
  · refine @reaches _ _ _ _ _ fairDispatch (.request slot)
      (fun index =>
        ((execution.state index).requests slot).owesDue = true)
      (fun index => (execution.state (index + 1)).permit = true)
      ?_ ?_ owes
    · intro index owing
      change 0 < ((execution.state index).requests slot).work
      generalize (execution.state index).requests slot = task at owing
      unfold RequestTask.owesDue at owing
      split at owing <;> first | exact Nat.zero_lt_succ _ | cases owing
    · intro index owing unmet
      exact (owes_or_notified_request owing (withRoom index).succeeds
        (withRoom index).notRestart (execution.taken index)).resolve_right
        unmet
  · refine @reaches _ _ _ _ _ fairDispatch .reaper
      (fun index => (execution.state index).reaper = .notifying)
      (fun index => (execution.state (index + 1)).permit = true)
      ?_ ?_ notifying
    · intro index owing
      simp [workOf, owing, ReaperTask.work]
    · intro index owing unmet
      exact (notifying_or_notified owing (withRoom index).notRestart
        (execution.taken index)).resolve_right unmet

/-- The scheduler comes back to `select!` again and again. -/
theorem waits_again
    (fairDispatch : FairDispatch externals execution)
    (moment : Nat) :
    ∃ later wakeAt, moment ≤ later ∧
      (execution.state later).scheduler.position = .waiting wakeAt := by
  rcases Nat.eq_zero_or_pos
      ((execution.state moment).workOf .scheduler) with idle | working
  · obtain ⟨wakeAt, waiting⟩ := waiting_of_no_work idle
    exact ⟨moment, wakeAt, Nat.le_refl _, waiting⟩
  · obtain ⟨later, after, idle⟩ :=
      @reaches _ _ _ _ _ fairDispatch .scheduler
        (fun index => 0 < (execution.state index).workOf .scheduler)
        (fun index => (execution.state (index + 1)).workOf .scheduler = 0)
        id (fun _ unmet => Nat.pos_of_ne_zero unmet) working
    obtain ⟨wakeAt, waiting⟩ := waiting_of_no_work idle
    exact ⟨later + 1, wakeAt, after.trans (Nat.le_succ _), waiting⟩

/-- A stored permit is taken, and the scheduler refreshes. -/
theorem refreshes
    (fairDispatch : FairDispatch externals execution)
    (stored : (execution.state start).permit = true) :
    ∃ later, start ≤ later ∧
      (execution.state later).scheduler.position = .refreshing := by
  by_contra never
  push Not at never
  have stays :
      ∀ later, start ≤ later →
        (execution.state later).permit = true := by
    intro later after
    induction later, after using Nat.le_induction with
    | base =>
        exact stored
    | succ later after inductionHypothesis =>
        exact (permit_step inductionHypothesis
          (execution.taken later)).resolve_right
            (never (later + 1) (after.trans (Nat.le_succ _)))
  obtain ⟨later, after, isNotified⟩ := fairDispatch.hears (fun moment => by
    obtain ⟨later, wakeAt, after, waiting⟩ :=
      fairDispatch.waits_again (max moment start)
    refine ⟨later, (Nat.le_max_left ..).trans after, ?_⟩
    have permit := stays later ((Nat.le_max_right ..).trans after)
    have possible :
        (step? externals (execution.state later)
          (.scheduler .notified)).isSome = true := by
      simp [step?, SchedulerTask.step?, waiting, permit]
    obtain ⟨next, taken⟩ := Option.isSome_iff_exists.mp possible
    exact ⟨_, next, rfl, trivial, taken⟩) start
  have taken := execution.taken later
  rw [isNotified] at taken
  refine never (later + 1) (after.trans (Nat.le_succ _)) ?_
  have moved := schedulerMove_of_step? taken
  generalize (execution.state later).scheduler.position = position at moved
  generalize (execution.state (later + 1)).toShared = shared at moved
  generalize (execution.state (later + 1)).scheduler = task at moved ⊢
  cases moved
  rfl

/-- The refresh brings the row into the heap. -/
theorem refresh_brings
    (fairDispatch : FairDispatch externals execution)
    (scheduled :
      ∀ later, start ≤ later →
        due ∈ scheduledJobs (execution.state later).jobs)
    {moment : Nat}
    (after : start ≤ moment)
    (refreshing :
      (execution.state moment).scheduler.position = .refreshing) :
    ∃ later, moment ≤ later ∧
      due ∈ (execution.state later).scheduler.heap := by
  suffices brought :
      ∃ later, moment ≤ later ∧
        due ∈ (execution.state (later + 1)).scheduler.heap by
    obtain ⟨later, further, inHeap⟩ := brought
    exact ⟨later + 1, further.trans (Nat.le_succ _), inHeap⟩
  have withRoom := fairDispatch.withRoom
  refine @reaches _ _ _ _ _ fairDispatch .scheduler
    (fun index =>
      start ≤ index ∧
        (execution.state index).scheduler.position = .refreshing)
    (fun index => due ∈ (execution.state (index + 1)).scheduler.heap)
    ?_ ?_ ⟨after, refreshing⟩
  · rintro index ⟨_, position⟩
    simp [workOf, SchedulerTask.work, position]
  · rintro index ⟨further, position⟩ unmet
    have taken := execution.taken index
    refine ⟨further.trans (Nat.le_succ _), ?_⟩
    rcases position_of_step? taken (withRoom index).notRestart with
      same | ⟨own, isOwn⟩
    · exact same.trans position
    · have permitted := withRoom index
      rw [isOwn] at taken permitted
      have moved := schedulerMove_of_step? taken
      rw [position] at moved
      cases own with
      | refresh fetched =>
          exact (unmet (mem_heap_of_refresh permitted taken
            (scheduled (index + 1)
              (further.trans (Nat.le_succ _))))).elim
      | refreshFails =>
          cases permitted
      | _ =>
          cases moved

/-- A row that stays scheduled comes into the heap. -/
theorem comes_into_heap
    (fairDispatch : FairDispatch externals execution)
    (scheduled :
      ∀ later, start ≤ later →
        due ∈ scheduledJobs (execution.state later).jobs) :
    ∃ later, start ≤ later ∧
      due ∈ (execution.state later).scheduler.heap := by
  have afterPermit :
      ∀ {moment}, start ≤ moment →
        (execution.state moment).permit = true →
        ∃ later, start ≤ later ∧
          due ∈ (execution.state later).scheduler.heap := by
    intro moment after stored
    obtain ⟨next, further, refreshing⟩ := fairDispatch.refreshes stored
    obtain ⟨later, last, inHeap⟩ :=
      fairDispatch.refresh_brings scheduled (after.trans further) refreshing
    exact ⟨later, after.trans (further.trans last), inHeap⟩
  rcases (fairDispatch.invariant start).tracked due
      (scheduled start (Nat.le_refl _)) with
    inHeap | stored | refreshing | notifying | owes
  · exact ⟨start, Nat.le_refl _, inHeap⟩
  · exact afterPermit (Nat.le_refl _) stored
  · exact fairDispatch.refresh_brings scheduled (Nat.le_refl _) refreshing
  · obtain ⟨later, after, stored⟩ :=
      @reaches _ _ _ _ _ fairDispatch .scheduler
        (fun index =>
          (execution.state index).scheduler.position = .notifying)
        (fun index => (execution.state (index + 1)).permit = true)
        (by
          intro index position
          simp [workOf, SchedulerTask.work, position])
        (by
          intro index position unmet
          have taken := execution.taken index
          rcases position_of_step? taken
              (fairDispatch.withRoom index).notRestart with
            same | ⟨own, isOwn⟩
          · exact same.trans position
          · rw [isOwn] at taken
            have moved := schedulerMove_of_step? taken
            rw [position] at moved
            generalize (execution.state (index + 1)).scheduler = task
              at moved
            refine (unmet ?_).elim
            generalize (execution.state (index + 1)).toShared = shared
              at moved
            cases moved
            rfl)
        notifying
    exact afterPermit (after.trans (Nat.le_succ _)) stored
  · obtain ⟨later, after, stored⟩ := fairDispatch.notifies owes
    exact afterPermit after stored

/-- A row that stays scheduled stays in the heap. -/
theorem stays_in_heap
    (fairDispatch : FairDispatch externals execution)
    (scheduled :
      ∀ later, start ≤ later →
        due ∈ scheduledJobs (execution.state later).jobs)
    (inHeap : due ∈ (execution.state start).scheduler.heap) :
    ∀ later, start ≤ later →
      due ∈ (execution.state later).scheduler.heap := by
  intro later after
  induction later, after using Nat.le_induction with
  | base =>
      exact inHeap
  | succ later after inductionHypothesis =>
      exact mem_heap_of_step? (fairDispatch.withRoom later)
        (execution.taken later) inductionHypothesis
        (scheduled (later + 1) (after.trans (Nat.le_succ _)))

/-- With a due row in the heap the sleep ends and a dispatch begins. -/
theorem dispatches
    (fairDispatch : FairDispatch externals execution)
    (inHeap :
      ∀ later, start ≤ later →
        due ∈ (execution.state later).scheduler.heap)
    (isDue :
      ∀ later, start ≤ later →
        due.scheduledAt ≤ (execution.state later).clock) :
    ∃ later now, start ≤ later ∧ due.scheduledAt ≤ now ∧
      (execution.state later).scheduler.position = .dispatching now := by
  obtain ⟨later, after, isWake⟩ := fairDispatch.wakes (fun moment => by
    obtain ⟨later, wakeAt, after, waiting⟩ :=
      fairDispatch.waits_again (max moment start)
    refine ⟨later, (Nat.le_max_left ..).trans after, ?_⟩
    have further := (Nat.le_max_right moment start).trans after
    have ends : wakeAt ≤ (execution.state later).clock := by
      refine ((fairDispatch.invariant later).sleep wakeAt waiting due
        (inHeap later further)).trans ?_
      exact max_le le_rfl (isDue later further)
    have possible :
        (step? externals (execution.state later)
          (.scheduler .sleepElapsed)).isSome = true := by
      simp [step?, SchedulerTask.step?, waiting, ends]
    obtain ⟨next, taken⟩ := Option.isSome_iff_exists.mp possible
    exact ⟨_, next, rfl, trivial, taken⟩) start
  have taken := execution.taken later
  rw [isWake] at taken
  refine ⟨later + 1, (execution.state later).clock,
    after.trans (Nat.le_succ _), isDue later after, ?_⟩
  have moved := schedulerMove_of_step? taken
  generalize (execution.state later).scheduler.position = position at moved
  generalize (execution.state (later + 1)).toShared = shared at moved
  generalize (execution.state (later + 1)).scheduler = task at moved ⊢
  cases moved
  rfl

/-- A dispatch round does not end before its due rows are popped. -/
theorem dispatch_pops
    (fairDispatch : FairDispatch externals execution)
    {now : Time}
    (isDue : due.scheduledAt ≤ now)
    (dispatching :
      (execution.state start).scheduler.position = .dispatching now) :
    ∃ later, start ≤ later ∧
      due ∉ (execution.state later).scheduler.heap := by
  by_contra never
  push Not at never
  obtain ⟨_, _, impossible⟩ :=
    @reaches _ _ _ _ _ fairDispatch .scheduler
      (fun index =>
        start ≤ index ∧ (execution.state index).InRound now)
      (fun _ => False)
      (by
        rintro index ⟨_, position | ⟨job, position⟩⟩
        · simp [workOf, SchedulerTask.work, position]
        · simp [workOf, SchedulerTask.work, position])
      (by
        rintro index ⟨after, round⟩ _
        exact ⟨after.trans (Nat.le_succ _),
          round.step (fairDispatch.withRoom index) (execution.taken index)
            (never index after) isDue⟩)
      ⟨Nat.le_refl _, Or.inl dispatching⟩
  exact impossible

/-- As time passes no row stays scheduled. -/
theorem not_always_scheduled
    (fairDispatch : FairDispatch externals execution)
    (timePasses :
      ∀ instant, ∃ index, instant ≤ (execution.state index).clock) :
    ¬∀ later, start ≤ later →
      due ∈ scheduledJobs (execution.state later).jobs := by
  intro staysScheduled
  obtain ⟨first, afterStart, inHeap⟩ :=
    fairDispatch.comes_into_heap staysScheduled
  have staysInHeap :=
    fairDispatch.stays_in_heap
      (fun later after => staysScheduled later (afterStart.trans after))
      inHeap
  obtain ⟨moment, reached⟩ := timePasses due.scheduledAt
  obtain ⟨begins, now, afterBoth, isDue, dispatching⟩ :=
    @dispatches _ _ _ _ _ (max first moment) fairDispatch
      (fun later after =>
        staysInHeap later ((Nat.le_max_left ..).trans after))
      (fun later after =>
        reached.trans
          (execution.clock_mono ((Nat.le_max_right ..).trans after)))
  obtain ⟨pops, afterBegin, popped⟩ :=
    fairDispatch.dispatch_pops isDue dispatching
  exact popped
    (staysInHeap pops
      ((Nat.le_max_left ..).trans (afterBoth.trans afterBegin)))

end FairDispatch

end State

/-! ## A concrete execution -/

namespace Sample

variable {slots : Nat}

/-- Nothing is scheduled or leased, and only the scheduler does not wait. -/
structure Deserted (state : State config slots) : Prop where
  heap : state.scheduler.heap = []
  channel : state.channel = []
  noPermit : state.permit = false
  reaper : state.reaper = .ticking
  noneLeased : ∀ row ∈ state.jobs.rows, row.state ≠ .leased
  workers : ∀ worker, state.workers worker = .idle false
  requests : ∀ slot, (state.requests slot).work = 0

/-- One hour of a daemon without jobs, over and over. -/
def emptyHour (index : Nat) : Action config slots :=
  if index % 4 = 0 then
    .tick 3600000000
  else if index % 4 = 1 then
    .scheduler .sleepElapsed
  else if index % 4 = 2 then
    .scheduler .dispatchDone
  else
    .reaper (.reap .ok)

/-- Where the scheduler stands in the course of such an hour. -/
def InEmptyHour (index : Nat) (state : State config slots) : Prop :=
  Deserted state ∧
    (index % 4 = 0 →
      (index : Int) ≤ state.clock ∧
        ∃ wakeAt,
          state.scheduler.position = .waiting wakeAt ∧
            wakeAt ≤ state.clock + 3600000000) ∧
    (index % 4 = 1 →
      (index : Int) + 3 ≤ state.clock ∧
        ∃ wakeAt,
          state.scheduler.position = .waiting wakeAt ∧
            wakeAt ≤ state.clock) ∧
    (index % 4 = 2 →
      (index : Int) + 2 ≤ state.clock ∧
        state.scheduler.position = .dispatching state.clock) ∧
    (index % 4 = 3 →
      (index : Int) + 1 ≤ state.clock ∧
        ∃ wakeAt,
          state.scheduler.position = .waiting wakeAt ∧
            wakeAt ≤ state.clock + 3600000000)

/-- Nothing can fail in an empty hour. -/
theorem succeedsWithRoom_emptyHour
    (index : Nat)
    (state : State config slots) :
    state.SucceedsWithRoom (emptyHour index) := by
  unfold emptyHour
  split_ifs <;> rfl

theorem InEmptyHour.goesOn
    {index : Nat}
    {before : State config slots}
    (hour : InEmptyHour index before) :
    ∃ after,
      State.step? externals before (emptyHour index) = some after ∧
        InEmptyHour (index + 1) after := by
  obtain ⟨deserted, atStart, atWake, atDispatch, atReap⟩ := hour
  have next : ((index + 1 : Nat) : Int) = index + 1 := rfl
  have phase :
      index % 4 = 0 ∨ index % 4 = 1 ∨ index % 4 = 2 ∨ index % 4 = 3 := by
    omega
  rcases phase with first | second | third | fourth
  · obtain ⟨late, wakeAt, waiting, soon⟩ := atStart first
    rw [emptyHour, if_pos first]
    refine ⟨_, rfl, ⟨deserted.1, deserted.2, deserted.3, deserted.4,
      deserted.5, deserted.6, deserted.7⟩, by omega,
      fun _ => ⟨?_, wakeAt, waiting, soon⟩, by omega, by omega⟩
    change ((index + 1 : Nat) : Int) + 3 ≤ before.clock + 3600000000
    rw [next]
    exact le_trans (by omega) (Int.add_le_add_right late 3600000000)
  · obtain ⟨late, wakeAt, waiting, elapsed⟩ := atWake second
    rw [emptyHour, if_neg (by omega), if_pos second]
    refine ⟨{ before with
      scheduler :=
        { before.scheduler with
          position := .dispatching before.clock } }, ?_, ?_⟩
    · simp [State.step?, SchedulerTask.step?, waiting, elapsed]
    · refine ⟨⟨deserted.1, deserted.2, deserted.3, deserted.4,
        deserted.5, deserted.6, deserted.7⟩, by omega, by omega,
        fun _ => ⟨?_, rfl⟩, by omega⟩
      rw [next]
      exact le_trans (by omega) late
  · obtain ⟨late, dispatching⟩ := atDispatch third
    rw [emptyHour, if_neg (by omega), if_neg (by omega), if_pos third]
    refine ⟨{ before with
      scheduler :=
        SchedulerTask.await before.toShared [] }, ?_, ?_⟩
    · simp [State.step?, SchedulerTask.step?, dispatching, deserted.heap,
        SchedulerTask.NothingDue]
    · refine ⟨⟨rfl, deserted.2, deserted.3, deserted.4, deserted.5,
        deserted.6, deserted.7⟩, by omega, by omega, by omega,
        fun _ => ⟨?_, before.clock + 3600000000, rfl, le_rfl⟩⟩
      rw [next]
      exact le_trans (by omega) late
  · obtain ⟨late, wakeAt, waiting, soon⟩ := atReap fourth
    rw [emptyHour, if_neg (by omega), if_neg (by omega),
      if_neg (by omega)]
    refine ⟨before,
      State.reap_of_noneLeased externals deserted.reaper
        deserted.noneLeased,
      deserted, fun _ => ⟨?_, wakeAt, waiting, soon⟩, by omega, by omega,
      by omega⟩
    rw [next]
    exact late

/-- In an empty hour nobody has work left at the start. -/
theorem Deserted.idles
    {state : State config slots}
    (deserted : Deserted state)
    {wakeAt : Time}
    (waiting : state.scheduler.position = .waiting wakeAt)
    (party : Party config slots) :
    state.workOf party = 0 := by
  cases party with
  | scheduler =>
      simp [State.workOf, SchedulerTask.work, waiting]
  | reaper =>
      simp [State.workOf, deserted.reaper, ReaperTask.work]
  | worker worker =>
      simp [State.workOf, deserted.workers worker, WorkerTask.work]
  | request slot =>
      exact deserted.requests slot

/-- From this moment on one empty hour follows the other. -/
def RunsEmpty
    (execution : State.Execution config slots externals)
    (moment : Nat) : Prop :=
  ∀ index,
    execution.action (moment + index) = emptyHour index ∧
      InEmptyHour index (execution.state (moment + index))

namespace RunsEmpty

variable {execution : State.Execution config slots externals}
variable {moment : Nat}

/-- An hour begins after every moment. -/
theorem hour_begins
    (empty : RunsEmpty execution moment)
    (start : Nat) :
    ∃ later, start ≤ later ∧ Deserted (execution.state later) ∧
      (start : Int) ≤ (execution.state later).clock ∧
        ∃ wakeAt,
          (execution.state later).scheduler.position =
            .waiting wakeAt := by
  obtain ⟨deserted, atStart, _⟩ := (empty (4 * start)).2
  obtain ⟨late, wakeAt, waiting, _⟩ := atStart (Nat.mul_mod_right 4 start)
  exact ⟨moment + 4 * start, by omega, deserted,
    le_trans (by omega) late, wakeAt, waiting⟩

theorem works
    (empty : RunsEmpty execution moment)
    (bounded : ∀ index, (execution.state index).WorkBounded)
    (party : Party config slots) :
    State.Execution.Works execution party := by
  refine execution.weaklyFair_of_disabled fun start => ?_
  obtain ⟨later, after, deserted, _, wakeAt, waiting⟩ :=
    empty.hour_begins start
  refine ⟨later, after, ?_⟩
  rintro ⟨action, next, toils, _, taken⟩
  have left :=
    State.workOf_pos_of_toils (by decide) (bounded later) taken toils
  exact left.ne' (deserted.idles waiting party)

theorem hears (empty : RunsEmpty execution moment) :
    execution.StronglyFair fun action =>
      action = .scheduler .notified := by
  refine execution.stronglyFair_of_disabled moment ?_
  rintro later after ⟨action, next, rfl, _, taken⟩
  obtain ⟨index, rfl⟩ := Nat.exists_eq_add_of_le after
  have noPermit := (empty index).2.1.noPermit
  have moved := State.schedulerMove_of_step? taken
  generalize (execution.state (moment + index)).scheduler.position =
    position at moved
  generalize next.toShared = shared at moved
  generalize next.scheduler = task at moved
  cases moved with
  | notified wakeAt stored =>
      exact Bool.false_ne_true (noPermit.symm.trans stored)

theorem wakes (empty : RunsEmpty execution moment) :
    execution.StronglyFair fun action =>
      action = .scheduler .sleepElapsed := by
  refine fun _ start => ⟨moment + (4 * start + 1), by omega, ?_⟩
  rw [(empty (4 * start + 1)).1, emptyHour, if_neg (by omega),
    if_pos (by omega)]

theorem reaps
    (empty : RunsEmpty execution moment)
    (start : Nat) :
    ∃ later, start ≤ later ∧
      execution.action later = .reaper (.reap .ok) := by
  refine ⟨moment + (4 * start + 3), by omega, ?_⟩
  rw [(empty (4 * start + 3)).1, emptyHour, if_neg (by omega),
    if_neg (by omega), if_neg (by omega)]

theorem timePasses
    (empty : RunsEmpty execution moment)
    (instant : Time) :
    ∃ index, instant ≤ (execution.state index).clock := by
  obtain ⟨later, _, _, late, _⟩ := empty.hour_begins instant.toNat
  exact ⟨later, (Int.self_le_toNat instant).trans late⟩

end RunsEmpty

/-- An empty hour begins with this state. -/
def AtRest (state : State config slots) : Prop :=
  (match state.scheduler.position with
    | .waiting wakeAt =>
        0 ≤ state.clock ∧ wakeAt ≤ state.clock + 3600000000
    | _ => False) ∧
    state.scheduler.heap = [] ∧
    state.channel = [] ∧
    state.permit = false ∧
    state.reaper = .ticking ∧
    (∀ row ∈ state.jobs.rows, row.state ≠ .leased) ∧
    (∀ worker, state.workers worker = .idle false) ∧
    ∀ slot, (state.requests slot).work = 0

instance : DecidablePred (@AtRest slots) := by
  intro state
  unfold AtRest
  refine @instDecidableAnd _ _ ?_ inferInstance
  split <;> infer_instance

theorem AtRest.inEmptyHour
    {state : State config slots}
    (atRest : AtRest state) :
    InEmptyHour 0 state := by
  obtain ⟨sleeps, heap, channel, noPermit, reaper, noneLeased, workers,
    requests⟩ := atRest
  split at sleeps
  · rename_i wakeAt waiting
    exact ⟨⟨heap, channel, noPermit, reaper, noneLeased, workers,
        requests⟩,
      fun _ => ⟨sleeps.1, wakeAt, waiting, sleeps.2⟩, by omega,
      by omega, by omega⟩
  · exact sleeps.elim

/-- A run that comes to rest goes on as an execution in which it stays so. -/
theorem exists_quiet_execution
    {allowed : State config slots → Action config slots → Prop}
    (quiet :
      ∀ {index : Nat} {state : State config slots},
        InEmptyHour index state → allowed state (emptyHour index))
    {leading trailing : List (Action config slots)}
    {start middle final : State config slots}
    (toMiddle :
      TransitionSystem.Run (State.step? externals) allowed start leading
        middle)
    (toFinal :
      TransitionSystem.Run (State.step? externals) allowed middle trailing
        final)
    (atRest : AtRest final) :
    ∃ execution :
        TransitionSystem.Execution (State.step? externals) allowed,
      execution.state 0 = start ∧
        execution.state leading.length = middle ∧
        execution.state (leading.length + trailing.length) = final ∧
        RunsEmpty (execution.weaken fun _ _ _ => trivial)
          (leading.length + trailing.length) := by
  obtain ⟨hours, startsHours, inHours⟩ :=
    TransitionSystem.Execution.exists_of_stream emptyHour
      (fun hour => ⟨quiet hour, hour.goesOn⟩) atRest.inEmptyHour
  obtain ⟨working, startsWorking, toHours⟩ :=
    hours.exists_of_run toFinal startsHours
  obtain ⟨execution, starts, toWorking⟩ :=
    working.exists_of_run toMiddle startsWorking
  have fromHours (index : Nat) :
      execution.state (leading.length + trailing.length + index) =
          hours.state index ∧
        execution.action (leading.length + trailing.length + index) =
          hours.action index := by
    rw [Nat.add_assoc]
    exact ⟨(toWorking _).1.trans (toHours index).1,
      (toWorking _).2.trans (toHours index).2⟩
  refine ⟨execution, starts, (toWorking 0).1.trans startsWorking,
    (fromHours 0).1.trans startsHours, fun index => ?_⟩
  refine ⟨(fromHours index).2.trans (inHours index).1, ?_⟩
  change InEmptyHour index
    (execution.state (leading.length + trailing.length + index))
  rw [(fromHours index).1]
  exact (inHours index).2

/-- The same through a known step, under a stronger restriction behind it. -/
theorem exists_quiet_execution_through
    {before after : State config slots → Action config slots → Prop}
    (weakens : ∀ state action, after state action → before state action)
    (quiet :
      ∀ {index : Nat} {state : State config slots},
        InEmptyHour index state → after state (emptyHour index))
    {leading trailing : List (Action config slots)}
    {action : Action config slots}
    {start middle next final : State config slots}
    (toMiddle :
      TransitionSystem.Run (State.step? externals) before start leading
        middle)
    (permitted : before middle action)
    (taken : State.step? externals middle action = some next)
    (toFinal :
      TransitionSystem.Run (State.step? externals) after next trailing
        final)
    (atRest : AtRest final) :
    ∃ execution :
        TransitionSystem.Execution (State.step? externals) before,
      execution.state 0 = start ∧
        execution.state leading.length = middle ∧
        execution.action leading.length = action ∧
        execution.state (leading.length + 1) = next ∧
        execution.state (leading.length + 1 + trailing.length) = final ∧
        (∀ index, leading.length + 1 ≤ index →
          after (execution.state index) (execution.action index)) ∧
        RunsEmpty (execution.weaken fun _ _ _ => trivial)
          (leading.length + 1 + trailing.length) := by
  obtain ⟨behind, startsBehind, ends, _, empty⟩ :=
    exists_quiet_execution quiet toFinal (.nil final) atRest
  obtain ⟨execution, starts, toStep⟩ :=
    ((behind.weaken weakens).prepend middle action permitted
      (startsBehind ▸ taken)).exists_of_run toMiddle rfl
  have fromStep (index : Nat) :
      execution.state (leading.length + 1 + index) = behind.state index ∧
        execution.action (leading.length + 1 + index) =
          behind.action index := by
    rw [Nat.add_assoc, Nat.add_comm 1 index]
    exact toStep (index + 1)
  refine ⟨execution, starts, (toStep 0).1, (toStep 0).2,
    (fromStep 0).1.trans startsBehind,
    (fromStep trailing.length).1.trans ends, ?_, ?_⟩
  · intro index further
    obtain ⟨count, rfl⟩ := Nat.exists_eq_add_of_le further
    rw [(fromStep count).1, (fromStep count).2]
    exact behind.permitted count
  · intro index
    have later := fromStep (trailing.length + index)
    rw [← Nat.add_assoc] at later
    change
      execution.action (leading.length + 1 + trailing.length + index) =
          emptyHour index ∧
        InEmptyHour index
          (execution.state
            (leading.length + 1 + trailing.length + index))
    rw [later.1, later.2]
    exact empty index

/-- What is left to do for job 1 once it is in the table. -/
def finishAndSleep : List (Action config 1) :=
  createAndSend.drop 3 ++ begin 0 ++ finishJob ++
    [.scheduler .notified, .scheduler (.refresh [])]

end Sample

end Kronkeeper
