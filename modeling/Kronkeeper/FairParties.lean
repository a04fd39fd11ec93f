import Kronkeeper.BoundedWork
import Kronkeeper.ExpiryDeadline
import Kronkeeper.FairExecution

namespace Kronkeeper

/-!
# Parties that are not put off

The runtime polls every task that is ready.  Here this is fairness towards the
parties of the daemon: whoever has begun goes on, and since the work between
two waits is bounded, it comes to its next wait or to what is awaited of it.
-/

/-- A worker has something to do as long as steps are left to it. -/
theorem WorkerTask.busy_iff_work_pos
    {config : Config}
    {task : WorkerTask} :
    task.busy = true ↔ 0 < task.work config := by
  cases task with
  | emitting job call =>
      cases call <;> simp [busy, work, emitWork]
  | _ =>
      simp [busy, work, emitWork]

namespace State

variable {config : Config} {slots : Nat}

/-- Infinite executions of the daemon. -/
abbrev Execution
    (config : Config)
    (slots : Nat)
    (externals : Externals) :=
  TransitionSystem.Execution (@step? config slots externals)
    TransitionSystem.Unrestricted

/-- A party that has work under way goes on with it. -/
abbrev Execution.Works
    {externals : Externals}
    (execution : Execution config slots externals)
    (party : Party config slots) : Prop :=
  execution.WeaklyFair fun action => action.toilsFor party = true

/-- A party that can do something does something, be it the end of a wait. -/
abbrev Execution.Serves
    {externals : Externals}
    (execution : Execution config slots externals)
    (party : Party config slots) : Prop :=
  execution.WeaklyFair fun action => action.party? = some party

/-- A party can make a step of its own. -/
abbrev CanMove
    (externals : Externals)
    (state : State config slots)
    (party : Party config slots) : Prop :=
  TransitionSystem.Enabled (step? externals) TransitionSystem.Unrestricted
    (fun action => action.party? = some party) state

/-- A party can go on with its work. -/
abbrev CanWork
    (externals : Externals)
    (state : State config slots)
    (party : Party config slots) : Prop :=
  TransitionSystem.Enabled (step? externals) TransitionSystem.Unrestricted
    (fun action => action.toilsFor party = true) state

variable {externals : Externals}
variable {state after : State config slots}
variable {action : Action config slots}
variable {party : Party config slots}

/-! ## Work under way -/

theorem own_of_toilsFor
    (toils : action.toilsFor party = true) :
    action.toils = true ∧ action.party? = some party := by
  simpa [Action.toilsFor] using toils

theorem wakes_cases
    (wakes : action.wakes party = true) :
    (action.toils = false ∧ action.party? = some party) ∨
      action = .restart := by
  simpa [Action.wakes] using wakes

theorem canWork_of_isSome
    (toils : action.toilsFor party = true)
    (possible : (step? externals state action).isSome = true) :
    state.CanWork externals party := by
  obtain ⟨after, taken⟩ := Option.isSome_iff_exists.mp possible
  exact ⟨action, after, toils, trivial, taken⟩

/-- Whoever has work left can go on with it, whatever the others do. -/
theorem canWork_of_work
    (externals : Externals)
    (left : 0 < state.workOf party) :
    state.CanWork externals party := by
  cases party with
  | scheduler =>
      have busy : state.scheduler.busy = true := by
        simp only [workOf, SchedulerTask.work] at left
        unfold SchedulerTask.busy
        split at left <;> simp_all
      obtain ⟨own, result, toils, taken⟩ :=
        SchedulerTask.exists_step_of_busy config
          (decide state.ChannelClosed) state.toShared busy
      have isOwn :
          (Action.scheduler own : Action config slots).toilsFor
            .scheduler = true := by
        simpa [Action.toilsFor, Action.toils, Action.party?] using toils
      exact canWork_of_isSome isOwn (by simp [step?, taken])
  | reaper =>
      have notifying : state.reaper = .notifying := by
        cases reaper : state.reaper with
        | ticking =>
            simp [workOf, reaper, ReaperTask.work] at left
        | notifying =>
            rfl
      have isOwn :
          (Action.reaper .notifyOne : Action config slots).toilsFor
            .reaper = true := by
        simp [Action.toilsFor, Action.toils, ReaperAction.toils,
          Action.party?]
      exact canWork_of_isSome isOwn
        (by simp [step?, notifying, ReaperTask.step?])
  | worker worker =>
      have busy := WorkerTask.busy_iff_work_pos.mpr left
      obtain ⟨own, result, toils, taken⟩ :=
        WorkerTask.exists_step_of_busy config externals state.toShared
          busy
      have isOwn :
          (Action.worker worker own : Action config slots).toilsFor
            (.worker worker) = true := by
        simpa [Action.toilsFor, Action.toils, Action.party?] using toils
      exact canWork_of_isSome isOwn (by simp [step?, taken])
  | request slot =>
      have isOpen : (state.requests slot).inProgress = true := by
        cases task : state.requests slot <;>
          simp_all [workOf, RequestTask.work, RequestTask.inProgress]
      obtain ⟨own, result, toils, taken⟩ :=
        RequestTask.exists_step_of_inProgress externals state.toShared
          isOpen
      have isOwn :
          (Action.api slot own : Action config slots).toilsFor
            (.request slot) = true := by
        simpa [Action.toilsFor, Action.toils, Action.party?] using toils
      exact canWork_of_isSome isOwn (by simp [step?, taken])

/-- Only a party without work waits. -/
theorem not_wakes_of_work
    (bounded : state.WorkBounded)
    (taken : step? externals state action = some after)
    (notRestart : action ≠ .restart)
    (left : 0 < state.workOf party) :
    action.wakes party = false := by
  cases wakes : action.wakes party with
  | false =>
      rfl
  | true =>
      rcases wakes_cases wakes with ⟨idles, isOwn⟩ | isRestart
      · have waits : state.workOf party = 0 := by
          cases action with
          | tick | shutdown | restart =>
              cases isOwn
          | scheduler own =>
              cases isOwn
              obtain ⟨_, schedulerTaken⟩ := schedulerTaken_of_step? taken
              have paid :=
                (SchedulerTask.work_of_step? bounded.scheduler
                  schedulerTaken).2
              simp only [Action.toils] at idles
              simpa [idles, workOf] using paid
          | reaper own =>
              cases isOwn
              obtain ⟨⟨shared, task⟩, reaperTaken, _⟩ :=
                Option.map_eq_some_iff.mp taken
              have paid := ReaperTask.work_of_step? reaperTaken
              simp only [Action.toils] at idles
              simpa [idles, workOf] using paid
          | worker worker own =>
              cases isOwn
              obtain ⟨_, workerTaken⟩ := workerTaken_of_step? taken
              exact (WorkerTask.work_of_step? idles workerTaken).1
          | api slot own =>
              cases isOwn
              obtain ⟨⟨shared, task⟩, requestTaken, _⟩ :=
                Option.map_eq_some_iff.mp taken
              have paid := RequestTask.work_of_step? requestTaken
              simp only [Action.toils] at idles
              simpa [idles, workOf] using paid
        omega
      · exact (notRestart isRestart).elim

/-- While a party does not wait, its steps and only they use up its work. -/
theorem workOf_falls
    (limited : config.webhookMaxRetries < 2 ^ 31 - 1)
    (bounded : state.WorkBounded)
    (taken : step? externals state action = some after)
    (works : action.wakes party = false) :
    after.workOf party ≤ state.workOf party ∧
      (action.party? = some party →
        after.workOf party < state.workOf party) := by
  have paid := workOf_of_step? limited bounded taken party
  rw [works, Bool.toNat_false, Nat.mul_zero, Nat.add_zero] at paid
  refine ⟨(Nat.le_add_left _ _).trans paid, fun isOwn => ?_⟩
  have toils : action.toils = true := by
    cases toils : action.toils with
    | true =>
        rfl
    | false =>
        rw [Action.wakes_of_own isOwn toils] at works
        cases works
  rw [Action.toilsFor_of_own isOwn, toils, Bool.toNat_true] at paid
  omega

/-- Only who has work left goes on with it. -/
theorem workOf_pos_of_toils
    (limited : config.webhookMaxRetries < 2 ^ 31 - 1)
    (bounded : state.WorkBounded)
    (taken : step? externals state action = some after)
    (toilsFor : action.toilsFor party = true) :
    0 < state.workOf party := by
  obtain ⟨toils, isOwn⟩ := own_of_toilsFor toilsFor
  have works := (action.exists_party_of_toils toils).2 party
  exact (Nat.zero_le _).trans_lt
    ((workOf_falls limited bounded taken works).2 isOwn)

/-! ## Along an execution -/

variable {execution : Execution config slots externals}

/-- The clock of an execution never goes back. -/
theorem Execution.clock_mono
    (execution : Execution config slots externals)
    {earlier later : Nat}
    (after : earlier ≤ later) :
    (execution.state earlier).clock ≤ (execution.state later).clock := by
  induction later, after using Nat.le_induction with
  | base =>
      exact Int.le_refl _
  | succ later after inductionHypothesis =>
      exact Int.le_trans inductionHypothesis
        (clock_le_of_step? (execution.taken later))

/-- To serve a party is to let it work. -/
theorem Execution.Serves.works
    (limited : config.webhookMaxRetries < 2 ^ 31 - 1)
    (bounded : ∀ index, (execution.state index).WorkBounded)
    (served : execution.Serves party) :
    execution.Works party := by
  intro start canWork
  have canMove :
      ∀ later, start ≤ later →
        (execution.state later).CanMove externals party := by
    intro later after
    obtain ⟨action, next, toils, _, taken⟩ := canWork later after
    exact ⟨action, next, (own_of_toilsFor toils).2, trivial, taken⟩
  obtain ⟨later, after, isOwn⟩ := served start canMove
  obtain ⟨action, next, toils, _, taken⟩ := canWork later after
  have left : 0 < (execution.state later).workOf party :=
    workOf_pos_of_toils limited (bounded later) taken toils
  have notRestart : execution.action later ≠ .restart := by
    intro isRestart
    rw [isRestart] at isOwn
    cases isOwn
  have works :=
    not_wakes_of_work (bounded later) (execution.taken later) notRestart
      left
  refine ⟨later, after, ?_⟩
  simpa [Action.wakes, Action.toilsFor, isOwn, notRestart] using works

/--
A party at work comes to what is awaited of it, if only that or a restart could
end its work.
-/
theorem Execution.Works.reaches
    (limited : config.webhookMaxRetries < 2 ^ 31 - 1)
    (bounded : ∀ index, (execution.state index).WorkBounded)
    (works : execution.Works party)
    {Awaited Event : Nat → Prop}
    (atWork :
      ∀ {index : Nat},
        Awaited index → 0 < (execution.state index).workOf party)
    (keeps :
      ∀ {index : Nat},
        Awaited index →
        ¬Event index →
        Awaited (index + 1) ∧ execution.action index ≠ .restart)
    {start : Nat}
    (awaited : Awaited start) :
    ∃ later, start ≤ later ∧ Event later := by
  have responds :=
    @TransitionSystem.Execution.response _ _ _ _ execution _ works Awaited
      Event (fun state => state.workOf party)
  refine responds ?_ (fun holds => canWork_of_work externals (atWork holds))
    awaited
  intro index holds unmet
  obtain ⟨still, notRestart⟩ := keeps holds unmet
  have falls :=
    workOf_falls limited (bounded index) (execution.taken index)
      (not_wakes_of_work (bounded index) (execution.taken index)
        notRestart (atWork holds))
  exact ⟨still, falls.1,
    fun toils => falls.2 (own_of_toilsFor toils).2⟩

end State

end Kronkeeper
