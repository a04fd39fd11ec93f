import Kronkeeper.CopyPlaces
import Kronkeeper.FairParties
import Kronkeeper.HandoffLedger

namespace Kronkeeper

/-!
# No copy is kept for ever

A copy of a row in the scheduler's hand, in the channel or with a worker is one
the process still has to do something about.  Every task that is not put off
for ever gets there: its work is bounded, and the channel is served in order by
whoever is still receiving.
-/

namespace State

variable {config : Config} {slots : Nat}

/-- The copy is handed back, dropped, or let go of by its worker. -/
def Releases
    (externals : Externals)
    (state : State config slots)
    (job : Job)
    (action : Action config slots) : Prop :=
  (∃ parting, parting ≠ .sent ∧ (job, parting) ∈ state.parted action) ∨
    (job, .discarded) ∈ state.departed externals action ∨
    ∃ worker fate, (job, fate) ∈ state.fates worker action

variable {externals : Externals}
variable {state after : State config slots}
variable {action : Action config slots}

/-- What a queue of at most one holds in front, it holds. -/
private theorem held_of_toList
    {held : Option Job}
    {job : Job}
    {entering : List Job}
    (law : (some job).toList ++ entering = [] ++ held.toList) :
    held = some job := by
  cases held with
  | none =>
      cases law
  | some copy =>
      obtain ⟨rfl, _⟩ := List.cons.inj law
      rfl

/-! ## A copy with a worker -/

/-- A worker has its copy until it lets go of it. -/
theorem fates_or_unsettled
    (taken : step? externals state action = some after)
    {worker : Fin config.workerCount}
    {job : Job}
    (held : (state.workers worker).unsettled? = some job) :
    (∃ fate, (job, fate) ∈ state.fates worker action) ∨
      (after.workers worker).unsettled? = some job ∧
        action ≠ .restart := by
  have law := worker_of_step? taken worker
  rw [held] at law
  cases met : state.fates worker action with
  | cons entry rest =>
      obtain ⟨copy, fate⟩ := entry
      rw [met] at law
      obtain ⟨rfl, _⟩ := List.cons.inj law
      exact Or.inl ⟨fate, List.mem_cons_self ..⟩
  | nil =>
      rw [met] at law
      refine Or.inr ⟨held_of_toList law, ?_⟩
      rintro rfl
      simp [fates, held] at met

/-! ## A copy in the channel -/

/-- A copy leaves the channel or moves up in it. -/
theorem departs_or_queued
    (taken : step? externals state action = some after)
    {job : Job}
    (queued : job ∈ state.channel) :
    (∃ departure, (job, departure) ∈ state.departed externals action) ∨
      job ∈ after.channel ∧
        state.channel.idxOf job =
          after.channel.idxOf job +
            (state.departed externals action).length := by
  by_cases departs :
      job ∈ (state.departed externals action).map Prod.fst
  · obtain ⟨⟨copy, departure⟩, member, rfl⟩ := List.mem_map.mp departs
    exact Or.inl ⟨departure, member⟩
  · right
    have law := channel_of_step? taken
    have stays : job ∈ after.channel := by
      have member : job ∈ state.channel ++ state.sent action :=
        List.mem_append_left _ queued
      rw [law, List.mem_append] at member
      exact member.resolve_left departs
    refine ⟨stays, ?_⟩
    have index := congrArg (List.idxOf job) law
    rw [List.idxOf_append, if_pos queued, List.idxOf_append,
      if_neg departs, List.length_map] at index
    exact index

/-- A restart takes everything out of the channel. -/
theorem departs_of_restart
    {job : Job}
    (queued : job ∈ state.channel) :
    (job, .discarded) ∈ state.departed externals .restart :=
  List.mem_map.mpr ⟨job, queued, rfl⟩

/-- A copy is received by the `recv` of a worker. -/
theorem recv_of_received
    {worker : Fin config.workerCount}
    {job : Job}
    (received :
      (job, .received worker) ∈ state.departed externals action) :
    action = .worker worker .recv := by
  unfold departed at received
  split at received
  · obtain ⟨_, _, same⟩ := List.mem_map.mp received
    cases same
    rfl
  · split at received
    · cases received
    · split at received
      · obtain ⟨_, _, same⟩ := List.mem_map.mp received
        cases same
      · cases received
  · obtain ⟨_, _, same⟩ := List.mem_map.mp received
    cases same
  · cases received

/-- What `recv` takes, the worker has. -/
theorem unsettled_of_received
    (taken : step? externals state action = some after)
    {worker : Fin config.workerCount}
    {job : Job}
    (received :
      (job, .received worker) ∈ state.departed externals action) :
    (after.workers worker).unsettled? = some job := by
  have law := worker_of_step? taken worker
  have byWorker :
      job ∈ receivedBy worker (state.departed externals action) :=
    List.mem_map.mpr
      ⟨(job, .received worker),
        List.mem_filter.mpr ⟨received, by simp [Departure.receiver?]⟩, rfl⟩
  have noFate : state.fates worker action = [] := by
    rw [recv_of_received received]
    simp only [fates, if_true]
    cases state.workers worker <;> rfl
  rw [noFate] at law
  have member := List.mem_append_right
    (state.workers worker).unsettled?.toList byWorker
  rw [law] at member
  simpa using member

/-- The receiver is dropped together with what is in it. -/
def ClosedEmpty (state : State config slots) : Prop :=
  state.ChannelClosed → state.channel = []

/-- A worker stays as it ended, unless it is started anew. -/
theorem ended_of_step?
    (taken : step? externals state action = some after)
    (notRestart : action ≠ .restart)
    {worker : Fin config.workerCount}
    (ended : (state.workers worker).ended = true) :
    (after.workers worker).ended = true := by
  cases workerStep_of_step? taken worker with
  | kept same =>
      rw [same]
      exact ended
  | idle notified isIdle wasIdle =>
      rcases wasIdle with isRestart | ⟨before, wasIdle⟩
      · exact (notRestart isRestart).elim
      · rw [wasIdle] at ended
        cases ended
  | moved workerAction shared isWorker moved =>
      generalize state.workers worker = task at moved ended
      generalize after.workers worker = next at moved
      cases moved <;> cases ended

theorem ClosedEmpty.step
    (empties : state.ClosedEmpty)
    (taken : step? externals state action = some after) :
    after.ClosedEmpty := by
  intro closed
  -- Only a worker's step ends a worker, and it drops the channel.
  have wasClosed :
      (∃ worker own, action = .worker worker own) ∨
        action = .restart ∨ state.ChannelClosed := by
    cases move_of_step? taken with
    | worker worker own =>
        exact Or.inl ⟨worker, own, rfl⟩
    | restart =>
        exact Or.inr (Or.inl rfl)
    | shutdown =>
        refine Or.inr (Or.inr fun worker => ?_)
        have ended := closed worker
        cases task : state.workers worker <;>
          simp_all [WorkerTask.notifyWaiter, WorkerTask.ended]
    | _ =>
        exact Or.inr (Or.inr closed)
  rcases wasClosed with ⟨worker, own, rfl⟩ | rfl | wasClosed
  · cases move_of_step? taken with
    | worker _ _ shared task moved =>
        rw [dropClosed_channel_eq, if_pos closed]
  · cases taken
    rfl
  · have law := channel_of_step? taken
    have nothingSent : state.sent action = [] := by
      unfold sent parted
      split
      · rw [if_pos wasClosed]
        rfl
      · split <;> rfl
      · simp
      · rfl
    rw [empties wasClosed, nothingSent] at law
    exact (List.append_eq_nil_iff.mp law.symm).2

/-- A worker that still receives can take from a channel with jobs in it. -/
theorem worker_canMove_of_queued
    {worker : Fin config.workerCount}
    {job : Job}
    (alive : (state.workers worker).ended = false)
    (queued : job ∈ state.channel) :
    state.CanMove externals (.worker worker) := by
  cases task : state.workers worker with
  | idle notified =>
      cases channel : state.channel with
      | nil =>
          rw [channel] at queued
          cases queued
      | cons oldest rest =>
          have possible :
              (step? externals state (.worker worker .recv)).isSome =
                true := by
            simp [step?, task, WorkerTask.step?, channel]
          obtain ⟨after, taken⟩ := Option.isSome_iff_exists.mp possible
          exact ⟨_, after, rfl, trivial, taken⟩
  | stopped | panicked =>
      rw [task] at alive
      cases alive
  | _ =>
      have left : 0 < state.workOf (.worker worker) := by
        refine WorkerTask.busy_iff_work_pos.mp ?_
        rw [task]
        rfl
      obtain ⟨action, after, toils, _, taken⟩ :=
        canWork_of_work externals left
      exact ⟨action, after, (own_of_toilsFor toils).2, trivial, taken⟩

/-- What is left until a worker has taken the copy, if nobody else does. -/
def takingWork
    (worker : Fin config.workerCount)
    (job : Job)
    (state : State config slots) : Nat :=
  state.channel.idxOf job *
      ((Party.worker worker : Party config slots).limit + 1) +
    state.workOf (.worker worker)

/-- A worker that stays gets nearer to every copy in the channel. -/
theorem takingWork_falls
    (limited : config.webhookMaxRetries < 2 ^ 31 - 1)
    (bounded : state.WorkBounded)
    (taken : step? externals state action = some after)
    {worker : Fin config.workerCount}
    {job : Job}
    (queued : job ∈ state.channel)
    (stays :
      ∀ departure, (job, departure) ∉ state.departed externals action)
    (alive : (after.workers worker).ended = false) :
    job ∈ after.channel ∧
      after.takingWork worker job ≤ state.takingWork worker job ∧
      (action.party? = some (.worker worker) →
        after.takingWork worker job < state.takingWork worker job) := by
  rcases departs_or_queued taken queued with
    ⟨departure, departs⟩ | ⟨stillQueued, index⟩
  · exact (stays departure departs).elim
  refine ⟨stillQueued, ?_⟩
  have notRestart : action ≠ .restart := by
    rintro rfl
    exact stays _ (departs_of_restart queued)
  unfold takingWork
  generalize isLimit :
    (Party.worker worker : Party config slots).limit = limit
  by_cases isRecv : action = .worker worker .recv
  · -- The oldest copy leaves, which pays for the work it brings.
    subst isRecv
    have leaves :
        (state.departed externals (.worker worker .recv)).length = 1 := by
      cases channel : state.channel with
      | nil =>
          rw [channel] at queued
          cases queued
      | cons oldest rest =>
          simp [departed, channel]
    have within := workOf_le (bounded.step limited taken) (.worker worker)
    rw [isLimit] at within
    rw [index, leaves, Nat.add_mul, Nat.one_mul]
    omega
  · have works : action.wakes (.worker worker) = false := by
      cases wakes : action.wakes (.worker worker) with
      | false =>
          rfl
      | true =>
          rcases wakes_cases wakes with ⟨idles, isOwn⟩ | isRestart
          · cases action with
            | worker mover own =>
                cases isOwn
                obtain ⟨_, workerTaken⟩ := workerTaken_of_step? taken
                have moved := WorkerTask.move_of_step? workerTaken
                generalize state.workers worker = task at moved
                generalize after.workers worker = next at alive moved
                cases moved with
                | receive =>
                    exact (isRecv rfl).elim
                | stop =>
                    cases alive
                | _ =>
                    cases idles
            | _ =>
                cases isOwn
          · exact (notRestart isRestart).elim
    have falls := workOf_falls limited bounded taken works
    have moves : after.channel.idxOf job * (limit + 1) ≤
        state.channel.idxOf job * (limit + 1) :=
      Nat.mul_le_mul_right _ (index ▸ Nat.le_add_right _ _)
    exact ⟨Nat.add_le_add moves falls.1,
      fun isOwn => Nat.add_lt_add_of_le_of_lt moves (falls.2 isOwn)⟩

/-! ## A copy in the scheduler's hand -/

/-- The scheduler has its copy until it parts with it. -/
theorem parted_or_inHand
    (taken : step? externals state action = some after)
    {job : Job}
    (held : state.scheduler.position.hand? = some job) :
    (∃ parting, (job, parting) ∈ state.parted action) ∨
      after.scheduler.position.hand? = some job ∧
        action ≠ .restart := by
  have law := hand_of_step? taken
  rw [held] at law
  cases parts : state.parted action with
  | cons entry rest =>
      obtain ⟨copy, parting⟩ := entry
      rw [parts] at law
      obtain ⟨rfl, _⟩ := List.cons.inj law
      exact Or.inl ⟨parting, List.mem_cons_self ..⟩
  | nil =>
      rw [parts] at law
      refine Or.inr ⟨held_of_toList law, ?_⟩
      rintro rfl
      cases position : state.scheduler.position <;>
        simp_all [parted, SchedulerPosition.hand?]

/-- A copy that is sent arrives in the channel. -/
theorem queued_of_sent
    (taken : step? externals state action = some after)
    {job : Job}
    (parts : (job, .sent) ∈ state.parted action) :
    job ∈ after.channel := by
  have member : job ∈ state.sent action :=
    List.mem_map.mpr
      ⟨(job, .sent), List.mem_filter.mpr ⟨parts, rfl⟩, rfl⟩
  have isSend : action = .scheduler .trySend := by
    by_contra notSend
    rw [sent_eq_nil notSend] at member
    cases member
  subst isSend
  have law := channel_of_step? taken
  have arrives := List.mem_append_right state.channel member
  rw [law] at arrives
  exact arrives

/-! ## Along an execution -/

variable (execution : Execution config slots externals)
variable {start : Nat}
variable {job : Job}

/-- What holds at every moment of an execution. -/
structure Sound (state : State config slots) : Prop where
  bounded : state.WorkBounded
  empties : state.ClosedEmpty

theorem sound_of_initial
    (limited : config.webhookMaxRetries < 2 ^ 31 - 1)
    {clock : Time}
    (starts : execution.state 0 = initial config slots clock)
    (index : Nat) :
    (execution.state index).Sound := by
  have initially : (execution.state 0).Sound := by
    rw [starts]
    exact ⟨workBounded_booted (fun _ member => by cases member),
      fun _ => rfl⟩
  exact execution.always
    (fun sound _ taken =>
      ⟨sound.bounded.step limited taken, sound.empties.step taken⟩)
    initially (Nat.zero_le index)

/-- A worker lets go of every copy it has received. -/
theorem worker_lets_go
    (limited : config.webhookMaxRetries < 2 ^ 31 - 1)
    (sound : ∀ index, (execution.state index).Sound)
    {worker : Fin config.workerCount}
    (works : execution.Works (.worker worker))
    (held :
      ((execution.state start).workers worker).unsettled? = some job) :
    ∃ later, start ≤ later ∧ ∃ fate,
      (job, fate) ∈
        (execution.state later).fates worker (execution.action later) := by
  have reaches :=
    @Execution.Works.reaches _ _ _ _ execution limited
      (fun index => (sound index).bounded) works
      (fun index =>
        ((execution.state index).workers worker).unsettled? = some job)
      (fun index => ∃ fate,
        (job, fate) ∈
          (execution.state index).fates worker (execution.action index))
  refine reaches ?_ ?_ held
  · intro index holds
    refine WorkerTask.busy_iff_work_pos.mp ?_
    cases task : (execution.state index).workers worker <;>
      simp_all [WorkerTask.unsettled?, WorkerTask.busy]
  · intro index holds unmet
    exact (fates_or_unsettled (execution.taken index) holds).resolve_left
      unmet

/-- A copy leaves the channel, or the worker that is served ends. -/
theorem departs_or_worker_ends
    (limited : config.webhookMaxRetries < 2 ^ 31 - 1)
    (sound : ∀ index, (execution.state index).Sound)
    {worker : Fin config.workerCount}
    (served : execution.Serves (.worker worker))
    (queued : job ∈ (execution.state start).channel)
    (alive : ((execution.state start).workers worker).ended = false) :
    ∃ later, start ≤ later ∧
      ((∃ departure,
          (job, departure) ∈
            (execution.state later).departed externals
              (execution.action later)) ∨
        ((execution.state (later + 1)).workers worker).ended = true) := by
  have awaits :=
    @TransitionSystem.Execution.response _ _ _ _ execution _ served
      (fun index =>
        job ∈ (execution.state index).channel ∧
          ((execution.state index).workers worker).ended = false)
      (fun index =>
        (∃ departure,
            (job, departure) ∈
              (execution.state index).departed externals
                (execution.action index)) ∨
          ((execution.state (index + 1)).workers worker).ended = true)
      (fun state => state.takingWork worker job)
  refine awaits ?_ ?_ ⟨queued, alive⟩
  · rintro index ⟨stillQueued, _⟩ neither
    push Not at neither
    have stillAlive := Bool.eq_false_iff.mpr neither.2
    obtain ⟨remains, falls⟩ :=
      takingWork_falls limited (sound index).bounded
        (execution.taken index) stillQueued neither.1 stillAlive
    exact ⟨⟨remains, stillAlive⟩, falls⟩
  · rintro index ⟨stillQueued, stillAlive⟩
    exact worker_canMove_of_queued stillAlive stillQueued

/-- A copy leaves the channel: somebody goes on receiving or all have ended. -/
theorem queued_departs
    (limited : config.webhookMaxRetries < 2 ^ 31 - 1)
    (sound : ∀ index, (execution.state index).Sound)
    (served : ∀ worker, execution.Serves (.worker worker))
    (queued : job ∈ (execution.state start).channel) :
    ∃ later departure, start ≤ later ∧
      (job, departure) ∈
        (execution.state later).departed externals
          (execution.action later) := by
  by_contra none
  have stays :
      ∀ later, start ≤ later →
        ∀ departure,
          (job, departure) ∉
            (execution.state later).departed externals
              (execution.action later) :=
    fun later after departure departs =>
      none ⟨later, departure, after, departs⟩
  have remains :
      ∀ later, start ≤ later →
        job ∈ (execution.state later).channel := by
    intro later after
    induction later, after using Nat.le_induction with
    | base =>
        exact queued
    | succ later after inductionHypothesis =>
        rcases departs_or_queued (execution.taken later)
            inductionHypothesis with ⟨departure, departs⟩ | ⟨still, _⟩
        · exact (stays later after departure departs).elim
        · exact still
  have staysEnded :
      ∀ worker first, start ≤ first →
        ((execution.state first).workers worker).ended = true →
        ∀ later, first ≤ later →
          ((execution.state later).workers worker).ended = true := by
    intro worker first after ended later further
    induction later, further using Nat.le_induction with
    | base =>
        exact ended
    | succ later further inductionHypothesis =>
        refine ended_of_step? (execution.taken later) ?_
          inductionHypothesis
        intro isRestart
        have departs := stays later (after.trans further) .discarded
        rw [isRestart] at departs
        exact departs
          (departs_of_restart (remains later (after.trans further)))
  have ends :
      ∀ worker, ∃ first, start ≤ first ∧
        ((execution.state first).workers worker).ended = true := by
    intro worker
    cases ended : ((execution.state start).workers worker).ended with
    | true =>
        exact ⟨start, Nat.le_refl _, ended⟩
    | false =>
        obtain ⟨later, after, ⟨departure, departs⟩ | ended⟩ :=
          departs_or_worker_ends execution limited sound
            (served worker) queued ended
        · exact (stays later after departure departs).elim
        · exact ⟨later + 1, after.trans (Nat.le_succ _), ended⟩
  -- Once the last of them has ended, nothing is left in the channel.
  choose first after ended using ends
  let last := Finset.univ.sup first + start
  have closed : (execution.state last).ChannelClosed := by
    intro worker
    have within : first worker ≤ Finset.univ.sup first :=
      Finset.le_sup (Finset.mem_univ worker)
    exact staysEnded worker (first worker) (after worker) (ended worker)
      last (within.trans (Nat.le_add_right _ _))
  have inside := remains last (Nat.le_add_left _ _)
  rw [(sound last).empties closed] at inside
  cases inside

/-- The scheduler parts with every copy it has leased. -/
theorem scheduler_parts
    (limited : config.webhookMaxRetries < 2 ^ 31 - 1)
    (sound : ∀ index, (execution.state index).Sound)
    (works : execution.Works .scheduler)
    (held :
      (execution.state start).scheduler.position.hand? = some job) :
    ∃ later, start ≤ later ∧ ∃ parting,
      (job, parting) ∈
        (execution.state later).parted (execution.action later) := by
  have reaches :=
    @Execution.Works.reaches _ _ _ _ execution limited
      (fun index => (sound index).bounded) works
      (fun index =>
        (execution.state index).scheduler.position.hand? = some job)
      (fun index => ∃ parting,
        (job, parting) ∈
          (execution.state index).parted (execution.action index))
  refine reaches ?_ ?_ held
  · intro index holds
    unfold workOf SchedulerTask.work
    cases position : (execution.state index).scheduler.position <;>
      simp_all [SchedulerPosition.hand?]
  · intro index holds unmet
    exact (parted_or_inHand (execution.taken index) holds).resolve_left
      unmet

/-- From the channel a copy goes to a worker, or is dropped. -/
theorem queued_released
    (limited : config.webhookMaxRetries < 2 ^ 31 - 1)
    (sound : ∀ index, (execution.state index).Sound)
    (served : ∀ worker, execution.Serves (.worker worker))
    (queued : job ∈ (execution.state start).channel) :
    ∃ later, start ≤ later ∧
      (execution.state later).Releases externals job
        (execution.action later) := by
  obtain ⟨later, departure, after, departs⟩ :=
    queued_departs execution limited sound served queued
  cases departure with
  | discarded =>
      exact ⟨later, after, Or.inr (Or.inl departs)⟩
  | received worker =>
      obtain ⟨last, further, fate, met⟩ :=
        worker_lets_go execution limited sound
          ((served worker).works limited fun index =>
            (sound index).bounded)
          (unsettled_of_received (execution.taken later) departs)
      exact ⟨last, after.trans ((Nat.le_succ _).trans further),
        Or.inr (Or.inr ⟨worker, fate, met⟩)⟩

/-- A worker without a copy and without a channel to receive from waits. -/
theorem worker_waits
    {worker : Fin config.workerCount}
    (idle : state.workers worker = .idle false)
    (empty : state.channel = []) :
    ¬state.CanMove externals (.worker worker) := by
  rintro ⟨action, after, isOwn, _, taken⟩
  cases action with
  | worker mover own =>
      cases isOwn
      obtain ⟨_, workerTaken⟩ := workerTaken_of_step? taken
      rw [idle] at workerTaken
      cases own <;> simp [WorkerTask.step?, empty] at workerTaken
  | _ =>
      cases isOwn

/-- A scheduler that sleeps waits for the time or for a permit. -/
theorem scheduler_waits
    {wakeAt : Time}
    (waiting : state.scheduler.position = .waiting wakeAt)
    (early : state.clock < wakeAt)
    (noPermit : state.permit = false) :
    ¬state.CanMove externals .scheduler := by
  rintro ⟨action, after, isOwn, _, taken⟩
  cases action with
  | scheduler own =>
      obtain ⟨_, schedulerTaken⟩ := schedulerTaken_of_step? taken
      cases own <;>
        simp [SchedulerTask.step?, waiting, noPermit] at schedulerTaken
      exact (Int.not_le.mpr early) schedulerTaken.1
  | _ =>
      cases isOwn

end State

/-! ## A concrete execution -/

namespace Sample

/-- The scheduler fetches an empty table and sleeps. -/
def sleep : List (Action config 1) :=
  [.scheduler .notified, .scheduler (.refresh [])]

end Sample

end Kronkeeper
