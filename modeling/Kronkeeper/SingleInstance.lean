import Kronkeeper.InstanceRows
import Kronkeeper.RecurringChain

namespace Kronkeeper

/-!
# One instance of a template at a time

`spawn_next_instance` compares `count_active_siblings` with the policy before
its `INSERT`, and nothing looks at the policy again.  What keeps the instances
of a template apart is that one carrier at a time has its chain: a live row, the
worker that spawns the next one, or the request for the first one.  A copy that
writes for an instance that has ended while its chain goes on elsewhere adds a
second carrier.
-/

/-- What a chain can rest on. -/
inductive Carrier (config : Config) (slots : Nat) where
  | row (id : Uuid)
  | worker (worker : Fin config.workerCount)
  | request (slot : Fin slots)
  deriving DecidableEq

/-- At most one instance of the template is in one of these states. -/
def AtMostOneIn
    (jobs : JobTable)
    (templateId : Uuid)
    (states : List JobState) : Prop :=
  ∀ first ∈ jobs.rows, ∀ second ∈ jobs.rows,
    first.parentJobId = some templateId →
    second.parentJobId = some templateId →
    first.state ∈ states →
    second.state ∈ states →
    first.id = second.id

instance decidableAtMostOneIn
    (jobs : JobTable)
    (templateId : Uuid)
    (states : List JobState) :
    Decidable (AtMostOneIn jobs templateId states) :=
  inferInstanceAs (Decidable (∀ _ ∈ _, ∀ _ ∈ _, _))

/-- What the policy of a template promises about its instances. -/
structure ObservesPolicy (jobs : JobTable) (template : Job) : Prop where
  skip :
    template.concurrencyPolicy = .skip →
    AtMostOneIn jobs template.id [.leased, .running]
  queueOnce :
    template.concurrencyPolicy = .queueOnce →
    AtMostOneIn jobs template.id [.scheduled, .leased, .running]

instance decidableObservesPolicy
    (jobs : JobTable)
    (template : Job) :
    Decidable (ObservesPolicy jobs template) :=
  @decidable_of_iff _
    ((template.concurrencyPolicy = .skip →
        AtMostOneIn jobs template.id [.leased, .running]) ∧
      (template.concurrencyPolicy = .queueOnce →
        AtMostOneIn jobs template.id [.scheduled, .leased, .running]))
    ⟨fun ⟨skip, queueOnce⟩ => ⟨skip, queueOnce⟩,
      fun observes => ⟨observes.skip, observes.queueOnce⟩⟩
    inferInstance

/-! ## Spawns of a chain -/

theorem SpawnCall.templateId_of_continues?
    {call : SpawnCall}
    {id : Uuid}
    (continues : call.continues? = some id) :
    call.templateId = id := by
  cases call <;> simp_all [continues?, templateId]

section Moves

variable {config : Config} {externals : Externals}
variable {shared after : Shared}

/-- A spawn goes on with the chain it was at work for. -/
theorem SpawnCall.Move.continues?_before
    {call next : SpawnCall}
    {reply : Reply}
    (moved : call.Move externals shared reply after (.next next))
    {templateId : Uuid}
    (continues : next.continues? = some templateId) :
    call.continues? = some templateId := by
  have sameTemplate := moved.templateId_eq
  rw [SpawnCall.templateId_of_continues? continues] at sameTemplate
  cases moved.successor with
  | complete | count | lookup | insert =>
      exact congrArg some sameTemplate.symm
  | skip | increment | announce =>
      cases continues

/-- A worker is at work for a chain since the success it has written. -/
theorem WorkerTask.Move.continues?_before
    {task next : WorkerTask}
    {action : WorkerAction}
    (moved : task.Move config externals shared action after next)
    {templateId : Uuid}
    (continues : next.continues? = some templateId) :
    task.continues? = some templateId ∨
      ∃ job result now,
        task = .handling job result now ∧
          ResultHandler.dispose? config job result now =
            some .complete ∧
          job.parentJobId = some templateId ∧
          action = .settle .ok := by
  cases next with
  | spawning job call =>
      cases moved.spawnOrigin with
      | goesOn previous reply spawned =>
          exact Or.inl (spawned.continues?_before continues)
      | begins result now parentId disposed isChild isRead =>
          subst isRead
          obtain rfl := Option.some.inj continues
          exact Or.inr ⟨job, result, now, rfl, disposed, isChild, rfl⟩
  | _ =>
      cases continues

end Moves

namespace State

variable {config : Config} {slots : Nat}

/-- The carrier has the chain of the template. -/
def Carries
    (state : State config slots) :
    Carrier config slots → Uuid → Prop
  | .row id, templateId =>
      ∃ row ∈ state.jobs.rows,
        row.id = id ∧ row.parentJobId = some templateId ∧
          row.state.isLive = true
  | .worker worker, templateId =>
      (state.workers worker).continues? = some templateId
  | .request slot, templateId =>
      (state.requests slot).insertsFor? = some templateId

theorem continues_iff_exists_carrier
    {state : State config slots}
    {templateId : Uuid} :
    state.Continues templateId ↔
      ∃ carrier, state.Carries carrier templateId := by
  constructor
  · rintro (⟨row, member, isInstance, live⟩ | ⟨worker, continues⟩ |
      ⟨slot, inserts⟩)
    · exact ⟨.row row.id, row, member, rfl, isInstance, live⟩
    · exact ⟨.worker worker, continues⟩
    · exact ⟨.request slot, inserts⟩
  · rintro ⟨carrier, carries⟩
    cases carrier with
    | row id =>
        obtain ⟨row, member, _, isInstance, live⟩ := carries
        exact Or.inl ⟨row, member, isInstance, live⟩
    | worker worker =>
        exact Or.inr (Or.inl ⟨worker, carries⟩)
    | request slot =>
        exact Or.inr (Or.inr ⟨slot, carries⟩)

instance decidableContinues
    (state : State config slots)
    (templateId : Uuid) :
    Decidable (state.Continues templateId) :=
  have worker := fun worker =>
    inferInstanceAs
      (Decidable ((state.workers worker).continues? = some templateId))
  have slot := fun slot =>
    inferInstanceAs
      (Decidable ((state.requests slot).insertsFor? = some templateId))
  @instDecidableOr _ _
    (inferInstanceAs (Decidable (∃ row ∈ state.jobs.rows, _)))
    (@instDecidableOr _ _ (@Nat.decidableExistsFin _ _ worker)
      (@Nat.decidableExistsFin _ _ slot))

/-- A copy that keeps its chain going, and the carrier that then has it. -/
structure Renewal (config : Config) (slots : Nat) where
  job : Job
  carrier : Carrier config slots

/-- The copy for which a step starts, completes or reschedules its row. -/
def renewal?
    (state : State config slots) :
    Action config slots → Option (Renewal config slots)
  | .scheduler (.returnJob .ok) =>
      match state.scheduler.position with
      | .returning job => some ⟨job, .row job.id⟩
      | _ => none
  | .worker worker (.setRunning .ok) =>
      match state.workers worker with
      | .starting job => some ⟨job, .row job.id⟩
      | _ => none
  | .worker worker (.settle .ok) =>
      match state.workers worker with
      | .handling job result now =>
          match ResultHandler.dispose? config job result now with
          | some .complete => some ⟨job, .worker worker⟩
          | some (.retry _ _) => some ⟨job, .row job.id⟩
          | _ => none
      | _ => none
  | _ => none

/-- The instance is live, or its chain does not go on elsewhere. -/
def RenewsTimely
    (state : State config slots)
    (renewal : Renewal config slots) : Prop :=
  ∀ templateId ∈ renewal.job.parentJobId,
    (∀ row ∈ state.jobs.rows,
      row.id = renewal.job.id → row.state.isLive = false) →
    ¬state.Continues templateId

instance decidableRenewsTimely
    (state : State config slots)
    (renewal : Renewal config slots) :
    Decidable (state.RenewsTimely renewal) :=
  renewal.job.parentJobId.decidableForallMem

/--
No copy starts, completes or reschedules an instance that has ended while its
chain goes on elsewhere.
-/
def RenewsInTurn
    (state : State config slots)
    (action : Action config slots) : Prop :=
  ∀ renewal ∈ state.renewal? action, state.RenewsTimely renewal

instance decidableRenewsInTurn
    (state : State config slots)
    (action : Action config slots) :
    Decidable (state.RenewsInTurn action) :=
  (state.renewal? action).decidableForallMem

/-- One carrier at a time has the chain of a template. -/
structure SingleCarrier (state : State config slots) : Prop where
  grounded : state.Grounded
  rows : state.InstanceRows
  spawnsOwn : state.SpawnsOwn
  sole : Handoff.Sole state.Carries

theorem singleCarrier_initial
    (clock : Time) :
    (initial config slots clock).SingleCarrier where
  grounded := grounded_booted clock RecordTable.empty
  rows := instanceRows_initial clock
  spawnsOwn := fun _ => trivial
  sole := by
    intro templateId first second carries
    cases first with
    | row id =>
        obtain ⟨row, member, _⟩ := carries
        cases member
    | worker worker | request slot =>
        cases carries

/-! ## New carriers -/

/-- How a carrier comes to have the chain of a template. -/
inductive Takes
    (state : State config slots) :
    Action config slots → Carrier config slots → Uuid → Prop where
  | nextInstance
      (worker : Fin config.workerCount)
      (job template : Job)
      (nextFire : Time)
      (id : Uuid)
      (spawning :
        state.workers worker =
          .spawning job (.insertInstance template nextFire)) :
      Takes state (.worker worker (.spawn (.inserted id))) (.row id)
        template.id
  | firstInstance
      (slot : Fin slots)
      (id : Uuid)
      (templateId : Uuid)
      (inserts :
        (state.requests slot).insertsFor? = some templateId) :
      Takes state (.api slot (.call (.inserted id))) (.row id) templateId
  | template
      (slot : Fin slots)
      (requestAction : RequestAction)
      (templateId : Uuid)
      (fresh : ∀ row ∈ state.jobs.rows, row.id ≠ templateId) :
      Takes state (.api slot requestAction) (.request slot) templateId
  | renewed
      (action : Action config slots)
      (job : Job)
      (carrier : Carrier config slots)
      (templateId : Uuid)
      (renews : state.renewal? action = some ⟨job, carrier⟩)
      (isInstance : job.parentJobId = some templateId) :
      Takes state action carrier templateId

variable {externals : Externals}
variable {state after : State config slots}
variable {action : Action config slots}

/-- The template of a carrier is in the table. -/
private theorem SingleCarrier.exists_template
    (single : state.SingleCarrier)
    {carrier : Carrier config slots}
    {templateId : Uuid}
    (carries : state.Carries carrier templateId) :
    ∃ row ∈ state.jobs.rows, row.id = templateId := by
  have ofInstance :
      ∀ row ∈ state.jobs.rows,
        row.parentJobId = some templateId →
        ∃ parent ∈ state.jobs.rows, parent.id = templateId := by
    intro row member isInstance
    obtain ⟨parent, parentMember, parentId, _⟩ :=
      (single.rows.instances row member templateId isInstance).parent
    exact ⟨parent, parentMember, parentId⟩
  cases carrier with
  | row id =>
      obtain ⟨row, member, _, isInstance, _⟩ := carries
      exact ofInstance row member isInstance
  | worker worker =>
      change (state.workers worker).continues? = some templateId at carries
      cases current : state.workers worker with
      | spawning job call =>
          rw [current] at carries
          obtain ⟨row, member, _, isInstance⟩ :=
            single.spawnsOwn.exists_row single.grounded current
          rw [SpawnCall.templateId_of_continues? carries] at isInstance
          exact ofInstance row member isInstance
      | _ =>
          rw [current] at carries
          cases carries
  | request slot =>
      exact single.grounded.exists_template carries

/-- A row that is live after a step was so before, or its chain takes it. -/
private theorem SingleCarrier.row_cases
    (single : state.SingleCarrier)
    (taken : step? externals state action = some after)
    {id templateId : Uuid}
    (carries : after.Carries (.row id) templateId) :
    state.Carries (.row id) templateId ∨
      state.Takes action (.row id) templateId := by
  obtain ⟨row, member, rfl, isInstance, live⟩ := carries
  cases rowOrigin_of_step? taken member with
  | kept old oldMember identity hasCron schedule =>
      rw [schedule.state] at live
      exact Or.inl ⟨old, oldMember,
        (Job.id_eq_of_identity identity).symm,
        (Job.parentJobId_eq_of_identity identity).symm.trans isInstance,
        live⟩
  | inserted fresh insertion =>
      cases insertion with
      | job | template =>
          cases isInstance
      | firstInstance slot clientId req template firstFire id creating =>
          refine Or.inr (.firstInstance slot id templateId ?_)
          rw [creating]
          exact isInstance
      | nextInstance worker job template nextFire id spawning =>
          obtain rfl := Option.some.inj isInstance
          exact Or.inr (.nextInstance worker job template nextFire id
            spawning)
  | changed old oldMember identity hasCron change =>
      have sameId := Job.id_eq_of_identity identity
      have oldInstance :=
        (Job.parentJobId_eq_of_identity identity).symm.trans isInstance
      have wasLive :
          old.state.isLive = true →
          state.Carries (.row row.id) templateId :=
        fun oldLive =>
          ⟨old, oldMember, sameId.symm, oldInstance, oldLive⟩
      have ofCopy :
          ∀ place job expected,
            state.Expects place job expected →
            old.id = job.id →
            state.renewal? action = some ⟨job, .row job.id⟩ →
            state.Takes action (.row row.id) templateId := by
        intro place job expected expects jobId renews
        have copied :=
          (single.grounded.copy_of_expects expects).row oldMember jobId
        rw [sameId, jobId]
        exact .renewed action job _ templateId renews
          ((Job.parentJobId_eq_of_identity copied).symm.trans oldInstance)
      generalize reached : row.state = new at change
      rw [reached] at live
      cases change with
      | lease _ _ _ _ _ scheduled =>
          exact Or.inl (wasLive (by rw [scheduled]; rfl))
      | reap _ leased =>
          exact Or.inl (wasLive (by rw [leased]; rfl))
      | recover orphaned =>
          rcases orphaned with leased | running
          · exact Or.inl (wasLive (by rw [leased]; rfl))
          · exact Or.inl (wasLive (by rw [running]; rfl))
      | begin worker job starting jobId =>
          exact Or.inr (ofCopy _ job _ (expects_of_worker starting rfl)
            jobId (by simp [renewal?, starting]))
      | giveBack job returning jobId =>
          exact Or.inr (ofCopy _ job _ (expects_of_hand returning rfl)
            jobId (by simp [renewal?, returning]))
      | settle worker job result now disposition handling disposed
          jobId =>
          cases disposition with
          | retry retryAt attempt =>
              exact Or.inr (ofCopy _ job _
                (expects_of_worker handling rfl) jobId
                (by simp [renewal?, handling, disposed]))
          | _ =>
              cases live
      | _ =>
          cases live

/-- A worker has a chain by its spawn or by the success it has written. -/
private theorem worker_cases
    (taken : step? externals state action = some after)
    {worker : Fin config.workerCount}
    {templateId : Uuid}
    (carries : after.Carries (.worker worker) templateId) :
    state.Carries (.worker worker) templateId ∨
      state.Takes action (.worker worker) templateId := by
  change (after.workers worker).continues? = some templateId at carries
  cases workerStep_of_step? taken worker with
  | kept same =>
      exact Or.inl
        ((congrArg WorkerTask.continues? same).symm.trans carries)
  | idle notified isIdle =>
      rw [isIdle] at carries
      cases carries
  | moved workerAction shared isWorker moved =>
      subst isWorker
      rcases moved.continues?_before carries with
        before | ⟨job, result, now, handling, disposed, isInstance, rfl⟩
      · exact Or.inl before
      · exact Or.inr (.renewed _ job _ templateId
          (by simp [renewal?, handling, disposed]) isInstance)

/-- A carrier that has a chain after a step had it before, or takes it. -/
private theorem SingleCarrier.carries_cases
    (single : state.SingleCarrier)
    (taken : step? externals state action = some after)
    {carrier : Carrier config slots}
    {templateId : Uuid}
    (carries : after.Carries carrier templateId) :
    state.Carries carrier templateId ∨
      state.Takes action carrier templateId := by
  cases carrier with
  | row id =>
      exact single.row_cases taken carries
  | worker worker =>
      exact worker_cases taken carries
  | request slot =>
      change (after.requests slot).insertsFor? = some templateId at carries
      cases requestStep_of_step? taken slot with
      | kept same =>
          exact Or.inl
            ((congrArg RequestTask.insertsFor? same).symm.trans carries)
      | lost isAbsent =>
          rw [isAbsent] at carries
          cases carries
      | moved requestAction isApi moved =>
          subst isApi
          exact Or.inr (.template slot requestAction templateId
            (moved.insertsFor?_cases carries))

/-- The action names the one carrier that takes a chain. -/
private theorem SingleCarrier.takes_unique
    (single : state.SingleCarrier)
    {first second : Carrier config slots}
    {templateId : Uuid}
    (firstTakes : state.Takes action first templateId)
    (secondTakes : state.Takes action second templateId) :
    first = second := by
  cases firstTakes with
  | nextInstance worker job template nextFire id spawning =>
      generalize template.id = templateId at secondTakes
      cases secondTakes with
      | nextInstance =>
          rfl
      | renewed _ _ _ _ renews =>
          cases renews
  | firstInstance slot id templateId inserts =>
      cases secondTakes with
      | firstInstance =>
          rfl
      | template _ _ _ fresh =>
          obtain ⟨row, member, sameId⟩ :=
            single.grounded.exists_template inserts
          exact (fresh row member sameId).elim
      | renewed _ _ _ _ renews =>
          cases renews
  | template slot requestAction templateId fresh =>
      cases secondTakes with
      | firstInstance _ _ _ inserts =>
          obtain ⟨row, member, sameId⟩ :=
            single.grounded.exists_template inserts
          exact (fresh row member sameId).elim
      | template =>
          rfl
      | renewed _ _ _ _ renews =>
          cases renews
  | renewed _ job carrier templateId renews =>
      cases secondTakes with
      | renewed _ _ _ _ otherRenews =>
          have same := Option.some.inj (renews.symm.trans otherRenews)
          exact congrArg Renewal.carrier same
      | nextInstance | firstInstance | template =>
          cases renews

/-- The instance that a success completes lets go of its chain. -/
private theorem not_carries_of_completed
    {worker : Fin config.workerCount}
    {job : Job}
    {result : ExecutionResult}
    {now : Time}
    (handling : state.workers worker = .handling job result now)
    (disposed :
      ResultHandler.dispose? config job result now = some .complete)
    (taken :
      step? externals state (.worker worker (.settle .ok)) = some after)
    (templateId : Uuid) :
    ¬after.Carries (.row job.id) templateId := by
  rintro ⟨row, member, sameId, _, live⟩
  rw [state_of_settled handling disposed taken member sameId] at live
  cases live

/-- A renewed chain comes from the row of the copy, or from nobody. -/
private theorem SingleCarrier.handsOver_renewed
    (single : state.SingleCarrier)
    (permitted : state.RenewsInTurn action)
    (taken : step? externals state action = some after)
    {job : Job}
    {carrier : Carrier config slots}
    {templateId : Uuid}
    (renews : state.renewal? action = some ⟨job, carrier⟩)
    (isInstance : job.parentJobId = some templateId)
    (taker : ¬state.Carries carrier templateId) :
    (∃ giver,
        state.Carries giver templateId ∧
          ¬after.Carries giver templateId) ∨
      ∀ holder, ¬state.Carries holder templateId := by
  by_cases ended :
      ∀ row ∈ state.jobs.rows, row.id = job.id → row.state.isLive = false
  · refine Or.inr fun holder carries => ?_
    exact permitted _ renews templateId isInstance ended
      (continues_iff_exists_carrier.mpr ⟨holder, carries⟩)
  · push Not at ended
    obtain ⟨row, member, sameId, live⟩ := ended
    have carries :
        ∀ place expected,
          state.Expects place job expected →
          state.Carries (.row job.id) templateId := by
      intro place expected expects
      have copied :=
        (single.grounded.copy_of_expects expects).row member sameId
      exact ⟨row, member, sameId,
        (Job.parentJobId_eq_of_identity copied).trans isInstance,
        by simpa using live⟩
    unfold renewal? at renews
    split at renews
    · split at renews
      · rename_i returning
        cases renews
        exact (taker (carries _ _ (expects_of_hand returning rfl))).elim
      · cases renews
    · split at renews
      · rename_i starting
        cases renews
        exact (taker
          (carries _ _ (expects_of_worker starting rfl))).elim
      · cases renews
    · split at renews
      · rename_i handling
        split at renews
        · rename_i disposed
          cases renews
          exact Or.inl
            ⟨_, carries _ _ (expects_of_worker handling rfl),
              not_carries_of_completed handling disposed taken
                templateId⟩
        · cases renews
          exact (taker
            (carries _ _ (expects_of_worker handling rfl))).elim
        · cases renews
      · cases renews
    · cases renews

/-- A chain is taken from a carrier that lets go of it, or from nobody. -/
private theorem SingleCarrier.handsOver
    (single : state.SingleCarrier)
    (permitted : state.RenewsInTurn action)
    (taken : step? externals state action = some after)
    {carrier : Carrier config slots}
    {templateId : Uuid}
    (takes : state.Takes action carrier templateId)
    (taker : ¬state.Carries carrier templateId) :
    (∃ giver,
        state.Carries giver templateId ∧
          ¬after.Carries giver templateId) ∨
      ∀ holder, ¬state.Carries holder templateId := by
  cases takes with
  | renewed _ job _ _ renews isInstance =>
      exact single.handsOver_renewed permitted taken renews isInstance
        taker
  | template slot requestAction templateId fresh =>
      refine Or.inr fun holder carries => ?_
      obtain ⟨row, member, sameId⟩ := single.exists_template carries
      exact fresh row member sameId
  | firstInstance slot id templateId inserts =>
      refine Or.inl ⟨.request slot, inserts, fun stillInserts => ?_⟩
      obtain ⟨row, member, sameId⟩ :=
        single.grounded.exists_template inserts
      exact (requestMove_of_step? taken).insertsFor?_cases stillInserts
        row member sameId
  | nextInstance worker job template nextFire id spawning =>
      refine Or.inl ⟨.worker worker, ?_, ?_⟩
      · change (state.workers worker).continues? = some template.id
        rw [spawning]
        rfl
      · change (after.workers worker).continues? ≠ some template.id
        obtain ⟨shared, moved, _⟩ := workerMove_of_step? taken
        rw [spawning] at moved
        generalize after.workers worker = next at moved
        cases moved with
        | spawn job call reply later progress spawned =>
            cases spawned <;> exact nofun

/-- Every permitted step keeps chains with single carriers. -/
theorem SingleCarrier.step
    (single : state.SingleCarrier)
    (permitted : state.RenewsInTurn action)
    (taken : step? externals state action = some after) :
    after.SingleCarrier where
  grounded := single.grounded.step taken
  rows := single.rows.step single.grounded taken
  spawnsOwn := single.spawnsOwn.step taken
  sole := by
    have takes :
        ∀ templateId carrier,
          after.Carries carrier templateId →
          ¬state.Carries carrier templateId →
          state.Takes action carrier templateId :=
      fun templateId carrier carries fresh =>
        (single.carries_cases taken carries).resolve_left fresh
    refine single.sole.step ?_ ?_
    · intro templateId first second firstCarries firstFresh
        secondCarries secondFresh
      exact single.takes_unique
        (takes templateId first firstCarries firstFresh)
        (takes templateId second secondCarries secondFresh)
    · intro templateId taker carries fresh
      exact single.handsOver permitted taken
        (takes templateId taker carries fresh) fresh

/-- With single carriers no two instances of a template are live. -/
private theorem SingleCarrier.atMostOneIn
    (single : state.SingleCarrier)
    (templateId : Uuid)
    {states : List JobState}
    (areLive : ∀ jobState ∈ states, jobState.isLive = true) :
    AtMostOneIn state.jobs templateId states := by
  intro first firstMember second secondMember firstInstance
    secondInstance firstActive secondActive
  have sameCarrier :=
    single.sole templateId (.row first.id) (.row second.id)
      ⟨first, firstMember, rfl, firstInstance,
        areLive _ firstActive⟩
      ⟨second, secondMember, rfl, secondInstance,
        areLive _ secondActive⟩
  exact Carrier.row.inj sameCarrier

/--
In every run in which copies renew their chains in turn, every template has its
instances as its policy promises.
-/
theorem observesPolicy_of_renewsInTurn
    {clock : Time}
    {actions : List (Action config slots)}
    {final : State config slots}
    (run :
      Run externals RenewsInTurn (initial config slots clock) actions
        final) :
    ∀ template ∈ final.jobs.rows, template.isTemplate = true →
      ObservesPolicy final.jobs template := by
  have single : final.SingleCarrier :=
    run.invariant
      (fun single permitted taken => single.step permitted taken)
      (singleCarrier_initial clock)
  intro template _ _
  exact {
    skip := fun _ => single.atMostOneIn template.id (by decide)
    queueOnce := fun _ => single.atMostOneIn template.id (by decide) }

end State

/-! ## Concrete runs -/

namespace Sample

/-- The next instance is inserted when the first one has ended. -/
theorem successful_instance_hands_over :
    ∃ final,
      State.Run externals State.RenewsInTurn (State.initial config 2 0)
          (createRecurring ++ executeInstance ++ completeAndRead ++
            insertNext) final ∧
        final.jobs.rows.map Job.state =
          [.scheduled, .completed, .scheduled] ∧
        ∀ template ∈ final.jobs.rows, template.isTemplate = true →
          ObservesPolicy final.jobs template := by
  obtain ⟨final, run, states⟩ :=
    TransitionSystem.exists_run_of_replay?
      (State.step? externals) State.RenewsInTurn
      (State.initial config 2 0)
      (createRecurring ++ executeInstance ++ completeAndRead ++
        insertNext)
      (fun final =>
        final.jobs.rows.map Job.state =
          [.scheduled, .completed, .scheduled])
      (by decide)
  exact ⟨final, run, states, State.observesPolicy_of_renewsInTurn run⟩

/-- The lease of the first instance runs out in the queue, so it goes twice. -/
def sendInstanceTwice : List (Action config 2) :=
  [ .scheduler (.refresh [⟨2, 60000000⟩]),
    .tick 60000000,
    .scheduler .sleepElapsed,
    .scheduler (.lease ⟨2, 60000000⟩ .ok),
    .scheduler .trySend,
    .tick 31000000,
    .reaper (.reap .ok),
    .reaper .notifyOne,
    .scheduler .dispatchDone,
    .scheduler .notified,
    .scheduler (.refresh [⟨2, 60000000⟩]),
    .scheduler .sleepElapsed,
    .scheduler (.lease ⟨2, 60000000⟩ .ok),
    .scheduler .trySend ]

/-- Two workers take the copies, and the first of them starts at once. -/
def receiveBoth : List (Action config 2) :=
  [ .worker 0 .recv,
    .worker 0 .activate,
    .worker 1 .recv,
    .worker 1 .activate,
    .worker 0 (.setRunning .ok) ]

/-- The second copy starts when instance 3 is already scheduled. -/
def startSecondCopy : List (Action config 2) :=
  [ .worker 1 (.setRunning .ok) ]

set_option maxRecDepth 4000 in
/-- Under `queue_once` an instance runs while the next one is scheduled. -/
theorem stale_copy_overlaps_next_instance :
    ∃ final,
      State.Run externals TransitionSystem.Unrestricted
          (State.initial config 2 0)
          (createRecurring ++ sendInstanceTwice ++ receiveBoth ++
            completeAndRead ++ insertNext ++ startSecondCopy) final ∧
        final.jobs.rows.map (fun row => (row.parentJobId, row.state)) =
          [(none, .scheduled), (some 1, .running),
            (some 1, .scheduled)] ∧
        ∃ template ∈ final.jobs.rows,
          template.id = 1 ∧ template.isTemplate = true ∧
            template.concurrencyPolicy = .queueOnce ∧
            ¬ObservesPolicy final.jobs template :=
  TransitionSystem.exists_run_of_replay? _ _ _ _ _ (by decide)

end Sample

end Kronkeeper
