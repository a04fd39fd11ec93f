import Kronkeeper.TemplateTermination

namespace Kronkeeper

/-!
# The chain of a recurring job

A template stands for a chain of instances, and only `spawn_next_instance`
adds a link, after a successful run.  An instance that expires, is dead
lettered or is cancelled on its own adds none, and neither does a spawn that
finds no next fire time or an instance key in use.  The chain goes on as long
as another instance is live whenever that happens.
-/

/-- An instance in this state may still run. -/
def JobState.isLive : JobState → Bool
  | .scheduled => true
  | .leased => true
  | .running => true
  | _ => false

/-- The template has an instance that may still run. -/
def HasLive (jobs : JobTable) (templateId : Uuid) : Prop :=
  ∃ row ∈ jobs.rows,
    row.parentJobId = some templateId ∧ row.state.isLive = true

/-! ## Where a chain can break off -/

/-- A link that ends without a successor, and the instance that leaves. -/
structure Lapse where
  templateId : Uuid
  leaving : Option Uuid
  deriving Repr, DecidableEq

/-- If the template is scheduled, another instance than this one is live. -/
def Lapse.Covered (jobs : JobTable) (lapse : Lapse) : Prop :=
  (∃ template ∈ jobs.rows,
      template.id = lapse.templateId ∧ template.state = .scheduled) →
    ∃ row ∈ jobs.rows,
      row.parentJobId = some lapse.templateId ∧
        row.state.isLive = true ∧ lapse.leaving ≠ some row.id

instance (jobs : JobTable) (lapse : Lapse) :
    Decidable (lapse.Covered jobs) :=
  inferInstanceAs (Decidable (_ → _))

/-- The job is given up, and `handle` spawns nothing for it. -/
def Disposition.givesUp : Disposition → Bool
  | .expire => true
  | .deadLetter => true
  | _ => false

/-- The template for which a call ends its spawn without an instance. -/
def SpawnCall.lapses?
    (externals : Externals)
    (shared : Shared) : SpawnCall → Reply → Option Uuid
  | .readTemplate templateId lastScheduledAt, _ => do
      let template ←
        JobRepository.getJobByIdInternal shared.jobs templateId
      let cronExpr ← template.cronExpr
      if !RecurringService.occurrencesReached template &&
          !(RecurringService.nextFireAfter externals cronExpr
            lastScheduledAt).isOk then
        some templateId
      else
        none
  | .lookupKey template nextFire, _ =>
      if (JobRepository.getByIdempotencyKey shared.jobs
          (RecurringService.instanceKey externals template.id
            nextFire)).isSome then
        some template.id
      else
        none
  | .insertInstance template nextFire, .inserted id =>
      if (shared.jobs.insert?
          (JobRepository.instanceRow shared.clock id template nextFire
            (RecurringService.instanceKey externals template.id
              nextFire))).isNone then
        some template.id
      else
        none
  | _, _ => none

def WorkerTask.lapse?
    (config : Config)
    (externals : Externals)
    (shared : Shared) : WorkerTask → WorkerAction → Option Lapse
  | .handling job result now, .settle .ok => do
      let disposition ← ResultHandler.dispose? config job result now
      let templateId ← job.parentJobId
      if disposition.givesUp then
        some ⟨templateId, some job.id⟩
      else
        none
  | .spawning _ call, .spawn reply =>
      (call.lapses? externals shared reply).map fun templateId =>
        ⟨templateId, none⟩
  | _, _ => none

def RequestTask.lapse?
    (externals : Externals)
    (shared : Shared) : RequestTask → RequestAction → Option Lapse
  | .cancelling clientId id .cancelJob, .call .ok => do
      let row ←
        shared.jobs.rows.find?
          (JobRepository.cancelJob shared.clock id clientId).applies
      let templateId ← row.parentJobId
      some ⟨templateId, some id⟩
  | .creating _ _ (.insertInstance template firstFire),
      .call (.inserted id) =>
      if (shared.jobs.insert?
          (JobRepository.instanceRow shared.clock id template firstFire
            (RecurringService.instanceKey externals template.id
              firstFire))).isNone then
        some ⟨template.id, none⟩
      else
        none
  | _, _ => none

namespace State

variable {config : Config} {slots : Nat}

/-- The link that ends with a step. -/
def lapse?
    (externals : Externals)
    (state : State config slots) : Action config slots → Option Lapse
  | .worker worker action =>
      (state.workers worker).lapse? config externals state.toShared action
  | .api slot action =>
      (state.requests slot).lapse? externals state.toShared action
  | _ => none

/--
A step of a process that neither crashes nor has a repository call fail, and
that ends no link of a chain unless another instance is live.
-/
def KeepsChains
    (externals : Externals)
    (state : State config slots)
    (action : Action config slots) : Prop :=
  action.succeeds = true ∧
    action ≠ .restart ∧
    ∀ lapse ∈ state.lapse? externals action, lapse.Covered state.jobs

instance
    (externals : Externals)
    (state : State config slots)
    (action : Action config slots) :
    Decidable (KeepsChains externals state action) :=
  have lapses := (state.lapse? externals action).decidableForallMem
  @instDecidableAnd _ _ inferInstance
    (@instDecidableAnd _ _ inferInstance lapses)

end State

/-! ## Who keeps a chain going -/

/-- The template a spawn is still going to continue or to complete. -/
def SpawnCall.continues? : SpawnCall → Option Uuid
  | .readTemplate templateId _ => some templateId
  | .completeTemplate template => some template.id
  | .countSiblings template _ => some template.id
  | .lookupKey template _ => some template.id
  | .insertInstance template _ => some template.id
  | _ => none

def WorkerTask.continues? : WorkerTask → Option Uuid
  | .spawning _ call => call.continues?
  | _ => none

/-- The worker is not between `recv` and the end of its iteration. -/
def WorkerTask.atRest : WorkerTask → Bool
  | .idle _ => true
  | .stopped => true
  | .panicked => true
  | _ => false

/-- The row is what a spawn for a scheduled template finds. -/
structure ScheduledTemplate (template : Job) : Prop where
  isTemplate : template.isTemplate = true
  row : TemplateRow template
  scheduled : template.state = .scheduled

section Moves

variable {config : Config} {externals : Externals}
variable {shared after : Shared}

/-- A counted sibling is live. -/
theorem hasLive_of_countActiveSiblings
    {jobs : JobTable}
    {templateId : Uuid}
    {policy : ConcurrencyPolicy}
    (active :
      0 < JobRepository.countActiveSiblings jobs templateId policy) :
    HasLive jobs templateId := by
  obtain ⟨row, member, isInstance, isActive⟩ :=
    JobRepository.countActiveSiblings_pos_iff.mp active
  refine ⟨row, member, isInstance, ?_⟩
  cases policy with
  | skip =>
      simp only [JobRepository.activeStates, List.mem_cons,
        List.not_mem_nil, or_false] at isActive
      rcases isActive with leased | running
      · rw [leased]
        rfl
      · rw [running]
        rfl
  | queueOnce =>
      simp only [JobRepository.activeStates, List.mem_cons,
        List.not_mem_nil, or_false] at isActive
      rcases isActive with scheduled | leased | running
      · rw [scheduled]
        rfl
      · rw [leased]
        rfl
      · rw [running]
        rfl
  | allow =>
      cases isActive

/-- What `spawn_next_instance` does with a scheduled template it has read. -/
theorem RecurringService.planSpawn_of_scheduled
    (externals : Externals)
    {template : Job}
    (wanted : ScheduledTemplate template)
    (lastScheduledAt : Time) :
    (∃ call,
        planSpawn externals lastScheduledAt (some template) =
            .next call ∧
          call.continues? = some template.id) ∨
      ∃ cronExpr,
        template.cronExpr = some cronExpr ∧
          occurrencesReached template = false ∧
          (nextFireAfter externals cronExpr lastScheduledAt).isOk =
            false := by
  obtain ⟨cronExpr, isCron⟩ :=
    Option.isSome_iff_exists.mp wanted.row.hasCron
  by_cases reached : occurrencesReached template = true
  · left
    exact ⟨.completeTemplate template, by
      simp [planSpawn, wanted.isTemplate, wanted.row.isRecurring,
        wanted.scheduled, isCron, reached], rfl⟩
  · have notReached := Bool.eq_false_iff.mpr reached
    cases fire : nextFireAfter externals cronExpr lastScheduledAt with
    | error message =>
        exact Or.inr ⟨cronExpr, isCron, notReached, by rw [fire]; rfl⟩
    | ok nextFire =>
        left
        by_cases past : pastEnd template nextFire = true
        · exact ⟨.completeTemplate template, by
            simp [planSpawn, wanted.isTemplate, wanted.row.isRecurring,
              wanted.scheduled, isCron, notReached, fire, past], rfl⟩
        · exact ⟨.countSiblings template nextFire, by
            simp [planSpawn, wanted.isTemplate, wanted.row.isRecurring,
              wanted.scheduled, isCron, notReached, fire, past], rfl⟩

/--
A call of a spawn for a scheduled template goes on to the next one, leaves a
live instance behind, completes the template, or ends the link.
-/
theorem SpawnCall.Move.continues?_cases
    {call : SpawnCall}
    {reply : Reply}
    {progress : SpawnProgress}
    (moved : call.Move externals shared reply after progress)
    (succeeds : reply.succeeded = true)
    {template : Job}
    (member : template ∈ shared.jobs.rows)
    (wanted : ScheduledTemplate template)
    (continues : call.continues? = some template.id) :
    (∃ next,
        progress = .next next ∧ next.continues? = some template.id) ∨
      HasLive after.jobs template.id ∨
      (∀ row ∈ after.jobs.rows,
        row.id = template.id → row.state = .completed) ∨
      call.lapses? externals shared reply = some template.id := by
  cases moved with
  | read templateId lastScheduledAt =>
      obtain rfl := Option.some.inj continues
      have found :
          JobRepository.getJobByIdInternal shared.jobs template.id =
            some template :=
        RecordTable.find?_eq_some_iff.mpr ⟨member, rfl⟩
      rcases RecurringService.planSpawn_of_scheduled externals wanted
          lastScheduledAt with
        ⟨next, planned, stillContinues⟩ |
          ⟨cronExpr, isCron, notReached, noFire⟩
      · rw [found]
        exact Or.inl ⟨next, planned, stillContinues⟩
      · refine Or.inr (Or.inr (Or.inr ?_))
        simp [lapses?, found, isCron, notReached, noFire]
  | complete completed =>
      obtain sameId := Option.some.inj continues
      refine Or.inr (Or.inr (Or.inl ?_))
      intro row rowMember rowId
      obtain ⟨old, oldMember, rfl⟩ := RecordTable.mem_update.mp rowMember
      have oldId : old.id = completed.id :=
        (Job.id_eq_of_identity
          (RowUpdate.identity_image _ old)).symm.trans
            (rowId.trans sameId.symm)
      rw [RowUpdate.image_of_applies (by
        simp [JobRepository.completeTemplate, oldId])]
      rfl
  | overlap counted nextFire active =>
      obtain sameId := Option.some.inj continues
      rw [← sameId]
      exact Or.inr (Or.inl (hasLive_of_countActiveSiblings active))
  | noOverlap | keyFree =>
      exact Or.inl ⟨_, rfl, continues⟩
  | keyUsed looked nextFire existing used =>
      obtain sameId := Option.some.inj continues
      rw [← sameId]
      refine Or.inr (Or.inr (Or.inr ?_))
      simp [lapses?, used]
  | insert inserted nextFire id jobs isInserted =>
      obtain sameId := Option.some.inj continues
      rw [← sameId]
      have added := (RecordTable.mem_of_insert? isInserted).mpr (Or.inr rfl)
      exact Or.inr (Or.inl ⟨_, added, rfl, rfl⟩)
  | duplicate refused nextFire id isRefused =>
      obtain sameId := Option.some.inj continues
      rw [← sameId]
      refine Or.inr (Or.inr (Or.inr ?_))
      simp [lapses?, isRefused]
  | skip | increment | announce =>
      cases continues
  | fails call message =>
      cases succeeds

end Moves

namespace State

variable {config : Config} {slots : Nat}
variable {externals : Externals}
variable {state after : State config slots}
variable {action : Action config slots}

/-- The template has a live instance, or a task is about to see to one. -/
def Continues (state : State config slots) (templateId : Uuid) : Prop :=
  HasLive state.jobs templateId ∨
    (∃ worker, (state.workers worker).continues? = some templateId) ∨
    ∃ slot, (state.requests slot).insertsFor? = some templateId

/-- What a run that keeps chains maintains. -/
structure ChainsKept (state : State config slots) : Prop where
  grounded : state.Grounded
  templates : state.TemplateRows
  cancelling :
    ∀ slot clientId id templates,
      state.requests slot =
        .cancelling clientId id (.cancelInstances templates) →
      ∀ row ∈ state.jobs.rows, row.id = id → row.state ≠ .scheduled
  chains :
    ∀ template ∈ state.jobs.rows,
      template.isTemplate = true →
      template.state = .scheduled →
      state.Continues template.id

/-- A scheduled template in the table, as a spawn finds it. -/
private theorem ChainsKept.scheduledTemplate
    (kept : state.ChainsKept)
    {template : Job}
    (member : template ∈ state.jobs.rows)
    (isTemplate : template.isTemplate = true)
    (scheduled : template.state = .scheduled) :
    ScheduledTemplate template where
  isTemplate := isTemplate
  row := kept.templates template member isTemplate
  scheduled := scheduled

/-- An instance leaves the live states by success, or the link ends. -/
private theorem ChainsKept.live_or_leaves
    (externals : Externals)
    (kept : state.ChainsKept)
    {template row : Job}
    (templateMember : template ∈ state.jobs.rows)
    (wanted : ScheduledTemplate template)
    (member : row ∈ state.jobs.rows)
    (isInstance : row.parentJobId = some template.id)
    {new : JobState}
    (change : state.StateChange row action new) :
    new.isLive = true ∨
      (∃ worker job result now,
        action = .worker worker (.settle .ok) ∧
          state.workers worker = .handling job result now ∧
          ResultHandler.dispose? config job result now =
            some .complete ∧
          job.parentJobId = some template.id) ∨
      state.lapse? externals action =
        some ⟨template.id, some row.id⟩ := by
  have notTemplate : row.isTemplate = false := by
    by_contra isTemplate
    have orphan :=
      (kept.templates row member (by simpa using isTemplate)).noParent
    rw [isInstance] at orphan
    cases orphan
  cases change with
  | lease | begin | giveBack | reap | recover =>
      exact Or.inl rfl
  | settle worker job result now disposition handling disposed sameId =>
      have held : (state.workers worker).job? = some job := by
        rw [handling]
        rfl
      have identity :=
        ((kept.grounded.workers worker).copy job held).row member sameId
      have isChild : job.parentJobId = some template.id :=
        (Job.parentJobId_eq_of_identity identity).symm.trans isInstance
      cases disposition with
      | complete =>
          exact Or.inr (Or.inl
            ⟨worker, job, result, now, rfl, handling, disposed, isChild⟩)
      | expire | deadLetter =>
          refine Or.inr (Or.inr ?_)
          simp [lapse?, WorkerTask.lapse?, handling, disposed, isChild,
            Disposition.givesUp, sameId]
      | retry retryAt attempt =>
          exact Or.inl rfl
  | cancelJob slot clientId cancelling scheduled =>
      have found := kept.grounded.requests slot
      rw [cancelling] at found
      obtain ⟨owned, ownedMember, sameId, sameClient, _⟩ := found
      obtain rfl := RecordTable.eq_of_primary ownedMember member sameId
      have cancels :
          state.jobs.rows.find?
              (JobRepository.cancelJob state.clock owned.id
                clientId).applies = some owned := by
        have keyed :
            ∀ other : Job,
              (JobRepository.cancelJob state.clock owned.id
                  clientId).applies other = true →
                JobIdentity.id other.identity = owned.id := by
          intro other applies
          simp only [JobRepository.cancelJob, Bool.and_eq_true,
            beq_iff_eq] at applies
          exact applies.1.1
        rw [RecordTable.find?_keyed_eq_some_iff keyed]
        refine ⟨member, ?_⟩
        simp [JobRepository.cancelJob, sameClient, scheduled]
      refine Or.inr (Or.inr ?_)
      simp [lapse?, RequestTask.lapse?, cancelling, cancels, isInstance]
  | cancelTemplate slot clientId cancelling isTemplate =>
      rw [notTemplate] at isTemplate
      cases isTemplate
  | cancelInstances slot clientId id templates cancelling isChild =>
      have sameId : template.id = id :=
        Option.some.inj (isInstance.symm.trans isChild)
      exact (kept.cancelling slot clientId id templates cancelling
        template templateMember sameId wanted.scheduled).elim
  | completeTemplate worker job read spawning sameId =>
      have carried : (state.workers worker).template? = some read := by
        rw [spawning]
        rfl
      have isTemplate :=
        ((kept.grounded.workers worker).template read
          carried).row_isTemplate member sameId
      rw [notTemplate] at isTemplate
      cases isTemplate

/-- After a success the worker goes on to spawn the next instance. -/
private theorem continues_of_complete
    {worker : Fin config.workerCount}
    {job : Job}
    {result : ExecutionResult}
    {now : Time}
    (handling : state.workers worker = .handling job result now)
    (completes :
      ResultHandler.dispose? config job result now = some .complete)
    {templateId : Uuid}
    (isChild : job.parentJobId = some templateId)
    (taken :
      step? externals state (.worker worker (.settle .ok)) =
        some after) :
    (after.workers worker).continues? = some templateId := by
  rw [(settled_of_step? handling completes taken).1]
  simp [WorkerTask.afterSettle, isChild, WorkerTask.continues?,
    SpawnCall.continues?]

/-- A live instance keeps the chain going, unless it is the one to leave. -/
private theorem ChainsKept.live_step
    (kept : state.ChainsKept)
    (taken : step? externals state action = some after)
    {template row : Job}
    (templateMember : template ∈ state.jobs.rows)
    (wanted : ScheduledTemplate template)
    (member : row ∈ state.jobs.rows)
    (isInstance : row.parentJobId = some template.id)
    (live : row.state.isLive = true) :
    after.Continues template.id ∨
      state.lapse? externals action =
        some ⟨template.id, some row.id⟩ := by
  obtain ⟨new, newMember, identity⟩ :=
    extends_of_step? taken row member
  have stillInstance :=
    (Job.parentJobId_eq_of_identity identity).trans isInstance
  rcases stateChange_of_step? taken member newMember
      (Job.id_eq_of_identity identity) with schedule | change
  · refine Or.inl (Or.inl ⟨new, newMember, stillInstance, ?_⟩)
    rw [schedule.state]
    exact live
  · rcases kept.live_or_leaves externals templateMember wanted member
        isInstance change with
      stillLive | ⟨worker, job, result, now, isSettle, handling,
        completes, isChild⟩ | lapses
    · exact Or.inl (Or.inl
        ⟨new, newMember, stillInstance, stillLive⟩)
    · subst isSettle
      exact Or.inl (Or.inr (Or.inl
        ⟨worker, continues_of_complete handling completes isChild
          taken⟩))
    · exact Or.inr lapses

/-- A live instance keeps the chain going over a permitted step. -/
private theorem ChainsKept.hasLive_step
    (kept : state.ChainsKept)
    (permitted : KeepsChains externals state action)
    (taken : step? externals state action = some after)
    {template : Job}
    (member : template ∈ state.jobs.rows)
    (wanted : ScheduledTemplate template)
    (hasLive : HasLive state.jobs template.id) :
    after.Continues template.id := by
  obtain ⟨row, rowMember, isInstance, live⟩ := hasLive
  rcases kept.live_step taken member wanted rowMember isInstance live with
    continues | lapses
  · exact continues
  · obtain ⟨other, otherMember, otherInstance, otherLive, stays⟩ :=
      permitted.2.2 _ lapses ⟨template, member, rfl, wanted.scheduled⟩
    rcases kept.live_step taken member wanted otherMember otherInstance
        otherLive with continues | otherLapses
    · exact continues
    · have sameLapse := Option.some.inj (lapses.symm.trans otherLapses)
      exact (stays (congrArg Lapse.leaving sameLapse)).elim

/-- A lapse without a leaving instance happens beside a live one. -/
private theorem ChainsKept.lapse_step
    (kept : state.ChainsKept)
    (permitted : KeepsChains externals state action)
    (taken : step? externals state action = some after)
    {template : Job}
    (member : template ∈ state.jobs.rows)
    (wanted : ScheduledTemplate template)
    (lapses : state.lapse? externals action = some ⟨template.id, none⟩) :
    after.Continues template.id := by
  obtain ⟨row, rowMember, isInstance, live, _⟩ :=
    permitted.2.2 _ lapses ⟨template, member, rfl, wanted.scheduled⟩
  exact kept.hasLive_step permitted taken member wanted
    ⟨row, rowMember, isInstance, live⟩

/-- A worker at work for a scheduled template keeps its chain going. -/
private theorem ChainsKept.worker_step
    (kept : state.ChainsKept)
    (permitted : KeepsChains externals state action)
    (taken : step? externals state action = some after)
    {template : Job}
    (member : template ∈ state.jobs.rows)
    (wanted : ScheduledTemplate template)
    {worker : Fin config.workerCount}
    (continues :
      (state.workers worker).continues? = some template.id) :
    after.Continues template.id ∨
      ∀ row ∈ after.jobs.rows,
        row.id = template.id → row.state = .completed := by
  cases workerStep_of_step? taken worker with
  | kept same =>
      exact Or.inl (Or.inr (Or.inl ⟨worker, same ▸ continues⟩))
  | idle notified isIdle wasIdle =>
      rcases wasIdle with isRestart | ⟨before, wasIdle⟩
      · exact (permitted.2.1 isRestart).elim
      · rw [wasIdle] at continues
        cases continues
  | moved workerAction shared isWorker moved sameJobs =>
      subst isWorker
      generalize current : state.workers worker = task at moved continues
      generalize reached : after.workers worker = next at moved
      cases moved with
      | spawn job call reply later progress spawned =>
          rcases spawned.continues?_cases permitted.1 member wanted
              continues with
            ⟨call, isNext, stillContinues⟩ | hasLive | completed | lapses
          · subst isNext
            refine Or.inl (Or.inr (Or.inl ⟨worker, ?_⟩))
            rw [reached]
            exact stillContinues
          · rw [← sameJobs] at hasLive
            exact Or.inl (Or.inl hasLive)
          · rw [← sameJobs] at completed
            exact Or.inr completed
          · refine Or.inl
              (kept.lapse_step permitted taken member wanted ?_)
            simp [lapse?, WorkerTask.lapse?, current, lapses]
      | _ =>
          cases continues

/-- A request about to insert a first instance keeps the chain going. -/
private theorem ChainsKept.request_step
    (kept : state.ChainsKept)
    (permitted : KeepsChains externals state action)
    (taken : step? externals state action = some after)
    {template : Job}
    (member : template ∈ state.jobs.rows)
    (wanted : ScheduledTemplate template)
    {slot : Fin slots}
    (inserts :
      (state.requests slot).insertsFor? = some template.id) :
    after.Continues template.id := by
  cases requestStep_of_step? taken slot with
  | kept same =>
      exact Or.inr (Or.inr ⟨slot, same ▸ inserts⟩)
  | lost isAbsent isRestart =>
      exact (permitted.2.1 isRestart).elim
  | moved requestAction isApi moved =>
      subst isApi
      generalize current : state.requests slot = task at moved inserts
      generalize after.requests slot = next at moved
      change HasLive after.toShared.jobs template.id ∨ _
      generalize shared : after.toShared = later at moved ⊢
      cases moved with
      | create clientId req position action _ _ created =>
          cases created with
          | insertInstance read firstFire id jobs inserted =>
              have sameId : read.id = template.id :=
                Option.some.inj inserts
              have added :=
                (RecordTable.mem_of_insert? inserted).mpr (Or.inr rfl)
              rw [← sameId]
              exact Or.inl ⟨_, added, rfl, rfl⟩
          | duplicateInstance read firstFire id refused =>
              have sameId : read.id = template.id :=
                Option.some.inj inserts
              rw [← shared]
              refine kept.lapse_step permitted taken member wanted ?_
              rw [← sameId]
              simp [lapse?, RequestTask.lapse?, current, refused]
          | fails position message =>
              cases permitted.1
          | _ =>
              cases inserts
      | _ =>
          cases inserts

/-- A template row that is scheduled after a step was so before it. -/
private theorem ChainsKept.scheduled_before
    (kept : state.ChainsKept)
    (taken : step? externals state action = some after)
    {old new : Job}
    (oldMember : old ∈ state.jobs.rows)
    (newMember : new ∈ after.jobs.rows)
    (sameId : new.id = old.id)
    (isTemplate : old.isTemplate = true)
    (scheduled : new.state = .scheduled) :
    old.state = .scheduled := by
  rcases templateChange_of_step? kept.grounded kept.templates taken
      oldMember newMember sameId isTemplate with unchanged | change
  · exact unchanged.symm.trans scheduled
  · rw [scheduled] at change
    cases change

/-- A newly inserted template has its request at the first instance. -/
private theorem continues_of_insertion
    (taken : step? externals state action = some after)
    {template : Job}
    (member : template ∈ after.jobs.rows)
    (fresh : state.jobs.Fresh template)
    (isTemplate : template.isTemplate = true)
    (insertion : state.Inserts externals action template) :
    after.Continues template.id := by
  cases insertion with
  | template slot clientId req recurrence firstFire id creating =>
      have moved := requestMove_of_step? taken
      rw [creating] at moved
      change _ ∈ after.toShared.jobs.rows at member
      generalize reached : after.requests slot = next at moved
      generalize after.toShared = later at moved member
      cases moved with
      | create _ _ _ _ _ _ created =>
          cases created with
          | insertTemplate recurrence firstFire id jobs inserted =>
              refine Or.inr (Or.inr ⟨slot, ?_⟩)
              rw [reached]
              rfl
          | duplicateTemplate =>
              exact (fresh.1 _ member rfl).elim
  | job | firstInstance | nextInstance =>
      cases isTemplate

private theorem ChainsKept.chains_step
    (kept : state.ChainsKept)
    (permitted : KeepsChains externals state action)
    (taken : step? externals state action = some after)
    {template : Job}
    (member : template ∈ after.jobs.rows)
    (isTemplate : template.isTemplate = true)
    (scheduled : template.state = .scheduled) :
    after.Continues template.id := by
  have fromOld :
      ∀ old ∈ state.jobs.rows,
        template.identity = old.identity →
        after.Continues template.id := by
    intro old oldMember identity
    have sameId := Job.id_eq_of_identity identity
    have oldTemplate :=
      (Job.isTemplate_eq_of_identity identity).symm.trans isTemplate
    have oldScheduled :=
      kept.scheduled_before taken oldMember member sameId oldTemplate
        scheduled
    have wanted :=
      kept.scheduledTemplate oldMember oldTemplate oldScheduled
    rw [sameId]
    rcases kept.chains old oldMember oldTemplate oldScheduled with
      hasLive | ⟨worker, continues⟩ | ⟨slot, inserts⟩
    · exact kept.hasLive_step permitted taken oldMember wanted hasLive
    · rcases kept.worker_step permitted taken oldMember wanted
          continues with stillContinues | completed
      · exact stillContinues
      · have isCompleted := completed template member sameId
        rw [scheduled] at isCompleted
        cases isCompleted
    · exact kept.request_step permitted taken oldMember wanted inserts
  cases rowOrigin_of_step? taken member with
  | kept old oldMember identity =>
      exact fromOld old oldMember identity
  | changed old oldMember identity =>
      exact fromOld old oldMember identity
  | inserted fresh insertion =>
      exact continues_of_insertion taken member fresh isTemplate insertion

private theorem ChainsKept.cancelling_step
    (kept : state.ChainsKept)
    (taken : step? externals state action = some after)
    {slot : Fin slots}
    {clientId id : Uuid}
    {templates : Nat}
    (cancelling :
      after.requests slot =
        .cancelling clientId id (.cancelInstances templates))
    {row : Job}
    (member : row ∈ after.jobs.rows)
    (sameId : row.id = id) :
    row.state ≠ .scheduled := by
  intro scheduled
  have found := kept.grounded.requests slot
  cases requestStep_of_step? taken slot with
  | kept same =>
      have before := same.symm.trans cancelling
      rw [before] at found
      obtain ⟨old, oldMember, oldId, _, isTemplate⟩ := found
      exact kept.cancelling slot clientId id templates before old
        oldMember oldId
        (kept.scheduled_before taken oldMember member
          (sameId.trans oldId.symm) isTemplate scheduled)
  | lost isAbsent =>
      rw [cancelling] at isAbsent
      cases isAbsent
  | moved requestAction isApi moved =>
      rw [cancelling] at moved
      obtain ⟨before, rfl⟩ := moved.of_cancelInstances
      rw [before] at found moved
      obtain ⟨owned, ownedMember, ownedId, sameClient, isTemplate⟩ := found
      change row ∈ after.toShared.jobs.rows at member
      generalize after.toShared = later at moved member
      cases moved with
      | cancel _ _ _ _ _ _ cancels =>
          cases cancels with
          | cancelTemplate =>
              have image :=
                RecordTable.image_of_mem_update ownedMember member
                  (sameId.trans ownedId.symm)
              rw [RowUpdate.image_of_applies (by
                simp [JobRepository.cancelTemplate, ownedId, sameClient,
                  isTemplate])] at image
              rw [image] at scheduled
              cases scheduled

/-- Every permitted step keeps the chains of scheduled templates going. -/
theorem ChainsKept.step
    (kept : state.ChainsKept)
    (permitted : KeepsChains externals state action)
    (taken : step? externals state action = some after) :
    after.ChainsKept where
  grounded := kept.grounded.step taken
  templates := kept.templates.step kept.grounded taken
  cancelling := fun _ _ _ _ cancelling _ member sameId =>
    kept.cancelling_step taken cancelling member sameId
  chains := fun _ member isTemplate scheduled =>
    kept.chains_step permitted taken member isTemplate scheduled

theorem chainsKept_initial
    (clock : Time) :
    (initial config slots clock).ChainsKept where
  grounded := grounded_booted clock RecordTable.empty
  templates := templates_initial clock
  cancelling := fun _ _ _ _ cancelling => by cases cancelling
  chains := fun _ member => by cases member

/-! ## Quiescent states -/

/-- No worker is inside its loop body and no request is in progress. -/
def Quiescent (state : State config slots) : Prop :=
  (∀ worker, (state.workers worker).atRest = true) ∧
    ∀ slot, (state.requests slot).inProgress = false

instance (state : State config slots) : Decidable state.Quiescent :=
  inferInstanceAs (Decidable (_ ∧ _))

/-- Every template counted as active has a live instance. -/
def ChainsAlive (state : State config slots) : Prop :=
  ∀ template ∈ state.jobs.rows,
    JobRepository.recurringActive template = true →
    ∃ row ∈ state.jobs.rows,
      row.parentJobId = some template.id ∧ row.state.isLive = true

instance (state : State config slots) : Decidable state.ChainsAlive :=
  inferInstanceAs (Decidable (∀ _ ∈ _, _))

/-- At rest nobody is at work for a template any more. -/
private theorem Quiescent.hasLive
    (quiescent : state.Quiescent)
    {templateId : Uuid}
    (continues : state.Continues templateId) :
    HasLive state.jobs templateId := by
  rcases continues with hasLive | ⟨worker, continues⟩ | ⟨slot, inserts⟩
  · exact hasLive
  · have resting := quiescent.1 worker
    cases current : state.workers worker with
    | spawning job call =>
        rw [current] at resting
        cases resting
    | _ =>
        rw [current] at continues
        cases continues
  · have closed := quiescent.2 slot
    cases current : state.requests slot with
    | creating clientId req position =>
        rw [current] at closed
        cases closed
    | _ =>
        rw [current] at inserts
        cases inserts

/--
In a run that keeps chains, every quiescent state has a live instance for each
template that `count_recurring_active` counts; such a template is scheduled.
-/
theorem chainsAlive_of_keepsChains
    {clock : Time}
    {actions : List (Action config slots)}
    {final : State config slots}
    (run :
      Run externals (KeepsChains externals) (initial config slots clock)
        actions final)
    (quiescent : final.Quiescent) :
    final.ChainsAlive := by
  have kept : final.ChainsKept :=
    run.invariant
      (fun kept permitted taken => kept.step permitted taken)
      (chainsKept_initial clock)
  intro template member active
  simp only [JobRepository.recurringActive, Bool.and_eq_true,
    Bool.not_eq_true', List.contains_eq_mem, decide_eq_false_iff_not,
    List.mem_cons, List.not_mem_nil, or_false, not_or] at active
  obtain ⟨⟨isTemplate, _⟩, notCompleted, notCancelled, _⟩ := active
  have scheduled : template.state = .scheduled := by
    rcases (kept.templates template member isTemplate).state with
      scheduled | completed | cancelled
    · exact scheduled
    · exact (notCompleted completed).elim
    · exact (notCancelled cancelled).elim
  exact quiescent.hasLive
    (kept.chains template member isTemplate scheduled)

end State

/-! ## Concrete runs -/

namespace Sample

/-- The spawn and the iteration of the worker come to their end. -/
def finishSpawn : List (Action config 2) :=
  [ .worker 0 (.spawn .ok),
    .worker 0 (.spawn .ok),
    .worker 0 (.emit .ok),
    .worker 0 .deactivate ]

/-- A successful first instance leaves a second one behind. -/
theorem successful_instance_keeps_chain :
    ∃ final,
      State.Run externals (State.KeepsChains externals)
          (State.initial config 2 0)
          (createRecurring ++ executeInstance ++ completeAndRead ++
            insertNext ++ finishSpawn) final ∧
        final.jobs.rows.map Job.state =
          [.scheduled, .completed, .scheduled] ∧
        final.ChainsAlive := by
  obtain ⟨final, run, states, quiescent⟩ :=
    TransitionSystem.exists_run_of_replay?
      (State.step? externals) (State.KeepsChains externals)
      (State.initial config 2 0)
      (createRecurring ++ executeInstance ++ completeAndRead ++
        insertNext ++ finishSpawn)
      (fun final =>
        final.jobs.rows.map Job.state =
            [.scheduled, .completed, .scheduled] ∧
          final.Quiescent)
      (by decide)
  exact ⟨final, run, states,
    State.chainsAlive_of_keepsChains run quiescent⟩

/-- Template 1 with its first instance, job 2, which is never retried. -/
def createWithoutRetry : List (Action config 2) :=
  [ .api 0 (.arrive
      (.createJob clientId { everyMinute "key" with maxRetries := 0 })),
    .api 0 (.call .ok),
    .api 0 (.call (.inserted 1)),
    .api 0 (.call (.inserted 2)),
    .api 0 .notifyOne,
    .api 0 .notifyOne ]

/-- The first instance fails, and the worker finishes with it. -/
def failInstance : List (Action config 2) :=
  [ .worker 0 (.execute fails),
    .worker 0 (.settle .ok),
    .worker 0 (.emit .ok),
    .worker 0 .deactivate ]

/-- A dead lettered instance is the last one of its scheduled template. -/
theorem dead_lettered_instance_ends_chain :
    ∃ final,
      State.Run externals TransitionSystem.Unrestricted
          (State.initial config 2 0)
          (createWithoutRetry ++ executeInstance ++ failInstance) final ∧
        .restart ∉ createWithoutRetry ++ executeInstance ++
          failInstance ∧
        final.Quiescent ∧
        ∃ template ∈ final.jobs.rows,
          template.isTemplate = true ∧
            template.isRecurring = true ∧
            template.state = .scheduled ∧
            ¬∃ row ∈ final.jobs.rows,
              row.parentJobId = some template.id ∧
                (row.state = .scheduled ∨ row.state = .leased ∨
                  row.state = .running) := by
  obtain ⟨final, run, quiescent, dead⟩ :=
    TransitionSystem.exists_run_of_replay?
      (State.step? externals) TransitionSystem.Unrestricted
      (State.initial config 2 0)
      (createWithoutRetry ++ executeInstance ++ failInstance)
      (fun final =>
        final.Quiescent ∧
          ∃ template ∈ final.jobs.rows,
            template.isTemplate = true ∧
              template.isRecurring = true ∧
              template.state = .scheduled ∧
              ¬∃ row ∈ final.jobs.rows,
                row.parentJobId = some template.id ∧
                  (row.state = .scheduled ∨ row.state = .leased ∨
                    row.state = .running))
      (by decide)
  exact ⟨final, run, by decide, quiescent, dead⟩

end Sample

end Kronkeeper
