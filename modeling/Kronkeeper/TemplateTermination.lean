import Kronkeeper.CancelFinality

namespace Kronkeeper

/-!
# The end of a template

A template ends by its cancel or by its last occurrence.  Neither looks at what
is under way for the template: a spawn that has read it acts on that reading up
to six calls later, and an instance that is leased or running at the cancel can
be scheduled again.  The end is final as long as nothing of the kind is under
way when it happens.
-/

/-! ## Who is at work for a template -/

/-- The template a spawn may still insert an instance of. -/
def SpawnCall.insertsFor? : SpawnCall → Option Uuid
  | .countSiblings template _ => some template.id
  | .lookupKey template _ => some template.id
  | .insertInstance template _ => some template.id
  | _ => none

/-- The template a spawn is about to complete. -/
def SpawnCall.completes? : SpawnCall → Option Uuid
  | .completeTemplate template => some template.id
  | _ => none

def WorkerTask.insertsFor? : WorkerTask → Option Uuid
  | .spawning _ call => call.insertsFor?
  | _ => none

def WorkerTask.completes? : WorkerTask → Option Uuid
  | .spawning _ call => call.completes?
  | _ => none

/-- The template whose first instance a request is about to insert. -/
def RequestTask.insertsFor? : RequestTask → Option Uuid
  | .creating _ _ (.insertInstance template _) => some template.id
  | _ => none

/-- The plan of a spawn goes on to count siblings, not to an end. -/
def SpawnProgress.counts : SpawnProgress → Bool
  | .next (.countSiblings _ _) => true
  | _ => false

section Moves

variable {config : Config} {externals : Externals}
variable {shared after : Shared}

/-- A spawn inserts for a template it was at work for, or has just read. -/
theorem SpawnCall.Move.insertsFor?_cases
    {call next : SpawnCall}
    {reply : Reply}
    (moved : call.Move externals shared reply after (.next next))
    {id : Uuid}
    (inserts : next.insertsFor? = some id) :
    call.insertsFor? = some id ∨
      ∃ lastScheduledAt, ∃ template ∈ shared.jobs.rows,
        call = .readTemplate id lastScheduledAt ∧
          reply = .ok ∧
          template.id = id ∧
          template.state ≠ .cancelled ∧
          (RecurringService.planSpawn externals lastScheduledAt
            (some template)).counts = true := by
  cases moved.successor with
  | count templateId lastScheduledAt template nextFire reads planned =>
      obtain rfl := Option.some.inj inserts
      refine Or.inr ⟨lastScheduledAt, template, reads.member, ?_, rfl,
        rfl, reads.notCancelled, ?_⟩
      · rw [reads.sameId]
      · rw [planned]
        rfl
  | lookup | insert =>
      exact Or.inl inserts
  | _ =>
      cases inserts

/-- A spawn completes a template it has just read. -/
theorem SpawnCall.Move.completes?_cases
    {call next : SpawnCall}
    {reply : Reply}
    (moved : call.Move externals shared reply after (.next next))
    {id : Uuid}
    (completes : next.completes? = some id) :
    ∃ template ∈ shared.jobs.rows,
      template.id = id ∧ template.state ≠ .cancelled := by
  cases moved.successor with
  | complete templateId lastScheduledAt template reads =>
      exact ⟨template, reads.member, Option.some.inj completes,
        reads.notCancelled⟩
  | _ =>
      cases completes

/-- A worker inserts for a template it was at work for, or has just read. -/
theorem WorkerTask.Move.insertsFor?_cases
    {task next : WorkerTask}
    {action : WorkerAction}
    (moved : task.Move config externals shared action after next)
    {id : Uuid}
    (inserts : next.insertsFor? = some id) :
    task.insertsFor? = some id ∨
      ∃ job lastScheduledAt, ∃ template ∈ shared.jobs.rows,
        task = .spawning job (.readTemplate id lastScheduledAt) ∧
          action = .spawn .ok ∧
          template.id = id ∧
          template.state ≠ .cancelled ∧
          (RecurringService.planSpawn externals lastScheduledAt
            (some template)).counts = true := by
  cases next with
  | spawning job call =>
      cases moved.spawnOrigin with
      | goesOn previous reply spawned =>
          rcases spawned.insertsFor?_cases inserts with before | read
          · exact Or.inl before
          · obtain ⟨last, template, member, rfl, rfl, found⟩ := read
            exact Or.inr ⟨job, last, template, member, rfl, rfl, found⟩
      | begins _ _ _ _ _ isRead =>
          subst isRead
          cases inserts
  | _ =>
      cases inserts

/-- A worker completes a template it has just read. -/
theorem WorkerTask.Move.completes?_cases
    {task next : WorkerTask}
    {action : WorkerAction}
    (moved : task.Move config externals shared action after next)
    {id : Uuid}
    (completes : next.completes? = some id) :
    ∃ template ∈ shared.jobs.rows,
      template.id = id ∧ template.state ≠ .cancelled := by
  cases next with
  | spawning job call =>
      cases moved.spawnOrigin with
      | goesOn previous reply spawned =>
          exact spawned.completes?_cases completes
      | begins _ _ _ _ _ isRead =>
          subst isRead
          cases completes
  | _ =>
      cases completes

/-- A request inserts a first instance of a template it has just inserted. -/
theorem RequestTask.Move.insertsFor?_cases
    {task next : RequestTask}
    {action : RequestAction}
    (moved : task.Move externals shared action after next)
    {id : Uuid}
    (inserts : next.insertsFor? = some id) :
    ∀ row ∈ shared.jobs.rows, row.id ≠ id := by
  cases moved with
  | arrive request =>
      cases request <;> simp only [start] at inserts <;> try cases inserts
      all_goals split at inserts <;> cases inserts
  | create clientId req position action after next created =>
      cases created with
      | plan missing =>
          unfold planCreate at inserts
          repeat' split at inserts
          all_goals cases inserts
      | insertTemplate recurrence firstFire newId jobs inserted =>
          obtain rfl := Option.some.inj inserts
          exact (RecordTable.insert?_eq_some_iff.mp inserted).1.1
      | _ =>
          cases inserts
  | cancel clientId target position action after next cancels =>
      cases cancels with
      | read =>
          unfold planCancel at inserts
          repeat' split at inserts
          all_goals cases inserts
      | _ =>
          cases inserts
  | _ =>
      cases inserts

/-- The second write of a template's cancel follows the first. -/
theorem RequestTask.Move.of_cancelInstances
    {task : RequestTask}
    {action : RequestAction}
    {clientId id : Uuid}
    {templates : Nat}
    (moved :
      task.Move externals shared action after
        (.cancelling clientId id (.cancelInstances templates))) :
    task = .cancelling clientId id .cancelTemplate ∧
      action = .call .ok := by
  generalize reached :
    RequestTask.cancelling clientId id (.cancelInstances templates) = next
      at moved
  cases moved with
  | arrive request =>
      cases request <;> simp only [start] at reached <;>
        try cases reached
      all_goals split at reached <;> cases reached
  | create _ _ _ _ _ _ created =>
      cases created with
      | plan missing =>
          unfold planCreate at reached
          repeat' split at reached
          all_goals cases reached
      | _ =>
          cases reached
  | cancel clientId target position action after next cancels =>
      cases cancels with
      | read =>
          unfold planCancel at reached
          repeat' split at reached
          all_goals cases reached
      | cancelTemplate =>
          cases reached
          exact ⟨rfl, rfl⟩
      | _ =>
          cases reached
  | _ =>
      cases reached

end Moves

namespace State

variable {config : Config} {slots : Nat}

/-- A request inserts a first instance of a template in the table. -/
theorem Grounded.exists_template
    {state : State config slots}
    (grounded : state.Grounded)
    {slot : Fin slots}
    {id : Uuid}
    (inserts : (state.requests slot).insertsFor? = some id) :
    ∃ row ∈ state.jobs.rows, row.id = id := by
  have read := grounded.requests slot
  unfold RequestTask.insertsFor? at inserts
  split at inserts
  · rename_i isTask
    rw [isTask] at read
    obtain ⟨row, member, identity⟩ := read.known
    exact ⟨row, member,
      (Job.id_eq_of_identity identity).trans (Option.some.inj inserts)⟩
  · cases inserts

/-- Nobody is about to insert an instance of the template. -/
def NoInsertion (state : State config slots) (id : Uuid) : Prop :=
  (∀ worker, (state.workers worker).insertsFor? ≠ some id) ∧
    ∀ slot, (state.requests slot).insertsFor? ≠ some id

/-- Nobody is about to complete the template. -/
def NoCompletion (state : State config slots) (id : Uuid) : Prop :=
  ∀ worker, (state.workers worker).completes? ≠ some id

/-- No instance of the template can be scheduled again. -/
def InstancesOver (state : State config slots) (id : Uuid) : Prop :=
  ∀ row ∈ state.jobs.rows,
    row.parentJobId = some id →
    row.state ≠ .leased ∧ row.state ≠ .running ∧ state.NoCopy row.id

/-- The template whose instances a step cancels. -/
def cancelledInstances?
    (state : State config slots) : Action config slots → Option Uuid
  | .api slot (.call .ok) =>
      match state.requests slot with
      | .cancelling _ id (.cancelInstances _) => some id
      | _ => none
  | _ => none

/-- The template a spawn reads, and the instant it goes on from. -/
def readTemplate?
    (state : State config slots) :
    Action config slots → Option (Uuid × Time)
  | .worker worker (.spawn .ok) =>
      match state.workers worker with
      | .spawning _ (.readTemplate id lastScheduledAt) =>
          some (id, lastScheduledAt)
      | _ => none
  | _ => none

/-- A template ends only while nothing under way can undo its end. -/
def EndsTemplatesCleanly
    (externals : Externals)
    (state : State config slots)
    (action : Action config slots) : Prop :=
  (∀ id ∈ state.cancelledTemplate? action,
      state.NoInsertion id ∧ state.NoCompletion id ∧
        ∀ row ∈ state.jobs.rows, row.id = id → row.state ≠ .completed) ∧
    (∀ id ∈ state.cancelledInstances? action, state.InstancesOver id) ∧
    (∀ id ∈ state.completedTemplate? action, state.NoInsertion id) ∧
    ∀ read ∈ state.readTemplate? action,
      ∀ row ∈ state.jobs.rows,
        row.id = read.1 →
        row.state = .completed →
        (RecurringService.planSpawn externals read.2
          (some row)).counts = false

instance (state : State config slots) (id : Uuid) :
    Decidable (state.NoInsertion id) :=
  inferInstanceAs (Decidable (_ ∧ _))

instance (state : State config slots) (id : Uuid) :
    Decidable (state.NoCompletion id) :=
  inferInstanceAs (Decidable (∀ _, _))

instance (state : State config slots) (id : Uuid) :
    Decidable (state.InstancesOver id) :=
  inferInstanceAs (Decidable (∀ _ ∈ _, _))

instance
    (externals : Externals)
    (state : State config slots)
    (action : Action config slots) :
    Decidable (EndsTemplatesCleanly externals state action) :=
  have cancels := (state.cancelledTemplate? action).decidableForallMem
  have sweeps := (state.cancelledInstances? action).decidableForallMem
  have completes := (state.completedTemplate? action).decidableForallMem
  have reads := (state.readTemplate? action).decidableForallMem
  @instDecidableAnd _ _ cancels
    (@instDecidableAnd _ _ sweeps (@instDecidableAnd _ _ completes reads))

/-- The template has ended, and nothing under way can undo it. -/
structure Sealed
    (state : State config slots)
    (id : Uuid)
    (outcome : JobState) : Prop where
  row :
    ∃ row ∈ state.jobs.rows,
      row.id = id ∧ row.isTemplate = true ∧ row.state = outcome
  terminal : outcome = .completed ∨ outcome = .cancelled
  noInsertion : state.NoInsertion id
  noCompletion : outcome = .cancelled → state.NoCompletion id

/-- The step inserted no instance of the template. -/
def NoNewInstance (before after : State config slots) (id : Uuid) : Prop :=
  ∀ row ∈ after.jobs.rows,
    row.parentJobId = some id →
    ∃ old ∈ before.jobs.rows, old.identity = row.identity

theorem NoNewInstance.refl
    (state : State config slots)
    (id : Uuid) :
    NoNewInstance state state id :=
  fun row member _ => ⟨row, member, rfl⟩

theorem NoNewInstance.trans
    {first second third : State config slots}
    {id : Uuid}
    (earlier : NoNewInstance first second id)
    (later : NoNewInstance second third id) :
    NoNewInstance first third id := by
  intro row member isInstance
  obtain ⟨middle, middleMember, middleSame⟩ := later row member isInstance
  obtain ⟨old, oldMember, oldSame⟩ :=
    earlier middle middleMember
      ((Job.parentJobId_eq_of_identity middleSame).trans isInstance)
  exact ⟨old, oldMember, oldSame.trans middleSame⟩

section Steps

variable {externals : Externals}
variable {state after : State config slots}
variable {action : Action config slots}
variable {id : Uuid} {outcome : JobState}

/-- Without an insertion under way a step inserts no instance. -/
theorem NoInsertion.noNewInstance
    (noInsertion : state.NoInsertion id)
    (taken : step? externals state action = some after) :
    NoNewInstance state after id := by
  intro row member isInstance
  cases rowOrigin_of_step? taken member with
  | kept old oldMember identity =>
      exact ⟨old, oldMember, identity.symm⟩
  | changed old oldMember identity =>
      exact ⟨old, oldMember, identity.symm⟩
  | inserted fresh insertion =>
      cases insertion with
      | job | template =>
          cases isInstance
      | firstInstance slot clientId req template firstFire newId creating =>
          refine (noInsertion.2 slot ?_).elim
          rw [creating]
          exact isInstance
      | nextInstance worker job template nextFire newId spawning =>
          refine (noInsertion.1 worker ?_).elim
          rw [spawning]
          exact isInstance

/-- Nobody sets out to insert unless a spawn reads the template and goes on. -/
private theorem NoInsertion.step
    (noInsertion : state.NoInsertion id)
    (taken : step? externals state action = some after)
    {old : Job}
    (oldMember : old ∈ state.jobs.rows)
    (oldId : old.id = id)
    (stops :
      ∀ worker job last,
        action = .worker worker (.spawn .ok) →
        state.workers worker = .spawning job (.readTemplate id last) →
        old.state ≠ .cancelled →
        (RecurringService.planSpawn externals last (some old)).counts =
          false) :
    after.NoInsertion id := by
  constructor
  · intro worker inserts
    cases workerStep_of_step? taken worker with
    | kept same =>
        exact noInsertion.1 worker (same ▸ inserts)
    | idle notified isIdle =>
        rw [isIdle] at inserts
        cases inserts
    | moved workerAction shared isWorker moved =>
        rcases moved.insertsFor?_cases inserts with before | read
        · exact noInsertion.1 worker before
        · obtain ⟨job, last, template, member, spawning, isRead, sameId,
            notCancelled, counts⟩ := read
          have isOld : template = old :=
            RecordTable.eq_of_primary member oldMember
              (sameId.trans oldId.symm)
          subst isOld
          rw [stops worker job last (isWorker.trans (isRead ▸ rfl))
            spawning notCancelled] at counts
          cases counts
  · intro slot inserts
    cases requestStep_of_step? taken slot with
    | kept same =>
        exact noInsertion.2 slot (same ▸ inserts)
    | lost isAbsent =>
        rw [isAbsent] at inserts
        cases inserts
    | moved requestAction isApi moved =>
        exact moved.insertsFor?_cases inserts old oldMember oldId

/-- Nobody sets out to insert an instance of a sealed template. -/
private theorem Sealed.noInsertion_step
    (sealed : state.Sealed id outcome)
    (permitted : EndsTemplatesCleanly externals state action)
    (taken : step? externals state action = some after) :
    after.NoInsertion id := by
  obtain ⟨old, oldMember, oldId, _, oldState⟩ := sealed.row
  refine sealed.noInsertion.step taken oldMember oldId ?_
  intro worker job last isRead spawning notCancelled
  rcases sealed.terminal with completed | cancelled
  · have reads : state.readTemplate? action = some (id, last) := by
      simp [readTemplate?, isRead, spawning]
    exact permitted.2.2.2 _ reads old oldMember oldId
      (oldState.trans completed)
  · exact (notCancelled (oldState.trans cancelled)).elim

/-- Nobody sets out to complete a cancelled template. -/
private theorem Sealed.noCompletion_step
    (sealed : state.Sealed id .cancelled)
    (taken : step? externals state action = some after) :
    after.NoCompletion id := by
  obtain ⟨old, oldMember, oldId, _, oldState⟩ := sealed.row
  intro worker completes
  cases workerStep_of_step? taken worker with
  | kept same =>
      exact sealed.noCompletion rfl worker (same ▸ completes)
  | idle notified isIdle =>
      rw [isIdle] at completes
      cases completes
  | moved workerAction shared isWorker moved =>
      obtain ⟨template, member, sameId, notCancelled⟩ :=
        moved.completes?_cases completes
      rw [RecordTable.eq_of_primary member oldMember
        (sameId.trans oldId.symm)] at notCancelled
      exact notCancelled oldState

/-- A sealed template stays sealed, in the state in which it ended. -/
theorem Sealed.step
    (sealed : state.Sealed id outcome)
    (grounded : state.Grounded)
    (templates : state.TemplateRows)
    (permitted : EndsTemplatesCleanly externals state action)
    (taken : step? externals state action = some after) :
    after.Sealed id outcome where
  row := by
    obtain ⟨old, oldMember, oldId, isTemplate, oldState⟩ := sealed.row
    obtain ⟨new, newMember, identity⟩ :=
      extends_of_step? taken old oldMember
    have sameId := Job.id_eq_of_identity identity
    refine ⟨new, newMember, sameId.trans oldId,
      (Job.isTemplate_eq_of_identity identity).trans isTemplate, ?_⟩
    rcases templateChange_of_step? grounded templates taken oldMember
        newMember sameId isTemplate with unchanged | change
    · exact unchanged.trans oldState
    · generalize new.state = written at change
      cases change with
      | cancel slot clientId cancelling =>
          obtain ⟨_, _, notCompleted⟩ :=
            permitted.1 _ (cancelledTemplate?_eq cancelling)
          rcases sealed.terminal with completed | cancelled
          · exact (notCompleted old oldMember rfl
              (oldState.trans completed)).elim
          · exact cancelled.symm
      | complete worker job template spawning templateId =>
          rcases sealed.terminal with completed | cancelled
          · exact completed.symm
          · refine (sealed.noCompletion cancelled worker ?_).elim
            rw [spawning, ← oldId, templateId]
            rfl
  terminal := sealed.terminal
  noInsertion := sealed.noInsertion_step permitted taken
  noCompletion := by
    rintro rfl
    exact sealed.noCompletion_step taken

/-- The cancel of a template seals it. -/
private theorem sealed_of_cancelTemplate
    (grounded : state.Grounded)
    {slot : Fin slots}
    {clientId : Uuid}
    (cancelling :
      state.requests slot = .cancelling clientId id .cancelTemplate)
    (permitted :
      EndsTemplatesCleanly externals state (.api slot (.call .ok)))
    (taken :
      step? externals state (.api slot (.call .ok)) = some after) :
    after.Sealed id .cancelled := by
  obtain ⟨noInsertion, noCompletion, _⟩ :=
    permitted.1 _ (cancelledTemplate?_eq cancelling)
  have found := grounded.requests slot
  rw [cancelling] at found
  obtain ⟨old, oldMember, oldId, sameClient, isTemplate⟩ := found
  refine ⟨?_, Or.inr rfl, ?_, ?_⟩
  · cases move_of_step? taken with
    | api caller requestAction shared task moved =>
        rw [cancelling] at moved
        cases moved with
        | cancel _ _ _ _ _ _ cancels =>
            cases cancels with
            | cancelTemplate =>
                have applies :
                    (JobRepository.cancelTemplate state.clock id
                      clientId).applies old = true := by
                  simp [JobRepository.cancelTemplate, oldId, sameClient,
                    isTemplate]
                refine ⟨_, RecordTable.mem_update.mpr
                  ⟨old, oldMember, rfl⟩, ?_⟩
                rw [RowUpdate.image_of_applies applies]
                exact ⟨oldId, isTemplate, rfl⟩
  · exact noInsertion.step taken oldMember oldId
      fun _ _ _ isSpawn => by cases isSpawn
  · intro _ worker completes
    cases workerStep_of_step? taken worker with
    | kept same =>
        exact noCompletion worker (same ▸ completes)
    | idle notified isIdle =>
        rw [isIdle] at completes
        cases completes
    | moved workerAction shared isWorker =>
        cases isWorker

/-- The completion of a template seals it, unless it was cancelled. -/
private theorem noInsertion_of_completeTemplate
    {worker : Fin config.workerCount}
    {job template : Job}
    (spawning :
      state.workers worker = .spawning job (.completeTemplate template))
    (permitted :
      EndsTemplatesCleanly externals state (.worker worker (.spawn .ok)))
    (taken :
      step? externals state (.worker worker (.spawn .ok)) = some after)
    {old : Job}
    (oldMember : old ∈ state.jobs.rows)
    (oldId : old.id = template.id) :
    after.NoInsertion template.id := by
  have noInsertion :=
    permitted.2.2.1 _ (completedTemplate?_eq spawning)
  refine noInsertion.step taken oldMember oldId ?_
  intro other otherJob last isSpawn otherSpawning
  cases isSpawn
  rw [spawning] at otherSpawning
  cases otherSpawning

/-- The template is cancelled, and its instances are out of reach. -/
structure Over (state : State config slots) (id : Uuid) : Prop where
  sealed : state.Sealed id .cancelled
  instances :
    ∀ row ∈ state.jobs.rows,
      row.parentJobId = some id → state.Inert row.id

/-- A template that is over stays over. -/
theorem Over.step
    (isOver : state.Over id)
    (grounded : state.Grounded)
    (templates : state.TemplateRows)
    (permitted : EndsTemplatesCleanly externals state action)
    (taken : step? externals state action = some after) :
    after.Over id where
  sealed := isOver.sealed.step grounded templates permitted taken
  instances := by
    intro row member isInstance
    obtain ⟨old, oldMember, identity⟩ :=
      isOver.sealed.noInsertion.noNewInstance taken row member isInstance
    have inert :=
      isOver.instances old oldMember
        ((Job.parentJobId_eq_of_identity identity).trans isInstance)
    rw [← Job.id_eq_of_identity identity]
    exact inert.step taken

/-- The second write of a template's cancel puts its instances out of reach. -/
private theorem over_of_cancelInstances
    (sealed : state.Sealed id .cancelled)
    {slot : Fin slots}
    {clientId : Uuid}
    {templates : Nat}
    (cancelling :
      state.requests slot =
        .cancelling clientId id (.cancelInstances templates))
    (grounded : state.Grounded)
    (rows : state.TemplateRows)
    (permitted :
      EndsTemplatesCleanly externals state (.api slot (.call .ok)))
    (taken :
      step? externals state (.api slot (.call .ok)) = some after)
    (sameJobs :
      after.jobs =
        state.jobs.update
          (JobRepository.cancelInstances state.clock id)) :
    after.Over id := by
  refine ⟨sealed.step grounded rows permitted taken, ?_⟩
  have instancesOver :=
    permitted.2.1 id (by simp [cancelledInstances?, cancelling])
  intro row member isInstance
  have sameCopies : ∀ other, state.NoCopy other → after.NoCopy other := by
    intro other noCopy
    cases move_of_step? taken with
    | api caller requestAction shared task moved =>
        refine ⟨noCopy.hand, ?_, noCopy.holder⟩
        change other ∉ shared.channel.map Job.id
        rw [moved.channel_eq]
        exact noCopy.queue
  obtain ⟨old, oldMember, isImage⟩ :=
    RecordTable.mem_update.mp (sameJobs ▸ member)
  have identity :
      row.identity = old.identity := by
    rw [← isImage]
    exact RowUpdate.identity_image _ old
  have oldInstance :=
    (Job.parentJobId_eq_of_identity identity).symm.trans isInstance
  obtain ⟨notLeased, notRunning, noCopy⟩ :=
    instancesOver old oldMember oldInstance
  have notLive :
      row.state ≠ .scheduled ∧ row.state ≠ .leased ∧
        row.state ≠ .running := by
    by_cases scheduled : old.state = .scheduled
    · rw [← isImage, RowUpdate.image_of_applies (by
        simp [JobRepository.cancelInstances, oldInstance, scheduled])]
      simp [JobRepository.cancelInstances]
    · rw [← isImage, RowUpdate.image_of_not_applies (by
        simp [JobRepository.cancelInstances, scheduled])]
      exact ⟨scheduled, notLeased, notRunning⟩
  refine ⟨⟨row, member, rfl⟩, ?_, ?_⟩
  · intro other otherMember sameId
    rw [RecordTable.eq_of_primary otherMember member sameId]
    exact notLive
  · rw [Job.id_eq_of_identity identity]
    exact sameCopies old.id noCopy

/-- What the ends of templates have left behind in a permitted run. -/
structure TemplatesEnd (state : State config slots) : Prop where
  grounded : state.Grounded
  templates : state.TemplateRows
  sealed :
    ∀ row ∈ state.jobs.rows,
      row.isTemplate = true →
      (row.state = .completed ∨ row.state = .cancelled) →
      state.Sealed row.id row.state
  cancelling :
    ∀ slot clientId id templates,
      state.requests slot =
        .cancelling clientId id (.cancelInstances templates) →
      state.Sealed id .cancelled
  isOver :
    ∀ slot id,
      (state.requests slot).cancelled? = some id →
      ∃ row ∈ state.jobs.rows,
        row.id = id ∧ (row.isTemplate = true → state.Over id)

theorem templatesEnd_initial
    (clock : Time) :
    (initial config slots clock).TemplatesEnd where
  grounded := grounded_booted clock RecordTable.empty
  templates := templates_initial clock
  sealed := fun _ member => by cases member
  cancelling := fun _ _ _ _ cancelling => by cases cancelling
  isOver := fun _ _ cancelled => by cases cancelled

private theorem TemplatesEnd.sealed_step
    (ends : state.TemplatesEnd)
    (permitted : EndsTemplatesCleanly externals state action)
    (taken : step? externals state action = some after)
    {row : Job}
    (member : row ∈ after.jobs.rows)
    (isTemplate : row.isTemplate = true)
    (terminal : row.state = .completed ∨ row.state = .cancelled) :
    after.Sealed row.id row.state := by
  have fromOld :
      ∀ old ∈ state.jobs.rows,
        row.identity = old.identity →
        after.Sealed row.id row.state := by
    intro old oldMember identity
    have sameId := Job.id_eq_of_identity identity
    have oldTemplate :=
      (Job.isTemplate_eq_of_identity identity).symm.trans isTemplate
    rcases templateChange_of_step? ends.grounded ends.templates taken
        oldMember member sameId oldTemplate with unchanged | change
    · rw [unchanged] at terminal ⊢
      rw [sameId]
      exact (ends.sealed old oldMember oldTemplate terminal).step
        ends.grounded ends.templates permitted taken
    · generalize written : row.state = new at change terminal ⊢
      cases change with
      | cancel slot clientId cancelling =>
          rw [sameId]
          exact sealed_of_cancelTemplate ends.grounded cancelling permitted
            taken
      | complete worker job template spawning templateId =>
          have noInsertion :=
            noInsertion_of_completeTemplate spawning permitted taken
              oldMember templateId
          rw [sameId, templateId]
          exact ⟨⟨row, member, sameId.trans templateId, isTemplate,
            written⟩, Or.inl rfl, noInsertion, nofun⟩
  cases rowOrigin_of_step? taken member with
  | kept old oldMember identity =>
      exact fromOld old oldMember identity
  | changed old oldMember identity =>
      exact fromOld old oldMember identity
  | inserted fresh insertion =>
      cases insertion <;> rcases terminal with completed | cancelled
      all_goals first | cases completed | cases cancelled

private theorem TemplatesEnd.cancelling_step
    (ends : state.TemplatesEnd)
    (permitted : EndsTemplatesCleanly externals state action)
    (taken : step? externals state action = some after)
    {slot : Fin slots}
    {clientId : Uuid}
    {templates : Nat}
    (cancelling :
      after.requests slot =
        .cancelling clientId id (.cancelInstances templates)) :
    after.Sealed id .cancelled := by
  cases requestStep_of_step? taken slot with
  | kept same =>
      exact (ends.cancelling slot clientId id templates
        (same.symm.trans cancelling)).step ends.grounded ends.templates
          permitted taken
  | lost isAbsent =>
      rw [cancelling] at isAbsent
      cases isAbsent
  | moved requestAction isApi moved =>
      rw [cancelling] at moved
      obtain ⟨before, rfl⟩ := moved.of_cancelInstances
      subst isApi
      exact sealed_of_cancelTemplate ends.grounded before permitted taken

private theorem TemplatesEnd.over_step
    (ends : state.TemplatesEnd)
    (permitted : EndsTemplatesCleanly externals state action)
    (taken : step? externals state action = some after)
    {slot : Fin slots}
    (cancelled : (after.requests slot).cancelled? = some id) :
    ∃ row ∈ after.jobs.rows,
      row.id = id ∧ (row.isTemplate = true → after.Over id) := by
  have fromOld :
      ∀ old ∈ state.jobs.rows,
        old.id = id →
        (old.isTemplate = true → after.Over id) →
        ∃ row ∈ after.jobs.rows,
          row.id = id ∧ (row.isTemplate = true → after.Over id) := by
    intro old oldMember oldId isOver
    obtain ⟨new, newMember, identity⟩ :=
      extends_of_step? taken old oldMember
    exact ⟨new, newMember, (Job.id_eq_of_identity identity).trans oldId,
      fun isTemplate =>
        isOver ((Job.isTemplate_eq_of_identity identity).symm.trans
          isTemplate)⟩
  have stable
      (before : (state.requests slot).cancelled? = some id) :
      ∃ row ∈ after.jobs.rows,
        row.id = id ∧ (row.isTemplate = true → after.Over id) := by
    obtain ⟨old, oldMember, oldId, isOver⟩ := ends.isOver slot id before
    exact fromOld old oldMember oldId fun isTemplate =>
      (isOver isTemplate).step ends.grounded ends.templates permitted taken
  have found := ends.grounded.requests slot
  cases requestStep_of_step? taken slot with
  | kept same =>
      exact stable (same ▸ cancelled)
  | lost isAbsent =>
      rw [isAbsent] at cancelled
      cases cancelled
  | moved requestAction isApi moved =>
      rcases moved.cancelled?_cases cancelled with
        before | ⟨clientId, cancelling, _⟩ |
          ⟨clientId, templates, cancelling, isCall, sameShared⟩
      · exact stable before
      · rw [cancelling] at found
        obtain ⟨old, oldMember, oldId, _, notTemplate⟩ := found
        refine fromOld old oldMember oldId fun isTemplate => ?_
        rw [notTemplate] at isTemplate
        cases isTemplate
      · rw [cancelling] at found
        obtain ⟨old, oldMember, oldId, _⟩ := found
        subst isCall isApi
        exact fromOld old oldMember oldId fun _ =>
          over_of_cancelInstances
            (ends.cancelling slot clientId id templates cancelling)
            cancelling ends.grounded ends.templates permitted taken
            (congrArg Shared.jobs sameShared)

/-- Every permitted step leaves the ends of templates final. -/
theorem TemplatesEnd.step
    (ends : state.TemplatesEnd)
    (permitted : EndsTemplatesCleanly externals state action)
    (taken : step? externals state action = some after) :
    after.TemplatesEnd where
  grounded := ends.grounded.step taken
  templates := ends.templates.step ends.grounded taken
  sealed := fun _ member isTemplate terminal =>
    ends.sealed_step permitted taken member isTemplate terminal
  cancelling := fun _ _ _ _ cancelling =>
    ends.cancelling_step permitted taken cancelling
  isOver := fun _ _ cancelled => ends.over_step permitted taken cancelled

/-- Over a permitted run a sealed template stays sealed and childless. -/
theorem Sealed.run
    {actions : List (Action config slots)}
    {final : State config slots}
    (sealed : state.Sealed id outcome)
    (ends : state.TemplatesEnd)
    (run :
      Run externals (EndsTemplatesCleanly externals) state actions final) :
    final.Sealed id outcome ∧ NoNewInstance state final id := by
  induction run with
  | nil state =>
      exact ⟨sealed, .refl state id⟩
  | cons permitted taken _ inductionHypothesis =>
      have next :=
        sealed.step ends.grounded ends.templates permitted taken
      have noNew := sealed.noInsertion.noNewInstance taken
      obtain ⟨last, laterNoNew⟩ :=
        inductionHypothesis next (ends.step permitted taken)
      exact ⟨last, noNew.trans laterNoNew⟩

/-- Over a permitted run a template that is over stays over. -/
theorem Over.run
    {actions : List (Action config slots)}
    {final : State config slots}
    (isOver : state.Over id)
    (ends : state.TemplatesEnd)
    (run :
      Run externals (EndsTemplatesCleanly externals) state actions final) :
    final.Over id := by
  induction run with
  | nil =>
      exact isOver
  | cons permitted taken _ inductionHypothesis =>
      exact inductionHypothesis
        (isOver.step ends.grounded ends.templates permitted taken)
        (ends.step permitted taken)

end Steps

/--
In a run whose templates end while nothing under way can undo it, a terminal
template keeps its state and gets no further instance, and after the 204 of its
cancel none of its instances is scheduled.
-/
theorem ended_template_stays_ended
    {externals : Externals}
    {clock : Time}
    {earlier later : List (Action config slots)}
    {middle final : State config slots}
    (reached :
      Run externals (EndsTemplatesCleanly externals)
        (initial config slots clock) earlier middle)
    (continued :
      Run externals (EndsTemplatesCleanly externals) middle later final) :
    (∀ template ∈ middle.jobs.rows,
        template.isTemplate = true →
        (template.state = .completed ∨ template.state = .cancelled) →
        (∀ row ∈ final.jobs.rows,
            row.id = template.id → row.state = template.state) ∧
          NoNewInstance middle final template.id) ∧
      ∀ slot clientId, ∀ template ∈ middle.jobs.rows,
        template.isTemplate = true →
        middle.requests slot =
          .answered (.cancelJob clientId template.id) .noContent →
        ∀ row ∈ final.jobs.rows,
          row.parentJobId = some template.id →
          row.state ≠ .scheduled := by
  have ends : middle.TemplatesEnd :=
    reached.invariant
      (fun ends permitted taken => ends.step permitted taken)
      (templatesEnd_initial clock)
  constructor
  · intro template member isTemplate terminal
    obtain ⟨last, noNew⟩ :=
      (ends.sealed template member isTemplate terminal).run ends continued
    refine ⟨?_, noNew⟩
    intro row rowMember sameId
    obtain ⟨other, otherMember, otherId, _, otherState⟩ := last.row
    rw [RecordTable.eq_of_primary rowMember otherMember
      (sameId.trans otherId.symm)]
    exact otherState
  · intro slot clientId template member isTemplate answered row rowMember
      isInstance
    obtain ⟨other, otherMember, otherId, isOver⟩ :=
      ends.isOver slot template.id (by rw [answered]; rfl)
    have sameRow : other = template :=
      RecordTable.eq_of_primary otherMember member otherId
    have last := (isOver (sameRow ▸ isTemplate)).run ends continued
    exact ((last.instances row rowMember isInstance).notLive row rowMember
      rfl).1

end State

/-! ## Concrete runs -/

namespace Sample

/-- The cancel of template 1, up to its 204. -/
def cancelTemplate : List (Action config 2) :=
  [ .api 1 (.arrive (.cancelJob clientId 1)),
    .api 1 (.call .ok),
    .api 1 (.call .ok),
    .api 1 (.call .ok),
    .api 1 .notifyOne ]

/-- A template that is cancelled before its first instance is leased. -/
theorem cancelled_template_is_over :
    ∃ middle final,
      State.Run externals (State.EndsTemplatesCleanly externals)
          (State.initial config 2 0)
          (createRecurring ++ cancelTemplate) middle ∧
        State.Run externals (State.EndsTemplatesCleanly externals) middle
          [.scheduler (.refresh []), .tick 60000000, .restart] final ∧
        middle.jobs.rows.map Job.state = [.cancelled, .cancelled] ∧
        ((∀ template ∈ middle.jobs.rows,
            template.isTemplate = true →
            (template.state = .completed ∨
              template.state = .cancelled) →
            (∀ row ∈ final.jobs.rows,
                row.id = template.id → row.state = template.state) ∧
              State.NoNewInstance middle final template.id) ∧
          ∀ slot clientId, ∀ template ∈ middle.jobs.rows,
            template.isTemplate = true →
            middle.requests slot =
              .answered (.cancelJob clientId template.id) .noContent →
            ∀ row ∈ final.jobs.rows,
              row.parentJobId = some template.id →
              row.state ≠ .scheduled) := by
  obtain ⟨middle, final, reached, continued, cancelled⟩ :=
    TransitionSystem.exists_runs_of_replay?
      (State.step? externals) (State.EndsTemplatesCleanly externals)
      (State.initial config 2 0) (createRecurring ++ cancelTemplate)
      [.scheduler (.refresh []), .tick 60000000, .restart]
      (fun middle _ =>
        middle.jobs.rows.map Job.state = [.cancelled, .cancelled])
      (by decide)
  exact ⟨middle, final, reached, continued, cancelled,
    State.ended_template_stays_ended reached continued⟩

/-- The first instance succeeds, and its spawn reads the template. -/
def completeAndRead : List (Action config 2) :=
  [ .worker 0 (.execute succeeds),
    .worker 0 (.settle .ok),
    .worker 0 (.spawn .ok) ]

/-- The spawn counts siblings, finds its key free and inserts job 3. -/
def insertNext : List (Action config 2) :=
  [ .worker 0 (.spawn .ok),
    .worker 0 (.spawn .ok),
    .worker 0 (.spawn (.inserted 3)) ]

/-- A spawn that read its template before the cancel inserts after the 204. -/
theorem cancelled_template_gets_instance :
    ∃ middle final,
      State.Run externals TransitionSystem.Unrestricted
          (State.initial config 2 0)
          (createRecurring ++ executeInstance ++ completeAndRead ++
            cancelTemplate) middle ∧
        State.Run externals TransitionSystem.Unrestricted middle
          insertNext final ∧
        (∃ template ∈ middle.jobs.rows,
          template.id = 1 ∧ template.isTemplate = true ∧
            template.state = .cancelled) ∧
        middle.requests 1 =
          .answered (.cancelJob clientId 1) .noContent ∧
        (∀ row ∈ middle.jobs.rows, row.id ≠ 3) ∧
        ∃ row ∈ final.jobs.rows,
          row.id = 3 ∧ row.parentJobId = some 1 ∧
            row.state = .scheduled :=
  TransitionSystem.exists_runs_of_replay?
    (State.step? externals) TransitionSystem.Unrestricted
    (State.initial config 2 0)
    (createRecurring ++ executeInstance ++ completeAndRead ++
      cancelTemplate)
    insertNext
    (fun middle final =>
      (∃ template ∈ middle.jobs.rows,
          template.id = 1 ∧ template.isTemplate = true ∧
            template.state = .cancelled) ∧
        middle.requests 1 =
          .answered (.cancelJob clientId 1) .noContent ∧
        (∀ row ∈ middle.jobs.rows, row.id ≠ 3) ∧
        ∃ row ∈ final.jobs.rows,
          row.id = 3 ∧ row.parentJobId = some 1 ∧
            row.state = .scheduled)
    (by decide)

end Sample

end Kronkeeper
