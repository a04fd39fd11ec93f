import Kronkeeper.TenantIntegrity

namespace Kronkeeper

/-!
# What a client learns about other clients' rows

Two daemons run the same requests of one client over tables that agree on the
client's rows.  Every query filters by client but two: the lookup of an
idempotency key, and the uniqueness check of an `INSERT`.  The client's view is
the same in both runs exactly if neither of these meets a foreign row.
-/

/-- The row belongs to the client. -/
def OwnedBy (clientId : Uuid) (row : JobIdentity) : Prop :=
  row.clientId = some clientId

namespace JobTable

variable {before after : JobTable}
variable {clientId : Uuid}

/-- The id names a row of the client. -/
def Owns (jobs : JobTable) (clientId id : Uuid) : Prop :=
  jobs.Has fun row => row.id = id ∧ row.clientId = some clientId

theorem owns_of_mem
    {row : Job}
    (member : row ∈ before.rows)
    (isOwn : row.clientId = some clientId) :
    before.Owns clientId row.id :=
  ⟨row, member, rfl, isOwn⟩

/-- The id of a foreign row names no row of the client. -/
theorem not_owns_of_mem
    {row : Job}
    (member : row ∈ before.rows)
    (isForeign : row.clientId ≠ some clientId) :
    ¬before.Owns clientId row.id := by
  rintro ⟨own, ownMember, sameId, isOwn⟩
  rw [RecordTable.eq_of_primary ownMember member sameId] at isOwn
  exact isForeign isOwn

end JobTable

namespace RequestTask

/-- Every job a request answers, or is about to, is one of the client. -/
def ShowsOwn (clientId : Uuid) (jobs : JobTable) : RequestTask → Prop
  | .creating _ _ (.insertInstance template _) =>
      template.clientId = some clientId
  | .creating _ _ (.notifyRecurring _ job) => jobs.Owns clientId job.id
  | .creating _ _ (.notify job) => jobs.Owns clientId job.id
  | .cancelling _ _ (.cancelInstances templates) => 0 < templates
  | .patching _ _ _ (.notify job) => jobs.Owns clientId job.id
  | .answered _ response =>
      ∀ body ∈ response.body?, jobs.Owns clientId body.id
  | _ => True

theorem ShowsOwn.grow
    {clientId : Uuid}
    {before after : JobTable}
    {task : RequestTask}
    (shows : task.ShowsOwn clientId before)
    (growth : before.Extends after) :
    task.ShowsOwn clientId after := by
  unfold ShowsOwn at *
  split
  · exact shows
  · exact RecordTable.Has.grow shows growth
  · exact RecordTable.Has.grow shows growth
  · exact shows
  · exact RecordTable.Has.grow shows growth
  · exact fun body isBody =>
      RecordTable.Has.grow (shows body isBody) growth
  · trivial

/-- The idempotency key a request looks up. -/
def looksUp? : RequestTask → RequestAction → Option String
  | .creating _ req .lookup, .call .ok => some req.idempotencyKey
  | _, _ => none

/-- No row of another client answers to the key. -/
def FindsOwn
    (clientId : Uuid)
    (jobs : JobTable)
    (idempotencyKey : String) : Prop :=
  ∀ row ∈ JobRepository.getByIdempotencyKey jobs idempotencyKey,
    row.clientId = some clientId

/--
The step finds no foreign row by its key, and both tables take the row it
inserts or both refuse it.
-/
def SeesAlike
    (externals : Externals)
    (clientId : Uuid)
    (first second : Shared)
    (task : RequestTask)
    (action : RequestAction) : Prop :=
  (∀ idempotencyKey ∈ task.looksUp? action,
      FindsOwn clientId first.jobs idempotencyKey ∧
        FindsOwn clientId second.jobs idempotencyKey) ∧
    ∀ row ∈ task.insertsRow? externals first.clock action,
      first.jobs.Fresh row ↔ second.jobs.Fresh row

instance decidableFindsOwn
    (clientId : Uuid)
    (jobs : JobTable)
    (idempotencyKey : String) :
    Decidable (FindsOwn clientId jobs idempotencyKey) :=
  (JobRepository.getByIdempotencyKey jobs
    idempotencyKey).decidableForallMem

instance decidableSeesAlike
    (externals : Externals)
    (clientId : Uuid)
    (first second : Shared)
    (task : RequestTask)
    (action : RequestAction) :
    Decidable
      (task.SeesAlike externals clientId first second action) :=
  have looks := (task.looksUp? action).decidableForallMem
  have inserts :=
    (task.insertsRow? externals first.clock action).decidableForallMem
  @instDecidableAnd _ _ looks inserts

end RequestTask

/-- The same instant, and the same rows of the client. -/
structure Shared.Alike
    (clientId : Uuid)
    (first second : Shared) : Prop where
  clock : second.clock = first.clock
  jobs :
    RecordTable.AgreesOn (OwnedBy clientId) first.jobs second.jobs

namespace Shared.Alike

variable {clientId : Uuid}
variable {first second : Shared}

theorem update
    (alike : first.Alike clientId second)
    (change : JobUpdate) :
    (first.update change).Alike clientId (second.update change) :=
  ⟨alike.clock, alike.jobs.update_both change⟩

/-- A lookup by id and client. -/
theorem getJobById_eq
    (alike : first.Alike clientId second)
    (id : Uuid) :
    JobRepository.getJobById second.jobs id clientId =
      JobRepository.getJobById first.jobs id clientId := by
  have named :
      ∀ row : Job,
        (row.id == id && row.clientId == some clientId) = true →
        row.id = id ∧ row.clientId = some clientId := by
    intro row holds
    simpa only [Bool.and_eq_true, beq_iff_eq] using holds
  exact alike.jobs.find?_eq
    (fun row holds => (named row holds).2)
    (fun row holds => (named row holds).1)

/-- A statement that names the client affects as many rows. -/
theorem affected_eq
    (alike : first.Alike clientId second)
    {change : JobUpdate}
    (confined :
      ∀ row, change.applies row = true → row.clientId = some clientId) :
    second.jobs.affected change = first.jobs.affected change :=
  alike.jobs.count_eq confined

/-- An `INSERT` for which the constraints decide alike ends alike. -/
theorem insert?_cases
    (alike : first.Alike clientId second)
    {row : Job}
    (decides : first.jobs.Fresh row ↔ second.jobs.Fresh row) :
    (∃ firstJobs secondJobs,
        first.jobs.insert? row = some firstJobs ∧
          second.jobs.insert? row = some secondJobs ∧
          RecordTable.AgreesOn (OwnedBy clientId) firstJobs secondJobs) ∨
      first.jobs.insert? row = none ∧
        second.jobs.insert? row = none := by
  cases firstInserted : first.jobs.insert? row with
  | none =>
      have stale := RecordTable.insert?_eq_none_iff.mp firstInserted
      rw [decides] at stale
      exact Or.inr ⟨rfl, RecordTable.insert?_eq_none_iff.mpr stale⟩
  | some firstJobs =>
      have fresh := (RecordTable.insert?_eq_some_iff.mp firstInserted).1
      cases secondInserted : second.jobs.insert? row with
      | none =>
          exact absurd (decides.mp fresh)
            (RecordTable.insert?_eq_none_iff.mp secondInserted)
      | some secondJobs =>
          exact Or.inl ⟨firstJobs, secondJobs, rfl, rfl,
            alike.jobs.insert_both firstInserted secondInserted⟩

end Shared.Alike

/-- The job read by id and client is one of the client. -/
theorem JobRepository.owns_of_getJobById
    {jobs : JobTable}
    {id clientId : Uuid}
    {job : Job}
    (found : getJobById jobs id clientId = some job) :
    jobs.Owns clientId job.id := by
  have matched := List.find?_some found
  simp only [Bool.and_eq_true, beq_iff_eq] at matched
  exact JobTable.owns_of_mem (List.mem_of_find?_eq_some found) matched.2

namespace RequestTask

variable {externals : Externals}
variable {clientId : Uuid}
variable {first second firstAfter : Shared}
variable {next : RequestTask}
variable {action : RequestAction}

/-- The second daemon takes the same step, to the same task. -/
def Follows
    (externals : Externals)
    (clientId : Uuid)
    (second firstAfter : Shared)
    (task : RequestTask)
    (action : RequestAction)
    (next : RequestTask) : Prop :=
  (∃ secondAfter,
      task.step? externals second action = some (secondAfter, next) ∧
        firstAfter.Alike clientId secondAfter) ∧
    next.ShowsOwn clientId firstAfter.jobs

theorem ShowsOwn.planCreate
    (jobs : JobTable)
    (req : CreateJobRequest) :
    (planCreate externals clientId req).ShowsOwn clientId jobs := by
  unfold RequestTask.planCreate
  split
  · exact trivial
  · split
    · exact fun body isBody => by cases isBody
    · exact trivial

theorem ShowsOwn.start
    (jobs : JobTable)
    (request : Request) :
    (start request).ShowsOwn clientId jobs := by
  cases request <;> simp only [RequestTask.start] <;> try exact trivial
  all_goals
    split
    · exact fun body isBody => by cases isBody
    · exact trivial

/-- An `INSERT` of a row of the client is followed, whatever it answers. -/
theorem insert_follows
    {task : RequestTask}
    {row : Job}
    (req : CreateJobRequest)
    (accepted : Job → RequestTask)
    (alike : first.Alike clientId second)
    (decides : first.jobs.Fresh row ↔ second.jobs.Fresh row)
    (steps :
      ∀ shared : Shared,
        shared.clock = first.clock →
        task.step? externals shared action =
          match shared.jobs.insert? row with
          | some jobs =>
              some ({ shared with jobs := jobs }, accepted row)
          | none =>
              some (shared,
                .answered (.createJob clientId req)
                  (.failed (.internal externals.uniqueViolation))))
    (taken :
      task.step? externals first action = some (firstAfter, next))
    (acceptedShows :
      ∀ jobs : JobTable,
        row ∈ jobs.rows → (accepted row).ShowsOwn clientId jobs) :
    Follows externals clientId second firstAfter task action next := by
  have secondSteps := steps second alike.clock
  rw [steps first rfl] at taken
  rcases alike.insert?_cases decides with
    ⟨firstJobs, secondJobs, firstInserted, secondInserted, agrees⟩ |
    ⟨firstRefused, secondRefused⟩
  · rw [firstInserted] at taken
    rw [secondInserted] at secondSteps
    cases taken
    refine ⟨⟨_, secondSteps, alike.clock, agrees⟩, ?_⟩
    exact acceptedShows firstJobs
      ((RecordTable.mem_of_insert? firstInserted).mpr (Or.inr rfl))
  · rw [firstRefused] at taken
    rw [secondRefused] at secondSteps
    cases taken
    exact ⟨⟨second, secondSteps, alike⟩,
      fun body isBody => by cases isBody⟩

theorem create_follows
    {req : CreateJobRequest}
    {position : CreatePosition}
    (alike : first.Alike clientId second)
    (shows :
      (creating clientId req position).ShowsOwn clientId first.jobs)
    (seesAlike :
      (creating clientId req position).SeesAlike externals clientId first
        second action)
    (taken :
      (creating clientId req position).step? externals first action =
        some (firstAfter, next)) :
    Follows externals clientId second firstAfter
      (creating clientId req position) action next := by
  have unfolded :
      createStep? externals first clientId req position action =
        some (firstAfter, next) := taken
  unfold createStep? at unfolded
  split at unfolded
  · have finds := seesAlike.1 req.idempotencyKey rfl
    have sameLookup :
        JobRepository.getByIdempotencyKey second.jobs req.idempotencyKey =
          JobRepository.getByIdempotencyKey first.jobs
            req.idempotencyKey :=
      alike.jobs.findUnique?_eq finds.1 finds.2
    split at unfolded
    · rename_i existing looked
      cases unfolded
      refine ⟨⟨second, ?_, alike⟩, ?_⟩
      · simp [step?, createStep?, sameLookup, looked]
      · intro body isBody
        obtain rfl := Option.some.inj isBody
        exact JobTable.owns_of_mem
          (RecordTable.findUnique?_eq_some_iff.mp looked).1
          (finds.1 existing looked)
    · rename_i missing
      cases unfolded
      refine ⟨⟨second, ?_, alike⟩, .planCreate first.jobs req⟩
      simp [step?, createStep?, sameLookup, missing]
  · refine insert_follows req
      (fun row => .creating clientId req (.notify row))
      alike (seesAlike.2 _ rfl) ?_ taken ?_
    · intro shared sameClock
      rw [← sameClock]
      rfl
    · exact fun jobs member => JobTable.owns_of_mem member rfl
  · rename_i recurrence firstFire id
    refine insert_follows req
      (fun row =>
        .creating clientId req (.insertInstance row firstFire))
      alike (seesAlike.2 _ rfl) ?_ taken ?_
    · intro shared sameClock
      rw [← sameClock]
      rfl
    · exact fun jobs member => rfl
  · rename_i template firstFire id
    have owner : template.clientId = some clientId := shows
    refine insert_follows req
      (fun row =>
        .creating clientId req (.notifyRecurring template row))
      alike (seesAlike.2 _ rfl) ?_ taken ?_
    · intro shared sameClock
      rw [← sameClock]
      rfl
    · refine fun jobs member => JobTable.owns_of_mem member ?_
      simp [JobRepository.instanceRow, JobRepository.newRow, owner]
  · cases unfolded
    exact ⟨⟨second.notifyOne, rfl, alike.clock, alike.jobs⟩, shows⟩
  · cases unfolded
    refine ⟨⟨second.notifyOne, rfl, alike.clock, alike.jobs⟩, ?_⟩
    intro body isBody
    obtain rfl := Option.some.inj isBody
    exact shows
  all_goals cases unfolded
  all_goals
    exact ⟨⟨second, rfl, alike⟩, fun body isBody => by cases isBody⟩

theorem cancel_follows
    {id : Uuid}
    {position : CancelPosition}
    (alike : first.Alike clientId second)
    (grounded :
      (cancelling clientId id position).Grounded first.jobs)
    (shows :
      (cancelling clientId id position).ShowsOwn clientId first.jobs)
    (taken :
      (cancelling clientId id position).step? externals first action =
        some (firstAfter, next)) :
    Follows externals clientId second firstAfter
      (cancelling clientId id position) action next := by
  have unfolded :
      cancelStep? first clientId id position action =
        some (firstAfter, next) := taken
  unfold cancelStep? at unfolded
  split at unfolded
  · cases unfolded
    refine ⟨⟨second, ?_, alike⟩, ?_⟩
    · simp [step?, cancelStep?, alike.getJobById_eq]
    · unfold planCancel
      split
      · exact fun body isBody => by cases isBody
      · split <;> exact trivial
  · have sameAffected :
        second.jobs.affected
            (JobRepository.cancelJob first.clock id clientId) =
          first.jobs.affected
            (JobRepository.cancelJob first.clock id clientId) :=
      alike.affected_eq fun row applies => by
        simp only [JobRepository.cancelJob, Bool.and_eq_true,
          beq_iff_eq] at applies
        exact applies.1.2
    dsimp only at unfolded
    split at unfolded
    · rename_i affected
      cases unfolded
      refine ⟨⟨_, ?_, alike.update _⟩, trivial⟩
      simp only [step?, cancelStep?, alike.clock, sameAffected]
      exact if_pos affected
    · rename_i unaffected
      cases unfolded
      refine ⟨⟨second, ?_, alike⟩, fun body isBody => by cases isBody⟩
      simp only [step?, cancelStep?, alike.clock, sameAffected]
      exact if_neg unaffected
  · have sameAffected :
        second.jobs.affected
            (JobRepository.cancelTemplate first.clock id clientId) =
          first.jobs.affected
            (JobRepository.cancelTemplate first.clock id clientId) :=
      alike.affected_eq fun row applies => by
        simp only [JobRepository.cancelTemplate, Bool.and_eq_true,
          beq_iff_eq] at applies
        exact applies.1.2
    obtain ⟨row, member, isId, isOwn, isTemplate⟩ := grounded
    cases unfolded
    refine ⟨⟨_, ?_, alike.update _⟩, ?_⟩
    · simp only [step?, cancelStep?, alike.clock, sameAffected]
    · refine RecordTable.affected_pos_iff.mpr ⟨row, member, ?_⟩
      simp [JobRepository.cancelTemplate, isId, isOwn, isTemplate]
  · rename_i templates
    have cancelled : 0 < templates := shows
    rw [if_neg (by omega)] at unfolded
    cases unfolded
    refine ⟨⟨_, ?_, alike.update _⟩, trivial⟩
    simp only [step?, cancelStep?, alike.clock]
    exact if_neg (by omega)
  · cases unfolded
    exact ⟨⟨second.notifyOne, rfl, alike.clock, alike.jobs⟩,
      fun body isBody => by cases isBody⟩
  all_goals cases unfolded
  all_goals
    exact ⟨⟨second, rfl, alike⟩, fun body isBody => by cases isBody⟩

theorem patch_follows
    {id : Uuid}
    {req : PatchJobRequest}
    {position : PatchPosition}
    (alike : first.Alike clientId second)
    (shows :
      (patching clientId id req position).ShowsOwn clientId first.jobs)
    (taken :
      (patching clientId id req position).step? externals first action =
        some (firstAfter, next)) :
    Follows externals clientId second firstAfter
      (patching clientId id req position) action next := by
  have unfolded :
      patchStep? first clientId id req position action =
        some (firstAfter, next) := taken
  unfold patchStep? at unfolded
  split at unfolded
  · have sameAffected :
        second.jobs.affected
            (JobRepository.updateCronExpr first.clock id clientId
              req.cronExpr) =
          first.jobs.affected
            (JobRepository.updateCronExpr first.clock id clientId
              req.cronExpr) :=
      alike.affected_eq fun row applies => by
        simp only [JobRepository.updateCronExpr, Bool.and_eq_true,
          beq_iff_eq] at applies
        exact applies.1.1.2
    dsimp only at unfolded
    split at unfolded
    · rename_i affected
      cases unfolded
      refine ⟨⟨_, ?_, alike.update _⟩, trivial⟩
      simp only [step?, patchStep?, alike.clock, sameAffected]
      exact if_pos affected
    · rename_i unaffected
      cases unfolded
      refine ⟨⟨second, ?_, alike⟩, fun body isBody => by cases isBody⟩
      simp only [step?, patchStep?, alike.clock, sameAffected]
      exact if_neg unaffected
  · split at unfolded
    · rename_i missing
      cases unfolded
      refine ⟨⟨second, ?_, alike⟩, fun body isBody => by cases isBody⟩
      simp [step?, patchStep?, alike.getJobById_eq, missing]
    · rename_i job found
      cases unfolded
      refine ⟨⟨second, ?_, alike⟩,
        JobRepository.owns_of_getJobById found⟩
      simp [step?, patchStep?, alike.getJobById_eq, found]
  · cases unfolded
    refine ⟨⟨second.notifyOne, rfl, alike.clock, alike.jobs⟩, ?_⟩
    intro body isBody
    obtain rfl := Option.some.inj isBody
    exact shows
  all_goals cases unfolded
  all_goals
    exact ⟨⟨second, rfl, alike⟩, fun body isBody => by cases isBody⟩

/-- A request of the client that sees alike in both daemons takes one step. -/
theorem step?_follows
    {task : RequestTask}
    (alike : first.Alike clientId second)
    (isOwner : ∀ caller ∈ task.clientId?, caller = clientId)
    (grounded : task.Grounded first.jobs)
    (shows : task.ShowsOwn clientId first.jobs)
    (seesAlike :
      task.SeesAlike externals clientId first second action)
    (taken :
      task.step? externals first action = some (firstAfter, next)) :
    Follows externals clientId second firstAfter task action next := by
  cases task with
  | absent =>
      cases action with
      | arrive request =>
          cases taken
          exact ⟨⟨second, rfl, alike⟩, .start first.jobs request⟩
      | _ =>
          cases taken
  | creating caller req position =>
      obtain rfl := isOwner caller rfl
      exact create_follows alike shows seesAlike taken
  | getting caller id =>
      obtain rfl := isOwner caller rfl
      cases action with
      | call reply =>
          cases reply with
          | ok =>
              have sameRead := alike.getJobById_eq id
              simp only [step?] at taken
              split at taken
              · rename_i missing
                cases taken
                refine ⟨⟨second, ?_, alike⟩,
                  fun body isBody => by cases isBody⟩
                simp [step?, sameRead, missing]
              · rename_i job found
                cases taken
                refine ⟨⟨second, ?_, alike⟩, ?_⟩
                · simp [step?, sameRead, found]
                · intro body isBody
                  obtain rfl := Option.some.inj isBody
                  exact JobRepository.owns_of_getJobById found
          | inserted newId =>
              cases taken
          | error message =>
              cases taken
              exact ⟨⟨second, rfl, alike⟩,
                fun body isBody => by cases isBody⟩
      | _ =>
          cases taken
  | cancelling caller id position =>
      obtain rfl := isOwner caller rfl
      exact cancel_follows alike grounded shows taken
  | patching caller id req position =>
      obtain rfl := isOwner caller rfl
      exact patch_follows alike shows taken
  | answered request response =>
      cases action <;> cases taken

/-- A request that arrives for the client works for no one else. -/
theorem Move.isOwner
    {task : RequestTask}
    (moved : task.Move externals first action firstAfter next)
    (isOwner : ∀ caller ∈ task.clientId?, caller = clientId)
    (arrives :
      ∀ request, action = .arrive request → request.clientId = clientId) :
    ∀ caller ∈ next.clientId?, caller = clientId := by
  by_cases isAbsent : task = .absent
  · subst isAbsent
    cases moved with
    | arrive request =>
        intro caller isCaller
        rw [clientId?_start] at isCaller
        exact (Option.some.inj isCaller).symm.trans (arrives request rfl)
  · rw [moved.clientId?_eq isAbsent]
    exact isOwner

/-! ## Where two views part -/

/-- An `INSERT` is answered at once exactly if a constraint refuses the row. -/
theorem isAnswered_iff_of_inserts
    {task : RequestTask}
    {row : Job}
    (inserts :
      task.insertsRow? externals first.clock action = some row)
    (taken :
      task.step? externals first action = some (firstAfter, next)) :
    next.isAnswered = true ↔ ¬first.jobs.Fresh row := by
  rw [← RecordTable.insert?_eq_none_iff]
  unfold insertsRow? at inserts
  split at inserts <;> cases inserts
  all_goals
    simp only [step?, createStep?] at taken
    split at taken
    · rename_i jobs inserted
      cases taken
      simp [isAnswered, inserted]
    · rename_i refused
      cases taken
      simp [isAnswered, refused]

/-- After a lookup that found nothing no job is answered at once. -/
theorem planCreate_ne_ok
    {req : CreateJobRequest}
    {request : Request}
    {body : JobResponse} :
    planCreate externals clientId req ≠ .answered request (.ok body) := by
  unfold planCreate
  split
  · simp
  · split <;> simp

end RequestTask

/-- A step of a request of the client, or of the clock. -/
def Action.isClients
    {config : Config}
    {slots : Nat}
    (clientId : Uuid) : Action config slots → Bool
  | .tick _ => true
  | .api _ (.arrive request) => request.clientId == clientId
  | .api _ _ => true
  | _ => false

namespace State

variable {config : Config} {slots : Nat}

/-- Nothing but requests of the client and the clock takes steps. -/
def ClientSteps
    (clientId : Uuid)
    (_ : State config slots)
    (action : Action config slots) : Prop :=
  action.isClients clientId = true

instance
    (clientId : Uuid)
    (state : State config slots)
    (action : Action config slots) :
    Decidable (state.ClientSteps clientId action) :=
  instDecidableEqBool _ _

/-- The next step shows the client the same in both states. -/
def SeesAlike
    (externals : Externals)
    (clientId : Uuid)
    (first second : State config slots) : Action config slots → Prop
  | .api slot action =>
      (first.requests slot).SeesAlike externals clientId first.toShared
        second.toShared action
  | _ => True

instance decidableSeesAlike
    (externals : Externals)
    (clientId : Uuid)
    (first second : State config slots) :
    ∀ action, Decidable (SeesAlike externals clientId first second action)
  | .api slot action =>
      RequestTask.decidableSeesAlike externals clientId first.toShared
        second.toShared (first.requests slot) action
  | .tick _ | .scheduler _ | .worker _ _ | .reaper _ | .shutdown
  | .restart =>
      isTrue trivial

/-- Every job in an answer is one of the client. -/
def AnswersOwn
    (clientId : Uuid)
    (state : State config slots) : Prop :=
  ∀ slot request response,
    state.requests slot = .answered request response →
    ∀ body ∈ response.body?, state.jobs.Owns clientId body.id

/-- The two states look the same to the client. -/
structure Alike
    (clientId : Uuid)
    (first second : State config slots) : Prop where
  shared : first.toShared.Alike clientId second.toShared
  requests : second.requests = first.requests
  grounded : first.Grounded
  owners :
    ∀ slot, ∀ caller ∈ (first.requests slot).clientId?,
      caller = clientId
  shows : ∀ slot, (first.requests slot).ShowsOwn clientId first.jobs

theorem Alike.answersOwn
    {clientId : Uuid}
    {first second : State config slots}
    (alike : first.Alike clientId second) :
    first.AnswersOwn clientId := by
  intro slot request response isAnswer
  have shows := alike.shows slot
  rw [isAnswer] at shows
  exact shows

/-- A request answered one state but not the other, or with a foreign job. -/
def Parted
    (clientId : Uuid)
    (first second : State config slots) : Prop :=
  (∃ slot,
      second.requests slot ≠ first.requests slot ∧
        ((first.requests slot).isAnswered = true ∨
          (second.requests slot).isAnswered = true)) ∨
    ∃ slot request response body,
      first.requests slot = .answered request response ∧
        response.body? = some body ∧
        first.jobs.Has fun row =>
          row.id = body.id ∧ row.clientId ≠ some clientId

theorem alike_booted
    (clientId : Uuid)
    (clock : Time)
    {firstJobs secondJobs : JobTable}
    (agrees :
      RecordTable.AgreesOn (OwnedBy clientId) firstJobs secondJobs) :
    (booted config slots clock firstJobs).Alike clientId
      (booted config slots clock secondJobs) where
  shared := ⟨rfl, agrees⟩
  requests := rfl
  grounded := grounded_booted clock firstJobs
  owners := fun _ _ isCaller => by cases isCaller
  shows := fun _ => trivial

variable {externals : Externals}
variable {clientId : Uuid}
variable {first second next other : State config slots}
variable {action : Action config slots}

/-- The other daemon follows a step that shows the client the same. -/
theorem Alike.follows
    (alike : first.Alike clientId second)
    (permitted : first.ClientSteps clientId action)
    (seesAlike : SeesAlike externals clientId first second action)
    (taken : step? externals first action = some next) :
    ∃ other,
      second.ClientSteps clientId action ∧
        step? externals second action = some other ∧
        next.Alike clientId other := by
  have grounded := alike.grounded.step taken
  have growth := extends_of_step? taken
  cases action with
  | tick elapsed =>
      cases taken
      refine ⟨_, permitted, rfl, ⟨?_, alike.shared.jobs⟩, alike.requests,
        grounded, alike.owners, alike.shows⟩
      exact congrArg (· + (elapsed : Int)) alike.shared.clock
  | api slot requestAction =>
      have moved := requestMove_of_step? taken
      obtain ⟨⟨shared, task⟩, stepped, same⟩ :=
        Option.map_eq_some_iff.mp taken
      cases same
      obtain ⟨⟨otherShared, otherStepped, otherAlike⟩, shows⟩ :=
        RequestTask.step?_follows alike.shared (alike.owners slot)
          (alike.grounded.requests slot) (alike.shows slot) seesAlike
          stepped
      refine ⟨
        { second with
          toShared := otherShared
          requests := Function.update second.requests slot task },
        permitted, ?_, otherAlike, ?_, grounded, ?_, ?_⟩
      · simp only [step?, alike.requests, otherStepped, Option.map_some]
      · simp only [alike.requests]
      · refine (Function.forall_update_iff first.requests
          fun _ (task : RequestTask) =>
            ∀ caller ∈ task.clientId?, caller = clientId).mpr
          ⟨?_, fun mover _ => alike.owners mover⟩
        refine (RequestTask.move_of_step? stepped).isOwner
          (alike.owners slot) fun request arrives => ?_
        subst arrives
        exact beq_iff_eq.mp permitted
      · exact (Function.forall_update_iff first.requests
          fun _ (task : RequestTask) =>
            task.ShowsOwn clientId shared.jobs).mpr
          ⟨shows, fun mover _ => (alike.shows mover).grow growth⟩
  | _ =>
      cases permitted

/-- An answered request takes no further step. -/
private theorem ne_api_of_isAnswered
    {slot : Fin slots}
    (isAnswered : (first.requests slot).isAnswered = true)
    (taken : step? externals first action = some next)
    (requestAction : RequestAction) :
    action ≠ .api slot requestAction := by
  rintro rfl
  have moved := requestMove_of_step? taken
  cases current : first.requests slot with
  | answered request response =>
      rw [current] at moved
      cases moved
  | _ =>
      rw [current] at isAnswered
      cases isAnswered

/-- Steps of the client leave the requests they are not about alone. -/
private theorem requests_kept
    {slot : Fin slots}
    (permitted : first.ClientSteps clientId action)
    (taken : step? externals first action = some next)
    (elsewhere : ∀ requestAction, action ≠ .api slot requestAction) :
    next.requests slot = first.requests slot := by
  cases requestStep_of_step? taken slot with
  | kept same =>
      exact same
  | lost isAbsent isRestart =>
      subst isRestart
      cases permitted
  | moved requestAction isApi =>
      exact (elsewhere requestAction isApi).elim

theorem Parted.stays
    (parted : first.Parted clientId second)
    (permitted : first.ClientSteps clientId action)
    (taken : step? externals first action = some next)
    (otherTaken : step? externals second action = some other) :
    next.Parted clientId other := by
  rcases parted with ⟨slot, differ, answered⟩ |
    ⟨slot, request, response, body, isAnswer, isBody, isForeign⟩
  · have elsewhere :
        ∀ requestAction, action ≠ .api slot requestAction := by
      rcases answered with isAnswered | isAnswered
      · exact ne_api_of_isAnswered isAnswered taken
      · exact ne_api_of_isAnswered isAnswered otherTaken
    have same := requests_kept permitted taken elsewhere
    have otherPermitted : second.ClientSteps clientId action := permitted
    have otherSame := requests_kept otherPermitted otherTaken elsewhere
    refine Or.inl ⟨slot, ?_, ?_⟩
    · rw [same, otherSame]
      exact differ
    · rw [same, otherSame]
      exact answered
  · have isAnswered : (first.requests slot).isAnswered = true := by
      rw [isAnswer]
      rfl
    have elsewhere := ne_api_of_isAnswered isAnswered taken
    refine Or.inr ⟨slot, request, response, body, ?_, isBody,
      isForeign.grow (extends_of_step? taken)⟩
    rw [requests_kept permitted taken elsewhere, isAnswer]

private theorem request_stepped
    {slot : Fin slots}
    {requestAction : RequestAction}
    (taken :
      step? externals first (.api slot requestAction) = some next) :
    (first.requests slot).step? externals first.toShared requestAction =
      some (next.toShared, next.requests slot) := by
  obtain ⟨⟨shared, task⟩, stepped, same⟩ :=
    Option.map_eq_some_iff.mp taken
  cases same
  simp only [stepped, Function.update_self]

/-- A lookup that finds a foreign row parts the two views. -/
private theorem Alike.parts_of_lookup
    (alike : first.Alike clientId second)
    {slot : Fin slots}
    {requestAction : RequestAction}
    {idempotencyKey : String}
    (looksUp :
      (first.requests slot).looksUp? requestAction = some idempotencyKey)
    (foreign :
      ¬(RequestTask.FindsOwn clientId first.jobs idempotencyKey ∧
          RequestTask.FindsOwn clientId second.jobs idempotencyKey))
    (taken :
      step? externals first (.api slot requestAction) = some next)
    (otherTaken :
      step? externals second (.api slot requestAction) = some other) :
    next.Parted clientId other := by
  have stepped := request_stepped taken
  have otherStepped := request_stepped otherTaken
  rw [alike.requests] at otherStepped
  generalize first.requests slot = task at looksUp stepped otherStepped
  unfold RequestTask.looksUp? at looksUp
  split at looksUp <;> cases looksUp
  rename_i caller req
  simp only [RequestTask.step?, RequestTask.createStep?] at stepped
  simp only [RequestTask.step?, RequestTask.createStep?] at otherStepped
  by_cases findsOwn :
      RequestTask.FindsOwn clientId first.jobs req.idempotencyKey
  · have foreignThere :
        ¬RequestTask.FindsOwn clientId second.jobs req.idempotencyKey :=
      fun ownThere => foreign ⟨findsOwn, ownThere⟩
    simp only [RequestTask.FindsOwn, not_forall] at foreignThere
    obtain ⟨row, looked, isForeign⟩ := foreignThere
    rw [Option.mem_def] at looked
    obtain ⟨member, sameKey⟩ :=
      RecordTable.findUnique?_eq_some_iff.mp looked
    have missing :
        JobRepository.getByIdempotencyKey first.jobs req.idempotencyKey =
          none := by
      refine Option.eq_none_iff_forall_not_mem.mpr fun own found => ?_
      have isOwn := findsOwn own found
      obtain ⟨ownMember, ownKey⟩ :=
        RecordTable.findUnique?_eq_some_iff.mp found
      have ownThere := (alike.shared.jobs own isOwn).mpr ownMember
      rw [RecordTable.eq_of_unique ownThere member
        (ownKey.trans sameKey.symm)] at isOwn
      exact isForeign isOwn
    simp only [looked, Option.some.injEq, Prod.mk.injEq] at otherStepped
    simp only [missing, Option.some.injEq, Prod.mk.injEq] at stepped
    refine Or.inl ⟨slot, ?_, Or.inr ?_⟩
    · rw [← stepped.2, ← otherStepped.2]
      exact Ne.symm RequestTask.planCreate_ne_ok
    · rw [← otherStepped.2]
      rfl
  · simp only [RequestTask.FindsOwn, not_forall] at findsOwn
    obtain ⟨row, looked, isForeign⟩ := findsOwn
    rw [Option.mem_def] at looked
    simp only [looked, Option.some.injEq, Prod.mk.injEq] at stepped
    refine Or.inr ⟨slot, _, _, JobResponse.ofJob row, stepped.2.symm, rfl,
      row, ?_, rfl, isForeign⟩
    rw [← stepped.1]
    exact (RecordTable.findUnique?_eq_some_iff.mp looked).1

/-- A step that does not show the same parts the two views. -/
theorem Alike.parts
    (alike : first.Alike clientId second)
    (differs : ¬SeesAlike externals clientId first second action)
    (taken : step? externals first action = some next)
    (otherTaken : step? externals second action = some other) :
    next.Parted clientId other := by
  cases action with
  | api slot requestAction =>
      rcases not_and_or.mp differs with lookup | insert
      · simp only [not_forall] at lookup
        obtain ⟨idempotencyKey, looksUp, foreign⟩ := lookup
        exact alike.parts_of_lookup looksUp foreign taken otherTaken
      · simp only [not_forall] at insert
        obtain ⟨row, inserts, decides⟩ := insert
        have otherInserts := inserts
        rw [← alike.requests, ← alike.shared.clock] at otherInserts
        have answers :=
          RequestTask.isAnswered_iff_of_inserts inserts
            (request_stepped taken)
        have otherAnswers :=
          RequestTask.isAnswered_iff_of_inserts otherInserts
            (request_stepped otherTaken)
        refine Or.inl ⟨slot, fun same => decides ?_, ?_⟩
        · rw [same] at otherAnswers
          exact not_iff_not.mp (answers.symm.trans otherAnswers)
        · by_cases fresh : first.jobs.Fresh row
          · refine Or.inr (otherAnswers.mpr fun otherFresh => ?_)
            exact decides (iff_of_true fresh otherFresh)
          · exact Or.inl (answers.mpr fresh)
  | _ =>
      exact absurd trivial differs

/--
Over tables that agree on the client's rows, the client gets the same answers
from the same requests, and only jobs of its own, exactly if no step of them
meets a row of another client.
-/
theorem answers_alike_iff
    {clock : Time}
    {firstJobs secondJobs : JobTable}
    (agrees :
      RecordTable.AgreesOn (OwnedBy clientId) firstJobs secondJobs)
    {actions : List (Action config slots)}
    {final : State config slots}
    (run :
      Run externals (ClientSteps clientId)
        (booted config slots clock firstJobs) actions final) :
    ((∃ other,
        Run externals (ClientSteps clientId)
            (booted config slots clock secondJobs) actions other ∧
          other.requests = final.requests) ∧
        final.AnswersOwn clientId) ↔
      TransitionSystem.AlwaysAlike (step? externals)
        (SeesAlike externals clientId)
        (booted config slots clock firstJobs)
        (booted config slots clock secondJobs) actions := by
  have alike := @alike_booted config slots clientId clock _ _ agrees
  constructor
  · rintro ⟨⟨other, otherRun, sameRequests⟩, answersOwn⟩
    refine (run.alwaysAlike_or_parted ?_ ?_ ?_ otherRun alike).resolve_right
      (?_ : ¬final.Parted clientId other)
    · intro first second next other action alike permitted seesAlike taken
        otherTaken
      obtain ⟨follower, _, followed, nextAlike⟩ :=
        alike.follows permitted seesAlike taken
      obtain rfl := Option.some.inj (otherTaken.symm.trans followed)
      exact nextAlike
    · exact fun alike _ differs taken otherTaken =>
        alike.parts differs taken otherTaken
    · exact fun parted permitted taken otherTaken =>
        parted.stays permitted taken otherTaken
    · rintro (⟨slot, differ, _⟩ |
        ⟨slot, request, response, body, isAnswer, isBody, row, member,
          sameId, isForeign⟩)
      · exact differ (congrFun sameRequests slot)
      · have owns := answersOwn slot request response isAnswer body isBody
        rw [← sameId] at owns
        exact JobTable.not_owns_of_mem member isForeign owns
  · intro always
    obtain ⟨other, otherRun, finalAlike⟩ :=
      run.followed
        (fun alike permitted seesAlike taken =>
          alike.follows permitted seesAlike taken)
        alike always
    exact ⟨⟨other, otherRun, finalAlike.requests⟩,
      finalAlike.answersOwn⟩

end State

/-! ## Concrete runs -/

namespace Sample

/-- Job 1 of client 7. -/
def foreignJob : Job :=
  JobRepository.oneOffRow 0 1 clientId (oneOff "key")

/-- A table that holds nothing but job 1 of client 7. -/
def foreignJobs : JobTable where
  rows := [foreignJob]
  primaryNodup := by decide
  uniqueNodup := by decide

/-- Client 8 has no job, with or without job 1 of client 7. -/
theorem foreignJobs_agrees :
    RecordTable.AgreesOn (OwnedBy 8) foreignJobs RecordTable.empty := by
  intro row isOwn
  constructor
  · intro member
    cases member
  · intro member
    obtain rfl := List.mem_singleton.mp member
    have isForeign : foreignJob.clientId ≠ some 8 := by decide
    exact absurd isOwn isForeign

/-- Client 8 asks for job 1 and creates job 2 under a key of its own. -/
def askAndCreate : List (Action config 2) :=
  [ .api 0 (.arrive (.getJob 8 1)),
    .api 0 (.call .ok),
    .api 1 (.arrive (.createJob 8 (oneOff "other"))),
    .api 1 (.call .ok),
    .api 1 (.call (.inserted 2)),
    .api 1 .notifyOne ]

/-- Neither request tells client 8 whether job 1 exists. -/
theorem asking_reveals_nothing :
    ∃ final,
      State.Run externals (State.ClientSteps 8)
          (State.booted config 2 0 foreignJobs) askAndCreate final ∧
        (∃ other,
          State.Run externals (State.ClientSteps 8)
              (State.booted config 2 0 RecordTable.empty) askAndCreate
              other ∧
            other.requests = final.requests) ∧
        final.AnswersOwn 8 := by
  obtain ⟨final, run, _⟩ :=
    TransitionSystem.exists_run_of_replay?
      (State.step? externals) (State.ClientSteps 8)
      (State.booted config 2 0 foreignJobs) askAndCreate
      (fun _ => True) (by decide)
  exact ⟨final, run,
    (State.answers_alike_iff foreignJobs_agrees run).mpr (by decide)⟩

/-- Client 8 creates a job under the key of job 1. -/
def createUnderKey : List (Action config 1) :=
  [ .api 0 (.arrive (.createJob 8 (oneOff "key"))),
    .api 0 (.call .ok) ]

/--
The answer shows client 8 the job of client 7; without that job the same
request creates job 2.
-/
theorem key_lookup_reveals_foreign_job :
    RecordTable.AgreesOn (OwnedBy 8) foreignJobs RecordTable.empty ∧
      (∃ final,
        State.Run externals (State.ClientSteps 8)
            (State.booted config 1 0 foreignJobs) createUnderKey final ∧
          final.requests 0 =
            .answered (.createJob 8 (oneOff "key"))
              (.ok (JobResponse.ofJob foreignJob)) ∧
          ¬final.AnswersOwn 8) ∧
      ∃ other,
        State.Run externals (State.ClientSteps 8)
            (State.booted config 1 0 RecordTable.empty)
            (createUnderKey ++
              [.api 0 (.call (.inserted 2)), .api 0 .notifyOne])
            other ∧
          other.requests 0 =
            .answered (.createJob 8 (oneOff "key"))
              (.created
                (JobResponse.ofJob
                  (JobRepository.oneOffRow 0 2 8 (oneOff "key")))) := by
  refine ⟨foreignJobs_agrees, ?_,
    TransitionSystem.exists_run_of_replay? _ _ _ _ _ (by decide)⟩
  obtain ⟨final, run, isAnswer, member⟩ :=
    TransitionSystem.exists_run_of_replay?
      (State.step? externals) (State.ClientSteps 8)
      (State.booted config 1 0 foreignJobs) createUnderKey
      (fun final =>
        final.requests 0 =
            .answered (.createJob 8 (oneOff "key"))
              (.ok (JobResponse.ofJob foreignJob)) ∧
          foreignJob ∈ final.jobs.rows)
      (by decide)
  refine ⟨final, run, isAnswer, fun answersOwn => ?_⟩
  exact JobTable.not_owns_of_mem member (by decide)
    (answersOwn 0 _ _ isAnswer _ rfl)

end Sample

end Kronkeeper
