import Kronkeeper.RowHistory

namespace Kronkeeper

/-!
# One key, one job

The unique column makes every lookup of a key answer with the same row.  A
create without recurrence answers 201 with that row too, but a recurring one
stores the key in its template and answers 201 with the first instance.  So
the answers to one key agree until such a 201 meets a 200.
-/

/-- Some row has the key. -/
def KeyUsed (jobs : JobTable) (key : String) : Prop :=
  jobs.Has fun job => job.idempotencyKey = key

/-- The key belongs to the row of a template. -/
def TemplateKey (jobs : JobTable) (key : String) : Prop :=
  jobs.Has fun job => job.idempotencyKey = key ∧ job.isTemplate = true

instance (jobs : JobTable) (key : String) :
    Decidable (KeyUsed jobs key) :=
  inferInstanceAs (Decidable (jobs.Has _))

instance (jobs : JobTable) (key : String) :
    Decidable (TemplateKey jobs key) :=
  inferInstanceAs (Decidable (jobs.Has _))

/-- The job can be the body of a 201 for the key. -/
def Made (jobs : JobTable) (key : String) (id : Uuid) : Prop :=
  jobs.Has fun job =>
    job.id = id ∧ job.isTemplate = false ∧
      (job.idempotencyKey = key ∨ TemplateKey jobs key)

namespace RequestTask

/-- The status with which the client's create for a key was answered. -/
def createStatus?
    (clientId : Uuid)
    (key : String) : RequestTask → Option Nat
  | .answered (.createJob caller req) response =>
      if caller = clientId ∧ req.idempotencyKey = key then
        some response.status
      else
        none
  | _ => none

/-- The key of a create whose first `INSERT` succeeded. -/
def inserted? : RequestTask → Option String
  | .creating _ req (.insertInstance _ _) => some req.idempotencyKey
  | .creating _ req (.notifyRecurring _ _) => some req.idempotencyKey
  | .creating _ req (.notify _) => some req.idempotencyKey
  | .answered (.createJob _ req) (.created _) => some req.idempotencyKey
  | _ => none

/-- The rows behind what a create has done and answered. -/
def Backed (jobs : JobTable) : RequestTask → Prop
  | .creating _ req (.insertInstance _ _) =>
      TemplateKey jobs req.idempotencyKey
  | .creating _ req (.notifyRecurring _ job) =>
      Made jobs req.idempotencyKey job.id
  | .creating _ req (.notify job) => Made jobs req.idempotencyKey job.id
  | .answered (.createJob _ req) (.created body) =>
      Made jobs req.idempotencyKey body.id
  | .answered (.createJob _ req) (.ok body) =>
      jobs.Has fun job =>
        job.id = body.id ∧ job.idempotencyKey = req.idempotencyKey
  | _ => True

end RequestTask

namespace State

variable {config : Config} {slots : Nat}

/-- A client's successful creates with one key return one job. -/
def CreatesAgree (state : State config slots) : Prop :=
  ∀ first second clientId firstReq secondReq firstAnswer secondAnswer,
    state.requests first =
      .answered (.createJob clientId firstReq) firstAnswer →
    state.requests second =
      .answered (.createJob clientId secondReq) secondAnswer →
    firstReq.idempotencyKey = secondReq.idempotencyKey →
    ∀ firstBody ∈ firstAnswer.body?, ∀ secondBody ∈ secondAnswer.body?,
      firstBody.id = secondBody.id

/-- The create whose key a step looks up. -/
def lookedUp?
    (state : State config slots) :
    Action config slots → Option (Uuid × CreateJobRequest)
  | .api slot (.call .ok) =>
      match state.requests slot with
      | .creating clientId req .lookup => some (clientId, req)
      | _ => none
  | _ => none

/-- The create a step answers with a 201. -/
def announced?
    (state : State config slots) :
    Action config slots → Option (Uuid × CreateJobRequest)
  | .api slot .notifyOne =>
      match state.requests slot with
      | .creating clientId req (.notify _) => some (clientId, req)
      | _ => none
  | _ => none

/--
No 200 is given out for the key of a template after its 201, and no such 201
after a 200.
-/
def AnswersAlike
    (state : State config slots)
    (action : Action config slots) : Prop :=
  (∀ create ∈ state.lookedUp? action,
      TemplateKey state.jobs create.2.idempotencyKey →
      ∀ other,
        (state.requests other).createStatus? create.1
          create.2.idempotencyKey ≠ some 201) ∧
    ∀ create ∈ state.announced? action,
      TemplateKey state.jobs create.2.idempotencyKey →
      ∀ other,
        (state.requests other).createStatus? create.1
          create.2.idempotencyKey ≠ some 200

instance
    (state : State config slots)
    (action : Action config slots) :
    Decidable (state.AnswersAlike action) :=
  have looks := (state.lookedUp? action).decidableForallMem
  have announces := (state.announced? action).decidableForallMem
  @instDecidableAnd _ _ looks announces

/-- A step that looks a key up is the first call of its create. -/
theorem lookup_of_lookedUp?
    {state : State config slots}
    {action : Action config slots}
    {clientId : Uuid}
    {req : CreateJobRequest}
    (looked : state.lookedUp? action = some (clientId, req)) :
    ∃ slot,
      action = .api slot (.call .ok) ∧
        state.requests slot = .creating clientId req .lookup := by
  unfold lookedUp? at looked
  split at looked
  · rename_i slot
    split at looked
    · rename_i looking
      cases looked
      exact ⟨slot, rfl, looking⟩
    · cases looked
  · cases looked

/-- A step that answers with a 201 is the last notification of its create. -/
theorem notify_of_announced?
    {state : State config slots}
    {action : Action config slots}
    {clientId : Uuid}
    {req : CreateJobRequest}
    (announced : state.announced? action = some (clientId, req)) :
    ∃ slot job,
      action = .api slot .notifyOne ∧
        state.requests slot = .creating clientId req (.notify job) := by
  unfold announced? at announced
  split at announced
  · rename_i slot
    split at announced
    · rename_i job notifying
      cases announced
      exact ⟨slot, job, rfl, notifying⟩
    · cases announced
  · cases announced

end State

/-! ## What a create leaves behind -/

section Moves

variable {externals : Externals}
variable {shared after : Shared}
variable {before later : JobTable}

theorem Made.grow
    {key : String}
    {id : Uuid}
    (made : Made before key id)
    (growth : before.Extends later) :
    Made later key id := by
  obtain ⟨row, member, sameId, notTemplate, kind⟩ := made
  obtain ⟨new, newMember, same⟩ := growth row member
  refine ⟨new, newMember, ?_⟩
  rw [same]
  exact ⟨sameId, notTemplate,
    kind.imp_right fun template => template.grow growth⟩

/-- A key with something made for it is in use. -/
theorem Made.keyUsed
    {key : String}
    {id : Uuid}
    (made : Made before key id) :
    KeyUsed before key := by
  obtain ⟨row, member, _, _, sameKey | ⟨template, templateMember, kept⟩⟩ :=
    made
  · exact ⟨row, member, sameKey⟩
  · exact ⟨template, templateMember, kept.1⟩

namespace RequestTask

theorem Backed.grow
    {task : RequestTask}
    (backed : task.Backed before)
    (growth : before.Extends later) :
    task.Backed later := by
  unfold Backed at *
  split
  · exact RecordTable.Has.grow backed growth
  · exact Made.grow backed growth
  · exact Made.grow backed growth
  · exact Made.grow backed growth
  · exact RecordTable.Has.grow backed growth
  · trivial

theorem Backed.keyUsed
    {task : RequestTask}
    (backed : task.Backed before)
    {key : String}
    (inserted : task.inserted? = some key) :
    KeyUsed before key := by
  unfold inserted? at inserted
  split at inserted
  · obtain rfl := Option.some.inj inserted
    obtain ⟨row, member, sameKey, _⟩ := backed
    exact ⟨row, member, sameKey⟩
  · obtain rfl := Option.some.inj inserted
    exact Made.keyUsed backed
  · obtain rfl := Option.some.inj inserted
    exact Made.keyUsed backed
  · obtain rfl := Option.some.inj inserted
    exact Made.keyUsed backed
  · cases inserted

theorem Backed.move
    {task next : RequestTask}
    {action : RequestAction}
    (moved : task.Move externals shared action after next)
    (backed : task.Backed shared.jobs) :
    next.Backed after.jobs := by
  have growth := moved.extends
  cases moved with
  | arrive request =>
      cases request <;> simp only [start] <;> try exact trivial
      all_goals split <;> exact trivial
  | create clientId req position action after next created =>
      cases created with
      | found existing looked =>
          obtain ⟨member, sameKey⟩ :=
            RecordTable.findUnique?_eq_some_iff.mp looked
          exact ⟨existing, member, rfl, sameKey⟩
      | plan missing =>
          unfold planCreate
          split
          · exact trivial
          · split <;> exact trivial
      | insertJob id jobs inserted =>
          have added :=
            (RecordTable.mem_of_insert? inserted).mpr (Or.inr rfl)
          exact ⟨_, added, rfl, rfl, Or.inl rfl⟩
      | insertTemplate recurrence firstFire id jobs inserted =>
          have added :=
            (RecordTable.mem_of_insert? inserted).mpr (Or.inr rfl)
          exact ⟨_, added, rfl, rfl⟩
      | insertInstance template firstFire id jobs inserted =>
          have added :=
            (RecordTable.mem_of_insert? inserted).mpr (Or.inr rfl)
          exact ⟨_, added, rfl, rfl,
            Or.inr (RecordTable.Has.grow backed growth)⟩
      | announceRecurring template instanceJob =>
          exact backed
      | announce job =>
          exact backed
      | duplicateJob | duplicateTemplate | duplicateInstance | fails =>
          exact trivial
  | cancel clientId id position action after next cancels =>
      cases cancels with
      | read =>
          unfold planCancel
          split
          · exact trivial
          · split <;> exact trivial
      | _ =>
          exact trivial
  | get | patch | readPatched | answerPatch | announcePatch =>
      exact trivial

/-- A create with a 201 or 200 has been answered with a body. -/
theorem of_createStatus?
    {task : RequestTask}
    {clientId : Uuid}
    {key : String}
    {status : Nat}
    (answered : task.createStatus? clientId key = some status) :
    ∃ req response,
      task = .answered (.createJob clientId req) response ∧
        req.idempotencyKey = key ∧ response.status = status := by
  unfold createStatus? at answered
  split at answered
  · rename_i caller req response
    split at answered
    · rename_i same
      obtain ⟨rfl, sameKey⟩ := same
      exact ⟨req, response, rfl, sameKey, Option.some.inj answered⟩
    · cases answered
  · cases answered

theorem exists_created
    {task : RequestTask}
    {clientId : Uuid}
    {key : String}
    (answered : task.createStatus? clientId key = some 201) :
    ∃ req body,
      task = .answered (.createJob clientId req) (.created body) ∧
        req.idempotencyKey = key := by
  obtain ⟨req, response, isAnswered, sameKey, status⟩ :=
    of_createStatus? answered
  cases response with
  | created body =>
      exact ⟨req, body, isAnswered, sameKey⟩
  | ok | noContent =>
      cases status
  | failed error =>
      cases error <;> cases status

theorem exists_ok
    {task : RequestTask}
    {clientId : Uuid}
    {key : String}
    (answered : task.createStatus? clientId key = some 200) :
    ∃ req body,
      task = .answered (.createJob clientId req) (.ok body) ∧
        req.idempotencyKey = key := by
  obtain ⟨req, response, isAnswered, sameKey, status⟩ :=
    of_createStatus? answered
  cases response with
  | ok body =>
      exact ⟨req, body, isAnswered, sameKey⟩
  | created | noContent =>
      cases status
  | failed error =>
      cases error <;> cases status

/-- A 201 is given after the last notification of a create. -/
theorem Move.of_created
    {task : RequestTask}
    {action : RequestAction}
    {clientId : Uuid}
    {req : CreateJobRequest}
    {body : JobResponse}
    (moved :
      task.Move externals shared action after
        (.answered (.createJob clientId req) (.created body))) :
    ∃ job,
      task = .creating clientId req (.notify job) ∧
        action = .notifyOne := by
  generalize reached :
    RequestTask.answered (.createJob clientId req) (.created body) =
      next at moved
  cases moved with
  | arrive request =>
      cases request <;> simp only [start] at reached <;>
        try cases reached
      all_goals split at reached <;> cases reached
  | create _ _ _ _ _ _ created =>
      cases created with
      | plan missing =>
          unfold planCreate at reached
          repeat' split at reached
          all_goals cases reached
      | announce job =>
          cases reached
          exact ⟨job, rfl, rfl⟩
      | _ =>
          cases reached
  | cancel _ _ _ _ _ _ cancels =>
      cases cancels with
      | read =>
          unfold planCancel at reached
          repeat' split at reached
          all_goals cases reached
      | _ =>
          cases reached
  | _ =>
      cases reached

/-- A 200 is given by the lookup of a create. -/
theorem Move.of_ok
    {task : RequestTask}
    {action : RequestAction}
    {clientId : Uuid}
    {req : CreateJobRequest}
    {body : JobResponse}
    (moved :
      task.Move externals shared action after
        (.answered (.createJob clientId req) (.ok body))) :
    task = .creating clientId req .lookup ∧ action = .call .ok := by
  generalize reached :
    RequestTask.answered (.createJob clientId req) (.ok body) =
      next at moved
  cases moved with
  | arrive request =>
      cases request <;> simp only [start] at reached <;>
        try cases reached
      all_goals split at reached <;> cases reached
  | create _ _ _ _ _ _ created =>
      cases created with
      | plan missing =>
          unfold planCreate at reached
          repeat' split at reached
          all_goals cases reached
      | found existing looked =>
          cases reached
          exact ⟨rfl, rfl⟩
      | _ =>
          cases reached
  | cancel _ _ _ _ _ _ cancels =>
      cases cancels with
      | read =>
          unfold planCancel at reached
          repeat' split at reached
          all_goals cases reached
      | _ =>
          cases reached
  | _ =>
      cases reached

/-- A create had inserted before, or the key was free until now. -/
theorem Move.inserted?_cases
    {task next : RequestTask}
    {action : RequestAction}
    (moved : task.Move externals shared action after next)
    {key : String}
    (inserted : next.inserted? = some key) :
    task.inserted? = some key ∨
      ∀ row ∈ shared.jobs.rows, row.idempotencyKey ≠ key := by
  cases moved with
  | arrive request =>
      cases request <;> simp only [start] at inserted <;>
        try cases inserted
      all_goals split at inserted <;> cases inserted
  | create clientId req position action after next created =>
      cases created with
      | plan missing =>
          unfold planCreate at inserted
          repeat' split at inserted
          all_goals cases inserted
      | insertJob id jobs isInserted =>
          obtain rfl := Option.some.inj inserted
          exact Or.inr
            (RecordTable.insert?_eq_some_iff.mp isInserted).1.2
      | insertTemplate recurrence firstFire id jobs isInserted =>
          obtain rfl := Option.some.inj inserted
          exact Or.inr
            (RecordTable.insert?_eq_some_iff.mp isInserted).1.2
      | insertInstance | announceRecurring | announce =>
          exact Or.inl inserted
      | found | duplicateJob | duplicateTemplate | duplicateInstance |
          fails =>
          cases inserted
  | cancel clientId id position action after next cancels =>
      cases cancels with
      | read =>
          unfold planCancel at inserted
          repeat' split at inserted
          all_goals cases inserted
      | _ =>
          cases inserted
  | get | patch | readPatched | answerPatch | announcePatch =>
      cases inserted

end RequestTask

end Moves

namespace State

variable {config : Config} {slots : Nat}
variable {externals : Externals}
variable {state after : State config slots}
variable {action : Action config slots}

/-- What ties the answers of creates to the rows of their keys. -/
structure KeysKept (state : State config slots) : Prop where
  backed : ∀ slot, (state.requests slot).Backed state.jobs
  single :
    ∀ first second key,
      (state.requests first).inserted? = some key →
      (state.requests second).inserted? = some key →
      first = second
  apart :
    ∀ first second clientId key,
      TemplateKey state.jobs key →
      (state.requests first).createStatus? clientId key = some 201 →
      (state.requests second).createStatus? clientId key ≠ some 200

theorem keysKept_booted
    (clock : Time)
    (jobs : JobTable) :
    (booted config slots clock jobs).KeysKept where
  backed := fun _ => trivial
  single := fun _ _ _ inserted => by cases inserted
  apart := fun _ _ _ _ _ created => by cases created

/-- Every step leaves rows behind all that creates have answered. -/
theorem backed_step
    (backed : ∀ slot, (state.requests slot).Backed state.jobs)
    (taken : step? externals state action = some after)
    (slot : Fin slots) :
    (after.requests slot).Backed after.jobs := by
  cases requestStep_of_step? taken slot with
  | kept same =>
      rw [same]
      exact (backed slot).grow (extends_of_step? taken)
  | lost isAbsent =>
      rw [isAbsent]
      trivial
  | moved requestAction isApi moved =>
      exact (backed slot).move moved

/-- A create had inserted before, or it does so now and the key was free. -/
private theorem inserted_or_free
    (taken : step? externals state action = some after)
    {slot : Fin slots}
    {key : String}
    (inserted : (after.requests slot).inserted? = some key) :
    (state.requests slot).inserted? = some key ∨
      (∃ requestAction, action = .api slot requestAction) ∧
        ∀ row ∈ state.jobs.rows, row.idempotencyKey ≠ key := by
  cases requestStep_of_step? taken slot with
  | kept same =>
      exact Or.inl (same ▸ inserted)
  | lost isAbsent =>
      rw [isAbsent] at inserted
      cases inserted
  | moved requestAction isApi moved =>
      rcases moved.inserted?_cases inserted with before | free
      · exact Or.inl before
      · exact Or.inr ⟨⟨requestAction, isApi⟩, free⟩

/-- The key of an insert is in use ever after, so it is inserted once. -/
private theorem KeysKept.single_step
    (kept : state.KeysKept)
    (taken : step? externals state action = some after)
    {first second : Fin slots}
    {key : String}
    (firstInserted : (after.requests first).inserted? = some key)
    (secondInserted : (after.requests second).inserted? = some key) :
    first = second := by
  have used
      {slot : Fin slots}
      (inserted : (state.requests slot).inserted? = some key)
      (free : ∀ row ∈ state.jobs.rows, row.idempotencyKey ≠ key) :
      False := by
    obtain ⟨row, member, sameKey⟩ := (kept.backed slot).keyUsed inserted
    exact free row member sameKey
  rcases inserted_or_free taken firstInserted with
    firstBefore | ⟨⟨firstAction, isFirst⟩, firstFree⟩
  · rcases inserted_or_free taken secondInserted with
      secondBefore | ⟨_, secondFree⟩
    · exact kept.single first second key firstBefore secondBefore
    · exact (used firstBefore secondFree).elim
  · rcases inserted_or_free taken secondInserted with
      secondBefore | ⟨⟨secondAction, isSecond⟩, _⟩
    · exact (used secondBefore firstFree).elim
    · have sameStep := isFirst.symm.trans isSecond
      cases sameStep
      rfl

/-- The key of a template is new to the table, or it was one before. -/
private theorem templateKey_before
    (taken : step? externals state action = some after)
    {key : String}
    (isTemplateKey : TemplateKey after.jobs key) :
    TemplateKey state.jobs key ∨
      ∀ row ∈ state.jobs.rows, row.idempotencyKey ≠ key := by
  obtain ⟨row, member, sameKey, isTemplate⟩ := isTemplateKey
  cases rowOrigin_of_step? taken member with
  | kept old oldMember identity | changed old oldMember identity =>
      refine Or.inl ⟨old, oldMember, ?_⟩
      rw [← identity]
      exact ⟨sameKey, isTemplate⟩
  | inserted fresh =>
      refine Or.inr fun old oldMember oldKey => ?_
      exact fresh.2 old oldMember (oldKey.trans sameKey.symm)

/-- A create with a 201 had it before the step, or was about to answer. -/
private theorem created_before
    (taken : step? externals state action = some after)
    {slot : Fin slots}
    {clientId : Uuid}
    {key : String}
    (created :
      (after.requests slot).createStatus? clientId key = some 201) :
    (state.requests slot).createStatus? clientId key = some 201 ∨
      ∃ req job,
        state.requests slot = .creating clientId req (.notify job) ∧
          action = .api slot .notifyOne ∧ req.idempotencyKey = key := by
  cases requestStep_of_step? taken slot with
  | kept same =>
      exact Or.inl (same ▸ created)
  | lost isAbsent =>
      rw [isAbsent] at created
      cases created
  | moved requestAction isApi moved =>
      obtain ⟨req, body, isAnswered, sameKey⟩ :=
        RequestTask.exists_created created
      rw [isAnswered] at moved
      obtain ⟨job, before, rfl⟩ := moved.of_created
      exact Or.inr ⟨req, job, before, isApi, sameKey⟩

/-- A create with a 200 had it before the step, or looked its key up. -/
private theorem repeated_before
    (taken : step? externals state action = some after)
    {slot : Fin slots}
    {clientId : Uuid}
    {key : String}
    (repeated :
      (after.requests slot).createStatus? clientId key = some 200) :
    (state.requests slot).createStatus? clientId key = some 200 ∨
      ∃ req,
        state.requests slot = .creating clientId req .lookup ∧
          action = .api slot (.call .ok) ∧ req.idempotencyKey = key := by
  cases requestStep_of_step? taken slot with
  | kept same =>
      exact Or.inl (same ▸ repeated)
  | lost isAbsent =>
      rw [isAbsent] at repeated
      cases repeated
  | moved requestAction isApi moved =>
      obtain ⟨req, body, isAnswered, sameKey⟩ :=
        RequestTask.exists_ok repeated
      rw [isAnswered] at moved
      obtain ⟨before, rfl⟩ := moved.of_ok
      exact Or.inr ⟨req, before, isApi, sameKey⟩

/-- A permitted step keeps the two kinds of answers to a key apart. -/
private theorem KeysKept.apart_step
    (kept : state.KeysKept)
    (permitted : state.AnswersAlike action)
    (taken : step? externals state action = some after)
    {first second : Fin slots}
    {clientId : Uuid}
    {key : String}
    (isTemplateKey : TemplateKey after.jobs key)
    (created :
      (after.requests first).createStatus? clientId key = some 201) :
    (after.requests second).createStatus? clientId key ≠ some 200 := by
  intro repeated
  have createdBefore := created_before taken created
  have inserted : (state.requests first).inserted? = some key := by
    rcases createdBefore with
      answered | ⟨req, job, notifying, _, sameKey⟩
    · obtain ⟨req, body, isAnswered, sameKey⟩ :=
        RequestTask.exists_created answered
      rw [isAnswered, ← sameKey]
      rfl
    · rw [notifying, ← sameKey]
      rfl
  have wasTemplateKey : TemplateKey state.jobs key := by
    rcases templateKey_before taken isTemplateKey with before | free
    · exact before
    · obtain ⟨row, member, sameKey⟩ := (kept.backed first).keyUsed inserted
      exact (free row member sameKey).elim
  rcases createdBefore with
    answered | ⟨req, job, notifying, isNotify, sameKey⟩
  · rcases repeated_before taken repeated with
      repeatedBefore | ⟨req, looking, isLookup, sameKey⟩
    · exact kept.apart first second clientId key wasTemplateKey answered
        repeatedBefore
    · subst isLookup sameKey
      exact permitted.1 (clientId, req) (by simp [lookedUp?, looking])
        wasTemplateKey first answered
  · rcases repeated_before taken repeated with
      repeatedBefore | ⟨_, _, isLookup, _⟩
    · subst isNotify sameKey
      exact permitted.2 (clientId, req) (by simp [announced?, notifying])
        wasTemplateKey second repeatedBefore
    · rw [isNotify] at isLookup
      cases isLookup

theorem KeysKept.step
    (kept : state.KeysKept)
    (permitted : state.AnswersAlike action)
    (taken : step? externals state action = some after) :
    after.KeysKept where
  backed := backed_step kept.backed taken
  single := fun _ _ _ first second => kept.single_step taken first second
  apart := fun _ _ _ _ isTemplateKey created =>
    kept.apart_step permitted taken isTemplateKey created

/-! ## Agreement -/

/-- A 200 names the row of its key, and so does a 201 of no template. -/
private theorem KeysKept.id_eq_of_ok
    (kept : state.KeysKept)
    {first second : Fin slots}
    {clientId : Uuid}
    {firstReq secondReq : CreateJobRequest}
    {firstBody secondBody : JobResponse}
    (created :
      state.requests first =
        .answered (.createJob clientId firstReq) (.created firstBody))
    (repeated :
      state.requests second =
        .answered (.createJob clientId secondReq) (.ok secondBody))
    (sameKey : firstReq.idempotencyKey = secondReq.idempotencyKey) :
    firstBody.id = secondBody.id := by
  have made := kept.backed first
  rw [created] at made
  obtain ⟨row, member, rowId, _, rowKey | isTemplateKey⟩ := made
  · have found := kept.backed second
    rw [repeated] at found
    obtain ⟨other, otherMember, otherId, otherKey⟩ := found
    have sameRow : row = other :=
      RecordTable.eq_of_unique member otherMember
        (rowKey.trans (sameKey.trans otherKey.symm))
    calc
      firstBody.id = row.id := rowId.symm
      _ = other.id := congrArg Job.id sameRow
      _ = secondBody.id := otherId
  · refine (kept.apart first second clientId firstReq.idempotencyKey
      isTemplateKey ?_ ?_).elim
    · simp [created, RequestTask.createStatus?, Response.status]
    · simp [repeated, RequestTask.createStatus?, Response.status, sameKey]

/-- Apart answers agree. -/
theorem KeysKept.createsAgree
    (kept : state.KeysKept) :
    state.CreatesAgree := by
  intro first second clientId firstReq secondReq firstAnswer secondAnswer
    isFirst isSecond sameKey firstBody firstMember secondBody secondMember
  cases firstAnswer with
  | created body =>
      obtain rfl := Option.some.inj firstMember
      cases secondAnswer with
      | created other =>
          obtain rfl := Option.some.inj secondMember
          have sameSlot : first = second := by
            apply kept.single first second firstReq.idempotencyKey
            · rw [isFirst]
              rfl
            · rw [isSecond, sameKey]
              rfl
          rw [← sameSlot, isFirst] at isSecond
          cases isSecond
          rfl
      | ok other =>
          obtain rfl := Option.some.inj secondMember
          exact kept.id_eq_of_ok isFirst isSecond sameKey
      | noContent | failed =>
          cases secondMember
  | ok body =>
      obtain rfl := Option.some.inj firstMember
      cases secondAnswer with
      | created other =>
          obtain rfl := Option.some.inj secondMember
          exact (kept.id_eq_of_ok isSecond isFirst sameKey.symm).symm
      | ok other =>
          obtain rfl := Option.some.inj secondMember
          have firstFound := kept.backed first
          have secondFound := kept.backed second
          rw [isFirst] at firstFound
          rw [isSecond] at secondFound
          obtain ⟨row, member, rowId, rowKey⟩ := firstFound
          obtain ⟨later, laterMember, laterId, laterKey⟩ := secondFound
          have sameRow : row = later :=
            RecordTable.eq_of_unique member laterMember
              (rowKey.trans (sameKey.trans laterKey.symm))
          calc
            body.id = row.id := rowId.symm
            _ = later.id := congrArg Job.id sameRow
            _ = other.id := laterId
      | noContent | failed =>
          cases secondMember
  | noContent | failed =>
      cases firstMember

/-- A 201 and a 200 for the key of a template name different jobs. -/
private theorem disagree_of_templateKey
    (backed : ∀ slot, (state.requests slot).Backed state.jobs)
    {first second : Fin slots}
    {clientId : Uuid}
    {key : String}
    (isTemplateKey : TemplateKey state.jobs key)
    (created :
      (state.requests first).createStatus? clientId key = some 201)
    (repeated :
      (state.requests second).createStatus? clientId key = some 200) :
    ¬state.CreatesAgree := by
  intro agree
  obtain ⟨firstReq, firstBody, isFirst, firstKey⟩ :=
    RequestTask.exists_created created
  obtain ⟨secondReq, secondBody, isSecond, secondKey⟩ :=
    RequestTask.exists_ok repeated
  have sameId : firstBody.id = secondBody.id :=
    agree first second clientId firstReq secondReq _ _ isFirst isSecond
      (firstKey.trans secondKey.symm) firstBody rfl secondBody rfl
  have made := backed first
  have found := backed second
  rw [isFirst] at made
  rw [isSecond] at found
  obtain ⟨template, templateMember, templateKey, isTemplate⟩ :=
    isTemplateKey
  obtain ⟨plain, plainMember, plainId, notTemplate, _⟩ := made
  obtain ⟨row, member, rowId, rowKey⟩ := found
  have isRow : row = template :=
    RecordTable.eq_of_unique member templateMember
      (rowKey.trans (secondKey.trans templateKey.symm))
  have isPlain : row = plain :=
    RecordTable.eq_of_primary member plainMember
      (rowId.trans (sameId.symm.trans plainId.symm))
  rw [← isPlain, isRow] at notTemplate
  exact Bool.false_ne_true (notTemplate.symm.trans isTemplate)

/-- An answer outlives every step of a request. -/
private theorem createStatus?_step
    {slot : Fin slots}
    {requestAction : RequestAction}
    (taken :
      step? externals state (.api slot requestAction) = some after)
    {other : Fin slots}
    {clientId : Uuid}
    {key : String}
    {status : Nat}
    (answered :
      (state.requests other).createStatus? clientId key = some status) :
    (after.requests other).createStatus? clientId key = some status := by
  cases requestStep_of_step? taken other with
  | kept same =>
      rw [same]
      exact answered
  | lost isAbsent isRestart =>
      cases isRestart
  | moved otherAction isApi moved =>
      obtain ⟨req, response, isAnswered, _⟩ :=
        RequestTask.of_createStatus? answered
      rw [isAnswered] at moved
      cases moved

/-- A step that is not permitted makes two answers disagree. -/
private theorem KeysKept.answersAlike
    (kept : state.KeysKept)
    (taken : step? externals state action = some after)
    (agree : after.CreatesAgree) :
    state.AnswersAlike action := by
  constructor
  · rintro ⟨clientId, req⟩ looked isTemplateKey other created
    obtain ⟨slot, rfl, looking⟩ := lookup_of_lookedUp? looked
    have repeated :
        (after.requests slot).createStatus? clientId
          req.idempotencyKey = some 200 := by
      have moved := requestMove_of_step? taken
      rw [looking] at moved
      generalize after.requests slot = next at moved ⊢
      generalize after.toShared = later at moved
      cases moved with
      | create _ _ _ _ _ _ created =>
          cases created with
          | found existing looked =>
              simp [RequestTask.createStatus?, Response.status]
          | plan missing =>
              obtain ⟨row, member, sameKey, _⟩ := isTemplateKey
              exact (RecordTable.findUnique?_eq_none_iff.mp missing row
                member sameKey).elim
    exact disagree_of_templateKey (backed_step kept.backed taken)
      (isTemplateKey.grow (extends_of_step? taken))
      (createStatus?_step taken created) repeated agree
  · rintro ⟨clientId, req⟩ announced isTemplateKey other repeated
    obtain ⟨slot, job, rfl, notifying⟩ := notify_of_announced? announced
    have created :
        (after.requests slot).createStatus? clientId
          req.idempotencyKey = some 201 := by
      have moved := requestMove_of_step? taken
      rw [notifying] at moved
      generalize after.requests slot = next at moved ⊢
      generalize after.toShared = later at moved
      cases moved with
      | create _ _ _ _ _ _ created =>
          cases created with
          | announce job =>
              simp [RequestTask.createStatus?, Response.status]
    exact disagree_of_templateKey (backed_step kept.backed taken)
      (isTemplateKey.grow (extends_of_step? taken)) created
      (createStatus?_step taken repeated) agree

/--
The answers agree as long as no key of a template gets both a 201 and a 200,
and the first step to give out the second kind makes them disagree.
-/
theorem createsAgree_iff_answersAlike
    {clock : Time}
    {jobs : JobTable}
    {actions : List (Action config slots)}
    (run :
      Run externals AnswersAlike (booted config slots clock jobs) actions
        state) :
    state.CreatesAgree ∧
      ∀ action after,
        step? externals state action = some after →
        (after.CreatesAgree ↔ state.AnswersAlike action) := by
  have kept : state.KeysKept :=
    run.invariant
      (fun kept permitted taken => kept.step permitted taken)
      (keysKept_booted clock jobs)
  refine ⟨kept.createsAgree, fun action after taken => ⟨?_, ?_⟩⟩
  · exact kept.answersAlike taken
  · intro permitted
    exact (kept.step permitted taken).createsAgree

end State

/-! ## Concrete runs -/

namespace Sample

/-- Job 1 is created, and the second request asks for it again. -/
def createTwice : List (Action config 2) :=
  [ .api 0 (.arrive (.createJob clientId (oneOff "key"))),
    .api 1 (.arrive (.createJob clientId (oneOff "key"))),
    .api 0 (.call .ok),
    .api 0 (.call (.inserted 1)),
    .api 0 .notifyOne,
    .api 1 (.call .ok) ]

/-- A repeated create without recurrence gets the same job. -/
theorem repeated_create_agrees :
    ∃ final,
      State.Run externals State.AnswersAlike
          (State.booted config 2 0 RecordTable.empty) createTwice final ∧
        (final.requests 0).createStatus? clientId "key" = some 201 ∧
        (final.requests 1).createStatus? clientId "key" = some 200 ∧
        final.CreatesAgree ∧
        ∀ action after,
          State.step? externals final action = some after →
          (after.CreatesAgree ↔ final.AnswersAlike action) := by
  obtain ⟨final, run, created, repeated⟩ :=
    TransitionSystem.exists_run_of_replay?
      (State.step? externals) State.AnswersAlike
      (State.booted config 2 0 RecordTable.empty) createTwice
      (fun final =>
        (final.requests 0).createStatus? clientId "key" = some 201 ∧
          (final.requests 1).createStatus? clientId "key" = some 200)
      (by decide)
  exact ⟨final, run, created, repeated,
    State.createsAgree_iff_answersAlike run⟩

/-- The id of the job an answer returns. -/
def answerId? : RequestTask → Option Uuid
  | .answered _ response => response.body?.map JobResponse.id
  | _ => none

/-- The second request asks for the recurring job again. -/
def repeatRecurring : List (Action config 2) :=
  [ .api 1 (.arrive (.createJob clientId (everyMinute "key"))),
    .api 1 (.call .ok) ]

/-- A repeated recurring create gets the template, not the first instance. -/
theorem repeated_recurring_create_disagrees :
    ∃ final,
      State.Run externals TransitionSystem.Unrestricted
          (State.initial config 2 0)
          (createRecurring ++ repeatRecurring) final ∧
        answerId? (final.requests 0) = some 2 ∧
        answerId? (final.requests 1) = some 1 ∧
        ¬final.CreatesAgree := by
  obtain ⟨final, run, firstId, secondId, created, repeated⟩ :=
    TransitionSystem.exists_run_of_replay?
      (State.step? externals) TransitionSystem.Unrestricted
      (State.initial config 2 0) (createRecurring ++ repeatRecurring)
      (fun final =>
        answerId? (final.requests 0) = some 2 ∧
          answerId? (final.requests 1) = some 1 ∧
          (final.requests 0).createStatus? clientId "key" = some 201 ∧
          (final.requests 1).createStatus? clientId "key" = some 200)
      (by decide)
  refine ⟨final, run, firstId, secondId, fun agree => ?_⟩
  obtain ⟨firstReq, firstBody, isFirst, firstKey⟩ :=
    RequestTask.exists_created created
  obtain ⟨secondReq, secondBody, isSecond, secondKey⟩ :=
    RequestTask.exists_ok repeated
  have sameId : firstBody.id = secondBody.id :=
    agree 0 1 clientId firstReq secondReq _ _ isFirst isSecond
      (firstKey.trans secondKey.symm) firstBody rfl secondBody rfl
  rw [isFirst] at firstId
  rw [isSecond] at secondId
  have clash : some (2 : Uuid) = some 1 :=
    calc
      some 2 = some firstBody.id := firstId.symm
      _ = some secondBody.id := congrArg some sameId
      _ = some 1 := secondId
  exact absurd clash (by decide)

end Sample

end Kronkeeper
