import Kronkeeper.ExpiryDeadline
import Kronkeeper.JobStore
import Kronkeeper.RowRoundTrip

namespace Kronkeeper

/-!
# The handlers implement the atomic API

A handler makes several repository calls, and everything else runs between
them.  Still, each request acts as if its one or two operations happened at
single instants between its arrival and its answer: the lookup before an
insertion and the read before a cancellation decide nothing that the statement
after them does not decide again.
-/

open AtomicObject

/-! ## The store behind a table -/

namespace JobStore

variable {shared : Shared}
variable {clientId id : Uuid}
variable {row : Job}

theorem owns_iff_mem :
    (ofShared shared).Owns clientId id row ↔
      row ∈ shared.jobs.rows ∧ row.id = id ∧
        row.clientId = some clientId := by
  constructor
  · rintro ⟨found, owner⟩
    obtain ⟨member, sameId⟩ := RecordTable.find?_eq_some_iff.mp found
    exact ⟨member, sameId, owner⟩
  · rintro ⟨member, sameId, owner⟩
    exact ⟨RecordTable.find?_eq_some_iff.mpr ⟨member, sameId⟩, owner⟩

theorem getJobById_eq_some_iff :
    JobRepository.getJobById shared.jobs id clientId = some row ↔
      (ofShared shared).Owns clientId id row := by
  have keyed :
      ∀ other : Job,
        (other.id == id && other.clientId == some clientId) = true →
          other.identity.id = id := by
    intro other holds
    simp only [Bool.and_eq_true, beq_iff_eq] at holds
    exact holds.1
  rw [JobRepository.getJobById, RecordTable.find?_keyed_eq_some_iff keyed,
    owns_iff_mem, Bool.and_eq_true, beq_iff_eq, beq_iff_eq]

theorem getJobById_eq_none_iff :
    JobRepository.getJobById shared.jobs id clientId = none ↔
      ∀ row, ¬(ofShared shared).Owns clientId id row := by
  simp only [← getJobById_eq_some_iff]
  exact Option.eq_none_iff_forall_ne_some

/-- An `UPDATE` of one row writes it. -/
theorem ofShared_update
    {change : JobUpdate}
    (found : (ofShared shared).row? id = some row)
    (applies : change.applies row = true)
    (keyed : ∀ other : Job, change.applies other = true → other.id = id) :
    ofShared (shared.update change) =
      (ofShared shared).put (change.assign row) := by
  have sameId : (change.assign row).id = id :=
    (Job.id_eq_of_identity (change.keepsIdentity row)).trans
      (RecordTable.find?_eq_some_iff.mp found).2
  ext1
  · rfl
  · rw [put, sameId]
    exact RecordTable.find?_update_keyed found applies keyed

/-- An `INSERT` writes the new row. -/
theorem ofShared_insert
    {jobs : JobTable}
    (inserted : shared.jobs.insert? row = some jobs) :
    ofShared { shared with jobs := jobs } = (ofShared shared).put row := by
  ext1
  · rfl
  · exact RecordTable.find?_insert? inserted

/-- The constraints let a row in only if the store admits it. -/
theorem admits_of_insert
    {jobs : JobTable}
    (inserted : shared.jobs.insert? row = some jobs) :
    (ofShared shared).Admits row where
  newId :=
    RecordTable.find?_eq_none_iff.mpr
      (RecordTable.insert?_eq_some_iff.mp inserted).1.1
  newKey _ other found :=
    (RecordTable.insert?_eq_some_iff.mp inserted).1.2 other
      (RecordTable.find?_eq_some_iff.mp found).1

theorem ofShared_notifyOne :
    ofShared shared.notifyOne = ofShared shared :=
  rfl

theorem ofShared_cancelInstances :
    ofShared
        (shared.update (JobRepository.cancelInstances shared.clock id)) =
      (ofShared shared).cancelInstances id := by
  ext1
  · rfl
  · funext other
    refine (RecordTable.find?_update ..).trans ?_
    change Option.map _ (shared.jobs.find? other) =
      Option.map _ (shared.jobs.find? other)
    congr 1
    funext row
    simp only [RowUpdate.image, JobRepository.cancelInstances, cancelled,
      ofShared, Bool.and_eq_true, beq_iff_eq]

end JobStore

/-! ## What a handler relies on after its first call -/

namespace RequestTask

/-- What the first statement of a handler has ascertained for the second. -/
def Committed (jobs : JobTable) : RequestTask → Prop
  | .cancelling _ _ (.cancelInstances templates) => 0 < templates
  | .patching clientId id _ .read =>
      jobs.Has fun row => row.id = id ∧ row.clientId = some clientId
  | _ => True

variable {externals : Externals}
variable {shared after : Shared}
variable {task next : RequestTask}
variable {action : RequestAction}

theorem Committed.grow
    {before after : JobTable}
    (committed : task.Committed before)
    (growth : before.Extends after) :
    task.Committed after := by
  unfold Committed at *
  split
  · exact committed
  · exact committed.grow growth
  · trivial

theorem committed_start
    (jobs : JobTable)
    (request : Request) :
    (start request).Committed jobs := by
  cases request <;> simp only [start] <;> try exact trivial
  all_goals split <;> exact trivial

theorem committed_planCreate
    (jobs : JobTable)
    (clientId : Uuid)
    (req : CreateJobRequest) :
    (planCreate externals clientId req).Committed jobs := by
  unfold planCreate
  split
  · exact trivial
  · split <;> exact trivial

theorem committed_planCancel
    (jobs : JobTable)
    (clientId id : Uuid)
    (read : Option Job) :
    (planCancel clientId id read).Committed jobs := by
  unfold planCancel
  split
  · exact trivial
  · split <;> exact trivial

private theorem committed_of_patchStep?
    {clientId id : Uuid}
    {req : PatchJobRequest}
    {position : PatchPosition}
    (taken :
      patchStep? shared clientId id req position action =
        some (after, next)) :
    next.Committed after.jobs := by
  unfold patchStep? at taken
  split at taken
  · dsimp only at taken
    split at taken
    · rename_i affected
      cases taken
      obtain ⟨row, member, applies⟩ :=
        RecordTable.affected_pos_iff.mp affected
      simp only [JobRepository.updateCronExpr, Bool.and_eq_true,
        beq_iff_eq] at applies
      have here :
          shared.jobs.Has fun row =>
            row.id = id ∧ row.clientId = some clientId :=
        ⟨row, member, applies.1.1.1, applies.1.1.2⟩
      exact here.grow (.update _ _)
    · cases taken
      exact trivial
  · split at taken <;> cases taken <;> exact trivial
  all_goals cases taken
  all_goals exact trivial

/-- Every step of a request commits what its next statement relies on. -/
theorem committed_of_step?
    (taken : task.step? externals shared action = some (after, next))
    (grounded : task.Grounded shared.jobs) :
    next.Committed after.jobs := by
  cases task with
  | patching clientId id req position =>
      have patched :
          patchStep? shared clientId id req position action =
            some (after, next) :=
        taken
      exact committed_of_patchStep? patched
  | absent =>
      cases move_of_step? taken with
      | arrive request =>
          exact committed_start _ request
  | creating clientId req position =>
      cases move_of_step? taken with
      | create _ _ _ _ _ _ created =>
          cases created with
          | plan missing =>
              exact committed_planCreate _ clientId req
          | _ =>
              exact trivial
  | cancelling clientId id position =>
      cases move_of_step? taken with
      | cancel _ _ _ _ _ _ cancelled =>
          cases cancelled with
          | read =>
              exact committed_planCancel ..
          | cancelTemplate =>
              obtain ⟨row, member, sameId, sameClient, isTemplate⟩ :=
                grounded
              refine RecordTable.affected_pos_iff.mpr ⟨row, member, ?_⟩
              simp [JobRepository.cancelTemplate, sameId, sameClient,
                isTemplate]
          | _ =>
              exact trivial
  | getting =>
      cases move_of_step? taken
      exact trivial
  | answered =>
      cases move_of_step? taken

/-! ## One request -/

/-- What a client sees of a handler. -/
def phase : RequestTask → Phase Request Response ApiTodo
  | .absent => .idle
  | .creating clientId req (.insertInstance template firstFire) =>
      .busy (.addInstance clientId req template firstFire)
  | .creating clientId req (.notifyRecurring _ instanceJob) =>
      .busy
        (.reply (.createJob clientId req)
          (.created (JobResponse.ofJob instanceJob)))
  | .creating clientId req (.notify job) =>
      .busy
        (.reply (.createJob clientId req)
          (.created (JobResponse.ofJob job)))
  | .creating clientId req _ => .busy (.call (.createJob clientId req))
  | .getting clientId id => .busy (.call (.getJob clientId id))
  | .cancelling clientId id (.cancelInstances _) =>
      .busy (.cancelInstances clientId id)
  | .cancelling clientId id .notify =>
      .busy (.reply (.cancelJob clientId id) .noContent)
  | .cancelling clientId id _ => .busy (.call (.cancelJob clientId id))
  | .patching clientId id req .update =>
      .busy (.call (.patchJob clientId id req))
  | .patching clientId id req .read =>
      .busy (.readPatched clientId id req)
  | .patching clientId id req (.notify job) =>
      .busy
        (.reply (.patchJob clientId id req)
          (.ok (JobResponse.ofJob job)))
  | .answered request response => .answered request response

/-- A crash of the process is one for every client. -/
theorem phase_afterCrash
    (task : RequestTask) :
    (State.afterCrash task).phase = task.phase.afterCrash := by
  cases task with
  | creating _ _ position | cancelling _ _ position
  | patching _ _ _ position =>
      cases position <;> rfl
  | _ =>
      rfl

/-- The arrival or the answer that a step of a request makes visible. -/
def events
    {Client : Type}
    (client : Client)
    (action : RequestAction)
    (next : RequestTask) : List (Label Client Request Response Nat) :=
  (match action with
    | .arrive request => [.invoke client request]
    | _ => []) ++
  match next with
  | .answered request response => [.answer client request response]
  | _ => []

/-! ## The step of a request is a move of the atomic API -/

section Matching

variable {Client : Type} [DecidableEq Client]
variable {client : Client}
variable {config :
  Configuration Client Request Response ApiTodo JobStore}

/-- The move of the atomic API that a step of a request makes. -/
abbrev Matches
    (externals : Externals)
    (config : Configuration Client Request Response ApiTodo JobStore)
    (client : Client)
    (action : RequestAction)
    (after : Shared)
    (next : RequestTask) : Prop :=
  (JobStore.api externals).Moves config client
    (next.events client action) (.ofShared after) next.phase

private theorem matches_failed
    {todo : ApiTodo}
    {message : String}
    (isValue : config.value = .ofShared shared)
    (isBusy : config.phase client = .busy todo)
    (isOpen : todo.isReply = false)
    (reply : Reply) :
    Matches externals config client (.call reply) shared
      (.answered todo.request (.failed (.internal message))) := by
  rw [Matches, ← isValue]
  exact .perform_answer isBusy (.fail todo message isOpen) rfl

private theorem matches_start
    (isValue : config.value = .ofShared shared)
    (isIdle : config.phase client = .idle)
    (request : Request) :
    Matches externals config client (.arrive request) shared
      (start request) := by
  rw [Matches, ← isValue]
  cases request with
  | createJob clientId req =>
      by_cases isEmpty : req.idempotencyKey.isEmpty
      · simp only [start, if_pos isEmpty]
        exact .invoke_answer isIdle
          (by simp [JobStore.api, ApiTodo.start, isEmpty, ApiTodo.settled?])
      · have started :
            (JobStore.api externals).start (.createJob clientId req) =
              .call (.createJob clientId req) := by
          simp [JobStore.api, ApiTodo.start, isEmpty]
        simp only [start, if_neg isEmpty, phase]
        rw [← started]
        exact .invoke isIdle
  | patchJob clientId id req =>
      by_cases isEmpty : req.cronExpr.isEmpty
      · simp only [start, if_pos isEmpty]
        exact .invoke_answer isIdle
          (by simp [JobStore.api, ApiTodo.start, isEmpty, ApiTodo.settled?])
      · have started :
            (JobStore.api externals).start (.patchJob clientId id req) =
              .call (.patchJob clientId id req) := by
          simp [JobStore.api, ApiTodo.start, isEmpty]
        simp only [start, if_neg isEmpty, phase]
        rw [← started]
        exact .invoke isIdle
  | getJob | cancelJob =>
      exact .invoke isIdle

private theorem matches_planCreate
    {clientId : Uuid}
    {req : CreateJobRequest}
    (isValue : config.value = .ofShared shared)
    (isBusy :
      config.phase client = .busy (.call (.createJob clientId req))) :
    Matches externals config client (.call .ok) shared
      (planCreate externals clientId req) := by
  unfold planCreate
  split
  · rw [Matches, ← isValue]
    exact .stay isBusy
  · split
    · exact matches_failed isValue isBusy rfl .ok
    · rw [Matches, ← isValue]
      exact .stay isBusy

private theorem matches_create
    {clientId : Uuid}
    {req : CreateJobRequest}
    {position : CreatePosition}
    (isValue : config.value = .ofShared shared)
    (isPhase :
      config.phase client = (creating clientId req position).phase)
    (planned : (creating clientId req position).Planned externals)
    (taken :
      createStep? externals shared clientId req position action =
        some (after, next)) :
    Matches externals config client action after next := by
  cases createMove_of_createStep? taken with
  | found existing looked =>
      rw [Matches, ← isValue]
      obtain ⟨member, sameKey⟩ :=
        RecordTable.findUnique?_eq_some_iff.mp looked
      have isRow : config.value.row? existing.id = some existing := by
        rw [isValue]
        exact RecordTable.find?_eq_some_iff.mpr ⟨member, rfl⟩
      exact .perform_answer isPhase
        (.found clientId existing.id req existing isRow sameKey) rfl
  | plan missing =>
      exact matches_planCreate isValue isPhase
  | insertJob id jobs inserted =>
      rw [Matches, JobStore.ofShared_insert inserted, ← isValue]
      refine .perform isPhase
        (.create clientId id req _ planned ?_ ?_)
      · rw [isValue]
        rfl
      · rw [isValue]
        exact JobStore.admits_of_insert inserted
  | insertTemplate recurrence firstFire id jobs inserted =>
      rw [Matches, JobStore.ofShared_insert inserted, ← isValue]
      refine .perform isPhase
        (.createTemplate clientId id req recurrence firstFire _ planned.1
          planned.2 ?_ ?_)
      · rw [isValue]
        rfl
      · rw [isValue]
        exact JobStore.admits_of_insert inserted
  | insertInstance template firstFire id jobs inserted =>
      rw [Matches, JobStore.ofShared_insert inserted, ← isValue]
      refine .perform isPhase
        (.addInstance clientId id req template firstFire _ ?_ ?_)
      · rw [isValue]
        rfl
      · rw [isValue]
        exact JobStore.admits_of_insert inserted
  | duplicateJob id | duplicateTemplate _ _ id
  | duplicateInstance _ _ id =>
      exact matches_failed isValue isPhase rfl (.inserted id)
  | announceRecurring template instanceJob =>
      rw [Matches, JobStore.ofShared_notifyOne, ← isValue]
      exact .stay isPhase
  | announce job =>
      rw [Matches, JobStore.ofShared_notifyOne, ← isValue]
      exact .settle isPhase rfl
  | fails position message =>
      cases position with
      | notifyRecurring | notify =>
          cases taken
      | _ =>
          exact matches_failed isValue isPhase rfl (.error message)

private theorem matches_planCancel
    {clientId id : Uuid}
    (isValue : config.value = .ofShared shared)
    (isBusy :
      config.phase client = .busy (.call (.cancelJob clientId id))) :
    Matches externals config client (.call .ok) shared
      (planCancel clientId id
        (JobRepository.getJobById shared.jobs id clientId)) := by
  cases read : JobRepository.getJobById shared.jobs id clientId with
  | none =>
      rw [JobStore.getJobById_eq_none_iff, ← isValue] at read
      rw [Matches, ← isValue]
      exact .perform_answer isBusy (.cancelNothing clientId id read) rfl
  | some job =>
      rw [Matches, ← isValue]
      unfold planCancel
      dsimp only
      split
      · exact .stay isBusy
      · exact .stay isBusy

private theorem matches_cancel
    {clientId id : Uuid}
    {position : CancelPosition}
    (isValue : config.value = .ofShared shared)
    (isPhase :
      config.phase client = (cancelling clientId id position).phase)
    (grounded : (cancelling clientId id position).Grounded shared.jobs)
    (committed : (cancelling clientId id position).Committed shared.jobs)
    (taken :
      cancelStep? shared clientId id position action =
        some (after, next)) :
    Matches externals config client action after next := by
  unfold cancelStep? at taken
  split at taken
  · cases taken
    exact matches_planCancel isValue isPhase
  · obtain ⟨row, member, sameId, sameClient, notTemplate⟩ := grounded
    have owns : (JobStore.ofShared shared).Owns clientId id row :=
      JobStore.owns_iff_mem.mpr ⟨member, sameId, sameClient⟩
    dsimp only at taken
    split at taken
    · rename_i affected
      cases taken
      obtain ⟨other, otherMember, applies⟩ :=
        RecordTable.affected_pos_iff.mp affected
      simp only [JobRepository.cancelJob, Bool.and_eq_true,
        beq_iff_eq] at applies
      obtain rfl : other = row :=
        RecordTable.eq_of_primary otherMember member
          (applies.1.1.trans sameId.symm)
      rw [Matches,
        JobStore.ofShared_update owns.found
          (by simp [JobRepository.cancelJob, applies])
          (fun row holds => by
            simp only [JobRepository.cancelJob, Bool.and_eq_true,
              beq_iff_eq] at holds
            exact holds.1.1)]
      refine .perform isPhase ?_
      rw [isValue]
      exact .cancel clientId id other owns notTemplate applies.2
    · rename_i unaffected
      cases taken
      have notScheduled : row.state ≠ .scheduled := by
        intro scheduled
        refine unaffected
          (RecordTable.affected_pos_iff.mpr ⟨row, member, ?_⟩)
        simp [JobRepository.cancelJob, sameId, sameClient, scheduled]
      rw [← isValue] at owns
      rw [Matches, ← isValue]
      exact .perform_answer isPhase
        (.cancelRefused clientId id row owns notTemplate notScheduled) rfl
  · cases taken
    obtain ⟨row, member, sameId, sameClient, isTemplate⟩ := grounded
    have owns : (JobStore.ofShared shared).Owns clientId id row :=
      JobStore.owns_iff_mem.mpr ⟨member, sameId, sameClient⟩
    rw [Matches,
      JobStore.ofShared_update owns.found
        (by simp [JobRepository.cancelTemplate, sameId, sameClient,
          isTemplate])
        (fun row holds => by
          simp only [JobRepository.cancelTemplate, Bool.and_eq_true,
            beq_iff_eq] at holds
          exact holds.1.1)]
    refine .perform isPhase ?_
    rw [isValue]
    exact .cancelTemplate clientId id row owns isTemplate
  · rename_i templates
    dsimp only at taken
    have counted : 0 < templates := committed
    rw [if_neg (by omega)] at taken
    cases taken
    rw [Matches, JobStore.ofShared_cancelInstances, ← isValue]
    exact .perform isPhase (.cancelInstances clientId id)
  · cases taken
    rw [Matches, JobStore.ofShared_notifyOne, ← isValue]
    exact .settle isPhase rfl
  all_goals cases taken
  all_goals exact matches_failed isValue isPhase rfl _

private theorem matches_get
    {clientId id : Uuid}
    (isValue : config.value = .ofShared shared)
    (isPhase : config.phase client = (getting clientId id).phase)
    (taken :
      (getting clientId id).step? externals shared action =
        some (after, next)) :
    Matches externals config client action after next := by
  rcases action with request | (_ | id | message) | _ <;>
    simp only [step?, reduceCtorEq] at taken
  · split at taken
    · rename_i missing
      cases taken
      rw [JobStore.getJobById_eq_none_iff, ← isValue] at missing
      rw [Matches, ← isValue]
      exact .perform_answer isPhase (.getNothing _ _ missing) rfl
    · rename_i job found
      cases taken
      rw [JobStore.getJobById_eq_some_iff, ← isValue] at found
      rw [Matches, ← isValue]
      exact .perform_answer isPhase (.get _ _ job found) rfl
  · cases taken
    exact matches_failed isValue isPhase rfl _

private theorem matches_patch
    {clientId id : Uuid}
    {req : PatchJobRequest}
    {position : PatchPosition}
    (isValue : config.value = .ofShared shared)
    (isPhase :
      config.phase client = (patching clientId id req position).phase)
    (committed :
      (patching clientId id req position).Committed shared.jobs)
    (taken :
      patchStep? shared clientId id req position action =
        some (after, next)) :
    Matches externals config client action after next := by
  unfold patchStep? at taken
  split at taken
  · dsimp only at taken
    split at taken
    · rename_i affected
      cases taken
      obtain ⟨row, member, applies⟩ :=
        RecordTable.affected_pos_iff.mp affected
      have applied := applies
      simp only [JobRepository.updateCronExpr, Bool.and_eq_true,
        beq_iff_eq] at applies
      obtain ⟨⟨⟨sameId, sameClient⟩, isTemplate⟩, isRecurring⟩ :=
        applies
      have owns : (JobStore.ofShared shared).Owns clientId id row :=
        JobStore.owns_iff_mem.mpr ⟨member, sameId, sameClient⟩
      rw [Matches,
        JobStore.ofShared_update owns.found applied
          (fun row holds => by
            simp only [JobRepository.updateCronExpr, Bool.and_eq_true,
              beq_iff_eq] at holds
            exact holds.1.1.1)]
      refine .perform isPhase ?_
      rw [isValue]
      exact .patch clientId id req row owns isTemplate isRecurring
    · rename_i unaffected
      cases taken
      rw [Matches, ← isValue]
      refine .perform_answer isPhase
        (.patchNothing clientId id req ?_) rfl
      rw [isValue]
      rintro row owns ⟨isTemplate, isRecurring⟩
      obtain ⟨member, sameId, sameClient⟩ := JobStore.owns_iff_mem.mp owns
      refine unaffected
        (RecordTable.affected_pos_iff.mpr ⟨row, member, ?_⟩)
      simp [JobRepository.updateCronExpr, sameId, sameClient, isTemplate,
        isRecurring]
  · split at taken
    · rename_i missing
      cases taken
      obtain ⟨row, member, sameId, sameClient⟩ := committed
      exact (JobStore.getJobById_eq_none_iff.mp missing row
        (JobStore.owns_iff_mem.mpr ⟨member, sameId, sameClient⟩)).elim
    · rename_i job found
      cases taken
      rw [JobStore.getJobById_eq_some_iff, ← isValue] at found
      rw [Matches, ← isValue]
      exact .perform isPhase (.readPatched clientId id req job found)
  · cases taken
    rw [Matches, JobStore.ofShared_notifyOne, ← isValue]
    exact .settle isPhase rfl
  all_goals cases taken
  all_goals exact matches_failed isValue isPhase rfl _

/-- Every step of a request is a move of the atomic API. -/
theorem matches_of_step?
    (isValue : config.value = .ofShared shared)
    (isPhase : config.phase client = task.phase)
    (grounded : task.Grounded shared.jobs)
    (planned : task.Planned externals)
    (committed : task.Committed shared.jobs)
    (taken : task.step? externals shared action = some (after, next)) :
    Matches externals config client action after next := by
  cases task with
  | absent =>
      cases move_of_step? taken with
      | arrive request =>
          exact matches_start isValue isPhase request
  | creating =>
      exact matches_create isValue isPhase planned taken
  | getting =>
      exact matches_get isValue isPhase taken
  | cancelling =>
      exact matches_cancel isValue isPhase grounded committed taken
  | patching =>
      exact matches_patch isValue isPhase committed taken
  | answered =>
      cases move_of_step? taken

end Matching

end RequestTask

/-! ## The daemon -/

namespace State

variable {config : Config} {slots : Nat}
variable {externals : Externals}
variable {state after : State config slots}
variable {action : Action config slots}

/-- The daemon as its clients see it. -/
def atomicApi
    (state : State config slots) :
    Configuration (Fin slots) Request Response ApiTodo JobStore where
  value := .ofShared state.toShared
  phase slot := (state.requests slot).phase

/-- A step of one request moves one client. -/
theorem atomicApi_update
    (slot : Fin slots)
    (shared : Shared)
    (task : RequestTask) :
    atomicApi
        { state with
          toShared := shared
          requests := Function.update state.requests slot task } =
      state.atomicApi.enter (.ofShared shared) slot task.phase := by
  ext1
  · rfl
  · funext other
    rcases eq_or_ne other slot with rfl | different
    · simp [atomicApi]
    · simp [atomicApi, Configuration.enter,
        Function.update_of_ne different]

/-- What a step shows of the API: arrivals, answers, and the time it takes. -/
def apiEvents
    (externals : Externals)
    (state : State config slots) :
    Action config slots → List (Label (Fin slots) Request Response Nat)
  | .tick elapsed => [.internal elapsed]
  | .api slot action =>
      match (state.requests slot).step? externals state.toShared action with
      | some (_, next) => next.events slot action
      | none => []
  | .restart => [.crash, .internal 0]
  | _ => [.internal 0]

/-- What the handlers rely on. -/
structure ApiReady
    (externals : Externals)
    (state : State config slots) : Prop where
  grounded : state.Grounded
  planned : state.CreatesPlanned externals
  committed : ∀ slot, (state.requests slot).Committed state.jobs

theorem apiReady_initial
    (clock : Time) :
    (initial config slots clock).ApiReady externals where
  grounded := grounded_booted clock RecordTable.empty
  planned := fun _ => trivial
  committed := fun _ => trivial

theorem ApiReady.step
    (ready : state.ApiReady externals)
    (taken : step? externals state action = some after) :
    after.ApiReady externals where
  grounded := ready.grounded.step taken
  planned :=
    forall_requests_step trivial (fun moved before => moved.planned before)
      taken ready.planned
  committed slot := by
    cases requestStep_of_step? taken slot with
    | kept same =>
        rw [same]
        exact (ready.committed slot).grow (extends_of_step? taken)
    | lost isAbsent =>
        rw [isAbsent]
        exact trivial
    | moved requestAction isApi =>
        subst isApi
        obtain ⟨⟨shared, next⟩, requestTaken, rfl⟩ :=
          Option.map_eq_some_iff.mp taken
        simpa only [Function.update_self] using
          RequestTask.committed_of_step? requestTaken
            (ready.grounded.requests slot)

/-- No step takes a row away. -/
theorem evolves_of_step?
    (taken : step? externals state action = some after)
    {elapsed : Nat}
    (clock : after.clock = state.clock + elapsed) :
    JobStore.Evolves elapsed (.ofShared state.toShared)
      (.ofShared after.toShared) where
  clock := clock
  rows id row found := by
    obtain ⟨member, sameId⟩ := RecordTable.find?_eq_some_iff.mp found
    obtain ⟨later, laterMember, identity⟩ :=
      extends_of_step? taken row member
    exact ⟨later,
      RecordTable.find?_eq_some_iff.mpr
        ⟨laterMember, (Job.id_eq_of_identity identity).trans sameId⟩,
      identity⟩

/-- What is no step of a request lets the store evolve. -/
private theorem trace_internal
    (taken : step? externals state action = some after)
    {elapsed : Nat}
    (clock : after.clock = state.clock + elapsed)
    (sameRequests : after.requests = state.requests) :
    TransitionSystem.Trace (JobStore.api externals).Step state.atomicApi
      [.internal elapsed] after.atomicApi := by
  have acts :
      (JobStore.api externals).Step state.atomicApi (.internal elapsed)
        { state.atomicApi with value := .ofShared after.toShared } :=
    .internal _ _ _ (evolves_of_step? taken clock)
  have same :
      after.atomicApi =
        { state.atomicApi with value := .ofShared after.toShared } := by
    simp only [atomicApi, sameRequests]
  rw [same]
  exact .single acts

/-- A restart is a crash of all handlers and the recovery of the table. -/
private theorem trace_restart :
    TransitionSystem.Trace (JobStore.api externals).Step state.atomicApi
      [.crash, .internal 0] state.restarted.atomicApi := by
  have taken :
      step? externals state .restart = some state.restarted :=
    rfl
  have acts :
      (JobStore.api externals).Step
        { state.atomicApi with
          phase := fun slot => (state.atomicApi.phase slot).afterCrash }
        (.internal 0)
        { value := .ofShared state.restarted.toShared
          phase := fun slot => (state.atomicApi.phase slot).afterCrash } :=
    .internal _ _ _ (evolves_of_step? taken (by simp [restarted, booted]))
  have same :
      state.restarted.atomicApi =
        { value := .ofShared state.restarted.toShared
          phase := fun slot => (state.atomicApi.phase slot).afterCrash } := by
    ext1
    · rfl
    · funext slot
      exact RequestTask.phase_afterCrash (state.requests slot)
  rw [same]
  exact .cons (.crash state.atomicApi) (.single acts)

/-- A step of a handler is a move of its client. -/
private theorem ApiReady.matched_api
    (ready : state.ApiReady externals)
    {slot : Fin slots}
    {requestAction : RequestAction}
    (taken :
      step? externals state (.api slot requestAction) = some after) :
    ∃ labels,
      TransitionSystem.Trace (JobStore.api externals).Step state.atomicApi
          labels after.atomicApi ∧
        labels.filter Label.visible =
          state.apiEvents externals (.api slot requestAction) := by
  obtain ⟨⟨shared, next⟩, requestTaken, rfl⟩ :=
    Option.map_eq_some_iff.mp taken
  have matched :
      RequestTask.Matches externals state.atomicApi slot requestAction
        shared next :=
    RequestTask.matches_of_step? rfl rfl (ready.grounded.requests slot)
      (ready.planned slot) (ready.committed slot) requestTaken
  rw [atomicApi_update]
  simp only [apiEvents, requestTaken]
  exact matched

/-- Every step of the daemon is one of the atomic API, or a few of them. -/
theorem ApiReady.matched
    (ready : state.ApiReady externals)
    (taken : step? externals state action = some after) :
    ∃ labels,
      TransitionSystem.Trace (JobStore.api externals).Step state.atomicApi
          labels after.atomicApi ∧
        labels.filter Label.visible = state.apiEvents externals action := by
  cases action with
  | tick elapsed =>
      have moved : after = { state with clock := state.clock + elapsed } :=
        (Option.some.inj taken).symm
      exact ⟨_, trace_internal taken (by rw [moved]) (by rw [moved]), rfl⟩
  | api slot requestAction =>
      exact ready.matched_api taken
  | restart =>
      cases taken
      exact ⟨_, trace_restart, rfl⟩
  | shutdown | scheduler | reaper | worker =>
      have still : after.clock = state.clock + (0 : Nat) := by
        simpa using clock_of_step? taken rfl
      have sameRequests : after.requests = state.requests := by
        cases move_of_step? taken
        simp
      exact ⟨_, trace_internal taken still sameRequests, rfl⟩

/--
The API is linearizable: in every run, the arrivals and answers of all requests
are those of a run of the atomic API, in which each request takes effect on the
one store at single instants between its arrival and its answer.
-/
theorem api_refines_atomic_object
    {clock : Time}
    {actions : List (Action config slots)}
    {final : State config slots}
    (run :
      Run externals TransitionSystem.Unrestricted
        (initial config slots clock) actions final) :
    ∃ labels,
      TransitionSystem.Trace (JobStore.api externals).Step
          (initial config slots clock).atomicApi labels final.atomicApi ∧
        labels.filter Label.visible =
          TransitionSystem.observed (step? externals) (apiEvents externals)
            (initial config slots clock) actions :=
  run.refines atomicApi
    (fun ready _ taken => ⟨ApiReady.step ready taken, ready.matched taken⟩)
    (apiReady_initial clock)

end State

/-! ## A concrete run -/

namespace Sample

/-- A job is read after its insertion and before its creation is answered. -/
def readBeforeAnswer : List (Action config 2) :=
  [ .api 0 (.arrive (.createJob clientId (oneOff "key"))),
    .api 0 (.call .ok),
    .api 1 (.arrive (.getJob clientId 1)),
    .api 0 (.call (.inserted 1)),
    .tick 5,
    .api 1 (.call .ok),
    .api 0 .notifyOne ]

/-- The two calls overlap; the creation takes effect before the read. -/
theorem overlapping_calls_linearize :
    ∃ labels, ∃ final : State config 2,
      TransitionSystem.Trace (JobStore.api externals).Step
          (State.initial config 2 0).atomicApi labels final.atomicApi ∧
        labels.filter Label.visible =
          [ .invoke 0 (.createJob clientId (oneOff "key")),
            .invoke 1 (.getJob clientId 1),
            .internal 5,
            .answer 1 (.getJob clientId 1)
              (.ok
                (JobResponse.ofJob
                  (JobRepository.oneOffRow 0 1 clientId (oneOff "key")))),
            .answer 0 (.createJob clientId (oneOff "key"))
              (.created
                (JobResponse.ofJob
                  (JobRepository.oneOffRow 0 1 clientId
                    (oneOff "key")))) ] := by
  obtain ⟨final, run, _⟩ :=
    TransitionSystem.exists_run_of_replay?
      (State.step? externals) TransitionSystem.Unrestricted
      (State.initial config 2 0) readBeforeAnswer
      (fun final => final.clock = 5)
      (by decide)
  obtain ⟨labels, trace, seen⟩ := State.api_refines_atomic_object run
  refine ⟨labels, final, trace, seen.trans ?_⟩
  decide

end Sample

end Kronkeeper
