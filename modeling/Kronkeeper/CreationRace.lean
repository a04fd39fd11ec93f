import Kronkeeper.IdempotentCreation

namespace Kronkeeper

/-!
# Racing creates

`create_job` looks its key up and inserts in two calls.  When two creates with
one key both look before either inserts, the unique column refuses the second
insert and that request answers 500.  Otherwise the first insert wins and every
later lookup finds its row.
-/

namespace RequestTask

/-- The task is a create without recurrence for the key. -/
def Competes (key : String) : RequestTask → Prop
  | .absent => True
  | .creating _ req .lookup =>
      req.idempotencyKey = key ∧ req.recurrence = none
  | .creating _ req .insertJob =>
      req.idempotencyKey = key ∧ req.recurrence = none
  | .creating _ req (.notify _) =>
      req.idempotencyKey = key ∧ req.recurrence = none
  | .answered (.createJob _ req) response =>
      req.idempotencyKey = key ∧ response ≠ .noContent
  | _ => False

/-- The task is between its lookup and its insert. -/
def isInserting : RequestTask → Bool
  | .creating _ _ .insertJob => true
  | _ => false

/-- The job the task has inserted. -/
def won? : RequestTask → Option Uuid
  | .creating _ _ (.notify job) => some job.id
  | .answered (.createJob _ _) (.created body) => some body.id
  | _ => none

/-- The task has missed its key, and will not answer 200. -/
def contends : RequestTask → Bool
  | .creating _ _ .insertJob => true
  | .creating _ _ (.notify _) => true
  | .answered _ (.created _) => true
  | .answered _ (.failed _) => true
  | _ => false

end RequestTask

/--
No crash, no failing call of a request, and no request but creates without
recurrence for the key.
-/
def Action.fitsRace
    {config : Config}
    {slots : Nat}
    (key : String) : Action config slots → Bool
  | .restart => false
  | .api _ (.arrive (.createJob _ req)) =>
      req.idempotencyKey == key && req.recurrence.isNone
  | .api _ (.arrive _) => false
  | .api _ (.call (.error _)) => false
  | _ => true

/-- The id that a request's `INSERT` generates. -/
def Action.generated?
    {config : Config}
    {slots : Nat} : Action config slots → Option Uuid
  | .api _ (.call (.inserted id)) => some id
  | _ => none

namespace State

variable {config : Config} {slots : Nat}

/-- The key under which a worker inserts the next instance. -/
def spawnedKey?
    (externals : Externals)
    (state : State config slots) : Action config slots → Option String
  | .worker worker (.spawn (.inserted _)) =>
      match state.workers worker with
      | .spawning _ (.insertInstance template nextFire) =>
          some (RecurringService.instanceKey externals template.id nextFire)
      | _ => none
  | _ => none

/--
The steps of a race for a key: besides what fits it, generated ids are new, and
no worker inserts an instance under the key.
-/
def Races
    (externals : Externals)
    (key : String)
    (state : State config slots)
    (action : Action config slots) : Prop :=
  action.fitsRace key = true ∧
    (∀ id ∈ action.generated?, ∀ row ∈ state.jobs.rows, row.id ≠ id) ∧
    ∀ spawned ∈ state.spawnedKey? externals action, spawned ≠ key

/-- A lookup happens after the insert, or while nobody is about to insert. -/
def LooksAlone
    (key : String)
    (state : State config slots)
    (action : Action config slots) : Prop :=
  (state.lookedUp? action).isSome = true →
    KeyUsed state.jobs key ∨
      ∀ other, (state.requests other).isInserting = false

/-- The steps of a race in which every lookup happens so. -/
def RacesAlone
    (externals : Externals)
    (key : String)
    (state : State config slots)
    (action : Action config slots) : Prop :=
  state.Races externals key action ∧ state.LooksAlone key action

instance
    (externals : Externals)
    (key : String)
    (state : State config slots)
    (action : Action config slots) :
    Decidable (Races externals key state action) :=
  have generates := action.generated?.decidableForallMem
  have spawns := (state.spawnedKey? externals action).decidableForallMem
  @instDecidableAnd _ _ inferInstance
    (@instDecidableAnd _ _ generates spawns)

instance
    (key : String)
    (state : State config slots)
    (action : Action config slots) :
    Decidable (LooksAlone key state action) :=
  inferInstanceAs (Decidable (_ → _))

instance
    (externals : Externals)
    (key : String)
    (state : State config slots)
    (action : Action config slots) :
    Decidable (RacesAlone externals key state action) :=
  inferInstanceAs (Decidable (_ ∧ _))

/-- Exactly one row has the key; one 201 and otherwise 200s name it. -/
def RaceSettled (key : String) (state : State config slots) : Prop :=
  ∃ row winner,
    (∀ other,
      other ∈ state.jobs.rows ∧ other.idempotencyKey = key ↔
        other = row) ∧
      (∃ clientId req body,
        state.requests winner =
            .answered (.createJob clientId req) (.created body) ∧
          body.id = row.id) ∧
      ∀ slot,
        slot ≠ winner →
        ∃ clientId req body,
          state.requests slot =
              .answered (.createJob clientId req) (.ok body) ∧
            body.id = row.id

end State

/-! ## The moves of a racing create -/

namespace RequestTask

variable {externals : Externals}
variable {shared after : Shared}
variable {task next : RequestTask}
variable {action : RequestAction}
variable {key : String}

/-- The moves that a race leaves to a create. -/
inductive RaceMove
    (shared : Shared)
    (key : String) :
    RequestTask → RequestAction → Shared → RequestTask → Prop where
  | arrive
      (clientId : Uuid)
      (req : CreateJobRequest)
      (sameKey : req.idempotencyKey = key)
      (oneOff : req.recurrence = none) :
      RaceMove shared key .absent (.arrive (.createJob clientId req))
        shared (.creating clientId req .lookup)
  | found
      (clientId : Uuid)
      (req : CreateJobRequest)
      (existing : Job)
      (sameKey : req.idempotencyKey = key)
      (used : KeyUsed shared.jobs key) :
      RaceMove shared key (.creating clientId req .lookup) (.call .ok)
        shared
        (.answered (.createJob clientId req)
          (.ok (JobResponse.ofJob existing)))
  | missed
      (clientId : Uuid)
      (req : CreateJobRequest)
      (sameKey : req.idempotencyKey = key)
      (oneOff : req.recurrence = none)
      (free : ¬KeyUsed shared.jobs key) :
      RaceMove shared key (.creating clientId req .lookup) (.call .ok)
        shared (.creating clientId req .insertJob)
  | insert
      (clientId : Uuid)
      (req : CreateJobRequest)
      (id : Uuid)
      (jobs : JobTable)
      (sameKey : req.idempotencyKey = key)
      (oneOff : req.recurrence = none)
      (inserted :
        shared.jobs.insert?
          (JobRepository.oneOffRow shared.clock id clientId req) =
            some jobs) :
      RaceMove shared key (.creating clientId req .insertJob)
        (.call (.inserted id)) { shared with jobs := jobs }
        (.creating clientId req
          (.notify
            (JobRepository.oneOffRow shared.clock id clientId req)))
  | refused
      (clientId : Uuid)
      (req : CreateJobRequest)
      (id : Uuid)
      (message : String)
      (sameKey : req.idempotencyKey = key)
      (used :
        (∀ row ∈ shared.jobs.rows, row.id ≠ id) →
        KeyUsed shared.jobs key) :
      RaceMove shared key (.creating clientId req .insertJob)
        (.call (.inserted id)) shared
        (.answered (.createJob clientId req)
          (.failed (.internal message)))
  | announce
      (clientId : Uuid)
      (req : CreateJobRequest)
      (job : Job)
      (sameKey : req.idempotencyKey = key) :
      RaceMove shared key (.creating clientId req (.notify job))
        .notifyOne shared.notifyOne
        (.answered (.createJob clientId req)
          (.created (JobResponse.ofJob job)))

theorem contends_of_isInserting
    (inserting : task.isInserting = true) :
    task.contends = true := by
  unfold isInserting at inserting
  split at inserting
  · rfl
  · cases inserting

/-- An insert with a new id is refused only for its key. -/
private theorem keyUsed_of_refused
    {jobs : JobTable}
    {row : Job}
    (refused : jobs.insert? row = none)
    (newId : ∀ old ∈ jobs.rows, old.id ≠ row.id) :
    KeyUsed jobs row.idempotencyKey := by
  by_contra free
  have fresh : jobs.Fresh row :=
    ⟨newId, fun old member sameKey => free ⟨old, member, sameKey⟩⟩
  simp [RecordTable.insert?, fresh] at refused

/-- What a request of the race does when no call fails. -/
theorem Move.raceMove
    (nonEmpty : key ≠ "")
    (competes : task.Competes key)
    (arrives :
      ∀ request,
        action = .arrive request →
        ∃ clientId req,
          request = .createJob clientId req ∧
            req.idempotencyKey = key ∧ req.recurrence = none)
    (noError : ∀ message, action ≠ .call (.error message))
    (moved : task.Move externals shared action after next) :
    task.RaceMove shared key action after next := by
  cases moved with
  | arrive request =>
      obtain ⟨clientId, req, rfl, sameKey, oneOff⟩ := arrives request rfl
      have started :
          start (.createJob clientId req) =
            .creating clientId req .lookup := by
        simp [start, sameKey, nonEmpty]
      rw [started]
      exact .arrive clientId req sameKey oneOff
  | create clientId req position action after next created =>
      cases created with
      | found existing looked =>
          obtain ⟨member, isKey⟩ :=
            RecordTable.findUnique?_eq_some_iff.mp looked
          obtain ⟨sameKey, _⟩ := competes
          exact .found clientId req existing sameKey
            ⟨existing, member, isKey.trans sameKey⟩
      | plan missing =>
          obtain ⟨sameKey, oneOff⟩ := competes
          have planned :
              planCreate externals clientId req =
                .creating clientId req .insertJob := by
            simp [planCreate, oneOff]
          rw [planned]
          refine .missed clientId req sameKey oneOff ?_
          rintro ⟨row, member, isKey⟩
          exact RecordTable.findUnique?_eq_none_iff.mp missing row member
            (isKey.trans sameKey.symm)
      | insertJob id jobs inserted =>
          obtain ⟨sameKey, oneOff⟩ := competes
          exact .insert clientId req id jobs sameKey oneOff inserted
      | duplicateJob id refused =>
          obtain ⟨sameKey, _⟩ := competes
          refine .refused clientId req id _ sameKey fun newId => ?_
          rw [← sameKey]
          exact keyUsed_of_refused refused newId
      | announce job =>
          obtain ⟨sameKey, _⟩ := competes
          exact .announce clientId req job sameKey
      | fails position message =>
          exact (noError message rfl).elim
      | insertTemplate | insertInstance | duplicateTemplate |
          duplicateInstance | announceRecurring =>
          cases competes
  | get | cancel | patch | readPatched | answerPatch | announcePatch =>
      cases competes

/-- A create of the race stays one. -/
theorem RaceMove.competes
    (moved : task.RaceMove shared key action after next) :
    next.Competes key := by
  cases moved with
  | arrive clientId req sameKey oneOff =>
      exact ⟨sameKey, oneOff⟩
  | missed clientId req sameKey oneOff =>
      exact ⟨sameKey, oneOff⟩
  | insert clientId req id jobs sameKey oneOff =>
      exact ⟨sameKey, oneOff⟩
  | found clientId req existing sameKey =>
      exact ⟨sameKey, nofun⟩
  | refused clientId req id message sameKey =>
      exact ⟨sameKey, nofun⟩
  | announce clientId req job sameKey =>
      exact ⟨sameKey, nofun⟩

end RequestTask

namespace State

variable {config : Config} {slots : Nat}
variable {externals : Externals}
variable {state after : State config slots}
variable {action : Action config slots}
variable {key : String}

/-- Every request is a create of the race, or has not arrived yet. -/
def AllCompete (key : String) (state : State config slots) : Prop :=
  ∀ slot, (state.requests slot).Competes key

/-- In a step of a race a request stays where it is or makes a race move. -/
private theorem AllCompete.request_step
    (compete : state.AllCompete key)
    (nonEmpty : key ≠ "")
    (permitted : state.Races externals key action)
    (taken : step? externals state action = some after)
    (slot : Fin slots) :
    after.requests slot = state.requests slot ∨
      ∃ requestAction,
        action = .api slot requestAction ∧
          (state.requests slot).RaceMove state.toShared key
            requestAction after.toShared (after.requests slot) := by
  cases requestStep_of_step? taken slot with
  | kept same =>
      exact Or.inl same
  | lost isAbsent isRestart =>
      subst isRestart
      cases permitted.1
  | moved requestAction isApi moved =>
      subst isApi
      have fits := permitted.1
      refine Or.inr ⟨requestAction, rfl, ?_⟩
      refine moved.raceMove nonEmpty (compete slot) ?_ ?_
      · rintro request rfl
        cases request with
        | createJob clientId req =>
            simp only [Action.fitsRace, Bool.and_eq_true, beq_iff_eq,
              Option.isNone_iff_eq_none] at fits
            exact ⟨clientId, req, rfl, fits⟩
        | getJob | cancelJob | patchJob =>
            cases fits
      · rintro message rfl
        cases fits

private theorem AllCompete.step
    (compete : state.AllCompete key)
    (nonEmpty : key ≠ "")
    (permitted : state.Races externals key action)
    (taken : step? externals state action = some after) :
    after.AllCompete key := by
  intro slot
  rcases compete.request_step nonEmpty permitted taken slot with
    same | ⟨requestAction, isApi, moved⟩
  · rw [same]
    exact compete slot
  · exact moved.competes

/-! ## Two contenders -/

/-- Once a request has missed its key it never answers 200. -/
private theorem AllCompete.contends_step
    (compete : state.AllCompete key)
    (nonEmpty : key ≠ "")
    (permitted : state.Races externals key action)
    (taken : step? externals state action = some after)
    {slot : Fin slots}
    (contends : (state.requests slot).contends = true) :
    (after.requests slot).contends = true := by
  rcases compete.request_step nonEmpty permitted taken slot with
    same | ⟨requestAction, isApi, moved⟩
  · rw [same]
    exact contends
  · generalize state.requests slot = task at moved contends
    generalize after.requests slot = next at moved ⊢
    generalize after.toShared = later at moved
    cases moved with
    | insert | refused | announce =>
        rfl
    | arrive | found | missed =>
        cases contends

/-- Two requests that have missed their key spoil the race. -/
private theorem not_raceSettled_of_contends
    {first second : Fin slots}
    (different : first ≠ second)
    (firstContends : (state.requests first).contends = true)
    (secondContends : (state.requests second).contends = true) :
    ¬state.RaceSettled key := by
  rintro ⟨row, winner, _, _, others⟩
  have noContender :
      ∀ slot,
        slot ≠ winner → (state.requests slot).contends ≠ true := by
    intro slot notWinner contends
    obtain ⟨clientId, req, body, isAnswered, _⟩ := others slot notWinner
    rw [isAnswered] at contends
    cases contends
  by_cases firstWins : first = winner
  · exact noContender second
      (fun secondWins => different (firstWins.trans secondWins.symm))
      secondContends
  · exact noContender first firstWins firstContends

private theorem AllCompete.not_raceSettled_of_run
    {actions : List (Action config slots)}
    {final : State config slots}
    (compete : state.AllCompete key)
    (nonEmpty : key ≠ "")
    (run : Run externals (Races externals key) state actions final)
    {first second : Fin slots}
    (different : first ≠ second)
    (firstContends : (state.requests first).contends = true)
    (secondContends : (state.requests second).contends = true) :
    ¬final.RaceSettled key := by
  induction run with
  | nil =>
      exact not_raceSettled_of_contends different firstContends
        secondContends
  | cons permitted taken _ inductionHypothesis =>
      exact inductionHypothesis
        (compete.step nonEmpty permitted taken)
        (compete.contends_step nonEmpty permitted taken firstContends)
        (compete.contends_step nonEmpty permitted taken secondContends)

/-- A lookup that misses while another request inserts makes two contenders. -/
private theorem AllCompete.two_contend
    (compete : state.AllCompete key)
    (nonEmpty : key ≠ "")
    (permitted : state.Races externals key action)
    (taken : step? externals state action = some after)
    (crowded : ¬state.LooksAlone key action) :
    ∃ first second,
      first ≠ second ∧
        (after.requests first).contends = true ∧
        (after.requests second).contends = true := by
  simp only [LooksAlone, Classical.not_imp, not_or, not_forall,
    Bool.not_eq_false] at crowded
  obtain ⟨looked, free, other, inserting⟩ := crowded
  obtain ⟨⟨clientId, req⟩, isLookup⟩ := Option.isSome_iff_exists.mp looked
  obtain ⟨slot, rfl, looking⟩ := lookup_of_lookedUp? isLookup
  have otherContends : (state.requests other).contends = true :=
    RequestTask.contends_of_isInserting inserting
  refine ⟨slot, other, ?_, ?_,
    compete.contends_step nonEmpty permitted taken otherContends⟩
  · rintro rfl
    rw [looking] at otherContends
    cases otherContends
  · have moved :
        (state.requests slot).RaceMove state.toShared key (.call .ok)
          after.toShared (after.requests slot) := by
      refine (requestMove_of_step? taken).raceMove nonEmpty
        (compete slot) ?_ ?_
      · intro request isArrive
        cases isArrive
      · intro message isError
        cases isError
    rw [looking] at moved
    generalize after.requests slot = next at moved ⊢
    generalize after.toShared = later at moved
    cases moved with
    | found clientId req existing sameKey used =>
        exact (free used).elim
    | missed =>
        rfl

/-- A settled race had no crowded lookup. -/
private theorem AllCompete.racesAlone_of_settled
    {actions : List (Action config slots)}
    {final : State config slots}
    (compete : state.AllCompete key)
    (nonEmpty : key ≠ "")
    (run : Run externals (Races externals key) state actions final)
    (settled : final.RaceSettled key) :
    Run externals (RacesAlone externals key) state actions final := by
  induction run with
  | nil state =>
      exact .nil state
  | @cons state middle final action rest permitted taken later
      inductionHypothesis =>
      have next := compete.step nonEmpty permitted taken
      have alone : state.LooksAlone key action := by
        by_contra crowded
        obtain ⟨first, second, different, firstContends,
            secondContends⟩ :=
          compete.two_contend nonEmpty permitted taken crowded
        exact next.not_raceSettled_of_run nonEmpty later different
          firstContends secondContends settled
      exact .cons ⟨permitted, alone⟩ taken
        (inductionHypothesis next settled)

/-! ## One winner -/

/-- What holds of a race in which every lookup is alone. -/
structure RaceKept (key : String) (state : State config slots) : Prop where
  compete : state.AllCompete key
  backed : ∀ slot, (state.requests slot).Backed state.jobs
  unfailed :
    ∀ slot request error,
      state.requests slot ≠ .answered request (.failed error)
  single :
    ∀ first second,
      (state.requests first).contends = true →
      (state.requests second).contends = true →
      first = second
  inserting :
    ∀ slot,
      (state.requests slot).isInserting = true →
      ¬KeyUsed state.jobs key
  winner :
    ∀ row ∈ state.jobs.rows,
      row.idempotencyKey = key →
      ∃ slot, (state.requests slot).won? = some row.id

theorem raceKept_booted
    (clock : Time)
    {jobs : JobTable}
    (unused : ¬KeyUsed jobs key) :
    (booted config slots clock jobs).RaceKept key where
  compete := fun _ => trivial
  backed := fun _ => trivial
  unfailed := fun _ _ _ failed => by cases failed
  single := fun _ _ contends => by cases contends
  inserting := fun _ inserting => by cases inserting
  winner := fun row member sameKey => (unused ⟨row, member, sameKey⟩).elim

/-- A row of the key was there before, or a request of the race adds it. -/
private theorem AllCompete.row_cases
    (compete : state.AllCompete key)
    (permitted : state.Races externals key action)
    (taken : step? externals state action = some after)
    {row : Job}
    (member : row ∈ after.jobs.rows)
    (sameKey : row.idempotencyKey = key) :
    (∃ old ∈ state.jobs.rows,
        old.idempotencyKey = key ∧ row.id = old.id) ∨
      ∃ slot clientId req,
        action = .api slot (.call (.inserted row.id)) ∧
          state.requests slot = .creating clientId req .insertJob := by
  cases rowOrigin_of_step? taken member with
  | kept old oldMember identity | changed old oldMember identity =>
      exact Or.inl ⟨old, oldMember,
        (Job.idempotencyKey_eq_of_identity identity).symm.trans sameKey,
        Job.id_eq_of_identity identity⟩
  | inserted fresh insertion =>
      cases insertion with
      | job slot clientId req id creating =>
          exact Or.inr ⟨slot, clientId, req, rfl, creating⟩
      | template slot clientId req recurrence firstFire id creating =>
          have competes := compete slot
          rw [creating] at competes
          exact competes.elim
      | firstInstance slot clientId req template firstFire id creating =>
          have competes := compete slot
          rw [creating] at competes
          exact competes.elim
      | nextInstance worker job template nextFire id spawning =>
          have spawned :
              state.spawnedKey? externals
                  (.worker worker (.spawn (.inserted id))) =
                some (RecurringService.instanceKey externals template.id
                  nextFire) := by
            simp [spawnedKey?, spawning]
          exact (permitted.2.2 _ spawned sameKey).elim

/-- A request that contends has done so before, or has just missed its key. -/
private theorem AllCompete.contends_before
    (compete : state.AllCompete key)
    (nonEmpty : key ≠ "")
    (permitted : state.Races externals key action)
    (taken : step? externals state action = some after)
    {slot : Fin slots}
    (contends : (after.requests slot).contends = true) :
    (state.requests slot).contends = true ∨
      (∃ clientId req,
        action = .api slot (.call .ok) ∧
          state.requests slot = .creating clientId req .lookup) ∧
        ¬KeyUsed state.jobs key := by
  rcases compete.request_step nonEmpty permitted taken slot with
    same | ⟨requestAction, isApi, moved⟩
  · exact Or.inl (same ▸ contends)
  · subst isApi
    generalize state.requests slot = task at moved ⊢
    generalize after.requests slot = next at moved contends
    generalize after.toShared = later at moved
    cases moved with
    | missed clientId req sameKey oneOff free =>
        exact Or.inr ⟨⟨clientId, req, rfl, rfl⟩, free⟩
    | insert | refused | announce =>
        exact Or.inl rfl
    | arrive | found =>
        cases contends

private theorem RaceKept.unfailed_step
    (kept : state.RaceKept key)
    (nonEmpty : key ≠ "")
    (permitted : state.Races externals key action)
    (taken : step? externals state action = some after)
    (slot : Fin slots)
    (request : Request)
    (error : ApiError) :
    after.requests slot ≠ .answered request (.failed error) := by
  intro failed
  rcases kept.compete.request_step nonEmpty permitted taken slot with
    same | ⟨requestAction, isApi, moved⟩
  · exact kept.unfailed slot request error (same.symm.trans failed)
  · rw [failed] at moved
    subst isApi
    have free := kept.inserting slot
    generalize state.requests slot = task at moved free
    generalize after.toShared = later at moved
    cases moved with
    | refused clientId req id message sameKey used =>
        exact free rfl (used (permitted.2.1 id rfl))

/-- Besides a request that looks alone and misses, nobody contends. -/
private theorem RaceKept.alone_of_missed
    (kept : state.RaceKept key)
    (alone : state.LooksAlone key action)
    {slot : Fin slots}
    {clientId : Uuid}
    {req : CreateJobRequest}
    (isLookup : action = .api slot (.call .ok))
    (looking : state.requests slot = .creating clientId req .lookup)
    (free : ¬KeyUsed state.jobs key)
    (other : Fin slots) :
    (state.requests other).contends ≠ true := by
  intro contends
  subst isLookup
  have looked :
      (state.lookedUp? (.api slot (.call .ok))).isSome = true := by
    simp [lookedUp?, looking]
  have notInserting := ((alone looked).resolve_left free) other
  have competes := kept.compete other
  have backed := kept.backed other
  cases current : state.requests other with
  | creating caller other position =>
      rw [current] at contends competes backed notInserting
      cases position with
      | insertJob =>
          cases notInserting
      | notify job =>
          have used := RequestTask.Backed.keyUsed backed rfl
          rw [competes.1] at used
          exact free used
      | _ =>
          cases contends
  | answered request response =>
      rw [current] at contends competes backed
      cases response with
      | failed error =>
          exact kept.unfailed _ request error current
      | created body =>
          cases request with
          | createJob caller other =>
              have used := RequestTask.Backed.keyUsed backed rfl
              rw [competes.1] at used
              exact free used
          | getJob | cancelJob | patchJob =>
              exact competes.elim
      | ok | noContent =>
          cases contends
  | _ =>
      rw [current] at contends
      cases contends

private theorem RaceKept.single_step
    (kept : state.RaceKept key)
    (nonEmpty : key ≠ "")
    (permitted : state.RacesAlone externals key action)
    (taken : step? externals state action = some after)
    {first second : Fin slots}
    (firstContends : (after.requests first).contends = true)
    (secondContends : (after.requests second).contends = true) :
    first = second := by
  obtain ⟨races, alone⟩ := permitted
  rcases kept.compete.contends_before nonEmpty races taken
      firstContends with
    firstBefore | ⟨⟨clientId, req, isFirst, looking⟩, free⟩
  · rcases kept.compete.contends_before nonEmpty races taken
        secondContends with
      secondBefore | ⟨⟨clientId, req, isSecond, looking⟩, free⟩
    · exact kept.single first second firstBefore secondBefore
    · exact (kept.alone_of_missed alone isSecond looking free first
        firstBefore).elim
  · rcases kept.compete.contends_before nonEmpty races taken
        secondContends with
      secondBefore | ⟨⟨_, _, isSecond, _⟩, _⟩
    · exact (kept.alone_of_missed alone isFirst looking free second
        secondBefore).elim
    · have sameStep := isFirst.symm.trans isSecond
      cases sameStep
      rfl

private theorem RaceKept.inserting_step
    (kept : state.RaceKept key)
    (nonEmpty : key ≠ "")
    (permitted : state.Races externals key action)
    (taken : step? externals state action = some after)
    {slot : Fin slots}
    (inserting : (after.requests slot).isInserting = true) :
    ¬KeyUsed after.jobs key := by
  rintro ⟨row, member, sameKey⟩
  have before :
      ¬KeyUsed state.jobs key ∧
        ((state.requests slot).isInserting = true ∨
          action = .api slot (.call .ok)) := by
    rcases kept.compete.request_step nonEmpty permitted taken slot with
      same | ⟨requestAction, isApi, moved⟩
    · rw [same] at inserting
      exact ⟨kept.inserting slot inserting, Or.inl inserting⟩
    · generalize state.requests slot = task at moved
      generalize after.requests slot = next at moved inserting
      generalize after.toShared = later at moved
      cases moved with
      | missed clientId req missedKey oneOff free =>
          exact ⟨free, Or.inr isApi⟩
      | _ =>
          cases inserting
  rcases kept.compete.row_cases permitted taken member sameKey with
    ⟨old, oldMember, oldKey, _⟩ |
      ⟨mover, clientId, req, isInsert, creating⟩
  · exact before.1 ⟨old, oldMember, oldKey⟩
  · rcases before.2 with wasInserting | isLookup
    · have sameSlot : slot = mover := by
        apply kept.single
        · cases current : state.requests slot with
          | creating caller other position =>
              rw [current] at wasInserting
              cases position with
              | insertJob =>
                  rfl
              | _ =>
                  cases wasInserting
          | _ =>
              rw [current] at wasInserting
              cases wasInserting
        · rw [creating]
          rfl
      subst sameSlot isInsert
      have moved := requestMove_of_step? taken
      rw [creating] at moved
      generalize after.requests slot = next at moved inserting
      generalize after.toShared = later at moved
      cases moved with
      | create _ _ _ _ _ _ created =>
          cases created <;> cases inserting
    · rw [isInsert] at isLookup
      cases isLookup

private theorem RaceKept.winner_step
    (kept : state.RaceKept key)
    (nonEmpty : key ≠ "")
    (permitted : state.Races externals key action)
    (taken : step? externals state action = some after)
    {row : Job}
    (member : row ∈ after.jobs.rows)
    (sameKey : row.idempotencyKey = key) :
    ∃ slot, (after.requests slot).won? = some row.id := by
  rcases kept.compete.row_cases permitted taken member sameKey with
    ⟨old, oldMember, oldKey, sameId⟩ |
      ⟨slot, clientId, req, isInsert, creating⟩
  · obtain ⟨slot, won⟩ := kept.winner old oldMember oldKey
    refine ⟨slot, ?_⟩
    rw [sameId]
    rcases kept.compete.request_step nonEmpty permitted taken slot with
      same | ⟨requestAction, isApi, moved⟩
    · rw [same]
      exact won
    · generalize state.requests slot = task at moved won
      generalize after.requests slot = next at moved ⊢
      generalize after.toShared = later at moved
      cases moved with
      | announce =>
          exact won
      | _ =>
          cases won
  · refine ⟨slot, ?_⟩
    subst isInsert
    have free : ¬KeyUsed state.jobs key := by
      apply kept.inserting slot
      rw [creating]
      rfl
    rcases kept.compete.request_step nonEmpty permitted taken slot with
      same | ⟨requestAction, isApi, moved⟩
    · have moved := requestMove_of_step? taken
      rw [same, creating] at moved
      generalize after.toShared = later at moved
      cases moved with
      | create _ _ _ _ _ _ created =>
          cases created
    · cases isApi
      rw [creating] at moved
      generalize after.requests slot = next at moved ⊢
      generalize after.toShared = later at moved
      cases moved with
      | insert =>
          rfl
      | refused clientId req id message sameKey used =>
          exact (free (used (permitted.2.1 row.id rfl))).elim

/-- Every step with a lookup that is alone keeps the race to one winner. -/
theorem RaceKept.step
    (kept : state.RaceKept key)
    (nonEmpty : key ≠ "")
    (permitted : state.RacesAlone externals key action)
    (taken : step? externals state action = some after) :
    after.RaceKept key where
  compete := kept.compete.step nonEmpty permitted.1 taken
  backed := backed_step kept.backed taken
  unfailed := kept.unfailed_step nonEmpty permitted.1 taken
  single := fun _ _ first second =>
    kept.single_step nonEmpty permitted taken first second
  inserting := fun _ inserting =>
    kept.inserting_step nonEmpty permitted.1 taken inserting
  winner := fun _ member sameKey =>
    kept.winner_step nonEmpty permitted.1 taken member sameKey

/-- An answer of such a race is a 201 or a 200. -/
private theorem RaceKept.answer_cases
    (kept : state.RaceKept key)
    {slot : Fin slots}
    (answered : (state.requests slot).isAnswered = true) :
    ∃ clientId req body,
      req.idempotencyKey = key ∧
        (state.requests slot =
            .answered (.createJob clientId req) (.created body) ∨
          state.requests slot =
            .answered (.createJob clientId req) (.ok body)) := by
  have competes := kept.compete slot
  cases current : state.requests slot with
  | answered request response =>
      rw [current] at competes
      cases request with
      | createJob clientId req =>
          cases response with
          | created body =>
              exact ⟨clientId, req, body, competes.1, Or.inl rfl⟩
          | ok body =>
              exact ⟨clientId, req, body, competes.1, Or.inr rfl⟩
          | noContent =>
              exact (competes.2 rfl).elim
          | failed error =>
              exact (kept.unfailed slot _ error current).elim
      | getJob | cancelJob | patchJob =>
          exact competes.elim
  | _ =>
      rw [current] at answered
      cases answered

/-- When all have been answered, the race is settled. -/
private theorem RaceKept.raceSettled
    (kept : state.RaceKept key)
    (contestants : 0 < slots)
    (answered : ∀ slot, (state.requests slot).isAnswered = true) :
    state.RaceSettled key := by
  have used : KeyUsed state.jobs key := by
    have backed := kept.backed ⟨0, contestants⟩
    obtain ⟨clientId, req, body, sameKey, created | found⟩ :=
      kept.answer_cases (answered ⟨0, contestants⟩)
    · rw [created] at backed
      rw [← sameKey]
      exact backed.keyUsed rfl
    · rw [found] at backed
      obtain ⟨row, member, _, rowKey⟩ := backed
      exact ⟨row, member, rowKey.trans sameKey⟩
  obtain ⟨row, member, rowKey⟩ := used
  obtain ⟨winner, won⟩ := kept.winner row member rowKey
  have wins : (state.requests winner).contends = true := by
    cases current : state.requests winner with
    | creating clientId req position =>
        rw [current] at won
        cases position with
        | notify job =>
            rfl
        | _ =>
            cases won
    | answered request response =>
        rw [current] at won
        cases response with
        | created body =>
            rfl
        | _ =>
            cases request <;> cases won
    | _ =>
        rw [current] at won
        cases won
  refine ⟨row, winner, ?_, ?_, ?_⟩
  · intro other
    constructor
    · rintro ⟨otherMember, otherKey⟩
      exact RecordTable.eq_of_unique otherMember member
        (otherKey.trans rowKey.symm)
    · rintro rfl
      exact ⟨member, rowKey⟩
  · obtain ⟨clientId, req, body, _, created | found⟩ :=
      kept.answer_cases (answered winner)
    · rw [created] at won
      exact ⟨clientId, req, body, created, Option.some.inj won⟩
    · rw [found] at won
      cases won
  · intro slot notWinner
    obtain ⟨clientId, req, body, sameKey, created | found⟩ :=
      kept.answer_cases (answered slot)
    · have contends : (state.requests slot).contends = true := by
        rw [created]
        rfl
      exact (notWinner (kept.single slot winner contends wins)).elim
    · have backed := kept.backed slot
      rw [found] at backed
      obtain ⟨other, otherMember, otherId, otherKey⟩ := backed
      have sameRow : other = row :=
        RecordTable.eq_of_unique otherMember member
          (otherKey.trans (sameKey.trans rowKey.symm))
      exact ⟨clientId, req, body, found,
        otherId.symm.trans (congrArg Job.id sameRow)⟩

/--
A race for a free key, run until every request is answered, ends with one row,
one 201 and otherwise 200s for it if and only if every lookup came after the
insert or while no other request was about to insert.
-/
theorem raceSettled_iff_racesAlone
    {clock : Time}
    {jobs : JobTable}
    {actions : List (Action config slots)}
    {final : State config slots}
    (nonEmpty : key ≠ "")
    (contestants : 0 < slots)
    (unused : ¬KeyUsed jobs key)
    (run :
      Run externals (Races externals key) (booted config slots clock jobs)
        actions final)
    (answered : ∀ slot, (final.requests slot).isAnswered = true) :
    final.RaceSettled key ↔
      Run externals (RacesAlone externals key)
        (booted config slots clock jobs) actions final := by
  constructor
  · intro settled
    have compete : (booted config slots clock jobs).AllCompete key :=
      fun _ => trivial
    exact compete.racesAlone_of_settled nonEmpty run settled
  · intro aloneRun
    have kept : final.RaceKept key :=
      aloneRun.invariant
        (fun kept permitted taken => kept.step nonEmpty permitted taken)
        (raceKept_booted clock unused)
    exact kept.raceSettled contestants answered

end State

/-! ## Concrete runs -/

namespace Sample

/-- A second lookup after the insert finds the row. -/
theorem ordered_creates_settle :
    ∃ final,
      State.Run externals (State.Races externals "key")
          (State.booted config 2 0 RecordTable.empty) createTwice final ∧
        (∀ slot, (final.requests slot).isAnswered = true) ∧
        final.RaceSettled "key" ∧
        (final.RaceSettled "key" ↔
          State.Run externals (State.RacesAlone externals "key")
            (State.booted config 2 0 RecordTable.empty) createTwice
            final) := by
  obtain ⟨final, run, answered⟩ :=
    TransitionSystem.exists_run_of_replay?
      (State.step? externals) (State.RacesAlone externals "key")
      (State.booted config 2 0 RecordTable.empty) createTwice
      (fun final => ∀ slot, (final.requests slot).isAnswered = true)
      (by decide)
  have races := run.mono fun _ _ permitted => permitted.1
  have settles :=
    State.raceSettled_iff_racesAlone (by decide) (by decide) (by decide)
      races answered
  exact ⟨final, races, answered, settles.mpr run, settles⟩

/-- Both requests look before either of them inserts. -/
def crossedCreates : List (Action config 2) :=
  [ .api 0 (.arrive (.createJob clientId (oneOff "key"))),
    .api 1 (.arrive (.createJob clientId (oneOff "key"))),
    .api 0 (.call .ok),
    .api 1 (.call .ok),
    .api 0 (.call (.inserted 1)),
    .api 1 (.call (.inserted 2)),
    .api 0 .notifyOne ]

/-- The second insert is refused, and its request answers 500. -/
theorem crossed_creates_fail :
    ∃ final,
      State.Run externals (State.Races externals "key")
          (State.initial config 2 0) crossedCreates final ∧
        (∀ slot, (final.requests slot).isAnswered = true) ∧
        (final.requests 0).createStatus? clientId "key" = some 201 ∧
        (final.requests 1).createStatus? clientId "key" = some 500 ∧
        ¬final.RaceSettled "key" := by
  obtain ⟨final, run, answered, created, failed, contend⟩ :=
    TransitionSystem.exists_run_of_replay?
      (State.step? externals) (State.Races externals "key")
      (State.initial config 2 0) crossedCreates
      (fun final =>
        (∀ slot, (final.requests slot).isAnswered = true) ∧
          (final.requests 0).createStatus? clientId "key" = some 201 ∧
          (final.requests 1).createStatus? clientId "key" = some 500 ∧
          ∀ slot, (final.requests slot).contends = true)
      (by decide)
  exact ⟨final, run, answered, created, failed,
    State.not_raceSettled_of_contends (by decide) (contend 0) (contend 1)⟩

end Sample

end Kronkeeper
