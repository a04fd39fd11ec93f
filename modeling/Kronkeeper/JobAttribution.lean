import Kronkeeper.Gateway

namespace Kronkeeper

/-!
# Who asked for a job

A worker executes copies of rows, rows are inserted by requests or spawned from
templates, templates are inserted by requests, and requests are let in by a
key.  Followed backwards through a run, every payload that is executed leads to
a request that carried it, and to the client whose key was presented.
-/

/-- The job is what this client asked for. -/
structure Job.OrderedBy
    (job : JobIdentity)
    (clientId : Uuid)
    (req : CreateJobRequest) : Prop where
  clientId : job.clientId = some clientId
  payload : job.payload = req.payload
  expiresAt : job.expiresAt = req.expiresAt
  maxRetries : job.maxRetries = req.maxRetries
  retryDelaySec : job.retryDelaySec = req.retryDelaySec
  webhookUrl : job.webhookUrl = req.webhookUrl

namespace RequestTask

variable {externals : Externals}
variable {shared after : Shared}
variable {task next : RequestTask}
variable {action : RequestAction}
variable {clientId : Uuid}
variable {req : CreateJobRequest}

/-- A request is for what it is, all the way. -/
theorem planCreate_same
    {otherClient : Uuid}
    {other : CreateJobRequest}
    {position : CreatePosition}
    (planned :
      planCreate externals otherClient other =
        .creating clientId req position) :
    otherClient = clientId ∧ other = req := by
  unfold planCreate at planned
  split at planned
  · cases planned
    exact ⟨rfl, rfl⟩
  · split at planned
    · cases planned
    · cases planned
      exact ⟨rfl, rfl⟩

/-- A creation begins with the arrival of its request. -/
theorem Move.arrival
    (moved : task.Move externals shared action after next)
    {position : CreatePosition}
    (creates : next = .creating clientId req position)
    (notYet : ∀ earlier, task ≠ .creating clientId req earlier) :
    action = .arrive (.createJob clientId req) := by
  cases moved with
  | arrive request =>
      cases request with
      | createJob otherClient other =>
          simp only [start] at creates
          split at creates
          · cases creates
          · cases creates
            rfl
      | patchJob =>
          simp only [start] at creates
          split at creates <;> cases creates
      | getJob | cancelJob =>
          cases creates
  | create otherClient other earlier action after next created =>
      have different : ¬(otherClient = clientId ∧ other = req) := by
        rintro ⟨rfl, rfl⟩
        exact notYet earlier rfl
      refine (different ?_).elim
      cases created with
      | plan missing =>
          exact planCreate_same creates
      | _ =>
          cases creates
          all_goals exact ⟨rfl, rfl⟩
  | cancel otherClient id earlier action after next cancels =>
      cases cancels with
      | read =>
          unfold planCancel at creates
          split at creates
          · cases creates
          · split at creates <;> cases creates
      | _ =>
          cases creates
  | _ =>
      cases creates

end RequestTask

namespace Gateway

variable {config : Config} {slots : Nat}
variable {externals : Externals}

/-- A create request is let in under a key that the process knows. -/
def Orders
    (key : String)
    (clientId : Uuid)
    (req : CreateJobRequest)
    (before : Gateway config slots)
    (action : GatewayAction config slots) : Prop :=
  ∃ slot header apiKeys,
    action = .http slot ⟨some header, .createJob req⟩ ∧
      headerText? header = some key ∧
      before.apiKeys = some apiKeys ∧
      apiKeys key = some clientId

/-- The keys are loaded, and the table gives this client this key. -/
def LoadsKey
    (key : String)
    (clientId : Uuid)
    (before : Gateway config slots)
    (action : GatewayAction config slots) : Prop :=
  ∃ fetched,
    action = .loadApiKeys fetched ∧ before.clients.HasKey key clientId

/-- The process goes on. -/
def SameProcess
    (_ : Gateway config slots)
    (action : GatewayAction config slots) : Prop :=
  action ≠ .daemon .restart

/--
Somewhere along the run the keys were loaded from a table that gave the client
this key, and the same process has let this request in under it.
-/
def WasOrdered
    (externals : Externals)
    (clientId : Uuid)
    (req : CreateJobRequest)
    (start : Gateway config slots)
    (actions : List (GatewayAction config slots))
    (final : Gateway config slots) : Prop :=
  ∃ key starting load serving order trailing unloaded loaded before after,
    actions = starting ++ load :: (serving ++ order :: trailing) ∧
      Run externals start starting unloaded ∧
      LoadsKey key clientId unloaded load ∧
      step? externals unloaded load = some loaded ∧
      TransitionSystem.Run (step? externals) SameProcess loaded serving
        before ∧
      Orders key clientId req before order ∧
      step? externals before order = some after ∧
      Run externals after trailing final

variable {start middle final : Gateway config slots}
variable {earlier later : List (GatewayAction config slots)}
variable {clientId : Uuid}
variable {req : CreateJobRequest}

theorem WasOrdered.append
    (ordered : WasOrdered externals clientId req start earlier middle)
    (continued : Run externals middle later final) :
    WasOrdered externals clientId req start (earlier ++ later) final := by
  obtain ⟨key, starting, load, serving, order, trailing, unloaded, loaded,
    before, after, rfl, toLoad, loads, isLoaded, toOrder, orders, isTaken,
    toMiddle⟩ := ordered
  exact ⟨key, starting, load, serving, order, trailing ++ later, unloaded,
    loaded, before, after, by simp, toLoad, loads, isLoaded, toOrder,
    orders, isTaken, toMiddle.append continued⟩

/-! ## Backwards -/

section Backwards

variable {clock : Time}
variable {clients : ClientTable}
variable {actions : List (GatewayAction config slots)}

/-- The process knows this client under this key. -/
def Knows
    (key : String)
    (clientId : Uuid)
    (gateway : Gateway config slots) : Prop :=
  ∃ apiKeys, gateway.apiKeys = some apiKeys ∧ apiKeys key = some clientId

/-- What a process knows of the keys it forgets with its end only. -/
theorem sameProcess_of_knows
    {key : String}
    (run :
      TransitionSystem.Run (step? externals)
        (fun gateway action =>
          TransitionSystem.Unrestricted gateway action ∧
            Knows key clientId gateway)
        start earlier middle)
    (knows : Knows key clientId middle) :
    TransitionSystem.Run (step? externals) SameProcess start earlier
      middle := by
  induction run with
  | nil state =>
      exact .nil state
  | @cons before next final action rest permitted taken rest
      inductionHypothesis =>
      refine .cons ?_ taken (inductionHypothesis knows)
      rintro rfl
      have forgotten : ¬Knows key clientId next := by
        rintro ⟨apiKeys, same, _⟩
        cases move_of_step? taken
        cases same
      cases rest with
      | nil state =>
          exact forgotten knows
      | cons both =>
          exact forgotten both.2

/-- A key the process knows was in the table when it loaded its keys. -/
theorem key_was_loaded
    (run :
      Run externals (initial config slots clock clients) actions final)
    {key : String}
    (knows : Knows key clientId final) :
    ∃ starting load serving unloaded loaded,
      actions = starting ++ load :: serving ∧
        Run externals (initial config slots clock clients) starting
          unloaded ∧
        LoadsKey key clientId unloaded load ∧
        step? externals unloaded load = some loaded ∧
        TransitionSystem.Run (step? externals) SameProcess loaded serving
          final := by
  have nobody :
      ¬Knows key clientId (initial config slots clock clients) := by
    rintro ⟨_, loaded, _⟩
    cases loaded
  rcases run.holds_since (Knows key clientId) knows with
    allAlong | ⟨leading, action, trailing, before, after, rfl, toBefore,
      taken, unknown, known, since⟩
  · cases allAlong with
    | nil =>
        exact (nobody knows).elim
    | cons both =>
        exact (nobody both.2).elim
  · refine ⟨leading, action, trailing, before, after, rfl, toBefore, ?_,
      taken, sameProcess_of_knows since knows⟩
    cases move_of_step? taken with
    | load fetched notYet answers =>
        obtain ⟨_, same, isKnown⟩ := known
        cases same
        exact ⟨fetched, rfl, (loadApiKeys_eq_some_iff answers).mp isKnown⟩
    | daemon own daemon =>
        obtain ⟨keys, same, isKnown⟩ := known
        refine (unknown ⟨keys, ?_, isKnown⟩).elim
        cases own with
        | restart =>
            cases same
        | _ =>
            exact same
    | refuse | accept | administer =>
        exact (unknown known).elim

/-- A request that is being created was let in. -/
theorem creating_was_ordered
    (run :
      Run externals (initial config slots clock clients) actions final)
    {slot : Fin slots}
    {position : CreatePosition}
    (creating :
      final.daemon.requests slot = .creating clientId req position) :
    WasOrdered externals clientId req
      (initial config slots clock clients) actions final := by
  obtain ⟨leading, action, trailing, before, after, rfl, toBefore, taken,
    toFinal, notYet, position, creates⟩ :=
    run.established
      (fun gateway =>
        ∃ position,
          gateway.daemon.requests slot = .creating clientId req position)
      (fun ⟨_, creating⟩ => by cases creating)
      ⟨position, creating⟩
  have notEarlier :
      ∀ earlier,
        before.daemon.requests slot ≠ .creating clientId req earlier :=
    fun earlier same => notYet ⟨earlier, same⟩
  suffices orders : ∃ key, Orders key clientId req before action by
    obtain ⟨key, orders⟩ := orders
    have known := orders
    obtain ⟨_, _, apiKeys, _, _, isLoaded, isKnown⟩ := known
    obtain ⟨starting, load, serving, unloaded, loaded, rfl, toLoad, loads,
      loadTaken, toOrder⟩ :=
      key_was_loaded toBefore ⟨apiKeys, isLoaded, isKnown⟩
    exact ⟨key, starting, load, serving, action, trailing, unloaded,
      loaded, before, after, by simp, toLoad, loads, loadTaken, toOrder,
      orders, taken, toFinal⟩
  cases move_of_step? taken with
  | daemon own daemon notArrival admits daemonTaken =>
      cases State.requestStep_of_step? daemonTaken slot with
      | kept same =>
          exact (notEarlier position (same.symm.trans creates)).elim
      | lost isAbsent =>
          cases isAbsent.symm.trans creates
      | moved requestAction isApi moved =>
          rw [moved.arrival creates notEarlier] at isApi
          exact (notArrival slot _ isApi).elim
  | accept target request requester daemon isClient daemonTaken =>
      cases State.requestStep_of_step? daemonTaken slot with
      | kept same =>
          exact (notEarlier position (same.symm.trans creates)).elim
      | lost isAbsent =>
          cases isAbsent.symm.trans creates
      | moved requestAction isApi moved =>
          rw [moved.arrival creates notEarlier] at isApi
          obtain ⟨isHeader, endpoint⟩ := request
          obtain ⟨apiKeys, header, key, loaded, rfl, isText, known⟩ :=
            key_of_clientOf? isClient
          cases endpoint with
          | createJob other =>
              cases isApi
              exact ⟨key, slot, header, apiKeys, rfl, isText, loaded,
                known⟩
          | getJob | cancelJob | patchJob =>
              cases isApi
  | load | refuse | administer =>
      exact (notEarlier position creates).elim

/-- What the daemon keeps apart it keeps apart behind the gateway. -/
theorem tenantsApart_of_run
    (run :
      Run externals (initial config slots clock clients) actions final) :
    final.daemon.TenantsApart :=
  run.invariant
    (fun apart _ taken =>
      kept_of_step? (fun apart taken => apart.step taken) apart taken)
    (State.tenantsApart_initial clock)

/-- The step that inserted a row. -/
theorem row_was_inserted
    (run :
      Run externals (initial config slots clock clients) actions final)
    {row : Job}
    (member : row ∈ final.daemon.jobs.rows) :
    ∃ leading trailing before own inserted,
      actions = leading ++ trailing ∧
        Run externals (initial config slots clock clients) leading
          before ∧
        Run externals before trailing final ∧
        before.daemon.Inserts externals own inserted ∧
        inserted.identity = row.identity := by
  obtain ⟨leading, action, trailing, before, after, rfl, toBefore, taken,
    toFinal, absent, inserted, insertedMember, identity⟩ :=
    run.established
      (fun gateway =>
        ∃ other ∈ gateway.daemon.jobs.rows,
          other.identity = row.identity)
      (fun ⟨_, member, _⟩ => by cases member)
      ⟨row, member, rfl⟩
  rcases daemon_of_step? taken with same | ⟨own, daemonTaken⟩
  · rw [same] at insertedMember
    exact (absent ⟨inserted, insertedMember, identity⟩).elim
  · cases State.rowOrigin_of_step? daemonTaken insertedMember with
    | kept old oldMember sameIdentity
    | changed old oldMember sameIdentity =>
        exact (absent ⟨old, oldMember,
          sameIdentity.symm.trans identity⟩).elim
    | inserted fresh insertion =>
        exact ⟨leading, action :: trailing, before, own, inserted, rfl,
          toBefore, .cons trivial taken toFinal, insertion, identity⟩

/-- A template was ordered as it is. -/
theorem template_was_ordered
    (run :
      Run externals (initial config slots clock clients) actions final)
    {row : Job}
    (member : row ∈ final.daemon.jobs.rows)
    (isTemplate : row.isTemplate = true) :
    ∃ clientId req,
      Job.OrderedBy row.identity clientId req ∧
        WasOrdered externals clientId req
          (initial config slots clock clients) actions final := by
  obtain ⟨leading, trailing, before, own, inserted, rfl, toBefore, toFinal,
    insertion, identity⟩ := row_was_inserted run member
  have template : inserted.isTemplate = true :=
    (Job.isTemplate_eq_of_identity identity).trans isTemplate
  rw [← identity]
  cases insertion with
  | template slot clientId req recurrence firstFire id creating =>
      exact ⟨clientId, req, ⟨rfl, rfl, rfl, rfl, rfl, rfl⟩,
        (creating_was_ordered toBefore creating).append toFinal⟩
  | job | firstInstance | nextInstance =>
      cases template

/-- An instance was ordered with the template it is made from. -/
theorem instance_was_ordered
    (run :
      Run externals (initial config slots clock clients) actions final)
    {template : Job}
    (read : final.daemon.jobs.TemplateRead template)
    (now fireTime : Time)
    (id : Uuid)
    (key : String) :
    ∃ clientId req,
      Job.OrderedBy
          (JobRepository.instanceRow now id template fireTime
            key).identity
          clientId req ∧
        WasOrdered externals clientId req
          (initial config slots clock clients) actions final := by
  obtain ⟨row, member, identity⟩ := read.known
  obtain ⟨clientId, req, ordered, wasOrdered⟩ :=
    template_was_ordered run member
      ((Job.isTemplate_eq_of_identity identity).trans read.isTemplate)
  rw [identity] at ordered
  have hasClient : template.clientId = some clientId := ordered.clientId
  refine ⟨clientId, req, ⟨?_, ordered.payload, ordered.expiresAt,
    ordered.maxRetries, ordered.retryDelaySec, ordered.webhookUrl⟩,
    wasOrdered⟩
  change some (template.clientId.getD 0) = some clientId
  rw [hasClient]
  rfl

/-- Every row was ordered. -/
theorem row_was_ordered
    (run :
      Run externals (initial config slots clock clients) actions final)
    {row : Job}
    (member : row ∈ final.daemon.jobs.rows) :
    ∃ clientId req,
      Job.OrderedBy row.identity clientId req ∧
        WasOrdered externals clientId req
          (initial config slots clock clients) actions final := by
  obtain ⟨leading, trailing, before, own, inserted, rfl, toBefore, toFinal,
    insertion, identity⟩ := row_was_inserted run member
  have grounded := (tenantsApart_of_run toBefore).grounded
  rw [← identity]
  cases insertion with
  | job slot clientId req id creating =>
      exact ⟨clientId, req, ⟨rfl, rfl, rfl, rfl, rfl, rfl⟩,
        (creating_was_ordered toBefore creating).append toFinal⟩
  | template slot clientId req recurrence firstFire id creating =>
      exact ⟨clientId, req, ⟨rfl, rfl, rfl, rfl, rfl, rfl⟩,
        (creating_was_ordered toBefore creating).append toFinal⟩
  | firstInstance slot clientId req template firstFire id creating =>
      have read := grounded.requests slot
      rw [creating] at read
      obtain ⟨owner, order, ordered, wasOrdered⟩ :=
        instance_was_ordered toBefore read before.daemon.clock firstFire
          id (RecurringService.instanceKey externals template.id firstFire)
      exact ⟨owner, order, ordered, wasOrdered.append toFinal⟩
  | nextInstance worker job template nextFire id spawning =>
      have read := (grounded.workers worker).template template (by
        rw [spawning]
        rfl)
      obtain ⟨owner, order, ordered, wasOrdered⟩ :=
        instance_was_ordered toBefore read before.daemon.clock nextFire id
          (RecurringService.instanceKey externals template.id nextFire)
      exact ⟨owner, order, ordered, wasOrdered.append toFinal⟩

/--
In every run of the daemon behind its gateway, with restarts and operators
changing the clients as they like: whatever a worker executes was ordered by
the owner of the job, in a request that carried this payload and was let in
under a key that the table gave to this client when the process loaded it.
-/
theorem executed_jobs_were_ordered
    (run :
      Run externals (initial config slots clock clients) actions final)
    {worker : Fin config.workerCount}
    {job : Job}
    (executing :
      (final.daemon.workers worker).executing? = some job) :
    ∃ clientId req,
      Job.OrderedBy job.identity clientId req ∧
        WasOrdered externals clientId req
          (initial config slots clock clients) actions final := by
  have grounded := (tenantsApart_of_run run).grounded
  have copy :=
    (grounded.workers worker).copy job
      (WorkerTask.job?_of_inFlight?
        (WorkerTask.inFlight?_of_executing? executing))
  obtain ⟨row, member, identity⟩ := copy.known
  rw [← identity]
  exact row_was_ordered run member

end Backwards

end Gateway

/-! ## A concrete run -/

namespace Sample

/-- The table knows one client, under the key `key-7`. -/
def oneClient : ClientTable where
  rows := [⟨clientId, "key-7"⟩]
  idsNodup := by decide
  keysNodup := by decide

/-- Job 1 is ordered under that key and brought to execution. -/
def orderAndExecute : List (GatewayAction config 1) :=
  [ .loadApiKeys [("key-7", clientId)],
    .http 0 ⟨some [107, 101, 121, 45, 55], .createJob (oneOff "key")⟩ ] ++
    (createAndSend.drop 1 ++ begin 0).map .daemon

/-- What worker 0 executes in the end was ordered by the client. -/
theorem executed_job_was_ordered :
    ∃ (final : Gateway config 1) (job : Job) (orderer : Uuid)
        (req : CreateJobRequest),
      (final.daemon.workers 0).executing? = some job ∧
        job.clientId = some clientId ∧
        Job.OrderedBy job.identity orderer req ∧
        Gateway.WasOrdered externals orderer req
          (Gateway.initial config 1 0 oneClient) orderAndExecute final := by
  obtain ⟨final, run, executing⟩ :=
    TransitionSystem.exists_run_of_replay?
      (Gateway.step? externals) TransitionSystem.Unrestricted
      (Gateway.initial config 1 0 oneClient) orderAndExecute
      (fun final =>
        (final.daemon.workers 0).executing?.map Job.clientId =
          some (some clientId))
      (by decide)
  obtain ⟨job, isJob, isClient⟩ := Option.map_eq_some_iff.mp executing
  obtain ⟨orderer, req, ordered, wasOrdered⟩ :=
    Gateway.executed_jobs_were_ordered run isJob
  exact ⟨final, job, orderer, req, isJob, isClient, ordered, wasOrdered⟩

end Sample

end Kronkeeper
