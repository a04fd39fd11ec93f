import Kronkeeper.RecurringFamily
import Kronkeeper.RetryLifecycle

namespace Kronkeeper

/-!
# The accounts of a recurring job

The instances of a template are executed with success, one after the other.
Every success but the last one inserts the next instance and is counted; at the
last one `spawn_next_instance` completes the template and returns before the
increment, so that the counter stays one behind the instances.
-/

/-- What is to hold after so many handlers have returned. -/
structure AccountingExact
    (jobs : JobTable)
    (templateId : Uuid)
    (maximum handled : Nat) : Prop where
  created : instanceCount jobs templateId = min (handled + 1) maximum
  completes :
    ∀ template ∈ jobs.rows, template.id = templateId →
      (template.state = .completed ↔ handled = maximum)
  counted :
    ∀ template ∈ jobs.rows, template.id = templateId →
      template.occurrencesCompleted = completedCount jobs templateId

/-! ## Instances in turn -/

/-- An instance is executed with success, and its handler returns. -/
structure HandlesSuccess
    (config : Config)
    (externals : Externals)
    (templateId : Uuid)
    (before after : Shared)
    (row : Job)
    (execution : Execution) : Prop where
  member : row ∈ before.jobs.rows
  isInstance : row.parentJobId = some templateId
  succeeded : execution.result.success = true
  newIds : GeneratesNewIds before.jobs execution.rest
  attempted :
    execution.attempt? config externals row.id before = some after

/--
So many instances have been executed, one after the other, with success.
Between two executions other rows may change in any way.
-/
inductive HandledInTurn
    (config : Config)
    (externals : Externals)
    (templateId : Uuid)
    (start : Shared) : Nat → Shared → Prop where
  | created :
      HandledInTurn config externals templateId start 0 start
  | elsewhere
      {handled : Nat}
      {before after : Shared}
      (earlier :
        HandledInTurn config externals templateId start handled before)
      (agrees :
        RecordTable.AgreesOn (OfFamily templateId) before.jobs
          after.jobs) :
      HandledInTurn config externals templateId start handled after
  | handled
      {handled : Nat}
      {before after : Shared}
      {row : Job}
      {execution : Execution}
      (earlier :
        HandledInTurn config externals templateId start handled before)
      (handles :
        HandlesSuccess config externals templateId before after row
          execution) :
      HandledInTurn config externals templateId start (handled + 1) after

/-- Where a recurring job stands after so many handlers. -/
inductive FamilyStands
    (templateId : Uuid)
    (cronExpr : String)
    (maximum : Nat)
    (jobs : JobTable) : Nat → Prop where
  | created
      (family :
        Family templateId cronExpr maximum .scheduled 0 1 0 jobs) :
      FamilyStands templateId cronExpr maximum jobs 0
  | handled
      {earlier : Nat}
      (goesOn : Prop)
      (leaves :
        HandlerLeaves templateId cronExpr maximum goesOn earlier jobs) :
      FamilyStands templateId cronExpr maximum jobs (earlier + 1)

section InTurn

variable {config : Config}
variable {externals : Externals}
variable {templateId : Uuid}
variable {cronExpr : String}
variable {maximum handled : Nat}
variable {start before after : Shared}
variable {row : Job}
variable {execution : Execution}

/-- While an instance is SCHEDULED, all earlier ones are accounted for. -/
theorem FamilyStands.waiting
    (stands :
      FamilyStands templateId cronExpr maximum before.jobs handled)
    (positive : 1 ≤ maximum)
    (member : row ∈ before.jobs.rows)
    (isInstance : row.parentJobId = some templateId)
    (scheduled : row.state = .scheduled) :
    handled + 1 ≤ maximum ∧
      Family templateId cronExpr maximum .scheduled handled (handled + 1)
        handled before.jobs := by
  cases stands with
  | created family =>
      exact ⟨positive, family⟩
  | handled goesOn leaves =>
      cases leaves with
      | waits within goes family =>
          exact ⟨within, family⟩
      | ended _ family | stuck _ _ family =>
          have completed := family.state_of_instance member isInstance
          rw [scheduled] at completed
          cases completed

/-- What the handler of a success leaves of the recurring job. -/
theorem HandlesSuccess.leaves
    (handles :
      HandlesSuccess config externals templateId before after row
        execution)
    (stands :
      FamilyStands templateId cronExpr maximum before.jobs handled)
    (positive : 1 ≤ maximum)
    (bounded : maximum < 2 ^ 31) :
    HandlerLeaves templateId cronExpr maximum
      (GoesOn externals before.jobs templateId cronExpr row.scheduledAt)
      handled after.jobs := by
  obtain ⟨job, leased, concluded⟩ :=
    Option.bind_eq_some_iff.mp handles.attempted
  obtain ⟨leasedRow, leasedMember, leasedId, scheduled, rfl⟩ :=
    Execution.leased?_eq_some leased
  obtain rfl :=
    RecordTable.eq_of_primary leasedMember handles.member leasedId
  obtain ⟨within, family⟩ :=
    stands.waiting positive handles.member handles.isInstance scheduled
  obtain ⟨worker, replayed, returned⟩ :=
    Option.bind_eq_some_iff.mp concluded
  obtain rfl := Execution.returned?_eq_some returned
  let job :=
    (JobRepository.leaseJob (before.tick execution.leasedAfter).clock
      leasedRow.id config.leaseDurationSecs).assign leasedRow
  let settled := execution.settled config leasedRow.id before job
  have completes :
      execution.disposition before.clock job = .complete :=
    if_pos handles.succeeded
  have spawnsNext :
      WorkerTask.afterSettle job (execution.disposition before.clock job) =
        .spawning job (.readTemplate templateId leasedRow.scheduledAt) := by
    have isChild : job.parentJobId = some templateId := handles.isInstance
    rw [completes, WorkerTask.afterSettle, isChild]
    rfl
  have sameFree :
      GoesOn externals settled.jobs templateId cronExpr
          leasedRow.scheduledAt ↔
        GoesOn externals before.jobs templateId cronExpr
          leasedRow.scheduledAt :=
    exists_congr fun nextFire => and_congr_right fun _ =>
      Execution.settled_findUnique?_eq_none_iff config leasedRow.id before
        job handles.succeeded _
  have leaves :
      ∀ table succeeded,
        SpawnLeaves externals settled.jobs
            (spawnEffect externals settled.jobs templateId
              leasedRow.scheduledAt) none table succeeded →
          HandlerLeaves templateId cronExpr maximum
            (GoesOn externals settled.jobs templateId cronExpr
              leasedRow.scheduledAt) handled table :=
    fun table succeeded spawnLeaves =>
      (family.settled handles.member handles.isInstance scheduled
        handles.succeeded job).handlerLeaves within bounded spawnLeaves
  have run := TransitionSystem.run_of_replay? replayed
  rw [spawnsNext] at run
  have spawns :=
    (Spawns.spawning settled job
      (.readTemplate templateId leasedRow.scheduledAt) .reading).run leaves
      (fun table now id success attempts isLeft =>
        isLeft.recorded now id success attempts)
      (handles.newIds.settled leasedRow.id job handles.succeeded) run
  cases spawns with
  | finishing _ isLeft =>
      rw [propext sameFree] at isLeft
      exact isLeft

/-- Every run of handlers in turn. -/
theorem HandledInTurn.stands
    (family :
      Family templateId cronExpr maximum .scheduled 0 1 0 start.jobs)
    (positive : 1 ≤ maximum)
    (bounded : maximum < 2 ^ 31)
    (inTurn :
      HandledInTurn config externals templateId start handled after) :
    FamilyStands templateId cronExpr maximum after.jobs handled := by
  induction inTurn with
  | created =>
      exact .created family
  | elsewhere _ agrees inductionHypothesis =>
      cases inductionHypothesis with
      | created family =>
          exact .created (family.of_agreesOn agrees)
      | handled goesOn leaves =>
          exact .handled goesOn (leaves.of_agreesOn agrees)
  | handled _ handles inductionHypothesis =>
      exact .handled _
        (handles.leaves inductionHypothesis positive bounded)

/--
After a handler the accounts are exact if and only if the instance was not the
last one and the handler could go on to the next one.
-/
theorem recurring_accounting_iff
    (family :
      Family templateId cronExpr maximum .scheduled 0 1 0 start.jobs)
    (positive : 1 ≤ maximum)
    (bounded : maximum < 2 ^ 31)
    (earlier :
      HandledInTurn config externals templateId start handled before)
    (handles :
      HandlesSuccess config externals templateId before after row
        execution) :
    AccountingExact after.jobs templateId maximum (handled + 1) ↔
      handled + 1 < maximum ∧
        GoesOn externals before.jobs templateId cronExpr
          row.scheduledAt := by
  have leaves :=
    handles.leaves (earlier.stands family positive bounded) positive
      bounded
  cases leaves with
  | waits within goes family =>
      refine iff_of_true ⟨?_, ?_, ?_⟩ ⟨within, goes⟩
      · rw [family.instances]
        omega
      · intro template member sameId
        rw [(family.row member sameId).2.1]
        refine iff_of_false (fun same => by cases same) ?_
        omega
      · intro template member sameId
        rw [(family.row member sameId).2.2, family.completed]
  | ended isLast family =>
      refine iff_of_false (fun isExact => ?_) fun ⟨within, _⟩ => by omega
      obtain ⟨template, member, limited, _, counts⟩ := family.template
      have counted := isExact.counted template member limited.sameId
      rw [counts, family.completed] at counted
      omega
  | stuck within stops family =>
      refine iff_of_false (fun isExact => ?_) fun ⟨_, goes⟩ => stops goes
      have created := isExact.created
      rw [family.instances] at created
      omega

/-- The last success completes the template one short of its instances. -/
theorem accounts_at_limit
    (family :
      Family templateId cronExpr maximum .scheduled 0 1 0 start.jobs)
    (positive : 1 ≤ maximum)
    (bounded : maximum < 2 ^ 31)
    (inTurn :
      HandledInTurn config externals templateId start maximum after) :
    Family templateId cronExpr maximum .completed (maximum - 1) maximum
      maximum after.jobs := by
  have stands := inTurn.stands family positive bounded
  obtain ⟨earlier, rfl⟩ := Nat.exists_eq_add_of_le' positive
  cases stands with
  | handled goesOn leaves =>
      cases leaves with
      | waits within | stuck within =>
          omega
      | ended isLast family =>
          exact family

/-- No more instances than the maximum are ever created, or handled. -/
theorem handled_le_maximum
    (family :
      Family templateId cronExpr maximum .scheduled 0 1 0 start.jobs)
    (positive : 1 ≤ maximum)
    (bounded : maximum < 2 ^ 31)
    (inTurn :
      HandledInTurn config externals templateId start handled after) :
    handled ≤ maximum ∧
      instanceCount after.jobs templateId ≤ maximum := by
  cases inTurn.stands family positive bounded with
  | created family =>
      rw [family.instances]
      omega
  | handled goesOn leaves =>
      cases leaves with
      | waits _ _ family | ended _ family | stuck _ _ family =>
          rw [family.instances]
          omega

end InTurn

/-! ## Concrete recurring jobs -/

namespace Sample

/-- The request for a job of every minute with this many occurrences. -/
def everyMinuteUpTo (maximum : Nat) : RecurrenceConfig where
  cronExpr := "* * * * *"
  endAt := none
  maxOccurrences := some maximum
  concurrencyPolicy := .queueOnce

/-- Its template, job 1. -/
def limitedTemplate (maximum : Nat) : Job :=
  JobRepository.templateRow 0 1 clientId (everyMinute "key")
    (everyMinuteUpTo maximum) 60000000

/-- Its first instance, job 2. -/
def limitedInstance (maximum : Nat) : Job :=
  JobRepository.instanceRow 0 2 (limitedTemplate maximum) 60000000
    (RecurringService.instanceKey externals 1 60000000)

/-- A process whose table has nothing else. -/
def limited (maximum : Nat) : Shared where
  clock := 0
  jobs :=
    { rows := [limitedTemplate maximum, limitedInstance maximum]
      primaryNodup := (by decide : ([1, 2] : List Uuid).Nodup)
      uniqueNodup :=
        (by decide :
          ["key", RecurringService.instanceKey externals 1 60000000].Nodup) }
  permit := false
  channel := []
  active := 0

theorem limited_family (maximum : Nat) :
    Family 1 "* * * * *" maximum .scheduled 0 1 0 (limited maximum).jobs
    where
  template :=
    ⟨limitedTemplate maximum, .head _,
      ⟨rfl, rfl, rfl, rfl, rfl, rfl, rfl⟩, rfl, rfl⟩
  instances := rfl
  completed := rfl

/-- A success at once, and the rest of its handler. -/
def successThen (rest : List (Nat × WorkerAction)) : Execution :=
  { Execution.withResult (silentResult true) with rest := rest }

/-- The success whose handler inserts job 3. -/
def successGoingOn : Execution :=
  successThen
    [ (0, .spawn .ok), (0, .spawn .ok), (0, .spawn .ok),
      (0, .spawn (.inserted 3)), (0, .spawn .ok), (0, .spawn .ok),
      (0, .emit .ok) ]

/-- The success whose handler completes the template. -/
def successAtLimit : Execution :=
  successThen [(0, .spawn .ok), (0, .spawn .ok), (0, .emit .ok)]

/-- The first of two instances is counted, and the second one waits. -/
theorem first_success_is_counted :
    ∃ after,
      HandlesSuccess config externals 1 (limited 2) after
          (limitedInstance 2) successGoingOn ∧
        AccountingExact after.jobs 1 2 1 := by
  obtain ⟨after, attempted⟩ :=
    Option.isSome_iff_exists.mp
      (by decide :
        (successGoingOn.attempt? config externals (limitedInstance 2).id
          (limited 2)).isSome = true)
  have handles :
      HandlesSuccess config externals 1 (limited 2) after
        (limitedInstance 2) successGoingOn :=
    ⟨.tail _ (.head _), rfl, rfl, by decide, attempted⟩
  exact ⟨after, handles,
    (recurring_accounting_iff (limited_family 2) (by decide) (by decide)
      .created handles).mpr
      ⟨by decide, 120000000, by decide, by decide⟩⟩

/-- The only instance of a template is not counted. -/
theorem only_success_is_not_counted :
    ∃ after,
      HandledInTurn config externals 1 (limited 1) 1 after ∧
        ¬AccountingExact after.jobs 1 1 1 := by
  obtain ⟨after, attempted, accounts⟩ :=
    Option.map_eq_some_iff.mp
      (by decide :
        (successAtLimit.attempt? config externals (limitedInstance 1).id
              (limited 1)).map
            (fun after =>
              (after.jobs.rows.map fun row =>
                  (row.id, row.occurrencesCompleted),
                completedCount after.jobs 1)) =
          some ([(1, 0), (2, 0)], 1))
  have handles :
      HandlesSuccess config externals 1 (limited 1) after
        (limitedInstance 1) successAtLimit :=
    ⟨.tail _ (.head _), rfl, rfl, by decide, attempted⟩
  refine ⟨after, .handled .created handles, fun isExact => ?_⟩
  obtain ⟨counters, completed⟩ := Prod.mk.inj accounts
  obtain ⟨template, member, isTemplate⟩ :=
    List.mem_map.mp
      (counters ▸ .head _ :
        ((1, 0) : Uuid × Int) ∈
          after.jobs.rows.map fun row =>
            (row.id, row.occurrencesCompleted))
  obtain ⟨sameId, counter⟩ := Prod.mk.inj isTemplate
  have counted := isExact.counted template member sameId
  rw [counter, completed] at counted
  exact absurd counted (by decide)

end Sample

end Kronkeeper
