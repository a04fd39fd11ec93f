import Kronkeeper.SpawnInstance

namespace Kronkeeper

/-!
# One call of `spawn_next_instance`

A call that runs by itself goes through, or it ends at the first repository
function that returns an error.  The table it starts from and that function fix
what it leaves behind.
-/

/-- The repository functions that `spawn_next_instance` calls. -/
inductive SpawnQuery where
  | getJobByIdInternal
  | completeTemplate
  | countActiveSiblings
  | incrementTemplateOccurrences
  | getByIdempotencyKey
  | insertInstance
  deriving Repr, DecidableEq

/-- How a call has ended, and what failed in it if anything did. -/
structure SpawnOutcome where
  shared : Shared
  failure : Option SpawnQuery
  succeeded : Bool

namespace SpawnCall

open RecurringService

/-- The repository function that is called; `notify_one` is none. -/
def query? : SpawnCall → Option SpawnQuery
  | .readTemplate _ _ => some .getJobByIdInternal
  | .completeTemplate _ => some .completeTemplate
  | .countSiblings _ _ => some .countActiveSiblings
  | .incrementSkipped _ _ => some .incrementTemplateOccurrences
  | .lookupKey _ _ => some .getByIdempotencyKey
  | .insertInstance _ _ => some .insertInstance
  | .incrementInserted _ _ => some .incrementTemplateOccurrences
  | .notifyOne _ => none

/-- The repository function that returns an error to this call, if it does. -/
def failure?
    (externals : Externals)
    (shared : Shared)
    (call : SpawnCall)
    (reply : Reply) : Option SpawnQuery :=
  match call, reply with
  | .insertInstance template nextFire, .inserted id =>
      -- A generated id that is taken violates the primary key.
      if shared.jobs.Fresh
          (JobRepository.instanceRow shared.clock id template nextFire
            (instanceKey externals template.id nextFire)) then
        none
      else
        some .insertInstance
  | call, .error _ => call.query?
  | _, _ => none

/--
A call to its end.  Each answer comes with the time that has passed since the
one before it.
-/
def run?
    (externals : Externals) :
    List (Nat × Reply) → Shared → SpawnCall → Option SpawnOutcome
  | [], _, _ => none
  | (elapsed, reply) :: rest, shared, call =>
      let current := { shared with clock := shared.clock + elapsed }
      match call.step? externals reply current with
      | some (after, .next next) => run? externals rest after next
      | some (after, .returned succeeded) =>
          if rest = [] then
            some {
              shared := after
              failure := call.failure? externals current reply
              succeeded := succeeded }
          else
            none
      | none => none

end SpawnCall

/-! ## The effect of a call -/

/-- What a call does when no repository function fails. -/
inductive SpawnEffect where
  | nothing
  /-- The cron expression is not usable: `Err` without a repository error. -/
  | refused
  | completes (template : Job)
  | skips (template : Job) (nextFire : Time)
  | inserts (template : Job) (nextFire : Time)

/-- `active > 0 && concurrency_policy != Allow`. -/
def SpawnBlocked (jobs : JobTable) (template : Job) : Prop :=
  0 < JobRepository.countActiveSiblings jobs template.id
        template.concurrencyPolicy ∧
    template.concurrencyPolicy ≠ .allow

instance (jobs : JobTable) (template : Job) :
    Decidable (SpawnBlocked jobs template) :=
  inferInstanceAs (Decidable (_ ∧ _))

section Effect

open RecurringService

variable {externals : Externals}
variable {jobs : JobTable}
variable {templateId : Uuid}
variable {lastScheduledAt nextFire : Time}
variable {template : Job}

/-- An instance of this key is inserted once. -/
def effectOfLookup
    (template : Job)
    (nextFire : Time) : Option Job → SpawnEffect
  | some _ => .nothing
  | none => .inserts template nextFire

/-- What a planned call does to this table. -/
def effectOfPlan
    (externals : Externals)
    (jobs : JobTable) : SpawnProgress → SpawnEffect
  | .returned true => .nothing
  | .returned false => .refused
  | .next (.completeTemplate template) => .completes template
  | .next (.countSiblings template nextFire) =>
      if SpawnBlocked jobs template then
        .skips template nextFire
      else
        effectOfLookup template nextFire
          (JobRepository.getByIdempotencyKey jobs
            (instanceKey externals template.id nextFire))
  -- `planSpawn` goes on with one of the two calls above.
  | .next _ => .nothing

def spawnEffect
    (externals : Externals)
    (jobs : JobTable)
    (templateId : Uuid)
    (lastScheduledAt : Time) : SpawnEffect :=
  effectOfPlan externals jobs
    (planSpawn externals lastScheduledAt
      (JobRepository.getJobByIdInternal jobs templateId))

/-- What a call of this effect may leave of the table it started from. -/
inductive SpawnLeaves
    (externals : Externals)
    (jobs : JobTable) :
    SpawnEffect → Option SpawnQuery → JobTable → Bool → Prop where
  | nothing :
      SpawnLeaves externals jobs .nothing none jobs true
  | refused :
      SpawnLeaves externals jobs .refused none jobs false
  | completes (template : Job) (clock : Time) :
      SpawnLeaves externals jobs (.completes template) none
        (jobs.update
          (JobRepository.completeTemplate clock template.id))
        true
  | skips (template : Job) (nextFire clock : Time) :
      SpawnLeaves externals jobs (.skips template nextFire) none
        (jobs.update
          (JobRepository.incrementTemplateOccurrences clock template.id
            (some nextFire)))
        true
  | inserts
      {inserted : JobTable}
      (template : Job)
      (nextFire insertedAt clock : Time)
      (id : Uuid)
      (isInsert :
        jobs.insert?
          (JobRepository.instanceRow insertedAt id template nextFire
            (instanceKey externals template.id nextFire)) =
          some inserted) :
      SpawnLeaves externals jobs (.inserts template nextFire) none
        (inserted.update
          (JobRepository.incrementTemplateOccurrences clock template.id
            (some nextFire)))
        true
  /-- The instance is in, but the template is not incremented. -/
  | strands
      {inserted : JobTable}
      (template : Job)
      (nextFire insertedAt : Time)
      (id : Uuid)
      (isInsert :
        jobs.insert?
          (JobRepository.instanceRow insertedAt id template nextFire
            (instanceKey externals template.id nextFire)) =
          some inserted) :
      SpawnLeaves externals jobs (.inserts template nextFire)
        (some .incrementTemplateOccurrences) inserted false
  | fails
      (effect : SpawnEffect)
      (query : SpawnQuery)
      (early :
        query = .incrementTemplateOccurrences →
          ∃ template nextFire, effect = .skips template nextFire) :
      SpawnLeaves externals jobs effect (some query) jobs false

/-- Any function but the increment fails before it has an effect. -/
theorem SpawnLeaves.fails_early
    (effect : SpawnEffect)
    {query : SpawnQuery}
    (other : query ≠ .incrementTemplateOccurrences) :
    SpawnLeaves externals jobs effect (some query) jobs false :=
  .fails effect query fun isIncrement => (other isIncrement).elim

/-- A call that returns `Ok` has met no error. -/
theorem SpawnLeaves.failure_eq_none
    {effect : SpawnEffect}
    {failure : Option SpawnQuery}
    {after : JobTable}
    (leaves : SpawnLeaves externals jobs effect failure after true) :
    failure = none := by
  cases leaves <;> rfl

/-- A call without an effect leaves the table as it was. -/
theorem SpawnLeaves.eq_self
    {effect : SpawnEffect}
    {failure : Option SpawnQuery}
    {after : JobTable}
    {succeeded : Bool}
    (leaves : SpawnLeaves externals jobs effect failure after succeeded)
    (idle : effect = .nothing ∨ effect = .refused) :
    after = jobs := by
  rcases idle with rfl | rfl <;> cases leaves <;> rfl

/-- Where a call stands that nothing has failed in, and over which table. -/
inductive SpawnStands
    (externals : Externals)
    (jobs : JobTable)
    (templateId : Uuid)
    (lastScheduledAt : Time) : SpawnCall → JobTable → Prop where
  | reading :
      SpawnStands externals jobs templateId lastScheduledAt
        (.readTemplate templateId lastScheduledAt) jobs
  | completing
      (template : Job)
      (isEffect :
        spawnEffect externals jobs templateId lastScheduledAt =
          .completes template) :
      SpawnStands externals jobs templateId lastScheduledAt
        (.completeTemplate template) jobs
  | counting
      (template : Job)
      (nextFire : Time)
      (planned :
        planSpawn externals lastScheduledAt
            (JobRepository.getJobByIdInternal jobs templateId) =
          .next (.countSiblings template nextFire)) :
      SpawnStands externals jobs templateId lastScheduledAt
        (.countSiblings template nextFire) jobs
  | skipping
      (template : Job)
      (nextFire : Time)
      (isEffect :
        spawnEffect externals jobs templateId lastScheduledAt =
          .skips template nextFire) :
      SpawnStands externals jobs templateId lastScheduledAt
        (.incrementSkipped template nextFire) jobs
  | searching
      (template : Job)
      (nextFire : Time)
      (planned :
        planSpawn externals lastScheduledAt
            (JobRepository.getJobByIdInternal jobs templateId) =
          .next (.countSiblings template nextFire))
      (free : ¬SpawnBlocked jobs template) :
      SpawnStands externals jobs templateId lastScheduledAt
        (.lookupKey template nextFire) jobs
  | inserting
      (template : Job)
      (nextFire : Time)
      (isEffect :
        spawnEffect externals jobs templateId lastScheduledAt =
          .inserts template nextFire) :
      SpawnStands externals jobs templateId lastScheduledAt
        (.insertInstance template nextFire) jobs
  | incrementing
      {inserted : JobTable}
      (template : Job)
      (nextFire insertedAt : Time)
      (id : Uuid)
      (isEffect :
        spawnEffect externals jobs templateId lastScheduledAt =
          .inserts template nextFire)
      (isInsert :
        jobs.insert?
          (JobRepository.instanceRow insertedAt id template nextFire
            (instanceKey externals template.id nextFire)) =
          some inserted) :
      SpawnStands externals jobs templateId lastScheduledAt
        (.incrementInserted template nextFire) inserted
  | notifying
      {left : JobTable}
      (template : Job)
      (leaves :
        SpawnLeaves externals jobs
          (spawnEffect externals jobs templateId lastScheduledAt) none
          left true) :
      SpawnStands externals jobs templateId lastScheduledAt
        (.notifyOne template) left

/-- Where a step takes a call, or how it ends there. -/
def SpawnReaches
    (externals : Externals)
    (jobs : JobTable)
    (templateId : Uuid)
    (lastScheduledAt : Time)
    (failure : Option SpawnQuery)
    (after : JobTable) : SpawnProgress → Prop
  | .next call =>
      SpawnStands externals jobs templateId lastScheduledAt call after
  | .returned succeeded =>
      SpawnLeaves externals jobs
        (spawnEffect externals jobs templateId lastScheduledAt) failure
        after succeeded

theorem spawnEffect_of_planned
    (planned :
      planSpawn externals lastScheduledAt
          (JobRepository.getJobByIdInternal jobs templateId) =
        .next (.countSiblings template nextFire)) :
    spawnEffect externals jobs templateId lastScheduledAt =
      if SpawnBlocked jobs template then
        .skips template nextFire
      else
        effectOfLookup template nextFire
          (JobRepository.getByIdempotencyKey jobs
            (instanceKey externals template.id nextFire)) := by
  unfold spawnEffect
  rw [planned]
  rfl

/-- What an effect has been decided by. -/
inductive SpawnDecides
    (externals : Externals)
    (jobs : JobTable)
    (templateId : Uuid)
    (lastScheduledAt : Time) : SpawnEffect → Prop where
  | nothing :
      SpawnDecides externals jobs templateId lastScheduledAt .nothing
  | refused :
      SpawnDecides externals jobs templateId lastScheduledAt .refused
  | completes
      (template : Job)
      (read :
        JobRepository.getJobByIdInternal jobs templateId = some template)
      (planned :
        planSpawn externals lastScheduledAt (some template) =
          .next (.completeTemplate template)) :
      SpawnDecides externals jobs templateId lastScheduledAt
        (.completes template)
  | skips
      (template : Job)
      (nextFire : Time)
      (read :
        JobRepository.getJobByIdInternal jobs templateId = some template)
      (planned :
        planSpawn externals lastScheduledAt (some template) =
          .next (.countSiblings template nextFire))
      (blocked : SpawnBlocked jobs template) :
      SpawnDecides externals jobs templateId lastScheduledAt
        (.skips template nextFire)
  | inserts
      (template : Job)
      (nextFire : Time)
      (read :
        JobRepository.getJobByIdInternal jobs templateId = some template)
      (planned :
        planSpawn externals lastScheduledAt (some template) =
          .next (.countSiblings template nextFire))
      (free : ¬SpawnBlocked jobs template)
      (isNew :
        JobRepository.getByIdempotencyKey jobs
            (instanceKey externals template.id nextFire) =
          none) :
      SpawnDecides externals jobs templateId lastScheduledAt
        (.inserts template nextFire)

theorem spawnDecides :
    SpawnDecides externals jobs templateId lastScheduledAt
      (spawnEffect externals jobs templateId lastScheduledAt) := by
  cases planned :
      planSpawn externals lastScheduledAt
        (JobRepository.getJobByIdInternal jobs templateId) with
  | next call =>
      obtain ⟨template, read, _, _, _, rfl | ⟨nextFire, rfl⟩⟩ :=
        planSpawn_eq_next planned
      · unfold spawnEffect
        rw [planned]
        rw [read] at planned
        exact .completes template read planned
      · rw [spawnEffect_of_planned planned]
        rw [read] at planned
        by_cases blocked : SpawnBlocked jobs template
        · rw [if_pos blocked]
          exact .skips template nextFire read planned blocked
        · rw [if_neg blocked]
          cases found :
              JobRepository.getByIdempotencyKey jobs
                (instanceKey externals template.id nextFire) with
          | some row =>
              exact .nothing
          | none =>
              exact .inserts template nextFire read planned blocked found
  | returned succeeded =>
      unfold spawnEffect
      rw [planned]
      cases succeeded with
      | true => exact .nothing
      | false => exact .refused

/-- The read of the template settles what is left to do. -/
theorem spawnReaches_of_planned :
    SpawnReaches externals jobs templateId lastScheduledAt none jobs
      (planSpawn externals lastScheduledAt
        (JobRepository.getJobByIdInternal jobs templateId)) := by
  cases planned :
      planSpawn externals lastScheduledAt
        (JobRepository.getJobByIdInternal jobs templateId) with
  | next call =>
      obtain ⟨template, _, _, _, _, rfl | ⟨nextFire, rfl⟩⟩ :=
        planSpawn_eq_next planned
      · refine SpawnStands.completing template ?_
        unfold spawnEffect
        rw [planned]
        rfl
      · exact SpawnStands.counting template nextFire planned
  | returned succeeded =>
      unfold SpawnReaches spawnEffect
      rw [planned]
      cases succeeded with
      | true => exact .nothing
      | false => exact .refused

/-- A call ends where a repository function returns an error to it. -/
theorem SpawnStands.step_error
    {shared next : Shared}
    {call : SpawnCall}
    {message : String}
    {progress : SpawnProgress}
    (stands :
      SpawnStands externals jobs templateId lastScheduledAt call
        shared.jobs)
    (taken :
      call.step? externals (.error message) shared =
        some (next, progress)) :
    SpawnReaches externals jobs templateId lastScheduledAt
      (call.failure? externals shared (.error message)) next.jobs
      progress := by
  generalize isTable : shared.jobs = current at stands
  cases stands with
  | reading | completing _ _ | searching _ _ _ _ | inserting _ _ _ =>
      cases taken
      rw [isTable]
      exact SpawnLeaves.fails_early _ (by decide)
  | counting template nextFire planned =>
      simp only [SpawnCall.step?] at taken
      split at taken
      · cases taken
      · cases taken
        rw [isTable]
        exact SpawnLeaves.fails_early _ (by decide)
  | skipping template nextFire isEffect =>
      cases taken
      rw [isTable]
      exact .fails _ _ fun _ => ⟨template, nextFire, isEffect⟩
  | incrementing template nextFire insertedAt id isEffect isInsert =>
      cases taken
      unfold SpawnReaches
      rw [isEffect, isTable]
      exact .strands template nextFire insertedAt id isInsert
  | notifying template leaves =>
      cases taken

/-- The instance goes in, or its generated id is taken. -/
theorem SpawnStands.step_inserted
    {shared next : Shared}
    {call : SpawnCall}
    {id : Uuid}
    {progress : SpawnProgress}
    (stands :
      SpawnStands externals jobs templateId lastScheduledAt call
        shared.jobs)
    (taken :
      call.step? externals (.inserted id) shared =
        some (next, progress)) :
    SpawnReaches externals jobs templateId lastScheduledAt
      (call.failure? externals shared (.inserted id)) next.jobs
      progress := by
  generalize isTable : shared.jobs = current at stands
  cases stands with
  | inserting template nextFire isEffect =>
      simp only [SpawnCall.step?] at taken
      split at taken
      · rename_i inserted isInsert
        cases taken
        rw [isTable] at isInsert
        exact SpawnStands.incrementing template nextFire _ id isEffect
          isInsert
      · rename_i refused
        cases taken
        have stale := RecordTable.insert?_eq_none_iff.mp refused
        simp only [SpawnReaches, SpawnCall.failure?, if_neg stale]
        rw [isTable]
        exact SpawnLeaves.fails_early _ (by decide)
  | _ =>
      cases taken

/-- A call goes on, or returns, where a repository function answers it. -/
theorem SpawnStands.step_ok
    {shared next : Shared}
    {call : SpawnCall}
    {progress : SpawnProgress}
    (stands :
      SpawnStands externals jobs templateId lastScheduledAt call
        shared.jobs)
    (taken : call.step? externals .ok shared = some (next, progress)) :
    SpawnReaches externals jobs templateId lastScheduledAt none next.jobs
      progress := by
  generalize isTable : shared.jobs = current at stands
  cases stands with
  | reading =>
      cases taken
      rw [isTable]
      exact spawnReaches_of_planned
  | completing template isEffect =>
      cases taken
      unfold SpawnReaches
      rw [isEffect, Shared.update, isTable]
      exact .completes template _
  | counting template nextFire planned =>
      simp only [SpawnCall.step?] at taken
      rw [isTable] at taken
      split at taken
      · rename_i blocked
        cases taken
        rw [isTable]
        refine SpawnStands.skipping template nextFire ?_
        rw [spawnEffect_of_planned planned]
        exact if_pos blocked
      · rename_i free
        cases taken
        rw [isTable]
        exact SpawnStands.searching template nextFire planned free
  | skipping template nextFire isEffect =>
      cases taken
      unfold SpawnReaches
      rw [isEffect, Shared.update, isTable]
      exact .skips template nextFire _
  | searching template nextFire planned free =>
      have isEffect := spawnEffect_of_planned planned
      rw [if_neg free] at isEffect
      simp only [SpawnCall.step?] at taken
      rw [isTable] at taken
      split at taken
      · rename_i existing found
        cases taken
        rw [found] at isEffect
        unfold SpawnReaches
        rw [isEffect, isTable]
        exact .nothing
      · rename_i missing
        cases taken
        rw [missing] at isEffect
        rw [isTable]
        exact SpawnStands.inserting template nextFire isEffect
  | inserting template nextFire isEffect =>
      cases taken
  | incrementing template nextFire insertedAt id isEffect isInsert =>
      cases taken
      refine SpawnStands.notifying template ?_
      rw [isEffect, Shared.update, isTable]
      exact .inserts template nextFire insertedAt _ id isInsert
  | notifying template leaves =>
      cases taken
      unfold SpawnReaches
      rw [Shared.notifyOne, isTable]
      exact leaves

/-- One repository call. -/
theorem SpawnStands.step
    {shared next : Shared}
    {call : SpawnCall}
    {reply : Reply}
    {progress : SpawnProgress}
    (stands :
      SpawnStands externals jobs templateId lastScheduledAt call
        shared.jobs)
    (taken :
      call.step? externals reply shared = some (next, progress)) :
    SpawnReaches externals jobs templateId lastScheduledAt
      (call.failure? externals shared reply) next.jobs progress := by
  cases reply with
  | ok =>
      have noFailure : call.failure? externals shared .ok = none := by
        cases call <;> rfl
      rw [noFailure]
      exact stands.step_ok taken
  | inserted id =>
      exact stands.step_inserted taken
  | error message =>
      exact stands.step_error taken

/-- A call that is on its way ends as its effect says. -/
theorem SpawnStands.run
    {shared : Shared}
    {call : SpawnCall}
    {answers : List (Nat × Reply)}
    {outcome : SpawnOutcome}
    (stands :
      SpawnStands externals jobs templateId lastScheduledAt call
        shared.jobs)
    (run : call.run? externals answers shared = some outcome) :
    SpawnLeaves externals jobs
      (spawnEffect externals jobs templateId lastScheduledAt)
      outcome.failure outcome.shared.jobs outcome.succeeded := by
  induction answers generalizing shared call with
  | nil =>
      cases run
  | cons answer rest inductionHypothesis =>
      obtain ⟨elapsed, reply⟩ := answer
      have later :
          SpawnStands externals jobs templateId lastScheduledAt call
            ({ shared with
                clock := shared.clock + elapsed } : Shared).jobs :=
        stands
      simp only [SpawnCall.run?] at run
      split at run
      · rename_i after next taken
        have goesOn :
            SpawnStands externals jobs templateId lastScheduledAt next
              after.jobs :=
          later.step taken
        exact inductionHypothesis goesOn run
      · rename_i after succeeded taken
        split at run
        · cases run
          exact later.step taken
        · cases run
      · cases run

/-- What a whole call leaves behind. -/
theorem spawnLeaves_of_run?
    {shared : Shared}
    {answers : List (Nat × Reply)}
    {outcome : SpawnOutcome}
    (run :
      SpawnCall.run? externals answers shared
          (.readTemplate templateId lastScheduledAt) =
        some outcome) :
    SpawnLeaves externals shared.jobs
      (spawnEffect externals shared.jobs templateId lastScheduledAt)
      outcome.failure outcome.shared.jobs outcome.succeeded :=
  SpawnStands.reading.run run

end Effect

end Kronkeeper
