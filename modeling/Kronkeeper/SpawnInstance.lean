import Kronkeeper.SharedState

namespace Kronkeeper

/-!
# Spawning the next instance of a template

`spawn_next_instance` of `src/recurring.rs` as a sequence of repository calls.
Other tasks run between two calls, so the template read by the first one is
carried along as a local value.  `refresh_metrics` only reads the table for a
gauge and is left out.
-/

/-- The call `spawn_next_instance` makes next, with its live local values. -/
inductive SpawnCall where
  | readTemplate (templateId : Uuid) (lastScheduledAt : Time)
  | completeTemplate (template : Job)
  | countSiblings (template : Job) (nextFire : Time)
  | incrementSkipped (template : Job) (nextFire : Time)
  | lookupKey (template : Job) (nextFire : Time)
  | insertInstance (template : Job) (nextFire : Time)
  | incrementInserted (template : Job) (nextFire : Time)
  | notifyOne (template : Job)
  deriving Repr, DecidableEq

/-- Either another call follows or the function returns `Ok` or `Err`. -/
inductive SpawnProgress where
  | next (call : SpawnCall)
  | returned (succeeded : Bool)
  deriving Repr, DecidableEq

namespace RecurringService

/-- `next_occurrences >= max` for a template with a maximum. -/
def occurrencesReached (template : Job) : Bool :=
  match template.maxOccurrences with
  | some maximum =>
      decide (maximum ≤ wrapI32 (template.occurrencesCompleted + 1))
  | none => false

/-- `next_fire > end_at` for a template with an end date. -/
def pastEnd (template : Job) (nextFire : Time) : Bool :=
  match template.recurrenceEndAt with
  | some endAt => decide (endAt < nextFire)
  | none => false

/-- The checks between the template read and the sibling count. -/
def planSpawn
    (externals : Externals)
    (lastScheduledAt : Time)
    (read : Option Job) : SpawnProgress :=
  match read with
  | none => .returned true
  | some template =>
      if !(template.isTemplate && template.isRecurring) then
        .returned true
      -- Only a cancelled template stops here, not a completed one.
      else if template.state == .cancelled then
        .returned true
      else
        match template.cronExpr with
        | none => .returned true
        | some cronExpr =>
            if occurrencesReached template then
              .next (.completeTemplate template)
            else
              match nextFireAfter externals cronExpr lastScheduledAt with
              | .error _ => .returned false
              | .ok nextFire =>
                  if pastEnd template nextFire then
                    .next (.completeTemplate template)
                  else
                    .next (.countSiblings template nextFire)

/-- A spawn goes on only for a recurring template that is not cancelled. -/
theorem planSpawn_eq_next
    {externals : Externals}
    {lastScheduledAt : Time}
    {read : Option Job}
    {call : SpawnCall}
    (planned : planSpawn externals lastScheduledAt read = .next call) :
    ∃ template,
      read = some template ∧
        template.isTemplate = true ∧
        template.isRecurring = true ∧
        template.state ≠ .cancelled ∧
        (call = .completeTemplate template ∨
          ∃ nextFire, call = .countSiblings template nextFire) := by
  unfold planSpawn at planned
  split at planned
  · cases planned
  · rename_i template
    refine ⟨template, rfl, ?_⟩
    split at planned
    · cases planned
    · rename_i recurring
      split at planned
      · cases planned
      · rename_i notCancelled
        have shape :
            call = .completeTemplate template ∨
              ∃ nextFire, call = .countSiblings template nextFire := by
          repeat' split at planned
          all_goals cases planned
          · exact Or.inl rfl
          · exact Or.inl rfl
          · exact Or.inr ⟨_, rfl⟩
        simp only [Bool.not_eq_true', Bool.not_eq_false,
          Bool.and_eq_true] at recurring
        simp only [beq_iff_eq] at notCancelled
        exact ⟨recurring.1, recurring.2, notCancelled, shape⟩

/-- A spawn counts siblings for the next fire of a template short of its end. -/
theorem planSpawn_eq_countSiblings
    {externals : Externals}
    {lastScheduledAt nextFire : Time}
    {read : Option Job}
    {template : Job}
    (planned :
      planSpawn externals lastScheduledAt read =
        .next (.countSiblings template nextFire)) :
    read = some template ∧
      occurrencesReached template = false ∧
      ∃ cronExpr,
        template.cronExpr = some cronExpr ∧
          nextFireAfter externals cronExpr lastScheduledAt =
            .ok nextFire := by
  unfold planSpawn at planned
  split at planned
  · cases planned
  · split at planned
    · cases planned
    · split at planned
      · cases planned
      · split at planned
        · cases planned
        · rename_i cronExpr isCron
          split at planned
          · cases planned
          · rename_i notReached
            split at planned
            · cases planned
            · rename_i fire isFire
              split at planned
              · cases planned
              · cases planned
                exact ⟨rfl, Bool.eq_false_iff.mpr notReached, cronExpr,
                  isCron, isFire⟩

end RecurringService

namespace SpawnCall

open RecurringService

/-- The template a call carries along. -/
def template? : SpawnCall → Option Job
  | .readTemplate _ _ => none
  | .completeTemplate template => some template
  | .countSiblings template _ => some template
  | .incrementSkipped template _ => some template
  | .lookupKey template _ => some template
  | .insertInstance template _ => some template
  | .incrementInserted template _ => some template
  | .notifyOne template => some template

def step?
    (externals : Externals)
    (reply : Reply)
    (shared : Shared) :
    SpawnCall → Option (Shared × SpawnProgress)
  | .readTemplate templateId lastScheduledAt =>
      match reply with
      | .ok =>
          some (shared,
            planSpawn externals lastScheduledAt
              (JobRepository.getJobByIdInternal shared.jobs templateId))
      | .error _ => some (shared, .returned false)
      | .inserted _ => none
  | .completeTemplate template =>
      match reply with
      | .ok =>
          some (shared.update
              (JobRepository.completeTemplate shared.clock template.id),
            .returned true)
      | .error _ => some (shared, .returned false)
      | .inserted _ => none
  | .countSiblings template nextFire =>
      match reply with
      | .ok =>
          let active :=
            JobRepository.countActiveSiblings shared.jobs template.id
              template.concurrencyPolicy
          if 0 < active ∧ template.concurrencyPolicy ≠ .allow then
            some (shared, .next (.incrementSkipped template nextFire))
          else
            some (shared, .next (.lookupKey template nextFire))
      | .error _ =>
          -- Under `Allow` the count is answered without a query.
          if template.concurrencyPolicy = .allow then
            none
          else
            some (shared, .returned false)
      | .inserted _ => none
  | .incrementSkipped template nextFire =>
      match reply with
      | .ok =>
          some (shared.update
              (JobRepository.incrementTemplateOccurrences shared.clock
                template.id (some nextFire)),
            .returned true)
      | .error _ => some (shared, .returned false)
      | .inserted _ => none
  | .lookupKey template nextFire =>
      match reply with
      | .ok =>
          match JobRepository.getByIdempotencyKey shared.jobs
              (instanceKey externals template.id nextFire) with
          | some _ => some (shared, .returned true)
          | none => some (shared, .next (.insertInstance template nextFire))
      | .error _ => some (shared, .returned false)
      | .inserted _ => none
  | .insertInstance template nextFire =>
      match reply with
      | .inserted id =>
          match shared.jobs.insert?
              (JobRepository.instanceRow shared.clock id template nextFire
                (instanceKey externals template.id nextFire)) with
          | some jobs =>
              some ({ shared with jobs := jobs },
                .next (.incrementInserted template nextFire))
          | none => some (shared, .returned false)
      | .error _ => some (shared, .returned false)
      | .ok => none
  | .incrementInserted template nextFire =>
      match reply with
      | .ok =>
          some (shared.update
              (JobRepository.incrementTemplateOccurrences shared.clock
                template.id (some nextFire)),
            .next (.notifyOne template))
      | .error _ => some (shared, .returned false)
      | .inserted _ => none
  | .notifyOne _ =>
      match reply with
      | .ok => some (shared.notifyOne, .returned true)
      | _ => none

end SpawnCall

end Kronkeeper
