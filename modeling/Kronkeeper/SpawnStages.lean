import Kronkeeper.SpawnEffect
import Kronkeeper.TransitionSystem

namespace Kronkeeper

/-!
# The stages of a spawn that is called again

What calls of `spawn_next_instance` for one fire do after each other, as an
abstract machine: the derived key guards the insert of the instance, and
nothing else.  It settles when the calls come to the same as one call.
-/

/-- What the calls for one fire have done so far. -/
structure SpawnStage where
  inserted : Bool
  increments : Nat
  completed : Bool

/-- What decides a call at each stage. -/
structure SpawnPlan where
  /-- The template is at its end after so many increments. -/
  ends : Nat → Bool
  /-- Active siblings stand in the way from the start. -/
  blocked : Bool
  /-- An instance stands in the way of its own fire. -/
  requeues : Bool

namespace SpawnPlan

def start : SpawnStage where
  inserted := false
  increments := 0
  completed := false

/-- Only the derived key keeps a second call from an effect. -/
def guarded (plan : SpawnPlan) : Bool :=
  !plan.blocked && !plan.requeues

def blocks (plan : SpawnPlan) (stage : SpawnStage) : Bool :=
  plan.blocked || (stage.inserted && plan.requeues)

/-- A call at a stage, by the repository function that fails in it. -/
inductive Call (plan : SpawnPlan) :
    SpawnStage → Option SpawnQuery → SpawnStage → Prop where
  | completes
      (stage : SpawnStage)
      (atEnd : plan.ends stage.increments = true) :
      Call plan stage none { stage with completed := true }
  | skips
      (stage : SpawnStage)
      (goesOn : plan.ends stage.increments = false)
      (inTheWay : plan.blocks stage = true) :
      Call plan stage none
        { stage with increments := stage.increments + 1 }
  | finds
      (stage : SpawnStage)
      (goesOn : plan.ends stage.increments = false)
      (free : plan.blocks stage = false)
      (isOld : stage.inserted = true) :
      Call plan stage none stage
  | inserts
      (stage : SpawnStage)
      (goesOn : plan.ends stage.increments = false)
      (free : plan.blocks stage = false)
      (isNew : stage.inserted = false) :
      Call plan stage none
        { stage with
          inserted := true
          increments := stage.increments + 1 }
  | strands
      (stage : SpawnStage)
      (goesOn : plan.ends stage.increments = false)
      (free : plan.blocks stage = false)
      (isNew : stage.inserted = false) :
      Call plan stage (some .incrementTemplateOccurrences)
        { stage with inserted := true }
  | fails
      (stage : SpawnStage)
      (query : SpawnQuery)
      (early :
        query = .incrementTemplateOccurrences →
          plan.blocks stage = true) :
      Call plan stage (some query) stage

/-- Calls with these failures, and one more, come to the same as one call. -/
def RetriesSafely
    (plan : SpawnPlan)
    (wasCompleted : Prop)
    (failures : List (Option SpawnQuery)) : Prop :=
  plan.ends 0 = false →
    if plan.guarded = true then
      some .incrementTemplateOccurrences ∉ failures ∧
        (none ∈ failures → plan.ends 1 = true → wasCompleted)
    else
      none ∈ failures → plan.ends 1 = true ∧ wasCompleted

/-- Two stages that a template completed before cannot tell apart. -/
structure Same
    (wasCompleted : Prop)
    (first second : SpawnStage) : Prop where
  inserted : first.inserted = second.inserted
  increments : first.increments = second.increments
  completed :
    ¬wasCompleted → first.completed = second.completed

/-- No call has gone through; an instance may be in that counts itself. -/
structure Fresh (plan : SpawnPlan) (stage : SpawnStage) : Prop where
  increments : stage.increments = 0
  running : stage.completed = false
  requeued :
    stage.inserted = true →
      plan.blocked = false ∧ plan.requeues = true

/-- Neither the instance nor the counter has been touched. -/
structure Idle (stage : SpawnStage) : Prop where
  increments : stage.increments = 0
  inserted : stage.inserted = false

/-- How far calls with these failures can have come. -/
inductive Summary (plan : SpawnPlan) :
    List (Option SpawnQuery) → SpawnStage → Prop where
  | fresh
      {failures : List (Option SpawnQuery)}
      {stage : SpawnStage}
      (noneThrough : none ∉ failures)
      (noneStranded :
        plan.guarded = true →
          some .incrementTemplateOccurrences ∉ failures)
      (isFresh : plan.Fresh stage) :
      Summary plan failures stage
  | settled
      {failures : List (Option SpawnQuery)}
      {stage : SpawnStage}
      (through : none ∈ failures)
      (noneStranded :
        plan.guarded = true →
          some .incrementTemplateOccurrences ∉ failures)
      (increments : stage.increments = 1)
      (inserted : stage.inserted = !plan.blocked)
      (completedAtEnd :
        stage.completed = true → plan.ends 1 = true) :
      Summary plan failures stage
  | stranded
      {failures : List (Option SpawnQuery)}
      {stage : SpawnStage}
      (guarded : plan.guarded = true)
      (isStranded : some .incrementTemplateOccurrences ∈ failures)
      (increments : stage.increments = 0)
      (inserted : stage.inserted = true) :
      Summary plan failures stage
  | beyond
      {failures : List (Option SpawnQuery)}
      {stage : SpawnStage}
      (unguarded : plan.guarded = false)
      (through : none ∈ failures)
      (goesOn : plan.ends 1 = false)
      (increments : 2 ≤ stage.increments) :
      Summary plan failures stage

section Stages

variable {plan : SpawnPlan}
variable {failures earlier : List (Option SpawnQuery)}
variable {failure : Option SpawnQuery}
variable {stage next final once : SpawnStage}

theorem guarded_iff :
    plan.guarded = true ↔
      plan.blocked = false ∧ plan.requeues = false := by
  simp [guarded]

theorem blocks_iff :
    plan.blocks stage = true ↔
      plan.blocked = true ∨
        (stage.inserted = true ∧ plan.requeues = true) := by
  simp [blocks]

/-- Nothing stands in the way of a fire that only the key guards. -/
theorem not_blocks_of_guarded
    (guarded : plan.guarded = true) :
    plan.blocks stage = false := by
  obtain ⟨free, new⟩ := guarded_iff.mp guarded
  simp [blocks, free, new]

theorem unguarded_of_blocks
    (inTheWay : plan.blocks stage = true) :
    plan.guarded = false := by
  rw [Bool.eq_false_iff]
  intro guarded
  rw [not_blocks_of_guarded guarded] at inTheWay
  cases inTheWay

theorem not_blocked_of_free
    (free : plan.blocks stage = false) :
    plan.blocked = false := by
  rw [Bool.eq_false_iff]
  intro blocked
  rw [blocks_iff.mpr (Or.inl blocked)] at free
  cases free

/-- Where an old instance is free, it does not count itself. -/
theorem guarded_of_free
    (free : plan.blocks stage = false)
    (isOld : stage.inserted = true) :
    plan.guarded = true := by
  refine guarded_iff.mpr ⟨not_blocked_of_free free, ?_⟩
  rw [Bool.eq_false_iff]
  intro requeues
  rw [blocks_iff.mpr (Or.inr ⟨isOld, requeues⟩)] at free
  cases free

/-- A call that fails early under the guard has not come to an increment. -/
theorem noneStranded_append
    {query : SpawnQuery}
    (noneStranded :
      plan.guarded = true →
        some .incrementTemplateOccurrences ∉ failures)
    (early :
      query = .incrementTemplateOccurrences →
        plan.blocks stage = true) :
    plan.guarded = true →
      some .incrementTemplateOccurrences ∉ failures ++ [some query] := by
  intro guarded member
  rcases List.mem_append.mp member with before | last
  · exact noneStranded guarded before
  · have isIncrement := Option.some.inj (List.mem_singleton.mp last)
    have inTheWay := early isIncrement.symm
    rw [not_blocks_of_guarded guarded] at inTheWay
    cases inTheWay

/-- A call that goes through strands nothing. -/
theorem noneStranded_append_none
    (noneStranded :
      plan.guarded = true →
        some .incrementTemplateOccurrences ∉ failures) :
    plan.guarded = true →
      some .incrementTemplateOccurrences ∉ failures ++ [none] := by
  intro guarded member
  rcases List.mem_append.mp member with before | last
  · exact noneStranded guarded before
  · cases List.mem_singleton.mp last

theorem none_mem_append :
    (none : Option SpawnQuery) ∈ failures ++ [none] :=
  List.mem_append_right _ (List.mem_singleton_self _)

theorem fresh_start : plan.Fresh start where
  increments := rfl
  running := rfl
  requeued := fun inserted => by cases inserted

/-- The first call that goes through, where it does not end the template. -/
theorem Fresh.through
    (short : plan.ends 0 = false)
    (isFresh : plan.Fresh stage)
    (call : plan.Call stage none next) :
    next.inserted = !plan.blocked ∧ next.increments = 1 ∧
      next.completed = false := by
  cases call with
  | completes atEnd =>
      rw [isFresh.increments, short] at atEnd
      cases atEnd
  | skips goesOn inTheWay =>
      refine ⟨?_, by rw [isFresh.increments], isFresh.running⟩
      cases isInserted : stage.inserted with
      | true =>
          simp [(isFresh.requeued isInserted).1]
      | false =>
          rcases blocks_iff.mp inTheWay with blocked | ⟨inserted, _⟩
          · simp [blocked]
          · rw [isInserted] at inserted
            cases inserted
  | finds goesOn free isOld =>
      have inTheWay :=
        blocks_iff.mpr (Or.inr ⟨isOld, (isFresh.requeued isOld).2⟩)
      rw [free] at inTheWay
      cases inTheWay
  | inserts goesOn free isNew =>
      exact ⟨by simp [not_blocked_of_free free],
        by rw [isFresh.increments], isFresh.running⟩

/-- A new instance that is not incremented for stands in its own way or not. -/
theorem Fresh.strand
    (isFresh : plan.Fresh stage)
    (free : plan.blocks stage = false)
    (unguarded : plan.guarded = false) :
    plan.Fresh { stage with inserted := true } where
  increments := isFresh.increments
  running := isFresh.running
  requeued := by
    intro _
    refine ⟨not_blocked_of_free free, ?_⟩
    rw [← Bool.not_eq_false]
    intro isNew
    rw [guarded_iff.mpr ⟨not_blocked_of_free free, isNew⟩] at unguarded
    cases unguarded

/-- A call after calls of which none has gone through. -/
theorem Fresh.step
    (short : plan.ends 0 = false)
    (noneThrough : none ∉ failures)
    (noneStranded :
      plan.guarded = true →
        some .incrementTemplateOccurrences ∉ failures)
    (isFresh : plan.Fresh stage)
    (call : plan.Call stage failure next) :
    Summary plan (failures ++ [failure]) next := by
  cases failure with
  | none =>
      obtain ⟨inserted, increments, running⟩ := isFresh.through short call
      refine .settled none_mem_append
        (noneStranded_append_none noneStranded) increments inserted
        fun completed => ?_
      rw [running] at completed
      cases completed
  | some query =>
      cases call with
      | strands goesOn free isNew =>
          cases guard : plan.guarded with
          | true =>
              exact .stranded guard
                (List.mem_append_right _ (List.mem_singleton_self _))
                isFresh.increments rfl
          | false =>
              refine .fresh (by simp [noneThrough]) ?_
                (isFresh.strand free guard)
              rw [guard]
              exact fun isTrue => by cases isTrue
      | fails query early =>
          exact .fresh (by simp [noneThrough])
            (noneStranded_append noneStranded early) isFresh

/-- A call after one that has gone through. -/
theorem summary_of_settled
    (through : none ∈ failures)
    (noneStranded :
      plan.guarded = true →
        some .incrementTemplateOccurrences ∉ failures)
    (increments : stage.increments = 1)
    (inserted : stage.inserted = !plan.blocked)
    (completedAtEnd :
      stage.completed = true → plan.ends 1 = true)
    (call : plan.Call stage failure next) :
    Summary plan (failures ++ [failure]) next := by
  have throughStill : none ∈ failures ++ [failure] :=
    List.mem_append_left _ through
  cases call with
  | completes atEnd =>
      rw [increments] at atEnd
      exact .settled throughStill
        (noneStranded_append_none noneStranded) increments inserted
        fun _ => atEnd
  | skips goesOn inTheWay =>
      rw [increments] at goesOn
      exact .beyond (unguarded_of_blocks inTheWay) throughStill goesOn
        (by simp [increments])
  | finds goesOn free isOld =>
      exact .settled throughStill
        (noneStranded_append_none noneStranded) increments inserted
        completedAtEnd
  | inserts goesOn free isNew | strands goesOn free isNew =>
      rw [inserted, not_blocked_of_free free] at isNew
      cases isNew
  | fails query early =>
      exact .settled throughStill
        (noneStranded_append noneStranded early) increments inserted
        completedAtEnd

/-- One call, where a first call does not end the template. -/
theorem Summary.step
    (short : plan.ends 0 = false)
    (summary : Summary plan failures stage)
    (call : plan.Call stage failure next) :
    Summary plan (failures ++ [failure]) next := by
  cases summary with
  | fresh noneThrough noneStranded isFresh =>
      exact isFresh.step short noneThrough noneStranded call
  | settled through noneStranded increments inserted completedAtEnd =>
      exact summary_of_settled through noneStranded increments inserted
        completedAtEnd call
  | stranded guarded isStranded increments inserted =>
      have strandedStill :
          some .incrementTemplateOccurrences ∈ failures ++ [failure] :=
        List.mem_append_left _ isStranded
      cases call with
      | completes atEnd =>
          rw [increments, short] at atEnd
          cases atEnd
      | skips goesOn inTheWay =>
          rw [not_blocks_of_guarded guarded] at inTheWay
          cases inTheWay
      | finds | fails =>
          exact .stranded guarded strandedStill increments inserted
      | inserts goesOn free isNew | strands goesOn free isNew =>
          rw [inserted] at isNew
          cases isNew
  | beyond unguarded through goesOn increments =>
      have throughStill : none ∈ failures ++ [failure] :=
        List.mem_append_left _ through
      cases call with
      | completes | finds | strands | fails =>
          exact .beyond unguarded throughStill goesOn increments
      | skips | inserts =>
          exact .beyond unguarded throughStill goesOn
            (increments.trans (Nat.le_succ _))

theorem retriesSafely_iff
    {wasCompleted : Prop}
    (short : plan.ends 0 = false) :
    plan.RetriesSafely wasCompleted failures ↔
      if plan.guarded = true then
        some .incrementTemplateOccurrences ∉ failures ∧
          (none ∈ failures → plan.ends 1 = true → wasCompleted)
      else
        none ∈ failures → plan.ends 1 = true ∧ wasCompleted := by
  unfold RetriesSafely
  rw [forall_prop_of_true short]

/-- A second call that completes the template must find it completed. -/
theorem retriesSafely_iff_of_atEnd
    {wasCompleted : Prop}
    (short : plan.ends 0 = false)
    (through : none ∈ failures)
    (noneStranded :
      plan.guarded = true →
        some .incrementTemplateOccurrences ∉ failures)
    (atEnd : plan.ends 1 = true) :
    plan.RetriesSafely wasCompleted failures ↔ wasCompleted := by
  rw [retriesSafely_iff short]
  split
  · rename_i guarded
    exact ⟨fun both => both.2 through atEnd,
      fun was => ⟨noneStranded guarded, fun _ _ => was⟩⟩
  · exact ⟨fun ended => (ended through).2, fun was _ => ⟨atEnd, was⟩⟩

/-- A last call after one that has gone through, compared with the only one. -/
theorem same_iff_of_settled
    {wasCompleted : Prop}
    (short : plan.ends 0 = false)
    (through : none ∈ failures)
    (noneStranded :
      plan.guarded = true →
        some .incrementTemplateOccurrences ∉ failures)
    (increments : stage.increments = 1)
    (inserted : stage.inserted = !plan.blocked)
    (completedAtEnd :
      stage.completed = true → plan.ends 1 = true)
    (single : plan.Call start none once)
    (last : plan.Call stage none final) :
    Same wasCompleted once final ↔
      plan.RetriesSafely wasCompleted failures := by
  obtain ⟨onceInserted, onceIncrements, onceRunning⟩ :=
    fresh_start.through short single
  cases last with
  | completes atEnd =>
      rw [increments] at atEnd
      rw [retriesSafely_iff_of_atEnd short through noneStranded atEnd]
      constructor
      · intro same
        by_contra wasNot
        have completed := same.completed wasNot
        rw [onceRunning] at completed
        cases completed
      · exact fun was => ⟨onceInserted.trans inserted.symm,
          onceIncrements.trans increments.symm,
          fun wasNot => absurd was wasNot⟩
  | skips goesOn inTheWay =>
      rw [increments] at goesOn
      rw [retriesSafely_iff short, unguarded_of_blocks inTheWay,
        if_neg Bool.false_ne_true]
      refine iff_of_false (fun same => ?_) fun safe => ?_
      · have sameIncrements := same.increments
        dsimp only at sameIncrements
        omega
      · have atEnd := (safe through).1
        rw [goesOn] at atEnd
        cases atEnd
  | finds goesOn free isOld =>
      rw [increments] at goesOn
      have guarded := guarded_of_free free isOld
      have running : stage.completed = false := by
        rw [Bool.eq_false_iff]
        intro completed
        rw [completedAtEnd completed] at goesOn
        cases goesOn
      rw [retriesSafely_iff short, if_pos guarded]
      refine iff_of_true ⟨onceInserted.trans inserted.symm,
        onceIncrements.trans increments.symm,
        fun _ => onceRunning.trans running.symm⟩
        ⟨noneStranded guarded, fun _ atEnd => ?_⟩
      rw [goesOn] at atEnd
      cases atEnd
  | inserts goesOn free isNew =>
      rw [inserted, not_blocked_of_free free] at isNew
      cases isNew

/-- The last call, compared with the only one. -/
theorem Summary.same_iff
    {wasCompleted : Prop}
    (short : plan.ends 0 = false)
    (summary : Summary plan failures stage)
    (single : plan.Call start none once)
    (last : plan.Call stage none final) :
    Same wasCompleted once final ↔
      plan.RetriesSafely wasCompleted failures := by
  obtain ⟨onceInserted, onceIncrements, onceRunning⟩ :=
    fresh_start.through short single
  cases summary with
  | fresh noneThrough noneStranded isFresh =>
      obtain ⟨inserted, increments, running⟩ :=
        isFresh.through short last
      refine iff_of_true ⟨onceInserted.trans inserted.symm,
        onceIncrements.trans increments.symm,
        fun _ => onceRunning.trans running.symm⟩ ?_
      rw [retriesSafely_iff short]
      split
      · rename_i guarded
        exact ⟨noneStranded guarded, fun through => absurd through noneThrough⟩
      · exact fun through => absurd through noneThrough
  | settled through noneStranded increments inserted completedAtEnd =>
      exact same_iff_of_settled short through noneStranded increments
        inserted completedAtEnd single last
  | stranded guarded isStranded increments inserted =>
      rw [retriesSafely_iff short, if_pos guarded]
      have unchanged : final.increments = 0 := by
        cases last with
        | completes | finds =>
            exact increments
        | skips goesOn inTheWay =>
            rw [not_blocks_of_guarded guarded] at inTheWay
            cases inTheWay
        | inserts goesOn free isNew =>
            rw [inserted] at isNew
            cases isNew
      refine iff_of_false (fun same => ?_) fun safe => safe.1 isStranded
      have sameIncrements := same.increments
      omega
  | beyond unguarded through goesOn increments =>
      have further : 2 ≤ final.increments := by
        cases last with
        | completes | finds =>
            exact increments
        | skips | inserts =>
            exact increments.trans (Nat.le_succ _)
      rw [retriesSafely_iff short, unguarded, if_neg Bool.false_ne_true]
      refine iff_of_false (fun same => ?_) fun safe => ?_
      · have sameIncrements := same.increments
        omega
      · have atEnd := (safe through).1
        rw [goesOn] at atEnd
        cases atEnd

/-- Calls for a template that is at its end only complete it. -/
theorem Idle.step
    (atEnd : plan.ends 0 = true)
    (idle : Idle stage)
    (call : plan.Call stage failure next) :
    Idle next := by
  cases call with
  | completes | fails =>
      exact ⟨idle.increments, idle.inserted⟩
  | skips goesOn | finds goesOn | inserts goesOn | strands goesOn =>
      rw [idle.increments, atEnd] at goesOn
      cases goesOn

theorem Idle.completed
    (atEnd : plan.ends 0 = true)
    (idle : Idle stage)
    (call : plan.Call stage none next) :
    next.completed = true := by
  cases call with
  | completes =>
      rfl
  | skips goesOn | finds goesOn | inserts goesOn =>
      rw [idle.increments, atEnd] at goesOn
      cases goesOn

/-- Calls with these failures, then one that goes through, against only one. -/
theorem retries_iff
    {wasCompleted : Prop}
    (earlier : TransitionSystem.Trace plan.Call start failures stage)
    (last : plan.Call stage none final)
    (single : plan.Call start none once) :
    Same wasCompleted once final ↔
      plan.RetriesSafely wasCompleted failures := by
  cases atEnd : plan.ends 0 with
  | false =>
      have summary : Summary plan ([] ++ failures) stage :=
        earlier.accumulate (fun summary call => summary.step atEnd call)
          (.fresh List.not_mem_nil (fun _ => List.not_mem_nil) fresh_start)
      exact summary.same_iff atEnd single last
  | true =>
      have idleStart : Idle start := ⟨rfl, rfl⟩
      have idle : Idle stage :=
        earlier.invariant Idle (fun idle call => idle.step atEnd call)
          idleStart
      have finalIdle := idle.step atEnd last
      have onceIdle := idleStart.step atEnd single
      refine iff_of_true ⟨onceIdle.inserted.trans finalIdle.inserted.symm,
        onceIdle.increments.trans finalIdle.increments.symm, fun _ => ?_⟩
        fun short => ?_
      · rw [idleStart.completed atEnd single, idle.completed atEnd last]
      · rw [atEnd] at short
        cases short

end Stages

end SpawnPlan

end Kronkeeper
