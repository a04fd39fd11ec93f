import Mathlib.Tactic.ByContra
import Kronkeeper.TransitionSystem

namespace Kronkeeper

/-!
# Infinite executions and fairness

What must happen cannot be said of a finite run: whatever is due may still come
after its end.  An execution never ends, a kind of action is treated fairly when
it is not put off for ever, and a measure that falls with every such action
makes sure of an event.  Like the runs, this names nothing of the scheduler.
-/

namespace TransitionSystem

universe u v

variable {State : Type u} {Action : Type v}

/-- An infinite sequence of permitted steps. -/
structure Execution
    (step? : State → Action → Option State)
    (allowed : State → Action → Prop) where
  state : Nat → State
  action : Nat → Action
  permitted : ∀ index, allowed (state index) (action index)
  taken :
    ∀ index, step? (state index) (action index) = some (state (index + 1))

/-- Some action of a kind is possible. -/
def Enabled
    (step? : State → Action → Option State)
    (allowed : State → Action → Prop)
    (kind : Action → Prop)
    (state : State) : Prop :=
  ∃ action after,
    kind action ∧ allowed state action ∧ step? state action = some after

namespace Execution

variable {step? : State → Action → Option State}
variable {allowed : State → Action → Prop}
variable (execution : Execution step? allowed)

/-- The actions between two moments. -/
def actionsFrom (start : Nat) : Nat → List Action
  | 0 => []
  | count + 1 =>
      execution.action start :: actionsFrom (start + 1) count

/-- Every finite part of an execution is a run. -/
theorem run
    (start count : Nat) :
    Run step? allowed (execution.state start)
      (execution.actionsFrom start count)
      (execution.state (start + count)) := by
  induction count generalizing start with
  | zero =>
      exact .nil _
  | succ count inductionHypothesis =>
      have later := inductionHypothesis (start + 1)
      rw [Nat.add_assoc, Nat.add_comm 1 count] at later
      exact .cons (execution.permitted start) (execution.taken start) later

/-- A predicate kept by every permitted step holds from its start on. -/
theorem always
    {Holds : State → Prop}
    (preserved :
      ∀ {before after : State} {action : Action},
        Holds before →
        allowed before action →
        step? before action = some after →
        Holds after)
    {start : Nat}
    (initially : Holds (execution.state start))
    {later : Nat}
    (after : start ≤ later) :
    Holds (execution.state later) := by
  obtain ⟨count, rfl⟩ := Nat.exists_eq_add_of_le after
  exact (execution.run start count).invariant preserved initially

/-! ## Fairness -/

/-- Actions of this kind are not put off for ever while one is possible. -/
def WeaklyFair (kind : Action → Prop) : Prop :=
  ∀ start,
    (∀ later, start ≤ later →
      Enabled step? allowed kind (execution.state later)) →
    ∃ later, start ≤ later ∧ kind (execution.action later)

/-- What is time and again impossible is treated fairly. -/
theorem weaklyFair_of_disabled
    {kind : Action → Prop}
    (disabled :
      ∀ start, ∃ later, start ≤ later ∧
        ¬Enabled step? allowed kind (execution.state later)) :
    execution.WeaklyFair kind := by
  intro start enabled
  obtain ⟨later, after, impossible⟩ := disabled start
  exact (impossible (enabled later after)).elim

/-- What becomes possible time and again is done time and again. -/
def StronglyFair (kind : Action → Prop) : Prop :=
  (∀ moment, ∃ later, moment ≤ later ∧
      Enabled step? allowed kind (execution.state later)) →
    ∀ start, ∃ later, start ≤ later ∧ kind (execution.action later)

/-- What is impossible from some moment on is treated fairly. -/
theorem stronglyFair_of_disabled
    {kind : Action → Prop}
    (moment : Nat)
    (disabled :
      ∀ later, moment ≤ later →
        ¬Enabled step? allowed kind (execution.state later)) :
    execution.StronglyFair kind := by
  intro enabled
  obtain ⟨later, after, possible⟩ := enabled moment
  exact (disabled later after possible).elim

/--
The response rule.  While an event is awaited, helpful actions stay possible,
no step raises the measure and every helpful one lowers it: so the event comes.
-/
theorem response
    {helpful : Action → Prop}
    (fair : execution.WeaklyFair helpful)
    {Awaited Event : Nat → Prop}
    (measure : State → Nat)
    (keeps :
      ∀ {index : Nat},
        Awaited index →
        ¬Event index →
        Awaited (index + 1) ∧
          measure (execution.state (index + 1)) ≤
            measure (execution.state index) ∧
          (helpful (execution.action index) →
            measure (execution.state (index + 1)) <
              measure (execution.state index)))
    (enabled :
      ∀ {index : Nat},
        Awaited index →
        Enabled step? allowed helpful (execution.state index))
    {start : Nat}
    (awaited : Awaited start) :
    ∃ later, start ≤ later ∧ Event later := by
  by_contra never
  push Not at never
  -- Without the event the measure only falls, and falls for ever.
  induction lowest : measure (execution.state start)
    using Nat.strongRecOn generalizing start with
  | ind bound inductionHypothesis =>
      have stays :
          ∀ count,
            Awaited (start + count) ∧
              measure (execution.state (start + count)) ≤
                measure (execution.state start) := by
        intro count
        induction count with
        | zero =>
            exact ⟨awaited, Nat.le_refl _⟩
        | succ count still =>
            have kept :=
              keeps still.1 (never (start + count) (Nat.le_add_right _ _))
            exact ⟨kept.1, Nat.le_trans kept.2.1 still.2⟩
      obtain ⟨later, after, helps⟩ :=
        fair start fun later after => by
          obtain ⟨count, rfl⟩ := Nat.exists_eq_add_of_le after
          exact enabled (stays count).1
      obtain ⟨count, rfl⟩ := Nat.exists_eq_add_of_le after
      have kept := keeps (stays count).1 (never (start + count) after)
      have falls := Nat.lt_of_lt_of_le (kept.2.2 helps) (stays count).2
      exact inductionHypothesis _ (lowest ▸ falls) kept.1
        (fun index further =>
          never index
            (Nat.le_trans after (Nat.le_trans (Nat.le_succ _) further)))
        rfl

/-! ## The rest of an execution -/

/-- What is left of an execution from a moment on. -/
def suffix (start : Nat) : Execution step? allowed where
  state index := execution.state (start + index)
  action index := execution.action (start + index)
  permitted index := execution.permitted (start + index)
  taken index := execution.taken (start + index)

variable {execution}

theorem WeaklyFair.suffix
    {kind : Action → Prop}
    (fair : execution.WeaklyFair kind)
    (start : Nat) :
    (execution.suffix start).WeaklyFair kind := by
  intro moment enabled
  obtain ⟨later, after, isKind⟩ := fair (start + moment) (by
    intro later after
    obtain ⟨count, rfl⟩ := Nat.exists_eq_add_of_le after
    rw [Nat.add_assoc]
    exact enabled (moment + count) (Nat.le_add_right _ _))
  obtain ⟨count, rfl⟩ := Nat.exists_eq_add_of_le after
  rw [Nat.add_assoc] at isKind
  exact ⟨moment + count, Nat.le_add_right _ _, isKind⟩

theorem StronglyFair.suffix
    {kind : Action → Prop}
    (fair : execution.StronglyFair kind)
    (start : Nat) :
    (execution.suffix start).StronglyFair kind := by
  intro enabled moment
  obtain ⟨later, after, isKind⟩ := fair (fun origin => by
    obtain ⟨index, after, possible⟩ := enabled origin
    exact ⟨start + index, Nat.le_trans after (Nat.le_add_left _ _), possible⟩)
    (start + moment)
  obtain ⟨count, rfl⟩ := Nat.exists_eq_add_of_le after
  rw [Nat.add_assoc] at isKind
  exact ⟨moment + count, Nat.le_add_right _ _, isKind⟩

variable (execution)

/-! ## Building executions -/

/-- An execution under a restriction is one under any weaker restriction. -/
def weaken
    {weaker : State → Action → Prop}
    (weakens : ∀ state action, allowed state action → weaker state action) :
    Execution step? weaker where
  state := execution.state
  action := execution.action
  permitted index := weakens _ _ (execution.permitted index)
  taken := execution.taken

/-- Take one step, then go on as an execution does. -/
def prepend
    (state : State)
    (action : Action)
    (permitted : allowed state action)
    (taken : step? state action = some (execution.state 0)) :
    Execution step? allowed where
  state
    | 0 => state
    | index + 1 => execution.state index
  action
    | 0 => action
    | index + 1 => execution.action index
  permitted
    | 0 => permitted
    | index + 1 => execution.permitted index
  taken
    | 0 => taken
    | index + 1 => execution.taken index

/-- A stream of actions that are possible one after the other. -/
theorem exists_of_stream
    {Holds : Nat → State → Prop}
    (action : Nat → Action)
    (goesOn :
      ∀ {index : Nat} {before : State},
        Holds index before →
        allowed before (action index) ∧
          ∃ after,
            step? before (action index) = some after ∧
              Holds (index + 1) after)
    {initial : State}
    (initially : Holds 0 initial) :
    ∃ execution : Execution step? allowed,
      execution.state 0 = initial ∧
        ∀ index,
          execution.action index = action index ∧
            Holds index (execution.state index) := by
  let next (index : Nat) (before : { state // Holds index state }) :
      { state // Holds (index + 1) state } :=
    ⟨(goesOn before.2).2.choose, (goesOn before.2).2.choose_spec.2⟩
  let states : (index : Nat) → { state // Holds index state } :=
    Nat.rec ⟨initial, initially⟩ next
  exact
    ⟨{ state index := (states index).1
       action := action
       permitted index := (goesOn (states index).2).1
       taken index := (goesOn (states index).2).2.choose_spec.1 },
      rfl, fun index => ⟨rfl, (states index).2⟩⟩

/-- Nothing changes any more. -/
def stutter
    (state : State)
    (action : Action)
    (permitted : allowed state action)
    (taken : step? state action = some state) :
    Execution step? allowed where
  state _ := state
  action _ := action
  permitted _ := permitted
  taken _ := taken

/-- A run leads into every execution that starts where it ends. -/
theorem exists_of_run
    {initial final : State}
    {actions : List Action}
    (run : Run step? allowed initial actions final)
    (reaches : execution.state 0 = final) :
    ∃ whole : Execution step? allowed,
      whole.state 0 = initial ∧
        ∀ index,
          whole.state (actions.length + index) = execution.state index ∧
            whole.action (actions.length + index) =
              execution.action index := by
  induction run with
  | nil state =>
      exact ⟨execution, reaches, fun index => by simp⟩
  | @cons initial middle final action rest permitted taken _
      inductionHypothesis =>
      obtain ⟨later, starts, same⟩ := inductionHypothesis reaches
      refine ⟨later.prepend initial action permitted (starts ▸ taken), rfl,
        fun index => ?_⟩
      rw [List.length_cons, Nat.add_right_comm]
      exact same index

end Execution

end TransitionSystem

end Kronkeeper
