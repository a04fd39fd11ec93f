import Mathlib.Logic.Basic

namespace Kronkeeper

/-!
# Runs of a partial transition function

A component is given by `step? : State → Action → Option State`: the action
fixes every choice the component leaves open, so `step?` is a function and a
finite action list can be replayed.  A run may be restricted by a predicate on
the state before each step and the action taken there.  This module names
nothing of the scheduler and holds for any step function.
-/

namespace TransitionSystem

universe u v w x

variable {State : Type u} {Action : Type v}

/--
A finite run in which every action is enabled where it is taken and every pair
of a state and the action taken there satisfies `allowed`.
-/
inductive Run
    (step? : State → Action → Option State)
    (allowed : State → Action → Prop) :
    State → List Action → State → Prop where
  | nil (state : State) :
      Run step? allowed state [] state
  | cons
      {initial middle final : State}
      {action : Action}
      {rest : List Action}
      (permitted : allowed initial action)
      (taken : step? initial action = some middle)
      (later : Run step? allowed middle rest final) :
      Run step? allowed initial (action :: rest) final

/-- The restriction that rules nothing out. -/
def Unrestricted (_ : State) (_ : Action) : Prop :=
  True

instance (state : State) (action : Action) :
    Decidable (Unrestricted state action) :=
  isTrue trivial

namespace Run

variable {step? : State → Action → Option State}
variable {allowed : State → Action → Prop}

/-- Concatenate two runs whose boundary states agree. -/
theorem append
    {initial middle final : State}
    {leading trailing : List Action}
    (first : Run step? allowed initial leading middle)
    (later : Run step? allowed middle trailing final) :
    Run step? allowed initial (leading ++ trailing) final := by
  induction first with
  | nil state =>
      simpa using later
  | cons permitted taken _ inductionHypothesis =>
      exact .cons permitted taken (inductionHypothesis later)

/-- A run passes the point at which its actions are split. -/
theorem split
    {initial final : State}
    {leading trailing : List Action}
    (run : Run step? allowed initial (leading ++ trailing) final) :
    ∃ middle,
      Run step? allowed initial leading middle ∧
        Run step? allowed middle trailing final := by
  induction leading generalizing initial with
  | nil =>
      exact ⟨initial, .nil initial, run⟩
  | cons action leading inductionHypothesis =>
      cases run with
      | cons permitted taken later =>
          obtain ⟨middle, first, rest⟩ := inductionHypothesis later
          exact ⟨middle, .cons permitted taken first, rest⟩

/-- A run of one action is one permitted step. -/
theorem single
    {initial final : State}
    {action : Action}
    (run : Run step? allowed initial [action] final) :
    allowed initial action ∧ step? initial action = some final := by
  cases run with
  | cons permitted taken later =>
      cases later
      exact ⟨permitted, taken⟩

/-- A run that begins with a given step. -/
theorem cons_iff
    {initial middle final : State}
    {action : Action}
    {rest : List Action}
    (taken : step? initial action = some middle) :
    Run step? allowed initial (action :: rest) final ↔
      allowed initial action ∧ Run step? allowed middle rest final := by
  constructor
  · intro run
    cases run with
    | cons permitted takenHere later =>
        obtain rfl := Option.some.inj (taken.symm.trans takenHere)
        exact ⟨permitted, later⟩
  · rintro ⟨permitted, later⟩
    exact .cons permitted taken later

/-- A weaker restriction admits every run of a stronger one. -/
theorem mono
    {weaker : State → Action → Prop}
    {initial final : State}
    {actions : List Action}
    (weakens : ∀ state action, allowed state action → weaker state action)
    (run : Run step? allowed initial actions final) :
    Run step? weaker initial actions final := by
  induction run with
  | nil state =>
      exact .nil state
  | cons permitted taken _ inductionHypothesis =>
      exact .cons (weakens _ _ permitted) taken inductionHypothesis

/-- What every permitted action has, every action of a run has. -/
theorem forall_actions
    {property : Action → Prop}
    (permits : ∀ state action, allowed state action → property action)
    {initial final : State}
    {actions : List Action}
    (run : Run step? allowed initial actions final) :
    ∀ action ∈ actions, property action := by
  induction run with
  | nil state =>
      intro action member
      cases member
  | cons permitted _ _ inductionHypothesis =>
      intro action member
      rcases List.mem_cons.mp member with rfl | later
      · exact permits _ _ permitted
      · exact inductionHypothesis action later

/-- A predicate kept by every permitted step holds at the end of a run. -/
theorem invariant
    {Holds : State → Prop}
    (preserved :
      ∀ {before after : State} {action : Action},
        Holds before →
        allowed before action →
        step? before action = some after →
        Holds after)
    {initial final : State}
    {actions : List Action}
    (run : Run step? allowed initial actions final)
    (initially : Holds initial) :
    Holds final := by
  induction run with
  | nil state =>
      exact initially
  | cons permitted taken _ inductionHypothesis =>
      exact inductionHypothesis (preserved initially permitted taken)

/--
A reflexive and transitive relation that every permitted step establishes,
from states satisfying an invariant, relates the two ends of a run.
-/
theorem related
    {Holds : State → Prop}
    {Relates : State → State → Prop}
    (refl : ∀ state, Relates state state)
    (trans :
      ∀ {first second third : State},
        Relates first second →
        Relates second third →
        Relates first third)
    (preserved :
      ∀ {before after : State} {action : Action},
        Holds before →
        allowed before action →
        step? before action = some after →
        Holds after ∧ Relates before after)
    {initial final : State}
    {actions : List Action}
    (run : Run step? allowed initial actions final)
    (initially : Holds initial) :
    Relates initial final := by
  induction run with
  | nil state =>
      exact refl state
  | cons permitted taken _ inductionHypothesis =>
      obtain ⟨holds, relates⟩ := preserved initially permitted taken
      exact trans relates (inductionHypothesis holds)

/-- A run is no longer than what its steps diminish. -/
theorem length_le
    (Holds : State → Prop)
    (potential : State → Nat)
    (diminishes :
      ∀ {before after : State} {action : Action},
        Holds before →
        allowed before action →
        step? before action = some after →
        Holds after ∧ potential after < potential before)
    {initial final : State}
    {actions : List Action}
    (run : Run step? allowed initial actions final)
    (initially : Holds initial) :
    actions.length ≤ potential initial := by
  induction run with
  | nil state =>
      exact Nat.zero_le _
  | cons permitted taken _ inductionHypothesis =>
      obtain ⟨holds, less⟩ := diminishes initially permitted taken
      exact Nat.lt_of_le_of_lt (inductionHypothesis holds) less

end Run

/-! ## Steps of a run -/

/-- Some step of the run does what `event` says of it. -/
def Passes
    (step? : State → Action → Option State)
    (allowed : State → Action → Prop)
    (event : State → Action → State → Prop)
    (initial : State)
    (actions : List Action)
    (final : State) : Prop :=
  ∃ leading action trailing before after,
    actions = leading ++ action :: trailing ∧
      Run step? allowed initial leading before ∧
      step? before action = some after ∧
      Run step? allowed after trailing final ∧
      event before action after

/-- What holds at the end of a run and not at its start, some step brings. -/
theorem Run.established
    {step? : State → Action → Option State}
    {allowed : State → Action → Prop}
    {initial final : State}
    {actions : List Action}
    (run : Run step? allowed initial actions final)
    (Holds : State → Prop)
    (before : ¬Holds initial)
    (now : Holds final) :
    Passes step? allowed
      (fun before _ after => ¬Holds before ∧ Holds after)
      initial actions final := by
  induction run with
  | nil state =>
      exact (before now).elim
  | @cons initial middle final action rest permitted taken later
      inductionHypothesis =>
      by_cases holds : Holds middle
      · exact ⟨[], action, rest, initial, middle, rfl, .nil initial,
          taken, later, before, holds⟩
      · obtain ⟨leading, step, trailing, source, target, rfl, toSource,
          stepTaken, toFinal, brings⟩ := inductionHypothesis holds now
        exact ⟨action :: leading, step, trailing, source, target, rfl,
          .cons permitted taken toSource, stepTaken, toFinal, brings⟩

/--
What holds at the end of a run has held all along, or since the step that
brought it for the last time.
-/
theorem Run.holds_since
    {step? : State → Action → Option State}
    {allowed : State → Action → Prop}
    {initial final : State}
    {actions : List Action}
    (run : Run step? allowed initial actions final)
    (Holds : State → Prop)
    (now : Holds final) :
    Run step? (fun state action => allowed state action ∧ Holds state)
        initial actions final ∨
      ∃ leading action trailing before after,
        actions = leading ++ action :: trailing ∧
          Run step? allowed initial leading before ∧
          step? before action = some after ∧
          ¬Holds before ∧
          Holds after ∧
          Run step? (fun state action => allowed state action ∧ Holds state)
            after trailing final := by
  induction run with
  | nil state =>
      exact Or.inl (.nil state)
  | @cons initial middle final action rest permitted taken later
      inductionHypothesis =>
      rcases inductionHypothesis now with
        allAlong | ⟨leading, brings, trailing, before, after, rfl,
          toBefore, brought, notYet, holds, since⟩
      · have holds : Holds middle := by
          cases allAlong with
          | nil state =>
              exact now
          | cons both _ _ =>
              exact both.2
        by_cases already : Holds initial
        · exact Or.inl (.cons ⟨permitted, already⟩ taken allAlong)
        · exact Or.inr ⟨[], action, rest, initial, middle, rfl,
            .nil initial, taken, already, holds, allAlong⟩
      · exact Or.inr ⟨action :: leading, brings, trailing, before, after,
          rfl, .cons permitted taken toBefore, brought, notYet, holds,
          since⟩

/-! ## Counting steps -/

/-- How often a run takes a step at which `event` holds. -/
def occurrences
    (step? : State → Action → Option State)
    (event : State → Action → Bool) :
    State → List Action → Nat
  | _, [] =>
      0
  | state, action :: rest =>
      (event state action).toNat +
        match step? state action with
        | none => 0
        | some next => occurrences step? event next rest

/-- What never holds never happens. -/
theorem occurrences_eq_zero
    {step? : State → Action → Option State}
    {event : State → Action → Bool}
    (never : ∀ state action, event state action = false)
    (initial : State)
    (actions : List Action) :
    occurrences step? event initial actions = 0 := by
  induction actions generalizing initial with
  | nil =>
      rfl
  | cons action rest inductionHypothesis =>
      simp only [occurrences, never]
      cases step? initial action with
      | none => rfl
      | some next => simpa using inductionHypothesis next

/--
Events that a potential pays for happen no more often than it grows, from
states satisfying an invariant.
-/
theorem Run.occurrences_add_le
    {step? : State → Action → Option State}
    {allowed : State → Action → Prop}
    {event : State → Action → Bool}
    {Holds : State → Prop}
    {potential : State → Int}
    (pays :
      ∀ {before after : State} {action : Action},
        Holds before →
        allowed before action →
        step? before action = some after →
        Holds after ∧
          (event before action).toNat + potential before ≤
            potential after)
    {initial final : State}
    {actions : List Action}
    (run : Run step? allowed initial actions final)
    (initially : Holds initial) :
    occurrences step? event initial actions + potential initial ≤
      potential final := by
  induction run with
  | nil state =>
      simp [occurrences]
  | cons permitted taken _ inductionHypothesis =>
      obtain ⟨holds, paid⟩ := pays initially permitted taken
      have later := inductionHypothesis holds
      simp only [occurrences, taken, Int.natCast_add]
      omega

/--
Two kinds of events that draw on one potential happen as often as it shrinks,
from states satisfying an invariant.
-/
theorem Run.occurrences_balance
    {step? : State → Action → Option State}
    {allowed : State → Action → Prop}
    {first second : State → Action → Bool}
    {Holds : State → Prop}
    {potential : State → Nat}
    (balances :
      ∀ {before after : State} {action : Action},
        Holds before →
        allowed before action →
        step? before action = some after →
        Holds after ∧
          (first before action).toNat + (second before action).toNat +
              potential after =
            potential before)
    {initial final : State}
    {actions : List Action}
    (run : Run step? allowed initial actions final)
    (initially : Holds initial) :
    occurrences step? first initial actions +
          occurrences step? second initial actions +
        potential final =
      potential initial := by
  induction run with
  | nil state =>
      simp [occurrences]
  | cons permitted taken _ inductionHypothesis =>
      obtain ⟨holds, balanced⟩ := balances initially permitted taken
      have later := inductionHypothesis holds
      simp only [occurrences, taken]
      omega

/--
Events that use up a potential happen no more often than it lasts, when every
recharge adds at most a fixed amount to it.
-/
theorem Run.occurrences_le_recharged
    {step? : State → Action → Option State}
    {allowed : State → Action → Prop}
    {event recharge : State → Action → Bool}
    {Holds : State → Prop}
    {potential : State → Nat}
    {amount : Nat}
    (uses :
      ∀ {before after : State} {action : Action},
        Holds before →
        allowed before action →
        step? before action = some after →
        Holds after ∧
          (event before action).toNat + potential after ≤
            potential before + amount * (recharge before action).toNat)
    {initial final : State}
    {actions : List Action}
    (run : Run step? allowed initial actions final)
    (initially : Holds initial) :
    occurrences step? event initial actions + potential final ≤
      potential initial +
        amount * occurrences step? recharge initial actions := by
  induction run with
  | nil state =>
      simp [occurrences]
  | cons permitted taken _ inductionHypothesis =>
      obtain ⟨holds, used⟩ := uses initially permitted taken
      have later := inductionHypothesis holds
      simp only [occurrences, taken, Nat.mul_add]
      omega

/-- Replay an action list, checking the restriction before every step. -/
def replay?
    (step? : State → Action → Option State)
    (allowed : State → Action → Prop)
    [∀ state action, Decidable (allowed state action)] :
    State → List Action → Option State
  | state, [] =>
      some state
  | state, action :: rest =>
      if allowed state action then
        match step? state action with
        | none => none
        | some next => replay? step? allowed next rest
      else
        none

/-- A successful replay is a run. -/
theorem run_of_replay?
    {step? : State → Action → Option State}
    {allowed : State → Action → Prop}
    [∀ state action, Decidable (allowed state action)]
    {initial final : State}
    {actions : List Action}
    (replayed : replay? step? allowed initial actions = some final) :
    Run step? allowed initial actions final := by
  induction actions generalizing initial with
  | nil =>
      simp only [replay?, Option.some.injEq] at replayed
      subst final
      exact .nil initial
  | cons action rest inductionHypothesis =>
      simp only [replay?] at replayed
      split at replayed
      · rename_i permitted
        cases taken : step? initial action with
        | none =>
            simp [taken] at replayed
        | some next =>
            simp only [taken] at replayed
            exact .cons permitted taken (inductionHypothesis replayed)
      · cases replayed

/-- A run can be replayed. -/
theorem Run.replay?_eq
    {step? : State → Action → Option State}
    {allowed : State → Action → Prop}
    [∀ state action, Decidable (allowed state action)]
    {initial final : State}
    {actions : List Action}
    (run : Run step? allowed initial actions final) :
    replay? step? allowed initial actions = some final := by
  induction run with
  | nil state =>
      rfl
  | cons permitted taken _ inductionHypothesis =>
      simp only [replay?, if_pos permitted, taken]
      exact inductionHypothesis

/--
A replay that ends in a state passing a check gives a run to such a state, so
one evaluation of the step function settles an existence claim.
-/
theorem exists_run_of_replay?
    (step? : State → Action → Option State)
    (allowed : State → Action → Prop)
    [∀ state action, Decidable (allowed state action)]
    (initial : State)
    (actions : List Action)
    (check : State → Prop)
    [DecidablePred check]
    (replayed :
      (replay? step? allowed initial actions).map
        (fun final => decide (check final)) = some true) :
    ∃ final, Run step? allowed initial actions final ∧ check final := by
  cases reached : replay? step? allowed initial actions with
  | none =>
      simp [reached] at replayed
  | some final =>
      simp only [reached, Option.map_some, Option.some.injEq,
        decide_eq_true_eq] at replayed
      exact ⟨final, run_of_replay? reached, replayed⟩

/-- The same for two runs, one after the other, under two restrictions. -/
theorem exists_stages_of_replay?
    (step? : State → Action → Option State)
    (before after : State → Action → Prop)
    [∀ state action, Decidable (before state action)]
    [∀ state action, Decidable (after state action)]
    (initial : State)
    (leading trailing : List Action)
    (check : State → State → Prop)
    [∀ middle final, Decidable (check middle final)]
    (replayed :
      ((replay? step? before initial leading).bind fun middle =>
        (replay? step? after middle trailing).map fun final =>
          decide (check middle final)) = some true) :
    ∃ middle final,
      Run step? before initial leading middle ∧
        Run step? after middle trailing final ∧
        check middle final := by
  obtain ⟨middle, reached, rest⟩ := Option.bind_eq_some_iff.mp replayed
  obtain ⟨final, continued, checked⟩ := Option.map_eq_some_iff.mp rest
  exact ⟨middle, final, run_of_replay? reached, run_of_replay? continued,
    of_decide_eq_true checked⟩

/-- The same for a claim about two states of a run. -/
theorem exists_runs_of_replay?
    (step? : State → Action → Option State)
    (allowed : State → Action → Prop)
    [∀ state action, Decidable (allowed state action)]
    (initial : State)
    (leading trailing : List Action)
    (check : State → State → Prop)
    [∀ middle final, Decidable (check middle final)]
    (replayed :
      ((replay? step? allowed initial leading).bind fun middle =>
        (replay? step? allowed middle trailing).map fun final =>
          decide (check middle final)) = some true) :
    ∃ middle final,
      Run step? allowed initial leading middle ∧
        Run step? allowed middle trailing final ∧
        check middle final :=
  exists_stages_of_replay? step? allowed allowed initial leading trailing
    check replayed

/-- The same for a claim about two steps of a run. -/
theorem exists_steps_of_replay?
    (step? : State → Action → Option State)
    (allowed : State → Action → Prop)
    [∀ state action, Decidable (allowed state action)]
    (initial : State)
    (leading : List Action)
    (first : Action)
    (trailing : List Action)
    (second : Action)
    (check : State → State → State → State → Prop)
    [∀ before between reached after,
      Decidable (check before between reached after)]
    (replayed :
      ((replay? step? allowed initial leading).bind fun before =>
        (replay? step? allowed before [first]).bind fun between =>
          (replay? step? allowed between trailing).bind fun reached =>
            (replay? step? allowed reached [second]).map fun after =>
              decide (check before between reached after)) =
        some true) :
    ∃ before between reached after,
      Run step? allowed initial leading before ∧
        Run step? allowed before [first] between ∧
        Run step? allowed between trailing reached ∧
        Run step? allowed reached [second] after ∧
        check before between reached after := by
  obtain ⟨before, toBefore, rest⟩ := Option.bind_eq_some_iff.mp replayed
  obtain ⟨between, toBetween, rest⟩ := Option.bind_eq_some_iff.mp rest
  obtain ⟨reached, toReached, rest⟩ := Option.bind_eq_some_iff.mp rest
  obtain ⟨after, toAfter, checked⟩ := Option.map_eq_some_iff.mp rest
  exact ⟨before, between, reached, after, run_of_replay? toBefore,
    run_of_replay? toBetween, run_of_replay? toReached,
    run_of_replay? toAfter, of_decide_eq_true checked⟩

/-! ## Traces of a labelled relation -/

/-- A finite sequence of labelled steps, of which each may have many ends. -/
inductive Trace
    {Label : Type w}
    (step : State → Label → State → Prop) :
    State → List Label → State → Prop where
  | nil (state : State) :
      Trace step state [] state
  | cons
      {initial middle final : State}
      {label : Label}
      {labels : List Label}
      (taken : step initial label middle)
      (later : Trace step middle labels final) :
      Trace step initial (label :: labels) final

namespace Trace

variable {Label : Type w}
variable {step : State → Label → State → Prop}

/-- One step is a trace. -/
theorem single
    {initial final : State}
    {label : Label}
    (taken : step initial label final) :
    Trace step initial [label] final :=
  .cons taken (.nil final)

/-- Concatenate two traces whose boundary states agree. -/
theorem append
    {initial middle final : State}
    {leading trailing : List Label}
    (first : Trace step initial leading middle)
    (later : Trace step middle trailing final) :
    Trace step initial (leading ++ trailing) final := by
  induction first with
  | nil state =>
      exact later
  | cons taken _ inductionHypothesis =>
      exact .cons taken (inductionHypothesis later)

/-- A predicate kept by every step holds at the end of a trace. -/
theorem invariant
    (Holds : State → Prop)
    (preserved :
      ∀ {before after : State} {label : Label},
        Holds before →
        step before label after →
        Holds after)
    {initial final : State}
    {labels : List Label}
    (trace : Trace step initial labels final)
    (initially : Holds initial) :
    Holds final := by
  induction trace with
  | nil state =>
      exact initially
  | cons taken _ inductionHypothesis =>
      exact inductionHypothesis (preserved initially taken)

/-- What every step extends by its label, a trace extends by its labels. -/
theorem accumulate
    {Holds : List Label → State → Prop}
    (extended :
      ∀ {earlier : List Label} {before after : State} {label : Label},
        Holds earlier before →
        step before label after →
        Holds (earlier ++ [label]) after)
    {initial final : State}
    {earlier labels : List Label}
    (trace : Trace step initial labels final)
    (initially : Holds earlier initial) :
    Holds (earlier ++ labels) final := by
  induction trace generalizing earlier with
  | nil state =>
      simpa using initially
  | cons taken _ inductionHypothesis =>
      simpa using inductionHypothesis (extended initially taken)

/-- Traces follow a forward simulation, label by label. -/
theorem simulate
    {Abstract : Type x}
    {abstractStep : Abstract → Label → Abstract → Prop}
    (Represents : Abstract → State → Prop)
    (follows :
      ∀ {abstract : Abstract} {before after : State} {label : Label},
        Represents abstract before →
        step before label after →
        ∃ next,
          abstractStep abstract label next ∧ Represents next after)
    {initial final : State}
    {labels : List Label}
    {abstract : Abstract}
    (trace : Trace step initial labels final)
    (initially : Represents abstract initial) :
    ∃ reached,
      Trace abstractStep abstract labels reached ∧
        Represents reached final := by
  induction trace generalizing abstract with
  | nil state =>
      exact ⟨abstract, .nil abstract, initially⟩
  | cons taken _ inductionHypothesis =>
      obtain ⟨next, nextTaken, represents⟩ := follows initially taken
      obtain ⟨reached, later, reaches⟩ := inductionHypothesis represents
      exact ⟨reached, .cons nextTaken later, reaches⟩

end Trace

/-! ## What a run lets others observe -/

/-- The events of the steps of a run, in order. -/
def observed
    {Event : Type w}
    (step? : State → Action → Option State)
    (events : State → Action → List Event) :
    State → List Action → List Event
  | _, [] =>
      []
  | state, action :: rest =>
      events state action ++
        match step? state action with
        | none => []
        | some next => observed step? events next rest

/-- A map of events that respects concatenation acts on each step alone. -/
theorem observed_map
    {Event : Type w}
    {Other : Type x}
    {step? : State → Action → Option State}
    {events : State → Action → List Event}
    (translate : List Event → List Other)
    (empty : translate [] = [])
    (append :
      ∀ first second,
        translate (first ++ second) = translate first ++ translate second)
    (initial : State)
    (actions : List Action) :
    translate (observed step? events initial actions) =
      observed step? (fun state action => translate (events state action))
        initial actions := by
  induction actions generalizing initial with
  | nil =>
      exact empty
  | cons action rest inductionHypothesis =>
      simp only [observed, append]
      cases step? initial action with
      | none =>
          exact congrArg _ empty
      | some next =>
          exact congrArg _ (inductionHypothesis next)

/-- Two kinds of events in one list are as many as each of them apart. -/
theorem length_observed_append
    {Event : Type w}
    {step? : State → Action → Option State}
    {first second : State → Action → List Event}
    (initial : State)
    (actions : List Action) :
    (observed step?
        (fun state action => first state action ++ second state action)
        initial actions).length =
      (observed step? first initial actions).length +
        (observed step? second initial actions).length := by
  induction actions generalizing initial with
  | nil =>
      rfl
  | cons action rest inductionHypothesis =>
      simp only [observed, List.length_append]
      cases step? initial action with
      | none =>
          simp
      | some next =>
          simp only [inductionHypothesis]
          omega

/-- A first-in first-out law of every step is one of the whole run. -/
theorem Run.observed_queue
    {Event : Type w}
    {step? : State → Action → Option State}
    {allowed : State → Action → Prop}
    {entering leaving : State → Action → List Event}
    (queue : State → List Event)
    (passes :
      ∀ {before after : State} {action : Action},
        allowed before action →
        step? before action = some after →
        queue before ++ entering before action =
          leaving before action ++ queue after)
    {initial final : State}
    {actions : List Action}
    (run : Run step? allowed initial actions final) :
    queue initial ++ observed step? entering initial actions =
      observed step? leaving initial actions ++ queue final := by
  induction run with
  | nil state =>
      simp [observed]
  | @cons initial middle final action rest permitted taken _
      inductionHypothesis =>
      simp only [observed, taken]
      calc
        queue initial ++
              (entering initial action ++
                observed step? entering middle rest) =
            leaving initial action ++
              (queue middle ++ observed step? entering middle rest) := by
          rw [← List.append_assoc, passes permitted taken,
            List.append_assoc]
        _ = leaving initial action ++
              (observed step? leaving middle rest ++ queue final) := by
          rw [inductionHypothesis]
        _ = leaving initial action ++ observed step? leaving middle rest ++
              queue final :=
          (List.append_assoc ..).symm

/--
Where every step moves as much between two kinds of events as a potential
changes, so does the whole run.
-/
theorem Run.observed_length
    {First : Type w}
    {Second : Type x}
    {step? : State → Action → Option State}
    {allowed : State → Action → Prop}
    {first : State → Action → List First}
    {second : State → Action → List Second}
    (potential : State → Int)
    (balances :
      ∀ {before after : State} {action : Action},
        allowed before action →
        step? before action = some after →
        potential before + (first before action).length =
          (second before action).length + potential after)
    {initial final : State}
    {actions : List Action}
    (run : Run step? allowed initial actions final) :
    potential initial + (observed step? first initial actions).length =
      (observed step? second initial actions).length +
        potential final := by
  induction run with
  | nil state =>
      simp [observed]
  | cons permitted taken _ inductionHypothesis =>
      have balanced := balances permitted taken
      simp only [observed, taken, List.length_append, Int.natCast_add]
      omega

/--
A system refines a labelled relation when each of its steps, from states
satisfying an invariant, is matched by a trace with the same visible labels.
-/
theorem Run.refines
    {Abstract : Type x}
    {Label : Type w}
    {step? : State → Action → Option State}
    {allowed : State → Action → Prop}
    {abstractStep : Abstract → Label → Abstract → Prop}
    {Holds : State → Prop}
    {visible : Label → Bool}
    {events : State → Action → List Label}
    (abstraction : State → Abstract)
    (matched :
      ∀ {before after : State} {action : Action},
        Holds before →
        allowed before action →
        step? before action = some after →
        Holds after ∧
          ∃ labels,
            Trace abstractStep (abstraction before) labels
                (abstraction after) ∧
              labels.filter visible = events before action)
    {initial final : State}
    {actions : List Action}
    (run : Run step? allowed initial actions final)
    (initially : Holds initial) :
    ∃ labels,
      Trace abstractStep (abstraction initial) labels
          (abstraction final) ∧
        labels.filter visible = observed step? events initial actions := by
  induction run with
  | nil state =>
      exact ⟨[], .nil _, rfl⟩
  | cons permitted taken _ inductionHypothesis =>
      obtain ⟨holds, leading, first, seen⟩ :=
        matched initially permitted taken
      obtain ⟨trailing, later, seenLater⟩ := inductionHypothesis holds
      refine ⟨leading ++ trailing, first.append later, ?_⟩
      simp only [List.filter_append, seen, seenLater, observed, taken]

/-! ## Two runs over the same actions -/

/--
Wherever two runs over the same actions get to, `alike` holds of the two states
and the next action.
-/
def AlwaysAlike
    (step? : State → Action → Option State)
    (alike : State → State → Action → Prop) :
    State → State → List Action → Prop
  | _, _, [] =>
      True
  | first, second, action :: rest =>
      alike first second action ∧
        ∀ firstNext ∈ step? first action,
          ∀ secondNext ∈ step? second action,
            AlwaysAlike step? alike firstNext secondNext rest

/-- Two action lists can be replayed side by side to check it. -/
instance decidableAlwaysAlike
    (step? : State → Action → Option State)
    (alike : State → State → Action → Prop)
    [∀ first second action, Decidable (alike first second action)] :
    ∀ first second actions,
      Decidable (AlwaysAlike step? alike first second actions)
  | _, _, [] =>
      isTrue trivial
  | first, second, action :: rest =>
      have later :
          ∀ firstNext,
            Decidable
              (∀ secondNext ∈ step? second action,
                AlwaysAlike step? alike firstNext secondNext rest) :=
        fun firstNext =>
          @Option.decidableForallMem _ _
            (fun secondNext =>
              decidableAlwaysAlike step? alike firstNext secondNext rest)
            (step? second action)
      @instDecidableAnd _ _ inferInstance
        (@Option.decidableForallMem _ _ later (step? first action))

section TwoRuns

variable {step? : State → Action → Option State}
variable {allowed : State → Action → Prop}
variable {alike : State → State → Action → Prop}
variable {first second firstFinal secondFinal : State}
variable {actions : List Action}

/-- A relation that alike steps keep makes the second state follow the first. -/
theorem Run.followed
    {Related : State → State → Prop}
    (follows :
      ∀ {first second next : State} {action : Action},
        Related first second →
        allowed first action →
        alike first second action →
        step? first action = some next →
        ∃ other,
          allowed second action ∧
            step? second action = some other ∧
            Related next other)
    (run : Run step? allowed first actions firstFinal)
    (related : Related first second)
    (always : AlwaysAlike step? alike first second actions) :
    ∃ other,
      Run step? allowed second actions other ∧
        Related firstFinal other := by
  induction run generalizing second with
  | nil state =>
      exact ⟨second, .nil second, related⟩
  | cons permitted taken _ inductionHypothesis =>
      obtain ⟨now, later⟩ := always
      obtain ⟨next, secondPermitted, secondTaken, nextRelated⟩ :=
        follows related permitted now taken
      obtain ⟨other, otherRun, finalRelated⟩ :=
        inductionHypothesis nextRelated (later _ taken next secondTaken)
      exact ⟨other, .cons secondPermitted secondTaken otherRun,
        finalRelated⟩

/-- Two runs that are not always alike part ways, and for good. -/
theorem Run.alwaysAlike_or_parted
    {Related Parted : State → State → Prop}
    (follows :
      ∀ {first second next other : State} {action : Action},
        Related first second →
        allowed first action →
        alike first second action →
        step? first action = some next →
        step? second action = some other →
        Related next other)
    (parts :
      ∀ {first second next other : State} {action : Action},
        Related first second →
        allowed first action →
        ¬alike first second action →
        step? first action = some next →
        step? second action = some other →
        Parted next other)
    (stays :
      ∀ {first second next other : State} {action : Action},
        Parted first second →
        allowed first action →
        step? first action = some next →
        step? second action = some other →
        Parted next other)
    (firstRun : Run step? allowed first actions firstFinal)
    (secondRun : Run step? allowed second actions secondFinal)
    (related : Related first second) :
    AlwaysAlike step? alike first second actions ∨
      Parted firstFinal secondFinal := by
  have parted :
      ∀ {first second firstFinal secondFinal : State}
        {actions : List Action},
        Run step? allowed first actions firstFinal →
        Run step? allowed second actions secondFinal →
        Parted first second →
        Parted firstFinal secondFinal := by
    intro first second firstFinal secondFinal actions firstRun
      secondRun parted
    induction firstRun generalizing second with
    | nil state =>
        cases secondRun
        exact parted
    | cons permitted taken _ inductionHypothesis =>
        cases secondRun with
        | cons _ secondTaken secondLater =>
            exact inductionHypothesis secondLater
              (stays parted permitted taken secondTaken)
  induction firstRun generalizing second with
  | nil state =>
      exact Or.inl trivial
  | @cons start _ _ action _ permitted taken later
      inductionHypothesis =>
      cases secondRun with
      | cons _ secondTaken secondLater =>
          by_cases now : alike start second action
          · rcases inductionHypothesis secondLater
                (follows related permitted now taken secondTaken) with
              always | apart
            · refine Or.inl ⟨now, ?_⟩
              intro next isNext other isOther
              obtain rfl := Option.some.inj (taken.symm.trans isNext)
              obtain rfl := Option.some.inj (secondTaken.symm.trans isOther)
              exact always
            · exact Or.inr apart
          · exact Or.inr (parted later secondLater
              (parts related permitted now taken secondTaken))

end TwoRuns

end TransitionSystem

end Kronkeeper
