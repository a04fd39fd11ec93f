import Mathlib.Logic.Function.Basic
import Kronkeeper.TransitionSystem

namespace Kronkeeper

/-!
# Objects whose calls are made of atomic operations

The reference object against which a concurrent service is measured.  Clients
call it; a call is a short program whose operations each take effect on the
value in one instant between the call and its answer; between two operations
the rest of the system may act.  A crash loses the calls that are open and
nothing else.  This module names nothing of the scheduler.
-/

universe u v w x y

/-- What the calls of an object mean. -/
structure AtomicObject
    (Call : Type u)
    (Answer : Type v)
    (Todo : Type w)
    (Value : Type x)
    (Internal : Type y) where
  /-- What a call has to do when it arrives. -/
  start : Call → Todo
  /-- One operation of a call, and what is left to do after it. -/
  Performs : Value → Todo → Value → Todo → Prop
  /-- The answer of a call that has nothing left to do. -/
  settled? : Todo → Option (Call × Answer)
  /-- What the rest of the system may do to the value. -/
  Acts : Internal → Value → Value → Prop

namespace AtomicObject

variable {Client Call Answer Todo Value Internal : Type*}

/-- How far a client has got. -/
inductive Phase (Call Answer Todo : Type*) where
  | idle
  | busy (todo : Todo)
  | answered (call : Call) (answer : Answer)
  deriving DecidableEq

namespace Phase

/-- What a crash leaves of a client. -/
def afterCrash : Phase Call Answer Todo → Phase Call Answer Todo
  | .busy _ => .idle
  | phase => phase

end Phase

/-- A value together with the phases of all clients. -/
@[ext] structure Configuration
    (Client Call Answer Todo Value : Type*) where
  value : Value
  phase : Client → Phase Call Answer Todo

inductive Label (Client Call Answer Internal : Type*) where
  | invoke (client : Client) (call : Call)
  | perform (client : Client)
  | answer (client : Client) (call : Call) (answer : Answer)
  | internal (action : Internal)
  | crash
  deriving DecidableEq

namespace Label

/-- Everything but the instant at which an operation takes effect. -/
def visible : Label Client Call Answer Internal → Bool
  | .perform _ => false
  | _ => true

end Label

variable [DecidableEq Client]

/-- The client enters a phase, over a value that may have changed. -/
def Configuration.enter
    (config : Configuration Client Call Answer Todo Value)
    (value : Value)
    (client : Client)
    (phase : Phase Call Answer Todo) :
    Configuration Client Call Answer Todo Value where
  value := value
  phase := Function.update config.phase client phase

/-- The steps of the object. -/
inductive Step
    (object : AtomicObject Call Answer Todo Value Internal) :
    Configuration Client Call Answer Todo Value →
      Label Client Call Answer Internal →
      Configuration Client Call Answer Todo Value → Prop where
  | invoke
      (config : Configuration Client Call Answer Todo Value)
      (client : Client)
      (call : Call)
      (isIdle : config.phase client = .idle) :
      Step object config (.invoke client call)
        (config.enter config.value client (.busy (object.start call)))
  | perform
      (config : Configuration Client Call Answer Todo Value)
      (client : Client)
      (todo rest : Todo)
      (value : Value)
      (isBusy : config.phase client = .busy todo)
      (performs : object.Performs config.value todo value rest) :
      Step object config (.perform client)
        (config.enter value client (.busy rest))
  | answer
      (config : Configuration Client Call Answer Todo Value)
      (client : Client)
      (todo : Todo)
      (call : Call)
      (answer : Answer)
      (isBusy : config.phase client = .busy todo)
      (settled : object.settled? todo = some (call, answer)) :
      Step object config (.answer client call answer)
        (config.enter config.value client (.answered call answer))
  | internal
      (config : Configuration Client Call Answer Todo Value)
      (action : Internal)
      (value : Value)
      (acts : object.Acts action config.value value) :
      Step object config (.internal action) { config with value := value }
  | crash (config : Configuration Client Call Answer Todo Value) :
      Step object config .crash
        { config with
          phase := fun client => (config.phase client).afterCrash }

namespace Configuration

variable {config : Configuration Client Call Answer Todo Value}
variable {value later : Value}
variable {client : Client}
variable {phase next : Phase Call Answer Todo}

@[simp] theorem enter_value :
    (config.enter value client phase).value = value :=
  rfl

@[simp] theorem enter_phase :
    (config.enter value client phase).phase client = phase :=
  Function.update_self ..

@[simp] theorem enter_enter :
    (config.enter value client phase).enter later client next =
      config.enter later client next := by
  simp [enter]

theorem enter_self
    (isPhase : config.phase client = phase) :
    config.enter config.value client phase = config := by
  ext
  · rfl
  · simp [enter, ← isPhase]

end Configuration

/-- One client moves on, and this much of it is visible. -/
def Moves
    (object : AtomicObject Call Answer Todo Value Internal)
    (config : Configuration Client Call Answer Todo Value)
    (client : Client)
    (events : List (Label Client Call Answer Internal))
    (value : Value)
    (phase : Phase Call Answer Todo) : Prop :=
  ∃ labels,
    TransitionSystem.Trace object.Step config labels
        (config.enter value client phase) ∧
      labels.filter Label.visible = events

namespace Moves

variable {object : AtomicObject Call Answer Todo Value Internal}
variable {config : Configuration Client Call Answer Todo Value}
variable {client : Client}
variable {todo rest : Todo}
variable {value : Value}
variable {call : Call}
variable {response : Answer}

/-- Nothing that matters to the client. -/
theorem stay
    {phase : Phase Call Answer Todo}
    (isPhase : config.phase client = phase) :
    object.Moves config client [] config.value phase := by
  refine ⟨[], ?_, rfl⟩
  rw [Configuration.enter_self isPhase]
  exact .nil config

/-- A call arrives. -/
theorem invoke
    (isIdle : config.phase client = .idle) :
    object.Moves config client [.invoke client call] config.value
      (.busy (object.start call)) :=
  ⟨_, .single (.invoke config client call isIdle), rfl⟩

/-- A call is answered as soon as it arrives. -/
theorem invoke_answer
    (isIdle : config.phase client = .idle)
    (settled : object.settled? (object.start call) = some (call, response)) :
    object.Moves config client
      [.invoke client call, .answer client call response] config.value
      (.answered call response) := by
  refine
    ⟨[_, .answer client call response],
      .cons (.invoke config client call isIdle) (.single ?_), rfl⟩
  have answered :
      object.Step
        (config.enter config.value client (.busy (object.start call)))
        (.answer client call response) _ :=
    .answer _ client _ call response Configuration.enter_phase settled
  simpa using answered

/-- One operation takes effect. -/
theorem perform
    (isBusy : config.phase client = .busy todo)
    (performs : object.Performs config.value todo value rest) :
    object.Moves config client [] value (.busy rest) :=
  ⟨_, .single (.perform config client todo rest value isBusy performs),
    rfl⟩

/-- The last operation takes effect and the answer is given. -/
theorem perform_answer
    (isBusy : config.phase client = .busy todo)
    (performs : object.Performs config.value todo value rest)
    (settled : object.settled? rest = some (call, response)) :
    object.Moves config client [.answer client call response] value
      (.answered call response) := by
  refine
    ⟨[_, .answer client call response],
      .cons (.perform config client todo rest value isBusy performs)
        (.single ?_), rfl⟩
  have answered :
      object.Step (config.enter value client (.busy rest))
        (.answer client call response) _ :=
    .answer _ client rest call response Configuration.enter_phase settled
  simpa using answered

/-- A settled call is answered. -/
theorem settle
    (isBusy : config.phase client = .busy todo)
    (settled : object.settled? todo = some (call, response)) :
    object.Moves config client [.answer client call response] config.value
      (.answered call response) :=
  ⟨_, .single (.answer config client todo call response isBusy settled),
    rfl⟩

end Moves

end AtomicObject

end Kronkeeper
