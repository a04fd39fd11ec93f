import Kronkeeper.Handoff
import Kronkeeper.TaskMoves

namespace Kronkeeper

/-!
# Worker capacity

A panic between `fetch_add` and `fetch_sub` ends the worker for good and leaves
its count in `active`.  Two places can panic on data the daemon does not
control: `truncate`, which cuts a text at a byte, and the retry branch of
`handle`, which adds a delay to a date.
-/

/-! ## Cutting a text -/

/-- The bytes of some characters. -/
def utf8Bytes (chars : List Char) : Nat :=
  (chars.map Char.utf8Size).sum

@[simp] theorem utf8Bytes_cons (c : Char) (rest : List Char) :
    utf8Bytes (c :: rest) = c.utf8Size + utf8Bytes rest := by
  simp [utf8Bytes]

theorem utf8Bytes_append (first second : List Char) :
    utf8Bytes (first ++ second) = utf8Bytes first + utf8Bytes second := by
  simp [utf8Bytes]

theorem utf8Bytes_replicate (count : Nat) (c : Char) :
    utf8Bytes (List.replicate count c) = count * c.utf8Size := by
  rw [utf8Bytes, List.map_replicate, List.sum_replicate_nat]

/-- A string is as long as the encodings of its characters. -/
theorem utf8ByteSize_ofList (chars : List Char) :
    (String.ofList chars).utf8ByteSize = utf8Bytes chars := by
  rw [← String.size_toByteArray, String.toByteArray_ofList]
  simp [List.utf8Encode, List.length_flatMap, utf8Bytes]

namespace Executor

/-- A slice of `budget` bytes is the prefix of that many bytes. -/
theorem bytePrefix?_eq_some_iff
    {budget : Nat}
    {chars kept : List Char} :
    bytePrefix? budget chars = some kept ↔
      kept <+: chars ∧ utf8Bytes kept = budget := by
  induction chars generalizing budget kept with
  | nil =>
      cases budget with
      | zero =>
          simp only [bytePrefix?, Option.some.injEq, List.prefix_nil]
          exact ⟨fun isNil => ⟨isNil.symm, isNil ▸ rfl⟩,
            fun both => both.1.symm⟩
      | succ budget =>
          simp only [bytePrefix?, reduceCtorEq, List.prefix_nil, false_iff]
          rintro ⟨rfl, size⟩
          cases size
  | cons c rest inductionHypothesis =>
      have positive := c.utf8Size_pos
      cases budget with
      | zero =>
          simp only [bytePrefix?, Option.some.injEq]
          constructor
          · rintro rfl
            exact ⟨List.nil_prefix, rfl⟩
          · rintro ⟨isPrefix, size⟩
            cases kept with
            | nil =>
                rfl
            | cons first kept =>
                have firstPositive := first.utf8Size_pos
                rw [utf8Bytes_cons] at size
                omega
      | succ budget =>
          simp only [bytePrefix?]
          cases kept with
          | nil =>
              refine iff_of_false ?_ ?_
              · split <;> simp
              · rintro ⟨_, size⟩
                cases size
          | cons first kept =>
              rw [List.cons_prefix_cons, utf8Bytes_cons]
              split
              · rename_i fits
                rw [Option.map_eq_some_iff]
                constructor
                · rintro ⟨found, isFound, same⟩
                  obtain ⟨rfl, rfl⟩ := List.cons.inj same
                  obtain ⟨isPrefix, size⟩ :=
                    inductionHypothesis.mp isFound
                  exact ⟨⟨rfl, isPrefix⟩, by omega⟩
                · rintro ⟨⟨rfl, isPrefix⟩, size⟩
                  exact ⟨kept,
                    inductionHypothesis.mpr ⟨isPrefix, by omega⟩, rfl⟩
              · rename_i tooWide
                refine iff_of_false (by simp) ?_
                rintro ⟨⟨rfl, _⟩, size⟩
                omega

/-- A slice of `budget` bytes ends on a boundary between characters. -/
theorem bytePrefix?_isSome_iff
    {budget : Nat}
    {chars : List Char} :
    (bytePrefix? budget chars).isSome = true ↔
      ∃ kept, kept <+: chars ∧ utf8Bytes kept = budget := by
  rw [Option.isSome_iff_exists]
  exact exists_congr fun kept => bytePrefix?_eq_some_iff

/-- The text is short, or a character ends at the byte where it is cut. -/
def CutsCleanly (s : String) : Prop :=
  s.utf8ByteSize ≤ maxCaptureBytes ∨
    ∃ kept, kept <+: s.toList ∧ utf8Bytes kept = maxCaptureBytes

theorem truncate?_isSome_iff {s : String} :
    (truncate? s).isSome = true ↔ CutsCleanly s := by
  unfold truncate? CutsCleanly
  split
  · rename_i short
    exact iff_of_true rfl (Or.inl short)
  · rename_i long
    rw [Option.isSome_map, bytePrefix?_isSome_iff, or_iff_right long]

instance (s : String) : Decidable (CutsCleanly s) :=
  decidable_of_iff _ truncate?_isSome_iff

/-- Every text that `execute` captures is cut cleanly. -/
def Captures : ExecutionOutcome → Prop
  | .httpAnswer _ text => CutsCleanly text
  | .scriptOutput _ _ stdout stderr =>
      CutsCleanly stdout ∧ CutsCleanly stderr
  | _ => True

instance decidableCaptures :
    ∀ outcome, Decidable (Captures outcome)
  | .httpAnswer _ text => inferInstanceAs (Decidable (CutsCleanly text))
  | .scriptOutput _ _ stdout stderr =>
      inferInstanceAs
        (Decidable (CutsCleanly stdout ∧ CutsCleanly stderr))
  | .timedOut => isTrue trivial
  | .httpBadMethod _ => isTrue trivial
  | .httpError _ => isTrue trivial
  | .scriptRejected _ => isTrue trivial
  | .scriptError _ => isTrue trivial

/-- `execute` panics exactly on a text that is not cut cleanly. -/
theorem execute?_isSome_iff
    {payload : JobPayload}
    {outcome : ExecutionOutcome} :
    (execute? payload outcome).isSome = true ↔ Captures outcome := by
  cases outcome with
  | httpAnswer status text =>
      simp only [execute?, Captures, Option.isSome_map,
        truncate?_isSome_iff]
  | scriptOutput success code stdout stderr =>
      simp only [execute?, Captures, ← truncate?_isSome_iff]
      cases truncate? stdout <;> cases truncate? stderr <;>
        simp
  | _ =>
      exact iff_of_true rfl trivial

end Executor

/-! ## Dating a retry -/

namespace ResultHandler

/-- The span and the date lie within what `chrono` represents. -/
def Representable (now : Time) (delaySecs : Int) : Prop :=
  delaySecs.natAbs ≤ 9223372036854775 ∧
    Time.seconds (-8334601228800) ≤ now + Time.seconds delaySecs ∧
    now + Time.seconds delaySecs < Time.seconds 8210266876800

instance (now : Time) (delaySecs : Int) :
    Decidable (Representable now delaySecs) :=
  inferInstanceAs (Decidable (_ ∧ _ ∧ _))

theorem retryInstant?_isSome_iff
    {now : Time}
    {delaySecs : Int} :
    (retryInstant? now delaySecs).isSome = true ↔
      Representable now delaySecs := by
  unfold retryInstant? Representable
  split
  · rename_i shortSpan
    dsimp only
    split
    · rename_i inRange
      exact iff_of_true rfl ⟨shortSpan, inRange⟩
    · rename_i outOfRange
      exact iff_of_false nofun fun parts => outOfRange parts.2
  · rename_i longSpan
    exact iff_of_false nofun fun parts => longSpan parts.1

/-- The result ends the job, or the date of its retry is representable. -/
def Dates
    (config : Config)
    (job : Job)
    (result : ExecutionResult)
    (now : Time) : Prop :=
  result.success = true ∨
    (∃ expiresAt ∈ job.expiresAt, expiresAt ≤ now) ∨
    job.maxRetries < wrapI32 (job.attemptCount + 1) ∨
    Representable now
      (computeRetryDelay job.retryDelaySec (wrapI32 (job.attemptCount + 1))
        config.maxRetryBackoffSecs)

theorem expired_iff
    {expiry : Option Time}
    {now : Time} :
    (expiry.any fun expiresAt => decide (expiresAt ≤ now)) = true ↔
      ∃ expiresAt ∈ expiry, expiresAt ≤ now := by
  cases expiry <;> simp

/-- `handle` panics exactly on a retry that cannot be dated. -/
theorem dispose?_isSome_iff
    {config : Config}
    {job : Job}
    {result : ExecutionResult}
    {now : Time} :
    (dispose? config job result now).isSome = true ↔
      Dates config job result now := by
  unfold dispose? branch Dates
  split
  · rename_i success
    exact iff_of_true rfl (Or.inl success)
  · rename_i failed
    rw [or_iff_right failed]
    split
    · rename_i expired
      exact iff_of_true rfl (Or.inl (expired_iff.mp expired))
    · rename_i notExpired
      rw [or_iff_right fun expired => notExpired (expired_iff.mpr expired)]
      dsimp only
      split
      · rename_i exhausted
        exact iff_of_true rfl (Or.inl exhausted)
      · rename_i notExhausted
        rw [or_iff_right notExhausted, Option.isSome_map,
          retryInstant?_isSome_iff]

instance
    (config : Config)
    (job : Job)
    (result : ExecutionResult)
    (now : Time) :
    Decidable (Dates config job result now) :=
  decidable_of_iff _ dispose?_isSome_iff

end ResultHandler

/-! ## The counter of active workers -/

namespace WorkerTask

/-- Between `active.fetch_add` and the matching `fetch_sub`. -/
def counted : WorkerTask → Bool
  | .starting _ => true
  | .executing _ => true
  | .handling _ _ _ => true
  | .retried _ => true
  | .spawning _ _ => true
  | .emitting _ _ => true
  | .finishing => true
  | _ => false

/-- Counted in `active`: the count of a worker that panicked stays. -/
def charged (task : WorkerTask) : Bool :=
  task.counted || decide (task = .panicked)

theorem charged_notifyWaiter (task : WorkerTask) :
    task.notifyWaiter.charged = task.charged := by
  cases task <;> rfl

/-- Up to the end of the loop iteration a job is with a counted worker. -/
theorem counted_afterSettle (job : Job) (disposition : Disposition) :
    (afterSettle job disposition).counted = true := by
  cases disposition with
  | complete =>
      unfold afterSettle
      cases job.parentJobId <;> rfl
  | expire | deadLetter | retry =>
      rfl

theorem counted_afterSpawn (job : Job) (progress : SpawnProgress) :
    (afterSpawn job progress).counted = true := by
  rcases progress with _ | _ | _ <;> rfl

theorem counted_afterEmit (job : Job) (progress : EmitProgress) :
    (afterEmit job progress).counted = true := by
  cases progress <;> rfl

theorem charged_of_counted
    {task : WorkerTask}
    (counted : task.counted = true) :
    task.charged = true := by
  simp [charged, counted]

end WorkerTask

section Moves

variable {config : Config} {externals : Externals}
variable {shared after : Shared}

theorem SpawnCall.Move.active_eq
    {call : SpawnCall}
    {reply : Reply}
    {progress : SpawnProgress}
    (moved : call.Move externals shared reply after progress) :
    after.active = shared.active := by
  cases moved <;> rfl

theorem SchedulerTask.Move.active_eq
    {channelClosed : Bool}
    {heap : List ScheduledJob}
    {position : SchedulerPosition}
    {action : SchedulerAction}
    {next : SchedulerTask}
    (moved :
      Move config channelClosed shared heap position action after next) :
    after.active = shared.active := by
  cases moved <;> rfl

theorem ReaperTask.Move.active_eq
    {task next : ReaperTask}
    {action : ReaperAction}
    (moved : task.Move shared action after next) :
    after.active = shared.active := by
  cases moved <;> rfl

theorem RequestTask.Move.active_eq
    {task next : RequestTask}
    {action : RequestAction}
    (moved : task.Move externals shared action after next) :
    after.active = shared.active := by
  cases moved with
  | create clientId req position action after next created =>
      cases created <;> rfl
  | cancel clientId id position action after next cancelled =>
      cases cancelled <;> rfl
  | _ =>
      rfl

/-- A worker changes the counter exactly as it is charged or discharged. -/
theorem WorkerTask.Move.active_eq
    {task next : WorkerTask}
    {action : WorkerAction}
    (moved : task.Move config externals shared action after next)
    (charge : task.charged.toNat ≤ shared.active) :
    after.active + task.charged.toNat =
      shared.active + next.charged.toNat := by
  cases moved with
  | deactivate =>
      exact Nat.sub_add_cancel charge
  | settle job result now disposition =>
      rw [charged_of_counted (counted_afterSettle job disposition)]
      rfl
  | spawn job call reply after progress spawned =>
      rw [charged_of_counted (counted_afterSpawn job progress),
        spawned.active_eq]
      rfl
  | emit job call reply progress | post job call delivered progress =>
      rw [charged_of_counted (counted_afterEmit job progress)]
      rfl
  | _ =>
      rfl

end Moves

namespace State

variable {config : Config} {slots : Nat}
variable {externals : Externals}
variable {state after : State config slots}
variable {action : Action config slots}

/-- The counter counts the charged workers. -/
def ActiveCharged (state : State config slots) : Prop :=
  state.active =
    Handoff.tally fun worker => (state.workers worker).charged

/-- Every step keeps the counter, panics and shutdowns included. -/
theorem ActiveCharged.step
    (charged : state.ActiveCharged)
    (taken : step? externals state action = some after) :
    after.ActiveCharged := by
  unfold ActiveCharged at *
  cases move_of_step? taken with
  | tick elapsed =>
      exact charged
  | scheduler action shared task moved =>
      exact moved.active_eq.trans charged
  | worker worker action shared task moved =>
      have tallied :=
        Handoff.tally_update WorkerTask.charged state.workers worker task
      have charge :
          (state.workers worker).charged.toNat ≤ state.active := by
        rw [charged]
        exact Handoff.le_tally
          (fun worker => (state.workers worker).charged) worker
      have counted := moved.active_eq charge
      rw [dropClosed_active, dropClosed_workers]
      dsimp only
      omega
  | reaper action shared task moved =>
      exact moved.active_eq.trans charged
  | api slot action shared task moved =>
      exact moved.active_eq.trans charged
  | shutdown =>
      simp only [WorkerTask.charged_notifyWaiter]
      exact charged
  | restart =>
      exact (Handoff.tally_eq_zero_iff.mpr fun _ => rfl).symm

theorem activeCharged_initial
    (clock : Time) :
    (initial config slots clock).ActiveCharged :=
  (Handoff.tally_eq_zero_iff.mpr fun _ => rfl).symm

end State

/-! ## Runs without a panic -/

namespace WorkerTask

/-- What `handle` decides about. -/
def handled? : WorkerTask → Option (Job × ExecutionResult × Time)
  | .handling job result now => some (job, result, now)
  | _ => none

/-- What an execution comes back with. -/
def outcome? : WorkerAction → Option ExecutionOutcome
  | .execute outcome => some outcome
  | _ => none

/-- The step cuts its texts cleanly and has a date for its retry. -/
def Spared
    (config : Config)
    (task : WorkerTask)
    (action : WorkerAction) : Prop :=
  (∀ outcome ∈ outcome? action, Executor.Captures outcome) ∧
    ∀ handled ∈ task.handled?,
      ResultHandler.Dates config handled.1 handled.2.1 handled.2.2

instance decidableSpared
    (config : Config)
    (task : WorkerTask)
    (action : WorkerAction) :
    Decidable (task.Spared config action) :=
  @instDecidableAnd _ _ (outcome? action).decidableForallMem
    task.handled?.decidableForallMem

/-- In its loop, and not told to leave it. -/
def Looping (task : WorkerTask) : Prop :=
  task.ended = false ∧ task ≠ .idle true

theorem looping_of_counted
    {task : WorkerTask}
    (counted : task.counted = true) :
    task.Looping := by
  constructor
  · cases task <;> first | rfl | cases counted
  · rintro rfl
    cases counted

/-- A spared worker in its loop stays there. -/
theorem Move.looping
    {config : Config}
    {externals : Externals}
    {shared after : Shared}
    {task next : WorkerTask}
    {action : WorkerAction}
    (moved : task.Move config externals shared action after next)
    (spared : task.Spared config action)
    (looping : task.Looping) :
    next.Looping := by
  cases moved with
  | stop =>
      exact (looping.2 rfl).elim
  | executePanics job outcome panics =>
      have captured : (Executor.execute? job.payload outcome).isSome :=
        Executor.execute?_isSome_iff.mpr (spared.1 outcome rfl)
      rw [panics] at captured
      cases captured
  | settlePanics job result now reply panics =>
      have dated :=
        ResultHandler.dispose?_isSome_iff.mpr (spared.2 _ rfl)
      dsimp only at dated
      rw [panics] at dated
      cases dated
  | settle job result now disposition =>
      exact looping_of_counted (counted_afterSettle job disposition)
  | spawn job call reply after progress =>
      exact looping_of_counted (counted_afterSpawn job progress)
  | emit job call reply progress | post job call delivered progress =>
      exact looping_of_counted (counted_afterEmit job progress)
  | _ =>
      exact ⟨rfl, nofun⟩

end WorkerTask

namespace State

variable {config : Config} {slots : Nat}
variable {externals : Externals}
variable {state after : State config slots}
variable {action : Action config slots}

/-- Before the shutdown, on texts and dates that make nothing panic. -/
def SparesWorkers
    (state : State config slots) : Action config slots → Prop
  | .shutdown => False
  | .worker actor action => (state.workers actor).Spared config action
  | _ => True

instance decidableSparesWorkers
    (state : State config slots) :
    ∀ action, Decidable (state.SparesWorkers action)
  | .shutdown => isFalse id
  | .worker actor action =>
      inferInstanceAs
        (Decidable ((state.workers actor).Spared config action))
  | .tick _ => isTrue trivial
  | .scheduler _ => isTrue trivial
  | .reaper _ => isTrue trivial
  | .api _ _ => isTrue trivial
  | .restart => isTrue trivial

theorem looping_step
    (looping : ∀ worker, (state.workers worker).Looping)
    (spares : state.SparesWorkers action)
    (taken : step? externals state action = some after) :
    ∀ worker, (after.workers worker).Looping := by
  cases move_of_step? taken with
  | worker worker action shared task moved =>
      rw [dropClosed_workers]
      exact (Function.forall_update_iff state.workers
        fun _ (task : WorkerTask) => task.Looping).mpr
          ⟨moved.looping spares (looping worker),
            fun other _ => looping other⟩
  | shutdown =>
      exact spares.elim
  | restart =>
      exact fun _ => ⟨rfl, nofun⟩
  | tick | scheduler | reaper | api =>
      exact looping

/--
In a run before the shutdown that spares the workers all of them stay in their
loops, and `active` is the number of those between `fetch_add` and `fetch_sub`.
-/
theorem capacity_kept
    {clock : Time}
    {actions : List (Action config slots)}
    {final : State config slots}
    (run :
      Run externals SparesWorkers (initial config slots clock) actions
        final) :
    (∀ worker, (final.workers worker).ended = false) ∧
      final.active =
        Handoff.tally fun worker => (final.workers worker).counted := by
  have looping : ∀ worker, (final.workers worker).Looping :=
    run.invariant
      (fun looping spares taken => looping_step looping spares taken)
      (fun _ => ⟨rfl, nofun⟩)
  have charged : final.ActiveCharged :=
    run.invariant
      (fun charged _ taken => charged.step taken)
      (activeCharged_initial clock)
  refine ⟨fun worker => (looping worker).1, ?_⟩
  rw [charged]
  congr
  funext worker
  have notPanicked : final.workers worker ≠ .panicked := by
    intro panicked
    have ended := (looping worker).1
    rw [panicked] at ended
    cases ended
  simp [WorkerTask.charged, notPanicked]

end State

/-! ## Concrete runs -/

namespace Sample

/-- A failing job keeps both workers in their loops. -/
theorem failed_job_keeps_workers :
    ∃ final,
      State.Run externals State.SparesWorkers (State.initial config 1 0)
          (createAndSend ++ begin 0 ++
            [.worker 0 (.execute fails), .worker 0 (.settle .ok)])
          final ∧
        (∀ worker, (final.workers worker).ended = false) ∧
        final.active =
          Handoff.tally fun worker => (final.workers worker).counted := by
  obtain ⟨final, run, _⟩ :=
    TransitionSystem.exists_run_of_replay?
      (State.step? externals) State.SparesWorkers
      (State.initial config 1 0)
      (createAndSend ++ begin 0 ++
        [.worker 0 (.execute fails), .worker 0 (.settle .ok)])
      (fun _ => True) (by decide)
  exact ⟨final, run, State.capacity_kept run⟩

/-- Single bytes before a character of two bytes. -/
def straddlingChars (leading : Nat) : List Char :=
  List.replicate leading 'a' ++ ['é']

theorem utf8Bytes_straddlingChars (leading : Nat) :
    utf8Bytes (straddlingChars leading) = leading + 2 := by
  have oneByte : Char.utf8Size 'a' = 1 := rfl
  have twoBytes : utf8Bytes ['é'] = 2 := rfl
  rw [straddlingChars, utf8Bytes_append, utf8Bytes_replicate, oneByte,
    Nat.mul_one, twoBytes]

/-- No prefix ends in the middle of the last character. -/
theorem utf8Bytes_prefix_straddlingChars
    {leading : Nat}
    {kept : List Char}
    (isPrefix : kept <+: straddlingChars leading) :
    utf8Bytes kept ≠ leading + 1 := by
  rcases List.prefix_concat_iff.mp isPrefix with rfl | isPrefix
  · have wide := utf8Bytes_straddlingChars leading
    unfold straddlingChars at wide
    omega
  · obtain ⟨short, same⟩ := List.prefix_replicate_iff.mp isPrefix
    have oneByte : Char.utf8Size 'a' = 1 := rfl
    rw [same, utf8Bytes_replicate, oneByte]
    omega

/-- A text that is cut one byte into its last character. -/
def straddling : String :=
  String.ofList (straddlingChars (Executor.maxCaptureBytes - 1))

theorem not_cutsCleanly_straddling : ¬Executor.CutsCleanly straddling := by
  have positive : 0 < Executor.maxCaptureBytes := by decide
  unfold straddling
  rintro (short | ⟨kept, isPrefix, size⟩)
  · rw [utf8ByteSize_ofList, utf8Bytes_straddlingChars] at short
    omega
  · rw [String.toList_ofList] at isPrefix
    apply utf8Bytes_prefix_straddlingChars isPrefix
    omega

/-- The worker executes a script. -/
def executesScript : WorkerTask → Bool
  | .executing job => Executor.outcomeFits job.payload succeeds
  | _ => false

/-- A script that writes the straddling text ends its worker. -/
theorem panics_of_straddling
    {shared : Shared}
    {task : WorkerTask}
    (executes : executesScript task = true) :
    task.step? config externals shared
        (.execute (.scriptOutput true (some 0) straddling "")) =
      some (shared, .panicked) := by
  cases task with
  | executing job =>
      have fits :
          Executor.outcomeFits job.payload
            (.scriptOutput true (some 0) straddling "") = true := by
        cases isPayload : job.payload with
        | http =>
            rw [executesScript, isPayload] at executes
            cases executes
        | script =>
            rfl
      have panics :
          Executor.execute? job.payload
            (.scriptOutput true (some 0) straddling "") = none := by
        rw [← Option.not_isSome_iff_eq_none, Executor.execute?_isSome_iff]
        exact fun captured => not_cutsCleanly_straddling captured.1
      simp only [WorkerTask.step?, fits, if_true, panics]
  | _ =>
      cases executes

/-- Output cut inside a character ends the worker, which stays counted. -/
theorem straddling_output_ends_worker :
    ∃ before after,
      State.Run externals TransitionSystem.Unrestricted
          (State.initial config 1 0) (createAndSend ++ begin 0) before ∧
        State.step? externals before
            (.worker 0
              (.execute (.scriptOutput true (some 0) straddling ""))) =
          some after ∧
        (after.workers 0).ended = true ∧
        after.active ≠
          Handoff.tally fun worker => (after.workers worker).counted := by
  obtain ⟨before, run, executes, active, idle⟩ :=
    TransitionSystem.exists_run_of_replay?
      (State.step? externals) TransitionSystem.Unrestricted
      (State.initial config 1 0) (createAndSend ++ begin 0)
      (fun before =>
        executesScript (before.workers 0) = true ∧
          before.active = 1 ∧ before.workers 1 = .idle false)
      (by decide)
  have taken :
      State.step? externals before
          (.worker 0
            (.execute (.scriptOutput true (some 0) straddling ""))) =
        some (State.dropClosed
          { before with
            workers := Function.update before.workers 0 .panicked }) := by
    simp only [State.step?, panics_of_straddling executes,
      Option.map_some]
  refine ⟨before, _, run, taken, ?_, ?_⟩
  · rw [State.dropClosed_workers]
    rfl
  · have noneCounted :
        ∀ worker,
          (Function.update before.workers 0 WorkerTask.panicked
            worker).counted = false := by
      rw [Fin.forall_fin_two]
      refine ⟨rfl, ?_⟩
      rw [Function.update_of_ne (by decide), idle]
      rfl
    rw [State.dropClosed_active, State.dropClosed_workers,
      Handoff.tally_eq_zero_iff.mpr noneCounted]
    change before.active ≠ 0
    rw [active]
    exact Nat.one_ne_zero

end Sample

end Kronkeeper
