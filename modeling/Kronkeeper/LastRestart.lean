import Kronkeeper.JobCompletion

namespace Kronkeeper

/-!
# After the last restart

A restart ends every copy, so what is `LEASED` or `RUNNING` then has nobody to
go on with it.  The reaper frees the leases in the end and the jobs go their
way; nothing ever takes a row out of `RUNNING` but its copy or the next restart.
-/

namespace State

variable {config : Config} {slots : Nat}
variable {externals : Externals}
variable {state after : State config slots}
variable {action : Action config slots}
variable {row : Job}

/-- A row under way without a copy stays so, until a reap frees its lease. -/
theorem orphan_of_step?
    (grounded : state.Grounded)
    (notRestart : action ≠ .restart)
    (taken : step? externals state action = some after)
    (member : row ∈ state.jobs.rows)
    (notTemplate : row.isTemplate = false)
    (noCopy : state.NoCopy row.id)
    (underWay : row.state = .leased ∨ row.state = .running) :
    after.NoCopy row.id ∧
      ∃ new ∈ after.jobs.rows,
        new.identity = row.identity ∧
          (new.state = row.state ∨
            row.state = .leased ∧ new.state = .scheduled) := by
  have free := noCopy_iff.mp noCopy
  have notScheduled : row.state ≠ .scheduled := by
    rintro scheduled
    rw [scheduled] at underWay
    rcases underWay with isLeased | isRunning
    · cases isLeased
    · cases isRunning
  have noneScheduled :
      ∀ other ∈ state.jobs.rows,
        other.id = row.id → other.state ≠ .scheduled := by
    intro other otherMember sameId
    rw [RecordTable.eq_of_primary otherMember member sameId]
    exact notScheduled
  refine ⟨NoCopy.step noCopy noneScheduled taken, ?_⟩
  obtain ⟨new, newMember, identity⟩ := extends_of_step? taken row member
  refine ⟨new, newMember, identity, ?_⟩
  rcases stateChange_of_step? taken member newMember
      (Job.id_eq_of_identity identity) with schedule | change
  · exact Or.inl schedule.state
  · right
    generalize isNew : new.state = written at change
    cases change with
    | lease now entry dispatching pops isEntry scheduled
    | cancelJob slot clientId cancelling scheduled
    | cancelInstances slot clientId id templates cancelling isInstance
        scheduled =>
        exact (notScheduled scheduled).elim
    | begin worker job starting jobId =>
        exact (free (.worker worker) job _ (expects_of_worker starting rfl)
          jobId.symm).elim
    | settle worker job result now disposition handling disposed jobId =>
        exact (free (.worker worker) job _ (expects_of_worker handling rfl)
          jobId.symm).elim
    | giveBack job returning jobId =>
        exact (free .hand job _ (expects_of_hand returning rfl)
          jobId.symm).elim
    | reap ticking leased =>
        exact ⟨leased, rfl⟩
    | recover =>
        exact (notRestart rfl).elim
    | cancelTemplate slot clientId cancelling isTemplate =>
        rw [notTemplate] at isTemplate
        cases isTemplate
    | completeTemplate worker job template spawning templateId =>
        have read := (grounded.workers worker).template template (by
          rw [spawning]
          rfl)
        rw [read.row_isTemplate member templateId] at notTemplate
        cases notTemplate

/-! ## From the restart on -/

namespace FairCompletion

variable {execution : Execution config slots externals}

/-- What a restart leaves under way stays so, until a reap frees its lease. -/
theorem left_under_way
    (completion : FairCompletion externals execution)
    (fresh : (execution.state 0).FreshStart)
    (member : row ∈ (execution.state 0).jobs.rows)
    (notTemplate : row.isTemplate = false)
    (underWay : row.state = .leased ∨ row.state = .running)
    (later : Nat) :
    (row.state = .leased ∧
        ∃ freed, ∃ current ∈ (execution.state freed).jobs.rows,
          current.identity = row.identity ∧
            current.state = .scheduled) ∨
      (execution.state later).NoCopy row.id ∧
        ∃ current ∈ (execution.state later).jobs.rows,
          current.identity = row.identity ∧
            current.state = row.state := by
  induction later with
  | zero =>
      exact Or.inr ⟨fresh.noCopy row.id, row, member, rfl, rfl⟩
  | succ later inductionHypothesis =>
      rcases inductionHypothesis with
        isFreed | ⟨noCopy, old, oldMember, same, sameState⟩
      · exact Or.inl isFreed
      · have sameId := Job.id_eq_of_identity same
        obtain ⟨stillNoCopy, new, newMember, identity, change⟩ :=
          orphan_of_step? (completion.inStep later).grounded
            (completion.withRoom later).notRestart (execution.taken later)
            oldMember
            ((Job.isTemplate_eq_of_identity same).trans notTemplate)
            (sameId ▸ noCopy) (sameState ▸ underWay)
        rcases change with stays | ⟨leased, scheduled⟩
        · exact Or.inr ⟨sameId ▸ stillNoCopy, new, newMember,
            identity.trans same, stays.trans sameState⟩
        · exact Or.inl ⟨sameState ▸ leased, later + 1, new, newMember,
            identity.trans same, scheduled⟩

/-- What a restart leaves running stays running. -/
theorem left_running
    (completion : FairCompletion externals execution)
    (fresh : (execution.state 0).FreshStart)
    (member : row ∈ (execution.state 0).jobs.rows)
    (notTemplate : row.isTemplate = false)
    (running : row.state = .running)
    (later : Nat) :
    ∃ current ∈ (execution.state later).jobs.rows,
      current.identity = row.identity ∧ current.state = .running := by
  rcases completion.left_under_way fresh member notTemplate
      (Or.inr running) later with
    ⟨leased, _⟩ | ⟨_, current, currentMember, same, sameState⟩
  · rw [running] at leased
    cases leased
  · exact ⟨current, currentMember, same, sameState.trans running⟩

/-- What a restart leaves leased is scheduled again. -/
theorem left_leased
    (completion : FairCompletion externals execution)
    (fresh : (execution.state 0).FreshStart)
    (dated : (execution.state 0).LeasedDated)
    (reaps :
      ∀ moment, ∃ later, moment ≤ later ∧
        execution.action later = .reaper (.reap .ok))
    (member : row ∈ (execution.state 0).jobs.rows)
    (notTemplate : row.isTemplate = false)
    (leased : row.state = .leased) :
    ∃ later, ∃ current ∈ (execution.state later).jobs.rows,
      current.identity = row.identity ∧ current.state = .scheduled := by
  by_contra never
  have datedAt :
      ∀ index, (execution.state index).LeasedDated :=
    fun index =>
      execution.always (fun holds _ taken => LeasedDated.step holds taken)
        dated (Nat.zero_le index)
  refine not_always_leased datedAt reaps completion.timePasses member ?_
  intro later _ current currentMember same
  rcases completion.left_under_way fresh member notTemplate
      (Or.inl leased) later with
    ⟨_, isFreed⟩ | ⟨_, other, otherMember, otherSame, sameState⟩
  · exact (never isFreed).elim
  · have isCurrent : other = current :=
      RecordTable.eq_of_primary otherMember currentMember
        (Job.id_eq_of_identity (otherSame.trans same.symm))
    exact isCurrent ▸ sameState.trans leased

/-- A row was there at the restart, or has been scheduled since. -/
theorem from_start_or_scheduled
    {moment : Nat}
    (member : row ∈ (execution.state moment).jobs.rows) :
    (∃ old ∈ (execution.state 0).jobs.rows,
        old.identity = row.identity) ∨
      ∃ first, ∃ old ∈ (execution.state first).jobs.rows,
        old.identity = row.identity ∧ old.state = .scheduled := by
  induction moment generalizing row with
  | zero =>
      exact Or.inl ⟨row, member, rfl⟩
  | succ moment inductionHypothesis =>
      cases rowOrigin_of_step? (execution.taken moment) member with
      | kept old oldMember identity | changed old oldMember identity =>
          rw [identity]
          exact inductionHypothesis oldMember
      | inserted fresh insertion =>
          exact Or.inr ⟨moment + 1, row, member, rfl,
            insertion.attemptCount_eq.2⟩

/-- A job ends for good exactly if the restart did not leave it running. -/
theorem ends_for_good_iff
    (completion : FairCompletion externals execution)
    (fresh : (execution.state 0).FreshStart)
    (dated : (execution.state 0).LeasedDated)
    (reaps :
      ∀ moment, ∃ later, moment ≤ later ∧
        execution.action later = .reaper (.reap .ok))
    {moment : Nat}
    (member : row ∈ (execution.state moment).jobs.rows)
    (notTemplate : row.isTemplate = false) :
    execution.EndsForGood row ↔
      ∀ old ∈ (execution.state 0).jobs.rows,
        old.identity = row.identity → old.state ≠ .running := by
  have isJob {old : Job} (same : old.identity = row.identity) :
      old.isTemplate = false :=
    (Job.isTemplate_eq_of_identity same).trans notTemplate
  have ends {first : Nat} {old : Job}
      (oldMember : old ∈ (execution.state first).jobs.rows)
      (same : old.identity = row.identity)
      (scheduled : old.state = .scheduled) :
      execution.EndsForGood row := by
    have forGood :=
      completion.ends_for_good oldMember scheduled (isJob same)
    unfold Execution.EndsForGood at forGood
    rwa [same] at forGood
  constructor
  · rintro ⟨ended, forGood⟩ old oldMember same running
    obtain ⟨current, currentMember, isOld, stillRunning⟩ :=
      completion.left_running fresh oldMember (isJob same) running ended
    obtain ⟨other, otherMember, isRow, terminal⟩ :=
      forGood ended (Nat.le_refl _)
    have isCurrent : other = current :=
      RecordTable.eq_of_primary otherMember currentMember
        (Job.id_eq_of_identity (isRow.trans (isOld.trans same).symm))
    rw [isCurrent, stillRunning] at terminal
    cases terminal
  · intro notRunning
    rcases from_start_or_scheduled member with
      ⟨old, oldMember, same⟩ | ⟨first, old, oldMember, same, scheduled⟩
    · cases isState : old.state with
      | scheduled =>
          exact ends oldMember same isState
      | leased =>
          obtain ⟨first, current, currentMember, isOld, scheduled⟩ :=
            completion.left_leased fresh dated reaps oldMember (isJob same)
              isState
          exact ends currentMember (isOld.trans same) scheduled
      | running =>
          exact (notRunning old oldMember same isState).elim
      | completed | cancelled | expired | deadLetter | failed =>
          refine ⟨0, fun later after => ?_⟩
          obtain ⟨current, currentMember, isOld, terminal⟩ :=
            completion.stays_ended oldMember (isJob same)
              (by rw [isState]; rfl) after
          exact ⟨current, currentMember, isOld.trans same, terminal⟩
    · exact ends oldMember same scheduled

end FairCompletion

/-! ## From the first start on -/

section Restarts

variable {execution : Execution config slots externals}

theorem Execution.Fair.suffix
    (fair : execution.Fair)
    (start : Nat) :
    Execution.Fair (execution.suffix start) where
  works := fun party => (fair.works party).suffix start
  served := fun worker => (fair.served worker).suffix start
  hears := fair.hears.suffix start
  wakes := fair.wakes.suffix start
  timePasses := by
    intro instant
    obtain ⟨index, isLate⟩ := fair.timePasses instant
    exact ⟨index,
      isLate.trans (execution.clock_mono (Nat.le_add_left index start))⟩

theorem Execution.endsForGood_suffix_iff
    {start : Nat} :
    Execution.EndsForGood (execution.suffix start) row ↔
      execution.EndsForGood row := by
  constructor
  · rintro ⟨ended, forGood⟩
    refine ⟨start + ended, fun later after => ?_⟩
    obtain ⟨count, rfl⟩ := Nat.exists_eq_add_of_le after
    rw [Nat.add_assoc]
    exact forGood (ended + count) (Nat.le_add_right _ _)
  · rintro ⟨ended, forGood⟩
    exact ⟨ended, fun later after =>
      forGood (start + later) (after.trans (Nat.le_add_left _ _))⟩

/--
From the first start on no attempt counter wraps and no party is put off, and
since `boot`, the last start of the process, no copy is lost.
-/
structure Execution.FairSince
    (execution : Execution config slots externals)
    (boot : Nat) : Prop where
  limited : config.webhookMaxRetries < 2 ^ 31 - 1
  starts : ∃ clock, execution.state 0 = initial config slots clock
  /-- Where it is not the first start, the process starts with a restart. -/
  boots : ∀ crash, boot = crash + 1 → execution.action crash = .restart
  countsUp :
    ∀ index, (execution.state index).CountsUp (execution.action index)
  keepsCopies :
    ∀ index, boot ≤ index →
      (execution.state index).KeepsEveryCopy (execution.action index)
  fair : execution.Fair

namespace Execution.FairSince

variable {boot : Nat}

/-- What every step keeps, whatever fails or crashes. -/
theorem always
    (since : execution.FairSince boot)
    (index : Nat) :
    (execution.state index).TemplateRows ∧
      (execution.state index).WorkBounded ∧
      (execution.state index).AllBudgeted ∧
      (execution.state index).LeasedDated := by
  induction index with
  | zero =>
      obtain ⟨clock, starts⟩ := since.starts
      have fresh : (initial config slots clock).FreshStart :=
        freshStart_initial clock
      rw [starts]
      exact ⟨fresh.templates, fresh.workBounded, fresh.allBudgeted,
        (leasesPaired_initial clock).leased⟩
  | succ index inductionHypothesis =>
      obtain ⟨templates, bounded, budgeted, dated⟩ := inductionHypothesis
      have taken := execution.taken index
      exact ⟨templates.step budgeted.grounded taken,
        bounded.step since.limited taken,
        budgeted.step (since.countsUp index) taken, dated.step taken⟩

theorem freshStart
    (since : execution.FairSince boot) :
    (execution.state boot).FreshStart := by
  obtain ⟨templates, bounded, budgeted, _⟩ := since.always boot
  have tasks :
      (execution.state boot).scheduler = .initial ∧
        (execution.state boot).channel = [] ∧
        ∀ worker, (execution.state boot).workers worker = .idle false := by
    cases boot with
    | zero =>
        obtain ⟨clock, starts⟩ := since.starts
        rw [starts]
        exact ⟨rfl, rfl, fun _ => rfl⟩
    | succ crash =>
        have taken := execution.taken crash
        rw [since.boots crash rfl] at taken
        have isRestarted := Option.some.inj taken
        rw [← isRestarted]
        exact ⟨rfl, rfl, fun _ => rfl⟩
  exact
    { scheduler := tasks.1
      channel := tasks.2.1
      workers := tasks.2.2
      grounded := budgeted.grounded
      templates := templates
      attempts := bounded.rows
      budgeted := budgeted.rows }

theorem completion
    (since : execution.FairSince boot) :
    FairCompletion externals (execution.suffix boot) :=
  fairCompletion_of_freshStart since.limited since.freshStart
    (fun index => since.keepsCopies _ (Nat.le_add_right boot index))
    (since.fair.suffix boot)

/-- A job scheduled since the restart ends for good. -/
theorem ends_for_good
    (since : execution.FairSince boot)
    {moment : Nat}
    (after : boot ≤ moment)
    (member : row ∈ (execution.state moment).jobs.rows)
    (scheduled : row.state = .scheduled)
    (notTemplate : row.isTemplate = false) :
    execution.EndsForGood row := by
  obtain ⟨count, rfl⟩ := Nat.exists_eq_add_of_le after
  exact endsForGood_suffix_iff.mp
    (since.completion.ends_for_good member scheduled
      notTemplate)

end Execution.FairSince

end Restarts

end State

/-! ## A concrete execution -/

namespace Sample

/-- A minute later the reaper frees job 1, and a worker executes it. -/
def freeAndFinish : List (Action config 1) :=
  [ .scheduler (.refresh []),
    .tick 60000000,
    .reaper (.reap .ok),
    .reaper .notifyOne,
    .scheduler .notified,
    .scheduler (.refresh [⟨1, 0⟩]),
    .scheduler .sleepElapsed,
    .scheduler (.lease ⟨1, 0⟩ .ok),
    .scheduler .trySend ] ++ begin 0 ++ finishJob

end Sample

end Kronkeeper
