import Kronkeeper.System

namespace Kronkeeper

/-!
# The dispatch loop

`dispatch_due_jobs` as it runs by itself: what it has popped, leased and sent at
each of its calls, and the ways in which it returns.
-/

namespace JobRepository

/-- The job of this id waits to be leased. -/
def isScheduled (jobs : JobTable) (id : Uuid) : Bool :=
  jobs.rows.any fun row => row.id == id && row.state == .scheduled

theorem isScheduled_iff {jobs : JobTable} {id : Uuid} :
    isScheduled jobs id = true ↔
      ∃ row ∈ jobs.rows, row.id = id ∧ row.state = .scheduled := by
  simp [isScheduled]

/-- A lease takes the row that waits under the id. -/
theorem returning_leaseJob_eq_some
    {jobs : JobTable}
    {clock : Time}
    {id : Uuid}
    {leaseDurationSecs : Nat}
    {job : Job}
    (leased :
      jobs.returning (leaseJob clock id leaseDurationSecs) = some job) :
    ∃ row ∈ jobs.rows,
      row.id = id ∧ row.state = .scheduled ∧
        job = (leaseJob clock id leaseDurationSecs).assign row := by
  obtain ⟨row, member, applies, assigned⟩ :=
    RecordTable.returning_eq_some leased
  simp only [leaseJob, Bool.and_eq_true, beq_iff_eq] at applies
  exact ⟨row, member, applies.1, applies.2, assigned⟩

theorem returning_leaseJob_eq_none
    {jobs : JobTable}
    {clock : Time}
    {id : Uuid}
    {leaseDurationSecs : Nat}
    (missed :
      jobs.returning (leaseJob clock id leaseDurationSecs) = none) :
    isScheduled jobs id = false := by
  rw [Bool.eq_false_iff]
  intro waits
  obtain ⟨row, member, sameId, scheduled⟩ := isScheduled_iff.mp waits
  have skips := RecordTable.returning_eq_none_iff.mp missed row member
  simp [leaseJob, sameId, scheduled] at skips

end JobRepository

/-! ## Which jobs a loop leases -/

/-- The ids leased by popping these entries, each once, in their order. -/
def leasedIds (jobs : JobTable) (popped : List ScheduledJob) : List Uuid :=
  ((popped.map ScheduledJob.id).filter
    (JobRepository.isScheduled jobs)).eraseDups

section LeasedIds

variable {jobs : JobTable}
variable {popped : List ScheduledJob}
variable {entry : ScheduledJob}

theorem mem_leasedIds {id : Uuid} :
    id ∈ leasedIds jobs popped ↔
      (∃ entry ∈ popped, entry.id = id) ∧
        JobRepository.isScheduled jobs id = true := by
  simp [leasedIds, List.mem_eraseDups]

theorem leasedIds_append_new
    (waits : JobRepository.isScheduled jobs entry.id = true)
    (notLeased : entry.id ∉ leasedIds jobs popped) :
    leasedIds jobs (popped ++ [entry]) =
      leasedIds jobs popped ++ [entry.id] := by
  unfold leasedIds at notLeased ⊢
  rw [List.mem_eraseDups] at notLeased
  simp [List.eraseDups_append, List.eraseDups_cons, List.cons_removeAll,
    waits, notLeased]

theorem leasedIds_append_old
    (known :
      JobRepository.isScheduled jobs entry.id = true →
        entry.id ∈ leasedIds jobs popped) :
    leasedIds jobs (popped ++ [entry]) = leasedIds jobs popped := by
  unfold leasedIds at known ⊢
  cases waits : JobRepository.isScheduled jobs entry.id with
  | false =>
      simp [waits]
  | true =>
      have listed := List.mem_eraseDups.mp (known waits)
      simp [List.eraseDups_append, List.cons_removeAll, waits, listed]

theorem nodup_leasedIds (popped : List ScheduledJob) :
    (leasedIds jobs popped).Nodup := by
  induction popped using List.reverseRecOn with
  | nil =>
      exact List.nodup_nil
  | append_singleton popped entry inductionHypothesis =>
      by_cases isNew :
          JobRepository.isScheduled jobs entry.id = true ∧
            entry.id ∉ leasedIds jobs popped
      · rw [leasedIds_append_new isNew.1 isNew.2]
        exact inductionHypothesis.append (List.nodup_singleton _)
          (List.disjoint_singleton.mpr isNew.2)
      · rw [leasedIds_append_old fun waits => by
          by_contra notLeased
          exact isNew ⟨waits, notLeased⟩]
        exact inductionHypothesis

end LeasedIds

/-! ## The table while a loop runs -/

/-- A row of a listed id has been leased, any other is as it was. -/
def LeasedRow (config : Config) (ids : List Uuid) (old new : Job) : Prop :=
  if old.id ∈ ids then
    ∃ clock,
      new =
        (JobRepository.leaseJob clock old.id
          config.leaseDurationSecs).assign old
  else
    new = old

theorem LeasedRow.id_eq
    {config : Config}
    {ids : List Uuid}
    {old new : Job}
    (leased : LeasedRow config ids old new) :
    new.id = old.id := by
  unfold LeasedRow at leased
  split at leased
  · obtain ⟨clock, rfl⟩ := leased
    rfl
  · rw [leased]

/-- A scheduled row has not been leased. -/
theorem LeasedRow.eq_of_scheduled
    {config : Config}
    {ids : List Uuid}
    {old new : Job}
    (leased : LeasedRow config ids old new)
    (scheduled : new.state = .scheduled) :
    new = old ∧ old.id ∉ ids := by
  unfold LeasedRow at leased
  split at leased
  · obtain ⟨clock, rfl⟩ := leased
    cases scheduled
  · rename_i unlisted
    exact ⟨leased, unlisted⟩

/--
A loop that started on `start` with `heap` has popped `popped`, leased the jobs
`leased` on the way, and has `rest` left.
-/
structure Leasing
    (config : Config)
    (start : Shared)
    (heap : List ScheduledJob)
    (now : Time)
    (popped : List ScheduledJob)
    (jobs : JobTable)
    (permit : Bool)
    (rest : List ScheduledJob)
    (leased : List Job) : Prop where
  served :
    EarliestFirst.Served ScheduledJob.scheduledAt heap popped rest
  due : ∀ entry ∈ popped, entry.scheduledAt ≤ now
  ids : leased.map Job.id = leasedIds start.jobs popped
  rows :
    RecordTable.Matches (LeasedRow config (leased.map Job.id))
      start.jobs jobs
  held : ∀ job ∈ leased, job ∈ jobs.rows ∧ job.state = .leased
  samePermit : permit = start.permit

namespace Leasing

variable {config : Config}
variable {start : Shared}
variable {jobs : JobTable}
variable {permit : Bool}
variable {clock : Time}
variable {heap popped rest : List ScheduledJob}
variable {now : Time}
variable {leased : List Job}
variable {entry : ScheduledJob}

theorem initial
    (config : Config)
    (start : Shared)
    (heap : List ScheduledJob)
    (now : Time) :
    Leasing config start heap now [] start.jobs start.permit heap [] where
  served := .start heap
  due := fun _ member => by cases member
  ids := rfl
  rows := .refl fun row _ => by simp [LeasedRow]
  held := fun _ member => by cases member
  samePermit := rfl

/-- A row that waits now has waited from the start and was not leased. -/
theorem eq_of_scheduled
    (leasing :
      Leasing config start heap now popped jobs permit rest leased)
    {row : Job}
    (member : row ∈ jobs.rows)
    (scheduled : row.state = .scheduled) :
    row ∈ start.jobs.rows ∧ row.id ∉ leasedIds start.jobs popped := by
  obtain ⟨old, oldMember, related⟩ := leasing.rows.backward row member
  obtain ⟨rfl, unlisted⟩ := related.eq_of_scheduled scheduled
  rw [leasing.ids] at unlisted
  exact ⟨oldMember, unlisted⟩

/-- A row that waited at the start and has not been leased still waits. -/
theorem isScheduled_of_notLeased
    (leasing :
      Leasing config start heap now popped jobs permit rest leased)
    {id : Uuid}
    (waits : JobRepository.isScheduled start.jobs id = true)
    (notLeased : id ∉ leasedIds start.jobs popped) :
    JobRepository.isScheduled jobs id = true := by
  obtain ⟨old, member, rfl, scheduled⟩ :=
    JobRepository.isScheduled_iff.mp waits
  obtain ⟨new, newMember, related⟩ := leasing.rows.forward old member
  rw [← leasing.ids] at notLeased
  unfold LeasedRow at related
  rw [if_neg notLeased] at related
  rw [related] at newMember
  exact JobRepository.isScheduled_iff.mpr
    ⟨old, newMember, rfl, scheduled⟩

/-- A lease that succeeds is the first one of its job. -/
theorem notLeased_of_returning
    (leasing :
      Leasing config start heap now popped jobs permit rest leased)
    {leaseDurationSecs : Nat}
    {job : Job}
    (returned :
      jobs.returning
        (JobRepository.leaseJob clock entry.id leaseDurationSecs) =
          some job) :
    entry.id = job.id ∧ job.id ∉ leasedIds start.jobs popped := by
  obtain ⟨row, member, sameId, scheduled, rfl⟩ :=
    JobRepository.returning_leaseJob_eq_some returned
  exact ⟨sameId.symm, (leasing.eq_of_scheduled member scheduled).2⟩

theorem due_append
    (leasing :
      Leasing config start heap now popped jobs permit rest leased)
    (pops : SchedulerTask.Pops rest now entry) :
    ∀ other ∈ popped ++ [entry], other.scheduledAt ≤ now := by
  intro other member
  rcases List.mem_append.mp member with earlier | last
  · exact leasing.due other earlier
  · rw [List.mem_singleton] at last
    rw [last]
    exact pops.2

/-- The lease of a waiting row, seen from the start. -/
theorem rows_lease
    (leasing :
      Leasing config start heap now popped jobs permit rest leased)
    {row : Job}
    (member : row ∈ jobs.rows)
    (scheduled : row.state = .scheduled) :
    RecordTable.Matches (LeasedRow config (leased.map Job.id ++ [row.id]))
      start.jobs
      (jobs.update
        (JobRepository.leaseJob clock row.id
          config.leaseDurationSecs)) := by
  refine leasing.rows.update fun old _ new newMember related => ?_
  by_cases sameId : new.id = row.id
  · have isRow : new = row :=
      RecordTable.eq_of_primary newMember member sameId
    rw [isRow] at related ⊢
    obtain ⟨rfl, _⟩ := related.eq_of_scheduled scheduled
    have applies :
        (JobRepository.leaseJob clock row.id
          config.leaseDurationSecs).applies row = true := by
      simp [JobRepository.leaseJob, scheduled]
    rw [RowUpdate.image_of_applies applies]
    unfold LeasedRow
    rw [if_pos (by simp)]
    exact ⟨clock, rfl⟩
  · have skips :
        (JobRepository.leaseJob clock row.id
          config.leaseDurationSecs).applies new = false := by
      simp [JobRepository.leaseJob, sameId]
    have other : old.id ≠ row.id := by
      rw [← related.id_eq]
      exact sameId
    rw [RowUpdate.image_of_not_applies skips]
    unfold LeasedRow at related ⊢
    simpa only [List.mem_append, List.mem_singleton, other,
      or_false] using related

/-- The loop pops an entry and leases its job. -/
theorem lease
    (leasing :
      Leasing config start heap now popped jobs permit rest leased)
    (pops : SchedulerTask.Pops rest now entry)
    {job : Job}
    (returned :
      jobs.returning
        (JobRepository.leaseJob clock entry.id
          config.leaseDurationSecs) = some job) :
    Leasing config start heap now (popped ++ [entry])
      (jobs.update
        (JobRepository.leaseJob clock entry.id
          config.leaseDurationSecs))
      permit (rest.erase entry) (leased ++ [job]) := by
  obtain ⟨row, member, sameId, scheduled, rfl⟩ :=
    JobRepository.returning_leaseJob_eq_some returned
  rw [← sameId]
  obtain ⟨fromStart, notLeased⟩ :=
    leasing.eq_of_scheduled member scheduled
  have waits : JobRepository.isScheduled start.jobs row.id = true :=
    JobRepository.isScheduled_iff.mpr ⟨row, fromStart, rfl, scheduled⟩
  have newIds :
      (leased ++
          [(JobRepository.leaseJob clock row.id
            config.leaseDurationSecs).assign row]).map Job.id =
        leased.map Job.id ++ [row.id] := by
    rw [List.map_append]
    rfl
  refine ⟨leasing.served.pop pops.1, leasing.due_append pops, ?_, ?_, ?_,
    leasing.samePermit⟩
  · rw [newIds, leasing.ids, sameId]
    rw [sameId] at waits notLeased
    exact (leasedIds_append_new waits notLeased).symm
  · rw [newIds]
    exact leasing.rows_lease member scheduled
  · intro job jobMember
    rcases List.mem_append.mp jobMember with earlier | last
    · obtain ⟨inTable, isLeased⟩ := leasing.held job earlier
      have skips :
          (JobRepository.leaseJob clock row.id
            config.leaseDurationSecs).applies job = false := by
        simp [JobRepository.leaseJob, isLeased]
      refine ⟨RecordTable.mem_update.mpr ⟨job, inTable, ?_⟩, isLeased⟩
      exact RowUpdate.image_of_not_applies skips
    · rw [List.mem_singleton] at last
      rw [last]
      have applies :
          (JobRepository.leaseJob clock row.id
            config.leaseDurationSecs).applies row = true := by
        simp [JobRepository.leaseJob, scheduled]
      refine ⟨RecordTable.mem_update.mpr ⟨row, member, ?_⟩, rfl⟩
      exact RowUpdate.image_of_applies applies

/-- The loop pops an entry whose job does not wait. -/
theorem miss
    (leasing :
      Leasing config start heap now popped jobs permit rest leased)
    (pops : SchedulerTask.Pops rest now entry)
    (missed : JobRepository.isScheduled jobs entry.id = false) :
    Leasing config start heap now (popped ++ [entry]) jobs permit
      (rest.erase entry) leased where
  served := leasing.served.pop pops.1
  due := leasing.due_append pops
  ids := by
    rw [leasing.ids]
    refine (leasedIds_append_old fun waits => ?_).symm
    by_contra notLeased
    rw [leasing.isScheduled_of_notLeased waits notLeased] at missed
    cases missed
  rows := leasing.rows
  held := leasing.held
  samePermit := leasing.samePermit

end Leasing

/-! ## Giving a job back -/

/-- The row of one id waits again, the listed ones have been leased. -/
def RestoredRow
    (config : Config)
    (ids : List Uuid)
    (id : Uuid)
    (old new : Job) : Prop :=
  if old.id = id then
    old.state = .scheduled ∧
      ∃ clock, new = { old with leasedUntil := none, updatedAt := clock }
  else
    LeasedRow config ids old new

/-- The loop has sent `sent` and given `job` back, which did not fit. -/
structure Restored
    (config : Config)
    (start : Shared)
    (heap : List ScheduledJob)
    (now : Time)
    (popped : List ScheduledJob)
    (jobs : JobTable)
    (rest : List ScheduledJob)
    (sent : List Job)
    (job : Job) : Prop where
  served :
    EarliestFirst.Served ScheduledJob.scheduledAt heap popped rest
  due : ∀ entry ∈ popped, entry.scheduledAt ≤ now
  ids : sent.map Job.id ++ [job.id] = leasedIds start.jobs popped
  rows :
    RecordTable.Matches (RestoredRow config (sent.map Job.id) job.id)
      start.jobs jobs
  held : ∀ other ∈ sent, other ∈ jobs.rows ∧ other.state = .leased

namespace Leasing

variable {config : Config}
variable {start : Shared}
variable {jobs : JobTable}
variable {permit : Bool}
variable {clock : Time}
variable {heap popped rest : List ScheduledJob}
variable {now : Time}
variable {sent : List Job}
variable {job : Job}

theorem ids_hand
    (leasing :
      Leasing config start heap now popped jobs permit rest (sent ++ [job])) :
    sent.map Job.id ++ [job.id] = leasedIds start.jobs popped := by
  rw [← leasing.ids, List.map_append, List.map_singleton]

/-- The job in hand is none of those sent. -/
theorem hand_notSent
    (leasing :
      Leasing config start heap now popped jobs permit rest (sent ++ [job])) :
    job.id ∉ sent.map Job.id := by
  have distinct : (leasedIds start.jobs popped).Nodup :=
    nodup_leasedIds popped
  rw [← leasing.ids_hand, List.nodup_append] at distinct
  intro member
  exact distinct.2.2 job.id member job.id
    (List.mem_singleton_self _) rfl

/-- The row of the job in hand waited when the loop started. -/
theorem hand_scheduled
    (leasing :
      Leasing config start heap now popped jobs permit rest (sent ++ [job]))
    {old : Job}
    (member : old ∈ start.jobs.rows)
    (sameId : old.id = job.id) :
    old.state = .scheduled := by
  have listed : job.id ∈ leasedIds start.jobs popped := by
    rw [← leasing.ids_hand]
    simp
  obtain ⟨row, rowMember, rowId, scheduled⟩ :=
    JobRepository.isScheduled_iff.mp (mem_leasedIds.mp listed).2
  have same : old = row :=
    RecordTable.eq_of_primary member rowMember (sameId.trans rowId.symm)
  rw [same]
  exact scheduled

/-- What is left of a lease that was given back. -/
theorem assign_scheduleRetry_leaseJob
    {leasedAt clock : Time}
    {leaseDurationSecs : Nat}
    {id : Uuid}
    {old : Job}
    (scheduled : old.state = .scheduled) :
    (JobRepository.scheduleRetry clock id old.scheduledAt
          old.attemptCount).assign
        ((JobRepository.leaseJob leasedAt old.id leaseDurationSecs).assign
          old) =
      { old with leasedUntil := none, updatedAt := clock } := by
  cases old
  cases scheduled
  rfl

/-- `schedule_retry` undoes the lease of the job in hand. -/
theorem giveBack
    (leasing :
      Leasing config start heap now popped jobs permit rest (sent ++ [job])) :
    Restored config start heap now popped
      (jobs.update
        (JobRepository.scheduleRetry clock job.id
          job.scheduledAt job.attemptCount))
      rest sent job where
  served := leasing.served
  due := leasing.due
  ids := leasing.ids_hand
  rows := by
    refine leasing.rows.update fun old oldMember new newMember related => ?_
    have sameId := related.id_eq
    rw [List.map_append, List.map_singleton] at related
    unfold RestoredRow
    split
    · rename_i isHand
      have applies :
          (JobRepository.scheduleRetry clock job.id
            job.scheduledAt job.attemptCount).applies new = true := by
        simp [JobRepository.scheduleRetry, sameId, isHand]
      have isNew : job = new :=
        RecordTable.eq_of_primary (leasing.held job (by simp)).1 newMember
          (isHand.symm.trans sameId.symm)
      have scheduled := leasing.hand_scheduled oldMember isHand
      unfold LeasedRow at related
      rw [if_pos (by simp [isHand])] at related
      obtain ⟨leasedAt, assigned⟩ := related
      refine ⟨scheduled, clock, ?_⟩
      rw [RowUpdate.image_of_applies applies, isNew, assigned]
      exact assign_scheduleRetry_leaseJob scheduled
    · rename_i isOther
      have skips :
          (JobRepository.scheduleRetry clock job.id
            job.scheduledAt job.attemptCount).applies new = false := by
        simp [JobRepository.scheduleRetry, sameId, isOther]
      rw [RowUpdate.image_of_not_applies skips]
      unfold LeasedRow at related ⊢
      simpa only [List.mem_append, List.mem_singleton, isOther,
        or_false] using related
  held := by
    intro other member
    obtain ⟨inTable, isLeased⟩ :=
      leasing.held other (List.mem_append_left _ member)
    have different : other.id ≠ job.id := by
      intro same
      exact leasing.hand_notSent (same ▸ List.mem_map_of_mem member)
    have skips :
        (JobRepository.scheduleRetry clock job.id
          job.scheduledAt job.attemptCount).applies other = false := by
      simp [JobRepository.scheduleRetry, different]
    exact ⟨RecordTable.mem_update.mpr
      ⟨other, inTable, RowUpdate.image_of_not_applies skips⟩, isLeased⟩

end Leasing

/-! ## The positions of a loop -/

namespace SchedulerAction

/-- The entry a step of the dispatch loop pops. -/
def popped : SchedulerAction → List ScheduledJob
  | .lease entry _ => [entry]
  | _ => []

/-- A step of `dispatch_due_jobs`. -/
def dispatches : SchedulerAction → Bool
  | .lease _ _ => true
  | .dispatchDone => true
  | .trySend => true
  | .returnJob _ => true
  | .notifyOne => true
  | _ => false

end SchedulerAction

/-- The free places of the channel. -/
def freeCapacity (config : Config) (start : Shared) : Nat :=
  config.workerQueueSize - start.channel.length

/-- The last entry these steps have popped is the first to lease this job. -/
def EndsWith
    (start : Shared)
    (history : List SchedulerAction)
    (id : Uuid) : Prop :=
  ∃ earlier entry,
    history.flatMap SchedulerAction.popped = earlier ++ [entry] ∧
      entry.id = id ∧
      id ∉ leasedIds start.jobs earlier

section Loop

variable (config : Config) (channelClosed : Bool) (start : Shared)
variable (heap : List ScheduledJob) (now : Time)

/-- How a loop that has taken these steps has returned. -/
inductive DispatchOutcome :
    List SchedulerAction → Shared → List ScheduledJob → Prop where
  | done
      {history : List SchedulerAction}
      {final : Shared}
      {rest : List ScheduledJob}
      (sent : List Job)
      (leasing :
        Leasing config start heap now
          (history.flatMap SchedulerAction.popped) final.jobs
          final.permit rest sent)
      (channel : final.channel = start.channel ++ sent)
      (room : sent.length ≤ freeCapacity config start)
      (nothing : SchedulerTask.NothingDue rest now) :
      DispatchOutcome history final rest
  | full
      {history : List SchedulerAction}
      {final : Shared}
      {rest : List ScheduledJob}
      (sent : List Job)
      (job : Job)
      (restored :
        Restored config start heap now
          (history.flatMap SchedulerAction.popped) final.jobs rest sent
          job)
      (last : EndsWith start history job.id)
      (channel : final.channel = start.channel ++ sent)
      (noRoom : sent.length = freeCapacity config start)
      (permit : final.permit = true) :
      DispatchOutcome history final rest
  | leaseFails
      {tried : List SchedulerAction}
      {final : Shared}
      {rest : List ScheduledJob}
      (sent : List Job)
      (entry : ScheduledJob)
      (message : String)
      (leasing :
        Leasing config start heap now
          (tried.flatMap SchedulerAction.popped) final.jobs
          final.permit rest sent)
      (channel : final.channel = start.channel ++ sent)
      (pops : SchedulerTask.Pops rest now entry) :
      DispatchOutcome (tried ++ [.lease entry (.error message)]) final
        (rest.erase entry)
  | closed
      {tried : List SchedulerAction}
      {final : Shared}
      {rest : List ScheduledJob}
      (sent : List Job)
      (job : Job)
      (leasing :
        Leasing config start heap now
          (tried.flatMap SchedulerAction.popped) final.jobs
          final.permit rest (sent ++ [job]))
      (channel : final.channel = start.channel ++ sent)
      (isClosed : channelClosed = true) :
      DispatchOutcome (tried ++ [.trySend]) final rest
  | returnFails
      {tried : List SchedulerAction}
      {final : Shared}
      {rest : List ScheduledJob}
      (sent : List Job)
      (job : Job)
      (message : String)
      (leasing :
        Leasing config start heap now
          (tried.flatMap SchedulerAction.popped) final.jobs
          final.permit rest (sent ++ [job]))
      (channel : final.channel = start.channel ++ sent) :
      DispatchOutcome (tried ++ [.returnJob (.error message)]) final rest

/-- Where a loop stands that has taken these steps. -/
inductive DispatchLoop :
    List SchedulerAction → Shared → SchedulerTask → Prop where
  | dispatching
      {history : List SchedulerAction}
      {current : Shared}
      {rest : List ScheduledJob}
      (sent : List Job)
      (leasing :
        Leasing config start heap now
          (history.flatMap SchedulerAction.popped) current.jobs
          current.permit rest sent)
      (channel : current.channel = start.channel ++ sent)
      (room : sent.length ≤ freeCapacity config start) :
      DispatchLoop history current
        { heap := rest, position := .dispatching now }
  | sending
      {history : List SchedulerAction}
      {current : Shared}
      {rest : List ScheduledJob}
      (sent : List Job)
      (job : Job)
      (leasing :
        Leasing config start heap now
          (history.flatMap SchedulerAction.popped) current.jobs
          current.permit rest (sent ++ [job]))
      (last : EndsWith start history job.id)
      (channel : current.channel = start.channel ++ sent)
      (room : sent.length ≤ freeCapacity config start) :
      DispatchLoop history current
        { heap := rest, position := .sending now job }
  | returning
      {history : List SchedulerAction}
      {current : Shared}
      {rest : List ScheduledJob}
      (sent : List Job)
      (job : Job)
      (leasing :
        Leasing config start heap now
          (history.flatMap SchedulerAction.popped) current.jobs
          current.permit rest (sent ++ [job]))
      (last : EndsWith start history job.id)
      (channel : current.channel = start.channel ++ sent)
      (noRoom : sent.length = freeCapacity config start) :
      DispatchLoop history current
        { heap := rest, position := .returning job }
  | notifying
      {history : List SchedulerAction}
      {current : Shared}
      {rest : List ScheduledJob}
      (sent : List Job)
      (job : Job)
      (restored :
        Restored config start heap now
          (history.flatMap SchedulerAction.popped) current.jobs rest
          sent job)
      (last : EndsWith start history job.id)
      (channel : current.channel = start.channel ++ sent)
      (noRoom : sent.length = freeCapacity config start) :
      DispatchLoop history current
        { heap := rest, position := .notifying }
  | returned
      {history : List SchedulerAction}
      {final : Shared}
      {rest : List ScheduledJob}
      (wakeAt : Time)
      (outcome :
        DispatchOutcome config channelClosed start heap now history final
          rest) :
      DispatchLoop history final
        { heap := rest, position := .waiting wakeAt }

variable {config channelClosed start heap now}

theorem flatMap_popped_append
    (history : List SchedulerAction)
    (action : SchedulerAction) :
    (history ++ [action]).flatMap SchedulerAction.popped =
      history.flatMap SchedulerAction.popped ++ action.popped := by
  rw [List.flatMap_append, List.flatMap_singleton]

/-- A step that pops nothing leaves what was popped. -/
theorem flatMap_popped_of_none
    {history : List SchedulerAction}
    {action : SchedulerAction}
    (none : action.popped = []) :
    (history ++ [action]).flatMap SchedulerAction.popped =
      history.flatMap SchedulerAction.popped := by
  rw [flatMap_popped_append, none, List.append_nil]

theorem EndsWith.append
    {history : List SchedulerAction}
    {action : SchedulerAction}
    {id : Uuid}
    (last : EndsWith start history id)
    (none : action.popped = []) :
    EndsWith start (history ++ [action]) id := by
  unfold EndsWith
  rw [flatMap_popped_of_none none]
  exact last

/-- At the head of the loop an entry is popped, or nothing is due. -/
theorem DispatchLoop.step_dispatching
    {history : List SchedulerAction}
    {current after : Shared}
    {rest : List ScheduledJob}
    {next : SchedulerTask}
    {action : SchedulerAction}
    {sent : List Job}
    (leasing :
      Leasing config start heap now
        (history.flatMap SchedulerAction.popped) current.jobs
        current.permit rest sent)
    (channel : current.channel = start.channel ++ sent)
    (room : sent.length ≤ freeCapacity config start)
    (dispatches : action.dispatches = true)
    (taken :
      SchedulerTask.step? config channelClosed current
          { heap := rest, position := .dispatching now } action =
        some (after, next)) :
    DispatchLoop config channelClosed start heap now (history ++ [action])
      after next := by
  cases action with
  | lease entry reply =>
      simp only [SchedulerTask.step?] at taken
      split at taken
      · rename_i pops
        cases reply with
        | ok =>
            dsimp only at taken
            split at taken
            · rename_i job returned
              cases taken
              obtain ⟨sameId, notLeased⟩ :=
                leasing.notLeased_of_returning returned
              refine .sending sent job ?_
                ⟨_, entry, flatMap_popped_append _ _, sameId, notLeased⟩
                channel room
              rw [flatMap_popped_append]
              exact leasing.lease pops returned
            · rename_i missed
              cases taken
              refine .dispatching sent ?_ channel room
              rw [flatMap_popped_append]
              exact leasing.miss pops
                (JobRepository.returning_leaseJob_eq_none missed)
        | error message =>
            cases taken
            exact .returned _
              (.leaseFails sent entry message leasing channel pops)
        | inserted id =>
            cases taken
      · cases taken
  | dispatchDone =>
      simp only [SchedulerTask.step?] at taken
      split at taken
      · rename_i nothing
        cases taken
        refine .returned _ (.done sent ?_ channel room nothing)
        rw [flatMap_popped_of_none rfl]
        exact leasing
      · cases taken
  | trySend | returnJob | notifyOne =>
      cases taken
  | refresh | refreshFails | sleepElapsed | notified =>
      cases dispatches

/-- The job in hand is sent, does not fit, or meets a closed channel. -/
theorem DispatchLoop.step_sending
    {history : List SchedulerAction}
    {current after : Shared}
    {rest : List ScheduledJob}
    {next : SchedulerTask}
    {action : SchedulerAction}
    {sent : List Job}
    {job : Job}
    (leasing :
      Leasing config start heap now
        (history.flatMap SchedulerAction.popped) current.jobs
        current.permit rest (sent ++ [job]))
    (last : EndsWith start history job.id)
    (channel : current.channel = start.channel ++ sent)
    (room : sent.length ≤ freeCapacity config start)
    (dispatches : action.dispatches = true)
    (taken :
      SchedulerTask.step? config channelClosed current
          { heap := rest, position := .sending now job } action =
        some (after, next)) :
    DispatchLoop config channelClosed start heap now (history ++ [action])
      after next := by
  cases action with
  | trySend =>
      simp only [SchedulerTask.step?] at taken
      split at taken
      · rename_i isClosed
        cases taken
        exact .returned _ (.closed sent job leasing channel isClosed)
      · split at taken
        · rename_i hasRoom
          cases taken
          rw [channel, List.length_append] at hasRoom
          refine .dispatching (sent ++ [job]) ?_ ?_ ?_
          · rw [flatMap_popped_of_none rfl]
            exact leasing
          · rw [← List.append_assoc, ← channel]
          · rw [List.length_append, List.length_singleton]
            unfold freeCapacity
            omega
        · rename_i noRoom
          cases taken
          rw [channel, List.length_append] at noRoom
          refine .returning sent job ?_ (last.append rfl) channel ?_
          · rw [flatMap_popped_of_none rfl]
            exact leasing
          · unfold freeCapacity at room ⊢
            omega
  | lease | dispatchDone | returnJob | notifyOne =>
      cases taken
  | refresh | refreshFails | sleepElapsed | notified =>
      cases dispatches

/-- One call of the loop. -/
theorem DispatchLoop.step
    {history : List SchedulerAction}
    {current after : Shared}
    {task next : SchedulerTask}
    {action : SchedulerAction}
    (loop :
      DispatchLoop config channelClosed start heap now history current
        task)
    (dispatches : action.dispatches = true)
    (taken :
      task.step? config channelClosed current action =
        some (after, next)) :
    DispatchLoop config channelClosed start heap now (history ++ [action])
      after next := by
  cases loop with
  | dispatching sent leasing channel room =>
      exact step_dispatching leasing channel room dispatches taken
  | sending sent job leasing last channel room =>
      exact step_sending leasing last channel room dispatches taken
  | returning sent job leasing last channel noRoom =>
      cases action with
      | returnJob reply =>
          cases reply with
          | ok =>
              cases taken
              refine .notifying sent job ?_ (last.append rfl) channel noRoom
              rw [flatMap_popped_of_none rfl]
              exact leasing.giveBack
          | error message =>
              cases taken
              exact .returned _
                (.returnFails sent job message leasing channel)
          | inserted id =>
              cases taken
      | lease | dispatchDone | trySend | notifyOne =>
          cases taken
      | refresh | refreshFails | sleepElapsed | notified =>
          cases dispatches
  | notifying sent job restored last channel noRoom =>
      cases action with
      | notifyOne =>
          cases taken
          refine .returned _
            (.full sent job ?_ (last.append rfl) channel noRoom rfl)
          rw [flatMap_popped_of_none rfl]
          exact restored
      | lease | dispatchDone | trySend | returnJob =>
          cases taken
      | refresh | refreshFails | sleepElapsed | notified =>
          cases dispatches
  | returned wakeAt outcome =>
      cases action with
      | lease | dispatchDone | trySend | returnJob | notifyOne =>
          cases taken
      | refresh | refreshFails | sleepElapsed | notified =>
          cases dispatches

/-- A loop does not notice that time passes. -/
theorem DispatchLoop.tick
    {history : List SchedulerAction}
    {current : Shared}
    {task : SchedulerTask}
    (loop :
      DispatchLoop config channelClosed start heap now history current
        task)
    (clock : Time) :
    DispatchLoop config channelClosed start heap now history
      { current with clock := clock } task := by
  cases loop with
  | dispatching sent leasing channel room =>
      exact .dispatching sent leasing channel room
  | sending sent job leasing last channel room =>
      exact .sending sent job leasing last channel room
  | returning sent job leasing last channel noRoom =>
      exact .returning sent job leasing last channel noRoom
  | notifying sent job restored last channel noRoom =>
      exact .notifying sent job restored last channel noRoom
  | returned wakeAt outcome =>
      refine .returned wakeAt ?_
      cases outcome with
      | done sent leasing channel room nothing =>
          exact .done sent leasing channel room nothing
      | full sent job restored last channel noRoom permit =>
          exact .full sent job restored last channel noRoom permit
      | leaseFails sent entry message leasing channel pops =>
          exact .leaseFails sent entry message leasing channel pops
      | closed sent job leasing channel isClosed =>
          exact .closed sent job leasing channel isClosed
      | returnFails sent job message leasing channel =>
          exact .returnFails sent job message leasing channel

end Loop

/-! ## A loop that runs by itself -/

namespace State

variable {config : Config} {slots : Nat}
variable {externals : Externals}

/-- A step of the dispatch loop, or time passes. -/
def Dispatches
    (_ : State config slots) : Action config slots → Prop
  | .tick _ => True
  | .scheduler action => action.dispatches = true
  | _ => False

instance decidableDispatches
    (state : State config slots) :
    ∀ action, Decidable (Dispatches state action)
  | .tick _ => isTrue trivial
  | .scheduler action =>
      inferInstanceAs (Decidable (action.dispatches = true))
  | .worker _ _ => isFalse id
  | .reaper _ => isFalse id
  | .api _ _ => isFalse id
  | .shutdown => isFalse id
  | .restart => isFalse id

/-- What the scheduler does in a run. -/
def schedulerHistory : List (Action config slots) → List SchedulerAction :=
  List.filterMap fun
    | .scheduler action => some action
    | _ => none

/-- The entries that a run pops. -/
def poppedEntries (actions : List (Action config slots)) :
    List ScheduledJob :=
  (schedulerHistory actions).flatMap SchedulerAction.popped

/-- A loop that started in one state has come to another by these steps. -/
structure LoopsTo
    (start : State config slots)
    (now : Time)
    (history : List SchedulerAction)
    (current : State config slots) : Prop where
  loop :
    DispatchLoop config (decide start.ChannelClosed) start.toShared
      start.scheduler.heap now history current.toShared current.scheduler
  sameWorkers : current.workers = start.workers

theorem loopsTo_start
    {start : State config slots}
    {now : Time}
    (entered : start.scheduler.position = .dispatching now) :
    LoopsTo start now [] start where
  loop := by
    have isTask :
        start.scheduler =
          { heap := start.scheduler.heap, position := .dispatching now } := by
      rw [← entered]
    rw [isTask]
    exact .dispatching [] (.initial config start.toShared _ now)
      (List.append_nil _).symm (Nat.zero_le _)
  sameWorkers := rfl

theorem LoopsTo.channelClosed_iff
    {start current : State config slots}
    {now : Time}
    {history : List SchedulerAction}
    (loops : LoopsTo start now history current) :
    current.ChannelClosed ↔ start.ChannelClosed := by
  unfold ChannelClosed
  rw [loops.sameWorkers]

theorem LoopsTo.step
    {start current after : State config slots}
    {now : Time}
    {history : List SchedulerAction}
    {action : Action config slots}
    (loops : LoopsTo start now history current)
    (dispatches : Dispatches current action)
    (taken : step? externals current action = some after) :
    LoopsTo start now (history ++ schedulerHistory [action]) after := by
  cases action with
  | tick elapsed =>
      cases taken
      rw [show schedulerHistory [Action.tick elapsed] =
          ([] : List SchedulerAction) from rfl, List.append_nil]
      exact ⟨loops.loop.tick _, loops.sameWorkers⟩
  | scheduler action =>
      obtain ⟨⟨shared, task⟩, stepped, rfl⟩ :=
        Option.map_eq_some_iff.mp taken
      rw [decide_eq_decide.mpr loops.channelClosed_iff] at stepped
      exact ⟨loops.loop.step dispatches stepped, loops.sameWorkers⟩
  | worker | reaper | api | shutdown | restart =>
      exact dispatches.elim

theorem schedulerHistory_cons
    (action : Action config slots)
    (rest : List (Action config slots)) :
    schedulerHistory (action :: rest) =
      schedulerHistory [action] ++ schedulerHistory rest := by
  rw [schedulerHistory, ← List.filterMap_append]
  rfl

theorem LoopsTo.run
    {allowed : State config slots → Action config slots → Prop}
    (dispatches :
      ∀ state action, allowed state action → Dispatches state action)
    {start current final : State config slots}
    {now : Time}
    {history : List SchedulerAction}
    {actions : List (Action config slots)}
    (loops : LoopsTo start now history current)
    (run : Run externals allowed current actions final) :
    LoopsTo start now (history ++ schedulerHistory actions) final := by
  induction run generalizing history with
  | nil state =>
      rw [show schedulerHistory ([] : List (Action config slots)) = []
        from rfl, List.append_nil]
      exact loops
  | @cons _ _ _ action rest permitted taken _ inductionHypothesis =>
      have later :=
        inductionHypothesis (loops.step (dispatches _ _ permitted) taken)
      rwa [List.append_assoc, ← schedulerHistory_cons] at later

/-- The scheduler is back in `select!`. -/
def Returned (state : State config slots) : Prop :=
  ∃ wakeAt, state.scheduler.position = .waiting wakeAt

theorem LoopsTo.outcome
    {start final : State config slots}
    {now : Time}
    {history : List SchedulerAction}
    (loops : LoopsTo start now history final)
    (returned : final.Returned) :
    DispatchOutcome config (decide start.ChannelClosed) start.toShared
      start.scheduler.heap now history final.toShared
      final.scheduler.heap := by
  obtain ⟨wakeAt, waiting⟩ := returned
  have loop := loops.loop
  have isTask :
      final.scheduler =
        { heap := final.scheduler.heap, position := .waiting wakeAt } := by
    rw [← waiting]
  rw [isTask] at loop
  cases loop with
  | returned _ outcome =>
      exact outcome

end State

end Kronkeeper
