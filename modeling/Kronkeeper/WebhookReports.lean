import Kronkeeper.DerivedKeys
import Kronkeeper.WebhookDelivery

namespace Kronkeeper

/-!
# What a webhook reports

`emit` builds the body of its POST from one read of the row and posts it as
often as the loop goes round.  Whatever the other tasks do meanwhile, the body
is the row as that read found it, in a terminal state, and the URL is the one
its row was inserted with.
-/

/-- A POST that a worker is about to make, and the id `emit` was called with. -/
structure Post where
  jobId : Uuid
  body : Job
  url : String
  deriving Repr, DecidableEq

namespace WorkerTask

/-- The POST a worker is about to make. -/
def posting? : WorkerTask → Option Post
  | .emitting job (.post body url _) => some ⟨job.id, body, url⟩
  | _ => none

/-- What `emit` requires of the row it has read before it posts. -/
structure Loads
    (shared : Shared)
    (task : WorkerTask)
    (action : WorkerAction)
    (post : Post) : Prop where
  called : ∃ job, task = .emitting job .loadJob ∧ job.id = post.jobId
  replied : action = .emit .ok
  found :
    JobRepository.getJobByIdInternal shared.jobs post.jobId =
      some post.body
  terminal : post.body.state.isTerminal = true
  hasUrl : post.body.webhookUrl = some post.url

end WorkerTask

theorem WebhookEmitter.eq_of_attempt
    {config : Config}
    {job body : Job}
    {url target : String}
    {attempts attempt : Int}
    (posts :
      WebhookEmitter.attempt config job url attempts =
        .next (.post body target attempt)) :
    job = body ∧ url = target := by
  unfold WebhookEmitter.attempt at posts
  split at posts <;> cases posts
  exact ⟨rfl, rfl⟩

/-- A POST is planned for a row in a terminal state, to its own URL. -/
theorem WebhookEmitter.row_of_planDelivery
    {config : Config}
    {read : Option Job}
    {body : Job}
    {url : String}
    {attempts : Int}
    (posts :
      WebhookEmitter.planDelivery config read =
        .next (.post body url attempts)) :
    read = some body ∧
      body.state.isTerminal = true ∧
      body.webhookUrl = some url := by
  unfold WebhookEmitter.planDelivery at posts
  split at posts
  · cases posts
  · rename_i job
    split at posts
    · cases posts
    · rename_i terminal
      split at posts
      · cases posts
      · rename_i target isUrl
        obtain ⟨rfl, rfl⟩ := WebhookEmitter.eq_of_attempt posts
        exact ⟨rfl, by simpa using terminal, isUrl⟩

/-- A later POST of the loop is like the first one. -/
theorem WebhookEmitter.eq_of_afterPost
    {config : Config}
    {job body : Job}
    {url target : String}
    {attempts attempt : Int}
    {delivered : Bool}
    (posts :
      WebhookEmitter.afterPost config job url attempts delivered =
        .next (.post body target attempt)) :
    job = body ∧ url = target := by
  cases delivered with
  | true =>
      cases posts
  | false =>
      exact WebhookEmitter.eq_of_attempt posts

namespace WorkerTask

theorem next_of_afterEmit
    {job other : Job}
    {progress : EmitProgress}
    {call : EmitCall}
    (same : afterEmit job progress = .emitting other call) :
    progress = .next call := by
  cases progress <;> cases same
  rfl

@[simp] theorem posting?_afterSettle
    (job : Job)
    (disposition : Disposition) :
    (afterSettle job disposition).posting? = none := by
  cases disposition <;> try rfl
  unfold afterSettle
  cases job.parentJobId <;> rfl

/-- A worker posts on what it has just read or goes on with what it had. -/
theorem posting?_of_step?
    {config : Config}
    {externals : Externals}
    {shared after : Shared}
    {task next : WorkerTask}
    {action : WorkerAction}
    (taken :
      task.step? config externals shared action = some (after, next))
    {post : Post}
    (posting : next.posting? = some post) :
    task.posting? = some post ∨ Loads shared task action post := by
  have moved := move_of_step? taken
  cases moved with
  | emit job call reply progress =>
      rcases progress with (_ | ⟨body, url, attempts⟩ | _) | _ <;>
        cases posting
      cases call with
      | loadJob =>
          cases reply with
          | ok =>
              simp only [step?, Option.some.injEq, Prod.mk.injEq,
                true_and] at taken
              obtain ⟨found, terminal, hasUrl⟩ :=
                WebhookEmitter.row_of_planDelivery
                  (next_of_afterEmit taken)
              exact Or.inr ⟨⟨job, rfl, rfl⟩, rfl, found, terminal, hasUrl⟩
          | _ =>
              cases taken
      | post first target already =>
          cases taken
      | recordResult success already =>
          cases reply <;> simp [step?, afterEmit] at taken
  | post job call delivered progress =>
      rcases progress with (_ | ⟨body, url, attempts⟩ | _) | _ <;>
        cases posting
      cases call with
      | post first target already =>
          simp only [step?, Option.some.injEq, Prod.mk.injEq,
            true_and] at taken
          obtain ⟨rfl, rfl⟩ :=
            WebhookEmitter.eq_of_afterPost (next_of_afterEmit taken)
          exact Or.inl rfl
      | _ =>
          cases taken
  | settle job result now disposition =>
      rw [posting?_afterSettle] at posting
      cases posting
  | spawn job call reply after progress =>
      rcases progress with _ | _ | _ <;> cases posting
  | _ =>
      cases posting

end WorkerTask

namespace State

variable {config : Config} {slots : Nat}
variable {externals : Externals}
variable {state after : State config slots}
variable {action : Action config slots}

/--
Whatever a worker posts, in any run, is the row of the job `emit` was called
for, in a terminal state, as the same call of `emit` has read it; and the URL is
the one with which some step of the run inserted that row.
-/
theorem posts_report_the_row
    {clock : Time}
    {actions : List (Action config slots)}
    (run :
      Run externals TransitionSystem.Unrestricted
        (initial config slots clock) actions state)
    {worker : Fin config.workerCount}
    {post : Post}
    (posting : (state.workers worker).posting? = some post) :
    (∃ leading trailing before after,
        actions = leading ++ .worker worker (.emit .ok) :: trailing ∧
          Run externals TransitionSystem.Unrestricted
            (initial config slots clock) leading before ∧
          step? externals before (.worker worker (.emit .ok)) =
            some after ∧
          (∃ job,
            before.workers worker = .emitting job .loadJob ∧
              job.id = post.jobId) ∧
          JobRepository.getJobByIdInternal before.jobs post.jobId =
            some post.body ∧
          post.body.state.isTerminal = true ∧
          -- From the read on the worker posts for this call.
          (after.workers worker).posting? = some post ∧
          Run externals
            (fun between _ =>
              (between.workers worker).posting? = some post)
            after trailing state) ∧
      TransitionSystem.Passes (step? externals)
        TransitionSystem.Unrestricted
        (fun before action _ =>
          ∃ original,
            before.Inserts externals action original ∧
              original.identity = post.body.identity ∧
              original.webhookUrl = some post.url)
        (initial config slots clock) actions state := by
  rcases run.holds_since
      (fun state => (state.workers worker).posting? = some post)
      posting with
    allAlong |
    ⟨leading, action, trailing, before, after, split, toBefore, taken,
      notYet, now, since⟩
  · -- No worker posts at the start.
    cases allAlong with
    | nil state =>
        cases posting
    | cons both _ _ =>
        cases both.2
  have loads :
      ∃ workerAction,
        action = .worker worker workerAction ∧
          (before.workers worker).Loads before.toShared workerAction
            post := by
    cases workerStep_of_step? taken worker with
    | kept same =>
        exact (notYet (same ▸ now)).elim
    | idle notified isIdle =>
        rw [isIdle] at now
        cases now
    | moved workerAction shared isWorker moved =>
        subst isWorker
        obtain ⟨_, workerTaken⟩ := workerTaken_of_step? taken
        rcases WorkerTask.posting?_of_step? workerTaken now with
          already | loads
        · exact (notYet already).elim
        · exact ⟨workerAction, rfl, loads⟩
  obtain ⟨workerAction, rfl, loads⟩ := loads
  obtain rfl := loads.replied
  obtain ⟨member, _⟩ := RecordTable.find?_eq_some_iff.mp loads.found
  have known : state.jobs.Knows post.body.identity :=
    ((RecordTable.Knows.of_mem member).grow
      (extends_of_step? taken)).grow (extends_of_run since)
  obtain ⟨row, rowMember, same⟩ := known
  constructor
  · exact ⟨leading, trailing, before, after, split, toBefore, taken,
      loads.called, loads.found, loads.terminal, now,
      since.mono fun _ _ both => both.2⟩
  · obtain ⟨earlier, insertion, rest, source, target, splitAt, toSource,
      inserted, onward, original, _, identity, _, inserts⟩ :=
      inserts_of_mem run rowMember
    refine ⟨earlier, insertion, rest, source, target, splitAt, toSource,
      inserted, onward, original, inserts, identity.trans same, ?_⟩
    exact (congrArg JobIdentity.webhookUrl (identity.trans same)).trans
      loads.hasUrl

end State

/-! ## A concrete run -/

namespace Sample

/-- Job 1 completes, and its webhook is about to be posted once more. -/
def postTwice : List (Action config 1) :=
  sendWithWebhook ++ begin 0 ++
  [ .worker 0 (.execute succeeds),
    .worker 0 (.settle .ok),
    .worker 0 (.emit .ok),
    .worker 0 (.posted false) ]

/-- The second POST still has the row that was read before the first one. -/
theorem second_post_reports_the_row :
    ∃ (final : State config 1) (post : Post),
      (final.workers 0).posting? = some post ∧
        post.url = "https://example.com" ∧
        ∃ leading trailing before,
          postTwice = leading ++ .worker 0 (.emit .ok) :: trailing ∧
            State.Run externals TransitionSystem.Unrestricted
              (State.initial config 1 0) leading before ∧
            JobRepository.getJobByIdInternal before.jobs post.jobId =
              some post.body := by
  obtain ⟨final, run, posts⟩ :=
    TransitionSystem.exists_run_of_replay?
      (State.step? externals) TransitionSystem.Unrestricted
      (State.initial config 1 0) postTwice
      (fun final =>
        (final.workers 0).posting?.map Post.url =
          some "https://example.com")
      (by decide)
  obtain ⟨post, posting, isUrl⟩ := Option.map_eq_some_iff.mp posts
  obtain ⟨⟨leading, trailing, before, after, split, toBefore, _, _, found,
    _⟩, _⟩ :=
    State.posts_report_the_row run posting
  exact ⟨final, post, posting, isUrl, leading, trailing, before, split,
    toBefore, found⟩

end Sample

end Kronkeeper
