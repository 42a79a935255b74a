import EventFlow.Proofs.Engine.Repetition
import EventFlow.Proofs.Engine.Replay
import EventFlow.Proofs.Queue.Processing
import EventFlow.Proofs.Queue.Submission

/-!
# Delivering an event

An event is executed at once, or it is queued and executed by a worker later on, and it may
be delivered again under the id that it had.  When what the rules reply is determined by the
calls of a run, all deliveries come to the same.
-/

namespace EventFlow

open Program

namespace Attempt

variable {manager : QueueManager} {replies : Replies} {request : FlowRequest}
  {before after : Shared} {calls : List RuleCall}

/-- Processing a job of the queue is executing its flow under its id. -/
theorem exists_executes_of_processed (wellFormed : before.store.WellFormed)
    (queue : before.queue.Reachable) {job : QueueJob} (waiting : job ∈ before.queue.jobs)
    (named : job.executionId.isBlank = false) {processed : Except QueueError Bool}
    (ran : Runs replies.answering manager.processNext ⟨before, []⟩ processed ⟨after, calls⟩)
    (taken : job ∉ after.queue.jobs) :
    ∃ claimed done outcome,
      Executes ⟨job.executionId, { before with queue := claimed }, done, calls, outcome⟩
        manager.engine replies job.args ∧
      after.store = done.store := by
  rcases QueueManager.runs_processNext_of_taken replies.narrows queue.numbered waiting ran taken
    with ⟨outcome, claimed, done, executing, queue, left⟩
  cases left
  exact ⟨claimed, done.state, outcome, ⟨wellFormed, named, executing⟩, rfl⟩

/-- Processing the job of an event is like executing the event at once. -/
theorem alike_of_processed (wellFormed : before.store.WellFormed)
    (queue : before.queue.Reachable) {job : QueueJob} (waiting : job ∈ before.queue.jobs)
    (named : job.executionId.isBlank = false)
    (accepts : before.store.Accepts job.args.flowId job.executionId)
    {processed : Except QueueError Bool}
    (ran : Runs replies.answering manager.processNext ⟨before, []⟩ processed ⟨after, calls⟩)
    (taken : job ∉ after.queue.jobs) {start stop : Shared} {others : List RuleCall}
    {result : Except EngineError ExecutionId} (startWellFormed : start.store.WellFormed)
    (same : before.store.SameFlow job.args.flowId start.store)
    (atOnce : Runs replies.answering (manager.engine.execute none job.args) ⟨start, []⟩ result
      ⟨stop, others⟩) :
    ∃ id, start.store.getExecution id = none ∧
      Alike ⟨job.executionId, before, after, calls, result.map fun _ => job.executionId⟩
        ⟨id, start, stop, others, result⟩ := by
  rcases exists_executes_of_processed wellFormed queue waiting named ran taken with
    ⟨claimed, done, outcome, executes, left⟩
  rcases exists_executes_of_runs startWellFormed atOnce with ⟨id, inline, _, given | free⟩
  · contradiction
  have accepted : start.store.Accepts job.args.flowId id := by
    have unused : start.store.getExecution id = none := free
    simp [Store.Accepts, unused]
  have alike := executes.alike inline accepts accepted same
  have outcome_eq : outcome = result.map fun _ => job.executionId :=
    executes.result_of_alike alike
  refine ⟨id, free, ?_⟩
  rw [← outcome_eq]
  exact alike.of_same_store rfl left

end Attempt

/-- The job that a submission has queued stands for the request. -/
theorem QueueManager.job_of_submit {manager : QueueManager} {request : FlowRequest}
    {s t : Shared} {id : ExecutionId}
    (ran : Runs Shared.answering (manager.submit request) s (.ok (.queued id)) t) {job : QueueJob}
    (queued : job ∈ t.queue.jobs) (new : job ∉ s.queue.jobs) :
    id.isBlank = false ∧ job.executionId = id ∧ job.args = request := by
  rcases runs_submit_of_queued ran with ⟨named, now, rfl⟩
  rcases QueueTable.mem_push.mp queued with old | rfl
  · exact absurd old new
  · exact ⟨named, rfl, rfl⟩

/-- When what the rules reply is determined by the calls of a run, what comes of an event depends
on the rows of its flow and on the event only.  Two executions are alike: they return the same,
call the same rules with the same arguments, and leave rows that differ in ids and times only.
An execution that is repeated under its id writes its row again.  And an event that is queued
and processed by a worker once, as it can be when its job is the oldest that waits, ends as if it
had been executed at once. -/
theorem executions_alike (manager : QueueManager) (replies : Replies) (request : FlowRequest) :
    (∀ given s, ∃ result t,
      Runs replies.answering (manager.engine.execute given request) s result t) ∧
    (∀ first second : Attempt, first.Executes manager.engine replies request →
      second.Executes manager.engine replies request →
      first.before.store.Accepts request.flowId first.id →
      second.before.store.Accepts request.flowId second.id →
      first.before.store.SameFlow request.flowId second.before.store → first.Alike second) ∧
    (∀ first again : Attempt, first.Executes manager.engine replies request →
      again.Executes manager.engine replies request → again.id = first.id →
      first.after.store.SameFlow request.flowId again.before.store →
      again.before.store.getExecution first.id = first.after.store.getExecution first.id →
      again.result = first.result ∧
        ∀ row, first.after.store.getExecution first.id = some row →
          ∃ rewritten, again.after.store.getExecution first.id = some rewritten ∧
            row.SameButEnd rewritten) ∧
    ∀ (s t : Watched) (id : ExecutionId),
      Runs replies.answering (manager.submit request) s (.ok (.queued id)) t →
      ∀ job ∈ t.state.queue.jobs, job ∉ s.state.queue.jobs →
      (∀ before : Shared, before.queue.Reachable → before.queue.Foremost job →
        ∃ (processed : Except QueueError Bool) (after : Shared) (calls : List RuleCall),
          Runs replies.answering manager.processNext ⟨before, []⟩ processed ⟨after, calls⟩ ∧
          job ∉ after.queue.jobs) ∧
      ∀ (before after : Shared) (calls : List RuleCall) (processed : Except QueueError Bool),
        before.store.WellFormed → before.queue.Reachable →
        before.store.Accepts request.flowId id → job ∈ before.queue.jobs →
        Runs replies.answering manager.processNext ⟨before, []⟩ processed ⟨after, calls⟩ →
        job ∉ after.queue.jobs →
        ∀ (start stop : Shared) (others : List RuleCall) (result : Except EngineError ExecutionId),
          start.store.WellFormed → before.store.SameFlow request.flowId start.store →
          Runs replies.answering (manager.engine.execute none request) ⟨start, []⟩ result
            ⟨stop, others⟩ →
          ∃ fresh, start.store.getExecution fresh = none ∧
            Attempt.Alike ⟨id, before, after, calls, result.map fun _ => id⟩
              ⟨fresh, start, stop, others, result⟩ := by
  refine ⟨fun given s => replies.exists_runs _ s, ?_, ?_, ?_⟩
  · intro first second executes otherExecutes accepts otherAccepts same
    exact executes.alike otherExecutes accepts otherAccepts same
  · intro first again executes repeats sameId same sameRow
    exact executes.again repeats sameId same sameRow
  · intro s t id submitted job queued new
    refine ⟨fun before queue foremost => ?_, ?_⟩
    · have enabled := QueueManager.enabled_of_runs_submit submitted
      rcases QueueManager.exists_runs_processNext (s := ⟨before, []⟩) replies enabled queue.numbered
        foremost with ⟨processed, ⟨after, calls⟩, ran, taken⟩
      exact ⟨processed, after, calls, ran, taken⟩
    intro before after calls processed wellFormed queue accepts waiting ran taken start stop others
      result startWellFormed same atOnce
    rcases QueueManager.job_of_submit (replies.narrows.runs submitted).unwatched queued new with
      ⟨named, rfl, rfl⟩
    exact Attempt.alike_of_processed wellFormed queue waiting named accepts ran taken
      startWellFormed same atOnce

namespace Greeting

/-- Rules of which none replies in time. -/
def replies : Replies := fun _ _ => .expired

/-- The store of one flow, and no jobs. -/
def start : Shared := ⟨Engine.greetingStore, .empty⟩

/-- An execution of the flow under an id. -/
def attempt (id : ExecutionId) (now : Instant) (before : Shared) : Attempt :=
  let ran := (FirstJob.manager.engine.execute (some id) Engine.greetingRequest).run
    (replies.answerAt now) ⟨before, []⟩
  ⟨id, before, ran.2.state, ran.2.notes, ran.1⟩

/-- The execution that is stored already. -/
def first : Attempt := attempt ⟨"run"⟩ (.ofMilliseconds 7) start

/-- The request is queued. -/
def submitted : Except EngineError Submission × Watched :=
  (FirstJob.manager.submit Engine.greetingRequest).run (replies.answerAt (.ofMilliseconds 7))
    ⟨start, []⟩

/-- The request is executed by a worker. -/
def processed : Except QueueError Bool × Watched :=
  FirstJob.manager.processNext.run (replies.answerAt (.ofMilliseconds 9)) ⟨submitted.2.state, []⟩

/-- The request is executed at once. -/
def atOnce : Except EngineError ExecutionId × Watched :=
  (FirstJob.manager.engine.execute none Engine.greetingRequest).run
    (replies.answerAt (.ofMilliseconds 7)) ⟨start, []⟩

theorem start_wellFormed : start.store.WellFormed :=
  (Store.Reachable.answer (.answer (.answer .empty _ _) _ _) _ _).wellFormed

theorem executes {id : ExecutionId} {now : Instant} {before : Shared}
    (wellFormed : before.store.WellFormed) (named : id.isBlank = false) :
    (attempt id now before).Executes FirstJob.manager.engine replies Engine.greetingRequest :=
  ⟨wellFormed, named, runs_run (replies.answering_answerAt now) _ _⟩

theorem first_executes : first.Executes FirstJob.manager.engine replies Engine.greetingRequest :=
  executes start_wellFormed (by decide +kernel)

theorem submits : Runs replies.answering (FirstJob.manager.submit Engine.greetingRequest)
    ⟨start, []⟩ (.ok (.queued ⟨"xxxx"⟩)) submitted.2 := by
  have ran : Runs replies.answering _ ⟨start, []⟩ submitted.1 submitted.2 :=
    runs_run (replies.answering_answerAt _) _ _
  have queued : submitted.1 = .ok (.queued ⟨"xxxx"⟩) := by decide +kernel
  rwa [queued] at ran

/-- The submission has changed the queue only. -/
theorem submitted_tables : submitted.2.state.store = start.store ∧
    submitted.2.state.queue.Reachable := by
  rcases QueueManager.runs_submit_of_queued (replies.narrows.runs submits).unwatched with
    ⟨_, now, left⟩
  rw [left]
  exact ⟨rfl, .answer .empty now (.push _)⟩

/-- There is one job, and it has been completed. -/
theorem exists_job_taken :
    ∃ job ∈ submitted.2.state.queue.jobs, job ∉ processed.2.state.queue.jobs := by
  have pending : submitted.2.state.queue.jobs.map (·.status) = [.pending] := by decide +kernel
  have completed : processed.2.state.queue.jobs.map (·.status) = [.completed] := by decide +kernel
  rcases List.map_eq_singleton_iff.mp pending with ⟨job, jobs, waiting⟩
  refine ⟨job, by simp [jobs], fun stays => ?_⟩
  have status := List.mem_map_of_mem (f := (·.status)) stays
  rw [completed, waiting] at status
  contradiction

end Greeting

/-- An execution that is stored already is like one under a new id, is executed again as it has
been executed, and what is queued ends like what is executed at once. -/
theorem executions_alike_greeting :
    Greeting.first.result = .ok ⟨"run"⟩ ∧
      Greeting.first.Alike (Greeting.attempt ⟨"other"⟩ (.ofMilliseconds 8) Greeting.start) ∧
      (Greeting.attempt ⟨"run"⟩ (.ofMilliseconds 9) Greeting.first.after).result =
        Greeting.first.result ∧
      ∃ fresh, Attempt.Alike
        ⟨⟨"xxxx"⟩, Greeting.submitted.2.state, Greeting.processed.2.state,
          Greeting.processed.2.notes, Greeting.atOnce.1.map fun _ => ⟨"xxxx"⟩⟩
        ⟨fresh, Greeting.start, Greeting.atOnce.2.state, Greeting.atOnce.2.notes,
          Greeting.atOnce.1⟩ := by
  rcases executions_alike FirstJob.manager Greeting.replies Engine.greetingRequest with
    ⟨_, alike, again, processed⟩
  have wellFormed := Greeting.start_wellFormed
  have first := Greeting.first_executes
  have stillWellFormed : Greeting.first.after.store.WellFormed :=
    (Greeting.replies.narrows.runs first.ran).wellFormed wellFormed
  refine ⟨by decide +kernel, ?_, ?_, ?_⟩
  · apply alike _ _ first
    · exact Greeting.executes wellFormed (by decide +kernel)
    · have accepts : Greeting.start.store.Accepts ⟨1⟩ ⟨"run"⟩ := by decide +kernel
      exact accepts
    · have accepts : Greeting.start.store.Accepts ⟨1⟩ ⟨"other"⟩ := by decide +kernel
      exact accepts
    · exact ⟨rfl, rfl, rfl⟩
  · apply And.left
    apply again _ _ first
    · exact Greeting.executes stillWellFormed (by decide +kernel)
    · rfl
    · exact ⟨rfl, rfl, rfl⟩
    · rfl
  · have processing : Runs Greeting.replies.answering _ ⟨Greeting.submitted.2.state, []⟩
        Greeting.processed.1 Greeting.processed.2 :=
      runs_run (Greeting.replies.answering_answerAt _) _ _
    have executing : Runs Greeting.replies.answering _ ⟨Greeting.start, []⟩ Greeting.atOnce.1
        Greeting.atOnce.2 := runs_run (Greeting.replies.answering_answerAt _) _ _
    rcases Greeting.submitted_tables with ⟨sameStore, queue⟩
    rcases Greeting.exists_job_taken with ⟨job, waiting, taken⟩
    have accepts : Greeting.start.store.Accepts ⟨1⟩ ⟨"xxxx"⟩ := by decide +kernel
    rcases (processed _ _ _ Greeting.submits job waiting List.not_mem_nil).2 _ _ _ _
      (sameStore ▸ wellFormed) queue (sameStore ▸ accepts) waiting processing taken _ _ _ _
      wellFormed (sameStore ▸ ⟨rfl, rfl, rfl⟩) executing with ⟨fresh, _, alike⟩
    exact ⟨fresh, alike⟩

end EventFlow
