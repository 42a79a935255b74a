import EventFlow.Proofs.Engine.Alone
import EventFlow.Proofs.Engine.Log

/-!
# Replaying a run

The variables of an execution, the parameters with which its rules were called and
its result can all be found out again from the jobs that its run has recorded.
-/

namespace EventFlow

open Program

/-- The variables of a request when the results of some jobs have been put into them. -/
def FlowRequest.gather (request : FlowRequest) (jobs : List Job) : Bag :=
  EventFlow.gather
    (initialVariables request.payload request.triggerType request.triggerId) jobs

namespace Engine

/-- The log of a run that opens an execution is a record of all that the run has done:
its jobs are those that were added, its calls those that were made; every entry is that
of a stored node which was run on the results of the jobs before it; and the jobs tell
the result of the run and the variables of its row. -/
structure Replays (engine : Engine) (flow : Flow) (id : ExecutionId) (request : FlowRequest)
    (s t : Watched) (log : List LogEntry) (result : Except EngineError ExecutionId) : Prop where
  jobs : t.state.store.jobs = s.state.store.jobs ++ log.map (·.job)
  calls : t.notes = s.notes ++ log.flatMap (·.calls)
  logged : ∀ front entry back, log = front ++ entry :: back →
    ∃ node ∈ s.state.store.listNodes request.flowId,
      (engine.runOf flow id).Logs node (request.gather (front.map (·.job))) entry
  called : ∀ front entry back, log = front ++ entry :: back → ∀ call ∈ entry.calls,
    call.params = engine.renderer.params (request.gather (front.map (·.job))) entry.job.params ∧
      entry.job.nodeType.request? (request.gather (front.map (·.job))) = some call.request
  tell : JobsTell (log.map (·.job)) result
  row : ∃ row, t.state.store.getExecution id = some row ∧
    ((∀ message, result ≠ .error (.panicked message)) → row.vars = request.gather (log.map (·.job)))

theorem Course.replays {engine : Engine} {id : ExecutionId} {request : FlowRequest}
    {s t : Watched} {flow : Flow} {log : List LogEntry} {progress : Run.Progress}
    (course : Course engine id request s t flow log progress)
    (named : s.state.store.NodesNamed) :
    Replays engine flow id request s t log ((resultOf progress.2).map fun _ => id) := by
  have journal := course.journal named
  rcases course.left with ⟨executions, rfl⟩
  rcases course.closed with ⟨opened, final, stored, vars⟩
  refine ⟨rfl, rfl, fun _ _ _ split => journal.logs_of_mem split, ?_, journal.tell.map _,
    final, stored, ?_⟩
  · intro front entry back split call callMem
    rcases journal.logs_of_mem split with ⟨node, _, logs⟩
    rw [logs.isOf.params, logs.isOf.nodeType]
    exact logs.performed.of_mem_calls callMem
  · intro unbroken
    rw [vars, finalVars_of_unbroken, journal.gathered]
    · rfl
    · intro message broke
      apply unbroken message
      rw [broke]
      rfl

/-- Executing a flow alone comes to an end.  Either the request is refused, which
changes nothing and calls no rule, or the jobs that have been added are a faithful log
of the run. -/
theorem execute_replays (engine : Engine) (given : Option ExecutionId) (request : FlowRequest)
    (s : Shared) (reachable : s.store.Reachable) :
    (∃ result t calls, Runs watching (engine.execute given request) ⟨s, []⟩ result ⟨t, calls⟩) ∧
    ∀ result t calls,
      Runs watching (engine.execute given request) ⟨s, []⟩ result ⟨t, calls⟩ →
      ∃ id, id.isBlank = false ∧
        (∀ named, given = some named → named.isBlank = false → id = named) ∧
        ((∃ e, result = .error e ∧ Refuses s.store id request e ∧ t = s ∧ calls = []) ∨
          ∃ flow log, s.store.getFlow request.flowId = some flow ∧
            Replays engine flow id request ⟨s, []⟩ ⟨t, calls⟩ log result) := by
  constructor
  · rcases Shared.exists_runs (engine.execute given request) s with ⟨result, t, ran⟩
    rcases exists_watched ran with ⟨calls, watched⟩
    exact ⟨result, t, calls, watched⟩
  · intro result t calls ran
    rcases runs_execute ran with ⟨id, notBlank, given_eq, ran⟩
    refine ⟨id, notBlank, given_eq, ?_⟩
    rcases runs_executeUnder reachable.wellFormed ran with
      ⟨e, rfl, refuses, same⟩ | ⟨flow, log, progress, course, rfl⟩
    · cases same
      exact .inl ⟨e, rfl, refuses, rfl, rfl⟩
    · exact .inr ⟨flow, log, course.found, course.replays reachable.nodesNamed⟩

/-- A request for the execution that the store of one flow holds. -/
def greetingRequest : FlowRequest := ⟨⟨1⟩, "dev|ping", "event", []⟩

/-- A run of that execution. -/
def greetingRun : Except EngineError ExecutionId × Watched :=
  ((Engine.create Bot.Dev.registry .default).execute (some ⟨"run"⟩) greetingRequest).run
    (watchAt (.ofMilliseconds 7)) ⟨⟨greetingStore, .empty⟩, []⟩

/-- A run that succeeds leaves its execution with the variables that its jobs tell. -/
theorem execute_replays_greeting :
    greetingStore.Reachable ∧ ∃ t calls,
      Runs watching ((Engine.create Bot.Dev.registry .default).execute (some ⟨"run"⟩)
        greetingRequest) ⟨⟨greetingStore, .empty⟩, []⟩ (.ok ⟨"run"⟩) ⟨t, calls⟩ ∧
      AllSucceeded t.store.jobs ∧ ∃ row, t.store.getExecution ⟨"run"⟩ = some row ∧
        row.vars = greetingRequest.gather t.store.jobs := by
  have reachable : greetingStore.Reachable :=
    .answer (.answer (.answer .empty _ _) _ _) _ _
  have ran : Runs watching _ _ greetingRun.1 greetingRun.2 := runs_run (watching_watchAt _) _ _
  have succeeded : greetingRun.1 = .ok ⟨"run"⟩ := by decide +kernel
  rw [succeeded] at ran
  rcases (execute_replays _ _ _ _ reachable).2 _ _ _ ran with ⟨id, _, given_eq, came⟩
  obtain rfl := given_eq ⟨"run"⟩ rfl (by decide +kernel)
  rcases came with ⟨e, rejected, _⟩ | ⟨flow, log, _, replays⟩
  · contradiction
  · rcases replays.row with ⟨row, stored, vars⟩
    have jobs : greetingRun.2.state.store.jobs = log.map (·.job) := replays.jobs
    refine ⟨reachable, greetingRun.2.state, greetingRun.2.notes, ran, ?_, row, stored, ?_⟩
    · rw [jobs]
      exact replays.tell
    · rw [jobs]
      exact vars (by simp)

end Engine

end EventFlow
