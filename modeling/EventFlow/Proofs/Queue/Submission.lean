import EventFlow.Proofs.Queue.Phase

/-!
# Submitting a request

With a queue a request for an enabled flow is never executed at once: it is pushed as a
job under a fresh id.  The store is only read, so that nothing tells that the request was
taken until a worker runs the job.
-/

namespace EventFlow.QueueManager

open Program Shared

variable {manager : QueueManager} {request : FlowRequest} {s t : Shared}

/-- A push that the queue takes is not tried again. -/
theorem runs_push {r : Except QueueError ExecutionId}
    (ran : Runs answering (manager.push request) s r t) :
    ∃ id now, id.isBlank = false ∧ r = .ok id ∧
      t = { s with queue := (s.queue.push (EnqueuePhase.jobFor manager request id now)).2 } := by
  simp only [push, Service.freshId_bind, Service.now_bind] at ran
  rcases runs_ask_iff.mp ran with ⟨id, _, ⟨named, rfl⟩, dating⟩
  rcases runs_ask_iff.mp dating with ⟨now, _, rfl, pushing⟩
  rw [EventFlow.retry, retryFrom.eq_def, bind_assoc] at pushing
  rcases runs_ask_iff.mp pushing with ⟨_, _, ⟨_, rfl, rfl⟩, ended⟩
  rcases runs_done_iff.mp ended with ⟨rfl, rfl⟩
  exact ⟨id, now, named, rfl, rfl⟩

/-- A request whose flow is there and switched on is queued. -/
theorem runs_submit_of_enabled (enabled : manager.enabled = true) {flow : Flow}
    (found : s.store.getFlow request.flowId = some flow) (switchedOn : flow.enabled = true)
    {r : Except EngineError Submission} (ran : Runs answering (manager.submit request) s r t) :
    ∃ id now, id.isBlank = false ∧ r = .ok (.queued id) ∧
      t = { s with queue := (s.queue.push (EnqueuePhase.jobFor manager request id now)).2 } := by
  simp only [submit, enqueue, enabled, if_true, Service.store_bind] at ran
  rcases runs_ask_iff.mp ran with ⟨_, _, ⟨_, rfl, rfl⟩, looked⟩
  simp only [Store.answer, found, switchedOn, if_true] at looked
  rcases runs_bind_iff.mp looked with ⟨_, _, pushing, ended⟩
  rcases runs_push pushing with ⟨id, now, named, rfl, rfl⟩
  rcases runs_done_iff.mp ended with ⟨rfl, rfl⟩
  exact ⟨id, now, named, rfl, rfl⟩

/-- What is queued is one job for the request. -/
theorem runs_enqueue_of_ok {id : ExecutionId}
    (ran : Runs answering (manager.enqueue request) s (.ok id) t) :
    id.isBlank = false ∧ ∃ now, t = { s with
      queue := (s.queue.push (EnqueuePhase.jobFor manager request id now)).2 } := by
  by_cases enabled : manager.enabled = true
  · simp only [enqueue, enabled, if_true, Service.store_bind] at ran
    rcases runs_ask_iff.mp ran with ⟨_, _, ⟨_, rfl, rfl⟩, looked⟩
    simp only [Store.answer] at looked
    cases found : s.store.getFlow request.flowId with
    | none =>
        rw [found] at looked
        cases (runs_done_iff.mp looked).1
    | some flow =>
        by_cases switchedOn : flow.enabled = true
        · simp only [found, switchedOn, if_true] at looked
          rcases runs_push looked with ⟨_, now, named, same, pushed⟩
          cases same
          exact ⟨named, now, pushed⟩
        · simp only [found, switchedOn] at looked
          cases (runs_done_iff.mp looked).1
  · simp only [enqueue, enabled] at ran
    cases (runs_done_iff.mp ran).1

/-- A request that is taken as queued has been queued. -/
theorem runs_submit_of_queued {id : ExecutionId}
    (ran : Runs answering (manager.submit request) s (.ok (.queued id)) t) :
    id.isBlank = false ∧ ∃ now, t = { s with
      queue := (s.queue.push (EnqueuePhase.jobFor manager request id now)).2 } := by
  rw [submit] at ran
  rcases runs_bind_iff.mp ran with ⟨queued, u, enqueuing, ended⟩
  cases queued with
  | ok given =>
      rcases runs_done_iff.mp ended with ⟨same, rfl⟩
      cases same
      exact runs_enqueue_of_ok enqueuing
  | error e =>
      -- The request has been executed at once, which is told otherwise.
      rcases runs_bind_iff.mp ended with ⟨executed, _, _, told⟩
      cases executed <;> cases (runs_done_iff.mp told).1

/-- Only with a queue a request is queued. -/
theorem enabled_of_runs_submit {S : Type} {answers : Answering service S} {u v : S}
    {id : ExecutionId} (ran : Runs answers (manager.submit request) u (.ok (.queued id)) v) :
    manager.enabled = true := by
  by_contra disabled
  rw [submit] at ran
  rcases runs_bind_iff.mp ran with ⟨queued, _, enqueuing, ended⟩
  simp only [enqueue, disabled] at enqueuing
  obtain ⟨rfl, _⟩ := runs_done_iff.mp enqueuing
  rcases runs_bind_iff.mp ended with ⟨executed, _, _, told⟩
  cases executed <;> cases (runs_done_iff.mp told).1

end EventFlow.QueueManager
