import EventFlow.Proofs.Engine.Alone
import EventFlow.Proofs.Queue.Phase
import EventFlow.Proofs.Undisturbed

/-!
# What requests come to

When nothing disturbs, a request for a flow that is switched on becomes one job that waits with
it.  Without a queue it is executed at once, under an id that no execution has had.  So when
requests are submitted one after the other, there are as many jobs behind it, in the same order;
or as many executions have been tried, one after the other.
-/

namespace EventFlow

open Program Shared

/-! ## Executing in turn -/

/-- Nothing has changed but rows of nodes, and what calls have been noted. -/
structure SameButNodes (s t : Watched) : Prop where
  queue : t.state.queue = s.state.queue
  store : t.state.store = { s.state.store with nodes := t.state.store.nodes }

namespace SameButNodes

variable {s t u : Watched}

theorem refl (s : Watched) : SameButNodes s s :=
  ⟨rfl, rfl⟩

theorem trans (first : SameButNodes s t) (second : SameButNodes t u) : SameButNodes s u where
  queue := second.queue.trans first.queue
  store := by rw [second.store, first.store]

end SameButNodes

namespace Engine

/-- Requests are executed one after the other, and besides nothing changes but rows of nodes. -/
inductive ExecutesInTurn (engine : Engine) (shows : Instant → Prop) :
    List FlowRequest → Watched → List (Except EngineError ExecutionId) → Watched → Prop where
  | nil {s t : Watched} (same : SameButNodes s t) : ExecutesInTurn engine shows [] s [] t
  | cons {request : FlowRequest} {rest : List FlowRequest} {s t u v : Watched}
      {result : Except EngineError ExecutionId} {results : List (Except EngineError ExecutionId)}
      (same : SameButNodes s t)
      (executes : Runs (undisturbed shows) (engine.execute none request) t result u)
      (later : ExecutesInTurn engine shows rest u results v) :
      ExecutesInTurn engine shows (request :: rest) s (result :: results) v

namespace ExecutesInTurn

variable {engine : Engine} {shows : Instant → Prop} {requests more : List FlowRequest}
  {results later : List (Except EngineError ExecutionId)} {s t u : Watched}

theorem after (executes : engine.ExecutesInTurn shows requests t results u)
    (same : SameButNodes s t) : engine.ExecutesInTurn shows requests s results u := by
  cases executes with
  | nil sameLater => exact .nil (same.trans sameLater)
  | cons sameLater executes rest => exact .cons (same.trans sameLater) executes rest

theorem append (first : engine.ExecutesInTurn shows requests s results t)
    (second : engine.ExecutesInTurn shows more t later u) :
    engine.ExecutesInTurn shows (requests ++ more) s (results ++ later) u := by
  induction first with
  | nil same => exact second.after same
  | cons same executes _ ih => exact .cons same executes (ih second)

/-- Executions leave the queue alone. -/
theorem queue_eq (executes : engine.ExecutesInTurn shows requests s results t) :
    t.state.queue = s.state.queue := by
  induction executes with
  | nil same => exact same.queue
  | cons same executes _ ih =>
      rcases runs_execute_fresh (faltering_of_undisturbed executes) with ⟨_, _, _, queue, _⟩
      exact ih.trans (queue.trans same.queue)

end ExecutesInTurn

end Engine

namespace QueueManager

variable {manager : QueueManager} {shows : Instant → Prop} {s t u : Watched}
  {request : FlowRequest} {outcome : Except EngineError Submission}
  {requests more : List FlowRequest} {outcomes later : List (Except EngineError Submission)}

/-! ## One request -/

/-- With a queue a request becomes a job under a fresh id; without one it is executed at once. -/
inductive Delivers (manager : QueueManager) (shows : Instant → Prop) (request : FlowRequest) :
    Watched → Except EngineError Submission → Watched → Prop where
  | queued {s : Watched} {id : ExecutionId} {now : Instant} (enabled : manager.enabled = true)
      (named : id.isBlank = false) (fresh : s.state.store.getExecution id = none)
      (shown : shows now) :
      Delivers manager shows request s (.ok (.queued id))
        ⟨{ s.state with
          queue := (s.state.queue.push (EnqueuePhase.jobFor manager request id now)).2 }, s.notes⟩
  | executed {s t : Watched} {result : Except EngineError ExecutionId}
      (disabled : manager.enabled = false)
      (ran : Runs (undisturbed shows) (manager.engine.execute none request) s result t) :
      Delivers manager shows request s (result.map .executed) t

theorem runs_push_undisturbed {r : Except QueueError ExecutionId}
    (ran : Runs (undisturbed shows) (manager.push request) s r t) :
    ∃ id now, id.isBlank = false ∧ s.state.store.getExecution id = none ∧ shows now ∧
      r = .ok id ∧ t = ⟨{ s.state with
        queue := (s.state.queue.push (EnqueuePhase.jobFor manager request id now)).2 },
        s.notes⟩ := by
  simp only [push, Service.freshId_bind, Service.now_bind] at ran
  rcases runs_ask_iff.mp ran with ⟨id, _, naming, dating⟩
  rcases undisturbed_freshId naming with ⟨rfl, named, fresh⟩
  rcases runs_ask_iff.mp dating with ⟨now, _, reading, pushing⟩
  rcases undisturbed_now reading with ⟨rfl, shown⟩
  rw [EventFlow.retry, retryFrom.eq_def, bind_assoc] at pushing
  rcases narrows_undisturbed.runs_queue pushing with ⟨_, ended⟩
  rcases runs_done_iff.mp ended with ⟨rfl, rfl⟩
  exact ⟨id, now, named, fresh, shown, rfl, rfl⟩

/-- A request for a flow that is switched on is delivered. -/
theorem delivers_of_runs {flow : Flow} (found : s.state.store.getFlow request.flowId = some flow)
    (switchedOn : flow.enabled = true)
    (ran : Runs (undisturbed shows) (manager.submit request) s outcome t) :
    manager.Delivers shows request s outcome t := by
  by_cases enabled : manager.enabled = true
  · simp only [submit, enqueue, enabled, if_true, Service.store_bind] at ran
    rcases narrows_undisturbed.runs_store ran with ⟨_, ran⟩
    simp only [Store.answer, found, switchedOn, if_true] at ran
    rcases runs_bind_iff.mp ran with ⟨_, _, pushing, ended⟩
    rcases runs_push_undisturbed pushing with ⟨id, now, named, fresh, shown, rfl, rfl⟩
    rcases runs_done_iff.mp ended with ⟨rfl, rfl⟩
    exact .queued enabled named fresh shown
  · have disabled : manager.enabled = false := by simpa using enabled
    simp only [submit, enqueue, disabled, Bool.false_eq_true, if_false] at ran
    rcases runs_bind_iff.mp ran with ⟨_, _, refused, later⟩
    rcases runs_done_iff.mp refused with ⟨rfl, rfl⟩
    rcases runs_bind_iff.mp later with ⟨result, u, executed, ended⟩
    cases result <;> rcases runs_done_iff.mp ended with ⟨rfl, rfl⟩
    · exact .executed disabled executed
    · exact .executed disabled executed

/-- A delivery changes neither flows nor nodes nor the executions that are there. -/
structure Leaves (s t : Store) : Prop where
  flows : t.flows = s.flows
  nodes : t.nodes = s.nodes
  executions : ∀ id row, s.getExecution id = some row → t.getExecution id = some row

theorem Delivers.leaves (delivers : manager.Delivers shows request s outcome t)
    (reachable : s.state.store.Reachable) : Leaves s.state.store t.state.store := by
  cases delivers with
  | queued => exact ⟨rfl, rfl, fun _ _ stored => stored⟩
  | @executed _ result _ ran =>
      rcases Engine.runs_execute_fresh (faltering_of_undisturbed ran) with
        ⟨id, _, fresh, _, ran⟩
      have came := Engine.executeUnder_alone _ id request reachable.wellFormed ran
      have spares {state : ExecutionState} {error : Option String}
          (left : Engine.Leaves id request state error s.state.store t.state.store) :
          Leaves s.state.store t.state.store := by
        refine ⟨left.flows, left.nodes, fun other row stored => ?_⟩
        have different : other ≠ id := by
          rintro rfl
          rw [fresh] at stored
          cases stored
        rw [left.executions other different, stored]
      cases result with
      | ok given => exact spares came.2
      | error e =>
          simp only [Engine.ComesTo] at came
          split at came
          · rw [came]
            exact ⟨rfl, rfl, fun _ _ stored => stored⟩
          · exact spares came

/-! ## Requests in order -/

/-- Requests are delivered one after the other. -/
inductive DeliversAll (manager : QueueManager) (shows : Instant → Prop) :
    List FlowRequest → Watched → List (Except EngineError Submission) → Watched → Prop where
  | nil {s : Watched} : DeliversAll manager shows [] s [] s
  | cons {request : FlowRequest} {rest : List FlowRequest} {s t u : Watched}
      {outcome : Except EngineError Submission} {outcomes : List (Except EngineError Submission)}
      (first : manager.Delivers shows request s outcome t)
      (later : DeliversAll manager shows rest t outcomes u) :
      DeliversAll manager shows (request :: rest) s (outcome :: outcomes) u

theorem Leaves.refl (s : Store) : Leaves s s :=
  ⟨rfl, rfl, fun _ _ stored => stored⟩

theorem Leaves.trans {s t u : Store} (first : Leaves s t) (second : Leaves t u) : Leaves s u :=
  ⟨second.flows.trans first.flows, second.nodes.trans first.nodes,
    fun id row stored => second.executions id row (first.executions id row stored)⟩

theorem Delivers.reachable {request : FlowRequest} {outcome : Except EngineError Submission}
    (delivers : manager.Delivers shows request s outcome t) (reachable : s.state.store.Reachable) :
    t.state.store.Reachable := by
  cases delivers with
  | queued => exact reachable
  | executed _ ran => exact reachable_of_undisturbed ran reachable

theorem DeliversAll.leaves (delivers : manager.DeliversAll shows requests s outcomes t)
    (reachable : s.state.store.Reachable) : Leaves s.state.store t.state.store := by
  induction delivers with
  | nil => exact .refl _
  | cons first _ ih => exact (first.leaves reachable).trans (ih (first.reachable reachable))

/-- A job that waits with a request. -/
structure Awaits (request : FlowRequest) (job : QueueJob) : Prop where
  args : job.args = request
  status : job.status = .pending
  attempts : job.attempts = 0
  named : job.executionId.isBlank = false

/-- Requests are taken, and become jobs in order. -/
structure Queues (requests : List FlowRequest) (outcomes : List (Except EngineError Submission))
    (s t : Watched) : Prop where
  taken : outcomes.map (·.isOk) = requests.map fun _ => true
  jobs : ∃ jobs, t.state.queue.jobs = s.state.queue.jobs ++ jobs ∧
    List.Forall₂ Awaits requests jobs

theorem Queues.nil (queue : t.state.queue = s.state.queue) : Queues [] [] s t :=
  ⟨rfl, [], by rw [queue, List.append_nil], .nil⟩

theorem Queues.append (first : Queues requests outcomes s t) (second : Queues more later t u) :
    Queues (requests ++ more) (outcomes ++ later) s u := by
  rcases first with ⟨taken, jobs, queued, await⟩
  rcases second with ⟨takenLater, jobsLater, queuedLater, awaitLater⟩
  constructor
  · rw [List.map_append, taken, takenLater, List.map_append]
  · exact ⟨jobs ++ jobsLater, by rw [queuedLater, queued, List.append_assoc],
      List.rel_append await awaitLater⟩

theorem Queues.countP (queues : Queues requests outcomes s t) :
    outcomes.countP (·.isOk) = requests.length ∧ outcomes.countP (! ·.isOk) = 0 := by
  have all : ∀ outcome ∈ outcomes, outcome.isOk = true := by
    intro outcome outcomeMem
    have mem : outcome.isOk ∈ requests.map fun _ => true :=
      queues.taken ▸ List.mem_map_of_mem outcomeMem
    simpa using (List.mem_map.mp mem).choose_spec.2.symm
  have length : outcomes.length = requests.length := by
    simpa using congrArg List.length queues.taken
  constructor
  · rw [List.countP_eq_length.mpr all, length]
  · exact List.countP_eq_zero.mpr fun outcome outcomeMem => by simp [all outcome outcomeMem]

theorem Delivers.queues (enabled : manager.enabled = true) {request : FlowRequest}
    {outcome : Except EngineError Submission}
    (delivers : manager.Delivers shows request s outcome t) :
    Queues [request] [outcome] s t ∧ t.state.store = s.state.store ∧ t.notes = s.notes := by
  cases delivers with
  | queued _ named =>
      refine ⟨⟨rfl, _, rfl, .cons ?_ .nil⟩, rfl, rfl⟩
      exact ⟨rfl, rfl, rfl, named⟩
  | executed disabled => simp [enabled] at disabled

/-- With a queue all requests become jobs, and nothing else happens. -/
theorem DeliversAll.queues (enabled : manager.enabled = true)
    (delivers : manager.DeliversAll shows requests s outcomes t) :
    Queues requests outcomes s t ∧ t.state.store = s.state.store ∧ t.notes = s.notes := by
  induction delivers with
  | nil => exact ⟨.nil rfl, rfl, rfl⟩
  | cons first _ ih =>
      rcases first.queues enabled with ⟨here, store, notes⟩
      rcases ih with ⟨later, storeLater, notesLater⟩
      exact ⟨here.append later, storeLater.trans store, notesLater.trans notes⟩

/-- Without a queue all requests are executed in turn. -/
theorem DeliversAll.executes (disabled : manager.enabled = false)
    (delivers : manager.DeliversAll shows requests s outcomes t) :
    ∃ results, outcomes = results.map (·.map .executed) ∧
      manager.engine.ExecutesInTurn shows requests s results t := by
  induction delivers with
  | nil => exact ⟨[], rfl, .nil (.refl _)⟩
  | cons first _ ih =>
      rcases ih with ⟨results, rfl, later⟩
      cases first with
      | queued enabled => simp [disabled] at enabled
      | executed _ ran => exact ⟨_ :: results, rfl, .cons (.refl _) ran later⟩

end QueueManager

end EventFlow
