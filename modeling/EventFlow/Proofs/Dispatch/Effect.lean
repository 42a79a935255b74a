import EventFlow.Proofs.Dispatch.Resolution
import EventFlow.Proofs.Engine.Alone
import Mathlib.Data.List.Perm.Basic

/-!
# A call has one effect

A call that is accepted has become one job of the queue, or one execution, which has succeeded.
A call that fails in the engine has left one failed execution at the most, and every other
refusal leaves all tables as they were.  This is so however often the queue refuses the job.
-/

namespace EventFlow

open Program Shared

/-! ## Executions -/

namespace Store

variable {s t : Store}

/-- The rows of executions are those that are found under their ids. -/
theorem WellFormed.mem_executions_iff (wellFormed : s.WellFormed) {row : Execution} :
    row ∈ s.executions ↔ s.getExecution row.executionId = some row := by
  constructor
  · intro rowMem
    cases found : s.getExecution row.executionId with
    | none => simpa using List.find?_eq_none.mp found row rowMem
    | some other =>
        have same := List.inj_on_of_nodup_map wellFormed.executionIds
          (List.mem_of_find?_eq_some found) rowMem (executionId_of_getExecution found)
        rw [same]
  · exact List.mem_of_find?_eq_some

/-- A row under a new id is the only one that has been added when all others are as they
were. -/
theorem perm_executions (wellFormed : s.WellFormed) (after : t.WellFormed) {row : Execution}
    (absent : s.getExecution row.executionId = none)
    (stored : t.getExecution row.executionId = some row)
    (others : ∀ other, other ≠ row.executionId → t.getExecution other = s.getExecution other) :
    t.executions.Perm (row :: s.executions) := by
  have new : row ∉ s.executions := fun rowMem => by
    simp [wellFormed.mem_executions_iff.mp rowMem] at absent
  have distinct := List.nodup_cons.mpr ⟨new, wellFormed.executionIds.of_map⟩
  apply (List.perm_ext_iff_of_nodup after.executionIds.of_map distinct).mpr
  intro other
  rw [after.mem_executions_iff, List.mem_cons, wellFormed.mem_executions_iff]
  by_cases sameId : other.executionId = row.executionId
  · rw [sameId, stored, absent]
    simp [eq_comm]
  · rw [others _ sameId]
    exact ⟨.inr, Or.rec (fun same => absurd (congrArg _ same) sameId) id⟩

/-- One execution has been added, that of a request under an id, and is in a state.  Besides it
only jobs of the execution have been added. -/
structure Gains (id : ExecutionId) (request : FlowRequest) (state : ExecutionState)
    (s t : Store) : Prop where
  execution : ∃ row, t.executions.Perm (row :: s.executions) ∧ row.executionId = id ∧
    row.state = state ∧ row.Carries request none
  jobs : ∃ recorded, t.jobs = s.jobs ++ recorded ∧ ∀ job ∈ recorded, job.executionId = id
  flows : t.flows = s.flows
  nodes : t.nodes = s.nodes
  edges : t.edges = s.edges
  rateLimits : t.rateLimits = s.rateLimits

/-- What a run leaves under a new id is an execution that has been added. -/
theorem Gains.of_leaves {id : ExecutionId} {request : FlowRequest} {state : ExecutionState}
    {error : Option String} (wellFormed : s.WellFormed) (after : t.WellFormed)
    (absent : s.getExecution id = none) (leaves : Engine.Leaves id request state error s t) :
    s.Gains id request state t where
  execution := by
    rcases leaves.row with ⟨row, stored, carries, inState, _⟩
    obtain rfl := executionId_of_getExecution stored
    exact ⟨row, perm_executions wellFormed after absent stored leaves.executions, rfl, inState,
      absent ▸ carries⟩
  jobs := leaves.jobs
  flows := leaves.flows
  nodes := leaves.nodes
  edges := leaves.edges
  rateLimits := leaves.rateLimits

end Store

/-- A run under an id that no execution has adds an execution, or changes nothing. -/
theorem Engine.executeUnder_gains {engine : Engine} {id : ExecutionId} {request : FlowRequest}
    {s t : Shared} {result : Except EngineError ExecutionId} (wellFormed : s.store.WellFormed)
    (absent : s.store.getExecution id = none)
    (ran : Runs answering (engine.executeUnder id request) s result t) :
    (result = .ok id ∧ s.store.Gains id request .succeeded t.store) ∨
      ∃ e, result = .error e ∧ (t = s ∨ s.store.Gains id request .failed t.store) := by
  rcases exists_watched ran with ⟨_, watched⟩
  have after : t.store.WellFormed := watched.wellFormed wellFormed
  have came := executeUnder_alone engine id request wellFormed ran
  cases result with
  | ok given =>
      rcases came with ⟨rfl, leaves⟩
      exact .inl ⟨rfl, .of_leaves wellFormed after absent leaves⟩
  | error e =>
      refine .inr ⟨e, rfl, ?_⟩
      simp only [ComesTo] at came
      split at came
      · exact .inl came
      · exact .inr (.of_leaves wellFormed after absent came)

/-! ## Calls -/

/-- One job has been added to the queue: a pending one for a request, which has not been tried
yet. -/
def QueueTable.Gains (id : ExecutionId) (request : FlowRequest) (s t : QueueTable) : Prop :=
  ∃ job, t.jobs = s.jobs ++ [job] ∧ job.status = .pending ∧ job.attempts = 0 ∧
    job.executionId = id ∧ job.args = request

namespace Dispatcher

/-- What a call has done is what it returns: it has added one job to the queue, or one execution
to the store, or nothing. -/
structure HasOneEffect (dispatcher : Dispatcher) (call : Call) (s t : Shared)
    (result : Except DispatchError Submission) : Prop where
  queued : ∀ id, result = .ok (.queued id) ↔
    ∃ request, dispatcher.resolve s.store call = .ok request ∧ s.queue.Gains id request t.queue
  onlyQueued : ∀ id, result = .ok (.queued id) → t.store = s.store
  executed : ∀ id, result = .ok (.executed id) → t.queue = s.queue ∧
    ∃ request, dispatcher.resolve s.store call = .ok request ∧
      s.store.Gains id request .succeeded t.store
  failed : ∀ e, result = .error (.engine e) → t.queue = s.queue ∧
    (t.store = s.store ∨ ∃ id request, dispatcher.resolve s.store call = .ok request ∧
      s.store.Gains id request .failed t.store)
  refused : ∀ e, result = .error e → (∀ cause, e ≠ .engine cause) → t = s

/-- No job has been added where the queue is as it was. -/
theorem not_gains_of_same {id : ExecutionId} {request : FlowRequest} {s t : Shared}
    (same : t.queue = s.queue) : ¬ s.queue.Gains id request t.queue := by
  rintro ⟨job, added, _⟩
  simp [same] at added

/-- A call that is refused without any change has had no effect. -/
theorem HasOneEffect.of_refused {dispatcher : Dispatcher} {call : Call} {s : Shared}
    {e : DispatchError} (otherwise : ∀ cause, e ≠ .engine cause) :
    HasOneEffect dispatcher call s s (.error e) where
  queued id := by
    constructor
    · rintro ⟨⟩
    · rintro ⟨_, _, gains⟩
      exact absurd gains (not_gains_of_same rfl)
  onlyQueued id queued := by cases queued
  executed id executed := by cases executed
  failed cause failed := absurd (Except.error.inj failed) (otherwise cause)
  refused _ _ _ := rfl

/-- A request that is executed at once has one effect. -/
theorem HasOneEffect.of_executed {dispatcher : Dispatcher} {call : Call} {request : FlowRequest}
    {s t : Shared} {result : Except EngineError ExecutionId} (wellFormed : s.store.WellFormed)
    (resolved : dispatcher.resolve s.store call = .ok request)
    (ran : Runs faltering (dispatcher.queue.engine.execute none request) s result t) :
    HasOneEffect dispatcher call s t ((result.map Submission.executed).mapError .engine) := by
  rcases Engine.runs_execute_fresh ran with ⟨id, _, absent, sameQueue, ran⟩
  have came := Engine.executeUnder_gains wellFormed absent ran
  constructor
  · intro other
    constructor
    · intro queued
      cases result <;> cases queued
    · rintro ⟨_, _, gains⟩
      exact absurd gains (not_gains_of_same sameQueue)
  · intro other queued
    cases result <;> cases queued
  · intro other executed
    rcases came with ⟨rfl, gains⟩ | ⟨e, rfl, _⟩ <;> cases executed
    exact ⟨sameQueue, request, resolved, gains⟩
  · intro e failed
    rcases came with ⟨rfl, _⟩ | ⟨e, rfl, left⟩ <;> cases failed
    refine ⟨sameQueue, left.imp (congrArg Shared.store) fun gains => ?_⟩
    exact ⟨id, request, resolved, gains⟩
  · intro e failed otherwise
    cases result <;> cases failed
    exact absurd rfl (otherwise _)

/-- A request that is submitted has one effect. -/
theorem HasOneEffect.of_submitted {dispatcher : Dispatcher} {call : Call} {request : FlowRequest}
    {s t : Shared} {submitted : Except EngineError Submission} (wellFormed : s.store.WellFormed)
    (resolved : dispatcher.resolve s.store call = .ok request)
    (ran : Runs faltering (dispatcher.queue.submit request) s submitted t) :
    HasOneEffect dispatcher call s t (submitted.mapError .engine) := by
  rcases QueueManager.runs_submit_faltering ran with
    ⟨id, now, _, rfl, rfl⟩ | ⟨result, rfl, executed⟩
  · constructor
    · intro other
      constructor
      · rintro ⟨⟩
        exact ⟨request, resolved, _, rfl, rfl, rfl, rfl, rfl⟩
      · rintro ⟨_, _, added, same, _, _, named, _⟩
        -- The job that has been added is the one that was pushed.
        obtain rfl := List.singleton_inj.mp (List.append_cancel_left same)
        exact congrArg (fun id => Except.ok (Submission.queued id)) named
    · exact fun _ _ => rfl
    all_goals rintro _ ⟨⟩
  · exact .of_executed wellFormed resolved executed

/-- A call that is served has one effect. -/
theorem runs_serve_hasOneEffect {dispatcher : Dispatcher} {call : Call} {s t : Shared}
    {result : Except DispatchError Submission} (wellFormed : s.store.WellFormed)
    (ran : Runs faltering (dispatcher.serve call) s result t) :
    HasOneEffect dispatcher call s t result ∧
      ((∀ e, result = .error e → e.ofResolution = false) ↔
        ∃ request, dispatcher.resolve s.store call = .ok request) := by
  rcases runs_serve_faltering ran with ⟨e, refused, rfl, rfl⟩ | ⟨request, resolved, ran⟩
  · have early : e.ofResolution = true := ofResolution_of_resolve refused
    constructor
    · apply HasOneEffect.of_refused
      rintro cause rfl
      cases early
    · simp [refused, early]
  · rcases runs_submitWithinLimits_faltering ran with
      ⟨wait, rfl, rfl⟩ | ⟨submitted, rfl, submitting⟩
    · exact ⟨.of_refused (by simp), by simp [resolved, DispatchError.ofResolution]⟩
    · constructor
      · exact .of_submitted wellFormed resolved submitting
      · cases submitted <;> simp [resolved, Except.mapError, DispatchError.ofResolution]

/-- A call has one effect, whatever the state of the tables is and however often the queue
refuses the job that is pushed.  It always comes to an end.  It is accepted as queued exactly if
one pending job for its request has been added, and then the store is as it was; accepted as
executed, it has added one execution, which has succeeded; if the engine fails there is one
failed execution more at the most; and all other refusals leave the tables as they were.  The
call of a webhook is not turned away exactly if its token without the blanks around it is not
empty, its flow is switched on, and a trigger of the flow with a rule for webhooks has the
token. -/
theorem serve_hasOneEffect (dispatcher : Dispatcher) (s : Shared)
    (wellFormed : s.store.WellFormed) :
    (∀ call, ∃ result t, Runs faltering (dispatcher.serve call) s result t) ∧
    (∀ call result t, Runs faltering (dispatcher.serve call) s result t →
      HasOneEffect dispatcher call s t result) ∧
    ∀ flowId token payload result t,
      Runs faltering (dispatcher.serve (.webhook flowId token payload)) s result t →
      ((∀ e, result = .error e → e.ofResolution = false) ↔
        Text.trim token ≠ "" ∧
        (∃ flow, s.store.getFlow flowId = some flow ∧ flow.enabled = true) ∧
        ∃ node ∈ s.store.listNodes flowId, node.isTrigger = true ∧
          node.parameters.getString? tokenKey = some (Text.trim token) ∧
          ∃ rule, dispatcher.registry.findTrigger node.bot node.ruleId = .ok rule ∧
            rule.mode = .webhook) := by
  refine ⟨fun call => exists_runs_faltering _ s, fun call result t ran => ?_, ?_⟩
  · exact (runs_serve_hasOneEffect wellFormed ran).1
  · intro flowId token payload result t ran
    rw [(runs_serve_hasOneEffect wellFormed ran).2, resolve_webhook_iff]
    simp only [answersToken_iff]

end Dispatcher

namespace Twins

/-- An answer to every question where the queue refuses all jobs. -/
def refuseAt (now : Instant) (s : Shared) : (q : ServiceCall) → q.Answer × Shared
  | .queue (.push _) => (.error (.backend "full"), s)
  | q => s.falterAt now q

theorem falters_refuseAt (now : Instant) (s : Shared) (q : ServiceCall) :
    s.Falters q (refuseAt now s q).1 (refuseAt now s q).2 := by
  have answered := s.falters_falterAt now q
  cases q with
  | queue call =>
      cases call with
      | push job => exact .inr ⟨⟨_, rfl⟩, rfl⟩
      | _ => exact answered
  | _ => exact answered

/-- The webhook is called while the queue refuses all jobs. -/
def refused : Except DispatchError Submission × Shared :=
  (dispatcher.serve knock).run (refuseAt (.ofMilliseconds 7)) ⟨store, .empty⟩

end Twins

/-- When the queue refuses the job of a webhook to the end, the call is executed at once: there is
one execution more, and the queue is still empty. -/
theorem Dispatcher.serve_hasOneEffect_refused :
    Twins.store.Reachable ∧ Twins.refused.1 = .ok (.executed ⟨"x"⟩) ∧
    Twins.refused.2.queue = .empty ∧ ∃ request,
      Twins.dispatcher.resolve Twins.store Twins.knock = .ok request ∧
      Twins.store.Gains ⟨"x"⟩ request .succeeded Twins.refused.2.store := by
  have executed : Twins.refused.1 = .ok (.executed ⟨"x"⟩) := by decide +kernel
  have ran : Runs faltering _ ⟨Twins.store, .empty⟩ Twins.refused.1 Twins.refused.2 :=
    runs_run (Twins.falters_refuseAt _) _ _
  have effect := (Dispatcher.serve_hasOneEffect Twins.dispatcher ⟨Twins.store, .empty⟩
    Twins.reachable.wellFormed).2.1 _ _ _ ran
  rcases effect.executed _ executed with ⟨queue, gains⟩
  exact ⟨Twins.reachable, executed, queue, gains⟩

end EventFlow
