import EventFlow.Proofs.Engine.Execution
import EventFlow.Proofs.Engine.Questions
import EventFlow.Proofs.Engine.Tour

/-!
# The course of a run that is alone

A run that has the store to itself is rejected before it changes anything, or it
opens the row of its execution, walks the flow, and closes the row with what it has
gathered.  Between opening and closing only the log grows.
-/

namespace EventFlow

open Program

/-- The tables with other executions. -/
def Watched.withExecutions (s : Watched) (executions : List Execution) : Watched :=
  ⟨{ s.state with store := { s.state.store with executions } }, s.notes⟩

namespace Execution

/-- The row is the one with which an execution is opened for a request: the row that it had
before, or a new one, started. -/
def Opens (id : ExecutionId) (request : FlowRequest) (before : Option Execution)
    (row : Execution) : Prop :=
  ∃ first now, row = first.start now request.triggerType request.triggerId request.payload ∧
    first.executionId = id ∧ first.flowId = request.flowId ∧
    (before = some first ∨ before = none ∧ ∃ created, first = .create created id request.flowId)

theorem Opens.executionId {id : ExecutionId} {request : FlowRequest} {before : Option Execution}
    {row : Execution} (opens : row.Opens id request before) : row.executionId = id := by
  rcases opens with ⟨first, now, rfl, sameId, _⟩
  exact sameId

/-- The row with which an execution is closed after its walk. -/
def closedWith (row : Execution) (now : Instant) : Run.Progress → Execution
  | (vars, .ok ()) => row.succeed now vars
  | (vars, .error (.failed e)) => row.fail now e.message vars
  | (_, .error (.panicked message)) => row.fail now ("panic: " ++ message) row.vars

end Execution

namespace Engine

variable {id : ExecutionId} {request : FlowRequest} {s t : Watched}

/-- The row of an execution is replaced. -/
theorem runs_update {α : Type} {row old : Execution} {next : Except StoreError Unit → Routine α}
    {r : α} (present : s.state.store.getExecution id = some old)
    (ran : Runs watching (.ask (ServiceCall.store (.updateExecution row) : service.Question) next)
      s r t) (rowId : row.executionId = id) :
    ∃ executions, (s.withExecutions executions).state.store.getExecution id = some row ∧
      Runs watching (next (.ok ())) (s.withExecutions executions) r t := by
  subst rowId
  rcases watching_store_iff.mp ran with ⟨_, ran⟩
  rcases Store.updateExecution_of_present row 0 present with ⟨u, updated, stored, _⟩
  simp only [Store.answer, updated, Store.changed] at ran
  rw [Store.updateExecution_eq updated] at ran stored
  exact ⟨u.executions, stored, ran⟩

/-! ## Opening -/

/-- A row that is stored is opened, unless it is bound to another flow. -/
theorem runs_reuse {existing : Execution} {r : Except EngineError Execution}
    (found : s.state.store.getExecution id = some existing)
    (ran : Runs watching (reuse existing request) s r t) :
    (existing.flowId ≠ request.flowId ∧ r = .error (.boundToOtherFlow id existing.flowId) ∧
        t = s) ∨
      ∃ row executions, r = .ok row ∧ row.Opens id request (some existing) ∧
        t = s.withExecutions executions ∧ t.state.store.getExecution id = some row := by
  have storedId := Store.executionId_of_getExecution found
  unfold reuse at ran
  by_cases bound : existing.flowId = request.flowId
  · simp only [bound, ne_eq, not_true_eq_false, if_false, Service.now_bind,
      Service.store_bind] at ran
    rcases watching_now_iff.mp ran with ⟨now, ran⟩
    have sameId : (existing.start now request.triggerType request.triggerId
        request.payload).executionId = id := storedId
    rcases runs_update found ran sameId with ⟨executions, stored, ran⟩
    rcases runs_done_iff.mp ran with ⟨rfl, rfl⟩
    exact .inr ⟨_, executions, rfl, ⟨existing, now, rfl, storedId, bound, .inl rfl⟩, rfl, stored⟩
  · simp only [bound, ne_eq, not_false_eq_true, if_true] at ran
    rcases runs_done_iff.mp ran with ⟨rfl, rfl⟩
    exact .inl ⟨bound, by rw [storedId], rfl⟩

/-- The row of an execution is opened, unless the one that is stored is bound to another
flow. -/
theorem runs_openExecution {r : Except EngineError Execution}
    (ran : Runs watching (openExecution id request) s r t) :
    (∃ row, s.state.store.getExecution id = some row ∧ row.flowId ≠ request.flowId ∧
        r = .error (.boundToOtherFlow id row.flowId) ∧ t = s) ∨
      ∃ row executions, r = .ok row ∧ row.Opens id request (s.state.store.getExecution id) ∧
        t = s.withExecutions executions ∧ t.state.store.getExecution id = some row := by
  simp only [openExecution, Service.now_bind, Service.store_bind] at ran
  rcases watching_store_iff.mp ran with ⟨_, ran⟩
  simp only [Store.answer] at ran
  cases found : s.state.store.getExecution id with
  | some existing =>
      simp only [found] at ran
      rcases runs_reuse found ran with ⟨bound, rejected, rfl⟩ | opened
      · exact .inl ⟨existing, rfl, bound, rejected, rfl⟩
      · exact .inr opened
  | none =>
      simp only [found] at ran
      rcases watching_now_iff.mp ran with ⟨created, ran⟩
      rcases watching_now_iff.mp ran with ⟨now, ran⟩
      rcases watching_store_iff.mp ran with ⟨_, ran⟩
      rcases Store.createExecution_of_absent ((Execution.create created id request.flowId).start now
        request.triggerType request.triggerId request.payload) 0 found
        with ⟨u, inserted, stored, _⟩
      simp only [Store.answer, inserted, Store.changed] at ran
      rcases runs_done_iff.mp ran with ⟨rfl, rfl⟩
      rw [Store.createExecution_eq inserted] at stored ⊢
      exact .inr ⟨_, u.executions, rfl, ⟨_, now, rfl, rfl, rfl, .inr ⟨rfl, created, rfl⟩⟩, rfl,
        stored⟩

/-! ## Closing -/

/-- The outcome of a walk as the result of a run. -/
def resultOf : Except Abort Unit → Except EngineError Unit
  | .ok () => .ok ()
  | .error (.failed e) => .error e
  | .error (.panicked message) => .error (.panicked message)

/-- The variables of a row that is closed: what the walk has gathered, or those of the
row as it was opened if a rule broke down. -/
def finalVars (row : Execution) : Run.Progress → Bag
  | (_, .error (.panicked _)) => row.vars
  | (vars, _) => vars

theorem finalVars_of_unbroken {row : Execution} {progress : Run.Progress}
    (unbroken : ∀ message, progress.2 ≠ .error (.panicked message)) :
    finalVars row progress = progress.1 := by
  rcases progress with ⟨vars, (e | message) | _⟩
  · rfl
  · exact absurd rfl (unbroken message)
  · rfl

theorem runs_finish {row : Execution} {progress : Run.Progress} {r : Except EngineError Unit}
    (rowId : row.executionId = id) (opened : s.state.store.getExecution id = some row)
    (ran : Runs watching (finish row progress) s r t) :
    r = resultOf progress.2 ∧ ∃ now executions, t = s.withExecutions executions ∧
      t.state.store.getExecution id = some (row.closedWith now progress) := by
  rcases progress with ⟨vars, (e | message) | _⟩
  all_goals
    simp only [finish, close, Service.now_bind, Service.store_bind] at ran
    rcases watching_now_iff.mp ran with ⟨now, ran⟩
    rcases runs_update opened ran rowId with ⟨executions, stored, ran⟩
    rcases runs_done_iff.mp ran with ⟨rfl, rfl⟩
    exact ⟨rfl, now, executions, rfl, stored⟩

theorem vars_closedWith (row : Execution) (now : Instant) (progress : Run.Progress) :
    (row.closedWith now progress).vars = finalVars row progress := by
  rcases progress with ⟨vars, (e | message) | _⟩ <;> rfl

/-! ## Running -/

/-- The run of a flow under an id. -/
def runOf (engine : Engine) (flow : Flow) (id : ExecutionId) : Run :=
  ⟨engine, id, ⟨flow.id, flow.uid, flow.topic, engine.config.nodeTimeout⟩⟩

/-- A store refuses a request under an id: its flow is not there or is switched off, or the
id belongs to an execution of another flow. -/
inductive Refuses (s : Store) (id : ExecutionId) (request : FlowRequest) : EngineError → Prop where
  | noFlow (absent : s.getFlow request.flowId = none) :
      Refuses s id request (.flowNotFound request.flowId)
  | disabled {flow : Flow} (found : s.getFlow request.flowId = some flow)
      (off : flow.enabled = false) : Refuses s id request (.flowDisabled request.flowId)
  | bound {row : Execution} (stored : s.getExecution id = some row)
      (foreign : row.flowId ≠ request.flowId) :
      Refuses s id request (.boundToOtherFlow id row.flowId)

/-- The id belongs to an execution of another flow. -/
def bound? (s : Store) (id : ExecutionId) (flowId : FlowId) : Option EngineError :=
  (s.getExecution id).bind fun row =>
    if row.flowId = flowId then none else some (.boundToOtherFlow id row.flowId)

/-- Why a store refuses a request under an id, if it does.  It looks for the flow first. -/
def refusal? (s : Store) (id : ExecutionId) (request : FlowRequest) : Option EngineError :=
  match s.getFlow request.flowId with
  | none => some (.flowNotFound request.flowId)
  | some flow =>
    if flow.enabled then bound? s id request.flowId else some (.flowDisabled request.flowId)

theorem Refuses.of_refusal? {s : Store} {e : EngineError}
    (refused : refusal? s id request = some e) : Refuses s id request e := by
  unfold refusal? at refused
  split at refused
  · rename_i absent
    cases refused
    exact .noFlow absent
  · rename_i flow found
    split at refused
    · rcases Option.bind_eq_some_iff.mp refused with ⟨row, stored, refused⟩
      split at refused
      · contradiction
      · rename_i foreign
        cases refused
        exact .bound stored foreign
    · rename_i off
      cases refused
      exact .disabled found (by simpa using off)

/-- The course of a run that opens its execution: it walks the flow, adds the log of the
walk to the tables, and leaves a row with the variables of the walk. -/
structure Course (engine : Engine) (id : ExecutionId) (request : FlowRequest) (s t : Watched)
    (flow : Flow) (log : List LogEntry) (progress : Run.Progress) : Prop where
  found : s.state.store.getFlow request.flowId = some flow
  enabled : flow.enabled = true
  walks : (engine.runOf flow id).Walks
    (.ofRows (s.state.store.listNodes request.flowId) (s.state.store.listEdges request.flowId))
    request.flowId request.triggerType
    (initialVariables request.payload request.triggerType request.triggerId) log progress
  left : ∃ executions, t = (s.logging log).withExecutions executions
  closed : ∃ opened final, t.state.store.getExecution id = some final ∧
    final.vars = finalVars opened progress

theorem map_resultOf {S : Type} {answers : Answering service S} {outcome : Except Abort Unit}
    {id : ExecutionId} {result : Except EngineError ExecutionId} {s t : S}
    (ended : Runs answers (match resultOf outcome with
      | .ok _ => (.done (.ok id) : Routine (Except EngineError ExecutionId))
      | .error e => .done (.error e)) s result t) :
    result = (resultOf outcome).map (fun _ => id) ∧ t = s := by
  cases same : resultOf outcome with
  | ok _ =>
      simp only [same, runs_done_iff] at ended
      exact ended
  | error e =>
      simp only [same, runs_done_iff] at ended
      exact ended

/-- A walk writes no row of an execution. -/
theorem getExecution_of_walk {run : Run} {flow : Flow} {triggerType : String} {vars : Bag}
    {progress : Run.Progress} (walked : Runs watching (run.walk flow triggerType vars) s progress t)
    (other : ExecutionId) :
    t.state.store.getExecution other = s.state.store.getExecution other := by
  have unchanged := Shared.executions_of_runs walked.unwatched
    ((Run.walk_asks _ _ _ _).mono fun _ => ServiceCall.besideExecutions_of_ofWalk)
  rw [Store.getExecution, unchanged, Store.getExecution]

/-- The parts of a run that opens its execution: it opens the row, walks the flow and closes
the row. -/
structure Parts (answers : Answering service Watched) (engine : Engine) (id : ExecutionId)
    (request : FlowRequest) (s t : Watched) (flow : Flow) (row : Execution)
    (progress : Run.Progress) (opened walked : Watched) : Prop where
  found : s.state.store.getFlow request.flowId = some flow
  enabled : flow.enabled = true
  opening : Runs answers (openExecution id request) s (.ok row) opened
  walking : Runs answers ((engine.runOf flow id).walk flow request.triggerType
    (initialVariables request.payload request.triggerType request.triggerId)) opened progress walked
  closing : Runs answers (finish row progress) walked (resultOf progress.2) t

/-- A flow is stored under its id. -/
theorem Parts.flow_id {answers : Answering service Watched} {engine : Engine} {flow : Flow}
    {row : Execution} {progress : Run.Progress} {opened walked : Watched}
    (parts : Parts answers engine id request s t flow row progress opened walked) :
    flow.id = request.flowId := by
  simpa using List.find?_some parts.found

/-- A run under an id is refused, or it has its parts. -/
theorem runs_executeUnder_parts {answers : Answering service Watched} (narrows : Narrows answers)
    {engine : Engine} {result : Except EngineError ExecutionId}
    (ran : Runs answers (engine.executeUnder id request) s result t) :
    (∃ e, result = .error e ∧ refusal? s.state.store id request = some e ∧ t = s) ∨
      ∃ flow row progress opened walked,
        Parts answers engine id request s t flow row progress opened walked ∧
          result = (resultOf progress.2).map fun _ => id := by
  simp only [executeUnder, Service.store_bind] at ran
  rcases narrows.runs_store ran with ⟨_, ran⟩
  simp only [Store.answer] at ran
  cases found : s.state.store.getFlow request.flowId with
  | none =>
      simp only [found] at ran
      rcases runs_done_iff.mp ran with ⟨rfl, rfl⟩
      exact .inl ⟨_, rfl, by simp [refusal?, found], rfl⟩
  | some flow =>
      simp only [found] at ran
      by_cases enabled : flow.enabled = true
      · simp only [enabled, if_true] at ran
        rcases runs_bind_iff.mp ran with ⟨value, u, ranFlow, ended⟩
        unfold runFlow at ranFlow
        rcases runs_bind_iff.mp ranFlow with ⟨opened, v, opening, ranFlow⟩
        rcases runs_openExecution (narrows.runs opening) with
          ⟨row, stored, foreign, rfl, rfl⟩ | ⟨row, executions, rfl, opens, _, stored⟩
        · rcases runs_done_iff.mp ranFlow with ⟨rfl, rfl⟩
          rcases runs_done_iff.mp ended with ⟨rfl, rfl⟩
          exact .inl ⟨_, rfl, by simp [refusal?, bound?, found, enabled, stored, foreign], rfl⟩
        · rcases runs_bind_iff.mp ranFlow with ⟨progress, w, walked, closing⟩
          have remains := getExecution_of_walk (narrows.runs walked) id
          rcases runs_finish opens.executionId (remains.trans stored) (narrows.runs closing) with
            ⟨rfl, _⟩
          rcases map_resultOf ended with ⟨rfl, rfl⟩
          exact .inr ⟨flow, row, progress, v, w, ⟨found, enabled, opening, walked, closing⟩, rfl⟩
      · simp only [enabled] at ran
        rcases runs_done_iff.mp ran with ⟨rfl, rfl⟩
        exact .inl ⟨_, rfl, by simp [refusal?, found, enabled], rfl⟩

/-- What opening and closing do: nothing but to write the row of the execution, which is closed
with what the walk has come to. -/
theorem Parts.row {answers : Answering service Watched} (narrows : Narrows answers)
    {engine : Engine} {flow : Flow} {row : Execution} {progress : Run.Progress}
    {opened walked : Watched}
    (parts : Parts answers engine id request s t flow row progress opened walked) :
    row.Opens id request (s.state.store.getExecution id) ∧
      (∃ executions, opened = s.withExecutions executions) ∧
      (∃ executions, t = walked.withExecutions executions) ∧
      ∃ now, t.state.store.getExecution id = some (row.closedWith now progress) := by
  rcases runs_openExecution (narrows.runs parts.opening) with
    ⟨_, _, _, rejected, _⟩ | ⟨_, executions, same, opens, left, stored⟩
  · contradiction
  cases same
  have remains := (getExecution_of_walk (narrows.runs parts.walking) id).trans stored
  rcases runs_finish opens.executionId remains (narrows.runs parts.closing) with
    ⟨_, now, closed, ended, kept⟩
  exact ⟨opens, ⟨executions, left⟩, ⟨closed, ended⟩, now, kept⟩

/-- What is run has not been refused. -/
theorem Parts.accepted {answers : Answering service Watched} (narrows : Narrows answers)
    {engine : Engine} {flow : Flow} {row : Execution} {progress : Run.Progress}
    {opened walked : Watched}
    (parts : Parts answers engine id request s t flow row progress opened walked) :
    refusal? s.state.store id request = none := by
  rcases parts.row narrows with ⟨⟨first, _, _, _, own, stored | ⟨absent, _⟩⟩, _⟩
  · simp [refusal?, bound?, parts.found, parts.enabled, stored, own]
  · simp [refusal?, bound?, parts.found, parts.enabled, absent]

/-- The course of a run is that of its parts. -/
theorem Parts.course {engine : Engine} {flow : Flow} {row : Execution} {progress : Run.Progress}
    {opened walked : Watched} (wellFormed : s.state.store.WellFormed)
    (parts : Parts watching engine id request s t flow row progress opened walked) :
    ∃ log, Course engine id request s t flow log progress := by
  rcases parts.row narrows_watching with ⟨_, ⟨executions, rfl⟩, ⟨closed, rfl⟩, now, kept⟩
  rcases Run.runs_walk (parts.opening.wellFormed wellFormed) parts.walking with ⟨log, walks, rfl⟩
  rw [parts.flow_id] at walks
  exact ⟨log, parts.found, parts.enabled, walks, ⟨closed, rfl⟩,
    ⟨row, _, kept, vars_closedWith row now progress⟩⟩

theorem runs_executeUnder {engine : Engine} (wellFormed : s.state.store.WellFormed)
    {result : Except EngineError ExecutionId}
    (ran : Runs watching (engine.executeUnder id request) s result t) :
    (∃ e, result = .error e ∧ Refuses s.state.store id request e ∧ t = s) ∨
      ∃ flow log progress, Course engine id request s t flow log progress ∧
        result = (resultOf progress.2).map fun _ => id := by
  rcases runs_executeUnder_parts narrows_watching ran with
    ⟨e, rejected, refused, same⟩ | ⟨flow, row, progress, opened, walked, parts, rfl⟩
  · exact .inl ⟨e, rejected, .of_refusal? refused, same⟩
  · rcases parts.course wellFormed with ⟨log, course⟩
    exact .inr ⟨flow, log, progress, course, rfl⟩

/-- Executing a flow is running it under an id: the given one, if it is not blank, and
otherwise a fresh one. -/
theorem runs_execute_narrowed {answers : Answering service Watched} (narrows : Narrows answers)
    {engine : Engine} {given : Option ExecutionId} {result : Except EngineError ExecutionId}
    (ran : Runs answers (engine.execute given request) s result t) :
    ∃ id, id.isBlank = false ∧
      (∀ named, given = some named → named.isBlank = false → id = named) ∧
      (given = some id ∨ answers s (ServiceCall.freshId : service.Question) id s) ∧
      Runs answers (engine.executeUnder id request) s result t := by
  unfold execute at ran
  cases usable : given.filter fun id => ! id.isBlank with
  | some id =>
      rw [usable] at ran
      rcases Option.filter_eq_some_iff.mp usable with ⟨rfl, named⟩
      exact ⟨id, by simpa using named, fun other same _ => Option.some.inj same, .inl rfl, ran⟩
  | none =>
      simp only [usable, Service.freshId_bind] at ran
      rcases runs_ask_iff.mp ran with ⟨id, ⟨u, notes⟩, answered, ran⟩
      rcases narrows _ _ _ _ answered with ⟨⟨named, same⟩, noted⟩
      obtain rfl : u = s.state := same
      obtain rfl : notes = s.notes := by simpa [noteCall, ServiceCall.ruleCall?] using noted
      refine ⟨id, named, ?_, .inr answered, ran⟩
      rintro other rfl notBlank
      simp [Option.filter, notBlank] at usable

/-- Executing a flow is running it under an id: the given one, if it is not blank. -/
theorem runs_execute {engine : Engine} {given : Option ExecutionId}
    {result : Except EngineError ExecutionId}
    (ran : Runs watching (engine.execute given request) s result t) :
    ∃ id, id.isBlank = false ∧
      (∀ named, given = some named → named.isBlank = false → id = named) ∧
      Runs watching (engine.executeUnder id request) s result t := by
  rcases runs_execute_narrowed narrows_watching ran with ⟨id, named, given_eq, _, ran⟩
  exact ⟨id, named, given_eq, ran⟩

end Engine

end EventFlow
