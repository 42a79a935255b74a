import EventFlow.Engine.Walk

/-!
# Executing a flow

An execution opens a row under its id, walks the flow and closes the row with
the outcome and the variables.  An id that is in use already means the same
execution again, provided that it belongs to the same flow; so a request may be
delivered more than once.  A rule that breaks down ends the execution like any
other failure, with the variables of the row as it was opened.
-/

namespace EventFlow

namespace Engine

/-- Starts an execution that is stored already. -/
def reuse (execution : Execution) (request : FlowRequest) :
    Routine (Except EngineError Execution) := do
  if execution.flowId ≠ request.flowId then
    return .error (.boundToOtherFlow execution.executionId execution.flowId)
  else
    let execution :=
      execution.start (← Service.now) request.triggerType request.triggerId request.payload
    match ← Service.store (.updateExecution execution) with
    | .ok () => return .ok execution
    | .error e => return .error (.store e)

/-- Starts the execution that another run has stored in the meantime. -/
def reuseConcurrent (executionId : ExecutionId) (request : FlowRequest) (conflict : StoreError) :
    Routine (Except EngineError Execution) := do
  match ← Service.store (.getExecution executionId) with
  | .ok (some existing) => reuse existing request
  | .ok none => return .error (.store conflict)
  | .error e => return .error (.store e)

/-- Opens the row of an execution: the one that is stored, or a new one. -/
def openExecution (executionId : ExecutionId) (request : FlowRequest) :
    Routine (Except EngineError Execution) := do
  match ← Service.store (.getExecution executionId) with
  | .error e => return .error (.store e)
  | .ok (some existing) => reuse existing request
  | .ok none =>
    let created := Execution.create (← Service.now) executionId request.flowId
    let execution :=
      created.start (← Service.now) request.triggerType request.triggerId request.payload
    match ← Service.store (.createExecution execution) with
    | .ok () => return .ok execution
    | .error e =>
      if e.isConflict then reuseConcurrent executionId request e
      else return .error (.store e)

/-- Stores how a run ended.  That this fails is worse than any outcome. -/
def close (execution : Execution) (outcome : Except EngineError Unit) :
    Routine (Except EngineError Unit) := do
  match ← Service.store (.updateExecution execution) with
  | .ok () => return outcome
  | .error e => return .error (.store e)

/-- Closes the row of an execution with the outcome of its walk. -/
def finish (execution : Execution) : Run.Progress → Routine (Except EngineError Unit)
  | (vars, .ok ()) => do
    close (execution.succeed (← Service.now) vars) (.ok ())
  | (vars, .error (.failed e)) => do
    close (execution.fail (← Service.now) e.message vars) (.error e)
  | (_, .error (.panicked message)) => do
    let failed := execution.fail (← Service.now) ("panic: " ++ message) execution.vars
    let _ ← Service.store (.updateExecution failed)
    return .error (.panicked message)

/-- Runs an enabled flow under an id. -/
def runFlow (engine : Engine) (flow : Flow) (executionId : ExecutionId) (request : FlowRequest) :
    Routine (Except EngineError Unit) := do
  match ← openExecution executionId request with
  | .error e => return .error e
  | .ok execution =>
    let run : Run :=
      ⟨engine, executionId, ⟨flow.id, flow.uid, flow.topic, engine.config.nodeTimeout⟩⟩
    let vars := initialVariables request.payload request.triggerType request.triggerId
    finish execution (← run.walk flow request.triggerType vars)

/-- Runs a flow under an id, if it exists and is enabled. -/
def executeUnder (engine : Engine) (executionId : ExecutionId) (request : FlowRequest) :
    Routine (Except EngineError ExecutionId) := do
  match ← Service.store (.getFlow request.flowId) with
  | .error e => return .error (.store e)
  | .ok none => return .error (.flowNotFound request.flowId)
  | .ok (some flow) =>
    if flow.enabled then
      match ← engine.runFlow flow executionId request with
      | .ok () => return .ok executionId
      | .error e => return .error e
    else return .error (.flowDisabled request.flowId)

/-- Executes a flow for an event, under the given id or, without one that is not
blank, under a fresh one. -/
def execute (engine : Engine) (executionId : Option ExecutionId) (request : FlowRequest) :
    Routine (Except EngineError ExecutionId) := do
  match executionId.filter fun id => ! id.isBlank with
  | some id => engine.executeUnder id request
  | none => engine.executeUnder (← Service.freshId) request

end Engine

end EventFlow
