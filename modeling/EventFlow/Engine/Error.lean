import EventFlow.Rule.Registry
import EventFlow.Store.Basic

/-!
# Errors of executions

Why a single node fails, and why an execution does.
-/

namespace EventFlow

/-- Why a node fails. -/
inductive NodeError where
  | registry (e : RegistryError)
  | rule (e : RuleError)
  | timeout (limit : Duration)
  deriving DecidableEq, Repr

/-- The error in words. -/
def NodeError.message : NodeError → String
  | .registry e => e.message
  | .rule e => e.message
  | .timeout limit => s!"timed out after {limit.wholeSeconds}s"

/-- Why an execution fails. -/
inductive EngineError where
  | flowNotFound (flowId : FlowId)
  | flowDisabled (flowId : FlowId)
  | boundToOtherFlow (executionId : ExecutionId) (boundTo : FlowId)
  | noTriggerNodes (flowId : FlowId)
  | cycleDetected (nodeId : String)
  | maxDepthExceeded (nodeId : String) (maxDepth : Nat)
  | nodeFailed (nodeId : String) (source : NodeError)
  | panicked (message : String)
  | store (e : StoreError)
  deriving DecidableEq, Repr

/-- The error in words. -/
def EngineError.message : EngineError → String
  | .flowNotFound flowId => s!"flow not found: {flowId.display}"
  | .flowDisabled flowId => s!"flow is disabled: {flowId.display}"
  | .boundToOtherFlow executionId boundTo =>
    s!"execution {executionId.text} already bound to flow {boundTo.display}"
  | .noTriggerNodes flowId => s!"no trigger nodes found in flow {flowId.display}"
  | .cycleDetected nodeId => s!"cycle detected at node {nodeId}"
  | .maxDepthExceeded nodeId maxDepth => s!"max depth {maxDepth} exceeded at node {nodeId}"
  | .nodeFailed nodeId source => s!"node {nodeId} execution failed: {source.message}"
  | .panicked message => s!"flow execution panicked: {message}"
  | .store e => e.message

end EventFlow
