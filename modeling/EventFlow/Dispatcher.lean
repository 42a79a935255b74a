import EventFlow.Queue.Manager
import EventFlow.RateLimit.Check

/-!
# The dispatcher

Requests from outside pass through the dispatcher: the flow has to exist and to
be enabled, its rate limits must leave room, and then the request is submitted.
The call of a webhook stands for a request to the trigger that has its token.
-/

namespace EventFlow

/-- What a dispatcher is made of. -/
structure Dispatcher where
  registry : Registry
  queue : QueueManager

/-- Why a request is refused, or how it failed. -/
inductive DispatchError where
  | flowNotFound (flowId : FlowId)
  | flowDisabled (flowId : FlowId)
  | invalidToken
  | webhookNotFound (flowId : FlowId)
  | rateLimited (retryAfter : Duration)
  | engine (e : EngineError)
  | store (e : StoreError)
  deriving DecidableEq, Repr

/-- The error in words. -/
def DispatchError.message : DispatchError → String
  | .flowNotFound flowId => s!"flow not found: {flowId.display}"
  | .flowDisabled flowId => s!"flow is disabled: {flowId.display}"
  | .invalidToken => "invalid webhook token"
  | .webhookNotFound flowId => s!"webhook trigger not found for flow {flowId.display}"
  | .rateLimited retryAfter => s!"rate limit exceeded, retry after {retryAfter.wholeSeconds}s"
  | .engine e => e.message
  | .store e => e.message

namespace Dispatcher

/-- The parameter of a node that holds the token of a webhook. -/
def tokenKey : String := "token"

/-- Loads a flow that is enabled. -/
def loadFlow (flowId : FlowId) : Routine (Except DispatchError Flow) := do
  match ← Service.store (.getFlow flowId) with
  | .error e => return .error (.store e)
  | .ok none => return .error (.flowNotFound flowId)
  | .ok (some flow) => return if flow.enabled then .ok flow else .error (.flowDisabled flowId)

/-- Submits a request if the rate limits leave room.  Limits that cannot be
loaded do not hold a request up. -/
def submitWithinLimits (dispatcher : Dispatcher) (request : FlowRequest) :
    Routine (Except DispatchError Submission) := do
  match ← RateLimit.checkFlow request.flowId "" with
  | .ok (.exceeded retryAfter _) => return .error (.rateLimited retryAfter)
  | _ => return (← dispatcher.queue.submit request).mapError .engine

/-- Submits a request for a flow. -/
def trigger (dispatcher : Dispatcher) (request : FlowRequest) :
    Routine (Except DispatchError Submission) := do
  match ← loadFlow request.flowId with
  | .error e => return .error e
  | .ok _ => dispatcher.submitWithinLimits request

/-- Does a node answer the calls with a token? -/
def answersToken (dispatcher : Dispatcher) (token : String) (node : Node) : Bool :=
  node.isTrigger && node.parameters.getString? tokenKey == some token &&
    match dispatcher.registry.findTrigger node.bot node.ruleId with
    | .ok rule => rule.mode == .webhook
    | .error _ => false

/-- Submits the request that the call of a webhook stands for. -/
def triggerWebhook (dispatcher : Dispatcher) (flowId : FlowId) (token : String) (payload : Bag) :
    Routine (Except DispatchError Submission) := do
  let token := Text.trim token
  if token = "" then return .error .invalidToken
  else
    match ← loadFlow flowId with
    | .error e => return .error e
    | .ok _ =>
      match ← Service.store (.listNodes flowId) with
      | .error e => return .error (.store e)
      | .ok nodes =>
        match nodes.find? (dispatcher.answersToken token) with
        | none => return .error (.webhookNotFound flowId)
        | some node => dispatcher.submitWithinLimits ⟨flowId, node.triggerType, token, payload⟩

/-- The newest executions of a flow. -/
def history (flowId : FlowId) (limit : Nat) : Routine (Except DispatchError (List Execution)) := do
  return (← Service.store (.listExecutions flowId limit)).mapError .store

/-- The jobs of an execution. -/
def executionJobs (executionId : ExecutionId) : Routine (Except DispatchError (List Job)) := do
  return (← Service.store (.listJobs executionId)).mapError .store

end Dispatcher

end EventFlow
