import EventFlow.Store.Basic

/-!
# Calls of a store

The operations of a store as data, with the type of what each returns, and how
the tables answer them.
-/

namespace EventFlow

/-- An operation of a store with its arguments. -/
inductive StoreCall where
  | getFlow (id : FlowId)
  | listFlows (uid topic : String)
  | createFlow (flow : Flow)
  | updateFlow (flow : Flow)
  | listNodes (id : FlowId)
  | createNode (node : Node)
  | updateNode (node : Node)
  | listEdges (id : FlowId)
  | createEdge (edge : Edge)
  | getExecution (id : ExecutionId)
  | createExecution (execution : Execution)
  | updateExecution (execution : Execution)
  | listExecutions (id : FlowId) (limit : Nat)
  | createJob (job : Job)
  | updateJob (job : Job)
  | listJobs (id : ExecutionId)
  | listRateLimits (id : FlowId) (nodeId : String)
  | createRateLimit (rule : RateLimit)

namespace StoreCall

/-- What an operation returns when it is not refused. -/
def Result : StoreCall → Type
  | .getFlow _ => Option Flow
  | .listFlows _ _ => List Flow
  | .createFlow _ => Flow
  | .updateFlow _ => Unit
  | .listNodes _ => List Node
  | .createNode _ => Node
  | .updateNode _ => Unit
  | .listEdges _ => List Edge
  | .createEdge _ => Edge
  | .getExecution _ => Option Execution
  | .createExecution _ => Unit
  | .updateExecution _ => Unit
  | .listExecutions _ _ => List Execution
  | .createJob _ => Job
  | .updateJob _ => Unit
  | .listJobs _ => List Job
  | .listRateLimits _ _ => List RateLimit
  | .createRateLimit _ => RateLimit

/-- The name of an operation. -/
def name : StoreCall → String
  | .getFlow _ => "get_flow"
  | .listFlows _ _ => "list_flows"
  | .createFlow _ => "create_flow"
  | .updateFlow _ => "update_flow"
  | .listNodes _ => "list_nodes"
  | .createNode _ => "create_node"
  | .updateNode _ => "update_node"
  | .listEdges _ => "list_edges"
  | .createEdge _ => "create_edge"
  | .getExecution _ => "get_execution"
  | .createExecution _ => "create_execution"
  | .updateExecution _ => "update_execution"
  | .listExecutions _ _ => "list_executions"
  | .createJob _ => "create_job"
  | .updateJob _ => "update_job"
  | .listJobs _ => "list_jobs"
  | .listRateLimits _ _ => "list_rate_limits"
  | .createRateLimit _ => "create_rate_limit"

/-- What an operation returns where nothing is stored: no row, no rows, success
without effect, and for a creation the row as it was given. -/
def emptyResult : (call : StoreCall) → call.Result
  | .getFlow _ => none
  | .listFlows _ _ => []
  | .createFlow flow => flow
  | .updateFlow _ => ()
  | .listNodes _ => []
  | .createNode node => node
  | .updateNode _ => ()
  | .listEdges _ => []
  | .createEdge edge => edge
  | .getExecution _ => none
  | .createExecution _ => ()
  | .updateExecution _ => ()
  | .listExecutions _ _ => []
  | .createJob job => job
  | .updateJob _ => ()
  | .listJobs _ => []
  | .listRateLimits _ _ => []
  | .createRateLimit rule => rule

end StoreCall

namespace Store

/-- A change of the tables as the answer to an operation that returns nothing. -/
def changed (s : Store) : Except StoreError Store → Except StoreError Unit × Store
  | .ok t => (.ok (), t)
  | .error e => (.error e, s)

/-- Answers an operation at a time. -/
def answer (now : Instant) (s : Store) :
    (call : StoreCall) → Except StoreError call.Result × Store
  | .getFlow id => (.ok (s.getFlow id), s)
  | .listFlows uid topic => (.ok (s.listFlows uid topic), s)
  | .createFlow flow => let (row, t) := s.createFlow flow; (.ok row, t)
  | .updateFlow flow => s.changed (s.updateFlow now flow)
  | .listNodes id => (.ok (s.listNodes id), s)
  | .createNode node =>
    match s.createNode node with
    | .ok (row, t) => (.ok row, t)
    | .error e => (.error e, s)
  | .updateNode node => s.changed (s.updateNode now node)
  | .listEdges id => (.ok (s.listEdges id), s)
  | .createEdge edge => let (row, t) := s.createEdge edge; (.ok row, t)
  | .getExecution id => (.ok (s.getExecution id), s)
  | .createExecution execution => s.changed (s.createExecution execution)
  | .updateExecution execution => s.changed (s.updateExecution execution)
  | .listExecutions id limit => (.ok (s.listExecutions id limit), s)
  | .createJob job => let (row, t) := s.createJob job; (.ok row, t)
  | .updateJob job => s.changed (s.updateJob job)
  | .listJobs id => (.ok (s.listJobs id), s)
  | .listRateLimits id nodeId => (.ok (s.listRateLimits id nodeId), s)
  | .createRateLimit rule => let (row, t) := s.createRateLimit rule; (.ok row, t)

end Store

end EventFlow
