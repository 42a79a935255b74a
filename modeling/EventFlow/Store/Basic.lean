import EventFlow.Execution
import EventFlow.Job
import EventFlow.RateLimit.Basic

/-!
# The store

Flows with their nodes and edges, executions with their jobs, and rate limits.
All rows but executions and nodes are known by a number, and one counter numbers
the rows of all tables; nodes are known by their name within their flow and
executions by the id that they are given.  An operation that is refused changes
nothing.
-/

namespace EventFlow

/-- The kinds of rows that errors of a store name. -/
inductive StoreEntity where
  | flow
  | node
  | execution
  | job
  | record
  deriving DecidableEq, Repr

/-- The kind in words. -/
def StoreEntity.name : StoreEntity → String
  | .flow => "flow"
  | .node => "node"
  | .execution => "execution"
  | .job => "job"
  | .record => "record"

/-- Why a store refuses an operation. -/
inductive StoreError where
  | notFound (entity : StoreEntity) (id : String)
  | conflict (entity : StoreEntity) (id : String)
  | backend (reason : String)
  deriving DecidableEq, Repr

namespace StoreError

/-- The error in words. -/
def message : StoreError → String
  | .notFound entity id => s!"{entity.name} not found: {id}"
  | .conflict entity id => s!"{entity.name} already exists: {id}"
  | .backend reason => s!"store error: {reason}"

/-- Is a key taken already? -/
def isConflict : StoreError → Bool
  | .conflict _ _ => true
  | _ => false

end StoreError

/-- The tables of a store.  `lastId` is the number that was given last. -/
structure Store where
  lastId : Int
  flows : List Flow
  nodes : List Node
  edges : List Edge
  executions : List Execution
  jobs : List Job
  rateLimits : List RateLimit

namespace Store

/-- A store without rows. -/
def empty : Store := ⟨0, [], [], [], [], [], []⟩

/-- Replaces the first row with a property, if there is one. -/
def replaceFirst? {α : Type} (p : α → Bool) (row : α) : List α → Option (List α)
  | [] => none
  | a :: rest => if p a then some (row :: rest) else (replaceFirst? p row rest).map (a :: ·)

/-! ## Flows -/

/-- The flow with an id. -/
def getFlow (s : Store) (id : FlowId) : Option Flow :=
  s.flows.find? fun f => f.id == id

/-- The flows of an owner and a topic; the empty text stands for any. -/
def listFlows (s : Store) (uid topic : String) : List Flow :=
  s.flows.filter fun f => (uid == "" || f.uid == uid) && (topic == "" || f.topic == topic)

/-- Adds a flow under the next number. -/
def createFlow (s : Store) (flow : Flow) : Flow × Store :=
  let flow := { flow with id := ⟨s.lastId + 1⟩ }
  (flow, { s with lastId := s.lastId + 1, flows := s.flows ++ [flow] })

/-- Replaces a flow. -/
def updateFlow (s : Store) (now : Instant) (flow : Flow) : Except StoreError Store :=
  match replaceFirst? (fun f => f.id == flow.id) { flow with updatedAt := now } s.flows with
  | some flows => .ok { s with flows }
  | none => .error (.notFound .flow flow.id.display)

/-! ## Nodes and edges -/

/-- Are the nodes of one flow and one name? -/
def sameNode (a b : Node) : Bool :=
  a.flowId == b.flowId && a.nodeId == b.nodeId

/-- The nodes of a flow. -/
def listNodes (s : Store) (id : FlowId) : List Node :=
  s.nodes.filter fun n => n.flowId == id

/-- Adds a node under the next number, unless its flow has one of the name. -/
def createNode (s : Store) (node : Node) : Except StoreError (Node × Store) :=
  if s.nodes.any fun n => sameNode n node then .error (.conflict .node node.nodeId)
  else
    let node := { node with id := s.lastId + 1 }
    .ok (node, { s with lastId := s.lastId + 1, nodes := s.nodes ++ [node] })

/-- Replaces a node. -/
def updateNode (s : Store) (now : Instant) (node : Node) : Except StoreError Store :=
  match replaceFirst? (fun n => sameNode n node) { node with updatedAt := now } s.nodes with
  | some nodes => .ok { s with nodes }
  | none => .error (.notFound .node node.nodeId)

/-- The edges of a flow. -/
def listEdges (s : Store) (id : FlowId) : List Edge :=
  s.edges.filter fun e => e.flowId == id

/-- Adds an edge under the next number. -/
def createEdge (s : Store) (edge : Edge) : Edge × Store :=
  let edge := { edge with id := s.lastId + 1 }
  (edge, { s with lastId := s.lastId + 1, edges := s.edges ++ [edge] })

/-! ## Executions -/

/-- The execution with an id. -/
def getExecution (s : Store) (id : ExecutionId) : Option Execution :=
  s.executions.find? fun e => e.executionId == id

/-- Adds an execution, unless its id is taken. -/
def createExecution (s : Store) (execution : Execution) : Except StoreError Store :=
  if (s.getExecution execution.executionId).isSome then
    .error (.conflict .execution execution.executionId.text)
  else .ok { s with executions := execution :: s.executions }

/-- Replaces an execution. -/
def updateExecution (s : Store) (execution : Execution) : Except StoreError Store :=
  match replaceFirst? (fun e => e.executionId == execution.executionId) execution s.executions with
  | some executions => .ok { s with executions }
  | none => .error (.notFound .execution execution.executionId.text)

/-- The order of a listing: the newest first, and of those created at the same
time the one with the greater id. -/
def newerFirst (a b : Execution) : Bool :=
  b.createdAt.isBefore a.createdAt ||
    (a.createdAt == b.createdAt && b.executionId.text ≤ a.executionId.text)

/-- The newest executions of a flow, so many at most. -/
def listExecutions (s : Store) (id : FlowId) (limit : Nat) : List Execution :=
  ((s.executions.filter fun e => e.flowId == id).mergeSort newerFirst).take limit

/-! ## Jobs -/

/-- Adds a job under the next number. -/
def createJob (s : Store) (job : Job) : Job × Store :=
  let job := { job with id := ⟨s.lastId + 1⟩ }
  (job, { s with lastId := s.lastId + 1, jobs := s.jobs ++ [job] })

/-- Replaces a job. -/
def updateJob (s : Store) (job : Job) : Except StoreError Store :=
  match replaceFirst? (fun j => j.id == job.id) job s.jobs with
  | some jobs => .ok { s with jobs }
  | none => .error (.notFound .job job.id.display)

/-- The jobs of an execution. -/
def listJobs (s : Store) (id : ExecutionId) : List Job :=
  s.jobs.filter fun j => j.executionId == id

/-! ## Rate limits -/

/-- The rate limits that apply to a node of a flow. -/
def listRateLimits (s : Store) (id : FlowId) (nodeId : String) : List RateLimit :=
  s.rateLimits.filter fun r => r.appliesTo id nodeId

/-- Adds a rate limit under the next number. -/
def createRateLimit (s : Store) (rule : RateLimit) : RateLimit × Store :=
  let rule := { rule with id := ⟨s.lastId + 1⟩ }
  (rule, { s with lastId := s.lastId + 1, rateLimits := s.rateLimits ++ [rule] })

end Store

end EventFlow
