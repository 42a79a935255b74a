import EventFlow.Condition
import EventFlow.Id
import EventFlow.Time.Basic

/-!
# Flows, nodes and edges

A flow is a directed graph of nodes that its owner has drawn.  Trigger nodes
turn an event into variables, action nodes do something with them, and filter
and condition nodes are gates: the walk passes only when their conditions hold.
Nodes are named within their flow; rows of every table are numbered by the
store.
-/

namespace EventFlow

/-- A stored automation. -/
structure Flow where
  id : FlowId
  uid : String
  topic : String
  name : String
  description : String
  enabled : Bool
  createdAt : Instant
  updatedAt : Instant

namespace Flow

/-- An enabled flow that is not stored yet. -/
def create (now : Instant) (uid topic name : String) : Flow :=
  ⟨.unassigned, uid, topic, name, "", true, now, now⟩

/-- Switches the flow on or off. -/
def setEnabled (flow : Flow) (enabled : Bool) (now : Instant) : Flow :=
  { flow with enabled, updatedAt := now }

end Flow

/-- The role of a node. -/
inductive NodeType where
  | trigger
  | action
  | filter
  | condition
  deriving DecidableEq, Repr

namespace NodeType

/-- The name of the role in records. -/
def name : NodeType → String
  | .trigger => "trigger"
  | .action => "action"
  | .filter => "filter"
  | .condition => "condition"

/-- Do the conditions of such nodes decide whether they are entered? -/
def isGate : NodeType → Bool
  | .filter => true
  | .condition => true
  | _ => false

end NodeType

/-- The separator between the bot and the rule in a trigger type. -/
def triggerTypeSeparator : Char := '|'

/-- A node of a flow.  `nodeId` names it within the flow, `variables` is the
state that a polled trigger keeps from one poll to the next. -/
structure Node where
  id : Int
  flowId : FlowId
  nodeId : String
  nodeType : NodeType
  bot : String
  ruleId : String
  label : String
  parameters : Bag
  conditions : List Condition
  vars : Bag
  createdAt : Instant
  updatedAt : Instant

namespace Node

/-- A node with a role and nothing else. -/
def create (now : Instant) (nodeId : String) (nodeType : NodeType) : Node :=
  ⟨0, .unassigned, nodeId, nodeType, "", "", "", [], [], [], now, now⟩

/-- A node that uses a rule: a trigger or an action. -/
def ofRule (now : Instant) (nodeType : NodeType) (nodeId bot ruleId : String) : Node :=
  { create now nodeId nodeType with bot, ruleId }

/-- A gate: a filter or a condition node. -/
def gate (now : Instant) (nodeType : NodeType) (nodeId : String)
    (conditions : List Condition) : Node :=
  { create now nodeId nodeType with conditions }

/-- Is the node a trigger? -/
def isTrigger (node : Node) : Bool :=
  node.nodeType == .trigger

/-- The trigger type that the node answers to. -/
def triggerType (node : Node) : String :=
  node.bot ++ String.singleton triggerTypeSeparator ++ node.ruleId

/-- A gate whose conditions do not hold is closed; no other node ever is. -/
def isClosed (node : Node) (vars : Bag) : Bool :=
  node.nodeType.isGate && !Condition.allHold node.conditions vars

end Node

/-- A directed edge between two nodes of a flow. -/
structure Edge where
  id : Int
  flowId : FlowId
  sourceNode : String
  targetNode : String
  edgeType : String
  createdAt : Instant
  deriving DecidableEq, Repr

/-- An edge that is not stored yet. -/
def Edge.create (now : Instant) (sourceNode targetNode : String) : Edge :=
  ⟨0, .unassigned, sourceNode, targetNode, "", now⟩

end EventFlow
