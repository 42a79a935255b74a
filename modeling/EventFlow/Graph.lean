import EventFlow.Flow

/-!
# Graphs of flows

The nodes and edges of a flow, indexed for a walk.  Of two nodes with one name
the first counts, and an edge counts only if both of its ends are there when it
is added.  Successors come in the order in which the edges were added, once for
every edge.
-/

namespace EventFlow

/-- Nodes with different names, and edges between them. -/
structure Graph where
  nodes : List Node
  edges : List Edge

namespace Graph

/-- No nodes. -/
def empty : Graph := ⟨[], []⟩

/-- The node with a name. -/
def get? (g : Graph) (nodeId : String) : Option Node :=
  g.nodes.find? fun n => n.nodeId == nodeId

/-- Is there a node with the name? -/
def hasNode (g : Graph) (nodeId : String) : Bool :=
  g.nodes.any fun n => n.nodeId == nodeId

/-- Adds a node, unless its name is taken; tells whether it was added. -/
def addNode (g : Graph) (node : Node) : Bool × Graph :=
  if g.hasNode node.nodeId then (false, g) else (true, { g with nodes := g.nodes ++ [node] })

/-- Adds an edge, unless an end is missing; tells whether it was added. -/
def addEdge (g : Graph) (edge : Edge) : Bool × Graph :=
  if g.hasNode edge.sourceNode && g.hasNode edge.targetNode then
    (true, { g with edges := g.edges ++ [edge] })
  else (false, g)

/-- The graph of rows: all nodes are added before the edges. -/
def ofRows (nodes : List Node) (edges : List Edge) : Graph :=
  edges.foldl (fun g e => (g.addEdge e).2) (nodes.foldl (fun g n => (g.addNode n).2) empty)

/-- The triggers, in the order in which they were added. -/
def triggers (g : Graph) : List Node :=
  g.nodes.filter Node.isTrigger

/-- The names of the ends of the edges that leave a node. -/
def targets (g : Graph) (nodeId : String) : List String :=
  (g.edges.filter fun e => e.sourceNode == nodeId).map (·.targetNode)

/-- The nodes at the ends of the edges that leave a node. -/
def successors (g : Graph) (nodeId : String) : List Node :=
  (g.targets nodeId).filterMap g.get?

/-- The names reached from a frontier in so many steps, on top of those seen. -/
def spread (g : Graph) : Nat → List String → List String → List String
  | 0, _, seen => seen
  | _, [], seen => seen
  | n + 1, frontier, seen =>
    let next := ((frontier.flatMap g.targets).filter fun id => ! seen.contains id).eraseDups
    g.spread n next (seen ++ next)

/-- The names that are reached from a node by one edge or more. -/
def reachable (g : Graph) (nodeId : String) : List String :=
  let first := (g.targets nodeId).eraseDups
  g.spread g.nodes.length first first

/-- Is a node reached from itself? -/
def hasCycle (g : Graph) : Bool :=
  g.nodes.any fun n => (g.reachable n.nodeId).contains n.nodeId

end Graph

end EventFlow
