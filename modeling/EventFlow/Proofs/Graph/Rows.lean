import EventFlow.Graph
import EventFlow.Proofs.Store.WellFormed

/-!
# The graph of a stored flow

The nodes of a stored flow have different names.  So its graph has all of them, in the
order of their rows, and a node is followed by those of its edges whose ends are
stored, in the order of their rows.
-/

namespace EventFlow

/-! ## Rows -/

namespace Store

/-- No two nodes of a flow share a name. -/
def NodesNamed (s : Store) : Prop :=
  (s.nodes.map fun node => (node.flowId, node.nodeId)).Nodup

theorem sameNode_iff {a b : Node} :
    sameNode a b = true ↔ (a.flowId, a.nodeId) = (b.flowId, b.nodeId) := by
  simp [sameNode]

theorem NodesNamed.answer {s : Store} (named : s.NodesNamed) (now : Instant) (call : StoreCall) :
    (s.answer now call).2.NodesNamed := by
  have agrees := s.agreesBut_answer now call
  cases call with
  | createNode node =>
      by_cases taken : s.nodes.any fun n => sameNode n node
      · simpa [Store.answer, createNode, taken] using named
      · have free : ∀ n ∈ s.nodes, (n.flowId, n.nodeId) ≠ (node.flowId, node.nodeId) := by
          intro n nMem same
          exact taken (List.any_eq_true.mpr ⟨n, nMem, sameNode_iff.mpr same⟩)
        have created : (s.answer now (.createNode node)).2.nodes =
            s.nodes ++ [{ node with id := s.lastId + 1 }] := by
          simp [Store.answer, createNode, taken]
        rw [NodesNamed, created, List.map_append, List.nodup_append]
        refine ⟨named, by simp, ?_⟩
        intro name nameMem other otherMem
        rcases List.mem_map.mp nameMem with ⟨n, nMem, rfl⟩
        rcases List.mem_map.mp otherMem with ⟨m, mMem, rfl⟩
        rw [List.mem_singleton.mp mMem]
        exact free n nMem
  | updateNode node =>
      simp only [Store.answer, updateNode]
      split
      · rename_i nodes replaced
        have sameNames := map_of_replaceFirst? (f := fun n => (n.flowId, n.nodeId)) replaced
          fun n same => sameNode_iff.mp same
        simpa [changed, NodesNamed, sameNames] using named
      · exact named
  | _ =>
      rw [NodesNamed, agrees.nodes (by simp [StoreCall.table?])]
      exact named

theorem Reachable.nodesNamed {s : Store} (reachable : s.Reachable) : s.NodesNamed := by
  induction reachable with
  | empty => exact List.nodup_nil
  | answer _ now call named => exact named.answer now call

/-- The names of the nodes of one flow are different. -/
theorem NodesNamed.listNodes {s : Store} (named : s.NodesNamed) (flowId : FlowId) :
    ((s.listNodes flowId).map (·.nodeId)).Nodup := by
  refine List.Nodup.of_map (fun name => (flowId, name)) ?_
  have sameNames : ((s.listNodes flowId).map (·.nodeId)).map (fun name => (flowId, name)) =
      (s.listNodes flowId).map fun node => (node.flowId, node.nodeId) := by
    rw [List.map_map]
    apply List.map_congr_left
    intro node nodeMem
    have owned : node.flowId = flowId := by simpa using (List.mem_filter.mp nodeMem).2
    simp [owned]
  rw [sameNames]
  exact named.sublist (List.filter_sublist.map _)

/-- The graph of a flow. -/
def graph (s : Store) (flowId : FlowId) : Graph :=
  .ofRows (s.listNodes flowId) (s.listEdges flowId)

/-- The nodes that follow a node of a flow: those at the ends of its edges, as far as they
are stored, once for every edge. -/
def followers (s : Store) (flowId : FlowId) (node : Node) : List Node :=
  ((s.listEdges flowId).filter fun edge => edge.sourceNode == node.nodeId).filterMap fun edge =>
    (s.listNodes flowId).find? fun other => other.nodeId == edge.targetNode

end Store

/-! ## Graphs -/

namespace Graph

variable {g : Graph} {nodes : List Node} {edges : List Edge}

/-- Nodes with new and different names are all added. -/
theorem foldl_addNode (distinct : ((g.nodes ++ nodes).map (·.nodeId)).Nodup) :
    nodes.foldl (fun g n => (g.addNode n).2) g = { g with nodes := g.nodes ++ nodes } := by
  induction nodes generalizing g with
  | nil => simp
  | cons node rest ih =>
      have free : g.hasNode node.nodeId = false := by
        simp only [List.map_append, List.map_cons] at distinct
        have apart := (List.nodup_append.mp distinct).2.2
        simp only [hasNode, List.any_eq_false]
        intro other otherMem
        simpa using apart other.nodeId (List.mem_map_of_mem otherMem) node.nodeId List.mem_cons_self
      have added : (g.addNode node).2 = { g with nodes := g.nodes ++ [node] } := by
        simp [addNode, free]
      rw [List.foldl_cons, added, ih (by simpa using distinct)]
      simp

theorem hasNode_addNode_iff {node : Node} {nodeId : String} :
    (g.addNode node).2.hasNode nodeId = true ↔ g.hasNode nodeId = true ∨ nodeId = node.nodeId := by
  unfold addNode
  split
  · rename_i taken
    constructor
    · exact .inl
    · rintro (there | rfl)
      · exact there
      · exact taken
  · simp [hasNode, eq_comm (a := nodeId)]

/-- A graph has the nodes that its rows name, whether names are taken or not. -/
theorem hasNode_ofRows_iff {nodeId : String} :
    (ofRows nodes []).hasNode nodeId = true ↔ nodeId ∈ nodes.map (·.nodeId) := by
  have added (g : Graph) : (nodes.foldl (fun g n => (g.addNode n).2) g).hasNode nodeId = true ↔
      g.hasNode nodeId = true ∨ nodeId ∈ nodes.map (·.nodeId) := by
    induction nodes generalizing g with
    | nil => simp
    | cons node rest ih =>
        rw [List.foldl_cons, ih, hasNode_addNode_iff, or_assoc, List.map_cons, List.mem_cons]
  have bare : (empty : Graph).hasNode nodeId = true ↔ False := by simp [empty, hasNode]
  rw [ofRows, List.foldl_nil, added, bare, false_or]

/-- Edges are added as far as their ends are there. -/
theorem foldl_addEdge (g : Graph) (edges : List Edge) :
    edges.foldl (fun g e => (g.addEdge e).2) g =
      { g with
        edges := g.edges ++ edges.filter fun e =>
          g.hasNode e.sourceNode && g.hasNode e.targetNode } := by
  induction edges generalizing g with
  | nil => simp
  | cons edge rest ih =>
      rw [List.foldl_cons, ih]
      unfold addEdge
      split
      · rename_i ends
        rw [List.filter_cons, if_pos ends]
        simp [hasNode]
      · rename_i ends
        rw [List.filter_cons, if_neg ends]

/-- The graph of rows with different names has all nodes, and the edges with both ends. -/
theorem ofRows_eq (distinct : (nodes.map (·.nodeId)).Nodup) :
    ofRows nodes edges =
      ⟨nodes, edges.filter fun e => (⟨nodes, []⟩ : Graph).hasNode e.sourceNode &&
        (⟨nodes, []⟩ : Graph).hasNode e.targetNode⟩ := by
  have added : nodes.foldl (fun g n => (g.addNode n).2) empty = ⟨nodes, []⟩ :=
    foldl_addNode (by simpa [empty] using distinct)
  rw [ofRows, added, foldl_addEdge]
  simp

/-- When the edges join nodes that are there, the graph has them all. -/
theorem ofRows_of_joined (distinct : (nodes.map (·.nodeId)).Nodup)
    (joined : ∀ edge ∈ edges, edge.sourceNode ∈ nodes.map (·.nodeId) ∧
      edge.targetNode ∈ nodes.map (·.nodeId)) : ofRows nodes edges = ⟨nodes, edges⟩ := by
  have there {nodeId : String} (named : nodeId ∈ nodes.map (·.nodeId)) :
      (⟨nodes, []⟩ : Graph).hasNode nodeId = true := by
    rcases List.mem_map.mp named with ⟨node, nodeMem, rfl⟩
    exact List.any_eq_true.mpr ⟨node, nodeMem, by simp⟩
  have all : edges.filter (fun e => (⟨nodes, []⟩ : Graph).hasNode e.sourceNode &&
      (⟨nodes, []⟩ : Graph).hasNode e.targetNode) = edges := by
    apply List.filter_eq_self.mpr
    intro edge edgeMem
    rcases joined edge edgeMem with ⟨source, target⟩
    simp [there source, there target]
  rw [ofRows_eq distinct, all]

@[simp]
theorem nodes_ofRows (distinct : (nodes.map (·.nodeId)).Nodup) :
    (ofRows nodes edges).nodes = nodes := by
  rw [ofRows_eq distinct]

/-- A node of the graph of a flow is followed by its followers among the rows. -/
theorem successors_ofRows {s : Store} (named : s.NodesNamed) (flowId : FlowId) {node : Node}
    (nodeMem : node ∈ s.listNodes flowId) :
    (ofRows (s.listNodes flowId) (s.listEdges flowId)).successors node.nodeId =
      s.followers flowId node := by
  rw [ofRows_eq (named.listNodes flowId)]
  set among : Graph := ⟨s.listNodes flowId, []⟩ with among_def
  have present : among.hasNode node.nodeId = true :=
    List.any_eq_true.mpr ⟨node, nodeMem, by simp⟩
  -- An edge that the graph leaves out has no node at its end.
  have missing {edge : Edge} (outside : among.hasNode edge.targetNode = false) :
      (s.listNodes flowId).find? (fun other => other.nodeId == edge.targetNode) = none := by
    simpa [hasNode, among_def, List.any_eq_false] using outside
  simp only [successors, targets, List.filter_filter, List.filterMap_map, Store.followers,
    List.filterMap_filter]
  apply List.filterMap_congr
  intro edge _
  by_cases leaves : edge.sourceNode = node.nodeId
  · by_cases ends : among.hasNode edge.targetNode = true
    · simp [leaves, ends, present, get?]
    · simp [leaves, ends, missing (by simpa using ends)]
  · simp [leaves]

/-! ## Edges -/

theorem nodeId_of_get? {nodeId : String} {node : Node} (found : g.get? nodeId = some node) :
    node.nodeId = nodeId := by
  simpa using List.find?_some found

/-- An edge leads from one node to another. -/
def Leads (g : Graph) (source target : String) : Prop :=
  ∃ edge ∈ g.edges, edge.sourceNode = source ∧ edge.targetNode = target

theorem leads_of_mem_successors {nodeId : String} {next : Node}
    (nextMem : next ∈ g.successors nodeId) : g.Leads nodeId next.nodeId := by
  rcases List.mem_filterMap.mp nextMem with ⟨target, targetMem, found⟩
  rcases List.mem_map.mp targetMem with ⟨edge, edgeMem, rfl⟩
  rcases List.mem_filter.mp edgeMem with ⟨edgeMem, leaves⟩
  exact ⟨edge, edgeMem, by simpa using leaves, (nodeId_of_get? found).symm⟩

end Graph

end EventFlow
