import EventFlow.Proofs.Graph.Index

/-!
# Graphs that grow

A graph is built by adding nodes and edges in any order, and tells of each whether it was added.
What it holds afterwards is what was accepted: of the nodes offered under one name the first, and
the edges both of whose ends were accepted before them.  What is refused leaves no trace, not even
when a missing end comes later.  An index by number goes through the same calls with the same
answers.
-/

namespace EventFlow

/-- A node or an edge that is offered to a graph. -/
inductive Addition where
  | node (node : Node)
  | edge (edge : Edge)

/-- What has been offered, each with whether it was added. -/
abbrev Additions : Type := List (Addition × Bool)

namespace Addition

/-- The node that is offered. -/
def node? : Addition → Option Node
  | .node n => some n
  | .edge _ => none

/-- The edge that is offered. -/
def edge? : Addition → Option Edge
  | .node _ => none
  | .edge e => some e

@[simp]
theorem node?_node (n : Node) : node? (.node n) = some n := rfl

@[simp]
theorem node?_edge (e : Edge) : node? (.edge e) = none := rfl

@[simp]
theorem edge?_node (n : Node) : edge? (.node n) = none := rfl

@[simp]
theorem edge?_edge (e : Edge) : edge? (.edge e) = some e := rfl

/-- Offers one addition after the other, and notes for each whether it was added. -/
def offerAll {σ : Type} (add : σ → Addition → Bool × σ) (s : σ) :
    List Addition → Additions × σ
  | [] => ([], s)
  | call :: calls =>
    let rest := offerAll add (add s call).2 calls
    ((call, (add s call).1) :: rest.1, rest.2)

section OfferAll

variable {σ τ : Type} {add : σ → Addition → Bool × σ} {also : τ → Addition → Bool × τ} {s : σ}

theorem offerAll_append (add : σ → Addition → Bool × σ) (s : σ) (before after : List Addition) :
    offerAll add s (before ++ after) =
      ((offerAll add s before).1 ++ (offerAll add (offerAll add s before).2 after).1,
        (offerAll add (offerAll add s before).2 after).2) := by
  induction before generalizing s with
  | nil => rfl
  | cons call before ih =>
      rw [List.cons_append, offerAll, offerAll, ih]
      rfl

theorem map_fst_offerAll (add : σ → Addition → Bool × σ) (s : σ) (calls : List Addition) :
    (offerAll add s calls).1.map (·.1) = calls := by
  induction calls generalizing s with
  | nil => rfl
  | cons call calls ih => rw [offerAll, List.map_cons, ih]

/-- The answer to each call is given in the state that the calls before it have led to. -/
theorem offerAll_split {calls : List Addition} {front back : Additions} {call : Addition}
    {answer : Bool} (split : (offerAll add s calls).1 = front ++ (call, answer) :: back) :
    ∃ before, (offerAll add s before).1 = front ∧
      answer = (add (offerAll add s before).2 call).1 := by
  have same : calls = front.map (·.1) ++ call :: back.map (·.1) := by
    rw [← map_fst_offerAll add s calls, split]
    simp
  rw [same, offerAll_append] at split
  have lengths : (offerAll add s (front.map (·.1))).1.length = front.length := by
    simpa using congrArg List.length (map_fst_offerAll add s (front.map (·.1)))
  obtain ⟨first, rest⟩ := List.append_inj split lengths
  rw [offerAll] at rest
  exact ⟨_, first, (congrArg Prod.snd (List.cons.inj rest).1).symm⟩

/-- States that answer alike and stay related go through all calls with the same answers. -/
theorem offerAll_related {R : σ → τ → Prop} {t : τ}
    (step : ∀ s t call, R s t →
      (add s call).1 = (also t call).1 ∧ R (add s call).2 (also t call).2)
    (related : R s t) (calls : List Addition) :
    (offerAll add s calls).1 = (offerAll also t calls).1 ∧
      R (offerAll add s calls).2 (offerAll also t calls).2 := by
  induction calls generalizing s t with
  | nil => exact ⟨rfl, related⟩
  | cons call calls ih =>
      obtain ⟨sameAnswer, stillRelated⟩ := step s t call related
      obtain ⟨same, relatedRest⟩ := ih stillRelated
      rw [offerAll, offerAll, sameAnswer, same]
      exact ⟨rfl, relatedRest⟩

end OfferAll

end Addition

namespace Additions

variable {β : Type}

/-- What has been offered of a kind, accepted or not. -/
def offered (kind : Addition → Option β) (log : Additions) : List β :=
  log.filterMap fun entry => kind entry.1

/-- What has been accepted of a kind. -/
def accepted (kind : Addition → Option β) (log : Additions) : List β :=
  log.filterMap fun entry => if entry.2 then kind entry.1 else none

/-- The nodes that have been offered. -/
abbrev offeredNodes (log : Additions) : List Node := log.offered Addition.node?

/-- The nodes that have been accepted. -/
abbrev acceptedNodes (log : Additions) : List Node := log.accepted Addition.node?

/-- The edges that have been accepted. -/
abbrev acceptedEdges (log : Additions) : List Edge := log.accepted Addition.edge?

variable (kind : Addition → Option β) (log : Additions) (call : Addition) (answer : Bool)

/-- So many calls of a kind have been answered by yes. -/
theorem length_accepted :
    (log.accepted kind).length = log.countP fun entry => entry.2 && (kind entry.1).isSome := by
  rw [accepted, List.length_filterMap_eq_countP]
  apply List.countP_congr
  rintro ⟨call, answer⟩ -
  cases answer <;> simp

@[simp]
theorem offered_concat :
    offered kind (log ++ [(call, answer)]) = log.offered kind ++ (kind call).toList := by
  rw [offered, List.filterMap_append, offered]
  cases found : kind call <;> simp [found]

@[simp]
theorem accepted_concat :
    accepted kind (log ++ [(call, answer)]) =
      log.accepted kind ++ if answer then (kind call).toList else [] := by
  rw [accepted, List.filterMap_append, accepted]
  cases answer <;> cases found : kind call <;> simp [found]

end Additions

/-- Adds what is offered; tells whether it was added. -/
def GraphIndex.add (i : GraphIndex) : Addition → Bool × GraphIndex
  | .node n => i.addNode n
  | .edge e => i.addEdge e

namespace Graph

/-- Adds what is offered; tells whether it was added. -/
def add (g : Graph) : Addition → Bool × Graph
  | .node n => g.addNode n
  | .edge e => g.addEdge e

/-- What has been offered to a graph that was empty. -/
def history (calls : List Addition) : Additions :=
  (Addition.offerAll add empty calls).1

/-- The graph that has been built by all that was offered. -/
def grown (calls : List Addition) : Graph :=
  (Addition.offerAll add empty calls).2

variable {g : Graph} {calls before after : List Addition} {call : Addition} {nodeId : String}
  {node : Node} {edge : Edge} {answer : Bool} {log front back : Additions}

theorem isSome_get? (g : Graph) (nodeId : String) : (g.get? nodeId).isSome = g.hasNode nodeId := by
  rw [get?, List.isSome_find?, hasNode]

/-! ## What a graph holds -/

/-- A graph holds what was accepted, and finds the nodes that were offered first. -/
structure Holds (g : Graph) (log : Additions) : Prop where
  nodes : g.nodes = log.acceptedNodes
  edges : g.edges = log.acceptedEdges
  get? : ∀ nodeId, g.get? nodeId = log.offeredNodes.find? fun n => n.nodeId == nodeId
  ends : ∀ edge ∈ g.edges, g.hasNode edge.sourceNode = true ∧ g.hasNode edge.targetNode = true

theorem holds_empty : empty.Holds [] where
  nodes := rfl
  edges := rfl
  get? _ := rfl
  ends _ edgeMem := absurd edgeMem List.not_mem_nil

namespace Holds

theorem hasNode_iff_offered (holds : g.Holds log) :
    g.hasNode nodeId = true ↔ ∃ node ∈ log.offeredNodes, node.nodeId = nodeId := by
  rw [← isSome_get?, holds.get?, List.isSome_find?]
  simp

theorem hasNode_iff_accepted (holds : g.Holds log) :
    g.hasNode nodeId = true ↔ ∃ node ∈ log.acceptedNodes, node.nodeId = nodeId := by
  rw [hasNode, holds.nodes]
  simp

/-- A node whose name is taken is refused, and the one that took it is still found. -/
theorem refuse_node (holds : g.Holds log) (taken : g.hasNode node.nodeId = true) :
    g.Holds (log ++ [(.node node, false)]) where
  nodes := by simpa using holds.nodes
  edges := by simpa using holds.edges
  get? nodeId := by
    rw [Additions.offeredNodes, Additions.offered_concat, List.find?_append, ← holds.get?]
    by_cases here : node.nodeId = nodeId
    · rw [here, ← isSome_get?] at taken
      obtain ⟨first, first_eq⟩ := Option.isSome_iff_exists.mp taken
      rw [first_eq]
      rfl
    · simp [here]
  ends := holds.ends

/-- A node whose name is free is accepted, behind the others. -/
theorem accept_node (holds : g.Holds log) (node : Node) :
    Holds { g with nodes := g.nodes ++ [node] } (log ++ [(.node node, true)]) where
  nodes := by simp [holds.nodes]
  edges := by simpa using holds.edges
  get? nodeId := by
    have before := holds.get? nodeId
    rw [Graph.get?] at before ⊢
    rw [Additions.offeredNodes, Additions.offered_concat, List.find?_append, List.find?_append,
      before]
    rfl
  ends edge edgeMem := by
    have both := holds.ends edge edgeMem
    simp only [hasNode, List.any_append, Bool.or_eq_true] at both ⊢
    exact ⟨.inl both.1, .inl both.2⟩

theorem refuse_edge (holds : g.Holds log) (edge : Edge) :
    g.Holds (log ++ [(.edge edge, false)]) where
  nodes := by simpa using holds.nodes
  edges := by simpa using holds.edges
  get? nodeId := by simpa using holds.get? nodeId
  ends := holds.ends

/-- An edge between nodes that are there is accepted, behind the others. -/
theorem accept_edge (holds : g.Holds log)
    (both : g.hasNode edge.sourceNode = true ∧ g.hasNode edge.targetNode = true) :
    Holds { g with edges := g.edges ++ [edge] } (log ++ [(.edge edge, true)]) where
  nodes := by simpa using holds.nodes
  edges := by simp [holds.edges]
  get? nodeId := by
    rw [Additions.offeredNodes, Additions.offered_concat, Addition.node?_edge, Option.toList_none,
      List.append_nil]
    exact holds.get? nodeId
  ends other otherMem := by
    rcases List.mem_append.mp otherMem with otherMem | otherMem
    · exact holds.ends other otherMem
    · rw [List.mem_singleton.mp otherMem]
      exact both

/-- What a graph holds it holds together with one more addition. -/
theorem add (holds : g.Holds log) (call : Addition) :
    (g.add call).2.Holds (log ++ [(call, (g.add call).1)]) := by
  cases call with
  | node n =>
      cases taken : g.hasNode n.nodeId with
      | true => simpa [Graph.add, addNode, taken] using holds.refuse_node taken
      | false => simpa [Graph.add, addNode, taken] using holds.accept_node n
  | edge e =>
      by_cases both : g.hasNode e.sourceNode = true ∧ g.hasNode e.targetNode = true
      · simpa [Graph.add, addEdge, both] using holds.accept_edge both
      · have refused : (g.hasNode e.sourceNode && g.hasNode e.targetNode) = false := by
          simpa using both
        simpa [Graph.add, addEdge, refused] using holds.refuse_edge e

theorem offerAll (holds : g.Holds log) (calls : List Addition) :
    (Addition.offerAll Graph.add g calls).2.Holds
      (log ++ (Addition.offerAll Graph.add g calls).1) := by
  induction calls generalizing g log with
  | nil => simpa [Addition.offerAll] using holds
  | cons call calls ih => simpa [Addition.offerAll] using ih (holds.add call)

end Holds

/-- A graph that was empty holds what was accepted of all that has been offered. -/
theorem holds_history (calls : List Addition) : (grown calls).Holds (history calls) :=
  holds_empty.offerAll calls

/-! ## Answers -/

theorem add_node_iff : (g.add (.node node)).1 = true ↔ ¬ g.hasNode node.nodeId = true := by
  cases taken : g.hasNode node.nodeId <;> simp [add, addNode, taken]

theorem add_edge_iff :
    (g.add (.edge edge)).1 = true ↔
      g.hasNode edge.sourceNode = true ∧ g.hasNode edge.targetNode = true := by
  cases source : g.hasNode edge.sourceNode <;> cases target : g.hasNode edge.targetNode <;>
    simp [add, addEdge, source, target]

/-- What is refused changes nothing. -/
theorem add_of_refused (refused : (g.add call).1 = false) : (g.add call).2 = g := by
  cases call with
  | node n =>
      cases taken : g.hasNode n.nodeId with
      | true => simp [add, addNode, taken]
      | false => simp [add, addNode, taken] at refused
  | edge e =>
      cases both : g.hasNode e.sourceNode && g.hasNode e.targetNode with
      | true => simp [add, addEdge, both] at refused
      | false => simp [add, addEdge, both]

theorem grown_append (before after : List Addition) :
    grown (before ++ after) = (Addition.offerAll add (grown before) after).2 := by
  rw [grown, Addition.offerAll_append]
  rfl

/-- What is refused is as if it had not been offered, whatever comes later. -/
theorem grown_append_of_refused (refused : ((grown before).add call).1 = false)
    (after : List Addition) : grown (before ++ call :: after) = grown (before ++ after) := by
  rw [grown_append, grown_append, Addition.offerAll, add_of_refused refused]

/-- A node is accepted exactly if none was offered under its name before. -/
theorem answer_node_iff (split : history calls = front ++ (.node node, answer) :: back) :
    answer = true ↔ ∀ other ∈ front.offeredNodes, other.nodeId ≠ node.nodeId := by
  obtain ⟨before, rfl, rfl⟩ := Addition.offerAll_split split
  rw [← grown, add_node_iff, (holds_history before).hasNode_iff_offered]
  simp [history]

/-- An edge is accepted exactly if both of its ends were accepted before. -/
theorem answer_edge_iff (split : history calls = front ++ (.edge edge, answer) :: back) :
    answer = true ↔ (∃ source ∈ front.acceptedNodes, source.nodeId = edge.sourceNode) ∧
      ∃ target ∈ front.acceptedNodes, target.nodeId = edge.targetNode := by
  obtain ⟨before, rfl, rfl⟩ := Addition.offerAll_split split
  rw [← grown, add_edge_iff, (holds_history before).hasNode_iff_accepted,
    (holds_history before).hasNode_iff_accepted, history]

/-! ## Successors -/

namespace Holds

/-- The successors of a node are the nodes at the ends of its edges, once for each. -/
theorem map_some_successors (holds : g.Holds log) (nodeId : String) :
    (g.successors nodeId).map some =
      (log.acceptedEdges.filter fun e => e.sourceNode == nodeId).map fun e =>
        log.offeredNodes.find? fun n => n.nodeId == e.targetNode := by
  have found {ids : List String} (there : ∀ id ∈ ids, (g.get? id).isSome = true) :
      (ids.filterMap g.get?).map some = ids.map g.get? := by
    induction ids with
    | nil => rfl
    | cons id ids ih =>
        obtain ⟨node, node_eq⟩ := Option.isSome_iff_exists.mp (there id List.mem_cons_self)
        rw [List.filterMap_cons, node_eq, List.map_cons, List.map_cons,
          ih fun other otherMem => there other (List.mem_cons_of_mem _ otherMem), node_eq]
  have there : ∀ id ∈ g.targets nodeId, (g.get? id).isSome = true := by
    intro id idMem
    obtain ⟨edge, edgeMem, rfl⟩ := List.mem_map.mp idMem
    rw [isSome_get?]
    exact (holds.ends edge (List.mem_filter.mp edgeMem).1).2
  rw [successors, found there, targets, holds.edges, List.map_map]
  exact List.map_congr_left fun e _ => holds.get? e.targetNode

theorem successors_eq_nil (holds : g.Holds log)
    (unknown : ∀ node ∈ log.offeredNodes, node.nodeId ≠ nodeId) : g.successors nodeId = [] := by
  have missing : ¬ g.hasNode nodeId = true := by
    rw [holds.hasNode_iff_offered]
    rintro ⟨node, nodeMem, same⟩
    exact unknown node nodeMem same
  have none : g.targets nodeId = [] := by
    rw [targets, List.map_eq_nil_iff, List.filter_eq_nil_iff]
    intro edge edgeMem leaves
    rw [beq_iff_eq] at leaves
    exact missing (leaves ▸ (holds.ends edge edgeMem).1)
  rw [successors, none]
  rfl

/-- A node, or an edge that leaves another node, does not change the successors of a node. -/
theorem successors_add (holds : g.Holds log)
    (other : ∀ edge, call = .edge edge → edge.sourceNode ≠ nodeId) :
    (g.add call).2.successors nodeId = g.successors nodeId := by
  cases call with
  | node n =>
      simp only [Graph.add, addNode]
      split
      · rfl
      rw [successors, successors]
      apply List.filterMap_congr
      intro id idMem
      obtain ⟨edge, edgeMem, rfl⟩ := List.mem_map.mp idMem
      have there := (holds.ends edge (List.mem_filter.mp edgeMem).1).2
      rw [← isSome_get?] at there
      obtain ⟨node, node_eq⟩ := Option.isSome_iff_exists.mp there
      rw [node_eq, Graph.get?, List.find?_append, ← Graph.get?, node_eq]
      rfl
  | edge e =>
      have apart : (e.sourceNode == nodeId) = false := beq_eq_false_iff_ne.mpr (other e rfl)
      simp only [Graph.add, addEdge]
      split
      · have same : targets { g with edges := g.edges ++ [e] } nodeId = g.targets nodeId := by
          simp [targets, apart]
        rw [successors, same]
        rfl
      · rfl

end Holds

/-! ## By number -/

/-- An index that was empty goes through the same calls with the same answers as a graph. -/
theorem offerAll_index (calls : List Addition) :
    (Addition.offerAll GraphIndex.add .empty calls).1 = history calls ∧
      (Addition.offerAll GraphIndex.add .empty calls).2.Represents (grown calls) := by
  have step (i : GraphIndex) (g : Graph) (call : Addition) (represents : i.Represents g) :
      (i.add call).1 = (g.add call).1 ∧ (i.add call).2.Represents (g.add call).2 := by
    cases call with
    | node n => exact represents.addNode n
    | edge e => exact represents.addEdge e
  exact Addition.offerAll_related step GraphIndex.represents_empty calls

/-- After nodes and edges have been offered in any order, a graph holds what it has accepted: the
first node under each name, and each edge both of whose ends it had accepted before.  The
successors of a node are the nodes at the ends of its edges, in the order in which these were
accepted and once for each.  What is refused leaves no trace, and the successors of a node change
only by an edge that leaves it.  An index by number, which sorts the edges of a node by their
numbers, gives the same answers and the same successors. -/
theorem grown_indexes (calls : List Addition) :
    (history calls).map (·.1) = calls ∧
    (∀ front node answer back, history calls = front ++ (.node node, answer) :: back →
      (answer = true ↔ ∀ other ∈ Additions.offeredNodes front, other.nodeId ≠ node.nodeId)) ∧
    (∀ front edge answer back, history calls = front ++ (.edge edge, answer) :: back →
      (answer = true ↔
        (∃ source ∈ Additions.acceptedNodes front, source.nodeId = edge.sourceNode) ∧
          ∃ target ∈ Additions.acceptedNodes front, target.nodeId = edge.targetNode)) ∧
    (∀ nodeId, (grown calls).get? nodeId =
      (history calls).offeredNodes.find? fun n => n.nodeId == nodeId) ∧
    (grown calls).nodes = (history calls).acceptedNodes ∧
    (grown calls).triggers = (history calls).acceptedNodes.filter (·.nodeType == .trigger) ∧
    (∀ nodeId, ((grown calls).successors nodeId).map some =
      ((history calls).acceptedEdges.filter fun e => e.sourceNode == nodeId).map fun e =>
        (history calls).offeredNodes.find? fun n => n.nodeId == e.targetNode) ∧
    (∀ nodeId, (∀ node ∈ (history calls).offeredNodes, node.nodeId ≠ nodeId) →
      (grown calls).successors nodeId = []) ∧
    (grown calls).nodes.length =
      (history calls).countP (fun entry => entry.2 && entry.1.node?.isSome) ∧
    (grown calls).edges.length =
      (history calls).countP (fun entry => entry.2 && entry.1.edge?.isSome) ∧
    (∀ call after, ((grown calls).add call).1 = false →
      grown (calls ++ call :: after) = grown (calls ++ after)) ∧
    (∀ call nodeId, (∀ edge, call = .edge edge → edge.sourceNode ≠ nodeId) →
      (grown (calls ++ [call])).successors nodeId = (grown calls).successors nodeId) ∧
    (Addition.offerAll GraphIndex.add .empty calls).1 = history calls ∧
    ∀ nodeId,
      (Addition.offerAll GraphIndex.add .empty calls).2.get? nodeId =
        (grown calls).get? nodeId ∧
      (Addition.offerAll GraphIndex.add .empty calls).2.successors nodeId =
        (grown calls).successors nodeId := by
  have holds := holds_history calls
  obtain ⟨sameAnswers, represents⟩ := offerAll_index calls
  refine ⟨Addition.map_fst_offerAll _ _ _, fun _ _ _ _ => answer_node_iff,
    fun _ _ _ _ => answer_edge_iff, holds.get?, holds.nodes, ?_, holds.map_some_successors,
    fun _ => holds.successors_eq_nil, ?_, ?_, fun _ after refused =>
    grown_append_of_refused refused after, fun call nodeId other => ?_, sameAnswers,
    fun nodeId => ⟨represents.get?_eq nodeId, represents.successors_eq nodeId⟩⟩
  · rw [triggers, holds.nodes]
    rfl
  · rw [holds.nodes, Additions.length_accepted]
  · rw [holds.edges, Additions.length_accepted]
  · rw [grown_append]
    exact holds.successors_add other

/-- An edge that was refused for want of its target is not there when the target comes, and one
that is offered twice leads to two successors. -/
theorem grown_indexes_lateTarget :
    let node label nodeId :=
      { Node.create (.ofMilliseconds 0) nodeId .action with label := label }
    let edge := Edge.create (.ofMilliseconds 0)
    let front : Additions := [(.node (node "first" "a"), true)]
    let refused := Addition.edge (edge "a" "b")
    let before := [.node (node "first" "a"), refused, .node (node "second" "a"),
      .node (node "only" "b"), .edge (edge "a" "b")]
    let calls := before ++ [.edge (edge "a" "b")]
    (∃ back, history calls = [] ++ (.node (node "first" "a"), true) :: back) ∧
    (∀ other ∈ Additions.offeredNodes [], other.nodeId ≠ "a") ∧
    (∃ back, history calls = front ++ (refused, false) :: back) ∧
    ¬ (∃ target ∈ front.acceptedNodes, target.nodeId = "b") ∧
    (history calls).map (·.2) = [true, false, false, true, true, true] ∧
    ((grown calls).get? "a").map (·.label) = some "first" ∧
    (grown calls).successors "a" = [node "only" "b", node "only" "b"] ∧
    (grown calls).successors "c" = [] ∧
    (grown (before ++ [.edge (edge "a" "b")])).successors "b" = (grown before).successors "b" ∧
    grown ([.node (node "first" "a")] ++ refused :: [.node (node "only" "b")]) =
      grown ([.node (node "first" "a")] ++ [.node (node "only" "b")]) := by
  intro node edge front refused before calls
  obtain ⟨-, nodes, edges, get?, -, -, successors, unknown, -, -, -, -, -, -⟩ := grown_indexes calls
  obtain ⟨-, -, -, -, -, -, -, -, -, -, -, stable, -, -⟩ := grown_indexes before
  obtain ⟨-, -, -, -, -, -, -, -, -, -, traceless, -, -, -⟩ :=
    grown_indexes [.node (node "first" "a")]
  have splitNode : history calls = [] ++ (.node (node "first" "a"), true) :: _ := rfl
  have split : history calls = front ++ (refused, false) :: _ := rfl
  have missing := (edges _ _ _ _ split).mpr.mt Bool.false_ne_true
  refine ⟨⟨_, splitNode⟩, (nodes _ _ _ _ splitNode).mp rfl, ⟨_, split⟩,
    fun target => missing ⟨⟨_, List.mem_cons_self, rfl⟩, target⟩, rfl, ?_, ?_, ?_, ?_,
    traceless refused _ rfl⟩
  · rw [get? "a"]
    rfl
  · apply List.map_injective_iff.mpr fun _ _ => Option.some.inj
    rw [successors "a"]
    rfl
  · exact unknown "c" (by decide)
  · exact stable _ "b" fun _ same => by
      obtain rfl := Addition.edge.inj same
      decide

end Graph

end EventFlow
