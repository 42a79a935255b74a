import EventFlow.Proofs.Graph.Rows
import Mathlib.Data.List.Forall2

/-!
# Graphs by number

A graph can be kept so that no list is searched: nodes are numbered as they come, names lead to
numbers, and every node has the numbers of the edges that leave it, the newest first.  What is
added to such an index and to a graph is accepted by both or by neither, and the successors of a
node, read off the index in the order of its numbers, are those of the graph.
-/

namespace EventFlow

/-- A graph by number.  Edges are numbered as well, and lead from a number to a number. -/
structure GraphIndex where
  nodes : List Node
  numbers : List (String × Nat)
  ends : List (Nat × Nat)
  leaving : List (List Nat)

namespace GraphIndex

/-- No nodes. -/
def empty : GraphIndex := ⟨[], [], [], []⟩

/-- The number of a name. -/
def number? (i : GraphIndex) (nodeId : String) : Option Nat :=
  i.numbers.lookup nodeId

/-- The node with a name. -/
def get? (i : GraphIndex) (nodeId : String) : Option Node :=
  (i.number? nodeId).bind fun n => i.nodes[n]?

/-- Adds a node, unless its name has a number; tells whether it was added. -/
def addNode (i : GraphIndex) (node : Node) : Bool × GraphIndex :=
  if (i.number? node.nodeId).isSome then (false, i)
  else (true, { i with
    nodes := i.nodes ++ [node]
    numbers := (node.nodeId, i.nodes.length) :: i.numbers
    leaving := i.leaving ++ [[]] })

/-- Adds an edge, unless the name of an end has no number; tells whether it was added. -/
def addEdge (i : GraphIndex) (edge : Edge) : Bool × GraphIndex :=
  match i.number? edge.sourceNode, i.number? edge.targetNode with
  | some source, some target => (true, { i with
      ends := i.ends ++ [(source, target)]
      leaving := i.leaving.modify source (i.ends.length :: ·) })
  | _, _ => (false, i)

/-- The nodes at the ends of the edges that leave a node, in the order of the edges. -/
def successors (i : GraphIndex) (nodeId : String) : List Node :=
  match i.number? nodeId with
  | none => []
  | some n => ((i.leaving[n]?.getD []).mergeSort (· ≤ ·)).filterMap fun k =>
      i.ends[k]?.bind fun e => i.nodes[e.2]?

/-- The numbers of the edges that lead from a number, in order. -/
def edgesFrom (ends : List (Nat × Nat)) (n : Nat) : List Nat :=
  (ends.zipIdx.filter fun e => e.1.1 == n).map (·.2)

theorem edgesFrom_concat (ends : List (Nat × Nat)) (e : Nat × Nat) (n : Nat) :
    edgesFrom (ends ++ [e]) n = edgesFrom ends n ++ if e.1 = n then [ends.length] else [] := by
  simp only [edgesFrom, List.zipIdx_append, List.filter_append, List.map_append]
  by_cases here : e.1 = n <;> simp [here]

theorem edgesFrom_eq_nil {ends : List (Nat × Nat)} {n : Nat} (none : ∀ e ∈ ends, e.1 ≠ n) :
    edgesFrom ends n = [] := by
  rw [edgesFrom, List.map_eq_nil_iff, List.filter_eq_nil_iff]
  intro e eMem
  simpa using none e.1 (List.fst_mem_of_mem_zipIdx eMem)

/-- Numbers that have been put in front one after the other are sorted by turning them round. -/
theorem mergeSort_reverse_edgesFrom (ends : List (Nat × Nat)) (n : Nat) :
    (edgesFrom ends n).reverse.mergeSort (· ≤ ·) = edgesFrom ends n := by
  have ascending : (edgesFrom ends n).Pairwise (· ≤ ·) := by
    have sublist : (edgesFrom ends n).Sublist (List.range' 0 ends.length) := by
      rw [← List.zipIdx_map_snd 0 ends]
      exact List.filter_sublist.map _
    exact List.pairwise_le_range'.sublist sublist
  have sorted : ((edgesFrom ends n).reverse.mergeSort (· ≤ ·)).Pairwise fun a b =>
      decide (a ≤ b) = true :=
    List.pairwise_mergeSort (fun a b c => by simpa using Nat.le_trans)
      (fun a b => by simpa using Nat.le_total a b) _
  have perm := (List.mergeSort_perm (edgesFrom ends n).reverse (· ≤ ·)).trans (List.reverse_perm _)
  simp only [decide_eq_true_eq] at sorted
  exact perm.eq_of_pairwise (fun _ _ _ _ => Nat.le_antisymm) sorted ascending

theorem filterMap_edgesFrom {α : Type} (ends : List (Nat × Nat)) (n : Nat)
    (f : Nat × Nat → Option α) :
    ((edgesFrom ends n).filterMap fun k => ends[k]?.bind f) =
      (ends.filter fun e => e.1 == n).filterMap f := by
  have unnumbered : ends = ends.zipIdx.map (·.1) := (List.zipIdx_map_fst 0 ends).symm
  conv_rhs => rw [unnumbered, List.filter_map, List.filterMap_map]
  rw [edgesFrom, List.filterMap_map]
  apply List.filterMap_congr
  rintro ⟨e, k⟩ entryMem
  have found := List.mem_zipIdx_iff_getElem?.mp (List.mem_filter.mp entryMem).1
  simp [found]

/-! ## The graph of an index -/

/-- An edge leads from the number of its source to that of its target. -/
def Joins (i : GraphIndex) (edge : Edge) (e : Nat × Nat) : Prop :=
  i.number? edge.sourceNode = some e.1 ∧ i.number? edge.targetNode = some e.2

/-- An index of a graph: a name has the number of the first node with it, edges lead between the
numbers of their ends, and each node has the numbers of those that leave it. -/
structure Represents (i : GraphIndex) (g : Graph) : Prop where
  nodes : i.nodes = g.nodes
  number : ∀ nodeId, i.number? nodeId = g.nodes.findIdx? fun n => n.nodeId == nodeId
  ends : List.Forall₂ i.Joins g.edges i.ends
  leaving : ∀ n, i.leaving[n]? =
    if n < g.nodes.length then some (edgesFrom i.ends n).reverse else none

variable {i : GraphIndex} {g : Graph}

theorem represents_empty : empty.Represents .empty where
  nodes := rfl
  number _ := rfl
  ends := .nil
  leaving _ := rfl

namespace Represents

theorem get?_eq (represents : i.Represents g) (nodeId : String) :
    i.get? nodeId = g.get? nodeId := by
  rw [get?, represents.number, represents.nodes, Graph.get?, List.find?_eq_bind_findIdx?_getElem?]

theorem isSome_number? (represents : i.Represents g) (nodeId : String) :
    (i.number? nodeId).isSome = g.hasNode nodeId := by
  rw [represents.number, List.findIdx?_isSome, Graph.hasNode]

theorem number_lt (represents : i.Represents g) {nodeId : String} {n : Nat}
    (numbered : i.number? nodeId = some n) : n < g.nodes.length := by
  rw [represents.number] at numbered
  exact (List.findIdx?_eq_some_iff_getElem.mp numbered).1

/-- Different names have different numbers. -/
theorem eq_of_number? (represents : i.Represents g) {first second : String} {n : Nat}
    (numbered : i.number? first = some n) (also : i.number? second = some n) : first = second := by
  rw [represents.number] at numbered also
  obtain ⟨_, same, -⟩ := List.findIdx?_eq_some_iff_getElem.mp numbered
  obtain ⟨_, sameToo, -⟩ := List.findIdx?_eq_some_iff_getElem.mp also
  exact (beq_iff_eq.mp same).symm.trans (beq_iff_eq.mp sameToo)

theorem length_leaving (represents : i.Represents g) : i.leaving.length = g.nodes.length := by
  apply Nat.le_antisymm
  · apply List.getElem?_eq_none_iff.mp
    rw [represents.leaving, if_neg (Nat.lt_irrefl _)]
  · by_contra shorter
    have found := represents.leaving i.leaving.length
    rw [if_pos (by omega), List.getElem?_eq_none (Nat.le_refl _)] at found
    cases found

/-- Every edge leads from the number of a node. -/
theorem source_lt (represents : i.Represents g) {e : Nat × Nat} (eMem : e ∈ i.ends) :
    e.1 < g.nodes.length := by
  have below : List.Forall₂ (fun _ e => e.1 < g.nodes.length) g.edges i.ends :=
    represents.ends.imp fun _ _ joins => represents.number_lt joins.1
  generalize g.edges = edges at below
  generalize i.ends = ends at below eMem
  induction below with
  | nil => cases eMem
  | cons less _ ih =>
      rcases List.mem_cons.mp eMem with rfl | eMem
      · exact less
      · exact ih eMem

/-- A node whose name is free gets the next number, and no other name changes its number. -/
theorem append_node (represents : i.Represents g) {node : Node}
    (free : g.hasNode node.nodeId = false) :
    Represents
      { i with
        nodes := i.nodes ++ [node]
        numbers := (node.nodeId, i.nodes.length) :: i.numbers
        leaving := i.leaving ++ [[]] }
      { g with nodes := g.nodes ++ [node] } where
  nodes := by rw [represents.nodes]
  number nodeId := by
    have before := represents.number nodeId
    rw [number?] at before ⊢
    rw [List.lookup_cons, List.findIdx?_append, before, represents.nodes]
    by_cases here : nodeId = node.nodeId
    · subst here
      have missing : g.nodes.findIdx? (fun n => n.nodeId == node.nodeId) = none := by
        simpa [Graph.hasNode] using free
      simp [missing]
    · rw [beq_eq_false_iff_ne.mpr here]
      simp [Ne.symm here]
  ends := by
    have kept {nodeId : String} {n : Nat} (numbered : i.number? nodeId = some n) :
        ((node.nodeId, i.nodes.length) :: i.numbers).lookup nodeId = some n := by
      have apart : nodeId ≠ node.nodeId := by
        rintro rfl
        have taken := represents.isSome_number? node.nodeId
        rw [numbered, free] at taken
        cases taken
      rw [List.lookup_cons, beq_eq_false_iff_ne.mpr apart]
      exact numbered
    exact represents.ends.imp fun _ _ joins => ⟨kept joins.1, kept joins.2⟩
  leaving n := by
    rw [List.getElem?_append, represents.length_leaving, List.length_append, List.length_singleton]
    by_cases earlier : n < g.nodes.length
    · rw [if_pos earlier, represents.leaving, if_pos earlier, if_pos (by omega)]
    · rw [if_neg earlier]
      by_cases next : n = g.nodes.length
      · subst next
        have none : edgesFrom i.ends g.nodes.length = [] :=
          edgesFrom_eq_nil fun e eMem => Nat.ne_of_lt (represents.source_lt eMem)
        simp [none]
      · rw [if_neg (by omega), List.getElem?_eq_none (by simp; omega)]

theorem addNode (represents : i.Represents g) (node : Node) :
    (i.addNode node).1 = (g.addNode node).1 ∧
      (i.addNode node).2.Represents (g.addNode node).2 := by
  have taken := represents.isSome_number? node.nodeId
  cases there : g.hasNode node.nodeId with
  | true =>
      rw [there] at taken
      simpa [GraphIndex.addNode, Graph.addNode, taken, there] using represents
  | false =>
      rw [there] at taken
      simp only [GraphIndex.addNode, Graph.addNode, taken, there]
      exact ⟨rfl, represents.append_node there⟩

/-- An edge between numbers gets the next number, in front of the others that leave its source. -/
theorem append_edge (represents : i.Represents g) {edge : Edge} {source target : Nat}
    (leaves : i.number? edge.sourceNode = some source)
    (enters : i.number? edge.targetNode = some target) :
    Represents
      { i with
        ends := i.ends ++ [(source, target)]
        leaving := i.leaving.modify source (i.ends.length :: ·) }
      { g with edges := g.edges ++ [edge] } where
  nodes := represents.nodes
  number := represents.number
  ends := List.rel_append represents.ends (.cons ⟨leaves, enters⟩ .nil)
  leaving n := by
    rw [List.getElem?_modify, represents.leaving, edgesFrom_concat]
    by_cases there : n < g.nodes.length
    · by_cases here : source = n <;> simp [there, here]
    · simp [there]

theorem addEdge (represents : i.Represents g) (edge : Edge) :
    (i.addEdge edge).1 = (g.addEdge edge).1 ∧
      (i.addEdge edge).2.Represents (g.addEdge edge).2 := by
  have source := represents.isSome_number? edge.sourceNode
  have target := represents.isSome_number? edge.targetNode
  cases leaves : i.number? edge.sourceNode with
  | none =>
      rw [leaves] at source
      simpa [GraphIndex.addEdge, Graph.addEdge, leaves, ← source] using represents
  | some n =>
      rw [leaves] at source
      cases enters : i.number? edge.targetNode with
      | none =>
          rw [enters] at target
          simpa [GraphIndex.addEdge, Graph.addEdge, leaves, enters, ← target] using represents
      | some m =>
          rw [enters] at target
          simp only [GraphIndex.addEdge, Graph.addEdge, leaves, enters, ← source, ← target]
          exact ⟨rfl, represents.append_edge leaves enters⟩

/-- The number of a name is that of its node. -/
theorem getElem?_of_number? (represents : i.Represents g) {nodeId : String} {n : Nat}
    (numbered : i.number? nodeId = some n) : i.nodes[n]? = g.get? nodeId := by
  rw [← represents.get?_eq, get?, numbered]
  rfl

/-- The successors of a node, sorted by the numbers of the edges, are those of the graph. -/
theorem successors_eq (represents : i.Represents g) (nodeId : String) :
    i.successors nodeId = g.successors nodeId := by
  have joined := represents.ends
  cases numbered : i.number? nodeId with
  | none =>
      have apart :
          List.Forall₂ (fun (edge : Edge) _ => edge.sourceNode ≠ nodeId) g.edges i.ends := by
        refine joined.imp fun edge e joins => ?_
        rintro rfl
        rw [joins.1] at numbered
        cases numbered
      have nothing : g.targets nodeId = [] := by
        rw [Graph.targets, List.map_eq_nil_iff]
        generalize g.edges = edges at apart
        generalize i.ends = ends at apart
        induction apart with
        | nil => rfl
        | cons different _ ih => simpa [different] using ih
      rw [successors, numbered, Graph.successors, nothing]
      rfl
  | some n =>
      have alike : List.Forall₂ (fun edge e => (edge.sourceNode == nodeId) = (e.1 == n) ∧
          i.nodes[e.2]? = g.get? edge.targetNode) g.edges i.ends := by
        refine joined.imp fun edge e joins => ⟨?_, represents.getElem?_of_number? joins.2⟩
        rw [Bool.eq_iff_iff, beq_iff_eq, beq_iff_eq]
        constructor
        · rintro rfl
          exact Option.some.inj (joins.1.symm.trans numbered)
        · intro same
          exact represents.eq_of_number? joins.1 (same ▸ numbered)
      rw [successors, numbered]
      simp only
      rw [represents.leaving, if_pos (represents.number_lt numbered), Option.getD_some,
        mergeSort_reverse_edgesFrom, filterMap_edgesFrom, Graph.successors, Graph.targets]
      generalize g.edges = edges at alike
      generalize i.ends = ends at alike
      induction alike with
      | nil => rfl
      | @cons edge e _ _ same _ ih =>
          rw [List.filter_cons, List.filter_cons, same.1]
          cases e.1 == n with
          | false => exact ih
          | true => simp only [if_true, List.map_cons, List.filterMap_cons, same.2, ih]

end Represents

end GraphIndex

end EventFlow
