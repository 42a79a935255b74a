import EventFlow.Proofs.Graph.Rows
import Mathlib.Data.List.Perm.Subperm
import Mathlib.Logic.Relation

/-!
# The search for cycles

The search starts from the ends of the edges that leave a node and spreads until it finds no
new name.  There are no more names than nodes, and every round but the last finds a new one;
so the rounds that a search is given are enough for it to find all that can be reached.  A
graph has a cycle exactly if a node is among the names that are reached from it.
-/

namespace EventFlow

open Relation (TransGen)

/-- An edge leads from one name to another, and there are nodes with both names. -/
structure Linked (nodes : List Node) (edges : List Edge) (source target : String) : Prop where
  edge : ∃ edge ∈ edges, edge.sourceNode = source ∧ edge.targetNode = target
  source : ∃ node ∈ nodes, node.nodeId = source
  target : ∃ node ∈ nodes, node.nodeId = target

/-- From a node one comes back to it along edges whose ends are both there. -/
def OnCycle (nodes : List Node) (edges : List Edge) (nodeId : String) : Prop :=
  TransGen (Linked nodes edges) nodeId nodeId

/-- A list from which repetitions have been taken has none. -/
theorem nodup_eraseDups {α : Type} [BEq α] [LawfulBEq α] (as : List α) : as.eraseDups.Nodup := by
  match as with
  | [] => simp
  | a :: rest =>
    rw [List.eraseDups_cons, List.nodup_cons]
    exact ⟨by simp [List.mem_eraseDups], nodup_eraseDups _⟩
termination_by as.length
decreasing_by exact Nat.lt_succ_of_le (List.length_filter_le _ _)

namespace Graph

variable {g : Graph} {nodes : List Node} {edges : List Edge} {nodeId source target : String}

/-! ## Graphs of rows -/

/-- The names of the nodes. -/
def names (g : Graph) : List String :=
  g.nodes.map (·.nodeId)

theorem hasNode_iff : g.hasNode nodeId = true ↔ nodeId ∈ g.names := by
  simp [hasNode, names]

theorem mem_names_addNode {node : Node} :
    nodeId ∈ (g.addNode node).2.names ↔ nodeId ∈ g.names ∨ node.nodeId = nodeId := by
  by_cases taken : g.hasNode node.nodeId = true
  · have present := hasNode_iff.mp taken
    simp only [addNode, taken, if_true]
    exact ⟨.inl, Or.rec id fun same => same ▸ present⟩
  · simp [addNode, taken, names, eq_comm]

theorem nodup_names_addNode (distinct : g.names.Nodup) (node : Node) :
    (g.addNode node).2.names.Nodup := by
  by_cases taken : g.hasNode node.nodeId = true
  · simpa [addNode, taken] using distinct
  · have new : node.nodeId ∉ g.names := fun present => taken (hasNode_iff.mpr present)
    have added : (g.addNode node).2.names = g.names ++ [node.nodeId] := by
      simp [addNode, taken, names]
    rw [added]
    exact distinct.append (List.nodup_singleton _) (List.disjoint_singleton.mpr new)

@[simp]
theorem edges_addNode (g : Graph) (node : Node) : (g.addNode node).2.edges = g.edges := by
  unfold addNode
  split <;> rfl

/-- The graph of nodes without edges. -/
theorem ofRows_nil (nodes : List Node) :
    (ofRows nodes []).edges = [] ∧ (ofRows nodes []).names.Nodup ∧
      ∀ nodeId, nodeId ∈ (ofRows nodes []).names ↔ ∃ node ∈ nodes, node.nodeId = nodeId := by
  -- The nodes are added behind those that are there already.
  have folded (g : Graph) (distinct : g.names.Nodup) :
      (nodes.foldl (fun g n => (g.addNode n).2) g).edges = g.edges ∧
        (nodes.foldl (fun g n => (g.addNode n).2) g).names.Nodup ∧
        ∀ nodeId, nodeId ∈ (nodes.foldl (fun g n => (g.addNode n).2) g).names ↔
          nodeId ∈ g.names ∨ ∃ node ∈ nodes, node.nodeId = nodeId := by
    induction nodes generalizing g with
    | nil => simpa using distinct
    | cons node rest ih =>
        rcases ih _ (nodup_names_addNode distinct node) with ⟨edges, distinct, names⟩
        refine ⟨by simpa using edges, distinct, fun nodeId => ?_⟩
        rw [List.foldl_cons, names, mem_names_addNode, or_assoc]
        simp
  simpa [ofRows, empty, names] using folded empty List.nodup_nil

theorem ofRows_eq_addEdges (nodes : List Node) (edges : List Edge) :
    ofRows nodes edges =
      { ofRows nodes [] with
        edges := edges.filter fun e => (ofRows nodes []).hasNode e.sourceNode &&
          (ofRows nodes []).hasNode e.targetNode } := by
  have none := (ofRows_nil nodes).1
  have added := foldl_addEdge (ofRows nodes []) edges
  rw [none, List.nil_append] at added
  exact added

theorem mem_names_ofRows :
    nodeId ∈ (ofRows nodes edges).names ↔ ∃ node ∈ nodes, node.nodeId = nodeId := by
  rw [ofRows_eq_addEdges]
  exact (ofRows_nil nodes).2.2 nodeId

/-- The edges of the graph of rows are those with both ends. -/
theorem leads_ofRows_iff :
    (ofRows nodes edges).Leads source target ↔ Linked nodes edges source target := by
  rw [ofRows_eq_addEdges]
  simp only [Leads, List.mem_filter, Bool.and_eq_true, hasNode_iff, (ofRows_nil nodes).2.2]
  constructor
  · rintro ⟨edge, ⟨edgeMem, first, last⟩, rfl, rfl⟩
    exact ⟨⟨edge, edgeMem, rfl, rfl⟩, first, last⟩
  · rintro ⟨⟨edge, edgeMem, rfl, rfl⟩, first, last⟩
    exact ⟨edge, ⟨edgeMem, first, last⟩, rfl, rfl⟩

/-- The nodes have different names, and edges lead to nodes. -/
structure WellFormed (g : Graph) : Prop where
  distinct : g.names.Nodup
  mem_names : ∀ source target, g.Leads source target → target ∈ g.names

theorem wellFormed_ofRows (nodes : List Node) (edges : List Edge) :
    (ofRows nodes edges).WellFormed where
  distinct := by
    rw [ofRows_eq_addEdges]
    exact (ofRows_nil nodes).2.1
  mem_names source target leads := mem_names_ofRows.mpr (leads_ofRows_iff.mp leads).target

/-! ## The search -/

theorem mem_targets_iff : target ∈ g.targets source ↔ g.Leads source target := by
  simp [targets, Leads, and_assoc]

/-- One round of the search: the names that edges from the frontier lead to and that have not
been seen. -/
def fresh (g : Graph) (frontier seen : List String) : List String :=
  ((frontier.flatMap g.targets).filter fun id => ! seen.contains id).eraseDups

theorem mem_fresh_iff {frontier seen : List String} :
    target ∈ g.fresh frontier seen ↔ (∃ source ∈ frontier, g.Leads source target) ∧
      target ∉ seen := by
  simp [fresh, List.mem_eraseDups, mem_targets_iff]

theorem spread_cons (n : Nat) (source : String) (rest seen : List String) :
    g.spread (n + 1) (source :: rest) seen =
      g.spread n (g.fresh (source :: rest) seen) (seen ++ g.fresh (source :: rest) seen) := rfl

/-- How far a search has come: it has seen different names of nodes, and what edges lead to
from a name that is not on the frontier.  It is given enough rounds to see the rest. -/
structure Searching (g : Graph) (n : Nat) (frontier seen : List String) : Prop where
  distinct : seen.Nodup
  named : seen ⊆ g.names
  enough : frontier = [] ∨ g.names.length ≤ n + seen.length
  passed : ∀ source ∈ seen, source ∉ frontier → ∀ target, g.Leads source target → target ∈ seen

namespace Searching

variable {n : Nat} {frontier rest seen : List String}

/-- A search that has seen as many names as there are has seen all that edges lead to. -/
theorem of_zero (wellFormed : g.WellFormed) (searching : g.Searching 0 frontier seen) :
    ∀ source ∈ seen, ∀ target, g.Leads source target → target ∈ seen := by
  intro source sourceMem target leads
  rcases searching.enough with rfl | enough
  · exact searching.passed source sourceMem List.not_mem_nil target leads
  · have all := (searching.distinct.subperm searching.named).perm_of_length_le (by omega)
    exact all.mem_iff.mpr (wellFormed.mem_names source target leads)

/-- Every round that finds something brings the search further. -/
theorem next (wellFormed : g.WellFormed) (searching : g.Searching (n + 1) (source :: rest) seen) :
    g.Searching n (g.fresh (source :: rest) seen) (seen ++ g.fresh (source :: rest) seen) where
  distinct := by
    refine searching.distinct.append (nodup_eraseDups _) ?_
    intro target old new
    exact (mem_fresh_iff.mp new).2 old
  named := by
    refine List.append_subset.mpr ⟨searching.named, fun target new => ?_⟩
    rcases (mem_fresh_iff.mp new).1 with ⟨first, _, leads⟩
    exact wellFormed.mem_names first target leads
  enough := by
    rcases searching.enough with none | enough
    · contradiction
    · by_cases nothing : g.fresh (source :: rest) seen = []
      · exact .inl nothing
      · have some := List.length_pos_of_ne_nil nothing
        rw [List.length_append]
        exact .inr (by omega)
  passed first firstMem notFresh target leads := by
    rcases List.mem_append.mp firstMem with old | new
    · by_cases met : target ∈ seen
      · exact List.mem_append_left _ met
      · by_cases onFrontier : first ∈ source :: rest
        · exact List.mem_append_right _ (mem_fresh_iff.mpr ⟨⟨first, onFrontier, leads⟩, met⟩)
        · exact List.mem_append_left _ (searching.passed first old onFrontier target leads)
    · exact absurd new notFresh

/-- What is seen in the end is closed under edges. -/
theorem closed (wellFormed : g.WellFormed) (searching : g.Searching n frontier seen) :
    ∀ source ∈ g.spread n frontier seen, ∀ target, g.Leads source target →
      target ∈ g.spread n frontier seen := by
  induction n generalizing frontier seen with
  | zero => exact searching.of_zero wellFormed
  | succ n ih =>
      cases frontier with
      | nil =>
          intro source sourceMem target leads
          exact searching.passed source sourceMem List.not_mem_nil target leads
      | cons source rest =>
          rw [spread_cons]
          exact ih (searching.next wellFormed)

end Searching

/-- What has been seen stays seen. -/
theorem subset_spread (n : Nat) (frontier seen : List String) :
    seen ⊆ g.spread n frontier seen := by
  induction n generalizing frontier seen with
  | zero => exact List.Subset.refl _
  | succ n ih =>
      cases frontier with
      | nil => exact List.Subset.refl _
      | cons source rest => exact List.Subset.trans (List.subset_append_left _ _) (ih _ _)

/-- The search sees nothing but what edges lead to. -/
theorem forall_mem_spread {P : String → Prop}
    (along : ∀ source target, g.Leads source target → P source → P target) (n : Nat)
    {frontier seen : List String} (starts : ∀ nodeId ∈ frontier, P nodeId)
    (holds : ∀ nodeId ∈ seen, P nodeId) : ∀ nodeId ∈ g.spread n frontier seen, P nodeId := by
  induction n generalizing frontier seen with
  | zero => exact holds
  | succ n ih =>
      cases frontier with
      | nil => exact holds
      | cons source rest =>
          have found : ∀ nodeId ∈ g.fresh (source :: rest) seen, P nodeId := by
            intro nodeId new
            rcases (mem_fresh_iff.mp new).1 with ⟨first, firstMem, leads⟩
            exact along first nodeId leads (starts first firstMem)
          refine ih found fun nodeId seenMem => ?_
          exact (List.mem_append.mp seenMem).elim (holds nodeId) (found nodeId)

/-- The search finds exactly what can be reached along one edge or more. -/
theorem mem_reachable_iff (wellFormed : g.WellFormed) :
    target ∈ g.reachable source ↔ TransGen g.Leads source target := by
  have first {nodeId : String} : nodeId ∈ (g.targets source).eraseDups ↔ g.Leads source nodeId := by
    rw [List.mem_eraseDups, mem_targets_iff]
  constructor
  · refine forall_mem_spread (fun between last leads way => way.tail leads) _ ?_ ?_ target
    all_goals
      intro nodeId nodeMem
      exact .single (first.mp nodeMem)
  · have searching : g.Searching g.nodes.length (g.targets source).eraseDups
        (g.targets source).eraseDups := by
      refine ⟨nodup_eraseDups _, ?_, .inr (by simp [names]), ?_⟩
      · intro nodeId nodeMem
        exact wellFormed.mem_names source nodeId (first.mp nodeMem)
      · intro between seen notFrontier
        exact absurd seen notFrontier
    intro way
    induction way with
    | single leads => exact subset_spread _ _ _ (first.mpr leads)
    | tail _ leads ih => exact searching.closed wellFormed _ ih _ leads

/-- There is a cycle in the graph of rows exactly if a node can be reached from itself. -/
theorem hasCycle_ofRows_iff :
    (ofRows nodes edges).hasCycle = true ↔ ∃ node ∈ nodes, OnCycle nodes edges node.nodeId := by
  have same : (ofRows nodes edges).Leads = Linked nodes edges := by
    funext source target
    exact propext leads_ofRows_iff
  have searched (nodeId : String) :
      nodeId ∈ (ofRows nodes edges).reachable nodeId ↔ OnCycle nodes edges nodeId := by
    rw [mem_reachable_iff (wellFormed_ofRows nodes edges), same, OnCycle]
  simp only [hasCycle, List.any_eq_true, List.contains_iff_mem, searched]
  constructor
  · rintro ⟨node, nodeMem, cycle⟩
    rcases mem_names_ofRows.mp (List.mem_map_of_mem nodeMem) with ⟨other, otherMem, sameName⟩
    exact ⟨other, otherMem, sameName ▸ cycle⟩
  · rintro ⟨node, nodeMem, cycle⟩
    rcases List.mem_map.mp (mem_names_ofRows.mpr ⟨node, nodeMem, rfl⟩) with
      ⟨other, otherMem, sameName⟩
    exact ⟨other, otherMem, by simpa [sameName] using cycle⟩

end Graph

end EventFlow
