import EventFlow.Proofs.Seed.Storing
import EventFlow.Proofs.Store.Chronicle

/-!
# Seeds that are stored as they stand

A seed whose flows name their nodes differently and whose edges join them is stored as a whole.
Its rows are put behind those that there are, flow by flow; and as every flow has a number of its
own, and no row has been bound to it before, what is read back under the number is what the
document says.
-/

namespace EventFlow

open Program Shared

/-! ## Rows of one flow among others -/

theorem filter_append_of_none {α : Type} {p : α → Bool} {front back : List α}
    (none : ∀ row ∈ front, p row = false) (all : ∀ row ∈ back, p row = true) :
    (front ++ back).filter p = back := by
  have skipped : front.filter p = [] :=
    List.filter_eq_nil_iff.mpr fun row rowMem => by simp [none row rowMem]
  rw [List.filter_append, skipped, List.nil_append, List.filter_eq_self.mpr all]

theorem filter_append_of_none_behind {α : Type} {p : α → Bool} {front back : List α}
    (none : ∀ row ∈ back, p row = false) : (front ++ back).filter p = front.filter p := by
  have skipped : back.filter p = [] :=
    List.filter_eq_nil_iff.mpr fun row rowMem => by simp [none row rowMem]
  rw [List.filter_append, skipped, List.append_nil]

namespace Store

/-- No row is bound to a flow whose number has still to be given. -/
structure Placed (s : Store) : Prop where
  nodes : s.NodesPlaced
  edges : ∀ edge ∈ s.edges, edge.flowId.value ≤ s.lastId
  rateLimits : ∀ rule ∈ s.rateLimits, ∀ id, rule.flowId = some id → id.value ≤ s.lastId

/-- The numbers of flows have been given. -/
def FlowsNumbered (s : Store) : Prop :=
  ∀ flow ∈ s.flows, flow.id.value ≤ s.lastId

theorem Reachable.flowsNumbered {s : Store} (reachable : s.Reachable) : s.FlowsNumbered := by
  intro flow flowMem
  have keyMem : RowKey.flow flow.id ∈ s.keys .flows :=
    List.mem_map_of_mem (List.mem_map_of_mem flowMem)
  exact (reachable.sound.within (.flow flow.id) keyMem flow.id.value rfl).2

/-- All rows that there were are there, before those that have been added. -/
structure Extends (s t : Store) : Prop where
  flows : s.flows <+: t.flows
  nodes : s.nodes <+: t.nodes
  edges : s.edges <+: t.edges
  rateLimits : s.rateLimits <+: t.rateLimits
  executions : t.executions = s.executions
  jobs : t.jobs = s.jobs

namespace Extends

variable {s t u : Store}

theorem refl (s : Store) : s.Extends s where
  flows := List.prefix_rfl
  nodes := List.prefix_rfl
  edges := List.prefix_rfl
  rateLimits := List.prefix_rfl
  executions := rfl
  jobs := rfl

theorem trans (first : s.Extends t) (second : t.Extends u) : s.Extends u where
  flows := first.flows.trans second.flows
  nodes := first.nodes.trans second.nodes
  edges := first.edges.trans second.edges
  rateLimits := first.rateLimits.trans second.rateLimits
  executions := second.executions.trans first.executions
  jobs := second.jobs.trans first.jobs

end Extends

end Store

namespace SeedFlow

variable {seed other : SeedFlow} {seeds : List SeedFlow} {id number : FlowId} {ids : List FlowId}
  {s t u : Store}

theorem flowId_of_mem_nodeRows {row : Node} (rowMem : row ∈ seed.nodeRows id) :
    row.flowId = id := by
  rcases exists_of_mem_numbered rowMem with ⟨_, _, _, rfl⟩
  rfl

theorem flowId_of_mem_edgeRows {row : Edge} (rowMem : row ∈ seed.edgeRows id) :
    row.flowId = id := by
  rcases exists_of_mem_numbered rowMem with ⟨_, _, _, rfl⟩
  rfl

theorem flowId_of_mem_limitRows {row : RateLimit} (rowMem : row ∈ seed.limitRows id) :
    row.flowId = some id := by
  rcases exists_of_mem_numbered rowMem with ⟨_, _, _, rfl⟩
  rfl

/-! ## One flow -/

theorem Completes.extends (completes : seed.Completes id s t) : s.Extends t := by
  rcases completes.flows with ⟨row, _, flows⟩
  constructor
  case flows => exact ⟨_, flows.symm⟩
  case nodes => exact ⟨_, completes.nodes.symm⟩
  case edges => exact ⟨_, completes.edges.symm⟩
  case rateLimits => exact ⟨_, completes.rateLimits.symm⟩
  case executions => exact completes.executions
  case jobs => exact completes.jobs

theorem Completes.id_le (completes : seed.Completes id s t) : id.value ≤ t.lastId := by
  have next := completes.next
  rw [completes.counted, size]
  omega

theorem Completes.lastId_le (completes : seed.Completes id s t) : s.lastId ≤ t.lastId := by
  rw [completes.counted]
  omega

theorem Completes.placed (completes : seed.Completes id s t) (placed : s.Placed) : t.Placed := by
  have later := completes.lastId_le
  have own := completes.id_le
  constructor
  case nodes => exact completes.nodesPlaced placed.nodes
  case edges =>
    intro edge edgeMem
    rw [completes.edges] at edgeMem
    rcases List.mem_append.mp edgeMem with stored | fresh
    · exact Int.le_trans (placed.edges edge stored) later
    · rw [flowId_of_mem_edgeRows fresh]
      exact own
  case rateLimits =>
    intro rule ruleMem flowId bound
    rw [completes.rateLimits] at ruleMem
    rcases List.mem_append.mp ruleMem with stored | fresh
    · exact Int.le_trans (placed.rateLimits rule stored flowId bound) later
    · rw [flowId_of_mem_limitRows fresh, Option.some.injEq] at bound
      exact bound ▸ own

theorem Completes.flowsNumbered (completes : seed.Completes id s t) (counted : s.FlowsNumbered) :
    t.FlowsNumbered := by
  have later := completes.lastId_le
  rcases completes.flows with ⟨row, describes, flows⟩
  intro flow flowMem
  rw [flows] at flowMem
  rcases List.mem_append.mp flowMem with stored | fresh
  · exact Int.le_trans (counted flow stored) later
  · rw [List.mem_singleton.mp fresh, describes.id]
    exact completes.id_le

/-- What is read back of a flow. -/
structure ReadBack (seed : SeedFlow) (id : FlowId) (t : Store) : Prop where
  flow : ∃ row, t.getFlow id = some row ∧ seed.Describes id row
  nodes : t.listNodes id = seed.nodeRows id
  edges : t.listEdges id = seed.edgeRows id
  rateLimits : (t.rateLimits.filter fun rule => rule.flowId == some id) = seed.limitRows id

/-- A flow is read back as it has been stored. -/
theorem Completes.readBack (completes : seed.Completes id s t) (placed : s.Placed)
    (counted : s.FlowsNumbered) : seed.ReadBack id t := by
  have next := completes.next
  -- No row that there was is bound to the number, so the rows of the flow are all that is found.
  have new {other : FlowId} (given : other.value ≤ s.lastId) : other ≠ id := by
    rintro rfl
    omega
  rcases completes.flows with ⟨row, describes, flows⟩
  constructor
  case flow =>
    have absent : (s.flows.find? fun flow => flow.id == id) = none := by
      apply List.find?_eq_none.mpr
      intro flow flowMem
      simpa using new (counted flow flowMem)
    refine ⟨row, ?_, describes⟩
    rw [Store.getFlow, flows, List.find?_append, absent]
    simp [describes.id]
  case nodes =>
    rw [Store.listNodes, completes.nodes]
    apply filter_append_of_none
    · intro node nodeMem
      simpa using new (placed.nodes node nodeMem)
    · intro node nodeMem
      simpa using flowId_of_mem_nodeRows nodeMem
  case edges =>
    rw [Store.listEdges, completes.edges]
    apply filter_append_of_none
    · intro edge edgeMem
      simpa using new (placed.edges edge edgeMem)
    · intro edge edgeMem
      simpa using flowId_of_mem_edgeRows edgeMem
  case rateLimits =>
    rw [completes.rateLimits]
    apply filter_append_of_none
    · intro rule ruleMem
      rw [beq_eq_false_iff_ne]
      intro bound
      exact new (placed.rateLimits rule ruleMem id bound) rfl
    · intro rule ruleMem
      simpa using flowId_of_mem_limitRows ruleMem

/-- A flow is read back in the same way when another one has been stored. -/
theorem ReadBack.of_completes (readBack : seed.ReadBack number s)
    (completes : other.Completes id s t) (apart : number ≠ id) : seed.ReadBack number t := by
  rcases completes.flows with ⟨_, _, flows⟩
  rcases readBack.flow with ⟨row, found, describes⟩
  constructor
  case flow =>
    refine ⟨row, ?_, describes⟩
    rw [Store.getFlow] at found
    rw [Store.getFlow, flows, List.find?_append, found, Option.some_or]
  case nodes =>
    rw [← readBack.nodes, Store.listNodes, completes.nodes]
    apply filter_append_of_none_behind
    intro node nodeMem
    simpa [flowId_of_mem_nodeRows nodeMem] using apart.symm
  case edges =>
    rw [← readBack.edges, Store.listEdges, completes.edges]
    apply filter_append_of_none_behind
    intro edge edgeMem
    simpa [flowId_of_mem_edgeRows edgeMem] using apart.symm
  case rateLimits =>
    rw [← readBack.rateLimits, completes.rateLimits]
    apply filter_append_of_none_behind
    intro rule ruleMem
    simpa [flowId_of_mem_limitRows ruleMem] using apart.symm

/-! ## All flows of a document -/

theorem CompletesAll.extends (completes : CompletesAll seeds ids s t) : s.Extends t := by
  induction completes with
  | nil => exact .refl _
  | cons first _ ih => exact first.extends.trans ih

theorem ReadBack.of_completesAll (readBack : seed.ReadBack number s)
    (given : number.value ≤ s.lastId) (completes : CompletesAll seeds ids s t) :
    seed.ReadBack number t := by
  induction completes with
  | nil => exact readBack
  | cons first _ ih =>
      have next := first.next
      refine ih (readBack.of_completes first ?_) (Int.le_trans given first.lastId_le)
      rintro rfl
      omega

/-- The numbers of flows that are stored grow, and have not been given before. -/
theorem CompletesAll.increasing (completes : CompletesAll seeds ids s t) :
    (∀ id ∈ ids, s.lastId < id.value) ∧ (ids.map RowId.value).Pairwise (· < ·) := by
  induction completes with
  | nil => simp
  | @cons _ _ id ids _ _ _ first _ ih =>
      rcases ih with ⟨behind, increasing⟩
      have next := first.next
      constructor
      · intro other otherMem
        rcases List.mem_cons.mp otherMem with rfl | otherMem
        · omega
        · exact Int.lt_of_le_of_lt first.lastId_le (behind other otherMem)
      · rw [List.map_cons, List.pairwise_cons]
        refine ⟨?_, increasing⟩
        intro value valueMem
        rcases List.mem_map.mp valueMem with ⟨other, otherMem, rfl⟩
        exact Int.lt_of_le_of_lt first.id_le (behind other otherMem)

/-- Every flow of a document is read back under its number. -/
theorem CompletesAll.readBack (completes : CompletesAll seeds ids s t) (placed : s.Placed)
    (counted : s.FlowsNumbered) :
    List.Forall₂ (fun seed id => ReadBack seed id t) seeds ids := by
  induction completes with
  | nil => exact .nil
  | cons first later ih =>
      have readBack := first.readBack placed counted
      exact .cons (readBack.of_completesAll first.id_le later)
        (ih (first.placed placed) (first.flowsNumbered counted))

/-! ## The graph of a flow -/

/-- A row stands for a node of a seed: it is the node, under a number and bound to a flow. -/
def Rebinds (id : FlowId) (given row : Node) : Prop :=
  ∃ number, row = given.rebound id number

/-- The graph that a seed draws. -/
def graph (seed : SeedFlow) : Graph :=
  .ofRows seed.nodes seed.edges

/-- The graph of a stored flow is the one that its seed draws: no edge is left out, the nodes are
the same, and each is followed by the same nodes. -/
structure Redraws (seed : SeedFlow) (id : FlowId) (drawn : Graph) : Prop where
  edges : drawn.edges = seed.edgeRows id
  nodes : List.Forall₂ (Rebinds id) seed.graph.nodes drawn.nodes
  successors : ∀ nodeId,
    List.Forall₂ (Rebinds id) (seed.graph.successors nodeId) (drawn.successors nodeId)

theorem forall₂_nodeRows (seed : SeedFlow) (id : FlowId) :
    List.Forall₂ (Rebinds id) seed.nodes (seed.nodeRows id) :=
  forall₂_numbered (fun number _ => ⟨number, rfl⟩) seed.nodes

/-- Rows that stand for nodes are found by the same names. -/
theorem rel_find? {given rows : List Node} (stand : List.Forall₂ (Rebinds id) given rows)
    (nodeId : String) : Option.Rel (Rebinds id) (given.find? fun node => node.nodeId == nodeId)
      (rows.find? fun node => node.nodeId == nodeId) := by
  induction stand with
  | nil => exact .none
  | @cons node _ _ _ here _ ih =>
      rcases here with ⟨number, rfl⟩
      have same : (node.rebound id number).nodeId = node.nodeId := rfl
      by_cases named : node.nodeId = nodeId
      · simp only [List.find?_cons, same, named, beq_self_eq_true]
        exact .some ⟨number, rfl⟩
      · simp only [List.find?_cons, same, beq_eq_false_iff_ne.mpr named]
        exact ih

/-- Edges that are bound to a flow lead where they led. -/
theorem targets_numbered (nodes rows : List Node) (edges : List Edge) (last : Int)
    (nodeId : String) :
    (⟨rows, numbered (Edge.rebound id) last edges⟩ : Graph).targets nodeId =
      (⟨nodes, edges⟩ : Graph).targets nodeId := by
  induction edges generalizing last with
  | nil => rfl
  | cons edge rest ih =>
      simp only [Graph.targets] at ih
      by_cases leaves : edge.sourceNode = nodeId <;>
        simp [Graph.targets, Edge.rebound, leaves, ih]

theorem ReadBack.redraws (readBack : seed.ReadBack id t)
    (distinct : (seed.nodes.map (·.nodeId)).Nodup)
    (joined : ∀ edge ∈ seed.edges, seed.Joins edge) : seed.Redraws id (t.graph id) := by
  have names : (seed.nodeRows id).map (·.nodeId) = seed.nodes.map (·.nodeId) := by
    have kept (number : Int) (node : Node) : (node.rebound id number).nodeId = node.nodeId := rfl
    exact map_numbered kept seed.nodes
  have given : seed.graph = ⟨seed.nodes, seed.edges⟩ := Graph.ofRows_of_joined distinct joined
  have drawn : t.graph id = ⟨seed.nodeRows id, seed.edgeRows id⟩ := by
    -- The rows name their nodes as the seed does, so their edges join them as well.
    rw [Store.graph, readBack.nodes, readBack.edges]
    apply Graph.ofRows_of_joined (names.symm ▸ distinct)
    intro row rowMem
    rcases exists_of_mem_numbered rowMem with ⟨_, edge, edgeMem, rfl⟩
    rw [names]
    exact joined edge edgeMem
  rw [drawn]
  constructor
  case edges => rfl
  case nodes =>
    rw [given]
    exact forall₂_nodeRows seed id
  case successors =>
    intro nodeId
    rw [given, Graph.successors, Graph.successors, edgeRows, targets_numbered seed.nodes]
    refine List.rel_filterMap (R := Eq) ?_ (List.forall₂_refl _)
    rintro target _ rfl
    exact rel_find? (forall₂_nodeRows seed id) target

end SeedFlow

/-! ## Loading a document -/

namespace Seed

/-- A document is stored as it stands: its flows get new and growing numbers in their order, each is
read back under its number and drawn as before, and all rows that there were are there. -/
structure Loads (seed : Seed) (ids : List FlowId) (s t : Store) : Prop where
  fresh : ∀ id ∈ ids, s.getFlow id = none
  increasing : (ids.map RowId.value).Pairwise (· < ·)
  readBack : List.Forall₂ (fun flow id => SeedFlow.ReadBack flow id t) seed.flows ids
  redraws : List.Forall₂ (fun flow id => SeedFlow.Redraws flow id (t.graph id)) seed.flows ids
  kept : s.Extends t

/-- A document whose flows name their nodes differently, and whose edges join them, is stored as it
stands. -/
theorem apply_loads {seed : Seed} {s : Shared} (reachable : s.store.Reachable)
    (placed : s.store.Placed)
    (distinct : ∀ flow ∈ seed.flows, (flow.nodes.map (·.nodeId)).Nodup)
    (joined : ∀ flow ∈ seed.flows, ∀ edge ∈ flow.edges, flow.Joins edge) :
    (∃ r t, Runs answering seed.apply s r t) ∧
    ∀ r t, Runs answering seed.apply s r t →
      t.queue = s.queue ∧ ∃ ids, r = .ok ids ∧ seed.Loads ids s.store t.store := by
  refine ⟨exists_runs seed.apply s, ?_⟩
  intro r t ran
  rcases SeedFlow.runs_applyAll ran with ⟨queue, ⟨ids, rfl, completes⟩ |
    ⟨before, refused, after, ids, u, e, split, rfl, completes, applies⟩⟩
  · rcases completes.increasing with ⟨behind, increasing⟩
    have readBack := completes.readBack placed reachable.flowsNumbered
    refine ⟨queue, ids, rfl, ?_⟩
    constructor
    case fresh =>
      intro id idMem
      apply List.find?_eq_none.mpr
      intro flow flowMem
      have given := reachable.flowsNumbered flow flowMem
      have new := behind id idMem
      rw [beq_iff_eq]
      rintro rfl
      omega
    case increasing => exact increasing
    case readBack => exact readBack
    case redraws =>
      have drawable : ∀ flow ∈ seed.flows, (flow.nodes.map (·.nodeId)).Nodup ∧
          ∀ edge ∈ flow.edges, flow.Joins edge :=
        fun flow flowMem => ⟨distinct flow flowMem, joined flow flowMem⟩
      apply ((List.forall₂_and_left _ _).mpr ⟨drawable, readBack⟩).imp
      rintro flow id ⟨⟨distinct, joined⟩, readBack⟩
      exact readBack.redraws distinct joined
    case kept => exact completes.extends
  · have refusedMem : refused ∈ seed.flows := by simp [split]
    generalize stored : t.store = after at applies
    cases applies with
    | @rejected _ _ edge split _ dangles =>
        have edgeMem : edge ∈ refused.edges := by simp [split]
        exact (dangles (joined refused refusedMem edge edgeMem)).elim
    | brokenOff _ breaks =>
        exact (breaks.false_of_distinct (distinct refused refusedMem)
          (completes.nodesPlaced placed.nodes)).elim

end Seed

/-! ## A document of two flows, and a node in its way -/

namespace Leaflet

/-- When the document is loaded. -/
def start : Instant := .ofMilliseconds 0

/-- A trigger and what follows it, drawn for another flow, with a limit. -/
def greet : SeedFlow :=
  { name := "greet", uid := "owner", topic := "topic", description := "says hello", enabled := true
    nodes := [{ Node.ofRule start .trigger "start" "dev" "ping" with flowId := ⟨7⟩ },
      .ofRule start .action "reply" "dev" "log"]
    edges := [.create start "start" "reply", .create start "reply" "start"]
    rateLimits := [.forFlow ⟨7⟩ 1 .minute 10] }

/-- A flow with a node of the same name that is switched off. -/
def rest : SeedFlow :=
  { name := "rest", uid := "", topic := "", description := "", enabled := false
    nodes := [.create start "start" .trigger], edges := [], rateLimits := [] }

/-- Both flows. -/
def document : Seed := ⟨[greet, rest]⟩

/-- Tables with one flow. -/
def before : Shared :=
  ⟨(Store.empty.answer start (.createFlow (.create start "owner" "topic" "old"))).2, .empty⟩

/-- A node that has been bound to a flow before there is one of this number. -/
def stray : Node :=
  { Node.create start "start" .trigger with flowId := ⟨2⟩ }

/-- Tables with nothing but this node. -/
def littered : Shared :=
  ⟨(Store.empty.answer start (.createNode stray)).2, .empty⟩

/-- What is left when the document is loaded into some tables. -/
def loaded (tables : Shared) : Except SeedError (List FlowId) × Shared :=
  document.apply.run (answerAt start) tables

theorem runs_loaded (tables : Shared) :
    Runs answering document.apply tables (loaded tables).1 (loaded tables).2 :=
  runs_run (fun s q => s.answers_answerAt start q) _ tables

theorem distinct : ∀ flow ∈ document.flows, (flow.nodes.map (·.nodeId)).Nodup := by
  decide

theorem joined : ∀ flow ∈ document.flows, ∀ edge ∈ flow.edges, flow.Joins edge := by
  simp [document, greet, rest, SeedFlow.Joins, Edge.create, Node.ofRule, Node.create]

end Leaflet

/-- The document is not stored when a node is in the way of its first one. -/
theorem stray_node_refuses_document :
    Leaflet.littered.store.Reachable ∧
    (∀ flow ∈ Leaflet.document.flows, (flow.nodes.map (·.nodeId)).Nodup) ∧
    (∀ flow ∈ Leaflet.document.flows, ∀ edge ∈ flow.edges, flow.Joins edge) ∧
    ¬ ∀ r t, Runs answering Leaflet.document.apply Leaflet.littered r t → ∃ ids, r = .ok ids := by
  refine ⟨.answer .empty _ _, Leaflet.distinct, Leaflet.joined, ?_⟩
  intro succeeds
  have refused : (Leaflet.loaded Leaflet.littered).1 =
      .error (.store (.conflict .node "start")) := by decide +kernel
  rcases succeeds _ _ (Leaflet.runs_loaded Leaflet.littered) with ⟨ids, same⟩
  rw [refused] at same
  cases same

/-- Both flows are stored behind the one that there was, and read back. -/
theorem apply_loads_leaflet :
    (Leaflet.loaded Leaflet.before).1 = .ok [⟨2⟩, ⟨8⟩] ∧
    ∃ ids, (Leaflet.loaded Leaflet.before).1 = .ok ids ∧
      Leaflet.document.Loads ids Leaflet.before.store (Leaflet.loaded Leaflet.before).2.store := by
  have numbers : (Leaflet.loaded Leaflet.before).1 = .ok [⟨2⟩, ⟨8⟩] := by decide +kernel
  have placed : Leaflet.before.store.Placed := by
    constructor <;> intro _ rowMem <;> cases rowMem
  exact ⟨numbers, ((Seed.apply_loads (.answer .empty _ _) placed Leaflet.distinct
    Leaflet.joined).2 _ _ (Leaflet.runs_loaded Leaflet.before)).2⟩

end EventFlow
