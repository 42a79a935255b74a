import EventFlow.Proofs.Graph.Rows
import EventFlow.Proofs.Shared
import EventFlow.Seed

/-!
# What storing a seed writes

The flows of a seed are stored one after the other: the row of a flow, then its nodes, its edges
and its rate limits, each under the next number.  Before anything of a flow is stored its edges
have been checked, and of the calls that store it only those for nodes can be refused.  So of a
flow there is everything in the tables, or nothing, or its row and its nodes up to one whose name
is taken.
-/

namespace EventFlow

open Program

/-! ## Rows under the next numbers -/

/-- Rows under the numbers behind a last one, in order. -/
def numbered {α : Type} (put : Int → α → α) : Int → List α → List α
  | _, [] => []
  | last, row :: rest => put (last + 1) row :: numbered put (last + 1) rest

section Numbered

variable {α β : Type} {put : Int → α → α} {last : Int}

@[simp]
theorem numbered_nil : numbered put last [] = [] := rfl

@[simp]
theorem numbered_cons (row : α) (rest : List α) :
    numbered put last (row :: rest) = put (last + 1) row :: numbered put (last + 1) rest := rfl

@[simp]
theorem length_numbered (rows : List α) : (numbered put last rows).length = rows.length := by
  induction rows generalizing last with
  | nil => rfl
  | cons row rest ih => simp [ih]

theorem exists_of_mem_numbered {row : α} {rows : List α} (rowMem : row ∈ numbered put last rows) :
    ∃ number, ∃ given ∈ rows, row = put number given := by
  induction rows generalizing last with
  | nil => cases rowMem
  | cons given rest ih =>
      rcases List.mem_cons.mp rowMem with rfl | rowMem
      · exact ⟨_, given, List.mem_cons_self, rfl⟩
      · rcases ih rowMem with ⟨number, other, otherMem, same⟩
        exact ⟨number, other, List.mem_cons_of_mem _ otherMem, same⟩

/-- What the number does not change is the same along the rows. -/
theorem map_numbered {f : α → β} (kept : ∀ number row, f (put number row) = f row)
    (rows : List α) : (numbered put last rows).map f = rows.map f := by
  induction rows generalizing last with
  | nil => rfl
  | cons row rest ih => simp [kept, ih]

theorem forall₂_numbered {related : α → α → Prop} (put_related : ∀ number row,
    related row (put number row)) (rows : List α) :
    List.Forall₂ related rows (numbered put last rows) := by
  induction rows generalizing last with
  | nil => exact .nil
  | cons row rest ih => exact .cons (put_related _ row) ih

end Numbered

/-- A node under a number, bound to a flow. -/
def Node.rebound (id : FlowId) (number : Int) (node : Node) : Node :=
  { node with id := number, flowId := id }

/-- An edge under a number, bound to a flow. -/
def Edge.rebound (id : FlowId) (number : Int) (edge : Edge) : Edge :=
  { edge with id := number, flowId := id }

/-- A rate limit under a number, bound to a flow. -/
def RateLimit.rebound (id : FlowId) (number : Int) (rule : RateLimit) : RateLimit :=
  { rule with id := ⟨number⟩, flowId := some id }

namespace Store

/-- The store with more nodes of a flow. -/
def withNodes (s : Store) (id : FlowId) (nodes : List Node) : Store :=
  { s with
    lastId := s.lastId + nodes.length
    nodes := s.nodes ++ numbered (Node.rebound id) s.lastId nodes }

/-- The store with more edges of a flow. -/
def withEdges (s : Store) (id : FlowId) (edges : List Edge) : Store :=
  { s with
    lastId := s.lastId + edges.length
    edges := s.edges ++ numbered (Edge.rebound id) s.lastId edges }

/-- The store with more rate limits of a flow. -/
def withRateLimits (s : Store) (id : FlowId) (rules : List RateLimit) : Store :=
  { s with
    lastId := s.lastId + rules.length
    rateLimits := s.rateLimits ++ numbered (RateLimit.rebound id) s.lastId rules }

/-- Is the name of a node taken within a flow? -/
def Takes (s : Store) (id : FlowId) (nodeId : String) : Prop :=
  ∃ node ∈ s.nodes, node.flowId = id ∧ node.nodeId = nodeId

/-- No node is bound to a flow whose number has still to be given. -/
def NodesPlaced (s : Store) : Prop :=
  ∀ node ∈ s.nodes, node.flowId.value ≤ s.lastId

variable {s : Store} {id : FlowId}

theorem takes_iff {node : Node} :
    (s.nodes.any fun other => sameNode other { node with flowId := id }) = true ↔
      s.Takes id node.nodeId := by
  simp [Takes, sameNode]

theorem withNodes_nil : s.withNodes id [] = s := by simp [withNodes]

theorem withNodes_cons (node : Node) (rest : List Node) :
    s.withNodes id (node :: rest) = (s.withNodes id [node]).withNodes id rest := by
  simp [withNodes]
  omega

theorem withEdges_nil : s.withEdges id [] = s := by simp [withEdges]

theorem withEdges_cons (edge : Edge) (rest : List Edge) :
    s.withEdges id (edge :: rest) = (s.withEdges id [edge]).withEdges id rest := by
  simp [withEdges]
  omega

theorem withRateLimits_nil : s.withRateLimits id [] = s := by simp [withRateLimits]

theorem withRateLimits_cons (rule : RateLimit) (rest : List RateLimit) :
    s.withRateLimits id (rule :: rest) = (s.withRateLimits id [rule]).withRateLimits id rest := by
  simp [withRateLimits]
  omega

theorem answer_createNode (now : Instant) (node : Node) (free : ¬ s.Takes id node.nodeId) :
    s.answer now (.createNode { node with flowId := id }) =
      (.ok (node.rebound id (s.lastId + 1)), s.withNodes id [node]) := by
  rw [← takes_iff, Bool.not_eq_true] at free
  simp [answer, createNode, free, withNodes, Node.rebound]

theorem answer_createNode_of_taken (now : Instant) (node : Node)
    (taken : s.Takes id node.nodeId) :
    s.answer now (.createNode { node with flowId := id }) =
      (.error (.conflict .node node.nodeId), s) := by
  rw [← takes_iff] at taken
  simp [answer, createNode, taken]

end Store

/-! ## The calls that store a flow -/

namespace SeedFlow

open Shared Store

variable {s t : Shared} {r : Except StoreError Unit} {id : FlowId} {rest : List StoreCall}

/-- What a call that is not refused is followed by. -/
theorem runs_storeAll_of_accepted {call : StoreCall} {row : call.Result} {after : Store}
    (accepted : ∀ now, s.store.answer now call = (.ok row, after))
    (ran : Runs answering (storeAll (call :: rest)) s r t) :
    Runs answering (storeAll rest) { s with store := after } r t := by
  rcases runs_ask_iff.mp ran with ⟨_, _, ⟨now, rfl, rfl⟩, ran⟩
  rw [accepted now] at ran
  exact ran

/-- With the first call that is refused the storing ends. -/
theorem runs_storeAll_of_refused {call : StoreCall} {e : StoreError}
    (refused : ∀ now, s.store.answer now call = (.error e, s.store))
    (ran : Runs answering (storeAll (call :: rest)) s r t) : r = .error e ∧ t = s := by
  rcases runs_ask_iff.mp ran with ⟨_, _, ⟨now, rfl, rfl⟩, ran⟩
  rw [refused now] at ran
  exact runs_done_iff.mp ran

/-- Nodes are stored in order, up to one whose name is taken. -/
theorem runs_storeAll_nodes {nodes : List Node}
    (ran : Runs answering
      (storeAll ((nodes.map fun node => .createNode { node with flowId := id }) ++ rest)) s r t) :
    Runs answering (storeAll rest) { s with store := s.store.withNodes id nodes } r t ∨
      ∃ front node back, nodes = front ++ node :: back ∧
        (s.store.withNodes id front).Takes id node.nodeId ∧
        r = .error (.conflict .node node.nodeId) ∧
        t = { s with store := s.store.withNodes id front } := by
  -- The tables change along the list: a name may have been taken by an earlier node of it.
  induction nodes generalizing s with
  | nil =>
      rw [withNodes_nil]
      exact .inl ran
  | cons node others ih =>
      by_cases taken : s.store.Takes id node.nodeId
      · rcases runs_storeAll_of_refused (fun now => answer_createNode_of_taken now node taken) ran
          with ⟨rfl, rfl⟩
        refine .inr ⟨[], node, others, rfl, ?_, rfl, ?_⟩ <;> rw [withNodes_nil]
        exact taken
      · have ran := runs_storeAll_of_accepted (fun now => answer_createNode now node taken) ran
        rcases ih ran with ran | ⟨front, other, back, rfl, taken, rfl, rfl⟩
        · rw [withNodes_cons]
          exact .inl ran
        · refine .inr ⟨node :: front, other, back, rfl, ?_, rfl, ?_⟩ <;>
            rw [withNodes_cons node front]
          exact taken

theorem runs_storeAll_edges {edges : List Edge}
    (ran : Runs answering
      (storeAll ((edges.map fun edge => .createEdge { edge with flowId := id }) ++ rest)) s r t) :
    Runs answering (storeAll rest) { s with store := s.store.withEdges id edges } r t := by
  induction edges generalizing s with
  | nil =>
      rw [withEdges_nil]
      exact ran
  | cons edge others ih =>
      rw [withEdges_cons]
      exact ih (runs_storeAll_of_accepted (fun _ => rfl) ran)

theorem runs_storeAll_rateLimits {rules : List RateLimit}
    (ran : Runs answering
      (storeAll (rules.map fun rule => .createRateLimit { rule with flowId := some id })) s r t) :
    r = .ok () ∧ t = { s with store := s.store.withRateLimits id rules } := by
  induction rules generalizing s with
  | nil =>
      rw [withRateLimits_nil]
      exact runs_done_iff.mp ran
  | cons rule others ih =>
      rw [withRateLimits_cons]
      exact ih (runs_storeAll_of_accepted (fun _ => rfl) ran)

/-! ## The rows of a flow -/

/-- The row of a flow, with what its seed says of it. -/
structure Describes (seed : SeedFlow) (id : FlowId) (row : Flow) : Prop where
  id : row.id = id
  name : row.name = seed.name
  uid : row.uid = seed.uid
  topic : row.topic = seed.topic
  description : row.description = seed.description
  enabled : row.enabled = seed.enabled

/-- The rows of the nodes of a flow, under the numbers behind that of the flow. -/
def nodeRows (seed : SeedFlow) (id : FlowId) : List Node :=
  numbered (Node.rebound id) id.value seed.nodes

/-- The rows of the edges, under the numbers behind those of the nodes. -/
def edgeRows (seed : SeedFlow) (id : FlowId) : List Edge :=
  numbered (Edge.rebound id) (id.value + seed.nodes.length) seed.edges

/-- The rows of the rate limits, under the numbers behind those of the edges. -/
def limitRows (seed : SeedFlow) (id : FlowId) : List RateLimit :=
  numbered (RateLimit.rebound id) (id.value + seed.nodes.length + seed.edges.length)
    seed.rateLimits

/-- How many rows a flow has. -/
def size (seed : SeedFlow) : Nat :=
  1 + seed.nodes.length + seed.edges.length + seed.rateLimits.length

/-- A flow is stored as a whole: all its rows are added, under the numbers behind the last one, and
nothing else changes. -/
structure Completes (seed : SeedFlow) (id : FlowId) (s t : Store) : Prop where
  next : id.value = s.lastId + 1
  counted : t.lastId = s.lastId + seed.size
  flows : ∃ row, seed.Describes id row ∧ t.flows = s.flows ++ [row]
  nodes : t.nodes = s.nodes ++ seed.nodeRows id
  edges : t.edges = s.edges ++ seed.edgeRows id
  rateLimits : t.rateLimits = s.rateLimits ++ seed.limitRows id
  executions : t.executions = s.executions
  jobs : t.jobs = s.jobs

/-- The storing of a flow breaks off at a node whose name is taken: there is the row of the flow
with the nodes in front of that one, and nothing else. -/
structure BreaksOff (seed : SeedFlow) (id : FlowId) (front : List Node) (node : Node)
    (s t : Store) : Prop where
  next : id.value = s.lastId + 1
  reached : front ++ [node] <+: seed.nodes
  taken : (∃ other ∈ front, other.nodeId = node.nodeId) ∨ s.Takes id node.nodeId
  counted : t.lastId = s.lastId + 1 + front.length
  flows : ∃ row, seed.Describes id row ∧ t.flows = s.flows ++ [row]
  nodes : t.nodes = s.nodes ++ numbered (Node.rebound id) id.value front
  edges : t.edges = s.edges
  rateLimits : t.rateLimits = s.rateLimits
  executions : t.executions = s.executions
  jobs : t.jobs = s.jobs

/-- An edge joins nodes of the flow. -/
def Joins (seed : SeedFlow) (edge : Edge) : Prop :=
  edge.sourceNode ∈ seed.nodes.map (·.nodeId) ∧ edge.targetNode ∈ seed.nodes.map (·.nodeId)

/-- What comes of a flow that is checked and stored. -/
inductive Applies (seed : SeedFlow) (s : Store) : Except SeedError FlowId → Store → Prop where
  | rejected {front back : List Edge} {edge : Edge} (split : seed.edges = front ++ edge :: back)
      (joined : ∀ other ∈ front, seed.Joins other) (dangles : ¬ seed.Joins edge) :
      Applies seed s (.error (.danglingEdge seed.name edge.sourceNode edge.targetNode)) s
  | brokenOff {id : FlowId} {front : List Node} {node : Node} {t : Store}
      (joined : ∀ edge ∈ seed.edges, seed.Joins edge) (breaks : seed.BreaksOff id front node s t) :
      Applies seed s (.error (.store (.conflict .node node.nodeId))) t
  | completed {id : FlowId} {t : Store} (joined : ∀ edge ∈ seed.edges, seed.Joins edge)
      (completes : seed.Completes id s t) : Applies seed s (.ok id) t

/-! ## Storing a flow -/

variable {seed : SeedFlow}

theorem addEdge_iff {edge : Edge} :
    ((Graph.ofRows seed.nodes []).addEdge edge).1 = true ↔ seed.Joins edge := by
  rw [Joins, ← Graph.hasNode_ofRows_iff, ← Graph.hasNode_ofRows_iff]
  unfold Graph.addEdge
  split <;> simp_all

theorem joins_of_checkGraph (passed : seed.checkGraph = .ok ()) :
    ∀ edge ∈ seed.edges, seed.Joins edge := by
  simp only [checkGraph] at passed
  split at passed
  · cases passed
  · rename_i none
    intro edge edgeMem
    exact addEdge_iff.mp (by simpa using List.find?_eq_none.mp none edge edgeMem)

/-- What is reported is the first edge that dangles. -/
theorem exists_dangling_of_checkGraph {e : SeedError} (rejected : seed.checkGraph = .error e) :
    ∃ front edge back, seed.edges = front ++ edge :: back ∧
      (∀ other ∈ front, seed.Joins other) ∧ ¬ seed.Joins edge ∧
      e = .danglingEdge seed.name edge.sourceNode edge.targetNode := by
  simp only [checkGraph] at rejected
  split at rejected
  · rename_i edge found
    cases rejected
    rcases List.find?_eq_some_iff_append.mp found with ⟨dangles, front, back, split, passed⟩
    refine ⟨front, edge, back, split, ?_, ?_, rfl⟩
    · intro other otherMem
      exact addEdge_iff.mp (by simpa using passed other otherMem)
    · rw [← addEdge_iff]
      simpa using dangles
  · cases rejected

/-- The row of a flow is made before it is stored, with whatever the clock shows. -/
theorem runs_row {row : Flow} (ran : Runs answering seed.row s row t) :
    t = s ∧ seed.Describes row.id row := by
  unfold SeedFlow.row at ran
  rcases runs_ask_iff.mp ran with ⟨now, _, rfl, made⟩
  split at made
  · rename_i enabled
    rcases runs_done_iff.mp made with ⟨rfl, rfl⟩
    exact ⟨rfl, ⟨rfl, rfl, rfl, rfl, rfl, enabled.symm⟩⟩
  · rename_i disabled
    rcases runs_ask_iff.mp made with ⟨later, _, rfl, ended⟩
    rcases runs_done_iff.mp ended with ⟨rfl, rfl⟩
    exact ⟨rfl, ⟨rfl, rfl, rfl, rfl, rfl, by simpa [Flow.setEnabled] using disabled⟩⟩

/-- A flow that has been checked is stored as a whole, or up to a node. -/
theorem runs_store {stored : Except StoreError FlowId}
    (ran : Runs answering seed.store s stored t) :
    t.queue = s.queue ∧
      ((∃ id, stored = .ok id ∧ seed.Completes id s.store t.store) ∨
        ∃ id front node, stored = .error (.conflict .node node.nodeId) ∧
          seed.BreaksOff id front node s.store t.store) := by
  rcases runs_bind_iff.mp ran with ⟨row, u, making, creating⟩
  rcases runs_row making with ⟨rfl, describes⟩
  rw [Service.store_bind] at creating
  rcases runs_ask_iff.mp creating with ⟨_, _, ⟨now, rfl, rfl⟩, following⟩
  set id : FlowId := ⟨u.store.lastId + 1⟩
  have created : ∃ flow, seed.Describes id flow ∧ (u.store.createFlow row).2.flows =
      u.store.flows ++ [flow] :=
    ⟨{ row with id := id }, { describes with id := rfl }, rfl⟩
  rcases runs_bind_iff.mp following with ⟨outcome, v, storing, ended⟩
  change Runs answering (storeAll (seed.rowCalls id)) _ _ _ at storing
  rw [rowCalls, List.append_assoc] at storing
  rcases runs_storeAll_nodes storing with storing | ⟨front, node, back, split, taken, rfl, rfl⟩
  · rcases runs_storeAll_rateLimits (runs_storeAll_edges storing) with ⟨rfl, rfl⟩
    rcases runs_done_iff.mp ended with ⟨rfl, rfl⟩
    refine ⟨rfl, .inl ⟨id, rfl, ?_⟩⟩
    constructor
    case flows => exact created
    case counted =>
      have behind : (u.store.createFlow row).2.lastId = u.store.lastId + 1 := rfl
      simp only [withRateLimits, withEdges, withNodes, size, Store.answer, behind]
      omega
    -- The numbers of the rows go on where those of the table before have ended.
    all_goals rfl
  · rcases runs_done_iff.mp ended with ⟨rfl, rfl⟩
    refine ⟨rfl, .inr ⟨id, front, node, rfl, ?_⟩⟩
    constructor
    case flows => exact created
    case reached => exact ⟨back, by simp [split]⟩
    case counted => rfl
    case taken =>
      rcases taken with ⟨other, otherMem, own, same⟩
      rcases List.mem_append.mp otherMem with stray | fresh
      · exact .inr ⟨other, stray, own, same⟩
      · -- A row that has been added just now stands for an earlier node of the seed.
        rcases exists_of_mem_numbered fresh with ⟨number, given, givenMem, rfl⟩
        exact .inl ⟨given, givenMem, same⟩
    all_goals rfl

/-- What a flow comes to that is checked and stored. -/
theorem runs_apply {r : Except SeedError FlowId} (ran : Runs answering seed.apply s r t) :
    t.queue = s.queue ∧ seed.Applies s.store r t.store := by
  unfold SeedFlow.apply at ran
  cases checked : seed.checkGraph with
  | error e =>
      rw [checked] at ran
      rcases runs_done_iff.mp ran with ⟨rfl, rfl⟩
      rcases exists_dangling_of_checkGraph checked with ⟨_, _, _, split, joined, dangles, rfl⟩
      exact ⟨rfl, .rejected split joined dangles⟩
  | ok _ =>
      rw [checked] at ran
      rcases runs_bind_iff.mp ran with ⟨stored, u, storing, ended⟩
      rcases runs_done_iff.mp ended with ⟨rfl, rfl⟩
      have joined := joins_of_checkGraph checked
      rcases runs_store storing with ⟨queue, ⟨id, rfl, completes⟩ | ⟨id, front, node, rfl, breaks⟩⟩
      · exact ⟨queue, .completed joined completes⟩
      · exact ⟨queue, .brokenOff joined breaks⟩

/-! ## Storing a document -/

/-- Flows are stored as wholes, one after the other. -/
inductive CompletesAll : List SeedFlow → List FlowId → Store → Store → Prop where
  | nil {s : Store} : CompletesAll [] [] s s
  | cons {seed : SeedFlow} {rest : List SeedFlow} {id : FlowId} {ids : List FlowId}
      {s t u : Store} (first : seed.Completes id s t) (later : CompletesAll rest ids t u) :
      CompletesAll (seed :: rest) (id :: ids) s u

/-- The flows of a document are stored in order, up to one that is refused. -/
theorem runs_applyAll {seeds : List SeedFlow} {done : List FlowId}
    {r : Except SeedError (List FlowId)} (ran : Runs answering (Seed.applyAll seeds done) s r t) :
    t.queue = s.queue ∧
      ((∃ ids, r = .ok (done ++ ids) ∧ CompletesAll seeds ids s.store t.store) ∨
        ∃ before refused after ids u e, seeds = before ++ refused :: after ∧ r = .error e ∧
          CompletesAll before ids s.store u ∧ refused.Applies u (.error e) t.store) := by
  induction seeds generalizing s done with
  | nil =>
      rcases runs_done_iff.mp ran with ⟨rfl, rfl⟩
      exact ⟨rfl, .inl ⟨[], by simp, .nil⟩⟩
  | cons seed rest ih =>
      rcases runs_bind_iff.mp ran with ⟨applied, u, applying, following⟩
      rcases runs_apply applying with ⟨queue, applies⟩
      cases applied with
      | error e =>
          rcases runs_done_iff.mp following with ⟨rfl, rfl⟩
          exact ⟨queue, .inr ⟨[], seed, rest, [], _, e, rfl, rfl, .nil, applies⟩⟩
      | ok id =>
          cases applies with
          | completed _ completes =>
              rcases ih following with ⟨still, ⟨ids, rfl, later⟩ |
                ⟨before, refused, after, ids, v, e, rfl, rfl, later, fails⟩⟩
              · exact ⟨still.trans queue, .inl ⟨id :: ids, by simp, .cons completes later⟩⟩
              · exact ⟨still.trans queue, .inr ⟨seed :: before, refused, after, id :: ids, v, e,
                  rfl, rfl, .cons completes later, fails⟩⟩

/-! ## Nodes in the way -/

section InTheWay

variable {seeds : List SeedFlow} {ids : List FlowId} {front : List Node} {node : Node}
  {before after : Store}

theorem Completes.nodesPlaced (completes : seed.Completes id before after)
    (placed : before.NodesPlaced) : after.NodesPlaced := by
  have next := completes.next
  intro node nodeMem
  rw [completes.nodes] at nodeMem
  rw [completes.counted, size]
  rcases List.mem_append.mp nodeMem with stored | fresh
  · have given := placed node stored
    omega
  · rcases exists_of_mem_numbered fresh with ⟨number, given, _, rfl⟩
    simp only [Node.rebound]
    omega

theorem CompletesAll.nodesPlaced (completes : CompletesAll seeds ids before after)
    (placed : before.NodesPlaced) : after.NodesPlaced := by
  induction completes with
  | nil => exact placed
  | cons first _ ih => exact ih (first.nodesPlaced placed)

/-- When names are different and none is taken beforehand, the storing of a flow does not break
off. -/
theorem BreaksOff.false_of_distinct (breaks : seed.BreaksOff id front node before after)
    (distinct : (seed.nodes.map (·.nodeId)).Nodup) (placed : before.NodesPlaced) : False := by
  rcases breaks.taken with ⟨other, otherMem, same⟩ | ⟨other, stored, own, _⟩
  · have reached := (breaks.reached.sublist.map (·.nodeId)).nodup distinct
    rw [List.map_append, List.map_singleton] at reached
    have apart := (List.nodup_append.mp reached).2.2
    exact apart other.nodeId (List.mem_map_of_mem otherMem) node.nodeId
      (List.mem_singleton_self _) same
  · have given := placed other stored
    have next := breaks.next
    rw [own] at given
    omega

end InTheWay

end SeedFlow

end EventFlow
