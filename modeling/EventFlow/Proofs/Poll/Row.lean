import EventFlow.Proofs.Poll.Around

/-!
# The row of a node

A node that is stored stays stored.  Its row changes where it is replaced, and nowhere else.
-/

namespace EventFlow

open Program
open Relation (ReflTransGen)

/-- The row that an operation puts in the place of a node. -/
def StoreCall.replaces? (name : FlowId × String) : StoreCall → Option Node
  | .updateNode node => if node.name = name then some node else none
  | _ => none

theorem StoreCall.replaces?_eq_some_iff {name : FlowId × String} {call : StoreCall} {node : Node} :
    call.replaces? name = some node ↔ call = .updateNode node ∧ node.name = name := by
  cases call with
  | updateNode other =>
      simp only [replaces?, updateNode.injEq]
      constructor
      · intro here
        split at here
        · rename_i named
          cases here
          exact ⟨rfl, named⟩
        · cases here
      · rintro ⟨rfl, named⟩
        rw [if_pos named]
  | _ => simp [replaces?]

/-- What does not replace a node writes no row under its name, unless it adds one. -/
theorem StoreCall.key_ne_of_replaces? {name : FlowId × String} {call : StoreCall} {number : Int}
    {now : Instant} {row : Row} (replaces : call.replaces? name = none)
    (creates : call.creates = false) (written : call.row? number now = some row) :
    row.key ≠ .node name.1 name.2 := by
  intro same
  cases call with
  | updateNode node =>
      cases written
      simp only [Row.key, RowKey.node.injEq] at same
      simp [StoreCall.replaces?, Node.name, same] at replaces
  | updateFlow | updateExecution | updateJob =>
      cases written
      cases same
  | createFlow | createNode | createEdge | createExecution | createJob | createRateLimit =>
      cases creates
  | getFlow | listFlows | listNodes | listEdges | getExecution | listExecutions | listJobs
  | listRateLimits => cases written

namespace Store

/-- The row of a node. -/
def nodeNamed? (s : Store) (name : FlowId × String) : Option Node :=
  (s.listNodes name.1).find? fun node => node.nodeId == name.2

variable {s : Store} {name : FlowId × String} {row : Node}

theorem read_node (s : Store) (name : FlowId × String) :
    s.read (.node name.1 name.2) = (s.nodeNamed? name).map .node :=
  rfl

theorem nodeNamed?_eq_some_iff (sound : s.Sound) :
    s.nodeNamed? name = some row ↔ row ∈ s.nodes ∧ row.name = name := by
  have found : s.nodeNamed? name = some row ↔
      s.read (.node name.1 name.2) = some (.node row) := by
    rw [read_node]
    simp
  rw [found, sound.keyed.read_eq, find?_key_eq_some_iff (sound.keyed _)]
  simp [rows, RowKey.table, Row.key, Node.name, Prod.ext_iff]

/-- An operation replaces the row of a node, or it leaves it as it is. -/
theorem nodeNamed?_answer (sound : s.Sound) (stored : s.nodeNamed? name = some row) (now : Instant)
    (call : StoreCall) : (s.answer now call).2.nodeNamed? name =
      some (((call.replaces? name).map fun node => { node with updatedAt := now }).getD row) := by
  have does := sound.does now call
  have after := does.sound sound
  have keyMem : RowKey.node name.1 name.2 ∈ s.keys .nodes := by
    rcases (nodeNamed?_eq_some_iff sound).mp stored with ⟨rowMem, rfl⟩
    exact mem_keys_nodes_iff.mpr ⟨row, rowMem, rfl, rfl⟩
  have reading (t : Store) {other : Node} :
      t.nodeNamed? name = some other ↔ t.read (.node name.1 name.2) = some (.node other) := by
    rw [read_node]
    simp
  rw [reading] at stored ⊢
  cases replaces : call.replaces? name with
  | some node =>
      rcases StoreCall.replaces?_eq_some_iff.mp replaces with ⟨rfl, rfl⟩
      generalize (s.answer now (.updateNode node)).1 = result at does
      generalize (s.answer now (.updateNode node)).2 = t at does after ⊢
      cases does with
      | read nothing => cases nothing
      | add creates => cases creates
      | put _ written puts =>
          cases written
          rw [puts.read sound.keyed after.keyed]
          simp [Row.key, Node.name]
      | refuse written taken =>
          cases written
          exact absurd (taken.mp keyMem) (by simp [StoreCall.creates])
  | none =>
      rw [Option.map_none, Option.getD_none]
      generalize (s.answer now call).1 = result at does
      generalize (s.answer now call).2 = t at does after ⊢
      cases does with
      | read | refuse => exact stored
      | @add _ _ other _ _ _ adds =>
          have apart : other.key ≠ .node name.1 name.2 := by
            intro same
            exact adds.new (same ▸ keyMem)
          rw [adds.read sound.keyed after.keyed, if_neg apart]
          exact stored
      | put creates written puts =>
          rw [puts.read sound.keyed after.keyed,
            if_neg (StoreCall.key_ne_of_replaces? replaces creates written)]
          exact stored

/-- A node that is stored can be replaced. -/
theorem answer_updateNode (sound : s.Sound) {node : Node}
    (stored : s.nodeNamed? node.name = some row) (now : Instant) :
    (s.answer now (.updateNode node)).1 = .ok () := by
  have does := sound.does now (.updateNode node)
  generalize (s.answer now (.updateNode node)).1 = result at does ⊢
  generalize (s.answer now (.updateNode node)).2 = t at does
  cases does with
  | read | add | put => rfl
  | refuse written taken =>
      cases written
      rcases (nodeNamed?_eq_some_iff sound).mp stored with ⟨rowMem, sameName⟩
      simp only [Node.name, Prod.mk.injEq] at sameName
      have keyMem : RowKey.node node.flowId node.nodeId ∈ s.keys .nodes :=
        mem_keys_nodes_iff.mpr ⟨row, rowMem, sameName⟩
      exact absurd (taken.mp keyMem) (by simp [StoreCall.creates])

end Store

/-! ## Among others -/

/-- A question that writes other nodes only leaves the row of a node as it is. -/
theorem Shared.Answers.nodeNamed? {s t : Shared} {q : ServiceCall} {a : q.Answer}
    {name : FlowId × String} {row : Node} {lists : FlowId → Prop}
    {writes : FlowId × String → Prop} (answered : s.Answers q a t)
    (touches : q.Touches lists writes) (spares : ¬ writes name) (reachable : s.store.Reachable)
    (stored : s.store.nodeNamed? name = some row) : t.store.nodeNamed? name = some row := by
  cases q with
  | store call =>
      rcases answered with ⟨now, _, rfl⟩
      have unreplaced : call.replaces? name = none := by
        cases call with
        | updateNode node =>
            have other : node.name ≠ name := by
              rintro rfl
              exact spares touches
            exact if_neg other
        | _ => rfl
      have answered := Store.nodeNamed?_answer reachable.sound stored now call
      rwa [unreplaced, Option.map_none, Option.getD_none] at answered
  | queue call =>
      rcases answered with ⟨_, _, rfl⟩
      exact stored
  | freshId =>
      rcases answered with ⟨_, rfl⟩
      exact stored
  | _ =>
      cases answered
      exact stored

section Among

variable {N : Type} {tells : StoreCall → N → N → Prop}
  {note : (q : ServiceCall) → q.Answer → N → N → Prop} {s t : Noted Shared N}
  {name : FlowId × String} {row : Node}

theorem Operates.exists_node (operates : Operates tells s t) (reachable : s.state.store.Reachable)
    (stored : s.state.store.nodeNamed? name = some row) :
    ∃ left, t.state.store.nodeNamed? name = some left := by
  cases operates with
  | store now call _ => exact ⟨_, Store.nodeNamed?_answer reachable.sound stored now call⟩
  | queue => exact ⟨row, stored⟩

theorem exists_node_of_others (others : ReflTransGen (Operates tells) s t)
    (reachable : s.state.store.Reachable) (stored : s.state.store.nodeNamed? name = some row) :
    ∃ left, t.state.store.nodeNamed? name = some left := by
  induction others with
  | refl => exact ⟨row, stored⟩
  | tail first last ih =>
      rcases ih with ⟨between, still⟩
      exact last.exists_node (reachable_of_others first reachable) still

/-- A node that is listed is stored so. -/
theorem nodeNamed?_of_listed {nodes : List Node} {node : Node}
    (listed : among tells note s (.store (.listNodes name.1)) (.ok nodes) t)
    (reachable : s.state.store.Reachable) (nodeMem : node ∈ nodes) (named : node.name = name) :
    t.state.store.nodeNamed? name = some node := by
  have after := reachable_of_among listed reachable
  rcases among_store listed with ⟨u, now, _, told, left, _⟩
  obtain rfl : nodes = u.state.store.listNodes name.1 := Except.ok.inj told
  have same : t.state.store = u.state.store := congrArg Shared.store left
  rw [same] at after ⊢
  exact (Store.nodeNamed?_eq_some_iff after.sound).mpr ⟨List.mem_of_mem_filter nodeMem, named⟩

/-- The state of a node that is stored is saved at the first try. -/
theorem runs_saveState_among {poller : Poller} {node : Node} (named : node.name = name)
    (reachable : s.state.store.Reachable) (stored : s.state.store.nodeNamed? name = some row)
    (ran : Runs (among tells note) (poller.saveState node) s () t) :
    ∃ u now, ReflTransGen (Operates tells) s u ∧
      note (.store (.updateNode node)) (.ok ()) u.notes t.notes ∧
      t.state.store.nodeNamed? name = some { node with updatedAt := now } := by
  subst named
  rcases runs_bind_iff.mp ran with ⟨_, v, saving, ended⟩
  rcases runs_done_iff.mp ended with ⟨_, rfl⟩
  rw [EventFlow.retry, retryFrom.eq_def] at saving
  rcases runs_ask_iff.mp saving with ⟨result, w, tried, saving⟩
  rcases among_store tried with ⟨u, now, others, told, left, noted⟩
  have between := (reachable_of_others others reachable).sound
  rcases exists_node_of_others others reachable stored with ⟨old, still⟩
  rw [Store.answer_updateNode between still] at told
  subst told
  rcases runs_done_iff.mp saving with ⟨_, rfl⟩
  refine ⟨u, now, others, noted, ?_⟩
  rw [left, Store.nodeNamed?_answer between still]
  simp [StoreCall.replaces?]

end Among

/-! ## A flow with one trigger -/

namespace Feed

/-- Before anything happens. -/
def start : Instant := .ofMilliseconds 5

/-- A trigger outside of the library that is polled. -/
def slow : TriggerRule :=
  { TriggerRule.create "slow" [] with mode := .poll, polling := .external ⟨0⟩ }

/-- A trigger of the first flow that is polled slowly. -/
def feed : Node :=
  { Node.ofRule start .trigger "feed" "dev" "slow" with flowId := ⟨1⟩, label := "old" }

/-- The trigger as it is stored. -/
def stored : Node :=
  { feed with id := 2 }

/-- A flow that consists of the trigger. -/
def store : Store :=
  let withFlow := (Store.empty.answer start (.createFlow (.create start "owner" "topic" "feeds"))).2
  (withFlow.answer start (.createNode feed)).2

theorem reachable : store.Reachable :=
  .answer (.answer .empty _ _) _ _

/-- The rules that are registered. -/
def registry : Registry :=
  .ofList [⟨Bot.devName, [slow], []⟩]

/-- A poller with a queue. -/
def poller : Poller :=
  ⟨registry, ⟨true, .create registry .default, .default, .default⟩, .default, .default,
    .ofSeconds 120⟩

theorem found : store.nodeNamed? feed.name = some stored :=
  (Store.nodeNamed?_eq_some_iff reachable.sound).mpr ⟨List.mem_singleton_self _, rfl⟩

end Feed

end EventFlow
