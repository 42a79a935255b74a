import EventFlow.Proofs.Others
import EventFlow.Proofs.Poll.Visits
import EventFlow.Proofs.Store.Chronicle

/-!
# The triggers that are polled

A poller polls the triggers of the flows that are switched on, if there is a rule for them and it
is one that is polled.  It goes through them in the order in which flows and nodes were created,
and so it comes to none of them twice.
-/

namespace EventFlow.Poller

/-- Those of some nodes of a flow that are polled, with their rules. -/
def triggersOf (poller : Poller) (flow : Flow) (nodes : List Node) :
    List (Flow × Node × TriggerRule) :=
  nodes.filterMap fun node => (poller.polled? node).map fun rule => (flow, node, rule)

/-- The triggers of a flow that are polled. -/
def triggersIn (poller : Poller) (store : Store) (flow : Flow) : List (Flow × Node × TriggerRule) :=
  poller.triggersOf flow ((store.listNodes flow.id).filter Node.isTrigger)

/-- The triggers that are polled, of the flows that are switched on. -/
def triggers (poller : Poller) (store : Store) : List (Flow × Node × TriggerRule) :=
  (store.flows.filter (·.enabled)).flatMap (poller.triggersIn store)

/-- Of two triggers the first one has the flow that was created earlier, or it is the node of the
same flow that was created earlier. -/
def CreatedBefore (log : List Write) (a b : Flow × Node × TriggerRule) : Prop :=
  [RowKey.flow a.1.id, RowKey.flow b.1.id].Sublist (Write.addedTo log .flows) ∨
    a.1 = b.1 ∧
      [RowKey.node a.2.1.flowId a.2.1.nodeId, RowKey.node b.2.1.flowId b.2.1.nodeId].Sublist
        (Write.addedTo log .nodes)

variable {poller : Poller} {store : Store} {flow : Flow} {node : Node} {rule : TriggerRule}

theorem node_of_mem_triggersOf {nodes : List Node} {trigger : Flow × Node × TriggerRule}
    (triggerMem : trigger ∈ poller.triggersOf flow nodes) : trigger.2.1 ∈ nodes := by
  rcases List.mem_filterMap.mp triggerMem with ⟨node, nodeMem, same⟩
  rcases Option.map_eq_some_iff.mp same with ⟨_, _, rfl⟩
  exact nodeMem

theorem flowId_of_mem_triggersIn {trigger : Flow × Node × TriggerRule}
    (triggerMem : trigger ∈ poller.triggersIn store flow) : trigger.2.1.flowId = flow.id := by
  have listed := List.mem_of_mem_filter (node_of_mem_triggersOf triggerMem)
  simpa using (List.mem_filter.mp listed).2

theorem triggersOf_cons (poller : Poller) (flow : Flow) (node : Node) (rest : List Node) :
    poller.triggersOf flow (node :: rest) =
      poller.triggersOf flow [node] ++ poller.triggersOf flow rest := by
  simp only [triggersOf, ← List.filterMap_append, List.singleton_append]

theorem findTrigger_of_polled? (polled : poller.polled? node = some rule) :
    poller.registry.findTrigger node.bot node.ruleId = .ok rule ∧ rule.mode = .poll := by
  unfold polled? at polled
  cases found : poller.registry.findTrigger node.bot node.ruleId with
  | error e => simp [found] at polled
  | ok other =>
      by_cases poll : other.mode = .poll
      · simp only [found, poll, if_true, Option.some.injEq] at polled
        exact ⟨congrArg Except.ok polled, polled ▸ poll⟩
      · simp [found, poll] at polled

theorem polled?_eq_some_iff : poller.polled? node = some rule ↔
    poller.registry.findTrigger node.bot node.ruleId = .ok rule ∧ rule.mode = .poll := by
  constructor
  · exact findTrigger_of_polled?
  · rintro ⟨found, poll⟩
    simp [polled?, found, poll]

/-- A trigger is polled if its flow is switched on and its rule is there and in this mode. -/
theorem mem_triggers_iff : (flow, node, rule) ∈ poller.triggers store ↔
    (flow ∈ store.flows ∧ flow.enabled = true) ∧
      (node ∈ store.nodes ∧ node.flowId = flow.id ∧ node.isTrigger = true) ∧
      poller.registry.findTrigger node.bot node.ruleId = .ok rule ∧ rule.mode = .poll := by
  rw [← polled?_eq_some_iff]
  simp only [triggers, triggersIn, triggersOf, Store.listNodes, List.mem_flatMap,
    List.mem_filterMap, List.mem_filter, Option.map_eq_some_iff, Prod.mk.injEq, beq_iff_eq]
  constructor
  · rintro ⟨flow, on, node, ⟨⟨nodeMem, own⟩, trigger⟩, rule, polled, rfl, rfl, rfl⟩
    exact ⟨on, ⟨nodeMem, own, trigger⟩, polled⟩
  · rintro ⟨on, ⟨nodeMem, own, trigger⟩, polled⟩
    exact ⟨flow, on, node, ⟨⟨nodeMem, own⟩, trigger⟩, rule, polled, rfl, rfl, rfl⟩

/-- What goes through the keys of a list goes through them in order. -/
theorem pairwise_of_sublist {α κ : Type} {f : α → κ} {rows : List α} {keys : List κ}
    (ordered : (rows.map f).Sublist keys) : rows.Pairwise fun a b => [f a, f b].Sublist keys :=
  List.pairwise_iff_forall_sublist.mpr fun sub => (sub.map f).trans ordered

/-- Triggers that are polled come in the order of their creation. -/
theorem pairwise_triggers (poller : Poller) (operations : List (Instant × StoreCall)) :
    (poller.triggers (Chronicle.of operations).store).Pairwise
      (CreatedBefore (Chronicle.of operations).log) := by
  have faithful := Chronicle.faithful_of operations
  set store := (Chronicle.of operations).store
  apply List.pairwise_flatMap.mpr
  constructor
  · intro flow _
    have chosen : (((store.listNodes flow.id).filter Node.isTrigger).Sublist _) :=
      List.filter_sublist
    have ordered := (chosen.map _).trans (store.keys_listNodes_sublist flow.id)
    rw [faithful.keys] at ordered
    apply (pairwise_of_sublist ordered).filterMap
    rintro a b before _ aMem _ bMem
    rcases Option.map_eq_some_iff.mp aMem with ⟨_, _, rfl⟩
    rcases Option.map_eq_some_iff.mp bMem with ⟨_, _, rfl⟩
    exact .inr ⟨rfl, before⟩
  · have ordered : ((store.flows.filter (·.enabled)).map fun flow => RowKey.flow flow.id).Sublist
        (Write.addedTo (Chronicle.of operations).log .flows) := by
      rw [← faithful.keys, Store.keys, Store.rows, List.map_map]
      exact List.filter_sublist.map _
    apply (pairwise_of_sublist ordered).imp
    intro a b before x xMem y yMem
    rcases List.mem_filterMap.mp xMem with ⟨_, _, same⟩
    rcases Option.map_eq_some_iff.mp same with ⟨_, _, rfl⟩
    rcases List.mem_filterMap.mp yMem with ⟨_, _, same⟩
    rcases Option.map_eq_some_iff.mp same with ⟨_, _, rfl⟩
    exact .inl before

/-- Of two triggers one has been created before the other, so that they are not the same. -/
theorem CreatedBefore.name_ne {operations : List (Instant × StoreCall)}
    {a b : Flow × Node × TriggerRule} (before : CreatedBefore (Chronicle.of operations).log a b)
    (first : a.2.1.flowId = a.1.id) (second : b.2.1.flowId = b.1.id) : a.2.1.name ≠ b.2.1.name := by
  have faithful := Chronicle.faithful_of operations
  have distinct (table : StoreTable) : (Write.addedTo (Chronicle.of operations).log table).Nodup :=
    faithful.keys table ▸ faithful.sound.keyed table
  intro same
  have sameFlow : a.2.1.flowId = b.2.1.flowId := congrArg Prod.fst same
  have sameId : a.2.1.nodeId = b.2.1.nodeId := congrArg Prod.snd same
  rcases before with flows | ⟨_, nodes⟩
  · rw [← first, ← second, sameFlow] at flows
    exact List.nodup_iff_sublist.mp (distinct .flows) _ flows
  · rw [sameFlow, sameId] at nodes
    exact List.nodup_iff_sublist.mp (distinct .nodes) _ nodes

/-- No node is polled twice. -/
theorem nodup_triggers (poller : Poller) (operations : List (Instant × StoreCall)) :
    ((poller.triggers (Chronicle.of operations).store).map (·.2.1.name)).Nodup := by
  apply List.pairwise_map.mpr
  apply (poller.pairwise_triggers operations).imp_of_mem
  rintro ⟨flow, node, rule⟩ ⟨other, otherNode, otherRule⟩ firstMem secondMem before
  rcases mem_triggers_iff.mp firstMem with ⟨_, ⟨_, first, _⟩, _⟩
  rcases mem_triggers_iff.mp secondMem with ⟨_, ⟨_, second, _⟩, _⟩
  exact before.name_ne first second

end EventFlow.Poller
