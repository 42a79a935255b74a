import EventFlow.Poller
import EventFlow.Proofs.Dispatch.Selection

/-!
# No event misses its node

The poller and the webhooks submit their events under the trigger type of a node.  When the bot
and the rule of the node can be read off this type, the execution of an event enters the triggers
that have the same bot and the same rule, and the node is one of them; so it cannot succeed
without having executed the node.  While the poller goes through the triggers it writes nothing
but their states, and nobody loses its name, its bot or its rule.
-/

namespace EventFlow

open Program Shared
open Relation (ReflTransGen)

/-! ## Who a node is -/

/-- What a node is known by: its flow and its name, and what it does. -/
def Node.identity (node : Node) : FlowId × String × NodeType × String × String :=
  (node.flowId, node.nodeId, node.nodeType, node.bot, node.ruleId)

namespace Store

/-- A node is stored, whatever its state is. -/
def Hosts (s : Store) (node : Node) : Prop :=
  node.identity ∈ s.nodes.map Node.identity

variable {s t : Store} {node : Node}

/-- A trigger that is stored is one of its namesakes. -/
theorem Hosts.exists_namesake (hosts : s.Hosts node) (trigger : node.isTrigger = true) :
    ∃ row ∈ s.namesakes node.flowId node, row.nodeId = node.nodeId := by
  rcases List.mem_map.mp hosts with ⟨row, rowMem, same⟩
  simp only [Node.identity, Prod.mk.injEq] at same
  rcases same with ⟨flowId, nodeId, nodeType, bot, ruleId⟩
  have rowTrigger : row.isTrigger = true := by rw [← trigger, Node.isTrigger, nodeType]; rfl
  have listed : row ∈ s.listNodes node.flowId := List.mem_filter.mpr ⟨rowMem, by simp [flowId]⟩
  exact ⟨row, List.mem_filter.mpr ⟨listed, by simp [rowTrigger, bot, ruleId]⟩, nodeId⟩

/-- The flows are the same, and so are the nodes but for their states. -/
structure SameButStates (s t : Store) : Prop where
  flows : t.flows = s.flows
  nodes : t.nodes.map Node.identity = s.nodes.map Node.identity

theorem SameButStates.refl (s : Store) : SameButStates s s :=
  ⟨rfl, rfl⟩

theorem SameButStates.trans {u : Store} (first : SameButStates s t)
    (second : SameButStates t u) : SameButStates s u :=
  ⟨second.flows.trans first.flows, second.nodes.trans first.nodes⟩

theorem SameButStates.hosts (same : SameButStates s t) (hosts : s.Hosts node) : t.Hosts node := by
  rw [Hosts, same.nodes]
  exact hosts

/-- The state of a node that is stored is replaced, and nothing else changes. -/
theorem NodesNamed.updateNode (named : s.NodesNamed) (hosts : s.Hosts node) (now : Instant)
    (vars : Bag) :
    ∃ t, s.updateNode now { node with vars } = .ok t ∧ SameButStates s t := by
  rcases List.mem_map.mp hosts with ⟨row, rowMem, same⟩
  simp only [Node.identity, Prod.mk.injEq] at same
  unfold Store.updateNode
  cases replaced : replaceFirst? (fun n => sameNode n { node with vars })
      { { node with vars } with updatedAt := now } s.nodes with
  | none =>
      have apart := replaceFirst?_eq_none_iff.mp replaced row rowMem
      simp [sameNode, same] at apart
  | some nodes =>
      refine ⟨_, rfl, rfl, ?_⟩
      rcases replaceFirst?_eq_some replaced with ⟨front, old, back, split, found, _, rfl⟩
      -- There is one node of the name only, so that the replaced one is the node itself.
      have oldMem : old ∈ s.nodes := by simp [split]
      have sameName := sameNode_iff.mp found
      have oldRow : old = row := by
        apply List.inj_on_of_nodup_map named oldMem rowMem
        rw [sameName]
        simp [same]
      rw [split, oldRow]
      simp [Node.identity, same]

end Store

/-! ## Events that find their node -/

namespace QueueManager

/-- The submission of a request finds a node: as long as the rows of the flow are as they were,
the request selects the namesakes of the node as roots, and the node is one of them.  Whether it
is executed at once or by a worker, it enters them, and it does not succeed before the node has
been executed. -/
structure Finds (manager : QueueManager) (request : FlowRequest) (node : Node) (s t : Shared)
    (submitted : Except EngineError Submission) : Prop where
  selects : ∀ store : Store, store.Reachable → s.store.SameFlow request.flowId store →
    (store.graph request.flowId).roots request.triggerType =
      s.store.namesakes request.flowId node
  among : ∃ row ∈ s.store.namesakes request.flowId node, row.nodeId = node.nodeId
  enters : manager.Enters request (s.store.namesakes request.flowId node) s t submitted
  executes : ∀ id before after given,
    Engine.EntersRoots id request.flowId (s.store.namesakes request.flowId node) before after
      (.ok given) →
    ∃ recorded, after.jobs = before.jobs ++ recorded ∧ ∃ job ∈ recorded,
      job.executionId = id ∧ job.nodeId = node.nodeId ∧ job.state = .succeeded

variable {manager : QueueManager} {request : FlowRequest} {node : Node} {s t : Shared}
  {submitted : Except EngineError Submission}

/-- A request with the trigger type of a node finds the node. -/
theorem runs_submit_finds (reachable : s.store.Reachable) (legible : node.Legible)
    (trigger : node.isTrigger = true) (hosts : s.store.Hosts node)
    (own : request.flowId = node.flowId) (type : request.triggerType = node.triggerType)
    (ran : Runs faltering (manager.submit request) s submitted t) :
    manager.Finds request node s t submitted := by
  have selected : s.store.selected request.flowId request.triggerType =
      s.store.namesakes request.flowId node := by
    rw [type, Store.selected_of_legible legible]
  rcases hosts.exists_namesake trigger with ⟨row, rowMem, sameName⟩
  rw [← own] at rowMem
  exact {
    selects := fun store stored same => by
      rw [stored.nodesNamed.roots_graph, same.selected, selected]
    among := ⟨row, rowMem, sameName⟩
    enters := selected ▸ runs_submit_enters reachable ran
    executes := fun id before after given entered => by
      rcases entered.executed rowMem with ⟨recorded, added, job, jobMem, isOf, succeeded⟩
      exact ⟨recorded, added, job, jobMem, isOf.executionId, isOf.nodeId.trans sameName,
        succeeded⟩ }

/-- A submission changes neither flows nor nodes. -/
theorem runs_submit_sameButStates (reachable : s.store.Reachable)
    (ran : Runs faltering (manager.submit request) s submitted t) :
    s.store.SameButStates t.store := by
  rcases runs_submit_faltering ran with ⟨id, now, _, _, rfl⟩ | ⟨result, _, executed⟩
  · exact .refl s.store
  · rcases Engine.runs_execute_fresh executed with ⟨id, _, _, _, ran⟩
    have came := Engine.executeUnder_alone _ id request reachable.wellFormed ran
    cases result with
    | ok given => exact ⟨came.2.flows, congrArg _ came.2.nodes⟩
    | error e =>
        simp only [Engine.ComesTo] at came
        split at came
        · rw [came]
          exact .refl s.store
        · exact ⟨came.flows, congrArg _ came.nodes⟩

end QueueManager

/-! ## The poller -/

namespace Poller

/-- What the poller does to the tables: it keeps the state of a trigger, or it submits an event
of a trigger of a flow that is switched on.  The event finds the trigger if the bot and the rule
can be read off its type. -/
inductive Moves (poller : Poller) : Shared → Shared → Prop where
  | keep {s : Shared} (node : Node) (vars : Bag) (now : Instant) (hosts : s.store.Hosts node) :
      Moves poller s { s with store := (s.store.answer now (.updateNode { node with vars })).2 }
  | submit {s t : Shared} (flow : Flow) (node : Node) (event : Bag)
      {submitted : Except EngineError Submission} (stored : flow ∈ s.store.flows)
      (enabled : flow.enabled = true) (hosts : s.store.Hosts node) (own : node.flowId = flow.id)
      (trigger : node.isTrigger = true)
      (ran : Runs faltering (poller.queue.submit (eventRequest flow node event)) s submitted t)
      (finds : node.Legible →
        poller.queue.Finds (eventRequest flow node event) node s t submitted) :
      Moves poller s t

/-- Moves of the poller lead from tables that can be reached to others, without a change of
flows and of nodes but for their states. -/
structure Leads (poller : Poller) (s t : Shared) : Prop where
  moves : ReflTransGen poller.Moves s t
  reachable : t.store.Reachable
  same : s.store.SameButStates t.store

variable {poller : Poller} {flow : Flow} {node : Node} {s t u : Shared}

theorem Leads.refl (reachable : s.store.Reachable) : poller.Leads s s :=
  ⟨.refl, reachable, .refl s.store⟩

theorem Leads.trans (first : poller.Leads s t) (second : poller.Leads t u) : poller.Leads s u :=
  ⟨first.moves.trans second.moves, second.reachable, first.same.trans second.same⟩

/-- The flow is switched on, and the node is one of its triggers. -/
structure Watches (s : Shared) (flow : Flow) (node : Node) : Prop where
  stored : flow ∈ s.store.flows
  enabled : flow.enabled = true
  hosts : s.store.Hosts node
  own : node.flowId = flow.id
  trigger : node.isTrigger = true

theorem Watches.later (watches : Watches s flow node) (leads : poller.Leads s t) :
    Watches t flow node where
  stored := leads.same.flows ▸ watches.stored
  enabled := watches.enabled
  hosts := leads.same.hosts watches.hosts
  own := watches.own
  trigger := watches.trigger

/-- The state of a trigger is kept at the first try. -/
theorem runs_saveState {vars : Bag} (reachable : s.store.Reachable) (hosts : s.store.Hosts node)
    (ran : Runs faltering (poller.saveState { node with vars }) s () t) : poller.Leads s t := by
  rcases runs_bind_iff.mp ran with ⟨_, u, saving, ended⟩
  rcases runs_done_iff.mp ended with ⟨_, rfl⟩
  rw [EventFlow.retry, retryFrom.eq_def] at saving
  rcases faltering_store_iff.mp saving with ⟨now, tried⟩
  rcases reachable.nodesNamed.updateNode hosts now vars with ⟨after, updated, same⟩
  have left : after = (s.store.answer now (.updateNode { node with vars })).2 := by
    simp only [Store.answer, updated, Store.changed]
  simp only [Store.answer, updated, Store.changed] at tried
  rcases runs_done_iff.mp tried with ⟨_, rfl⟩
  constructor
  · rw [left]
    exact .single (.keep node vars now hosts)
  · rw [left]
    exact reachable.answer now _
  · exact same

/-- The events of a trigger are submitted one after the other. -/
theorem runs_submitEvents {events : List Bag} {report result : TickReport}
    (reachable : s.store.Reachable) (watches : Watches s flow node)
    (ran : Runs faltering (poller.submitEvents flow node events report) s result t) :
    poller.Leads s t := by
  induction events generalizing s report with
  | nil =>
      rcases runs_done_iff.mp ran with ⟨_, rfl⟩
      exact .refl reachable
  | cons event rest ih =>
      rcases runs_bind_iff.mp ran with ⟨submitted, u, submitting, ran⟩
      have finds (legible : node.Legible) :
          poller.queue.Finds (eventRequest flow node event) node s u submitted :=
        QueueManager.runs_submit_finds reachable legible watches.trigger watches.hosts
          watches.own.symm rfl submitting
      have first : poller.Leads s u :=
        ⟨.single (.submit flow node event watches.stored watches.enabled watches.hosts watches.own
            watches.trigger submitting finds),
          reachable_of_runs_faltering submitting reachable,
          QueueManager.runs_submit_sameButStates reachable submitting⟩
      cases submitted with
      | ok _ => exact first.trans (ih first.reachable (watches.later first) ran)
      | error _ => exact first.trans (ih first.reachable (watches.later first) ran)

/-- A poll leaves the tables alone. -/
theorem runs_poll {rule : TriggerRule} {context : RuleContext} {params state : Bag}
    {limit : Duration} {reply : Reply PollResult}
    (ran : Runs faltering (rule.poll context params state limit) s reply t) : t = s := by
  unfold TriggerRule.poll at ran
  cases behaviour : rule.polling with
  | immediate answer =>
      rw [behaviour] at ran
      exact (runs_done_iff.mp ran).2
  | external handle =>
      rw [behaviour] at ran
      rcases runs_ask_iff.mp ran with ⟨_, _, rfl, ended⟩
      exact (runs_done_iff.mp ended).2

/-- What follows the keeping of a state goes on from where it leads. -/
theorem runs_keepState {state : Bag} {now : Instant}
    {next : Routine (Except String TickReport)} {r : Except String TickReport}
    (reachable : s.store.Reachable) (watches : Watches s flow node)
    (rest : ∀ u, u.store.Reachable → Watches u flow node → Runs faltering next u r t →
      poller.Leads u t)
    (ran : Runs faltering (poller.keepState node state now next) s r t) : poller.Leads s t := by
  unfold keepState at ran
  split at ran
  · rcases runs_done_iff.mp ran with ⟨_, rfl⟩
    exact .refl reachable
  · rcases runs_bind_iff.mp ran with ⟨_, u, saving, ran⟩
    have first := runs_saveState reachable watches.hosts saving
    exact first.trans (rest u first.reachable (watches.later first) ran)

/-- A trigger is polled if it is due, and its events are submitted. -/
theorem runs_pollNode {report : TickReport} {r : Except String TickReport}
    (reachable : s.store.Reachable) (watches : Watches s flow node)
    (ran : Runs faltering (poller.pollNode flow node report) s r t) : poller.Leads s t := by
  have nothing {r' : Except String TickReport} {v w : Shared} (stored : v.store.Reachable)
      (ended : Runs faltering (.done r') v r w) : poller.Leads v w := by
    rcases runs_done_iff.mp ended with ⟨_, rfl⟩
    exact .refl stored
  simp only [pollNode, Service.now_bind] at ran
  split at ran
  · exact nothing reachable ran
  · split at ran
    · rcases faltering_now_iff.mp ran with ⟨now, ran⟩
      split at ran
      · rcases runs_bind_iff.mp ran with ⟨reply, u, polling, ran⟩
        obtain rfl := runs_poll polling
        match reply with
        | .panicked message => exact nothing reachable ran
        | .expired | .returned (.error _) =>
            exact runs_keepState reachable watches (fun _ stored _ => nothing stored) ran
        | .returned (.ok result) =>
            apply runs_keepState reachable watches _ ran
            intro v stored watches ran
            rcases runs_bind_iff.mp ran with ⟨_, w, submitting, ended⟩
            rcases runs_done_iff.mp ended with ⟨_, rfl⟩
            exact runs_submitEvents stored watches submitting
      · exact nothing reachable ran
    · exact nothing reachable ran

theorem runs_pollNodes {nodes : List Node} {report : TickReport} {r : Except String TickReport}
    (reachable : s.store.Reachable) (watches : ∀ node ∈ nodes, Watches s flow node)
    (ran : Runs faltering (poller.pollNodes flow nodes report) s r t) : poller.Leads s t := by
  induction nodes generalizing s report with
  | nil =>
      rcases runs_done_iff.mp ran with ⟨_, rfl⟩
      exact .refl reachable
  | cons node rest ih =>
      rcases List.forall_mem_cons.mp watches with ⟨here, later⟩
      rcases runs_bind_iff.mp ran with ⟨polled, u, polling, ran⟩
      have first := runs_pollNode reachable here polling
      cases polled with
      | error message =>
          rcases runs_done_iff.mp ran with ⟨_, rfl⟩
          exact first
      | ok report =>
          have still : ∀ other ∈ rest, Watches u flow other :=
            fun other otherMem => (later other otherMem).later first
          exact first.trans (ih first.reachable still ran)

theorem runs_pollFlows {flows : List Flow} {report : TickReport} {r : Except String TickReport}
    (reachable : s.store.Reachable)
    (watched : ∀ flow ∈ flows, flow ∈ s.store.flows ∧ flow.enabled = true)
    (ran : Runs faltering (poller.pollFlows flows report) s r t) : poller.Leads s t := by
  induction flows generalizing s report with
  | nil =>
      rcases runs_done_iff.mp ran with ⟨_, rfl⟩
      exact .refl reachable
  | cons flow rest ih =>
      rcases List.forall_mem_cons.mp watched with ⟨⟨stored, enabled⟩, later⟩
      simp only [pollFlows, Service.isGiven_bind, Service.store_bind] at ran
      rcases runs_ask_iff.mp ran with ⟨stopped, asked, unmoved, ran⟩
      subst asked
      split at ran
      · rcases runs_done_iff.mp ran with ⟨_, rfl⟩
        exact .refl reachable
      · rcases faltering_store_iff.mp ran with ⟨_, ran⟩
        simp only [Store.answer] at ran
        rcases runs_bind_iff.mp ran with ⟨polled, u, polling, ran⟩
        have watches : ∀ node ∈ (s.store.listNodes flow.id).filter Node.isTrigger,
            Watches s flow node := by
          intro node nodeMem
          rcases List.mem_filter.mp nodeMem with ⟨listed, trigger⟩
          rcases List.mem_filter.mp listed with ⟨nodeMem, own⟩
          exact ⟨stored, enabled, List.mem_map_of_mem nodeMem, by simpa using own, trigger⟩
        have first := runs_pollNodes reachable watches polling
        cases polled with
        | error message =>
            rcases runs_done_iff.mp ran with ⟨_, rfl⟩
            exact first
        | ok report =>
            have still : ∀ other ∈ rest, other ∈ u.store.flows ∧ other.enabled = true := by
              rw [first.same.flows]
              exact later
            exact first.trans (ih first.reachable still ran)

/-- On a tick the poller keeps states and submits events, and nothing else. -/
theorem runs_tick {r : Except String TickReport} (reachable : s.store.Reachable)
    (ran : Runs faltering poller.tick s r t) : poller.Leads s t := by
  rcases faltering_store_iff.mp ran with ⟨_, ran⟩
  simp only [Store.answer] at ran
  apply runs_pollFlows reachable _ ran
  intro flow flowMem
  rcases List.mem_filter.mp flowMem with ⟨listed, enabled⟩
  exact ⟨List.mem_of_mem_filter listed, enabled⟩

end Poller

/-! ## The poller and the webhooks -/

/-- No event misses its node.  A tick of the poller does nothing but keep the states of triggers
and submit events that find their triggers.  The call of a webhook is turned away, with the tables
as they were, or it is submitted and finds the node that it stands for. -/
theorem events_find_node (s : Shared) (reachable : s.store.Reachable) :
    (∀ poller : Poller,
      (∃ result t, Runs faltering poller.tick s result t) ∧
      ∀ result t, Runs faltering poller.tick s result t → ReflTransGen poller.Moves s t) ∧
    ∀ (dispatcher : Dispatcher) (flowId : FlowId) (token : String) (payload : Bag),
      (∃ result t, Runs faltering (dispatcher.triggerWebhook flowId token payload) s result t) ∧
      ∀ result t, Runs faltering (dispatcher.triggerWebhook flowId token payload) s result t →
        (∃ e, result = .error e ∧ (∀ failure, e ≠ .engine failure) ∧ t = s) ∨
        ∃ node submitted,
          (s.store.listNodes flowId).find? (dispatcher.answersToken (Text.trim token)) =
            some node ∧
          result = submitted.mapError .engine ∧
          (node.Legible → dispatcher.queue.Finds
            ⟨flowId, node.triggerType, Text.trim token, payload⟩ node s t submitted) := by
  constructor
  · intro poller
    exact ⟨exists_runs_faltering _ s, fun _ _ ran => (Poller.runs_tick reachable ran).moves⟩
  · intro dispatcher flowId token payload
    constructor
    · exact exists_runs_faltering _ s
    intro result t ran
    rcases Dispatcher.runs_triggerWebhook ran with
      refused | ⟨node, submitted, found, same, submitting⟩
    · exact .inl refused
    · have answers := Dispatcher.answersToken_iff.mp (List.find?_some found)
      rcases List.mem_filter.mp (List.mem_of_find?_eq_some found) with ⟨nodeMem, own⟩
      have ofFlow : node.flowId = flowId := by simpa using own
      refine .inr ⟨node, submitted, found, same, fun legible => ?_⟩
      exact QueueManager.runs_submit_finds reachable legible answers.1
        (List.mem_map_of_mem nodeMem) ofFlow.symm rfl submitting

namespace Twins

/-- A trigger that is polled and counts. -/
def beat : Node :=
  { Node.ofRule dawn .trigger "beat" "dev" "counter" with flowId := ⟨1⟩ }

/-- The twins beside the trigger that counts. -/
def beating : Shared :=
  ⟨(store.answer dawn (.createNode beat)).2, .empty⟩

/-- A poller that shares the queue of the dispatcher. -/
def poller : Poller :=
  ⟨dispatcher.registry, dispatcher.queue, .default, .default, .ofSeconds 60⟩

/-- A tick of the poller. -/
def ticked : Except String TickReport × Shared :=
  poller.tick.run (falterAt (.ofMilliseconds 7)) beating

end Twins

/-- On a tick the trigger that counts is polled, and its event is submitted. -/
theorem events_find_node_beat :
    Twins.beating.store.Reachable ∧ Twins.ticked.1 = .ok ⟨1, 1, 0⟩ ∧
    (Twins.ticked.2.queue.jobs.map fun job => job.args.triggerType) = ["dev|counter"] ∧
    ReflTransGen Twins.poller.Moves Twins.beating Twins.ticked.2 := by
  have reachable : Twins.beating.store.Reachable := .answer Twins.reachable _ _
  have ran : Runs faltering Twins.poller.tick Twins.beating Twins.ticked.1 Twins.ticked.2 :=
    runs_run (falters_falterAt _) _ _
  have ticked : Twins.ticked.1 = .ok ⟨1, 1, 0⟩ ∧
      (Twins.ticked.2.queue.jobs.map fun job => job.args.triggerType) = ["dev|counter"] := by
    decide +kernel
  exact ⟨reachable, ticked.1, ticked.2,
    ((events_find_node Twins.beating reachable).1 Twins.poller).2 _ _ ran⟩

end EventFlow
