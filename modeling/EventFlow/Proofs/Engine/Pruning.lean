import EventFlow.Proofs.Engine.Reach

/-!
# Gates that never open

A gate that is found closed each time that a walk comes to it might as well not be reached
by any edge.  The forecast of the walk is the same when the edges into the gate are removed,
but for the stations at which the gate was passed by; and these leave no trace.
-/

namespace EventFlow

open Program

/-! ## Edges into a node -/

namespace Store

/-- The store without the edges of a flow that lead into a node. -/
def withoutEdgesInto (s : Store) (flowId : FlowId) (nodeId : String) : Store :=
  { s with
    edges := s.edges.filter fun edge => ! (edge.flowId == flowId && edge.targetNode == nodeId) }

theorem listEdges_withoutEdgesInto (s : Store) (flowId : FlowId) (nodeId : String) :
    (s.withoutEdgesInto flowId nodeId).listEdges flowId =
      (s.listEdges flowId).filter fun edge => edge.targetNode != nodeId := by
  simp only [listEdges, withoutEdgesInto, List.filter_filter]
  apply List.filter_congr
  intro edge _
  cases edge.flowId == flowId <;> simp [bne]

end Store

/-- The tables without the edges of a flow that lead into a node. -/
def Shared.withoutEdgesInto (s : Shared) (flowId : FlowId) (nodeId : String) : Shared :=
  { s with store := s.store.withoutEdgesInto flowId nodeId }

namespace Graph

/-- The graph without the edges that lead into a node. -/
def withoutEdgesInto (g : Graph) (nodeId : String) : Graph :=
  { g with edges := g.edges.filter fun edge => edge.targetNode != nodeId }

theorem targets_withoutEdgesInto (g : Graph) (gate nodeId : String) :
    (g.withoutEdgesInto gate).targets nodeId = (g.targets nodeId).filter (· != gate) := by
  simp only [targets, withoutEdgesInto, List.filter_map, List.filter_filter, Bool.and_comm,
    Function.comp_def]

/-- The successors of a node are the same but for the one that has lost its edges. -/
theorem successors_withoutEdgesInto (g : Graph) (gate nodeId : String) :
    (g.withoutEdgesInto gate).successors nodeId =
      (g.successors nodeId).filter fun node => node.nodeId != gate := by
  rw [successors, successors, targets_withoutEdgesInto, List.filterMap_filter,
    List.filter_filterMap]
  apply List.filterMap_congr
  intro target _
  change (if target != gate then g.get? target else none) = _
  cases found : g.get? target with
  | none => simp
  | some node =>
      obtain rfl := nodeId_of_get? found
      by_cases cut : node.nodeId = gate <;> simp [Option.filter, cut]

theorem ofRows_withoutEdgesInto {nodes : List Node} (edges : List Edge) (gate : String)
    (distinct : (nodes.map (·.nodeId)).Nodup) :
    ofRows nodes (edges.filter fun edge => edge.targetNode != gate) =
      (ofRows nodes edges).withoutEdgesInto gate := by
  rw [ofRows_eq distinct, ofRows_eq distinct, withoutEdgesInto]
  simp only [List.filter_filter, Bool.and_comm]

end Graph

/-! ## Stations -/

/-- The node is closed when the walk comes to the station, if it is the one that is named. -/
def Station.Shut (gate : String) (station : Station) : Prop :=
  station.node.nodeId = gate → station.node.isClosed station.vars = true

instance {gate : String} : DecidablePred (Station.Shut gate) := fun station =>
  inferInstanceAs
    (Decidable (station.node.nodeId = gate → station.node.isClosed station.vars = true))

namespace Forecast

variable {before : List RuleCall} {first : Forecast} {rest : List RuleCall → Bag → Forecast}
  {station : Station}

theorem mem_andThen_of_first (stationMem : station ∈ first.stations) :
    station ∈ (first.andThen before rest).stations := by
  unfold andThen
  split
  · exact List.mem_append_left _ stationMem
  · exact stationMem

theorem mem_andThen_of_rest {gathered : Bag} (goesOn : first.progress = (gathered, .ok ()))
    (stationMem : station ∈ (rest (before ++ first.calls) gathered).stations) :
    station ∈ (first.andThen before rest).stations := by
  simp only [andThen, goesOn]
  exact List.mem_append_right _ stationMem

/-- Forecasts agree that agree as long as the walk goes on. -/
theorem Agrees.andThen {other : Forecast} {otherRest : List RuleCall → Bag → Forecast}
    (agree : first.Agrees other)
    (agreeRest : ∀ gathered, first.progress = (gathered, .ok ()) →
      (rest (before ++ first.calls) gathered).Agrees (otherRest (before ++ first.calls) gathered)) :
    (first.andThen before rest).Agrees (other.andThen before otherRest) := by
  rcases agree with ⟨calls, jobs, progress⟩
  rcases reached : first.progress with ⟨gathered, e | _⟩
  · simp only [Forecast.andThen, ← progress, reached]
    exact ⟨calls, jobs, progress⟩
  · rcases agreeRest gathered reached with ⟨callsRest, jobsRest, progressRest⟩
    simp only [Forecast.andThen, ← progress, reached, ← calls]
    refine ⟨?_, ?_, progressRest⟩
    · rw [calls_followedBy, calls_followedBy, callsRest, calls]
    · rw [jobs_followedBy, jobs_followedBy, jobsRest, jobs]

/-- A walk that is only passed by what is closed agrees with what comes then. -/
theorem agrees_of_passed {node : Node} {vars : Bag} {other : Forecast}
    (agree : (rest before vars).Agrees other) :
    ((⟨[⟨node, vars, none⟩], (vars, .ok ())⟩ : Forecast).andThen before rest).Agrees other := by
  have noCalls : (⟨[⟨node, vars, none⟩], (vars, .ok ())⟩ : Forecast).calls = [] := rfl
  simp only [Forecast.andThen, noCalls, List.append_nil]
  exact ⟨by rw [calls_followedBy]; exact agree.calls, by rw [jobs_followedBy]; exact agree.jobs,
    agree.progress⟩

/-- Nodes that are taken up in turn agree with those of them that are not the gate, if the gate
is shut. -/
theorem inTurn_agrees {enter otherEnter : List RuleCall → Node → Bag → Forecast} {gate : String}
    (starts : ∀ before node vars, ∃ ran, ⟨node, vars, ran⟩ ∈ (enter before node vars).stations)
    (each : ∀ before node vars, node.nodeId ≠ gate →
      (∀ station ∈ (enter before node vars).stations, station.Shut gate) →
      (enter before node vars).Agrees (otherEnter before node vars))
    {nodes : List Node} {before : List RuleCall} {vars : Bag}
    (shut : ∀ station ∈ (inTurn enter nodes before vars).stations, station.Shut gate) :
    (inTurn enter nodes before vars).Agrees
      (inTurn otherEnter (nodes.filter fun node => node.nodeId != gate) before vars) := by
  induction nodes generalizing before vars with
  | nil => exact .refl _
  | cons node nodes ih =>
      rw [inTurn] at shut ⊢
      have shutHere : ∀ station ∈ (takeUp enter before node vars).stations, station.Shut gate :=
        fun station stationMem => shut station (mem_andThen_of_first stationMem)
      have agreeRest : ∀ gathered, (takeUp enter before node vars).progress = (gathered, .ok ()) →
          (inTurn enter nodes (before ++ (takeUp enter before node vars).calls) gathered).Agrees
            (inTurn otherEnter (nodes.filter fun node => node.nodeId != gate)
              (before ++ (takeUp enter before node vars).calls) gathered) := by
        intro gathered goesOn
        exact ih fun station stationMem => shut station (mem_andThen_of_rest goesOn stationMem)
      by_cases isGate : node.nodeId = gate
      · rw [List.filter_cons_of_neg (by simp [isGate])]
        by_cases closed : node.isClosed vars = true
        · rw [takeUp, if_pos closed] at agreeRest ⊢
          exact agrees_of_passed (by simpa [calls, Station.calls] using agreeRest vars rfl)
        · -- An open gate would be entered.
          rw [takeUp, if_neg closed] at shutHere
          rcases starts before node vars with ⟨ran, here⟩
          exact absurd (shutHere _ here isGate) closed
      · rw [List.filter_cons_of_pos (by simpa using isGate), inTurn]
        refine Agrees.andThen ?_ agreeRest
        rw [takeUp] at shutHere ⊢
        rw [takeUp]
        by_cases closed : node.isClosed vars = true
        · rw [if_pos closed, if_pos closed]
          exact .refl _
        · rw [if_neg closed] at shutHere
          rw [if_neg closed, if_neg closed]
          exact each before node vars isGate shutHere

end Forecast

namespace Engine

variable {engine : Engine} {context : RuleContext} {replies : Replies} {graph : Graph}
  {gate : String}

theorem mem_foresee (levels : Nat) (path : List String) (before : List RuleCall) (node : Node)
    (vars : Bag) :
    ∃ ran, ⟨node, vars, ran⟩ ∈
      (engine.foresee context replies graph levels path before node vars).stations := by
  cases levels with
  | zero => exact ⟨_, List.mem_singleton_self _⟩
  | succ levels =>
      rw [foresee]
      split
      · exact ⟨_, List.mem_singleton_self _⟩
      · exact ⟨_, Forecast.mem_andThen_of_first (List.mem_singleton_self _)⟩

/-- What is to be expected of a node is the same without the edges into a gate that is shut. -/
theorem foresee_agrees {levels : Nat} {path : List String} {before : List RuleCall} {node : Node}
    {vars : Bag} (shut : ∀ station ∈
      (engine.foresee context replies graph levels path before node vars).stations,
      station.Shut gate) :
    (engine.foresee context replies graph levels path before node vars).Agrees
      (engine.foresee context replies (graph.withoutEdgesInto gate) levels path before node
        vars) := by
  induction levels generalizing path before node vars with
  | zero => exact .refl _
  | succ levels below =>
      rw [foresee] at shut ⊢
      rw [foresee]
      split
      · exact .refl _
      · -- The node itself is run alike; the gate is missing among its successors only.
        rename_i new
        rw [if_neg new] at shut
        rw [Graph.successors_withoutEdgesInto]
        apply Forecast.Agrees.andThen (.refl _)
        intro gathered goesOn
        apply Forecast.inTurn_agrees (mem_foresee _ _)
        · intro calls next vars _ shutBelow
          exact below shutBelow
        · intro station stationMem
          exact shut station (Forecast.mem_andThen_of_rest goesOn stationMem)

/-- What is to be expected of a walk is the same without the edges into a gate that is shut. -/
theorem forecast_agrees {flowId : FlowId} {triggerType : String} {before : List RuleCall}
    {vars : Bag} (noRoot : ∀ root ∈ graph.roots triggerType, root.nodeId ≠ gate)
    (shut : ∀ station ∈
      (engine.forecast context replies graph flowId triggerType before vars).stations,
      station.Shut gate) :
    (engine.forecast context replies graph flowId triggerType before vars).Agrees
      (engine.forecast context replies (graph.withoutEdgesInto gate) flowId triggerType before
        vars) := by
  have sameTriggers : (graph.withoutEdgesInto gate).triggers = graph.triggers := rfl
  have sameRoots : (graph.withoutEdgesInto gate).roots triggerType =
      (graph.roots triggerType).filter fun node => node.nodeId != gate := by
    symm
    apply List.filter_eq_self.mpr
    intro root rootMem
    simpa using noRoot root rootMem
  rw [forecast] at shut ⊢
  rw [forecast, sameTriggers, sameRoots]
  split
  · exact .refl _
  · rename_i some
    rw [if_neg some] at shut
    exact Forecast.inTurn_agrees (mem_foresee _ _) (fun _ _ _ _ => foresee_agrees) shut

end Engine

/-! ## Runs past a closed gate -/

namespace Store

variable {s : Store} {flowId : FlowId} {triggerType : String} {gate : Node}

/-- A gate is no trigger. -/
theorem NodesNamed.selected_ne (named : s.NodesNamed) (gateMem : gate ∈ s.listNodes flowId)
    (isGate : gate.nodeType.isGate = true) {root : Node}
    (rootMem : root ∈ s.selected flowId triggerType) : root.nodeId ≠ gate.nodeId := by
  intro same
  rcases List.mem_filter.mp (List.mem_filter.mp rootMem).1 with ⟨listed, trigger⟩
  obtain rfl := List.inj_on_of_nodup_map (named.listNodes flowId) listed gateMem same
  have role : root.nodeType = .trigger := by simpa [Node.isTrigger] using trigger
  simp [role, NodeType.isGate] at isGate

/-- Without the edges into it a gate is not reached. -/
theorem NodesNamed.ne_of_reaches (named : s.NodesNamed) (gateMem : gate ∈ s.listNodes flowId)
    (isGate : gate.nodeType.isGate = true) {nodeId : String}
    (reaches : (s.withoutEdgesInto flowId gate.nodeId).Reaches flowId triggerType nodeId) :
    nodeId ≠ gate.nodeId := by
  rcases reaches with ⟨root, rootMem, ways⟩
  rcases ways.cases_tail with rfl | ⟨_, _, edge, edgeMem, _, rfl⟩
  · exact named.selected_ne gateMem isGate rootMem
  · rw [listEdges_withoutEdgesInto] at edgeMem
    simpa using (List.mem_filter.mp edgeMem).2

end Store

namespace Engine

variable {engine : Engine} {replies : Replies} {flow : Flow} {request : FlowRequest} {s : Store}
  {gate : Node}

/-- The forecasts of a flow with and without the edges into a gate agree, if the gate is shut. -/
theorem forecastFor_agrees (named : s.NodesNamed) (gateMem : gate ∈ s.listNodes request.flowId)
    (isGate : gate.nodeType.isGate = true)
    (shut : ∀ station ∈ (engine.forecastFor replies flow request s).stations,
      station.Shut gate.nodeId) :
    (engine.forecastFor replies flow request s).Agrees
      (engine.forecastFor replies flow request
        (s.withoutEdgesInto request.flowId gate.nodeId)) := by
  have distinct := named.listNodes request.flowId
  have sameNodes : (s.withoutEdgesInto request.flowId gate.nodeId).listNodes request.flowId =
      s.listNodes request.flowId := rfl
  rw [forecastFor] at shut ⊢
  rw [forecastFor, sameNodes, Store.listEdges_withoutEdgesInto,
    Graph.ofRows_withoutEdgesInto _ _ distinct]
  refine forecast_agrees ?_ shut
  intro root rootMem
  rw [Graph.roots, Graph.triggers, Graph.nodes_ofRows distinct] at rootMem
  exact named.selected_ne gateMem isGate rootMem

end Engine

/-- A run past a gate that is shut is like one of the flow without the edges into the gate. -/
theorem Attempt.Executes.alike_of_shut {engine : Engine} {replies : Replies}
    {request : FlowRequest} {first second : Attempt} {gate : Node}
    (executes : first.Executes engine replies request)
    (otherExecutes : second.Executes engine replies request)
    (named : first.before.store.NodesNamed)
    (gateMem : gate ∈ first.before.store.listNodes request.flowId)
    (isGate : gate.nodeType.isGate = true)
    (pruned : (first.before.store.withoutEdgesInto request.flowId gate.nodeId).SameFlow
      request.flowId second.before.store)
    (sameBound : Engine.bound? second.before.store second.id request.flowId =
      Engine.bound? first.before.store first.id request.flowId)
    (shut : ∀ flow, first.before.store.getFlow request.flowId = some flow →
      Engine.refusal? first.before.store first.id request = none →
      ∀ station ∈ (engine.forecastFor replies flow request first.before.store).stations,
        station.Shut gate.nodeId) :
    first.Alike second := by
  apply executes.alike_of_agree otherExecutes pruned.flow sameBound
  intro flow found accepted
  rw [Engine.forecastFor_congr pruned]
  exact Engine.forecastFor_agrees named gateMem isGate (shut flow found accepted)

namespace Engine

/-- A run for a request meets a node at a station: the request is not refused, and the station
is one of those that are to be expected. -/
def Meets (engine : Engine) (replies : Replies) (given : Option ExecutionId)
    (request : FlowRequest) (s : Store) (station : Station) : Prop :=
  (∀ id ∈ given, id.isBlank = false → s.Accepts request.flowId id) ∧
    ∃ flow, s.getFlow request.flowId = some flow ∧ flow.enabled = true ∧
      station ∈ (engine.forecastFor replies flow request s).stations

/-- A gate that is closed whenever a run comes to it might as well not be reached by any edge.
Executing the flow comes to an end with the edges into the gate and without them, and these
executions are alike; under a given id they return the same.  Past the gate no job is left of
the gate nor of what can only be reached through it, and none of these is blamed for an error. -/
theorem execute_past_shut_gate (engine : Engine) (replies : Replies) (given : Option ExecutionId)
    (request : FlowRequest) (s : Shared) (reachable : s.store.Reachable) {gate : Node}
    (gateMem : gate ∈ s.store.listNodes request.flowId) (isGate : gate.nodeType.isGate = true)
    (shut : ∀ station, engine.Meets replies given request s.store station →
      station.Shut gate.nodeId) :
    (∀ start, ∃ result t, Runs replies.answering (engine.execute given request) start result t) ∧
    ∀ (t u : Shared) (calls others : List RuleCall) (result other : Except EngineError ExecutionId),
      Runs replies.answering (engine.execute given request) ⟨s, []⟩ result ⟨t, calls⟩ →
      Runs replies.answering (engine.execute given request)
        ⟨s.withoutEdgesInto request.flowId gate.nodeId, []⟩ other ⟨u, others⟩ →
      ∃ id otherId,
        (∀ named, given = some named → named.isBlank = false →
          id = named ∧ otherId = named ∧ other = result) ∧
        Attempt.Alike ⟨id, s, t, calls, result⟩
          ⟨otherId, s.withoutEdgesInto request.flowId gate.nodeId, u, others, other⟩ ∧
        Attempt.KeepsTo ⟨id, s, t, calls, result⟩ fun nodeId => nodeId ≠ gate.nodeId ∧
          (s.store.withoutEdgesInto request.flowId gate.nodeId).Reaches request.flowId
            request.triggerType nodeId := by
  refine ⟨fun start => replies.exists_runs _ start, ?_⟩
  intro t u calls others result other ran otherRan
  have wellFormed := reachable.wellFormed
  have otherWellFormed : (s.withoutEdgesInto request.flowId gate.nodeId).store.WellFormed :=
    wellFormed.of_same_rows rfl rfl (Int.le_refl _)
  have named := reachable.nodesNamed
  rcases Attempt.exists_executes_of_runs wellFormed ran with ⟨id, executes, given_eq, origin⟩
  rcases Attempt.exists_executes_of_runs otherWellFormed otherRan with
    ⟨otherId, otherExecutes, other_eq, otherOrigin⟩
  -- Either both ids are the given one, or both are new.
  have sameBound : bound? s.store otherId request.flowId = bound? s.store id request.flowId := by
    rcases origin with same | new
    · rw [other_eq id same executes.named]
    · rcases otherOrigin with same | otherNew
      · rw [given_eq otherId same otherExecutes.named]
      · have unused : s.store.getExecution otherId = none := otherNew
        rw [bound?, unused, bound?, new]
        rfl
  have alike := executes.alike_of_shut otherExecutes named gateMem isGate ⟨rfl, rfl, rfl⟩
      sameBound <| by
    intro flow found accepted station stationMem
    rcases exists_flow_of_accepted accepted with ⟨_, sameFlow, enabled, accepts⟩
    cases found.symm.trans sameFlow
    refine shut station ⟨?_, flow, found, enabled, stationMem⟩
    intro other otherMem notBlank
    rw [← given_eq other otherMem notBlank]
    exact accepts
  refine ⟨id, otherId, ?_, alike, (alike.keepsTo (otherExecutes.keepsTo ?_)).imp ?_⟩
  · intro name same notBlank
    obtain rfl := given_eq name same notBlank
    obtain rfl := other_eq id same notBlank
    refine ⟨rfl, rfl, ?_⟩
    have results : result = other.map fun _ => otherId := executes.result_of_alike alike
    exact otherExecutes.result_eq.trans results.symm
  · exact named.listNodes request.flowId
  · intro nodeId reaches
    exact ⟨named.ne_of_reaches gateMem isGate reaches, reaches⟩

end Engine

namespace Fenced

/-- A filter that asks for a variable which no event has. -/
def fence : Node :=
  { Node.gate (.ofMilliseconds 6) .filter "fence" [⟨"password", "eq", .string "swordfish"⟩] with
    flowId := ⟨1⟩ }

/-- The store of one flow, in which a filter lies between the trigger and a way back to it. -/
def store : Store :=
  let now : Instant := .ofMilliseconds 6
  let there := { Edge.create now "start" "fence" with flowId := ⟨1⟩ }
  let back := { Edge.create now "fence" "start" with flowId := ⟨1⟩ }
  let withFence := (Engine.greetingStore.answer now (.createNode fence)).2
  ((withFence.answer now (.createEdge there)).2.answer now (.createEdge back)).2

def tables : Shared := ⟨store, .empty⟩

def openTables : Shared := tables.withoutEdgesInto ⟨1⟩ "fence"

def engine : Engine := .create Bot.Dev.registry .default

def request : FlowRequest := ⟨⟨1⟩, "dev|ping", "event", []⟩

/-- Rules of which none replies in time. -/
def replies : Replies := fun _ _ => .expired

/-- An execution of the flow. -/
def run (before : Shared) : Except EngineError ExecutionId × Watched :=
  (engine.execute (some ⟨"run"⟩) request).run (replies.answerAt (.ofMilliseconds 7)) ⟨before, []⟩

theorem runs (before : Shared) : Program.Runs replies.answering
    (engine.execute (some ⟨"run"⟩) request) ⟨before, []⟩ (run before).1 (run before).2 :=
  Program.runs_run (replies.answering_answerAt _) _ _

end Fenced

/-- A flow that leads back to its trigger behind a filter runs well, for the filter is closed
when the run comes to it. -/
theorem Engine.execute_past_shut_gate_fenced :
    (Fenced.run Fenced.tables).1 = .ok ⟨"run"⟩ ∧
      (∀ flow ∈ Fenced.tables.store.getFlow ⟨1⟩,
        (Fenced.engine.forecastFor Fenced.replies flow Fenced.request
          Fenced.tables.store).stations.map (·.node.nodeId) = ["start", "fence"]) ∧
      ∃ id otherId,
        Attempt.Alike
          ⟨id, Fenced.tables, (Fenced.run Fenced.tables).2.state,
            (Fenced.run Fenced.tables).2.notes, (Fenced.run Fenced.tables).1⟩
          ⟨otherId, Fenced.openTables, (Fenced.run Fenced.openTables).2.state,
            (Fenced.run Fenced.openTables).2.notes, (Fenced.run Fenced.openTables).1⟩ := by
  have reachable : Fenced.tables.store.Reachable :=
    .answer (.answer (.answer (.answer (.answer (.answer .empty _ _) _ _) _ _) _ _) _ _) _ _
  have gateMem : { Fenced.fence with id := Engine.greetingStore.lastId + 1 } ∈
      Fenced.tables.store.listNodes ⟨1⟩ :=
    List.mem_cons_of_mem _ (List.mem_singleton_self _)
  have foreseen : ∀ flow ∈ Fenced.tables.store.getFlow ⟨1⟩, ∀ station ∈
      (Fenced.engine.forecastFor Fenced.replies flow Fenced.request Fenced.tables.store).stations,
      station.Shut "fence" := by decide +kernel
  have shut : ∀ station, Fenced.engine.Meets Fenced.replies (some ⟨"run"⟩) Fenced.request
      Fenced.tables.store station → station.Shut "fence" := by
    rintro station ⟨_, flow, found, _, stationMem⟩
    exact foreseen flow found station stationMem
  rcases Engine.execute_past_shut_gate Fenced.engine Fenced.replies (some ⟨"run"⟩) Fenced.request
    Fenced.tables reachable gateMem rfl shut with ⟨_, alike⟩
  rcases alike _ _ _ _ _ _ (Fenced.runs Fenced.tables) (Fenced.runs Fenced.openTables)
    with ⟨id, otherId, _, alike, _⟩
  exact ⟨by decide +kernel, by decide +kernel, id, otherId, alike⟩

end EventFlow
