import EventFlow.Proofs.Engine.Alone
import EventFlow.Proofs.Engine.Log
import EventFlow.Proofs.Graph.Walks

/-!
# A run enumerates the walks of its flow

In a flow without gates a run comes to the walks from the selected triggers one after
the other, and records a job for the last node of each.  It is over when there are no
more walks, when a node does not return, or when a walk goes wrong because it is too
long or has come back to one of its nodes.
-/

namespace EventFlow

open Program

/-- What the extent of the walks makes of a run: it succeeds if they are all taken, a node
has ended it at the last one, or it fails for the walk before which it ends. -/
def Extent.Makes {α : Type} (next : Node → List Node) (levels maxDepth : Nat)
    (choices : List Node) (result : Except EngineError α) : Extent → Prop
  | .all => ∃ value, result = .ok value
  | .upTo _ => (∃ nodeId source, result = .error (.nodeFailed nodeId source)) ∨
      ∃ message, result = .error (.panicked message)
  | .before turns => ∃ front last, Leads next choices turns front last ∧
      result = .error (if levels < front.length + 1 then .maxDepthExceeded last.nodeId maxDepth
        else .cycleDetected last.nodeId)

namespace Extent

variable {α : Type} {next : Node → List Node} {levels maxDepth : Nat} {choices rest : List Node}
  {result : Except EngineError α} {extent : Extent} {node : Node}

theorem Makes.within (makes : extent.Makes next levels maxDepth (next node) result) :
    (extent.map (0 :: ·)).Makes next (levels + 1) maxDepth (node :: rest) result := by
  cases extent with
  | all => exact makes
  | upTo turns => exact makes
  | before turns =>
      rcases makes with ⟨front, last, leads, rfl⟩
      refine ⟨node :: front, last, .goOn rfl leads, ?_⟩
      simp

theorem Makes.map {β : Type} (makes : extent.Makes next levels maxDepth choices result)
    (f : α → β) : extent.Makes next levels maxDepth choices (result.map f) := by
  cases extent with
  | all =>
      rcases makes with ⟨value, rfl⟩
      exact ⟨f value, rfl⟩
  | upTo turns =>
      rcases makes with ⟨nodeId, source, rfl⟩ | ⟨message, rfl⟩
      · exact .inl ⟨nodeId, source, rfl⟩
      · exact .inr ⟨message, rfl⟩
  | before turns =>
      rcases makes with ⟨front, last, leads, rfl⟩
      exact ⟨front, last, leads, rfl⟩

theorem Makes.beside (makes : extent.Makes next levels maxDepth rest result) :
    (extent.map EventFlow.beside).Makes next levels maxDepth (node :: rest) result := by
  cases extent with
  | all => exact makes
  | upTo turns => exact makes
  | before turns =>
      rcases makes with ⟨front, last, leads, rfl⟩
      exact ⟨front, last, leads.beside, rfl⟩

end Extent

/-- The jobs of an execution belong to walks: each is that of the node to which its walk
leads. -/
def Belong (id : ExecutionId) (next : Node → List Node) (choices : List Node)
    (walks : List (List Nat)) (jobs : List Job) : Prop :=
  List.Forall₂ (fun turns job => ∃ front last, Leads next choices turns front last ∧
    job.IsOf id last) walks jobs

namespace Belong

variable {id : ExecutionId} {next : Node → List Node} {node : Node} {rest : List Node}
  {walks : List (List Nat)} {job : Job} {jobs : List Job}

theorem within (isOf : job.IsOf id node) (belong : Belong id next (next node) walks jobs) :
    Belong id next (node :: rest) ([0] :: walks.map (0 :: ·)) (job :: jobs) := by
  refine .cons ⟨[], node, .here rfl, isOf⟩ (List.forall₂_map_left_iff.mpr (belong.imp ?_))
  rintro turns later ⟨front, last, leads, laterOf⟩
  exact ⟨node :: front, last, .goOn rfl leads, laterOf⟩

theorem beside (belong : Belong id next rest walks jobs) :
    Belong id next (node :: rest) (walks.map EventFlow.beside) jobs := by
  refine List.forall₂_map_left_iff.mpr (belong.imp ?_)
  rintro turns later ⟨front, last, leads, laterOf⟩
  exact ⟨front, last, leads.beside, laterOf⟩

theorem append {choices : List Node} {others : List (List Nat)} {more : List Job}
    (belong : Belong id next choices walks jobs) (belongMore : Belong id next choices others more) :
    Belong id next choices (walks ++ others) (jobs ++ more) :=
  List.rel_append belong belongMore

end Belong

/-- A tour through nodes that are not gates enumerates walks. -/
theorem Run.Tours.enumerates {run : Run} {graph : Graph} {next : Node → List Node} {levels : Nat}
    {path : List String} {nodes : List Node} {vars : Bag} {log : List LogEntry}
    {progress : Run.Progress} (tours : run.Tours graph levels path nodes vars log progress)
    (noGates : ∀ node ∈ graph.nodes, node.nodeType.isGate = false)
    (follows : ∀ node ∈ graph.nodes, graph.successors node.nodeId = next node)
    (nodesMem : ∀ node ∈ nodes, node ∈ graph.nodes) :
    ∃ walks extent, Enumerates next levels path nodes walks extent ∧
      Belong run.executionId next nodes walks (log.map (·.job)) ∧
      extent.Makes next levels run.engine.config.effectiveMaxDepth nodes
        (Engine.resultOf progress.2) := by
  have nextMem (node : Node) (nodeMem : node ∈ graph.nodes) : ∀ later ∈ next node,
      later ∈ graph.nodes := by
    intro later laterMem
    rw [← follows node nodeMem] at laterMem
    rcases List.mem_filterMap.mp laterMem with ⟨_, _, found⟩
    exact List.mem_of_find?_eq_some found
  induction tours with
  | finished => exact ⟨[], .all, .nil, .nil, (), rfl⟩
  | @passed _ _ node _ _ _ _ closed =>
      have gate := noGates node (nodesMem node List.mem_cons_self)
      simp [Node.isClosed, gate] at closed
  | @tooDeep path node =>
      have wrong : GoesWrong 0 path [] node := .inl (by simp)
      exact ⟨[], _, .refused wrong, .nil, [], node, .here rfl, by simp [Engine.resultOf]⟩
  | @metAgain levels path node _ _ _ met =>
      have wrong : GoesWrong (levels + 1) path [] node := .inr (.inl met)
      exact ⟨[], _, .refused wrong, .nil, [], node, .here rfl, by simp [Engine.resultOf]⟩
  | @stopped levels path node _ _ entry e _ new logs stops =>
      have right : ¬ GoesWrong (levels + 1) path [] node := by simp [GoesWrong, new]
      refine ⟨[[0]], _, .stopped right, .cons ⟨[], node, .here rfl, logs.isOf⟩ .nil, ?_⟩
      cases outcome : entry.outcome with
      | returned value => simp [outcome, NodeOutcome.result] at stops
      | failed e =>
          rw [outcome] at stops
          cases stops
          exact .inl ⟨_, _, rfl⟩
      | panicked message =>
          rw [outcome] at stops
          cases stops
          exact .inr ⟨_, rfl⟩
  | @stoppedBelow levels path node _ _ _ _ _ _ e _ new logs _ _ ih =>
      have right : ¬ GoesWrong (levels + 1) path [] node := by simp [GoesWrong, new]
      have nodeMem := nodesMem node List.mem_cons_self
      rw [follows node nodeMem] at ih
      rcases ih (nextMem node nodeMem) with ⟨walks, extent, enumerates, belong, makes⟩
      have ends : extent ≠ .all := by
        rintro rfl
        rcases makes with ⟨value, same⟩
        cases e <;> cases same
      exact ⟨_, _, .stoppedBelow right enumerates ends, belong.within logs.isOf, makes.within⟩
  | @wentOn levels path node _ _ _ _ _ _ _ _ _ new logs _ _ _ below rest =>
      have right : ¬ GoesWrong (levels + 1) path [] node := by simp [GoesWrong, new]
      have nodeMem := nodesMem node List.mem_cons_self
      rw [follows node nodeMem] at below
      rcases below (nextMem node nodeMem) with ⟨walks, extent, enumerates, belong, makes⟩
      rcases rest fun other otherMem => nodesMem other (List.mem_cons_of_mem _ otherMem)
        with ⟨more, ending, others, belongRest, makesRest⟩
      cases extent with
      | all =>
          refine ⟨_, _, .wentOn right enumerates others, ?_, makesRest.beside⟩
          rw [List.map_append]
          exact (belong.within logs.isOf).append belongRest.beside
      | upTo turns => rcases makes with ⟨_, _, same⟩ | ⟨_, same⟩ <;> cases same
      | before turns =>
          rcases makes with ⟨_, _, _, same⟩
          cases same

/-! ## Flows without gates -/

/-- The triggers of a flow that a trigger type selects, in the order of their rows. -/
def Store.selected (s : Store) (flowId : FlowId) (triggerType : String) : List Node :=
  ((s.listNodes flowId).filter Node.isTrigger).filter (Node.isRootFor triggerType)

namespace Engine

/-- The jobs that a run under an id has added are those of the walks of its flow, and the
result tells how far the walks were taken. -/
def RunsWalks (engine : Engine) (id : ExecutionId) (request : FlowRequest) (s t : Store)
    (result : Except EngineError ExecutionId) : Prop :=
  ∃ jobs walks extent,
    t.jobs = s.jobs ++ jobs ∧
    Enumerates (s.followers request.flowId) engine.config.effectiveMaxDepth []
      (s.selected request.flowId request.triggerType) walks extent ∧
    Belong id (s.followers request.flowId) (s.selected request.flowId request.triggerType)
      walks jobs ∧
    JobsTell jobs result ∧
    extent.Makes (s.followers request.flowId) engine.config.effectiveMaxDepth
      engine.config.effectiveMaxDepth (s.selected request.flowId request.triggerType) result

theorem Course.runsWalks {engine : Engine} {id : ExecutionId} {request : FlowRequest}
    {s t : Watched} {flow : Flow} {log : List LogEntry} {progress : Run.Progress}
    (course : Course engine id request s t flow log progress)
    (named : s.state.store.NodesNamed)
    (trigger : ∃ node ∈ s.state.store.listNodes request.flowId, node.isTrigger = true)
    (noGates : ∀ node ∈ s.state.store.listNodes request.flowId, node.nodeType.isGate = false) :
    RunsWalks engine id request s.state.store t.state.store
      ((resultOf progress.2).map fun _ => id) := by
  have allNodes {edges : List Edge} : (Graph.ofRows _ edges).nodes = _ :=
    Graph.nodes_ofRows (named.listNodes request.flowId)
  have journal := course.journal named
  rcases course.left with ⟨executions, rfl⟩
  cases course.walks with
  | noTrigger none =>
      rcases trigger with ⟨node, nodeMem, isTrigger⟩
      rw [Graph.triggers, allNodes] at none
      exact absurd isTrigger (by simpa using List.filter_eq_nil_iff.mp none node nodeMem)
  | toured some tours =>
      have openNodes := noGates
      rw [← allNodes] at openNodes
      have follows : ∀ node ∈ (Graph.ofRows (s.state.store.listNodes request.flowId)
          (s.state.store.listEdges request.flowId)).nodes, _ = _ := fun node nodeMem =>
        Graph.successors_ofRows named request.flowId (allNodes ▸ nodeMem)
      rcases tours.enumerates openNodes follows (fun node nodeMem =>
        List.mem_of_mem_filter (List.mem_of_mem_filter nodeMem))
        with ⟨walks, extent, enumerates, belong, makes⟩
      rw [Graph.roots, Graph.triggers, allNodes] at enumerates belong makes
      exact ⟨_, walks, extent, rfl, enumerates, belong, journal.tell.map _, makes.map _⟩

/-- Executing an enabled flow that has a trigger and no gates comes to an end.  Either the
id belongs to an execution of another flow, or the run enumerates the walks of the flow
as far as none goes wrong and every node returns. -/
theorem execute_enumerates (engine : Engine) (given : Option ExecutionId) (request : FlowRequest)
    (s : Shared) (reachable : s.store.Reachable) {flow : Flow}
    (found : s.store.getFlow request.flowId = some flow) (enabled : flow.enabled = true)
    (trigger : ∃ node ∈ s.store.listNodes request.flowId, node.isTrigger = true)
    (noGates : ∀ node ∈ s.store.listNodes request.flowId, node.nodeType.isGate = false) :
    (∃ result t, Runs Shared.answering (engine.execute given request) s result t) ∧
    ∀ result t, Runs Shared.answering (engine.execute given request) s result t →
      ∃ id, id.isBlank = false ∧
        (∀ named, given = some named → named.isBlank = false → id = named) ∧
        ((∃ row, s.store.getExecution id = some row ∧ row.flowId ≠ request.flowId ∧
            result = .error (.boundToOtherFlow id row.flowId) ∧ t = s) ∨
          RunsWalks engine id request s.store t.store result) := by
  refine ⟨Shared.exists_runs _ s, fun result t ran => ?_⟩
  rcases exists_watched ran with ⟨calls, ran⟩
  rcases runs_execute ran with ⟨id, notBlank, given_eq, ran⟩
  refine ⟨id, notBlank, given_eq, ?_⟩
  rcases runs_executeUnder reachable.wellFormed ran with
    ⟨e, rfl, refuses, same⟩ | ⟨other, log, progress, course, rfl⟩
  · cases same
    cases refuses with
    | noFlow absent => simp [found] at absent
    | disabled otherFound off =>
        obtain rfl := Option.some.inj (found.symm.trans otherFound)
        simp [enabled] at off
    | bound stored foreign => exact .inl ⟨_, stored, foreign, rfl, rfl⟩
  · exact .inr (course.runsWalks reachable.nodesNamed trigger noGates)

/-- The store of one flow, with an edge that leads from the node of the flow back to it. -/
def loopStore : Store :=
  let edge := { Edge.create (.ofMilliseconds 6) "start" "start" with flowId := ⟨1⟩ }
  (greetingStore.answer (.ofMilliseconds 6) (.createEdge edge)).2

/-- A run of its flow. -/
def loopRun : Except EngineError ExecutionId × Shared :=
  ((Engine.create Bot.Dev.registry .default).execute (some ⟨"run"⟩) ⟨⟨1⟩, "", "event", []⟩).run
    (Shared.answerAt (.ofMilliseconds 7)) ⟨loopStore, .empty⟩

/-- A run that comes back to its only node has enumerated the walks before that. -/
theorem execute_enumerates_loop :
    loopStore.Reachable ∧ ∃ t,
      Runs Shared.answering ((Engine.create Bot.Dev.registry .default).execute (some ⟨"run"⟩)
        ⟨⟨1⟩, "", "event", []⟩) ⟨loopStore, .empty⟩ (.error (.cycleDetected "start")) t ∧
      RunsWalks (.create Bot.Dev.registry .default) ⟨"run"⟩ ⟨⟨1⟩, "", "event", []⟩ loopStore t.store
        (.error (.cycleDetected "start")) := by
  have reachable : loopStore.Reachable :=
    .answer (.answer (.answer (.answer .empty _ _) _ _) _ _) _ _
  have ran : Runs Shared.answering _ _ loopRun.1 loopRun.2 :=
    runs_run (Shared.answers_answerAt _) _ _
  have failed : loopRun.1 = .error (.cycleDetected "start") := by decide +kernel
  have trigger : ∃ node ∈ loopStore.listNodes ⟨1⟩, node.isTrigger = true :=
    ⟨_, List.mem_singleton_self _, rfl⟩
  have noGates : ∀ node ∈ loopStore.listNodes ⟨1⟩, node.nodeType.isGate = false := by
    intro node nodeMem
    rw [List.mem_singleton.mp nodeMem]
    rfl
  rw [failed] at ran
  refine ⟨reachable, loopRun.2, ran, ?_⟩
  rcases (execute_enumerates _ _ _ ⟨loopStore, .empty⟩ reachable rfl rfl trigger noGates).2 _ _ ran
    with ⟨id, _, given_eq, came⟩
  obtain rfl := given_eq ⟨"run"⟩ rfl (by decide +kernel)
  rcases came with ⟨row, _, _, bound, _⟩ | walks
  · cases bound
  · exact walks

end Engine

end EventFlow
