import EventFlow.Proofs.Engine.Enumeration
import EventFlow.Proofs.Graph.Cycles

/-!
# Cycles that a run meets

A walk goes down along edges, so that from every node of the path it is on edges lead to the
nodes that it takes up.  If it meets one of them again it has gone round a cycle.  If its path
is as long as there are nodes, every node that it takes up next is on the path.  So a flow
without a cycle is never rejected for one, nor for its depth while it has no more nodes than
there may be levels.
-/

namespace EventFlow

open Program
open Relation (TransGen ReflTransGen)

namespace Run

variable {run : Run} {graph : Graph} {levels : Nat} {path : List String} {node : Node}
  {nodes : List Node} {vars : Bag} {log : List LogEntry} {progress : Progress} {nodeId : String}

/-- From every node of the path edges lead on to the nodes that are taken up. -/
def Behind (graph : Graph) (path : List String) (nodes : List Node) : Prop :=
  ∀ earlier ∈ path, ∀ node ∈ nodes, TransGen graph.Leads earlier node.nodeId

theorem Behind.rest (behind : Behind graph path (node :: nodes)) : Behind graph path nodes :=
  fun earlier earlierMem later laterMem =>
    behind earlier earlierMem later (List.mem_cons_of_mem _ laterMem)

theorem Behind.below (behind : Behind graph path (node :: nodes)) :
    Behind graph (node.nodeId :: path) (graph.successors node.nodeId) := by
  intro earlier earlierMem next nextMem
  have leads := Graph.leads_of_mem_successors nextMem
  rcases List.mem_cons.mp earlierMem with rfl | earlierMem
  · exact .single leads
  · exact (behind earlier earlierMem node List.mem_cons_self).tail leads

/-- A node that stops a walk does so by its own failure. -/
theorem not_endsBetweenNodes {outcome : NodeOutcome} {e : Abort}
    (stops : outcome.result nodeId = .error e) : ¬ EndsBetweenNodes (.error e) := by
  cases outcome <;> cases stops <;> exact id

/-- A walk that is rejected for a cycle has gone round it: it has met a node of its path among
those that it took up, or it has come to the cycle from one of them that it entered. -/
theorem Tours.cycle (tours : run.Tours graph levels path nodes vars log progress)
    (behind : Behind graph path nodes)
    (failed : progress.2 = .error (.failed (.cycleDetected nodeId))) :
    TransGen graph.Leads nodeId nodeId ∧
      ((nodeId ∈ path ∧ ∃ node ∈ nodes, node.nodeId = nodeId) ∨
        ∃ node ∈ nodes, (∃ entry ∈ log, entry.job.IsOf run.executionId node) ∧
          ReflTransGen graph.Leads node.nodeId nodeId) := by
  induction tours with
  | finished | tooDeep => cases failed
  | passed _ _ ih =>
      rcases ih behind.rest failed with
        ⟨cycle, ⟨met, later, laterMem, same⟩ | ⟨later, laterMem, way⟩⟩
      · exact ⟨cycle, .inl ⟨met, later, List.mem_cons_of_mem _ laterMem, same⟩⟩
      · exact ⟨cycle, .inr ⟨later, List.mem_cons_of_mem _ laterMem, way⟩⟩
  | metAgain _ met =>
      cases failed
      exact ⟨behind _ met _ List.mem_cons_self, .inl ⟨met, _, List.mem_cons_self, rfl⟩⟩
  | stopped _ _ _ stops =>
      cases failed
      exact absurd trivial (not_endsBetweenNodes stops)
  | stoppedBelow _ _ logs _ _ ih =>
      -- The edge that led below the node leads on to what was met there.
      rcases ih behind.below failed with ⟨cycle, ⟨_, next, nextMem, rfl⟩ | ⟨next, nextMem, _, way⟩⟩
      · exact ⟨cycle, .inr ⟨_, List.mem_cons_self, ⟨_, List.mem_cons_self, logs.isOf⟩,
          .single (Graph.leads_of_mem_successors nextMem)⟩⟩
      · exact ⟨cycle, .inr ⟨_, List.mem_cons_self, ⟨_, List.mem_cons_self, logs.isOf⟩,
          .head (Graph.leads_of_mem_successors nextMem) way⟩⟩
  | wentOn _ _ _ _ _ _ _ ih =>
      rcases ih behind.rest failed with
        ⟨cycle, ⟨met, later, laterMem, same⟩ | ⟨later, laterMem, ⟨entry, entryMem, isOf⟩, way⟩⟩
      · exact ⟨cycle, .inl ⟨met, later, List.mem_cons_of_mem _ laterMem, same⟩⟩
      · exact ⟨cycle, .inr ⟨later, List.mem_cons_of_mem _ laterMem,
          ⟨entry, List.mem_append_right _ entryMem, isOf⟩, way⟩⟩

/-- The path of a walk: different names of nodes, and as many as leave the walk enough levels
for all other nodes. -/
structure Roomy (graph : Graph) (levels : Nat) (path : List String) : Prop where
  distinct : path.Nodup
  named : path ⊆ graph.names
  enough : graph.names.length ≤ levels + path.length

theorem Roomy.below (roomy : Roomy graph (levels + 1) path) (new : nodeId ∉ path)
    (named : nodeId ∈ graph.names) : Roomy graph levels (nodeId :: path) where
  distinct := List.nodup_cons.mpr ⟨new, roomy.distinct⟩
  named := List.cons_subset.mpr ⟨named, roomy.named⟩
  enough := by
    have enough := roomy.enough
    rw [List.length_cons]
    omega

/-- When no level is left all nodes are on the path. -/
theorem Roomy.mem_of_zero (roomy : Roomy graph 0 path) (named : nodeId ∈ graph.names) :
    nodeId ∈ path := by
  have enough := roomy.enough
  have all := (roomy.distinct.subperm roomy.named).perm_of_length_le (by omega)
  exact all.mem_iff.mpr named

/-- A walk that has room for all nodes and yet gets too deep has gone round a cycle. -/
theorem Tours.depth (tours : run.Tours graph levels path nodes vars log progress)
    (behind : Behind graph path nodes) (roomy : Roomy graph levels path)
    (nodesMem : ∀ node ∈ nodes, node ∈ graph.nodes) {maxDepth : Nat}
    (failed : progress.2 = .error (.failed (.maxDepthExceeded nodeId maxDepth))) :
    TransGen graph.Leads nodeId nodeId := by
  have successorsMem (name : String) : ∀ next ∈ graph.successors name, next ∈ graph.nodes := by
    intro next nextMem
    rcases List.mem_filterMap.mp nextMem with ⟨_, _, found⟩
    exact List.mem_of_find?_eq_some found
  induction tours with
  | finished | metAgain => cases failed
  | passed _ _ ih => exact ih behind.rest roomy (List.forall_mem_cons.mp nodesMem).2 failed
  | tooDeep =>
      cases failed
      have here := List.mem_map_of_mem (f := (·.nodeId)) (nodesMem _ List.mem_cons_self)
      exact behind _ (roomy.mem_of_zero here) _ List.mem_cons_self
  | stopped _ _ _ stops =>
      cases failed
      exact absurd trivial (not_endsBetweenNodes stops)
  | stoppedBelow _ new _ _ _ ih =>
      have here := List.mem_map_of_mem (f := (·.nodeId)) (nodesMem _ List.mem_cons_self)
      exact ih behind.below (roomy.below new here) (successorsMem _) failed
  | wentOn _ _ _ _ _ _ _ ih =>
      exact ih behind.rest roomy (List.forall_mem_cons.mp nodesMem).2 failed

end Run

namespace Engine

/-- A run has entered a node: it has left a job of it. -/
def Enters (node : Node) (s t : Store) : Prop :=
  ∃ recorded, t.jobs = s.jobs ++ recorded ∧ ∃ job ∈ recorded, ∃ id, job.IsOf id node

/-- A run agrees with the search for cycles on the rows of its flow.  It is rejected for a
cycle only at a node on a cycle, to which edges lead from a selected trigger that it has
entered; and if there is no cycle it is not, nor is it rejected for its depth if there may be
as many levels as there are nodes. -/
structure AgreesWithSearch (engine : Engine) (request : FlowRequest) (s t : Store)
    (result : Except EngineError ExecutionId) : Prop where
  cycle : ∀ nodeId, result = .error (.cycleDetected nodeId) →
    OnCycle (s.listNodes request.flowId) (s.listEdges request.flowId) nodeId ∧
    (s.graph request.flowId).hasCycle = true ∧
    ∃ root ∈ (s.graph request.flowId).roots request.triggerType, Enters root s t ∧
      ReflTransGen (Linked (s.listNodes request.flowId) (s.listEdges request.flowId))
        root.nodeId nodeId
  noCycle : (s.graph request.flowId).hasCycle = false →
    ∀ nodeId, result ≠ .error (.cycleDetected nodeId)
  noDepth : (s.graph request.flowId).hasCycle = false →
    (s.graph request.flowId).nodes.length ≤ engine.config.effectiveMaxDepth →
    ∀ nodeId maxDepth, result ≠ .error (.maxDepthExceeded nodeId maxDepth)

/-- A walk that fails has failed for the reason that the run gives. -/
theorem failed_of_resultOf {outcome : Except Abort Unit} {id : ExecutionId} {e : EngineError}
    (gives : (resultOf outcome).map (fun _ => id) = .error e)
    (contained : ∀ message, e ≠ .panicked message) : outcome = .error (.failed e) := by
  rcases outcome with (cause | message) | _
  · cases gives
    rfl
  · exact absurd (Except.error.inj gives).symm (contained message)
  · cases gives

/-- A search of the graph of a flow and a run of the flow agree. -/
theorem AgreesWithSearch.of_found {engine : Engine} {request : FlowRequest} {s t : Store}
    {result : Except EngineError ExecutionId}
    (cycle : ∀ nodeId, result = .error (.cycleDetected nodeId) →
      TransGen (s.graph request.flowId).Leads nodeId nodeId ∧
      ∃ root ∈ (s.graph request.flowId).roots request.triggerType, Enters root s t ∧
        ReflTransGen (s.graph request.flowId).Leads root.nodeId nodeId)
    (depth : (s.graph request.flowId).nodes.length ≤ engine.config.effectiveMaxDepth →
      ∀ nodeId maxDepth, result = .error (.maxDepthExceeded nodeId maxDepth) →
        TransGen (s.graph request.flowId).Leads nodeId nodeId) :
    AgreesWithSearch engine request s t result := by
  have same : (s.graph request.flowId).Leads =
      Linked (s.listNodes request.flowId) (s.listEdges request.flowId) := by
    funext source target
    exact propext Graph.leads_ofRows_iff
  rw [same] at cycle depth
  have found {nodeId : String}
      (cycle : OnCycle (s.listNodes request.flowId) (s.listEdges request.flowId) nodeId) :
      (s.graph request.flowId).hasCycle = true := by
    rcases TransGen.head'_iff.mp cycle with ⟨_, ⟨_, ⟨node, nodeMem, rfl⟩, _⟩, _⟩
    exact Graph.hasCycle_ofRows_iff.mpr ⟨node, nodeMem, cycle⟩
  refine ⟨fun nodeId failed => ?_, fun none nodeId failed => ?_,
    fun none fits nodeId _ failed => ?_⟩
  · rcases cycle nodeId failed with ⟨around, reached⟩
    exact ⟨around, found around, reached⟩
  · simp [found (cycle nodeId failed).1] at none
  · simp [found (depth fits nodeId _ failed)] at none

/-- The course of a run agrees with the search. -/
theorem Course.agreesWithSearch {engine : Engine} {id : ExecutionId} {request : FlowRequest}
    {s t : Watched} {flow : Flow} {log : List LogEntry} {progress : Run.Progress}
    (course : Course engine id request s t flow log progress) :
    AgreesWithSearch engine request s.state.store t.state.store
      ((resultOf progress.2).map fun _ => id) := by
  rcases course.left with ⟨executions, rfl⟩
  cases course.walks with
  | noTrigger none =>
      refine .of_found (fun nodeId failed => ?_) fun _ nodeId maxDepth failed => ?_
      all_goals cases failed
  | toured _ tours =>
      have behind (nodes : List Node) : Run.Behind (s.state.store.graph request.flowId) [] nodes :=
        fun _ none => absurd none List.not_mem_nil
      apply AgreesWithSearch.of_found
      · intro nodeId gives
        have failed := failed_of_resultOf gives (by simp)
        rcases tours.cycle (behind _) failed with
          ⟨cycle, ⟨none, _⟩ | ⟨root, rootMem, ⟨entry, entryMem, isOf⟩, way⟩⟩
        · contradiction
        · exact ⟨cycle, root, rootMem,
            ⟨_, rfl, entry.job, List.mem_map_of_mem entryMem, id, isOf⟩, way⟩
      · intro fits nodeId maxDepth gives
        have failed := failed_of_resultOf gives (by simp)
        refine tours.depth (behind _) ⟨List.nodup_nil, List.nil_subset _, ?_⟩ ?_ failed
        · rw [Graph.names, List.length_map]
          exact fits
        · intro root rootMem
          exact List.mem_of_mem_filter (List.mem_of_mem_filter rootMem)

/-- The search for cycles and the runs of the engine agree.  The search finds a cycle in the
graph of any rows exactly if a node can be reached from itself along edges that have both of
their ends.  Executing a flow comes to an end, and however it ends it agrees with the search on
the rows of the flow. -/
theorem execute_agreesWithSearch (engine : Engine) (given : Option ExecutionId)
    (request : FlowRequest) (s : Shared) (wellFormed : s.store.WellFormed) :
    (∀ nodes edges, (Graph.ofRows nodes edges).hasCycle = true ↔
      ∃ node ∈ nodes, OnCycle nodes edges node.nodeId) ∧
    (∃ result t, Runs Shared.answering (engine.execute given request) s result t) ∧
    ∀ result t, Runs Shared.answering (engine.execute given request) s result t →
      AgreesWithSearch engine request s.store t.store result := by
  refine ⟨fun _ _ => Graph.hasCycle_ofRows_iff, Shared.exists_runs _ s, fun result t ran => ?_⟩
  rcases exists_watched ran with ⟨calls, ran⟩
  rcases runs_execute ran with ⟨id, _, _, ran⟩
  rcases runs_executeUnder wellFormed ran with
    ⟨e, rfl, refuses, _⟩ | ⟨flow, log, progress, course, rfl⟩
  · -- A refusal blames neither a cycle nor the depth.
    refine .of_found (fun nodeId failed => ?_) fun _ nodeId maxDepth failed => ?_
    all_goals
      cases failed
      cases refuses
  · exact course.agreesWithSearch

/-- The run that comes back to its only node agrees with the search: the edge of the flow is a
cycle. -/
theorem execute_agreesWithSearch_loop :
    loopStore.Reachable ∧
    Runs Shared.answering ((Engine.create Bot.Dev.registry .default).execute (some ⟨"run"⟩)
      ⟨⟨1⟩, "", "event", []⟩) ⟨loopStore, .empty⟩ (.error (.cycleDetected "start")) loopRun.2 ∧
    OnCycle (loopStore.listNodes ⟨1⟩) (loopStore.listEdges ⟨1⟩) "start" ∧
    (loopStore.graph ⟨1⟩).hasCycle = true := by
  have reachable : loopStore.Reachable :=
    .answer (.answer (.answer (.answer .empty _ _) _ _) _ _) _ _
  have ran : Runs Shared.answering _ _ loopRun.1 loopRun.2 :=
    runs_run (Shared.answers_answerAt _) _ _
  have failed : loopRun.1 = .error (.cycleDetected "start") := by decide +kernel
  rw [failed] at ran
  have agrees :=
    (execute_agreesWithSearch _ _ _ ⟨loopStore, .empty⟩ reachable.wellFormed).2.2 _ _ ran
  rcases agrees.cycle "start" rfl with ⟨around, found, _⟩
  exact ⟨reachable, ran, around, found⟩

end Engine

end EventFlow
