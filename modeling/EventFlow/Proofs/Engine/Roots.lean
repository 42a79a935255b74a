import EventFlow.Proofs.Engine.Enumeration
import Mathlib.Logic.Relation

/-!
# The roots of a run

The trigger type of a node names its bot and its rule.  It is read as it was written unless
the name of the bot is empty or holds the separator, or the rule has no name; then it selects
the triggers of that bot and that rule, and no others.  A run enters the triggers that are
selected one after the other, in the order of their rows, and when it succeeds it has entered
all of them.
-/

namespace EventFlow

open Program
open Relation (ReflTransGen)

/-! ## Trigger types -/

/-- What stands before the first separator is what was written before it. -/
theorem Text.splitFirst?_append {separator : Char} {before : List Char}
    (free : separator ∉ before) (behind : List Char) :
    splitFirst? separator (before ++ separator :: behind) = some (before, behind) := by
  induction before with
  | nil => simp [splitFirst?]
  | cons c cs ih =>
      rcases not_or.mp (List.mem_cons.not.mp free) with ⟨other, free⟩
      simp [splitFirst?, ih free, Ne.symm other]

namespace Node

/-- The bot and the rule of the node can be read off its trigger type: both have a name, and the
name of the bot is free of the separator. -/
structure Legible (node : Node) : Prop where
  bot : node.bot ≠ ""
  free : triggerTypeSeparator ∉ node.bot.toList
  rule : node.ruleId ≠ ""

variable {node other : Node}

/-- A trigger type is read as it was written. -/
theorem Legible.splitTriggerType (legible : node.Legible) :
    splitTriggerType node.triggerType = (node.bot, node.ruleId) := by
  have written : node.triggerType.toList =
      node.bot.toList ++ triggerTypeSeparator :: node.ruleId.toList := by
    simp [triggerType]
  simp [EventFlow.splitTriggerType, written, Text.splitFirst?_append legible.free]

/-- A trigger type selects the nodes that have the same bot and the same rule. -/
theorem Legible.isRootFor_iff (legible : node.Legible) :
    other.isRootFor node.triggerType = true ↔
      other.bot = node.bot ∧ other.ruleId = node.ruleId := by
  simp [isRootFor, legible.splitTriggerType, legible.bot, legible.rule]

end Node

namespace Store

/-- The triggers of a flow that have the bot and the rule of a node, in the order of their
rows. -/
def namesakes (s : Store) (flowId : FlowId) (node : Node) : List Node :=
  (s.listNodes flowId).filter fun other =>
    other.isTrigger && (other.bot == node.bot && other.ruleId == node.ruleId)

theorem selected_of_legible {node : Node} (legible : node.Legible) (s : Store) (flowId : FlowId) :
    s.selected flowId node.triggerType = s.namesakes flowId node := by
  rw [selected, List.filter_filter, namesakes]
  apply List.filter_congr
  intro other _
  rw [Bool.eq_iff_iff]
  simp [legible.isRootFor_iff, and_comm]

/-- The roots of the graph of a flow are the triggers that are selected. -/
theorem NodesNamed.roots_graph {s : Store} (named : s.NodesNamed) (flowId : FlowId)
    (triggerType : String) :
    (s.graph flowId).roots triggerType = s.selected flowId triggerType := by
  rw [Graph.roots, Graph.triggers, graph, Graph.nodes_ofRows (named.listNodes flowId), selected]

end Store

/-! ## Entering roots -/

/-- The jobs of a run that has entered some roots, one after the other: the job of a root stands
before those of the nodes to which it leads. -/
inductive Entered (id : ExecutionId) (leads : String → String → Prop) :
    List Node → List Job → Prop where
  | nil : Entered id leads [] []
  | cons {root : Node} {roots : List Node} {job : Job} {below jobs : List Job}
      (isOf : job.IsOf id root)
      (led : ∀ later ∈ below, ReflTransGen leads root.nodeId later.nodeId)
      (rest : Entered id leads roots jobs) :
      Entered id leads (root :: roots) (job :: below ++ jobs)

/-- Every root that has been entered has a job. -/
theorem Entered.exists_job {id : ExecutionId} {leads : String → String → Prop}
    {roots : List Node} {jobs : List Job} (entered : Entered id leads roots jobs) {root : Node}
    (rootMem : root ∈ roots) : ∃ job ∈ jobs, job.IsOf id root := by
  induction entered with
  | nil => contradiction
  | cons isOf _ _ ih =>
      rcases List.mem_cons.mp rootMem with rfl | rootMem
      · exact ⟨_, by simp, isOf⟩
      · rcases ih rootMem with ⟨job, jobMem, isOf⟩
        exact ⟨job, List.mem_append_right _ jobMem, isOf⟩

namespace Run

variable {run : Run} {graph : Graph} {levels : Nat} {path : List String} {nodes : List Node}
  {vars : Bag} {log : List LogEntry} {progress : Progress}

/-- To every node that a tour runs edges lead from one of those that it takes up. -/
theorem Tours.led (tours : run.Tours graph levels path nodes vars log progress) :
    ∀ entry ∈ log, ∃ node ∈ nodes, ReflTransGen graph.Leads node.nodeId entry.job.nodeId := by
  have behind {name : String} {entry : LogEntry}
      (led : ∃ next ∈ graph.successors name,
        ReflTransGen graph.Leads next.nodeId entry.job.nodeId) :
      ReflTransGen graph.Leads name entry.job.nodeId := by
    rcases led with ⟨next, nextMem, way⟩
    exact .head (Graph.leads_of_mem_successors nextMem) way
  have here {node : Node} {vars : Bag} {entry : LogEntry} (logs : run.Logs node vars entry) :
      ReflTransGen graph.Leads node.nodeId entry.job.nodeId := by
    rw [logs.isOf.nodeId]
  intro entry entryMem
  induction tours with
  | finished | tooDeep | metAgain => contradiction
  | passed _ _ ih =>
      rcases ih entryMem with ⟨node, nodeMem, way⟩
      exact ⟨node, List.mem_cons_of_mem _ nodeMem, way⟩
  | stopped _ _ logs _ =>
      rw [List.mem_singleton.mp entryMem]
      exact ⟨_, List.mem_cons_self, here logs⟩
  | stoppedBelow _ _ logs _ _ ih =>
      rcases List.mem_cons.mp entryMem with rfl | entryMem
      · exact ⟨_, List.mem_cons_self, here logs⟩
      · exact ⟨_, List.mem_cons_self, behind (ih entryMem)⟩
  | wentOn _ _ logs _ _ _ ihBelow ihRest =>
      rcases List.mem_append.mp entryMem with entryMem | entryMem
      · rcases List.mem_cons.mp entryMem with rfl | entryMem
        · exact ⟨_, List.mem_cons_self, here logs⟩
        · exact ⟨_, List.mem_cons_self, behind (ihBelow entryMem)⟩
      · rcases ihRest entryMem with ⟨node, nodeMem, way⟩
        exact ⟨node, List.mem_cons_of_mem _ nodeMem, way⟩

/-- The jobs below a node are those of nodes to which it leads. -/
theorem Tours.led_below {name : String}
    (tours : run.Tours graph levels path (graph.successors name) vars log progress) :
    ∀ job ∈ log.map (·.job), ReflTransGen graph.Leads name job.nodeId := by
  intro job jobMem
  rcases List.mem_map.mp jobMem with ⟨entry, entryMem, rfl⟩
  rcases tours.led entry entryMem with ⟨next, nextMem, way⟩
  exact .head (Graph.leads_of_mem_successors nextMem) way

/-- A tour that takes up triggers at the start of a walk enters the first of them, and all of
them unless something goes wrong. -/
theorem Tours.entered (tours : run.Tours graph levels path nodes vars log progress)
    (top : path = []) (room : levels ≠ 0) (triggers : ∀ node ∈ nodes, node.isTrigger = true) :
    ∃ entered, entered <+: nodes ∧
      Entered run.executionId graph.Leads entered (log.map (·.job)) ∧
      (progress.2 = .ok () → entered = nodes) := by
  have alone {root : Node} {job : Job} {below : List Job} (isOf : job.IsOf run.executionId root)
      (led : ∀ later ∈ below, ReflTransGen graph.Leads root.nodeId later.nodeId) :
      Entered run.executionId graph.Leads [root] (job :: below) := by
    simpa using Entered.cons isOf led .nil
  induction tours with
  | finished => exact ⟨[], List.nil_prefix, .nil, fun _ => rfl⟩
  | passed closed =>
      rw [Node.isClosed_of_isTrigger (triggers _ List.mem_cons_self)] at closed
      contradiction
  | tooDeep => exact absurd rfl room
  | metAgain _ met => simp [top] at met
  | @stopped _ _ node nodes _ _ _ _ _ logs =>
      exact ⟨[node], List.prefix_append [node] nodes, alone logs.isOf (by simp), by simp⟩
  | @stoppedBelow _ _ node nodes _ _ _ _ _ _ _ _ logs _ below =>
      exact ⟨[node], List.prefix_append [node] nodes, alone logs.isOf below.led_below, by simp⟩
  | @wentOn _ _ node _ _ _ _ _ _ _ _ _ _ logs _ below _ _ ih =>
      rcases ih top room (List.forall_mem_cons.mp triggers).2 with ⟨entered, front, jobs, all⟩
      refine ⟨node :: entered, (List.prefix_cons_inj node).mpr front, ?_, fun ended => ?_⟩
      · rw [List.map_append]
        exact .cons logs.isOf below.led_below jobs
      · rw [all ended]

end Run

namespace Engine

theorem effectiveMaxDepth_ne_zero (config : EngineConfig) : config.effectiveMaxDepth ≠ 0 := by
  unfold EngineConfig.effectiveMaxDepth
  split
  · decide
  · assumption

/-- A run under an id enters the triggers of a selection one after the other, from the first one
on, and the jobs that it adds tell which.  If it succeeds it has entered all of them, and all jobs
have succeeded. -/
def EntersRoots (id : ExecutionId) (flowId : FlowId) (selection : List Node) (s t : Store)
    (result : Except EngineError ExecutionId) : Prop :=
  ∃ roots recorded, roots <+: selection ∧ t.jobs = s.jobs ++ recorded ∧
    Entered id (s.graph flowId).Leads roots recorded ∧
    ∀ given, result = .ok given → given = id ∧ roots = selection ∧ AllSucceeded recorded

/-- A run enters the triggers that its request selects. -/
theorem executeUnder_entersRoots {engine : Engine} {id : ExecutionId} {request : FlowRequest}
    {s t : Shared} {result : Except EngineError ExecutionId} (wellFormed : s.store.WellFormed)
    (named : s.store.NodesNamed)
    (ran : Runs Shared.answering (engine.executeUnder id request) s result t) :
    EntersRoots id request.flowId (s.store.selected request.flowId request.triggerType) s.store
      t.store result := by
  rcases exists_watched ran with ⟨calls, ran⟩
  rcases runs_executeUnder wellFormed ran with
    ⟨e, rfl, _, same⟩ | ⟨flow, log, progress, course, rfl⟩
  · cases same
    exact ⟨[], [], List.nil_prefix, by simp, .nil, by simp⟩
  have journal := (course.journal named).tell
  -- Of a run that succeeds the walk has come to its end.
  have ended {given : ExecutionId}
      (succeeded : (resultOf progress.2).map (fun _ => id) = .ok given) :
      given = id ∧ progress.2 = .ok () := by
    rcases progress with ⟨vars, (e | message) | _⟩
    · cases succeeded
    · cases succeeded
    · exact ⟨(Except.ok.inj succeeded).symm, rfl⟩
  have recorded : t.store.jobs = s.store.jobs ++ log.map (·.job) := by
    rcases course.left with ⟨executions, left⟩
    exact congrArg (fun u : Watched => u.state.store.jobs) left
  have succeeded {given : ExecutionId}
      (came : (resultOf progress.2).map (fun _ => id) = .ok given) :
      AllSucceeded (log.map (·.job)) := by
    rw [(ended came).2] at journal
    exact journal
  cases course.walks with
  | noTrigger none =>
      exact ⟨[], _, List.nil_prefix, recorded, .nil, fun _ came => by cases (ended came).2⟩
  | toured _ tours =>
      rcases tours.entered rfl (effectiveMaxDepth_ne_zero _) (fun root rootMem =>
        (List.mem_filter.mp (List.mem_filter.mp rootMem).1).2) with ⟨roots, front, entered, all⟩
      have selected := named.roots_graph request.flowId request.triggerType
      exact ⟨roots, _, selected ▸ front, recorded, entered, fun _ came =>
        ⟨(ended came).1, (all (ended came).2).trans selected, succeeded came⟩⟩

/-- A run that succeeds has executed every trigger of the selection. -/
theorem EntersRoots.executed {id given : ExecutionId} {flowId : FlowId} {selection : List Node}
    {s t : Store} (enters : EntersRoots id flowId selection s t (.ok given)) {root : Node}
    (rootMem : root ∈ selection) :
    ∃ recorded, t.jobs = s.jobs ++ recorded ∧
      ∃ job ∈ recorded, job.IsOf id root ∧ job.state = .succeeded := by
  rcases enters with ⟨roots, recorded, _, added, entered, all⟩
  rcases all given rfl with ⟨_, rfl, succeeded⟩
  rcases entered.exists_job rootMem with ⟨job, jobMem, isOf⟩
  exact ⟨recorded, added, job, jobMem, isOf, succeeded job jobMem⟩

end Engine

end EventFlow
