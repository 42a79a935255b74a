import EventFlow.Proofs.Engine.Enumeration
import EventFlow.Proofs.Engine.Repetition

/-!
# What a run can reach

A run comes only to nodes that can be reached along edges from a trigger that is selected.
It leaves jobs of no others, and it does not fail because of any other.
-/

namespace EventFlow

/-! ## Edges -/

namespace Store

/-- A node can be reached along edges of the flow from a trigger that is selected. -/
def Reaches (s : Store) (flowId : FlowId) (triggerType nodeId : String) : Prop :=
  ∃ root ∈ s.selected flowId triggerType, Relation.ReflTransGen
    (fun source target => ∃ edge ∈ s.listEdges flowId,
      edge.sourceNode = source ∧ edge.targetNode = target) root.nodeId nodeId

theorem SameFlow.reaches {s t : Store} {flowId : FlowId} {triggerType nodeId : String}
    (same : s.SameFlow flowId t) (reaches : t.Reaches flowId triggerType nodeId) :
    s.Reaches flowId triggerType nodeId := by
  unfold Reaches selected at reaches ⊢
  rwa [same.nodes, same.edges] at reaches

end Store

/-! ## Stations -/

/-- The node that an error is about. -/
def EngineError.node? : EngineError → Option String
  | .cycleDetected nodeId => some nodeId
  | .maxDepthExceeded nodeId _ => some nodeId
  | .nodeFailed nodeId _ => some nodeId
  | _ => none

theorem EngineError.node?_of_isRejection {e : EngineError} (rejection : e.isRejection = true) :
    e.node? = none := by
  cases e <;> first | rfl | cases rejection

namespace Forecast

/-- The walk comes to certain nodes only, and fails because of these only. -/
structure Within (P : String → Prop) (forecast : Forecast) : Prop where
  stations : ∀ station ∈ forecast.stations, P station.node.nodeId
  blamed : ∀ e, forecast.progress.2 = .error (.failed e) → ∀ nodeId ∈ e.node?, P nodeId

variable {P : String → Prop} {before : List RuleCall} {first : Forecast}
  {rest : List RuleCall → Bag → Forecast} {enter : List RuleCall → Node → Bag → Forecast}
  {node : Node} {vars : Bag}

theorem Within.singleton {ran : Option Performance} {progress : Run.Progress}
    (here : P node.nodeId)
    (blames : ∀ e, progress.2 = .error (.failed e) → e.node? = some node.nodeId) :
    (⟨[⟨node, vars, ran⟩], progress⟩ : Forecast).Within P where
  stations station stationMem := by
    rw [List.mem_singleton.mp stationMem]
    exact here
  blamed e fails nodeId blamed := by
    obtain rfl := Option.some.inj ((blames e fails).symm.trans blamed)
    exact here

theorem Within.ofNode (here : P node.nodeId) (made : Performance) :
    (Forecast.ofNode node vars made).Within P := by
  apply Within.singleton here
  intro e fails
  rcases made with ⟨calls, result | cause | message⟩ <;> cases fails
  rfl

theorem Within.andThen (within : first.Within P)
    (withinRest : ∀ calls vars, (rest calls vars).Within P) :
    (first.andThen before rest).Within P := by
  unfold Forecast.andThen
  split
  · refine ⟨fun station stationMem => ?_, (withinRest _ _).blamed⟩
    rcases List.mem_append.mp stationMem with here | there
    · exact within.stations station here
    · exact (withinRest _ _).stations station there
  · exact within

theorem inTurn_within (each : ∀ calls node vars, P node.nodeId → (enter calls node vars).Within P)
    {nodes : List Node} (nodesIn : ∀ node ∈ nodes, P node.nodeId) (calls : List RuleCall)
    (vars : Bag) : (inTurn enter nodes calls vars).Within P := by
  induction nodes generalizing calls vars with
  | nil => exact ⟨by simp [inTurn, finished], by simp [inTurn, finished]⟩
  | cons node nodes ih =>
      rcases List.forall_mem_cons.mp nodesIn with ⟨here, later⟩
      rw [inTurn, takeUp]
      refine Within.andThen ?_ (ih later)
      split
      · exact .singleton here (by simp)
      · exact each calls node vars here

/-- Every job is that of a node that the walk has come to. -/
theorem Within.jobs {forecast : Forecast} (within : forecast.Within P) {job : Job}
    (jobMem : job ∈ forecast.jobs) : P job.nodeId := by
  rcases List.mem_filterMap.mp jobMem with ⟨station, stationMem, recorded⟩
  rcases Option.map_eq_some_iff.mp recorded with ⟨made, _, rfl⟩
  have here := within.stations station stationMem
  cases made.outcome <;> exact here

end Forecast

namespace Engine

variable {engine : Engine} {context : RuleContext} {replies : Replies} {graph : Graph}
  {P : String → Prop}

/-- What holds of a node and is passed on along edges holds of what is behind the node. -/
theorem foresee_within (along : ∀ source target, graph.Leads source target → P source → P target)
    {levels : Nat} {path : List String} {before : List RuleCall} {node : Node} {vars : Bag}
    (here : P node.nodeId) :
    (engine.foresee context replies graph levels path before node vars).Within P := by
  -- How far the walk goes does not matter, nor what it has gathered.
  induction levels generalizing path before node vars with
  | zero =>
      apply Forecast.Within.singleton here
      rintro e ⟨⟩
      rfl
  | succ levels below =>
      rw [foresee]
      split
      · apply Forecast.Within.singleton here
        rintro e ⟨⟩
        rfl
      · refine (Forecast.Within.ofNode here _).andThen (Forecast.inTurn_within ?_ ?_)
        · intro calls next vars
          exact below
        · intro next nextMem
          exact along _ _ (Graph.leads_of_mem_successors nextMem) here

theorem forecast_within {flowId : FlowId} {triggerType : String} {before : List RuleCall}
    {vars : Bag} (along : ∀ source target, graph.Leads source target → P source → P target)
    (roots : ∀ root ∈ graph.roots triggerType, P root.nodeId) :
    (engine.forecast context replies graph flowId triggerType before vars).Within P := by
  rw [forecast]
  split
  · exact ⟨by simp, by simp [EngineError.node?]⟩
  · exact Forecast.inTurn_within (fun _ _ _ => foresee_within along) roots _ _

/-- The walk for a request comes only to nodes that can be reached. -/
theorem forecastFor_within {flow : Flow} {request : FlowRequest} {s : Store}
    (distinct : ((s.listNodes request.flowId).map (·.nodeId)).Nodup) :
    (engine.forecastFor replies flow request s).Within
      (s.Reaches request.flowId request.triggerType) := by
  rw [forecastFor]
  apply forecast_within
  · rintro source target ⟨edge, edgeMem, leads⟩ ⟨root, rootMem, ways⟩
    rw [Graph.ofRows_eq distinct] at edgeMem
    exact ⟨root, rootMem, ways.tail ⟨edge, List.mem_of_mem_filter edgeMem, leads⟩⟩
  · intro root rootMem
    rw [Graph.roots, Graph.triggers, Graph.nodes_ofRows distinct] at rootMem
    exact ⟨root, rootMem, .refl⟩

end Engine

/-! ## Runs -/

namespace Attempt

/-- The run leaves jobs of certain nodes only, and fails because of these only. -/
structure KeepsTo (attempt : Attempt) (P : String → Prop) : Prop where
  jobs : ∃ recorded, attempt.after.store.jobs = attempt.before.store.jobs ++ recorded ∧
    ∀ job ∈ recorded, P job.nodeId
  blamed : ∀ e, attempt.result = .error e → ∀ nodeId ∈ e.node?, P nodeId

variable {engine : Engine} {replies : Replies} {request : FlowRequest}
  {attempt first second : Attempt} {P : String → Prop}

theorem RejectedWith.keepsTo {e : EngineError} (rejected : attempt.RejectedWith e) :
    attempt.KeepsTo P where
  jobs := ⟨[], by simp [rejected.unchanged], by simp⟩
  blamed other failed nodeId blamed := by
    obtain rfl := Except.error.inj (rejected.result.symm.trans failed)
    rw [EngineError.node?_of_isRejection rejected.rejection] at blamed
    contradiction

theorem ForetoldBy.keepsTo {forecast : Forecast} (foretold : attempt.ForetoldBy request forecast)
    (within : forecast.Within P) : attempt.KeepsTo P where
  jobs := by
    rcases foretold.jobs with ⟨recorded, left, told, _⟩
    refine ⟨recorded, left, fun job jobMem => ?_⟩
    have foreseen : job.essence ∈ forecast.jobs := told ▸ List.mem_map_of_mem jobMem
    simpa using within.jobs foreseen
  blamed e failed := by
    rw [foretold.result] at failed
    rcases progress : forecast.progress with ⟨vars, (cause | message) | _⟩ <;>
      rw [progress] at failed <;> cases failed
    · exact within.blamed e (congrArg Prod.snd progress)
    · intro nodeId blamed
      cases blamed

/-- A run comes only to nodes that can be reached. -/
theorem Executes.keepsTo (executes : attempt.Executes engine replies request)
    (distinct : ((attempt.before.store.listNodes request.flowId).map (·.nodeId)).Nodup) :
    attempt.KeepsTo (attempt.before.store.Reaches request.flowId request.triggerType) := by
  rcases executes.rejected_or_foretold with ⟨_, _, rejected⟩ | ⟨_, _, _, foretold⟩
  · exact rejected.keepsTo
  · exact foretold.keepsTo (Engine.forecastFor_within distinct)

/-- Runs that are alike come to the same nodes. -/
theorem Alike.keepsTo (alike : first.Alike second) (keepsTo : second.KeepsTo P) :
    first.KeepsTo P where
  jobs := by
    rcases alike.jobs with ⟨these, those, recorded, otherRecorded, told, _⟩
    rcases keepsTo.jobs with ⟨others, left, within⟩
    obtain rfl := List.append_cancel_left (left.symm.trans otherRecorded)
    refine ⟨these, recorded, fun job jobMem => ?_⟩
    -- A job tells its node, and the other run has left a job that tells the same.
    have foreseen : job.essence ∈ others.map Job.essence := told ▸ List.mem_map_of_mem jobMem
    rcases List.mem_map.mp foreseen with ⟨other, otherMem, same⟩
    have sameNode : other.nodeId = job.nodeId := by simpa using congrArg Job.nodeId same
    exact sameNode ▸ within other otherMem
  blamed e failed := by
    have results := alike.result
    rw [failed] at results
    cases other : second.result with
    | ok id => simp [other, Except.map] at results
    | error cause =>
        rw [other] at results
        obtain rfl := Except.error.inj results
        exact keepsTo.blamed e other

theorem KeepsTo.imp {Q : String → Prop} (keepsTo : attempt.KeepsTo P)
    (weaker : ∀ nodeId, P nodeId → Q nodeId) : attempt.KeepsTo Q where
  jobs := by
    rcases keepsTo.jobs with ⟨recorded, left, within⟩
    exact ⟨recorded, left, fun job jobMem => weaker _ (within job jobMem)⟩
  blamed e failed nodeId blamed := weaker _ (keepsTo.blamed e failed nodeId blamed)

end Attempt

end EventFlow
