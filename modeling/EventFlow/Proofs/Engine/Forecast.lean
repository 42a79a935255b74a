import EventFlow.Proofs.Engine.Replies

/-!
# Forecasts

When it is known what the rules reply, a walk can be foreseen: which nodes it comes to, on
which variables, what it does about them, and what it has gathered in the end.  The forecast
is a function of the rows of the flow and of the request.  Every run follows it, whatever its
id is, whatever the clock shows and whatever else is stored.
-/

namespace EventFlow

open Program

/-! ## Records -/

namespace Job

/-- What a job tells beside its number, its execution and its times. -/
def essence (job : Job) : Job :=
  { job with
    id := .unassigned
    executionId := ⟨""⟩
    startedAt := .ofMilliseconds 0
    finishedAt := none
    createdAt := .ofMilliseconds 0
    updatedAt := .ofMilliseconds 0 }

@[simp]
theorem nodeId_essence (job : Job) : job.essence.nodeId = job.nodeId := rfl

end Job

/-- What the job of a node tells when something has come of the node. -/
def NodeOutcome.recordedFor (node : Node) : NodeOutcome → Job
  | .returned result =>
    { (Job.start (.ofMilliseconds 0) ⟨""⟩ node) with state := .succeeded, result }
  | .failed e =>
    { (Job.start (.ofMilliseconds 0) ⟨""⟩ node) with state := .failed, error := some e.message }
  | .panicked _ => Job.start (.ofMilliseconds 0) ⟨""⟩ node

theorem Run.Logs.essence {run : Run} {node : Node} {vars : Bag} {entry : LogEntry}
    (logs : run.Logs node vars entry) (attempt : entry.job.attempt = 1) :
    entry.job.essence = entry.outcome.recordedFor node := by
  rcases logs.isOf with ⟨executionId, flowId, nodeId, nodeType, bot, ruleId, params⟩
  have told := logs.told
  cases outcome : entry.outcome with
  | returned result | failed e | panicked message =>
      rw [outcome] at told
      rcases told with ⟨state, result, error⟩
      simp only [Job.essence, NodeOutcome.recordedFor, Job.start, flowId, nodeId, nodeType, bot,
        ruleId, params, attempt, state, result, error]

/-! ## Forecasts -/

/-- What a walk does about a node that it comes to: it runs it or does not enter it. -/
structure Station where
  node : Node
  vars : Bag
  ran : Option Performance

namespace Station

/-- The calls of rules at a station. -/
def calls (station : Station) : List RuleCall :=
  station.ran.elim [] (·.calls)

/-- What the job of a station tells, if its node is run. -/
def job? (station : Station) : Option Job :=
  station.ran.map fun performance => performance.outcome.recordedFor station.node

end Station

/-- What is gathered behind a node that was run on some variables. -/
def Performance.progress (made : Performance) (nodeId : String) (vars : Bag) : Run.Progress :=
  match made.outcome.result nodeId with
  | .ok result => (Bag.extend vars result, .ok ())
  | .error e => (vars, .error e)

/-- The stations of a walk one after the other, and what it has gathered in the end. -/
structure Forecast where
  stations : List Station
  progress : Run.Progress

namespace Forecast

/-- The calls of rules on the way. -/
def calls (forecast : Forecast) : List RuleCall :=
  forecast.stations.flatMap Station.calls

/-- What the jobs on the way tell. -/
def jobs (forecast : Forecast) : List Job :=
  forecast.stations.filterMap Station.job?

/-- Nothing is left to do. -/
def finished (vars : Bag) : Forecast := ⟨[], (vars, .ok ())⟩

/-- A node is run. -/
def ofNode (node : Node) (vars : Bag) (made : Performance) : Forecast :=
  ⟨[⟨node, vars, some made⟩], made.progress node.nodeId vars⟩

/-- A part of a walk that has gone on, and the rest of it. -/
def followedBy (first second : Forecast) : Forecast :=
  ⟨first.stations ++ second.stations, second.progress⟩

@[simp]
theorem calls_followedBy (first second : Forecast) :
    (first.followedBy second).calls = first.calls ++ second.calls :=
  List.flatMap_append

@[simp]
theorem jobs_followedBy (first second : Forecast) :
    (first.followedBy second).jobs = first.jobs ++ second.jobs :=
  List.filterMap_append

/-- The walk goes on behind a part of it that follows some calls, unless that part has ended
it. -/
def andThen (first : Forecast) (before : List RuleCall)
    (rest : List RuleCall → Bag → Forecast) : Forecast :=
  match first.progress with
  | (gathered, .ok ()) => first.followedBy (rest (before ++ first.calls) gathered)
  | (_, .error _) => first

/-- A closed gate is passed by, and any other node is entered. -/
def takeUp (enter : List RuleCall → Node → Bag → Forecast) (before : List RuleCall) (node : Node)
    (vars : Bag) : Forecast :=
  if node.isClosed vars then ⟨[⟨node, vars, none⟩], (vars, .ok ())⟩ else enter before node vars

/-- Nodes are taken up one after the other. -/
def inTurn (enter : List RuleCall → Node → Bag → Forecast) :
    List Node → List RuleCall → Bag → Forecast
  | [], _, vars => finished vars
  | node :: rest, before, vars => (takeUp enter before node vars).andThen before (inTurn enter rest)

end Forecast

namespace Engine

/-- What is to be expected of a node that lies at the end of a path, with so many levels left
and behind some calls. -/
def foresee (engine : Engine) (context : RuleContext) (replies : Replies) (graph : Graph) :
    Nat → List String → List RuleCall → Node → Bag → Forecast
  | 0, _, _, node, vars =>
    ⟨[⟨node, vars, none⟩], (vars, .error (.failed
      (.maxDepthExceeded node.nodeId engine.config.effectiveMaxDepth)))⟩
  | levels + 1, path, before, node, vars =>
    if path.contains node.nodeId then
      ⟨[⟨node, vars, none⟩], (vars, .error (.failed (.cycleDetected node.nodeId)))⟩
    else
      (Forecast.ofNode node vars (engine.performance context replies before node vars)).andThen
        before
        (Forecast.inTurn (engine.foresee context replies graph levels (node.nodeId :: path))
          (graph.successors node.nodeId))

/-- What is to be expected of a walk behind some calls. -/
def forecast (engine : Engine) (context : RuleContext) (replies : Replies) (graph : Graph)
    (flowId : FlowId) (triggerType : String) (before : List RuleCall) (vars : Bag) : Forecast :=
  if graph.triggers.isEmpty then ⟨[], (vars, .error (.failed (.noTriggerNodes flowId)))⟩
  else
    Forecast.inTurn (engine.foresee context replies graph engine.config.effectiveMaxDepth [])
      (graph.roots triggerType) before vars

end Engine

/-! ## Runs stop at the stations of a forecast -/

namespace Run

/-- A run goes from station to station: where a node is run, it is run behind the calls that
were made before, and what comes of it is what its performance says. -/
inductive Along {S : Type} (run : Run) (replies : Replies) (answers : Answering service S)
    (view : S → Watched) : S → List Station → S → Prop
  | arrived (s : S) : Along run replies answers view s [] s
  | passed {station : Station} {rest : List Station} {s t : S} (idle : station.ran = none)
      (further : Along run replies answers view s rest t) :
      Along run replies answers view s (station :: rest) t
  | ran {station : Station} {rest : List Station} {made : Performance} {s t u : S}
      (performed : station.ran = some made)
      (foreseen : made = run.engine.performance run.context replies (view s).notes station.node
        station.vars)
      (node : Runs answers (run.runNode station.node station.vars) s
        (made.outcome.result station.node.nodeId) u)
      (further : Along run replies answers view u rest t) :
      Along run replies answers view s (station :: rest) t

/-- Surroundings in which a walk can be foreseen: the rows of a flow are read as they are, and a
node comes to what its performance says. -/
structure Foreseeable {S : Type} (run : Run) (replies : Replies) (answers : Answering service S)
    (view : S → Watched) : Prop where
  nodes : ∀ {id : FlowId} {s t : S} {progress : Progress}
    {next : Except StoreError (List Node) → Routine Progress},
    Runs answers (.ask (ServiceCall.store (.listNodes id) : service.Question) next) s progress t →
    Runs answers (next (.ok ((view s).state.store.listNodes id))) s progress t
  edges : ∀ {id : FlowId} {s t : S} {progress : Progress}
    {next : Except StoreError (List Edge) → Routine Progress},
    Runs answers (.ask (ServiceCall.store (.listEdges id) : service.Question) next) s progress t →
    Runs answers (next (.ok ((view s).state.store.listEdges id))) s progress t
  node : ∀ {node : Node} {vars : Bag} {s t : S} {result : Except Abort Bag},
    (view s).state.store.WellFormed → Runs answers (run.runNode node vars) s result t →
    ∀ made, made = run.engine.performance run.context replies (view s).notes node vars →
      result = made.outcome.result node.nodeId ∧ (view t).notes = (view s).notes ++ made.calls ∧
        (view t).state.store.WellFormed

/-- A part of a run comes to what a forecast says, along its stations. -/
structure Meets {S : Type} (run : Run) (replies : Replies) (answers : Answering service S)
    (view : S → Watched) (s t : S) (progress : Progress) (forecast : Forecast) : Prop where
  reached : progress = forecast.progress
  along : run.Along replies answers view s forecast.stations t
  notes : (view t).notes = (view s).notes ++ forecast.calls
  wellFormed : (view t).state.store.WellFormed

section Meets

variable {S : Type} {run : Run} {replies : Replies} {answers : Answering service S}
  {view : S → Watched} {s t u : S} {progress : Progress}

theorem Along.append {first second : List Station}
    (along : run.Along replies answers view s first u)
    (further : run.Along replies answers view u second t) :
    run.Along replies answers view s (first ++ second) t := by
  induction along with
  | arrived s => exact further
  | passed idle _ ih => exact .passed idle (ih further)
  | ran performed foreseen node _ ih => exact .ran performed foreseen node (ih further)

/-- Where a node is not run, nothing changes. -/
theorem meets_of_idle {node : Node} {vars : Bag} (wellFormed : (view s).state.store.WellFormed) :
    run.Meets replies answers view s s progress ⟨[⟨node, vars, none⟩], progress⟩ where
  reached := rfl
  along := .passed rfl (.arrived s)
  notes := by simp [Forecast.calls, Station.calls]
  wellFormed := wellFormed

theorem meets_finished {vars : Bag} (wellFormed : (view s).state.store.WellFormed) :
    run.Meets replies answers view s s (vars, .ok ()) (.finished vars) where
  reached := rfl
  along := .arrived s
  notes := by simp [Forecast.finished, Forecast.calls]
  wellFormed := wellFormed

/-- A walk that goes on goes on as the rest of the forecast says. -/
theorem Meets.andThen {first : Forecast} {rest : List RuleCall → Bag → Forecast} {gathered : Bag}
    (meets : run.Meets replies answers view s u (gathered, .ok ()) first)
    (meetsRest : run.Meets replies answers view u t progress (rest (view u).notes gathered)) :
    run.Meets replies answers view s t progress (first.andThen (view s).notes rest) := by
  rw [meets.notes] at meetsRest
  simp only [Forecast.andThen, ← meets.reached]
  refine ⟨meetsRest.reached, meets.along.append meetsRest.along, ?_, meetsRest.wellFormed⟩
  rw [meetsRest.notes, meets.notes, Forecast.calls_followedBy, List.append_assoc]

/-- A walk that has been ended is over. -/
theorem Meets.ended {first : Forecast} {rest : List RuleCall → Bag → Forecast} {gathered : Bag}
    {e : Abort} (meets : run.Meets replies answers view s t (gathered, .error e) first) :
    run.Meets replies answers view s t (gathered, .error e)
      (first.andThen (view s).notes rest) := by
  simp only [Forecast.andThen, ← meets.reached]
  exact meets

/-- Nodes that are entered as foreseen are taken up as foreseen. -/
theorem runs_inTurn_meets {enter : Node → Bag → Routine Progress}
    {foreseen : List RuleCall → Node → Bag → Forecast}
    (each : ∀ node vars s t progress, (view s).state.store.WellFormed →
      Runs answers (enter node vars) s progress t →
      run.Meets replies answers view s t progress (foreseen (view s).notes node vars))
    {nodes : List Node} {vars : Bag} (wellFormed : (view s).state.store.WellFormed)
    (ran : Runs answers (inTurn enter nodes vars) s progress t) :
    run.Meets replies answers view s t progress
      (Forecast.inTurn foreseen nodes (view s).notes vars) := by
  induction nodes generalizing vars s with
  | nil =>
      rcases runs_done_iff.mp ran with ⟨rfl, rfl⟩
      exact meets_finished wellFormed
  | cons node rest ih =>
      rw [inTurn] at ran
      rw [Forecast.inTurn, Forecast.takeUp]
      split at ran
      · rename_i closed
        rw [if_pos closed]
        have passed : run.Meets replies answers view s s (vars, .ok ())
            ⟨[⟨node, vars, none⟩], (vars, .ok ())⟩ := meets_of_idle wellFormed
        exact passed.andThen (ih wellFormed ran)
      · rename_i entered
        rw [if_neg entered]
        rcases runs_bind_iff.mp ran with ⟨⟨gathered, outcome⟩, u, entering, ran⟩
        have meets := each _ _ _ _ _ wellFormed entering
        cases outcome with
        | ok _ => exact meets.andThen (ih meets.wellFormed ran)
        | error e =>
            rcases runs_done_iff.mp ran with ⟨rfl, rfl⟩
            exact meets.ended

/-- A node is visited as foreseen. -/
theorem Foreseeable.runs_visit {levels : Nat} {path : List String} {graph : Graph} {node : Node}
    {vars : Bag} (foreseeable : run.Foreseeable replies answers view)
    (wellFormed : (view s).state.store.WellFormed)
    (ran : Runs answers (run.visit graph levels path node vars) s progress t) :
    run.Meets replies answers view s t progress
      (run.engine.foresee run.context replies graph levels path (view s).notes node vars) := by
  -- Below a node its successors are taken up, with one level less and a longer path.
  induction levels generalizing path node vars s t progress with
  | zero =>
      rcases runs_done_iff.mp ran with ⟨rfl, rfl⟩
      exact meets_of_idle wellFormed
  | succ levels below =>
      rw [visit] at ran
      rw [Engine.foresee]
      split at ran
      · rename_i met
        rw [if_pos met]
        rcases runs_done_iff.mp ran with ⟨rfl, rfl⟩
        exact meets_of_idle wellFormed
      · rename_i new
        rw [if_neg new]
        rcases runs_bind_iff.mp ran with ⟨result, u, running, ran⟩
        obtain ⟨made, made_eq⟩ : ∃ made, made =
          run.engine.performance run.context replies (view s).notes node vars := ⟨_, rfl⟩
        rcases foreseeable.node wellFormed running made made_eq with ⟨rfl, notes, stays⟩
        have meets : run.Meets replies answers view s u (made.progress node.nodeId vars)
            (.ofNode node vars made) := by
          refine ⟨rfl, .ran rfl made_eq running (.arrived u), ?_, stays⟩
          simpa [Forecast.calls, Forecast.ofNode, Station.calls] using notes
        rw [← made_eq]
        cases came : made.outcome.result node.nodeId with
        | error e =>
            rw [came] at ran
            rw [Performance.progress, came] at meets
            rcases runs_done_iff.mp ran with ⟨rfl, rfl⟩
            exact meets.ended
        | ok value =>
            rw [came] at ran
            rw [Performance.progress, came] at meets
            exact meets.andThen (runs_inTurn_meets (fun _ _ _ _ _ => below) stays ran)

/-- A walk is as foreseen from the rows of its flow. -/
theorem Foreseeable.runs_walk {flow : Flow} {triggerType : String} {vars : Bag}
    (foreseeable : run.Foreseeable replies answers view)
    (wellFormed : (view s).state.store.WellFormed)
    (ran : Runs answers (run.walk flow triggerType vars) s progress t) :
    run.Meets replies answers view s t progress (run.engine.forecast run.context replies
      (.ofRows ((view s).state.store.listNodes flow.id) ((view s).state.store.listEdges flow.id))
      flow.id triggerType (view s).notes vars) := by
  simp only [walk, Service.store_bind] at ran
  have ran := foreseeable.edges (foreseeable.nodes ran)
  simp only at ran
  rw [Engine.forecast]
  split at ran
  · rename_i none
    rw [if_pos none]
    rcases runs_done_iff.mp ran with ⟨rfl, rfl⟩
    exact ⟨rfl, .arrived _, by simp [Forecast.calls], wellFormed⟩
  · rename_i some
    rw [if_neg some]
    have triggers : ∀ root ∈ (Graph.ofRows ((view s).state.store.listNodes flow.id)
        ((view s).state.store.listEdges flow.id)).roots triggerType, root.isTrigger = true := by
      intro root rootMem
      exact (List.mem_filter.mp (List.mem_filter.mp rootMem).1).2
    rw [visitRoots_eq_inTurn triggers] at ran
    exact runs_inTurn_meets (fun _ _ _ _ _ => foreseeable.runs_visit) wellFormed ran

end Meets

/-! ## Logs follow forecasts -/

/-- A log is as a forecast says. -/
structure Follows (run : Run) (forecast : Forecast) (log : List LogEntry) : Prop where
  calls : log.flatMap (·.calls) = forecast.calls
  jobs : log.map (·.job.essence) = forecast.jobs
  executionIds : ∀ entry ∈ log, entry.job.executionId = run.executionId

/-- What is left behind and what is gathered is as a forecast says. -/
def FollowsFrom (run : Run) (s t : Watched) (progress : Progress) (forecast : Forecast) : Prop :=
  progress = forecast.progress ∧ ∃ log, t = s.logging log ∧ run.Follows forecast log

variable {run : Run} {replies : Replies} {s t : Watched} {progress : Progress}

/-- A walk can be foreseen where the tables answer and the rules reply. -/
theorem foreseeable (run : Run) (replies : Replies) :
    run.Foreseeable replies replies.answering id where
  nodes ran := (replies.narrows.runs_store ran).choose_spec
  edges ran := (replies.narrows.runs_store ran).choose_spec
  node wellFormed ran made made_eq := by
    rcases runs_runNode_eq wellFormed ran with ⟨entry, _, _, same, rfl, rfl⟩
    obtain rfl : (⟨entry.calls, entry.outcome⟩ : Performance) = made := same.trans made_eq.symm
    refine ⟨rfl, by simp [Watched.logging], ?_⟩
    exact (replies.narrows.runs ran).wellFormed wellFormed

/-- A run leaves the entries of the stations at which it has run a node. -/
theorem Along.exists_log {stations : List Station} (wellFormed : s.state.store.WellFormed)
    (along : run.Along replies replies.answering id s stations t) :
    ∃ log, t = s.logging log ∧ run.Follows ⟨stations, progress⟩ log := by
  induction along with
  | arrived s => exact ⟨[], by simp, rfl, rfl, by simp⟩
  | @passed station _ _ _ idle _ ih =>
      rcases ih wellFormed with ⟨log, left, follows⟩
      refine ⟨log, left, follows.calls.trans ?_, follows.jobs.trans ?_, follows.executionIds⟩
      · simp [Forecast.calls, Station.calls, idle]
      · simp [Forecast.jobs, Station.job?, idle]
  | @ran station _ made _ _ _ performed foreseen node _ ih =>
      rcases runs_runNode_eq wellFormed node with ⟨entry, logs, attempt, same, _, rfl⟩
      obtain rfl : (⟨entry.calls, entry.outcome⟩ : Performance) = made :=
        same.trans foreseen.symm
      rcases ih ((replies.narrows.runs node).wellFormed wellFormed) with ⟨log, rfl, follows⟩
      refine ⟨entry :: log, by simp, ?_, ?_, ?_⟩
      · simp [Forecast.calls, Station.calls, performed, follows.calls]
      · simp [Forecast.jobs, Station.job?, performed, follows.jobs, logs.essence attempt]
      · exact List.forall_mem_cons.mpr ⟨logs.isOf.executionId, follows.executionIds⟩

/-- A walk is as foreseen from the rows of its flow. -/
theorem runs_walk_follows {flow : Flow} {triggerType : String} {vars : Bag}
    (wellFormed : s.state.store.WellFormed)
    (ran : Runs replies.answering (run.walk flow triggerType vars) s progress t) :
    run.FollowsFrom s t progress (run.engine.forecast run.context replies
      (.ofRows (s.state.store.listNodes flow.id) (s.state.store.listEdges flow.id)) flow.id
      triggerType s.notes vars) := by
  have meets := (run.foreseeable replies).runs_walk wellFormed ran
  exact ⟨meets.reached, meets.along.exists_log wellFormed⟩

end Run

end EventFlow
