import EventFlow.Engine.Error
import EventFlow.Graph
import EventFlow.Rule.Call
import EventFlow.Rule.Registry
import EventFlow.Settings.Basic
import EventFlow.Template

/-!
# Walking a flow

A walk starts at a trigger and goes on depth first along the edges, in the order
in which they were drawn.  Every node that it enters is run under a job of its
own, and what the node returns is added to the variables that all later nodes
see.  A gate whose conditions do not hold is passed by.  The walk fails when it
comes back to a node of the path it is on, when the path grows longer than it
may, and when a node fails; the variables gathered so far are kept.
-/

namespace EventFlow

/-- What an engine is made of. -/
structure Engine where
  registry : Registry
  renderer : Renderer
  config : EngineConfig

/-- An engine that fills placeholders. -/
def Engine.create (registry : Registry) (config : EngineConfig) : Engine :=
  ⟨registry, Template.fill, config⟩

/-- How a run ends early: it fails, or a rule breaks down. -/
inductive Abort where
  | failed (e : EngineError)
  | panicked (message : String)
  deriving DecidableEq, Repr

/-- What comes of running a node. -/
inductive NodeOutcome where
  | returned (result : Bag)
  | failed (e : NodeError)
  | panicked (message : String)

namespace NodeOutcome

/-- The outcome of a rule that was called under a limit. -/
def ofReply (limit : Duration) : Reply Bag → NodeOutcome
  | .returned (.ok result) => .returned result
  | .returned (.error e) => .failed (.rule e)
  | .panicked message => .panicked message
  | .expired => .failed (.timeout limit)

end NodeOutcome

/-- What stays the same during a run. -/
structure Run where
  engine : Engine
  executionId : ExecutionId
  context : RuleContext

namespace Run

/-! ## One node -/

/-- Runs a trigger: checks its parameters and takes variables out of the event. -/
def runTrigger (run : Run) (rule : TriggerRule) (params vars : Bag) : Routine NodeOutcome := do
  match rule.check params with
  | .error e => return .failed (.rule e)
  | .ok () =>
    let payload := (vars.getObject? "payload").getD []
    let limit := run.context.timeout
    return .ofReply limit (← rule.extract run.context params payload limit)

/-- Runs an action on checked parameters. -/
def runAction (run : Run) (rule : ActionRule) (params vars : Bag) : Routine NodeOutcome := do
  match rule.validate params with
  | .error e => return .failed (.rule e)
  | .ok () =>
    let limit := run.context.timeout
    return .ofReply limit (← rule.run run.context params vars limit)

/-- Does what the role of a node is.  Gates do nothing once they are entered. -/
def perform (run : Run) (node : Node) (vars : Bag) : Routine NodeOutcome := do
  let params := run.engine.renderer.params vars node.parameters
  match node.nodeType with
  | .trigger =>
    match run.engine.registry.findTrigger node.bot node.ruleId with
    | .error e => return .failed (.registry e)
    | .ok rule => run.runTrigger rule params vars
  | .action =>
    match run.engine.registry.findAction node.bot node.ruleId with
    | .error e => return .failed (.registry e)
    | .ok rule => run.runAction rule params vars
  | .filter => return .returned []
  | .condition => return .returned []

/-- Ends the job of a node.  That the job cannot be ended or stored is not held
against the run. -/
def recordEnd (finish : Instant → Except TransitionError Job) : Routine Unit := do
  match finish (← Service.now) with
  | .ok job =>
    let _ ← Service.store (.updateJob job)
    return ()
  | .error _ => return ()

/-- Runs a node under a job of its own: what it returns, or how it ends the run.
Jobs are recorded as far as the store allows; a node that breaks down leaves its
job started. -/
def runNode (run : Run) (node : Node) (vars : Bag) : Routine (Except Abort Bag) := do
  let created ← Service.store (.createJob (Job.start (← Service.now) run.executionId node))
  let outcome ← run.perform node vars
  match outcome with
  | .returned result =>
    match created with
    | .ok job => recordEnd fun now => job.succeed now result
    | .error _ => pure ()
    return .ok result
  | .failed e =>
    match created with
    | .ok job => recordEnd fun now => job.fail now e.message
    | .error _ => pure ()
    return .error (.failed (.nodeFailed node.nodeId e))
  | .panicked message => return .error (.panicked message)

/-! ## The walk -/

/-- The variables at the end of a part of a walk, and whether the walk goes on. -/
abbrev Progress : Type := Bag × Except Abort Unit

/-- Enters nodes one after the other as long as the walk goes on.  A closed gate
is passed by. -/
def inTurn (enter : Node → Bag → Routine Progress) : List Node → Bag → Routine Progress
  | [], vars => .done (vars, .ok ())
  | node :: rest, vars =>
    if node.isClosed vars then inTurn enter rest vars
    else do
      match ← enter node vars with
      | (vars, .ok ()) => inTurn enter rest vars
      | (vars, .error e) => return (vars, .error e)

/-- Enters a node that lies at the end of a path, with so many levels left. -/
def visit (run : Run) (graph : Graph) : Nat → List String → Node → Bag → Routine Progress
  | 0, _, node, vars =>
    .done (vars, .error (.failed
      (.maxDepthExceeded node.nodeId run.engine.config.effectiveMaxDepth)))
  | levels + 1, path, node, vars =>
    if path.contains node.nodeId then
      .done (vars, .error (.failed (.cycleDetected node.nodeId)))
    else do
      match ← run.runNode node vars with
      | .error e => return (vars, .error e)
      | .ok result =>
        inTurn (run.visit graph levels (node.nodeId :: path)) (graph.successors node.nodeId)
          (Bag.extend vars result)

/-- Enters roots one after the other as long as the walk goes on. -/
def visitRoots (run : Run) (graph : Graph) : List Node → Bag → Routine Progress
  | [], vars => .done (vars, .ok ())
  | root :: rest, vars => do
    match ← run.visit graph run.engine.config.effectiveMaxDepth [] root vars with
    | (vars, .ok ()) => run.visitRoots graph rest vars
    | (vars, .error e) => return (vars, .error e)

end Run

/-! ## Roots -/

/-- The bot and the rule that a trigger type names: what stands before and behind
the first separator; a bare name is a rule of the bot `dev`. -/
def splitTriggerType (triggerType : String) : String × String :=
  match Text.splitFirst? triggerTypeSeparator triggerType.toList with
  | some (bot, rule) => (String.ofList bot, String.ofList rule)
  | none => if triggerType = "" then ("", "") else (Bot.devName, triggerType)

/-- Is a trigger a root of a walk for a trigger type?  A type without bot or
without rule selects every trigger. -/
def Node.isRootFor (triggerType : String) (node : Node) : Bool :=
  let (bot, rule) := splitTriggerType triggerType
  bot == "" || rule == "" || (node.bot == bot && node.ruleId == rule)

/-- The roots of a walk for a trigger type. -/
def Graph.roots (g : Graph) (triggerType : String) : List Node :=
  g.triggers.filter (Node.isRootFor triggerType)

/-- The variables at the start of a walk: the members of the event, the event as
a whole, and by what the walk was started. -/
def initialVariables (payload : Bag) (triggerType triggerId : String) : Bag :=
  Bag.insert "__trigger_id" (.string triggerId)
    (Bag.insert "__trigger_type" (.string triggerType)
      (Bag.insert "payload" (.object payload) payload))

/-- Walks a flow: loads its rows and enters its roots. -/
def Run.walk (run : Run) (flow : Flow) (triggerType : String) (vars : Bag) :
    Routine Run.Progress := do
  match ← Service.store (.listNodes flow.id) with
  | .error e => return (vars, .error (.failed (.store e)))
  | .ok nodes =>
    match ← Service.store (.listEdges flow.id) with
    | .error e => return (vars, .error (.failed (.store e)))
    | .ok edges =>
      let graph := Graph.ofRows nodes edges
      if graph.triggers.isEmpty then
        return (vars, .error (.failed (.noTriggerNodes flow.id)))
      else run.visitRoots graph (graph.roots triggerType) vars

end EventFlow
