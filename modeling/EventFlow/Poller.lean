import EventFlow.Queue.Manager

/-!
# The poller

On every tick the poller goes through the triggers of all enabled flows and
polls those that are due.  What a poll returns as its state is kept on the node,
together with the second at which the node is due again, and every event is
submitted as a request.  A rule that breaks down while it is polled, or a due
time that does not exist, ends the tick.
-/

namespace EventFlow

/-- What a poller is made of. -/
structure Poller where
  registry : Registry
  queue : QueueManager
  config : PollerConfig
  retry : RetryConfig
  pollTimeout : Duration

/-- What a tick did. -/
structure TickReport where
  polled : Nat
  submitted : Nat
  failed : Nat
  deriving DecidableEq, Repr

namespace TickReport

/-- Nothing. -/
def zero : TickReport := ⟨0, 0, 0⟩

end TickReport

namespace Poller

/-- The variable of a node that holds the second at which it is due. -/
def nextAtKey : String := "_poll_next_at"

/-- The parameter of a node that holds the seconds between polls. -/
def intervalKey : String := "interval_seconds"

/-- The seconds between polls of a node. -/
def interval (poller : Poller) (node : Node) : Int :=
  ((node.parameters.getInteger? intervalKey).filter fun secs => 0 < secs).getD
    poller.config.defaultPollIntervalSecs

/-- Is the node due at a time? -/
def isDue (node : Node) (now : Instant) : Bool :=
  ((node.vars.getInteger? nextAtKey).getD 0) ≤ now.seconds

/-- The greatest number of seconds that is a duration. -/
def greatestInterval : Int := 9223372036854775807 / 1000

/-- The state of a node with the second at which it is due again; none when that
time does not exist. -/
def schedule? (state : Bag) (now : Instant) (secs : Int) : Option Bag :=
  if -greatestInterval ≤ secs ∧ secs ≤ greatestInterval then
    (now.plus? (.ofSeconds secs)).map fun next =>
      Bag.insert nextAtKey (.ofInt next.seconds) state
  else none

/-- What is wrong with a due time that does not exist. -/
def unschedulable : String := "the next poll is outside the supported time range"

/-- Stores the state of a node.  That this fails is not held against the poll. -/
def saveState (poller : Poller) (node : Node) : Routine Unit := do
  let _ ← EventFlow.retry poller.retry .pollerStop (Service.store (.updateNode node))
  return ()

/-- The request that an event of a node stands for. -/
def eventRequest (flow : Flow) (node : Node) (event : Bag) : FlowRequest :=
  ⟨flow.id, node.triggerType, ((event.get? "id").map Json.display).getD "", event⟩

/-- Submits the events of a node in order. -/
def submitEvents (poller : Poller) (flow : Flow) (node : Node) :
    List Bag → TickReport → Routine TickReport
  | [], report => .done report
  | event :: rest, report => do
    match ← poller.queue.submit (eventRequest flow node event) with
    | .ok _ =>
      poller.submitEvents flow node rest { report with submitted := report.submitted + 1 }
    | .error _ => poller.submitEvents flow node rest { report with failed := report.failed + 1 }

/-- For whom the rule of a node is polled. -/
def context (poller : Poller) (flow : Flow) : RuleContext :=
  ⟨flow.id, flow.uid, flow.topic, poller.pollTimeout⟩

/-- Keeps a state on a node and goes on, if the node can be scheduled again. -/
def keepState (poller : Poller) (node : Node) (state : Bag) (now : Instant)
    (next : Routine (Except String TickReport)) : Routine (Except String TickReport) := do
  match schedule? state now (poller.interval node) with
  | none => return .error unschedulable
  | some vars =>
    poller.saveState { node with vars }
    next

/-- Polls a node that is due. -/
def pollDue (poller : Poller) (rule : TriggerRule) (flow : Flow) (node : Node) (now : Instant)
    (report : TickReport) : Routine (Except String TickReport) := do
  let report := { report with polled := report.polled + 1 }
  let failed := { report with failed := report.failed + 1 }
  match ← rule.poll (poller.context flow) node.parameters node.vars poller.pollTimeout with
  | .panicked message => return .error message
  | .expired => poller.keepState node node.vars now (return .ok failed)
  | .returned (.error _) => poller.keepState node node.vars now (return .ok failed)
  | .returned (.ok result) =>
    poller.keepState node (result.state.getD node.vars) now do
      return .ok (← poller.submitEvents flow node result.events report)

/-- Polls a trigger if its rule is polled and it is due. -/
def pollNode (poller : Poller) (flow : Flow) (node : Node) (report : TickReport) :
    Routine (Except String TickReport) := do
  match poller.registry.findTrigger node.bot node.ruleId with
  | .error _ => return .ok report
  | .ok rule =>
    if rule.mode = .poll then
      let now ← Service.now
      if isDue node now then poller.pollDue rule flow node now report
      else return .ok report
    else return .ok report

/-- Polls the triggers of a flow in order. -/
def pollNodes (poller : Poller) (flow : Flow) :
    List Node → TickReport → Routine (Except String TickReport)
  | [], report => .done (.ok report)
  | node :: rest, report => do
    match ← poller.pollNode flow node report with
    | .error message => return .error message
    | .ok report => poller.pollNodes flow rest report

/-- Polls the triggers of flows in order, until the poller is told to stop. -/
def pollFlows (poller : Poller) : List Flow → TickReport → Routine (Except String TickReport)
  | [], report => .done (.ok report)
  | flow :: rest, report => do
    if ← Service.isGiven .pollerStop then return .ok report
    else
      match ← Service.store (.listNodes flow.id) with
      | .error _ => poller.pollFlows rest report
      | .ok nodes =>
        match ← poller.pollNodes flow (nodes.filter Node.isTrigger) report with
        | .error message => return .error message
        | .ok report => poller.pollFlows rest report

/-- Polls every trigger that is due once; an error tells how the tick broke down. -/
def tick (poller : Poller) : Routine (Except String TickReport) := do
  match ← Service.store (.listFlows "" "") with
  | .error _ => return .ok .zero
  | .ok flows => poller.pollFlows (flows.filter (·.enabled)) .zero

/-! ## The loop -/

/-- The milliseconds between ticks. -/
def periodMs (poller : Poller) : Int :=
  max poller.config.intervalSecs 1 * 1000

/-- By how many milliseconds a tick may be late and still keep its place. -/
def toleranceMs : Int := 5

/-- When the tick after one is due: a period after it was due, or after it was
reached if it was late. -/
def nextDeadline (poller : Poller) (deadline reached : Int) : Int :=
  if deadline + toleranceMs < reached then reached + poller.periodMs
  else deadline + poller.periodMs

/-- The last millisecond at which a tick can be due.  The clock counts seconds in 64
bits with a sign, and has counted those from 1970 on before the start. -/
def lastDeadline : Int := (9223372036854775807 - 1704067200) * 1000 + 999

/-- What is wrong with a tick that is due later. -/
def unreachable : String := "the next tick is outside the supported time range"

/-- One round of the loop: waits for the tick and does it.  The deadline of the
next tick, or none when the poller is told to stop. -/
def round (poller : Poller) (deadline : Int) : Routine (Except String (Option Int)) := do
  if lastDeadline < deadline then return .error unreachable
  else if ← Service.sleepUntil deadline (some .pollerStop) then return .ok none
  else
    let reached ← Service.elapsedMs
    match ← poller.tick with
    | .error message => return .error message
    | .ok _ => return .ok (some (poller.nextDeadline deadline reached))

/-- Starts the loop; the first tick is due after one period. -/
def start (poller : Poller) : Routine TaskId := do
  Service.spawn (.poller ((← Service.elapsedMs) + poller.periodMs))

end Poller

end EventFlow
