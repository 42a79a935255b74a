import EventFlow.Id
import EventFlow.Time.Basic

/-!
# Rate limits

A rate limit is a rule that allows so many executions of a flow within a window
of time that ends now.  A rule without a flow applies to every flow, one without
a node to every node.
-/

namespace EventFlow

/-- The unit of a window. -/
inductive WindowUnit where
  | second
  | minute
  | hour
  | day
  deriving DecidableEq, Repr

namespace WindowUnit

/-- The name of the unit in records. -/
def name : WindowUnit → String
  | .second => "second"
  | .minute => "minute"
  | .hour => "hour"
  | .day => "day"

/-- The length of the unit in seconds. -/
def seconds : WindowUnit → Nat
  | .second => 1
  | .minute => 60
  | .hour => 3600
  | .day => 86400

end WindowUnit

/-- A stored rate limit. -/
structure RateLimit where
  id : RateLimitId
  flowId : Option FlowId
  nodeId : Option String
  windowSize : Nat
  windowUnit : WindowUnit
  limitValue : Nat
  deriving DecidableEq, Repr

namespace RateLimit

/-- A rule for one flow. -/
def forFlow (flowId : FlowId) (windowSize : Nat) (windowUnit : WindowUnit)
    (limitValue : Nat) : RateLimit :=
  ⟨.unassigned, some flowId, none, windowSize, windowUnit, limitValue⟩

/-- The greatest number of units in a window; a greater one counts as this. -/
def greatestWindowSize : Nat := 2147483647

/-- The length of the window. -/
def window (rule : RateLimit) : Duration :=
  .ofSeconds (rule.windowUnit.seconds * min rule.windowSize greatestWindowSize : Nat)

/-- Does the rule apply to a node of a flow? -/
def appliesTo (rule : RateLimit) (flowId : FlowId) (nodeId : String) : Bool :=
  (rule.flowId == none || rule.flowId == some flowId) &&
    (rule.nodeId == none || rule.nodeId == some nodeId)

end RateLimit

end EventFlow
