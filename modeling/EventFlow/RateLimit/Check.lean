import EventFlow.RateLimit.Basic
import EventFlow.Service

/-!
# Checking rate limits

A rule is full when its flow has had as many executions as it allows within the
window that ends now.  Room comes back when the oldest of the newest that many
executions leaves the window.  A rule that cannot be evaluated is passed over; a
request is allowed when no rule that applies is full.
-/

namespace EventFlow

/-- What the check of rate limits finds. -/
inductive RateLimitResult where
  | allowed (remaining : Option Nat)
  | exceeded (retryAfter : Duration) (resetsAt : Instant)
  deriving DecidableEq, Repr

namespace RateLimitResult

/-- Is the request allowed? -/
def isAllowed : RateLimitResult → Bool
  | .allowed _ => true
  | .exceeded _ _ => false

/-- How long to wait; no time when the request is allowed. -/
def retryAfter : RateLimitResult → Duration
  | .allowed _ => .zero
  | .exceeded retryAfter _ => retryAfter

end RateLimitResult

/-- Why a check fails. -/
inductive RateLimitError where
  | store (e : StoreError)
  | windowOutOfRange (ruleId : RateLimitId)
  deriving DecidableEq, Repr

/-- The error in words. -/
def RateLimitError.message : RateLimitError → String
  | .store e => "failed to load rate limits: " ++ e.message
  | .windowOutOfRange ruleId =>
    s!"rate limit {ruleId.display} has a window outside the supported time range"

namespace RateLimit

/-- How many of the newest executions are looked at. -/
def scanLimit : Nat := 1000

/-- Decides a rule at a time, given when the executions of its flow were created,
the newest first, up to the first that is older than the window. -/
def decide (rule : RateLimit) (now : Instant) (inWindow : List Instant) :
    Except RateLimitError RateLimitResult :=
  if inWindow.length < rule.limitValue then
    .ok (.allowed (some (rule.limitValue - inWindow.length)))
  else
    let last := if rule.limitValue = 0 then some now else inWindow[rule.limitValue - 1]?
    match last.bind fun t => t.plus? rule.window with
    | none => .error (.windowOutOfRange rule.id)
    | some resetsAt => .ok (.exceeded ((resetsAt.since now).max .zero) resetsAt)

/-- Checks one rule for a flow.  A rule without a flow counts the executions of
the flow that is asked for. -/
def check (rule : RateLimit) (flowId : FlowId) :
    Routine (Except RateLimitError RateLimitResult) := do
  let now ← Service.now
  match now.minus? rule.window with
  | none => return .error (.windowOutOfRange rule.id)
  | some start =>
    match ← Service.store (.listExecutions (rule.flowId.getD flowId) scanLimit) with
    | .error e => return .error (.store e)
    | .ok executions =>
      return rule.decide now
        ((executions.map (·.createdAt)).takeWhile fun created => start ≤ created)

/-- What is left in the tightest window. -/
def tighter (remaining : Option Nat) (left : Nat) : Option Nat :=
  some (remaining.elim left fun r => min r left)

/-- Checks rules in order, on top of what the rules before have left. -/
def checkAll (flowId : FlowId) : List RateLimit → Option Nat → Routine RateLimitResult
  | [], remaining => .done (.allowed remaining)
  | rule :: rest, remaining => do
    match ← rule.check flowId with
    | .ok (.allowed (some left)) => checkAll flowId rest (tighter remaining left)
    | .ok (.allowed none) => checkAll flowId rest remaining
    | .ok exceeded => return exceeded
    | .error _ => checkAll flowId rest remaining

/-- Checks whether a node of a flow may be executed now. -/
def checkFlow (flowId : FlowId) (nodeId : String) :
    Routine (Except RateLimitError RateLimitResult) := do
  match ← Service.store (.listRateLimits flowId nodeId) with
  | .error e => return .error (.store e)
  | .ok rules => return .ok (← checkAll flowId rules none)

end RateLimit

end EventFlow
