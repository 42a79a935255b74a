import EventFlow.Flow

/-!
# Jobs

A job records the run of one node within an execution.  It starts, and then it
either succeeds or fails, once: a job that has ended refuses to end again.
-/

namespace EventFlow

/-- Where a job stands. -/
inductive JobState where
  | start
  | succeeded
  | failed
  deriving DecidableEq, Repr

/-- The name of the state in records. -/
def JobState.name : JobState → String
  | .start => "start"
  | .succeeded => "succeeded"
  | .failed => "failed"

/-- A change of state that a job refuses. -/
structure TransitionError where
  source : JobState
  target : JobState
  deriving DecidableEq, Repr

/-- The error in words. -/
def TransitionError.message (e : TransitionError) : String :=
  s!"invalid state transition from {e.source.name} to {e.target.name}"

/-- The row of a job.  The parameters are those of the node, before rendering. -/
structure Job where
  id : FlowJobId
  flowId : FlowId
  executionId : ExecutionId
  nodeId : String
  nodeType : NodeType
  bot : String
  ruleId : String
  attempt : Nat
  state : JobState
  params : Bag
  result : Bag
  error : Option String
  startedAt : Instant
  finishedAt : Option Instant
  createdAt : Instant
  updatedAt : Instant

namespace Job

/-- The job of a node that starts now. -/
def start (now : Instant) (executionId : ExecutionId) (node : Node) : Job where
  id := .unassigned
  flowId := node.flowId
  executionId := executionId
  nodeId := node.nodeId
  nodeType := node.nodeType
  bot := node.bot
  ruleId := node.ruleId
  attempt := 1
  state := .start
  params := node.parameters
  result := []
  error := none
  startedAt := now
  finishedAt := none
  createdAt := now
  updatedAt := now

/-- Ends the job in a state. -/
def finish (job : Job) (now : Instant) (target : JobState) : Except TransitionError Job :=
  if job.state = .start then
    .ok { job with state := target, finishedAt := some now, updatedAt := now }
  else .error ⟨job.state, target⟩

/-- Ends the job with a result. -/
def succeed (job : Job) (now : Instant) (result : Bag) : Except TransitionError Job :=
  (job.finish now .succeeded).map fun job => { job with result }

/-- Ends the job with an error. -/
def fail (job : Job) (now : Instant) (error : String) : Except TransitionError Job :=
  (job.finish now .failed).map fun job => { job with error := some error }

end Job

end EventFlow
