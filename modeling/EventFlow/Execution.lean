import EventFlow.Id
import EventFlow.Json.Basic
import EventFlow.Time.Basic

/-!
# Executions

An execution is one run of a flow for one event.  Running again under the same
id starts the same row anew: it keeps the time of its first start and forgets
how the earlier run ended.
-/

namespace EventFlow

/-- Where an execution stands. -/
inductive ExecutionState where
  | pending
  | running
  | succeeded
  | failed
  deriving DecidableEq, Repr

namespace ExecutionState

/-- The name of the state in records. -/
def name : ExecutionState → String
  | .pending => "pending"
  | .running => "running"
  | .succeeded => "succeeded"
  | .failed => "failed"

/-- Has the execution ended? -/
def isTerminal : ExecutionState → Bool
  | .succeeded => true
  | .failed => true
  | _ => false

end ExecutionState

/-- The row of an execution. -/
structure Execution where
  executionId : ExecutionId
  flowId : FlowId
  triggerType : String
  triggerId : String
  state : ExecutionState
  payload : Bag
  vars : Bag
  error : Option String
  startedAt : Option Instant
  finishedAt : Option Instant
  createdAt : Instant
  updatedAt : Instant

namespace Execution

/-- A pending execution. -/
def create (now : Instant) (executionId : ExecutionId) (flowId : FlowId) : Execution :=
  ⟨executionId, flowId, "", "", .pending, [], [], none, none, none, now, now⟩

/-- The execution, started for an event. -/
def start (execution : Execution) (now : Instant) (triggerType triggerId : String)
    (payload : Bag) : Execution :=
  { execution with
    state := .running
    triggerType
    triggerId
    payload
    error := none
    finishedAt := none
    startedAt := some (execution.startedAt.getD now)
    updatedAt := now }

/-- The execution, ended well with its last variables. -/
def succeed (execution : Execution) (now : Instant) (vars : Bag) : Execution :=
  { execution with
    state := .succeeded, vars, finishedAt := some now, updatedAt := now }

/-- The execution, ended with an error. -/
def fail (execution : Execution) (now : Instant) (error : String) (vars : Bag) :
    Execution :=
  { execution with
    state := .failed, error := some error, vars, finishedAt := some now, updatedAt := now }

/-- How long the execution has been running, or ran. -/
def duration? (execution : Execution) (now : Instant) : Option Duration :=
  execution.startedAt.map fun start => (execution.finishedAt.getD now).since start

end Execution

end EventFlow
