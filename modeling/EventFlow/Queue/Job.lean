import EventFlow.Id
import EventFlow.Json.Basic
import EventFlow.Time.Basic

/-!
# Queued executions

A queue job asks for one execution of a flow.  It is pending until a worker
claims it; a failed run sends it back with a delay that doubles from run to run,
until it has used up its attempts.
-/

namespace EventFlow

/-- Where a queue job stands. -/
inductive QueueStatus where
  | pending
  | running
  | completed
  | failed
  deriving DecidableEq, Repr

/-- The name of the status in records. -/
def QueueStatus.name : QueueStatus → String
  | .pending => "pending"
  | .running => "running"
  | .completed => "completed"
  | .failed => "failed"

/-- A request to execute a flow for an event. -/
structure FlowRequest where
  flowId : FlowId
  triggerType : String
  triggerId : String
  payload : Bag

/-- A queued execution. -/
structure QueueJob where
  id : QueueJobId
  kind : String
  executionId : ExecutionId
  args : FlowRequest
  status : QueueStatus
  attempts : Nat
  maxAttempts : Nat
  runAt : Instant
  lockedAt : Option Instant
  lastError : Option String
  createdAt : Instant
  updatedAt : Instant

namespace QueueJob

/-- The kind of all jobs of this queue. -/
def flowExecutionKind : String := "flow_execution"

/-- The attempts that a job has unless it is given others. -/
def defaultMaxAttempts : Nat := 3

/-- A pending job that is due now. -/
def create (now : Instant) (executionId : ExecutionId) (args : FlowRequest) : QueueJob where
  id := .unassigned
  kind := flowExecutionKind
  executionId := executionId
  args := args
  status := .pending
  attempts := 0
  maxAttempts := defaultMaxAttempts
  runAt := now
  lockedAt := none
  lastError := none
  createdAt := now
  updatedAt := now

/-- The job with a number of attempts, at least one. -/
def withMaxAttempts (job : QueueJob) (maxAttempts : Nat) : QueueJob :=
  { job with maxAttempts := max maxAttempts 1 }

/-- May a worker claim the job? -/
def isDue (job : QueueJob) (now : Instant) : Bool :=
  job.status == .pending && job.runAt ≤ now

/-- The job, claimed. -/
def claim (job : QueueJob) (now : Instant) : QueueJob :=
  { job with status := .running, lockedAt := some now, updatedAt := now }

/-- The job after a run that went well. -/
def complete (job : QueueJob) (now : Instant) : QueueJob :=
  { job with status := .completed, updatedAt := now }

/-- The job after its last run has failed. -/
def fail (job : QueueJob) (now : Instant) (attempts : Nat) (error : String) : QueueJob :=
  { job with status := .failed, attempts, lastError := some error, updatedAt := now }

/-- The job after a failed run, to be run again later. -/
def reschedule (job : QueueJob) (now : Instant) (attempts : Nat) (error : String)
    (runAt : Instant) : QueueJob :=
  { job with
    status := .pending
    attempts
    lastError := some error
    runAt
    lockedAt := none
    updatedAt := now }

/-- The wait before a job runs again that has failed so many times: it doubles
with every failure and stops growing after the sixth. -/
def retryDelay (attempts : Nat) : Duration :=
  .ofSeconds (Nat.pow 2 (min attempts 6))

end QueueJob

end EventFlow
