import EventFlow.Engine.Execute
import EventFlow.Retry

/-!
# The queue manager

Requests are queued as jobs with the id of their execution already made; workers
claim the jobs and run them through the engine.  A job that fails goes back with
a delay until its attempts are used up.  Where queueing is impossible, a request
is executed at once.
-/

namespace EventFlow

/-- What a queue manager is made of.  Without a queue every request is executed
at once. -/
structure QueueManager where
  enabled : Bool
  engine : Engine
  config : QueueConfig
  retry : RetryConfig

/-- How a request was taken. -/
inductive Submission where
  | queued (executionId : ExecutionId)
  | executed (executionId : ExecutionId)
  deriving DecidableEq, Repr

namespace Submission

/-- The id of the execution, however the request was taken. -/
def executionId : Submission → ExecutionId
  | .queued id => id
  | .executed id => id

/-- Was the request queued? -/
def isQueued : Submission → Bool
  | .queued _ => true
  | .executed _ => false

end Submission

namespace QueueManager

/-! ## Queueing -/

/-- The error of a push that was given up. -/
def pushError : RetryError QueueError → QueueError
  | .cancelled => .backend "queue is shutting down"
  | .maxAttemptsReached _ lastError => lastError

/-- Pushes a job with a fresh execution id. -/
def push (manager : QueueManager) (request : FlowRequest) :
    Routine (Except QueueError ExecutionId) := do
  let executionId ← Service.freshId
  let job := (QueueJob.create (← Service.now) executionId request).withMaxAttempts
    manager.config.maxAttempts
  match ← EventFlow.retry manager.retry .workersStop (Service.queue (.push job)) with
  | .ok _ => return .ok executionId
  | .error e => return .error (pushError e)

/-- Queues a request for an enabled flow. -/
def enqueue (manager : QueueManager) (request : FlowRequest) :
    Routine (Except QueueError ExecutionId) := do
  if manager.enabled then
    match ← Service.store (.getFlow request.flowId) with
    | .error e => return .error (.store e)
    | .ok none => return .error (.flowNotFound request.flowId)
    | .ok (some flow) =>
      if flow.enabled then manager.push request
      else return .error (.flowDisabled request.flowId)
  else return .error .disabled

/-- Queues a request, or executes it at once if that fails. -/
def submit (manager : QueueManager) (request : FlowRequest) :
    Routine (Except EngineError Submission) := do
  match ← manager.enqueue request with
  | .ok executionId => return .ok (.queued executionId)
  | .error _ =>
    match ← manager.engine.execute none request with
    | .ok executionId => return .ok (.executed executionId)
    | .error e => return .error e

/-! ## Working -/

/-- Reports how the run of a job went. -/
def report (job : QueueJob) (outcome : Except EngineError ExecutionId) :
    Routine (Except QueueError Unit) := do
  match outcome with
  | .ok _ => Service.queue (.complete job.id)
  | .error e =>
    let attempts := job.attempts + 1
    if job.maxAttempts ≤ attempts then Service.queue (.fail job.id attempts e.message)
    else
      let runAt := (← Service.now).plus (QueueJob.retryDelay attempts)
      Service.queue (.reschedule job.id attempts e.message runAt)

/-- Runs a claimed job and reports how it went. -/
def runJob (manager : QueueManager) (job : QueueJob) : Routine (Except QueueError Bool) := do
  let outcome ← manager.engine.execute (some job.executionId) job.args
  match ← report job outcome with
  | .ok () => return .ok true
  | .error e => return .error e

/-- Claims and runs one job that is due; tells whether there was one. -/
def processNext (manager : QueueManager) : Routine (Except QueueError Bool) := do
  if manager.enabled then
    match ← Service.queue (.claimNext (← Service.now)) with
    | .error e => return .error e
    | .ok none => return .ok false
    | .ok (some job) => manager.runJob job
  else return .error .disabled

/-! ## Workers -/

/-- The first wait of a worker that finds nothing. -/
def initialIdle (manager : QueueManager) : Duration :=
  .ofMilliseconds manager.config.idleBackoffMs

/-- How long a worker waits after a round, if it does, and how long it waits when
it next finds nothing.  Finding nothing doubles the wait, up to a bound; a job
brings it back to its start; an error leaves it. -/
def nextWait (manager : QueueManager) (idle : Duration) :
    Except QueueError Bool → Option Duration × Duration
  | .ok true => (none, manager.initialIdle)
  | .ok false =>
    (some idle,
      Duration.min ⟨idle.nanoseconds * 2⟩ (.ofMilliseconds manager.config.maxIdleBackoffMs))
  | .error _ => (some (.ofMilliseconds manager.config.claimErrorBackoffMs), idle)

/-- One round of a worker: the wait that it starts the next one with, unless it
is told to stop. -/
def workRound (manager : QueueManager) (idle : Duration) : Routine (Option Duration) := do
  if ← Service.isGiven .workersStop then return none
  else
    match manager.nextWait idle (← manager.processNext) with
    | (none, idle) => return some idle
    | (some wait, idle) =>
      if ← Service.sleep wait (some .workersStop) then return none
      else return some idle

/-- Starts so many workers. -/
def spawnWorkers (manager : QueueManager) : Nat → Routine (List TaskId)
  | 0 => .done []
  | n + 1 => do
    let task ← Service.spawn (.worker manager.initialIdle)
    return task :: (← manager.spawnWorkers n)

/-- Starts the workers, unless they run already or have been stopped. -/
def start (manager : QueueManager) : Routine Unit := do
  if manager.enabled then
    if ← Service.isGiven .workersStop then return ()
    else
      match ← Service.workers with
      | [] => Service.setWorkers (← manager.spawnWorkers (max manager.config.workers 1))
      | _ => return ()
  else return ()

/-- Waits for tasks to end. -/
def joinAll : List TaskId → Routine Unit
  | [] => .done ()
  | task :: rest => do
    let _ ← Service.join task
    joinAll rest

/-- Tells the workers to stop and waits for them. -/
def stop : Routine Unit := do
  Service.give .workersStop
  let tasks ← Service.workers
  Service.setWorkers []
  joinAll tasks

end QueueManager

end EventFlow
