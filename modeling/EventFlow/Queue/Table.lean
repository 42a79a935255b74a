import EventFlow.Queue.Job
import EventFlow.Store.Basic

/-!
# The queue

The jobs of a queue in the order in which they were pushed.  A claim takes the
oldest job that is due; the worker that holds it reports later how its run went.
-/

namespace EventFlow

/-- Why a queue, or what stands around it, refuses an operation. -/
inductive QueueError where
  | disabled
  | flowNotFound (flowId : FlowId)
  | flowDisabled (flowId : FlowId)
  | backend (reason : String)
  | store (e : StoreError)
  deriving DecidableEq, Repr

/-- The error in words. -/
def QueueError.message : QueueError → String
  | .disabled => "flow queue is disabled"
  | .flowNotFound flowId => s!"flow not found: {flowId.display}"
  | .flowDisabled flowId => s!"flow is disabled: {flowId.display}"
  | .backend reason => s!"flow queue error: {reason}"
  | .store e => e.message

/-- The jobs of a queue.  `lastId` is the number that was given last. -/
structure QueueTable where
  lastId : Int
  jobs : List QueueJob

namespace QueueTable

/-- A queue without jobs. -/
def empty : QueueTable := ⟨0, []⟩

/-- The job with an id. -/
def get (t : QueueTable) (id : QueueJobId) : Option QueueJob :=
  t.jobs.find? fun j => j.id == id

/-- Adds a job under the next number. -/
def push (t : QueueTable) (job : QueueJob) : QueueJobId × QueueTable :=
  let id : QueueJobId := ⟨t.lastId + 1⟩
  (id, ⟨t.lastId + 1, t.jobs ++ [{ job with id }]⟩)

/-- Changes the first job with a property, and returns it as it is then. -/
def changeFirst? (p : QueueJob → Bool) (change : QueueJob → QueueJob) :
    List QueueJob → Option (QueueJob × List QueueJob)
  | [] => none
  | j :: rest =>
    if p j then some (change j, change j :: rest)
    else (changeFirst? p change rest).map fun (found, rest) => (found, j :: rest)

/-- Claims the oldest job that is due. -/
def claimNext (t : QueueTable) (now : Instant) : Option QueueJob × QueueTable :=
  match changeFirst? (fun j => j.isDue now) (fun j => j.claim now) t.jobs with
  | some (job, jobs) => (some job, { t with jobs })
  | none => (none, t)

/-- Changes the job with an id. -/
def change (t : QueueTable) (id : QueueJobId) (f : QueueJob → QueueJob) :
    Except QueueError Unit × QueueTable :=
  match changeFirst? (fun j => j.id == id) f t.jobs with
  | some (_, jobs) => (.ok (), { t with jobs })
  | none => (.error (.backend s!"queue job not found: {id.display}"), t)

end QueueTable

/-- An operation of a queue with its arguments. -/
inductive QueueCall where
  | push (job : QueueJob)
  | claimNext (now : Instant)
  | complete (id : QueueJobId)
  | fail (id : QueueJobId) (attempts : Nat) (error : String)
  | reschedule (id : QueueJobId) (attempts : Nat) (error : String) (runAt : Instant)
  | get (id : QueueJobId)

namespace QueueCall

/-- What an operation returns when it is not refused. -/
def Result : QueueCall → Type
  | .push _ => QueueJobId
  | .claimNext _ => Option QueueJob
  | .complete _ => Unit
  | .fail _ _ _ => Unit
  | .reschedule _ _ _ _ => Unit
  | .get _ => Option QueueJob

/-- The name of an operation. -/
def name : QueueCall → String
  | .push _ => "push"
  | .claimNext _ => "claim_next"
  | .complete _ => "complete"
  | .fail _ _ _ => "fail"
  | .reschedule _ _ _ _ => "reschedule"
  | .get _ => "get"

end QueueCall

/-- Answers an operation at a time. -/
def QueueTable.answer (now : Instant) (t : QueueTable) :
    (call : QueueCall) → Except QueueError call.Result × QueueTable
  | .push job => let (id, t) := t.push job; (.ok id, t)
  | .claimNext at_ => let (job, t) := t.claimNext at_; (.ok job, t)
  | .complete id => t.change id fun j => j.complete now
  | .fail id attempts error => t.change id fun j => j.fail now attempts error
  | .reschedule id attempts error runAt =>
    t.change id fun j => j.reschedule now attempts error runAt
  | .get id => (.ok (t.get id), t)

end EventFlow
