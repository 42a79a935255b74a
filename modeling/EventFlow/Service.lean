import EventFlow.Program
import EventFlow.Queue.Table
import EventFlow.Rule.Basic
import EventFlow.Store.Call

/-!
# The services of a daemon

What the parts of a daemon ask of their surroundings: the time, fresh ids, the
store and the queue, rules outside of the library, waiting, and other tasks.
-/

namespace EventFlow

/-- What tasks tell each other by: each signal is given once and stays given. -/
inductive Signal where
  | workersStop
  | pollerStop
  deriving DecidableEq, Repr

/-- A task that runs beside others, with what it remembers from one round to the
next: a worker how long it waits when it next finds nothing, the poller the
millisecond at which the next tick is due. -/
inductive Daemon where
  | worker (idle : Duration)
  | poller (deadline : Int)
  | supervisor
  | alarm (signal : Signal) (delay : Duration)
  deriving DecidableEq, Repr

/-- The number of a task. -/
structure TaskId where
  value : Nat
  deriving DecidableEq, Repr

/-- A question to the surroundings. -/
inductive ServiceCall where
  | now
  | elapsedMs
  | freshId
  | store (call : StoreCall)
  | queue (call : QueueCall)
  | invoke (handle : Handle) (context : RuleContext) (params : Bag) (request : Request)
      (limit : Duration)
  | isGiven (signal : Signal)
  | give (signal : Signal)
  | waitFor (signal : Signal)
  | sleep (duration : Duration) (interrupt : Option Signal)
  | sleepUntil (deadlineMs : Int) (interrupt : Option Signal)
  | spawn (daemon : Daemon)
  | join (task : TaskId)
  | workers
  | setWorkers (tasks : List TaskId)

/-- The answer to a question: for a sleep whether it was interrupted, for a join
whether the task ended normally. -/
def ServiceCall.Answer : ServiceCall → Type
  | .now => Instant
  | .elapsedMs => Int
  | .freshId => ExecutionId
  | .store call => Except StoreError call.Result
  | .queue call => Except QueueError call.Result
  | .invoke _ _ _ request _ => Reply request.Result
  | .isGiven _ => Bool
  | .give _ => Unit
  | .waitFor _ => Unit
  | .sleep _ _ => Bool
  | .sleepUntil _ _ => Bool
  | .spawn _ => TaskId
  | .join _ => Bool
  | .workers => List TaskId
  | .setWorkers _ => Unit

/-- The questions of a daemon. -/
def service : Interface := ⟨ServiceCall, ServiceCall.Answer⟩

/-- A program of a daemon. -/
abbrev Routine (α : Type) : Type := Program service α

namespace Service

/-- Reads the clock. -/
def now : Routine Instant := Program.question (I := service) .now

/-- Reads the milliseconds since the start. -/
def elapsedMs : Routine Int := Program.question (I := service) .elapsedMs

/-- Makes an id that no execution has had. -/
def freshId : Routine ExecutionId := Program.question (I := service) .freshId

/-- Calls the store. -/
def store (call : StoreCall) : Routine (Except StoreError call.Result) :=
  Program.question (I := service) (.store call)

/-- Calls the queue. -/
def queue (call : QueueCall) : Routine (Except QueueError call.Result) :=
  Program.question (I := service) (.queue call)

/-- Calls a rule outside of the library. -/
def invoke (handle : Handle) (context : RuleContext) (params : Bag) (request : Request)
    (limit : Duration) : Routine (Reply request.Result) :=
  Program.question (I := service) (.invoke handle context params request limit)

/-- Has the signal been given? -/
def isGiven (signal : Signal) : Routine Bool := Program.question (I := service) (.isGiven signal)

/-- Gives the signal. -/
def give (signal : Signal) : Routine Unit := Program.question (I := service) (.give signal)

/-- Waits until the signal is given. -/
def waitFor (signal : Signal) : Routine Unit := Program.question (I := service) (.waitFor signal)

/-- Sleeps, unless a signal interrupts it; the answer tells whether it did. -/
def sleep (duration : Duration) (interrupt : Option Signal) : Routine Bool :=
  Program.question (I := service) (.sleep duration interrupt)

/-- Sleeps until a millisecond since the start, unless a signal interrupts it; the
answer tells whether it did. -/
def sleepUntil (deadlineMs : Int) (interrupt : Option Signal) : Routine Bool :=
  Program.question (I := service) (.sleepUntil deadlineMs interrupt)

/-- Starts a task. -/
def spawn (daemon : Daemon) : Routine TaskId := Program.question (I := service) (.spawn daemon)

/-- Waits for a task to end; the answer tells whether it ended normally. -/
def join (task : TaskId) : Routine Bool := Program.question (I := service) (.join task)

/-- The tasks of the workers that have been started. -/
def workers : Routine (List TaskId) := Program.question (I := service) .workers

/-- Notes the tasks of the workers. -/
def setWorkers (tasks : List TaskId) : Routine Unit :=
  Program.question (I := service) (.setWorkers tasks)

end Service

end EventFlow
