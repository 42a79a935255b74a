import EventFlow.Daemon
import EventFlow.Simulation.Script

/-!
# The world of a simulation

A simulated world answers the questions of programs from tables in memory, on a
clock that moves only when everything waits.  It holds two sites: a bench, whose
parts are used one by one, and a complete daemon.  Stores and queues can be told
to refuse calls and to keep a trace of them.

A question is answered at once, or later, when a time has come, a signal has
been given or a task has ended.
-/

namespace EventFlow.Simulation

/-! ## Stores and queues -/

/-- What happens to a call of a store or a queue: it goes through, it returns
nothing, or it is refused. -/
inductive Fault (Refusal : Type) where
  | pass
  | silent
  | refused (e : Refusal)

/-- A store or a queue with the faults of its next calls, in order and by the
name of the operation, the operations that are watched, and the calls of those
with their times. -/
structure Backend (Tables Refusal : Type) where
  tables : Tables
  faults : List (String × Fault Refusal)
  watched : List String
  trace : List (Int × String)

namespace Backend

variable {Tables Refusal : Type}

/-- A store or a queue that nothing happens to. -/
def ofTables (tables : Tables) : Backend Tables Refusal := ⟨tables, [], [], []⟩

/-- Plans faults for the calls of an operation, behind those planned before. -/
def plan (b : Backend Tables Refusal) (operation : String) (faults : List (Fault Refusal)) :
    Backend Tables Refusal :=
  { b with faults := b.faults ++ faults.map fun fault => (operation, fault) }

/-- Watches operations instead of those watched before. -/
def watch (b : Backend Tables Refusal) (operations : List String) : Backend Tables Refusal :=
  { b with watched := operations }

/-- Forgets the calls noted so far. -/
def clearTrace (b : Backend Tables Refusal) : Backend Tables Refusal :=
  { b with trace := [] }

/-- Notes a call if its operation is watched. -/
def note (b : Backend Tables Refusal) (time : Int) (operation : String) :
    Backend Tables Refusal :=
  if b.watched.contains operation then { b with trace := b.trace ++ [(time, operation)] } else b

/-- The fault of the next call of an operation, and the faults that remain. -/
def takeFault (operation : String) :
    List (String × Fault Refusal) → Fault Refusal × List (String × Fault Refusal)
  | [] => (.pass, [])
  | (name, fault) :: rest =>
    if name = operation then (fault, rest)
    else
      let (found, rest) := takeFault operation rest
      (found, (name, fault) :: rest)

/-- Answers a call of an operation, given what nothing is and how the tables
answer. -/
def answer {α : Type} (b : Backend Tables Refusal) (time : Int) (operation : String) (nothing : α)
    (reach : Tables → Except Refusal α × Tables) :
    Except Refusal α × Backend Tables Refusal :=
  let (fault, faults) := takeFault operation b.faults
  let b := { b.note time operation with faults }
  match fault with
  | .pass =>
    let (result, tables) := reach b.tables
    (result, { b with tables })
  | .silent => (.ok nothing, b)
  | .refused e => (.error e, b)

end Backend

/-- A simulated store. -/
abbrev StoreBackend : Type := Backend Store StoreError

/-- A simulated queue. -/
abbrev QueueBackend : Type := Backend QueueTable QueueError

/-- What an operation of a queue returns where nothing is queued. -/
def nothingQueued : (call : QueueCall) → call.Result
  | .push job => job.id
  | .claimNext _ => none
  | .complete _ => ()
  | .fail _ _ _ => ()
  | .reschedule _ _ _ _ => ()
  | .get _ => none

/-! ## Tasks -/

/-- The sites of a world. -/
inductive Site where
  | bench
  | daemon
  deriving DecidableEq, Repr

/-- What a task waits for: a time, a signal, or the end of a task; whichever
comes first. -/
structure Wait where
  time : Option Int
  signal : Option Signal
  task : Option TaskId
  deriving DecidableEq, Repr

namespace Wait

/-- Waits for nothing. -/
def nothing : Wait := ⟨none, none, none⟩

/-- Waits for a time. -/
def forTime (time : Int) : Wait := ⟨some time, none, none⟩

end Wait

/-- An answer, at once or after a wait.  An answer after a wait depends on
whether the signal that was waited for has been given, or the task has ended
normally. -/
inductive Response (α : Type) where
  | now (answer : α)
  | later (wait : Wait) (answer : Bool → α)

/-- A task with what it waits for and how it goes on. -/
structure Thread where
  id : TaskId
  site : Site
  wait : Wait
  resume : Bool → Routine Round

/-! ## The world -/

/-- The parts of a site, with what only its own tasks see. -/
structure Host where
  parts : DaemonParts
  queue : QueueBackend
  given : List Signal
  workers : List TaskId

/-- A host without jobs and tasks. -/
def Host.ofParts (parts : DaemonParts) : Host := ⟨parts, .ofTables .empty, [], []⟩

/-- A call of a scripted rule. -/
structure RuleCall where
  rule : String
  time : Int
  context : RuleContext
  params : Bag
  request : Request

/-- A simulated world.  `elapsed` counts the milliseconds since its start,
`readings` how often the clock has been read, and `ids` the ids that have been
made.  The daemon may have a store of its own. -/
structure World where
  elapsed : Int
  readings : Nat
  ids : Nat
  lastTask : Nat
  store : StoreBackend
  ownStore : Option StoreBackend
  bench : Host
  daemon : Host
  scripts : List Script
  calls : List RuleCall
  ready : List Thread
  blocked : List Thread
  ended : List (TaskId × Bool)

namespace World

/-- A world with the given hosts and scripts, at its start. -/
def create (bench daemon : Host) (ownStore : Option StoreBackend) (scripts : List Script) :
    World where
  elapsed := 0
  readings := 0
  ids := 0
  lastTask := 0
  store := .ofTables .empty
  ownStore := ownStore
  bench := bench
  daemon := daemon
  scripts := scripts
  calls := []
  ready := []
  blocked := []
  ended := []

/-- The host of a site. -/
def host (w : World) : Site → Host
  | .bench => w.bench
  | .daemon => w.daemon

/-- Replaces the host of a site. -/
def setHost (w : World) (site : Site) (host : Host) : World :=
  match site with
  | .bench => { w with bench := host }
  | .daemon => { w with daemon := host }

/-! ## Time and ids -/

/-- The longest that anything sleeps: thirty years of 365 days. -/
def longestSleep : Duration := .ofSeconds 946080000

/-- The instant at which every simulation starts: the start of the year 2024. -/
def start : Instant := .ofMilliseconds 1704067200000

/-- The present, without reading the clock. -/
def present (w : World) : Instant :=
  start.plus (.ofMilliseconds w.elapsed)

/-- Reads the clock.  Every reading is a nanosecond later than the one before
it would be at the same time, so no two are equal. -/
def readClock (w : World) : Instant × World :=
  (w.present.plus ⟨w.readings + 1⟩, { w with readings := w.readings + 1 })

/-- The beginning of every made id. -/
def idStart : String := "01hk153x00"

/-- The length of the number in a made id. -/
def idDigits : Nat := 16

/-- The made id with a number. -/
def madeId (n : Nat) : ExecutionId :=
  ⟨idStart ++ String.ofList (Json.hexDigits idDigits n)⟩

/-- Makes an id. -/
def makeId (w : World) : ExecutionId × World :=
  (madeId (w.ids + 1), { w with ids := w.ids + 1 })

/-! ## Stores and queues -/

/-- The store that a site uses. -/
def storeOf (w : World) : Site → StoreBackend
  | .bench => w.store
  | .daemon => w.ownStore.getD w.store

/-- Replaces the store that a site uses. -/
def setStoreOf (w : World) (site : Site) (store : StoreBackend) : World :=
  match site, w.ownStore with
  | .daemon, some _ => { w with ownStore := some store }
  | _, _ => { w with store }

/-- Answers a call of the store of a site. -/
def callStore (w : World) (site : Site) (call : StoreCall) :
    Except StoreError call.Result × World :=
  let (now, w) := w.readClock
  let (result, store) := (w.storeOf site).answer w.elapsed call.name call.emptyResult
    fun tables => tables.answer now call
  (result, w.setStoreOf site store)

/-- Answers a call of the queue of a site. -/
def callQueue (w : World) (site : Site) (call : QueueCall) :
    Except QueueError call.Result × World :=
  let (now, w) := w.readClock
  let host := w.host site
  let (result, queue) := host.queue.answer w.elapsed call.name (nothingQueued call)
    fun tables => tables.answer now call
  (result, w.setHost site { host with queue })

/-- Plans faults for the shared store. -/
def planStoreFaults (w : World) (operation : String) (faults : List (Fault StoreError)) : World :=
  { w with store := w.store.plan operation faults }

/-- Plans faults for the queue of the bench. -/
def planQueueFaults (w : World) (operation : String) (faults : List (Fault QueueError)) : World :=
  { w with bench := { w.bench with queue := w.bench.queue.plan operation faults } }

/-- Watches operations of the shared store and of the queue of the bench. -/
def watch (w : World) (operations : List String) : World :=
  { w with
    store := w.store.watch operations
    bench := { w.bench with queue := w.bench.queue.watch operations } }

/-- The watched calls, those of the store first. -/
def trace (w : World) : List (Int × String) :=
  w.store.trace ++ w.bench.queue.trace

/-- Forgets the calls noted so far, of rules and of watched operations. -/
def clearLogs (w : World) : World :=
  { w with
    calls := []
    store := w.store.clearTrace
    bench := { w.bench with queue := w.bench.queue.clearTrace } }

/-! ## Rules -/

/-- Calls a scripted rule: it sleeps and replies, unless it would sleep longer
than it may. -/
def callRule (w : World) (handle : Handle) (context : RuleContext) (params : Bag)
    (request : Request) (limit : Duration) : Response (Reply request.Result) × World :=
  match w.scripts[handle.number]? with
  | none => (.now (.panicked "no such rule"), w)
  | some script =>
    let entry := script.next
    let time := entry.sleep.min longestSleep
    let w := { w with
      scripts := w.scripts.set handle.number { script with calls := script.calls + 1 }
      calls := w.calls ++ [⟨script.name, w.elapsed, context, params, request⟩] }
    let reply := entry.effect.reply context params request
    let response :=
      if time.nanoseconds ≤ 0 then .now reply
      else if time.nanoseconds ≤ limit.nanoseconds then
        .later (.forTime (w.elapsed + time.ceilMilliseconds)) fun _ => reply
      else if limit.nanoseconds ≤ 0 then .now .expired
      else .later (.forTime (w.elapsed + limit.ceilMilliseconds)) fun _ => .expired
    (response, w)

/-! ## Signals and tasks -/

/-- Has a signal been given at a site? -/
def isGiven (w : World) (site : Site) (signal : Signal) : Bool :=
  (w.host site).given.contains signal

/-- Makes the threads that wait for something ready, in the order in which they
began to wait. -/
def wakeWhere (w : World) (p : Thread → Bool) : World :=
  let (woken, blocked) := w.blocked.partition p
  { w with ready := w.ready ++ woken, blocked }

/-- Gives a signal at a site. -/
def give (w : World) (site : Site) (signal : Signal) : World :=
  if w.isGiven site signal then w
  else
    let host := w.host site
    (w.setHost site { host with given := signal :: host.given }).wakeWhere fun thread =>
      thread.site == site && thread.wait.signal == some signal

/-- How a task has ended, if it has. -/
def endOf? (w : World) (task : TaskId) : Option Bool :=
  w.ended.lookup task

/-- Ends a task. -/
def finish (w : World) (task : TaskId) (normally : Bool) : World :=
  { w with ended := (task, normally) :: w.ended }.wakeWhere fun thread =>
    thread.wait.task == some task

/-- Starts a task at a site. -/
def spawn (w : World) (site : Site) (daemon : Daemon) : TaskId × World :=
  let id : TaskId := ⟨w.lastTask + 1⟩
  let thread : Thread := ⟨id, site, .nothing, fun _ => daemon.round (w.host site).parts⟩
  (id, { w with lastTask := w.lastTask + 1, ready := w.ready ++ [thread] })

/-- Sleeps until a time, unless the signal has been given or the time has come. -/
def sleepUntil (w : World) (site : Site) (time : Int) (interrupt : Option Signal) :
    Response Bool :=
  if interrupt.any (w.isGiven site) then .now true
  else if time ≤ w.elapsed then .now false
  else .later ⟨some time, interrupt, none⟩ fun given => interrupt.isSome && given

/-- Sleeps for so long. -/
def sleep (w : World) (site : Site) (duration : Duration) (interrupt : Option Signal) :
    Response Bool :=
  w.sleepUntil site (w.elapsed + (duration.min longestSleep).ceilMilliseconds) interrupt

/-! ## Answers -/

/-- Answers a question of a program that runs at a site. -/
def answer (w : World) (site : Site) : (call : ServiceCall) → Response call.Answer × World
  | .now => let (now, w) := w.readClock; (.now now, w)
  | .elapsedMs => (.now w.elapsed, w)
  | .freshId => let (id, w) := w.makeId; (.now id, w)
  | .store call => let (result, w) := w.callStore site call; (.now result, w)
  | .queue call => let (result, w) := w.callQueue site call; (.now result, w)
  | .invoke handle context params request limit => w.callRule handle context params request limit
  | .isGiven signal => (.now (w.isGiven site signal), w)
  | .give signal => (.now (), w.give site signal)
  | .waitFor signal =>
    if w.isGiven site signal then (.now (), w)
    else (.later ⟨none, some signal, none⟩ fun _ => (), w)
  | .sleep duration interrupt => (w.sleep site duration interrupt, w)
  | .sleepUntil time interrupt => (w.sleepUntil site time interrupt, w)
  | .spawn daemon => let (id, w) := w.spawn site daemon; (.now id, w)
  | .join task =>
    match w.endOf? task with
    | some normally => (.now normally, w)
    | none => (.later ⟨none, none, some task⟩ id, w)
  | .workers => (.now (w.host site).workers, w)
  | .setWorkers tasks => (.now (), w.setHost site { w.host site with workers := tasks })

/-- What the answer after a wait depends on. -/
def flag (w : World) (site : Site) (wait : Wait) : Bool :=
  match wait.signal, wait.task with
  | some signal, _ => w.isGiven site signal
  | none, some task => (w.endOf? task).getD false
  | none, none => false

/-- Is the wait over? -/
def isOver (w : World) (site : Site) (wait : Wait) : Bool :=
  wait.time.any (· ≤ w.elapsed) || wait.signal.any (w.isGiven site) ||
    wait.task.any fun task => (w.endOf? task).isSome

end World

end EventFlow.Simulation
