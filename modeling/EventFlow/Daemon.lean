import EventFlow.Dispatcher
import EventFlow.Poller
import EventFlow.Rule.Dev
import EventFlow.Seed

/-!
# The daemon

A daemon is an engine with a queue, a poller and a dispatcher over one store and
one registry.  It starts its workers and its poller, waits to be told to stop,
and stops the poller and then the workers.
-/

namespace EventFlow

/-- A daemon with its parts. -/
structure DaemonParts where
  settings : Settings
  queue : QueueManager
  poller : Poller
  dispatcher : Dispatcher

namespace DaemonParts

/-- The parts of a daemon with given settings and rules. -/
def assemble (settings : Settings) (registry : Registry) : DaemonParts :=
  let engine := Engine.create registry settings.engine
  let queue : QueueManager := ⟨settings.queueEnabled, engine, settings.queue, .default⟩
  let poller : Poller := ⟨registry, queue, settings.poller, .default, settings.engine.nodeTimeout⟩
  ⟨settings, queue, poller, ⟨registry, queue⟩⟩

/-- Loads the seed file of the settings, if they name one, given how to read a file. -/
def loadSeed (parts : DaemonParts) (contents : String → Option String) :
    Routine (Except SeedError (List FlowId)) := do
  match parts.settings.seedFile with
  | none => return .ok []
  | some path => Seed.load path (contents path)

/-- Runs the workers and the poller until the stop signal of the poller is given. -/
def run (parts : DaemonParts) : Routine Unit := do
  parts.queue.start
  let poller ← if parts.settings.pollerEnabled then some <$> parts.poller.start else pure none
  Service.waitFor .pollerStop
  match poller with
  | some task =>
    let _ ← Service.join task
    QueueManager.stop
  | none => QueueManager.stop

/-- Runs the daemon of a site for so long, and tells whether it ends normally. -/
def runFor (duration : Duration) : Routine Bool := do
  let task ← Service.spawn .supervisor
  let _ ← Service.sleep duration none
  Service.give .pollerStop
  Service.join task

end DaemonParts

/-- How a round of a task ends: there is another one, the task has ended, or it
has broken down. -/
inductive Round where
  | next (daemon : Daemon)
  | ended
  | broken (message : String)

/-- One round of a task of a daemon. -/
def Daemon.round (parts : DaemonParts) : Daemon → Routine Round
  | .worker idle => do
    match ← parts.queue.workRound idle with
    | some idle => return .next (.worker idle)
    | none => return .ended
  | .poller deadline => do
    match ← parts.poller.round deadline with
    | .ok (some deadline) => return .next (.poller deadline)
    | .ok none => return .ended
    | .error message => return .broken message
  | .supervisor => do
    parts.run
    return .ended
  | .alarm signal delay => do
    let _ ← Service.sleep delay none
    Service.give signal
    return .ended

end EventFlow
