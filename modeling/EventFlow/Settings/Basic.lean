import EventFlow.Time.Basic

/-!
# Settings

The settings of the parts of a daemon: how deep and how long a flow may run, how
the workers of the queue wait, how often triggers are polled.
-/

namespace EventFlow

/-- The limits of the engine.  A depth of zero means the default. -/
structure EngineConfig where
  maxDepth : Nat
  nodeTimeoutSecs : Nat
  deriving DecidableEq, Repr

namespace EngineConfig

/-- The depth of a walk unless another is set. -/
def defaultMaxDepth : Nat := 64

/-- The limits unless others are set. -/
def default : EngineConfig := ⟨defaultMaxDepth, 120⟩

/-- The depth that counts. -/
def effectiveMaxDepth (config : EngineConfig) : Nat :=
  if config.maxDepth = 0 then defaultMaxDepth else config.maxDepth

/-- How long a node may take. -/
def nodeTimeout (config : EngineConfig) : Duration :=
  .ofSeconds config.nodeTimeoutSecs

end EngineConfig

/-- The settings of the workers: how many there are, how often a job is tried,
and how long a worker waits when the queue is empty or fails. -/
structure QueueConfig where
  workers : Nat
  maxAttempts : Nat
  idleBackoffMs : Nat
  maxIdleBackoffMs : Nat
  claimErrorBackoffMs : Nat
  deriving DecidableEq, Repr

/-- The settings of the workers unless others are set. -/
def QueueConfig.default : QueueConfig := ⟨2, 3, 500, 5000, 1000⟩

/-- The settings of the poller: the seconds between ticks, and between polls of
a trigger that does not say otherwise. -/
structure PollerConfig where
  intervalSecs : Nat
  defaultPollIntervalSecs : Int
  deriving DecidableEq, Repr

/-- The settings of the poller unless others are set. -/
def PollerConfig.default : PollerConfig := ⟨15, 60⟩

/-- The settings of a daemon. -/
structure Settings where
  engine : EngineConfig
  queue : QueueConfig
  queueEnabled : Bool
  poller : PollerConfig
  pollerEnabled : Bool
  seedFile : Option String
  deriving DecidableEq, Repr

/-- The settings of a daemon unless others are set. -/
def Settings.default : Settings := ⟨.default, .default, true, .default, true, none⟩

end EventFlow
