import EventFlow.Record.Flow
import EventFlow.Settings.Basic

/-!
# Records of settings

The settings of a daemon and of its parts as JSON objects.  Every field has a
default.
-/

namespace EventFlow

namespace EngineConfig

/-- The fields of the engine's limits. -/
def fields : Fields EngineConfig :=
  EngineConfig.mk <$> .optional "max_depth" (Decoder.natural .unsigned64) default.maxDepth <*>
    .optional "node_timeout_secs" (Decoder.natural .unsigned64) default.nodeTimeoutSecs

/-- Reads the engine's limits. -/
def decoder : Decoder EngineConfig := fields.decoder

/-- The record of the engine's limits. -/
def toJson (c : EngineConfig) : Json :=
  .record [("max_depth", .ofInt c.maxDepth), ("node_timeout_secs", .ofInt c.nodeTimeoutSecs)]

end EngineConfig

namespace QueueConfig

/-- The fields of the workers' settings. -/
def fields : Fields QueueConfig :=
  QueueConfig.mk <$> .optional "workers" (Decoder.natural .unsigned64) default.workers <*>
    .optional "max_attempts" (Decoder.natural .unsigned32) default.maxAttempts <*>
    .optional "idle_backoff_ms" (Decoder.natural .unsigned64) default.idleBackoffMs <*>
    .optional "max_idle_backoff_ms" (Decoder.natural .unsigned64) default.maxIdleBackoffMs <*>
    .optional "claim_error_backoff_ms" (Decoder.natural .unsigned64) default.claimErrorBackoffMs

/-- Reads the workers' settings. -/
def decoder : Decoder QueueConfig := fields.decoder

/-- The record of the workers' settings. -/
def toJson (c : QueueConfig) : Json :=
  .record [("workers", .ofInt c.workers), ("max_attempts", .ofInt c.maxAttempts),
    ("idle_backoff_ms", .ofInt c.idleBackoffMs),
    ("max_idle_backoff_ms", .ofInt c.maxIdleBackoffMs),
    ("claim_error_backoff_ms", .ofInt c.claimErrorBackoffMs)]

end QueueConfig

namespace PollerConfig

/-- The fields of the poller's settings. -/
def fields : Fields PollerConfig :=
  PollerConfig.mk <$>
    .optional "interval_secs" (Decoder.natural .unsigned64) default.intervalSecs <*>
    .optional "default_poll_interval_secs" (Decoder.integer .signed64)
      default.defaultPollIntervalSecs

/-- Reads the poller's settings. -/
def decoder : Decoder PollerConfig := fields.decoder

/-- The record of the poller's settings. -/
def toJson (c : PollerConfig) : Json :=
  .record [("interval_secs", .ofInt c.intervalSecs),
    ("default_poll_interval_secs", .ofInt c.defaultPollIntervalSecs)]

end PollerConfig

namespace Settings

/-- The fields of a daemon's settings. -/
def fields : Fields Settings :=
  Settings.mk <$> .optional "engine" EngineConfig.decoder .default <*>
    .optional "queue" QueueConfig.decoder .default <*>
    .optional "queue_enabled" Decoder.bool true <*>
    .optional "poller" PollerConfig.decoder .default <*>
    .optional "poller_enabled" Decoder.bool true <*>
    .nullableOptional "seed_file" Decoder.string

/-- Reads a daemon's settings. -/
def decoder : Decoder Settings := fields.decoder

/-- The record of a daemon's settings, with the limits of the engine that count. -/
def toJson (s : Settings) : Json :=
  .record [("engine", s.engine.toJson), ("effective_max_depth", .ofInt s.engine.effectiveMaxDepth),
    ("node_timeout_secs", .ofInt s.engine.nodeTimeout.wholeSeconds), ("queue", s.queue.toJson),
    ("queue_enabled", .bool s.queueEnabled), ("poller", s.poller.toJson),
    ("poller_enabled", .bool s.pollerEnabled), ("seed_file", .orNull .string s.seedFile)]

end Settings

end EventFlow
