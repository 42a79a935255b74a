import EventFlow.Settings.Basic
import EventFlow.Settings.Path

/-!
# Settings from environment variables

A variable sets a field when its name, in any case, is a prefix followed by the
path to the field.  The fields of a group may be set by name or, as elements of
an array, by position.  Variables that name no field are ignored.
-/

namespace EventFlow

open EventFlow.Text

/-- A variable that cannot be converted to what its field holds, or that stands
for more or less than a field. -/
structure SettingsError where
  field : String
  deriving DecidableEq, Repr

namespace SettingTree

/-- What the names of variables start with, in lower case. -/
def nameStart : String := "flowbot_"

/-- A character in lower case, where that is ASCII; besides the letters of ASCII
the Kelvin sign has such a lower case. -/
def lowerChar (c : Char) : Char :=
  if c = '\u212A' then 'k' else c.toLower

/-- The path of a variable, if its name has the form of one. -/
def path? (name : String) : Option (List PathStep) :=
  let cs := name.toList.map lowerChar
  let start := nameStart.toList
  if start.isPrefixOf cs then PathStep.readPath? (cs.drop start.length) else none

/-- The settings that some variables make, the later ones over the earlier. -/
def ofVariables (vars : List (String × String)) : SettingTree :=
  vars.foldl (fun tree (key, text) =>
    match path? key with
    | some path => tree.put (.ofText text) path
    | none => tree) (.table [])

/-- Reads a field of a group, or takes its default. -/
def field {α : Type} (group : SettingTree) (position : Nat) (name : String)
    (convert : EnvironmentValue → Option α) (default : α) : Except SettingsError α :=
  match group.field? position name with
  | some none => .ok default
  | some (some (.value v)) =>
    match convert v with
    | some a => .ok a
    | none => .error ⟨name⟩
  | _ => .error ⟨name⟩

/-- The group of fields with a name, which may be empty. -/
def group (root : SettingTree) (position : Nat) (name : String) :
    Except SettingsError SettingTree :=
  match root.field? position name with
  | some none => .ok (.table [])
  | some (some (.table entries)) => .ok (.table entries)
  | some (some (.array size elements)) => .ok (.array size elements)
  | _ => .error ⟨name⟩

/-- Reads a natural number of a range. -/
def natural (group : SettingTree) (position : Nat) (name : String) (range : Range)
    (default : Nat) : Except SettingsError Nat :=
  group.field position name (fun v => (v.toInteger? .unsigned64 range).map Int.toNat) default

/-- Reads a truth value. -/
def bool (group : SettingTree) (position : Nat) (name : String) (default : Bool) :
    Except SettingsError Bool :=
  group.field position name EnvironmentValue.toBool? default

end SettingTree

namespace Settings

/-- The settings that environment variables make. -/
def ofEnvironment (vars : List (String × String)) : Except SettingsError Settings := do
  let d := Settings.default
  let root := SettingTree.ofVariables vars
  let group ← root.group 0 "engine"
  let engine : EngineConfig := {
    maxDepth := ← group.natural 0 "max_depth" .unsigned64 d.engine.maxDepth
    nodeTimeoutSecs := ← group.natural 1 "node_timeout_secs" .unsigned64 d.engine.nodeTimeoutSecs }
  let group ← root.group 1 "queue"
  let queue : QueueConfig := {
    workers := ← group.natural 0 "workers" .unsigned64 d.queue.workers
    maxAttempts := ← group.natural 1 "max_attempts" .unsigned32 d.queue.maxAttempts
    idleBackoffMs := ← group.natural 2 "idle_backoff_ms" .unsigned64 d.queue.idleBackoffMs
    maxIdleBackoffMs :=
      ← group.natural 3 "max_idle_backoff_ms" .unsigned64 d.queue.maxIdleBackoffMs
    claimErrorBackoffMs :=
      ← group.natural 4 "claim_error_backoff_ms" .unsigned64 d.queue.claimErrorBackoffMs }
  let queueEnabled ← root.bool 2 "queue_enabled" d.queueEnabled
  let group ← root.group 3 "poller"
  let poller : PollerConfig := {
    intervalSecs := ← group.natural 0 "interval_secs" .unsigned64 d.poller.intervalSecs
    defaultPollIntervalSecs :=
      ← group.field 1 "default_poll_interval_secs"
        (EnvironmentValue.toInteger? .signed64 .signed64) d.poller.defaultPollIntervalSecs }
  let pollerEnabled ← root.bool 4 "poller_enabled" d.pollerEnabled
  let seedFile ← root.field 5 "seed_file" (fun v => some (some v.toText)) d.seedFile
  return { engine, queue, queueEnabled, poller, pollerEnabled, seedFile }

end Settings

end EventFlow
