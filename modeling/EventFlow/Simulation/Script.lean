import EventFlow.Rule.Registry
import EventFlow.Service

/-!
# Scripted rules

In a simulation the rules outside of the library are scripts: lists of what a
rule does when it is called for the first time, for the second time and so on.
The last entry goes for all later calls.
-/

namespace EventFlow

/-- What a scripted rule does once it has slept. -/
inductive ScriptEffect where
  | fails (reason : String)
  | unsupported (operation : String)
  | panics (message : String)
  | returns (result : Bag)
  | brings (result : PollResult)
  | returnsVariables
  | returnsContext
  | returnsParams

/-- One entry of a script. -/
structure ScriptEntry where
  sleep : Duration
  effect : ScriptEffect

/-- The entry that counts where a script has none. -/
def ScriptEntry.default : ScriptEntry := ⟨.zero, .returnsParams⟩

/-- A script under the name of its rule, with the number of calls so far. -/
structure Script where
  name : String
  entries : List ScriptEntry
  calls : Nat

/-- The entry for the next call. -/
def Script.next (script : Script) : ScriptEntry :=
  (script.entries[min script.calls (script.entries.length - 1)]?).getD .default

/-- For whom a rule is called, as variables. -/
def RuleContext.vars (context : RuleContext) : Bag :=
  .ofList [("flow_id", .ofInt context.flowId.value), ("uid", .string context.uid),
    ("topic", .string context.topic), ("timeout_secs", .ofInt context.timeout.wholeSeconds)]

/-- The variables of a request. -/
def Request.vars : Request → Bag
  | .extract payload => payload
  | .poll state => state
  | .run vars => vars

namespace ScriptEffect

/-- The variables that an effect returns. -/
def result (context : RuleContext) (params : Bag) (request : Request) : ScriptEffect → Bag
  | .returns result => result
  | .returnsVariables => [("vars", .object request.vars)]
  | .returnsContext => [("ctx", .object context.vars)]
  | .returnsParams => params
  | _ => []

/-- What a poll with the effect brings. -/
def pollResult : ScriptEffect → PollResult
  | .brings result => result
  | _ => .nothing

/-- What an effect returns for a request. -/
def answer (context : RuleContext) (params : Bag) (effect : ScriptEffect) :
    (request : Request) → request.Result
  | .extract payload => effect.result context params (.extract payload)
  | .poll _ => effect.pollResult
  | .run vars => effect.result context params (.run vars)

/-- What comes of a call with the effect. -/
def reply (context : RuleContext) (params : Bag) (request : Request) :
    ScriptEffect → Reply request.Result
  | .fails reason => .returned (.error (.failed reason))
  | .unsupported operation => .returned (.error (.unsupported operation))
  | .panics message => .panicked message
  | effect => .returned (.ok (effect.answer context params request))

end ScriptEffect

/-! ## Bots of scripted rules -/

/-- How a scripted trigger checks its parameters. -/
inductive ScriptedCheck where
  | accepts
  | declares (specs : List ParamSpec)
  | fails (reason : String)

/-- The check as a function. -/
def ScriptedCheck.apply (params : Bag) : ScriptedCheck → Except RuleError Unit
  | .accepts => .ok ()
  | .declares specs => checkDeclared specs params
  | .fails reason => .error (.failed reason)

/-- A trigger with scripts in place of what all triggers do. -/
structure ScriptedTrigger where
  rule : TriggerRule
  extraction : Option (List ScriptEntry)
  polling : Option (List ScriptEntry)

/-- An action with a script in place of returning its parameters. -/
structure ScriptedAction where
  rule : ActionRule
  effect : Option (List ScriptEntry)

/-- A bot of scripted rules. -/
structure ScriptedBot where
  name : String
  triggers : List ScriptedTrigger
  actions : List ScriptedAction

/-- A computation that adds scripts to those of a simulation. -/
abbrev Staging (α : Type) : Type := StateM (List Script) α

namespace Staging

/-- Adds a script and makes it a behaviour; without one the behaviour stays. -/
def behaviour {Argument Result : Type} (name : String) (usual : Behaviour Argument Result) :
    Option (List ScriptEntry) → Staging (Behaviour Argument Result)
  | none => pure usual
  | some entries => fun scripts => (.external ⟨scripts.length⟩, scripts ++ [⟨name, entries, 0⟩])

end Staging

/-- The name under which the calls of a rule are logged. -/
def ruleName (bot rule : String) : String :=
  bot ++ "/" ++ rule

namespace ScriptedTrigger

/-- The trigger with its scripts added to a simulation. -/
def stage (trigger : ScriptedTrigger) (bot : String) : Staging TriggerRule := do
  let name := ruleName bot trigger.rule.id
  let extraction ← Staging.behaviour name trigger.rule.extraction trigger.extraction
  let polling ← Staging.behaviour name trigger.rule.polling trigger.polling
  return { trigger.rule with extraction, polling }

end ScriptedTrigger

namespace ScriptedAction

/-- An action that returns its parameters. -/
def returnParams (id title description : String) (inputs : List ParamSpec) : ActionRule where
  id := id
  title := title
  description := description
  inputs := inputs
  effect := .immediate fun _ params _ => .returned (.ok params)

/-- The action with its script added to a simulation. -/
def stage (action : ScriptedAction) (bot : String) : Staging ActionRule := do
  let effect ← Staging.behaviour (ruleName bot action.rule.id) action.rule.effect action.effect
  return { action.rule with effect }

end ScriptedAction

/-- The bot with the scripts of its rules added to a simulation. -/
def ScriptedBot.stage (bot : ScriptedBot) : Staging Bot := do
  let triggers ← bot.triggers.mapM (·.stage bot.name)
  let actions ← bot.actions.mapM (·.stage bot.name)
  return ⟨bot.name, triggers, actions⟩

end EventFlow
