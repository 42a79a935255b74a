import EventFlow.Rule.Basic

/-!
# The registry of bots

Rules are found by the name of their bot and their own id.  The bot `system`
stands for the bot `dev` unless it is registered itself.
-/

namespace EventFlow

/-- A bot with its rules. -/
structure Bot where
  name : String
  triggers : List TriggerRule
  actions : List ActionRule

/-- Why a rule is not found. -/
inductive RegistryError where
  | botNotFound (bot : String)
  | triggerNotFound (bot ruleId : String)
  | actionNotFound (bot ruleId : String)
  deriving DecidableEq, Repr

/-- The error in words. -/
def RegistryError.message : RegistryError → String
  | .botNotFound bot => s!"bot not found: {bot}"
  | .triggerNotFound bot ruleId => s!"trigger rule not found: {bot}/{ruleId}"
  | .actionNotFound bot ruleId => s!"action rule not found: {bot}/{ruleId}"

namespace Bot

/-- The name of the bot that bare trigger types belong to. -/
def devName : String := "dev"

/-- The name that stands for the bot of bare trigger types. -/
def systemName : String := "system"

/-- What a catalogue says of the bot's rules, triggers first. -/
def rules (bot : Bot) : List RuleInfo :=
  bot.triggers.map TriggerRule.info ++ bot.actions.map ActionRule.info

/-- The first trigger with an id. -/
def trigger? (bot : Bot) (ruleId : String) : Option TriggerRule :=
  bot.triggers.find? fun rule => rule.id == ruleId

/-- The first action with an id. -/
def action? (bot : Bot) (ruleId : String) : Option ActionRule :=
  bot.actions.find? fun rule => rule.id == ruleId

/-- The bot with the ids of its rules, in one line. -/
def summary (bot : Bot) : String :=
  "Integration \x7b name: " ++ Text.quoted bot.name ++
    ", triggers: " ++ Text.quotedList (bot.triggers.map (·.id)) ++
    ", actions: " ++ Text.quotedList (bot.actions.map (·.id)) ++ " \x7d"

end Bot

/-- The registered bots, sorted by name, each name once. -/
structure Registry where
  bots : List Bot

namespace Registry

/-- No bots. -/
def empty : Registry := ⟨[]⟩

/-- Puts a bot in its place, instead of one with the same name. -/
def insertBot (bot : Bot) : List Bot → List Bot
  | [] => [bot]
  | b :: rest =>
    if bot.name = b.name then bot :: rest
    else if bot.name < b.name then bot :: b :: rest
    else b :: insertBot bot rest

/-- Registers a bot. -/
def register (registry : Registry) (bot : Bot) : Registry :=
  ⟨insertBot bot registry.bots⟩

/-- Registers some bots in order. -/
def ofList (bots : List Bot) : Registry :=
  bots.foldl register empty

/-- The names of the bots. -/
def names (registry : Registry) : List String :=
  registry.bots.map (·.name)

/-- The bot that is registered under a name. -/
def named? (registry : Registry) (name : String) : Option Bot :=
  registry.bots.find? fun bot => bot.name == name

/-- The bot that a name stands for. -/
def get? (registry : Registry) (name : String) : Option Bot :=
  match registry.named? name with
  | some bot => some bot
  | none => if name = Bot.systemName then registry.named? Bot.devName else none

/-- Finds a trigger. -/
def findTrigger (registry : Registry) (bot ruleId : String) : Except RegistryError TriggerRule :=
  match registry.get? bot with
  | none => .error (.botNotFound bot)
  | some b =>
    match b.trigger? ruleId with
    | none => .error (.triggerNotFound bot ruleId)
    | some rule => .ok rule

/-- Finds an action. -/
def findAction (registry : Registry) (bot ruleId : String) : Except RegistryError ActionRule :=
  match registry.get? bot with
  | none => .error (.botNotFound bot)
  | some b =>
    match b.action? ruleId with
    | none => .error (.actionNotFound bot ruleId)
    | some rule => .ok rule

end Registry

end EventFlow
