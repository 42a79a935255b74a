import EventFlow.Ingredient
import EventFlow.Id
import EventFlow.Param
import EventFlow.Time.Basic

/-!
# Rules

Bots contribute what flows can do as rules.  A trigger rule turns an incoming
event into variables and may fetch events itself; an action rule has an effect
and returns variables.  What a rule does when it is called is either a function
of its arguments, which takes no time, or the behaviour of something outside
that is named by a handle.
-/

namespace EventFlow

/-- How the events of a trigger arrive. -/
inductive TriggerMode where
  | webhook
  | poll
  | manual
  deriving DecidableEq, Repr

/-- The name of the mode in records. -/
def TriggerMode.name : TriggerMode → String
  | .webhook => "webhook"
  | .poll => "poll"
  | .manual => "manual"

/-- What a poll brings: events, and the state to keep if it is a new one. -/
structure PollResult where
  events : List Bag
  state : Option Bag

/-- A poll that brings nothing. -/
def PollResult.nothing : PollResult := ⟨[], none⟩

/-- For whom a rule is called, and how long it may take. -/
structure RuleContext where
  flowId : FlowId
  uid : String
  topic : String
  timeout : Duration
  deriving DecidableEq, Repr

/-- How long a rule may take unless something else is said. -/
def RuleContext.defaultTimeout : Duration := .ofSeconds 120

/-- What a rule reports when it does not do what it is asked. -/
inductive RuleError where
  | params (e : ParamError)
  | ingredient (e : IngredientError)
  | unsupported (operation : String)
  | failed (reason : String)
  deriving DecidableEq, Repr

/-- The error in words. -/
def RuleError.message : RuleError → String
  | .params e => e.message
  | .ingredient e => e.message
  | .unsupported operation => s!"operation not supported: {operation}"
  | .failed reason => reason

/-- The number by which a behaviour outside of the library is called. -/
structure Handle where
  number : Nat
  deriving DecidableEq, Repr

/-- What a rule can be called for: taking variables out of an event, polling
with the state of the last poll, or acting on variables. -/
inductive Request where
  | extract (payload : Bag)
  | poll (state : Bag)
  | run (vars : Bag)

/-- What an answer to a request holds. -/
def Request.Result : Request → Type
  | .extract _ => Bag
  | .poll _ => PollResult
  | .run _ => Bag

/-- What comes of calling a rule: it returns, it breaks down with a message, or
it takes longer than it may. -/
inductive Reply (α : Type) where
  | returned (answer : Except RuleError α)
  | panicked (message : String)
  | expired

/-- What a rule does when it is called. -/
inductive Behaviour (Argument Result : Type) where
  | immediate (answer : RuleContext → Bag → Argument → Reply Result)
  | external (handle : Handle)

/-- A trigger of a bot. -/
structure TriggerRule where
  id : String
  title : String
  description : String
  mode : TriggerMode
  ingredients : List Ingredient
  check : Bag → Except RuleError Unit
  extraction : Behaviour Bag Bag
  polling : Behaviour Bag PollResult

/-- Checks parameters against declarations. -/
def checkDeclared (inputs : List ParamSpec) (params : Bag) : Except RuleError Unit :=
  (ParamSpec.validate params inputs).mapError .params

/-- An action of a bot.  Unless it has a check of its own, rendered parameters are checked against
its declared inputs. -/
structure ActionRule where
  id : String
  title : String
  description : String
  inputs : List ParamSpec
  validate : Bag → Except RuleError Unit := checkDeclared inputs
  effect : Behaviour Bag Bag

namespace TriggerRule

/-- Takes the declared ingredients out of an event, or the whole event when none
are declared. -/
def extractDeclared (ingredients : List Ingredient) : Behaviour Bag Bag :=
  .immediate fun _ _ payload =>
    if ingredients = [] then .returned (.ok payload)
    else .returned ((Ingredient.extract payload none ingredients).mapError .ingredient)

/-- The polling of a trigger that cannot be polled. -/
def cannotPoll : Behaviour Bag PollResult :=
  .immediate fun _ _ _ => .returned (.error (.unsupported "poll"))

/-- A trigger that does what all triggers do unless something else is said. -/
def create (id : String) (ingredients : List Ingredient) : TriggerRule where
  id := id
  title := id
  description := ""
  mode := .manual
  ingredients := ingredients
  check := fun _ => .ok ()
  extraction := extractDeclared ingredients
  polling := cannotPoll

end TriggerRule

/-! ## Descriptions -/

/-- The kind of a rule. -/
inductive RuleKind where
  | trigger
  | action
  deriving DecidableEq, Repr

/-- The name of the kind in records. -/
def RuleKind.name : RuleKind → String
  | .trigger => "trigger"
  | .action => "action"

/-- What a catalogue says of a rule. -/
structure RuleInfo where
  id : String
  kind : RuleKind
  title : String
  description : String
  mode : Option TriggerMode
  ingredients : List Ingredient
  inputs : List ParamSpec
  deriving DecidableEq, Repr

/-- What a catalogue says of a trigger. -/
def TriggerRule.info (rule : TriggerRule) : RuleInfo :=
  ⟨rule.id, .trigger, rule.title, rule.description, some rule.mode, rule.ingredients, []⟩

/-- What a catalogue says of an action. -/
def ActionRule.info (rule : ActionRule) : RuleInfo :=
  ⟨rule.id, .action, rule.title, rule.description, none, [], rule.inputs⟩

end EventFlow
