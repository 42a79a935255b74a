import EventFlow.Record.Rule
import EventFlow.Simulation.World

/-!
# Records of scripts

Scripted bots are read off JSON objects, and the calls of their rules are
written as such.  A script is one entry or a list of entries; an entry may sleep
and then does the first thing that it names.
-/

namespace EventFlow

/-- One value or a list of them. -/
def Decoder.oneOrMore {α : Type} (decoder : Decoder α) : Decoder (List α)
  | s, .array items ending => Decoder.list decoder s (.array items ending)
  | s, document => (decoder s document).map fun a => [a]

namespace ScriptEffect

/-- What a rule breaks down with that says so in a fixed text. -/
def fixedPanic : ScriptEffect := .panics "static text"

/-- What a rule breaks down with that gives no text. -/
def silentPanic : ScriptEffect := .panics "unknown panic"

/-- An effect under a name, told by the mere presence of the name. -/
def named (name : String) (effect : ScriptEffect) : Fields (Option ScriptEffect) :=
  (fun value => value.map fun _ => effect) <$> .nullableOptional name Decoder.json

/-- The fields of an effect that returns nothing. -/
def failure : Fields (Option ScriptEffect) :=
  (fun fails unsupported panics fixed silent =>
    fails.map ScriptEffect.fails <|> unsupported.map ScriptEffect.unsupported <|>
      panics.map ScriptEffect.panics <|> fixed <|> silent) <$>
    .nullableOptional "fail" Decoder.string <*>
    .nullableOptional "unsupported" Decoder.string <*>
    .nullableOptional "panic" Decoder.string <*>
    named "panic_str" fixedPanic <*> named "panic_any" silentPanic

/-- The field of what an effect returns. -/
def returned (decoder : Decoder ScriptEffect) : Fields (Option ScriptEffect) :=
  .nullableOptional "return" decoder

/-- The fields of an effect, given those of what it returns and what happens if
nothing is named. -/
def fields (returned : Fields (Option ScriptEffect)) (usual : ScriptEffect) :
    Fields ScriptEffect :=
  (fun failure returned => (failure <|> returned).getD usual) <$> failure <*> returned

end ScriptEffect

/-- The fields of an entry. -/
def ScriptEntry.fields (effect : Fields ScriptEffect) : Fields ScriptEntry :=
  (fun sleep effect => ⟨.ofMilliseconds sleep, effect⟩) <$>
    .optional "sleep_ms" (Decoder.integer .signed64) 0 <*> effect

namespace Script

/-- Reads a script whose entries have an effect. -/
def decoder (effect : Fields ScriptEffect) : Decoder (List ScriptEntry) :=
  .oneOrMore (ScriptEntry.fields effect).decoder

/-- Reads variables that are returned. -/
def returnedBag : Decoder ScriptEffect := fun s document =>
  (Decoder.bag s document).map .returns

/-- Reads what a poll brings. -/
def returnedPoll : Decoder ScriptEffect := fun s document =>
  (PollResult.decoder s document).map .brings

/-- Reads the script of an action, which may also return what it is given. -/
def ofAction : Decoder (List ScriptEntry) :=
  let given := (fun result vars context => result <|> vars <|> context) <$>
    ScriptEffect.returned returnedBag <*> ScriptEffect.named "vars" .returnsVariables <*>
    ScriptEffect.named "ctx" .returnsContext
  decoder (ScriptEffect.fields given .returnsParams)

/-- Reads the script of an extraction, which returns no variables unless it says
which. -/
def ofExtraction : Decoder (List ScriptEntry) :=
  decoder (ScriptEffect.fields (ScriptEffect.returned returnedBag) (.returns []))

/-- Reads the script of a poll. -/
def ofPolling : Decoder (List ScriptEntry) :=
  decoder (ScriptEffect.fields (ScriptEffect.returned returnedPoll) (.brings .nothing))

end Script

/-- Reads how a trigger checks its parameters. -/
def ScriptedCheck.decoder : Decoder ScriptedCheck :=
  Fields.decoder <| (fun reason specs => reason.elim (.declares specs) .fails) <$>
    .nullableOptional "fail" Decoder.string <*>
    .optional "specs" (Decoder.list ParamSpec.decoder) []

namespace ScriptedTrigger

/-- A trigger with at most one script: that of its extraction, or else that of
its polling. -/
def ofParts (id : String) (title description : Option String) (mode : TriggerMode)
    (ingredients : List Ingredient) (check : Option ScriptedCheck)
    (extraction polling : Option (List ScriptEntry)) : ScriptedTrigger where
  rule := { TriggerRule.create id ingredients with
    title := title.getD id
    description := description.getD ""
    mode
    check := fun params => (check.getD .accepts).apply params }
  extraction := extraction
  polling := if extraction.isSome then none else polling

/-- Reads a scripted trigger. -/
def decoder : Decoder ScriptedTrigger :=
  Fields.decoder <| ofParts <$> .required "id" Decoder.string <*>
    .nullableOptional "title" Decoder.string <*>
    .nullableOptional "description" Decoder.string <*>
    .optional "mode" TriggerMode.decoder .manual <*>
    .optional "ingredients" (Decoder.list Ingredient.decoder) [] <*>
    .nullableOptional "config" ScriptedCheck.decoder <*>
    .nullableOptional "extract" Script.ofExtraction <*>
    .nullableOptional "poll" Script.ofPolling

end ScriptedTrigger

namespace ScriptedAction

/-- An action with a script.  One of which only the id is told is no script: it
returns its parameters unseen. -/
def ofParts (id : String) (title description : Option String) (inputs : Option (List ParamSpec))
    (effect : Option (List ScriptEntry)) : ScriptedAction where
  rule := returnParams id (title.getD id) (description.getD "") (inputs.getD [])
  effect :=
    if title.isNone && description.isNone && inputs.isNone && effect.isNone then none
    else some (effect.getD [])

/-- Reads a scripted action. -/
def decoder : Decoder ScriptedAction :=
  Fields.decoder <| ofParts <$> .required "id" Decoder.string <*>
    .nullableOptional "title" Decoder.string <*>
    .nullableOptional "description" Decoder.string <*>
    .nullableOptional "inputs" (Decoder.list ParamSpec.decoder) <*>
    .nullableOptional "run" Script.ofAction

end ScriptedAction

/-- Reads a bot of scripted rules. -/
def ScriptedBot.decoder : Decoder ScriptedBot :=
  Fields.decoder <| ScriptedBot.mk <$> .required "name" Decoder.string <*>
    .optional "triggers" (Decoder.list ScriptedTrigger.decoder) [] <*>
    .optional "actions" (Decoder.list ScriptedAction.decoder) []

namespace Simulation

/-- The fault of a store with a name. -/
def storeFault (name : String) : Fault StoreError :=
  if name = "pass" then .pass
  else if name = "empty" then .silent
  else if name = "conflict" then .refused (.conflict .execution "fault")
  else if name = "not_found" then .refused (.notFound .record "fault")
  else .refused (.backend "down")

/-- The fault of a queue with a name. -/
def queueFault (name : String) : Fault QueueError :=
  if name = "pass" then .pass
  else if name = "disabled" then .refused .disabled
  else .refused (.backend name)

/-- The record of a call. -/
def RuleCall.toJson (call : RuleCall) : Json :=
  let common := [("rule", Json.string call.rule), ("params", .object call.params)]
  match call.request with
  | .run _ => .record (("call", .string "run") :: common)
  | .extract payload =>
    .record (("call", .string "extract") :: ("payload", .object payload) :: common)
  | .poll state =>
    .record ([("call", .string "poll"), ("at", .ofInt call.time), ("state", .object state)] ++
      common ++ call.context.vars)

end Simulation

end EventFlow
