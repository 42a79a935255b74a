import EventFlow.Record.Flow
import EventFlow.Rule.Basic

/-!
# Records of rules

What a catalogue says of rules, as JSON objects.  What is false, empty or
missing is left out of a record, apart from names and types.
-/

namespace EventFlow

/-- A member that is left out unless it is worth saying. -/
def Json.memberIf (worthSaying : Bool) (name : String) (value : Json) : List (String × Json) :=
  if worthSaying then [(name, value)] else []

namespace Ingredient

/-- The fields of an ingredient. -/
def fields : Fields Ingredient :=
  Ingredient.mk <$> .required "name" Decoder.string <*> .required "path" Decoder.string <*>
    .optional "required" Decoder.bool false <*> .optional "description" Decoder.string ""

/-- Reads an ingredient. -/
def decoder : Decoder Ingredient := fields.decoder

/-- The record of an ingredient. -/
def toJson (i : Ingredient) : Json :=
  .record ([("name", .string i.name), ("path", .string i.path)] ++
    Json.memberIf i.required "required" (.bool i.required) ++
    Json.memberIf (i.description != "") "description" (.string i.description))

end Ingredient

/-- The types of parameters by name. -/
def ParamType.names : List (String × ParamType) :=
  [("string", .string), ("number", .number), ("bool", .bool), ("object", .object),
    ("array", .array)]

/-- Reads the type of a parameter; a type that is not known is any type. -/
def ParamType.decoder : Decoder ParamType := .oneOf names (some .any)

namespace ParamSpec

/-- The fields of a declared parameter. -/
def fields : Fields ParamSpec :=
  ParamSpec.mk <$> .required "name" Decoder.string <*>
    .optional "type" ParamType.decoder .any <*> .optional "required" Decoder.bool false <*>
    .optional "description" Decoder.string "" <*>
    .optional "enum" (Decoder.list Decoder.string) [] <*> .optional "pattern" Decoder.string ""

/-- Reads a declared parameter. -/
def decoder : Decoder ParamSpec := fields.decoder

/-- The record of a declared parameter. -/
def toJson (p : ParamSpec) : Json :=
  .record ([("name", .string p.name), ("type", .string p.paramType.name)] ++
    Json.memberIf p.required "required" (.bool p.required) ++
    Json.memberIf (p.description != "") "description" (.string p.description) ++
    Json.memberIf (p.choices != []) "enum" (.array (p.choices.map .string)) ++
    Json.memberIf (p.pattern != "") "pattern" (.string p.pattern))

end ParamSpec

/-- The modes of triggers by name. -/
def TriggerMode.names : List (String × TriggerMode) :=
  [("webhook", .webhook), ("poll", .poll), ("manual", .manual)]

/-- Reads the mode of a trigger. -/
def TriggerMode.decoder : Decoder TriggerMode := .oneOf names none

/-- The kinds of rules by name. -/
def RuleKind.names : List (String × RuleKind) :=
  [("trigger", .trigger), ("action", .action)]

/-- Reads the kind of a rule. -/
def RuleKind.decoder : Decoder RuleKind := .oneOf names none

namespace RuleInfo

/-- The fields of the description of a rule. -/
def fields : Fields RuleInfo :=
  RuleInfo.mk <$> .required "id" Decoder.string <*> .required "kind" RuleKind.decoder <*>
    .required "title" Decoder.string <*> .required "description" Decoder.string <*>
    .nullable "mode" TriggerMode.decoder <*>
    .optional "ingredients" (Decoder.list Ingredient.decoder) [] <*>
    .optional "inputs" (Decoder.list ParamSpec.decoder) []

/-- Reads the description of a rule. -/
def decoder : Decoder RuleInfo := fields.decoder

/-- The record of the description of a rule. -/
def toJson (r : RuleInfo) : Json :=
  .record ([("id", .string r.id), ("kind", .string r.kind.name), ("title", .string r.title),
      ("description", .string r.description)] ++
    Json.memberIf r.mode.isSome "mode" (.orNull (fun m => .string m.name) r.mode) ++
    Json.memberIf (! r.ingredients.isEmpty) "ingredients"
      (.array (r.ingredients.map Ingredient.toJson)) ++
    Json.memberIf (! r.inputs.isEmpty) "inputs" (.array (r.inputs.map ParamSpec.toJson)))

end RuleInfo

namespace PollResult

/-- The fields of what a poll brings. -/
def fields : Fields PollResult :=
  PollResult.mk <$> .optional "events" (Decoder.list Decoder.bag) [] <*>
    .nullableOptional "state" Decoder.bag

/-- Reads what a poll brings. -/
def decoder : Decoder PollResult := fields.decoder

/-- The record of what a poll brings. -/
def toJson (r : PollResult) : Json :=
  .record [("events", .array (r.events.map .object)), ("state", .orNull .object r.state)]

end PollResult

end EventFlow
