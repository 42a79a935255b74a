import EventFlow.Dispatcher
import EventFlow.Record.Flow
import EventFlow.Seed

/-!
# Records of errors

An error is written as an object with its kind and, unless its wording is left
to somebody else, its text.  Some errors carry more, and an error that stands
for another one names the kind and the text of that one too.
-/

namespace EventFlow

/-- The record of an error. -/
def Json.failure (kind : String) (details : List (String × Json)) : Json :=
  .record (("error", .string kind) :: details)

/-- The detail that is the text of an error. -/
def wording (message : String) : String × Json :=
  ("message", .string message)

/-- The record of what succeeds without a result. -/
def Json.done : Json :=
  .record [("ok", .bool true)]

/-- The record of a result or an error. -/
def Json.ofExcept {ε α : Type} (refuse : ε → Json) (write : α → Json) : Except ε α → Json
  | .ok a => write a
  | .error e => refuse e

/-! ## Ids and decoded records -/

/-- The record of an error. -/
def RowIdError.toJson (e : RowIdError) : Json :=
  .failure "ParseIdError" [wording e.message, ("id_type", .string e.entity.idName),
    ("reason", .string e.reason)]

/-- The record of an error. -/
def DecodeError.toJson (e : DecodeError) : Json :=
  .failure "Decode" [("category", .string e.category)]

/-- The record of an error. -/
def TransitionError.toJson (e : TransitionError) : Json :=
  .failure "TransitionError" [wording e.message, ("from", .string e.source.name),
    ("to", .string e.target.name)]

/-! ## Rules -/

/-- The kind of an error. -/
def RegistryError.kind : RegistryError → String
  | .botNotFound _ => "BotNotFound"
  | .triggerNotFound _ _ => "TriggerNotFound"
  | .actionNotFound _ _ => "ActionNotFound"

/-- The record of an error. -/
def RegistryError.toJson (e : RegistryError) : Json :=
  .failure e.kind [wording e.message]

/-- The kind of an error. -/
def IngredientError.kind : IngredientError → String
  | .pathRequired _ => "PathRequired"
  | .notFound _ _ => "NotFound"

/-- The record of an error. -/
def IngredientError.toJson (e : IngredientError) : Json :=
  .failure e.kind [wording e.message]

/-- The kind of an error. -/
def ParamError.kind : ParamError → String
  | .validation _ => "Validation"
  | .invalidPattern _ _ => "InvalidPattern"

/-- The record of an error. -/
def ParamError.toJson : ParamError → Json
  | .validation e =>
    .failure "Validation" [wording e.message,
      ("fields", .record (e.fields.map fun (name, problem) => (name, .string problem)))]
  | .invalidPattern name _ => .failure "InvalidPattern" [("name", .string name)]

/-- The kind of an error. -/
def RuleError.kind : RuleError → String
  | .params e => e.kind
  | .ingredient e => e.kind
  | .unsupported _ => "Unsupported"
  | .failed _ => "Failed"

/-- The record of an error. -/
def RuleError.toJson : RuleError → Json
  | .params e => e.toJson
  | e => .failure e.kind [wording e.message]

/-! ## Stores, engines and queues -/

/-- The kind of an error. -/
def StoreError.kind : StoreError → String
  | .notFound _ _ => "NotFound"
  | .conflict _ _ => "Conflict"
  | .backend _ => "Backend"

/-- The record of an error. -/
def StoreError.toJson (e : StoreError) : Json :=
  .failure e.kind [wording e.message]

/-- The record of an error. -/
def RateLimitError.toJson (e : RateLimitError) : Json :=
  .failure "Store" [wording e.message]

/-- The kind of an error. -/
def NodeError.kind : NodeError → String
  | .registry e => e.kind
  | .rule e => e.kind
  | .timeout _ => "Timeout"

namespace EngineError

/-- The kind of an error. -/
def kind : EngineError → String
  | .flowNotFound _ => "FlowNotFound"
  | .flowDisabled _ => "FlowDisabled"
  | .boundToOtherFlow _ _ => "ExecutionBoundToOtherFlow"
  | .noTriggerNodes _ => "NoTriggerNodes"
  | .cycleDetected _ => "CycleDetected"
  | .maxDepthExceeded _ _ => "MaxDepthExceeded"
  | .nodeFailed _ _ => "NodeExecutionFailed"
  | .panicked _ => "Panicked"
  | .store _ => "Store"

/-- The text and the kind of the error that stands behind an error. -/
def origin : EngineError → List (String × Json)
  | .nodeFailed _ e => [("source", .string e.message), ("cause", .string e.kind)]
  | .store e => [("source", .string e.message), ("cause", .string e.kind)]
  | _ => []

/-- The record of an error. -/
def toJson (e : EngineError) : Json :=
  .failure e.kind (wording e.message :: e.origin)

end EngineError

/-- The kind of an error. -/
def QueueError.kind : QueueError → String
  | .disabled => "Disabled"
  | .flowNotFound _ => "FlowNotFound"
  | .flowDisabled _ => "FlowDisabled"
  | .backend _ => "Backend"
  | .store _ => "Store"

/-- The record of an error. -/
def QueueError.toJson (e : QueueError) : Json :=
  .failure e.kind [wording e.message]

/-- The record of an error, given how the last failure is written. -/
def RetryError.toJson {ε : Type} (text : ε → String) : RetryError ε → Json
  | .cancelled =>
    .failure "Cancelled" [wording (message text .cancelled), ("last_error", .null)]
  | .maxAttemptsReached attempts lastError =>
    .failure "MaxAttemptsReached" [wording (message text (.maxAttemptsReached attempts lastError)),
      ("attempts", .ofInt attempts), ("last_error", .string (text lastError))]

/-! ## Daemons -/

namespace DispatchError

/-- The kind of an error. -/
def kind : DispatchError → String
  | .flowNotFound _ => "FlowNotFound"
  | .flowDisabled _ => "FlowDisabled"
  | .invalidToken => "InvalidToken"
  | .webhookNotFound _ => "WebhookNotFound"
  | .rateLimited _ => "RateLimited"
  | .engine _ => "Engine"
  | .store _ => "Store"

/-- What the record of an error tells besides its text: when to come back, or
which error of the engine it is. -/
def details : DispatchError → List (String × Json)
  | .rateLimited retryAfter => [("retry_after_ms", .ofInt retryAfter.ceilMilliseconds)]
  | .engine e => ("engine", .string e.kind) :: e.origin
  | _ => []

/-- The record of an error. -/
def toJson (e : DispatchError) : Json :=
  .failure e.kind (wording e.message :: e.details)

end DispatchError

/-- The record of an error. -/
def SeedError.toJson (e : SeedError) : Json :=
  match e with
  | .read _ _ => .failure "Read" []
  | .parse _ _ => .failure "Parse" []
  | .danglingEdge _ _ _ => .failure "DanglingEdge" [wording e.message]
  | .store _ => .failure "Store" [wording e.message]

end EventFlow
