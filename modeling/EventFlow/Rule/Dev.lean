import EventFlow.Rule.Registry

/-!
# The bot `dev`

The bot of a fresh daemon gives it something to run: a trigger for events that
are submitted by hand, one for webhooks and one that counts, and actions that
return their parameters and write a message to the log.
-/

namespace EventFlow.Bot.Dev

/-- Events that are submitted by hand. -/
def ping : TriggerRule :=
  { TriggerRule.create "ping" [] with
    title := "Ping"
    description := "Fires when an event is submitted by hand" }

/-- The parameters of the webhook trigger. -/
def webhookParams : List ParamSpec :=
  [{ ParamSpec.create "token" .string with
      required := true, description := "Secret path segment of the webhook URL" }]

/-- Calls of a webhook, which is found by its token. -/
def webhook : TriggerRule :=
  { TriggerRule.create "webhook"
      [.optional "body" "payload.body", .optional "sender" "payload.headers.x-sender"] with
    title := "Webhook"
    mode := .webhook
    check := checkDeclared webhookParams }

/-- The poll of the counter: one event with the next number.  It breaks down
behind the last number of 64 bits. -/
def countOn (state : Bag) : Reply PollResult :=
  let next := (state.getInteger? "count").getD 0 + 1
  if Text.Range.signed64.contains next then
    let count := Json.ofInt next
    .returned (.ok ⟨[[("count", count), ("id", count)]], some (Bag.insert "count" count state)⟩)
  else .panicked "the count is too large"

/-- A trigger that makes one event for each poll and numbers them. -/
def counter : TriggerRule :=
  { TriggerRule.create "counter" [] with
    title := "Counter"
    mode := .poll
    polling := .immediate fun _ _ state => countOn state }

/-- An action that returns its parameters. -/
def echo : ActionRule where
  id := "echo"
  title := "Echo"
  description := ""
  inputs := []
  effect := .immediate fun _ params _ => .returned (.ok params)

/-- The parameters of the logging action. -/
def logInputs : List ParamSpec :=
  [{ ParamSpec.create "message" .string with required := true },
    { ParamSpec.create "level" .string with choices := ["info", "warn"] }]

/-- An action that writes a message to the log and returns it. -/
def log : ActionRule where
  id := "log"
  title := "Log message"
  description := ""
  inputs := logInputs
  effect := .immediate fun _ params _ =>
    .returned (.ok [("logged", .string ((params.getString? "message").getD ""))])

/-- The bot with its rules. -/
def bot : Bot := ⟨Bot.devName, [ping, webhook, counter], [echo, log]⟩

/-- The registry of a fresh daemon. -/
def registry : Registry := Registry.empty.register bot

end EventFlow.Bot.Dev
