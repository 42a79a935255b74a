import EventFlow.Dispatcher
import EventFlow.Poller
import EventFlow.Record.Flow

/-!
# Records of outcomes

What the operations of a daemon return, as JSON objects.
-/

namespace EventFlow

/-- The record of the id of an execution. -/
def ExecutionId.toJson (id : ExecutionId) : Json :=
  .record [("execution_id", .string id.text)]

/-- The record of how a request was taken. -/
def Submission.toJson (s : Submission) : Json :=
  .record [("queued", .bool s.isQueued), ("execution_id", .string s.executionId.text)]

/-- The record of what a tick did. -/
def TickReport.toJson (r : TickReport) : Json :=
  .record [("polled", .ofInt r.polled), ("submitted", .ofInt r.submitted),
    ("failed", .ofInt r.failed)]

/-- The record of what the check of rate limits finds.  Waits are rounded up to
milliseconds. -/
def RateLimitResult.toJson (r : RateLimitResult) : Json :=
  let common := [("is_allowed", Json.bool r.isAllowed),
    ("retry_after_ms", .ofInt r.retryAfter.ceilMilliseconds)]
  match r with
  | .allowed remaining =>
    .record ([("result", .string "allowed"),
      ("remaining", .orNull (fun n : Nat => .ofInt n) remaining)] ++ common)
  | .exceeded _ resetsAt =>
    .record ([("result", .string "exceeded"), ("resets_at", resetsAt.toJson)] ++ common)

end EventFlow
