import EventFlow.Queue.Job
import EventFlow.Record.Flow

/-!
# Records of queued executions

Queue jobs and what they ask for, as JSON objects.
-/

namespace EventFlow

namespace FlowRequest

/-- The fields of a request. -/
def fields : Fields FlowRequest :=
  FlowRequest.mk <$> .required "flow_id" (Decoder.rowId .flow) <*>
    .required "trigger_type" Decoder.string <*> .required "trigger_id" Decoder.string <*>
    .optional "payload" Decoder.bag []

/-- Reads a request. -/
def decoder : Decoder FlowRequest := fields.decoder

/-- The record of a request. -/
def toJson (r : FlowRequest) : Json :=
  .record [("flow_id", r.flowId.toJson), ("trigger_type", .string r.triggerType),
    ("trigger_id", .string r.triggerId), ("payload", .object r.payload)]

end FlowRequest

/-- The statuses of queue jobs by name. -/
def QueueStatus.names : List (String × QueueStatus) :=
  [("pending", .pending), ("running", .running), ("completed", .completed), ("failed", .failed)]

/-- Reads the status of a queue job. -/
def QueueStatus.decoder : Decoder QueueStatus := .oneOf names none

namespace QueueJob

/-- The fields of a queue job. -/
def fields : Fields QueueJob :=
  QueueJob.mk <$> .required "id" (Decoder.rowId .queueJob) <*>
    .required "kind" Decoder.string <*> .required "execution_id" Decoder.executionId <*>
    .required "args" FlowRequest.decoder <*> .required "status" QueueStatus.decoder <*>
    .required "attempts" (Decoder.natural .unsigned32) <*>
    .required "max_attempts" (Decoder.natural .unsigned32) <*>
    .required "run_at" Decoder.instant <*> .nullable "locked_at" Decoder.instant <*>
    .nullable "last_error" Decoder.string <*> .required "created_at" Decoder.instant <*>
    .required "updated_at" Decoder.instant

/-- Reads a queue job. -/
def decoder : Decoder QueueJob := fields.decoder

/-- The record of a queue job. -/
def toJson (j : QueueJob) : Json :=
  .record [("id", j.id.toJson), ("kind", .string j.kind),
    ("execution_id", .string j.executionId.text), ("args", j.args.toJson),
    ("status", .string j.status.name), ("attempts", .ofInt j.attempts),
    ("max_attempts", .ofInt j.maxAttempts), ("run_at", j.runAt.toJson),
    ("locked_at", .orNull Instant.toJson j.lockedAt), ("last_error", .orNull .string j.lastError),
    ("created_at", j.createdAt.toJson), ("updated_at", j.updatedAt.toJson)]

end QueueJob

end EventFlow
