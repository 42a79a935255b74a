import EventFlow.Execution
import EventFlow.Job
import EventFlow.Record.Flow

/-!
# Records of executions and jobs

The rows that a run writes, as JSON objects.
-/

namespace EventFlow

/-- The states of executions by name. -/
def ExecutionState.names : List (String × ExecutionState) :=
  [("pending", .pending), ("running", .running), ("succeeded", .succeeded), ("failed", .failed)]

/-- Reads the state of an execution. -/
def ExecutionState.decoder : Decoder ExecutionState := .oneOf names none

namespace Execution

/-- The fields of an execution. -/
def fields : Fields Execution :=
  Execution.mk <$> .required "execution_id" Decoder.executionId <*>
    .required "flow_id" (Decoder.rowId .flow) <*> .required "trigger_type" Decoder.string <*>
    .required "trigger_id" Decoder.string <*> .required "state" ExecutionState.decoder <*>
    .required "payload" Decoder.bag <*> .required "variables" Decoder.bag <*>
    .nullable "error" Decoder.string <*> .nullable "started_at" Decoder.instant <*>
    .nullable "finished_at" Decoder.instant <*> .required "created_at" Decoder.instant <*>
    .required "updated_at" Decoder.instant

/-- Reads an execution. -/
def decoder : Decoder Execution := fields.decoder

/-- The record of an execution. -/
def toJson (e : Execution) : Json :=
  .record [("execution_id", .string e.executionId.text), ("flow_id", e.flowId.toJson),
    ("trigger_type", .string e.triggerType), ("trigger_id", .string e.triggerId),
    ("state", .string e.state.name), ("payload", .object e.payload),
    ("variables", .object e.vars), ("error", .orNull .string e.error),
    ("started_at", .orNull Instant.toJson e.startedAt),
    ("finished_at", .orNull Instant.toJson e.finishedAt), ("created_at", e.createdAt.toJson),
    ("updated_at", e.updatedAt.toJson)]

end Execution

/-- The states of jobs by name. -/
def JobState.names : List (String × JobState) :=
  [("start", .start), ("succeeded", .succeeded), ("failed", .failed)]

/-- Reads the state of a job. -/
def JobState.decoder : Decoder JobState := .oneOf names none

namespace Job

/-- The fields of a job. -/
def fields : Fields Job :=
  Job.mk <$> .required "id" (Decoder.rowId .flowJob) <*>
    .required "flow_id" (Decoder.rowId .flow) <*>
    .required "execution_id" Decoder.executionId <*> .required "node_id" Decoder.string <*>
    .required "node_type" NodeType.decoder <*> .required "bot" Decoder.string <*>
    .required "rule_id" Decoder.string <*> .required "attempt" (Decoder.natural .unsigned32) <*>
    .required "state" JobState.decoder <*> .required "params" Decoder.bag <*>
    .required "result" Decoder.bag <*> .nullable "error" Decoder.string <*>
    .required "started_at" Decoder.instant <*> .nullable "finished_at" Decoder.instant <*>
    .required "created_at" Decoder.instant <*> .required "updated_at" Decoder.instant

/-- Reads a job. -/
def decoder : Decoder Job := fields.decoder

/-- The record of a job. -/
def toJson (j : Job) : Json :=
  .record [("id", j.id.toJson), ("flow_id", j.flowId.toJson),
    ("execution_id", .string j.executionId.text), ("node_id", .string j.nodeId),
    ("node_type", .string j.nodeType.name), ("bot", .string j.bot),
    ("rule_id", .string j.ruleId), ("attempt", .ofInt j.attempt), ("state", .string j.state.name),
    ("params", .object j.params), ("result", .object j.result), ("error", .orNull .string j.error),
    ("started_at", j.startedAt.toJson), ("finished_at", .orNull Instant.toJson j.finishedAt),
    ("created_at", j.createdAt.toJson), ("updated_at", j.updatedAt.toJson)]

end Job

end EventFlow
