import EventFlow.Flow
import EventFlow.Record.Decoder

/-!
# Records of flows

Flows, nodes, edges and conditions as JSON objects.  In what is written, instants
are milliseconds.
-/

namespace EventFlow

/-- An object of members in any order. -/
def Json.record (members : List (String × Json)) : Json :=
  .object (Bag.ofList members)

/-- A value, or null. -/
def Json.orNull {α : Type} (write : α → Json) : Option α → Json
  | some value => write value
  | none => .null

/-- An instant in milliseconds. -/
def Instant.toJson (t : Instant) : Json :=
  Json.ofInt t.milliseconds

/-- A row id as a number. -/
def RowId.toJson {entity : Entity} (id : RowId entity) : Json :=
  Json.ofInt id.value

namespace Condition

/-- The fields of a condition. -/
def fields : Fields Condition :=
  Condition.mk <$> .required "variable" Decoder.string <*> .required "operator" Decoder.string <*>
    .optional "value" Decoder.json .null

/-- Reads a condition. -/
def decoder : Decoder Condition := fields.decoder

/-- The record of a condition. -/
def toJson (c : Condition) : Json :=
  .record [("variable", .string c.subject), ("operator", .string c.operator), ("value", c.value)]

end Condition

namespace Flow

/-- The fields of a flow. -/
def fields : Fields Flow :=
  Flow.mk <$> .optional "id" (Decoder.rowId .flow) .unassigned <*>
    .optional "uid" Decoder.string "" <*> .optional "topic" Decoder.string "" <*>
    .required "name" Decoder.string <*> .optional "description" Decoder.string "" <*>
    .optional "enabled" Decoder.bool false <*> .orNow "created_at" <*> .orNow "updated_at"

/-- Reads a flow. -/
def decoder : Decoder Flow := fields.decoder

/-- The record of a flow. -/
def toJson (f : Flow) : Json :=
  .record [("id", f.id.toJson), ("uid", .string f.uid), ("topic", .string f.topic),
    ("name", .string f.name), ("description", .string f.description), ("enabled", .bool f.enabled),
    ("created_at", f.createdAt.toJson), ("updated_at", f.updatedAt.toJson)]

end Flow

/-- The roles of nodes by name. -/
def NodeType.names : List (String × NodeType) :=
  [("trigger", .trigger), ("action", .action), ("filter", .filter), ("condition", .condition)]

/-- Reads the role of a node. -/
def NodeType.decoder : Decoder NodeType := .oneOf names none

namespace Node

/-- The fields of a node. -/
def fields : Fields Node :=
  Node.mk <$> .optional "id" (Decoder.integer .signed64) 0 <*>
    .optional "flow_id" (Decoder.rowId .flow) .unassigned <*>
    .required "node_id" Decoder.string <*> .required "type" NodeType.decoder <*>
    .optional "bot" Decoder.string "" <*> .optional "rule_id" Decoder.string "" <*>
    .optional "label" Decoder.string "" <*> .optional "parameters" Decoder.bag [] <*>
    .optional "conditions" (Decoder.list Condition.decoder) [] <*>
    .optional "variables" Decoder.bag [] <*> .orNow "created_at" <*> .orNow "updated_at"

/-- Reads a node. -/
def decoder : Decoder Node := fields.decoder

/-- The record of a node. -/
def toJson (n : Node) : Json :=
  .record [("id", .ofInt n.id), ("flow_id", n.flowId.toJson), ("node_id", .string n.nodeId),
    ("type", .string n.nodeType.name), ("bot", .string n.bot), ("rule_id", .string n.ruleId),
    ("label", .string n.label), ("parameters", .object n.parameters),
    ("conditions", .array (n.conditions.map Condition.toJson)),
    ("variables", .object n.vars), ("created_at", n.createdAt.toJson),
    ("updated_at", n.updatedAt.toJson)]

end Node

namespace Edge

/-- The fields of an edge. -/
def fields : Fields Edge :=
  Edge.mk <$> .optional "id" (Decoder.integer .signed64) 0 <*>
    .optional "flow_id" (Decoder.rowId .flow) .unassigned <*>
    .required "source_node" Decoder.string <*> .required "target_node" Decoder.string <*>
    .optional "type" Decoder.string "" <*> .orNow "created_at"

/-- Reads an edge. -/
def decoder : Decoder Edge := fields.decoder

/-- The record of an edge. -/
def toJson (e : Edge) : Json :=
  .record [("id", .ofInt e.id), ("flow_id", e.flowId.toJson),
    ("source_node", .string e.sourceNode), ("target_node", .string e.targetNode),
    ("type", .string e.edgeType), ("created_at", e.createdAt.toJson)]

end Edge

end EventFlow
