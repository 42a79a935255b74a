import EventFlow.RateLimit.Basic
import EventFlow.Record.Flow

/-!
# Records of rate limits

A unit that is not known counts as seconds.
-/

namespace EventFlow

/-- The units of windows by name. -/
def WindowUnit.names : List (String × WindowUnit) :=
  [("minute", .minute), ("hour", .hour), ("day", .day)]

/-- Reads the unit of a window. -/
def WindowUnit.decoder : Decoder WindowUnit := .oneOf names (some .second)

namespace RateLimit

/-- The fields of a rate limit. -/
def fields : Fields RateLimit :=
  RateLimit.mk <$> .optional "id" (Decoder.rowId .rateLimit) .unassigned <*>
    .nullableOptional "flow_id" (Decoder.rowId .flow) <*>
    .nullableOptional "node_id" Decoder.string <*>
    .required "window_size" (Decoder.natural .unsigned32) <*>
    .optional "window_unit" WindowUnit.decoder .second <*>
    .required "limit_value" (Decoder.natural .unsigned32)

/-- Reads a rate limit. -/
def decoder : Decoder RateLimit := fields.decoder

/-- The record of a rate limit. -/
def toJson (r : RateLimit) : Json :=
  .record [("id", r.id.toJson), ("flow_id", .orNull RowId.toJson r.flowId),
    ("node_id", .orNull .string r.nodeId), ("window_size", .ofInt r.windowSize),
    ("window_unit", .string r.windowUnit.name), ("limit_value", .ofInt r.limitValue)]

end RateLimit

end EventFlow
