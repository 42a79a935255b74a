import EventFlow.Text.Blank
import EventFlow.Text.Digits

/-!
# Identifiers

Stored rows are numbered by their store; the number says nothing about the kind
of row, so the type does.  Executions have a text for an id, which callers may
supply: asking again under the same id means the same execution.
-/

namespace EventFlow

open EventFlow.Text

/-- The kinds of rows that are numbered. -/
inductive Entity where
  | flow
  | flowJob
  | rateLimit
  | queueJob
  deriving DecidableEq, Repr

/-- The name of the kind of id that rows of an entity have. -/
def Entity.idName : Entity → String
  | .flow => "FlowId"
  | .flowJob => "FlowJobId"
  | .rateLimit => "RateLimitId"
  | .queueJob => "QueueJobId"

/-- The id of a numbered row; zero until a store has given it a number. -/
structure RowId (entity : Entity) where
  value : Int
  deriving DecidableEq, Repr

/-- The id of a flow. -/
abbrev FlowId : Type := RowId .flow

/-- The id of the record of one node's run. -/
abbrev FlowJobId : Type := RowId .flowJob

/-- The id of a rate limit. -/
abbrev RateLimitId : Type := RowId .rateLimit

/-- The id of a queued execution. -/
abbrev QueueJobId : Type := RowId .queueJob

/-- A text that is no row id, and why. -/
structure RowIdError where
  entity : Entity
  fault : IntegerFault
  deriving DecidableEq, Repr

/-- The reason why the text is no row id. -/
def RowIdError.reason (e : RowIdError) : String :=
  e.fault.message

/-- The error in words. -/
def RowIdError.message (e : RowIdError) : String :=
  s!"failed to parse {e.entity.idName}: {e.reason}"

namespace RowId

variable {entity : Entity}

/-- The id of a row that no store has numbered. -/
def unassigned : RowId entity := ⟨0⟩

/-- The id as text. -/
def display (id : RowId entity) : String :=
  toString id.value

/-- Reads a row id: a signed 64-bit integer between blanks. -/
def parse (entity : Entity) (s : String) : Except RowIdError (RowId entity) :=
  match readInteger Range.signed64 (trimChars s.toList) with
  | .ok n => .ok ⟨n⟩
  | .error fault => .error ⟨entity, fault⟩

end RowId

/-- The id of an execution. -/
structure ExecutionId where
  text : String
  deriving DecidableEq, Repr

/-- An id of blanks only names no execution. -/
def ExecutionId.isBlank (id : ExecutionId) : Bool :=
  isAllBlank id.text

end EventFlow
