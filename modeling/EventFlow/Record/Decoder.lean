import EventFlow.Id
import EventFlow.Json.Document
import EventFlow.Time.Reading

/-!
# Decoders

A decoder reads a value of some type off a JSON document.  It fails either
because the document holds something else than what is wanted, or because the
text that the document was read from goes wrong; whichever comes first in the
text is reported.

Records are decoded field by field.  In an object the members may come in any
order and unknown ones are skipped; in an array the items are the fields in
order.  `Fields` describes the fields of a record in the order of the record's
type, and builds the record when all of them have been read.
-/

namespace EventFlow

open EventFlow.Text
open EventFlow.Json (Document Ending Fault Literal)

/-- Why a document is not what a decoder wants. -/
inductive DecodeError where
  | mismatch
  | fault (f : Fault)
  deriving DecidableEq, Repr

/-- The kind of the error: wrong data, wrong syntax, or an early end. -/
def DecodeError.category : DecodeError → String
  | .mismatch => "data"
  | .fault .malformed => "syntax"
  | .fault .unfinished => "eof"

/-- What a decoder knows besides the document: whether it was read from a text,
how many arrays and objects may still be entered if it was, and the present,
for fields that default to it. -/
structure Surroundings where
  fromText : Bool
  depth : Nat
  now : Instant

/-- Reads a value off a document. -/
abbrev Decoder (α : Type) : Type := Surroundings → Document → Except DecodeError α

namespace Decoder

/-- The error of a document that holds something else, which may be broken itself. -/
def mismatch : Document → DecodeError
  | .null => .mismatch
  | .bool _ => .mismatch
  | .number literal =>
    match literal.value with
    | .error f => .fault f
    | .ok _ => .mismatch
  | .string literal =>
    match literal.value with
    | .error f => .fault f
    | .ok _ => .mismatch
  | .array _ _ => .mismatch
  | .object _ _ => .mismatch
  | .broken f _ => .fault f

/-- The value of a literal. -/
def literal {α : Type} (l : Literal α) : Except DecodeError α :=
  l.value.mapError .fault

/-- The surroundings inside an array or object. -/
def enter (s : Surroundings) : Except DecodeError Surroundings :=
  if s.fromText then
    match s.depth with
    | 0 => .error (.fault .malformed)
    | depth + 1 => .ok { s with depth }
  else .ok s

/-! ## Plain values -/

/-- A string. -/
def string : Decoder String
  | _, .string l => literal l
  | _, document => .error (mismatch document)

/-- A truth value. -/
def bool : Decoder Bool
  | _, .bool b => .ok b
  | _, document => .error (mismatch document)

/-- An integer of a range. -/
def integer (range : Range) : Decoder Int
  | _, .number l => do
    match ← literal l with
    | .integer n => if range.contains n then .ok n else .error .mismatch
    | .double _ => .error .mismatch
  | _, document => .error (mismatch document)

/-- A natural number below a power of two. -/
def natural (range : Range) : Decoder Nat := fun s document =>
  (integer range s document).map Int.toNat

/-- Any value. -/
def json : Decoder Json := fun s document =>
  (document.toJson (if s.fromText then s.depth else document.height)).mapError .fault

/-- An object. -/
def bag : Decoder Bag
  | s, .object members ending => do
    match ← json s (.object members ending) with
    | .object members => .ok members
    | _ => .error .mismatch
  | _, document => .error (mismatch document)

/-- The number of a row. -/
def rowId (entity : Entity) : Decoder (RowId entity) := fun s document =>
  (integer .signed64 s document).map RowId.mk

/-- The id of an execution. -/
def executionId : Decoder ExecutionId := fun s document =>
  (string s document).map ExecutionId.mk

/-- An instant, written as a date and time. -/
def instant : Decoder Instant := fun s document => do
  match Instant.read? (← string s document) with
  | some t => .ok t
  | none => .error .mismatch

/-- A value, or nothing for null.  What begins like null is meant to be null. -/
def nullable {α : Type} (decoder : Decoder α) : Decoder (Option α)
  | _, .null => .ok none
  | _, .broken f (some 'n') => .error (.fault f)
  | s, document => (decoder s document).map some

/-- The items of an array. -/
def list {α : Type} (decoder : Decoder α) : Decoder (List α)
  | s, .array items ending => do
    let s ← enter s
    let values ← items.mapM (decoder s)
    match ending with
    | .closed => .ok values
    | .broken f _ => .error (.fault f)
  | _, document => .error (mismatch document)

/-! ## Names -/

/-- A value by its name; a name that is not listed is another value's, if there
is one for all others. -/
def byName {α : Type} (names : List (String × α)) (other : Option α) (name : String) :
    Except DecodeError α :=
  match names.lookup name with
  | some value => .ok value
  | none => other.elim (.error .mismatch) .ok

/-- Checks that a document is null. -/
def null : Decoder Unit
  | _, .null => .ok ()
  | _, document => .error (mismatch document)

/-- One of some values by name: a string, or an object with the name as its only
key and null as its value.  Whatever else a text begins is malformed at once. -/
def oneOf {α : Type} (names : List (String × α)) (other : Option α) : Decoder α
  | _, .string l => do byName names other (← literal l)
  | s, .object members ending => do
    let s ← enter s
    match members, ending with
    | (key, value) :: rest, _ => do
      if ¬ s.fromText ∧ rest ≠ [] then .error .mismatch
      else
        let found ← byName names other (← literal key)
        null s value
        match rest, ending with
        | [], .closed => .ok found
        | _ :: _, _ => .error (.fault .malformed)
        | [], .broken f afterComma => .error (.fault (if afterComma then .malformed else f))
    | [], .broken f _ => .error (.fault f)
    | [], .closed => .error (if s.fromText then .fault .malformed else .mismatch)
  | s, document =>
    match document with
    | .broken f none => .error (.fault f)
    | _ => .error (if s.fromText then .fault .malformed else .mismatch)

end Decoder

/-! ## Records -/

/-- Where the fields of a record are found, once their documents are known:
under their names. -/
structure FieldSource where
  inArray : Bool
  document? : String → Option Document

/-- The fields of a record: their names with what checks their values, in order,
and how the record is built of them. -/
structure Fields (α : Type) where
  checks : List (String × Decoder Unit)
  build : Surroundings → FieldSource → Except DecodeError α

namespace Fields

/-- No field. -/
def none {α : Type} (value : α) : Fields α :=
  ⟨[], fun _ _ => .ok value⟩

/-- A field with values for when it is absent from an object and from an array. -/
def field {α : Type} (name : String) (decoder : Decoder α)
    (inObject inArray : Option (Surroundings → α)) : Fields α where
  checks := [(name, fun s document => (decoder s document).map fun _ => ())]
  build s source :=
    match source.document? name with
    | some document => decoder s document
    | .none =>
      match (if source.inArray then inArray else inObject) with
      | some default => .ok (default s)
      | .none => .error .mismatch

/-- A field that has to be there. -/
def required {α : Type} (name : String) (decoder : Decoder α) : Fields α :=
  field name decoder .none .none

/-- A field with a default. -/
def optional {α : Type} (name : String) (decoder : Decoder α) (default : α) : Fields α :=
  field name decoder (some fun _ => default) (some fun _ => default)

/-- An instant that defaults to the present. -/
def orNow (name : String) : Fields Instant :=
  field name Decoder.instant (some (·.now)) (some (·.now))

/-- A field that may be null, or absent from an object. -/
def nullable {α : Type} (name : String) (decoder : Decoder α) : Fields (Option α) :=
  field name (Decoder.nullable decoder) (some fun _ => .none) .none

/-- A field that may be null or absent. -/
def nullableOptional {α : Type} (name : String) (decoder : Decoder α) : Fields (Option α) :=
  optional name (Decoder.nullable decoder) .none

/-- The fields of both, with what they build put together. -/
def both {α β : Type} (f : Fields (α → β)) (x : Fields α) : Fields β where
  checks := f.checks ++ x.checks
  build s source := do
    let g ← f.build s source
    let a ← x.build s source
    return g a

instance : Functor Fields where
  map f x := ⟨x.checks, fun s source => (x.build s source).map f⟩

instance : Seq Fields where
  seq f x := both f (x ())

/-- Reads the members of an object in order, on top of the fields already read. -/
def readMembers (checks : List (String × Decoder Unit)) (s : Surroundings) (ending : Ending)
    (found : List (String × Document)) :
    List (Literal String × Document) → Except DecodeError (List (String × Document))
  | [] =>
    match ending with
    | .closed => .ok found
    | .broken f _ => .error (.fault f)
  | (key, value) :: rest => do
    let name ← Decoder.literal key
    match checks.lookup name with
    | some check =>
      if (found.lookup name).isSome then .error .mismatch
      else
        check s value
        readMembers checks s ending ((name, value) :: found) rest
    | .none =>
      value.skip.mapError .fault
      readMembers checks s ending found rest

/-- Reads the items of an array as the fields in order.  Fields behind the last
item are absent; items behind the last field are an error. -/
def readItems (s : Surroundings) (ending : Ending)
    (found : List (String × Document)) :
    List (String × Decoder Unit) → List Document → Except DecodeError (List (String × Document))
  | [], [] =>
    match ending with
    | .closed => .ok found
    | .broken f afterComma => .error (.fault (if afterComma then .malformed else f))
  | [], _ :: _ => .error (if s.fromText then .fault .malformed else .mismatch)
  | _ :: _, [] =>
    match ending with
    | .closed => .ok found
    | .broken f _ => .error (.fault f)
  | (name, check) :: checks, item :: items => do
    check s item
    readItems s ending ((name, item) :: found) checks items

/-- The record with the fields. -/
def decoder {α : Type} (fields : Fields α) : Decoder α
  | s, .object members ending => do
    let s ← Decoder.enter s
    let found ← readMembers fields.checks s ending [] members
    fields.build s ⟨false, fun name => found.lookup name⟩
  | s, .array items ending => do
    let s ← Decoder.enter s
    let found ← readItems s ending [] fields.checks items
    fields.build s ⟨true, fun name => found.lookup name⟩
  | _, document => .error (Decoder.mismatch document)

end Fields

namespace Decoder

/-- Decodes a value. -/
def ofJson {α : Type} (decoder : Decoder α) (now : Instant) (value : Json) :
    Except DecodeError α :=
  decoder ⟨false, 0, now⟩ (.ofJson value)

/-- Decodes a text; only blanks may stand behind the value. -/
def ofText {α : Type} (decoder : Decoder α) (now : Instant) (text : String) :
    Except DecodeError α :=
  match Document.ofText text with
  | (document, trailing) => do
    let value ← decoder ⟨true, Json.nestingLimit, now⟩ document
    if trailing then .error (.fault .malformed) else return value

end Decoder

end EventFlow
