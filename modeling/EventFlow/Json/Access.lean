import EventFlow.Double.Reading
import EventFlow.Json.Basic
import EventFlow.Text.Blank
import EventFlow.Text.Pieces

/-!
# Reading out of JSON values

Typed accessors over a bag forgive the loose typing of values that people type
in: integers may be written as doubles or as text.  A dotted path walks from a
value to a value inside it, through the members of objects and, by index,
through the items of arrays.
-/

namespace EventFlow

open EventFlow.Text

/-- The integer that a text stands for: a signed 64-bit integer as it is written,
and any other number cut toward zero. -/
def Text.looseInteger? (s : String) : Option Int :=
  let cs := trimChars s.toList
  match readInteger? Range.signed64 cs with
  | some n => some n
  | none =>
    (Double.read? cs).map fun x =>
      x.truncateWithin Range.signed64.least Range.signed64.greatest

namespace Json

/-- The integer that a value stands for. -/
def looseInteger? : Json → Option Int
  | .number n => some n.toInteger
  | .string s => Text.looseInteger? s
  | _ => none

/-- One step of a path: the member of an object or the item of an array. -/
def child? (value : Json) (segment : List Char) : Option Json :=
  match value with
  | .object members => Bag.get? members (String.ofList segment)
  | .array items => (readIndex? segment).bind fun i => items[i]?
  | _ => none

/-- Follows the steps of a path one by one. -/
def descend? (value : Json) (segments : List (List Char)) : Option Json :=
  segments.foldlM child? value

/-- The value at a dotted path. -/
def lookup? (value : Json) (path : String) : Option Json :=
  value.descend? (splitAll '.' path.toList)

end Json

namespace Bag

/-- The string under a key. -/
def getString? (bag : Bag) (key : String) : Option String :=
  (bag.get? key).bind Json.string?

/-- The object under a key. -/
def getObject? (bag : Bag) (key : String) : Option Bag :=
  (bag.get? key).bind Json.object?

/-- The integer that the value under a key stands for. -/
def getInteger? (bag : Bag) (key : String) : Option Int :=
  (bag.get? key).bind Json.looseInteger?

end Bag

end EventFlow
