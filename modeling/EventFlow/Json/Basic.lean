import EventFlow.Double.Basic
import EventFlow.Text.Digits

/-!
# JSON values

`Json` is the one dynamic value type of the library: parameters, event
payloads, node results and the variables of an execution are JSON objects.
Numbers remember how they were written, so the integer `1` and the double `1.0`
are different values.

An object is a list of members.  All operations of the library keep it sorted
by key, each key once; `Object.insert` puts a member in its place.
-/

namespace EventFlow

namespace Json

/-- A number: an integer of the signed or unsigned 64-bit range, or a finite double. -/
inductive Number where
  | integer (value : Int)
  | double (value : Double)
  deriving DecidableEq, Repr

end Json

/-- A JSON value. -/
inductive Json where
  | null
  | bool (value : Bool)
  | number (value : Json.Number)
  | string (value : String)
  | array (items : List Json)
  | object (members : List (String × Json))
  deriving Repr

/-- A JSON object: members sorted by key, each key once. -/
abbrev Bag : Type := List (String × Json)

namespace Bag

/-- The value under a key. -/
def get? (bag : Bag) (key : String) : Option Json :=
  bag.lookup key

/-- Puts a value under a key, in its place in the order, in place of the value
that was there. -/
def insert (key : String) (value : Json) : Bag → Bag
  | [] => [(key, value)]
  | (k, v) :: rest =>
    if key = k then (key, value) :: rest
    else if key < k then (key, value) :: (k, v) :: rest
    else (k, v) :: insert key value rest

/-- Puts every member of the second bag into the first. -/
def extend (bag more : Bag) : Bag :=
  more.foldl (fun acc member => insert member.1 member.2 acc) bag

/-- The bag with the given members; of members with the same key the last counts. -/
def ofList (members : List (String × Json)) : Bag :=
  extend [] members

end Bag

namespace Json

/-- An integer as a JSON value. -/
def ofInt (n : Int) : Json :=
  .number (.integer n)

/-- The string in a value. -/
def string? : Json → Option String
  | .string s => some s
  | _ => none

/-- The object in a value. -/
def object? : Json → Option Bag
  | .object members => some members
  | _ => none

/-- The number as a double. -/
def Number.toDouble : Number → Double
  | .integer n => Double.ofInt n
  | .double x => x

/-- The number as a signed 64-bit integer.  A double is cut toward zero; what
lies outside the range becomes the nearest end of it. -/
def Number.toInteger : Number → Int
  | .integer n =>
    if Text.Range.signed64.contains n then n
    else (Double.ofInt n).truncateWithin Text.Range.signed64.least Text.Range.signed64.greatest
  | .double x => x.truncateWithin Text.Range.signed64.least Text.Range.signed64.greatest

end Json

end EventFlow
