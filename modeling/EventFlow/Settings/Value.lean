import EventFlow.Double.Positional
import EventFlow.Double.Reading
import EventFlow.Text.Digits
import EventFlow.Text.Pieces

/-!
# Values of variables

Values are read as truth values, integers, numbers or texts, whichever fits
first, and are then converted to what a field holds.
-/

namespace EventFlow

open EventFlow.Text

/-- The value of a variable. -/
inductive EnvironmentValue where
  | bool (value : Bool)
  | integer (value : Int)
  | double (value : Double)
  | text (value : String)
  deriving DecidableEq, Repr

namespace EnvironmentValue

/-- The text in ASCII lower case. -/
def lowered (s : String) : String :=
  String.ofList (s.toList.map Char.toLower)

/-- Reads the value of a variable. -/
def ofText (s : String) : EnvironmentValue :=
  let cs := s.toList
  if lowered s = "true" then .bool true
  else if lowered s = "false" then .bool false
  else
    match readInteger? Range.signed64 cs with
    | some n => .integer n
    | none =>
      match Double.read? cs with
      | some x => .double x
      | none => .text s

/-- The truth value that a word stands for. -/
def wordValue? (s : String) : Option Bool :=
  let word := lowered s
  if word = "1" ∨ word = "true" ∨ word = "on" ∨ word = "yes" then some true
  else if word = "0" ∨ word = "false" ∨ word = "off" ∨ word = "no" then some false
  else none

/-- The value as a truth value; numbers other than zero are true. -/
def toBool? : EnvironmentValue → Option Bool
  | .bool b => some b
  | .integer n => some (n != 0)
  | .double x => some (!x.isZero)
  | .text s => wordValue? s

/-- The value as an integer.  Doubles are rounded and moved into the wide range
before the range of the field is asked for. -/
def toInteger? (wide range : Range) (value : EnvironmentValue) : Option Int :=
  let n? := match value with
    | .bool b => some (if b then (1 : Int) else 0)
    | .integer n => some n
    | .double x => some (x.roundWithin wide.least wide.greatest)
    | .text s => (wordValue? s).map fun (b : Bool) => if b then (1 : Int) else 0
  n?.filter range.contains

/-- The value as a text. -/
def toText : EnvironmentValue → String
  | .bool b => if b then "true" else "false"
  | .integer n => toString n
  | .double x => x.positionalText
  | .text s => s

end EnvironmentValue

end EventFlow
