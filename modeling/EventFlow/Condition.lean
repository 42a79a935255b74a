import EventFlow.Double.Reading
import EventFlow.Json.Printer
import EventFlow.Text.Blank
import EventFlow.Text.Pieces

/-!
# Conditions

A condition compares a variable with a constant.  The conditions of a gate are
combined with *and*.  Equality compares texts, so the integer `1` equals the
string `"1"` and differs from the double `1.0`; the ordering operators compare
numbers.
-/

namespace EventFlow

open EventFlow.Text

/-- A single comparison: the variable it is about, an operator and a constant. -/
structure Condition where
  subject : String
  operator : String
  value : Json

namespace Condition

/-- The comparisons that a condition may ask for. -/
inductive Operator where
  | equal
  | notEqual
  | greater
  | greaterOrEqual
  | less
  | lessOrEqual
  | contains
  deriving DecidableEq, Repr

/-- The operator of a name; most have two. -/
def Operator.ofName? (name : String) : Option Operator :=
  if name = "eq" ∨ name = "==" then some .equal
  else if name = "ne" ∨ name = "!=" then some .notEqual
  else if name = "gt" ∨ name = ">" then some .greater
  else if name = "gte" ∨ name = ">=" then some .greaterOrEqual
  else if name = "lt" ∨ name = "<" then some .less
  else if name = "lte" ∨ name = "<=" then some .lessOrEqual
  else if name = "contains" then some .contains
  else none

/-- The number that a value stands for in a comparison: a number itself, a text
that writes one, and zero for everything else. -/
def comparedNumber : Json → Double
  | .number n => n.toDouble
  | .string s => (Double.read? (trimChars s.toList)).getD (Double.zero false)
  | _ => Double.zero false

/-- The order of the numbers that two values stand for. -/
def numericOrder? (value expected : Json) : Option Ordering :=
  (comparedNumber value).compare? (comparedNumber expected)

/-- Applies an operator. -/
def Operator.apply (operator : Operator) (value expected : Json) : Bool :=
  match operator with
  | .equal => value.display == expected.display
  | .notEqual => value.display != expected.display
  | .greater => numericOrder? value expected == some .gt
  | .greaterOrEqual => ((numericOrder? value expected).map Ordering.isGE).getD false
  | .less => numericOrder? value expected == some .lt
  | .lessOrEqual => ((numericOrder? value expected).map Ordering.isLE).getD false
  | .contains =>
    let haystack := value.display
    let needle := expected.display
    haystack != "" && needle != "" && holds needle.toList haystack.toList

/-- Applies the operator of a name; an unknown name compares nothing and is false. -/
def compare (value : Json) (operator : String) (expected : Json) : Bool :=
  match Operator.ofName? operator with
  | some op => op.apply value expected
  | none => false

/-- Does the condition hold of the variables?  A missing variable fails it. -/
def holds (condition : Condition) (vars : Bag) : Bool :=
  match vars.get? condition.subject with
  | some value => compare value condition.operator condition.value
  | none => false

/-- Do all conditions hold of the variables? -/
def allHold (conditions : List Condition) (vars : Bag) : Bool :=
  conditions.all fun condition => condition.holds vars

end Condition

end EventFlow
