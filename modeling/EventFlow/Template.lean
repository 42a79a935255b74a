import EventFlow.Json.Printer
import EventFlow.Text.Pieces

/-!
# Templates

The parameters of a node may hold placeholders, names between double braces.
Before the node runs they are filled from the variables of the execution.  A
renderer fills the placeholders of one text; rendering a value applies it to
every string inside and leaves all else as it is.
-/

namespace EventFlow

open EventFlow.Text

/-- Fills the placeholders of a text from a bag of variables. -/
abbrev Renderer : Type := String → Bag → String

namespace Template

/-- The placeholder of a variable. -/
def placeholder (key : String) : List Char :=
  '\x7b' :: '\x7b' :: key.toList ++ ['\x7d', '\x7d']

/-- Fills the placeholders of one variable. -/
def fillOne (text : List Char) (entry : String × Json) : List Char :=
  replaceAll (placeholder entry.1) entry.2.display.toList text

/-- Fills the placeholders of every variable, one variable after the other in
the order of the keys.  Placeholders of unknown variables stay. -/
def fill : Renderer := fun template vars =>
  if holds ['\x7b', '\x7b'] template.toList then
    String.ofList (vars.foldl fillOne template.toList)
  else template

end Template

namespace Renderer

mutual

/-- Renders every string inside a value. -/
def value (renderer : Renderer) (vars : Bag) : Json → Json
  | .string s => .string (renderer s vars)
  | .array items => .array (renderer.items vars items)
  | .object members => .object (renderer.members vars members)
  | .null => .null
  | .bool b => .bool b
  | .number n => .number n

/-- Renders the items of an array. -/
def items (renderer : Renderer) (vars : Bag) : List Json → List Json
  | [] => []
  | item :: rest => renderer.value vars item :: renderer.items vars rest

/-- Renders the values of the members of an object. -/
def members (renderer : Renderer) (vars : Bag) :
    List (String × Json) → List (String × Json)
  | [] => []
  | (key, item) :: rest =>
    (key, renderer.value vars item) :: renderer.members vars rest

end

/-- Renders every parameter. -/
def params (renderer : Renderer) (vars params : Bag) : Bag :=
  renderer.members vars params

end Renderer

end EventFlow
