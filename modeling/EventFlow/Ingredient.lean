import EventFlow.Json.Access

/-!
# Ingredients

An ingredient names a variable and the path at which an incoming event holds
its value.  Paths start at an object with two members: `payload`, the event,
and `item`, one piece of it for triggers that make several events out of one
answer.
-/

namespace EventFlow

/-- How to take one variable out of an event. -/
structure Ingredient where
  name : String
  path : String
  required : Bool
  description : String
  deriving DecidableEq, Repr

/-- Why the ingredients of an event cannot be taken. -/
inductive IngredientError where
  | pathRequired (name : String)
  | notFound (name path : String)
  deriving DecidableEq, Repr

/-- The error in words. -/
def IngredientError.message : IngredientError → String
  | .pathRequired name => s!"ingredient '{name}' path is required"
  | .notFound name path => s!"ingredient '{name}' not found at path '{path}'"

namespace Ingredient

/-- An ingredient that may be missing. -/
def optional (name path : String) : Ingredient :=
  ⟨name, path, false, ""⟩

/-- The ingredient, made required. -/
def asRequired (ingredient : Ingredient) : Ingredient :=
  { ingredient with required := true }

/-- The value that the paths of ingredients start at. -/
def root (payload : Bag) (item : Option Json) : Json :=
  .object (item.elim [("payload", .object payload)] fun value =>
    [("item", value), ("payload", .object payload)])

/-- Takes one ingredient: a value, or nothing when it may be missing. -/
def take (event : Json) (ingredient : Ingredient) : Except IngredientError (Option Json) :=
  if ingredient.path = "" then
    if ingredient.required then .error (.pathRequired ingredient.name) else .ok none
  else
    match event.lookup? ingredient.path with
    | some value => .ok (some value)
    | none =>
      if ingredient.required then .error (.notFound ingredient.name ingredient.path)
      else .ok none

/-- Takes the ingredients that have a name, in order, on top of those already
taken.  Of two with the same name the later value counts. -/
def takeAll (event : Json) : Bag → List Ingredient → Except IngredientError Bag
  | taken, [] => .ok taken
  | taken, ingredient :: rest =>
    if ingredient.name = "" then takeAll event taken rest
    else
      match ingredient.take event with
      | .error fault => .error fault
      | .ok none => takeAll event taken rest
      | .ok (some value) => takeAll event (Bag.insert ingredient.name value taken) rest

/-- Takes the ingredients of an event. -/
def extract (payload : Bag) (item : Option Json) (ingredients : List Ingredient) :
    Except IngredientError Bag :=
  takeAll (root payload item) [] ingredients

end Ingredient

end EventFlow
