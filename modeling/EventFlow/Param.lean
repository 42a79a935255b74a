import EventFlow.Json.Access
import EventFlow.Pattern.Parser
import EventFlow.Text.Quoted

/-!
# Declared parameters

An action declares the parameters that it takes.  Before it runs, the rendered
parameters of its node are checked against the declarations, and all problems
are reported together, one for each name.  A declared pattern that cannot be
read is an error of the declaration and is reported at once.
-/

namespace EventFlow

/-- The type that a parameter must have. -/
inductive ParamType where
  | string
  | number
  | bool
  | object
  | array
  | any
  deriving DecidableEq, Repr

/-- The name of the type in records. -/
def ParamType.name : ParamType → String
  | .string => "string"
  | .number => "number"
  | .bool => "bool"
  | .object => "object"
  | .array => "array"
  | .any => "any"

/-- A declared parameter.  An empty list of choices and an empty pattern ask for
nothing. -/
structure ParamSpec where
  name : String
  paramType : ParamType
  required : Bool
  description : String
  choices : List String
  pattern : String
  deriving DecidableEq, Repr

/-- A parameter of which only the name and the type are declared. -/
def ParamSpec.create (name : String) (paramType : ParamType) : ParamSpec :=
  ⟨name, paramType, false, "", [], ""⟩

/-- What is wrong with one parameter. -/
inductive ParamProblem where
  | missing
  | notString
  | notChoice (choices : List String)
  | noMatch
  | notNumber
  | notBool
  | notObject
  | notArray
  deriving DecidableEq, Repr

/-- The problem in words. -/
def ParamProblem.message : ParamProblem → String
  | .missing => "is required"
  | .notString => "must be a string"
  | .notChoice choices => "must be one of " ++ Text.quotedList choices
  | .noMatch => "does not match pattern"
  | .notNumber => "must be a number"
  | .notBool => "must be a boolean"
  | .notObject => "must be an object"
  | .notArray => "must be an array"

/-- The problems of some fields, sorted by field, one for each. -/
structure ValidationError where
  fields : List (String × String)
  deriving DecidableEq, Repr

namespace ValidationError

/-- Records the problem of a field in its place, instead of an earlier one. -/
def record (name problem : String) : List (String × String) → List (String × String)
  | [] => [(name, problem)]
  | (n, p) :: rest =>
    if name = n then (name, problem) :: rest
    else if name < n then (name, problem) :: (n, p) :: rest
    else (n, p) :: record name problem rest

/-- The problem of a field. -/
def field? (e : ValidationError) (name : String) : Option String :=
  e.fields.lookup name

/-- The error in words. -/
def message (e : ValidationError) : String :=
  match e.fields with
  | [] => "validation failed"
  | fields =>
    "validation failed: " ++
      ", ".intercalate (fields.map fun field => field.1 ++ " " ++ field.2)

end ValidationError

/-- Why parameters are refused.  The reason why a pattern cannot be read is left
to the reader of patterns. -/
inductive ParamError where
  | validation (e : ValidationError)
  | invalidPattern (name reason : String)
  deriving DecidableEq, Repr

/-- The error in words. -/
def ParamError.message : ParamError → String
  | .validation e => e.message
  | .invalidPattern name reason => s!"invalid pattern for '{name}': {reason}"

/-- A test for each pattern that can be read, and the reason why any other cannot. -/
abbrev PatternReader : Type := String → Except String (String → Bool)

/-- The reader of the patterns of this library. -/
def Pattern.reader : PatternReader := fun pattern =>
  match matcher? pattern with
  | none => .error "the pattern cannot be read"
  | some test => .ok test

namespace ParamSpec

/-- What is wrong with a text.  A pattern that cannot be read is an error. -/
def checkString (reader : PatternReader) (spec : ParamSpec) (s : String) :
    Except ParamError (Option ParamProblem) :=
  if spec.choices ≠ [] ∧ s ∉ spec.choices then .ok (some (.notChoice spec.choices))
  else if spec.pattern = "" then .ok none
  else
    match reader spec.pattern with
    | .error reason => .error (.invalidPattern spec.name reason)
    | .ok test => .ok (if test s then none else some .noMatch)

/-- What is wrong with a value that is there. -/
def checkValue (reader : PatternReader) (spec : ParamSpec) (value : Json) :
    Except ParamError (Option ParamProblem) :=
  match spec.paramType, value with
  | .string, .string s => spec.checkString reader s
  | .string, _ => .ok (some .notString)
  | .number, .number _ => .ok none
  | .number, _ => .ok (some .notNumber)
  | .bool, .bool _ => .ok none
  | .bool, _ => .ok (some .notBool)
  | .object, .object _ => .ok none
  | .object, _ => .ok (some .notObject)
  | .array, .array _ => .ok none
  | .array, _ => .ok (some .notArray)
  | .any, _ => .ok none

/-- What is wrong with the parameter of a declaration.  Null counts as missing. -/
def check (reader : PatternReader) (spec : ParamSpec) (params : Bag) :
    Except ParamError (Option ParamProblem) :=
  match params.get? spec.name with
  | none => .ok (if spec.required then some .missing else none)
  | some .null => .ok (if spec.required then some .missing else none)
  | some value => spec.checkValue reader value

/-- Checks the parameters against the declarations that have a name, in order,
on top of the problems already found. -/
def checkAll (reader : PatternReader) (params : Bag) (problems : List (String × String)) :
    List ParamSpec → Except ParamError (List (String × String))
  | [] => .ok problems
  | spec :: rest =>
    if spec.name = "" then checkAll reader params problems rest
    else
      match spec.check reader params with
      | .error e => .error e
      | .ok none => checkAll reader params problems rest
      | .ok (some problem) =>
        checkAll reader params (ValidationError.record spec.name problem.message problems) rest

/-- Checks parameters against declarations, with a reader of patterns. -/
def validateWith (reader : PatternReader) (params : Bag) (specs : List ParamSpec) :
    Except ParamError Unit :=
  match checkAll reader params [] specs with
  | .error e => .error e
  | .ok [] => .ok ()
  | .ok fields => .error (.validation ⟨fields⟩)

/-- Checks parameters against declarations. -/
def validate (params : Bag) (specs : List ParamSpec) : Except ParamError Unit :=
  validateWith Pattern.reader params specs

end ParamSpec

end EventFlow
