import EventFlow.Double.Shortest
import EventFlow.Json.Basic

/-!
# Compact JSON text

The text of a value has no blanks between its parts.  In a string only the
quotation mark, the backslash and the characters below U+0020 are escaped.  A
double is written with its shortest digits: in positional notation from `1e-5`
up to `1e16`, and with an exponent of explicit sign otherwise.
-/

namespace EventFlow.Json

/-- The hexadecimal digits of a number, in lower case, padded with zeros. -/
def hexDigits (width n : Nat) : List Char :=
  let ds := Nat.toDigits 16 n
  List.replicate (width - ds.length) '0' ++ ds

/-- A character as it stands in a JSON string. -/
def escapeChar (c : Char) : List Char :=
  if c = '"' then ['\\', '"']
  else if c = '\\' then ['\\', '\\']
  else if c = '\x08' then ['\\', 'b']
  else if c = '\x0c' then ['\\', 'f']
  else if c = '\n' then ['\\', 'n']
  else if c = '\r' then ['\\', 'r']
  else if c = '\t' then ['\\', 't']
  else if c.toNat < 32 then '\\' :: 'u' :: hexDigits 4 c.toNat
  else [c]

/-- A string in quotation marks. -/
def quote (s : String) : String :=
  String.ofList ('"' :: s.toList.flatMap escapeChar ++ ['"'])

/-- How doubles are written: the positions of the decimal point for which the
notation is positional. -/
structure DoubleFormat where
  leastPoint : Int
  greatestPoint : Int

/-- Positional from `1e-5` (point before four zeros) up to below `1e16`. -/
def doubleFormat : DoubleFormat := ⟨-4, 16⟩

/-- A positive double with the given shortest form. -/
def renderDecimal (format : DoubleFormat) (d : Double.Decimal) : String :=
  let point := d.pointPosition
  if format.leastPoint ≤ point ∧ point ≤ format.greatestPoint then
    let (whole, fraction) := d.positional
    String.ofList (whole ++ '.' :: if fraction = [] then ['0'] else fraction)
  else
    let exponent := point - 1
    let mantissa := match d.chars with
      | c :: [] => [c]
      | c :: more => c :: '.' :: more
      | [] => ['0']
    String.ofList (mantissa ++ 'e' :: (if exponent < 0 then '-' else '+') ::
      Nat.toDigits 10 exponent.natAbs)

/-- The text of a double.  Infinities and not-a-number are no JSON values and
are written as null. -/
def renderDouble : Double → String
  | .finite s m e =>
    let magnitude := if m = 0 then "0.0" else renderDecimal doubleFormat (Double.shortest m e)
    if s then "-" ++ magnitude else magnitude
  | _ => "null"

/-- The text of a number. -/
def Number.render : Number → String
  | .integer n => toString n
  | .double x => renderDouble x

mutual

/-- The compact text of a value. -/
def render : Json → String
  | .null => "null"
  | .bool b => if b then "true" else "false"
  | .number n => n.render
  | .string s => quote s
  | .array items => "[" ++ renderItems items ++ "]"
  | .object members => "\x7b" ++ renderMembers members ++ "\x7d"

/-- The items of an array, separated by commas. -/
def renderItems : List Json → String
  | [] => ""
  | [item] => render item
  | item :: rest => render item ++ "," ++ renderItems rest

/-- The members of an object, separated by commas. -/
def renderMembers : List (String × Json) → String
  | [] => ""
  | [(key, value)] => quote key ++ ":" ++ render value
  | (key, value) :: rest => quote key ++ ":" ++ render value ++ "," ++ renderMembers rest

end

/-- A value as it is put into text: a string as it is, any other value as its
compact text. -/
def display : Json → String
  | .string s => s
  | value => value.render

end EventFlow.Json
