import EventFlow.Double.Basic
import EventFlow.Text.Digits

/-!
# Reading decimal text as a double

The accepted texts are an optional sign followed by `inf`, `infinity` or `nan`
in any case, or by decimal digits with an optional point and an optional
exponent, with at least one digit before or behind the point.  The value is the
double nearest to the written decimal.
-/

namespace EventFlow.Double

open EventFlow.Text

/-- ASCII lower case of a run of characters. -/
private def lowered (cs : List Char) : List Char :=
  cs.map Char.toLower

/-- The value of an exponent: an optional sign and at least one digit. -/
def readExponent? (cs : List Char) : Option Int :=
  match cs with
  | '+' :: ds => (readNat? ds).map Int.ofNat
  | '-' :: ds => (readNat? ds).map fun n => -(n : Int)
  | ds => (readNat? ds).map Int.ofNat

/-- Reads an unsigned decimal number: digits, an optional point with digits
behind it, and an optional exponent. -/
def readUnsigned? (negative : Bool) (cs : List Char) : Option Double :=
  let whole := cs.takeWhile Char.isDigit
  let rest := cs.dropWhile Char.isDigit
  let (fraction, rest) := match rest with
    | '.' :: more => (more.takeWhile Char.isDigit, more.dropWhile Char.isDigit)
    | _ => ([], rest)
  let digits := whole ++ fraction
  if digits = [] then none
  else
    let exponent? := match rest with
      | [] => some 0
      | c :: more => if c = 'e' ∨ c = 'E' then readExponent? more else none
    exponent?.map fun exponent =>
      ofDecimal negative (digitsValue digits) (exponent - fraction.length)

/-- Reads a decimal text, with the spellings of infinity and not-a-number. -/
def read? (cs : List Char) : Option Double :=
  let (negative, body) := match cs with
    | '-' :: rest => (true, rest)
    | '+' :: rest => (false, rest)
    | _ => (false, cs)
  let word := lowered body
  if word = "inf".toList ∨ word = "infinity".toList then some (.infinite negative)
  else if word = "nan".toList then some .nan
  else readUnsigned? negative body

end EventFlow.Double
