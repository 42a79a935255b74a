/-!
# Decimal digits

Runs of ASCII digits as natural numbers, and signed integers within bounds.
An integer is an optional sign and at least one digit; leading zeros are
allowed.  `readInteger` also tells why a text is no integer of the range.
-/

namespace EventFlow.Text

/-- Two to the power of 64: the values of a machine word lie below it. -/
def wordLimit : Nat := 18446744073709551616

/-- The value of an ASCII digit. -/
def digitValue (c : Char) : Nat :=
  c.toNat - '0'.toNat

/-- The number that a run of digits writes, on top of the digits already read. -/
def digitsValueFrom (start : Nat) (ds : List Char) : Nat :=
  ds.foldl (fun n c => 10 * n + digitValue c) start

/-- The number that a run of digits writes. -/
def digitsValue (ds : List Char) : Nat :=
  digitsValueFrom 0 ds

/-- A natural number in digits, when the characters are digits and at least one. -/
def readNat? (cs : List Char) : Option Nat :=
  if cs ≠ [] ∧ cs.all Char.isDigit then some (digitsValue cs) else none

/-- Why a text is no integer of a given range. -/
inductive IntegerFault where
  | empty
  | badDigit
  | tooLarge
  | tooSmall
  deriving DecidableEq, Repr

/-- The reason in words. -/
def IntegerFault.message : IntegerFault → String
  | .empty => "cannot parse integer from empty string"
  | .badDigit => "invalid digit found in string"
  | .tooLarge => "number too large to fit in target type"
  | .tooSmall => "number too small to fit in target type"

/-- An inclusive range of integers. -/
structure Range where
  least : Int
  greatest : Int
  deriving DecidableEq, Repr

namespace Range

/-- Does the integer lie in the range? -/
def contains (r : Range) (n : Int) : Bool :=
  r.least ≤ n && n ≤ r.greatest

/-- Signed 64-bit integers. -/
def signed64 : Range := ⟨-9223372036854775808, 9223372036854775807⟩

/-- Unsigned 64-bit integers. -/
def unsigned64 : Range := ⟨0, 18446744073709551615⟩

/-- Unsigned 32-bit integers. -/
def unsigned32 : Range := ⟨0, 4294967295⟩

end Range

/-- Checks a magnitude and a sign against a range. -/
def withinRange (r : Range) (negative : Bool) (magnitude : Nat) : Except IntegerFault Int :=
  let n : Int := if negative then -(magnitude : Int) else magnitude
  if n > r.greatest then .error .tooLarge
  else if n < r.least then .error .tooSmall
  else .ok n

/-- Reads an optional sign and digits as an integer of the range.  Nothing is
trimmed.  Characters are judged from the left: a run of digits that leaves the
range is reported before a bad character behind it. -/
def readInteger (r : Range) (cs : List Char) : Except IntegerFault Int :=
  match cs with
  | [] => .error .empty
  | c :: rest =>
    let body := if c = '+' ∨ c = '-' then rest else c :: rest
    let digits := body.takeWhile Char.isDigit
    match withinRange r (c = '-') (digitsValue digits) with
    | .error fault => .error fault
    | .ok n => if digits = [] ∨ digits ≠ body then .error .badDigit else .ok n

/-- The integer of the range that the characters write, if they write one. -/
def readInteger? (r : Range) (cs : List Char) : Option Int :=
  (readInteger r cs).toOption

/-- An array index as it is written in a path: an optional plus sign and
digits, below two to the power of 64. -/
def readIndex? (cs : List Char) : Option Nat :=
  let body := match cs with
    | '+' :: rest => rest
    | _ => cs
  (readNat? body).filter (· < wordLimit)

end EventFlow.Text
