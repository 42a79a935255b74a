import EventFlow.Double.Basic

/-!
# Shortest decimal digits

Every finite double is the nearest one to an interval of reals.  Its shortest
decimal form has as few significant digits as any decimal in that interval, and
of the decimals with so few digits it is the nearest to the double itself.

The search goes through the decimal grids with 1, 2, … 17 significant digits.
On each grid only the two neighbours of the value matter: if some grid point
lies in the interval, so does one of them.
-/

namespace EventFlow.Double

/-- A positive decimal number `digits * 10 ^ exponent`. -/
structure Decimal where
  digits : Nat
  exponent : Int
  deriving DecidableEq, Repr

/-- The interval of reals that round to a double, in units of `2 ^ (exponent - 2)`:
the least and the greatest of them, and whether these two belong to it. -/
structure Interval where
  least : Nat
  value : Nat
  greatest : Nat
  closed : Bool

/-- The interval of a positive finite double.  Below a power of two the next
double is only half as far away. -/
def intervalOf (mantissa : Nat) (exponent : Int) : Interval :=
  let below := if mantissa = Nat.pow 2 (precision - 1) ∧ exponent > leastExponent then 1 else 2
  { least := 4 * mantissa - below
    value := 4 * mantissa
    greatest := 4 * mantissa + 2
    closed := mantissa % 2 = 0 }

/-- A quotient divided by a power of ten, as numerator and denominator. -/
def scaleByPowerOfTen (num den : Nat) (k : Int) : Nat × Nat :=
  if k ≥ 0 then (num, den * Nat.pow 10 k.toNat) else (num * Nat.pow 10 (-k).toNat, den)

/-- The number of decimal digits before the point of a quotient that is at
least one, or minus the number of zeros behind the point of a smaller one. -/
def decimalPlaces (num den : Nat) : Int :=
  if num ≥ den then (Nat.toDigits 10 (num / den)).length
  else
    let k := (Nat.toDigits 10 (den / num)).length
    let (n, d) := scaleByPowerOfTen num den (-(k : Int))
    if n ≥ 10 * d then 2 - (k : Int) else if n ≥ d then 1 - (k : Int) else -(k : Int)

/-- The grid point next to the value that lies in the interval, if there is one:
the nearer of two, and of two equally near the even one. -/
def gridPoint? (i : Interval) (unit : Nat × Nat) (step : Int) : Option Nat :=
  let (num, den) := scaleByPowerOfTen unit.1 unit.2 step
  let below := i.value * num / den
  let inside (k : Nat) : Bool :=
    if i.closed then i.least * num ≤ k * den && k * den ≤ i.greatest * num
    else i.least * num < k * den && k * den < i.greatest * num
  let toBelow := i.value * num - below * den
  let toAbove := (below + 1) * den - i.value * num
  match inside below, inside (below + 1) with
  | true, true =>
    if toBelow < toAbove then some below
    else if toAbove < toBelow then some (below + 1)
    else if below % 2 = 0 then some below else some (below + 1)
  | true, false => some below
  | false, true => some (below + 1)
  | false, false => none

/-- Removes zeros at the end of the digits. -/
def stripZeros : Nat → Decimal → Decimal
  | 0, d => d
  | fuel + 1, d =>
    if d.digits ≠ 0 ∧ d.digits % 10 = 0 then
      stripZeros fuel ⟨d.digits / 10, d.exponent + 1⟩
    else d

/-- Tries the grids from `count` significant digits on. -/
def searchGrids (i : Interval) (unit : Nat × Nat) (places : Int) : Nat → Nat → Decimal
  | 0, _ => ⟨0, 0⟩
  | fuel + 1, count =>
    let step := places - count
    match gridPoint? i unit step with
    | some (k + 1) => stripZeros 20 ⟨k + 1, step⟩
    | _ => searchGrids i unit places fuel (count + 1)

/-- The shortest decimal form of a positive finite double. -/
def shortest (mantissa : Nat) (exponent : Int) : Decimal :=
  let i := intervalOf mantissa exponent
  let unit := scaleByPowerOfTwo 1 1 (exponent - 2)
  let places := decimalPlaces (i.value * unit.1) unit.2
  searchGrids i unit places 20 1

/-- The digits as characters. -/
def Decimal.chars (d : Decimal) : List Char :=
  Nat.toDigits 10 d.digits

/-- The number of digits before the decimal point in positional notation. -/
def Decimal.pointPosition (d : Decimal) : Int :=
  d.chars.length + d.exponent

/-- Positional notation: digits before the point, and digits behind it. -/
def Decimal.positional (d : Decimal) : List Char × List Char :=
  let point := d.pointPosition
  if point ≤ 0 then (['0'], List.replicate (-point).toNat '0' ++ d.chars)
  else if d.exponent ≥ 0 then (d.chars ++ List.replicate d.exponent.toNat '0', [])
  else (d.chars.take point.toNat, d.chars.drop point.toNat)

end EventFlow.Double
