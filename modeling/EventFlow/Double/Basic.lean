/-!
# Double-precision numbers

A `Double` is a value of the binary interchange format of 64 bits, written out
as what it means: a sign, a mantissa and a binary exponent, or an infinity, or
not a number.  `Double.ofRatio` rounds an exact quotient of natural numbers to
the nearest double, a tie to the even mantissa, and every operation of this
file is its exact result rounded once by it.

The finite doubles that `ofRatio` makes are canonical: the mantissa is below
`2 ^ 53`, the exponent at least `-1074`, and the mantissa reaches `2 ^ 52`
unless the exponent is the least one.  So two canonical doubles are the same
value exactly when they are equal as data.
-/

namespace EventFlow

/-- A double-precision number: `finite` stands for `± mantissa * 2 ^ exponent`. -/
inductive Double where
  | finite (negative : Bool) (mantissa : Nat) (exponent : Int)
  | infinite (negative : Bool)
  | nan
  deriving DecidableEq, Repr

namespace Double

/-- The number of bits of a mantissa. -/
def precision : Nat := 53

/-- The least binary exponent. -/
def leastExponent : Int := -1074

/-- The greatest binary exponent. -/
def greatestExponent : Int := 971

/-- Zero with a sign. -/
def zero (negative : Bool) : Double :=
  .finite negative 0 leastExponent

/-- The natural number nearest to a quotient, of two equally near the even one. -/
def roundHalfEven (num den : Nat) : Nat :=
  let q := num / den
  let r := num % den
  if 2 * r < den then q
  else if 2 * r > den then q + 1
  else if q % 2 = 0 then q else q + 1

/-- A quotient times a power of two, as numerator and denominator. -/
def scaleByPowerOfTwo (num den : Nat) (k : Int) : Nat × Nat :=
  if k ≥ 0 then (num * Nat.pow 2 k.toNat, den) else (num, den * Nat.pow 2 (-k).toNat)

/-- The greatest `k` with `2 ^ k ≤ num / den`, for positive numbers. -/
def floorLog2 (num den : Nat) : Int :=
  let k : Int := (num.log2 : Int) - den.log2
  let (n, d) := scaleByPowerOfTwo num den (-k)
  if n < d then k - 1 else k

/-- The double nearest to `± num / den`, ties to even; too large a magnitude
becomes infinite and one that is too small becomes zero. -/
def ofRatio (negative : Bool) (num den : Nat) : Double :=
  if num = 0 ∨ den = 0 then zero negative
  else
    let e := max (floorLog2 num den - (precision - 1)) leastExponent
    let (n, d) := scaleByPowerOfTwo num den (-e)
    let m := roundHalfEven n d
    let (m, e) := if m = Nat.pow 2 precision then (Nat.pow 2 (precision - 1), e + 1) else (m, e)
    if m = 0 then zero negative
    else if e > greatestExponent then .infinite negative
    else .finite negative m e

/-- The double nearest to an integer. -/
def ofInt (n : Int) : Double :=
  ofRatio (n < 0) n.natAbs 1

/-- The double nearest to `± digits * 10 ^ exponent`.  Exponents far outside the
range of doubles are decided without computing the power. -/
def ofDecimal (negative : Bool) (digits : Nat) (exponent : Int) : Double :=
  if digits = 0 then zero negative
  else
    let magnitude : Int := (Nat.toDigits 10 digits).length + exponent
    if magnitude > 400 then .infinite negative
    else if magnitude < -400 then zero negative
    else if exponent ≥ 0 then ofRatio negative (digits * Nat.pow 10 exponent.toNat) 1
    else ofRatio negative digits (Nat.pow 10 (-exponent).toNat)

/-- The same number with the other sign. -/
def neg : Double → Double
  | .finite s m e => .finite (!s) m e
  | .infinite s => .infinite (!s)
  | .nan => .nan

/-- Is the number an infinity? -/
def isInfinite : Double → Bool
  | .infinite _ => true
  | _ => false

/-- Is the number zero of either sign? -/
def isZero : Double → Bool
  | .finite _ m _ => m == 0
  | _ => false

/-- The exact product, rounded once. -/
def mul : Double → Double → Double
  | .finite s m e, .finite t n f =>
    let (num, den) := scaleByPowerOfTwo (m * n) 1 (e + f)
    ofRatio (s != t) num den
  | .nan, _ => .nan
  | _, .nan => .nan
  | .infinite s, .infinite t => .infinite (s != t)
  | .infinite s, .finite t n _ => if n = 0 then .nan else .infinite (s != t)
  | .finite s m _, .infinite t => if m = 0 then .nan else .infinite (s != t)

/-- The exact quotient, rounded once. -/
def div : Double → Double → Double
  | .finite s m e, .finite t n f =>
    if n = 0 then (if m = 0 then .nan else .infinite (s != t))
    else
      let (num, den) := scaleByPowerOfTwo m n (e - f)
      ofRatio (s != t) num den
  | .nan, _ => .nan
  | _, .nan => .nan
  | .infinite _, .infinite _ => .nan
  | .infinite s, .finite t _ _ => .infinite (s != t)
  | .finite s _ _, .infinite t => zero (s != t)

/-- A finite double as an integer times `2 ^ leastExponent`. -/
def scaledValue (negative : Bool) (mantissa : Nat) (exponent : Int) : Int :=
  let magnitude := mantissa * Nat.pow 2 (exponent - leastExponent).toNat
  if negative then -(magnitude : Int) else magnitude

/-- The exact sum, rounded once. -/
def add : Double → Double → Double
  | .finite s m e, .finite t n f =>
    let sum := scaledValue s m e + scaledValue t n f
    if sum = 0 then zero (s && t)
    else ofRatio (sum < 0) sum.natAbs (Nat.pow 2 (-leastExponent).toNat)
  | .nan, _ => .nan
  | _, .nan => .nan
  | .infinite s, .infinite t => if s = t then .infinite s else .nan
  | .infinite s, .finite _ _ _ => .infinite s
  | .finite _ _ _, .infinite t => .infinite t

/-- The order of two numbers; there is none when one of them is not a number. -/
def compare? : Double → Double → Option Ordering
  | .nan, _ => none
  | _, .nan => none
  | .infinite s, .infinite t => some (compare t s)
  | .infinite s, .finite _ _ _ => some (if s then .lt else .gt)
  | .finite _ _ _, .infinite t => some (if t then .gt else .lt)
  | .finite s m e, .finite t n f => some (compare (scaledValue s m e) (scaledValue t n f))

/-- The integer part, toward zero. -/
def truncate (negative : Bool) (mantissa : Nat) (exponent : Int) : Int :=
  let magnitude : Nat :=
    if exponent ≥ 0 then mantissa * Nat.pow 2 exponent.toNat
    else mantissa / Nat.pow 2 (-exponent).toNat
  if negative then -(magnitude : Int) else magnitude

/-- An integer moved into a range. -/
def clamp (least greatest n : Int) : Int :=
  max least (min greatest n)

/-- The integer part within a range; not a number becomes zero. -/
def truncateWithin (least greatest : Int) : Double → Int
  | .finite s m e => clamp least greatest (truncate s m e)
  | .infinite s => if s then least else greatest
  | .nan => 0

/-- The nearest integer, a half away from zero, within a range; not a number
becomes zero. -/
def roundWithin (least greatest : Int) : Double → Int
  | .finite s m e =>
    let magnitude : Nat :=
      if e ≥ 0 then m * Nat.pow 2 e.toNat
      else (2 * m + Nat.pow 2 (-e).toNat) / Nat.pow 2 ((-e).toNat + 1)
    clamp least greatest (if s then -(magnitude : Int) else magnitude)
  | .infinite s => if s then least else greatest
  | .nan => 0

end Double

end EventFlow
