import EventFlow.Json.Basic

/-!
# Number and string literals in JSON text

A literal is looked at in two ways.  *Scanning* only finds where it ends.
*Reading* also computes its value, and refuses more: a number that no double
reaches, and a half of a surrogate pair that stands alone.  A value that nobody
asks for is only scanned.

The value of a double is computed from the first digits that fit into 64 bits
and a power of ten, in double arithmetic.
-/

namespace EventFlow.Json

open EventFlow.Text

/-- Why a text is no JSON: it is malformed somewhere, or it ends too early. -/
inductive Fault where
  | malformed
  | unfinished
  deriving DecidableEq, Repr

/-- A literal: its value, or what keeps it from having one, and what keeps it
from being scanned at all. -/
structure Literal (α : Type) where
  value : Except Fault α
  scanFault : Option Fault

/-! ## Numbers -/

/-- Scans the digits of an exponent, behind the letter. -/
def scanExponent (cs : List Char) : Except Fault (List Char) :=
  let cs := match cs with
    | '+' :: rest => rest
    | '-' :: rest => rest
    | _ => cs
  match cs.takeWhile Char.isDigit with
  | [] => .error .malformed
  | _ => .ok (cs.dropWhile Char.isDigit)

/-- Scans what may follow the digits of a number. -/
def scanExponentPart (cs : List Char) : Except Fault (List Char) :=
  match cs with
  | c :: rest => if c = 'e' ∨ c = 'E' then scanExponent rest else .ok cs
  | [] => .ok []

/-- Scans what may follow the integer part of a number. -/
def scanFraction (cs : List Char) : Except Fault (List Char) :=
  match cs with
  | '.' :: rest =>
    match rest.takeWhile Char.isDigit with
    | [] => .error .malformed
    | _ => scanExponentPart (rest.dropWhile Char.isDigit)
  | _ => scanExponentPart cs

/-- Scans a number without its sign, up to the first character behind it. -/
def scanUnsigned (cs : List Char) : Except Fault (List Char) :=
  match cs with
  | '0' :: rest =>
    match rest with
    | c :: _ => if c.isDigit then .error .malformed else scanFraction rest
    | [] => .ok []
  | c :: _ => if c.isDigit then scanFraction (cs.dropWhile Char.isDigit) else .error .malformed
  | [] => .error .malformed

/-- The longest run of digits in front whose value still fits into 64 bits, on
top of a value that does: the value, and how many digits were left over. -/
def significand (start : Nat) : List Char → Nat × Nat
  | [] => (start, 0)
  | d :: ds =>
    let next := 10 * start + digitValue d
    if next < wordLimit then significand next ds else (start, ds.length + 1)

/-- Divides by `1e308` until the exponent of ten is within the table of exact
scaling; a zero stays zero. -/
def descale : Nat → Double → Int → Double × Int
  | 0, x, exponent => (x, exponent)
  | fuel + 1, x, exponent =>
    if exponent < -308 ∧ ¬ x.isZero then
      descale fuel (x.div (Double.ofDecimal false 1 308)) (exponent + 308)
    else (x, exponent)

/-- A 64-bit significand times a power of ten, computed in double arithmetic.
Overflow is a fault. -/
def scaleSignificand (negative : Bool) (digits : Nat) (exponent : Int) : Except Fault Double :=
  let (x, exponent) := descale 8 (Double.ofInt digits) exponent
  let scaled : Except Fault Double :=
    if x.isZero then .ok x
    else if exponent > 308 then .error .malformed
    else if exponent < -308 then .ok (Double.zero false)
    else if exponent ≥ 0 then
      let y := x.mul (Double.ofDecimal false 1 exponent)
      if y.isInfinite then .error .malformed else .ok y
    else .ok (x.div (Double.ofDecimal false 1 (-exponent)))
  scaled.map fun y => if negative then y.neg else y

/-- The greatest exponent that is computed with; a greater one is decided by
its sign. -/
def greatestWrittenExponent : Nat := 2147483647

/-- An exponent moved into the signed 32-bit range. -/
def saturateExponent (n : Int) : Int :=
  Double.clamp (-2147483648) 2147483647 n

/-- Reads the exponent of a number, behind the letter. -/
def readExponentPart (negative : Bool) (digits : Nat) (exponent : Int) (cs : List Char) :
    Except Fault Double :=
  let (minus, cs) := match cs with
    | '+' :: rest => (false, rest)
    | '-' :: rest => (true, rest)
    | _ => (false, cs)
  match cs with
  | [] => .error .unfinished
  | c :: _ =>
    if ¬ c.isDigit then .error .malformed
    else
      let written := digitsValue (cs.takeWhile Char.isDigit)
      if written > greatestWrittenExponent then
        if digits ≠ 0 ∧ ¬ minus then .error .malformed else .ok (Double.zero negative)
      else
        scaleSignificand negative digits
          (saturateExponent (if minus then exponent - written else exponent + written))

/-- Reads what may follow the digits of a number that is a double. -/
def readScaled (negative : Bool) (digits : Nat) (exponent : Int) (cs : List Char) :
    Except Fault Double :=
  match cs with
  | c :: rest =>
    if c = 'e' ∨ c = 'E' then readExponentPart negative digits exponent rest
    else scaleSignificand negative digits exponent
  | [] => scaleSignificand negative digits exponent

/-- Reads the digits behind a decimal point. -/
def readFraction (negative : Bool) (digits : Nat) (exponent : Int) (cs : List Char) :
    Except Fault Double :=
  let fraction := cs.takeWhile Char.isDigit
  let rest := cs.dropWhile Char.isDigit
  match fraction, rest with
  | [], [] => .error .unfinished
  | [], _ :: _ => .error .malformed
  | _, _ =>
    let (all, left) := significand digits fraction
    readScaled negative all (exponent - (fraction.length - left : Nat)) rest

/-- Reads a number without its sign. -/
def readUnsigned (negative : Bool) (cs : List Char) : Except Fault Number :=
  match cs with
  | [] => .error .unfinished
  | c :: rest =>
    if ¬ c.isDigit then .error .malformed
    else if c = '0' ∧ (rest.head?.map Char.isDigit).getD false then .error .malformed
    else
      let whole := cs.takeWhile Char.isDigit
      let rest := cs.dropWhile Char.isDigit
      let (digits, left) := significand 0 whole
      match rest with
      | '.' :: more => (readFraction negative digits left more).map .double
      | _ =>
        let exponentFollows := rest.head? = some 'e' ∨ rest.head? = some 'E'
        if exponentFollows ∨ left ≠ 0 then (readScaled negative digits left rest).map .double
        else if negative then
          if digits = 0 then .ok (.double (Double.zero true))
          else if digits ≤ 9223372036854775808 then .ok (.integer (-(digits : Int)))
          else .ok (.double (Double.ofInt digits).neg)
        else .ok (.integer digits)

/-- A number literal and the characters behind it. -/
def numberLiteral (cs : List Char) : Literal Number × List Char :=
  let (negative, body) := match cs with
    | '-' :: rest => (true, rest)
    | _ => (false, cs)
  match scanUnsigned body with
  | .ok rest => (⟨readUnsigned negative body, none⟩, rest)
  | .error fault => (⟨readUnsigned negative body, some fault⟩, [])

/-! ## Strings -/

/-- The value of a hexadecimal digit. -/
def hexValue? (c : Char) : Option Nat :=
  if c.isDigit then some (digitValue c)
  else if 'a' ≤ c ∧ c ≤ 'f' then some (c.toNat - 'a'.toNat + 10)
  else if 'A' ≤ c ∧ c ≤ 'F' then some (c.toNat - 'A'.toNat + 10)
  else none

/-- Are there at least so many bytes of text? -/
def hasBytes : Nat → List Char → Bool
  | 0, _ => true
  | _, [] => false
  | n, c :: cs => hasBytes (n - c.utf8Size) cs
  termination_by _ cs => cs.length

/-- The number that four hexadecimal digits write. -/
def hex4? (a b c d : Char) : Option Nat := do
  return ((← hexValue? a) * 16 + (← hexValue? b)) * 256 + ((← hexValue? c) * 16 + (← hexValue? d))

/-- What is wrong with an escape that fewer than four characters follow. -/
def shortEscapeFault (cs : List Char) : Fault :=
  if hasBytes 4 cs then .malformed else .unfinished

/-- The character that a letter behind a backslash stands for. -/
def escapedChar? (c : Char) : Option Char :=
  if c = '"' ∨ c = '\\' ∨ c = '/' then some c
  else if c = 'b' then some '\x08'
  else if c = 'f' then some '\x0c'
  else if c = 'n' then some '\n'
  else if c = 'r' then some '\r'
  else if c = 't' then some '\t'
  else none

/-- Scans a string behind its opening quotation mark. -/
def scanString : List Char → Except Fault (List Char)
  | [] => .error .unfinished
  | c :: rest =>
    if c = '"' then .ok rest
    else if c = '\\' then
      match rest with
      | [] => .error .unfinished
      | e :: more =>
        if e = 'u' then
          match more with
          | a :: b :: c :: d :: after =>
            if (hex4? a b c d).isSome then scanString after else .error .malformed
          | short => .error (shortEscapeFault short)
        else if (escapedChar? e).isSome then scanString more
        else .error .malformed
    else if c.toNat < 32 then .error .malformed
    else scanString rest

/-- The character of a surrogate pair. -/
def surrogatePair (high low : Nat) : Char :=
  Char.ofNat (0x10000 + (high - 0xD800) * 0x400 + (low - 0xDC00))

/-- Is the number a high surrogate? -/
def isHighSurrogate (n : Nat) : Bool :=
  0xD800 ≤ n && n ≤ 0xDBFF

/-- Is the number a low surrogate? -/
def isLowSurrogate (n : Nat) : Bool :=
  0xDC00 ≤ n && n ≤ 0xDFFF

/-- Reads a string behind its opening quotation mark, on top of the characters
already read (in reverse).  A high surrogate waits for the low one that has to
follow it at once. -/
def readString (acc : List Char) (high : Option Nat) : List Char → Except Fault String
  | [] => .error .unfinished
  | c :: rest =>
    if c = '\\' then
      match rest with
      | [] => .error .unfinished
      | e :: more =>
        if e = 'u' then
          match more with
          | a :: b :: c :: d :: after =>
            match hex4? a b c d, high with
            | none, _ => .error .malformed
            | some low, some high =>
              if isLowSurrogate low then readString (surrogatePair high low :: acc) none after
              else .error .malformed
            | some n, none =>
              if isLowSurrogate n then .error .malformed
              else if isHighSurrogate n then readString acc (some n) after
              else readString (Char.ofNat n :: acc) none after
          | short => .error (shortEscapeFault short)
        else if high.isSome then .error .malformed
        else
          match escapedChar? e with
          | some d => readString (d :: acc) none more
          | none => .error .malformed
    else if high.isSome then .error .malformed
    else if c = '"' then .ok (String.ofList acc.reverse)
    else if c.toNat < 32 then .error .malformed
    else readString (c :: acc) none rest

/-- A string literal behind its opening quotation mark, and the characters
behind it. -/
def stringLiteral (cs : List Char) : Literal String × List Char :=
  match scanString cs with
  | .ok rest => (⟨readString [] none cs, none⟩, rest)
  | .error fault => (⟨readString [] none cs, some fault⟩, [])

end EventFlow.Json
