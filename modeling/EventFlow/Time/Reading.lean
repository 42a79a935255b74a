import EventFlow.Text.Blank
import EventFlow.Text.Digits
import EventFlow.Time.Basic

/-!
# Reading a date and time

Instants are written as year, month and day, a separator, the time of day and
the offset from universal time, as in `2024-01-01T00:00:00Z`.  The reader is
lenient where people are: numbers may lack leading zeros, blanks may stand in
front of numbers and marks, the separator may be a blank, years outside four
digits have a sign.
-/

namespace EventFlow.Instant

open EventFlow.Text

/-- Reads one up to `most` digits. -/
def readDigits (most : Nat) (cs : List Char) : Option (Nat × List Char) :=
  let digits := (cs.take most).takeWhile Char.isDigit
  if digits = [] then none else some (digitsValue digits, cs.drop digits.length)

/-- Reads a number of two digits at most and within bounds, behind blanks. -/
def readPart (least greatest : Nat) (cs : List Char) : Option (Nat × List Char) := do
  let (n, rest) ← readDigits 2 (dropBlanks cs)
  if least ≤ n ∧ n ≤ greatest then some (n, rest) else none

/-- Reads a mark behind blanks. -/
def readMark (mark : Char) (cs : List Char) : Option (List Char) :=
  match dropBlanks cs with
  | c :: rest => if c = mark then some rest else none
  | [] => none

/-- Reads a year: up to four digits, or any number of them behind a sign. -/
def readYear (cs : List Char) : Option (Int × List Char) := do
  match dropBlanks cs with
  | '-' :: rest =>
    let (n, rest) ← readDigits rest.length rest
    return (-(n : Int), rest)
  | '+' :: rest =>
    let (n, rest) ← readDigits rest.length rest
    return ((n : Int), rest)
  | cs =>
    let (n, rest) ← readDigits 4 cs
    return ((n : Int), rest)

/-- Is the year a leap year? -/
def isLeapYear (year : Int) : Bool :=
  year % 4 == 0 && (year % 100 != 0 || year % 400 == 0)

/-- The number of days of a month. -/
def daysOfMonth (year : Int) (month : Nat) : Nat :=
  if month = 2 then (if isLeapYear year then 29 else 28)
  else if month = 4 ∨ month = 6 ∨ month = 9 ∨ month = 11 then 30
  else 31

/-- The days from the start of 1970 to a day.  Years are counted from March, so
that the leap day is the last of its year. -/
def dayNumber (year : Int) (month day : Nat) : Int :=
  let y := if month ≤ 2 then year - 1 else year
  let era := y / 400
  let yearOfEra := y % 400
  let monthFromMarch : Int := if month > 2 then (month : Int) - 3 else (month : Int) + 9
  let dayOfYear := (153 * monthFromMarch + 2) / 5 + day - 1
  let dayOfEra := yearOfEra * 365 + yearOfEra / 4 - yearOfEra / 100 + dayOfYear
  era * 146097 + dayOfEra - 719468

/-- Reads a day: its number from the start of 1970. -/
def readDay (cs : List Char) : Option (Int × List Char) := do
  let (year, cs) ← readYear cs
  let (month, cs) ← readPart 1 12 (← readMark '-' cs)
  let (day, cs) ← readPart 1 31 (← readMark '-' cs)
  if -262143 ≤ year ∧ year ≤ 262142 ∧ day ≤ daysOfMonth year month then
    some (dayNumber year month day, cs)
  else none

/-- Reads the separator between the day and the time of day. -/
def readSeparator : List Char → Option (List Char)
  | c :: rest => if c = 'T' ∨ c = 't' ∨ c = ' ' then some rest else none
  | [] => none

/-- Reads the part of a second behind a point, in nanoseconds; digits behind the
ninth are skipped. -/
def readFraction : List Char → Option (Nat × List Char)
  | '.' :: cs =>
    let digits := cs.takeWhile Char.isDigit
    let kept := digits.take 9
    if digits = [] then none
    else some (digitsValue kept * Nat.pow 10 (9 - kept.length), cs.drop digits.length)
  | cs => some (0, cs)

/-- Reads a time of day, in nanoseconds, and whether it lies in the second number 60
of its minute. -/
def readTimeOfDay (cs : List Char) : Option (Int × Bool × List Char) := do
  let (hour, cs) ← readPart 0 23 cs
  let (minute, cs) ← readPart 0 59 (← readMark ':' cs)
  let (second, cs) ← readPart 0 60 (← readMark ':' cs)
  let (fraction, cs) ← readFraction cs
  let whole := hour * 3600 + minute * 60 + second
  return ((whole : Int) * 1000000000 + fraction, second = 60, cs)

/-- Two digits with a bound. -/
def readTwoDigits (greatest : Nat) : List Char → Option (Nat × List Char)
  | a :: b :: rest =>
    if a.isDigit ∧ b.isDigit ∧ digitsValue [a, b] ≤ greatest then
      some (digitsValue [a, b], rest)
    else none
  | _ => none

/-- Reads the hours and minutes of an offset, in seconds. -/
def readOffsetSize (cs : List Char) : Option (Int × List Char) := do
  let (hours, cs) ← readTwoDigits 99 cs
  let (minutes, cs) ← readTwoDigits 59 (cs.dropWhile fun c => c == ':' || isBlank c)
  let size := hours * 3600 + minutes * 60
  if size < 86400 then some ((size : Int), cs) else none

/-- Reads the offset from universal time, in seconds. -/
def readOffset (cs : List Char) : Option (Int × List Char) :=
  let cs := dropBlanks cs
  if (cs.take 3).map Char.toLower = ['u', 't', 'c'] then some (0, cs.drop 3)
  else
    match cs with
    | c :: rest =>
      if c = 'Z' ∨ c = 'z' then some (0, rest)
      else if c = '+' then readOffsetSize rest
      else if c = '-' ∨ c = '\u2212' then
        (readOffsetSize rest).map fun (size, rest) => (-size, rest)
      else none
    | [] => none

/-- Reads an instant; only blanks may stand behind it. -/
def read? (text : String) : Option Instant := do
  let (day, cs) ← readDay text.toList
  let (timeOfDay, inLeapSecond, cs) ← readTimeOfDay (← readSeparator cs)
  let (offset, cs) ← readOffset cs
  let t : Instant := ⟨(day * 86400 - offset) * 1000000000 + timeOfDay, inLeapSecond⟩
  if cs.all isBlank ∧ t.representable then some t else none

end EventFlow.Instant
