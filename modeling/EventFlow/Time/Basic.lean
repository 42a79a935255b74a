/-!
# Instants and durations

Instants are counted in nanoseconds from the start of the year 1970, durations
in nanoseconds.  Instants outside the years -262143 to 262142 do not exist:
arithmetic that would reach one has no result.

A written time may lie in the second number 60 of a minute.  In the count such a
leap second is the second behind the minute; only the time between two instants
and the instants behind it tell it from that one.
-/

namespace EventFlow

/-- A length of time, which may be negative. -/
structure Duration where
  nanoseconds : Int
  deriving DecidableEq, Repr

namespace Duration

/-- No time at all. -/
def zero : Duration := ⟨0⟩

/-- So many milliseconds. -/
def ofMilliseconds (n : Int) : Duration := ⟨n * 1000000⟩

/-- So many seconds. -/
def ofSeconds (n : Int) : Duration := ⟨n * 1000000000⟩

/-- The whole seconds, toward zero. -/
def wholeSeconds (d : Duration) : Int := d.nanoseconds.tdiv 1000000000

/-- The whole milliseconds, toward zero. -/
def wholeMilliseconds (d : Duration) : Int := d.nanoseconds.tdiv 1000000

/-- The least number of milliseconds that is not shorter. -/
def ceilMilliseconds (d : Duration) : Int := -((-d.nanoseconds) / 1000000)

/-- The longer of two durations. -/
def max (a b : Duration) : Duration := if a.nanoseconds ≤ b.nanoseconds then b else a

/-- The shorter of two durations. -/
def min (a b : Duration) : Duration := if a.nanoseconds ≤ b.nanoseconds then a else b

end Duration

/-- A point in time. -/
structure Instant where
  nanoseconds : Int
  inLeapSecond : Bool := false
  deriving DecidableEq, Repr

namespace Instant

instance : LE Instant := ⟨fun a b => a.nanoseconds ≤ b.nanoseconds⟩

instance : LT Instant := ⟨fun a b => a.nanoseconds < b.nanoseconds⟩

instance (a b : Instant) : Decidable (a ≤ b) :=
  inferInstanceAs (Decidable (a.nanoseconds ≤ b.nanoseconds))

instance (a b : Instant) : Decidable (a < b) :=
  inferInstanceAs (Decidable (a.nanoseconds < b.nanoseconds))

theorem le_def {a b : Instant} : a ≤ b ↔ a.nanoseconds ≤ b.nanoseconds := Iff.rfl

theorem lt_def {a b : Instant} : a < b ↔ a.nanoseconds < b.nanoseconds := Iff.rfl

theorem le_refl (a : Instant) : a ≤ a := Int.le_refl _

theorem le_trans {a b c : Instant} (first : a ≤ b) (second : b ≤ c) : a ≤ c :=
  Int.le_trans first second

/-- Does an instant come before another?  Of two with one count the leap second does. -/
def isBefore (a b : Instant) : Bool :=
  a < b || (a.nanoseconds == b.nanoseconds && a.inLeapSecond && !b.inLeapSecond)

/-- The instant so many milliseconds after the start of 1970. -/
def ofMilliseconds (n : Int) : Instant := { nanoseconds := n * 1000000 }

/-- The whole seconds since the start of 1970, rounded down.  A leap second belongs
to the second before it. -/
def seconds (t : Instant) : Int :=
  t.nanoseconds / 1000000000 - if t.inLeapSecond then 1 else 0

/-- The whole milliseconds since the start of 1970, rounded down. -/
def milliseconds (t : Instant) : Int := t.nanoseconds / 1000000

/-- The first second that exists. -/
def leastSecond : Int := -8334601228800

/-- The last second that exists. -/
def greatestSecond : Int := 8210266876799

/-- Does the instant exist? -/
def representable (t : Instant) : Bool :=
  leastSecond ≤ t.seconds && t.seconds ≤ greatestSecond

/-- The instant a duration later. -/
def plus (t : Instant) (d : Duration) : Instant :=
  { nanoseconds := t.nanoseconds + d.nanoseconds }

/-- The instant a duration later, where a leap second that is left behind has
passed as well. -/
def after (t : Instant) (d : Duration) : Instant :=
  let later := t.plus d
  if t.inLeapSecond then
    if later.nanoseconds / 1000000000 = t.nanoseconds / 1000000000 then
      { later with inLeapSecond := true }
    else if t < later then later.plus ⟨-1000000000⟩
    else later
  else later

/-- The instant a duration later, if it exists. -/
def plus? (t : Instant) (d : Duration) : Option Instant :=
  if (t.after d).representable then some (t.after d) else none

/-- The instant a duration earlier, if it exists. -/
def minus? (t : Instant) (d : Duration) : Option Instant :=
  let earlier := t.plus ⟨-d.nanoseconds⟩
  if earlier.representable then some earlier else none

/-- The second of the day. -/
def secondOfDay (t : Instant) : Int := t.seconds % 86400

/-- The leap seconds between two instants that the count of nanoseconds leaves
out: the one that the earlier time of day lies in. -/
def leapsBetween (later earlier : Instant) : Int :=
  if earlier.secondOfDay < later.secondOfDay ∧ earlier.inLeapSecond then 1
  else if later.secondOfDay < earlier.secondOfDay ∧ later.inLeapSecond then -1
  else 0

/-- The time from the second instant to the first. -/
def since (later earlier : Instant) : Duration :=
  ⟨later.nanoseconds - earlier.nanoseconds + leapsBetween later earlier * 1000000000⟩

end Instant

end EventFlow
