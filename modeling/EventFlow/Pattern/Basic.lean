import EventFlow.Text.Unicode.Property

/-!
# Patterns

A pattern is a regular expression with look-around at single positions (ends of
the text and of lines, edges of words).  Matching is set-valued: from the
positions at which a match may have started, `reach` computes the positions at
which it may end.  A pattern occurs in a text when some position is reached from
any position.
-/

namespace EventFlow

open EventFlow.Text

namespace Pattern

/-- What a pattern may ask of a position. -/
inductive Look where
  | textStart
  | textEnd
  | lineStart
  | lineEnd
  | lineStartCRLF
  | lineEndCRLF
  | wordEdge (unicode : Bool)
  | notWordEdge (unicode : Bool)
  | wordStart (unicode : Bool)
  | wordEnd (unicode : Bool)
  | wordStartHalf (unicode : Bool)
  | wordEndHalf (unicode : Bool)
  deriving DecidableEq, Repr

end Pattern

/-- A regular expression.  A repetition may prefer to be short, and a group whose
match is kept has a number; neither changes what is matched. -/
inductive Pattern where
  | empty
  | chars (set : CharSet)
  | look (asked : Pattern.Look)
  | seq (first second : Pattern)
  | alt (left right : Pattern)
  | repeated (body : Pattern) (least : Nat) (greatest : Option Nat) (short : Bool)
  | group (number : Option Nat) (body : Pattern)
  deriving Repr

namespace Pattern

/-! ## Looking at a position -/

/-- The ASCII characters of words. -/
def asciiWordChars : CharSet :=
  ⟨[(48, 57), (65, 90), (95, 95), (97, 122)]⟩

/-- Does a word have the character, if there is one? -/
def isWord (unicode : Bool) : Option Char → Bool
  | some c => (if unicode then Unicode.wordChars else asciiWordChars).contains c
  | none => false

/-- Does a position between two characters have what is asked of it? -/
def Look.holds (look : Look) (before after : Option Char) : Bool :=
  match look with
  | .textStart => before.isNone
  | .textEnd => after.isNone
  | .lineStart => before.isNone || before == some '\n'
  | .lineEnd => after.isNone || after == some '\n'
  | .lineStartCRLF =>
    before.isNone || before == some '\n' || (before == some '\r' && after != some '\n')
  | .lineEndCRLF =>
    after.isNone || after == some '\r' || (after == some '\n' && before != some '\r')
  | .wordEdge u => isWord u before != isWord u after
  | .notWordEdge u => isWord u before == isWord u after
  | .wordStart u => !isWord u before && isWord u after
  | .wordEnd u => isWord u before && !isWord u after
  | .wordStartHalf u => !isWord u before
  | .wordEndHalf u => !isWord u after

/-! ## Reaching positions -/

/-- A set of positions of a text: one flag in front of every character and one
at the end. -/
abbrev Marks : Type := List Bool

/-- All positions of a text. -/
def allMarks (text : List Char) : Marks :=
  List.replicate (text.length + 1) true

/-- The positions in either set. -/
def either (a b : Marks) : Marks :=
  List.zipWith or a b

/-- The marked positions that have what is asked of them. -/
def keep (look : Look) (before : Option Char) : List Char → Marks → Marks
  | [], m :: _ => [m && look.holds before none]
  | c :: cs, m :: ms => (m && look.holds before (some c)) :: keep look (some c) cs ms
  | _, [] => []

/-- Whether the position behind a character is reached by passing it. -/
def passed (set : CharSet) : List Char → Marks → Marks
  | c :: cs, m :: ms => (m && set.contains c) :: passed set cs ms
  | _, _ => []

/-- Applies a step so many times, or until it changes nothing. -/
def iterate (step : Marks → Marks) : Nat → Marks → Marks
  | 0, marks => marks
  | n + 1, marks =>
    let next := step marks
    if next = marks then marks else iterate step n next

/-- The ends of matches that start at marked positions. -/
def reach (text : List Char) : Pattern → Marks → Marks
  | .empty, marks => marks
  | .chars set, marks => false :: passed set text marks
  | .look asked, marks => keep asked none text marks
  | .seq first second, marks => reach text second (reach text first marks)
  | .alt left right, marks => either (reach text left marks) (reach text right marks)
  | .repeated body least greatest _, marks =>
    let more := match greatest with
      | some n => n - least
      | none => text.length + 1
    iterate (fun ms => either ms (reach text body ms)) more
      (iterate (reach text body) least marks)
  | .group _ body, marks => reach text body marks

/-- Does the pattern occur in the text? -/
def occursIn (pattern : Pattern) (text : List Char) : Bool :=
  (reach text pattern (allMarks text)).any id

/-- One pattern after the other. -/
def sequence : List Pattern → Pattern
  | [] => .empty
  | [p] => p
  | p :: ps => .seq p (sequence ps)

end Pattern

end EventFlow
