import EventFlow.Text.CharSet
import EventFlow.Text.Pieces

/-!
# Reading tables of characters

The tables of this library are lists of lines, whose words are separated by
blanks.  Numbers are hexadecimal.  A table of runs goes through all code points
in ascending order; a table of gaps counts the code points outside and inside a
set in turn.
-/

namespace EventFlow.Text.Unicode

/-- The number that hexadecimal digits in lower case write. -/
def hexValue (cs : List Char) : Nat :=
  cs.foldl (fun n c => 16 * n + if c.isDigit then c.toNat - 48 else c.toNat - 87) 0

/-- The words of a table, line by line. -/
def words (table : List String) : List (List Char) :=
  table.flatMap fun line => splitAll ' ' line.toList

/-- A run of code points with one name: the letters of the name, the first and
the last code point. -/
structure Run where
  name : List Char
  first : Nat
  last : Nat
  deriving Repr

/-- Places runs one behind the other, whose names have so many letters. -/
def placeRuns (letters start : Nat) : List (List Char) → List Run
  | [] => []
  | word :: rest =>
    let size := hexValue (word.drop letters)
    ⟨word.take letters, start, start + size - 1⟩ :: placeRuns letters (start + size) rest

/-- The characters of the runs whose names a test accepts. -/
def ofRuns (runs : List Run) (accepts : List Char → Bool) : CharSet :=
  .ofRanges ((runs.filter fun run => accepts run.name).map fun run => (run.first, run.last))

/-- Ranges from the numbers of code points outside and inside, in turn. -/
def rangesOfGaps (start : Nat) : List Nat → List (Nat × Nat)
  | outside :: inside :: rest =>
    (start + outside, start + outside + inside - 1) ::
      rangesOfGaps (start + outside + inside) rest
  | _ => []

/-- The set that a table of gaps lists. -/
def ofTable (table : List String) : CharSet :=
  ⟨rangesOfGaps 0 ((words table).map hexValue)⟩

end EventFlow.Text.Unicode
