import EventFlow.Pattern.Basic
import EventFlow.Pattern.Property

/-!
# Escapes in patterns

What a backslash begins: a character by number or by name, a class of
characters, or something asked of a position.  The flags in force decide what a
class holds and whether blanks may stand inside an escape.
-/

namespace EventFlow.Pattern

open EventFlow.Text

/-- The flags that a pattern can set for a part of itself. -/
structure Flags where
  ignoreCase : Bool
  multiLine : Bool
  dotAll : Bool
  unicode : Bool
  crlf : Bool
  verbose : Bool
  preferShort : Bool
  deriving DecidableEq, Repr

/-- The flags at the start of a pattern. -/
def Flags.initial : Flags := ⟨false, false, false, true, false, false, false⟩

/-- Skips blanks and comments. -/
def skipComments (inComment : Bool) : List Char → List Char
  | [] => []
  | c :: cs =>
    if inComment then skipComments (c != '\n') cs
    else if isBlank c then skipComments false cs
    else if c = '#' then skipComments true cs
    else c :: cs

/-- Skips what means nothing under the flags. -/
def Flags.skip (flags : Flags) (cs : List Char) : List Char :=
  if flags.verbose then skipComments false cs else cs

theorem length_skipComments_le (inComment : Bool) (cs : List Char) :
    (skipComments inComment cs).length ≤ cs.length := by
  fun_induction skipComments inComment cs <;> simp_all <;> omega

theorem length_skip_le (flags : Flags) (cs : List Char) :
    (flags.skip cs).length ≤ cs.length := by
  unfold Flags.skip
  split
  · exact length_skipComments_le false cs
  · exact Nat.le_refl _

/-- What an escape stands for.  A character may have been written as a byte. -/
inductive Escape where
  | char (c : Char) (asByte : Bool)
  | set (s : CharSet)
  | look (asked : Look)

/-- The characters with a meaning of their own. -/
def metaChars : List Char :=
  "\\.+*?()|[]\x7b\x7d^$#&-~".toList

/-- May the character stand behind a backslash to mean itself? -/
def isEscapable (c : Char) : Bool :=
  metaChars.contains c ||
    (c.toNat < 128 && ! c.isAlphanum && c != '<' && c != '>')

/-- The value of a hexadecimal digit. -/
def hexDigit? (c : Char) : Option Nat :=
  if c.isDigit then some (c.toNat - 48)
  else if 'a' ≤ c ∧ c ≤ 'f' then some (c.toNat - 87)
  else if 'A' ≤ c ∧ c ≤ 'F' then some (c.toNat - 55)
  else none

/-- The character of a number, if it is one. -/
def charOfNat? (n : Nat) : Option Char :=
  if n < 0xD800 ∨ (0xE000 ≤ n ∧ n ≤ 0x10FFFF) then some (Char.ofNat n) else none

/-- Reads a fixed number of hexadecimal digits. -/
def hexFixed (flags : Flags) : Nat → Nat → List Char → Option (Nat × List Char)
  | 0, n, cs => some (n, cs)
  | k + 1, n, cs =>
    match cs with
    | c :: rest => do hexFixed flags k (16 * n + (← hexDigit? c)) (flags.skip rest)
    | [] => none

/-- The characters up to a closing brace, of those that mean something under the
flags, and what stands behind the brace. -/
def braced (flags : Flags) : List Char → Option (List Char × List Char) :=
  go false
where
  go (inComment : Bool) : List Char → Option (List Char × List Char)
    | [] => none
    | c :: rest =>
      if flags.verbose && (inComment || isBlank c || c == '#') then
        go (c != '\n' && (inComment || c == '#')) rest
      else if c = '\x7d' then some ([], rest)
      else (go false rest).map fun (inside, rest) => (c :: inside, rest)

/-- Reads hexadecimal digits up to a closing brace. -/
def hexBraced (flags : Flags) (cs : List Char) : Option (Nat × List Char) := do
  let (inside, rest) ← braced flags cs
  if inside = [] then none
  let digits ← inside.mapM hexDigit?
  return (digits.foldl (16 * · + ·) 0, flags.skip rest)

/-- Reads a character by its number, behind the letter that tells how many
digits there are. -/
def hexEscape (flags : Flags) (digits : Nat) (cs : List Char) : Option (Escape × List Char) :=
  match flags.skip cs with
  | '\x7b' :: rest => do
    let (n, rest) ← hexBraced flags rest
    return (.char (← charOfNat? n) false, rest)
  | cs => do
    let (n, rest) ← hexFixed flags digits 0 cs
    return (.char (← charOfNat? n) (digits = 2), rest)

/-- A class with the characters that differ from it in case, when case is
ignored, or the characters outside of it.  Where patterns are about bytes there
is nothing outside. -/
def finishClass (flags : Flags) (negated : Bool) (s : CharSet) : Option CharSet :=
  let s :=
    if flags.ignoreCase then
      if flags.unicode then Unicode.foldCase s
      else s.union (.ofRanges (s.ranges.flatMap fun (lo, hi) =>
        [(max lo 65 + 32, min hi 90 + 32), (max lo 97 - 32, min hi 122 - 32)].filter
          fun (lo, hi) => lo ≤ hi))
    else s
  if negated then if flags.unicode then some s.complement else none
  else some s

/-- Splits a text at the first place where a mark stands in it. -/
def splitAtMark? (mark : List Char) : List Char → Option (List Char × List Char)
  | [] => none
  | c :: cs =>
    if mark.isPrefixOf (c :: cs) then some ([], (c :: cs).drop mark.length)
    else (splitAtMark? mark cs).map fun (before, after) => (c :: before, after)

/-- Splits the text between braces at the mark between a property and its value,
which may be required to differ.  A mark of difference goes before a colon and a
colon before a sign of equality, wherever they stand. -/
def splitProperty (cs : List Char) : String × Option (String × Bool) :=
  let marks := [(['!', '='], true), ([':'], false), (['='], false)]
  match marks.findSome? fun (mark, unlike) => (splitAtMark? mark cs).map (·, unlike) with
  | some ((name, value), unlike) => (String.ofList name, some (String.ofList value, unlike))
  | none => (String.ofList cs, none)

/-- Reads the name of a character property, behind the letter. -/
def propertyEscape (flags : Flags) (negated : Bool) (cs : List Char) :
    Option (Escape × List Char) :=
  if ¬ flags.unicode then none
  else
    match flags.skip cs with
    | '\x7b' :: rest => do
      let (name, rest) ← braced flags rest
      let (set, unlike) ← match splitProperty name with
        | (property, none) => (propertyClass? property).map (·, false)
        | (property, some (value, unlike)) =>
          (propertyValueClass? property value).map (·, unlike)
      return (.set (← finishClass flags (negated != unlike) set), rest)
    | c :: rest =>
      if c = '\\' then none
      else do
        let set ← propertyClass? (String.singleton c)
        return (.set (← finishClass flags negated set), flags.skip rest)
    | [] => none

/-- A class of a letter: the letter in upper case stands for the other characters. -/
def letterEscape (flags : Flags) (negated : Bool) (s : CharSet) (rest : List Char) :
    Option (Escape × List Char) :=
  if negated then
    if flags.unicode then some (.set s.complement, rest) else none
  else some (.set s, rest)

/-- Reads which side of a word an edge is asked to be, between braces.  Other
braces are left for a repetition. -/
def edgeEscape (flags : Flags) (cs : List Char) : Option (Escape × List Char) :=
  let u := flags.unicode
  let isLetter (c : Char) : Bool := c.isAlpha || c == '-'
  match cs with
  | '\x7b' :: rest =>
    match flags.skip rest with
    | [] => none
    | c :: _ =>
      if ¬ isLetter c then some (.look (.wordEdge u), cs)
      else
        match braced flags rest with
        | some (name, rest) =>
          match String.ofList name with
          | "start" => some (.look (.wordStart u), rest)
          | "end" => some (.look (.wordEnd u), rest)
          | "start-half" => some (.look (.wordStartHalf u), rest)
          | "end-half" => some (.look (.wordEndHalf u), rest)
          | _ => none
        | none => none
  | _ => some (.look (.wordEdge u), cs)

/-- Reads an escape behind its backslash. -/
def readEscape (flags : Flags) : List Char → Option (Escape × List Char)
  | [] => none
  | c :: rest =>
    let u := flags.unicode
    match c with
    | 'x' => hexEscape flags 2 rest
    | 'u' => hexEscape flags 4 rest
    | 'U' => hexEscape flags 8 rest
    | 'p' => propertyEscape flags false rest
    | 'P' => propertyEscape flags true rest
    | 'd' => letterEscape flags false (digitClass u) rest
    | 'D' => letterEscape flags true (digitClass u) rest
    | 's' => letterEscape flags false (spaceClass u) rest
    | 'S' => letterEscape flags true (spaceClass u) rest
    | 'w' => letterEscape flags false (wordClass u) rest
    | 'W' => letterEscape flags true (wordClass u) rest
    | 'a' => some (.char '\x07' false, rest)
    | 'f' => some (.char '\x0c' false, rest)
    | 't' => some (.char '\t' false, rest)
    | 'n' => some (.char '\n' false, rest)
    | 'r' => some (.char '\r' false, rest)
    | 'v' => some (.char '\x0b' false, rest)
    | 'A' => some (.look .textStart, rest)
    | 'z' => some (.look .textEnd, rest)
    | 'b' => edgeEscape flags rest
    | 'B' => some (.look (.notWordEdge u), rest)
    | '<' => some (.look (.wordStart u), rest)
    | '>' => some (.look (.wordEnd u), rest)
    | c => if isEscapable c then some (.char c false, rest) else none

end EventFlow.Pattern
