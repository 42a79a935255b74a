import EventFlow.Pattern.CharClass
import EventFlow.Pattern.Size
import EventFlow.Text.Digits
import EventFlow.Text.Unicode.Addition

/-!
# Reading patterns

A pattern is read from left to right into branches of sequences, with a stack of
the groups that are open.  Flags that a pattern sets hold to the end of the
group in which they stand.  A pattern is refused when it is malformed, when it
nests too deep, when it asks for what set-valued matching cannot give (looking
at more than one position, repeating what a group has matched), and when the
automaton that it stands for would be too large.
-/

namespace EventFlow.Pattern

open EventFlow.Text

/-- A piece of a pattern with how deep it nests. -/
structure Piece where
  pattern : Pattern
  height : Nat

/-- An element of a sequence: a piece, or a change of flags, which matches
nothing and cannot be repeated. -/
inductive Item where
  | piece (p : Piece)
  | flags

/-- The piece of an element. -/
def Item.toPiece : Item → Piece
  | .piece p => p
  | .flags => ⟨.empty, 0⟩

/-- A sequence as one piece. -/
def joinItems : List Item → Piece
  | [] => ⟨.empty, 0⟩
  | [item] => item.toPiece
  | items =>
    let pieces := items.map Item.toPiece
    ⟨sequence (pieces.map (·.pattern)), 1 + (pieces.map (·.height)).foldl max 0⟩

/-- A group that is open: the branches before the current one, the elements of
the current branch (both with the last in front), the flags outside, and the
number of the group, if what it matches is kept. -/
structure Level where
  branches : List Piece
  items : List Item
  outside : Flags
  number : Option Nat

/-- A level with nothing in it. -/
def Level.start (outside : Flags) (number : Option Nat) : Level := ⟨[], [], outside, number⟩

/-- Adds an element. -/
def Level.push (level : Level) (item : Item) : Level :=
  { level with items := item :: level.items }

/-- Ends the current branch. -/
def Level.branch (level : Level) : Level :=
  { level with branches := joinItems level.items.reverse :: level.branches, items := [] }

/-- All branches of the level as one piece. -/
def Level.close (level : Level) : Piece :=
  let last := joinItems level.items.reverse
  match level.branches with
  | [] => last
  | branches =>
    let pieces := (last :: branches).reverse
    ⟨(branches.map (·.pattern)).foldl (fun acc p => .alt p acc) last.pattern,
      1 + (pieces.map (·.height)).foldl max 0⟩

/-- What has been read so far. -/
structure Reading where
  flags : Flags
  level : Level
  outer : List Level
  names : List (List Char)
  groups : Nat

/-- Adds a piece to the sequence that is being read. -/
def Reading.push (r : Reading) (pattern : Pattern) (height : Nat) : Reading :=
  { r with level := r.level.push (.piece ⟨pattern, height⟩) }

/-! ## Groups -/

/-- May the character stand in the name of a group? -/
def isNameChar (first : Bool) (c : Char) : Bool :=
  c == '_' || Unicode.alphabeticNow.contains c ||
    (!first && (c == '.' || c == '[' || c == ']' || Unicode.numbersNow.contains c))

/-- Reads the name of a group up to its closing angle bracket. -/
def readName (cs : List Char) : Option (List Char × List Char) :=
  match cs.span (· != '>') with
  | (first :: more, '>' :: rest) =>
    if isNameChar true first && more.all (isNameChar false) then some (first :: more, rest)
    else none
  | _ => none

/-- Sets one flag. -/
def Flags.set? (flags : Flags) (letter : Char) (value : Bool) : Option Flags :=
  match letter with
  | 'i' => some { flags with ignoreCase := value }
  | 'm' => some { flags with multiLine := value }
  | 's' => some { flags with dotAll := value }
  | 'u' => some { flags with unicode := value }
  | 'R' => some { flags with crlf := value }
  | 'x' => some { flags with verbose := value }
  | 'U' => some { flags with preferShort := value }
  | _ => none

/-- Reads the letters of flags; those behind a hyphen are switched off.  Each
letter, and the hyphen, may be given once, and something has to follow the hyphen. -/
def readFlags (flags : Flags) (seen : List Char) :
    List Char → Option (Flags × List Char × List Char)
  | [] => none
  | c :: rest =>
    if c = ':' ∨ c = ')' then
      if seen.head? = some '-' then none else some (flags, seen, c :: rest)
    else if seen.contains c then none
    else if c = '-' then readFlags flags ('-' :: seen) rest
    else
      match flags.set? c (! seen.contains '-') with
      | some flags => readFlags flags (c :: seen) rest
      | none => none

/-- Opens a group whose match is not kept, with flags of its own. -/
def Reading.openPlain (r : Reading) (flags : Flags) : Reading :=
  { r with flags, level := .start r.flags none, outer := r.level :: r.outer }

/-- Opens a group whose match is kept under the next number. -/
def Reading.openNumbered (r : Reading) : Reading :=
  { r with
    level := .start r.flags (some r.groups)
    outer := r.level :: r.outer
    groups := r.groups + 1 }

/-- Reads what stands behind an opening parenthesis. -/
def readGroupStart (r : Reading) (cs : List Char) : Option (Reading × List Char) :=
  let cs := r.flags.skip cs
  let named (rest : List Char) : Option (Reading × List Char) := do
    let (name, rest) ← readName rest
    if r.names.contains name then none
    else return ({ r.openNumbered with names := name :: r.names }, rest)
  match cs with
  | '?' :: '=' :: _ => none
  | '?' :: '!' :: _ => none
  | '?' :: '<' :: '=' :: _ => none
  | '?' :: '<' :: '!' :: _ => none
  | '?' :: 'P' :: '<' :: rest => named rest
  | '?' :: '<' :: rest => named rest
  | '?' :: rest => do
    let (flags, seen, rest) ← readFlags r.flags [] rest
    match rest with
    | ':' :: rest => return (r.openPlain flags, rest)
    | _ :: rest =>
      if seen = [] then none
      else return ({ r with flags, level := r.level.push .flags }, rest)
    | [] => none
  | _ => some (r.openNumbered, cs)

/-- Closes the innermost group. -/
def Reading.closeGroup (r : Reading) : Option Reading :=
  match r.outer with
  | [] => none
  | level :: outer =>
    let p := r.level.close
    some { r with
      flags := r.level.outside
      level := level.push (.piece ⟨.group r.level.number p.pattern, 1 + p.height⟩)
      outer }

/-! ## Repetitions -/

/-- Repeats the last element of the sequence, and reads the mark of a repetition
that prefers to be short. -/
def Reading.repeatLast (r : Reading) (least : Nat) (greatest : Option Nat) (rest : List Char) :
    Option (Reading × List Char) :=
  let (marked, rest) := match rest with
    | '?' :: rest => (true, rest)
    | _ => (false, rest)
  match r.level.items with
  | .piece p :: items =>
    let p : Piece :=
      ⟨.repeated p.pattern least greatest (marked != r.flags.preferShort), 1 + p.height⟩
    some ({ r with level := { r.level with items := .piece p :: items } }, rest)
  | _ => none

/-- Reads digits and skips what means nothing behind each. -/
def readDigits (flags : Flags) (cs : List Char) : List Char × List Char :=
  match cs with
  | [] => ([], [])
  | c :: rest =>
    if c.isDigit then
      let (digits, rest) := readDigits flags (flags.skip rest)
      (c :: digits, rest)
    else ([], cs)
termination_by cs.length
decreasing_by exact Nat.lt_succ_of_le (length_skip_le flags rest)

/-- Reads a count, between blanks. -/
def readCount (flags : Flags) (cs : List Char) : Option (Option Nat × List Char) :=
  let (digits, rest) := readDigits flags (dropBlanks cs)
  let rest := dropBlanks rest
  if digits = [] then some (none, rest)
  else if digitsValue digits < 4294967296 then some (some (digitsValue digits), rest)
  else none

/-- Reads a counted repetition behind its opening brace. -/
def readCounted (r : Reading) (cs : List Char) : Option (Reading × List Char) := do
  let (least?, rest) ← readCount r.flags (r.flags.skip cs)
  let least ← least?
  let finish (greatest : Option Nat) (rest : List Char) : Option (Reading × List Char) :=
    r.repeatLast least greatest (r.flags.skip rest)
  match rest with
  | '\x7d' :: rest => finish (some least) rest
  | ',' :: rest =>
    match r.flags.skip rest with
    | '\x7d' :: rest => finish none rest
    | rest =>
      let (greatest?, rest) ← readCount r.flags rest
      let greatest ← greatest?
      match rest with
      | '\x7d' :: rest => if least ≤ greatest then finish (some greatest) rest else none
      | _ => none
  | _ => none

/-! ## The whole pattern -/

/-- A character as a pattern. -/
def charPattern (flags : Flags) (c : Char) : Pattern :=
  .chars ((finishClass flags false (.single c)).getD (.single c))

/-- Any character, or any but those that end a line. -/
def dotPattern? (flags : Flags) : Option Pattern :=
  if ¬ flags.unicode then none
  else if flags.dotAll then some (.chars .all)
  else if flags.crlf then some (.chars (CharSet.ofChars ['\n', '\r']).complement)
  else some (.chars (CharSet.single '\n').complement)

/-- The start of the text or of a line. -/
def startLook (flags : Flags) : Look :=
  if flags.multiLine then if flags.crlf then .lineStartCRLF else .lineStart else .textStart

/-- The end of the text or of a line. -/
def endLook (flags : Flags) : Look :=
  if flags.multiLine then if flags.crlf then .lineEndCRLF else .lineEnd else .textEnd

/-- Reads an escape as an element of a sequence. -/
def readEscapeItem (r : Reading) (cs : List Char) : Option (Reading × List Char) := do
  match ← readEscape r.flags cs with
  | (.char c asByte, rest) =>
    if asByte ∧ ¬ r.flags.unicode ∧ c.toNat ≥ 128 then none
    else some (r.push (charPattern r.flags c) 0, rest)
  | (.set s, rest) => some (r.push (.chars s) 0, rest)
  | (.look asked, rest) => some (r.push (.look asked) 0, rest)

/-- Reads the next element. -/
def readNext (r : Reading) (c : Char) (rest : List Char) : Option (Reading × List Char) :=
  match c with
  | '(' => readGroupStart r rest
  | ')' => r.closeGroup.map (·, rest)
  | '|' => some ({ r with level := r.level.branch }, rest)
  | '[' => (readBracketed r.flags rest).map fun (part, rest) =>
      (r.push (.chars part.set) part.height, rest)
  | '?' => r.repeatLast 0 (some 1) rest
  | '*' => r.repeatLast 0 none rest
  | '+' => r.repeatLast 1 none rest
  | '\x7b' => readCounted r rest
  | '\\' => readEscapeItem r rest
  | '.' => (dotPattern? r.flags).map fun p => (r.push p 0, rest)
  | '^' => some (r.push (.look (startLook r.flags)) 0, rest)
  | '$' => some (r.push (.look (endLook r.flags)) 0, rest)
  | c => some (r.push (charPattern r.flags c) 0, rest)

/-- Reads elements to the end of the text.  Every step takes a character, so the
length of the text is fuel enough. -/
def readAll : Nat → Reading → List Char → Option Reading
  | 0, _, _ => none
  | fuel + 1, r, cs =>
    match r.flags.skip cs with
    | [] => some r
    | c :: rest =>
      match readNext r c rest with
      | some (r, rest) => readAll fuel r rest
      | none => none

/-! ## Limits -/

/-- The greatest depth of nesting. -/
def nestingLimit : Nat := 250

/-- Reads a pattern. -/
def parse? (text : String) : Option Pattern :=
  let cs := text.toList
  match readAll (cs.length + 1) ⟨.initial, .start .initial none, [], [], 0⟩ cs with
  | some r =>
    let p := r.level.close
    if r.outer = [] ∧ p.height ≤ nestingLimit ∧ isSmall p.pattern then some p.pattern
    else none
  | none => none

/-- The test of whether a pattern occurs in a text, if the pattern can be read. -/
def matcher? (text : String) : Option (String → Bool) :=
  (parse? text).map fun pattern subject => pattern.occursIn subject.toList

end EventFlow.Pattern
