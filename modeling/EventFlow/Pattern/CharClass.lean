import EventFlow.Pattern.Escape

/-!
# Bracketed classes in patterns

A class in brackets is a union of characters, ranges, named classes and further
brackets, and such unions may be combined by intersection and two kinds of
difference.  The reader keeps a stack of what is open; it is run with as much
fuel as there are characters left, and every step takes at least one of them.
-/

namespace EventFlow.Pattern

open EventFlow.Text

/-- A part of a class, with how deep brackets and unions nest in it. -/
structure ClassPart where
  set : CharSet
  height : Nat

/-- The parts of a union as one part. -/
def ClassPart.join : List ClassPart → ClassPart
  | [] => ⟨.empty, 0⟩
  | [part] => part
  | parts => ⟨.unions (parts.map (·.set)), 1 + (parts.map (·.height)).foldl max 0⟩

/-- How two unions are combined. -/
inductive SetOperator where
  | inter
  | diff
  | symmDiff
  deriving DecidableEq, Repr

/-- What is open in front of a union: a combination that waits for its right
side, or a bracket with the union that it stands in. -/
inductive ClassFrame where
  | combining (operator : SetOperator) (left : ClassPart)
  | opened (negated : Bool) (outside : List ClassPart)

/-- Combines two unions. -/
def SetOperator.apply (operator : SetOperator) (left right : ClassPart) : ClassPart :=
  let set := match operator with
    | .inter => left.set.inter right.set
    | .diff => left.set.diff right.set
    | .symmDiff => left.set.symmDiff right.set
  ⟨set, 1 + max left.height right.height⟩

/-- A part with the characters that differ in case, when case is ignored. -/
def ClassPart.fold (flags : Flags) (part : ClassPart) : ClassPart :=
  { part with set := (finishClass flags false part.set).getD part.set }

/-- Completes the combination that waits on top of the stack, if one does. -/
def closeOperator (flags : Flags) (part : ClassPart) :
    List ClassFrame → ClassPart × List ClassFrame
  | .combining operator left :: frames =>
    (operator.apply (left.fold flags) (part.fold flags), frames)
  | frames => (part, frames)

/-- Reads the name of a class between colons, behind its opening bracket. -/
def asciiClassItem? (flags : Flags) : List Char → Option (Option CharSet × List Char)
  | ':' :: rest =>
    let (negated, rest) := match rest with
      | '^' :: more => (true, more)
      | _ => (false, rest)
    match rest.span (· != ':') with
    | (name, ':' :: ']' :: after) =>
      (asciiClass? (String.ofList name)).map fun set => (finishClass flags negated set, after)
    | _ => none
  | _ => none

/-- Reads one character or class inside brackets. -/
def readClassItem (flags : Flags) : List Char → Option (Escape × List Char)
  | '\\' :: rest => readEscape flags rest
  | c :: rest => some (.char c false, rest)
  | [] => none

/-- A character that may stand in a class. -/
def classChar? (flags : Flags) : Escape → Option Char
  | .char c _ => if flags.unicode ∨ c.toNat < 128 then some c else none
  | _ => none

/-- An item as a part of a class. -/
def classItem? (flags : Flags) : Escape → Option ClassPart
  | .set s => some ⟨s, 0⟩
  | item => (classChar? flags item).map fun c => ⟨.single c, 0⟩

/-- The character by which a hyphen is told to be one of a range or to stand for
itself: the next one, or under a flag that permits comments the next one that is
neither a blank nor the sign of a comment.  The text of a comment counts. -/
def behindHyphen (flags : Flags) (cs : List Char) : Option Char :=
  if flags.verbose then
    match cs.dropWhile isBlank with
    | '#' :: rest => (rest.dropWhile isBlank).head?
    | rest => rest.head?
  else cs.head?

/-- Reads a character, a class or a range of characters. -/
def readRange (flags : Flags) (cs : List Char) : Option (ClassPart × List Char) := do
  let (first, rest) ← readClassItem flags cs
  let alone (rest : List Char) : Option (ClassPart × List Char) :=
    (classItem? flags first).map (·, rest)
  match flags.skip rest with
  | [] => none
  | '-' :: more =>
    let next := behindHyphen flags more
    if next = some ']' ∨ next = some '-' then alone ('-' :: more)
    else
      let (last, rest) ← readClassItem flags (flags.skip more)
      let lo ← classChar? flags first
      let hi ← classChar? flags last
      if lo ≤ hi then some (⟨⟨[(lo.toNat, hi.toNat)]⟩, 0⟩, rest) else none
  | rest => alone rest

/-- Reads hyphens as themselves, as they are at the start of a class, and skips
what means nothing behind each. -/
def readHyphens (flags : Flags) : List Char → List ClassPart × List Char
  | '-' :: rest =>
    let (parts, rest) := readHyphens flags (flags.skip rest)
    (⟨.single '-', 0⟩ :: parts, rest)
  | cs => ([], cs)
termination_by cs => cs.length
decreasing_by exact Nat.lt_succ_of_le (length_skip_le flags rest)

/-- Reads the start of a class behind its opening bracket: a negation, and
hyphens or a closing bracket that mean themselves. -/
def openClass (flags : Flags) (cs : List Char) : Bool × List ClassPart × List Char :=
  let (negated, cs) := match flags.skip cs with
    | '^' :: rest => (true, flags.skip rest)
    | cs => (false, cs)
  match readHyphens flags cs with
  | ([], ']' :: rest) => (negated, [⟨.single ']', 0⟩], flags.skip rest)
  | (hyphens, rest) => (negated, hyphens, rest)

/-- Reads a class up to the bracket that closes it, with the parts of the
current union and what is open around it. -/
def readClass (flags : Flags) : Nat → List ClassFrame → List ClassPart → List Char →
    Option (ClassPart × List Char)
  | 0, _, _, _ => none
  | fuel + 1, frames, parts, cs =>
    let combine (operator : SetOperator) (rest : List Char) :=
      let (left, frames) := closeOperator flags (.join parts.reverse) frames
      readClass flags fuel (.combining operator left :: frames) [] rest
    match flags.skip cs with
    | [] => none
    | '[' :: rest =>
      match asciiClassItem? flags rest with
      | some (set, after) => do readClass flags fuel frames (⟨← set, 0⟩ :: parts) after
      | none =>
        let (negated, first, rest) := openClass flags rest
        readClass flags fuel (.opened negated parts :: frames) first.reverse rest
    | ']' :: rest =>
      match closeOperator flags (.join parts.reverse) frames with
      | (part, .opened negated outside :: frames) => do
        let closed : ClassPart := ⟨← finishClass flags negated part.set, 1 + part.height⟩
        match frames with
        | [] => return (closed, rest)
        | _ => readClass flags fuel frames (closed :: outside) rest
      | _ => none
    | '&' :: '&' :: rest => combine .inter rest
    | '-' :: '-' :: rest => combine .diff rest
    | '~' :: '~' :: rest => combine .symmDiff rest
    | cs => do
      let (part, rest) ← readRange flags cs
      readClass flags fuel frames (part :: parts) rest

/-- Reads a class behind its opening bracket. -/
def readBracketed (flags : Flags) (cs : List Char) : Option (ClassPart × List Char) :=
  let (negated, first, rest) := openClass flags cs
  readClass flags (cs.length + 1) [.opened negated []] first.reverse rest

end EventFlow.Pattern
