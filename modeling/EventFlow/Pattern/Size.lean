import Std.Data.HashMap
import EventFlow.Pattern.Encoding
import EventFlow.Pattern.Outline

/-!
# Sizes of patterns

A pattern is refused when an automaton that it stands for would take too much
memory: the one that reads a text forward, which also keeps what groups match, or
the one that reads it backward.  An automaton has a state for every byte of a
text and for every choice, with all repetitions written out.  A class of
characters is a tree of ranges of bytes in which equal branches are shared as
far as a small table of the latest ones remembers them, so its size depends on
the numbers of the states before it.
-/

namespace EventFlow.Pattern

open EventFlow.Text

/-! ## Growing automata -/

/-- The memory that a state takes. -/
def stateSize : Nat := 32

/-- The memory that one more way out of a state of choice takes. -/
def choiceSize : Nat := 4

/-- The memory that a range of bytes takes in a state of several ranges. -/
def rangeSize : Nat := 8

/-- The greatest memory of an automaton. -/
def sizeLimit : Nat := 10485760

/-- An automaton that is being built, as far as its size goes: the number of its
states, the memory beside them, and whether what was built last ends in a state
of choice. -/
structure Growth where
  states : Nat
  extra : Nat
  endsInChoice : Bool
  deriving DecidableEq, Repr

/-- Adds states and memory, up to the limit.  The last of the states is not one
of choice. -/
def Growth.add (g : Growth) (states extra : Nat) : Option Growth :=
  let states := g.states + states
  let extra := g.extra + extra
  if stateSize * states + extra ≤ sizeLimit then some ⟨states, extra, false⟩ else none

/-- Leads on from what was built last. -/
def Growth.link (g : Growth) : Option Growth :=
  g.add 0 (if g.endsInChoice then choiceSize else 0)

/-- Marks that what was built last ends in a state of choice. -/
def Growth.endInChoice (g : Growth) : Growth :=
  { g with endsInChoice := true }

/-- Takes a step several times. -/
def Growth.times (step : Growth → Option Growth) : Nat → Growth → Option Growth
  | 0, g => some g
  | n + 1, g =>
    match step g with
    | some g => times step n g
    | none => none

/-- Builds so many copies, one behind the other. -/
def Growth.copies (step : Growth → Option Growth) : Nat → Growth → Option Growth
  | 0, g => g.add 1 0
  | n + 1, g => do Growth.times (fun g => do step (← g.link)) n (← step g)

/-! ## Classes -/

/-- The slot of a table in which some numbers are remembered. -/
def slot (slots : Nat) (numbers : List Nat) : Nat :=
  (numbers.foldl (fun h n => (h ^^^ n.toUInt64) * 1099511628211)
    (14695981039346656037 : UInt64)).toNat % slots

/-- The ways out of a state: the first and the last byte, and the state that
they lead to. -/
abbrev Ways : Type := List (Nat × Nat × Nat)

/-- The latest states of a class by what they lead to. -/
abbrev Recent : Type := Std.HashMap Nat (Ways × Nat)

/-- A state with some ways out, which may be one that is remembered.  The numbers
tell where. -/
def stateFor (slots extra : Nat) (ways : Ways) (numbers : List Nat) (g : Growth)
    (recent : Recent) : Option (Nat × Growth × Recent) :=
  let key := slot slots numbers
  let fresh : Option (Nat × Growth × Recent) := do
    return (g.states, ← g.add 1 extra, recent.insert key (ways, g.states))
  match recent[key]? with
  | some (same, state) => if same = ways then some (state, g, recent) else fresh
  | none => fresh

/-- Brings sequences that follow each other and start alike together. -/
def byFirst : List (List (Nat × Nat)) → List ((Nat × Nat) × List (List (Nat × Nat)))
  | [] => []
  | [] :: rest => byFirst rest
  | (range :: bytes) :: rest =>
    match byFirst rest with
    | (range', tails) :: more =>
      if range = range' then (range, bytes :: tails) :: more
      else (range, [bytes]) :: (range', tails) :: more
    | [] => [(range, [bytes])]

/-- Builds the tree of some sequences, the branches before the state that leads
to them.  The fuel is the greatest length of a sequence. -/
def growTree (target : Nat) : Nat → List (List (Nat × Nat)) → Growth → Recent →
    Option (Nat × Growth × Recent)
  | 0, _, g, recent => some (target, g, recent)
  | depth + 1, tails, g, recent =>
    match byFirst tails with
    | [] => some (target, g, recent)
    | groups => do
      let (ways, g, recent) ← groups.foldlM (fun (ways, g, recent) (range, tails) => do
        let (next, g, recent) ← growTree target depth tails g recent
        return (ways ++ [(range.1, range.2, next)], g, recent)) (([] : Ways), g, recent)
      let numbers := ways.flatMap fun (lo, hi, next) => [lo, hi, next]
      stateFor 10000 (rangeSize * ways.length) ways numbers g recent

/-- Builds a state for each range of a sequence, which leads to the one before. -/
def growChain (last : Nat) : List (Nat × Nat) → Growth → Recent → Option (Growth × Recent)
  | [], g, recent => do return (← g.add 0 choiceSize, recent)
  | (lo, hi) :: bytes, g, recent => do
    let (state, g, recent) ← stateFor 1000 0 [(lo, hi, last)] [last, lo, hi] g recent
    growChain state bytes g recent

/-- Builds a class.  A class of ASCII characters is one state and its end. -/
def growClass (backward : Bool) (set : CharSet) (g : Growth) : Option Growth :=
  if set.ranges.all fun (_, hi) => hi < 0x80 then g.add 2 (rangeSize * set.ranges.length)
  else if backward then do
    let target := g.states + 1
    let (g, _) ← (classBytes set).foldlM
      (fun (g, recent) bytes => growChain target bytes g recent) (← g.add 2 0, ∅)
    return g
  else do
    let (_, g, _) ← growTree g.states 4 (classBytes set) (← g.add 1 0) ∅
    return g

/-! ## Choices between texts -/

/-- Cuts a list of texts where one ends; the same end is not counted again while
there is nothing else. -/
def cutAtEnds : List (List Nat) → List (List (List Nat))
  | [] => [[]]
  | [] :: rest => [] :: cutAtEnds rest
  | bytes :: rest =>
    match cutAtEnds rest with
    | piece :: pieces => (bytes :: piece) :: pieces
    | [] => [[bytes]]

/-- Brings texts that start with the same byte together. -/
def byFirstByte (texts : List (List Nat)) : List (Nat × List (List Nat)) :=
  texts.foldr insert []
where
  insert (text : List Nat) (groups : List (Nat × List (List Nat))) :
      List (Nat × List (List Nat)) :=
    match text with
    | [] => groups
    | b :: rest =>
      match groups.lookup b with
      | some _ => groups.map fun (b', tails) =>
          if b' = b then (b', rest :: tails) else (b', tails)
      | none => (b, [rest]) :: groups

/-- The states and the memory beside them of the tree of some texts: for each
piece of the list a state that tells the first bytes apart, and a choice between
these states and the end.  The fuel is the greatest length of a text. -/
def textTree : Nat → List (List Nat) → Nat × Nat
  | 0, _ => (0, 0)
  | fuel + 1, texts =>
    if texts.all (· == []) then (0, 0)
    else
      let pieces := match texts.span (· == []) with
        | ([], texts) => cutAtEnds texts
        | (_, texts) => [] :: cutAtEnds texts
      let groups := pieces.map byFirstByte
      let children := groups.flatten.map fun (_, tails) => textTree fuel tails
      let ways := (groups.filter (· != [])).length
      let ranges := groups.map fun gs => if gs.length < 2 then 0 else rangeSize * gs.length
      (1 + ways + (children.map (·.1)).sum,
        choiceSize * (ways + pieces.length - 1) + ranges.sum + (children.map (·.2)).sum)

/-- Builds a choice between texts. -/
def growTexts (backward : Bool) (texts : List (List Char)) (g : Growth) : Option Growth :=
  let texts := texts.map fun cs => if backward then (encodeText cs).reverse else encodeText cs
  let (states, extra) := textTree (1 + (texts.map List.length).foldl max 0) texts
  g.add (1 + states) extra

/-! ## Outlines -/

/-- The characters of a text. -/
def Outline.text? : Outline → Option (List Char)
  | .text cs => some cs
  | _ => none

mutual

/-- Builds what an outline stands for. -/
def Outline.grow (backward : Bool) : Outline → Growth → Option Growth
  | .empty, g => g.add 1 0
  | .text cs, g => g.add (encodeText cs).length 0
  | .chars set, g => growClass backward set g
  | .look _, g => g.add 1 0
  | .group _ body, g =>
    if backward then body.grow backward g
    else do (← (← body.grow backward (← g.add 1 0)).link).add 1 0
  | .seq parts, g => growSeq backward parts g
  | .alt branches, g =>
    match branches.mapM Outline.text? with
    | some texts => growTexts backward texts g
    | none => growAlt backward 0 branches g
  | .repeated body least none _, g =>
    if 0 < least then do
      let g ← (← g.copies (body.grow backward) least).link
      return (← g.add 1 choiceSize).endInChoice
    else if (body.leastLength.getD 0) = 0 then do
      (← (← body.grow backward g).link).add 3 (4 * choiceSize)
    else do
      return (← (← body.grow backward (← g.add 1 choiceSize)).link).endInChoice
  | .repeated body least (some greatest) _, g =>
    let once (g : Growth) : Option Growth := do
      (← body.grow backward (← g.add 1 (2 * choiceSize))).link
    if least = 0 ∧ greatest = 1 then do (← once g).add 1 0
    else if least = greatest then g.copies (body.grow backward) least
    else do
      let g ← (← g.copies (body.grow backward) least).link
      Growth.times once (greatest - least) (← g.add 1 0)

/-- Builds one outline after the other, backward the last of them first. -/
def growSeq (backward : Bool) : List Outline → Growth → Option Growth
  | [], g => some g
  | [p], g => p.grow backward g
  | p :: ps, g =>
    if backward then do p.grow backward (← (← growSeq backward ps g).link)
    else do growSeq backward ps (← (← p.grow backward g).link)

/-- Builds the branches of a choice, behind some that have been built.  The state
of choice and the end follow the second branch. -/
def growAlt (backward : Bool) (built : Nat) : List Outline → Growth → Option Growth
  | [], g => some g
  | p :: ps, g => do
    let g ← (← p.grow backward g).link
    growAlt backward (built + 1) ps (← g.add (if built = 1 then 2 else 0) choiceSize)

end

/-- Does the automaton for one direction stay within the limit?  Its start passes
over any bytes, unless every match has to start where the text does. -/
def Outline.fits (backward : Bool) (outline : Outline) : Bool :=
  let border := if backward then Look.textEnd else Look.textStart
  let grown : Option Growth := do
    let start ← if outline.asks border backward then Growth.add ⟨0, 0, false⟩ 1 0
      else Growth.add ⟨0, 0, false⟩ 3 (rangeSize + 2 * choiceSize)
    if backward then (← (← outline.grow backward start).link).add 1 0
    else (← (← outline.grow backward (← start.add 1 0)).link).add 2 0
  grown.isSome

/-- Is the outline a choice between so many texts that they are looked for
without an automaton? -/
def Outline.isTextList : Outline → Bool
  | .alt branches => decide (3000 ≤ branches.length) && branches.all fun b => b.text?.isSome
  | _ => false

/-- Is a pattern small enough? -/
def isSmall (p : Pattern) : Bool :=
  let outline := Outline.ofPattern p
  outline.isTextList || (outline.fits false && outline.fits true)

end EventFlow.Pattern
