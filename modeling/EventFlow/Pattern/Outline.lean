import EventFlow.Pattern.Basic

/-!
# Outlines of patterns

The outline of a pattern is the pattern as an automaton is built from it: with
adjacent characters as one text, without groups that keep nothing, and with the
simplest form of choices and repetitions.  It matches what the pattern matches;
its form decides how large the automaton is.
-/

namespace EventFlow.Pattern

open EventFlow.Text

/-- A pattern in its simplest form.  Sequences and choices have at least two
members and stand in no other of their kind. -/
inductive Outline where
  | empty
  | text (chars : List Char)
  | chars (set : CharSet)
  | look (asked : Look)
  | repeated (body : Outline) (least : Nat) (greatest : Option Nat) (short : Bool)
  | group (number : Nat) (body : Outline)
  | seq (parts : List Outline)
  | alt (branches : List Outline)
  deriving BEq

namespace Outline

/-! ## Lengths of matches -/

mutual

/-- Does the outline match no character whatever it matches? -/
def isZeroWidth : Outline → Bool
  | .empty => true
  | .text _ => false
  | .chars _ => false
  | .look _ => true
  | .repeated body _ _ _ => body.isZeroWidth
  | .group _ body => body.isZeroWidth
  | .seq parts => areZeroWidth parts
  | .alt branches => areZeroWidth branches

/-- Is every one of some outlines without width? -/
def areZeroWidth : List Outline → Bool
  | [] => true
  | p :: ps => p.isZeroWidth && areZeroWidth ps

end

/-- Combines numbers that all have to be there. -/
def combineLengths (combine : Nat → Nat → Nat) : List (Option Nat) → Option Nat
  | [] => none
  | n :: ns => ns.foldl (fun acc n => do return combine (← acc) (← n)) n

mutual

/-- The least number of characters in a match.  There is none where a class
without characters stands. -/
def leastLength : Outline → Option Nat
  | .empty => some 0
  | .text cs => some cs.length
  | .chars set => if set.ranges = [] then none else some 1
  | .look _ => some 0
  | .repeated body least _ _ => body.leastLength.map (least * ·)
  | .group _ body => body.leastLength
  | .seq parts => combineLengths (· + ·) (leastLengths parts)
  | .alt branches => combineLengths min (leastLengths branches)

/-- The least lengths of some outlines. -/
def leastLengths : List Outline → List (Option Nat)
  | [] => []
  | p :: ps => p.leastLength :: leastLengths ps

end

mutual

/-- Is something asked of the position where every match starts, or, backward,
of the one where it ends? -/
def asks (asked : Look) (backward : Bool) : Outline → Bool
  | .empty => false
  | .text _ => false
  | .chars _ => false
  | .look its => decide (its = asked)
  | .repeated body least _ _ => decide (0 < least) && body.asks asked backward
  | .group _ body => body.asks asked backward
  | .seq parts => asksInSeq asked backward parts
  | .alt branches => asksInAll asked backward branches

/-- Is it asked by one of the parts before which nothing is matched? -/
def asksInSeq (asked : Look) (backward : Bool) : List Outline → Bool
  | [] => false
  | p :: ps =>
    if backward then
      asksInSeq asked backward ps || (areZeroWidth ps && p.asks asked backward)
    else p.asks asked backward || (p.isZeroWidth && asksInSeq asked backward ps)

/-- Is it asked by every branch? -/
def asksInAll (asked : Look) (backward : Bool) : List Outline → Bool
  | [] => true
  | p :: ps => p.asks asked backward && asksInAll asked backward ps

end

mutual

/-- The number of outlines in an outline. -/
def weight : Outline → Nat
  | .empty => 1
  | .text _ => 1
  | .chars _ => 1
  | .look _ => 1
  | .repeated body _ _ _ => 1 + body.weight
  | .group _ body => 1 + body.weight
  | .seq parts => 1 + weights parts
  | .alt branches => 1 + weights branches

/-- The number of outlines in some outlines. -/
def weights : List Outline → Nat
  | [] => 0
  | p :: ps => p.weight + weights ps

end

/-! ## Simplest forms -/

/-- A class; a class of one character is a text. -/
def ofClass (set : CharSet) : Outline :=
  match set.ranges with
  | [(lo, hi)] => if lo = hi then .text [Char.ofNat lo] else .chars set
  | _ => .chars set

/-- The parts of an outline as a sequence. -/
def parts : Outline → List Outline
  | .empty => []
  | .seq ps => ps
  | p => [p]

/-- Puts an outline in front of others; texts that follow each other become one. -/
def attach : Outline → List Outline → List Outline
  | .text cs, .text more :: rest => .text (cs ++ more) :: rest
  | p, rest => p :: rest

/-- Outlines of which no two texts follow each other, as a sequence. -/
def ofAttached : List Outline → Outline
  | [] => .empty
  | [p] => p
  | ps => .seq ps

/-- One outline after the other. -/
def ofParts (ps : List Outline) : Outline :=
  ofAttached ((ps.flatMap parts).foldr attach [])

/-- One outline and another behind it. -/
def andThen (first second : Outline) : Outline :=
  ofAttached (first.parts.foldr attach second.parts)

/-- A repetition.  What has no width is not repeated more than once. -/
def ofRepetition (body : Outline) (least : Nat) (greatest : Option Nat) (short : Bool) :
    Outline :=
  let (least, greatest) :=
    if body.isZeroWidth then (min least 1, some (min (greatest.getD 1) 1)) else (least, greatest)
  if least = 0 ∧ greatest = some 0 then .empty
  else if least = 1 ∧ greatest = some 1 then body
  else .repeated body least greatest short

/-- The branches of an outline as a choice. -/
def branches : Outline → List Outline
  | .alt bs => bs
  | p => [p]

/-- The character of a text with only one. -/
def single? : Outline → Option Char
  | .text [c] => some c
  | _ => none

/-- The characters of a class. -/
def class? : Outline → Option CharSet
  | .chars set => some set
  | _ => none

/-- The parts of a sequence. -/
def seq? : Outline → Option (List Outline)
  | .seq ps => some ps
  | _ => none

/-- What two sequences have in common at their start. -/
def sharedStart : List Outline → List Outline → List Outline
  | p :: ps, q :: qs => if p == q then p :: sharedStart ps qs else []
  | _, _ => []

/-- A choice between outlines.  Single characters, or classes, become one class,
and sequences that start alike share their start; each time they do, less is left
to choose from, which the fuel counts. -/
def choose : Nat → List Outline → Outline
  | fuel, bs =>
    match bs.flatMap branches with
    | [] => .chars .empty
    | [b] => b
    | bs =>
      match bs.mapM single?, bs.mapM class?, bs.mapM seq?, fuel with
      | some cs, _, _, _ => ofClass (.ofChars cs)
      | _, some sets, _, _ => ofClass (.unions sets)
      | _, _, some (first :: rest), fuel + 1 =>
        match rest.foldl sharedStart first with
        | [] => .alt bs
        | shared =>
          let ends := (first :: rest).map fun ps => ofParts (ps.drop shared.length)
          ofParts (shared ++ [choose fuel ends])
      | _, _, _, _ => .alt bs

/-- A choice between outlines in its simplest form. -/
def ofBranches : List Outline → Outline
  | [b] => b
  | bs => choose (weights bs) bs

/-- The outlines of the branches of a pattern. -/
def branchesOf : Pattern → List Outline
  | .empty => [.empty]
  | .chars set => [ofClass set]
  | .look asked => [.look asked]
  | .seq first second =>
    [(ofBranches (branchesOf first)).andThen (ofBranches (branchesOf second))]
  | .alt left right => branchesOf left ++ branchesOf right
  | .repeated body least greatest short =>
    [ofRepetition (ofBranches (branchesOf body)) least greatest short]
  | .group none body => [ofBranches (branchesOf body)]
  | .group (some number) body => [.group number (ofBranches (branchesOf body))]

/-- The outline of a pattern. -/
def ofPattern (p : Pattern) : Outline :=
  ofBranches (branchesOf p)

end Outline

end EventFlow.Pattern
