import EventFlow.Text.CharSet

/-!
# Characters as bytes

Automata pass over the bytes of a text.  A class of characters is for them a list
of sequences of ranges of bytes, one for every block of characters whose
encodings differ only in bytes that run over all that may stand there.
-/

namespace EventFlow.Pattern

open EventFlow.Text

/-- The bytes that encode a code point. -/
def encodeCode (n : Nat) : List Nat :=
  if n < 0x80 then [n]
  else if n < 0x800 then [0xC0 + n / 64, 0x80 + n % 64]
  else if n < 0x10000 then [0xE0 + n / 4096, 0x80 + n / 64 % 64, 0x80 + n % 64]
  else [0xF0 + n / 262144, 0x80 + n / 4096 % 64, 0x80 + n / 64 % 64, 0x80 + n % 64]

/-- Where the length of encodings changes, and the gap of the code points without
one: the last code point before and the first one behind. -/
def encodingBorders : List (Nat × Nat) :=
  [(0x7F, 0x80), (0x7FF, 0x800), (0xD7FF, 0xE000), (0xFFFF, 0x10000)]

/-- Cuts a range at the first border that it crosses and again behind it. -/
def cutAtBorders (lo hi : Nat) : List (Nat × Nat) → List (Nat × Nat)
  | [] => if lo ≤ hi then [(lo, hi)] else []
  | (last, first) :: borders =>
    if lo ≤ last ∧ last < hi then
      (lo, last) :: cutAtBorders (max lo first) hi borders
    else cutAtBorders lo hi borders

/-- The sequences of ranges of bytes that encode a range of code points whose
encodings have one length.  All bytes behind one that varies have to vary over
all that may follow; where they do not, the range is cut, the last byte first.
The fuel counts the cuts that are left. -/
def byteRanges : Nat → Nat → Nat → List (List (Nat × Nat))
  | 0, lo, hi => [(encodeCode lo).zip (encodeCode hi)]
  | fuel + 1, lo, hi =>
    let cut? := [64, 4096, 262144].findSome? fun block =>
      if hi < 0x80 ∨ lo / block = hi / block then none
      else if lo % block ≠ 0 then some (lo - lo % block + block)
      else if hi % block ≠ block - 1 then some (hi - hi % block)
      else none
    match cut? with
    | some middle => byteRanges fuel lo (middle - 1) ++ byteRanges fuel middle hi
    | none => [(encodeCode lo).zip (encodeCode hi)]

/-- The sequences of ranges of bytes that encode a class, in ascending order. -/
def classBytes (set : CharSet) : List (List (Nat × Nat)) :=
  (set.ranges.flatMap fun (lo, hi) => cutAtBorders lo hi encodingBorders).flatMap
    fun (lo, hi) => byteRanges 6 lo hi

/-- The bytes of a text. -/
def encodeText (cs : List Char) : List Nat :=
  cs.flatMap fun c => encodeCode c.toNat

end EventFlow.Pattern
