/-!
# Sets of characters

A set of characters is a list of ranges of code points, in ascending order and
with a gap between any two.  Every set is built by `ofRanges`, which brings any
list of ranges into that form, or by an operation that ends in it.
-/

namespace EventFlow.Text

/-- A set of characters as ranges of code points, both ends included. -/
structure CharSet where
  ranges : List (Nat × Nat)
  deriving DecidableEq, Repr

namespace CharSet

/-- The greatest code point. -/
def greatest : Nat := 0x10FFFF

/-- Joins ranges that overlap or touch, in a list that is sorted by its starts
and has a range in front of it. -/
def coalesce (lo hi : Nat) : List (Nat × Nat) → List (Nat × Nat)
  | [] => [(lo, hi)]
  | (lo', hi') :: rest =>
    if lo' ≤ hi + 1 then coalesce lo (max hi hi') rest else (lo, hi) :: coalesce lo' hi' rest

/-- The characters of some ranges. -/
def ofRanges (ranges : List (Nat × Nat)) : CharSet :=
  match ranges.mergeSort fun a b => a.1 ≤ b.1 with
  | [] => ⟨[]⟩
  | (lo, hi) :: rest => ⟨coalesce lo hi rest⟩

/-- No character. -/
def empty : CharSet := ⟨[]⟩

/-- Every character. -/
def all : CharSet := ⟨[(0, greatest)]⟩

/-- One character. -/
def single (c : Char) : CharSet := ⟨[(c.toNat, c.toNat)]⟩

/-- The listed characters. -/
def ofChars (cs : List Char) : CharSet :=
  ofRanges (cs.map fun c => (c.toNat, c.toNat))

/-- Is the code point in the set? -/
def containsCode (s : CharSet) (n : Nat) : Bool :=
  s.ranges.any fun (lo, hi) => lo ≤ n && n ≤ hi

/-- Is the character in the set? -/
def contains (s : CharSet) (c : Char) : Bool :=
  s.containsCode c.toNat

/-- Joining ranges keeps the code points. -/
theorem any_coalesce (n lo hi : Nat) (rest : List (Nat × Nat))
    (sorted : ((lo, hi) :: rest).Pairwise fun a b => a.1 ≤ b.1) :
    ((coalesce lo hi rest).any fun (a, b) => a ≤ n && n ≤ b) =
      ((lo, hi) :: rest).any fun (a, b) => a ≤ n && n ≤ b := by
  fun_induction coalesce lo hi rest with
  | case1 => rfl
  | case2 lo hi lo' hi' rest touch ih =>
    have h := List.pairwise_cons.1 sorted
    have h' := List.pairwise_cons.1 h.2
    have le : lo ≤ lo' := h.1 (lo', hi') (by simp)
    rw [ih (List.pairwise_cons.2 ⟨fun r hr => Nat.le_trans le (h'.1 r hr), h'.2⟩)]
    simp only [List.any_cons]
    rw [← Bool.or_assoc]
    congr 1
    grind
  | case3 lo hi lo' hi' rest apart ih =>
    rw [List.any_cons, ih (List.pairwise_cons.1 sorted).2]
    rfl

/-- The code points of a set of ranges are those of the ranges. -/
theorem containsCode_ofRanges (ranges : List (Nat × Nat)) (n : Nat) :
    (ofRanges ranges).containsCode n = ranges.any fun (lo, hi) => lo ≤ n && n ≤ hi := by
  have same := (List.mergeSort_perm ranges fun a b => a.1 ≤ b.1).any_eq
    (f := fun (lo, hi) => lo ≤ n && n ≤ hi)
  have sorted : (ranges.mergeSort fun a b => a.1 ≤ b.1).Pairwise
      fun a b => decide (a.1 ≤ b.1) = true :=
    List.pairwise_mergeSort (by grind) (by grind) ranges
  unfold ofRanges containsCode
  split
  · next h => rw [h] at same; exact same
  · next lo hi rest h =>
    rw [h] at same sorted
    rw [any_coalesce n lo hi rest (by simpa using sorted)]
    exact same

/-- The characters of either set. -/
def union (s t : CharSet) : CharSet :=
  ofRanges (s.ranges ++ t.ranges)

/-- The code points of a union are those of either set. -/
theorem containsCode_union (s t : CharSet) (n : Nat) :
    (s.union t).containsCode n = (s.containsCode n || t.containsCode n) := by
  rw [union, containsCode_ofRanges, List.any_append]
  rfl

/-- The next code point of a character; surrogates are none. -/
def codeAfter (n : Nat) : Nat :=
  if n = 0xD7FF then 0xE000 else n + 1

/-- The last code point of a character before another one. -/
def codeBefore (n : Nat) : Nat :=
  if n = 0xE000 then 0xD7FF else n - 1

/-- The gaps between ranges, from a code point on. -/
def gaps (start : Nat) : List (Nat × Nat) → List (Nat × Nat)
  | [] => if start ≤ greatest then [(start, greatest)] else []
  | (lo, hi) :: rest =>
    if start < lo then (start, codeBefore lo) :: gaps (max start (codeAfter hi)) rest
    else gaps (max start (codeAfter hi)) rest

/-- The characters that are not in the set. -/
def complement (s : CharSet) : CharSet :=
  ⟨gaps 0 s.ranges⟩

/-- The characters of both sets. -/
def inter (s t : CharSet) : CharSet :=
  (s.complement.union t.complement).complement

/-- The characters of the first set that are not in the second. -/
def diff (s t : CharSet) : CharSet :=
  s.inter t.complement

/-- The characters of exactly one of the sets. -/
def symmDiff (s t : CharSet) : CharSet :=
  (s.diff t).union (t.diff s)

/-- The characters of some sets. -/
def unions (sets : List CharSet) : CharSet :=
  ofRanges (sets.flatMap ranges)

/-- The characters below U+0080. -/
def ascii : CharSet := ⟨[(0, 127)]⟩

end CharSet

end EventFlow.Text
