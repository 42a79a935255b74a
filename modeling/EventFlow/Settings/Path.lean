import EventFlow.Settings.Value

/-!
# Settings by path

Settings form a tree of tables and arrays.  A path leads from the root to a place
in it: names, with double underscores or points between them, and indices in
brackets, where a negative index counts from the end.  Whatever stands in the way
of a path is replaced when a value is put at its end.
-/

namespace EventFlow

open EventFlow.Text

/-- A step of a path. -/
inductive PathStep where
  | name (name : String)
  | index (index : Int)
  deriving DecidableEq, Repr

namespace PathStep

/-- Writes a double underscore as a point. -/
def undouble : List Char → List Char
  | '_' :: '_' :: rest => '.' :: undouble rest
  | c :: rest => c :: undouble rest
  | [] => []

/-- May the character stand in a name? -/
def isNameChar (c : Char) : Bool :=
  c.isAlphanum || c == '_' || c == '-'

/-- Reads a name. -/
def readName? (cs : List Char) : Option (PathStep × List Char) :=
  match cs.takeWhile isNameChar with
  | [] => none
  | chars => some (.name (String.ofList chars), cs.dropWhile isNameChar)

/-- Is the character a blank of an index? -/
def isGap (c : Char) : Bool :=
  c == ' ' || c == '\t'

/-- Is the character one of a number? -/
def isNumberChar (c : Char) : Bool :=
  c == '-' || c.isDigit

/-- Reads an index behind its opening bracket; blanks may stand around the number. -/
def readIndex? (cs : List Char) : Option (PathStep × List Char) :=
  let cs := cs.dropWhile isGap
  match readInteger? .signed64 (cs.takeWhile isNumberChar),
      (cs.dropWhile isNumberChar).dropWhile isGap with
  | some n, ']' :: rest => some (.index n, rest)
  | _, _ => none

/-- Reads a step behind the mark that begins it. -/
def readStep? (mark : Char) (cs : List Char) : Option (PathStep × List Char) :=
  if mark = '.' then readName? cs
  else if mark = '[' then readIndex? cs
  else none

theorem length_readName_le {cs rest : List Char} {step : PathStep}
    (h : readName? cs = some (step, rest)) : rest.length ≤ cs.length := by
  unfold readName? at h
  split at h
  · simp at h
  · cases h
    exact (List.dropWhile_sublist isNameChar).length_le

theorem length_readIndex_le {cs rest : List Char} {step : PathStep}
    (h : readIndex? cs = some (step, rest)) : rest.length ≤ cs.length := by
  unfold readIndex? at h
  simp only at h
  split at h
  · next after =>
    cases h
    have gap := (List.dropWhile_sublist isGap (l := cs)).length_le
    have number := (List.dropWhile_sublist isNumberChar (l := cs.dropWhile isGap)).length_le
    have last := (List.dropWhile_sublist isGap
      (l := (cs.dropWhile isGap).dropWhile isNumberChar)).length_le
    rw [after, List.length_cons] at last
    omega
  · simp at h

/-- Reading a step never lengthens what is left. -/
theorem length_readStep_le {mark : Char} {cs rest : List Char} {step : PathStep}
    (h : readStep? mark cs = some (step, rest)) : rest.length ≤ cs.length := by
  unfold readStep? at h
  split at h
  · exact length_readName_le h
  · split at h
    · exact length_readIndex_le h
    · simp at h

/-- Reads the steps behind the first name. -/
def readMore? : List Char → Option (List PathStep)
  | [] => some []
  | c :: cs =>
    match _ : readStep? c cs with
    | some (step, rest) => (readMore? rest).map (step :: ·)
    | none => none
termination_by cs => cs.length
decreasing_by exact Nat.lt_succ_of_le (length_readStep_le ‹readStep? c cs = _›)

/-- Reads a path, which starts with a name. -/
def readPath? (cs : List Char) : Option (List PathStep) := do
  let (step, rest) ← readName? (undouble cs)
  return step :: (← readMore? rest)

end PathStep

/-- Settings at a place: nothing, a value, or settings by name or by index.  Of
the elements of an array those are listed that hold something. -/
inductive SettingTree where
  | nothing
  | value (v : EnvironmentValue)
  | table (entries : List (String × SettingTree))
  | array (size : Nat) (elements : List (Nat × SettingTree))
  deriving Repr

namespace SettingTree

/-- Replaces the entry of a key, or adds one. -/
def putEntry {κ : Type} [DecidableEq κ] (key : κ) (tree : SettingTree)
    (entries : List (κ × SettingTree)) : List (κ × SettingTree) :=
  (key, tree) :: entries.filter fun (k, _) => k ≠ key

/-- Puts a value at the end of a path.  An array grows at its end, or at its start
for a negative index. -/
def put (value : EnvironmentValue) : List PathStep → SettingTree → SettingTree
  | [], _ => .value value
  | .name name :: steps, tree =>
    let entries := match tree with
      | .table entries => entries
      | _ => []
    .table (putEntry name (put value steps ((entries.lookup name).getD .nothing)) entries)
  | .index i :: steps, tree =>
    let (size, elements) := match tree with
      | .array size elements => (size, elements)
      | _ => (0, [])
    let added := if i < 0 then i.natAbs - size else i.toNat + 1 - size
    let elements := if i < 0 then elements.map fun (k, t) => (k + added, t) else elements
    let place := if i < 0 then size + added - i.natAbs else i.toNat
    .array (size + added)
      (putEntry place (put value steps ((elements.lookup place).getD .nothing)) elements)

/-- The settings for a field with a name and a position among the fields of its
group.  A table has it by name and an array by position; anything else is no
group of fields. -/
def field? (position : Nat) (name : String) : SettingTree → Option (Option SettingTree)
  | .table entries => some (entries.lookup name)
  | .array size elements =>
    some (if position < size then some ((elements.lookup position).getD .nothing) else none)
  | _ => none

end SettingTree

end EventFlow
