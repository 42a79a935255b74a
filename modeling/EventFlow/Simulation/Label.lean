import EventFlow.Simulation.World

/-!
# Labels for made ids

What the ids look like that a world makes says nothing.  Where answers of a
simulation are shown, such ids are replaced by labels that number them in the
order in which they first appear, and labels are understood as the ids that they
stand for.
-/

namespace EventFlow.Simulation

/-- The ids that have been labelled, in order. -/
structure Labels where
  ids : List String

namespace Labels

/-- No labels. -/
def empty : Labels := ⟨[]⟩

/-- The label with a number. -/
def label (n : Nat) : String := s!"gen-{n}"

/-- The label of an id, which is a new one if the id has none. -/
def name (labels : Labels) (id : String) : String × Labels :=
  match labels.ids.findIdx? (· == id) with
  | some i => (label (i + 1), labels)
  | none => (label (labels.ids.length + 1), ⟨labels.ids ++ [id]⟩)

/-- The length of a made id. -/
def idLength : Nat := World.idStart.length + World.idDigits

/-- The made id at the start of a text. -/
def idAt? (cs : List Char) : Option String :=
  let id := cs.take idLength
  if World.idStart.toList.isPrefixOf id && id.length == idLength &&
      (id.drop World.idStart.length).all Char.isAlphanum then
    some (String.ofList id)
  else none

/-- Replaces the made ids in a text, behind so many characters that are left out. -/
def showChars (labels : Labels) : Nat → List Char → List Char × Labels
  | _, [] => ([], labels)
  | skipped + 1, _ :: rest => labels.showChars skipped rest
  | 0, c :: rest =>
    match idAt? (c :: rest) with
    | some id =>
      let (shown, labels) := labels.name id
      let (rest, labels) := labels.showChars (idLength - 1) rest
      (shown.toList ++ rest, labels)
    | none =>
      let (rest, labels) := labels.showChars 0 rest
      (c :: rest, labels)

/-- Replaces the made ids in a text. -/
def showText (labels : Labels) (s : String) : String × Labels :=
  if s.length < idLength then (s, labels)
  else
    let (cs, labels) := labels.showChars 0 s.toList
    (String.ofList cs, labels)

mutual

/-- Replaces the made ids in the strings of a value. -/
def showValue (labels : Labels) : Json → Json × Labels
  | .string s => let (s, labels) := labels.showText s; (.string s, labels)
  | .array items => let (items, labels) := labels.showItems items; (.array items, labels)
  | .object members =>
    let (members, labels) := labels.showMembers members
    (.object members, labels)
  | .null => (.null, labels)
  | .bool b => (.bool b, labels)
  | .number n => (.number n, labels)

/-- Replaces the made ids in the items of an array. -/
def showItems (labels : Labels) : List Json → List Json × Labels
  | [] => ([], labels)
  | item :: rest =>
    let (item, labels) := labels.showValue item
    let (rest, labels) := labels.showItems rest
    (item :: rest, labels)

/-- Replaces the made ids in the values of the members of an object. -/
def showMembers (labels : Labels) : List (String × Json) → List (String × Json) × Labels
  | [] => ([], labels)
  | (key, value) :: rest =>
    let (value, labels) := labels.showValue value
    let (rest, labels) := labels.showMembers rest
    ((key, value) :: rest, labels)

end

/-- The id that a text stands for: the one that it labels, or the text itself. -/
def resolve (labels : Labels) (s : String) : String :=
  match (List.range labels.ids.length).find? fun i => label (i + 1) == s with
  | some i => (labels.ids[i]?).getD s
  | none => s

end Labels

end EventFlow.Simulation
