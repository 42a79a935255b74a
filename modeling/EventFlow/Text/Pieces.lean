/-!
# Cutting and replacing text

Texts are cut at a separator character, searched for a shorter text and
replaced, all on lists of characters.  `splitAll` undoes joining with the
separator; `replaceAll` works from the left and never looks again at what it
has put in.
-/

namespace EventFlow.Text

/-- The pieces between the separators: one more than there are separators. -/
def splitAll (separator : Char) : List Char → List (List Char)
  | [] => [[]]
  | c :: cs =>
    if c = separator then [] :: splitAll separator cs
    else
      match splitAll separator cs with
      | [] => [[c]]
      | piece :: pieces => (c :: piece) :: pieces

/-- What stands before and behind the first separator. -/
def splitFirst? (separator : Char) : List Char → Option (List Char × List Char)
  | [] => none
  | c :: cs =>
    if c = separator then some ([], cs)
    else (splitFirst? separator cs).map fun (before, behind) => (c :: before, behind)

/-- Does the text hold the other text as a run of characters? -/
def holds (needle : List Char) : List Char → Bool
  | [] => needle.isEmpty
  | c :: cs => needle.isPrefixOf (c :: cs) || holds needle cs

/-- Replaces the occurrences of a text, from the left and without overlaps.
An empty text is not searched for. -/
def replaceAll (needle replacement : List Char) (cs : List Char) : List Char :=
  match cs with
  | [] => []
  | c :: rest =>
    if needle.isPrefixOf (c :: rest) ∧ needle ≠ [] then
      replacement ++ replaceAll needle replacement (rest.drop (needle.length - 1))
    else c :: replaceAll needle replacement rest
  termination_by cs.length
  decreasing_by
    · simp only [List.length_cons, List.length_drop]; omega
    · simp

end EventFlow.Text
