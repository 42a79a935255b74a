import EventFlow.Proofs.Json.Ordered
import EventFlow.Proofs.Text.Decimal

/-!
# Walking down a value

A dotted path is walked segment by segment: to a member of an object by its key, to an item of an
array by its index.  So a longer path is one path behind another, and what stands anywhere below
a value is found at the path of the keys and indices that lead there, as long as no key on the way
holds a dot.
-/

namespace EventFlow

/-! ## Paths in pieces -/

namespace Text

theorem splitAll_eq_splitOn (separator : Char) (cs : List Char) :
    splitAll separator cs = cs.splitOn separator := by
  induction cs with
  | nil => rw [splitAll, List.splitOn_nil]
  | cons c cs ih =>
      rw [splitAll, List.splitOn_cons_eq_if_modifyHead, ih]
      by_cases here : c = separator
      · rw [if_pos here, if_pos (beq_iff_eq.mpr here)]
      · rw [if_neg here, if_neg (mt beq_iff_eq.mp here)]
        cases pieces : cs.splitOn separator with
        | nil => exact absurd pieces (List.splitOn_ne_nil separator cs)
        | cons piece pieces => rfl

end Text

open EventFlow.Text

namespace Json

/-- The text of a path behind another. -/
theorem toList_append_dot (first second : String) :
    (first ++ "." ++ second).toList = first.toList ++ '.' :: second.toList := by
  rw [String.toList_append, String.toList_append, List.append_assoc]
  rfl

/-- A path behind another leads on from where that has led. -/
theorem lookup?_append_dot (value : Json) (first second : String) :
    value.lookup? (first ++ "." ++ second) =
      (value.lookup? first).bind fun middle => middle.lookup? second := by
  rw [lookup?, toList_append_dot, splitAll_eq_splitOn, List.splitOn_append_cons_self,
    ← splitAll_eq_splitOn, ← splitAll_eq_splitOn, descend?, List.foldlM_append]
  rfl

/-- Segments without dots are the segments of the path that they are joined to. -/
theorem lookup?_intercalate {segments : List String} (value : Json) (nonempty : segments ≠ [])
    (plain : ∀ segment ∈ segments, '.' ∉ segment.toList) :
    value.lookup? (".".intercalate segments) = value.descend? (segments.map String.toList) := by
  have pieces : splitAll '.' (".".intercalate segments).toList = segments.map String.toList := by
    rw [splitAll_eq_splitOn, String.toList_intercalate]
    apply List.splitOn_intercalate
    · exact List.forall_mem_map.mpr plain
    · exact mt List.map_eq_nil_iff.mp nonempty
  rw [lookup?, pieces]

/-! ## Steps -/

/-- The value to which a segment leads: the member of an object with this key, or the item of an
array whose index the segment writes. -/
inductive Child : Json → String → Json → Prop
  | member {members : Bag} {key : String} {inner : Json} (found : members.get? key = some inner) :
      Child (.object members) key inner
  | item {items : List Json} {segment : String} {i : Nat} {inner : Json}
      (written : WritesIndex segment.toList i) (found : items[i]? = some inner) :
      Child (.array items) segment inner

/-- The value to which segments lead, one after the other. -/
inductive Follows : Json → List String → Json → Prop
  | nil (value : Json) : Follows value [] value
  | cons {value inner target : Json} {segment : String} {segments : List String}
      (step : Child value segment inner) (rest : Follows inner segments target) :
      Follows value (segment :: segments) target

section Steps

variable {value inner target : Json} {segment : String} {segments : List String}

theorem child?_eq_some_iff :
    value.child? segment.toList = some inner ↔ Child value segment inner := by
  constructor
  · intro found
    cases value with
    | object members =>
        rw [child?, String.ofList_toList] at found
        exact .member found
    | array items =>
        rw [child?, Option.bind_eq_some_iff] at found
        obtain ⟨i, read, found⟩ := found
        exact .item (readIndex?_eq_some_iff.mp read) found
    | null | bool b | number n | string s => cases found
  · intro step
    cases step with
    | member found =>
        rw [child?, String.ofList_toList]
        exact found
    | item written found =>
        rw [child?, readIndex?_eq_some_iff.mpr written]
        exact found

theorem descend?_eq_some_iff :
    value.descend? (segments.map String.toList) = some target ↔ Follows value segments target := by
  induction segments generalizing value with
  | nil =>
      constructor
      · intro here
        cases here
        exact .nil _
      · intro follows
        cases follows
        rfl
  | cons segment segments ih =>
      rw [List.map_cons, descend?, List.foldlM_cons]
      constructor
      · intro found
        obtain ⟨inner, step, rest⟩ := Option.bind_eq_some_iff.mp found
        exact .cons (child?_eq_some_iff.mp step) (ih.mp rest)
      · intro follows
        cases follows with
        | cons step rest =>
            exact Option.bind_eq_some_iff.mpr ⟨_, child?_eq_some_iff.mpr step, ih.mpr rest⟩

end Steps

/-! ## Positions -/

/-- One turn on the way down: into a member of an object, or to an item of an array. -/
inductive Turn where
  | key (name : String)
  | index (i : Nat)

/-- The segment of a path for a turn. -/
def Turn.segment : Turn → String
  | .key name => name
  | .index i => toString i

/-- A turn that a path can tell: a key without a dot, or an index that fits a machine word. -/
def Turn.Plain : Turn → Prop
  | .key name => '.' ∉ name.toList
  | .index i => i < 2 ^ 64

instance : DecidablePred Turn.Plain
  | .key name => inferInstanceAs (Decidable ('.' ∉ name.toList))
  | .index i => inferInstanceAs (Decidable (i < 2 ^ 64))

/-- What stands in a value at the end of some turns. -/
inductive Position : Json → List Turn → Json → Prop
  | here (value : Json) : Position value [] value
  | member {members : Bag} {key : String} {inner target : Json} {turns : List Turn}
      (memberMem : (key, inner) ∈ members) (below : Position inner turns target) :
      Position (.object members) (.key key :: turns) target
  | item {items : List Json} {i : Nat} {inner target : Json} {turns : List Turn}
      (found : items[i]? = some inner) (below : Position inner turns target) :
      Position (.array items) (.index i :: turns) target

theorem position_nil_iff {value target : Json} : Position value [] target ↔ target = value := by
  constructor
  · intro position
    cases position
    rfl
  · rintro rfl
    exact .here target

theorem Turn.Plain.not_mem_segment {turn : Turn} (plain : turn.Plain) :
    '.' ∉ turn.segment.toList := by
  cases turn with
  | key name => exact plain
  | index i =>
      intro dotMem
      exact absurd ((isDecimal_toString i).allDigits '.' dotMem) (by decide)

/-- The segments of the turns to a position lead there. -/
theorem Position.follows {value target : Json} {turns : List Turn}
    (position : Position value turns target) (ordered : value.Ordered)
    (plain : ∀ turn ∈ turns, turn.Plain) : Follows value (turns.map Turn.segment) target := by
  induction position with
  | here value => exact .nil value
  | member memberMem below ih =>
      obtain ⟨-, plainBelow⟩ := List.forall_mem_cons.mp plain
      cases ordered with
      | object sorted inside =>
          have found := (Bag.lookup_eq_some_iff_mem sorted.distinct).mpr memberMem
          exact .cons (.member found) (ih (inside _ memberMem) plainBelow)
  | item found below ih =>
      obtain ⟨fits, plainBelow⟩ := List.forall_mem_cons.mp plain
      cases ordered with
      | array inside =>
          exact .cons (.item (writesIndex_toString fits) found)
            (ih (inside _ (List.mem_of_getElem? found)) plainBelow)

/-- Looking up a path is walking down the value.  The segments of a path, whatever they are, are
followed one by one, through members by their keys and through items by the indices that segments
write; what is found is what they lead to, and nothing is found if they do not lead on.  Hence
what stands anywhere below a value is found at the path of its keys and indices, and a path that
is put together of two is followed in two parts. -/
theorem lookup?_follows (value : Json) :
    (∀ segments : List String, segments ≠ [] → (∀ segment ∈ segments, '.' ∉ segment.toList) →
      ∀ target, value.lookup? (".".intercalate segments) = some target ↔
        Follows value segments target) ∧
    (∀ turns target, value.Ordered → turns ≠ [] → (∀ turn ∈ turns, turn.Plain) →
      Position value turns target →
        value.lookup? (".".intercalate (turns.map Turn.segment)) = some target) ∧
    ∀ first second : String, value.lookup? (first ++ "." ++ second) =
      (value.lookup? first).bind fun middle => middle.lookup? second := by
  refine ⟨?_, ?_, lookup?_append_dot value⟩
  · intro segments nonempty plain target
    rw [lookup?_intercalate value nonempty plain]
    exact descend?_eq_some_iff
  · intro turns target ordered nonempty plain position
    rw [lookup?_intercalate value (mt List.map_eq_nil_iff.mp nonempty)]
    · exact descend?_eq_some_iff.mpr (position.follows ordered plain)
    · exact List.forall_mem_map.mpr fun turn turnMem => (plain turn turnMem).not_mem_segment

/-- A shelf with a title under an empty key. -/
def shelf : Bag := [("", .string "dune"), ("free", .bool true)]

/-- Two shelves, of which the first is empty. -/
def library : Bag := [("name", .string "north"), ("shelves", .array [.null, .object shelf])]

theorem ordered_library : (object library).Ordered := by
  have second : (object shelf).Ordered := .object (by decide) (List.forall_mem_cons.mpr
    ⟨.string "dune", List.forall_mem_singleton.mpr (.bool true)⟩)
  have shelves : (array [.null, .object shelf]).Ordered := .array (List.forall_mem_cons.mpr
    ⟨.null, List.forall_mem_singleton.mpr second⟩)
  exact .object (by decide) (List.forall_mem_cons.mpr
    ⟨.string "north", List.forall_mem_singleton.mpr shelves⟩)

/-- A path may write the index of the second shelf with a sign and a leading zero; the path of
keys and indices writes neither. -/
theorem lookup?_follows_library :
    ((∀ segment ∈ ["shelves", "+01", ""], '.' ∉ segment.toList) ∧
      (object library).lookup? (".".intercalate ["shelves", "+01", ""]) = some (.string "dune")) ∧
    (Position (object library) [.key "shelves", .index 1, .key ""] (.string "dune") ∧
      (object library).lookup? ("shelves.1" ++ "." ++ "") = some (.string "dune")) ∧
    (object library).lookup? ("shelves.1" ++ "." ++ "") =
      ((object library).lookup? "shelves.1").bind fun middle => middle.lookup? "" := by
  have plain : ∀ segment ∈ ["shelves", "+01", ""], '.' ∉ segment.toList := by decide
  have written : WritesIndex "+01".toList 1 := readIndex?_eq_some_iff.mp (by decide)
  have follows : Follows (object library) ["shelves", "+01", ""] (.string "dune") :=
    .cons (.member rfl) (.cons (.item written rfl) (.cons (.member rfl) (.nil _)))
  have position : Position (object library) [.key "shelves", .index 1, .key ""] (.string "dune") :=
    .member (List.mem_cons_of_mem _ List.mem_cons_self)
      (.item rfl (.member List.mem_cons_self (.here _)))
  have joined : ".".intercalate ([Turn.key "shelves", .index 1, .key ""].map Turn.segment) =
      "shelves.1" ++ "." ++ "" := by decide
  refine ⟨⟨plain, ?_⟩, ⟨position, ?_⟩, ?_⟩
  · exact ((lookup?_follows (object library)).1 _ (by decide) plain _).mpr follows
  · rw [← joined]
    exact (lookup?_follows (object library)).2.1 _ _ ordered_library (List.cons_ne_nil _ _)
      (by decide) position
  · exact (lookup?_follows (object library)).2.2 "shelves.1" ""

end Json

end EventFlow
