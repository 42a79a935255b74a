import EventFlow.Flow

/-!
# Walks and their order

A walk begins at one of some choices and goes on, from every node that it comes to, to
one of those that follow it.  It is written as the turns that it takes, each the place
of a node among the choices that there are.  Two edges to one node are different turns.
Walks come in the lexicographic order of their turns, which is depth first: a walk
comes before those that go on from it, and these before all that take a later turn.
-/

namespace EventFlow

/-- A walk comes before another one: its turns come first in the lexicographic order. -/
def Precedes (turns others : List Nat) : Prop :=
  List.Lex (· < ·) turns others

@[simp]
theorem precedes_cons_iff {turn other : Nat} {turns others : List Nat} :
    Precedes (turn :: turns) (other :: others) ↔
      turn < other ∨ turn = other ∧ Precedes turns others :=
  List.cons_lex_cons_iff

@[simp]
theorem not_precedes_nil {turns : List Nat} : ¬ Precedes turns [] :=
  List.not_lex_nil

@[simp]
theorem nil_precedes_cons {turn : Nat} {turns : List Nat} : Precedes [] (turn :: turns) :=
  .nil

/-- The turns of a walk lead over some nodes to a last one. -/
inductive Leads (next : Node → List Node) : List Node → List Nat → List Node → Node → Prop where
  | here {choices : List Node} {turn : Nat} {node : Node} (chosen : choices[turn]? = some node) :
      Leads next choices [turn] [] node
  | goOn {choices front : List Node} {turn : Nat} {turns : List Nat} {node last : Node}
      (chosen : choices[turn]? = some node) (rest : Leads next (next node) turns front last) :
      Leads next choices (turn :: turns) (node :: front) last

/-- Behind a path a walk goes wrong if it has more nodes than there are levels left, or if
its last node is on the path or has been passed. -/
def GoesWrong (levels : Nat) (path : List String) (front : List Node) (last : Node) : Prop :=
  levels < front.length + 1 ∨ last.nodeId ∈ path ∨ last.nodeId ∈ front.map (·.nodeId)

theorem goesWrong_cons_iff {levels : Nat} {path : List String} {node last : Node}
    {front : List Node} :
    GoesWrong (levels + 1) path (node :: front) last ↔
      GoesWrong levels (node.nodeId :: path) front last := by
  simp only [GoesWrong, List.length_cons, List.map_cons, List.mem_cons]
  constructor
  · rintro (deep | met | same | met)
    · exact .inl (by omega)
    · exact .inr (.inl (.inr met))
    · exact .inr (.inl (.inl same))
    · exact .inr (.inr met)
  · rintro (deep | (same | met) | met)
    · exact .inl (by omega)
    · exact .inr (.inr (.inl same))
    · exact .inr (.inl met)
    · exact .inr (.inr (.inr met))

variable {next : Node → List Node} {choices rest front : List Node} {turns : List Nat}
  {node last : Node}

namespace Leads

theorem ne_nil (leads : Leads next choices turns front last) : turns ≠ [] := by
  cases leads <;> simp

theorem not_nil : ¬ Leads next [] turns front last := by
  intro leads
  cases leads with
  | here chosen => simp at chosen
  | goOn chosen _ => simp at chosen

/-- A walk that takes the first turn stays there or goes on from there. -/
theorem zero_iff :
    Leads next (node :: rest) (0 :: turns) front last ↔
      (turns = [] ∧ front = [] ∧ last = node) ∨
        ∃ more, front = node :: more ∧ Leads next (next node) turns more last := by
  constructor
  · intro leads
    cases leads with
    | here chosen =>
        obtain rfl : node = last := by simpa using chosen
        exact .inl ⟨rfl, rfl, rfl⟩
    | @goOn _ more _ _ other _ chosen rest =>
        obtain rfl : node = other := by simpa using chosen
        exact .inr ⟨more, rfl, rest⟩
  · rintro (⟨rfl, rfl, rfl⟩ | ⟨more, rfl, leads⟩)
    · exact .here rfl
    · exact .goOn rfl leads

/-- A walk that takes a later turn is one among the other choices. -/
theorem succ_iff {turn : Nat} :
    Leads next (node :: rest) ((turn + 1) :: turns) front last ↔
      Leads next rest (turn :: turns) front last := by
  constructor
  · intro leads
    cases leads with
    | here chosen => exact .here (by simpa using chosen)
    | goOn chosen below => exact .goOn (by simpa using chosen) below
  · intro leads
    cases leads with
    | here chosen => exact .here (by simpa using chosen)
    | goOn chosen below => exact .goOn (by simpa using chosen) below

/-- There is a walk that takes the first turn and then others, if there are no others or
there is a walk with these. -/
theorem exists_zero_iff :
    (∃ front last, Leads next (node :: rest) (0 :: turns) front last) ↔
      turns = [] ∨ ∃ front last, Leads next (next node) turns front last := by
  constructor
  · rintro ⟨front, last, leads⟩
    rcases zero_iff.mp leads with ⟨none, _⟩ | ⟨more, _, below⟩
    · exact .inl none
    · exact .inr ⟨more, last, below⟩
  · rintro (none | ⟨front, last, below⟩)
    · exact ⟨[], node, zero_iff.mpr (.inl ⟨none, rfl, rfl⟩)⟩
    · exact ⟨node :: front, last, zero_iff.mpr (.inr ⟨front, rfl, below⟩)⟩

end Leads

/-! ## Walks beside each other -/

/-- The turns of a walk when there is one more choice in front. -/
def beside : List Nat → List Nat
  | [] => []
  | turn :: turns => (turn + 1) :: turns

theorem Leads.beside (leads : Leads next rest turns front last) :
    Leads next (node :: rest) (beside turns) front last := by
  cases turns with
  | nil => exact absurd rfl leads.ne_nil
  | cons turn turns => exact Leads.succ_iff.mpr leads

section Beside

variable {walks : List (List Nat)}

theorem mem_map_beside_nil : [] ∈ walks.map EventFlow.beside ↔ [] ∈ walks := by
  rw [List.mem_map]
  constructor
  · rintro ⟨_ | ⟨turn, turns⟩, turnsMem, same⟩
    · exact turnsMem
    · cases same
  · exact fun nilMem => ⟨[], nilMem, rfl⟩

theorem mem_map_beside_zero : ¬ (0 :: turns) ∈ walks.map EventFlow.beside := by
  rw [List.mem_map]
  rintro ⟨_ | ⟨turn, turns⟩, _, same⟩ <;> cases same

theorem mem_map_beside_succ {turn : Nat} :
    ((turn + 1) :: turns) ∈ walks.map EventFlow.beside ↔ (turn :: turns) ∈ walks := by
  rw [List.mem_map]
  constructor
  · rintro ⟨_ | ⟨other, others⟩, turnsMem, same⟩ <;> cases same
    exact turnsMem
  · exact fun turnsMem => ⟨_, turnsMem, rfl⟩

end Beside

theorem beside_precedes_beside {first second : List Nat} (earlier : Precedes first second)
    (some : first ≠ []) : Precedes (beside first) (beside second) := by
  cases first with
  | nil => exact absurd rfl some
  | cons turn turns =>
      cases second with
      | nil => simp at earlier
      | cons other others => simpa [EventFlow.beside] using earlier

/-! ## How far walks are taken -/

/-- How many of the walks are taken: all, those up to one of them, or those before one of
them. -/
inductive Extent where
  | all
  | upTo (turns : List Nat)
  | before (turns : List Nat)

namespace Extent

/-- Is a walk among those that are taken? -/
def Covers (turns : List Nat) : Extent → Prop
  | .all => True
  | .upTo last => turns = last ∨ Precedes turns last
  | .before wrong => Precedes turns wrong

/-- The extent of walks when their turns are written in another way. -/
def map (f : List Nat → List Nat) : Extent → Extent
  | .all => .all
  | .upTo turns => .upTo (f turns)
  | .before turns => .before (f turns)

/-- The walks end where they are said to end: at one that is taken, or before one that
goes wrong. -/
def EndsAt (next : Node → List Node) (levels : Nat) (path : List String) (choices : List Node)
    (walks : List (List Nat)) : Extent → Prop
  | .all => True
  | .upTo turns => turns ∈ walks
  | .before turns => ∃ front last, Leads next choices turns front last ∧
      GoesWrong levels path front last

variable {extent : Extent} {turn : Nat}

@[simp]
theorem covers_all : Extent.all.Covers turns := trivial

theorem covers_zero_iff : (extent.map (0 :: ·)).Covers (0 :: turns) ↔ extent.Covers turns := by
  cases extent <;> simp [map, Covers]

theorem not_covers_succ (ends : extent ≠ .all) :
    ¬ (extent.map (0 :: ·)).Covers ((turn + 1) :: turns) := by
  cases extent with
  | all => contradiction
  | upTo last => simp [map, Covers]
  | before wrong => simp [map, Covers]

end Extent

/-- Walks from some choices are enumerated as far as they are taken: in their order,
without a gap, and before any walk that goes wrong. -/
structure Enumerates (next : Node → List Node) (levels : Nat) (path : List String)
    (choices : List Node) (walks : List (List Nat)) (extent : Extent) : Prop where
  sorted : walks.Pairwise Precedes
  mem_iff : ∀ turns, turns ∈ walks ↔
    (∃ front last, Leads next choices turns front last) ∧ extent.Covers turns
  right : ∀ turns front last, Leads next choices turns front last → extent.Covers turns →
    ¬ GoesWrong levels path front last
  ends : extent.EndsAt next levels path choices walks

namespace Enumerates

variable {levels : Nat} {path : List String} {walks more : List (List Nat)} {extent : Extent}

theorem ne_nil (enumerates : Enumerates next levels path choices walks extent)
    (turnsMem : turns ∈ walks) : turns ≠ [] := by
  rcases ((enumerates.mem_iff turns).mp turnsMem).1 with ⟨_, _, leads⟩
  exact leads.ne_nil

/-- Walks end at a walk, which takes a turn. -/
theorem covers_nil (enumerates : Enumerates next levels path choices walks extent) :
    extent.Covers [] := by
  cases extent with
  | all => trivial
  | upTo last =>
      cases last with
      | nil => exact .inl rfl
      | cons turn others => exact .inr nil_precedes_cons
  | before wrong =>
      rcases enumerates.ends with ⟨_, _, leads, _⟩
      cases wrong with
      | nil => exact absurd rfl leads.ne_nil
      | cons turn turns => exact nil_precedes_cons

theorem covers_beside_zero (enumerates : Enumerates next levels path choices walks extent) :
    (extent.map EventFlow.beside).Covers (0 :: turns) := by
  cases extent with
  | all => trivial
  | upTo last =>
      cases last with
      | nil => exact absurd rfl (enumerates.ne_nil enumerates.ends)
      | cons turn others => simp [Extent.map, Extent.Covers, EventFlow.beside]
  | before wrong =>
      rcases enumerates.ends with ⟨_, _, leads, _⟩
      cases wrong with
      | nil => exact absurd rfl leads.ne_nil
      | cons turn others => simp [Extent.map, Extent.Covers, EventFlow.beside]

theorem covers_beside_succ (enumerates : Enumerates next levels path choices walks extent)
    {turn : Nat} :
    (extent.map EventFlow.beside).Covers ((turn + 1) :: turns) ↔ extent.Covers (turn :: turns) := by
  cases extent with
  | all => exact Iff.rfl
  | upTo last =>
      cases last with
      | nil => exact absurd rfl (enumerates.ne_nil enumerates.ends)
      | cons other others => simp [Extent.map, Extent.Covers, EventFlow.beside]
  | before wrong =>
      rcases enumerates.ends with ⟨_, _, leads, _⟩
      cases wrong with
      | nil => exact absurd rfl leads.ne_nil
      | cons other others => simp [Extent.map, Extent.Covers, EventFlow.beside]

/-! ## Putting walks together -/

/-- Where there is nothing to choose there are no walks. -/
theorem nil : Enumerates next levels path [] [] .all where
  sorted := .nil
  mem_iff turns := by simp [Leads.not_nil]
  right turns front last leads := absurd leads Leads.not_nil
  ends := trivial

/-- No walk is taken if the first node goes wrong. -/
theorem refused (wrong : GoesWrong levels path [] node) :
    Enumerates next levels path (node :: rest) [] (.before [0]) := by
  have nothing (turns : List Nat) (some : turns ≠ []) : ¬ Precedes turns [0] := by
    cases turns with
    | nil => contradiction
    | cons turn others => simp
  refine ⟨.nil, ?_, ?_, [], node, .here rfl, wrong⟩
  · intro turns
    simp only [List.not_mem_nil, false_iff]
    rintro ⟨⟨front, last, leads⟩, covered⟩
    exact nothing turns leads.ne_nil covered
  · intro turns front last leads covered
    exact absurd covered (nothing turns leads.ne_nil)

/-- Only the walk to the first node is taken if the walks end there. -/
theorem stopped (isRight : ¬ GoesWrong levels path [] node) :
    Enumerates next levels path (node :: rest) [[0]] (.upTo [0]) := by
  have only (turns : List Nat) (some : turns ≠ [])
      (covered : (Extent.upTo [0]).Covers turns) : turns = [0] := by
    cases turns with
    | nil => contradiction
    | cons turn others => simpa [Extent.Covers] using covered
  refine ⟨List.pairwise_singleton _ _, ?_, ?_, List.mem_singleton_self _⟩
  · intro turns
    rw [List.mem_singleton]
    constructor
    · rintro rfl
      exact ⟨⟨[], node, .here rfl⟩, .inl rfl⟩
    · rintro ⟨⟨front, last, leads⟩, covered⟩
      exact only turns leads.ne_nil covered
  · intro turns front last leads covered
    obtain rfl := only turns leads.ne_nil covered
    rcases Leads.zero_iff.mp leads with ⟨_, rfl, rfl⟩ | ⟨_, _, below⟩
    · exact isRight
    · exact absurd rfl below.ne_nil

/-- The walks to the first node and on from there, in their order. -/
theorem sorted_below (below : Enumerates next levels path choices walks extent) :
    ([0] :: walks.map (0 :: ·)).Pairwise Precedes := by
  refine List.pairwise_cons.mpr ⟨?_, ?_⟩
  · intro longer longerMem
    rcases List.mem_map.mp longerMem with ⟨turns, turnsMem, rfl⟩
    cases turns with
    | nil => exact absurd rfl (below.ne_nil turnsMem)
    | cons turn others => simp
  · rw [List.pairwise_map]
    exact below.sorted.imp fun earlier => .cons earlier

theorem mem_below_iff : (0 :: turns) ∈ [0] :: walks.map (0 :: ·) ↔ turns = [] ∨ turns ∈ walks := by
  simp

theorem right_below (isRight : ¬ GoesWrong (levels + 1) path [] node)
    (below : Enumerates next levels (node.nodeId :: path) (next node) walks extent)
    (leads : Leads next (node :: rest) (0 :: turns) front last) (covered : extent.Covers turns) :
    ¬ GoesWrong (levels + 1) path front last := by
  rcases Leads.zero_iff.mp leads with ⟨_, rfl, rfl⟩ | ⟨more, rfl, onward⟩
  · exact isRight
  · rw [goesWrong_cons_iff]
    exact below.right turns more last onward covered

/-- The walks end below the first node. -/
theorem stoppedBelow (isRight : ¬ GoesWrong (levels + 1) path [] node)
    (below : Enumerates next levels (node.nodeId :: path) (next node) walks extent)
    (ends : extent ≠ .all) :
    Enumerates next (levels + 1) path (node :: rest) ([0] :: walks.map (0 :: ·))
      (extent.map (0 :: ·)) where
  sorted := below.sorted_below
  mem_iff turns := by
    rcases turns with _ | ⟨_ | turn, others⟩
    · simpa using fun front last leads => absurd rfl (Leads.ne_nil leads)
    · rw [mem_below_iff, Leads.exists_zero_iff, Extent.covers_zero_iff, below.mem_iff]
      constructor
      · rintro (rfl | ⟨leads, covered⟩)
        · exact ⟨.inl rfl, below.covers_nil⟩
        · exact ⟨.inr leads, covered⟩
      · rintro ⟨none | leads, covered⟩
        · exact .inl none
        · exact .inr ⟨leads, covered⟩
    · simp [Extent.not_covers_succ ends]
  right turns front last leads covered := by
    rcases turns with _ | ⟨_ | turn, others⟩
    · exact absurd rfl leads.ne_nil
    · exact below.right_below isRight leads (Extent.covers_zero_iff.mp covered)
    · exact absurd covered (Extent.not_covers_succ ends)
  ends := by
    cases extent with
    | all => contradiction
    | upTo last => exact List.mem_cons_of_mem _ (List.mem_map_of_mem below.ends)
    | before wrong =>
        rcases below.ends with ⟨front, last, leads, wrong⟩
        exact ⟨node :: front, last, Leads.zero_iff.mpr (.inr ⟨front, rfl, leads⟩),
          goesWrong_cons_iff.mpr wrong⟩

/-- The walks go on behind the first node. -/
theorem wentOn (isRight : ¬ GoesWrong (levels + 1) path [] node)
    (below : Enumerates next levels (node.nodeId :: path) (next node) walks .all)
    (others : Enumerates next (levels + 1) path rest more extent) :
    Enumerates next (levels + 1) path (node :: rest)
      ([0] :: walks.map (0 :: ·) ++ more.map EventFlow.beside) (extent.map EventFlow.beside) where
  sorted := by
    refine List.pairwise_append.mpr ⟨below.sorted_below, ?_, ?_⟩
    · rw [List.pairwise_map]
      exact others.sorted.imp_of_mem fun firstMem _ earlier =>
        beside_precedes_beside earlier (others.ne_nil firstMem)
    · intro early earlyMem late lateMem
      rcases List.mem_map.mp lateMem with ⟨turns, turnsMem, rfl⟩
      rcases turns with _ | ⟨turn, rest⟩
      · exact absurd rfl (others.ne_nil turnsMem)
      · rcases List.mem_cons.mp earlyMem with rfl | earlyMem
        · simp [EventFlow.beside]
        · rcases List.mem_map.mp earlyMem with ⟨_, _, rfl⟩
          simp [EventFlow.beside]
  mem_iff turns := by
    rw [List.mem_append]
    rcases turns with _ | ⟨_ | turn, onward⟩
    · have none : [] ∉ more := fun nilMem => others.ne_nil nilMem rfl
      simpa [mem_map_beside_nil, none] using fun front last leads => absurd rfl (Leads.ne_nil leads)
    · rw [mem_below_iff, Leads.exists_zero_iff, below.mem_iff]
      simp [mem_map_beside_zero, others.covers_beside_zero]
    · simp [mem_map_beside_succ, others.mem_iff, Leads.succ_iff, others.covers_beside_succ]
  right turns front last leads covered := by
    rcases turns with _ | ⟨_ | turn, rest⟩
    · exact absurd rfl leads.ne_nil
    · exact below.right_below isRight leads trivial
    · exact others.right _ front last (Leads.succ_iff.mp leads)
        (others.covers_beside_succ.mp covered)
  ends := by
    cases extent with
    | all => trivial
    | upTo last => exact List.mem_append_right _ (List.mem_map_of_mem others.ends)
    | before wrong =>
        rcases others.ends with ⟨front, last, leads, wrong⟩
        exact ⟨front, last, leads.beside, wrong⟩

end Enumerates

end EventFlow
