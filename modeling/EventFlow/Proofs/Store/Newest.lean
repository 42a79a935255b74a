import EventFlow.Proofs.Store.Listing
import Mathlib.Data.String.Basic

/-!
# Listings show the newest executions

Executions with different ids stand in one strict order: the newest first, and of those that were
created at the same instant the one with the greater id.  A listing is the front of the executions
of a flow in this order.  So it does not depend on the order in which the table holds them.
-/

namespace EventFlow

/-! ## The order of a listing -/

namespace Instant

variable {a b c : Instant}

theorem isBefore_irrefl (a : Instant) : a.isBefore a = false := by
  simp [isBefore, lt_def]

theorem isBefore_trans (first : a.isBefore b = true) (second : b.isBefore c = true) :
    a.isBefore c = true := by
  rw [isBefore_iff] at first second ⊢
  rcases first with less | ⟨same, leap, plain⟩
  · exact .inl (Int.lt_of_lt_of_le less (le_def.mp (le_of_isBefore (isBefore_iff.mpr second))))
  · rcases second with later | ⟨_, other, _⟩
    · exact .inl (same ▸ later)
    · simp [plain] at other

/-- Of two instants one comes before the other, unless they are the same. -/
theorem isBefore_trichotomy (a b : Instant) :
    a.isBefore b = true ∨ a = b ∨ b.isBefore a = true := by
  simp only [isBefore_iff]
  rcases Int.lt_trichotomy a.nanoseconds b.nanoseconds with less | same | greater
  · exact .inl (.inl less)
  · rcases a with ⟨count, leap⟩
    rcases b with ⟨otherCount, otherLeap⟩
    obtain rfl : count = otherCount := same
    cases leap <;> cases otherLeap <;> simp
  · exact .inr (.inr (.inl greater))

end Instant

namespace Execution

/-- An execution stands before another in a listing: it was created later, or at the same instant
and has the greater id. -/
def NewerThan (a b : Execution) : Prop :=
  b.createdAt.isBefore a.createdAt = true ∨
    a.createdAt = b.createdAt ∧ b.executionId.text < a.executionId.text

variable {a b c : Execution}

theorem not_newerThan_self (a : Execution) : ¬ a.NewerThan a := by
  rintro (later | ⟨_, greater⟩)
  · simp [Instant.isBefore_irrefl] at later
  · exact lt_irrefl _ greater

theorem NewerThan.trans (first : a.NewerThan b) (second : b.NewerThan c) : a.NewerThan c := by
  rcases first with later | ⟨same, greater⟩
  · rcases second with laterStill | ⟨sameStill, _⟩
    · exact .inl (Instant.isBefore_trans laterStill later)
    · exact .inl (sameStill ▸ later)
  · rcases second with later | ⟨sameStill, greaterStill⟩
    · exact .inl (same ▸ later)
    · exact .inr ⟨same.trans sameStill, lt_trans greaterStill greater⟩

/-- Only the time of creation and the id count. -/
theorem NewerThan.congr_right (newer : a.NewerThan b) (createdAt : b.createdAt = c.createdAt)
    (id : b.executionId = c.executionId) : a.NewerThan c := by
  rw [NewerThan, ← createdAt, ← id]
  exact newer

theorem NewerThan.congr_left (newer : b.NewerThan c) (createdAt : b.createdAt = a.createdAt)
    (id : b.executionId = a.executionId) : a.NewerThan c := by
  rw [NewerThan, ← createdAt, ← id]
  exact newer

/-- What stands before another is not behind it as well. -/
theorem NewerThan.asymm (newer : a.NewerThan b) : ¬ b.NewerThan a :=
  fun back => not_newerThan_self a (newer.trans back)

end Execution

namespace Store

/-- The comparison of a listing holds between what stands in the order and between equals. -/
theorem newerThan_or_same_of_newerFirst {a b : Execution} (first : newerFirst a b = true) :
    a.NewerThan b ∨ a.createdAt = b.createdAt ∧ a.executionId = b.executionId := by
  simp only [newerFirst, Bool.or_eq_true, Bool.and_eq_true, beq_iff_eq, decide_eq_true_eq] at first
  rcases first with later | ⟨same, reaches⟩
  · exact .inl (.inl later)
  · rcases lt_or_eq_of_le reaches with greater | sameText
    · exact .inl (.inr ⟨same, greater⟩)
    · exact .inr ⟨same, congrArg ExecutionId.mk sameText.symm⟩

/-- Where it fails the other one stands before. -/
theorem newerThan_of_not_newerFirst {a b : Execution} (behind : newerFirst a b = false) :
    b.NewerThan a := by
  simp only [newerFirst, Bool.or_eq_false_iff, Bool.and_eq_false_iff, beq_eq_false_iff_ne,
    decide_eq_false_iff_not] at behind
  rcases behind with ⟨notLater, notReaching⟩
  rcases Instant.isBefore_trichotomy a.createdAt b.createdAt with earlier | same | later
  · exact .inl earlier
  · rcases notReaching with apart | greater
    · exact absurd same apart
    · exact .inr ⟨same.symm, not_le.mp greater⟩
  · simp [later] at notLater

/-- Executions with different ids that are sorted by the comparison stand in the order. -/
theorem pairwise_newerThan_mergeSort {rows : List Execution}
    (distinct : (rows.map (·.executionId)).Nodup) :
    (rows.mergeSort newerFirst).Pairwise Execution.NewerThan := by
  have sorted : (rows.mergeSort newerFirst).Pairwise fun a b =>
      a.NewerThan b ∨ a.createdAt = b.createdAt ∧ a.executionId = b.executionId := by
    refine pairwise_mergeSort_of_decides ?_ (fun _ _ => newerThan_or_same_of_newerFirst)
      (fun _ _ behind => .inl (newerThan_of_not_newerFirst behind)) rows
    rintro a b c (newer | ⟨same, sameId⟩) (newerStill | ⟨sameStill, sameIdStill⟩)
    · exact .inl (newer.trans newerStill)
    · exact .inl (newer.congr_right sameStill sameIdStill)
    · exact .inl (newerStill.congr_left same.symm sameId.symm)
    · exact .inr ⟨same.trans sameStill, sameId.trans sameIdStill⟩
  have apart : (rows.mergeSort newerFirst).Pairwise fun a b => a.executionId ≠ b.executionId :=
    List.pairwise_map.mp ((((List.mergeSort_perm rows newerFirst).map _).nodup_iff).mpr distinct)
  apply (sorted.and apart).imp
  rintro a b ⟨newer | ⟨_, sameId⟩, different⟩
  · exact newer
  · exact absurd sameId different

/-! ## What a listing shows -/

/-- The executions of a flow, from the newest on. -/
def executionsOf (s : Store) (id : FlowId) : List Execution :=
  (s.executions.filter fun e => e.flowId == id).mergeSort newerFirst

theorem mem_executionsOf_iff {s : Store} {id : FlowId} {row : Execution} :
    row ∈ s.executionsOf id ↔ row ∈ s.executions ∧ row.flowId = id := by
  simp [executionsOf, List.mem_mergeSort]

theorem pairwise_executionsOf {s : Store} (distinct : (s.executions.map (·.executionId)).Nodup)
    (id : FlowId) : (s.executionsOf id).Pairwise Execution.NewerThan :=
  pairwise_newerThan_mergeSort (distinct.sublist (List.filter_sublist.map _))

/-- They stand in the same order however the table holds them. -/
theorem executionsOf_eq_of_perm {s : Store} (distinct : (s.executions.map (·.executionId)).Nodup)
    {rows : List Execution} (perm : rows.Perm s.executions) (id : FlowId) :
    ({ s with executions := rows } : Store).executionsOf id = s.executionsOf id := by
  have distinctRows : (rows.map (·.executionId)).Nodup := (perm.map _).nodup_iff.mpr distinct
  have sameRows : (({ s with executions := rows } : Store).executionsOf id).Perm
      (s.executionsOf id) :=
    ((List.mergeSort_perm _ _).trans (perm.filter _)).trans (List.mergeSort_perm _ _).symm
  refine sameRows.eq_of_pairwise ?_ (pairwise_executionsOf distinctRows id)
    (pairwise_executionsOf distinct id)
  intro a b _ _ newer back
  exact absurd back newer.asymm

/-- A listing shows so many of the newest executions of a flow at most. -/
structure ShowsNewest (s : Store) (id : FlowId) (limit : Nat) (shown : List Execution) :
    Prop where
  own : ∀ row ∈ shown, row ∈ s.executions ∧ row.flowId = id
  once : (shown.map (·.executionId)).Nodup
  length : shown.length = min limit (s.executions.filter fun e => e.flowId == id).length
  descending : shown.Pairwise Execution.NewerThan
  older : ∀ row ∈ s.executions, row.flowId = id → row ∉ shown →
    ∀ other ∈ shown, other.NewerThan row
  anyOrder : ∀ rows, rows.Perm s.executions →
    ({ s with executions := rows } : Store).listExecutions id limit = shown
  fewer : ∀ less ≤ limit, s.listExecutions id less <+: shown

/-- A listing is the front of the executions of a flow in the order of their creation and their
ids, which are different in every store that operations lead to: the rest are older than all that
are shown, the order of the table does not count, and a shorter listing is the front of a longer
one. -/
theorem listExecutions_showsNewest {s : Store}
    (distinct : (s.executions.map (·.executionId)).Nodup) (id : FlowId) (limit : Nat) :
    s.ShowsNewest id limit (s.listExecutions id limit) := by
  have descending := pairwise_executionsOf distinct id
  have parted : (s.listExecutions id limit ++ (s.executionsOf id).drop limit) =
      s.executionsOf id := List.take_append_drop limit _
  constructor
  case own =>
    intro row rowMem
    exact mem_executionsOf_iff.mp (List.mem_of_mem_take rowMem)
  case once =>
    have distinctOf : ((s.executionsOf id).map (·.executionId)).Nodup :=
      ((List.mergeSort_perm _ _).map _).nodup_iff.mpr
        (distinct.sublist (List.filter_sublist.map _))
    exact distinctOf.sublist ((List.take_sublist _ _).map _)
  case length =>
    rw [listExecutions, List.length_take, List.length_mergeSort]
  case descending => exact descending.sublist (List.take_sublist _ _)
  case older =>
    intro row rowMem own hidden other otherMem
    have present : row ∈ s.executionsOf id := mem_executionsOf_iff.mpr ⟨rowMem, own⟩
    rw [← parted] at present descending
    rcases List.mem_append.mp present with shown | rest
    · exact absurd shown hidden
    · exact (List.pairwise_append.mp descending).2.2 other otherMem row rest
  case anyOrder =>
    intro rows perm
    exact congrArg (List.take limit) (executionsOf_eq_of_perm distinct perm id)
  case fewer =>
    intro less within
    exact List.take_prefix_take_left within

/-- A store with executions of two flows, of which two were created at one instant. -/
def busyStore : Store :=
  let row (id : String) (flowId created : Int) : Execution :=
    .create (.ofMilliseconds created) ⟨id⟩ ⟨flowId⟩
  { Store.empty with executions := [row "b" 1 5, row "late" 2 9, row "a" 1 5, row "new" 1 7] }

/-- The listing of two shows the newest, and of the two others the one with the greater id. -/
theorem listExecutions_showsNewest_of_busy :
    (busyStore.executions.map (·.executionId)).Nodup ∧
    (busyStore.listExecutions ⟨1⟩ 2).map (·.executionId.text) = ["new", "b"] ∧
    busyStore.ShowsNewest ⟨1⟩ 2 (busyStore.listExecutions ⟨1⟩ 2) := by
  have distinct : (busyStore.executions.map (·.executionId)).Nodup := by decide
  have shown : (busyStore.listExecutions ⟨1⟩ 2).map (·.executionId.text) = ["new", "b"] := by
    simp [busyStore, listExecutions, List.mergeSort, List.MergeSort.Internal.splitInTwo, newerFirst,
      Instant.isBefore, Instant.lt_def, Instant.ofMilliseconds, Execution.create]
  exact ⟨distinct, shown, listExecutions_showsNewest distinct ⟨1⟩ 2⟩

end Store

end EventFlow
