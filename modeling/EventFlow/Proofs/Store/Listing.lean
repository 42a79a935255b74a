import EventFlow.Proofs.Store.Change
import Mathlib.Data.List.Sort

/-!
# Listings of executions

A listing shows the newest executions of a flow in descending order of the times of
their creation.  So one that is read until a time is passed has shown all that were
created since then, or as many as it shows at all.
-/

namespace EventFlow

/-! ## Lists in order -/

section Order

variable {α : Type}

/-- Merging keeps an order that the comparison decides one way or the other. -/
theorem pairwise_merge_of_decides {le : α → α → Bool} {r : α → α → Prop}
    (trans : ∀ a b c, r a b → r b c → r a c) (holds : ∀ a b, le a b = true → r a b)
    (fails : ∀ a b, le a b = false → r b a) {xs ys : List α} (first : xs.Pairwise r)
    (second : ys.Pairwise r) : (xs.merge ys le).Pairwise r := by
  induction xs generalizing ys with
  | nil => simpa using second
  | cons x xs ihFirst =>
      induction ys with
      | nil => simpa using first
      | cons y ys ihSecond =>
          rcases List.pairwise_cons.mp first with ⟨belowX, restFirst⟩
          rcases List.pairwise_cons.mp second with ⟨belowY, restSecond⟩
          rw [List.cons_merge_cons]
          by_cases before : le x y = true
          · rw [if_pos before]
            refine List.pairwise_cons.mpr ⟨fun z zMem => ?_, ihFirst restFirst second⟩
            rcases List.mem_merge.mp zMem with zMem | zMem
            · exact belowX z zMem
            rcases List.mem_cons.mp zMem with rfl | zMem
            · exact holds x z before
            · exact trans x y z (holds x y before) (belowY z zMem)
          · rw [if_neg before]
            have after : r y x := fails x y (by simpa using before)
            refine List.pairwise_cons.mpr ⟨fun z zMem => ?_, ihSecond restSecond⟩
            rcases List.mem_merge.mp zMem with zMem | zMem
            · rcases List.mem_cons.mp zMem with rfl | zMem
              · exact after
              · exact trans y x z after (belowX z zMem)
            · exact belowY z zMem

/-- A list that is sorted by a comparison is in every order that the comparison
decides, though the comparison itself may be none. -/
theorem pairwise_mergeSort_of_decides {le : α → α → Bool} {r : α → α → Prop}
    (trans : ∀ a b c, r a b → r b c → r a c) (holds : ∀ a b, le a b = true → r a b)
    (fails : ∀ a b, le a b = false → r b a) (xs : List α) : (xs.mergeSort le).Pairwise r := by
  induction xs, le using List.mergeSort.induct with
  | case1 le => simp
  | case2 le a => simp
  | case3 le a b xs halves _ _ ihFirst ihSecond =>
      rw [List.mergeSort]
      exact pairwise_merge_of_decides trans holds fails (ihFirst holds fails)
        (ihSecond holds fails)

/-- What stands in front of the first that lacks a property is all that has it, if
whatever stands before one that has it has it too. -/
theorem takeWhile_eq_filter {p : α → Bool} {xs : List α}
    (closed : xs.Pairwise fun a b => p b = true → p a = true) : xs.takeWhile p = xs.filter p := by
  induction xs with
  | nil => rfl
  | cons a rest ih =>
      rcases List.pairwise_cons.mp closed with ⟨ahead, restClosed⟩
      by_cases found : p a = true
      · simp [found, ih restClosed]
      · have none : rest.filter p = [] :=
          List.filter_eq_nil_iff.mpr fun b bMem holds => found (ahead b bMem holds)
        simp [found, none]

/-- And whatever has it stands where it stood. -/
theorem getElem?_takeWhile_eq_some_iff {p : α → Bool} {xs : List α}
    (closed : xs.Pairwise fun a b => p b = true → p a = true) {n : Nat} {a : α} :
    (xs.takeWhile p)[n]? = some a ↔ xs[n]? = some a ∧ p a = true := by
  induction xs generalizing n with
  | nil => simp
  | cons first rest ih =>
      rcases List.pairwise_cons.mp closed with ⟨ahead, restClosed⟩
      by_cases found : p first = true
      · rw [List.takeWhile_cons_of_pos found]
        cases n with
        | zero =>
            simp only [List.getElem?_cons_zero, Option.some.injEq]
            exact ⟨fun same => ⟨same, same ▸ found⟩, And.left⟩
        | succ n => exact ih restClosed
      · rw [List.takeWhile_cons_of_neg found]
        simp only [List.getElem?_nil, reduceCtorEq, false_iff]
        rintro ⟨stands, holds⟩
        rcases List.mem_cons.mp (List.mem_of_getElem? stands) with rfl | aMem
        · exact found holds
        · exact found (ahead a aMem holds)

end Order

/-! ## Instants in order -/

namespace Instant

variable {a b : Instant}

theorem isBefore_iff : a.isBefore b = true ↔ a.nanoseconds < b.nanoseconds ∨
    a.nanoseconds = b.nanoseconds ∧ a.inLeapSecond = true ∧ b.inLeapSecond = false := by
  simp [isBefore, lt_def, and_assoc]

theorem le_of_isBefore (before : a.isBefore b = true) : a ≤ b := by
  rcases isBefore_iff.mp before with less | ⟨same, _⟩
  · exact Int.le_of_lt less
  · exact Int.le_of_eq same

theorem le_of_not_isBefore (notBefore : a.isBefore b = false) : b ≤ a := by
  apply Int.not_lt.mp
  intro less
  simp [isBefore_iff.mpr (.inl less)] at notBefore

end Instant

namespace Store

/-! ## Times of creation -/

/-- When the executions of a flow were created. -/
def createdAts (s : Store) (id : FlowId) : List Instant :=
  (s.executions.filter fun e => e.flowId == id).map (·.createdAt)

/-- How many executions of a flow were created from one time to another. -/
def createdWithin (s : Store) (id : FlowId) (start stop : Instant) : Nat :=
  (s.createdAts id).countP fun created => start ≤ created && created ≤ stop

/-- How many executions of a flow were created from a time on. -/
def createdSince (s : Store) (id : FlowId) (start : Instant) : Nat :=
  (s.createdAts id).countP fun created => start ≤ created

/-- While nothing was created later than a time, that time ends a window. -/
theorem createdSince_eq_createdWithin {s : Store} {id : FlowId} {stop : Instant}
    (past : ∀ created ∈ s.createdAts id, created ≤ stop) (start : Instant) :
    s.createdSince id start = s.createdWithin id start stop := by
  refine List.countP_congr fun created createdMem => ?_
  simp [past created createdMem]

/-! ## What operations do to them -/

/-- The flows and the times of creation of all executions. -/
def origins (s : Store) : List (FlowId × Instant) :=
  s.executions.map fun e => (e.flowId, e.createdAt)

theorem createdAts_eq (s : Store) (id : FlowId) :
    s.createdAts id = (s.origins.filter fun origin => origin.1 == id).map (·.2) := by
  simp [createdAts, origins, List.filter_map, Function.comp_def]

theorem createdAts_of_origins_eq {s t : Store} (same : t.origins = s.origins) (id : FlowId) :
    t.createdAts id = s.createdAts id := by
  rw [createdAts_eq, same, createdAts_eq]

theorem createdAts_of_origins_cons {s t : Store} {flowId : FlowId} {created : Instant}
    (added : t.origins = (flowId, created) :: s.origins) :
    t.createdAts flowId = created :: s.createdAts flowId := by
  simp [createdAts_eq, added]

theorem createdAts_of_origins_cons_of_ne {s t : Store} {flowId id : FlowId} {created : Instant}
    (added : t.origins = (flowId, created) :: s.origins) (other : id ≠ flowId) :
    t.createdAts id = s.createdAts id := by
  simp [createdAts_eq, added, other.symm]

theorem origins_of_createExecution {s t : Store} {row : Execution}
    (created : s.createExecution row = .ok t) :
    t.origins = (row.flowId, row.createdAt) :: s.origins := by
  unfold createExecution at created
  split at created <;> cases created
  rfl

/-- A row that is replaced by one of the same origin leaves the origins as they are. -/
theorem origins_of_updateExecution {s t : Store} {row old : Execution}
    (present : s.getExecution row.executionId = some old) (flowId : row.flowId = old.flowId)
    (createdAt : row.createdAt = old.createdAt) (updated : s.updateExecution row = .ok t) :
    t.origins = s.origins := by
  unfold updateExecution at updated
  split at updated <;> cases updated
  rename_i executions replaced
  rcases replaceFirst?_eq_some replaced with ⟨front, found, back, rows, holds, skipped, rfl⟩
  have notInFront : front.find? (fun e => e.executionId == row.executionId) = none :=
    List.find?_eq_none.mpr fun e eMem => by simpa using skipped e eMem
  obtain rfl : found = old := by
    simpa [getExecution, rows, List.find?_append, notInFront, holds] using present
  simp [origins, rows, flowId, createdAt]

/-! ## Listing -/

/-- Rows that are sorted by their order in a listing descend. -/
theorem pairwise_mergeSort_newerFirst (rows : List Execution) :
    (rows.mergeSort newerFirst).Pairwise fun a b => b.createdAt ≤ a.createdAt := by
  have trans (a b c : Execution) (first : b.createdAt ≤ a.createdAt)
      (second : c.createdAt ≤ b.createdAt) : c.createdAt ≤ a.createdAt :=
    Instant.le_trans second first
  have holds (a b : Execution) (newer : newerFirst a b = true) : b.createdAt ≤ a.createdAt := by
    rcases (Bool.or_eq_true _ _).mp newer with later | same
    · exact Instant.le_of_isBefore later
    · have together : a.createdAt = b.createdAt := by
        simpa using ((Bool.and_eq_true _ _).mp same).1
      rw [together]
      exact Instant.le_refl _
  have fails (a b : Execution) (older : newerFirst a b = false) : a.createdAt ≤ b.createdAt :=
    Instant.le_of_not_isBefore ((Bool.or_eq_false_iff).mp older).1
  exact pairwise_mergeSort_of_decides trans holds fails rows

/-- When the executions of a flow were created, the newest first. -/
def newest (s : Store) (id : FlowId) : List Instant :=
  ((s.executions.filter fun e => e.flowId == id).mergeSort newerFirst).map (·.createdAt)

/-- They are the times of creation, -/
theorem newest_perm (s : Store) (id : FlowId) : (s.newest id).Perm (s.createdAts id) :=
  (List.mergeSort_perm _ _).map _

/-- in descending order. -/
theorem pairwise_newest (s : Store) (id : FlowId) :
    (s.newest id).Pairwise fun a b => b ≤ a :=
  List.pairwise_map.mpr (pairwise_mergeSort_newerFirst _)

theorem mem_newest_iff {s : Store} {id : FlowId} {created : Instant} :
    created ∈ s.newest id ↔ created ∈ s.createdAts id :=
  (s.newest_perm id).mem_iff

/-- A listing shows the first of them. -/
theorem map_createdAt_listExecutions (s : Store) (id : FlowId) (limit : Nat) :
    (s.listExecutions id limit).map (·.createdAt) = (s.newest id).take limit :=
  List.map_take

/-- Whoever was created before one that was created since a time was created since then. -/
theorem pairwise_newest_since (s : Store) (id : FlowId) (start : Instant) :
    (s.newest id).Pairwise fun a b =>
      decide (start ≤ b) = true → decide (start ≤ a) = true := by
  apply (s.pairwise_newest id).imp
  intro a b newer reached
  exact decide_eq_true (Instant.le_trans (of_decide_eq_true reached) newer)

theorem length_takeWhile_newest (s : Store) (id : FlowId) (start : Instant) :
    ((s.newest id).takeWhile fun created => start ≤ created).length = s.createdSince id start := by
  rw [takeWhile_eq_filter (s.pairwise_newest_since id start), ← List.countP_eq_length_filter,
    (s.newest_perm id).countP_eq, createdSince]

/-- A listing that is read until a time is passed shows all executions that were created
since then, or as many as it shows at all. -/
theorem length_takeWhile_listExecutions (s : Store) (id : FlowId) (limit : Nat)
    (start : Instant) :
    (((s.listExecutions id limit).map (·.createdAt)).takeWhile fun created =>
      start ≤ created).length = min limit (s.createdSince id start) := by
  rw [map_createdAt_listExecutions, ← List.take_takeWhile, List.length_take,
    length_takeWhile_newest]

/-- What such a reading shows at a place is what stands there among the newest, if the
listing reaches as far and it was created since then. -/
theorem getElem?_takeWhile_listExecutions_eq_some_iff {s : Store} {id : FlowId} {limit n : Nat}
    {start created : Instant} :
    (((s.listExecutions id limit).map (·.createdAt)).takeWhile fun other =>
      start ≤ other)[n]? = some created ↔
      n < limit ∧ (s.newest id)[n]? = some created ∧ start ≤ created := by
  rw [map_createdAt_listExecutions, ← List.take_takeWhile, List.getElem?_take]
  split
  · rename_i within
    simp [getElem?_takeWhile_eq_some_iff (s.pairwise_newest_since id start), within]
  · rename_i beyond
    simp [beyond]

/-- More executions were created since a time than stand in front of a place among the newest
exactly if the one at that place was. -/
theorem lt_createdSince_iff {s : Store} {id : FlowId} {start : Instant} {n : Nat} :
    n < s.createdSince id start ↔
      ∃ created, (s.newest id)[n]? = some created ∧ start ≤ created := by
  have stands {created : Instant} : (s.newest id)[n]? = some created ∧ start ≤ created ↔
      ((s.newest id).takeWhile fun other => start ≤ other)[n]? = some created := by
    simp [getElem?_takeWhile_eq_some_iff (s.pairwise_newest_since id start)]
  simp only [stands, ← length_takeWhile_newest]
  simp [List.getElem?_eq_some_iff]

/-- A listing shows times at which executions of the flow were created. -/
theorem mem_createdAts_of_mem_listExecutions {s : Store} {id : FlowId} {limit : Nat}
    {created : Instant} (shown : created ∈ (s.listExecutions id limit).map (·.createdAt)) :
    created ∈ s.createdAts id := by
  rcases List.mem_map.mp shown with ⟨row, rowMem, rfl⟩
  exact List.mem_map_of_mem (List.mem_mergeSort.mp (List.mem_of_mem_take rowMem))

end Store

end EventFlow
