import EventFlow.Proofs.Store.Tables
import Mathlib.Data.List.Nodup

/-!
# Well-formed stores

The ids of executions are different, and the numbers of jobs grow along their
table and do not exceed the number that was given last.  An empty store is well
formed and every operation keeps it so, whatever its arguments are.
-/

namespace EventFlow.Store

/-! ## Replacing rows -/

section Replace

variable {α : Type} {p : α → Bool} {row : α} {rows changed : List α}

theorem replaceFirst?_eq_none_iff :
    replaceFirst? p row rows = none ↔ ∀ a ∈ rows, p a = false := by
  induction rows with
  | nil => simp [replaceFirst?]
  | cons a rest ih =>
      by_cases found : p a <;> simp [replaceFirst?, found, ih]

/-- A replacement takes the place of the first row with the property. -/
theorem replaceFirst?_eq_some (replaced : replaceFirst? p row rows = some changed) :
    ∃ front old back, rows = front ++ old :: back ∧ p old = true ∧
      (∀ a ∈ front, p a = false) ∧ changed = front ++ row :: back := by
  induction rows generalizing changed with
  | nil => simp [replaceFirst?] at replaced
  | cons a rest ih =>
      by_cases found : p a
      · simp only [replaceFirst?, found, if_true, Option.some.injEq] at replaced
        exact ⟨[], a, rest, rfl, found, by simp, replaced.symm⟩
      · simp only [replaceFirst?, found] at replaced
        obtain ⟨tail, replacedTail, rfl⟩ := Option.map_eq_some_iff.mp replaced
        obtain ⟨front, old, back, rfl, holds, skipped, rfl⟩ := ih replacedTail
        refine ⟨a :: front, old, back, rfl, holds, ?_, rfl⟩
        intro b bMem
        rcases List.mem_cons.mp bMem with rfl | bMem
        · simpa using found
        · exact skipped b bMem

/-- The only row with the property, when it is the last one, is replaced there. -/
theorem replaceFirst?_of_last {old : α} (skipped : ∀ a ∈ rows, p a = false) (found : p old = true) :
    replaceFirst? p row (rows ++ [old]) = some (rows ++ [row]) := by
  induction rows with
  | nil => simp [replaceFirst?, found]
  | cons a rest ih =>
      have passed : p a = false := skipped a List.mem_cons_self
      have restSkipped : ∀ b ∈ rest, p b = false := fun b bMem =>
        skipped b (List.mem_cons_of_mem a bMem)
      simp [replaceFirst?, passed, ih restSkipped]

/-- Rows that are replaced by a row with the same key have the same keys. -/
theorem map_of_replaceFirst? {κ : Type} {f : α → κ}
    (replaced : replaceFirst? p row rows = some changed)
    (sameKey : ∀ a, p a = true → f a = f row) : changed.map f = rows.map f := by
  obtain ⟨front, old, back, rfl, holds, _, rfl⟩ := replaceFirst?_eq_some replaced
  simp [sameKey old holds]

/-- A selection that leaves out both the old and the new row is not changed. -/
theorem filter_of_replaceFirst? {q : α → Bool}
    (replaced : replaceFirst? p row rows = some changed)
    (oldOut : ∀ a ∈ rows, p a = true → q a = false) (newOut : q row = false) :
    changed.filter q = rows.filter q := by
  obtain ⟨front, old, back, rfl, holds, _, rfl⟩ := replaceFirst?_eq_some replaced
  simp [oldOut old (by simp) holds, newOut]

end Replace

/-! ## Well-formed tables -/

/-- No two executions share an id, and jobs are numbered in their order. -/
structure WellFormed (s : Store) : Prop where
  executionIds : (s.executions.map (·.executionId)).Nodup
  jobNumbers : (s.jobs.map (·.id.value)).Pairwise (· < ·)
  jobNumbers_le : ∀ job ∈ s.jobs, job.id.value ≤ s.lastId

theorem wellFormed_empty : WellFormed empty where
  executionIds := by simp [empty]
  jobNumbers := by simp [empty]
  jobNumbers_le := by simp [empty]

namespace WellFormed

variable {s t : Store}

/-- Only the executions, the jobs and the last number count. -/
theorem of_same_rows (wellFormed : s.WellFormed) (executions : t.executions = s.executions)
    (jobs : t.jobs = s.jobs) (lastId : s.lastId ≤ t.lastId) : t.WellFormed where
  executionIds := by rw [executions]; exact wellFormed.executionIds
  jobNumbers := by rw [jobs]; exact wellFormed.jobNumbers
  jobNumbers_le job jobMem := by
    rw [jobs] at jobMem
    exact Int.le_trans (wellFormed.jobNumbers_le job jobMem) lastId

/-- Jobs with one number are the same job. -/
theorem job_unique (wellFormed : s.WellFormed) {first second : Job}
    (firstMem : first ∈ s.jobs) (secondMem : second ∈ s.jobs) (sameId : first.id = second.id) :
    first = second := by
  have distinct : (s.jobs.map (·.id.value)).Nodup := wellFormed.jobNumbers.imp Int.ne_of_lt
  exact List.inj_on_of_nodup_map distinct firstMem secondMem (congrArg RowId.value sameId)

/-- There is one execution with an id at the most. -/
theorem length_filter_executionId_le (wellFormed : s.WellFormed) (id : ExecutionId) :
    (s.executions.filter fun e => e.executionId == id).length ≤ 1 := by
  have once := List.nodup_iff_count_le_one.mp wellFormed.executionIds id
  rw [List.count_eq_countP, List.countP_map, List.countP_eq_length_filter] at once
  exact once

theorem createExecution (wellFormed : s.WellFormed) {execution : Execution}
    (created : s.createExecution execution = .ok t) : t.WellFormed := by
  unfold Store.createExecution at created
  split at created
  · contradiction
  · rename_i absent
    cases created
    refine ⟨?_, wellFormed.jobNumbers, wellFormed.jobNumbers_le⟩
    refine List.nodup_cons.mpr ⟨?_, wellFormed.executionIds⟩
    intro taken
    obtain ⟨other, otherMem, sameId⟩ := List.mem_map.mp taken
    apply absent
    rw [getExecution, List.find?_isSome]
    exact ⟨other, otherMem, by simp [sameId]⟩

theorem updateExecution (wellFormed : s.WellFormed) {execution : Execution}
    (updated : s.updateExecution execution = .ok t) : t.WellFormed := by
  unfold Store.updateExecution at updated
  split at updated
  · rename_i executions replaced
    cases updated
    refine ⟨?_, wellFormed.jobNumbers, wellFormed.jobNumbers_le⟩
    have sameIds := map_of_replaceFirst? (f := (·.executionId)) replaced (by simp)
    simpa [sameIds] using wellFormed.executionIds
  · contradiction

theorem createJob (wellFormed : s.WellFormed) (job : Job) : (s.createJob job).2.WellFormed where
  executionIds := wellFormed.executionIds
  jobNumbers := by
    simp only [Store.createJob, List.map_append, List.map_cons, List.map_nil]
    refine List.pairwise_append.mpr ⟨wellFormed.jobNumbers, by simp, ?_⟩
    intro n nMem m mMem
    obtain ⟨earlier, earlierMem, rfl⟩ := List.mem_map.mp nMem
    have := wellFormed.jobNumbers_le earlier earlierMem
    simp only [List.mem_singleton] at mMem
    omega
  jobNumbers_le other otherMem := by
    simp only [Store.createJob, List.mem_append, List.mem_singleton] at otherMem ⊢
    rcases otherMem with otherMem | rfl
    · have := wellFormed.jobNumbers_le other otherMem
      omega
    · exact Int.le_refl _

theorem updateJob (wellFormed : s.WellFormed) {job : Job}
    (updated : s.updateJob job = .ok t) : t.WellFormed := by
  unfold Store.updateJob at updated
  split at updated
  · rename_i jobs replaced
    cases updated
    have sameNumbers := map_of_replaceFirst? (f := (·.id.value)) replaced (by simp_all)
    refine ⟨wellFormed.executionIds, by simpa [sameNumbers] using wellFormed.jobNumbers, ?_⟩
    intro other otherMem
    have numberMem : other.id.value ∈ s.jobs.map (·.id.value) :=
      sameNumbers ▸ List.mem_map_of_mem otherMem
    obtain ⟨before, beforeMem, sameNumber⟩ := List.mem_map.mp numberMem
    exact sameNumber ▸ wellFormed.jobNumbers_le before beforeMem
  · contradiction

/-- A change that is answered with nothing keeps a property that it keeps when it
succeeds. -/
theorem changed {result : Except StoreError Store} (wellFormed : s.WellFormed)
    (succeeds : ∀ t, result = .ok t → t.WellFormed) : (s.changed result).2.WellFormed := by
  cases result with
  | error e => exact wellFormed
  | ok t => exact succeeds t rfl

/-- Every operation keeps a store well formed. -/
theorem answer (wellFormed : s.WellFormed) (now : Instant) (call : StoreCall) :
    (s.answer now call).2.WellFormed := by
  have agrees := s.agreesBut_answer now call
  cases call with
  | createExecution execution => exact wellFormed.changed fun _ => wellFormed.createExecution
  | updateExecution execution => exact wellFormed.changed fun _ => wellFormed.updateExecution
  | createJob job => exact wellFormed.createJob job
  | updateJob job => exact wellFormed.changed fun _ => wellFormed.updateJob
  | _ =>
      exact wellFormed.of_same_rows (agrees.executions (by simp [StoreCall.table?]))
        (agrees.jobs (by simp [StoreCall.table?])) agrees.lastId_le

end WellFormed

/-- Rules are added and never taken away. -/
theorem rateLimits_subset_answer (s : Store) (now : Instant) (call : StoreCall) :
    s.rateLimits ⊆ (s.answer now call).2.rateLimits := by
  by_cases adds : call.table? = some .rateLimits
  · cases call with
    | createRateLimit rule => exact List.subset_append_left _ _
    | _ => cases adds
  · rw [(s.agreesBut_answer now call).rateLimits adds]
    exact List.Subset.refl _

/-- The stores that operations lead to from the empty one. -/
inductive Reachable : Store → Prop where
  | empty : Reachable empty
  | answer {s : Store} (reachable : Reachable s) (now : Instant) (call : StoreCall) :
      Reachable (s.answer now call).2

theorem Reachable.wellFormed {s : Store} (reachable : s.Reachable) : s.WellFormed := by
  induction reachable with
  | empty => exact wellFormed_empty
  | answer _ now call wellFormed => exact wellFormed.answer now call

end EventFlow.Store
