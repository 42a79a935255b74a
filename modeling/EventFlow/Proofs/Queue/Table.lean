import EventFlow.Queue.Table
import Mathlib.Data.List.Nodup
import Mathlib.Data.List.Range

/-!
# How the table of a queue changes

The jobs of a queue are numbered from one on in the order of their table.  The
operations keep to this: they add a row at the end under the next number, or
replace one row by another one with the same number.  Nothing else happens to a
table, so that no job is lost and none changes its place.
-/

namespace EventFlow.QueueTable

/-! ## Changing the first row of a kind -/

section ChangeFirst

variable {p : QueueJob → Bool} {change : QueueJob → QueueJob} {rows : List QueueJob}

theorem changeFirst?_eq_none_iff :
    changeFirst? p change rows = none ↔ ∀ row ∈ rows, p row = false := by
  induction rows with
  | nil => simp [changeFirst?]
  | cons row rest ih =>
      by_cases found : p row <;> simp [changeFirst?, found, ih]

theorem changeFirst?_eq_some {new : QueueJob} {changed : List QueueJob}
    (replaced : changeFirst? p change rows = some (new, changed)) :
    ∃ front old back, rows = front ++ old :: back ∧ changed = front ++ new :: back ∧
      new = change old ∧ p old = true ∧ ∀ row ∈ front, p row = false := by
  induction rows generalizing changed with
  | nil => simp [changeFirst?] at replaced
  | cons row rest ih =>
      by_cases found : p row
      · simp only [changeFirst?, found, if_true, Option.some.injEq, Prod.mk.injEq] at replaced
        obtain ⟨rfl, rfl⟩ := replaced
        exact ⟨[], row, rest, rfl, rfl, rfl, found, by simp⟩
      · simp only [changeFirst?, found] at replaced
        obtain ⟨⟨found, tail⟩, inTail, same⟩ := Option.map_eq_some_iff.mp replaced
        simp only [Prod.mk.injEq] at same
        obtain ⟨rfl, rfl⟩ := same
        obtain ⟨front, old, back, rfl, rfl, changedOld, holds, skipped⟩ := ih inTail
        refine ⟨row :: front, old, back, rfl, rfl, changedOld, holds, ?_⟩
        intro other otherMem
        rcases List.mem_cons.mp otherMem with rfl | otherMem
        · simpa using found
        · exact skipped other otherMem

end ChangeFirst

/-! ## Numbered tables -/

/-- The jobs are numbered from one on in the order of the table. -/
structure Numbered (t : QueueTable) : Prop where
  lastId : t.lastId = t.jobs.length
  ids : (t.jobs.map fun job => job.id.value) =
    (List.range t.jobs.length).map fun (place : Nat) => (place : Int) + 1

/-- One row is replaced by another one. -/
def Replaces (old new : QueueJob) (t u : QueueTable) : Prop :=
  ∃ front back, t.jobs = front ++ old :: back ∧ u = { t with jobs := front ++ new :: back }

variable {t u : QueueTable}

theorem numbered_empty : empty.Numbered where
  lastId := rfl
  ids := rfl

namespace Numbered

theorem nodup (numbered : t.Numbered) : (t.jobs.map fun job => job.id.value).Nodup := by
  rw [numbered.ids]
  apply List.nodup_range.map
  intro first second same
  have same : (first : Int) + 1 = second + 1 := same
  omega

/-- The numbers grow along the table. -/
theorem increasing (numbered : t.Numbered) :
    (t.jobs.map fun job => job.id.value).Pairwise (· < ·) := by
  rw [numbered.ids]
  apply List.pairwise_lt_range.map _
  intro first second earlier
  omega

/-- Jobs with one number are the same job. -/
theorem job_unique (numbered : t.Numbered) {first second : QueueJob} (firstMem : first ∈ t.jobs)
    (secondMem : second ∈ t.jobs) (sameId : first.id = second.id) : first = second :=
  List.inj_on_of_nodup_map numbered.nodup firstMem secondMem (congrArg RowId.value sameId)

theorem id_le (numbered : t.Numbered) {job : QueueJob} (jobMem : job ∈ t.jobs) :
    job.id.value ≤ t.lastId := by
  have idMem := List.mem_map_of_mem (f := fun job : QueueJob => job.id.value) jobMem
  rw [numbered.ids] at idMem
  obtain ⟨place, placeMem, sameId⟩ := List.mem_map.mp idMem
  have := List.mem_range.mp placeMem
  have := numbered.lastId
  have : (place : Int) + 1 = job.id.value := sameId
  omega

end Numbered

/-! ## Replacing a row -/

namespace Replaces

variable {old new : QueueJob}

/-- What a replacement does not change is the same along the whole table. -/
theorem map_eq (replaces : Replaces old new t u) {α : Type} {f : QueueJob → α}
    (same : f new = f old) : u.jobs.map f = t.jobs.map f := by
  obtain ⟨front, back, jobs, rfl⟩ := replaces
  simp [jobs, same]

theorem lastId (replaces : Replaces old new t u) : u.lastId = t.lastId := by
  obtain ⟨front, back, _, rfl⟩ := replaces
  rfl

theorem old_mem (replaces : Replaces old new t u) : old ∈ t.jobs := by
  obtain ⟨front, back, jobs, rfl⟩ := replaces
  simp [jobs]

theorem numbered (replaces : Replaces old new t u) (numbered : t.Numbered)
    (sameId : new.id = old.id) : u.Numbered := by
  have ids := replaces.map_eq (f := fun job => job.id.value) (congrArg RowId.value sameId)
  have length : u.jobs.length = t.jobs.length := by simpa using congrArg List.length ids
  exact ⟨by rw [replaces.lastId, length, numbered.lastId], by rw [ids, length, numbered.ids]⟩

/-- The new row stands in the table beside all rows with other numbers. -/
theorem mem_iff (replaces : Replaces old new t u) (numbered : t.Numbered)
    {row : QueueJob} : row ∈ u.jobs ↔ row = new ∨ row ∈ t.jobs ∧ row.id ≠ old.id := by
  have distinct := numbered.nodup
  obtain ⟨front, back, jobs, rfl⟩ := replaces
  rw [jobs, List.map_append, List.map_cons, List.nodup_middle, List.nodup_cons] at distinct
  have beside {other : QueueJob} (otherMem : other ∈ front ∨ other ∈ back) : other.id ≠ old.id := by
    intro sameId
    apply distinct.1
    rcases otherMem with inFront | inBack
    · exact List.mem_append_left _ (List.mem_map.mpr ⟨other, inFront, congrArg _ sameId⟩)
    · exact List.mem_append_right _ (List.mem_map.mpr ⟨other, inBack, congrArg _ sameId⟩)
  simp only [jobs, List.mem_append, List.mem_cons]
  constructor
  · rintro (inFront | rfl | inBack)
    · exact .inr ⟨.inl inFront, beside (.inl inFront)⟩
    · exact .inl rfl
    · exact .inr ⟨.inr (.inr inBack), beside (.inr inBack)⟩
  · rintro (rfl | ⟨inFront | rfl | inBack, different⟩)
    · exact .inr (.inl rfl)
    · exact .inl inFront
    · exact absurd rfl different
    · exact .inr (.inr inBack)

end Replaces

/-! ## The operations -/

/-- A job that is pushed gets the next number and comes last. -/
theorem Numbered.push (numbered : t.Numbered) (job : QueueJob) : (t.push job).2.Numbered where
  lastId := by simp [QueueTable.push, numbered.lastId]
  ids := by
    simp only [QueueTable.push, List.map_append, numbered.ids, List.map_cons, List.map_nil,
      List.length_append, List.length_singleton, List.range_succ, numbered.lastId]

theorem mem_push {job row : QueueJob} :
    row ∈ (t.push job).2.jobs ↔ row ∈ t.jobs ∨ row = { job with id := ⟨t.lastId + 1⟩ } := by
  simp [QueueTable.push]

/-- A job is changed under its number, and an operation on it is not refused. -/
theorem Numbered.change (numbered : t.Numbered) {job : QueueJob} (jobMem : job ∈ t.jobs)
    (f : QueueJob → QueueJob) :
    ∃ u, t.change job.id f = (.ok (), u) ∧ Replaces job (f job) t u := by
  cases changed : changeFirst? (fun row => row.id == job.id) f t.jobs with
  | none =>
      have absent := changeFirst?_eq_none_iff.mp changed job jobMem
      simp at absent
  | some found =>
      obtain ⟨new, jobs⟩ := found
      obtain ⟨front, old, back, before, rfl, rfl, sameId, _⟩ := changeFirst?_eq_some changed
      have oldMem : old ∈ t.jobs := by simp [before]
      obtain rfl := numbered.job_unique oldMem jobMem (by simpa using sameId)
      exact ⟨{ t with jobs := front ++ f old :: back }, by simp [QueueTable.change, changed],
        front, back, before, rfl⟩

theorem isDue_iff {job : QueueJob} {now : Instant} :
    job.isDue now = true ↔ job.status = .pending ∧ job.runAt ≤ now := by
  simp [QueueJob.isDue]

/-- What a claim at a time returns, and what the table is then: the oldest of the
jobs that are due, unless there is none. -/
def Claims (now : Instant) (t u : QueueTable) : Option QueueJob → Prop
  | none => u = t ∧ ∀ row ∈ t.jobs, ¬ (row.status = .pending ∧ row.runAt ≤ now)
  | some job =>
    ∃ old, Replaces old job t u ∧ job = old.claim now ∧ old.status = .pending ∧ old.runAt ≤ now ∧
      ∀ row ∈ t.jobs, row.status = .pending → row.runAt ≤ now → old.id.value ≤ row.id.value

theorem Numbered.claimNext (numbered : t.Numbered) (now : Instant) :
    Claims now t (t.claimNext now).2 (t.claimNext now).1 := by
  unfold QueueTable.claimNext
  cases changed : changeFirst? (fun j => j.isDue now) (fun j => j.claim now) t.jobs with
  | none =>
      refine ⟨rfl, fun row rowMem due => ?_⟩
      have notDue := changeFirst?_eq_none_iff.mp changed row rowMem
      simp [isDue_iff.mpr due] at notDue
  | some found =>
      obtain ⟨job, jobs⟩ := found
      obtain ⟨front, old, back, before, rfl, claimed, due, skipped⟩ := changeFirst?_eq_some changed
      obtain ⟨pending, runAt⟩ := isDue_iff.mp due
      refine ⟨old, ⟨front, back, before, rfl⟩, claimed, pending, runAt, ?_⟩
      intro row rowMem rowPending rowRunAt
      have sorted := numbered.increasing
      rw [before, List.map_append, List.map_cons, List.pairwise_append,
        List.pairwise_cons] at sorted
      rw [before, List.mem_append, List.mem_cons] at rowMem
      rcases rowMem with inFront | rfl | inBack
      · have notDue := skipped row inFront
        simp [isDue_iff.mpr ⟨rowPending, rowRunAt⟩] at notDue
      · exact Int.le_refl _
      · exact Int.le_of_lt (sorted.2.1.1 _ (List.mem_map_of_mem inBack))

/-- The job is the oldest of those that wait. -/
structure Foremost (t : QueueTable) (job : QueueJob) : Prop where
  mem : job ∈ t.jobs
  pending : job.status = .pending
  oldest : ∀ row ∈ t.jobs, row.status = .pending → job.id.value ≤ row.id.value

/-- The oldest job is claimed when it is due. -/
theorem Numbered.claimNext_of_foremost (numbered : t.Numbered) {job : QueueJob}
    (foremost : t.Foremost job) :
    (t.claimNext job.runAt).1 = some (job.claim job.runAt) ∧
      Replaces job (job.claim job.runAt) t (t.claimNext job.runAt).2 := by
  have claims := numbered.claimNext job.runAt
  have due : job.runAt ≤ job.runAt := Instant.le_refl _
  cases found : (t.claimNext job.runAt).1 with
  | none =>
      rw [found] at claims
      exact absurd ⟨foremost.pending, due⟩ (claims.2 job foremost.mem)
  | some claimed =>
      rw [found] at claims
      obtain ⟨old, replaces, rfl, pending, _, least⟩ := claims
      have sameNumber : old.id.value = job.id.value :=
        Int.le_antisymm (least job foremost.mem foremost.pending due)
          (foremost.oldest old replaces.old_mem pending)
      obtain rfl := List.inj_on_of_nodup_map numbered.nodup replaces.old_mem foremost.mem
        sameNumber
      exact ⟨rfl, replaces⟩

/-! ## Queues that come about -/

theorem Numbered.changed (numbered : t.Numbered) (id : QueueJobId) {f : QueueJob → QueueJob}
    (sameId : ∀ job, (f job).id = job.id) : (t.change id f).2.Numbered := by
  unfold QueueTable.change
  cases changed : changeFirst? (fun j => j.id == id) f t.jobs with
  | none => exact numbered
  | some found =>
      obtain ⟨new, jobs⟩ := found
      obtain ⟨front, old, back, before, rfl, rfl, _⟩ := changeFirst?_eq_some changed
      have replaces : Replaces old (f old) t { t with jobs := front ++ f old :: back } :=
        ⟨front, back, before, rfl⟩
      exact replaces.numbered numbered (sameId old)

theorem Numbered.answer (numbered : t.Numbered) (now : Instant) (call : QueueCall) :
    (t.answer now call).2.Numbered := by
  cases call with
  | push job => exact numbered.push job
  | claimNext reading =>
      have claims := numbered.claimNext reading
      simp only [QueueTable.answer]
      cases found : (t.claimNext reading).1 with
      | none =>
          rw [found] at claims
          rw [claims.1]
          exact numbered
      | some claimed =>
          rw [found] at claims
          obtain ⟨old, replaces, rfl, _⟩ := claims
          exact replaces.numbered numbered rfl
  | complete id | fail id attempts error | reschedule id attempts error runAt =>
      exact numbered.changed id fun _ => rfl
  | get id => exact numbered

/-- The queues that operations make out of an empty one. -/
inductive Reachable : QueueTable → Prop where
  | empty : Reachable empty
  | answer {t : QueueTable} (reachable : Reachable t) (now : Instant) (call : QueueCall) :
      Reachable (t.answer now call).2

theorem Reachable.numbered (reachable : t.Reachable) : t.Numbered := by
  induction reachable with
  | empty => exact numbered_empty
  | answer _ now call numbered => exact numbered.answer now call

end EventFlow.QueueTable
