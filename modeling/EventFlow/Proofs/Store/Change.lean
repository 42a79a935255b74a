import EventFlow.Proofs.Store.WellFormed

/-!
# What a change of a store leaves alone

The rows of an execution are its own row and those of its jobs.  Two relations
between the states of a store before and after some operations divide the work:
one says that the rows of an execution are the same, the other that nothing
else than rows of an execution has changed.  The operations by which executions
and jobs are recorded are of the second kind.
-/

namespace EventFlow

/-- Does the operation concern neither executions nor jobs, or only read them? -/
def StoreCall.besideRuns : StoreCall → Bool
  | .createExecution _ => false
  | .updateExecution _ => false
  | .createJob _ => false
  | .updateJob _ => false
  | _ => true

namespace Store

/-! ## Looking up executions -/

theorem executionId_of_getExecution {s : Store} {id : ExecutionId} {row : Execution}
    (found : s.getExecution id = some row) : row.executionId = id := by
  have := List.find?_some found
  simpa using this

/-- An execution is found among those that do not belong to another one. -/
theorem getExecution_eq_find?_filter (s : Store) {id other : ExecutionId} (different : other ≠ id) :
    s.getExecution other =
      (s.executions.filter fun e => e.executionId != id).find? fun e => e.executionId == other := by
  rw [List.find?_filter, getExecution]
  congr 1
  funext e
  by_cases same : e.executionId = other
  · simp [same, different]
  · simp [same]

theorem mem_listJobs_iff {s : Store} {id : ExecutionId} {job : Job} :
    job ∈ s.listJobs id ↔ job ∈ s.jobs ∧ job.executionId = id := by
  simp [listJobs]

/-! ## The rows of an execution are the same -/

/-- The rows of an execution are the same in both states, and the second one is
not older. -/
structure SameFor (id : ExecutionId) (s t : Store) : Prop where
  lastId_le : s.lastId ≤ t.lastId
  execution : t.getExecution id = s.getExecution id
  jobs : t.listJobs id = s.listJobs id

namespace SameFor

variable {id : ExecutionId} {s t u : Store}

theorem refl (id : ExecutionId) (s : Store) : SameFor id s s :=
  ⟨Int.le_refl _, rfl, rfl⟩

theorem trans (first : SameFor id s t) (second : SameFor id t u) : SameFor id s u :=
  ⟨Int.le_trans first.lastId_le second.lastId_le, second.execution.trans first.execution,
    second.jobs.trans first.jobs⟩

end SameFor

/-- Editing flows leaves the rows of every execution alone. -/
theorem sameFor_answer {s : Store} (now : Instant) (call : StoreCall)
    (beside : call.besideRuns = true) (id : ExecutionId) : SameFor id s (s.answer now call).2 := by
  have agrees := s.agreesBut_answer now call
  have others : call.table? ≠ some .executions ∧ call.table? ≠ some .jobs := by
    cases call <;> simp_all [StoreCall.besideRuns, StoreCall.table?]
  constructor
  · exact agrees.lastId_le
  · rw [getExecution, agrees.executions others.1, getExecution]
  · rw [listJobs, agrees.jobs others.2, listJobs]

/-! ## Only rows of an execution have changed -/

/-- Nothing has changed but rows of an execution, and no job with a number up to
`base`. -/
structure ChangesOnly (id : ExecutionId) (base : Int) (s t : Store) : Prop where
  lastId_le : s.lastId ≤ t.lastId
  flows : t.flows = s.flows
  nodes : t.nodes = s.nodes
  edges : t.edges = s.edges
  rateLimits : t.rateLimits = s.rateLimits
  executions : (t.executions.filter fun e => e.executionId != id) =
    s.executions.filter fun e => e.executionId != id
  otherJobs : (t.jobs.filter fun j => j.executionId != id) =
    s.jobs.filter fun j => j.executionId != id
  earlierJobs : (t.jobs.filter fun j => decide (j.id.value ≤ base)) =
    s.jobs.filter fun j => decide (j.id.value ≤ base)

namespace ChangesOnly

variable {id : ExecutionId} {base : Int} {s t u : Store}

theorem refl (id : ExecutionId) (base : Int) (s : Store) : ChangesOnly id base s s :=
  ⟨Int.le_refl _, rfl, rfl, rfl, rfl, rfl, rfl, rfl⟩

theorem trans (first : ChangesOnly id base s t) (second : ChangesOnly id base t u) :
    ChangesOnly id base s u where
  lastId_le := Int.le_trans first.lastId_le second.lastId_le
  flows := second.flows.trans first.flows
  nodes := second.nodes.trans first.nodes
  edges := second.edges.trans first.edges
  rateLimits := second.rateLimits.trans first.rateLimits
  executions := second.executions.trans first.executions
  otherJobs := second.otherJobs.trans first.otherJobs
  earlierJobs := second.earlierJobs.trans first.earlierJobs

theorem getExecution (changes : ChangesOnly id base s t) {other : ExecutionId}
    (different : other ≠ id) : t.getExecution other = s.getExecution other := by
  rw [getExecution_eq_find?_filter t different, getExecution_eq_find?_filter s different,
    changes.executions]

theorem listJobs (changes : ChangesOnly id base s t) {other : ExecutionId}
    (different : other ≠ id) : t.listJobs other = s.listJobs other := by
  have among (r : Store) : r.listJobs other =
      (r.jobs.filter fun j => j.executionId != id).filter fun j => j.executionId == other := by
    rw [List.filter_filter, Store.listJobs]
    congr 1
    funext j
    by_cases same : j.executionId = other
    · simp [same, different]
    · simp [same]
  rw [among t, among s, changes.otherJobs]

/-- What changes only one execution leaves the rows of all others alone. -/
theorem sameFor (changes : ChangesOnly id base s t) {other : ExecutionId}
    (different : other ≠ id) : SameFor other s t :=
  ⟨changes.lastId_le, changes.getExecution different, changes.listJobs different⟩

/-- A table whose numbers grow is split at any number. -/
theorem filter_append_of_increasing {α : Type} {number : α → Int} {rows : List α}
    (increasing : (rows.map number).Pairwise (· < ·)) (base : Int) :
    rows = (rows.filter fun a => decide (number a ≤ base)) ++
      rows.filter fun a => decide (base < number a) := by
  induction rows with
  | nil => rfl
  | cons a rest ih =>
      obtain ⟨below, restIncreasing⟩ := List.pairwise_cons.mp increasing
      by_cases early : number a ≤ base
      · have := ih restIncreasing
        simp [early, ← this]
      · have noneEarly : (rest.filter fun b => decide (number b ≤ base)) = [] := by
          apply List.filter_eq_nil_iff.mpr
          intro b bMem
          have := below (number b) (List.mem_map_of_mem bMem)
          simp only [decide_eq_true_eq]
          omega
        have allLate : (rest.filter fun b => decide (base < number b)) = rest := by
          apply List.filter_eq_self.mpr
          intro b bMem
          have := below (number b) (List.mem_map_of_mem bMem)
          simp only [decide_eq_true_eq]
          omega
        have late : base < number a := by omega
        simp [early, late, noneEarly, allLate]

/-- All jobs that a store held stay as they are and where they are, and the new
ones belong to the execution. -/
theorem jobs_eq_append (changes : ChangesOnly id s.lastId s t) (before : s.WellFormed)
    (after : t.WellFormed) :
    ∃ recorded, t.jobs = s.jobs ++ recorded ∧ ∀ job ∈ recorded, job.executionId = id := by
  have allEarlier : (s.jobs.filter fun j => decide (j.id.value ≤ s.lastId)) = s.jobs := by
    apply List.filter_eq_self.mpr
    intro job jobMem
    simpa using before.jobNumbers_le job jobMem
  have split := filter_append_of_increasing after.jobNumbers s.lastId
  rw [changes.earlierJobs, allEarlier] at split
  refine ⟨_, split, fun job jobMem => ?_⟩
  obtain ⟨jobMem, late⟩ := List.mem_filter.mp jobMem
  by_contra foreign
  have foreignMem : job ∈ t.jobs.filter fun j => j.executionId != id :=
    List.mem_filter.mpr ⟨jobMem, by simpa using foreign⟩
  rw [changes.otherJobs] at foreignMem
  have early := before.jobNumbers_le job (List.mem_filter.mp foreignMem).1
  simp only [decide_eq_true_eq] at late
  omega

end ChangesOnly

/-! ## Recording executions -/

/-- An execution whose id is free is added. -/
theorem createExecution_of_absent {s : Store} (execution : Execution) (base : Int)
    (absent : s.getExecution execution.executionId = none) :
    ∃ t, s.createExecution execution = .ok t ∧
      t.getExecution execution.executionId = some execution ∧
      ChangesOnly execution.executionId base s t := by
  refine ⟨{ s with executions := execution :: s.executions }, ?_, ?_, ?_⟩
  · simp [createExecution, absent]
  · simp [getExecution]
  · exact ⟨Int.le_refl _, rfl, rfl, rfl, rfl, by simp, rfl, rfl⟩

/-- The row of an execution that is stored is replaced. -/
theorem updateExecution_of_present {s : Store} {old : Execution} (execution : Execution)
    (base : Int) (present : s.getExecution execution.executionId = some old) :
    ∃ t, s.updateExecution execution = .ok t ∧
      t.getExecution execution.executionId = some execution ∧
      ChangesOnly execution.executionId base s t := by
  cases replaced : replaceFirst? (fun e => e.executionId == execution.executionId) execution
      s.executions with
  | none =>
      have absent := replaceFirst?_eq_none_iff.mp replaced old (List.mem_of_find?_eq_some present)
      simp [executionId_of_getExecution present] at absent
  | some executions =>
      refine ⟨{ s with executions }, by simp [updateExecution, replaced], ?_, ?_⟩
      · obtain ⟨front, found, back, _, _, skipped, rfl⟩ := replaceFirst?_eq_some replaced
        have notInFront : front.find? (fun e => e.executionId == execution.executionId) = none :=
          List.find?_eq_none.mpr fun e eMem => by simpa using skipped e eMem
        simp [getExecution, List.find?_append, notInFront]
      · have kept := filter_of_replaceFirst? (q := fun e => e.executionId != execution.executionId)
          replaced (by simp) (by simp)
        exact ⟨Int.le_refl _, rfl, rfl, rfl, rfl, kept, rfl, rfl⟩

theorem createExecution_eq {s t : Store} {execution : Execution}
    (created : s.createExecution execution = .ok t) :
    t = { s with executions := t.executions } := by
  unfold createExecution at created
  split at created <;> cases created
  rfl

theorem updateExecution_eq {s t : Store} {execution : Execution}
    (updated : s.updateExecution execution = .ok t) :
    t = { s with executions := t.executions } := by
  unfold updateExecution at updated
  split at updated <;> cases updated
  rfl

/-! ## Recording jobs -/

/-- The store with further jobs, which have taken the next numbers. -/
def withJobs (s : Store) (jobs : List Job) : Store :=
  { s with lastId := s.lastId + jobs.length, jobs := s.jobs ++ jobs }

@[simp]
theorem withJobs_nil (s : Store) : s.withJobs [] = s := by
  simp [withJobs]

@[simp]
theorem withJobs_withJobs (s : Store) (first second : List Job) :
    (s.withJobs first).withJobs second = s.withJobs (first ++ second) := by
  simp [withJobs, Int.add_assoc]

/-- The job that was added last is replaced where it stands. -/
theorem updateJob_of_last {s : Store} (wellFormed : s.WellFormed) {row job : Job}
    (late : s.lastId < row.id.value) (sameId : job.id = row.id) :
    (s.withJobs [row]).updateJob job = .ok (s.withJobs [job]) := by
  have earlier : ∀ other ∈ s.jobs, (other.id == job.id) = false := by
    intro other otherMem
    have other_le := wellFormed.jobNumbers_le other otherMem
    simp only [sameId, beq_eq_false_iff_ne]
    rintro same
    rw [same] at other_le
    omega
  have replaced : replaceFirst? (fun j => j.id == job.id) job (s.jobs ++ [row]) =
      some (s.jobs ++ [job]) := replaceFirst?_of_last earlier (by simp [sameId])
  simp [updateJob, withJobs, replaced]

/-- A new job gets a number that no job has had. -/
theorem createJob_changesOnly {s : Store} {base : Int} (job : Job) (base_le : base ≤ s.lastId) :
    ChangesOnly job.executionId base s (s.createJob job).2 := by
  have late : ¬ s.lastId + 1 ≤ base := by omega
  exact ⟨Int.le_add_one (Int.le_refl _), rfl, rfl, rfl, rfl, rfl, by simp [createJob],
    by simp [createJob, late]⟩

/-- The row of a job is replaced by a row of the same execution. -/
theorem updateJob_changesOnly {s : Store} (wellFormed : s.WellFormed) {base : Int} {job row : Job}
    (rowMem : row ∈ s.listJobs job.executionId) (sameId : row.id = job.id)
    (late : base < job.id.value) :
    ChangesOnly job.executionId base s (s.changed (s.updateJob job)).2 := by
  obtain ⟨rowMem, owned⟩ := mem_listJobs_iff.mp rowMem
  unfold updateJob
  split
  · rename_i jobs replaced
    have foreign := filter_of_replaceFirst? (q := fun j => j.executionId != job.executionId)
      replaced (fun other otherMem otherId => by
        have otherId : other.id = job.id := by simpa using otherId
        have same := wellFormed.job_unique otherMem rowMem (otherId.trans sameId.symm)
        simp [same, owned]) (by simp)
    have earlier := filter_of_replaceFirst? (q := fun j => decide (j.id.value ≤ base)) replaced
      (fun other _ otherId => by
        have otherId : other.id = job.id := by simpa using otherId
        simp only [otherId, decide_eq_false_iff_not]
        omega)
      (by simp only [decide_eq_false_iff_not]; omega)
    exact ⟨Int.le_refl _, rfl, rfl, rfl, rfl, rfl, foreign, earlier⟩
  · exact .refl _ _ _

end Store

end EventFlow
