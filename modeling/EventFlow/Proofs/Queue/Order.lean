import EventFlow.Proofs.Queue.System

/-!
# The order of a queue

The jobs that run are those that workers hold, each by one of them: a job is
marked as it is claimed, the worker that has claimed it reports on no other, and
nobody else changes a job that runs.
-/

namespace EventFlow.QueueSystem

open QueueTable

variable {manager : QueueManager} {bystanders : Bystanders} {s t : QueueSystem}

/-! ## Workers and the jobs they hold -/

/-- The table is in order, and the jobs that run are held, as they are, by one
worker each. -/
structure Orderly (s : QueueSystem) : Prop where
  numbered : s.tables.queue.Numbered
  held : ∀ w job, s.held? w = some job → job ∈ s.jobs ∧ job.status = .running
  holder : ∀ job ∈ s.jobs, job.status = .running → ∃ w, s.held? w = some job
  alone : ∀ v w job, s.held? v = some job → s.held? w = some job → v = w
  unlocked : ∀ job ∈ s.jobs, job.status = .pending → job.lockedAt = none
  locked : ∀ job ∈ s.jobs, job.status = .running → job.lockedAt.isSome = true
  beside : ∀ w job rest, s.workers w = .running job rest → BesideQueue rest

theorem held?_of_update {w : Nat} {next : WorkerPhase}
    (workers : t.workers = Function.update s.workers w next) (v : Nat) :
    t.held? v = if v = w then next.held? else s.held? v := by
  by_cases same : v = w
  · subst same
    simp [held?, workers]
  · simp [held?, workers, same]

theorem held?_of_same {w : Nat} {next : WorkerPhase}
    (workers : t.workers = Function.update s.workers w next)
    (same : next.held? = (s.workers w).held?) (v : Nat) : t.held? v = s.held? v := by
  rw [held?_of_update workers]
  split
  · subst v
    exact same
  · rfl

section Having

variable {α : Type} {had has : Nat → Option α} {w : Nat}

/-- When someone takes what nobody has, no two have the same afterwards. -/
theorem alone_of_take {new : α} (alone : ∀ u v a, had u = some a → had v = some a → u = v)
    (free : ∀ v, had v ≠ some new) (taken : ∀ v, has v = if v = w then some new else had v) :
    ∀ u v a, has u = some a → has v = some a → u = v := by
  intro u v a first second
  rw [taken] at first second
  by_cases isFirst : u = w
  · by_cases isSecond : v = w
    · exact isFirst.trans isSecond.symm
    · rw [if_pos isFirst] at first
      rw [if_neg isSecond] at second
      exact absurd (second.trans first.symm) (free v)
  · rw [if_neg isFirst] at first
    by_cases isSecond : v = w
    · rw [if_pos isSecond] at second
      exact absurd (first.trans second.symm) (free u)
    · rw [if_neg isSecond] at second
      exact alone u v a first second

/-- Who has something after another one has given theirs back had it before. -/
theorem had_of_giveBack (given : ∀ v, has v = if v = w then none else had v) {v : Nat} {a : α}
    (later : has v = some a) : v ≠ w ∧ had v = some a := by
  rw [given] at later
  split at later
  · contradiction
  · rename_i other
    exact ⟨other, later⟩

end Having

namespace Orderly

/-- The rows of the table after one of them has been replaced. -/
theorem mem_jobs_iff (orderly : s.Orderly) {job new row : QueueJob}
    (replaces : Replaces job new s.tables.queue t.tables.queue) :
    row ∈ t.jobs ↔ row = new ∨ row ∈ s.jobs ∧ row.id ≠ job.id :=
  replaces.mem_iff orderly.numbered

/-- What a step of a worker does to the queue. -/
theorem effect (orderly : s.Orderly) {w : Nat} {events : List QueueEvent} {next : WorkerPhase}
    {tables : Shared} (goesOn : WorkerStep manager s.tables (s.workers w) events next tables) :
    WorkerEffect s.tables.queue tables.queue (s.workers w) next :=
  goesOn.effect orderly.numbered (fun job holds => (orderly.held w job holds).1) (orderly.beside w)

/-- A step that leaves the queue alone and the workers with what they hold. -/
theorem of_quiet (orderly : s.Orderly) (queue : t.tables.queue = s.tables.queue)
    (held : ∀ v, t.held? v = s.held? v)
    (beside : ∀ w job rest, t.workers w = .running job rest → BesideQueue rest) : t.Orderly where
  numbered := by rw [queue]; exact orderly.numbered
  held w job holds := by
    rw [jobs, queue]
    exact orderly.held w job (held w ▸ holds)
  holder job jobMem running := by
    rw [jobs, queue] at jobMem
    obtain ⟨w, holds⟩ := orderly.holder job jobMem running
    exact ⟨w, (held w).trans holds⟩
  alone v w job first second :=
    orderly.alone v w job (held v ▸ first) (held w ▸ second)
  unlocked job jobMem := orderly.unlocked job (by rwa [jobs, queue] at jobMem)
  locked job jobMem := orderly.locked job (by rwa [jobs, queue] at jobMem)
  beside := beside

/-- No worker holds a job that does not run. -/
theorem id_ne_of_held (orderly : s.Orderly) {row : QueueJob} (rowMem : row ∈ s.jobs)
    (status : row.status ≠ .running) {w : Nat} {job : QueueJob} (holds : s.held? w = some job) :
    job.id ≠ row.id := by
  intro sameId
  obtain ⟨jobMem, running⟩ := orderly.held w job holds
  exact status (orderly.numbered.job_unique jobMem rowMem sameId ▸ running)

/-- Two workers hold jobs with different numbers. -/
theorem eq_of_held (orderly : s.Orderly) {v w : Nat} {first second : QueueJob}
    (holdsFirst : s.held? v = some first) (holdsSecond : s.held? w = some second)
    (sameId : first.id = second.id) : v = w := by
  have firstMem := (orderly.held v first holdsFirst).1
  have secondMem := (orderly.held w second holdsSecond).1
  obtain rfl := orderly.numbered.job_unique firstMem secondMem sameId
  exact orderly.alone v w first holdsFirst holdsSecond

/-- A worker claims a job that is pending. -/
theorem of_claim (orderly : s.Orderly) {w : Nat} {now : Instant} {job : QueueJob}
    (replaces : Replaces job (job.claim now) s.tables.queue t.tables.queue)
    (pending : job.status = .pending) (idle : s.held? w = none)
    (held : ∀ v, t.held? v = if v = w then some (job.claim now) else s.held? v)
    (beside : ∀ w job rest, t.workers w = .running job rest → BesideQueue rest) : t.Orderly := by
  have notRunning : job.status ≠ .running := by simp [pending]
  have free (v : Nat) : s.held? v ≠ some (job.claim now) := fun holds =>
    orderly.id_ne_of_held replaces.old_mem notRunning holds rfl
  constructor
  · exact replaces.numbered orderly.numbered rfl
  · intro v row holds
    rw [held] at holds
    split at holds
    · obtain rfl := Option.some.inj holds
      exact ⟨(orderly.mem_jobs_iff replaces).mpr (.inl rfl), rfl⟩
    · obtain ⟨rowMem, running⟩ := orderly.held v row holds
      have different := orderly.id_ne_of_held replaces.old_mem notRunning holds
      exact ⟨(orderly.mem_jobs_iff replaces).mpr (.inr ⟨rowMem, different⟩), running⟩
  · intro row rowMem running
    rcases (orderly.mem_jobs_iff replaces).mp rowMem with rfl | ⟨rowMem, _⟩
    · exact ⟨w, by simp [held]⟩
    · obtain ⟨v, holds⟩ := orderly.holder row rowMem running
      have other : v ≠ w := by
        rintro rfl
        simp [idle] at holds
      exact ⟨v, by rw [held, if_neg other, holds]⟩
  · exact alone_of_take orderly.alone free held
  · intro row rowMem rowPending
    rcases (orderly.mem_jobs_iff replaces).mp rowMem with rfl | ⟨rowMem, _⟩
    · simp [QueueJob.claim] at rowPending
    · exact orderly.unlocked row rowMem rowPending
  · intro row rowMem running
    rcases (orderly.mem_jobs_iff replaces).mp rowMem with rfl | ⟨rowMem, _⟩
    · rfl
    · exact orderly.locked row rowMem running
  · exact beside

/-- A worker gives back the job that it holds. -/
theorem of_giveBack (orderly : s.Orderly) {w : Nat} {job new : QueueJob}
    (replaces : Replaces job new s.tables.queue t.tables.queue) (sameId : new.id = job.id)
    (status : new.status ≠ .running) (unlocked : new.status = .pending → new.lockedAt = none)
    (holds : s.held? w = some job)
    (held : ∀ v, t.held? v = if v = w then none else s.held? v)
    (beside : ∀ w job rest, t.workers w = .running job rest → BesideQueue rest) : t.Orderly := by
  constructor
  · exact replaces.numbered orderly.numbered sameId
  · intro v row later
    obtain ⟨other, before⟩ := had_of_giveBack held later
    obtain ⟨rowMem, running⟩ := orderly.held v row before
    have different : row.id ≠ job.id := fun same => other (orderly.eq_of_held before holds same)
    exact ⟨(orderly.mem_jobs_iff replaces).mpr (.inr ⟨rowMem, different⟩), running⟩
  · intro row rowMem running
    rcases (orderly.mem_jobs_iff replaces).mp rowMem with rfl | ⟨rowMem, different⟩
    · exact absurd running status
    · obtain ⟨v, before⟩ := orderly.holder row rowMem running
      have other : v ≠ w := by
        rintro rfl
        obtain rfl := Option.some.inj (before.symm.trans holds)
        exact different rfl
      exact ⟨v, by rw [held, if_neg other, before]⟩
  · intro u v row first second
    obtain ⟨_, first⟩ := had_of_giveBack held first
    obtain ⟨_, second⟩ := had_of_giveBack held second
    exact orderly.alone u v row first second
  · intro row rowMem pending
    rcases (orderly.mem_jobs_iff replaces).mp rowMem with rfl | ⟨rowMem, _⟩
    · exact unlocked pending
    · exact orderly.unlocked row rowMem pending
  · intro row rowMem running
    rcases (orderly.mem_jobs_iff replaces).mp rowMem with rfl | ⟨rowMem, _⟩
    · exact absurd running status
    · exact orderly.locked row rowMem running
  · exact beside

/-- A job is pushed. -/
theorem of_push (orderly : s.Orderly) {job : QueueJob}
    (queue : t.tables.queue = (s.tables.queue.push job).2) (pending : job.status = .pending)
    (unlocked : job.lockedAt = none) (held : ∀ v, t.held? v = s.held? v)
    (beside : ∀ w job rest, t.workers w = .running job rest → BesideQueue rest) : t.Orderly := by
  have mem_iff {row : QueueJob} : row ∈ t.jobs ↔
      row ∈ s.jobs ∨ row = { job with id := ⟨s.tables.queue.lastId + 1⟩ } := by
    rw [jobs, queue]
    exact mem_push
  constructor
  · rw [queue]
    exact orderly.numbered.push job
  · intro w row holds
    obtain ⟨rowMem, running⟩ := orderly.held w row (held w ▸ holds)
    exact ⟨mem_iff.mpr (.inl rowMem), running⟩
  · intro row rowMem running
    rcases mem_iff.mp rowMem with rowMem | rfl
    · obtain ⟨w, holds⟩ := orderly.holder row rowMem running
      exact ⟨w, (held w).trans holds⟩
    · simp [pending] at running
  · intro v w row first second
    exact orderly.alone v w row (held v ▸ first) (held w ▸ second)
  · intro row rowMem rowPending
    rcases mem_iff.mp rowMem with rowMem | rfl
    · exact orderly.unlocked row rowMem rowPending
    · exact unlocked
  · intro row rowMem running
    rcases mem_iff.mp rowMem with rowMem | rfl
    · exact orderly.locked row rowMem running
    · simp [pending] at running
  · exact beside

theorem of_initial (initial : s.Initial) : s.Orderly := by
  have noJobs : s.jobs = [] := by simp [jobs, initial.queue, QueueTable.empty]
  have idle (w : Nat) : s.held? w = none := by simp [held?, initial.workers, WorkerPhase.held?]
  constructor
  · rw [initial.queue]
    exact numbered_empty
  · simp [idle]
  · simp [noJobs]
  · simp [idle]
  · simp [noJobs]
  · simp [noJobs]
  · simp [initial.workers]

theorem step (orderly : s.Orderly) (step : Step manager bystanders s t) : t.Orderly := by
  cases step with
  | @work w events next tables goesOn =>
      have beside : ∀ v job rest, Function.update s.workers w next v = .running job rest →
          BesideQueue rest := by
        intro v job rest running
        by_cases same : v = w
        · subst same
          rw [Function.update_self] at running
          exact goesOn.besideQueue (orderly.beside v) job rest running
        · rw [Function.update_of_ne same] at running
          exact orderly.beside v job rest running
      rcases orderly.effect goesOn with
        ⟨queue, same⟩ | ⟨now, job, idle, pending, replaces, holds⟩ |
          ⟨job, new, holds, replaces, same, status, unlocked, idle⟩
      · exact orderly.of_quiet queue (held?_of_same rfl same) beside
      · apply orderly.of_claim replaces pending idle _ beside
        intro v
        rw [held?_of_update rfl, holds]
      · apply orderly.of_giveBack replaces (congrArg Prod.fst same) status unlocked holds _ beside
        intro v
        rw [held?_of_update rfl, idle]
  | @workAgain w result ended =>
      apply orderly.of_quiet
      · rfl
      · apply held?_of_same rfl
        rw [ended]
        rfl
      · intro v job rest running
        by_cases same : v = w
        · subst same
          simp at running
        · exact orderly.beside v job rest (by simpa [same] using running)
  | enqueue c goesOn fresh =>
      rcases goesOn.effect with ⟨rfl, _⟩ | ⟨rfl, _⟩ | ⟨request, id, now, _, _, _, rfl⟩
      · exact orderly.of_quiet rfl (fun _ => rfl) orderly.beside
      · exact orderly.of_quiet rfl (fun _ => rfl) orderly.beside
      · exact orderly.of_push rfl rfl rfl (fun _ => rfl) orderly.beside
  | others now call allowed => exact orderly.of_quiet rfl (fun _ => rfl) orderly.beside

end Orderly

theorem Reachable.orderly (reachable : Reachable manager bystanders s) : s.Orderly := by
  induction reachable with
  | initial initial => exact .of_initial initial
  | step _ step orderly => exact orderly.step step

/-! ## What is fixed about jobs -/

/-- A step adds at most one job, at the end, and fixes it for good. -/
theorem Orderly.identities (orderly : s.Orderly) (step : Step manager bystanders s t) :
    s.jobs.map QueueJob.identity <+: t.jobs.map QueueJob.identity := by
  cases step with
  | work w goesOn =>
      exact (orderly.effect goesOn).identities ▸ List.prefix_refl _
  | workAgain w ended => exact List.prefix_refl _
  | enqueue c goesOn fresh =>
      rcases goesOn.effect with ⟨rfl, _⟩ | ⟨rfl, _⟩ | ⟨request, id, now, _, _, _, rfl⟩
      · exact List.prefix_refl _
      · exact List.prefix_refl _
      · simp [jobs, QueueTable.push]
  | others now call allowed => exact List.prefix_refl _

/-! ## Names of executions -/

/-- The id that a call has made for a job which it has not pushed yet. -/
def awaited? (s : QueueSystem) (c : Nat) : Option ExecutionId := (s.callers c).name?

/-- The ids of the executions that the jobs stand for. -/
def executionIds (s : QueueSystem) : List ExecutionId := s.jobs.map (·.executionId)

theorem executionIds_of_identities
    (identities : t.jobs.map QueueJob.identity = s.jobs.map QueueJob.identity) :
    t.executionIds = s.executionIds := by
  have names := congrArg (List.map fun identity => identity.2.2.1) identities
  rw [List.map_map, List.map_map] at names
  exact names

/-- No two jobs, pushed or still to be pushed, are executions with the same id. -/
structure Named (s : QueueSystem) : Prop where
  notBlank : ∀ id ∈ s.made, id.isBlank = false
  made : ∀ id ∈ s.executionIds, id ∈ s.made
  distinct : s.executionIds.Nodup
  awaited : ∀ c id, s.awaited? c = some id → id ∈ s.made ∧ id ∉ s.executionIds
  alone : ∀ c d id, s.awaited? c = some id → s.awaited? d = some id → c = d

theorem awaited?_of_update {c : Nat} {next : EnqueuePhase}
    (callers : t.callers = Function.update s.callers c next) (d : Nat) :
    t.awaited? d = if d = c then next.name? else s.awaited? d := by
  by_cases same : d = c
  · subst same
    simp [awaited?, callers]
  · simp [awaited?, callers, same]

theorem awaited?_of_same {c : Nat} {next : EnqueuePhase}
    (callers : t.callers = Function.update s.callers c next)
    (same : next.name? = (s.callers c).name?) (d : Nat) : t.awaited? d = s.awaited? d := by
  rw [awaited?_of_update callers]
  split
  · subst d
    exact same
  · rfl

namespace Named

/-- A step that makes no id and pushes no job. -/
theorem of_quiet (named : s.Named) (made : t.made = s.made)
    (executionIds : t.executionIds = s.executionIds) (awaited : ∀ c, t.awaited? c = s.awaited? c) :
    t.Named where
  notBlank id idMem := named.notBlank id (made ▸ idMem)
  made id idMem := made ▸ named.made id (executionIds ▸ idMem)
  distinct := executionIds ▸ named.distinct
  awaited c id awaits := by
    rw [made, executionIds]
    exact named.awaited c id (awaited c ▸ awaits)
  alone c d id first second := named.alone c d id (awaited c ▸ first) (awaited d ▸ second)

/-- A call makes an id. -/
theorem of_name (named : s.Named) {c : Nat} {id : ExecutionId} (notBlank : id.isBlank = false)
    (fresh : id ∉ s.made) (made : t.made = id :: s.made)
    (executionIds : t.executionIds = s.executionIds)
    (awaited : ∀ d, t.awaited? d = if d = c then some id else s.awaited? d) : t.Named where
  notBlank other otherMem := by
    rw [made] at otherMem
    rcases List.mem_cons.mp otherMem with rfl | otherMem
    · exact notBlank
    · exact named.notBlank other otherMem
  made other otherMem := by
    rw [made]
    exact List.mem_cons_of_mem _ (named.made other (executionIds ▸ otherMem))
  distinct := executionIds ▸ named.distinct
  awaited d other awaits := by
    rw [awaited] at awaits
    rw [made, executionIds]
    split at awaits
    · obtain rfl := Option.some.inj awaits
      exact ⟨List.mem_cons_self, fun taken => fresh (named.made id taken)⟩
    · obtain ⟨otherMem, absent⟩ := named.awaited d other awaits
      exact ⟨List.mem_cons_of_mem _ otherMem, absent⟩
  alone := by
    apply alone_of_take named.alone _ awaited
    intro d awaits
    exact fresh (named.awaited d id awaits).1

/-- A call pushes the job for which it has made an id. -/
theorem of_push (named : s.Named) {c : Nat} {id : ExecutionId} (awaits : s.awaited? c = some id)
    (made : t.made = s.made) (executionIds : t.executionIds = s.executionIds ++ [id])
    (awaited : ∀ d, t.awaited? d = if d = c then none else s.awaited? d) : t.Named := by
  obtain ⟨idMem, absent⟩ := named.awaited c id awaits
  constructor
  · intro other otherMem
    exact named.notBlank other (made ▸ otherMem)
  · intro other otherMem
    rw [executionIds, List.mem_append, List.mem_singleton] at otherMem
    rw [made]
    rcases otherMem with otherMem | rfl
    · exact named.made other otherMem
    · exact idMem
  · rw [executionIds, List.nodup_append]
    refine ⟨named.distinct, List.nodup_singleton id, ?_⟩
    rintro other otherMem _ newMem rfl
    exact absent (List.mem_singleton.mp newMem ▸ otherMem)
  · intro d other later
    obtain ⟨different, before⟩ := had_of_giveBack awaited later
    obtain ⟨otherMem, otherAbsent⟩ := named.awaited d other before
    rw [made, executionIds, List.mem_append, List.mem_singleton, not_or]
    refine ⟨otherMem, otherAbsent, ?_⟩
    rintro rfl
    exact different (named.alone d c other before awaits)
  · intro d e other first second
    obtain ⟨_, first⟩ := had_of_giveBack awaited first
    obtain ⟨_, second⟩ := had_of_giveBack awaited second
    exact named.alone d e other first second

theorem of_initial (initial : s.Initial) : s.Named := by
  have noJobs : s.executionIds = [] := by
    simp [executionIds, jobs, initial.queue, QueueTable.empty]
  have noName (c : Nat) : s.awaited? c = none := by
    obtain ⟨request, asked⟩ := initial.callers c
    simp [awaited?, asked, EnqueuePhase.name?]
  constructor
  · simp [initial.made]
  · simp [noJobs]
  · simp [noJobs]
  · simp [noName]
  · simp [noName]

theorem step (named : s.Named) (orderly : s.Orderly) (step : Step manager bystanders s t) :
    t.Named := by
  cases step with
  | work w goesOn =>
      exact named.of_quiet rfl (executionIds_of_identities (orderly.effect goesOn).identities)
        fun _ => rfl
  | workAgain w ended => exact named.of_quiet rfl rfl fun _ => rfl
  | @enqueue c names next tables goesOn fresh =>
      rcases goesOn.effect with
        ⟨rfl, made, before⟩ | ⟨rfl, rfl, same⟩ | ⟨request, id, now, phase, rfl, idle, rfl⟩
      · cases after : next.name? with
        | none =>
            obtain rfl : names = [] := by simpa [after] using made
            exact named.of_quiet rfl rfl (awaited?_of_same rfl (after.trans before.symm))
        | some id =>
            obtain rfl : names = [id] := by simpa [after] using made
            have isFresh := (fresh id (by simp)).1
            apply named.of_name (goesOn.notBlank id (List.mem_singleton_self id)) isFresh
            · rfl
            · rfl
            · intro d
              rw [awaited?_of_update rfl, after]
      · exact named.of_quiet rfl rfl (awaited?_of_same rfl same)
      · have awaits : s.awaited? c = some id := by simp [awaited?, phase, EnqueuePhase.name?]
        apply named.of_push awaits
        · rfl
        · simp [executionIds, jobs, QueueTable.push, EnqueuePhase.jobFor, QueueJob.create,
            QueueJob.withMaxAttempts]
        · intro d
          rw [awaited?_of_update rfl, idle]
  | others now call allowed => exact named.of_quiet rfl rfl fun _ => rfl

end Named

theorem Reachable.named (reachable : Reachable manager bystanders s) : s.Named := by
  induction reachable with
  | initial initial => exact .of_initial initial
  | step reachable step named => exact named.step reachable.orderly step

/-! ## Steps that concern one job -/

/-- A step of one worker concerns one job, whose row is replaced: the other rows and
the other workers stay as they are, and none of these holds the job. -/
structure Concerns (s t : QueueSystem) (w : Nat) (job new : QueueJob) : Prop where
  jobMem : job ∈ s.jobs
  mem_iff : ∀ row, row ∈ t.jobs ↔ row = new ∨ row ∈ s.jobs ∧ row.id ≠ job.id
  identity : new.identity = job.identity
  lastId : t.tables.queue.lastId = s.tables.queue.lastId
  executionIds : t.executionIds = s.executionIds
  workers : ∀ v, v ≠ w → t.workers v = s.workers v
  apart : ∀ v row, v ≠ w → s.held? v = some row → row.id ≠ job.id

namespace Concerns

variable {w : Nat} {job new : QueueJob} {next : WorkerPhase}

/-- A worker goes on with the job that it holds. -/
theorem of_held (orderly : s.Orderly) (holds : s.held? w = some job)
    (queue : t.tables.queue = s.tables.queue)
    (workers : t.workers = Function.update s.workers w next) : Concerns s t w job job := by
  have jobMem := (orderly.held w job holds).1
  have jobs : t.jobs = s.jobs := congrArg QueueTable.jobs queue
  constructor
  · exact jobMem
  · intro row
    rw [jobs]
    constructor
    · intro rowMem
      by_cases same : row.id = job.id
      · exact .inl (orderly.numbered.job_unique rowMem jobMem same)
      · exact .inr ⟨rowMem, same⟩
    · rintro (rfl | ⟨rowMem, _⟩)
      · exact jobMem
      · exact rowMem
  · rfl
  · rw [queue]
  · rw [QueueSystem.executionIds, jobs, QueueSystem.executionIds]
  · intro v different
    rw [workers, Function.update_of_ne different]
  · intro v row different before sameId
    exact different (orderly.eq_of_held before holds sameId)

theorem of_replaces (orderly : s.Orderly)
    (replaces : Replaces job new s.tables.queue t.tables.queue)
    (identity : new.identity = job.identity)
    (workers : t.workers = Function.update s.workers w next)
    (apart : ∀ v row, v ≠ w → s.held? v = some row → row.id ≠ job.id) :
    Concerns s t w job new where
  jobMem := replaces.old_mem
  mem_iff _ := orderly.mem_jobs_iff replaces
  identity := identity
  lastId := replaces.lastId
  executionIds := executionIds_of_identities (replaces.map_eq identity)
  workers v different := by rw [workers, Function.update_of_ne different]
  apart := apart

/-- A worker gives back the job that it holds. -/
theorem of_giveBack (orderly : s.Orderly) (holds : s.held? w = some job)
    (replaces : Replaces job new s.tables.queue t.tables.queue)
    (identity : new.identity = job.identity)
    (workers : t.workers = Function.update s.workers w next) : Concerns s t w job new := by
  apply of_replaces orderly replaces identity workers
  intro v row different before sameId
  exact different (orderly.eq_of_held before holds sameId)

/-- A worker claims a job. -/
theorem of_claim (orderly : s.Orderly) (status : job.status ≠ .running)
    (replaces : Replaces job new s.tables.queue t.tables.queue)
    (identity : new.identity = job.identity)
    (workers : t.workers = Function.update s.workers w next) : Concerns s t w job new := by
  apply of_replaces orderly replaces identity workers
  intro v row _ before
  exact orderly.id_ne_of_held replaces.old_mem status before

end Concerns

end EventFlow.QueueSystem
