import EventFlow.Proofs.Queue.Attempts
import EventFlow.Proofs.Queue.Execution

/-!
# The queue and the executions agree

Ids for queued executions are new, and nobody but the workers runs them.  Then the
status of a job that no worker holds tells what the store holds of its execution,
whatever is done to the flows in the meantime.
-/

namespace EventFlow

open QueueTable

/-- Others that leave the executions of queued jobs alone; an id may be made only if
nothing is stored under it. -/
def Bystanders.apart : Bystanders where
  mayChange made s t := ∀ id ∈ made, s.SameFor id t
  mayName s id := s.getExecution id = none ∧ s.listJobs id = []

/-- The status of a job that no worker holds agrees with the store. -/
structure QueueJob.Agrees (job : QueueJob) (history : List QueueEvent) (s : Store) : Prop where
  completed : job.status = .completed → job.EndedAs .succeeded s
  failed : job.status = .failed → job.Tried history s
  pending : job.status = .pending → job.Tried history s
  untried : job.status = .pending → job.attempts = 0 → job.TurnedAway history s

/-- The store agrees with what a worker knows of the job that it holds. -/
def WorkerPhase.Agrees (history : List QueueEvent) (s : Shared) : WorkerPhase → Prop
  | .running job rest => job.Underway history s rest
  | .reporting job outcome => job.Told history s.store outcome
  | .postponing job _ _ => job.Tried history s.store
  | _ => True

section Others

variable {events history : List QueueEvent} {job : QueueJob}

/-- What happens to other jobs adds no error to this one. -/
theorem error_mem_of_append (others : ∀ event ∈ events, event.job ≠ job.id) (e : EngineError)
    (eMem : .returned job.id (.error e) ∈ events ++ history) :
    .returned job.id (.error e) ∈ history := by
  rcases List.mem_append.mp eMem with foreign | before
  · exact absurd rfl (others _ foreign)
  · exact before

theorem QueueJob.Agrees.of_sameFor {s t : Store} (agrees : job.Agrees history s)
    (same : s.SameFor job.executionId t) (others : ∀ event ∈ events, event.job ≠ job.id) :
    job.Agrees (events ++ history) t where
  completed status := (agrees.completed status).of_sameFor same
  failed status := (agrees.failed status).of_sameFor same (error_mem_of_append others)
  pending status := (agrees.pending status).of_sameFor same (error_mem_of_append others)
  untried status fresh := (agrees.untried status fresh).of_sameFor same (error_mem_of_append others)

theorem QueueJob.TurnedAway.agrees {s : Store} (turned : job.TurnedAway history s)
    (pending : job.status = .pending) : job.Agrees history s where
  completed status := by simp [pending] at status
  failed status := by simp [pending] at status
  pending _ := .inl turned
  untried _ _ := turned

theorem QueueJob.EndedAs.agrees {s : Store} (ended : job.EndedAs .succeeded s)
    (completed : job.status = .completed) : job.Agrees history s where
  completed _ := ended
  failed status := by simp [completed] at status
  pending status := by simp [completed] at status
  untried status := by simp [completed] at status

theorem QueueJob.Tried.agrees {s : Store} (tried : job.Tried history s)
    (incomplete : job.status ≠ .completed) (attempts : 0 < job.attempts) :
    job.Agrees history s where
  completed status := absurd status incomplete
  failed _ := tried
  pending _ := tried
  untried _ fresh := by omega

theorem WorkerPhase.Agrees.of_sameFor {s t : Shared} {phase : WorkerPhase}
    (agrees : phase.Agrees history s)
    (same : ∀ job, phase.held? = some job → s.store.SameFor job.executionId t.store)
    (others : ∀ job, phase.held? = some job → ∀ event ∈ events, event.job ≠ job.id) :
    phase.Agrees (events ++ history) t := by
  cases phase with
  | running job rest => exact QueueJob.Underway.of_sameFor agrees (same job rfl) (others job rfl)
  | reporting job outcome =>
      exact QueueJob.Told.of_sameFor agrees (same job rfl) (error_mem_of_append (others job rfl))
  | postponing job e reading =>
      exact QueueJob.Tried.of_sameFor agrees (same job rfl) (error_mem_of_append (others job rfl))
  | starting | claiming | ended => trivial

theorem WorkerPhase.Agrees.of_stores {s t : Shared} {phase : WorkerPhase}
    (agrees : phase.Agrees history s)
    (same : ∀ job, phase.held? = some job → s.store.SameFor job.executionId t.store) :
    phase.Agrees history t := by
  have noEvent (job : QueueJob) (_ : phase.held? = some job) :
      ∀ event ∈ ([] : List QueueEvent), event.job ≠ job.id := by simp
  exact agrees.of_sameFor same noEvent

theorem WorkerPhase.agrees_of_idle {s : Shared} {phase : WorkerPhase} (idle : phase.held? = none) :
    phase.Agrees history s := by
  cases phase with
  | running | reporting | postponing => contradiction
  | starting | claiming | ended => trivial

end Others

namespace QueueSystem

variable {manager : QueueManager} {s t : QueueSystem}

/-- Every job agrees with the store, and nothing is stored under ids that no job has
yet. -/
structure Agreed (s : QueueSystem) : Prop where
  wellFormed : s.tables.store.WellFormed
  resting : ∀ row ∈ s.jobs, row.status ≠ .running → row.Agrees s.history s.tables.store
  inHand : ∀ w, (s.workers w).Agrees s.history s.tables
  unused : ∀ id ∈ s.made, id ∉ s.executionIds →
    s.tables.store.getExecution id = none ∧ s.tables.store.listJobs id = []

theorem Named.executionId_mem (named : s.Named) {row : QueueJob} (rowMem : row ∈ s.jobs) :
    row.executionId ∈ s.made :=
  named.made _ (List.mem_map_of_mem rowMem)

theorem Named.executionId_ne (named : s.Named) {row job : QueueJob} (rowMem : row ∈ s.jobs)
    (jobMem : job ∈ s.jobs) (different : row.id ≠ job.id) : row.executionId ≠ job.executionId :=
  fun same => different (List.inj_on_of_nodup_map named.distinct rowMem jobMem same ▸ rfl)

namespace Agreed

/-- A step after which every worker stands where it stood or holds no job, and which
changes no rows of executions for which ids have been made. -/
theorem of_quiet (agreed : s.Agreed) (orderly : s.Orderly) (named : s.Named)
    (jobs : t.jobs = s.jobs) (history : t.history = s.history)
    (wellFormed : t.tables.store.WellFormed)
    (same : ∀ id ∈ s.made, s.tables.store.SameFor id t.tables.store)
    (workers : ∀ w, t.workers w = s.workers w ∨ t.held? w = none)
    (made : ∀ id ∈ t.made, id ∉ s.made →
      t.tables.store.getExecution id = none ∧ t.tables.store.listJobs id = []) : t.Agreed := by
  have sameRow {row : QueueJob} (rowMem : row ∈ s.jobs) :
      s.tables.store.SameFor row.executionId t.tables.store :=
    same _ (named.executionId_mem rowMem)
  have noEvent {id : QueueJobId} : ∀ event ∈ ([] : List QueueEvent), event.job ≠ id := by simp
  constructor
  · exact wellFormed
  · intro row rowMem status
    rw [jobs] at rowMem
    rw [history]
    exact (agreed.resting row rowMem status).of_sameFor (sameRow rowMem) noEvent
  · intro w
    rcases workers w with stays | idle
    · rw [stays, history]
      apply (agreed.inHand w).of_stores
      intro job holds
      exact sameRow (orderly.held w job holds).1
    · exact WorkerPhase.agrees_of_idle idle
  · intro id idMem absent
    have absent : id ∉ s.executionIds := by rwa [executionIds, jobs] at absent
    by_cases before : id ∈ s.made
    · obtain ⟨noRow, noJobs⟩ := agreed.unused id before absent
      exact ⟨(same id before).execution.trans noRow, (same id before).jobs.trans noJobs⟩
    · exact made id idMem before

/-- After a step of one worker that concerns one job and its execution, the agreement
has to be checked for this job only. -/
theorem of_concerns (agreed : s.Agreed) (orderly : s.Orderly) (named : s.Named) {w : Nat}
    {job new : QueueJob} (concerns : Concerns s t w job new) (events : List QueueEvent)
    (history : t.history = events ++ s.history) (about : ∀ event ∈ events, event.job = job.id)
    (made : t.made = s.made) (wellFormed : t.tables.store.WellFormed)
    (same : ∀ id, id ≠ job.executionId → s.tables.store.SameFor id t.tables.store)
    (resting : new.status ≠ .running → new.Agrees t.history t.tables.store)
    (inHand : (t.workers w).Agrees t.history t.tables) : t.Agreed := by
  have sameRow {row : QueueJob} (rowMem : row ∈ s.jobs) (different : row.id ≠ job.id) :
      s.tables.store.SameFor row.executionId t.tables.store :=
    same _ (named.executionId_ne rowMem concerns.jobMem different)
  have foreign {row : QueueJob} (different : row.id ≠ job.id) :
      ∀ event ∈ events, event.job ≠ row.id := by
    intro event eventMem equal
    exact different (equal.symm.trans (about event eventMem))
  constructor
  · exact wellFormed
  · intro row rowMem status
    rcases (concerns.mem_iff row).mp rowMem with rfl | ⟨rowMem, different⟩
    · exact resting status
    · rw [history]
      have before := agreed.resting row rowMem status
      exact before.of_sameFor (sameRow rowMem different) (foreign different)
  · intro v
    by_cases here : v = w
    · exact here ▸ inHand
    · rw [concerns.workers v here, history]
      apply (agreed.inHand v).of_sameFor
      · intro row holds
        exact sameRow (orderly.held v row holds).1 (concerns.apart v row here holds)
      · intro row holds
        exact foreign (concerns.apart v row here holds)
  · intro id idMem absent
    rw [made] at idMem
    rw [concerns.executionIds] at absent
    have different : id ≠ job.executionId := by
      rintro rfl
      exact absent (List.mem_map_of_mem concerns.jobMem)
    obtain ⟨noRow, noJobs⟩ := agreed.unused id idMem absent
    exact ⟨(same id different).execution.trans noRow, (same id different).jobs.trans noJobs⟩

/-- A worker goes on with the job that it holds. -/
theorem of_inHand (agreed : s.Agreed) (orderly : s.Orderly) (named : s.Named) {w : Nat}
    {job : QueueJob} {next : WorkerPhase} (holds : s.held? w = some job) (events : List QueueEvent)
    (history : t.history = events ++ s.history) (about : ∀ event ∈ events, event.job = job.id)
    (made : t.made = s.made) (queue : t.tables.queue = s.tables.queue)
    (workers : t.workers = Function.update s.workers w next)
    (wellFormed : t.tables.store.WellFormed)
    (same : ∀ id, id ≠ job.executionId → s.tables.store.SameFor id t.tables.store)
    (inHand : next.Agrees t.history t.tables) : t.Agreed := by
  have concerns : Concerns s t w job job := .of_held orderly holds queue workers
  apply agreed.of_concerns orderly named concerns events history about made wellFormed same
  · intro status
    exact absurd (orderly.held w job holds).2 status
  · rw [workers, Function.update_self]
    exact inHand

/-- A worker gives back the job that it holds. -/
theorem of_giveBack (agreed : s.Agreed) (orderly : s.Orderly) (named : s.Named) {w : Nat}
    {job new : QueueJob} {result : Except QueueError Bool} (holds : s.held? w = some job)
    (replaces : Replaces job new s.tables.queue t.tables.queue)
    (identity : new.identity = job.identity) (store : t.tables.store = s.tables.store)
    (history : t.history = s.history) (made : t.made = s.made)
    (workers : t.workers = Function.update s.workers w (.ended result))
    (agrees : new.Agrees s.history s.tables.store) : t.Agreed := by
  have concerns : Concerns s t w job new := .of_giveBack orderly holds replaces identity workers
  apply agreed.of_concerns orderly named concerns [] history _ made
  · rw [store]
    exact agreed.wellFormed
  · intro id _
    rw [store]
    exact .refl id _
  · intro _
    rw [history, store]
    exact agrees
  · rw [workers, Function.update_self]
    trivial
  · simp

/-- A worker claims a job that is due, and is about to run it. -/
theorem of_claim (agreed : s.Agreed) (orderly : s.Orderly) (named : s.Named) {w : Nat}
    {job : QueueJob} {now : Instant}
    (replaces : Replaces job (job.claim now) s.tables.queue t.tables.queue)
    (pending : job.status = .pending) (store : t.tables.store = s.tables.store)
    (history : t.history = .claimed job.id now :: s.history) (made : t.made = s.made)
    (workers : t.workers = Function.update s.workers w (.running (job.claim now)
      (manager.engine.execute (some job.executionId) job.args))) : t.Agreed := by
  have notRunning : job.status ≠ .running := by simp [pending]
  have notBlank : job.executionId.isBlank = false :=
    named.notBlank _ (named.executionId_mem replaces.old_mem)
  have tried := (agreed.resting job replaces.old_mem notRunning).pending pending
  have concerns : Concerns s t w job (job.claim now) :=
    .of_claim orderly notRunning replaces rfl workers
  apply agreed.of_concerns orderly named concerns [.claimed job.id now] history _ made
  · rw [store]
    exact agreed.wellFormed
  · intro id _
    rw [store]
    exact .refl id _
  · intro status
    exact absurd rfl status
  · rw [workers, Function.update_self, history]
    have claimed : job.Tried (.claimed job.id now :: s.history) t.tables.store :=
      tried.of_sameFor (store ▸ .refl _ _) (by simp)
    have again : (job.claim now).Tried (.claimed job.id now :: s.history) t.tables.store :=
      claimed.of_identity rfl
    exact again.underway notBlank manager.engine
  · simp [QueueEvent.job]

/-- A call that queues a request pushes a job under the id that it has made. -/
theorem of_push (agreed : s.Agreed) (named : s.Named)
    (counted : s.Counted manager) {c : Nat} {request : FlowRequest} {id : ExecutionId}
    {now : Instant} (awaits : s.awaited? c = some id)
    (queue : t.tables.queue =
      (s.tables.queue.push (EnqueuePhase.jobFor manager request id now)).2)
    (store : t.tables.store = s.tables.store) (history : t.history = s.history)
    (made : t.made = s.made) (workers : t.workers = s.workers) : t.Agreed := by
  obtain ⟨idMem, absent⟩ := named.awaited c id awaits
  obtain ⟨noRow, noJobs⟩ := agreed.unused id idMem absent
  constructor
  · rw [store]
    exact agreed.wellFormed
  · intro row rowMem status
    rw [jobs, queue] at rowMem
    rw [history, store]
    rcases mem_push.mp rowMem with rowMem | rfl
    · exact agreed.resting row rowMem status
    · have turned : QueueJob.TurnedAway { EnqueuePhase.jobFor manager request id now with
          id := ⟨s.tables.queue.lastId + 1⟩ } s.history s.tables.store := by
        refine ⟨noRow, noJobs, ?_⟩
        intro e eMem
        have known := counted.known _ eMem
        simp only [QueueEvent.job] at known
        omega
      exact turned.agrees rfl
  · intro w
    rw [workers, history]
    apply (agreed.inHand w).of_stores
    intro job _
    rw [store]
    exact .refl _ _
  · intro other otherMem otherAbsent
    rw [made] at otherMem
    rw [store]
    apply agreed.unused other otherMem
    intro taken
    apply otherAbsent
    rw [executionIds, jobs, queue]
    simp only [QueueTable.push, List.map_append, List.mem_append]
    exact .inl taken

/-- A worker goes on that has no job in hand afterwards, and had none before. -/
theorem of_idle (agreed : s.Agreed) (orderly : s.Orderly) (named : s.Named) {w : Nat}
    {next : WorkerPhase} (idle : next.held? = none) (tables : t.tables = s.tables)
    (history : t.history = s.history) (made : t.made = s.made)
    (workers : t.workers = Function.update s.workers w next) : t.Agreed := by
  apply agreed.of_quiet orderly named _ history
  · rw [tables]
    exact agreed.wellFormed
  · intro id _
    rw [tables]
    exact .refl id _
  · intro v
    by_cases same : v = w
    · subst same
      right
      rw [held?, workers, Function.update_self, idle]
    · left
      rw [workers, Function.update_of_ne same]
  · intro id idMem absent
    exact absurd (made ▸ idMem) absent
  · rw [jobs, tables, jobs]

theorem of_initial (initial : s.Initial) : s.Agreed := by
  constructor
  · exact initial.store.wellFormed
  · simp [jobs, initial.queue, QueueTable.empty]
  · intro w
    rw [initial.workers]
    trivial
  · simp [initial.made]

theorem work (agreed : s.Agreed) (orderly : s.Orderly) (named : s.Named) {w : Nat}
    {events : List QueueEvent} {next : WorkerPhase} {tables : Shared}
    (goesOn : WorkerStep manager s.tables (s.workers w) events next tables) :
    Agreed
      { s with
        tables
        workers := Function.update s.workers w next
        history := events ++ s.history } := by
  have holds (job : QueueJob) (held : (s.workers w).held? = some job) : s.held? w = some job := held
  have mem (job : QueueJob) (held : (s.workers w).held? = some job) :
      job ∈ s.tables.queue.jobs := (orderly.held w job held).1
  have agrees := agreed.inHand w
  have beside := orderly.beside w
  generalize at_ : s.workers w = phase at *
  cases goesOn with
  | readClock now => exact agreed.of_idle orderly named rfl rfl rfl rfl rfl
  | @claim now job queue claimed =>
      obtain ⟨old, replaces, rfl, pending, _⟩ := claimed ▸ orderly.numbered.claimNext now
      exact agreed.of_claim orderly named replaces pending rfl rfl rfl rfl
  | @findNone now queue claimed =>
      obtain ⟨rfl, _⟩ := claimed ▸ orderly.numbered.claimNext now
      exact agreed.of_idle orderly named rfl rfl rfl rfl rfl
  | @runOn _ job q a rest answered =>
      obtain ⟨underway, base, changes⟩ := QueueJob.Underway.answer agrees agreed.wellFormed answered
      exact agreed.of_inHand orderly named (holds job rfl) [] rfl (by simp) rfl
        (answered.queue_eq (beside job _ rfl).1) rfl (answered.wellFormed agreed.wellFormed)
        (fun id different => changes.sameFor different) underway
  | @returned job outcome =>
      exact agreed.of_inHand orderly named (holds job rfl) [_] rfl (by simp [QueueEvent.job]) rfl
        rfl rfl agreed.wellFormed (fun id _ => .refl id _) (QueueJob.Underway.told agrees)
  | @complete job given result queue now stored =>
      obtain ⟨_, replaces⟩ := orderly.numbered.replaces_of_change (mem job rfl) stored
      have ended : (job.complete now).EndedAs .succeeded s.tables.store :=
        QueueJob.EndedAs.of_identity agrees rfl
      exact agreed.of_giveBack orderly named (holds job rfl) replaces rfl rfl rfl rfl rfl
        (ended.agrees rfl)
  | @fail job e result queue now last stored =>
      obtain ⟨_, replaces⟩ := orderly.numbered.replaces_of_change (mem job rfl) stored
      have tried : (job.fail now (job.attempts + 1) e.message).Tried s.history s.tables.store :=
        QueueJob.Tried.of_identity agrees rfl
      exact agreed.of_giveBack orderly named (holds job rfl) replaces rfl rfl rfl rfl rfl
        (tried.agrees (by simp [QueueJob.fail]) (Nat.succ_pos _))
  | @postpone job e reading left =>
      refine agreed.of_inHand orderly named (holds job rfl) [_] rfl (by simp [QueueEvent.job]) rfl
        rfl rfl agreed.wellFormed (fun id _ => .refl id _) ?_
      exact QueueJob.Tried.of_sameFor agrees (.refl _ _) (by simp)
  | @reschedule job e reading result queue now stored =>
      obtain ⟨_, replaces⟩ := orderly.numbered.replaces_of_change (mem job rfl) stored
      have tried : (job.reschedule now (job.attempts + 1) e.message
          (reading.plus (QueueJob.retryDelay (job.attempts + 1)))).Tried s.history s.tables.store :=
        QueueJob.Tried.of_identity agrees rfl
      exact agreed.of_giveBack orderly named (holds job rfl) replaces rfl rfl rfl rfl rfl
        (tried.agrees (by simp [QueueJob.reschedule]) (Nat.succ_pos _))

theorem step (agreed : s.Agreed) (orderly : s.Orderly) (named : s.Named)
    (counted : s.Counted manager) (step : Step manager .apart s t) : t.Agreed := by
  cases step with
  | work w goesOn => exact agreed.work orderly named goesOn
  | workAgain w ended => exact agreed.of_idle orderly named rfl rfl rfl rfl rfl
  | @enqueue c names next tables goesOn fresh =>
      have unused : ∀ id ∈ names ++ s.made, id ∉ s.made →
          s.tables.store.getExecution id = none ∧ s.tables.store.listJobs id = [] := by
        intro id idMem absent
        rcases List.mem_append.mp idMem with new | old
        · exact (fresh id new).2
        · exact absurd old absent
      have quiet (callers : Nat → EnqueuePhase) :
          Agreed { s with made := names ++ s.made, callers } :=
        agreed.of_quiet orderly named rfl rfl agreed.wellFormed (fun id _ => .refl id _)
          (fun _ => .inl rfl) unused
      rcases goesOn.effect with ⟨rfl, _⟩ | ⟨rfl, _⟩ | ⟨request, id, now, phase, rfl, _, rfl⟩
      · exact quiet _
      · exact quiet _
      · have awaits : s.awaited? c = some id := by simp [awaited?, phase, EnqueuePhase.name?]
        exact agreed.of_push named counted awaits rfl rfl rfl rfl rfl
  | others now call allowed =>
      exact agreed.of_quiet orderly named rfl rfl (agreed.wellFormed.answer now call) allowed
        (fun _ => .inl rfl) fun id idMem absent => absurd idMem absent

end Agreed

theorem Reachable.agreed (reachable : Reachable manager .apart s) : s.Agreed := by
  induction reachable with
  | initial initial => exact .of_initial initial
  | step reachable step agreed =>
      exact agreed.step reachable.orderly reachable.named reachable.counted step

/-- A job that no worker holds agrees with the store.  If it is completed, its
execution has succeeded; if it has failed or is pending again, then either nothing
is stored of its execution and no run got past the checks of the flow, or its
execution has failed; both belong to the flow and carry the event that the job asks
for.  Nothing is stored for a job that has not been tried, and never more than one
execution for any job.  With a queue, the calls that run and queue the jobs are the
manager's `processNext` and `enqueue`. -/
theorem Reachable.executions_agree (reachable : Reachable manager .apart s) :
    (∀ row ∈ s.jobs,
      ((∀ w, s.held? w ≠ some row) →
        (row.status = .completed → row.EndedAs .succeeded s.tables.store) ∧
        (row.status = .failed ∨ row.status = .pending ∧ 0 < row.attempts →
          row.TurnedAway s.history s.tables.store ∨ row.EndedAs .failed s.tables.store) ∧
        (row.status = .pending → row.attempts = 0 →
          s.tables.store.getExecution row.executionId = none ∧
            s.tables.store.listJobs row.executionId = [])) ∧
      (s.tables.store.executions.filter fun e => e.executionId == row.executionId).length ≤ 1) ∧
    (manager.enabled = true → s.FollowsPrograms manager) := by
  refine ⟨?_, fun enabled => followsPrograms enabled s⟩
  intro row rowMem
  have agreed := reachable.agreed
  constructor
  · intro idle
    have resting : row.status ≠ .running := by
      intro running
      obtain ⟨w, holds⟩ := reachable.orderly.holder row rowMem running
      exact idle w holds
    have agrees := agreed.resting row rowMem resting
    refine ⟨agrees.completed, ?_, ?_⟩
    · rintro (failed | ⟨pending, _⟩)
      · exact agrees.failed failed
      · exact agrees.pending pending
    · intro pending fresh
      have turned := agrees.untried pending fresh
      exact ⟨turned.noRow, turned.noJobs⟩
  · have once := List.nodup_iff_count_le_one.mp agreed.wellFormed.executionIds row.executionId
    rwa [List.count, List.countP_map, List.countP_eq_length_filter] at once

/-- The job that was put off because its flow had been switched off has left no
trace in the store. -/
theorem executions_agree_of_put_off :
    FirstJob.putOff.Reachable FirstJob.manager .apart ∧
      FirstJob.retried.TurnedAway FirstJob.putOff.history FirstJob.withdrawn := by
  have allowed : Bystanders.apart.mayChange [⟨"run"⟩] FirstJob.store FirstJob.withdrawn :=
    fun id _ => Store.sameFor_answer _ _ rfl id
  have reachable : FirstJob.putOff.Reachable FirstJob.manager .apart :=
    FirstJob.putOff_reachable ⟨rfl, rfl⟩ allowed
  refine ⟨reachable, ?_⟩
  have idle (w : Nat) : FirstJob.putOff.held? w ≠ some FirstJob.retried := by
    simp [FirstJob.putOff_idle]
  obtain ⟨agrees, _⟩ := reachable.executions_agree.1 FirstJob.retried (List.mem_singleton_self _)
  rcases (agrees idle).2.1 (.inr ⟨rfl, by decide⟩) with turned | ⟨row, stored, _⟩
  · exact turned
  · cases stored

end QueueSystem

end EventFlow
