import EventFlow.Proofs.Queue.History
import Mathlib.Algebra.Group.Int.Defs
import Mathlib.Algebra.Group.Nat.Defs

/-!
# How often a job is run

A job counts its failed runs, also while the last of them is known only to the
worker that holds it.  It is run again until a run goes well or as many have
failed as it was given attempts, and from one run to the next it waits as long as
its failures ask for.
-/

namespace EventFlow.QueueSystem

open QueueTable

variable {manager : QueueManager} {bystanders : Bystanders} {s t : QueueSystem}

/-- Before a job is claimed again it has waited long enough since its last failure
was recorded. -/
def Spaced (history : List QueueEvent) : Prop :=
  ∀ later earlier id now, history = later ++ .claimed id now :: earlier →
    0 < failedRuns earlier id →
    ∃ reading, lastPostponement? earlier id = some (failedRuns earlier id, reading) ∧
      reading.nanoseconds + 2 ^ min (failedRuns earlier id) 6 * 1000000000 ≤ now.nanoseconds

theorem spaced_cons {event : QueueEvent} {history : List QueueEvent} (spaced : Spaced history)
    (here : ∀ id now, event = .claimed id now → 0 < failedRuns history id →
      ∃ reading, lastPostponement? history id = some (failedRuns history id, reading) ∧
        reading.nanoseconds + 2 ^ min (failedRuns history id) 6 * 1000000000 ≤ now.nanoseconds) :
    Spaced (event :: history) := by
  intro later earlier id now split failed
  cases later with
  | nil =>
      obtain ⟨rfl, rfl⟩ := List.cons.inj split
      exact here id now rfl failed
  | cons last later =>
      obtain ⟨_, rfl⟩ := List.cons.inj split
      exact spaced later earlier id now rfl failed

/-- Every job of the queue agrees with the history. -/
structure Counted (manager : QueueManager) (s : QueueSystem) : Prop where
  resting : ∀ row ∈ s.jobs, row.status ≠ .running → Accounted manager.config s.history row 0
  held : ∀ w row, s.held? w = some row →
    Accounted manager.config s.history row (s.workers w).unrecorded
  postponing : ∀ w job e reading, s.workers w = .postponing job e reading →
    lastPostponement? s.history job.id = some (job.attempts + 1, reading) ∧
      job.attempts + 1 < job.maxAttempts
  known : ∀ event ∈ s.history, event.job.value ≤ s.tables.queue.lastId
  spaced : Spaced s.history

namespace Counted

/-- A step that does nothing to any job. -/
theorem of_quiet (counted : s.Counted manager) (jobs : t.jobs = s.jobs)
    (lastId : t.tables.queue.lastId = s.tables.queue.lastId) (history : t.history = s.history)
    (held : ∀ w, t.held? w = s.held? w)
    (unrecorded : ∀ w, (t.workers w).unrecorded = (s.workers w).unrecorded)
    (postponing : ∀ w job e reading, t.workers w = .postponing job e reading →
      s.workers w = .postponing job e reading) : t.Counted manager where
  resting row rowMem status := history ▸ counted.resting row (jobs ▸ rowMem) status
  held w row holds := by
    rw [history, unrecorded]
    exact counted.held w row (held w ▸ holds)
  postponing w job e reading at_ := by
    rw [history]
    exact counted.postponing w job e reading (postponing w job e reading at_)
  known event eventMem := by
    rw [lastId]
    exact counted.known event (history ▸ eventMem)
  spaced := history ▸ counted.spaced

/-- After a step of one worker that concerns one job, the account has to be checked
for this job only. -/
theorem of_concerns (counted : s.Counted manager) (orderly : s.Orderly) {w : Nat}
    {job new : QueueJob} (concerns : Concerns s t w job new) (events : List QueueEvent)
    (history : t.history = events ++ s.history) (about : ∀ event ∈ events, event.job = job.id)
    (resting : new.status ≠ .running → Accounted manager.config t.history new 0)
    (held : ∀ row, t.held? w = some row →
      Accounted manager.config t.history row (t.workers w).unrecorded)
    (postponing : ∀ job e reading, t.workers w = .postponing job e reading →
      lastPostponement? t.history job.id = some (job.attempts + 1, reading) ∧
        job.attempts + 1 < job.maxAttempts)
    (spaced : Spaced t.history) : t.Counted manager := by
  have foreign {row : QueueJob} (different : row.id ≠ job.id) :
      ∀ event ∈ events, event.job ≠ row.id := by
    intro event eventMem same
    exact different (same.symm.trans (about event eventMem))
  constructor
  · intro row rowMem status
    rcases (concerns.mem_iff row).mp rowMem with rfl | ⟨rowMem, different⟩
    · exact resting status
    · rw [history]
      exact (counted.resting row rowMem status).append (foreign different)
  · intro v row holds
    by_cases same : v = w
    · subst same
      exact held row holds
    · rw [held?, concerns.workers v same] at holds
      rw [history, concerns.workers v same]
      exact (counted.held v row holds).append (foreign (concerns.apart v row same holds))
  · intro v other e reading at_
    by_cases same : v = w
    · subst same
      exact postponing other e reading at_
    · rw [concerns.workers v same] at at_
      have holds : s.held? v = some other := by simp [held?, at_, WorkerPhase.held?]
      rw [history,
        lastPostponement?_append s.history (foreign (concerns.apart v other same holds))]
      exact counted.postponing v other e reading at_
  · intro event eventMem
    rw [history, List.mem_append] at eventMem
    rw [concerns.lastId]
    rcases eventMem with new | old
    · rw [about event new]
      exact orderly.numbered.id_le concerns.jobMem
    · exact counted.known event old
  · exact spaced

/-- A worker notes something about the job that it holds. -/
theorem of_note (counted : s.Counted manager) (orderly : s.Orderly) {w : Nat} {job : QueueJob}
    {next : WorkerPhase} {event : QueueEvent} (holds : s.held? w = some job)
    (about : event.job = job.id) (notClaim : ∀ id now, event ≠ .claimed id now)
    (tables : t.tables = s.tables) (workers : t.workers = Function.update s.workers w next)
    (history : t.history = event :: s.history) (still : next.held? = some job)
    (account : Accounted manager.config t.history job next.unrecorded)
    (postponing : ∀ e reading, next = .postponing job e reading →
      lastPostponement? t.history job.id = some (job.attempts + 1, reading) ∧
        job.attempts + 1 < job.maxAttempts) : t.Counted manager := by
  have concerns : Concerns s t w job job :=
    .of_held orderly holds (congrArg Shared.queue tables) workers
  have here : t.workers w = next := by rw [workers, Function.update_self]
  apply counted.of_concerns orderly concerns [event] history
  · simpa using about
  · intro status
    exact absurd (orderly.held w job holds).2 status
  · intro row holdsNow
    rw [held?, here, still] at holdsNow
    obtain rfl := Option.some.inj holdsNow
    rw [here]
    exact account
  · intro other e reading at_
    rw [here] at at_
    subst at_
    obtain rfl : other = job := Option.some.inj still
    exact postponing e reading rfl
  · rw [history]
    apply spaced_cons counted.spaced
    intro id now same
    exact absurd same (notClaim id now)

/-- A worker gives back the job that it holds. -/
theorem of_giveBack (counted : s.Counted manager) (orderly : s.Orderly) {w : Nat}
    {job new : QueueJob} {result : Except QueueError Bool} (holds : s.held? w = some job)
    (replaces : Replaces job new s.tables.queue t.tables.queue)
    (identity : new.identity = job.identity)
    (workers : t.workers = Function.update s.workers w (.ended result))
    (history : t.history = s.history) (account : Accounted manager.config s.history new 0) :
    t.Counted manager := by
  have concerns : Concerns s t w job new := .of_giveBack orderly holds replaces identity workers
  have here : t.workers w = .ended result := by rw [workers, Function.update_self]
  apply counted.of_concerns orderly concerns [] history
  · simp
  · intro _
    rw [history]
    exact account
  · simp [held?, here, WorkerPhase.held?]
  · simp [here]
  · rw [history]
    exact counted.spaced

/-- A worker claims a job that is due. -/
theorem of_claim (counted : s.Counted manager) (orderly : s.Orderly) {w : Nat} {job : QueueJob}
    {now : Instant} {rest : Routine (Except EngineError ExecutionId)}
    (replaces : Replaces job (job.claim now) s.tables.queue t.tables.queue)
    (pending : job.status = .pending) (due : job.runAt ≤ now)
    (workers : t.workers = Function.update s.workers w (.running (job.claim now) rest))
    (history : t.history = .claimed job.id now :: s.history) : t.Counted manager := by
  have notRunning : job.status ≠ .running := by simp [pending]
  have concerns : Concerns s t w job (job.claim now) :=
    .of_claim orderly notRunning replaces rfl workers
  have account := counted.resting job replaces.old_mem notRunning
  have here : t.workers w = .running (job.claim now) rest := by rw [workers, Function.update_self]
  apply counted.of_concerns orderly concerns [.claimed job.id now] history
  · simp [QueueEvent.job]
  · intro status
    exact absurd rfl status
  · intro row holdsNow
    rw [held?, here] at holdsNow
    obtain rfl := Option.some.inj holdsNow
    rw [here, history]
    exact account.claim pending now
  · simp [here]
  · rw [history]
    apply spaced_cons counted.spaced
    intro id time same failed
    obtain ⟨rfl, rfl⟩ := QueueEvent.claimed.inj same
    have recorded : failedRuns s.history job.id = job.attempts := account.failed
    rw [recorded] at failed ⊢
    obtain ⟨reading, noted, runAt⟩ := account.waits pending failed
    rw [runAt] at due
    exact ⟨reading, noted, due⟩

/-- A worker goes on without doing anything to a job. -/
theorem of_quietWork (counted : s.Counted manager) {w : Nat} {next : WorkerPhase}
    (queue : t.tables.queue = s.tables.queue) (history : t.history = s.history)
    (workers : t.workers = Function.update s.workers w next)
    (held : next.held? = (s.workers w).held?)
    (unrecorded : next.unrecorded = (s.workers w).unrecorded)
    (notPostponing : ∀ job e reading, next ≠ .postponing job e reading) : t.Counted manager := by
  apply counted.of_quiet _ _ history
  · exact held?_of_same workers held
  · intro v
    by_cases same : v = w
    · subst same
      rw [workers, Function.update_self, unrecorded]
    · rw [workers, Function.update_of_ne same]
  · intro v job e reading at_
    by_cases same : v = w
    · subst same
      rw [workers, Function.update_self] at at_
      exact absurd at_ (notPostponing job e reading)
    · rwa [workers, Function.update_of_ne same] at at_
  · rw [jobs, queue, jobs]
  · rw [queue]

/-- A call that queues a request pushes a job that nothing has happened to. -/
theorem of_push (counted : s.Counted manager) {request : FlowRequest} {executionId : ExecutionId}
    {now : Instant} (queue : t.tables.queue =
      (s.tables.queue.push (EnqueuePhase.jobFor manager request executionId now)).2)
    (workers : t.workers = s.workers) (history : t.history = s.history) : t.Counted manager := by
  constructor
  · intro row rowMem status
    rw [jobs, queue] at rowMem
    rw [history]
    rcases mem_push.mp rowMem with rowMem | rfl
    · exact counted.resting row rowMem status
    · apply Accounted.of_new rfl rfl rfl rfl
      intro event eventMem same
      have known := counted.known event eventMem
      rw [same] at known
      simp only at known
      omega
  · intro w row holds
    rw [history, workers]
    rw [held?, workers] at holds
    exact counted.held w row holds
  · intro w job e reading at_
    rw [history]
    exact counted.postponing w job e reading (workers ▸ at_)
  · intro event eventMem
    have known := counted.known event (history ▸ eventMem)
    rw [queue, QueueTable.push]
    simp only
    omega
  · rw [history]
    exact counted.spaced

theorem of_initial (initial : s.Initial) : s.Counted manager := by
  constructor
  · simp [jobs, initial.queue, QueueTable.empty]
  · simp [held?, initial.workers, WorkerPhase.held?]
  · simp [initial.workers]
  · simp [initial.history]
  · simp [Spaced, initial.history]

theorem work (counted : s.Counted manager) (orderly : s.Orderly) {w : Nat}
    {events : List QueueEvent} {next : WorkerPhase} {tables : Shared}
    (goesOn : WorkerStep manager s.tables (s.workers w) events next tables) :
    Counted manager
      { s with
        tables
        workers := Function.update s.workers w next
        history := events ++ s.history } := by
  have holds (job : QueueJob) (held : (s.workers w).held? = some job) : s.held? w = some job := held
  have account (job : QueueJob) (held : (s.workers w).held? = some job) :=
    counted.held w job held
  have running (job : QueueJob) (held : (s.workers w).held? = some job) :=
    (orderly.held w job held).2
  have mem (job : QueueJob) (held : (s.workers w).held? = some job) :
      job ∈ s.tables.queue.jobs := (orderly.held w job held).1
  have noted := counted.postponing w
  have beside := orderly.beside w
  generalize at_ : s.workers w = phase at *
  cases goesOn with
  | readClock now =>
      exact counted.of_quietWork rfl rfl rfl (by rw [at_]; rfl) (by rw [at_]; rfl) (by simp)
  | @claim now job queue claimed =>
      obtain ⟨old, replaces, rfl, pending, due, _⟩ := claimed ▸ orderly.numbered.claimNext now
      exact counted.of_claim orderly replaces pending due rfl rfl
  | @findNone now queue claimed =>
      obtain ⟨rfl, _⟩ := claimed ▸ orderly.numbered.claimNext now
      exact counted.of_quietWork rfl rfl rfl (by rw [at_]; rfl) (by rw [at_]; rfl) (by simp)
  | @runOn _ job q a rest answered =>
      exact counted.of_quietWork (answered.queue_eq (beside job _ rfl).1) rfl rfl
        (by rw [at_]; rfl) (by rw [at_]; rfl) (by simp)
  | @returned job outcome =>
      exact counted.of_note orderly (holds job rfl) rfl (by simp) rfl rfl rfl rfl
        ((account job rfl).returned (running job rfl) outcome) (by simp)
  | @complete job given result queue now stored =>
      obtain ⟨_, replaces⟩ := orderly.numbered.replaces_of_change (mem job rfl) stored
      exact counted.of_giveBack orderly (holds job rfl) replaces rfl rfl rfl
        ((account job rfl).complete (running job rfl) now)
  | @fail job e result queue now last stored =>
      obtain ⟨_, replaces⟩ := orderly.numbered.replaces_of_change (mem job rfl) stored
      exact counted.of_giveBack orderly (holds job rfl) replaces rfl rfl rfl
        ((account job rfl).fail (running job rfl) last now e.message)
  | @postpone job e reading left =>
      have account := (account job rfl).postponed (running job rfl) reading
      refine counted.of_note orderly (holds job rfl) rfl (by simp) rfl rfl rfl rfl account ?_
      rintro _ _ ⟨⟩
      exact ⟨by simp [lastPostponement?, QueueEvent.postponementOf?], left⟩
  | @reschedule job e reading result queue now stored =>
      obtain ⟨_, replaces⟩ := orderly.numbered.replaces_of_change (mem job rfl) stored
      obtain ⟨noted, left⟩ := noted job e reading rfl
      exact counted.of_giveBack orderly (holds job rfl) replaces rfl rfl rfl
        ((account job rfl).reschedule (running job rfl) left noted now e.message)

theorem step (counted : s.Counted manager) (orderly : s.Orderly)
    (step : Step manager bystanders s t) : t.Counted manager := by
  cases step with
  | work w goesOn => exact counted.work orderly goesOn
  | @workAgain w result ended =>
      exact counted.of_quietWork rfl rfl rfl (by rw [ended]; rfl) (by rw [ended]; rfl) (by simp)
  | enqueue c goesOn fresh =>
      have quiet (made : List ExecutionId) (callers : Nat → EnqueuePhase) :
          Counted manager { s with made, callers } :=
        counted.of_quiet rfl rfl rfl (fun _ => rfl) (fun _ => rfl) fun _ _ _ _ => id
      rcases goesOn.effect with ⟨rfl, _⟩ | ⟨rfl, _⟩ | ⟨request, id, now, _, _, _, rfl⟩
      · exact quiet _ _
      · exact quiet _ _
      · exact counted.of_push rfl rfl rfl
  | others now call allowed =>
      exact counted.of_quiet rfl rfl rfl (fun _ => rfl) (fun _ => rfl) fun _ _ _ _ => id

end Counted

/-- A job that is completed or has failed is never touched again. -/
theorem Orderly.mem_of_final (orderly : s.Orderly) {row : QueueJob} (rowMem : row ∈ s.jobs)
    (final : row.status = .completed ∨ row.status = .failed) (step : Step manager bystanders s t) :
    row ∈ t.jobs := by
  have differs {job : QueueJob} (jobMem : job ∈ s.jobs)
      (status : job.status = .pending ∨ job.status = .running) : row.id ≠ job.id := by
    intro sameId
    obtain rfl := orderly.numbered.job_unique rowMem jobMem sameId
    rcases final with final | final <;> simp [final] at status
  cases step with
  | work w goesOn =>
      rcases orderly.effect goesOn with
        ⟨queue, _⟩ | ⟨now, job, _, pending, replaces, _⟩ | ⟨job, new, holds, replaces, _, _, _, _⟩
      · rw [jobs, queue]
        exact rowMem
      · exact (replaces.mem_iff orderly.numbered).mpr
          (.inr ⟨rowMem, differs replaces.old_mem (.inl pending)⟩)
      · exact (replaces.mem_iff orderly.numbered).mpr
          (.inr ⟨rowMem, differs replaces.old_mem (.inr (orderly.held w job holds).2)⟩)
  | workAgain w ended => exact rowMem
  | enqueue c goesOn fresh =>
      rcases goesOn.effect with ⟨rfl, _⟩ | ⟨rfl, _⟩ | ⟨request, id, now, _, _, _, rfl⟩
      · exact rowMem
      · exact rowMem
      · exact mem_push.mpr (.inl rowMem)
  | others now call allowed => exact rowMem

theorem Reachable.mem_of_final (reachable : Reachable manager bystanders s) {row : QueueJob}
    (rowMem : row ∈ s.jobs) (final : row.status = .completed ∨ row.status = .failed)
    (later : Later manager bystanders s t) : row ∈ t.jobs := by
  induction later with
  | refl => exact rowMem
  | tail before step ih => exact (reachable.later before).orderly.mem_of_final ih final step

theorem Reachable.counted (reachable : Reachable manager bystanders s) : s.Counted manager := by
  induction reachable with
  | initial initial => exact .of_initial initial
  | step reachable step counted => exact counted.step reachable.orderly step

/-- What the row of a job says of its runs, wherever its account is kept. -/
theorem Reachable.accounted (reachable : Reachable manager bystanders s) {row : QueueJob}
    (rowMem : row ∈ s.jobs) :
    (∃ w, s.held? w = some row ∧ row.status = .running ∧
        Accounted manager.config s.history row (s.workers w).unrecorded) ∨
      ((∀ w, s.held? w ≠ some row) ∧ row.status ≠ .running ∧
        Accounted manager.config s.history row 0) := by
  by_cases running : row.status = .running
  · obtain ⟨w, holds⟩ := reachable.orderly.holder row rowMem running
    exact .inl ⟨w, holds, running, reachable.counted.held w row holds⟩
  · have idle (w : Nat) : s.held? w ≠ some row := fun holds =>
      running (reachable.orderly.held w row holds).2
    exact .inr ⟨idle, running, reachable.counted.resting row rowMem running⟩

/-- What holds of the attempts of a job.  Its failed runs are counted, except that
the worker which holds it may still have to record the last of them; one more run
has been started if it is completed or held. -/
structure RunsCounted (manager : QueueManager) (bystanders : Bystanders) (s : QueueSystem)
    (row : QueueJob) : Prop where
  positive : 1 ≤ row.maxAttempts
  failed : (∀ w, s.held? w ≠ some row) → failedRuns s.history row.id = row.attempts
  failedInHand : ∀ w, s.held? w = some row →
    failedRuns s.history row.id = row.attempts + (s.workers w).unrecorded
  startedOnceMore : (row.status = .completed ∨ ∃ w, s.held? w = some row) →
    startedRuns s.history row.id = row.attempts + 1
  started : ¬ (row.status = .completed ∨ ∃ w, s.held? w = some row) →
    startedRuns s.history row.id = row.attempts
  left : row.status ≠ .failed → row.attempts < row.maxAttempts
  usedUp : row.status = .failed → row.attempts = row.maxAttempts
  lastError : row.lastError.isSome = true ↔ 0 < row.attempts
  final : row.status = .completed ∨ row.status = .failed →
    ∀ t, Later manager bystanders s t →
      row ∈ t.jobs ∧ startedRuns t.history row.id = startedRuns s.history row.id
  bounded : startedRuns s.history row.id ≤ row.maxAttempts

theorem Reachable.runsCounted (reachable : Reachable manager bystanders s) {row : QueueJob}
    (rowMem : row ∈ s.jobs) : RunsCounted manager bystanders s row := by
  have final (status : row.status = .completed ∨ row.status = .failed) (t : QueueSystem)
      (later : Later manager bystanders s t) :
      row ∈ t.jobs ∧ startedRuns t.history row.id = startedRuns s.history row.id := by
    have still := reachable.mem_of_final rowMem status later
    have resting : row.status ≠ .running := by
      rcases status with status | status <;> simp [status]
    have before := (reachable.counted.resting row rowMem resting).started
    have after := ((reachable.later later).counted.resting row still resting).started
    exact ⟨still, after.trans before.symm⟩
  rcases reachable.accounted rowMem with ⟨w, holds, running, account⟩ | ⟨idle, resting, account⟩
  · have started : startedRuns s.history row.id = row.attempts + 1 := by
      simp [account.started, running]
    have left := account.within (by simp [running])
    exact {
      positive := account.positive
      failed := fun idle => absurd holds (idle w)
      failedInHand := by
        intro v holdsToo
        obtain rfl := reachable.orderly.alone v w row holdsToo holds
        exact account.failed
      startedOnceMore := fun _ => started
      started := fun neither => absurd (.inr ⟨w, holds⟩) neither
      left := account.within
      usedUp := account.usedUp
      lastError := account.lastError
      final := final
      bounded := by omega }
  · have startedOnceMore (completed : row.status = .completed) :
        startedRuns s.history row.id = row.attempts + 1 := by
      simp [account.started, completed]
    have started (incomplete : row.status ≠ .completed) :
        startedRuns s.history row.id = row.attempts := by
      simp [account.started, incomplete, resting]
    exact {
      positive := account.positive
      failed := fun _ => account.failed
      failedInHand := fun w holds => absurd holds (idle w)
      startedOnceMore := by
        rintro (completed | ⟨w, holds⟩)
        · exact startedOnceMore completed
        · exact absurd holds (idle w)
      started := fun neither => started fun completed => neither (.inl completed)
      left := account.within
      usedUp := account.usedUp
      lastError := account.lastError
      final := final
      bounded := by
        by_cases completed : row.status = .completed
        · have left := account.within (by simp [completed])
          rw [startedOnceMore completed]
          omega
        · rw [started completed]
          by_cases failed : row.status = .failed
          · exact Nat.le_of_eq (account.usedUp failed)
          · exact Nat.le_of_lt (account.within failed) }

/-- Every job has at least one attempt, and its runs are counted.  It has attempts
left unless it has failed, and then they are used up; an error is noted as soon as
there was one.  Once completed or failed, it stays as it is and is not run again.
So no job is run more often than it was given attempts, counting one more stays
within bounds, and a claim after a failure waits for the delay that the number of
failures asks for.  With a queue, the calls that do all this are the manager's
`processNext` and `enqueue`. -/
theorem Reachable.attempts_exact (reachable : Reachable manager bystanders s) :
    (∀ row ∈ s.jobs, RunsCounted manager bystanders s row) ∧
    (∀ w job, s.held? w = some job → job.attempts + 1 ≤ job.maxAttempts ∧
      (manager.config.maxAttempts < 2 ^ 32 → job.attempts + 1 < 2 ^ 32)) ∧
    Spaced s.history ∧ (manager.enabled = true → s.FollowsPrograms manager) := by
  refine ⟨fun row rowMem => reachable.runsCounted rowMem, ?_, reachable.counted.spaced,
    fun enabled => followsPrograms enabled s⟩
  intro w job holds
  have account := reachable.counted.held w job holds
  have running := (reachable.orderly.held w job holds).2
  have left := account.within (by simp [running])
  have maxAttempts := account.maxAttempts
  exact ⟨left, fun word => by omega⟩

end EventFlow.QueueSystem

/-! ## A job that is put off -/

namespace EventFlow.FirstJob

/-- The store after the flow has been switched off. -/
def withdrawn : Store :=
  (store.answer (.ofMilliseconds 3) (.updateFlow (flow.setEnabled false (.ofMilliseconds 3)))).2

/-- The job after a run that found the flow switched off. -/
def retried : QueueJob :=
  (job.claim (.ofMilliseconds 2)).reschedule (.ofMilliseconds 5) 1
    (EngineError.flowDisabled ⟨1⟩).message ((Instant.ofMilliseconds 4).plus (QueueJob.retryDelay 1))

/-- The job has been put off after its first run. -/
def putOff : QueueSystem where
  tables := ⟨withdrawn, ⟨1, [retried]⟩⟩
  made := [⟨"run"⟩]
  workers := Function.update claimed.workers 0 (.ended (.ok true))
  callers := pushed.callers
  history := [.postponed ⟨1⟩ 1 (.ofMilliseconds 4), .returned ⟨1⟩ (.error (.flowDisabled ⟨1⟩)),
    .claimed ⟨1⟩ (.ofMilliseconds 2)]

theorem putOff_reachable {bystanders : Bystanders} (fresh : bystanders.mayName store ⟨"run"⟩)
    (allowed : bystanders.mayChange [⟨"run"⟩] store withdrawn) :
    putOff.Reachable manager bystanders := by
  have changed := (claimed_reachable fresh).step (.others (.ofMilliseconds 3)
    (.updateFlow (flow.setEnabled false (.ofMilliseconds 3))) allowed)
  have run := changed.step
    (.work 0 (.runOn (q := .store (.getFlow ⟨1⟩)) ⟨.ofMilliseconds 3, rfl, rfl⟩))
  have returned := run.step (.work 0 .returned)
  have postponed := returned.step (.work 0 (.postpone (.ofMilliseconds 4) (by decide)))
  have done := postponed.step (.work 0 (.reschedule (.ofMilliseconds 5) rfl))
  simp only [Function.update_idem] at done
  exact done

theorem putOff_idle (w : Nat) : putOff.held? w = none := by
  by_cases first : w = 0
  · simp [QueueSystem.held?, putOff, WorkerPhase.held?, first]
  · simp [QueueSystem.held?, putOff, claimed, WorkerPhase.held?, first]

end EventFlow.FirstJob

/-- The failure of the first run is counted and noted. -/
theorem EventFlow.QueueSystem.attempts_exact_of_put_off :
    FirstJob.putOff.Reachable FirstJob.manager .any ∧
      failedRuns FirstJob.putOff.history ⟨1⟩ = 1 ∧ startedRuns FirstJob.putOff.history ⟨1⟩ = 1 ∧
      FirstJob.retried.lastError.isSome = true := by
  have reachable : FirstJob.putOff.Reachable FirstJob.manager .any :=
    FirstJob.putOff_reachable trivial trivial
  have counted := reachable.attempts_exact.1 FirstJob.retried (List.mem_singleton_self _)
  have idle (w : Nat) : FirstJob.putOff.held? w ≠ some FirstJob.retried := by
    simp [FirstJob.putOff_idle]
  refine ⟨reachable, counted.failed idle, counted.started ?_, counted.lastError.mpr (by decide)⟩
  rintro (completed | ⟨w, holds⟩)
  · cases completed
  · exact idle w holds
