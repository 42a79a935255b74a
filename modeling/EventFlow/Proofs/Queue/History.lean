import EventFlow.Proofs.Queue.Order

/-!
# The history of a job

How often a job has been run, how many of its runs have failed, and when its
next run was put off, as the history of a system tells it; and how this agrees
with what the row of the job says.
-/

namespace EventFlow

/-! ## Events -/

namespace QueueEvent

/-- The job that the event is about. -/
def job : QueueEvent → QueueJobId
  | .claimed id _ => id
  | .returned id _ => id
  | .postponed id _ _ => id

/-- Has a run of the job been started? -/
def isStartOf (id : QueueJobId) : QueueEvent → Bool
  | .claimed job _ => job == id
  | _ => false

/-- Has a run of the job returned an error? -/
def isFailureOf (id : QueueJobId) : QueueEvent → Bool
  | .returned job (.error _) => job == id
  | _ => false

/-- After how many failures the next run of the job was put off, and from when. -/
def postponementOf? (id : QueueJobId) : QueueEvent → Option (Nat × Instant)
  | .postponed job failures reading => if job = id then some (failures, reading) else none
  | _ => none

variable {id : QueueJobId} {event : QueueEvent}

theorem isStartOf_of_ne (other : event.job ≠ id) : event.isStartOf id = false := by
  cases event with
  | claimed => exact beq_eq_false_iff_ne.mpr other
  | returned | postponed => rfl

theorem isFailureOf_of_ne (other : event.job ≠ id) : event.isFailureOf id = false := by
  cases event with
  | returned job outcome =>
      cases outcome with
      | ok => rfl
      | error e => exact beq_eq_false_iff_ne.mpr other
  | claimed | postponed => rfl

theorem postponementOf?_of_ne (other : event.job ≠ id) : event.postponementOf? id = none := by
  cases event with
  | postponed => exact if_neg other
  | claimed | returned => rfl

end QueueEvent

/-- How many runs of a job have been started. -/
def startedRuns (history : List QueueEvent) (id : QueueJobId) : Nat :=
  history.countP (QueueEvent.isStartOf id)

/-- How many runs of a job have returned an error. -/
def failedRuns (history : List QueueEvent) (id : QueueJobId) : Nat :=
  history.countP (QueueEvent.isFailureOf id)

/-- When the next run of a job was last put off, and after how many failures. -/
def lastPostponement? (history : List QueueEvent) (id : QueueJobId) : Option (Nat × Instant) :=
  history.findSome? (QueueEvent.postponementOf? id)

section Others

variable {events : List QueueEvent} (history : List QueueEvent) {id : QueueJobId}

/-- What happens to other jobs does not count. -/
theorem startedRuns_append (others : ∀ event ∈ events, event.job ≠ id) :
    startedRuns (events ++ history) id = startedRuns history id := by
  rw [startedRuns, List.countP_append, List.countP_eq_zero.mpr, Nat.zero_add, startedRuns]
  intro event eventMem
  simp [QueueEvent.isStartOf_of_ne (others event eventMem)]

theorem failedRuns_append (others : ∀ event ∈ events, event.job ≠ id) :
    failedRuns (events ++ history) id = failedRuns history id := by
  rw [failedRuns, List.countP_append, List.countP_eq_zero.mpr, Nat.zero_add, failedRuns]
  intro event eventMem
  simp [QueueEvent.isFailureOf_of_ne (others event eventMem)]

theorem lastPostponement?_append (others : ∀ event ∈ events, event.job ≠ id) :
    lastPostponement? (events ++ history) id = lastPostponement? history id := by
  rw [lastPostponement?, List.findSome?_append, List.findSome?_eq_none_iff.mpr, Option.none_or,
    lastPostponement?]
  intro event eventMem
  exact QueueEvent.postponementOf?_of_ne (others event eventMem)

end Others

/-! ## Accounts -/

/-- The failures of a job's runs that the worker in hand of it has yet to record. -/
def WorkerPhase.unrecorded : WorkerPhase → Nat
  | .reporting _ (.error _) => 1
  | .postponing _ _ _ => 1
  | _ => 0

/-- The row of a job agrees with the history; the given number of its failures is
still to be recorded. -/
structure Accounted (config : QueueConfig) (history : List QueueEvent) (row : QueueJob)
    (unrecorded : Nat) : Prop where
  maxAttempts : row.maxAttempts = max config.maxAttempts 1
  failed : failedRuns history row.id = row.attempts + unrecorded
  started : startedRuns history row.id =
    row.attempts + if row.status = .completed ∨ row.status = .running then 1 else 0
  within : row.status ≠ .failed → row.attempts < row.maxAttempts
  usedUp : row.status = .failed → row.attempts = row.maxAttempts
  lastError : row.lastError.isSome = true ↔ 0 < row.attempts
  waits : row.status = .pending → 0 < row.attempts →
    ∃ reading, lastPostponement? history row.id = some (row.attempts, reading) ∧
      row.runAt = reading.plus (QueueJob.retryDelay row.attempts)

namespace Accounted

variable {config : QueueConfig} {events history : List QueueEvent} {row : QueueJob} {n : Nat}

theorem positive (accounted : Accounted config history row n) : 1 ≤ row.maxAttempts := by
  rw [accounted.maxAttempts]
  exact Nat.le_max_right _ _

theorem append (accounted : Accounted config history row n)
    (others : ∀ event ∈ events, event.job ≠ row.id) :
    Accounted config (events ++ history) row n where
  maxAttempts := accounted.maxAttempts
  failed := (failedRuns_append history others).trans accounted.failed
  started := (startedRuns_append history others).trans accounted.started
  within := accounted.within
  usedUp := accounted.usedUp
  lastError := accounted.lastError
  waits := by
    rw [lastPostponement?_append history others]
    exact accounted.waits

/-- A job that nothing has happened to yet. -/
theorem of_new (maxAttempts : row.maxAttempts = max config.maxAttempts 1)
    (pending : row.status = .pending) (attempts : row.attempts = 0) (noError : row.lastError = none)
    (others : ∀ event ∈ history, event.job ≠ row.id) : Accounted config history row 0 where
  maxAttempts := maxAttempts
  failed := by
    have noRun := failedRuns_append [] others
    rw [List.append_nil] at noRun
    rw [noRun, attempts]
    rfl
  started := by
    have noRun := startedRuns_append [] others
    rw [List.append_nil] at noRun
    rw [noRun, attempts, pending]
    rfl
  within _ := by omega
  usedUp failed := by simp [pending] at failed
  lastError := by simp [noError, attempts]
  waits _ failed := by omega

/-- A job is claimed. -/
theorem claim (accounted : Accounted config history row 0) (pending : row.status = .pending)
    (now : Instant) : Accounted config (.claimed row.id now :: history) (row.claim now) 0 where
  maxAttempts := accounted.maxAttempts
  failed := accounted.failed
  started := by
    have before : startedRuns history row.id = row.attempts := by simp [accounted.started, pending]
    have counted : startedRuns (.claimed row.id now :: history) row.id =
        startedRuns history row.id + 1 :=
      List.countP_cons_of_pos (by simp [QueueEvent.isStartOf])
    simp only [QueueJob.claim, counted, before, or_true, if_true]
  within _ := accounted.within (by simp [pending])
  usedUp failed := by simp [QueueJob.claim] at failed
  lastError := accounted.lastError
  waits status := by simp [QueueJob.claim] at status

/-- The run of a job is over. -/
theorem returned (accounted : Accounted config history row 0) (running : row.status = .running)
    (outcome : Except EngineError ExecutionId) :
    Accounted config (.returned row.id outcome :: history) row
      (WorkerPhase.reporting row outcome).unrecorded where
  maxAttempts := accounted.maxAttempts
  failed := by
    have before : failedRuns history row.id = row.attempts := accounted.failed
    rw [← before]
    cases outcome with
    | ok given => rfl
    | error e => exact List.countP_cons_of_pos (by simp [QueueEvent.isFailureOf])
  started := accounted.started
  within := accounted.within
  usedUp := accounted.usedUp
  lastError := accounted.lastError
  waits pending := by simp [running] at pending

/-- A job has been completed. -/
theorem complete (accounted : Accounted config history row 0) (running : row.status = .running)
    (now : Instant) : Accounted config history (row.complete now) 0 where
  maxAttempts := accounted.maxAttempts
  failed := accounted.failed
  started := by simpa [QueueJob.complete, running] using accounted.started
  within _ := accounted.within (by simp [running])
  usedUp failed := by simp [QueueJob.complete] at failed
  lastError := accounted.lastError
  waits pending := by simp [QueueJob.complete] at pending

/-- The last run of a job has failed. -/
theorem fail (accounted : Accounted config history row 1) (running : row.status = .running)
    (last : row.maxAttempts ≤ row.attempts + 1) (now : Instant) (error : String) :
    Accounted config history (row.fail now (row.attempts + 1) error) 0 where
  maxAttempts := accounted.maxAttempts
  failed := accounted.failed
  started := by simpa [QueueJob.fail, running] using accounted.started
  within notFailed := by simp [QueueJob.fail] at notFailed
  usedUp _ := by
    have within := accounted.within (by simp [running])
    simp only [QueueJob.fail]
    omega
  lastError := by simp [QueueJob.fail]
  waits pending := by simp [QueueJob.fail] at pending

/-- A failed run of a job is to be repeated later. -/
theorem postponed (accounted : Accounted config history row 1) (running : row.status = .running)
    (reading : Instant) :
    Accounted config (.postponed row.id (row.attempts + 1) reading :: history) row 1 where
  maxAttempts := accounted.maxAttempts
  failed := accounted.failed
  started := accounted.started
  within := accounted.within
  usedUp := accounted.usedUp
  lastError := accounted.lastError
  waits pending := by simp [running] at pending

/-- A job is pending again. -/
theorem reschedule (accounted : Accounted config history row 1) (running : row.status = .running)
    (left : row.attempts + 1 < row.maxAttempts) {reading : Instant}
    (noted : lastPostponement? history row.id = some (row.attempts + 1, reading)) (now : Instant)
    (error : String) :
    Accounted config history (row.reschedule now (row.attempts + 1) error
      (reading.plus (QueueJob.retryDelay (row.attempts + 1)))) 0 where
  maxAttempts := accounted.maxAttempts
  failed := accounted.failed
  started := by simpa [QueueJob.reschedule, running] using accounted.started
  within _ := left
  usedUp failed := by simp [QueueJob.reschedule] at failed
  lastError := by simp [QueueJob.reschedule]
  waits _ _ := ⟨reading, noted, rfl⟩

end Accounted

end EventFlow
