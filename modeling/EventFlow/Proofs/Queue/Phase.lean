import EventFlow.Proofs.Shared
import EventFlow.Queue.Manager

/-!
# The phases of a queue manager's calls

A call that processes a job reads the clock, claims a job, runs it and reports
how it went; a call that queues a request looks up its flow, makes an id for the
execution, reads the clock and pushes a job.  Between any two of these steps
other tasks may go on.  Phases name the places where a call may stand, and their
steps are exactly the steps of the programs.
-/

namespace EventFlow

open Program Shared

/-! ## Processing a job -/

/-- What is noted about the runs of a job: when it was claimed, how its run
ended, and from which reading of the clock its next run was put off after which
failure. -/
inductive QueueEvent where
  | claimed (id : QueueJobId) (now : Instant)
  | returned (id : QueueJobId) (outcome : Except EngineError ExecutionId)
  | postponed (id : QueueJobId) (failures : Nat) (reading : Instant)

/-- Where a worker stands in processing a job.  In `running` the rest of the
job's execution is still to be run. -/
inductive WorkerPhase where
  | starting
  | claiming (now : Instant)
  | running (job : QueueJob) (rest : Routine (Except EngineError ExecutionId))
  | reporting (job : QueueJob) (outcome : Except EngineError ExecutionId)
  | postponing (job : QueueJob) (e : EngineError) (reading : Instant)
  | ended (result : Except QueueError Bool)

namespace WorkerPhase

/-- The job that the worker holds, as it has claimed it. -/
def held? : WorkerPhase → Option QueueJob
  | .running job _ => some job
  | .reporting job _ => some job
  | .postponing job _ _ => some job
  | _ => none

/-- What becomes of the report about a job. -/
def reported : Except QueueError Unit → Except QueueError Bool
  | .ok () => .ok true
  | .error e => .error e

/-- How a job is put off whose run has failed. -/
def postponement (job : QueueJob) (e : EngineError) (reading : Instant) : QueueCall :=
  .reschedule job.id (job.attempts + 1) e.message
    (reading.plus (QueueJob.retryDelay (job.attempts + 1)))

/-- What is left of the call. -/
def routine (manager : QueueManager) : WorkerPhase → Routine (Except QueueError Bool)
  | .starting => manager.processNext
  | .claiming now => do
    match ← Service.queue (.claimNext now) with
    | .error e => return .error e
    | .ok none => return .ok false
    | .ok (some job) => manager.runJob job
  | .running job rest => do
    let outcome ← rest
    return reported (← QueueManager.report job outcome)
  | .reporting job outcome => do
    return reported (← QueueManager.report job outcome)
  | .postponing job e reading => do
    return reported (← Service.queue (postponement job e reading))
  | .ended result => .done result

/-- An execution that is over is about to be reported. -/
def settled : WorkerPhase → WorkerPhase
  | .running job (.done outcome) => .reporting job outcome
  | phase => phase

theorem settled_ne {phase : WorkerPhase} {job : QueueJob}
    {outcome : Except EngineError ExecutionId} : phase.settled ≠ .running job (.done outcome) := by
  unfold settled
  split
  · simp
  · rename_i unsettled
    exact unsettled job outcome

theorem routine_settled (manager : QueueManager) (phase : WorkerPhase) :
    phase.settled.routine manager = phase.routine manager := by
  match phase with
  | .running job (.done outcome) => rfl
  | .running job (.ask q next) => rfl
  | .starting | .claiming _ | .reporting _ _ | .postponing _ _ _ | .ended _ => rfl

theorem settled_settled (phase : WorkerPhase) : phase.settled.settled = phase.settled := by
  match phase with
  | .running job (.done outcome) => rfl
  | .running job (.ask q next) => rfl
  | .starting | .claiming _ | .reporting _ _ | .postponing _ _ _ | .ended _ => rfl

/-- A call that processes a job is over when nothing is left of it. -/
theorem eq_ended_of_routine {manager : QueueManager} (enabled : manager.enabled = true)
    {phase : WorkerPhase} {result : Except QueueError Bool}
    (finished : phase.routine manager = .done result) : phase = .ended result := by
  have asks (job : QueueJob) (outcome : Except EngineError ExecutionId) :
      (reporting job outcome).routine manager ≠ .done result := by
    cases outcome with
    | ok given => rintro ⟨⟩
    | error e =>
        by_cases last : job.maxAttempts ≤ job.attempts + 1
        all_goals
          simp only [routine, QueueManager.report, last]
          rintro ⟨⟩
  cases phase with
  | starting =>
      simp only [routine, QueueManager.processNext, enabled, if_true] at finished
      cases finished
  | claiming | postponing => cases finished
  | running job rest =>
      cases rest with
      | ask q next => cases finished
      | done outcome => exact absurd finished (asks job outcome)
  | reporting job outcome => exact absurd finished (asks job outcome)
  | ended given =>
      cases finished
      rfl

theorem routine_running (manager : QueueManager) (job : QueueJob) :
    (running job (manager.engine.execute (some job.executionId) job.args)).routine manager =
      manager.runJob job := by
  simp only [routine, QueueManager.runJob]
  congr 1
  funext outcome
  congr 1
  funext result
  cases result <;> rfl

end WorkerPhase

/-- A worker goes on by one step. -/
inductive WorkerStep (manager : QueueManager) :
    Shared → WorkerPhase → List QueueEvent → WorkerPhase → Shared → Prop where
  | readClock {s : Shared} (now : Instant) : WorkerStep manager s .starting [] (.claiming now) s
  | claim {s : Shared} {now : Instant} {job : QueueJob} {queue : QueueTable}
      (claimed : s.queue.claimNext now = (some job, queue)) :
      WorkerStep manager s (.claiming now) [.claimed job.id now]
        (.running job (manager.engine.execute (some job.executionId) job.args)) { s with queue }
  | findNone {s : Shared} {now : Instant} {queue : QueueTable}
      (claimed : s.queue.claimNext now = (none, queue)) :
      WorkerStep manager s (.claiming now) [] (.ended (.ok false)) { s with queue }
  | runOn {s t : Shared} {job : QueueJob} {q : ServiceCall} {a : q.Answer}
      {next : q.Answer → Routine (Except EngineError ExecutionId)} (answered : s.Answers q a t) :
      WorkerStep manager s (.running job (.ask q next)) [] (.running job (next a)) t
  | returned {s : Shared} {job : QueueJob} {outcome : Except EngineError ExecutionId} :
      WorkerStep manager s (.running job (.done outcome)) [.returned job.id outcome]
        (.reporting job outcome) s
  | complete {s : Shared} {job : QueueJob} {given : ExecutionId} {result : Except QueueError Unit}
      {queue : QueueTable} (now : Instant)
      (stored : s.queue.answer now (.complete job.id) = (result, queue)) :
      WorkerStep manager s (.reporting job (.ok given)) [] (.ended (WorkerPhase.reported result))
        { s with queue }
  | fail {s : Shared} {job : QueueJob} {e : EngineError} {result : Except QueueError Unit}
      {queue : QueueTable} (now : Instant) (last : job.maxAttempts ≤ job.attempts + 1)
      (stored : s.queue.answer now (.fail job.id (job.attempts + 1) e.message) =
        (result, queue)) :
      WorkerStep manager s (.reporting job (.error e)) [] (.ended (WorkerPhase.reported result))
        { s with queue }
  | postpone {s : Shared} {job : QueueJob} {e : EngineError} (reading : Instant)
      (left : job.attempts + 1 < job.maxAttempts) :
      WorkerStep manager s (.reporting job (.error e))
        [.postponed job.id (job.attempts + 1) reading] (.postponing job e reading) s
  | reschedule {s : Shared} {job : QueueJob} {e : EngineError} {reading : Instant}
      {result : Except QueueError Unit} {queue : QueueTable} (now : Instant)
      (stored : s.queue.answer now (WorkerPhase.postponement job e reading) = (result, queue)) :
      WorkerStep manager s (.postponing job e reading) [] (.ended (WorkerPhase.reported result))
        { s with queue }

/-! ## Queueing a request -/

/-- Where a call stands that queues a request. -/
inductive EnqueuePhase where
  | asked (request : FlowRequest)
  | naming (request : FlowRequest)
  | dating (request : FlowRequest) (id : ExecutionId)
  | pushing (request : FlowRequest) (id : ExecutionId) (now : Instant)
  | ended (result : Except QueueError ExecutionId)

namespace EnqueuePhase

/-- The id that has been made for a job which is not pushed yet. -/
def name? : EnqueuePhase → Option ExecutionId
  | .dating _ id => some id
  | .pushing _ id _ => some id
  | _ => none

/-- Where the call goes on that has looked up the flow of a request. -/
def afterLookUp (request : FlowRequest) : Option Flow → EnqueuePhase
  | none => .ended (.error (.flowNotFound request.flowId))
  | some flow =>
    if flow.enabled then .naming request else .ended (.error (.flowDisabled request.flowId))

/-- The job that is pushed for a request. -/
def jobFor (manager : QueueManager) (request : FlowRequest) (id : ExecutionId) (now : Instant) :
    QueueJob :=
  (QueueJob.create now id request).withMaxAttempts manager.config.maxAttempts

/-- Pushes a job until the queue takes it. -/
def pushed (manager : QueueManager) (job : QueueJob) : Routine (Except QueueError ExecutionId) := do
  match ← EventFlow.retry manager.retry .workersStop (Service.queue (.push job)) with
  | .ok _ => return .ok job.executionId
  | .error e => return .error (QueueManager.pushError e)

theorem name?_afterLookUp (request : FlowRequest) (found : Option Flow) :
    (afterLookUp request found).name? = none := by
  unfold afterLookUp
  split
  · rfl
  · split <;> rfl

/-- What is left of the call. -/
def routine (manager : QueueManager) : EnqueuePhase → Routine (Except QueueError ExecutionId)
  | .asked request => manager.enqueue request
  | .naming request => manager.push request
  | .dating request id => do pushed manager (jobFor manager request id (← Service.now))
  | .pushing request id now => pushed manager (jobFor manager request id now)
  | .ended result => .done result

end EnqueuePhase

/-- A call that queues a request goes on by one step; the list holds the ids that
it makes with it. -/
inductive EnqueueStep (manager : QueueManager) :
    Shared → EnqueuePhase → List ExecutionId → EnqueuePhase → Shared → Prop where
  | lookUp {s : Shared} {request : FlowRequest} :
      EnqueueStep manager s (.asked request) []
        (.afterLookUp request (s.store.getFlow request.flowId)) s
  | name {s : Shared} {request : FlowRequest} {id : ExecutionId} (named : id.isBlank = false) :
      EnqueueStep manager s (.naming request) [id] (.dating request id) s
  | readClock {s : Shared} {request : FlowRequest} {id : ExecutionId} (now : Instant) :
      EnqueueStep manager s (.dating request id) []
        (.pushing request id now) s
  | push {s : Shared} {request : FlowRequest} {id : ExecutionId} {now : Instant} :
      EnqueueStep manager s (.pushing request id now) [] (.ended (.ok id))
        { s with queue := (s.queue.push (EnqueuePhase.jobFor manager request id now)).2 }

/-- What a call that queues a request does to the tables and to the ids: nothing
but to make an id for a job, which is pushed under it later. -/
theorem EnqueueStep.effect {manager : QueueManager} {s t : Shared} {phase next : EnqueuePhase}
    {names : List ExecutionId} (step : EnqueueStep manager s phase names next t) :
    (t = s ∧ names = next.name?.toList ∧ phase.name? = none) ∨
    (t = s ∧ names = [] ∧ next.name? = phase.name?) ∨
    ∃ request id now, phase = .pushing request id now ∧ names = [] ∧ next.name? = none ∧
      t = { s with queue := (s.queue.push (EnqueuePhase.jobFor manager request id now)).2 } := by
  cases step with
  | lookUp => exact .inl ⟨rfl, by simp [EnqueuePhase.name?_afterLookUp], rfl⟩
  | name named => exact .inl ⟨rfl, rfl, rfl⟩
  | readClock now => exact .inr (.inl ⟨rfl, rfl, rfl⟩)
  | @push request id now => exact .inr (.inr ⟨request, id, now, rfl, rfl, rfl, rfl⟩)

/-- The ids that are made are not blank. -/
theorem EnqueueStep.notBlank {manager : QueueManager} {s t : Shared} {phase next : EnqueuePhase}
    {names : List ExecutionId} (step : EnqueueStep manager s phase names next t) :
    ∀ id ∈ names, id.isBlank = false := by
  cases step with
  | name named => simpa using named
  | lookUp | readClock | push => simp

/-! ## Steps and programs -/

section Asking

variable {α : Type} {s t : Shared} {rest : Routine α}

/-- A queue answers an operation at some time. -/
theorem step_queue_iff {call : QueueCall} {f : Except QueueError call.Result → Routine α} :
    Step answering (Service.queue call >>= f) s rest t ↔
      ∃ now result queue, s.queue.answer now call = (result, queue) ∧ rest = f result ∧
        t = { s with queue } := by
  constructor
  · intro step
    cases step with
    | ask answered =>
        obtain ⟨now, rfl, rfl⟩ := answered
        exact ⟨now, _, _, rfl, rfl, rfl⟩
  · rintro ⟨now, result, queue, stored, rfl, rfl⟩
    exact Step.ask (I := service) ⟨now, by rw [stored], by rw [stored]⟩

theorem step_now_iff {f : Instant → Routine α} :
    Step answering (Service.now >>= f) s rest t ↔ ∃ now, rest = f now ∧ t = s := by
  constructor
  · intro step
    cases step with
    | ask answered => exact ⟨_, rfl, answered⟩
  · rintro ⟨now, rfl, rfl⟩
    exact Step.ask (I := service) rfl

theorem step_store_iff {call : StoreCall} {f : Except StoreError call.Result → Routine α} :
    Step answering (Service.store call >>= f) s rest t ↔
      ∃ now, rest = f (s.store.answer now call).1 ∧
        t = { s with store := (s.store.answer now call).2 } := by
  constructor
  · intro step
    cases step with
    | ask answered =>
        obtain ⟨now, rfl, rfl⟩ := answered
        exact ⟨now, rfl, rfl⟩
  · rintro ⟨now, rfl, rfl⟩
    exact Step.ask (I := service) ⟨now, rfl, rfl⟩

end Asking

namespace WorkerStep

variable {manager : QueueManager} {s t : Shared} {phase next : WorkerPhase}
  {events : List QueueEvent}

/-- A worker notes by a step that an execution is over. -/
theorem settles (manager : QueueManager) (phase : WorkerPhase) :
    phase.settled = phase ∨ ∃ events, ∀ s, WorkerStep manager s phase events phase.settled s := by
  match phase with
  | .running job (.done outcome) => exact .inr ⟨_, fun _ => .returned⟩
  | .running job (.ask q next) => exact .inl rfl
  | .starting | .claiming _ | .reporting _ _ | .postponing _ _ _ | .ended _ => exact .inl rfl

/-- A worker that has to note that an execution is over does nothing else first. -/
theorem notes (steps : WorkerStep manager s phase events next t) :
    phase.settled = phase ∨ next = phase.settled ∧ t = s := by
  cases steps with
  | returned => exact .inr ⟨rfl, rfl⟩
  | readClock | claim | findNone | runOn | complete | fail | postpone | reschedule =>
      exact .inl rfl

/-- A step of a worker is a step of its call, unless it only notes that the execution is over. -/
theorem step (enabled : manager.enabled = true) (settled : phase.settled = phase)
    (steps : WorkerStep manager s phase events next t) :
    Step answering (phase.routine manager) s (next.routine manager) t := by
  cases steps with
  | readClock now =>
      simp only [WorkerPhase.routine, QueueManager.processNext, enabled, if_true]
      exact step_now_iff.mpr ⟨now, rfl, rfl⟩
  | @claim now job queue claimed =>
      rw [WorkerPhase.routine_running]
      exact step_queue_iff.mpr
        ⟨now, .ok (some job), queue, by simp [QueueTable.answer, claimed], rfl, rfl⟩
  | @findNone now queue claimed =>
      exact step_queue_iff.mpr
        ⟨now, .ok none, queue, by simp [QueueTable.answer, claimed], rfl, rfl⟩
  | runOn answered => exact Step.ask (I := service) answered
  | returned => cases settled
  | complete now stored => exact step_queue_iff.mpr ⟨now, _, _, stored, rfl, rfl⟩
  | fail now last stored =>
      simp only [WorkerPhase.routine, QueueManager.report, last]
      exact step_queue_iff.mpr ⟨now, _, _, stored, rfl, rfl⟩
  | postpone reading left =>
      simp only [WorkerPhase.routine, QueueManager.report, Nat.not_le.mpr left]
      exact step_now_iff.mpr ⟨reading, rfl, rfl⟩
  | reschedule now stored => exact step_queue_iff.mpr ⟨now, _, _, stored, rfl, rfl⟩

/-- Every step of a call is a step of the worker. -/
theorem exists_of_step (enabled : manager.enabled = true) {rest : Routine (Except QueueError Bool)}
    (step : Step answering (phase.routine manager) s rest t) :
    ∃ events next, WorkerStep manager s phase.settled events next t ∧
      next.routine manager = rest := by
  rw [← phase.routine_settled] at step
  match settled : phase.settled with
  | .starting =>
      simp only [settled, WorkerPhase.routine, QueueManager.processNext, enabled, if_true] at step
      obtain ⟨now, rfl, rfl⟩ := step_now_iff.mp step
      exact ⟨_, _, .readClock now, rfl⟩
  | .claiming now =>
      rw [settled] at step
      obtain ⟨at_, result, queue, stored, rfl, rfl⟩ := step_queue_iff.mp step
      cases claimed : s.queue.claimNext now with
      | mk found after =>
          simp only [QueueTable.answer, claimed, Prod.mk.injEq] at stored
          obtain ⟨rfl, rfl⟩ := stored
          cases found with
          | none => exact ⟨_, _, .findNone claimed, rfl⟩
          | some job => exact ⟨_, _, .claim claimed, WorkerPhase.routine_running manager job⟩
  | .running job (.ask q next) =>
      rw [settled] at step
      cases step with
      | ask answered => exact ⟨_, _, .runOn answered, rfl⟩
  | .running job (.done outcome) => exact absurd settled WorkerPhase.settled_ne
  | .reporting job (.ok given) =>
      rw [settled] at step
      obtain ⟨now, result, queue, stored, rfl, rfl⟩ := step_queue_iff.mp step
      exact ⟨_, _, .complete now stored, rfl⟩
  | .reporting job (.error e) =>
      rw [settled] at step
      by_cases last : job.maxAttempts ≤ job.attempts + 1
      · simp only [WorkerPhase.routine, QueueManager.report, last] at step
        obtain ⟨now, result, queue, stored, rfl, rfl⟩ := step_queue_iff.mp step
        exact ⟨_, _, .fail now last stored, rfl⟩
      · simp only [WorkerPhase.routine, QueueManager.report, last] at step
        obtain ⟨reading, rfl, rfl⟩ := step_now_iff.mp step
        exact ⟨_, _, .postpone reading (Nat.not_le.mp last), rfl⟩
  | .postponing job e reading =>
      rw [settled] at step
      obtain ⟨at_, result, queue, stored, rfl, rfl⟩ := step_queue_iff.mp step
      exact ⟨_, _, .reschedule at_ stored, rfl⟩
  | .ended result =>
      rw [settled] at step
      cases step

/-- The steps of a call that processes a job are those of the worker, once it has noted what
is over. -/
theorem step_iff (enabled : manager.enabled = true) {rest : Routine (Except QueueError Bool)} :
    Step answering (phase.routine manager) s rest t ↔
      ∃ events next, WorkerStep manager s phase.settled events next t ∧
        next.routine manager = rest := by
  constructor
  · exact exists_of_step enabled
  · rintro ⟨events, next, steps, rfl⟩
    rw [← phase.routine_settled]
    exact steps.step enabled phase.settled_settled

end WorkerStep

namespace EnqueueStep

variable {manager : QueueManager} {s t : Shared} {phase : EnqueuePhase}

theorem step_enqueue_iff (enabled : manager.enabled = true) {request : FlowRequest}
    {rest : Routine (Except QueueError ExecutionId)} :
    Step answering (manager.enqueue request) s rest t ↔
      rest = (EnqueuePhase.afterLookUp request (s.store.getFlow request.flowId)).routine manager ∧
        t = s := by
  simp only [QueueManager.enqueue, enabled, if_true]
  rw [step_store_iff]
  simp only [Store.answer, EnqueuePhase.afterLookUp]
  have : Nonempty Instant := ⟨.ofMilliseconds 0⟩
  cases s.store.getFlow request.flowId with
  | none => simp [EnqueuePhase.routine]
  | some flow =>
      by_cases flowEnabled : flow.enabled
      · simp [flowEnabled, EnqueuePhase.routine]
      · simp [flowEnabled, EnqueuePhase.routine]

/-- A push is never refused, so that it is not tried again. -/
theorem step_push_iff {job : QueueJob} {rest : Routine (Except QueueError ExecutionId)} :
    Step answering (EnqueuePhase.pushed manager job) s rest t ↔
      rest = .done (.ok job.executionId) ∧ t = { s with queue := (s.queue.push job).2 } := by
  simp only [EnqueuePhase.pushed, EventFlow.retry]
  rw [retryFrom.eq_def, bind_assoc, step_queue_iff]
  constructor
  · rintro ⟨now, result, queue, stored, rfl, rfl⟩
    obtain ⟨rfl, rfl⟩ := Prod.mk.inj stored
    exact ⟨rfl, rfl⟩
  · rintro ⟨rfl, rfl⟩
    exact ⟨.ofMilliseconds 0, .ok (s.queue.push job).1, _, rfl, rfl, rfl⟩

/-- The steps of a call that queues a request are those of its phases. -/
theorem step_iff (enabled : manager.enabled = true)
    {rest : Routine (Except QueueError ExecutionId)} :
    Step answering (phase.routine manager) s rest t ↔
      ∃ names next, EnqueueStep manager s phase names next t ∧ next.routine manager = rest := by
  constructor
  · intro step
    cases phase with
    | asked request =>
        obtain ⟨rfl, rfl⟩ := (step_enqueue_iff enabled).mp step
        exact ⟨_, _, .lookUp, rfl⟩
    | naming request =>
        cases step with
        | ask answered =>
            obtain ⟨named, rfl⟩ := answered
            exact ⟨_, _, .name named, rfl⟩
    | dating request id =>
        obtain ⟨now, rfl, rfl⟩ := step_now_iff.mp step
        exact ⟨_, _, .readClock now, rfl⟩
    | pushing request id now =>
        obtain ⟨rfl, rfl⟩ := step_push_iff.mp step
        exact ⟨_, _, .push, rfl⟩
    | ended result => cases step
  · rintro ⟨names, next, steps, rfl⟩
    cases steps with
    | lookUp => exact (step_enqueue_iff enabled).mpr ⟨rfl, rfl⟩
    | name named => exact Step.ask (I := service) ⟨named, rfl⟩
    | readClock now => exact step_now_iff.mpr ⟨now, rfl, rfl⟩
    | push => exact step_push_iff.mpr ⟨rfl, rfl⟩

end EnqueueStep

end EventFlow
