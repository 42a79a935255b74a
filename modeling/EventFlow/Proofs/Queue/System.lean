import EventFlow.Proofs.Engine.Questions
import EventFlow.Proofs.Queue.Phase
import EventFlow.Proofs.Queue.Table
import EventFlow.Rule.Dev
import Mathlib.Logic.Function.Basic

/-!
# A queue manager at work

Any number of workers process jobs and any number of calls queue requests, in
any order of their steps; between them other tasks use the store.  What these
others may do is a parameter: nothing has to be known of them as long as only
the queue is looked at.
-/

namespace EventFlow

open QueueTable

/-! ## Systems -/

/-- What may happen beside a queue manager: how others may change the store when
some ids have been made for queued executions, and which ids may be made next. -/
structure Bystanders where
  mayChange : List ExecutionId → Store → Store → Prop
  mayName : Store → ExecutionId → Prop

/-- A queue manager with all of its calls: the tables, the ids that have been made
for queued executions, where each worker and each call stands that queues a
request, and what has been noted, the latest first. -/
structure QueueSystem where
  tables : Shared
  made : List ExecutionId
  workers : Nat → WorkerPhase
  callers : Nat → EnqueuePhase
  history : List QueueEvent

/-- Others that do as they like. -/
def Bystanders.any : Bystanders where
  mayChange _ _ _ := True
  mayName _ _ := True

namespace QueueSystem

/-- The jobs of the queue. -/
def jobs (s : QueueSystem) : List QueueJob := s.tables.queue.jobs

/-- The job that a worker holds. -/
def held? (s : QueueSystem) (w : Nat) : Option QueueJob := (s.workers w).held?

/-- In the beginning the queue is empty, every worker starts, and every caller has
a request. -/
structure Initial (s : QueueSystem) : Prop where
  store : s.tables.store.Reachable
  queue : s.tables.queue = .empty
  made : s.made = []
  workers : ∀ w, s.workers w = .starting
  callers : ∀ c, ∃ request, s.callers c = .asked request
  history : s.history = []

/-- One step of a worker, of a call that queues a request, or of the others.  A
worker that has ended a call begins the next one. -/
inductive Step (manager : QueueManager) (bystanders : Bystanders) :
    QueueSystem → QueueSystem → Prop where
  | work {s : QueueSystem} (w : Nat) {events : List QueueEvent} {next : WorkerPhase}
      {tables : Shared} (goesOn : WorkerStep manager s.tables (s.workers w) events next tables) :
      Step manager bystanders s
        { s with
          tables
          workers := Function.update s.workers w next
          history := events ++ s.history }
  | workAgain {s : QueueSystem} (w : Nat) {result : Except QueueError Bool}
      (ended : s.workers w = .ended result) :
      Step manager bystanders s { s with workers := Function.update s.workers w .starting }
  | enqueue {s : QueueSystem} (c : Nat) {names : List ExecutionId} {next : EnqueuePhase}
      {tables : Shared} (goesOn : EnqueueStep manager s.tables (s.callers c) names next tables)
      (fresh : ∀ id ∈ names, id ∉ s.made ∧ bystanders.mayName s.tables.store id) :
      Step manager bystanders s
        { s with
          tables
          made := names ++ s.made
          callers := Function.update s.callers c next }
  | others {s : QueueSystem} (now : Instant) (call : StoreCall)
      (allowed : bystanders.mayChange s.made s.tables.store (s.tables.store.answer now call).2) :
      Step manager bystanders s
        { s with tables := { s.tables with store := (s.tables.store.answer now call).2 } }

/-- The states that a system comes to. -/
inductive Reachable (manager : QueueManager) (bystanders : Bystanders) : QueueSystem → Prop where
  | initial {s : QueueSystem} (initial : Initial s) : Reachable manager bystanders s
  | step {s t : QueueSystem} (reachable : Reachable manager bystanders s)
      (step : Step manager bystanders s t) : Reachable manager bystanders t

/-- A state may come to another one in any number of steps. -/
abbrev Later (manager : QueueManager) (bystanders : Bystanders) :
    QueueSystem → QueueSystem → Prop :=
  Relation.ReflTransGen (Step manager bystanders)

theorem Reachable.later {manager : QueueManager} {bystanders : Bystanders} {s t : QueueSystem}
    (reachable : Reachable manager bystanders s) (later : Later manager bystanders s t) :
    Reachable manager bystanders t := by
  induction later with
  | refl => exact reachable
  | tail _ step ih => exact .step ih step

end QueueSystem

/-! ## What a worker does to the queue -/

/-- What is fixed about a job when it is pushed. -/
def QueueJob.identity (job : QueueJob) :
    QueueJobId × String × ExecutionId × FlowRequest × Nat × Instant :=
  (job.id, job.kind, job.executionId, job.args, job.maxAttempts, job.createdAt)

/-- What a step of a worker does to the queue and to the job that it holds: it
leaves both alone, claims a job that is due, or gives back the one it holds. -/
inductive WorkerEffect (s t : QueueTable) (phase next : WorkerPhase) : Prop where
  | quiet (queue : t = s) (held : next.held? = phase.held?)
  | claim (now : Instant) (job : QueueJob) (idle : phase.held? = none)
      (pending : job.status = .pending) (replaces : Replaces job (job.claim now) s t)
      (held : next.held? = some (job.claim now))
  | giveBack (job new : QueueJob) (held : phase.held? = some job)
      (replaces : Replaces job new s t) (same : new.identity = job.identity)
      (status : new.status ≠ .running) (unlocked : new.status = .pending → new.lockedAt = none)
      (idle : next.held? = none)

theorem WorkerEffect.identities {s t : QueueTable} {phase next : WorkerPhase}
    (effect : WorkerEffect s t phase next) :
    t.jobs.map QueueJob.identity = s.jobs.map QueueJob.identity := by
  cases effect with
  | quiet queue => rw [queue]
  | claim now job _ _ replaces => exact replaces.map_eq rfl
  | giveBack job new _ replaces same => exact replaces.map_eq same

/-- A worker that holds a row of the table is not refused when it reports. -/
theorem QueueTable.Numbered.replaces_of_change {s t : QueueTable} (numbered : s.Numbered)
    {job : QueueJob} (jobMem : job ∈ s.jobs) {f : QueueJob → QueueJob}
    {result : Except QueueError Unit} (stored : s.change job.id f = (result, t)) :
    result = .ok () ∧ Replaces job (f job) s t := by
  obtain ⟨u, changed, replaces⟩ := numbered.change jobMem f
  rw [changed] at stored
  obtain ⟨rfl, rfl⟩ := Prod.mk.inj stored
  exact ⟨rfl, replaces⟩

namespace WorkerStep

variable {manager : QueueManager} {s t : Shared} {phase next : WorkerPhase}
  {events : List QueueEvent}

theorem effect (step : WorkerStep manager s phase events next t) (numbered : s.queue.Numbered)
    (held : ∀ job, phase.held? = some job → job ∈ s.queue.jobs)
    (beside : ∀ job rest, phase = .running job rest → BesideQueue rest) :
    WorkerEffect s.queue t.queue phase next := by
  cases step with
  | readClock now => exact .quiet rfl rfl
  | @claim now job queue claimed =>
      obtain ⟨old, replaces, rfl, pending, _⟩ := claimed ▸ numbered.claimNext now
      exact .claim now old rfl pending replaces rfl
  | @findNone now queue claimed =>
      obtain ⟨rfl, _⟩ := claimed ▸ numbered.claimNext now
      exact .quiet rfl rfl
  | @runOn _ job q a next answered =>
      exact .quiet (answered.queue_eq (beside job _ rfl).1) rfl
  | returned => exact .quiet rfl rfl
  | @complete job given result queue now stored =>
      obtain ⟨_, replaces⟩ := numbered.replaces_of_change (held job rfl) stored
      exact .giveBack job _ rfl replaces rfl (by simp [QueueJob.complete])
        (by simp [QueueJob.complete]) rfl
  | @fail job e result queue now last stored =>
      obtain ⟨_, replaces⟩ := numbered.replaces_of_change (held job rfl) stored
      exact .giveBack job _ rfl replaces rfl (by simp [QueueJob.fail]) (by simp [QueueJob.fail]) rfl
  | postpone reading left => exact .quiet rfl rfl
  | @reschedule job e reading result queue now stored =>
      obtain ⟨_, replaces⟩ := numbered.replaces_of_change (held job rfl) stored
      exact .giveBack job _ rfl replaces rfl (by simp [QueueJob.reschedule])
        (fun _ => rfl) rfl

/-- An execution under way only ever turns to others than the queue. -/
theorem besideQueue (step : WorkerStep manager s phase events next t)
    (beside : ∀ job rest, phase = .running job rest → BesideQueue rest) :
    ∀ job rest, next = .running job rest → BesideQueue rest := by
  rintro job rest rfl
  cases step with
  | claim claimed => exact Engine.execute_besideQueue _ _ _
  | @runOn _ job q a next answered => exact (beside job _ rfl).2 a

end WorkerStep

/-! ## Programs in a system -/

namespace QueueSystem

/-- The calls of a system are the manager's programs under way.  A worker begins with
`processNext` and a call that queues a request with `enqueue`; each of them may go on exactly
as what is left of its program may, except that a worker notes it first when an execution is
over, and begins again when nothing is left. -/
structure FollowsPrograms (manager : QueueManager) (s : QueueSystem) : Prop where
  begins : WorkerPhase.starting.routine manager = manager.processNext
  asks : ∀ request, (EnqueuePhase.asked request).routine manager = manager.enqueue request
  works : ∀ w rest tables,
    Program.Step Shared.answering ((s.workers w).routine manager) s.tables rest tables ↔
      ∃ events next, WorkerStep manager s.tables (s.workers w).settled events next tables ∧
        next.routine manager = rest
  notes : ∀ w events next tables, WorkerStep manager s.tables (s.workers w) events next tables →
    (s.workers w).settled = s.workers w ∨ next = (s.workers w).settled ∧ tables = s.tables
  settles : ∀ w, (s.workers w).settled.routine manager = (s.workers w).routine manager
  ends : ∀ w result, (s.workers w).routine manager = .done result ↔ s.workers w = .ended result
  calls : ∀ c rest tables,
    Program.Step Shared.answering ((s.callers c).routine manager) s.tables rest tables ↔
      ∃ names next, EnqueueStep manager s.tables (s.callers c) names next tables ∧
        next.routine manager = rest

theorem followsPrograms {manager : QueueManager} (enabled : manager.enabled = true)
    (s : QueueSystem) : s.FollowsPrograms manager where
  begins := rfl
  asks _ := rfl
  works _ _ _ := WorkerStep.step_iff enabled
  notes _ _ _ _ goesOn := goesOn.notes
  settles w := (s.workers w).routine_settled manager
  ends w result := by
    constructor
    · exact WorkerPhase.eq_ended_of_routine enabled
    · intro ended
      rw [ended]
      rfl
  calls _ _ _ := EnqueueStep.step_iff enabled

end QueueSystem

/-! ## A job on its way -/

namespace FirstJob

/-- A manager with a queue, the rules of the bot `dev` and the usual settings. -/
def manager : QueueManager :=
  ⟨true, .create Bot.Dev.registry .default, .default, .default⟩

def flow : Flow := { Flow.create (.ofMilliseconds 0) "owner" "topic" "greeting" with id := ⟨1⟩ }

/-- A store with one flow, which has no nodes. -/
def store : Store := (Store.empty.answer (.ofMilliseconds 0) (.createFlow flow)).2

def request : FlowRequest := ⟨⟨1⟩, "dev|ping", "event", []⟩

/-- The job for the request, with the number that it gets. -/
def job : QueueJob :=
  { EnqueuePhase.jobFor manager request ⟨"run"⟩ (.ofMilliseconds 1) with id := ⟨1⟩ }

/-- One call has pushed a job for the flow. -/
def pushed : QueueSystem where
  tables := ⟨store, ⟨1, [job]⟩⟩
  made := [⟨"run"⟩]
  workers _ := .starting
  callers := Function.update (fun _ => .asked request) 0 (.ended (.ok ⟨"run"⟩))
  history := []

/-- A worker has claimed the job. -/
def claimed : QueueSystem where
  tables := ⟨store, ⟨1, [job.claim (.ofMilliseconds 2)]⟩⟩
  made := [⟨"run"⟩]
  workers := Function.update (fun _ => .starting) 0
    (.running (job.claim (.ofMilliseconds 2)) (manager.engine.execute (some ⟨"run"⟩) request))
  callers := pushed.callers
  history := [.claimed ⟨1⟩ (.ofMilliseconds 2)]

variable {bystanders : Bystanders}

theorem pushed_reachable (fresh : bystanders.mayName store ⟨"run"⟩) :
    pushed.Reachable manager bystanders := by
  let start : QueueSystem := ⟨⟨store, .empty⟩, [], fun _ => .starting, fun _ => .asked request, []⟩
  have begun : start.Reachable manager bystanders :=
    .initial ⟨.answer .empty _ _, rfl, rfl, fun _ => rfl, fun _ => ⟨request, rfl⟩, rfl⟩
  have found := begun.step (.enqueue 0 .lookUp (by simp))
  have notBlank : (⟨"run"⟩ : ExecutionId).isBlank = false := by decide +kernel
  have named := found.step (.enqueue 0 (.name notBlank) (by
    intro id idMem
    obtain rfl := List.mem_singleton.mp idMem
    exact ⟨List.not_mem_nil, fresh⟩))
  have dated := named.step (.enqueue 0 (.readClock (.ofMilliseconds 1)) (by simp))
  have done := dated.step (.enqueue 0 .push (by simp))
  simp only [Function.update_idem] at done
  exact done

theorem claimed_reachable (fresh : bystanders.mayName store ⟨"run"⟩) :
    claimed.Reachable manager bystanders := by
  have started := (pushed_reachable fresh).step (.work 0 (.readClock (.ofMilliseconds 2)))
  have claim : pushed.tables.queue.claimNext (.ofMilliseconds 2) =
      (some (job.claim (.ofMilliseconds 2)), ⟨1, [job.claim (.ofMilliseconds 2)]⟩) := rfl
  have done := started.step (.work 0 (.claim claim))
  simp only [Function.update_idem] at done
  exact done

end FirstJob

end EventFlow
