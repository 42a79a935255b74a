import EventFlow.Proofs.Queue.System

/-!
# Starting and stopping workers

A queue manager keeps a list of the tasks that work for it and a signal that tells them to stop.
A call that starts workers looks at the signal, and then at the list: if nobody is on it, it puts
new workers there.  A call that stops them gives the signal, takes the list and waits for the
tasks that were on it.  Each worker looks at the signal before it processes a job.  Between any
two of these steps others may go on, except that nobody turns to the list while somebody else is
about to write it.
-/

namespace EventFlow

open Program

/-! ## Posts -/

/-- Where the task of a worker stands: it is about to look at the signal, it processes a job, it
waits because it has found none, or it has ended.  It remembers how long it waits when it next
finds nothing. -/
inductive Post where
  | absent
  | looking (idle : Duration)
  | processing (idle : Duration)
  | waiting (wait idle : Duration)
  | ended

namespace Post

/-- Where a worker stands that has processed a job, or has found none. -/
def after (manager : QueueManager) (idle : Duration) (result : Except QueueError Bool) : Post :=
  match manager.nextWait idle result with
  | (none, idle) => .looking idle
  | (some wait, idle) => .waiting wait idle

/-- Does the worker process a job? -/
def isProcessing : Post → Bool
  | .processing _ => true
  | _ => false

/-- Waits before the next round of a worker, if it is to wait, unless it is told to stop. -/
def pause (wait : Option Duration) (idle : Duration) : Routine (Option Duration) :=
  match wait with
  | none => return some idle
  | some wait => do
    if ← Service.sleep wait (some .workersStop) then return none
    else return some idle

/-- What is left of the round of a worker, given where it stands in processing a job. -/
def routine (manager : QueueManager) : Post → WorkerPhase → Routine (Option Duration)
  | .looking idle, _ => manager.workRound idle
  | .processing idle, phase => do
    let (wait, idle) := manager.nextWait idle (← phase.routine manager)
    pause wait idle
  | .waiting wait idle, _ => pause (some wait) idle
  | .absent, _ => .done none
  | .ended, _ => .done none

theorem workRound_eq (manager : QueueManager) (idle : Duration) :
    manager.workRound idle = Service.isGiven .workersStop >>= fun given =>
      if given then .done none else (processing idle).routine manager .starting := by
  simp only [QueueManager.workRound, routine, WorkerPhase.routine]
  congr 1
  funext given
  cases given with
  | true => rfl
  | false =>
      simp only [Bool.false_eq_true, if_false]
      congr 1
      funext result
      cases next : manager.nextWait idle result with
      | mk wait idle => cases wait <;> rfl

/-- What is left of a round is what is left where the worker stands; a round that is over is
followed by the next one. -/
def Leaves (manager : QueueManager) (post : Post) (phase : WorkerPhase)
    (rest : Routine (Option Duration)) : Prop :=
  rest = post.routine manager phase ∨ ∃ idle, rest = .done (some idle) ∧ post = .looking idle

end Post

/-! ## What is shared -/

/-- What those share who start workers, stop them and work: the tables, whether the signal has
been given, the list of workers, and where each task stands. -/
structure Muster where
  tables : Shared
  given : Bool
  listed : List TaskId
  posts : TaskId → Post

namespace Muster

/-- How a question may be answered.  A task that is started is a new one, one that is waited for
has ended, and a sleep is interrupted only if the signal has been given.  All that is no matter
of a crew is answered by the tables. -/
def Answers (s : Muster) : (q : ServiceCall) → q.Answer → Muster → Prop
  | .isGiven .workersStop, given, t => given = s.given ∧ t = s
  | .give .workersStop, _, t => t = { s with given := true }
  | .sleep _ (some .workersStop), interrupted, t => (interrupted = true → s.given = true) ∧ t = s
  | .workers, tasks, t => tasks = s.listed ∧ t = s
  | .setWorkers tasks, _, t => t = { s with listed := tasks }
  | .spawn (.worker idle), task, t =>
    s.posts task = .absent ∧ t = { s with posts := Function.update s.posts task (.looking idle) }
  | .join task, _, t => s.posts task = .ended ∧ t = s
  | q, a, t => s.tables.Answers q a t.tables ∧ t = { s with tables := t.tables }

/-- The answers that the programs of a crew get. -/
abbrev answering : Answering service Muster := Answers

variable {α : Type} {s t : Muster} {rest : Routine α}

/-- A program goes on behind the answer to its question. -/
theorem step_question_iff {q : ServiceCall} {f : q.Answer → Routine α} :
    Step answering (Program.question (I := service) q >>= f) s rest t ↔
      ∃ a, s.Answers q a t ∧ rest = f a :=
  step_ask_iff

end Muster

/-! ## Starting workers -/

/-- Where a call stands that starts workers: it has yet to look at the signal or at the list, or
it starts workers, of whom so many are left, or it is over.  It knows the tasks that it has
started. -/
inductive StartPhase where
  | asked
  | entering
  | spawning (left : Nat) (batch : List TaskId)
  | done (batch : List TaskId)

namespace StartPhase

/-- The tasks that the call has started. -/
def added : StartPhase → List TaskId
  | .spawning _ batch => batch
  | .done batch => batch
  | _ => []

/-- Is the call about to write the list? -/
def locks : StartPhase → Bool
  | .spawning _ _ => true
  | _ => false

/-- What is left of the call. -/
def routine (manager : QueueManager) : StartPhase → Routine Unit
  | .asked => manager.start
  | .entering => do
    match ← Service.workers with
    | [] => Service.setWorkers (← manager.spawnWorkers (max manager.config.workers 1))
    | _ => return ()
  | .spawning left batch => do Service.setWorkers (batch ++ (← manager.spawnWorkers left))
  | .done _ => .done ()

theorem routine_spawning_zero (manager : QueueManager) (batch : List TaskId) :
    (spawning 0 batch).routine manager = Service.setWorkers batch := by
  simp only [routine, QueueManager.spawnWorkers, done_bind, List.append_nil]

theorem routine_spawning_succ (manager : QueueManager) (left : Nat) (batch : List TaskId) :
    (spawning (left + 1) batch).routine manager =
      Service.spawn (.worker manager.initialIdle) >>= fun task =>
        (spawning left (batch ++ [task])).routine manager := by
  simp only [routine, QueueManager.spawnWorkers, bind_assoc, pure_eq, done_bind,
    List.append_assoc, List.singleton_append]

end StartPhase

/-- A call that starts workers goes on by one step. -/
inductive StartStep (manager : QueueManager) :
    Muster → StartPhase → StartPhase → Muster → Prop where
  | turnAway {s : Muster} (given : s.given = true) : StartStep manager s .asked (.done []) s
  | enter {s : Muster} (ungiven : s.given = false) : StartStep manager s .asked .entering s
  | findSome {s : Muster} (listed : s.listed ≠ []) : StartStep manager s .entering (.done []) s
  | findNone {s : Muster} (unlisted : s.listed = []) :
      StartStep manager s .entering (.spawning (max manager.config.workers 1) []) s
  | spawn {s : Muster} {left : Nat} {batch : List TaskId} (task : TaskId)
      (new : s.posts task = .absent) :
      StartStep manager s (.spawning (left + 1) batch) (.spawning left (batch ++ [task]))
        { s with posts := Function.update s.posts task (.looking manager.initialIdle) }
  | list {s : Muster} {batch : List TaskId} :
      StartStep manager s (.spawning 0 batch) (.done batch) { s with listed := batch }

namespace StartStep

variable {manager : QueueManager} {s t : Muster} {phase : StartPhase}

/-- The steps of a call that starts workers are those of its phases. -/
theorem step_iff (enabled : manager.enabled = true) {rest : Routine Unit} :
    Step Muster.answering (phase.routine manager) s rest t ↔
      ∃ next, StartStep manager s phase next t ∧ next.routine manager = rest := by
  constructor
  · intro step
    match phase with
    | .asked =>
        simp only [StartPhase.routine, QueueManager.start, enabled, if_true] at step
        obtain ⟨given, ⟨rfl, rfl⟩, rfl⟩ := Muster.step_question_iff.mp step
        cases known : t.given with
        | true => exact ⟨_, .turnAway known, rfl⟩
        | false => exact ⟨_, .enter known, rfl⟩
    | .entering =>
        obtain ⟨tasks, ⟨rfl, rfl⟩, rfl⟩ := Muster.step_question_iff.mp step
        cases listed : t.listed with
        | nil => exact ⟨_, .findNone listed, rfl⟩
        | cons task others => exact ⟨.done [], .findSome (by simp [listed]), rfl⟩
    | .spawning 0 batch =>
        rw [StartPhase.routine_spawning_zero] at step
        cases step with
        | ask answered =>
            obtain rfl := answered
            exact ⟨_, .list, rfl⟩
    | .spawning (left + 1) batch =>
        rw [StartPhase.routine_spawning_succ] at step
        obtain ⟨task, ⟨new, rfl⟩, rfl⟩ := Muster.step_question_iff.mp step
        exact ⟨_, .spawn task new, rfl⟩
    | .done batch => cases step
  · rintro ⟨next, goesOn, rfl⟩
    cases goesOn with
    | turnAway given | enter given =>
        simp only [StartPhase.routine, QueueManager.start, enabled, if_true]
        exact Muster.step_question_iff.mpr ⟨_, ⟨given.symm, rfl⟩, rfl⟩
    | findSome listed =>
        refine Muster.step_question_iff.mpr ⟨_, ⟨rfl, rfl⟩, ?_⟩
        cases same : s.listed with
        | nil => contradiction
        | cons task others => rfl
    | findNone unlisted => exact Muster.step_question_iff.mpr ⟨_, ⟨unlisted.symm, rfl⟩, rfl⟩
    | spawn task new =>
        rw [StartPhase.routine_spawning_succ]
        exact Muster.step_question_iff.mpr ⟨task, ⟨new, rfl⟩, rfl⟩
    | list =>
        rw [StartPhase.routine_spawning_zero]
        exact Step.ask (I := service) rfl

end StartStep

/-- What a step of a call that starts workers does: it leaves everything alone, locks the list
because nobody is on it, starts a worker, or puts the workers that it has started on the list. -/
inductive StartEffect (s : Muster) (phase next : StartPhase) : Muster → Prop where
  | quiet (added : next.added = phase.added) (unlocked : phase.locks = false)
      (stays : next.locks = false) : StartEffect s phase next s
  | lock (entering : phase = .entering) (unlisted : s.listed = []) (added : next.added = [])
      (locks : next.locks = true) : StartEffect s phase next s
  | spawn (task : TaskId) (idle : Duration) (new : s.posts task = .absent)
      (locks : phase.locks = true) (stays : next.locks = true)
      (added : next.added = phase.added ++ [task]) :
      StartEffect s phase next
        { s with posts := Function.update s.posts task (.looking idle) }
  | unlock (locks : phase.locks = true) (unlocked : next.locks = false)
      (added : next.added = phase.added) :
      StartEffect s phase next { s with listed := phase.added }

theorem StartStep.effect {manager : QueueManager} {s t : Muster} {phase next : StartPhase}
    (goesOn : StartStep manager s phase next t) : StartEffect s phase next t := by
  cases goesOn with
  | turnAway | enter | findSome => exact .quiet rfl rfl rfl
  | findNone unlisted => exact .lock rfl unlisted rfl rfl
  | spawn task new => exact .spawn task _ new rfl rfl rfl
  | list => exact .unlock rfl rfl rfl

/-! ## Stopping workers -/

/-- Where the call stands that stops the workers: it has yet to give the signal, to look at the
list, or to clear it, or it waits for tasks that it has found there.  It is over when there are no
more tasks to wait for. -/
inductive StopPhase where
  | asked
  | taking
  | clearing (tasks : List TaskId)
  | joining (tasks : List TaskId)

namespace StopPhase

/-- Is the call about to write the list? -/
def locks : StopPhase → Bool
  | .clearing _ => true
  | _ => false

/-- What is left of the call. -/
def routine : StopPhase → Routine Unit
  | .asked => QueueManager.stop
  | .taking => do
    let tasks ← Service.workers
    Service.setWorkers []
    QueueManager.joinAll tasks
  | .clearing tasks => do
    Service.setWorkers []
    QueueManager.joinAll tasks
  | .joining tasks => QueueManager.joinAll tasks

end StopPhase

/-- The call that stops the workers goes on by one step. -/
inductive StopStep : Muster → StopPhase → StopPhase → Muster → Prop where
  | give {s : Muster} : StopStep s .asked .taking { s with given := true }
  | take {s : Muster} : StopStep s .taking (.clearing s.listed) s
  | clear {s : Muster} {tasks : List TaskId} :
      StopStep s (.clearing tasks) (.joining tasks) { s with listed := [] }
  | join {s : Muster} {task : TaskId} {rest : List TaskId} (ended : s.posts task = .ended) :
      StopStep s (.joining (task :: rest)) (.joining rest) s

/-- The steps of the call that stops the workers are those of its phases. -/
theorem StopStep.step_iff {s t : Muster} {phase : StopPhase} {rest : Routine Unit} :
    Step Muster.answering phase.routine s rest t ↔
      ∃ next, StopStep s phase next t ∧ next.routine = rest := by
  constructor
  · intro step
    match phase with
    | .asked =>
        obtain ⟨_, rfl, rfl⟩ := Muster.step_question_iff.mp step
        exact ⟨_, .give, rfl⟩
    | .taking =>
        obtain ⟨tasks, ⟨rfl, rfl⟩, rfl⟩ := Muster.step_question_iff.mp step
        exact ⟨_, .take, rfl⟩
    | .clearing tasks =>
        obtain ⟨_, rfl, rfl⟩ := Muster.step_question_iff.mp step
        exact ⟨_, .clear, rfl⟩
    | .joining [] => cases step
    | .joining (task :: others) =>
        obtain ⟨_, ⟨ended, rfl⟩, rfl⟩ := Muster.step_question_iff.mp step
        exact ⟨_, .join ended, rfl⟩
  · rintro ⟨next, goesOn, rfl⟩
    cases goesOn with
    | give => exact Muster.step_question_iff.mpr ⟨(), rfl, rfl⟩
    | take => exact Muster.step_question_iff.mpr ⟨_, ⟨rfl, rfl⟩, rfl⟩
    | clear => exact Muster.step_question_iff.mpr ⟨(), rfl, rfl⟩
    | join ended => exact Muster.step_question_iff.mpr ⟨true, ⟨ended, rfl⟩, rfl⟩

/-! ## Processing jobs -/

/-- Is the question one for the tables, the clock or a rule? -/
def ServiceCall.ofTables : ServiceCall → Bool
  | .now => true
  | .freshId => true
  | .store _ => true
  | .queue _ => true
  | .invoke _ _ _ _ _ => true
  | _ => false

theorem ServiceCall.ofTables_of_ofExecution {flowId : FlowId} {q : ServiceCall}
    (asked : q.ofExecution flowId = true) : q.ofTables = true := by
  cases q with
  | now | freshId | store | queue | invoke => rfl
  | _ => contradiction

/-- The program turns to no signal and to no other task. -/
abbrev AsksTables {α : Type} (p : Routine α) : Prop :=
  Asks (fun q : service.Question => ServiceCall.ofTables q = true) p

namespace Muster

variable {α : Type} {s t : Muster} {p rest : Routine α}

theorem answers_of_ofTables {q : ServiceCall} {a : q.Answer} (ofTables : q.ofTables = true) :
    s.Answers q a t ↔ s.tables.Answers q a t.tables ∧ t = { s with tables := t.tables } := by
  cases q with
  | now | freshId | store | queue | invoke => exact Iff.rfl
  | _ => contradiction

/-- A program that asks the tables only goes on as beside them alone. -/
theorem step_of_asksTables (asks : AsksTables p) (step : Step answering p s rest t) :
    Step Shared.answering p s.tables rest t.tables ∧ t = { s with tables := t.tables } := by
  cases step with
  | ask answered =>
      obtain ⟨answered, same⟩ := (answers_of_ofTables asks.1).mp answered
      exact ⟨.ask answered, same⟩

end Muster

namespace QueueManager

theorem report_asksTables (job : QueueJob) (outcome : Except EngineError ExecutionId) :
    AsksTables (report job outcome) := by
  cases outcome with
  | ok given => exact ⟨rfl, fun _ => trivial⟩
  | error e =>
      by_cases last : job.maxAttempts ≤ job.attempts + 1
      · simp only [report, last]
        exact ⟨rfl, fun _ => trivial⟩
      · simp only [report, last]
        exact ⟨rfl, fun _ => ⟨rfl, fun _ => trivial⟩⟩

theorem runJob_asksTables (manager : QueueManager) (job : QueueJob) :
    AsksTables (manager.runJob job) := by
  apply ((Engine.execute_asks _ _ _).mono fun _ ⟨_, asked⟩ =>
    ServiceCall.ofTables_of_ofExecution asked).bind
  intro outcome
  apply (report_asksTables job outcome).bind
  intro result
  cases result <;> trivial

/-- What a worker does once it has read the clock. -/
theorem claim_asksTables (manager : QueueManager) (now : Instant) :
    AsksTables ((WorkerPhase.claiming now).routine manager) := by
  refine ⟨rfl, fun found => ?_⟩
  match found with
  | .error e => trivial
  | .ok none => trivial
  | .ok (some job) => exact runJob_asksTables manager job

theorem processNext_asksTables (manager : QueueManager) : AsksTables manager.processNext := by
  unfold processNext
  split
  · exact ⟨rfl, claim_asksTables manager⟩
  · trivial

end QueueManager

namespace WorkerPhase

/-- An execution under way asks what an execution asks. -/
def Executes (phase : WorkerPhase) : Prop :=
  ∀ job rest, phase = .running job rest → AsksOfEngine rest

theorem routine_asksTables (manager : QueueManager) {phase : WorkerPhase}
    (executes : phase.Executes) : AsksTables (phase.routine manager) := by
  have reports (job : QueueJob) (outcome : Except EngineError ExecutionId) :
      AsksTables ((reporting job outcome).routine manager) :=
    (QueueManager.report_asksTables job outcome).bind fun _ => trivial
  match phase with
  | .starting => exact manager.processNext_asksTables
  | .claiming now => exact manager.claim_asksTables now
  | .running job rest =>
      exact ((executes job rest rfl).mono fun _ ⟨_, asked⟩ =>
        ServiceCall.ofTables_of_ofExecution asked).bind (reports job)
  | .reporting job outcome => exact reports job outcome
  | .postponing job e reading => exact ⟨rfl, fun _ => trivial⟩
  | .ended result => trivial

end WorkerPhase

theorem WorkerStep.executes {manager : QueueManager} {s t : Shared} {phase next : WorkerPhase}
    {events : List QueueEvent} (step : WorkerStep manager s phase events next t)
    (executes : phase.Executes) : next.Executes := by
  rintro job rest rfl
  cases step with
  | claim claimed => exact Engine.execute_asks _ _ _
  | @runOn _ job q a next answered => exact (executes job _ rfl).2 a

/-! ## Rounds of workers -/

/-- A worker goes on by one step: in a round, or from one round to the next. -/
inductive RoundStep (manager : QueueManager) (s : Muster) :
    Post → WorkerPhase → List QueueEvent → Post → WorkerPhase → Shared → Prop where
  | leave {idle : Duration} {phase : WorkerPhase} (given : s.given = true) :
      RoundStep manager s (.looking idle) phase [] .ended phase s.tables
  | look {idle : Duration} {phase : WorkerPhase} (ungiven : s.given = false) :
      RoundStep manager s (.looking idle) phase [] (.processing idle) phase s.tables
  | process {idle : Duration} {phase next : WorkerPhase} {events : List QueueEvent}
      {tables : Shared} (goesOn : WorkerStep manager s.tables phase events next tables) :
      RoundStep manager s (.processing idle) phase events (.processing idle) next tables
  | turn {idle : Duration} {result : Except QueueError Bool} :
      RoundStep manager s (.processing idle) (.ended result) [] (.after manager idle result)
        .starting s.tables
  | wake {wait idle : Duration} {phase : WorkerPhase} :
      RoundStep manager s (.waiting wait idle) phase [] (.looking idle) phase s.tables
  | interrupt {wait idle : Duration} {phase : WorkerPhase} (given : s.given = true) :
      RoundStep manager s (.waiting wait idle) phase [] .ended phase s.tables

end EventFlow
