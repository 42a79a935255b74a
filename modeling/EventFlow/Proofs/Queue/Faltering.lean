import EventFlow.Proofs.Engine.Replies
import EventFlow.Proofs.Queue.Submission

/-!
# A queue that may refuse jobs

A queue may refuse a job that is pushed, for any reason and as often as it likes; then it stays
as it was.  A push that is refused is tried again until it is given up, and a request that could
not be queued is executed at once.  So what is submitted becomes one job, or it is executed with
the queue as it was, and never both.
-/

namespace EventFlow

open Program

/-! ## Surroundings that falter -/

namespace Shared

/-- How a question may be answered where the queue may refuse a job, and a fresh id is one that
no execution has. -/
def Falters (s : Shared) : (q : ServiceCall) → q.Answer → Shared → Prop
  | .queue (.push job), result, t =>
    s.Answers (.queue (.push job)) result t ∨ (∃ e, result = .error e) ∧ t = s
  | .freshId, id, t => s.Answers .freshId id t ∧ s.store.getExecution id = none
  | q, a, t => s.Answers q a t

/-- The answers of tables whose queue may refuse jobs. -/
abbrev faltering : Answering service Shared := Falters

/-- An answer to every question: the queue takes the jobs, and no rule replies. -/
def falterAt (now : Instant) (s : Shared) : (q : ServiceCall) → q.Answer × Shared
  | .freshId => (s.store.unusedId, s)
  | q => s.answerAt now q

theorem falters_falterAt (now : Instant) (s : Shared) (q : ServiceCall) :
    s.Falters q (s.falterAt now q).1 (s.falterAt now q).2 := by
  have answered := s.answers_answerAt now q
  cases q with
  | freshId => exact ⟨⟨s.store.isBlank_unusedId, rfl⟩, s.store.getExecution_unusedId⟩
  | queue call =>
      cases call with
      | push job => exact .inl answered
      | _ => exact answered
  | _ => exact answered

/-- Every program of a daemon runs to its end. -/
theorem exists_runs_faltering {α : Type} (p : Routine α) (s : Shared) :
    ∃ r t, Runs faltering p s r t :=
  ⟨_, _, runs_run (falters_falterAt (.ofMilliseconds 0)) p s⟩

/-- Only pushes are refused. -/
theorem Falters.answers {s t : Shared} {q : ServiceCall} {a : q.Answer}
    (answered : s.Falters q a t) (beside : q.besideQueue = true) : s.Answers q a t := by
  cases q with
  | freshId => exact answered.1
  | queue call => contradiction
  | _ => exact answered

/-- What is not refused is answered by the tables. -/
theorem Falters.answers_or_refused {s t : Shared} {q : ServiceCall} {a : q.Answer}
    (answered : s.Falters q a t) : s.Answers q a t ∨ t = s := by
  cases q with
  | freshId => exact .inl answered.1
  | queue call =>
      cases call with
      | push job => exact answered.imp id And.right
      | _ => exact .inl answered
  | _ => exact .inl answered

section Runs

variable {α : Type} {s t : Shared} {r : α}

/-- A program that leaves the queue alone does not notice that the queue refuses jobs. -/
theorem runs_answering_of_besideQueue {p : Routine α} (ran : Runs faltering p s r t)
    (beside : BesideQueue p) : Runs answering p s r t :=
  ran.mono_of_asks beside fun _ _ _ _ beside answered => answered.answers beside

/-- Stores that can be reached lead to such stores. -/
theorem reachable_of_runs_faltering {p : Routine α} (ran : Runs faltering p s r t)
    (reachable : s.store.Reachable) : t.store.Reachable := by
  apply ran.change_of_asks (Program.asks_of_all fun _ => trivial)
    (fun u v => u.store.Reachable → v.store.Reachable) (fun _ => id)
    (fun _ _ _ first second reachable => second (first reachable)) _ reachable
  intro u q a v _ answered reachable
  rcases answered.answers_or_refused with answered | rfl
  · rcases answered.store_eq with same | ⟨now, call, changed⟩
    · exact same ▸ reachable
    · exact changed ▸ reachable.answer now call
  · exact reachable

theorem faltering_now_iff {f : Instant → Routine α} :
    Runs faltering (.ask (ServiceCall.now : service.Question) f) s r t ↔
      ∃ now, Runs faltering (f now) s r t := by
  apply runs_ask_iff.trans
  constructor
  · rintro ⟨now, _, rfl, rest⟩
    exact ⟨now, rest⟩
  · rintro ⟨now, rest⟩
    exact ⟨now, s, rfl, rest⟩

theorem faltering_store_iff {call : StoreCall} {f : Except StoreError call.Result → Routine α} :
    Runs faltering (.ask (ServiceCall.store call : service.Question) f) s r t ↔
      ∃ now, Runs faltering (f (s.store.answer now call).1)
        { s with store := (s.store.answer now call).2 } r t := by
  apply runs_ask_iff.trans
  constructor
  · rintro ⟨_, _, ⟨now, rfl, rfl⟩, rest⟩
    exact ⟨now, rest⟩
  · rintro ⟨now, rest⟩
    exact ⟨_, _, ⟨now, rfl, rfl⟩, rest⟩

theorem faltering_freshId_iff {f : ExecutionId → Routine α} :
    Runs faltering (.ask (ServiceCall.freshId : service.Question) f) s r t ↔
      ∃ id, id.isBlank = false ∧ s.store.getExecution id = none ∧ Runs faltering (f id) s r t := by
  apply runs_ask_iff.trans
  constructor
  · rintro ⟨id, _, ⟨⟨named, rfl⟩, new⟩, rest⟩
    exact ⟨id, named, new, rest⟩
  · rintro ⟨id, named, new, rest⟩
    exact ⟨id, s, ⟨⟨named, rfl⟩, new⟩, rest⟩

end Runs

end Shared

open Shared

/-- An execution under a fresh id runs under an id that no execution has had, and leaves the
queue alone. -/
theorem Engine.runs_execute_fresh {engine : Engine} {request : FlowRequest} {s t : Shared}
    {result : Except EngineError ExecutionId}
    (ran : Runs faltering (engine.execute none request) s result t) :
    ∃ id, id.isBlank = false ∧ s.store.getExecution id = none ∧ t.queue = s.queue ∧
      Runs answering (engine.executeUnder id request) s result t := by
  rcases faltering_freshId_iff.mp ran with ⟨id, named, new, ran⟩
  have ran := runs_answering_of_besideQueue ran (executeUnder_besideQueue engine id request)
  have queue : t.queue = s.queue :=
    ran.change_of_asks (executeUnder_besideQueue engine id request)
      (fun u v => v.queue = u.queue) (fun _ => rfl) (fun _ _ _ first second => second.trans first)
      fun _ _ _ _ beside answered => answered.queue_eq beside
  exact ⟨id, named, new, queue, ran⟩

/-! ## Submitting -/

namespace QueueManager

variable {manager : QueueManager} {request : FlowRequest} {s t : Shared}

/-- However often a push is tried, the job is in the queue once in the end, or not at all. -/
theorem runs_retryFrom_push {config : RetryConfig} {interrupt : Signal} {job : QueueJob}
    {left attempt : Nat} {delay : Duration}
    {r : Except (RetryError QueueError) (QueueCall.push job).Result}
    (ran : Runs faltering
      (retryFrom config interrupt (Service.queue (.push job)) left attempt delay) s r t) :
    ((∃ number, r = .ok number) ∧ t = { s with queue := (s.queue.push job).2 }) ∨
      (∃ e, r = .error e) ∧ t = s := by
  induction left generalizing attempt delay with
  | zero =>
      rw [retryFrom.eq_def] at ran
      rcases runs_ask_iff.mp ran with ⟨_, _, ⟨_, rfl, rfl⟩ | ⟨⟨e, rfl⟩, rfl⟩, ended⟩
      · rcases runs_done_iff.mp ended with ⟨rfl, rfl⟩
        exact .inl ⟨⟨_, rfl⟩, rfl⟩
      · rcases runs_done_iff.mp ended with ⟨rfl, rfl⟩
        exact .inr ⟨⟨_, rfl⟩, rfl⟩
  | succ left ih =>
      rw [retryFrom.eq_def] at ran
      rcases runs_ask_iff.mp ran with ⟨_, _, ⟨_, rfl, rfl⟩ | ⟨⟨e, rfl⟩, rfl⟩, waiting⟩
      · rcases runs_done_iff.mp waiting with ⟨rfl, rfl⟩
        exact .inl ⟨⟨_, rfl⟩, rfl⟩
      · rcases runs_ask_iff.mp waiting with ⟨interrupted, _, rfl, again⟩
        cases interrupted with
        | true =>
            rcases runs_done_iff.mp again with ⟨rfl, rfl⟩
            exact .inr ⟨⟨_, rfl⟩, rfl⟩
        | false => exact ih again

/-- A request becomes one job under a fresh id, or nothing happens. -/
theorem runs_push_faltering {r : Except QueueError ExecutionId}
    (ran : Runs faltering (manager.push request) s r t) :
    (∃ id now, id.isBlank = false ∧ r = .ok id ∧
      t = { s with queue := (s.queue.push (EnqueuePhase.jobFor manager request id now)).2 }) ∨
    (∃ e, r = .error e) ∧ t = s := by
  simp only [push, Service.freshId_bind, Service.now_bind] at ran
  rcases faltering_freshId_iff.mp ran with ⟨id, named, _, ran⟩
  rcases faltering_now_iff.mp ran with ⟨now, ran⟩
  rcases runs_bind_iff.mp ran with ⟨_, _, pushing, ended⟩
  rcases runs_retryFrom_push pushing with ⟨⟨number, rfl⟩, rfl⟩ | ⟨⟨e, rfl⟩, rfl⟩
  · rcases runs_done_iff.mp ended with ⟨rfl, rfl⟩
    exact .inl ⟨id, now, named, rfl, rfl⟩
  · rcases runs_done_iff.mp ended with ⟨rfl, rfl⟩
    exact .inr ⟨⟨_, rfl⟩, rfl⟩

theorem runs_enqueue_faltering {r : Except QueueError ExecutionId}
    (ran : Runs faltering (manager.enqueue request) s r t) :
    (∃ id now, id.isBlank = false ∧ r = .ok id ∧
      t = { s with queue := (s.queue.push (EnqueuePhase.jobFor manager request id now)).2 }) ∨
    (∃ e, r = .error e) ∧ t = s := by
  have refused {e : QueueError} {u : Shared}
      (ended : Runs faltering (.done (.error e) : Routine (Except QueueError ExecutionId)) u r t) :
      (∃ e, r = .error e) ∧ t = u := by
    rcases runs_done_iff.mp ended with ⟨rfl, rfl⟩
    exact ⟨⟨e, rfl⟩, rfl⟩
  unfold enqueue at ran
  split at ran
  · rw [Service.store_bind] at ran
    rcases faltering_store_iff.mp ran with ⟨_, ran⟩
    simp only [Store.answer] at ran
    cases found : s.store.getFlow request.flowId with
    | none =>
        rw [found] at ran
        exact .inr (refused ran)
    | some flow =>
        simp only [found] at ran
        split at ran
        · exact runs_push_faltering ran
        · exact .inr (refused ran)
  · exact .inr (refused ran)

/-- A request that is submitted becomes one job under a fresh id, or it is executed at once. -/
theorem runs_submit_faltering {r : Except EngineError Submission}
    (ran : Runs faltering (manager.submit request) s r t) :
    (∃ id now, id.isBlank = false ∧ r = .ok (.queued id) ∧
      t = { s with queue := (s.queue.push (EnqueuePhase.jobFor manager request id now)).2 }) ∨
    ∃ result, r = result.map Submission.executed ∧
      Runs faltering (manager.engine.execute none request) s result t := by
  rw [submit] at ran
  rcases runs_bind_iff.mp ran with ⟨_, u, enqueuing, ended⟩
  rcases runs_enqueue_faltering enqueuing with ⟨id, now, named, rfl, rfl⟩ | ⟨⟨e, rfl⟩, rfl⟩
  · rcases runs_done_iff.mp ended with ⟨rfl, rfl⟩
    exact .inl ⟨id, now, named, rfl, rfl⟩
  · rcases runs_bind_iff.mp ended with ⟨result, v, executed, ended⟩
    cases result <;> rcases runs_done_iff.mp ended with ⟨rfl, rfl⟩
    · exact .inr ⟨_, rfl, executed⟩
    · exact .inr ⟨_, rfl, executed⟩

end QueueManager

end EventFlow
