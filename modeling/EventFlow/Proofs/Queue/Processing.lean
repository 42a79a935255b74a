import EventFlow.Proofs.Engine.Replies
import EventFlow.Proofs.Queue.System

/-!
# Processing a job alone

A call that processes a job and has the queue to itself takes a pending job, executes its
flow under the id of the job, and reports how that went.  What it leaves in the store is what
the execution has left, and all other jobs stay as they are.
-/

namespace EventFlow

open Program QueueTable

/-- The tables with another queue. -/
def Watched.withQueue (s : Watched) (queue : QueueTable) : Watched :=
  ⟨{ s.state with queue }, s.notes⟩

namespace QueueManager

variable {answers : Answering service Watched} {manager : QueueManager} {s t : Watched}

/-- An execution leaves the queue alone. -/
theorem queue_of_execute {engine : Engine} {given : Option ExecutionId} {request : FlowRequest}
    {result : Except EngineError ExecutionId}
    (ran : Runs watching (engine.execute given request) s result t) :
    t.state.queue = s.state.queue :=
  ran.unwatched.change_of_asks (Engine.execute_besideQueue engine given request)
    (fun u v => v.queue = u.queue) (fun _ => rfl) (fun _ _ _ first second => second.trans first)
    fun _ _ _ _ beside answered => answered.queue_eq beside

/-- A report about a job of the queue is taken, and replaces the row of the job.  Who waits again
has failed once more. -/
theorem runs_report (narrows : Narrows answers) (numbered : s.state.queue.Numbered)
    {job : QueueJob} (jobMem : job ∈ s.state.queue.jobs)
    {outcome : Except EngineError ExecutionId} {r : Except QueueError Unit}
    (ran : Runs answers (report job outcome) s r t) :
    r = .ok () ∧ ∃ new queue, Replaces job new s.state.queue queue ∧ t = s.withQueue queue ∧
      (new.status = .pending → new.attempts = job.attempts + 1) := by
  -- All reports change the row of the job; they differ in how, and in what they ask before.
  have taken (change : QueueJob → QueueJob)
      (again : (change job).status = .pending → (change job).attempts = job.attempts + 1)
      (ran : Runs answers (.done (s.state.queue.change job.id change).1 : Routine _)
        (s.withQueue (s.state.queue.change job.id change).2) r t) :
      r = .ok () ∧ ∃ new queue, Replaces job new s.state.queue queue ∧ t = s.withQueue queue ∧
        (new.status = .pending → new.attempts = job.attempts + 1) := by
    rcases numbered.change jobMem change with ⟨queue, changed, replaces⟩
    rw [changed] at ran
    rcases runs_done_iff.mp ran with ⟨rfl, rfl⟩
    exact ⟨rfl, _, queue, replaces, rfl, again⟩
  cases outcome with
  | ok given =>
      rcases narrows.runs_queue ran with ⟨now, ran⟩
      exact taken (·.complete now) (by rintro ⟨⟩) ran
  | error e =>
      by_cases last : job.maxAttempts ≤ job.attempts + 1
      · simp only [report, last] at ran
        rcases narrows.runs_queue ran with ⟨now, ran⟩
        exact taken (·.fail now _ _) (by rintro ⟨⟩) ran
      · simp only [report, last] at ran
        rcases narrows.runs_now ran with ⟨reading, ran⟩
        rcases narrows.runs_queue ran with ⟨now, ran⟩
        exact taken (·.reschedule now _ _ _) (fun _ => rfl) ran

/-- A job that has been claimed is executed under its id, and its row is replaced. -/
theorem runs_runJob (narrows : Narrows answers) (numbered : s.state.queue.Numbered)
    {job : QueueJob} (jobMem : job ∈ s.state.queue.jobs) {processed : Except QueueError Bool}
    (ran : Runs answers (manager.runJob job) s processed t) :
    ∃ outcome u, Runs answers (manager.engine.execute (some job.executionId) job.args) s outcome u ∧
      processed = .ok true ∧
      ∃ new queue, Replaces job new s.state.queue queue ∧ t = u.withQueue queue ∧
        (new.status = .pending → new.attempts = job.attempts + 1) := by
  rcases runs_bind_iff.mp ran with ⟨outcome, u, executing, ran⟩
  rcases runs_bind_iff.mp ran with ⟨reported, v, reporting, ended⟩
  -- The report is about the row as it was claimed: the execution has not touched it.
  have left : u.state.queue = s.state.queue := queue_of_execute (narrows.runs executing)
  rw [← left] at numbered jobMem ⊢
  rcases runs_report narrows numbered jobMem reporting with ⟨rfl, reports⟩
  rcases runs_done_iff.mp ended with ⟨rfl, rfl⟩
  exact ⟨outcome, u, executing, rfl, reports⟩

/-- A call that processes a job finds none to process, or executes the flow of a pending one
under its id.  Other jobs stay as they are. -/
theorem runs_processNext (narrows : Narrows answers) (numbered : s.state.queue.Numbered)
    {processed : Except QueueError Bool} (ran : Runs answers manager.processNext s processed t) :
    (processed ≠ .ok true ∧ t = s) ∨
      ∃ job ∈ s.state.queue.jobs, ∃ outcome claimed u, job.status = .pending ∧
        Runs answers (manager.engine.execute (some job.executionId) job.args)
          (s.withQueue claimed) outcome u ∧
        processed = .ok true ∧ (∃ queue, t = u.withQueue queue) ∧
        ∀ row ∈ s.state.queue.jobs, row.id ≠ job.id → row ∈ t.state.queue.jobs := by
  by_cases enabled : manager.enabled = true
  · simp only [processNext, enabled, if_true, Service.now_bind, Service.queue_bind] at ran
    rcases narrows.runs_now ran with ⟨now, ran⟩
    rcases narrows.runs_queue ran with ⟨_, ran⟩
    have claims := numbered.claimNext now
    simp only [QueueTable.answer] at ran
    cases found : (s.state.queue.claimNext now).1 with
    | none =>
        rw [found] at claims ran
        rcases runs_done_iff.mp ran with ⟨rfl, rfl⟩
        exact .inl ⟨by simp, by rw [claims.1]⟩
    | some claimed =>
        rw [found] at claims ran
        rcases claims with ⟨job, replaces, rfl, pending, _⟩
        have stays := replaces.numbered numbered rfl
        have claimedMem : job.claim now ∈ (s.state.queue.claimNext now).2.jobs :=
          (replaces.mem_iff numbered).mpr (.inl rfl)
        rcases runs_runJob (s := s.withQueue (s.state.queue.claimNext now).2) narrows stays
          claimedMem ran with ⟨outcome, u, executing, rfl, new, queue, reports, rfl, _⟩
        refine .inr ⟨job, replaces.old_mem, outcome, _, u, pending, executing, rfl,
          ⟨queue, rfl⟩, ?_⟩
        intro row rowMem other
        exact (reports.mem_iff stays).mpr (.inr ⟨(replaces.mem_iff numbered).mpr
          (.inr ⟨rowMem, other⟩), other⟩)
  · simp only [processNext, enabled] at ran
    rcases runs_done_iff.mp ran with ⟨rfl, rfl⟩
    exact .inl ⟨by simp, rfl⟩

/-- A job that is no longer as it was has been taken, and its flow has been executed. -/
theorem runs_processNext_of_taken (narrows : Narrows answers) (numbered : s.state.queue.Numbered)
    {job : QueueJob} (waiting : job ∈ s.state.queue.jobs) {processed : Except QueueError Bool}
    (ran : Runs answers manager.processNext s processed t) (taken : job ∉ t.state.queue.jobs) :
    ∃ outcome claimed u,
      Runs answers (manager.engine.execute (some job.executionId) job.args)
        (s.withQueue claimed) outcome u ∧
      ∃ queue, t = u.withQueue queue := by
  rcases runs_processNext narrows numbered ran with
    ⟨_, rfl⟩ | ⟨other, otherMem, outcome, claimed, u, _, executing, _, left, others⟩
  · exact absurd waiting taken
  · have sameId : job.id = other.id := by
      by_contra different
      exact taken (others job waiting different)
    obtain rfl := numbered.job_unique waiting otherMem sameId
    exact ⟨outcome, claimed, u, executing, left⟩

/-- There is a call that processes the oldest job that waits. -/
theorem exists_runs_processNext (replies : Replies) (enabled : manager.enabled = true)
    (numbered : s.state.queue.Numbered) {job : QueueJob}
    (foremost : s.state.queue.Foremost job) :
    ∃ processed t, Runs replies.answering manager.processNext s processed t ∧
      job ∉ t.state.queue.jobs := by
  rcases numbered.claimNext_of_foremost foremost with ⟨claimed, replaces⟩
  let u := s.withQueue (s.state.queue.claimNext job.runAt).2
  rcases replies.exists_runs (manager.runJob (job.claim job.runAt)) u with ⟨processed, t, ran⟩
  refine ⟨processed, t, ?_, ?_⟩
  · simp only [processNext, enabled, if_true, Service.now_bind, Service.queue_bind]
    have unnoted : s.notes = s.notes ++ [] := (List.append_nil _).symm
    have told : (.ok (some (job.claim job.runAt)) : Except QueueError (Option QueueJob)) =
        (s.state.queue.answer job.runAt (.claimNext job.runAt)).1 :=
      congrArg Except.ok claimed.symm
    refine .ask (a := job.runAt) (t := s) ⟨⟨rfl, unnoted⟩, trivial⟩ ?_
    exact .ask (t := u) ⟨⟨⟨job.runAt, told, rfl⟩, unnoted⟩, trivial⟩ ran
  · have stays : u.state.queue.Numbered := replaces.numbered numbered rfl
    have claimedMem : job.claim job.runAt ∈ u.state.queue.jobs :=
      (replaces.mem_iff numbered).mpr (.inl rfl)
    rcases runs_runJob replies.narrows stays claimedMem ran with
      ⟨_, _, _, _, new, queue, reports, rfl, again⟩
    intro jobMem
    rcases (reports.mem_iff stays).mp jobMem with rfl | ⟨_, other⟩
    · have more := again foremost.pending
      simp [QueueJob.claim] at more
    · exact other rfl

end QueueManager

end EventFlow
