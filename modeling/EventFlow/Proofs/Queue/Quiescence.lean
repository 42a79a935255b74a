import EventFlow.Proofs.Queue.Attempts
import EventFlow.Proofs.Queue.Gathering

/-!
# Stopping is quiescent

When the call has returned that stops the workers, nobody works any more and nobody ever will,
whatever calls still start workers.  So no job runs: each that has been claimed was completed,
has failed or waits for its next run, and each that waits goes on waiting as it is.
-/

namespace EventFlow

/-! ## Claims -/

namespace WorkerStep

variable {manager : QueueManager} {s t : Shared} {phase next : WorkerPhase}
  {events : List QueueEvent}

/-- A worker holds the job that it has just claimed. -/
theorem held?_of_claimed (step : WorkerStep manager s phase events next t) {id : QueueJobId}
    {now : Instant} (claimed : .claimed id now ∈ events) :
    ∃ job, next.held? = some job ∧ job.id = id := by
  cases step with
  | @claim now job queue found =>
      obtain ⟨rfl, rfl⟩ := QueueEvent.claimed.inj (List.mem_singleton.mp claimed)
      exact ⟨job, rfl, rfl⟩
  | _ => simp at claimed

/-- A worker that has taken a job has claimed it. -/
theorem claimed_of_take (step : WorkerStep manager s phase events next t)
    (idle : phase.held? = none) {job : QueueJob} (holds : next.held? = some job) :
    ∃ now, .claimed job.id now ∈ events := by
  cases step with
  | @claim now claimed queue found =>
      obtain rfl := Option.some.inj holds
      exact ⟨now, List.mem_singleton_self _⟩
  | readClock | findNone => cases holds
  | runOn | returned | complete | fail | postpone | reschedule => cases idle

end WorkerStep

namespace QueueSystem

variable {manager : QueueManager} {bystanders : Bystanders} {s t : QueueSystem}

/-- A job stays in the queue under its number. -/
theorem Orderly.exists_same_id (orderly : s.Orderly) (step : Step manager bystanders s t)
    {job : QueueJob} (jobMem : job ∈ s.jobs) : ∃ row ∈ t.jobs, row.id = job.id := by
  have stays := (orderly.identities step).subset (List.mem_map_of_mem jobMem)
  obtain ⟨row, rowMem, same⟩ := List.mem_map.mp stays
  exact ⟨row, rowMem, congrArg Prod.fst same⟩

/-- A job that has been claimed is one of the queue. -/
theorem Reachable.exists_job_of_claimed (reachable : Reachable manager bystanders s)
    {id : QueueJobId} {now : Instant} (claimed : .claimed id now ∈ s.history) :
    ∃ job ∈ s.jobs, job.id = id := by
  induction reachable with
  | initial initial => simp [initial.history] at claimed
  | @step s t reachable step ih =>
      have stays (before : .claimed id now ∈ s.history) : ∃ job ∈ t.jobs, job.id = id := by
        obtain ⟨job, jobMem, sameId⟩ := ih before
        obtain ⟨row, rowMem, same⟩ := reachable.orderly.exists_same_id step jobMem
        exact ⟨row, rowMem, same.trans sameId⟩
      have after := reachable.orderly.step step
      cases step with
      | work w goesOn =>
          rcases List.mem_append.mp claimed with new | before
          · obtain ⟨job, holds, sameId⟩ := goesOn.held?_of_claimed new
            exact ⟨job, (after.held w job (by simp [held?, holds])).1, sameId⟩
          · exact stays before
      | workAgain | enqueue | others => exact stays claimed

/-- A job that waits goes on waiting as it is, unless it is claimed. -/
theorem Orderly.mem_of_pending (orderly : s.Orderly) (step : Step manager bystanders s t) :
    ∃ events, t.history = events ++ s.history ∧
      ∀ row ∈ s.jobs, row.status = .pending →
        row ∈ t.jobs ∨ ∃ now, .claimed row.id now ∈ events := by
  cases step with
  | @work w events next tables goesOn =>
      refine ⟨events, rfl, fun row rowMem pending => ?_⟩
      rcases orderly.effect goesOn with
        ⟨queue, _⟩ | ⟨now, job, idle, _, replaces, holds⟩ | ⟨job, new, holds, replaces, _, _, _, _⟩
      · exact .inl (by rwa [jobs, queue])
      · by_cases same : row.id = job.id
        · obtain ⟨reading, claimed⟩ := goesOn.claimed_of_take idle holds
          exact .inr ⟨reading, same ▸ claimed⟩
        · exact .inl ((orderly.mem_jobs_iff replaces).mpr (.inr ⟨rowMem, same⟩))
      · have other : row.id ≠ job.id :=
          (orderly.id_ne_of_held rowMem (by simp [pending]) holds).symm
        exact .inl ((orderly.mem_jobs_iff replaces).mpr (.inr ⟨rowMem, other⟩))
  | workAgain w ended => exact ⟨[], rfl, fun row rowMem _ => .inl rowMem⟩
  | enqueue c goesOn fresh =>
      refine ⟨[], rfl, fun row rowMem _ => .inl ?_⟩
      rcases goesOn.effect with ⟨rfl, _⟩ | ⟨rfl, _⟩ | ⟨request, id, now, _, _, _, rfl⟩
      · exact rowMem
      · exact rowMem
      · exact QueueTable.mem_push.mpr (.inl rowMem)
  | others now call allowed => exact ⟨[], rfl, fun row rowMem _ => .inl rowMem⟩

theorem Reachable.mem_of_pending (reachable : Reachable manager bystanders s)
    (later : Later manager bystanders s t) :
    ∃ events, t.history = events ++ s.history ∧
      ∀ row ∈ s.jobs, row.status = .pending →
        row ∈ t.jobs ∨ ∃ now, .claimed row.id now ∈ events := by
  induction later with
  | refl => exact ⟨[], rfl, fun row rowMem _ => .inl rowMem⟩
  | tail before step ih =>
      obtain ⟨events, history, stays⟩ := ih
      obtain ⟨last, further, staysOn⟩ := (reachable.later before).orderly.mem_of_pending step
      refine ⟨last ++ events, by rw [further, history, List.append_assoc], ?_⟩
      intro row rowMem pending
      rcases stays row rowMem pending with still | ⟨now, claimed⟩
      · rcases staysOn row still pending with there | ⟨now, claimed⟩
        · exact .inl there
        · exact .inr ⟨now, List.mem_append_left _ claimed⟩
      · exact .inr ⟨now, List.mem_append_right _ claimed⟩

/-- When no job runs, each that has been claimed was completed, has failed or waits for its next
run. -/
theorem Reachable.settled_of_resting (reachable : Reachable manager bystanders s)
    (resting : ∀ job ∈ s.jobs, job.status ≠ .running) {id : QueueJobId} {now : Instant}
    (claimed : .claimed id now ∈ s.history) :
    ∃ job ∈ s.jobs, job.id = id ∧ (job.status = .completed ∨ job.status = .failed ∨
      job.status = .pending ∧ 0 < job.attempts) := by
  obtain ⟨job, jobMem, rfl⟩ := reachable.exists_job_of_claimed claimed
  refine ⟨job, jobMem, rfl, ?_⟩
  have started : 0 < startedRuns s.history job.id :=
    List.countP_pos_iff.mpr ⟨_, claimed, beq_self_eq_true _⟩
  rw [(reachable.counted.resting job jobMem (resting job jobMem)).started] at started
  cases status : job.status with
  | completed => exact .inl rfl
  | failed => exact .inr (.inl rfl)
  | running => exact absurd status (resting job jobMem)
  | pending => exact .inr (.inr ⟨rfl, by simpa [status] using started⟩)

end QueueSystem

namespace Crew

variable {manager : QueueManager} {bystanders : Bystanders} {s t : Crew}

theorem Later.queue (later : Later manager bystanders s t) :
    QueueSystem.Later manager bystanders s.queue t.queue := by
  induction later with
  | refl => exact .refl
  | tail _ step ih =>
      rcases step.queue with same | step
      · exact same ▸ ih
      · exact ih.tail step

/-! ## Nobody works -/

/-- Nobody works, no job runs, and each job that has been claimed was completed, has failed or
waits for its next run. -/
structure Quiet (s : Crew) : Prop where
  idle : ∀ task, (s.posts task).works = false
  resting : ∀ job ∈ s.queue.jobs, job.status ≠ .running
  settled : ∀ id now, .claimed id now ∈ s.queue.history →
    ∃ job ∈ s.queue.jobs, job.id = id ∧ (job.status = .completed ∨ job.status = .failed ∨
      job.status = .pending ∧ 0 < job.attempts)

/-- The call that stops the workers has returned. -/
def Stopped (s : Crew) : Prop := s.stop = .joining []

theorem Reachable.quiet_of_idle (reachable : Reachable manager bystanders s)
    (idle : ∀ task, (s.posts task).works = false) : s.Quiet := by
  have resting : ∀ job ∈ s.queue.jobs, job.status ≠ .running := by
    intro job jobMem running
    obtain ⟨w, holds⟩ := reachable.queue.orderly.holder job jobMem running
    have starting := reachable.manned.idle ⟨w⟩ (by
      have idle := idle ⟨w⟩
      cases post : s.posts ⟨w⟩ with
      | processing => simp [post, Post.works] at idle
      | _ => rfl)
    rw [QueueSystem.held?, starting] at holds
    cases holds
  exact ⟨idle, resting, fun _ _ => reachable.queue.settled_of_resting resting⟩

/-- When the call to stop has returned, the signal has been given and nobody works. -/
theorem Reachable.idle_of_stopped (reachable : Reachable manager bystanders s)
    (stopped : s.Stopped) : s.given = true ∧ ∀ task, (s.posts task).works = false := by
  have given : s.given = true := by
    cases ungiven : s.given with
    | true => rfl
    | false =>
        have asked := reachable.ruled.given.mp ungiven
        rw [stopped] at asked
        cases asked
  refine ⟨given, fun task => Bool.eq_false_iff.mpr fun works => ?_⟩
  have awaited := reachable.gathered.awaited task (Post.active_of_works works)
  rw [Awaited, stopped] at awaited
  cases awaited

/-- While nobody works and the signal has been given, jobs are pushed and nothing else happens
to the queue. -/
theorem Step.queue_of_idle (step : Step manager bystanders s t)
    (idle : ∀ task, (s.posts task).works = false) :
    t.queue.history = s.queue.history ∧ s.queue.jobs <+: t.queue.jobs := by
  cases step with
  | @work task events post phase tables goesOn =>
      have idle := idle task
      generalize s.posts task = at_post at goesOn idle
      generalize s.queue.workers task.value = at_phase at goesOn
      cases goesOn with
      | leave | look | wake | interrupt => exact ⟨rfl, List.prefix_refl _⟩
      | process | turn => cases idle
  | start c goesOn free => exact ⟨rfl, List.prefix_refl _⟩
  | stop goesOn free => exact ⟨rfl, List.prefix_refl _⟩
  | enqueue c goesOn fresh =>
      refine ⟨rfl, ?_⟩
      rcases goesOn.effect with ⟨rfl, _⟩ | ⟨rfl, _⟩ | ⟨request, id, now, _, _, _, rfl⟩
      · exact List.prefix_refl _
      · exact List.prefix_refl _
      · exact List.prefix_append _ _
  | others now call allowed => exact ⟨rfl, List.prefix_refl _⟩

theorem queue_of_later (later : Later manager bystanders s t) (given : s.given = true)
    (idle : ∀ task, (s.posts task).works = false) :
    t.queue.history = s.queue.history ∧ s.queue.jobs <+: t.queue.jobs := by
  induction later with
  | refl => exact ⟨rfl, List.prefix_refl _⟩
  | @tail u v before step ih =>
      have stillIdle (task : TaskId) : (u.posts task).works = false :=
        Bool.eq_false_iff.mpr fun works =>
          absurd ((works_of_later before given).2 task works) (by simp [idle task])
      obtain ⟨history, jobs⟩ := step.queue_of_idle stillIdle
      exact ⟨history.trans ih.1, ih.2.trans jobs⟩

/-! ## How many work -/

/-- The call starts no more workers than the settings ask for. -/
def Within (config : QueueConfig) : StartPhase → Prop
  | .spawning left batch => batch.length + left = max config.workers 1
  | .done batch => batch.length ≤ max config.workers 1
  | _ => True

theorem within_of_startStep {u v : Muster} {phase next : StartPhase}
    (within : Within manager.config phase) (goesOn : StartStep manager u phase next v) :
    Within manager.config next := by
  cases goesOn with
  | turnAway | findSome => exact Nat.zero_le _
  | enter => trivial
  | findNone => simp [Within]
  | spawn =>
      simp only [Within, List.length_append, List.length_singleton] at within ⊢
      omega
  | list => exact Nat.le_of_eq within

theorem Reachable.within (reachable : Reachable manager bystanders s) (c : Nat) :
    Within manager.config (s.starts c) := by
  induction reachable with
  | initial initial =>
      rw [initial.starts c]
      trivial
  | step _ step ih =>
      cases step with
      | start d goesOn free =>
          by_cases same : c = d
          · subst same
            simp only [Function.update_self]
            exact within_of_startStep ih goesOn
          · simpa only [Function.update_of_ne same] using ih
      | work | stop | enqueue | others => exact ih

theorem Reachable.length_added_le (reachable : Reachable manager bystanders s) (c : Nat) :
    (s.starts c).added.length ≤ max manager.config.workers 1 := by
  have within := reachable.within c
  cases phase : s.starts c with
  | asked | entering => exact Nat.zero_le _
  | spawning left batch =>
      rw [phase] at within
      exact Nat.le_of_add_right_le (Nat.le_of_eq within)
  | done batch =>
      rw [phase] at within
      exact within

/-- A call that has not looked at the signal before it was given starts nobody. -/
theorem Step.turned_away (step : Step manager bystanders s t) (given : s.given = true) {c : Nat}
    (idle : s.starts c = .asked ∨ s.starts c = .done []) :
    t.starts c = .asked ∨ t.starts c = .done [] := by
  cases step with
  | @start d next muster goesOn free =>
      by_cases same : c = d
      · subst same
        simp only [Function.update_self]
        rcases idle with asked | done
        · rw [asked] at goesOn
          cases goesOn with
          | turnAway => exact .inr rfl
          | enter ungiven => exact absurd ungiven (by simp [given])
        · rw [done] at goesOn
          cases goesOn
      · simpa only [Function.update_of_ne same] using idle
  | work | stop | enqueue | others => exact idle

theorem added_of_later (later : Later manager bystanders s t) (given : s.given = true) {c : Nat}
    (asked : s.starts c = .asked) : (t.starts c).added = [] := by
  have idle : t.starts c = .asked ∨ t.starts c = .done [] := by
    induction later with
    | refl => exact .inl asked
    | tail before step ih => exact step.turned_away (works_of_later before given).1 ih
  rcases idle with same | same
  all_goals
    rw [same]
    rfl

/-! ## Stopping -/

end Crew

end EventFlow

/-! ## Two workers are dismissed -/

namespace EventFlow.FirstJob

open Crew

/-- Two workers have been started, of which the first has claimed the job, and a second call is
about to look at the list. -/
def hired : Crew where
  queue := claimed
  given := false
  listed := [⟨0⟩, ⟨1⟩]
  posts := Function.update
    (Function.update (fun _ => .absent) ⟨0⟩ (.processing manager.initialIdle))
    ⟨1⟩ (.looking manager.initialIdle)
  starts := Function.update (Function.update (fun _ => .asked) 0 (.done [⟨0⟩, ⟨1⟩])) 1 .entering
  stop := .asked

theorem hired_reachable : hired.Reachable manager .any := by
  let start : Crew := ⟨⟨⟨store, .empty⟩, [], fun _ => .starting, fun _ => .asked request, []⟩,
    false, [], fun _ => .absent, fun _ => .asked, .asked⟩
  have begun : start.Reachable manager .any :=
    .initial ⟨⟨.answer .empty _ _, rfl, rfl, fun _ => rfl, fun _ => ⟨request, rfl⟩, rfl⟩, rfl, rfl,
      fun _ => rfl, fun _ => rfl, rfl⟩
  have found := begun.step (.enqueue 0 .lookUp (by simp))
  have notBlank : (⟨"run"⟩ : ExecutionId).isBlank = false := by decide +kernel
  have named := found.step (.enqueue 0 (.name notBlank) (by
    intro id idMem
    exact ⟨List.not_mem_nil, trivial⟩))
  have dated := named.step (.enqueue 0 (.readClock (.ofMilliseconds 1)) (by simp))
  have pushed := dated.step (.enqueue 0 .push (by simp))
  simp only [Function.update_idem] at pushed
  have entered := pushed.step (.start 0 (.enter rfl) (by rintro ⟨⟩))
  have locked := entered.step (.start 0 (.findNone rfl) fun _ => ⟨fun c => by
    by_cases here : c = 0 <;> simp [here, start, StartPhase.locks], rfl⟩)
  have first := locked.step (.start 0 (.spawn ⟨0⟩ rfl) (by rintro ⟨⟩))
  have looked := first.step (.work ⟨0⟩ (.look rfl))
  have read := looked.step (.work ⟨0⟩ (.process (.readClock (.ofMilliseconds 2))))
  have claim : FirstJob.pushed.tables.queue.claimNext (.ofMilliseconds 2) =
      (some (job.claim (.ofMilliseconds 2)), ⟨1, [job.claim (.ofMilliseconds 2)]⟩) := rfl
  have claimed := read.step (.work ⟨0⟩ (.process (.claim claim)))
  have second := claimed.step (.start 0 (.spawn ⟨1⟩ rfl) (by rintro ⟨⟩))
  have listed := second.step (.start 0 .list (by rintro ⟨⟩))
  have done := listed.step (.start 1 (.enter rfl) (by rintro ⟨⟩))
  simp only [worked, Function.update_idem] at done
  exact done

/-- The signal has been given and the list of workers has been taken, while the first worker
processes its job. -/
def calledOff : Crew :=
  { hired with
    given := true
    listed := []
    stop := .joining [⟨0⟩, ⟨1⟩] }

/-- The other call, which has looked at the signal before, has started two more workers. -/
def overlapped : Crew :=
  { calledOff with
    listed := [⟨2⟩, ⟨3⟩]
    posts := Function.update (Function.update hired.posts ⟨2⟩ (.looking manager.initialIdle))
      ⟨3⟩ (.looking manager.initialIdle)
    starts := Function.update (Function.update (fun _ => .asked) 0 (.done [⟨0⟩, ⟨1⟩]))
      1 (.done [⟨2⟩, ⟨3⟩]) }

theorem unlocked_hired (c : Nat) : (hired.starts c).locks = false := by
  by_cases last : c = 1
  · simp [hired, last, StartPhase.locks]
  · by_cases first : c = 0 <;> simp [hired, last, first, StartPhase.locks]

theorem calledOff_reachable : calledOff.Reachable manager .any := by
  have told := hired_reachable.step (.stop .give (by rintro ⟨⟩))
  have taken := told.step (.stop .take fun _ => ⟨unlocked_hired, rfl⟩)
  have cleared := taken.step (.stop .clear (by rintro ⟨⟩))
  exact cleared

theorem overlapped_later : Later manager .any calledOff overlapped := by
  have locked : Later manager .any calledOff _ :=
    .single (.start 1 (.findNone rfl) fun _ => ⟨unlocked_hired, rfl⟩)
  have third := locked.tail (.start 1 (.spawn ⟨2⟩ rfl) (by rintro ⟨⟩))
  have fourth := third.tail (.start 1 (.spawn ⟨3⟩ rfl) (by rintro ⟨⟩))
  have listed := fourth.tail (.start 1 .list (by rintro ⟨⟩))
  simp only [calledOff, hired, muster, Function.update_idem] at listed
  exact listed

/-- The call to stop has returned.  The job has been put off, and the two workers that were started
last have yet to look at the signal. -/
def dismissed : Crew where
  queue := { putOff with workers := fun _ => .starting }
  given := true
  listed := [⟨2⟩, ⟨3⟩]
  posts := Function.update (Function.update overlapped.posts ⟨0⟩ .ended) ⟨1⟩ .ended
  starts := overlapped.starts
  stop := .joining []

theorem dismissed_reachable : dismissed.Reachable manager .any := by
  have listed := calledOff_reachable.later overlapped_later
  have withdrawn := listed.step (.others (.ofMilliseconds 3)
    (.updateFlow (flow.setEnabled false (.ofMilliseconds 3))) trivial)
  have run := withdrawn.step (.work ⟨0⟩ (.process
    (.runOn (q := .store (.getFlow ⟨1⟩)) ⟨.ofMilliseconds 3, rfl, rfl⟩)))
  have returned := run.step (.work ⟨0⟩ (.process .returned))
  have postponed := returned.step
    (.work ⟨0⟩ (.process (.postpone (.ofMilliseconds 4) (by decide))))
  have reported := postponed.step (.work ⟨0⟩ (.process (.reschedule (.ofMilliseconds 5) rfl)))
  have turned := reported.step (.work ⟨0⟩ .turn)
  have left := turned.step (.work ⟨0⟩ (.leave rfl))
  have both := left.step (.work ⟨1⟩ (.leave rfl))
  have one := both.step (.stop (.join rfl) (by rintro ⟨⟩))
  have joined := one.step (.stop (.join rfl) (by rintro ⟨⟩))
  simp only [worked, muster, calledOff, overlapped, hired, claimed, Function.update_idem,
    Function.update_eq_self] at joined
  exact joined

/-- How the tables answer where the queue refuses every report about a job. -/
def answerUnreported (s : Shared) : (q : ServiceCall) → q.Answer × Shared
  | .queue (.complete _) => (.error (.backend "down"), s)
  | .queue (.fail _ _ _) => (.error (.backend "down"), s)
  | .queue (.reschedule _ _ _ _) => (.error (.backend "down"), s)
  | q => s.answerAt (.ofMilliseconds 2) q

end EventFlow.FirstJob
