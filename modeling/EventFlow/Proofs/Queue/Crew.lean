import EventFlow.Proofs.Queue.Muster

/-!
# The crew of a queue manager

Any number of calls start workers, one call stops them, and beside them calls queue requests and
others use the store, in any order of their steps.  The workers are the only ones that claim
jobs, and only tasks that have been started work.
-/

namespace EventFlow

open Program QueueTable

/-- A queue manager whose workers are started and stopped: its queue with all who use it, whether
the signal to stop has been given, the list of workers, where the task of each worker stands, and
where the calls stand that start and stop workers. -/
structure Crew where
  queue : QueueSystem
  given : Bool
  listed : List TaskId
  posts : TaskId → Post
  starts : Nat → StartPhase
  stop : StopPhase

namespace Crew

/-- What the calls and the workers share. -/
def muster (s : Crew) : Muster := ⟨s.queue.tables, s.given, s.listed, s.posts⟩

@[simp]
theorem given_muster (s : Crew) : s.muster.given = s.given := rfl

@[simp]
theorem posts_muster (s : Crew) : s.muster.posts = s.posts := rfl

/-- What becomes of a crew when a worker goes on. -/
def worked (s : Crew) (task : TaskId) (post : Post) (phase : WorkerPhase) (tables : Shared)
    (history : List QueueEvent) : Crew :=
  { s with
    queue := { s.queue with
      tables
      workers := Function.update s.queue.workers task.value phase
      history }
    posts := Function.update s.posts task post }

theorem worked_worked (s : Crew) {task : TaskId} {post next : Post} {phase after : WorkerPhase}
    {tables later : Shared} {history longer : List QueueEvent} :
    (s.worked task post phase tables history).worked task next after later longer =
      s.worked task next after later longer := by
  simp only [worked, Function.update_idem]

@[simp]
theorem posts_worked (s : Crew) (task : TaskId) (post : Post) (phase : WorkerPhase)
    (tables : Shared) (history : List QueueEvent) :
    (s.worked task post phase tables history).posts = Function.update s.posts task post := rfl

@[simp]
theorem workers_worked (s : Crew) (task : TaskId) (post : Post) (phase : WorkerPhase)
    (tables : Shared) (history : List QueueEvent) :
    (s.worked task post phase tables history).queue.workers =
      Function.update s.queue.workers task.value phase := rfl

/-- In the beginning nobody has been started, and all calls are still to be made. -/
structure Initial (s : Crew) : Prop where
  queue : s.queue.Initial
  ungiven : s.given = false
  listed : s.listed = []
  posts : ∀ task, s.posts task = .absent
  starts : ∀ c, s.starts c = .asked
  stop : s.stop = .asked

/-- Nobody is about to write the list of workers. -/
structure Unlocked (s : Crew) : Prop where
  starts : ∀ c, (s.starts c).locks = false
  stop : s.stop.locks = false

/-- One step of a worker, of a call, or of the others.  The list is looked at only while it is
not locked. -/
inductive Step (manager : QueueManager) (bystanders : Bystanders) : Crew → Crew → Prop where
  | work {s : Crew} (task : TaskId) {events : List QueueEvent} {post : Post} {phase : WorkerPhase}
      {tables : Shared} (goesOn : RoundStep manager s.muster (s.posts task)
        (s.queue.workers task.value) events post phase tables) :
      Step manager bystanders s (s.worked task post phase tables (events ++ s.queue.history))
  | start {s : Crew} (c : Nat) {next : StartPhase} {muster : Muster}
      (goesOn : StartStep manager s.muster (s.starts c) next muster)
      (free : s.starts c = .entering → s.Unlocked) :
      Step manager bystanders s
        { s with
          listed := muster.listed
          posts := muster.posts
          starts := Function.update s.starts c next }
  | stop {s : Crew} {next : StopPhase} {muster : Muster}
      (goesOn : StopStep s.muster s.stop next muster) (free : s.stop = .taking → s.Unlocked) :
      Step manager bystanders s
        { s with
          given := muster.given
          listed := muster.listed
          stop := next }
  | enqueue {s : Crew} (c : Nat) {names : List ExecutionId} {next : EnqueuePhase}
      {tables : Shared}
      (goesOn : EnqueueStep manager s.queue.tables (s.queue.callers c) names next tables)
      (fresh : ∀ id ∈ names, id ∉ s.queue.made ∧ bystanders.mayName s.queue.tables.store id) :
      Step manager bystanders s
        { s with
          queue := { s.queue with
            tables
            made := names ++ s.queue.made
            callers := Function.update s.queue.callers c next } }
  | others {s : Crew} (now : Instant) (call : StoreCall)
      (allowed : bystanders.mayChange s.queue.made s.queue.tables.store
        (s.queue.tables.store.answer now call).2) :
      Step manager bystanders s
        { s with
          queue := { s.queue with
            tables := { s.queue.tables with
              store := (s.queue.tables.store.answer now call).2 } } }

/-- The states that a crew comes to. -/
inductive Reachable (manager : QueueManager) (bystanders : Bystanders) : Crew → Prop where
  | initial {s : Crew} (initial : Initial s) : Reachable manager bystanders s
  | step {s t : Crew} (reachable : Reachable manager bystanders s)
      (step : Step manager bystanders s t) : Reachable manager bystanders t

/-- A state may come to another one in any number of steps. -/
abbrev Later (manager : QueueManager) (bystanders : Bystanders) : Crew → Crew → Prop :=
  Relation.ReflTransGen (Step manager bystanders)

variable {manager : QueueManager} {bystanders : Bystanders} {s t : Crew}

theorem Reachable.later (reachable : Reachable manager bystanders s)
    (later : Later manager bystanders s t) : Reachable manager bystanders t := by
  induction later with
  | refl => exact reachable
  | tail _ step ih => exact .step ih step

/-! ## The queue of a crew -/

/-- A step of a crew is one of its queue, or does nothing to the queue. -/
theorem Step.queue (step : Step manager bystanders s t) :
    t.queue = s.queue ∨ QueueSystem.Step manager bystanders s.queue t.queue := by
  cases step with
  | @work task events post phase tables goesOn =>
      have stays {next : WorkerPhase} (same : next = s.queue.workers task.value) :
          { s.queue with
            tables := s.queue.tables
            workers := Function.update s.queue.workers task.value next
            history := [] ++ s.queue.history } = s.queue := by
        rw [same, Function.update_eq_self]
        rfl
      generalize s.posts task = before at goesOn
      generalize at_phase : s.queue.workers task.value = now at goesOn
      cases goesOn with
      | leave | look | wake | interrupt => exact .inl (stays at_phase.symm)
      | process goesOn => exact .inr (.work task.value (at_phase ▸ goesOn))
      | turn => exact .inr (.workAgain task.value at_phase)
  | start c goesOn free => exact .inl rfl
  | stop goesOn free => exact .inl rfl
  | enqueue c goesOn fresh => exact .inr (.enqueue c goesOn fresh)
  | others now call allowed => exact .inr (.others now call allowed)

theorem Reachable.queue (reachable : Reachable manager bystanders s) :
    s.queue.Reachable manager bystanders := by
  induction reachable with
  | initial initial => exact .initial initial.queue
  | step _ step ih =>
      rcases step.queue with same | step
      · exact same ▸ ih
      · exact ih.step step

/-! ## Workers between jobs -/

/-- Only tasks that process jobs are on their way with one, and an execution under way asks what
an execution asks. -/
structure Manned (s : Crew) : Prop where
  idle : ∀ task, (s.posts task).isProcessing = false → s.queue.workers task.value = .starting
  executes : ∀ w, (s.queue.workers w).Executes

theorem value_ne_of_ne {task other : TaskId} (ne : other ≠ task) : other.value ≠ task.value := by
  intro same
  cases other
  cases task
  exact ne (congrArg TaskId.mk same)

namespace Manned

theorem of_initial (initial : s.Initial) : s.Manned where
  idle task _ := initial.queue.workers task.value
  executes w job rest running := by simp [initial.queue.workers w] at running

theorem step (manned : s.Manned) (step : Step manager bystanders s t) : t.Manned := by
  cases step with
  | @work task events post phase tables goesOn =>
      have before := manned.idle task
      have executing := manned.executes task.value
      have here : (post.isProcessing = false → phase = .starting) ∧ phase.Executes := by
        generalize s.posts task = at_post at goesOn before
        generalize s.queue.workers task.value = at_phase at goesOn before executing
        cases goesOn with
        | leave | look | wake | interrupt => exact ⟨fun _ => before rfl, executing⟩
        | process goesOn => exact ⟨fun idle => Bool.noConfusion idle, goesOn.executes executing⟩
        | turn => exact ⟨fun _ => rfl, fun _ _ running => WorkerPhase.noConfusion running⟩
      constructor
      · intro other idle
        rw [posts_worked] at idle
        rw [workers_worked]
        by_cases same : other = task
        · subst same
          rw [Function.update_self] at idle ⊢
          exact here.1 idle
        · rw [Function.update_of_ne same] at idle
          rw [Function.update_of_ne (value_ne_of_ne same)]
          exact manned.idle other idle
      · intro w
        rw [workers_worked]
        by_cases same : w = task.value
        · subst same
          rw [Function.update_self]
          exact here.2
        · rw [Function.update_of_ne same]
          exact manned.executes w
  | start c goesOn free =>
      refine ⟨fun task idle => ?_, manned.executes⟩
      clear free
      generalize s.starts c = at_start at goesOn
      cases goesOn with
      | @spawn left batch new absent =>
          by_cases same : task = new
          · subst same
            exact manned.idle task (congrArg Post.isProcessing absent)
          · simp only [Function.update_of_ne same] at idle
            exact manned.idle task idle
      | turnAway | enter | findSome | findNone | list => exact manned.idle task idle
  | stop goesOn free => exact ⟨manned.idle, manned.executes⟩
  | enqueue c goesOn fresh => exact ⟨manned.idle, manned.executes⟩
  | others now call allowed => exact ⟨manned.idle, manned.executes⟩

end Manned

theorem Reachable.manned (reachable : Reachable manager bystanders s) : s.Manned := by
  induction reachable with
  | initial initial => exact .of_initial initial
  | step _ step ih => exact ih.step step

/-! ## Programs in a crew -/

/-- A worker goes on by a step. -/
theorem later_of_work {task : TaskId} {post next : Post} {phase after : WorkerPhase}
    {events : List QueueEvent} {tables : Shared} (at_post : s.posts task = post)
    (at_phase : s.queue.workers task.value = phase)
    (goesOn : RoundStep manager s.muster post phase events next after tables) :
    Later manager bystanders s (s.worked task next after tables (events ++ s.queue.history)) := by
  subst at_post at_phase
  exact .single (.work task goesOn)

/-- A worker pauses, and then goes on or ends. -/
theorem exists_of_pause {task : TaskId} {wait idle : Duration} {phase : WorkerPhase}
    {rest : Routine (Option Duration)} {before after : Muster} (given : before.given = s.given)
    (at_post : s.posts task = .waiting wait idle) (at_phase : s.queue.workers task.value = phase)
    (step : Program.Step Muster.answering (Post.pause (some wait) idle) before rest after) :
    ∃ post, post.Leaves manager phase rest ∧ after = before ∧
      Later manager bystanders s (s.worked task post phase s.queue.tables s.queue.history) := by
  obtain ⟨interrupted, ⟨only, rfl⟩, rfl⟩ := Muster.step_question_iff.mp step
  cases interrupted with
  | true =>
      have told : s.given = true := given.symm.trans (only rfl)
      exact ⟨.ended, .inl rfl, rfl, later_of_work at_post at_phase (.interrupt told)⟩
  | false =>
      exact ⟨.looking idle, .inr ⟨idle, rfl, rfl⟩, rfl, later_of_work at_post at_phase .wake⟩

/-- Whatever the program of a worker may do next, the crew may do. -/
theorem Reachable.later_of_worker (enabled : manager.enabled = true)
    (reachable : Reachable manager bystanders s) {task : TaskId}
    {rest : Routine (Option Duration)} {muster : Muster}
    (step : Program.Step Muster.answering
      ((s.posts task).routine manager (s.queue.workers task.value)) s.muster rest muster) :
    ∃ post phase history, post.Leaves manager phase rest ∧
      muster = { s.muster with tables := muster.tables } ∧
      Later manager bystanders s (s.worked task post phase muster.tables history) := by
  have idle := reachable.manned.idle task
  match at_post : s.posts task with
  | .absent | .ended =>
      rw [at_post] at step
      cases step
  | .looking wait =>
      rw [at_post, Post.routine, Post.workRound_eq] at step
      obtain ⟨given, ⟨rfl, rfl⟩, rfl⟩ := Muster.step_question_iff.mp step
      have starting := idle (by rw [at_post]; rfl)
      cases known : s.given with
      | true => exact ⟨.ended, _, _, .inl (if_pos known), rfl,
          later_of_work at_post starting (.leave known)⟩
      | false => exact ⟨.processing wait, _, _, .inl (if_neg (Bool.eq_false_iff.mp known)), rfl,
          later_of_work at_post starting (.look known)⟩
  | .waiting wait next =>
      rw [at_post] at step
      have starting := idle (by rw [at_post]; rfl)
      obtain ⟨post, leaves, rfl, later⟩ := exists_of_pause rfl at_post starting step
      exact ⟨post, _, _, leaves, rfl, later⟩
  | .processing wait =>
      rw [at_post, Post.routine] at step
      rcases step_bind_iff.mp step with ⟨between, processing, rfl⟩ | ⟨result, finished, pausing⟩
      · obtain ⟨processing, same⟩ := Muster.step_of_asksTables
          (WorkerPhase.routine_asksTables manager (reachable.manned.executes _)) processing
        obtain ⟨events, next, goesOn, rfl⟩ := WorkerStep.exists_of_step enabled processing
        rcases WorkerStep.settles manager (s.queue.workers task.value) with
          already | ⟨noted, settles⟩
        · rw [already] at goesOn
          exact ⟨.processing wait, next, _, .inl rfl, same,
            later_of_work at_post rfl (.process goesOn)⟩
        · -- The worker notes first that the execution is over.
          let noting : Crew := s.worked task (.processing wait)
            (s.queue.workers task.value).settled s.queue.tables (noted ++ s.queue.history)
          have first : Later manager bystanders s noting :=
            later_of_work at_post rfl (.process (settles s.queue.tables))
          have second : Later manager bystanders noting _ :=
            later_of_work (Function.update_self ..) (Function.update_self ..) (.process goesOn)
          rw [worked_worked] at second
          exact ⟨.processing wait, next, _, .inl rfl, same, first.trans second⟩
      · have ended := WorkerPhase.eq_ended_of_routine enabled finished
        let turned : Crew := s.worked task (.after manager wait result) .starting s.queue.tables
          s.queue.history
        have first : Later manager bystanders s turned := later_of_work at_post ended .turn
        have at_turn : turned.posts task = .after manager wait result := Function.update_self ..
        have starting : turned.queue.workers task.value = .starting := Function.update_self ..
        rw [Post.after] at at_turn
        generalize manager.nextWait wait result = next at pausing at_turn
        obtain ⟨wait?, idle⟩ := next
        cases wait? with
        | none => cases pausing
        | some wait =>
            obtain ⟨post, leaves, rfl, second⟩ := exists_of_pause rfl at_turn starting pausing
            rw [worked_worked] at second
            exact ⟨post, _, _, leaves, rfl, first.trans second⟩

/-- Whatever the program of a call may do next that starts workers, the crew may do, provided
that the list is not locked. -/
theorem exists_of_start (enabled : manager.enabled = true) {c : Nat} {rest : Routine Unit}
    {muster : Muster} (free : s.starts c = .entering → s.Unlocked)
    (step : Program.Step Muster.answering ((s.starts c).routine manager) s.muster rest muster) :
    ∃ next t, next.routine manager = rest ∧ t.muster = muster ∧
      t.starts = Function.update s.starts c next ∧ Step manager bystanders s t := by
  obtain ⟨next, goesOn, same⟩ := (StartStep.step_iff enabled).mp step
  refine ⟨next, _, same, ?_, rfl, .start c goesOn free⟩
  generalize s.starts c = phase at goesOn
  cases goesOn <;> rfl

/-- Whatever the program of the call may do next that stops the workers, the crew may do,
provided that the list is not locked. -/
theorem exists_of_stop {rest : Routine Unit} {muster : Muster}
    (free : s.stop = .taking → s.Unlocked)
    (step : Program.Step Muster.answering s.stop.routine s.muster rest muster) :
    ∃ t, t.stop.routine = rest ∧ t.muster = muster ∧ Step manager bystanders s t := by
  obtain ⟨next, goesOn, same⟩ := StopStep.step_iff.mp step
  refine ⟨_, same, ?_, .stop goesOn free⟩
  generalize s.stop = phase at goesOn
  cases goesOn <;> rfl

/-- The calls and the workers of a crew are the manager's programs under way.  Calls begin with
`start` and `stop` and a worker's rounds with `workRound`; whatever their programs may do next, the
crew may do, provided that the list is not locked where they turn to it. -/
structure FollowsPrograms (manager : QueueManager) (bystanders : Bystanders) (s : Crew) : Prop where
  queue : s.queue.FollowsPrograms manager
  begins : StartPhase.asked.routine manager = manager.start
  ends : StopPhase.asked.routine = QueueManager.stop
  rounds : ∀ idle phase, (Post.looking idle).routine manager phase = manager.workRound idle
  starts : ∀ c rest muster, (s.starts c = .entering → s.Unlocked) →
    Program.Step Muster.answering ((s.starts c).routine manager) s.muster rest muster →
    ∃ next t, next.routine manager = rest ∧ t.muster = muster ∧
      t.starts = Function.update s.starts c next ∧ Step manager bystanders s t
  stops : ∀ rest muster, (s.stop = .taking → s.Unlocked) →
    Program.Step Muster.answering s.stop.routine s.muster rest muster →
    ∃ t, t.stop.routine = rest ∧ t.muster = muster ∧ Step manager bystanders s t
  works : ∀ task rest muster,
    Program.Step Muster.answering ((s.posts task).routine manager (s.queue.workers task.value))
      s.muster rest muster →
    ∃ post phase history, post.Leaves manager phase rest ∧
      muster = { s.muster with tables := muster.tables } ∧
      Later manager bystanders s (s.worked task post phase muster.tables history)

theorem Reachable.followsPrograms (enabled : manager.enabled = true)
    (reachable : Reachable manager bystanders s) : s.FollowsPrograms manager bystanders where
  queue := QueueSystem.followsPrograms enabled s.queue
  begins := rfl
  ends := rfl
  rounds _ _ := rfl
  starts _ _ _ free step := exists_of_start enabled free step
  stops _ _ free step := exists_of_stop free step
  works _ _ _ step := reachable.later_of_worker enabled step

end Crew

end EventFlow
