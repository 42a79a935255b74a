import EventFlow.Proofs.Queue.Crew

/-!
# Workers that are waited for

A call that starts workers may overlap with the call that stops them, so that there may be tasks
which nobody waits for.  But these have been started after the signal, and end when they look at
it.  All others have been started by one call, and are on the list when it is taken.
-/

namespace EventFlow

namespace Post

/-- Has the worker looked at the signal and not ended since? -/
def works : Post → Bool
  | .processing _ => true
  | .waiting _ _ => true
  | _ => false

/-- Does the worker work, or may it still get to it? -/
def active (given : Bool) : Post → Bool
  | .looking _ => ! given
  | post => post.works

theorem active_of_works {post : Post} {given : Bool} (works : post.works = true) :
    post.active given = true := by
  cases post with
  | looking => contradiction
  | _ => exact works

/-- When the signal has been given, nobody gets to work who does not work already. -/
theorem active_given (post : Post) : post.active true = post.works := by
  cases post <;> rfl

end Post

namespace RoundStep

variable {manager : QueueManager} {s : Muster} {post next : Post} {phase after : WorkerPhase}
  {events : List QueueEvent} {tables : Shared}

/-- Who works or may still get to it in a step of a worker: nobody else than before, and nobody
less before the signal. -/
theorem active (goesOn : RoundStep manager s post phase events next after tables) :
    (next.active s.given = true → post.active s.given = true) ∧
      (s.given = false → post.active s.given = true → next.active s.given = true) := by
  have turned (idle : Duration) (result : Except QueueError Bool) :
      s.given = false → (Post.after manager idle result).active s.given = true := by
    intro ungiven
    unfold Post.after
    split
    · simp [Post.active, ungiven]
    · rfl
  cases goesOn with
  | leave given =>
      exact ⟨fun works => Bool.noConfusion works, fun ungiven => by simp [given] at ungiven⟩
  | look ungiven => simp [Post.active, ungiven, Post.works]
  | process => exact ⟨fun _ => rfl, fun _ _ => rfl⟩
  | turn => exact ⟨fun _ => rfl, fun ungiven _ => turned _ _ ungiven⟩
  | wake => exact ⟨fun _ => rfl, fun ungiven _ => by simp [Post.active, ungiven]⟩
  | interrupt given =>
      exact ⟨fun works => Bool.noConfusion works, fun ungiven => by simp [given] at ungiven⟩

/-- Only a task that has been started goes on. -/
theorem present (goesOn : RoundStep manager s post phase events next after tables) :
    post ≠ .absent ∧ next ≠ .absent := by
  cases goesOn with
  | turn =>
      refine ⟨nofun, ?_⟩
      unfold Post.after
      split <;> nofun
  | _ => exact ⟨nofun, nofun⟩

end RoundStep

namespace Crew

variable {manager : QueueManager} {bystanders : Bystanders} {s t : Crew}

/-! ## Who works -/

/-- Does the worker work, or may it still get to it? -/
def active (s : Crew) (task : TaskId) : Bool := (s.posts task).active s.given

/-- The call that stops the workers waits for the task, or will find it on the list. -/
def Awaited (s : Crew) (task : TaskId) : Prop :=
  match s.stop with
  | .clearing tasks => task ∈ tasks
  | .joining tasks => task ∈ tasks
  | _ => task ∈ s.listed ∨ ∃ c, (s.starts c).locks = true ∧ task ∈ (s.starts c).added

/-- The list is locked by one at a time, and empty while workers are started.  The signal is
given by the call that stops the workers. -/
structure Ruled (s : Crew) : Prop where
  given : s.given = false ↔ s.stop = .asked
  starts : ∀ c, (s.starts c).locks = true →
    s.listed = [] ∧ s.stop.locks = false ∧ ∀ d, (s.starts d).locks = true → d = c

/-- All that work or may still get to it are waited for and have been started by one call, and
nobody has been started twice. -/
structure Gathered (s : Crew) : Prop where
  awaited : ∀ task, s.active task = true → s.Awaited task
  together : ∃ c, ∀ task, s.active task = true → task ∈ (s.starts c).added
  present : ∀ c, ∀ task ∈ (s.starts c).added, s.posts task ≠ .absent
  stays : s.given = false → ∀ c, ∀ task ∈ (s.starts c).added, s.active task = true
  apart : ∀ c d task, task ∈ (s.starts c).added → task ∈ (s.starts d).added → c = d

theorem Awaited.mono {task : TaskId} (awaited : s.Awaited task) (stop : t.stop = s.stop)
    (listed : t.listed = s.listed)
    (starts : ∀ c, (s.starts c).locks = true →
      (t.starts c).locks = true ∧ (s.starts c).added ⊆ (t.starts c).added) : t.Awaited task := by
  rw [Awaited, stop]
  rw [Awaited] at awaited
  split at awaited
  · exact awaited
  · exact awaited
  · rcases awaited with onList | ⟨c, locks, taskMem⟩
    · exact .inl (listed ▸ onList)
    · obtain ⟨locksStill, grows⟩ := starts c locks
      exact .inr ⟨c, locksStill, grows taskMem⟩

/-! ## A worker is started -/

/-- What becomes of a crew when a call starts a worker. -/
def spawned (s : Crew) (c : Nat) (next : StartPhase) (task : TaskId) (idle : Duration) : Crew :=
  { s with
    posts := Function.update s.posts task (.looking idle)
    starts := Function.update s.starts c next }

section Spawned

variable {c d : Nat} {next : StartPhase} {task other : TaskId} {idle : Duration}

@[simp]
theorem posts_spawned : (s.spawned c next task idle).posts =
    Function.update s.posts task (.looking idle) := rfl

@[simp]
theorem starts_spawned :
    (s.spawned c next task idle).starts = Function.update s.starts c next := rfl

theorem active_spawned_self : (s.spawned c next task idle).active task = ! s.given := by
  simp [active, spawned, Post.active]

theorem active_spawned_of_ne (ne : other ≠ task) :
    (s.spawned c next task idle).active other = s.active other := by
  simp [active, spawned, ne]

/-- The call knows the new worker, and all else that calls have started is as before. -/
theorem mem_added_spawned (added : next.added = (s.starts c).added ++ [task]) :
    other ∈ ((s.spawned c next task idle).starts d).added ↔
      d = c ∧ other = task ∨ other ∈ (s.starts d).added := by
  by_cases here : d = c
  · rw [here, starts_spawned, Function.update_self, added, List.mem_append, List.mem_singleton]
    simp [or_comm]
  · simp [here]

theorem Awaited.spawned (awaited : s.Awaited other) (stays : next.locks = true)
    (added : next.added = (s.starts c).added ++ [task]) :
    (s.spawned c next task idle).Awaited other := by
  refine awaited.mono rfl rfl fun d locks => ⟨?_, fun _ before =>
    (mem_added_spawned added).mpr (.inr before)⟩
  rw [starts_spawned]
  by_cases here : d = c
  · rwa [here, Function.update_self]
  · rwa [Function.update_of_ne here]

end Spawned

/-! ## Who may write the list -/

theorem locks_or_of_update {starts : Nat → StartPhase} {c d : Nat} {next : StartPhase}
    (locks : (Function.update starts c next d).locks = true) :
    d = c ∧ next.locks = true ∨ d ≠ c ∧ (starts d).locks = true := by
  by_cases same : d = c
  · rw [same, Function.update_self] at locks
    exact .inl ⟨same, locks⟩
  · rw [Function.update_of_ne same] at locks
    exact .inr ⟨same, locks⟩

theorem added_of_update {starts : Nat → StartPhase} {c : Nat} {next : StartPhase}
    (same : next.added = (starts c).added) (d : Nat) :
    (Function.update starts c next d).added = (starts d).added := by
  by_cases here : d = c
  · rw [here, Function.update_self, same]
  · rw [Function.update_of_ne here]

namespace Ruled

theorem of_initial (initial : s.Initial) : s.Ruled where
  given := by simp [initial.ungiven, initial.stop]
  starts c locks := by simp [initial.starts c, StartPhase.locks] at locks

/-- While workers are started and the list has not been taken, nobody is waited for but them. -/
theorem mem_added_of_awaited (ruled : s.Ruled) {c : Nat} (locks : (s.starts c).locks = true)
    (untaken : s.stop = .asked ∨ s.stop = .taking) {task : TaskId} (awaited : s.Awaited task) :
    task ∈ (s.starts c).added := by
  obtain ⟨unlisted, _, only⟩ := ruled.starts c locks
  have found : task ∈ s.listed ∨ ∃ d, (s.starts d).locks = true ∧ task ∈ (s.starts d).added := by
    rcases untaken with asked | taking
    · rwa [Awaited, asked] at awaited
    · rwa [Awaited, taking] at awaited
  rcases found with listed | ⟨d, locksToo, taskMem⟩
  · rw [unlisted] at listed
    cases listed
  · exact only d locksToo ▸ taskMem

theorem start (ruled : s.Ruled) {c : Nat} {next : StartPhase} {muster : Muster}
    (effect : StartEffect s.muster (s.starts c) next muster)
    (free : s.starts c = .entering → s.Unlocked) :
    Ruled { s with
      listed := muster.listed
      posts := muster.posts
      starts := Function.update s.starts c next } := by
  refine ⟨ruled.given, fun d locks => ?_⟩
  have here := locks_or_of_update locks
  cases effect with
  | quiet _ _ unlocked =>
      rcases here with ⟨_, locked⟩ | ⟨_, before⟩
      · simp [unlocked] at locked
      · obtain ⟨unlisted, free, only⟩ := ruled.starts d before
        refine ⟨unlisted, free, fun e locksToo => ?_⟩
        rcases locks_or_of_update locksToo with ⟨_, locked⟩ | ⟨_, too⟩
        · simp [unlocked] at locked
        · exact only e too
  | lock entering unlisted _ _ =>
      have unlocked := free entering
      have only (e : Nat) (locks : (Function.update s.starts c next e).locks = true) : e = c := by
        rcases locks_or_of_update locks with ⟨same, _⟩ | ⟨_, before⟩
        · exact same
        · simp [unlocked.starts e] at before
      exact ⟨unlisted, unlocked.stop, fun e locksToo => (only e locksToo).trans (only d locks).symm⟩
  | spawn task idle new before stays added =>
      obtain ⟨unlisted, free, only⟩ := ruled.starts c before
      have only (e : Nat) (locks : (Function.update s.starts c next e).locks = true) : e = c := by
        rcases locks_or_of_update locks with ⟨same, _⟩ | ⟨_, too⟩
        · exact same
        · exact only e too
      exact ⟨unlisted, free, fun e locksToo => (only e locksToo).trans (only d locks).symm⟩
  | unlock before unlocked added =>
      obtain ⟨_, _, only⟩ := ruled.starts c before
      rcases here with ⟨_, locked⟩ | ⟨other, too⟩
      · simp [unlocked] at locked
      · exact absurd (only d too) other

theorem stop (ruled : s.Ruled) {next : StopPhase} {muster : Muster}
    (goesOn : StopStep s.muster s.stop next muster) (free : s.stop = .taking → s.Unlocked) :
    Ruled { s with
      given := muster.given
      listed := muster.listed
      stop := next } := by
  have given := ruled.given
  have starts := ruled.starts
  generalize at_stop : s.stop = phase at goesOn
  rw [at_stop] at given starts free
  cases goesOn with
  | give => exact ⟨by simp, starts⟩
  | take =>
      refine ⟨by simpa using given, fun c locks => ?_⟩
      have unlocked := (free rfl).starts c
      rw [locks] at unlocked
      contradiction
  | clear =>
      refine ⟨by simpa using given, fun c locks => ?_⟩
      obtain ⟨_, locked, _⟩ := starts c locks
      contradiction
  | join ended => exact ⟨by simpa using given, starts⟩

theorem step (ruled : s.Ruled) (step : Step manager bystanders s t) : t.Ruled := by
  cases step with
  | work task goesOn => exact ⟨ruled.given, ruled.starts⟩
  | start c goesOn free => exact ruled.start goesOn.effect free
  | stop goesOn free => exact ruled.stop goesOn free
  | enqueue c goesOn fresh => exact ⟨ruled.given, ruled.starts⟩
  | others now call allowed => exact ⟨ruled.given, ruled.starts⟩

end Ruled

/-! ## Who is waited for -/

namespace Gathered

theorem of_initial (initial : s.Initial) : s.Gathered := by
  have nobody (task : TaskId) : s.active task = false := by
    rw [active, initial.posts task]
    rfl
  have none (c : Nat) : (s.starts c).added = [] := by rw [initial.starts c]; rfl
  constructor
  · intro task works
    simp [nobody] at works
  · exact ⟨0, fun task works => by simp [nobody] at works⟩
  all_goals simp [none]

/-- Nobody more works, and who works is still waited for. -/
theorem of_shrinks (gathered : s.Gathered)
    (shrinks : ∀ task, t.active task = true → s.active task = true)
    (awaited : ∀ task, t.active task = true → s.Awaited task → t.Awaited task)
    (added : ∀ c, (t.starts c).added = (s.starts c).added)
    (present : ∀ task, s.posts task ≠ .absent → t.posts task ≠ .absent)
    (stays : t.given = false →
      s.given = false ∧ ∀ task, s.active task = true → t.active task = true) : t.Gathered where
  awaited task works := awaited task works (gathered.awaited task (shrinks task works))
  together := by
    obtain ⟨c, together⟩ := gathered.together
    exact ⟨c, fun task works => added c ▸ together task (shrinks task works)⟩
  present c task taskMem := present task (gathered.present c task (added c ▸ taskMem))
  stays ungiven c task taskMem := by
    obtain ⟨before, keeps⟩ := stays ungiven
    exact keeps task (gathered.stays before c task (added c ▸ taskMem))
  apart c d task first second := gathered.apart c d task (added c ▸ first) (added d ▸ second)

/-- Everybody stays where they are, and who works is still waited for. -/
theorem of_awaited (gathered : s.Gathered) (posts : t.posts = s.posts) (given : t.given = s.given)
    (added : ∀ c, (t.starts c).added = (s.starts c).added)
    (awaited : ∀ task, s.active task = true → s.Awaited task → t.Awaited task) : t.Gathered := by
  have same (task : TaskId) : t.active task = s.active task := by rw [active, posts, given, active]
  apply gathered.of_shrinks
  · exact fun task works => same task ▸ works
  · exact fun task works => awaited task (same task ▸ works)
  · exact added
  · exact fun task before => posts ▸ before
  · exact fun ungiven => ⟨given ▸ ungiven, fun task works => (same task).trans works⟩

theorem work (gathered : s.Gathered) {task : TaskId} {events : List QueueEvent} {post : Post}
    {phase : WorkerPhase} {tables : Shared} (goesOn : RoundStep manager s.muster (s.posts task)
      (s.queue.workers task.value) events post phase tables) (history : List QueueEvent) :
    (s.worked task post phase tables history).Gathered := by
  obtain ⟨shrinks, stays⟩ := goesOn.active
  apply gathered.of_shrinks
  · intro other works
    by_cases same : other = task
    · subst same
      rw [active, posts_worked, Function.update_self] at works
      exact shrinks works
    · rwa [active, posts_worked, Function.update_of_ne same] at works
  · exact fun _ _ => id
  · exact fun _ => rfl
  · intro other before
    rw [posts_worked]
    by_cases same : other = task
    · rw [same, Function.update_self]
      exact goesOn.present.2
    · rwa [Function.update_of_ne same]
  · refine fun ungiven => ⟨ungiven, fun other works => ?_⟩
    rw [active, posts_worked]
    by_cases same : other = task
    · subst same
      rw [Function.update_self]
      exact stays ungiven works
    · rwa [Function.update_of_ne same]

theorem stop (gathered : s.Gathered) (ruled : s.Ruled) {next : StopPhase} {muster : Muster}
    (goesOn : StopStep s.muster s.stop next muster) (free : s.stop = .taking → s.Unlocked) :
    Gathered { s with
      given := muster.given
      listed := muster.listed
      stop := next } := by
  have given := ruled.given
  generalize at_stop : s.stop = phase at goesOn
  rw [at_stop] at given free
  cases goesOn with
  | give =>
      apply gathered.of_shrinks
      · intro task works
        rw [active, Post.active_given] at works
        exact Post.active_of_works works
      · intro task _ awaited
        rwa [Awaited, at_stop] at awaited
      · exact fun _ => rfl
      · exact fun _ => id
      · exact fun ungiven => Bool.noConfusion ungiven
  | take =>
      -- Nobody is being started, so that all that work are on the list.
      refine gathered.of_awaited rfl rfl (fun _ => rfl) fun task _ awaited => ?_
      rw [Awaited, at_stop] at awaited
      rcases awaited with listed | ⟨c, locks, _⟩
      · exact listed
      · rw [(free rfl).starts c] at locks
        contradiction
  | clear =>
      refine gathered.of_awaited rfl rfl (fun _ => rfl) fun task _ awaited => ?_
      rwa [Awaited, at_stop] at awaited
  | @join task rest ended =>
      refine gathered.of_awaited rfl rfl (fun _ => rfl) fun other works awaited => ?_
      rw [Awaited, at_stop] at awaited
      rcases List.mem_cons.mp awaited with rfl | left
      · have ended : s.posts other = .ended := ended
        rw [active, ended] at works
        contradiction
      · exact left

section Spawn

variable {c : Nat} {next : StartPhase} {task : TaskId} {idle : Duration}

/-- When a worker is started, one call still has started all that work: the one that starts it,
or, if it comes too late, the one that has started the others. -/
theorem together_spawned (gathered : s.Gathered) (ruled : s.Ruled)
    (locks : (s.starts c).locks = true) (added : next.added = (s.starts c).added ++ [task]) :
    ∃ d, ∀ other, (s.spawned c next task idle).active other = true →
      other ∈ ((s.spawned c next task idle).starts d).added := by
  cases given : s.given with
  | true =>
      obtain ⟨d, together⟩ := gathered.together
      refine ⟨d, fun other works => ?_⟩
      have isOld : other ≠ task := by
        rintro rfl
        simp [active_spawned_self, given] at works
      rw [active_spawned_of_ne isOld] at works
      exact (mem_added_spawned added).mpr (.inr (together other works))
  | false =>
      refine ⟨c, fun other works => (mem_added_spawned added).mpr ?_⟩
      by_cases isNew : other = task
      · exact .inl ⟨rfl, isNew⟩
      · rw [active_spawned_of_ne isNew] at works
        exact .inr (ruled.mem_added_of_awaited locks (.inl (ruled.given.mp given))
          (gathered.awaited other works))

theorem spawn (gathered : s.Gathered) (ruled : s.Ruled) (new : s.posts task = .absent)
    (locks : (s.starts c).locks = true) (stays : next.locks = true)
    (added : next.added = (s.starts c).added ++ [task]) :
    (s.spawned c next task idle).Gathered := by
  have isOld {d : Nat} {other : TaskId} (otherMem : other ∈ (s.starts d).added) :
      other ≠ task := by
    rintro rfl
    exact gathered.present d other otherMem new
  constructor
  case awaited =>
    intro other works
    by_cases isNew : other = task
    · have ungiven : s.given = false := by simpa [isNew, active_spawned_self] using works
      have asked : (s.spawned c next task idle).stop = .asked := ruled.given.mp ungiven
      rw [Awaited, asked]
      exact .inr ⟨c, by simpa using stays, (mem_added_spawned added).mpr (.inl ⟨rfl, isNew⟩)⟩
    · rw [active_spawned_of_ne isNew] at works
      exact (gathered.awaited other works).spawned stays added
  case together => exact gathered.together_spawned ruled locks added
  case present =>
    intro d other otherMem
    rcases (mem_added_spawned added).mp otherMem with ⟨_, rfl⟩ | before
    · simp
    · simpa [isOld before] using gathered.present d other before
  case stays =>
    intro ungiven d other otherMem
    rcases (mem_added_spawned added).mp otherMem with ⟨_, rfl⟩ | before
    · rw [active_spawned_self, Bool.not_eq_true']
      exact ungiven
    · rw [active_spawned_of_ne (isOld before)]
      exact gathered.stays ungiven d other before
  case apart =>
    intro d e other first second
    rcases (mem_added_spawned added).mp first with ⟨rfl, rfl⟩ | before
    · rcases (mem_added_spawned added).mp second with ⟨rfl, _⟩ | too
      · rfl
      · exact absurd rfl (isOld too)
    · rcases (mem_added_spawned added).mp second with ⟨_, isNew⟩ | too
      · exact absurd isNew (isOld before)
      · exact gathered.apart d e other before too

end Spawn

theorem start (gathered : s.Gathered) (ruled : s.Ruled) {c : Nat} {next : StartPhase}
    {muster : Muster} (effect : StartEffect s.muster (s.starts c) next muster) :
    Gathered { s with
      listed := muster.listed
      posts := muster.posts
      starts := Function.update s.starts c next } := by
  -- While nobody has been started, only the phase of the call is another one.
  have of_idle (unlocked : (s.starts c).locks = false) (same : next.added = (s.starts c).added) :
      Gathered { s with starts := Function.update s.starts c next } := by
    refine gathered.of_awaited rfl rfl (added_of_update same) fun task _ awaited =>
      awaited.mono rfl rfl fun d locks => ?_
    have other : d ≠ c := by
      rintro rfl
      simp [unlocked] at locks
    simp only [Function.update_of_ne other]
    exact ⟨locks, List.Subset.refl _⟩
  cases effect with
  | quiet added unlocked _ => exact of_idle unlocked added
  | lock entering _ added _ =>
      have unlocked : (s.starts c).locks = false := by
        rw [entering]
        rfl
      have nobody : (s.starts c).added = [] := by
        rw [entering]
        rfl
      exact of_idle unlocked (added.trans nobody.symm)
  | spawn task idle new locks stays added => exact gathered.spawn ruled new locks stays added
  | unlock locks _ added =>
      refine gathered.of_awaited rfl rfl (added_of_update added) fun task _ awaited => ?_
      have onList (untaken : s.stop = .asked ∨ s.stop = .taking) : task ∈ (s.starts c).added :=
        ruled.mem_added_of_awaited locks untaken awaited
      rw [Awaited] at awaited ⊢
      match at_stop : s.stop with
      | .asked => exact .inl (onList (.inl at_stop))
      | .taking => exact .inl (onList (.inr at_stop))
      | .clearing tasks | .joining tasks =>
          rw [at_stop] at awaited
          exact awaited

theorem step (gathered : s.Gathered) (ruled : s.Ruled) (step : Step manager bystanders s t) :
    t.Gathered := by
  cases step with
  | work task goesOn => exact gathered.work goesOn _
  | start c goesOn free => exact gathered.start ruled goesOn.effect
  | stop goesOn free => exact gathered.stop ruled goesOn free
  | enqueue c goesOn fresh =>
      exact gathered.of_awaited rfl rfl (fun _ => rfl) fun _ _ => id
  | others now call allowed =>
      exact gathered.of_awaited rfl rfl (fun _ => rfl) fun _ _ => id

end Gathered

theorem Reachable.ruled (reachable : Reachable manager bystanders s) : s.Ruled := by
  induction reachable with
  | initial initial => exact .of_initial initial
  | step _ step ih => exact ih.step step

theorem Reachable.gathered (reachable : Reachable manager bystanders s) : s.Gathered := by
  induction reachable with
  | initial initial => exact .of_initial initial
  | step reachable step ih => exact ih.step reachable.ruled step

/-! ## When the signal has been given -/

/-- Once the signal has been given it stays given, and nobody gets to work who does not work. -/
theorem Step.works_of_given (step : Step manager bystanders s t) (given : s.given = true) :
    t.given = true ∧
      ∀ task, (t.posts task).works = true → (s.posts task).works = true := by
  cases step with
  | @work task events post phase tables goesOn =>
      refine ⟨given, fun other works => ?_⟩
      rw [posts_worked] at works
      by_cases same : other = task
      · subst same
        rw [Function.update_self] at works
        have shrinks := goesOn.active.1
        rw [given_muster, given, Post.active_given, Post.active_given] at shrinks
        exact shrinks works
      · rwa [Function.update_of_ne same] at works
  | @start c next muster goesOn free =>
      have effect := goesOn.effect
      refine ⟨given, fun other works => ?_⟩
      cases effect with
      | quiet | lock | unlock => exact works
      | spawn task idle new =>
          by_cases same : other = task
          · subst same
            simp [Post.works] at works
          · simpa [same] using works
  | @stop next muster goesOn free =>
      clear free
      refine ⟨?_, fun _ => id⟩
      generalize s.stop = phase at goesOn
      cases goesOn with
      | give => rfl
      | take | clear | join => exact given
  | enqueue c goesOn fresh => exact ⟨given, fun _ => id⟩
  | others now call allowed => exact ⟨given, fun _ => id⟩

theorem works_of_later (later : Later manager bystanders s t) (given : s.given = true) :
    t.given = true ∧
      ∀ task, (t.posts task).works = true → (s.posts task).works = true := by
  induction later with
  | refl => exact ⟨given, fun _ => id⟩
  | tail _ step ih =>
      obtain ⟨still, works⟩ := ih
      obtain ⟨told, worked⟩ := step.works_of_given still
      exact ⟨told, fun task now => works task (worked task now)⟩

end Crew

end EventFlow
