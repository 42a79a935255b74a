import EventFlow.Daemon
import EventFlow.Proofs.Queue.Muster
import Mathlib.Algebra.Order.Ring.Nat
import Mathlib.Data.List.DropRight

/-!
# How long a worker waits

Round after round a worker processes a job, finds none, or meets an error.  Behind a job it goes on
at once, and behind an error it waits as long as configured.  When it finds nothing it waits as long
as configured for the first time, and each further time twice as long, up to a bound.  A job brings
it back to the first wait; errors leave it where it is.

A wait is what the worker asks to sleep.  How long it is then left asleep is up to its surroundings,
which may answer as they like, so that other tasks may go on between any two of its questions.
-/

namespace EventFlow

open Program

/-! ## Lengths of time -/

namespace Duration

theorem min_ofMilliseconds (a b : Nat) :
    (ofMilliseconds a).min (ofMilliseconds b) = ofMilliseconds (Min.min a b : Nat) := by
  unfold Duration.min
  split
  all_goals
    simp only [ofMilliseconds, mk.injEq] at *
    omega

theorem double_ofMilliseconds (n : Nat) :
    (⟨(ofMilliseconds n).nanoseconds * 2⟩ : Duration) = ofMilliseconds (n * 2 : Nat) := by
  simp only [ofMilliseconds, mk.injEq]
  omega

/-- Its whole seconds are a number of 64 bits: a longer time cannot be kept. -/
def Fits (d : Duration) : Prop :=
  0 ≤ d.nanoseconds ∧ d.nanoseconds < Text.wordLimit * 1000000000

/-- Milliseconds have room for far more than twice a number of 64 bits. -/
theorem fits_ofMilliseconds {n : Nat} (few : n < Text.wordLimit * 2) :
    (ofMilliseconds n).Fits := by
  rw [Text.wordLimit] at few
  simp only [Fits, ofMilliseconds, Text.wordLimit]
  omega

end Duration

namespace QueueConfig

variable (config : QueueConfig)

/-- How many milliseconds a worker waits that finds nothing and has found nothing so often
before. -/
def idleMs (before : Nat) : Nat :=
  if before = 0 then config.idleBackoffMs
  else min (config.idleBackoffMs * 2 ^ before) config.maxIdleBackoffMs

/-- The next wait is twice the wait, or the bound. -/
theorem min_idleMs_double (before : Nat) :
    min (config.idleMs before * 2) config.maxIdleBackoffMs = config.idleMs (before + 1) := by
  simp only [idleMs, Nat.add_eq_zero_iff, Nat.one_ne_zero, and_false, if_false, Nat.pow_succ,
    ← Nat.mul_assoc]
  by_cases first : before = 0
  · simp [first]
  · -- Twice the bound is at least the bound, so that it does not matter when it is reached.
    rw [if_neg first]
    omega

theorem idleMs_le (before : Nat) :
    config.idleMs before ≤ max config.idleBackoffMs config.maxIdleBackoffMs := by
  unfold idleMs
  split <;> omega

/-- The times are numbers of 64 bits. -/
structure InWords : Prop where
  idle : config.idleBackoffMs < Text.wordLimit
  maxIdle : config.maxIdleBackoffMs < Text.wordLimit
  claimError : config.claimErrorBackoffMs < Text.wordLimit

theorem InWords.idleMs_lt {config : QueueConfig} (inWords : config.InWords) (before : Nat) :
    config.idleMs before < Text.wordLimit :=
  Nat.lt_of_le_of_lt (config.idleMs_le before) (Nat.max_lt.mpr ⟨inWords.idle, inWords.maxIdle⟩)

end QueueConfig

namespace QueueManager

/-! ## Rounds that find nothing -/

/-- Has a job been processed? -/
def tookJob : Except QueueError Bool → Bool
  | .ok true => true
  | _ => false

/-- Has nothing been found? -/
def foundNothing : Except QueueError Bool → Bool
  | .ok false => true
  | _ => false

/-- How often nothing has been found since a job was processed last, or since the beginning. -/
def emptyRounds (outcomes : List (Except QueueError Bool)) : Nat :=
  (outcomes.rtakeWhile fun outcome => !tookJob outcome).countP foundNothing

section EmptyRounds

variable (outcomes : List (Except QueueError Bool))

@[simp]
theorem emptyRounds_concat_job : emptyRounds (outcomes ++ [.ok true]) = 0 := by
  simp [emptyRounds, tookJob]

@[simp]
theorem emptyRounds_concat_nothing :
    emptyRounds (outcomes ++ [.ok false]) = emptyRounds outcomes + 1 := by
  simp [emptyRounds, tookJob, foundNothing]

@[simp]
theorem emptyRounds_concat_error (e : QueueError) :
    emptyRounds (outcomes ++ [.error e]) = emptyRounds outcomes := by
  simp [emptyRounds, tookJob, foundNothing]

end EmptyRounds

section NextWait

variable (manager : QueueManager) (earlier : List (Except QueueError Bool))

/-- How long a worker waits if it finds nothing after rounds with certain outcomes. -/
abbrev idleAfter : Duration :=
  .ofMilliseconds (manager.config.idleMs (emptyRounds earlier))

/-- How long a worker waits behind a round, if it does, after rounds with certain outcomes. -/
def waitBehind : Except QueueError Bool → Option Duration
  | .ok true => none
  | .ok false => some (manager.idleAfter earlier)
  | .error _ => some (.ofMilliseconds manager.config.claimErrorBackoffMs)

/-- What a worker remembers of the outcomes of its rounds is enough to tell how long it waits, and
what it is to remember behind the next one. -/
theorem nextWait_idleAfter (outcome : Except QueueError Bool) :
    manager.nextWait (manager.idleAfter earlier) outcome =
      (manager.waitBehind earlier outcome, manager.idleAfter (earlier ++ [outcome])) := by
  match outcome with
  | .ok true => simp [nextWait, waitBehind, idleAfter, initialIdle, QueueConfig.idleMs]
  | .error e => simp [nextWait, waitBehind, idleAfter]
  | .ok false =>
      simp only [nextWait, waitBehind, idleAfter, emptyRounds_concat_nothing,
        Duration.double_ofMilliseconds, Duration.min_ofMilliseconds,
        QueueConfig.min_idleMs_double]

end NextWait

/-! ## Rounds -/

section Rounds

variable {S : Type} (manager : QueueManager) (answers : Answering service S)

/-- A worker waits, if it has to, and is not told to stop. -/
inductive Pauses : Option Duration → S → S → Prop where
  | goesOn {s : S} : Pauses none s s
  | waits {s t : S} {wait : Duration}
      (slept : answers s (ServiceCall.sleep wait (some .workersStop) : service.Question) false t) :
      Pauses (some wait) s t

/-- A worker has completed rounds with certain outcomes: in each it was not told to stop, it has
processed a job or tried to, and it has waited as long as the outcomes up to this one ask for. -/
inductive WorksThrough (s : S) : List (Except QueueError Bool) → S → Prop where
  | started : WorksThrough s [] s
  | round {earlier : List (Except QueueError Bool)} {outcome : Except QueueError Bool}
      {t u v w : S} (before : WorksThrough s earlier t)
      (unstopped : answers t (ServiceCall.isGiven .workersStop : service.Question) false u)
      (processed : Runs answers manager.processNext u outcome v)
      (pauses : Pauses answers (manager.waitBehind earlier outcome) v w) :
      WorksThrough s (earlier ++ [outcome]) w

/-- The task of a worker in a daemon goes through so many rounds since it was started. -/
inductive Turns (parts : DaemonParts) (s : S) : Nat → Daemon → S → Prop where
  | started : Turns parts s 0 (.worker parts.queue.initialIdle) s
  | round {n : Nat} {daemon next : Daemon} {t u : S} (before : Turns parts s n daemon t)
      (ran : Runs answers (daemon.round parts) t (.next next) u) : Turns parts s (n + 1) next u

variable {manager answers} {s t : S} {idle next : Duration}

theorem runs_pause_iff {wait : Option Duration} :
    Runs answers (Post.pause wait idle) s (some next) t ↔
      next = idle ∧ Pauses answers wait s t := by
  constructor
  · intro ran
    cases wait with
    | none =>
        obtain ⟨same, rfl⟩ := runs_done_iff.mp ran
        exact ⟨Option.some.inj same, .goesOn⟩
    | some wait =>
        obtain ⟨cut, u, slept, ran⟩ := runs_ask_iff.mp ran
        cases cut with
        | true => cases ran
        | false =>
            obtain ⟨same, rfl⟩ := runs_done_iff.mp ran
            exact ⟨Option.some.inj same, .waits slept⟩
  · rintro ⟨rfl, pauses⟩
    cases pauses with
    | goesOn => exact .done _ _
    | waits slept => exact .ask slept (.done _ _)

/-- A round after which a worker goes on: it was not told to stop, has processed a job or tried to,
and has waited. -/
theorem runs_workRound_iff : Runs answers (manager.workRound idle) s (some next) t ↔
    ∃ outcome u v, answers s (ServiceCall.isGiven .workersStop : service.Question) false u ∧
      Runs answers manager.processNext u outcome v ∧
      Pauses answers (manager.nextWait idle outcome).1 v t ∧
      next = (manager.nextWait idle outcome).2 := by
  rw [Post.workRound_eq, Service.isGiven_bind]
  constructor
  · intro ran
    obtain ⟨given, u, unstopped, ran⟩ := runs_ask_iff.mp ran
    cases given with
    | true => cases ran
    | false =>
        obtain ⟨outcome, v, processed, ran⟩ := runs_bind_iff.mp ran
        obtain ⟨same, pauses⟩ := runs_pause_iff.mp ran
        exact ⟨outcome, u, v, unstopped, processed, pauses, same⟩
  · rintro ⟨outcome, u, v, unstopped, processed, pauses, same⟩
    exact .ask unstopped (runs_bind_iff.mpr ⟨outcome, v, processed,
      runs_pause_iff.mpr ⟨same, pauses⟩⟩)

/-- The task of a worker remains one, whose rounds are those of the worker. -/
theorem runs_round_worker_iff {parts : DaemonParts} {daemon : Daemon} :
    Runs answers ((Daemon.worker idle).round parts) s (.next daemon) t ↔
      ∃ next, daemon = .worker next ∧
        Runs answers (parts.queue.workRound idle) s (some next) t := by
  rw [Daemon.round, runs_bind_iff]
  constructor
  · rintro ⟨after, u, ran, ended⟩
    cases after with
    | none => cases ended
    | some next =>
        obtain ⟨same, rfl⟩ := runs_done_iff.mp ended
        exact ⟨next, Round.next.inj same, ran⟩
  · rintro ⟨next, rfl, ran⟩
    exact ⟨some next, t, ran, .done _ _⟩

/-- All that the task of a worker does in its rounds, and all that it remembers, follows from their
outcomes. -/
theorem turns_iff_worksThrough {parts : DaemonParts} {n : Nat} {daemon : Daemon} :
    Turns answers parts s n daemon t ↔ ∃ outcomes, outcomes.length = n ∧
      daemon = .worker (parts.queue.idleAfter outcomes) ∧
      WorksThrough parts.queue answers s outcomes t := by
  constructor
  · intro turns
    induction turns with
    | started => exact ⟨[], rfl, rfl, .started⟩
    | round _ ran ih =>
        obtain ⟨earlier, rfl, rfl, before⟩ := ih
        obtain ⟨next, rfl, worked⟩ := runs_round_worker_iff.mp ran
        obtain ⟨outcome, u, v, unstopped, processed, pauses, rfl⟩ := runs_workRound_iff.mp worked
        rw [nextWait_idleAfter] at pauses ⊢
        exact ⟨earlier ++ [outcome], List.length_append, rfl,
          .round before unstopped processed pauses⟩
  · rintro ⟨outcomes, rfl, rfl, works⟩
    induction works with
    | started => exact .started
    | @round earlier outcome _ _ _ _ _ unstopped processed pauses ih =>
        have left := parts.queue.nextWait_idleAfter earlier outcome
        rw [List.length_append, List.length_singleton]
        refine .round ih (runs_round_worker_iff.mpr ⟨_, rfl, runs_workRound_iff.mpr
          ⟨outcome, _, _, unstopped, processed, ?_, ?_⟩⟩)
        · rwa [left]
        · rw [left]

end Rounds

/-! ## Foretold outcomes -/

/-- How surroundings answer in which jobs are processed as foretold: what a claim brings is the next
outcome.  They take every report about a job, and nobody is told to stop. -/
def foretold : Answering service (List (Except QueueError Bool))
  | outcomes, .queue (.claimNext _), found, rest =>
    outcomes = Except.map Option.isSome (found : Except QueueError (Option QueueJob)) :: rest
  | outcomes, .queue _, result, rest => (∃ value, result = .ok value) ∧ rest = outcomes
  | outcomes, .isGiven _, given, rest => given = false ∧ rest = outcomes
  | outcomes, .sleep _ _, cut, rest => cut = false ∧ rest = outcomes
  | outcomes, _, _, rest => rest = outcomes

section Foretold

variable {manager : QueueManager} (outcomes : List (Except QueueError Bool))

theorem foretold_claimNext (now : Instant) (found : Except QueueError (Option QueueJob)) :
    foretold (found.map Option.isSome :: outcomes) (.queue (.claimNext now)) found outcomes := rfl

/-- Who leaves the queue alone runs to the end, and uses up no outcome. -/
theorem exists_runs_foretold {α : Type} {p : Routine α} (beside : BesideQueue p) :
    ∃ r, Runs foretold p outcomes r outcomes := by
  have stays (s : List (Except QueueError Bool)) (q : ServiceCall) (a : q.Answer)
      (t : List (Except QueueError Bool)) (asked : q.besideQueue = true)
      (answered : foretold s q a t) : t = s := by
    cases q with
    | queue => contradiction
    | isGiven | sleep => exact answered.2
    | _ => exact answered
  -- A claim may find no outcome left, so the answers are total only beside the queue.
  let answers : Answering service (List (Except QueueError Bool)) :=
    fun s q a t => ServiceCall.besideQueue q = true → foretold s q a t
  have total (s : List (Except QueueError Bool)) (q : ServiceCall) : ∃ a t, answers s q a t := by
    refine ⟨(Shared.answerAt (.ofMilliseconds 0) ⟨.empty, .empty⟩ q).1, s, fun asked => ?_⟩
    cases q with
    | queue => contradiction
    | isGiven | sleep => exact ⟨rfl, rfl⟩
    | _ => rfl
  obtain ⟨r, t, ran⟩ := exists_runs total p outcomes
  have ran : Runs foretold p outcomes r t :=
    ran.mono_of_asks beside fun _ _ _ _ asked answered => answered asked
  have same := ran.change_of_asks beside (fun s t => t = s) (fun _ => rfl)
    (fun _ _ _ first second => second.trans first) stays
  exact ⟨r, same ▸ ran⟩

theorem runs_report_foretold (job : QueueJob) (outcome : Except EngineError ExecutionId) :
    Runs foretold (report job outcome) outcomes (.ok ()) outcomes := by
  cases outcome with
  | ok id => exact .ask ⟨⟨(), rfl⟩, rfl⟩ (.done _ _)
  | error e =>
      by_cases last : job.maxAttempts ≤ job.attempts + 1
      · simp only [report, last]
        exact .ask ⟨⟨(), rfl⟩, rfl⟩ (.done _ _)
      · simp only [report, last]
        exact .ask (a := Instant.ofMilliseconds 0) rfl (.ask ⟨⟨(), rfl⟩, rfl⟩ (.done _ _))

/-- Processing a job goes as foretold. -/
theorem runs_processNext_foretold (enabled : manager.enabled = true)
    (outcome : Except QueueError Bool) :
    Runs foretold manager.processNext (outcome :: outcomes) outcome outcomes := by
  simp only [processNext, enabled, if_true, Service.now_bind, Service.queue_bind]
  refine .ask (a := Instant.ofMilliseconds 0) rfl ?_
  cases outcome with
  | error e => exact .ask (foretold_claimNext outcomes _ (.error e)) (.done _ _)
  | ok found =>
      cases found with
      | false => exact .ask (foretold_claimNext outcomes _ (.ok none)) (.done _ _)
      | true =>
          let job := QueueJob.create (.ofMilliseconds 0) ⟨"run"⟩ ⟨⟨1⟩, "", "", []⟩
          obtain ⟨executed, ran⟩ := exists_runs_foretold outcomes
            (manager.engine.execute_besideQueue (some job.executionId) job.args)
          refine .ask (foretold_claimNext outcomes _ (.ok (some job))) ?_
          have reported := runs_report_foretold outcomes job executed
          exact runs_bind_iff.mpr ⟨_, _, ran, runs_bind_iff.mpr ⟨_, _, reported, .done _ _⟩⟩

/-- The rounds of a worker may go in any way. -/
theorem worksThrough_foretold (enabled : manager.enabled = true)
    (rest : List (Except QueueError Bool)) :
    WorksThrough manager foretold (outcomes ++ rest) outcomes rest := by
  induction outcomes using List.reverseRecOn generalizing rest with
  | nil => exact .started
  | append_singleton earlier outcome ih =>
      have pauses (wait : Option Duration) : Pauses foretold wait rest rest := by
        cases wait with
        | none => exact .goesOn
        | some wait => exact .waits ⟨rfl, rfl⟩
      rw [List.append_assoc]
      exact .round (ih (outcome :: rest)) ⟨rfl, rfl⟩
        (runs_processNext_foretold rest enabled outcome) (pauses _)

end Foretold

/-! ## The waits of a worker -/

/-- Whoever starts workers has them begin with the first wait. -/
theorem start_asks (manager : QueueManager) :
    Asks (fun q : service.Question => ∀ daemon, q = ServiceCall.spawn daemon →
      daemon = .worker manager.initialIdle) manager.start := by
  have spawns (n : Nat) : Asks (fun q : service.Question => ∀ daemon,
      q = ServiceCall.spawn daemon → daemon = .worker manager.initialIdle)
      (manager.spawnWorkers n) := by
    induction n with
    | zero => trivial
    | succ n ih =>
        refine ⟨?_, fun _ => ih.bind fun _ => trivial⟩
        rintro daemon ⟨⟩
        rfl
  unfold start
  split
  · refine ⟨by rintro daemon ⟨⟩, fun given => ?_⟩
    cases given with
    | true => trivial
    | false =>
        refine ⟨by rintro daemon ⟨⟩, fun tasks => ?_⟩
        cases tasks with
        | nil => exact (spawns _).bind fun _ => ⟨by rintro daemon ⟨⟩, fun _ => trivial⟩
        | cons task others => trivial
  · trivial

/-- Every worker is started with the first wait.  The rounds of its task may go in any way.  In each
it looks at the signal, processes a job, and waits: behind a job not at all, behind an error as long
as configured, and when it finds nothing for the first time since it was started or has processed a
job, as long as configured for that; each further time twice as long as the time before, up to the
bound, whatever errors there were in between.  No length of time that it needs is too long to be
kept, if those that are configured are numbers of 64 bits. -/
theorem waits_by_outcomes (parts : DaemonParts) :
    Asks (fun q : service.Question => ∀ daemon, q = ServiceCall.spawn daemon →
      daemon = .worker parts.queue.initialIdle) parts.queue.start ∧
    (parts.queue.enabled = true → ∀ outcomes,
      WorksThrough parts.queue foretold outcomes outcomes []) ∧
    ∀ {S : Type} {answers : Answering service S} {s : S},
      (∀ n daemon t, Turns answers parts s n daemon t ↔ ∃ outcomes, outcomes.length = n ∧
        daemon = .worker (parts.queue.idleAfter outcomes) ∧
        WorksThrough parts.queue answers s outcomes t) ∧
      (parts.queue.config.InWords →
        (Duration.ofMilliseconds parts.queue.config.maxIdleBackoffMs).Fits ∧
        (Duration.ofMilliseconds parts.queue.config.claimErrorBackoffMs).Fits ∧
        ∀ n idle t, Turns answers parts s n (.worker idle) t →
          idle.Fits ∧ Duration.Fits ⟨idle.nanoseconds * 2⟩) := by
  refine ⟨parts.queue.start_asks, fun enabled outcomes => ?_, fun {S answers s} =>
    ⟨fun n daemon t => turns_iff_worksThrough, fun inWords => ⟨?_, ?_, ?_⟩⟩⟩
  · have works := worksThrough_foretold outcomes enabled []
    rwa [List.append_nil] at works
  · have word := inWords.maxIdle
    exact Duration.fits_ofMilliseconds (by omega)
  · have word := inWords.claimError
    exact Duration.fits_ofMilliseconds (by omega)
  · intro n idle t turns
    obtain ⟨outcomes, _, same, _⟩ := turns_iff_worksThrough.mp turns
    obtain rfl := Daemon.worker.inj same
    have word := inWords.idleMs_lt (emptyRounds outcomes)
    refine ⟨Duration.fits_ofMilliseconds (by omega), ?_⟩
    rw [Duration.double_ofMilliseconds]
    exact Duration.fits_ofMilliseconds (by omega)

/-- A daemon with a queue whose times are about the greatest of 64 bits. -/
def patient : DaemonParts :=
  .assemble { Settings.default with
    queue := ⟨1, 3, 9223372036854775808, 18446744073709551615, 7⟩ } Bot.Dev.registry

/-- Nothing is found, claiming fails, nothing is found again, a job is processed, and nothing is
found: the wait is doubled as far as the bound, and starts afresh behind the job. -/
theorem waits_by_outcomes_patient :
    patient.queue.enabled = true ∧ patient.queue.config.InWords ∧
    (∃ t, Turns foretold patient [.ok false, .error .disabled, .ok false, .ok true, .ok false] 5
      (.worker (.ofMilliseconds 18446744073709551615)) t) ∧
    patient.queue.waitBehind [] (.ok false) = some (.ofMilliseconds 9223372036854775808) ∧
    patient.queue.waitBehind [.ok false] (.error .disabled) = some (.ofMilliseconds 7) ∧
    patient.queue.waitBehind [.ok false, .error .disabled] (.ok false) =
      some (.ofMilliseconds 18446744073709551615) ∧
    patient.queue.waitBehind [.ok false, .error .disabled, .ok false] (.ok true) = none ∧
    patient.queue.waitBehind [.ok false, .error .disabled, .ok false, .ok true] (.ok false) =
      some (.ofMilliseconds 9223372036854775808) ∧
    Duration.Fits ⟨(Duration.ofMilliseconds 18446744073709551615).nanoseconds * 2⟩ := by
  have inWords : patient.queue.config.InWords := ⟨by decide, by decide, by decide⟩
  obtain ⟨_, foretells, waits⟩ := waits_by_outcomes patient
  have works := foretells rfl [.ok false, .error .disabled, .ok false, .ok true, .ok false]
  have turns := (waits.1 5 _ []).mpr ⟨_, rfl, rfl, works⟩
  exact ⟨rfl, inWords, ⟨[], turns⟩, rfl, rfl, rfl, rfl, rfl, ((waits.2 inWords).2.2 _ _ _ turns).2⟩

end QueueManager

end EventFlow
