import EventFlow.Proofs.Poll.Conservation

/-!
# Triggers that end a tick

The seconds between two polls are a parameter of the trigger, and any number may stand there.  The
sum of it and the clock is the one thing of a tick that need not exist.  So a tick reports when all
triggers that are due can be polled again by the last second of time, and otherwise the first one
that cannot ends it, for itself and for every trigger behind it.
-/

namespace EventFlow

open Program

namespace Poller

/-! ## The last second -/

/-- The seconds between polls are not negative, whatever the parameters of the node. -/
theorem interval_nonneg {poller : Poller} (forward : 0 ≤ poller.config.defaultPollIntervalSecs)
    (node : Node) : 0 ≤ poller.interval node := by
  unfold interval
  cases chosen : (node.parameters.getInteger? intervalKey).filter fun secs => 0 < secs with
  | none => exact forward
  | some secs =>
      have positive := (Option.filter_eq_some_iff.mp chosen).2
      exact Int.le_of_lt (by simpa using positive)

/-- Seconds ahead of an instant exist up to the last one. -/
theorem schedulable_iff {now : Instant} {secs : Int} (exist : now.representable = true)
    (forward : 0 ≤ secs) : Schedulable now secs ↔ now.seconds + secs ≤ Instant.greatestSecond := by
  simp only [Instant.representable, Bool.and_eq_true, decide_eq_true_eq] at exist
  rcases exist with ⟨least, _⟩
  have later : (now.plus? (.ofSeconds secs)).isSome = true ↔
      now.seconds + secs ≤ Instant.greatestSecond := by
    have least : Instant.leastSecond ≤ now.seconds + secs := by omega
    simp [Instant.plus?, Instant.representable, now.seconds_after forward, least]
  constructor
  · intro schedulable
    exact later.mp schedulable.exist
  · intro fits
    -- All seconds that exist are fewer than a duration can hold.
    have bound : secs ≤ greatestInterval := by
      simp only [Instant.leastSecond, Instant.greatestSecond, greatestInterval] at *
      omega
    exact ⟨by simp only [greatestInterval]; omega, bound, later.mpr fits⟩

/-- The next poll of a trigger that is visited would be after the last second. -/
def TooFar (poller : Poller) (visit : Visit) : Prop :=
  Instant.greatestSecond < visit.now.seconds + poller.interval visit.node

section Breakdown

variable {poller : Poller} {shows : Instant → Prop} {s t u : Watched}
  {triggers : List (Flow × Node × TriggerRule)} {report : TickReport} {visit : Visit}
  {visits front : List Visit} {r : Except String TickReport}

/-- A trigger that has been polled and attended to was not too far. -/
theorem Attends.not_tooFar (attends : poller.Attends shows visit)
    (forward : 0 ≤ poller.interval visit.node) (polled : visit.reply.isSome = true) :
    ¬ poller.TooFar visit := by
  rcases Option.isSome_iff_exists.mp polled with ⟨reply, replied⟩
  rcases attends.kept reply replied with ⟨_, next, _, later, _⟩
  unfold Instant.plus? at later
  split at later
  · rename_i there
    simp only [Instant.representable, visit.now.seconds_after forward, Bool.and_eq_true,
      decide_eq_true_eq] at there
    exact Int.not_lt.mpr there.2
  · cases later

theorem Covers.not_tooFar (covers : poller.Covers shows triggers report s visits r t)
    (forward : 0 ≤ poller.config.defaultPollIntervalSecs) :
    ∀ visit ∈ visits, visit.reply.isSome = true → ¬ poller.TooFar visit := by
  rcases covers.came with ⟨_, _, accounts⟩
  intro visit visitMem
  exact (accounts.attended visit visitMem).not_tooFar (interval_nonneg forward visit.node)

theorem BreaksDown.tooFar (breaks : poller.BreaksDown shows triggers report s front visit u r t)
    (exist : ∀ now, shows now → now.representable = true)
    (forward : 0 ≤ poller.config.defaultPollIntervalSecs) : poller.TooFar visit := by
  have never := breaks.never
  rw [schedulable_iff (exist _ breaks.shown) (interval_nonneg forward visit.node)] at never
  exact Int.not_le.mp never

/-- A tick that nothing disturbs comes to an end.  Either it visits all triggers and reports, and
then none of those that it polled was too far; or it breaks down at the first that was. -/
theorem tick_reports_unless_tooFar (reachable : s.state.store.Reachable)
    (safely : poller.registry.PollsSafely) (exist : ∀ now, shows now → now.representable = true)
    (forward : 0 ≤ poller.config.defaultPollIntervalSecs) :
    (∀ now, shows now → ∃ r t, Runs (undisturbed shows) poller.tick s r t) ∧
    ∀ r t, Runs (undisturbed shows) poller.tick s r t →
      (∃ visits report, r = .ok report ∧
        poller.Covers shows (poller.triggers s.state.store) .zero s visits r t ∧
        ∀ visit ∈ visits, visit.reply.isSome = true → ¬ poller.TooFar visit) ∨
      (∃ front visit u,
        poller.BreaksDown shows (poller.triggers s.state.store) .zero s front visit u r t ∧
        poller.TooFar visit ∧
        ∀ other ∈ front, other.reply.isSome = true → ¬ poller.TooFar other) := by
  refine ⟨fun now shown => exists_runs_undisturbed shown poller.tick s, ?_⟩
  intro r t ran
  rcases ticks_of_runs ran with ⟨visits, ticks⟩
  rcases ticks.comesTo safely reachable with covers | ⟨front, visit, u, breaks⟩
  · rcases covers.came with ⟨_, same, _⟩
    exact .inl ⟨visits, _, same, covers, covers.not_tooFar forward⟩
  · rcases breaks.ahead with ⟨_, ahead⟩
    exact .inr ⟨front, visit, u, breaks, breaks.tooFar exist forward, ahead.not_tooFar forward⟩

end Breakdown

end Poller

/-! ## Two triggers of which the first is too far -/

namespace Feed

/-- A trigger that is to be polled again after the greatest number of seconds. -/
def far : Node :=
  { feed with nodeId := "far", parameters := [(Poller.intervalKey, .ofInt 9223372036854775807)] }

/-- The trigger in front of the other. -/
def farStore : Store :=
  let withFlow := (Store.empty.answer start (.createFlow (.create start "owner" "topic" "feeds"))).2
  ((withFlow.answer start (.createNode far)).2.answer start (.createNode feed)).2

theorem farStore_reachable : farStore.Reachable :=
  .answer (.answer (.answer .empty _ _) _ _) _ _

/-- Both triggers are due. -/
theorem farStore_due : ((poller.triggers farStore).map fun trigger =>
    (trigger.2.1.nodeId, Poller.isDue trigger.2.1 due)) = [("far", true), ("feed", true)] := by
  decide +kernel

/-- Before a tick. -/
def before : Watched := ⟨⟨farStore, .empty⟩, []⟩

/-- What is left of a tick. -/
def broken : Except String TickReport × Watched :=
  poller.tick.run (bringing.answerAt due) before

theorem runs_broken : Runs (undisturbed onlyDue) poller.tick before broken.1 broken.2 := by
  have shown : onlyDue due := rfl
  exact runs_run (undisturbed_answerAt steady_bringing shown) poller.tick before

theorem representable_of_onlyDue {now : Instant} (shown : onlyDue now) :
    now.representable = true := by
  rw [shown]
  decide

/-- The trigger that is too far is called, and the other one is not; nothing is queued. -/
theorem broken_stops :
    broken.1 = .error Poller.unschedulable ∧
      broken.2.notes.map (·.params.map Prod.fst) = [[Poller.intervalKey]] ∧
      broken.2.state.queue.jobs.length = 0 := by
  decide +kernel

end Feed

/-- Two triggers are due, nothing disturbs the tick and no rule breaks down; and yet not every tick
reports, and the trigger behind the one that is too far is not polled. -/
theorem far_trigger_ends_tick :
    Feed.farStore.Reachable ∧ Feed.registry.PollsSafely ∧ Feed.poller.config = .default ∧
    ((Feed.poller.triggers Feed.farStore).map fun trigger =>
      (trigger.2.1.nodeId, Poller.isDue trigger.2.1 Feed.due)) = [("far", true), ("feed", true)] ∧
    (¬ ∀ r t, Runs (undisturbed Feed.onlyDue) Feed.poller.tick Feed.before r t →
      ∃ report, r = .ok report) ∧
    ¬ ∀ r t, Runs (undisturbed Feed.onlyDue) Feed.poller.tick Feed.before r t →
      [] ∈ t.notes.map (·.params.map Prod.fst) := by
  rcases Feed.broken_stops with ⟨broke, called, _⟩
  refine ⟨Feed.farStore_reachable, Feed.registry_pollsSafely, rfl, Feed.farStore_due, ?_, ?_⟩
  · intro reports
    rcases reports _ _ Feed.runs_broken with ⟨report, same⟩
    rw [broke] at same
    cases same
  · intro polls
    have polled := polls _ _ Feed.runs_broken
    rw [called] at polled
    revert polled
    decide

/-- The tick breaks down at the trigger that is too far. -/
theorem tick_reports_unless_tooFar_feed :
    ∃ front visit u,
      Feed.poller.BreaksDown Feed.onlyDue (Feed.poller.triggers Feed.farStore) .zero Feed.before
        front visit u Feed.broken.1 Feed.broken.2 ∧
      Feed.poller.TooFar visit ∧
      ∀ other ∈ front, other.reply.isSome = true → ¬ Feed.poller.TooFar other := by
  rcases Feed.broken_stops with ⟨broke, _, _⟩
  rcases (Poller.tick_reports_unless_tooFar Feed.farStore_reachable Feed.registry_pollsSafely
    (fun _ => Feed.representable_of_onlyDue) (by decide)).2 _ _ Feed.runs_broken with
    ⟨_, report, reports, _⟩ | breaks
  · rw [broke] at reports
    cases reports
  · exact breaks

end EventFlow
