import EventFlow.Proofs.Poll.Coverage

/-!
# A tick neither loses nor invents events

While the due times of all triggers exist, a tick that nothing disturbs visits every trigger that
is polled.  So all that is left of the tick can be told from its visits.
-/

namespace EventFlow

open Program

namespace Poller

variable {poller : Poller} {shows : Instant → Prop} {s t : Watched} {visits : List Visit}
  {r : Except String TickReport}

/-! ## Conservation -/

/-- What a tick comes to that neither loses nor invents events.  Every trigger that is polled has
been visited once.  With a queue one job has been added for each event, in order, and nothing else
has changed but the rows of the nodes; without one nothing has been queued. -/
structure Conserves (poller : Poller) (shows : Instant → Prop) (s : Watched) (visits : List Visit)
    (outcomes : List (Except EngineError Submission)) (r : Except String TickReport) (t : Watched) :
    Prop where
  visited : visits.map Visit.trigger = poller.triggers s.state.store
  once : (visits.map (·.node.name)).Nodup
  accounts : poller.Accounts shows visits s outcomes t
  failing : ∀ visit ∈ visits, visit.failed = true →
    ∃ second, poller.left visit = Bag.insert nextAtKey (.ofInt second) visit.node.vars
  report : r = .ok ⟨visits.countP (·.reply.isSome), outcomes.countP (·.isOk),
    visits.countP Visit.failed + outcomes.countP (! ·.isOk)⟩
  queued : poller.queue.enabled = true →
    r = .ok ⟨visits.countP (·.reply.isSome), (visits.flatMap Visit.requests).length,
      visits.countP Visit.failed⟩ ∧
    (∃ jobs, t.state.queue.jobs = s.state.queue.jobs ++ jobs ∧
      List.Forall₂ QueueManager.Awaits (visits.flatMap Visit.requests) jobs) ∧
    t.state.store = { s.state.store with nodes := t.state.store.nodes } ∧
    t.notes = s.notes ++ visits.flatMap poller.calls
  atOnce : poller.queue.enabled = false → t.state.queue = s.state.queue ∧
    ∃ results, outcomes = results.map (·.map .executed) ∧
      poller.queue.engine.ExecutesInTurn shows (visits.flatMap Visit.requests) s results t

/-- Triggers whose due times exist at all instants that are shown. -/
def SchedulableAt (poller : Poller) (shows : Instant → Prop)
    (triggers : List (Flow × Node × TriggerRule)) : Prop :=
  ∀ trigger ∈ triggers, ∀ now, shows now → Schedulable now (poller.interval trigger.2.1)

theorem Ticks.covers (safely : poller.registry.PollsSafely)
    (schedulable : poller.SchedulableAt shows (poller.triggers s.state.store))
    (reachable : s.state.store.Reachable)
    (ticks : Ticks poller (undisturbed shows) s visits r t) :
    poller.Covers shows (poller.triggers s.state.store) .zero s visits r t := by
  rcases ticks.comesTo safely reachable with covers | ⟨front, visit, u, breaks⟩
  · exact covers
  · have reached : visit ∈ front ++ [visit] := by simp
    have triggerMem := breaks.trigger_mem visit reached
    exact absurd (schedulable _ triggerMem _ breaks.shown) breaks.never

/-- When nothing disturbs a tick, it comes to an end, and it neither loses nor invents events. -/
theorem tick_conserves_events {operations : List (Instant × StoreCall)} {s : Watched}
    (stored : s.state.store = (Chronicle.of operations).store)
    (safely : poller.registry.PollsSafely)
    (schedulable : poller.SchedulableAt shows (poller.triggers s.state.store)) :
    (poller.triggers s.state.store).Pairwise (CreatedBefore (Chronicle.of operations).log) ∧
    (∀ now, shows now → ∃ r t, Runs (undisturbed shows) poller.tick s r t) ∧
    ∀ r t, Runs (undisturbed shows) poller.tick s r t →
      ∃ visits outcomes, poller.Conserves shows s visits outcomes r t := by
  have reachable : s.state.store.Reachable := stored ▸ Chronicle.reachable_of operations
  refine ⟨stored ▸ poller.pairwise_triggers operations, ?_, ?_⟩
  · intro now shown
    exact exists_runs_undisturbed shown poller.tick s
  intro r t ran
  rcases ticks_of_runs ran with ⟨visits, ticks⟩
  rcases ticks.covers safely schedulable reachable with ⟨visited, outcomes, same, accounts⟩
  have report : r = .ok ⟨visits.countP (·.reply.isSome), outcomes.countP (·.isOk),
      visits.countP Visit.failed + outcomes.countP (! ·.isOk)⟩ := by
    rw [same]
    simp [TickReport.adding, TickReport.zero]
  refine ⟨visits, outcomes, ?_⟩
  constructor
  case visited => exact visited
  case accounts => exact accounts
  case report => exact report
  case once =>
    have once := stored ▸ poller.nodup_triggers operations
    rw [← visited, List.map_map] at once
    exact once
  case failing =>
    intro visit visitMem
    exact (accounts.attended visit visitMem).left_of_failed
  case queued =>
    intro enabled
    rcases accounts.carried.queues enabled with ⟨queues, store, notes⟩
    rw [queues.countP.1, queues.countP.2] at report
    exact ⟨report, queues.jobs, store, notes⟩
  case atOnce =>
    intro disabled
    rcases accounts.carried.executes disabled with ⟨results, same, executes⟩
    exact ⟨executes.queue_eq, results, same, executes⟩

end Poller

/-! ## A tick that queues two events -/

namespace Feed

/-- How the flow and its trigger were created. -/
def operations : List (Instant × StoreCall) :=
  [(start, .createFlow (.create start "owner" "topic" "feeds")), (start, .createNode feed)]

/-- Every poll brings two events, of which the first has an id. -/
def bringing : Replies
  | _, ⟨_, _, _, .poll _, _⟩ => .returned (.ok ⟨[[("id", .string "e1")], []], none⟩)
  | _, _ => .expired

theorem steady_bringing : bringing.Steady := by
  rintro before ⟨_, _, _, _ | _ | _, _⟩ message same <;> cases same

/-- When the trigger is polled. -/
def due : Instant := .ofMilliseconds 10000

/-- The clock shows nothing else. -/
def onlyDue (now : Instant) : Prop := now = due

/-- What is left of a tick. -/
def brought : Except String TickReport × Watched :=
  poller.tick.run (bringing.answerAt due) ⟨⟨store, .empty⟩, []⟩

theorem registry_pollsSafely : registry.PollsSafely := by
  intro bot ruleId rule answer found behaviour
  rcases Registry.exists_bot_of_findTrigger found with ⟨_, botMem, ruleMem⟩
  rw [List.mem_singleton.mp botMem] at ruleMem
  rw [List.mem_singleton.mp ruleMem] at behaviour
  cases behaviour

theorem schedulable_due : poller.SchedulableAt onlyDue (poller.triggers store) := by
  have schedulable : Poller.Schedulable due (poller.interval stored) :=
    ⟨by decide +kernel, by decide +kernel, by decide +kernel⟩
  rintro ⟨flow, node, rule⟩ triggerMem _ rfl
  rcases Poller.mem_triggers_iff.mp triggerMem with ⟨_, ⟨nodeMem, _⟩, _⟩
  obtain rfl : node = stored := List.mem_singleton.mp nodeMem
  exact schedulable

end Feed

/-- Both events of the trigger become jobs, and the tick reports two. -/
theorem tick_conserves_events_feed :
    Feed.brought.1 = .ok ⟨1, 2, 0⟩ ∧
    (Feed.brought.2.state.queue.jobs.map fun job => job.args.triggerId) = ["e1", ""] ∧
    ∃ visits outcomes, Feed.poller.Conserves Feed.onlyDue ⟨⟨Feed.store, .empty⟩, []⟩ visits
      outcomes Feed.brought.1 Feed.brought.2 := by
  have came : Feed.brought.1 = .ok ⟨1, 2, 0⟩ ∧
      (Feed.brought.2.state.queue.jobs.map fun job => job.args.triggerId) = ["e1", ""] := by
    decide +kernel
  have shown : Feed.onlyDue Feed.due := rfl
  have ran := runs_run (undisturbed_answerAt Feed.steady_bringing shown) Feed.poller.tick
    ⟨⟨Feed.store, .empty⟩, []⟩
  have stored : Feed.store = (Chronicle.of Feed.operations).store := rfl
  exact ⟨came.1, came.2, (Poller.tick_conserves_events stored Feed.registry_pollsSafely
    Feed.schedulable_due).2.2 _ _ ran⟩

end EventFlow
