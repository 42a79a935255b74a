import EventFlow.Dispatcher
import EventFlow.Proofs.Engine.Creation
import EventFlow.Proofs.RateLimit.Check
import EventFlow.Rule.Dev

/-!
# The bound of a rate limit

Without a queue every request that is admitted is executed at once.  Then a rule that
applies to a flow from the start bounds how many executions of the flow were created in
any window of its length, wherever the window lies: an execution that is created last in
a window finds less than the limit in the window that ends with it, and so does every one
before it.
-/

namespace EventFlow

open Program

/-! ## Windows -/

namespace RateLimit

variable {rule : RateLimit}

/-- In the window that ends with each creation there are less than the limit before it.
The latest creation comes first. -/
def Spaced (rule : RateLimit) : List Instant → Prop
  | [] => True
  | created :: before =>
    (before.countP fun earlier => rule.start created ≤ earlier) < rule.limitValue ∧
      rule.Spaced before

theorem start_le_start {a b : Instant} (le : a ≤ b) : rule.start a ≤ rule.start b :=
  Int.add_le_add_right le _

/-- No window holds more than the limit. -/
theorem Spaced.countP_le {creations : List Instant} (spaced : rule.Spaced creations)
    (stop : Instant) :
    (creations.countP fun created => rule.start stop ≤ created && created ≤ stop) ≤
      rule.limitValue := by
  induction creations with
  | nil => exact Nat.zero_le _
  | cons created before ih =>
      rcases spaced with ⟨below, spaced⟩
      rw [List.countP_cons]
      split
      · -- The window that ends with this creation reaches back at least as far.
        rename_i within
        have created_le : created ≤ stop := by simpa using ((Bool.and_eq_true _ _).mp within).2
        have reaches : (before.countP fun earlier =>
            rule.start stop ≤ earlier && earlier ≤ stop) ≤
            before.countP fun earlier => rule.start created ≤ earlier := by
          apply List.countP_mono_left
          intro earlier _ inside
          have reached : rule.start stop ≤ earlier := by
            simpa using ((Bool.and_eq_true _ _).mp inside).1
          exact decide_eq_true (Instant.le_trans (start_le_start created_le) reached)
        omega
      · exact ih spaced

end RateLimit

/-! ## Calls of a dispatcher -/

namespace Dispatcher

/-- A call from outside. -/
inductive Call where
  | trigger (request : FlowRequest)
  | webhook (flowId : FlowId) (token : String) (payload : Bag)

/-- The flow that a call is for. -/
def Call.flowId : Call → FlowId
  | .trigger request => request.flowId
  | .webhook flowId _ _ => flowId

/-- Answers a call. -/
def serve (dispatcher : Dispatcher) : Call → Routine (Except DispatchError Submission)
  | .trigger request => dispatcher.trigger request
  | .webhook flowId token payload => dispatcher.triggerWebhook flowId token payload

variable {dispatcher : Dispatcher} {shows : Instant → Prop} {s t : Timed}

/-- The flow of a request is not there, or is switched off, or is loaded. -/
theorem runs_loadFlow_cases {flowId : FlowId} {r : Except DispatchError Flow}
    (ran : Runs (timing shows) (loadFlow flowId) s r t) :
    t = s ∧ ((s.state.store.getFlow flowId = none ∧ r = .error (.flowNotFound flowId)) ∨
      ∃ flow, s.state.store.getFlow flowId = some flow ∧
        ((flow.enabled = false ∧ r = .error (.flowDisabled flowId)) ∨
          (flow.enabled = true ∧ r = .ok flow))) := by
  simp only [loadFlow, Service.store_bind] at ran
  rcases timing_store_iff.mp ran with ⟨_, ran⟩
  simp only [Store.answer] at ran
  cases found : s.state.store.getFlow flowId with
  | none =>
      simp only [found] at ran
      rcases runs_done_iff.mp ran with ⟨rfl, rfl⟩
      exact ⟨rfl, .inl ⟨rfl, rfl⟩⟩
  | some flow =>
      simp only [found] at ran
      rcases runs_done_iff.mp ran with ⟨rfl, rfl⟩
      refine ⟨rfl, .inr ⟨flow, rfl, ?_⟩⟩
      cases switched : flow.enabled with
      | false => exact .inl ⟨rfl, rfl⟩
      | true => exact .inr ⟨rfl, rfl⟩

/-- A request whose flow is not there or is switched off is turned away. -/
theorem runs_loadFlow {flowId : FlowId} {r : Except DispatchError Flow}
    (ran : Runs (timing shows) (loadFlow flowId) s r t) :
    t = s ∧ ∀ wait, r ≠ .error (.rateLimited wait) := by
  rcases runs_loadFlow_cases ran with ⟨rfl, ⟨_, rfl⟩ | ⟨_, _, ⟨_, rfl⟩ | ⟨_, rfl⟩⟩⟩ <;> simp

/-- A call that is not turned away for another reason submits a request for its flow,
within the limits. -/
theorem runs_serve {call : Call} {r : Except DispatchError Submission}
    (ran : Runs (timing shows) (dispatcher.serve call) s r t) :
    (t = s ∧ ∀ wait, r ≠ .error (.rateLimited wait)) ∨
      ∃ request, request.flowId = call.flowId ∧
        Runs (timing shows) (dispatcher.submitWithinLimits request) s r t := by
  cases call with
  | trigger request =>
      rcases runs_bind_iff.mp ran with ⟨loaded, u, loading, ran⟩
      rcases runs_loadFlow loading with ⟨rfl, unlimited⟩
      cases loaded with
      | error e =>
          rcases runs_done_iff.mp ran with ⟨rfl, rfl⟩
          exact .inl ⟨rfl, by simpa using unlimited⟩
      | ok flow => exact .inr ⟨request, rfl, ran⟩
  | webhook flowId token payload =>
      simp only [serve, triggerWebhook] at ran
      split at ran
      · rcases runs_done_iff.mp ran with ⟨rfl, rfl⟩
        exact .inl ⟨rfl, by simp⟩
      · rcases runs_bind_iff.mp ran with ⟨loaded, u, loading, ran⟩
        rcases runs_loadFlow loading with ⟨rfl, unlimited⟩
        cases loaded with
        | error e =>
            rcases runs_done_iff.mp ran with ⟨rfl, rfl⟩
            exact .inl ⟨rfl, by simpa using unlimited⟩
        | ok flow =>
            simp only [Service.store_bind] at ran
            rcases timing_store_iff.mp ran with ⟨_, ran⟩
            simp only [Store.answer] at ran
            split at ran
            · rcases runs_done_iff.mp ran with ⟨rfl, rfl⟩
              exact .inl ⟨rfl, by simp⟩
            · exact .inr ⟨_, rfl, ran⟩

/-- Without a queue a request is executed at once. -/
theorem runs_submit {manager : QueueManager} (disabled : manager.enabled = false)
    {request : FlowRequest} {r : Except EngineError Submission}
    (ran : Runs (timing shows) (manager.submit request) s r t) :
    Creates shows request.flowId s t := by
  simp only [QueueManager.submit, QueueManager.enqueue, disabled, Bool.false_eq_true, if_false,
    pure_eq, done_bind] at ran
  rcases runs_bind_iff.mp ran with ⟨result, u, executed, ended⟩
  have creates := Engine.runs_execute_timed executed
  cases result <;> rcases runs_done_iff.mp ended with ⟨_, rfl⟩ <;> exact creates

/-- A request is refused when the check of its limits finds one that denies it, and then
nothing happens; otherwise it creates one execution of its flow at the most. -/
theorem runs_submitWithinLimits (disabled : dispatcher.queue.enabled = false)
    {request : FlowRequest} {r : Except DispatchError Submission}
    (ran : Runs (timing shows) (dispatcher.submitWithinLimits request) s r t) :
    (t.state = s.state ∧ ∃ rule ∈ s.state.store.listRateLimits request.flowId "", ∃ now,
        s.Passes shows t now ∧ rule.Denies s.state.store request.flowId now) ∨
      (∀ wait, r ≠ .error (.rateLimited wait)) ∧ ∃ u : Timed, u.state = s.state ∧
        (∀ rule ∈ s.state.store.listRateLimits request.flowId "", ∃ now,
          s.Passes shows u now ∧ ¬ rule.Denies s.state.store request.flowId now) ∧
        Creates shows request.flowId u t := by
  rcases runs_bind_iff.mp ran with ⟨checked, u, checking, ran⟩
  rcases RateLimit.runs_checkFlow checking with ⟨same, result, rfl, found⟩
  cases result with
  | exceeded retryAfter resetsAt =>
      rcases runs_done_iff.mp ran with ⟨_, rfl⟩
      exact .inl ⟨same, found⟩
  | allowed remaining =>
      rcases runs_bind_iff.mp ran with ⟨submitted, v, submitting, ended⟩
      rcases runs_done_iff.mp ended with ⟨rfl, rfl⟩
      refine .inr ⟨fun wait => ?_, u, same, found, runs_submit disabled submitting⟩
      cases submitted <;> simp [Except.mapError]

end Dispatcher

/-! ## Calls one after another -/

namespace Admission

/-- In the beginning the flow has no executions, and the rule is there. -/
structure Initial (flowId : FlowId) (rule : RateLimit) (s : Timed) : Prop where
  unused : ∀ row ∈ s.state.store.executions, row.flowId ≠ flowId
  present : rule ∈ s.state.store.rateLimits

/-- A call is served from its beginning to its end, or others use the store and create no
execution of the flow. -/
inductive Step (dispatcher : Dispatcher) (shows : Instant → Prop) (flowId : FlowId) :
    Timed → Timed → Prop where
  | serve {s t : Timed} (call : Dispatcher.Call) {result : Except DispatchError Submission}
      (ran : Runs (timing shows) (dispatcher.serve call) s result t) :
      Step dispatcher shows flowId s t
  | others {s : Timed} (now : Instant) (call : StoreCall)
      (same : (s.state.store.answer now call).2.createdAts flowId =
        s.state.store.createdAts flowId) :
      Step dispatcher shows flowId s
        ⟨{ s.state with store := (s.state.store.answer now call).2 }, s.clock⟩

/-- The states that calls come to. -/
inductive Reachable (dispatcher : Dispatcher) (shows : Instant → Prop) (flowId : FlowId)
    (rule : RateLimit) : Timed → Prop where
  | initial {s : Timed} (initial : Initial flowId rule s) :
      Reachable dispatcher shows flowId rule s
  | step {s t : Timed} (reachable : Reachable dispatcher shows flowId rule s)
      (step : Step dispatcher shows flowId s t) : Reachable dispatcher shows flowId rule t

variable {dispatcher : Dispatcher} {shows : Instant → Prop} {flowId : FlowId} {rule : RateLimit}
  {s t : Timed}

/-- The rule is there, and the executions of the flow have been created at instants of the
clock, as far apart as the rule asks for. -/
structure Paced (shows : Instant → Prop) (flowId : FlowId) (rule : RateLimit) (s : Timed) :
    Prop where
  present : rule ∈ s.state.store.rateLimits
  spaced : rule.Spaced (s.state.store.createdAts flowId)
  shown : ∀ created ∈ s.state.store.createdAts flowId, shows created ∧ created ≤ s.clock

theorem Initial.paced (initial : Initial flowId rule s) : Paced shows flowId rule s := by
  have none : s.state.store.createdAts flowId = [] := by
    simpa [Store.createdAts] using initial.unused
  exact ⟨initial.present, by simp [none, RateLimit.Spaced], by simp [none]⟩

/-- Nothing but the times of creation counts. -/
theorem Paced.of_same (paced : Paced shows flowId rule s)
    (present : rule ∈ t.state.store.rateLimits)
    (same : t.state.store.createdAts flowId = s.state.store.createdAts flowId)
    (clock_le : s.clock ≤ t.clock) : Paced shows flowId rule t where
  present := present
  spaced := same ▸ paced.spaced
  shown created createdMem := by
    rw [same] at createdMem
    exact ⟨(paced.shown created createdMem).1,
      Instant.le_trans (paced.shown created createdMem).2 clock_le⟩

/-- An execution that finds room when it is created is as far behind the others as the rule
asks for. -/
theorem Paced.of_created (paced : Paced shows flowId rule s)
    (present : rule ∈ t.state.store.rateLimits) {created : Instant}
    (added : t.state.store.createdAts flowId = created :: s.state.store.createdAts flowId)
    (below : ((s.state.store.createdAts flowId).countP fun earlier =>
      rule.start created ≤ earlier) < rule.limitValue)
    (passes : s.Passes shows t created) : Paced shows flowId rule t where
  present := present
  spaced := by
    rw [added]
    exact ⟨below, paced.spaced⟩
  shown other otherMem := by
    rw [added] at otherMem
    rcases List.mem_cons.mp otherMem with rfl | otherMem
    · exact ⟨passes.shown, passes.earlier⟩
    · rcases paced.shown other otherMem with ⟨shown, other_le⟩
      exact ⟨shown, Instant.le_trans other_le (Instant.le_trans passes.later passes.earlier)⟩

/-- A rule governs a flow: it applies to it, allows no more executions than are looked at,
and its window fits in around every instant that the clock shows. -/
structure Governs (rule : RateLimit) (flowId : FlowId) (shows : Instant → Prop) : Prop where
  applies : rule.appliesTo flowId "" = true
  scanned : rule.limitValue ≤ RateLimit.scanLimit
  fits : ∀ now, shows now → rule.Fits now

/-- A request that the rule does not deny finds room in the window that ends when its
execution is created. -/
theorem Paced.countP_lt (paced : Paced shows flowId rule s) (governs : Governs rule flowId shows)
    {now created : Instant} (shown : shows now)
    (allows : ¬ rule.Denies s.state.store flowId now) (later : now ≤ created) :
    ((s.state.store.createdAts flowId).countP fun earlier => rule.start created ≤ earlier) <
      rule.limitValue := by
  have own := RateLimit.flowId_getD_of_appliesTo governs.applies
  have fit : ∀ created ∈ s.state.store.createdAts (rule.flowId.getD flowId), rule.Fits created := by
    rw [own]
    intro created createdMem
    exact governs.fits created (paced.shown created createdMem).1
  calc
    _ ≤ (s.state.store.createdAts flowId).countP fun earlier => rule.start now ≤ earlier := by
      apply List.countP_mono_left
      intro earlier _ inside
      exact decide_eq_true
        (Instant.le_trans (RateLimit.start_le_start later) (of_decide_eq_true inside))
    _ = rule.spent s.state.store flowId now := by rw [RateLimit.spent, own, Store.createdSince]
    _ < rule.limitValue := by
      by_contra full
      exact allows (RateLimit.denies_of_le_spent governs.scanned (governs.fits now shown) fit
        (Nat.le_of_not_lt full))

/-- A call keeps the executions of the flow as far apart as the rule asks for. -/
theorem Paced.serve (paced : Paced shows flowId rule s) (governs : Governs rule flowId shows)
    (disabled : dispatcher.queue.enabled = false) {call : Dispatcher.Call}
    {result : Except DispatchError Submission}
    (ran : Runs (timing shows) (dispatcher.serve call) s result t) :
    Paced shows flowId rule t := by
  have present := Shared.rateLimits_subset_of_runs ran.unwatched paced.present
  have clock_le := clock_le_of_runs ran
  rcases Dispatcher.runs_serve ran with ⟨rfl, _⟩ | ⟨request, _, submitting⟩
  · exact paced
  rcases Dispatcher.runs_submitWithinLimits disabled submitting with
    ⟨same, _⟩ | ⟨_, u, same, allowed, creates⟩
  · exact paced.of_same present (by rw [same]) clock_le
  cases creates with
  | nothing unchanged =>
      have unchanged := Store.createdAts_of_origins_eq unchanged flowId
      rw [same] at unchanged
      exact paced.of_same present unchanged clock_le
  | one created passes added =>
      rw [same] at added
      by_cases own : request.flowId = flowId
      · subst own
        have listed : rule ∈ s.state.store.listRateLimits request.flowId "" :=
          List.mem_filter.mpr ⟨paced.present, governs.applies⟩
        rcases allowed rule listed with ⟨now, checked, allows⟩
        have below := paced.countP_lt governs checked.shown allows
          (Instant.le_trans checked.earlier passes.later)
        exact paced.of_created present (Store.createdAts_of_origins_cons added) below
          (passes.widen (Instant.le_trans checked.later checked.earlier) (Instant.le_refl _))
      · have unchanged := Store.createdAts_of_origins_cons_of_ne added (Ne.symm own)
        exact paced.of_same present unchanged clock_le

theorem Step.paced (step : Step dispatcher shows flowId s t) (governs : Governs rule flowId shows)
    (disabled : dispatcher.queue.enabled = false) (paced : Paced shows flowId rule s) :
    Paced shows flowId rule t := by
  cases step with
  | serve call ran => exact paced.serve governs disabled ran
  | others now call same =>
      exact paced.of_same (s.state.store.rateLimits_subset_answer now call paced.present) same
        (Instant.le_refl _)

theorem Reachable.paced (reachable : Reachable dispatcher shows flowId rule s)
    (governs : Governs rule flowId shows) (disabled : dispatcher.queue.enabled = false) :
    Paced shows flowId rule s := by
  induction reachable with
  | initial initial => exact initial.paced
  | step _ step ih => exact step.paced governs disabled ih

/-- A rule bounds the executions of a flow in every window, whatever calls are made at
whatever times and whatever other rules there are.  And a call is refused by a rule whose
window is full at an instant of the call: as many executions of its flow as the rule allows
were created since the window began, for the bounded flow all of them by that instant. -/
theorem Reachable.windows_bounded (reachable : Reachable dispatcher shows flowId rule s)
    (governs : Governs rule flowId shows) (disabled : dispatcher.queue.enabled = false) :
    (∀ stop, s.state.store.createdWithin flowId (rule.start stop) stop ≤ rule.limitValue) ∧
    ∀ (call : Dispatcher.Call) (wait : Duration) (t : Timed),
      Runs (timing shows) (dispatcher.serve call) s (.error (.rateLimited wait)) t →
      ∃ full ∈ s.state.store.listRateLimits call.flowId "", ∃ now, s.Passes shows t now ∧
        full.limitValue ≤ s.state.store.createdSince call.flowId (full.start now) ∧
        (call.flowId = flowId →
          full.limitValue ≤ s.state.store.createdWithin flowId (full.start now) now) := by
  have paced := reachable.paced governs disabled
  constructor
  · exact paced.spaced.countP_le
  · intro call wait t ran
    rcases Dispatcher.runs_serve ran with ⟨_, unlimited⟩ | ⟨request, same, submitting⟩
    · exact absurd rfl (unlimited wait)
    rw [← same]
    rcases Dispatcher.runs_submitWithinLimits disabled submitting with
      ⟨_, full, listed, now, passes, denies⟩ | ⟨unlimited, _⟩
    · have le_spent := denies.le_spent
      rw [RateLimit.spent,
        RateLimit.flowId_getD_of_appliesTo (List.mem_filter.mp listed).2] at le_spent
      refine ⟨full, listed, now, passes, le_spent, ?_⟩
      rintro rfl
      have past : ∀ created ∈ s.state.store.createdAts request.flowId, created ≤ now := by
        intro created createdMem
        exact Instant.le_trans (paced.shown created createdMem).2 passes.later
      rw [← Store.createdSince_eq_createdWithin past]
      exact le_spent
    · exact absurd rfl (unlimited wait)

/-- A rule of one execution a second. -/
def oneASecond : RateLimit := { RateLimit.forFlow ⟨1⟩ 1 .second 1 with id := ⟨3⟩ }

/-- A store with one flow, which has one node and that rule. -/
def meteredStore : Store :=
  let now : Instant := .ofMilliseconds 5
  let withFlow := (Store.empty.answer now (.createFlow (.create now "owner" "topic" "metered"))).2
  let node := { Node.ofRule now .trigger "start" "dev" "ping" with flowId := ⟨1⟩ }
  let withNode := (withFlow.answer now (.createNode node)).2
  (withNode.answer now (.createRateLimit oneASecond)).2

/-- A dispatcher without a queue. -/
def inlineDispatcher : Dispatcher :=
  ⟨Bot.Dev.registry, ⟨false, .create Bot.Dev.registry .default, .default, .default⟩⟩

/-- A call for the flow. -/
def ping : Dispatcher.Call := .trigger ⟨⟨1⟩, "dev|ping", "event", []⟩

/-- The call while the clock stands. -/
def pinged (s : Timed) : Except DispatchError Submission × Timed :=
  (inlineDispatcher.serve ping).run (timedAt (.ofMilliseconds 7)) s

/-- The first call. -/
def firstPing : Except DispatchError Submission × Timed :=
  pinged ⟨⟨meteredStore, .empty⟩, .ofMilliseconds 7⟩

/-- Of two calls at one instant the first is served, and the second is refused by a rule
that allows no more than has been created. -/
theorem windows_bounded_of_pinged :
    firstPing.1 = .ok (.executed ⟨"id"⟩) ∧
    Reachable inlineDispatcher (· = .ofMilliseconds 7) ⟨1⟩ oneASecond firstPing.2 ∧
    (pinged firstPing.2).1 = .error (.rateLimited (.ofSeconds 1)) ∧
    firstPing.2.state.store.createdWithin ⟨1⟩ (oneASecond.start (.ofMilliseconds 7))
      (.ofMilliseconds 7) ≤ 1 ∧
    ∃ full ∈ firstPing.2.state.store.listRateLimits ⟨1⟩ "", full.limitValue ≤
      firstPing.2.state.store.createdWithin ⟨1⟩ (full.start (.ofMilliseconds 7))
        (.ofMilliseconds 7) := by
  have initial : Initial ⟨1⟩ oneASecond ⟨⟨meteredStore, .empty⟩, .ofMilliseconds 7⟩ :=
    ⟨fun _ rowMem => absurd rowMem List.not_mem_nil, by decide +kernel⟩
  have ranFirst := runs_timedAt (inlineDispatcher.serve ping)
    ⟨⟨meteredStore, .empty⟩, .ofMilliseconds 7⟩ rfl
  have stands : firstPing.2.clock = .ofMilliseconds 7 := by decide +kernel
  have ranSecond := runs_timedAt (inlineDispatcher.serve ping) firstPing.2 stands
  have refused : (pinged firstPing.2).1 = .error (.rateLimited (.ofSeconds 1)) := by
    decide +kernel
  have reachable := (Reachable.initial initial).step (.serve ping ranFirst)
  have governs : Governs oneASecond ⟨1⟩ (· = .ofMilliseconds 7) := by
    refine ⟨by decide +kernel, by decide, ?_⟩
    rintro _ rfl
    exact ⟨by decide +kernel, by decide +kernel⟩
  rcases reachable.windows_bounded governs rfl with ⟨bounded, full⟩
  rw [show ((inlineDispatcher.serve ping).run (timedAt (.ofMilliseconds 7)) firstPing.2).1 =
    .error (.rateLimited (.ofSeconds 1)) from refused] at ranSecond
  rcases full ping _ _ ranSecond with ⟨rule, listed, _, passes, _, reached⟩
  obtain rfl := passes.shown
  exact ⟨by decide +kernel, reachable, refused, bounded _, rule, listed, reached rfl⟩

end Admission

end EventFlow
