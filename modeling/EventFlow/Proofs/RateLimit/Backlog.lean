import EventFlow.Proofs.Queue.Submission
import EventFlow.Proofs.RateLimit.Admission

/-!
# Rate limits before a queue

A rate limit counts the executions of a flow that have been created.  With a queue a request
that is accepted creates none until a worker runs its job.  So an accepted request found room
in every rule, but it takes none up: all requests that come before a worker runs find the
same room.  The workers check no limit again, and so a backlog overruns the limit when it is
worked off.
-/

namespace EventFlow

open Program

namespace Dispatcher

variable {dispatcher : Dispatcher} {shows : Instant → Prop} {request : FlowRequest} {s t : Timed}

/-! ## One request -/

/-- What comes of a request before a queue.  Only one that is accepted changes anything, and
it adds a job to the queue and nothing to the store. -/
inductive Receives (shows : Instant → Prop) (request : FlowRequest) (s t : Timed) :
    Except DispatchError Submission → Prop where
  | noFlow (absent : s.state.store.getFlow request.flowId = none) (same : t.state = s.state) :
      Receives shows request s t (.error (.flowNotFound request.flowId))
  | disabled {flow : Flow} (found : s.state.store.getFlow request.flowId = some flow)
      (off : flow.enabled = false) (same : t.state = s.state) :
      Receives shows request s t (.error (.flowDisabled request.flowId))
  | full {wait : Duration} {rule : RateLimit} {now : Instant}
      (listed : rule ∈ s.state.store.listRateLimits request.flowId "")
      (passes : s.Passes shows t now) (denies : rule.Denies s.state.store request.flowId now)
      (same : t.state = s.state) : Receives shows request s t (.error (.rateLimited wait))
  | accepted {flow : Flow} {id : ExecutionId} {job : QueueJob}
      (found : s.state.store.getFlow request.flowId = some flow) (switchedOn : flow.enabled = true)
      (room : ∀ rule ∈ s.state.store.listRateLimits request.flowId "", ∃ now,
        s.Passes shows t now ∧ ¬ rule.Denies s.state.store request.flowId now)
      (named : id.isBlank = false) (carries : job.executionId = id ∧ job.args = request)
      (pushed : t.state = { s.state with queue := (s.state.queue.push job).2 }) :
      Receives shows request s t (.ok (.queued id))

theorem runs_trigger_of_enabled (enabled : dispatcher.queue.enabled = true)
    {r : Except DispatchError Submission}
    (ran : Runs (timing shows) (dispatcher.trigger request) s r t) :
    Receives shows request s t r := by
  rcases runs_bind_iff.mp ran with ⟨loaded, u, loading, ran⟩
  rcases runs_loadFlow_cases loading with
    ⟨rfl, ⟨absent, rfl⟩ | ⟨flow, found, ⟨off, rfl⟩ | ⟨switchedOn, rfl⟩⟩⟩
  · rcases runs_done_iff.mp ran with ⟨rfl, rfl⟩
    exact .noFlow absent rfl
  · rcases runs_done_iff.mp ran with ⟨rfl, rfl⟩
    exact .disabled found off rfl
  · rcases runs_bind_iff.mp ran with ⟨checked, v, checking, ran⟩
    rcases RateLimit.runs_checkFlow checking with ⟨same, result, rfl, findings⟩
    cases result with
    | exceeded retryAfter resetsAt =>
        rcases runs_done_iff.mp ran with ⟨rfl, rfl⟩
        rcases findings with ⟨rule, listed, now, passes, denies⟩
        exact .full listed passes denies same
    | allowed remaining =>
        rcases runs_bind_iff.mp ran with ⟨submitted, w, submitting, ended⟩
        rcases runs_done_iff.mp ended with ⟨rfl, rfl⟩
        have clock_le := clock_le_of_runs submitting
        rw [← same] at found
        rcases QueueManager.runs_submit_of_enabled enabled found switchedOn submitting.unwatched
          with ⟨id, now, named, rfl, pushed⟩
        rw [same] at found pushed
        refine .accepted found switchedOn ?_ named ⟨rfl, rfl⟩ pushed
        intro rule listed
        rcases findings rule listed with ⟨checkedAt, passes, allows⟩
        exact ⟨checkedAt, passes.widen (Instant.le_refl _) clock_le, allows⟩

/-- A request for an enabled flow whose rules all have room is accepted. -/
theorem Receives.isAccepted {r : Except DispatchError Submission}
    (receives : Receives shows request s t r) {flow : Flow}
    (found : s.state.store.getFlow request.flowId = some flow) (switchedOn : flow.enabled = true)
    (room : ∀ rule ∈ s.state.store.listRateLimits request.flowId "", ∀ now, shows now →
      ¬ rule.Denies s.state.store request.flowId now) :
    ∃ id job, r = .ok (.queued id) ∧ job.args = request ∧
      t.state = { s.state with queue := (s.state.queue.push job).2 } := by
  cases receives with
  | noFlow absent => simp [absent] at found
  | disabled present off => simp_all
  | full listed passes denies => exact absurd denies (room _ listed _ passes.shown)
  | accepted _ _ _ _ carries pushed => exact ⟨_, _, rfl, carries.2, pushed⟩

/-! ## Requests one after another -/

/-- Triggers a flow for one request after the other. -/
def triggerAll (dispatcher : Dispatcher) :
    List FlowRequest → Routine (List (Except DispatchError Submission))
  | [] => .done []
  | request :: rest => do
    let result ← dispatcher.trigger request
    return result :: (← dispatcher.triggerAll rest)

/-- Was the request taken for later? -/
def IsQueued (result : Except DispatchError Submission) : Prop :=
  ∃ id, result = .ok (.queued id)

/-- Requests that are all accepted leave the store as it is. -/
theorem runs_triggerAll (enabled : dispatcher.queue.enabled = true) {flowId : FlowId} {flow : Flow}
    {requests : List FlowRequest} (own : ∀ request ∈ requests, request.flowId = flowId)
    (found : s.state.store.getFlow flowId = some flow) (switchedOn : flow.enabled = true)
    (room : ∀ rule ∈ s.state.store.listRateLimits flowId "", ∀ now, shows now →
      ¬ rule.Denies s.state.store flowId now)
    {results : List (Except DispatchError Submission)}
    (ran : Runs (timing shows) (dispatcher.triggerAll requests) s results t) :
    results.length = requests.length ∧ (∀ result ∈ results, IsQueued result) ∧
      t.state.store = s.state.store ∧
      t.state.queue.jobs.map (·.args) = s.state.queue.jobs.map (·.args) ++ requests := by
  induction requests generalizing s results with
  | nil =>
      rcases runs_done_iff.mp ran with ⟨rfl, rfl⟩
      simp
  | cons request rest ih =>
      obtain rfl : request.flowId = flowId := own request List.mem_cons_self
      rcases runs_bind_iff.mp ran with ⟨first, u, triggering, ran⟩
      rcases runs_bind_iff.mp ran with ⟨others, v, triggeringRest, ended⟩
      rcases runs_done_iff.mp ended with ⟨rfl, rfl⟩
      rcases (runs_trigger_of_enabled enabled triggering).isAccepted found switchedOn room
        with ⟨id, job, rfl, carries, pushed⟩
      -- The store is the same, so that the next request finds the same room.
      have sameStore : u.state.store = s.state.store := by rw [pushed]
      rw [← sameStore] at found room
      rcases ih (fun other otherMem => own other (List.mem_cons_of_mem _ otherMem)) found room
        triggeringRest with ⟨length, queued, store, args⟩
      refine ⟨by simp [length], ?_, store.trans sameStore, ?_⟩
      · exact List.forall_mem_cons.mpr ⟨⟨id, rfl⟩, queued⟩
      · rw [args, pushed]
        simp [QueueTable.push, carries]

/-- The limits do not bound how many requests are accepted before a queue.  An accepted
request found room in every rule at an instant of its call, but it only adds a job; and while
no rule denies the first of some requests for a flow, all of them are accepted, however many
they are and whatever the rules allow. -/
theorem requests_accepted_beyond_limits (enabled : dispatcher.queue.enabled = true) :
    (∀ (request : FlowRequest) (s t : Timed) (r : Except DispatchError Submission),
      Runs (timing shows) (dispatcher.trigger request) s r t → Receives shows request s t r) ∧
    ∀ (flowId : FlowId) (flow : Flow) (requests : List FlowRequest) (s : Timed),
      (∀ request ∈ requests, request.flowId = flowId) →
      s.state.store.getFlow flowId = some flow → flow.enabled = true →
      (∀ rule ∈ s.state.store.listRateLimits flowId "", ∀ now, shows now →
        ¬ rule.Denies s.state.store flowId now) →
      shows s.clock →
      (∃ results t, Runs (timing shows) (dispatcher.triggerAll requests) s results t) ∧
      ∀ results t, Runs (timing shows) (dispatcher.triggerAll requests) s results t →
        results.length = requests.length ∧ (∀ result ∈ results, IsQueued result) ∧
        t.state.store = s.state.store ∧
        t.state.queue.jobs.map (·.args) = s.state.queue.jobs.map (·.args) ++ requests := by
  constructor
  · intro request s t r ran
    exact runs_trigger_of_enabled enabled ran
  · intro flowId flow requests s own found switchedOn room shown
    constructor
    · have ran := runs_timedAt (dispatcher.triggerAll requests) s rfl
      exact ⟨_, _, ran.mono fun _ _ _ _ => timing_mono fun _ same => same ▸ shown⟩
    · intro results t ran
      exact runs_triggerAll enabled own found switchedOn room ran

end Dispatcher

/-! ## Windows -/

namespace Backlog

/-- When a request for a flow was accepted. -/
def acceptedAt (flowId : FlowId) (request : FlowRequest) (now : Instant) :
    Except DispatchError Submission → List Instant
  | .ok _ => if request.flowId = flowId then [now] else []
  | .error _ => []

/-- Calls of a dispatcher and rounds of its workers one after another, with the instants at
which requests for a flow were accepted, the last one first. -/
inductive Served (dispatcher : Dispatcher) (shows : Instant → Prop) (flowId : FlowId) (s : Timed) :
    List Instant → Timed → Prop where
  | nothing : Served dispatcher shows flowId s [] s
  | trigger {accepted : List Instant} {t u : Timed} {request : FlowRequest}
      {result : Except DispatchError Submission}
      (served : Served dispatcher shows flowId s accepted t)
      (ran : Runs (timing shows) (dispatcher.trigger request) t result u) :
      Served dispatcher shows flowId s (acceptedAt flowId request u.clock result ++ accepted) u
  | work {accepted : List Instant} {t u : Timed} {result : Except QueueError Bool}
      (served : Served dispatcher shows flowId s accepted t)
      (ran : Runs (timing shows) dispatcher.queue.processNext t result u) :
      Served dispatcher shows flowId s accepted u

/-- No window of a rule holds more accepted requests than the rule allows. -/
def Bounded (dispatcher : Dispatcher) (shows : Instant → Prop) (flowId : FlowId)
    (rule : RateLimit) (s : Timed) : Prop :=
  ∀ accepted t, Served dispatcher shows flowId s accepted t → ∀ stop,
    (accepted.countP fun now => rule.start stop ≤ now && now ≤ stop) ≤ rule.limitValue

/-- An answer to every question, while the clock stands and fresh ids are one id. -/
def namingAt (id : ExecutionId) (now : Instant) (s : Timed) : (q : ServiceCall) → q.Answer × Timed
  | .freshId => (id, s)
  | q => timedAt now s q

theorem runs_namingAt {α : Type} {id : ExecutionId} {now : Instant} (named : id.isBlank = false)
    (p : Routine α) (s : Timed) (stands : s.clock = now) :
    Runs (timing (· = now)) p s (p.run (namingAt id now) s).1 (p.run (namingAt id now) s).2 := by
  apply runs_run_of_valid (fun u : Timed => u.clock = now) _ p s stands
  rintro u q rfl
  by_cases fresh : q = .freshId
  · subst fresh
    exact ⟨⟨⟨named, rfl⟩, rfl⟩, rfl⟩
  · have same : namingAt id u.clock u q = timedAt u.clock u q := by
      cases q <;> first | rfl | contradiction
    rw [same]
    exact ⟨timing_timedAt u q, rfl⟩

/-- A dispatcher with a queue. -/
def queueingDispatcher : Dispatcher :=
  { Admission.inlineDispatcher with
    queue := { Admission.inlineDispatcher.queue with enabled := true } }

/-- When the clock stands. -/
def noon : Instant := .ofMilliseconds 7

/-- A flow that is limited to one execution a second, and nothing queued. -/
def quiet : Timed := ⟨⟨Admission.meteredStore, .empty⟩, noon⟩

/-- A request for the flow. -/
def request : FlowRequest := ⟨⟨1⟩, "dev|ping", "event", []⟩

/-- Three requests at once are accepted by a flow that may have one execution a second. -/
theorem three_accepted_of_quiet :
    Admission.oneASecond ∈ quiet.state.store.listRateLimits ⟨1⟩ "" ∧
    ∃ results t, Runs (timing (· = noon))
        (queueingDispatcher.triggerAll [request, request, request]) quiet results t ∧
      results.length = 3 ∧ ∀ result ∈ results, Dispatcher.IsQueued result := by
  have applies : quiet.state.store.listRateLimits ⟨1⟩ "" = [Admission.oneASecond] := by
    decide +kernel
  have room : ∀ rule ∈ quiet.state.store.listRateLimits ⟨1⟩ "", ∀ now, now = noon →
      ¬ rule.Denies quiet.state.store ⟨1⟩ now := by
    rw [applies]
    rintro rule ruleMem _ rfl denies
    obtain rfl := List.mem_singleton.mp ruleMem
    exact absurd denies.le_spent (by decide +kernel)
  have own : ∀ other ∈ [request, request, request], other.flowId = ⟨1⟩ := by simp [request]
  have enabled : queueingDispatcher.queue.enabled = true := rfl
  rcases (Dispatcher.requests_accepted_beyond_limits enabled).2 ⟨1⟩ _ _ quiet own rfl rfl room rfl
    with ⟨⟨results, t, ran⟩, accepted⟩
  rcases accepted results t ran with ⟨length, queued, _⟩
  exact ⟨by simp [applies], results, t, ran, length, queued⟩

/-- The request is made once, -/
def once : Except DispatchError Submission × Timed :=
  (queueingDispatcher.trigger request).run (namingAt ⟨"first"⟩ noon) quiet

/-- and once more. -/
def twice : Except DispatchError Submission × Timed :=
  (queueingDispatcher.trigger request).run (namingAt ⟨"second"⟩ noon) once.2

/-- A worker takes up the one job, -/
def halfDone : Except QueueError Bool × Timed :=
  queueingDispatcher.queue.processNext.run (timedAt noon) twice.2

/-- and the other. -/
def done : Except QueueError Bool × Timed :=
  queueingDispatcher.queue.processNext.run (timedAt noon) halfDone.2

/-- Before a queue a rule of one execution a second does not bound what is accepted: two
requests are accepted at one instant, and when they have been worked off the flow has had two
executions in the window. -/
theorem not_bounded_of_two_requests :
    Admission.Initial ⟨1⟩ Admission.oneASecond quiet ∧
    Admission.Governs Admission.oneASecond ⟨1⟩ (· = noon) ∧
    ¬ Bounded queueingDispatcher (· = noon) ⟨1⟩ Admission.oneASecond quiet ∧
    ∃ accepted, Served queueingDispatcher (· = noon) ⟨1⟩ quiet accepted done.2 ∧
      done.2.state.store.createdWithin ⟨1⟩ (Admission.oneASecond.start noon) noon = 2 := by
  have initial : Admission.Initial ⟨1⟩ Admission.oneASecond quiet :=
    ⟨fun _ rowMem => absurd rowMem List.not_mem_nil, by decide +kernel⟩
  have governs : Admission.Governs Admission.oneASecond ⟨1⟩ (· = noon) := by
    refine ⟨by decide +kernel, by decide, ?_⟩
    rintro _ rfl
    exact ⟨by decide +kernel, by decide +kernel⟩
  have first : Runs (timing (· = noon)) (queueingDispatcher.trigger request) quiet once.1 once.2 :=
    runs_namingAt (by decide +kernel) _ _ rfl
  have second : Runs (timing (· = noon)) (queueingDispatcher.trigger request) once.2 twice.1
      twice.2 := runs_namingAt (by decide +kernel) _ _ (by decide +kernel)
  have third : Runs (timing (· = noon)) queueingDispatcher.queue.processNext twice.2 halfDone.1
      halfDone.2 := runs_timedAt _ _ (by decide +kernel)
  have fourth : Runs (timing (· = noon)) queueingDispatcher.queue.processNext halfDone.2 done.1
      done.2 := runs_timedAt _ _ (by decide +kernel)
  have accepted : Served queueingDispatcher (· = noon) ⟨1⟩ quiet _ twice.2 :=
    (Served.nothing.trigger first).trigger second
  refine ⟨initial, governs, ?_, _, (accepted.work third).work fourth, by decide +kernel⟩
  intro bounded
  have two := bounded _ _ accepted noon
  revert two
  decide +kernel

end Backlog

end EventFlow
