import EventFlow.Poller
import EventFlow.Proofs.Shared

/-!
# The visits of a tick

What a tick does in the end is to visit triggers, one after the other: for each it looks
at the clock, and polls it if it is due.  A visit tells what the trigger was when its flow
was listed, what the clock showed and how the rule replied.
-/

namespace EventFlow

open Program

/-! ## What a reply leaves -/

namespace Reply

/-- The state that is kept after a poll, unless the rule broke down. -/
def kept (vars : Bag) : Reply PollResult → Except String Bag
  | .returned (.ok result) => .ok (result.state.getD vars)
  | .returned (.error _) => .ok vars
  | .expired => .ok vars
  | .panicked message => .error message

/-- The events that a poll has brought. -/
def events : Reply PollResult → List Bag
  | .returned (.ok result) => result.events
  | _ => []

/-- Has the poll failed, or taken too long? -/
def failed : Reply PollResult → Bool
  | .returned (.error _) => true
  | .expired => true
  | _ => false

end Reply

/-- The report after a poll, before its events are submitted. -/
def TickReport.counting (report : TickReport) (reply : Reply PollResult) : TickReport :=
  ⟨report.polled + 1, report.submitted, report.failed + if reply.failed then 1 else 0⟩

/-- A trigger that is visited, as it was listed, with its rule and what the clock showed; and
how the rule replied, if it was polled. -/
structure Visit where
  flow : Flow
  node : Node
  rule : TriggerRule
  now : Instant
  reply : Option (Reply PollResult)

namespace Poller

/-- The rule of a trigger, if there is one and it is polled. -/
def polled? (poller : Poller) (node : Node) : Option TriggerRule :=
  match poller.registry.findTrigger node.bot node.ruleId with
  | .error _ => none
  | .ok rule => if rule.mode = .poll then some rule else none

/-- What the rule of a trigger is asked. -/
def asks (poller : Poller) (rule : TriggerRule) (flow : Flow) (node : Node) :
    Routine (Reply PollResult) :=
  rule.poll (poller.context flow) node.parameters node.vars poller.pollTimeout

section Visits

variable {S : Type} (poller : Poller) (answers : Answering service S)

/-- The clock is looked at. -/
def Reads (s : S) (now : Instant) (t : S) : Prop :=
  answers s (ServiceCall.now : service.Question) now t

/-- A trigger that is due is polled. -/
def Polls (visit : Visit) (reply : Reply PollResult) (s u : S) : Prop :=
  ∃ t, Reads answers s visit.now t ∧ isDue visit.node visit.now = true ∧
    Runs answers (poller.asks visit.rule visit.flow visit.node) t reply u

/-- A node is taken up: it is passed by, or it is visited.  When it is polled the tick may break
down; otherwise its state is kept and its events are submitted. -/
inductive TakesUp (flow : Flow) (node : Node) (report : TickReport) :
    S → List Visit → Except String TickReport → S → Prop where
  | passed {s : S} (unpolled : poller.polled? node = none) :
      TakesUp flow node report s [] (.ok report) s
  | early {s t : S} {rule : TriggerRule} {now : Instant} (polled : poller.polled? node = some rule)
      (read : Reads answers s now t) (early : isDue node now = false) :
      TakesUp flow node report s [⟨flow, node, rule, now, none⟩] (.ok report) t
  | brokeDown {s t : S} {rule : TriggerRule} {now : Instant} {reply : Reply PollResult}
      {message : String} (polled : poller.polled? node = some rule)
      (polls : Polls poller answers ⟨flow, node, rule, now, some reply⟩ reply s t)
      (broke : reply.kept node.vars = .error message) :
      TakesUp flow node report s [⟨flow, node, rule, now, some reply⟩] (.error message) t
  | unschedulable {s t : S} {rule : TriggerRule} {now : Instant} {reply : Reply PollResult}
      {state : Bag} (polled : poller.polled? node = some rule)
      (polls : Polls poller answers ⟨flow, node, rule, now, some reply⟩ reply s t)
      (kept : reply.kept node.vars = .ok state)
      (never : schedule? state now (poller.interval node) = none) :
      TakesUp flow node report s [⟨flow, node, rule, now, some reply⟩] (.error unschedulable) t
  | settled {s t u v : S} {rule : TriggerRule} {now : Instant} {reply : Reply PollResult}
      {state vars : Bag} {after : TickReport} (polled : poller.polled? node = some rule)
      (polls : Polls poller answers ⟨flow, node, rule, now, some reply⟩ reply s t)
      (kept : reply.kept node.vars = .ok state)
      (scheduled : schedule? state now (poller.interval node) = some vars)
      (saved : Runs answers (poller.saveState { node with vars }) t () u)
      (submitted : Runs answers
        (poller.submitEvents flow node reply.events (report.counting reply)) u after v) :
      TakesUp flow node report s [⟨flow, node, rule, now, some reply⟩] (.ok after) v

/-- Nodes of a flow are taken up one after the other, until the tick breaks down. -/
inductive TakesUpAll (flow : Flow) :
    List Node → TickReport → S → List Visit → Except String TickReport → S → Prop where
  | finished {report : TickReport} {s : S} : TakesUpAll flow [] report s [] (.ok report) s
  | broken {node : Node} {rest : List Node} {report : TickReport} {s t : S} {visits : List Visit}
      {message : String} (breaks : TakesUp poller answers flow node report s visits
        (.error message) t) :
      TakesUpAll flow (node :: rest) report s visits (.error message) t
  | wentOn {node : Node} {rest : List Node} {report between : TickReport} {s t u : S}
      {visits more : List Visit} {r : Except String TickReport}
      (first : TakesUp poller answers flow node report s visits (.ok between) t)
      (later : TakesUpAll flow rest between t more r u) :
      TakesUpAll flow (node :: rest) report s (visits ++ more) r u

/-- Before a flow is gone through it is asked whether to stop. -/
def Stops (stop : Bool) (s t : S) : Prop :=
  answers s (ServiceCall.isGiven .pollerStop : service.Question) stop t

/-- The nodes of a flow are listed. -/
def Lists (flow : Flow) (listed : Except StoreError (List Node)) (s t : S) : Prop :=
  ∃ u, Stops answers false s u ∧
    answers u (ServiceCall.store (.listNodes flow.id) : service.Question) listed t

/-- Flows are gone through one after the other, until the poller is told to stop or the tick
breaks down. -/
inductive GoesThrough :
    List Flow → TickReport → S → List Visit → Except String TickReport → S → Prop where
  | finished {report : TickReport} {s : S} : GoesThrough [] report s [] (.ok report) s
  | stopped {flow : Flow} {rest : List Flow} {report : TickReport} {s t : S}
      (told : Stops answers true s t) :
      GoesThrough (flow :: rest) report s [] (.ok report) t
  | unlisted {flow : Flow} {rest : List Flow} {report : TickReport} {s t u : S} {e : StoreError}
      {visits : List Visit} {r : Except String TickReport}
      (refused : Lists answers flow (.error e) s t) (later : GoesThrough rest report t visits r u) :
      GoesThrough (flow :: rest) report s visits r u
  | broken {flow : Flow} {rest : List Flow} {report : TickReport} {s t u : S} {nodes : List Node}
      {visits : List Visit} {message : String} (listed : Lists answers flow (.ok nodes) s t)
      (breaks : TakesUpAll poller answers flow (nodes.filter Node.isTrigger) report t visits
        (.error message) u) :
      GoesThrough (flow :: rest) report s visits (.error message) u
  | wentOn {flow : Flow} {rest : List Flow} {report between : TickReport} {s t u v : S}
      {nodes : List Node} {visits more : List Visit} {r : Except String TickReport}
      (listed : Lists answers flow (.ok nodes) s t)
      (first : TakesUpAll poller answers flow (nodes.filter Node.isTrigger) report t visits
        (.ok between) u)
      (later : GoesThrough rest between u more r v) :
      GoesThrough (flow :: rest) report s (visits ++ more) r v

/-- A tick goes through the flows that are switched on when it begins. -/
inductive Ticks : S → List Visit → Except String TickReport → S → Prop where
  | unlisted {s t : S} {e : StoreError}
      (refused : answers s (ServiceCall.store (.listFlows "" "") : service.Question) (.error e) t) :
      Ticks s [] (.ok .zero) t
  | listed {s t u : S} {flows : List Flow} {visits : List Visit} {r : Except String TickReport}
      (listed : answers s (ServiceCall.store (.listFlows "" "") : service.Question) (.ok flows) t)
      (went : GoesThrough poller answers (flows.filter (·.enabled)) .zero t visits r u) :
      Ticks s visits r u

end Visits

/-! ## A tick is its visits -/

variable {S : Type} {poller : Poller} {answers : Answering service S} {flow : Flow} {node : Node}
  {report : TickReport} {r : Except String TickReport} {s t : S}

/-- What follows a poll: its state is kept and its events are submitted. -/
theorem pollDue_eq (rule : TriggerRule) (now : Instant) :
    poller.pollDue rule flow node now report =
      poller.asks rule flow node >>= fun reply =>
        match reply.kept node.vars with
        | .error message => .done (.error message)
        | .ok state => poller.keepState node state now
            (poller.submitEvents flow node reply.events (report.counting reply) >>= fun after =>
              .done (.ok after)) := by
  unfold pollDue
  refine congrArg (poller.asks rule flow node >>= ·) (funext fun reply => ?_)
  rcases reply with (_ | _) | _ | _ <;> rfl

theorem runs_keepState_iff {state : Bag} {now : Instant}
    {next : Routine (Except String TickReport)} :
    Runs answers (poller.keepState node state now next) s r t ↔
      (schedule? state now (poller.interval node) = none ∧ r = .error unschedulable ∧ t = s) ∨
        ∃ vars u, schedule? state now (poller.interval node) = some vars ∧
          Runs answers (poller.saveState { node with vars }) s () u ∧ Runs answers next u r t := by
  unfold keepState
  cases scheduled : schedule? state now (poller.interval node) with
  | none => simp [runs_done_iff]
  | some vars =>
      simp only [runs_bind_iff, reduceCtorEq, false_and, false_or, Option.some.injEq]
      constructor
      · rintro ⟨_, u, saved, rest⟩
        exact ⟨vars, u, rfl, saved, rest⟩
      · rintro ⟨_, u, rfl, saved, rest⟩
        exact ⟨(), u, saved, rest⟩

/-- A trigger that is due is polled, and the tick breaks down or goes on. -/
theorem takesUp_of_pollDue {rule : TriggerRule} {now : Instant} {u : S}
    (polled : poller.polled? node = some rule) (read : Reads answers s now t)
    (due : isDue node now = true)
    (ran : Runs answers (poller.pollDue rule flow node now report) t r u) :
    ∃ visits, TakesUp poller answers flow node report s visits r u := by
  rw [pollDue_eq] at ran
  rcases runs_bind_iff.mp ran with ⟨reply, v, replied, ran⟩
  have polls : Polls poller answers ⟨flow, node, rule, now, some reply⟩ reply s v :=
    ⟨t, read, due, replied⟩
  cases kept : reply.kept node.vars with
  | error message =>
      rw [kept] at ran
      rcases runs_done_iff.mp ran with ⟨rfl, rfl⟩
      exact ⟨_, .brokeDown polled polls kept⟩
  | ok state =>
      rw [kept] at ran
      rcases runs_keepState_iff.mp ran with ⟨never, rfl, rfl⟩ | ⟨vars, w, scheduled, saved, ran⟩
      · exact ⟨_, .unschedulable polled polls kept never⟩
      · rcases runs_bind_iff.mp ran with ⟨after, x, submitted, ended⟩
        rcases runs_done_iff.mp ended with ⟨rfl, rfl⟩
        exact ⟨_, .settled polled polls kept scheduled saved submitted⟩

/-- A node is polled if it has a rule that is polled and is due. -/
theorem pollNode_eq : poller.pollNode flow node report =
    match poller.polled? node with
    | none => .done (.ok report)
    | some rule => .ask (ServiceCall.now : service.Question) fun now =>
        if isDue node now then poller.pollDue rule flow node now report
        else .done (.ok report) := by
  unfold pollNode polled?
  cases poller.registry.findTrigger node.bot node.ruleId with
  | error e => rfl
  | ok rule =>
      by_cases poll : rule.mode = .poll
      · simp only [poll, if_true]
        rfl
      · simp [poll]

theorem takesUp_of_runs (ran : Runs answers (poller.pollNode flow node report) s r t) :
    ∃ visits, TakesUp poller answers flow node report s visits r t := by
  rw [pollNode_eq] at ran
  cases polled : poller.polled? node with
  | none =>
      rw [polled] at ran
      rcases runs_done_iff.mp ran with ⟨rfl, rfl⟩
      exact ⟨[], .passed polled⟩
  | some rule =>
      rw [polled] at ran
      rcases runs_ask_iff.mp ran with ⟨now, u, read, ran⟩
      split at ran
      · rename_i due
        exact takesUp_of_pollDue polled read due ran
      · rename_i early
        rcases runs_done_iff.mp ran with ⟨rfl, rfl⟩
        exact ⟨_, .early polled read (by simpa using early)⟩

theorem takesUpAll_of_runs {nodes : List Node}
    (ran : Runs answers (poller.pollNodes flow nodes report) s r t) :
    ∃ visits, TakesUpAll poller answers flow nodes report s visits r t := by
  induction nodes generalizing report s with
  | nil =>
      rcases runs_done_iff.mp ran with ⟨rfl, rfl⟩
      exact ⟨[], .finished⟩
  | cons node rest ih =>
      rcases runs_bind_iff.mp ran with ⟨polled, u, polling, ran⟩
      rcases takesUp_of_runs polling with ⟨visits, first⟩
      cases polled with
      | error message =>
          rcases runs_done_iff.mp ran with ⟨rfl, rfl⟩
          exact ⟨visits, .broken first⟩
      | ok between =>
          rcases ih ran with ⟨more, later⟩
          exact ⟨visits ++ more, .wentOn first later⟩

theorem goesThrough_of_runs {flows : List Flow}
    (ran : Runs answers (poller.pollFlows flows report) s r t) :
    ∃ visits, GoesThrough poller answers flows report s visits r t := by
  induction flows generalizing report s with
  | nil =>
      rcases runs_done_iff.mp ran with ⟨rfl, rfl⟩
      exact ⟨[], .finished⟩
  | cons flow rest ih =>
      simp only [pollFlows, Service.isGiven_bind, Service.store_bind] at ran
      rcases runs_ask_iff.mp ran with ⟨stop, u, told, ran⟩
      cases stop with
      | true =>
          rcases runs_done_iff.mp ran with ⟨rfl, rfl⟩
          exact ⟨[], .stopped told⟩
      | false =>
          rcases runs_ask_iff.mp ran with ⟨listed, v, listing, ran⟩
          have lists : Lists answers flow listed s v := ⟨u, told, listing⟩
          cases listed with
          | error e =>
              rcases ih ran with ⟨visits, later⟩
              exact ⟨visits, .unlisted lists later⟩
          | ok nodes =>
              rcases runs_bind_iff.mp ran with ⟨polled, w, polling, ran⟩
              rcases takesUpAll_of_runs polling with ⟨visits, first⟩
              cases polled with
              | error message =>
                  rcases runs_done_iff.mp ran with ⟨rfl, rfl⟩
                  exact ⟨visits, .broken lists first⟩
              | ok between =>
                  rcases ih ran with ⟨more, later⟩
                  exact ⟨visits ++ more, .wentOn lists first later⟩

/-- Every tick is made of visits. -/
theorem ticks_of_runs (ran : Runs answers poller.tick s r t) :
    ∃ visits, Ticks poller answers s visits r t := by
  rcases runs_ask_iff.mp ran with ⟨listed, u, listing, ran⟩
  cases listed with
  | error e =>
      rcases runs_done_iff.mp ran with ⟨rfl, rfl⟩
      exact ⟨[], .unlisted listing⟩
  | ok flows =>
      rcases goesThrough_of_runs ran with ⟨visits, went⟩
      exact ⟨visits, .listed listing went⟩

/-! ## Visits make a tick -/

variable {visits : List Visit}

/-- A poll is followed by what follows its reply. -/
theorem runs_of_polls {rule : TriggerRule} {now : Instant} {reply : Reply PollResult} {u : S}
    (polled : poller.polled? node = some rule)
    (polls : Polls poller answers ⟨flow, node, rule, now, some reply⟩ reply s u)
    (ran : Runs answers
      (match reply.kept node.vars with
        | .error message => .done (.error message)
        | .ok state => poller.keepState node state now
            (poller.submitEvents flow node reply.events (report.counting reply) >>= fun after =>
              .done (.ok after))) u r t) :
    Runs answers (poller.pollNode flow node report) s r t := by
  rcases polls with ⟨_, read, due, replied⟩
  rw [pollNode_eq, polled]
  refine .ask read ?_
  rw [if_pos due, pollDue_eq]
  exact runs_bind_iff.mpr ⟨reply, u, replied, ran⟩

theorem TakesUp.runs (takesUp : TakesUp poller answers flow node report s visits r t) :
    Runs answers (poller.pollNode flow node report) s r t := by
  cases takesUp with
  | passed unpolled =>
      rw [pollNode_eq, unpolled]
      exact .done _ _
  | early polled read early =>
      rw [pollNode_eq, polled]
      refine .ask read ?_
      rw [if_neg (by simp [early])]
      exact .done _ _
  | brokeDown polled polls broke =>
      apply runs_of_polls polled polls
      rw [broke]
      exact .done _ _
  | unschedulable polled polls kept never =>
      apply runs_of_polls polled polls
      rw [kept]
      exact runs_keepState_iff.mpr (.inl ⟨never, rfl, rfl⟩)
  | settled polled polls kept scheduled saved submitted =>
      apply runs_of_polls polled polls
      rw [kept]
      exact runs_keepState_iff.mpr (.inr ⟨_, _, scheduled, saved,
        runs_bind_iff.mpr ⟨_, _, submitted, .done _ _⟩⟩)

theorem TakesUpAll.runs {nodes : List Node}
    (takesUp : TakesUpAll poller answers flow nodes report s visits r t) :
    Runs answers (poller.pollNodes flow nodes report) s r t := by
  induction takesUp with
  | finished => exact .done _ _
  | broken breaks => exact runs_bind_iff.mpr ⟨_, _, breaks.runs, .done _ _⟩
  | wentOn first _ ih => exact runs_bind_iff.mpr ⟨_, _, first.runs, ih⟩

theorem GoesThrough.runs {flows : List Flow}
    (went : GoesThrough poller answers flows report s visits r t) :
    Runs answers (poller.pollFlows flows report) s r t := by
  induction went with
  | finished => exact .done _ _
  | stopped told => exact .ask told (.done _ _)
  | unlisted refused _ ih =>
      rcases refused with ⟨_, told, listing⟩
      exact .ask told (.ask listing ih)
  | broken listed breaks =>
      rcases listed with ⟨_, told, listing⟩
      refine .ask told (.ask listing ?_)
      change Runs answers (poller.pollNodes _ _ _ >>= _) _ _ _
      exact runs_bind_iff.mpr ⟨_, _, breaks.runs, .done _ _⟩
  | wentOn listed first _ ih =>
      rcases listed with ⟨_, told, listing⟩
      refine .ask told (.ask listing ?_)
      change Runs answers (poller.pollNodes _ _ _ >>= _) _ _ _
      exact runs_bind_iff.mpr ⟨_, _, first.runs, ih⟩

/-- The runs of a tick are the ticks that are made of visits. -/
theorem runs_tick_iff :
    Runs answers poller.tick s r t ↔ ∃ visits, Ticks poller answers s visits r t := by
  constructor
  · exact ticks_of_runs
  · rintro ⟨visits, ticks⟩
    cases ticks with
    | unlisted refused => exact .ask refused (.done _ _)
    | listed listed went => exact .ask listed went.runs

end Poller

end EventFlow
