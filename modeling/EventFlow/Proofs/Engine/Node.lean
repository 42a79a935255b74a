import EventFlow.Engine.Walk
import EventFlow.Proofs.Notes
import EventFlow.Proofs.Shared
import EventFlow.Proofs.Store.Change

/-!
# The record of a node's run

A node that a walk enters is run under a job of its own.  Its entry in the log of a
walk holds the node, the rules outside of the library that were called, with what
they were called with, what came of it, and the row of the job.  A node that is run
alone leaves nothing else behind than its entry.
-/

namespace EventFlow

open Program

/-! ## Calls of rules -/

/-- A call of a rule outside of the library. -/
structure RuleCall where
  handle : Handle
  context : RuleContext
  params : Bag
  request : Request
  limit : Duration

/-- The call of a rule that is asked for. -/
def ServiceCall.ruleCall? : ServiceCall → Option RuleCall
  | .invoke handle context params request limit => some ⟨handle, context, params, request, limit⟩
  | _ => none

/-- Notes the calls of rules, one after the other. -/
def noteCall (q : service.Question) (_ : service.Answer q) (before after : List RuleCall) : Prop :=
  after = before ++ (ServiceCall.ruleCall? q).toList

/-- Tables, and the calls of rules that have been noted. -/
abbrev Watched : Type := Noted Shared (List RuleCall)

/-- The answers that tables give while the calls of rules are noted. -/
abbrev watching : Answering service Watched :=
  Shared.answering.noting noteCall

/-- An answer to every question, while the calls of rules are noted. -/
def watchAt (now : Instant) (s : Watched) (q : ServiceCall) : q.Answer × Watched :=
  ((s.state.answerAt now q).1, ⟨(s.state.answerAt now q).2, s.notes ++ q.ruleCall?.toList⟩)

theorem watching_watchAt (now : Instant) (s : Watched) (q : ServiceCall) :
    watching s q (watchAt now s q).1 (watchAt now s q).2 :=
  ⟨s.state.answers_answerAt now q, rfl⟩

/-- Every run can be watched. -/
theorem exists_watched {α : Type} {p : Routine α} {s t : Shared} {r : α}
    (run : Runs Shared.answering p s r t) : ∃ calls, Runs watching p ⟨s, []⟩ r ⟨t, calls⟩ := by
  have total (q) (a) (before) : ∃ after, noteCall q a before after := ⟨_, rfl⟩
  exact run.watched total []

namespace Behaviour

variable {Argument Result : Type}

/-- The calls that are made outside of the library when a rule is called. -/
def calls (behaviour : Behaviour Argument Result) (context : RuleContext) (params : Bag)
    (request : Request) (limit : Duration) : List RuleCall :=
  match behaviour with
  | .immediate _ => []
  | .external handle => [⟨handle, context, params, request, limit⟩]

/-- May a rule reply so to its arguments?  What lies outside of the library may reply
anything. -/
def MayReply (behaviour : Behaviour Argument Result) (context : RuleContext) (params : Bag)
    (argument : Argument) (reply : Reply Result) : Prop :=
  match behaviour with
  | .immediate answer => reply = answer context params argument
  | .external _ => True

end Behaviour

/-! ## Asking while calls are noted -/

section Watching

variable {α : Type} {s t : Watched} {r : α}

theorem watching_ask_iff {q : ServiceCall} {f : q.Answer → Routine α} :
    Runs watching (.ask (q : service.Question) f) s r t ↔
      ∃ a u, s.state.Answers q a u ∧
        Runs watching (f a) ⟨u, s.notes ++ q.ruleCall?.toList⟩ r t := by
  apply runs_noting_ask_iff.trans
  constructor
  · rintro ⟨a, u, _, answered, rfl, rest⟩
    exact ⟨a, u, answered, rest⟩
  · rintro ⟨a, u, answered, rest⟩
    exact ⟨a, u, _, answered, rfl, rest⟩

theorem watching_now_iff {f : Instant → Routine α} :
    Runs watching (.ask (ServiceCall.now : service.Question) f) s r t ↔
      ∃ now, Runs watching (f now) s r t := by
  apply watching_ask_iff.trans
  constructor
  · rintro ⟨now, u, rfl, rest⟩
    exact ⟨now, by simpa [ServiceCall.ruleCall?] using rest⟩
  · rintro ⟨now, rest⟩
    exact ⟨now, s.state, rfl, by simpa [ServiceCall.ruleCall?] using rest⟩

theorem watching_store_iff {call : StoreCall}
    {f : Except StoreError call.Result → Routine α} :
    Runs watching (.ask (ServiceCall.store call : service.Question) f) s r t ↔
      ∃ now, Runs watching (f (s.state.store.answer now call).1)
        ⟨{ s.state with store := (s.state.store.answer now call).2 }, s.notes⟩ r t := by
  apply watching_ask_iff.trans
  constructor
  · rintro ⟨result, u, ⟨now, rfl, rfl⟩, rest⟩
    exact ⟨now, by simpa [ServiceCall.ruleCall?] using rest⟩
  · rintro ⟨now, rest⟩
    exact ⟨_, _, ⟨now, rfl, rfl⟩, by simpa [ServiceCall.ruleCall?] using rest⟩

/-- Surroundings give no other answers than those that are possible while the calls of rules
are noted. -/
def Narrows (answers : Answering service Watched) : Prop :=
  ∀ s q a t, answers s q a t → watching s q a t

theorem narrows_watching : Narrows watching :=
  fun _ _ _ _ answered => answered

namespace Narrows

variable {answers : Answering service Watched} (narrows : Narrows answers)

include narrows

theorem runs {p : Routine α} (run : Runs answers p s r t) : Runs watching p s r t :=
  run.mono narrows

theorem runs_now {f : Instant → Routine α}
    (run : Runs answers (.ask (ServiceCall.now : service.Question) f) s r t) :
    ∃ now, Runs answers (f now) s r t := by
  rcases runs_ask_iff.mp run with ⟨now, ⟨u, notes⟩, answered, rest⟩
  rcases narrows _ _ _ _ answered with ⟨same, noted⟩
  obtain rfl : u = s.state := same
  obtain rfl : notes = s.notes := by simpa [noteCall, ServiceCall.ruleCall?] using noted
  exact ⟨now, rest⟩

theorem runs_store {call : StoreCall} {f : Except StoreError call.Result → Routine α}
    (run : Runs answers (.ask (ServiceCall.store call : service.Question) f) s r t) :
    ∃ now, Runs answers (f (s.state.store.answer now call).1)
      ⟨{ s.state with store := (s.state.store.answer now call).2 }, s.notes⟩ r t := by
  rcases runs_ask_iff.mp run with ⟨result, ⟨u, notes⟩, answered, rest⟩
  rcases narrows _ _ _ _ answered with ⟨⟨now, rfl, stored⟩, noted⟩
  obtain rfl : u = { s.state with store := (s.state.store.answer now call).2 } := stored
  obtain rfl : notes = s.notes := by simpa [noteCall, ServiceCall.ruleCall?] using noted
  exact ⟨now, rest⟩

theorem runs_queue {call : QueueCall} {f : Except QueueError call.Result → Routine α}
    (run : Runs answers (.ask (ServiceCall.queue call : service.Question) f) s r t) :
    ∃ now, Runs answers (f (s.state.queue.answer now call).1)
      ⟨{ s.state with queue := (s.state.queue.answer now call).2 }, s.notes⟩ r t := by
  rcases runs_ask_iff.mp run with ⟨result, ⟨u, notes⟩, answered, rest⟩
  rcases narrows _ _ _ _ answered with ⟨⟨now, rfl, stored⟩, noted⟩
  obtain rfl : u = { s.state with queue := (s.state.queue.answer now call).2 } := stored
  obtain rfl : notes = s.notes := by simpa [noteCall, ServiceCall.ruleCall?] using noted
  exact ⟨now, rest⟩

end Narrows

theorem runs_invoke {handle : Handle} {context : RuleContext} {params : Bag} {request : Request}
    {limit : Duration} {reply : Reply request.Result}
    (run : Runs watching (Service.invoke handle context params request limit) s reply t) :
    t = ⟨s.state, s.notes ++ [⟨handle, context, params, request, limit⟩]⟩ := by
  rcases watching_ask_iff.mp run with ⟨a, u, rfl, rest⟩
  rcases runs_done_iff.mp rest with ⟨rfl, rfl⟩
  rfl

theorem TriggerRule.runs_extract {rule : TriggerRule} {context : RuleContext}
    {params payload : Bag} {limit : Duration} {reply : Reply Bag}
    (run : Runs watching (rule.extract context params payload limit) s reply t) :
    rule.extraction.MayReply context params payload reply ∧
      t = ⟨s.state, s.notes ++ rule.extraction.calls context params (.extract payload) limit⟩ := by
  unfold TriggerRule.extract at run
  cases behaviour : rule.extraction with
  | immediate answer =>
      rw [behaviour] at run
      rcases runs_done_iff.mp run with ⟨rfl, rfl⟩
      simp [Behaviour.MayReply, Behaviour.calls]
  | external handle =>
      rw [behaviour] at run
      exact ⟨trivial, runs_invoke run⟩

theorem ActionRule.runs_run {rule : ActionRule} {context : RuleContext}
    {params vars : Bag} {limit : Duration} {reply : Reply Bag}
    (run : Runs watching (rule.run context params vars limit) s reply t) :
    rule.effect.MayReply context params vars reply ∧
      t = ⟨s.state, s.notes ++ rule.effect.calls context params (.run vars) limit⟩ := by
  unfold ActionRule.run at run
  cases behaviour : rule.effect with
  | immediate answer =>
      rw [behaviour] at run
      rcases runs_done_iff.mp run with ⟨rfl, rfl⟩
      simp [Behaviour.MayReply, Behaviour.calls]
  | external handle =>
      rw [behaviour] at run
      exact ⟨trivial, runs_invoke run⟩

end Watching

namespace Run

/-! ## Performing a node -/

/-- What comes of performing a node with some parameters on some variables, and which
calls of rules this takes. -/
inductive Performed (run : Run) (node : Node) (params vars : Bag) :
    List RuleCall → NodeOutcome → Prop where
  | gate (gate : node.nodeType.isGate = true) : Performed run node params vars [] (.returned [])
  | noTrigger {e : RegistryError} (trigger : node.nodeType = .trigger)
      (missing : run.engine.registry.findTrigger node.bot node.ruleId = .error e) :
      Performed run node params vars [] (.failed (.registry e))
  | badTrigger {rule : TriggerRule} {e : RuleError} (trigger : node.nodeType = .trigger)
      (found : run.engine.registry.findTrigger node.bot node.ruleId = .ok rule)
      (refused : rule.check params = .error e) :
      Performed run node params vars [] (.failed (.rule e))
  | extract {rule : TriggerRule} {payload : Bag} {reply : Reply Bag}
      (trigger : node.nodeType = .trigger)
      (found : run.engine.registry.findTrigger node.bot node.ruleId = .ok rule)
      (checked : rule.check params = .ok ())
      (event : payload = (vars.getObject? "payload").getD [])
      (replied : rule.extraction.MayReply run.context params payload reply) :
      Performed run node params vars
        (rule.extraction.calls run.context params (.extract payload) run.context.timeout)
        (.ofReply run.context.timeout reply)
  | noAction {e : RegistryError} (action : node.nodeType = .action)
      (missing : run.engine.registry.findAction node.bot node.ruleId = .error e) :
      Performed run node params vars [] (.failed (.registry e))
  | badAction {rule : ActionRule} {e : RuleError} (action : node.nodeType = .action)
      (found : run.engine.registry.findAction node.bot node.ruleId = .ok rule)
      (refused : rule.validate params = .error e) :
      Performed run node params vars [] (.failed (.rule e))
  | act {rule : ActionRule} {reply : Reply Bag} (action : node.nodeType = .action)
      (found : run.engine.registry.findAction node.bot node.ruleId = .ok rule)
      (checked : rule.validate params = .ok ())
      (replied : rule.effect.MayReply run.context params vars reply) :
      Performed run node params vars
        (rule.effect.calls run.context params (.run vars) run.context.timeout)
        (.ofReply run.context.timeout reply)

/-- A node is performed on its parameters as they are rendered, and the tables stay
as they are. -/
theorem runs_perform {run : Run} {node : Node} {vars : Bag} {s t : Watched}
    {outcome : NodeOutcome} (performed : Runs watching (run.perform node vars) s outcome t) :
    ∃ calls, Performed run node (run.engine.renderer.params vars node.parameters) vars calls
        outcome ∧
      t = ⟨s.state, s.notes ++ calls⟩ := by
  have nothing : (⟨s.state, s.notes ++ []⟩ : Watched) = s := by simp
  unfold perform at performed
  cases role : node.nodeType with
  | trigger =>
      simp only [role] at performed
      cases found : run.engine.registry.findTrigger node.bot node.ruleId with
      | error e =>
          simp only [found] at performed
          rcases runs_done_iff.mp performed with ⟨rfl, rfl⟩
          exact ⟨[], .noTrigger role found, nothing.symm⟩
      | ok rule =>
          simp only [found, runTrigger] at performed
          cases checked : rule.check (run.engine.renderer.params vars node.parameters) with
          | error e =>
              simp only [checked] at performed
              rcases runs_done_iff.mp performed with ⟨rfl, rfl⟩
              exact ⟨[], .badTrigger role found checked, nothing.symm⟩
          | ok _ =>
              simp only [checked] at performed
              rcases runs_bind_iff.mp performed with ⟨reply, u, called, ended⟩
              rcases TriggerRule.runs_extract called with ⟨replied, rfl⟩
              rcases runs_done_iff.mp ended with ⟨rfl, rfl⟩
              exact ⟨_, .extract role found checked rfl replied, rfl⟩
  | action =>
      simp only [role] at performed
      cases found : run.engine.registry.findAction node.bot node.ruleId with
      | error e =>
          simp only [found] at performed
          rcases runs_done_iff.mp performed with ⟨rfl, rfl⟩
          exact ⟨[], .noAction role found, nothing.symm⟩
      | ok rule =>
          simp only [found, runAction] at performed
          cases checked : rule.validate (run.engine.renderer.params vars node.parameters) with
          | error e =>
              simp only [checked] at performed
              rcases runs_done_iff.mp performed with ⟨rfl, rfl⟩
              exact ⟨[], .badAction role found checked, nothing.symm⟩
          | ok _ =>
              simp only [checked] at performed
              rcases runs_bind_iff.mp performed with ⟨reply, u, called, ended⟩
              rcases ActionRule.runs_run called with ⟨replied, rfl⟩
              rcases runs_done_iff.mp ended with ⟨rfl, rfl⟩
              exact ⟨_, .act role found checked replied, rfl⟩
  | filter | condition =>
      simp only [role] at performed
      rcases runs_done_iff.mp performed with ⟨rfl, rfl⟩
      exact ⟨[], .gate (by simp [role, NodeType.isGate]), nothing.symm⟩

end Run

/-! ## Entries -/

/-- The entry of a node in the log of a walk. -/
structure LogEntry where
  node : Node
  calls : List RuleCall
  outcome : NodeOutcome
  job : Job

/-- The job is one of a node within an execution.  It has the parameters of the node
as they are stored. -/
structure Job.IsOf (id : ExecutionId) (node : Node) (job : Job) : Prop where
  executionId : job.executionId = id
  flowId : job.flowId = node.flowId
  nodeId : job.nodeId = node.nodeId
  nodeType : job.nodeType = node.nodeType
  bot : job.bot = node.bot
  ruleId : job.ruleId = node.ruleId
  params : job.params = node.parameters

namespace NodeOutcome

/-- The row of a job tells the outcome of its node. -/
def ToldBy (job : Job) : NodeOutcome → Prop
  | .returned result => job.state = .succeeded ∧ job.result = result ∧ job.error = none
  | .failed e => job.state = .failed ∧ job.result = [] ∧ job.error = some e.message
  | .panicked _ => job.state = .start ∧ job.result = [] ∧ job.error = none

/-- What a walk makes of the outcome of a node. -/
def result (nodeId : String) : NodeOutcome → Except Abort Bag
  | .returned result => .ok result
  | .failed e => .error (.failed (.nodeFailed nodeId e))
  | .panicked message => .error (.panicked message)

theorem result_eq_ok_iff {outcome : NodeOutcome} {nodeId : String} {value : Bag} :
    outcome.result nodeId = .ok value ↔ outcome = .returned value := by
  cases outcome <;> simp [result]

end NodeOutcome

/-- The entry is that of a node which a run has performed on some variables: with its
parameters rendered against them, and under a job that tells the outcome. -/
structure Run.Logs (run : Run) (node : Node) (vars : Bag) (entry : LogEntry) : Prop where
  about : entry.node = node
  performed : run.Performed node (run.engine.renderer.params vars node.parameters) vars
    entry.calls entry.outcome
  isOf : entry.job.IsOf run.executionId node
  told : entry.outcome.ToldBy entry.job

/-- What the entries of a log have left behind: their jobs and their calls. -/
def Watched.logging (s : Watched) (entries : List LogEntry) : Watched :=
  ⟨{ s.state with store := s.state.store.withJobs (entries.map (·.job)) },
    s.notes ++ entries.flatMap (·.calls)⟩

@[simp]
theorem Watched.logging_nil (s : Watched) : s.logging [] = s := by
  simp [logging]

@[simp]
theorem Watched.logging_logging (s : Watched) (first second : List LogEntry) :
    (s.logging first).logging second = s.logging (first ++ second) := by
  simp [logging]

namespace Run

/-- The job that was added last is ended. -/
theorem runs_recordEnd (finish : Instant → Except TransitionError Job) {store : Store}
    (wellFormed : store.WellFormed) {queue : QueueTable} {notes : List RuleCall} {row : Job}
    (late : store.lastId < row.id.value) {ended : Instant → Job}
    (finishes : ∀ now, finish now = .ok (ended now)) (sameId : ∀ now, (ended now).id = row.id)
    {t : Watched}
    (run : Runs watching (recordEnd finish) ⟨⟨store.withJobs [row], queue⟩, notes⟩ () t) :
    ∃ now, t = ⟨⟨store.withJobs [ended now], queue⟩, notes⟩ := by
  simp only [recordEnd, Service.now_bind, Service.store_bind] at run
  rcases watching_now_iff.mp run with ⟨now, run⟩
  simp only [finishes] at run
  rcases watching_store_iff.mp run with ⟨_, run⟩
  rcases runs_done_iff.mp run with ⟨_, rfl⟩
  have updated := Store.updateJob_of_last wellFormed late (sameId now)
  simp only [Store.answer, updated, Store.changed]
  exact ⟨now, rfl⟩

/-- A node that is run leaves an entry in the log, and nothing else.  The entry tells how the
node was performed. -/
theorem runs_runNode {answers : Answering service Watched} (narrows : Narrows answers) {run : Run}
    {node : Node} {vars : Bag} {s t : Watched} (wellFormed : s.state.store.WellFormed)
    {result : Except Abort Bag} (ran : Runs answers (run.runNode node vars) s result t) :
    ∃ entry u, Runs answers (run.perform node vars) u entry.outcome
        ⟨u.state, u.notes ++ entry.calls⟩ ∧
      u.notes = s.notes ∧ run.Logs node vars entry ∧ entry.job.attempt = 1 ∧
      result = entry.outcome.result node.nodeId ∧ t = s.logging [entry] := by
  simp only [runNode, Service.now_bind, Service.store_bind] at ran
  rcases narrows.runs_now ran with ⟨start, ran⟩
  rcases narrows.runs_store ran with ⟨_, ran⟩
  rcases runs_bind_iff.mp ran with ⟨outcome, u, performing, ending⟩
  rcases runs_perform (narrows.runs performing) with ⟨calls, performed, rfl⟩
  set row : Job := { Job.start start run.executionId node with id := ⟨s.state.store.lastId + 1⟩ }
    with row_def
  have late : s.state.store.lastId < row.id.value := by
    simp only [row_def]
    omega
  have leaves (job : Job) (isOf : job.IsOf run.executionId node) (told : outcome.ToldBy job)
      (first : job.attempt = 1) :
      ∃ entry u, Runs answers (run.perform node vars) u entry.outcome
          ⟨u.state, u.notes ++ entry.calls⟩ ∧
        u.notes = s.notes ∧ run.Logs node vars entry ∧ entry.job.attempt = 1 ∧
        outcome.result node.nodeId = entry.outcome.result node.nodeId ∧
        (⟨⟨s.state.store.withJobs [job], s.state.queue⟩, s.notes ++ calls⟩ : Watched) =
          s.logging [entry] :=
    ⟨⟨node, calls, outcome, job⟩, _, performing, rfl, ⟨rfl, performed, isOf, told⟩, first, rfl,
      by simp [Watched.logging]⟩
  cases outcome with
  | returned value =>
      rcases runs_bind_iff.mp ending with ⟨_, v, recorded, done⟩
      rcases runs_done_iff.mp done with ⟨rfl, rfl⟩
      rcases runs_recordEnd (fun now => row.succeed now value) wellFormed late (fun _ => rfl)
        (fun _ => rfl) (narrows.runs recorded) with ⟨now, rfl⟩
      exact leaves _ ⟨rfl, rfl, rfl, rfl, rfl, rfl, rfl⟩ ⟨rfl, rfl, rfl⟩ rfl
  | failed e =>
      rcases runs_bind_iff.mp ending with ⟨_, v, recorded, done⟩
      rcases runs_done_iff.mp done with ⟨rfl, rfl⟩
      rcases runs_recordEnd (fun now => row.fail now e.message) wellFormed late (fun _ => rfl)
        (fun _ => rfl) (narrows.runs recorded) with ⟨now, rfl⟩
      exact leaves _ ⟨rfl, rfl, rfl, rfl, rfl, rfl, rfl⟩ ⟨rfl, rfl, rfl⟩ rfl
  | panicked message =>
      rcases runs_done_iff.mp ending with ⟨rfl, rfl⟩
      exact leaves row ⟨rfl, rfl, rfl, rfl, rfl, rfl, rfl⟩ ⟨rfl, rfl, rfl⟩ rfl

end Run

end EventFlow
