import EventFlow.Proofs.Dispatch.Resolution
import EventFlow.Proofs.Engine.Repetition
import EventFlow.Proofs.Engine.Roots
import EventFlow.Proofs.Queue.Processing

/-!
# Which triggers a request enters

The trigger type of a request goes with it through the queue and is read again when its flow is
executed.  So what a request enters are the triggers that its type selects, whether it is
executed at once or by a worker later on.  For the call of a webhook these are the triggers with
the bot and the rule of the one that has its token: a token opens all of them, those with other
tokens as well.
-/

namespace EventFlow

open Program Shared

/-! ## Submitted requests -/

theorem Store.SameFlow.selected {flowId : FlowId} {s t : Store} (same : s.SameFlow flowId t)
    (triggerType : String) : t.selected flowId triggerType = s.selected flowId triggerType := by
  rw [Store.selected, same.nodes, Store.selected]

namespace QueueManager

/-- A request that has been submitted enters the triggers of a selection: at once, if it was not
queued, and otherwise whenever a worker takes its job while the rows of its flow are as they
were.  A worker can take it when it is the oldest that waits. -/
structure Enters (manager : QueueManager) (request : FlowRequest) (selection : List Node)
    (s t : Shared) (submitted : Except EngineError Submission) : Prop where
  atOnce : ∀ result, submitted = result.map Submission.executed →
    ∃ id, Engine.EntersRoots id request.flowId selection s.store t.store result
  queued : ∀ id, submitted = .ok (.queued id) → ∃ job, t.queue.jobs = s.queue.jobs ++ [job] ∧
    job.executionId = id ∧ job.args = request
  taken : ∀ id, submitted = .ok (.queued id) → ∀ (job : QueueJob) (before : Shared),
    before.queue.Reachable → before.queue.Foremost job →
    ∃ processed after, Runs answering manager.processNext before processed after ∧
      job ∉ after.queue.jobs
  later : ∀ id, submitted = .ok (.queued id) → ∀ job before processed after,
    job.executionId = id → job.args = request → job ∈ before.queue.jobs →
    before.store.Reachable → before.queue.Reachable →
    s.store.SameFlow request.flowId before.store →
    Runs answering manager.processNext before processed after → job ∉ after.queue.jobs →
    ∃ result claimed,
      Runs answering (manager.engine.execute (some id) request) ⟨before.store, claimed⟩ result
        ⟨after.store, claimed⟩ ∧
      Engine.EntersRoots id request.flowId selection before.store after.store result

/-- A worker that takes the job of a request enters the triggers that the request selects. -/
theorem entersRoots_of_processed {manager : QueueManager} {request : FlowRequest}
    {id : ExecutionId} {job : QueueJob} {before after : Shared}
    {processed : Except QueueError Bool} (named : id.isBlank = false)
    (sameId : job.executionId = id) (sameArgs : job.args = request)
    (reachable : before.store.Reachable) (queue : before.queue.Reachable)
    (waiting : job ∈ before.queue.jobs)
    (ran : Runs answering manager.processNext before processed after)
    (taken : job ∉ after.queue.jobs) :
    ∃ result claimed,
      Runs answering (manager.engine.execute (some id) request) ⟨before.store, claimed⟩ result
        ⟨after.store, claimed⟩ ∧
      Engine.EntersRoots id request.flowId
        (before.store.selected request.flowId request.triggerType) before.store after.store
        result := by
  rcases exists_watched ran with ⟨calls, watched⟩
  rcases runs_processNext_of_taken narrows_watching queue.numbered waiting watched taken with
    ⟨result, claimed, ⟨done, notes⟩, executing, queue, left⟩
  subst sameId sameArgs
  cases left
  obtain rfl : done.queue = claimed := queue_of_execute executing
  have executed : Runs answering (manager.engine.execute (some job.executionId) job.args)
      ⟨before.store, done.queue⟩ result done := executing.unwatched
  have started : (⟨before.store, done.queue⟩ : Shared).store.Reachable := reachable
  have under := executed
  rw [Engine.execute_of_given _ _ named] at under
  have enters := Engine.executeUnder_entersRoots started.wellFormed started.nodesNamed under
  exact ⟨result, done.queue, executed, enters⟩

/-- A request that is submitted enters the triggers that it selects. -/
theorem runs_submit_enters {manager : QueueManager} {request : FlowRequest} {s t : Shared}
    {submitted : Except EngineError Submission} (reachable : s.store.Reachable)
    (ran : Runs faltering (manager.submit request) s submitted t) :
    manager.Enters request (s.store.selected request.flowId request.triggerType) s t
      submitted := by
  rcases runs_submit_faltering ran with ⟨id, now, named, rfl, rfl⟩ | ⟨result, rfl, executed⟩
  · constructor
    · intro result same
      cases result <;> cases same
    · rintro _ ⟨⟩
      exact ⟨_, rfl, rfl, rfl⟩
    · rintro _ ⟨⟩ job before queue foremost
      let replies : Replies := fun _ _ => .expired
      rcases exists_runs_processNext (s := ⟨before, []⟩) replies (enabled_of_runs_submit ran)
        queue.numbered foremost with ⟨processed, after, worked, gone⟩
      exact ⟨processed, after.state, (replies.narrows.runs worked).unwatched, gone⟩
    · rintro _ ⟨⟩ job before processed after sameId sameArgs waiting stored queue same ran taken
      rw [← same.selected]
      exact entersRoots_of_processed named sameId sameArgs stored queue waiting ran taken
  · constructor
    · intro other same
      rcases Engine.runs_execute_fresh executed with ⟨id, _, _, _, ran⟩
      have sameResult : result = other := by
        cases other <;> cases result <;> cases same <;> rfl
      exact ⟨id, sameResult ▸
        Engine.executeUnder_entersRoots reachable.wellFormed reachable.nodesNamed ran⟩
    · intro id same
      cases result <;> cases same
    · intro id same
      cases result <;> cases same
    · intro id same
      cases result <;> cases same

end QueueManager

/-! ## Webhooks -/

namespace Twins

/-- The call of the first twin where the queue takes its job. -/
def accepted : Except DispatchError Submission × Shared :=
  (dispatcher.triggerWebhook ⟨1⟩ " one " []).run (falterAt (.ofMilliseconds 7)) ⟨store, .empty⟩

/-- A dispatcher that executes everything at once. -/
def atOnce : Dispatcher :=
  { dispatcher with queue := { dispatcher.queue with enabled := false } }

/-- The call of the first twin, executed at once. -/
def opened : Except DispatchError Submission × Shared :=
  (atOnce.triggerWebhook ⟨1⟩ " one " []).run (falterAt (.ofMilliseconds 7)) ⟨store, .empty⟩

end Twins

namespace Dispatcher

/-- The call of a webhook is turned away, with the tables as they were, or its request is
submitted under the trigger type of the first node of the flow that answers the token. -/
theorem runs_triggerWebhook {dispatcher : Dispatcher} {flowId : FlowId} {token : String}
    {payload : Bag} {s t : Shared} {result : Except DispatchError Submission}
    (ran : Runs faltering (dispatcher.triggerWebhook flowId token payload) s result t) :
    (∃ e, result = .error e ∧ (∀ failure, e ≠ .engine failure) ∧ t = s) ∨
    ∃ node submitted,
      (s.store.listNodes flowId).find? (dispatcher.answersToken (Text.trim token)) = some node ∧
      result = submitted.mapError .engine ∧
      Runs faltering
        (dispatcher.queue.submit ⟨flowId, node.triggerType, Text.trim token, payload⟩) s
        submitted t := by
  have served : Runs faltering (dispatcher.serve (.webhook flowId token payload)) s result t :=
    ran
  rcases runs_serve_faltering served with ⟨e, resolved, rfl, rfl⟩ | ⟨request, resolved, limited⟩
  · refine .inl ⟨e, rfl, ?_, rfl⟩
    rintro failure rfl
    cases ofResolution_of_resolve resolved
  rcases runs_submitWithinLimits_faltering limited with
    ⟨wait, rfl, rfl⟩ | ⟨submitted, rfl, submitting⟩
  · exact .inl ⟨_, rfl, by simp, rfl⟩
  · rcases exists_node_of_resolve resolved with ⟨_, node, found, rfl⟩
    exact .inr ⟨node, submitted, found, rfl, submitting⟩

/-- The call of a webhook that is accepted has found a trigger of its flow that has its token
and whose rule is for webhooks.  Its execution, which is run at once or by a worker, enters
triggers that the type of this one selects, and no others.  If the bot and the rule can be read
off the type, these are the triggers that have both in common with it. -/
theorem webhook_enters_selected (dispatcher : Dispatcher) (flowId : FlowId) (token : String)
    (payload : Bag) (s : Shared) (reachable : s.store.Reachable) :
    (∃ result t, Runs faltering (dispatcher.triggerWebhook flowId token payload) s result t) ∧
    ∀ submission t,
      Runs faltering (dispatcher.triggerWebhook flowId token payload) s (.ok submission) t →
      ∃ node ∈ s.store.listNodes flowId, node.isTrigger = true ∧
        node.parameters.getString? tokenKey = some (Text.trim token) ∧
        (∃ rule, dispatcher.registry.findTrigger node.bot node.ruleId = .ok rule ∧
          rule.mode = .webhook) ∧
        dispatcher.queue.Enters ⟨flowId, node.triggerType, Text.trim token, payload⟩
          (s.store.selected flowId node.triggerType) s t (.ok submission) ∧
        (node.Legible → ∀ root ∈ s.store.selected flowId node.triggerType,
          root.bot = node.bot ∧ root.ruleId = node.ruleId) := by
  constructor
  · exact exists_runs_faltering _ s
  intro submission t ran
  rcases runs_triggerWebhook ran with ⟨_, failed, _⟩ | ⟨node, submitted, found, same, submitting⟩
  · cases failed
  rcases answersToken_iff.mp (List.find?_some found) with ⟨trigger, bears, rule⟩
  have enters := QueueManager.runs_submit_enters reachable submitting
  cases submitted with
  | error e => cases same
  | ok taken =>
      cases same
      refine ⟨node, List.mem_of_find?_eq_some found, trigger, bears, rule, enters, ?_⟩
      intro legible root rootMem
      exact legible.isRootFor_iff.mp (List.mem_filter.mp rootMem).2

/-- The call of the first twin is accepted and finds it. -/
theorem webhook_enters_selected_twin :
    Twins.store.Reachable ∧ Twins.accepted.1 = .ok (.queued ⟨"x"⟩) ∧
    ∃ node ∈ Twins.store.listNodes ⟨1⟩,
      node.parameters.getString? tokenKey = some (Text.trim " one ") ∧
      Twins.dispatcher.queue.Enters ⟨⟨1⟩, node.triggerType, Text.trim " one ", []⟩
        (Twins.store.selected ⟨1⟩ node.triggerType) ⟨Twins.store, .empty⟩ Twins.accepted.2
        (.ok (.queued ⟨"x"⟩)) := by
  have accepted : Twins.accepted.1 = .ok (.queued ⟨"x"⟩) := by decide +kernel
  have ran : Runs faltering (Twins.dispatcher.triggerWebhook ⟨1⟩ " one " [])
      ⟨Twins.store, .empty⟩ (.ok (.queued ⟨"x"⟩)) Twins.accepted.2 := by
    rw [← accepted]
    exact runs_run (falters_falterAt _) _ _
  rcases (webhook_enters_selected Twins.dispatcher ⟨1⟩ " one " [] ⟨Twins.store, .empty⟩
    Twins.reachable).2 _ _ ran with ⟨node, nodeMem, _, bears, _, enters, _⟩
  exact ⟨Twins.reachable, accepted, node, nodeMem, bears, enters⟩

/-- The token of the first twin opens the second one as well, although it has another token. -/
theorem token_opens_twin :
    Twins.store.Reachable ∧ Twins.opened.1 = .ok (.executed ⟨"x"⟩) ∧ ∃ roots,
      Entered ⟨"x"⟩ (Twins.store.graph ⟨1⟩).Leads roots Twins.opened.2.store.jobs ∧
      ∃ root ∈ roots, root.isTrigger = true ∧
        root.parameters.getString? tokenKey ≠ some (Text.trim " one ") := by
  have opened : Twins.opened.1 = .ok (.executed ⟨"x"⟩) := by decide +kernel
  have ran : Runs faltering (Twins.atOnce.triggerWebhook ⟨1⟩ " one " [])
      ⟨Twins.store, .empty⟩ (.ok (.executed ⟨"x"⟩)) Twins.opened.2 := by
    rw [← opened]
    exact runs_run (falters_falterAt _) _ _
  refine ⟨Twins.reachable, opened, ?_⟩
  rcases runs_triggerWebhook ran with ⟨_, failed, _⟩ | ⟨node, submitted, found, same, submitting⟩
  · cases failed
  have submission : submitted = (Except.ok ⟨"x"⟩).map Submission.executed := by
    cases submitted <;> cases same
    rfl
  have type : node.triggerType = "dev|webhook" := by
    have first : ((Twins.store.listNodes ⟨1⟩).find? (Twins.atOnce.answersToken
        (Text.trim " one "))).map Node.triggerType = some "dev|webhook" := by decide +kernel
    rw [found] at first
    exact Option.some.inj first
  rcases (QueueManager.runs_submit_enters Twins.reachable submitting).atOnce _ submission with
    ⟨id, roots, recorded, _, added, entered, all⟩
  rcases all _ rfl with ⟨rfl, rfl, _⟩
  have jobs : Twins.opened.2.store.jobs = recorded := added
  rw [jobs]
  refine ⟨_, entered, ?_⟩
  rw [type]
  decide +kernel

end Dispatcher

end EventFlow
