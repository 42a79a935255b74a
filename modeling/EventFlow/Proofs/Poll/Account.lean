import EventFlow.Proofs.Graph.Rows
import EventFlow.Proofs.Poll.Spacing
import EventFlow.Proofs.Poll.Trigger
import EventFlow.Proofs.Queue.Outcome

/-!
# What visits leave

When nothing disturbs, the poll of a trigger leaves its calls, the row of the trigger with a new
state, and what its events have come to.  Visits that follow each other leave all this one after
the other, and nothing else.
-/

namespace EventFlow

open Program

/-! ## What a visit brings -/

namespace Visit

/-- Has the poll failed, or taken too long? -/
def failed (visit : Visit) : Bool :=
  visit.reply.any Reply.failed

/-- The requests that the events of the poll stand for. -/
def requests (visit : Visit) : List FlowRequest :=
  ((visit.reply.map Reply.events).getD []).map fun event =>
    ⟨visit.flow.id, visit.node.bot ++ "|" ++ visit.node.ruleId,
      ((event.get? "id").map Json.display).getD "", event⟩

/-- The trigger that is visited, with its flow and its rule. -/
def trigger (visit : Visit) : Flow × Node × TriggerRule :=
  (visit.flow, visit.node, visit.rule)

end Visit

/-- A report, with some visits and what their requests came to. -/
def TickReport.adding (report : TickReport) (visits : List Visit)
    (outcomes : List (Except EngineError Submission)) : TickReport where
  polled := report.polled + visits.countP (·.reply.isSome)
  submitted := report.submitted + outcomes.countP (·.isOk)
  failed := report.failed + visits.countP Visit.failed + outcomes.countP (! ·.isOk)

theorem TickReport.adding_append (report : TickReport) (front back : List Visit)
    (outcomes more : List (Except EngineError Submission)) :
    (report.adding front outcomes).adding back more =
      report.adding (front ++ back) (outcomes ++ more) := by
  simp only [adding, List.countP_append, mk.injEq]
  omega

theorem TickReport.adding_counting (report : TickReport) {visit : Visit} {reply : Reply PollResult}
    (replied : visit.reply = some reply) (outcomes : List (Except EngineError Submission)) :
    (report.counting reply).adding [] outcomes = report.adding [visit] outcomes := by
  simp [adding, counting, Visit.failed, replied, List.countP_singleton]

theorem Reply.exists_kept {reply : Reply PollResult} (steady : ∀ message, reply ≠ .panicked message)
    (vars : Bag) : ∃ state, reply.kept vars = .ok state := by
  match reply with
  | .returned (.ok _) | .returned (.error _) | .expired => exact ⟨_, rfl⟩
  | .panicked message => exact absurd rfl (steady message)

theorem Reply.kept_of_failed {reply : Reply PollResult} (failed : reply.failed = true)
    (vars : Bag) : reply.kept vars = .ok vars := by
  match reply with
  | .returned (.error _) | .expired => rfl
  | .returned (.ok _) | .panicked _ => cases failed

/-! ## The rows of nodes -/

namespace Store

/-- If only one row has a property at most, the replacement takes its place everywhere. -/
theorem replaceFirst?_eq_map {α : Type} {p : α → Bool} {row : α} {rows : List α}
    (unique : rows.Pairwise fun a b => p a = true → p b = false) (found : rows.any p = true) :
    replaceFirst? p row rows = some (rows.map fun a => if p a then row else a) := by
  induction rows with
  | nil => simp at found
  | cons a rest ih =>
      rcases List.pairwise_cons.mp unique with ⟨apart, unique⟩
      by_cases here : p a = true
      · have same : (rest.map fun b => if p b then row else b) = rest := by
          rw [List.map_congr_left fun b bMem => if_neg (by simp [apart b bMem here])]
          exact List.map_id' rest
        simp [replaceFirst?, here, same]
      · have there : rest.any p = true := by simpa [here] using found
        simp [replaceFirst?, here, ih unique there]

/-- The nodes, with one in the place of its namesake. -/
def nodesWith (s : Store) (node : Node) : List Node :=
  s.nodes.map fun other => if sameNode other node then node else other

/-- The row of a node that is stored is replaced by another of the same name. -/
theorem NodesNamed.answer_updateNode {store : Store} (named : store.NodesNamed) {row node : Node}
    (rowMem : row ∈ store.nodes) (same : node.name = row.name) (now : Instant) :
    store.answer now (.updateNode node) =
      (.ok (), { store with nodes := store.nodesWith { node with updatedAt := now } }) := by
  have unique : store.nodes.Pairwise fun a b =>
      sameNode a node = true → sameNode b node = false := by
    apply (List.pairwise_map.mp named).imp
    intro a b apart first
    rw [Bool.eq_false_iff]
    intro second
    exact apart ((sameNode_iff.mp first).trans (sameNode_iff.mp second).symm)
  have found : (store.nodes.any fun other => sameNode other node) = true :=
    List.any_eq_true.mpr ⟨row, rowMem, sameNode_iff.mpr same.symm⟩
  simp only [Store.answer, Store.updateNode, replaceFirst?_eq_map unique found, changed]
  rfl

end Store

/-! ## Polls and their states -/

/-- No rule of the library breaks down when it is polled. -/
def Registry.PollsSafely (registry : Registry) : Prop :=
  ∀ bot ruleId rule answer, registry.findTrigger bot ruleId = .ok rule →
    rule.polling = .immediate answer → ∀ context params state message,
      answer context params state ≠ .panicked message

theorem Registry.exists_bot_of_findTrigger {registry : Registry} {name ruleId : String}
    {rule : TriggerRule} (found : registry.findTrigger name ruleId = .ok rule) :
    ∃ bot ∈ registry.bots, rule ∈ bot.triggers := by
  unfold findTrigger at found
  cases got : registry.get? name with
  | none => simp [got] at found
  | some bot =>
      cases searched : bot.trigger? ruleId with
      | none => simp [got, searched] at found
      | some other =>
          simp only [got, searched, Except.ok.injEq] at found
          subst found
          refine ⟨bot, ?_, List.mem_of_find?_eq_some searched⟩
          unfold get? at got
          split at got
          · rename_i named
            exact Option.some.inj got ▸ List.mem_of_find?_eq_some named
          · split at got
            · exact List.mem_of_find?_eq_some got
            · cases got

namespace Poller

variable {poller : Poller} {flow : Flow} {node : Node} {rule : TriggerRule}

/-- The calls outside of the library that a visit takes. -/
def calls (poller : Poller) (visit : Visit) : List RuleCall :=
  match visit.reply with
  | none => []
  | some _ => visit.rule.polling.calls (poller.context visit.flow) visit.node.parameters
      (.poll visit.node.vars) poller.pollTimeout

/-- A poll is noted if it is one outside of the library, and it does not break down. -/
theorem runs_asks {reply : Reply PollResult} (safely : poller.registry.PollsSafely)
    (polled : poller.polled? node = some rule)
    (ran : Runs (undisturbed shows) (poller.asks rule flow node) s reply t) :
    rule.polling.MayReply (poller.context flow) node.parameters node.vars reply ∧
      (∀ message, reply ≠ .panicked message) ∧
      t = ⟨s.state, s.notes ++ rule.polling.calls (poller.context flow) node.parameters
        (.poll node.vars) poller.pollTimeout⟩ := by
  unfold asks TriggerRule.poll at ran
  cases behaviour : rule.polling with
  | immediate answer =>
      rw [behaviour] at ran
      rcases runs_done_iff.mp ran with ⟨rfl, rfl⟩
      have found := (findTrigger_of_polled? polled).1
      refine ⟨rfl, safely _ _ _ answer found behaviour _ _ _, ?_⟩
      simp [Behaviour.calls]
  | external handle =>
      rw [behaviour] at ran
      rcases runs_ask_iff.mp ran with ⟨_, u, ⟨⟨same, noted⟩, steady⟩, ended⟩
      rcases runs_done_iff.mp ended with ⟨rfl, rfl⟩
      refine ⟨trivial, steady, ?_⟩
      rcases t with ⟨state, notes⟩
      obtain rfl : state = s.state := same
      obtain rfl : notes = _ := noted
      rfl

/-- The state of a trigger is saved at the first try, and nothing else changes. -/
theorem runs_saveState_undisturbed {tables : Shared} {notes : List RuleCall} {vars : Bag}
    (named : tables.store.NodesNamed) (nodeMem : node ∈ tables.store.nodes)
    (ran : Runs (undisturbed shows) (poller.saveState { node with vars }) ⟨tables, notes⟩ () t) :
    ∃ now, t = ⟨{ tables with store := { tables.store with
      nodes := tables.store.nodesWith { node with vars, updatedAt := now } } }, notes⟩ := by
  rcases runs_bind_iff.mp ran with ⟨_, u, saving, ended⟩
  rcases runs_done_iff.mp ended with ⟨_, rfl⟩
  rw [EventFlow.retry, retryFrom.eq_def] at saving
  rcases narrows_undisturbed.runs_store saving with ⟨now, saving⟩
  have same : ({ node with vars } : Node).name = node.name := rfl
  rw [named.answer_updateNode nodeMem same now] at saving
  rcases runs_done_iff.mp saving with ⟨_, rfl⟩
  exact ⟨now, rfl⟩

/-! ## What visits leave -/

/-- A trigger is attended to: by what the clock shows it is polled if it is due, and the poll does
not break down.  It is left with the state that is kept and the second at which it is due again. -/
structure Attends (poller : Poller) (shows : Instant → Prop) (visit : Visit) : Prop where
  shown : shows visit.now
  whenDue : visit.reply.isSome = isDue visit.node visit.now
  replied : ∀ reply, visit.reply = some reply →
    visit.rule.polling.MayReply (poller.context visit.flow) visit.node.parameters visit.node.vars
      reply
  kept : ∀ reply, visit.reply = some reply → ∃ state next,
    reply.kept visit.node.vars = .ok state ∧
      visit.now.plus? (.ofSeconds (poller.interval visit.node)) = some next ∧
      poller.left visit = Bag.insert nextAtKey (.ofInt next.seconds) state

variable {shows : Instant → Prop} {visit : Visit} {visits front back : List Visit}

/-- When a poll has failed, the state of its trigger is what it was but for the due time. -/
theorem Attends.left_of_failed (attends : poller.Attends shows visit)
    (failed : visit.failed = true) :
    ∃ second, poller.left visit = Bag.insert nextAtKey (.ofInt second) visit.node.vars := by
  cases replied : visit.reply with
  | none => simp [Visit.failed, replied] at failed
  | some reply =>
      rw [Visit.failed, replied, Option.any_some] at failed
      rcases attends.kept reply replied with ⟨state, next, kept, _, left⟩
      cases (Reply.kept_of_failed failed visit.node.vars).symm.trans kept
      exact ⟨next.seconds, left⟩

/-- The row of a node is left as it is, unless a visit has polled the node. -/
inductive Rewritten (poller : Poller) (visits : List Visit) (row : Node) : Node → Prop where
  | polled {visit : Visit} (visitMem : visit ∈ visits) (found : visit.node = row)
      (polled : visit.reply.isSome = true) (now : Instant) :
      Rewritten poller visits row { row with vars := poller.left visit, updatedAt := now }
  | spared (unpolled : ∀ visit ∈ visits, visit.node.name = row.name → visit.reply = none) :
      Rewritten poller visits row row

variable {row left last : Node} {nodes rows : List Node}

theorem Rewritten.name (rewritten : poller.Rewritten visits row left) : left.name = row.name := by
  cases rewritten <;> rfl

theorem Rewritten.eq_of_elsewhere (rewritten : poller.Rewritten visits row left)
    (elsewhere : Elsewhere row.name visits) : left = row := by
  cases rewritten with
  | polled visitMem found => exact absurd (congrArg Node.name found) (elsewhere _ visitMem)
  | spared => rfl

/-- If no node is visited twice, then none is rewritten twice. -/
theorem Rewritten.trans (apart : ∀ visit ∈ front, Elsewhere visit.node.name back)
    (first : poller.Rewritten front row left) (second : poller.Rewritten back left last) :
    poller.Rewritten (front ++ back) row last := by
  have name := first.name
  cases first with
  | @polled visit visitMem found polled now =>
      have elsewhere : Elsewhere row.name back := found ▸ apart visit visitMem
      rw [second.eq_of_elsewhere elsewhere]
      exact .polled (List.mem_append_left _ visitMem) found polled now
  | spared unpolled =>
      cases second with
      | polled visitMem found polled now =>
          exact .polled (List.mem_append_right _ visitMem) found polled now
      | spared unpolledLater =>
          refine .spared fun visit visitMem => ?_
          rcases List.mem_append.mp visitMem with visitMem | visitMem
          · exact unpolled visit visitMem
          · exact unpolledLater visit visitMem

theorem forall₂_trans {α : Type} {r₁ r₂ r : α → α → Prop}
    (trans : ∀ a b c, r₁ a b → r₂ b c → r a c) {as bs cs : List α}
    (first : List.Forall₂ r₁ as bs) (second : List.Forall₂ r₂ bs cs) : List.Forall₂ r as cs := by
  induction first generalizing cs with
  | nil =>
      cases second
      exact .nil
  | cons here _ ih =>
      cases second with
      | cons there later => exact .cons (trans _ _ _ here there) (ih later)

/-- What nobody visits stays where it is. -/
theorem mem_of_rewritten (rewritten : List.Forall₂ (poller.Rewritten visits) nodes rows)
    (nodeMem : node ∈ nodes) (elsewhere : Elsewhere node.name visits) : node ∈ rows := by
  induction rewritten with
  | nil => cases nodeMem
  | cons here _ ih =>
      rcases List.mem_cons.mp nodeMem with rfl | nodeMem
      · rw [here.eq_of_elsewhere elsewhere]
        exact List.mem_cons_self
      · exact List.mem_cons_of_mem _ (ih nodeMem)

/-- The nodes of a flow that is not visited stay as they are. -/
theorem filter_of_rewritten {id : FlowId}
    (rewritten : List.Forall₂ (poller.Rewritten visits) nodes rows)
    (elsewhere : ∀ visit ∈ visits, visit.node.flowId ≠ id) :
    (rows.filter fun node => node.flowId == id) = nodes.filter fun node => node.flowId == id := by
  induction rewritten with
  | nil => rfl
  | @cons row left _ _ here _ ih =>
      have sameFlow : left.flowId = row.flowId := congrArg Prod.fst here.name
      by_cases own : row.flowId = id
      · have unvisited : Elsewhere row.name visits := by
          intro visit visitMem named
          exact elsewhere visit visitMem ((congrArg Prod.fst named).trans own)
        rw [here.eq_of_elsewhere unvisited]
        simp [own, ih]
      · simp [sameFlow, own, ih]

/-- A visit leaves the calls that the poll takes and the row of its trigger, and all else is as it
was. -/
structure Keeps (poller : Poller) (visit : Visit) (s t : Watched) : Prop where
  same : SameButNodes s t
  rows : List.Forall₂ (poller.Rewritten [visit]) s.state.store.nodes t.state.store.nodes
  notes : t.notes = s.notes ++ poller.calls visit

/-- Visits are carried out one after the other: each leaves what it leaves, and then its requests
are delivered. -/
inductive CarriesOut (poller : Poller) (shows : Instant → Prop) :
    List Visit → Watched → List (Except EngineError Submission) → Watched → Prop where
  | nil {s : Watched} : CarriesOut poller shows [] s [] s
  | cons {visit : Visit} {rest : List Visit} {s t u v : Watched}
      {outcomes more : List (Except EngineError Submission)} (keeps : poller.Keeps visit s t)
      (delivers : poller.queue.DeliversAll shows visit.requests t outcomes u)
      (later : CarriesOut poller shows rest u more v) :
      CarriesOut poller shows (visit :: rest) s (outcomes ++ more) v

variable {s t u : Watched} {outcomes more : List (Except EngineError Submission)}

theorem CarriesOut.append (first : poller.CarriesOut shows front s outcomes t)
    (second : poller.CarriesOut shows back t more u) :
    poller.CarriesOut shows (front ++ back) s (outcomes ++ more) u := by
  induction first with
  | nil => exact second
  | cons keeps delivers _ ih =>
      rw [List.append_assoc]
      exact .cons keeps delivers (ih second)

/-- With a queue there is one job for each event, and nothing else is left than the calls and the
rows of the nodes. -/
theorem CarriesOut.queues (enabled : poller.queue.enabled = true)
    (carries : poller.CarriesOut shows visits s outcomes t) :
    QueueManager.Queues (visits.flatMap Visit.requests) outcomes s t ∧
      t.state.store = { s.state.store with nodes := t.state.store.nodes } ∧
      t.notes = s.notes ++ visits.flatMap poller.calls := by
  induction carries with
  | nil => exact ⟨.nil rfl, rfl, by simp⟩
  | cons keeps delivers _ ih =>
      rcases delivers.queues enabled with ⟨queues, store, notes⟩
      rcases ih with ⟨later, storeLater, notesLater⟩
      and_intros
      · have here := (QueueManager.Queues.nil keeps.same.queue).append queues
        exact here.append later
      · rw [storeLater, store, keeps.same.store]
      · rw [notesLater, notes, keeps.notes, List.flatMap_cons, List.append_assoc]

/-- Without a queue the events are executed in turn. -/
theorem CarriesOut.executes (disabled : poller.queue.enabled = false)
    (carries : poller.CarriesOut shows visits s outcomes t) :
    ∃ results, outcomes = results.map (·.map .executed) ∧
      poller.queue.engine.ExecutesInTurn shows (visits.flatMap Visit.requests) s results t := by
  induction carries with
  | nil => exact ⟨[], rfl, .nil (.refl _)⟩
  | cons keeps delivers _ ih =>
      rcases delivers.executes disabled with ⟨results, rfl, executes⟩
      rcases ih with ⟨more, rfl, later⟩
      refine ⟨results ++ more, by rw [List.map_append], ?_⟩
      exact (executes.after keeps.same).append later

/-- What is left when visits have been carried out. -/
structure Accounts (poller : Poller) (shows : Instant → Prop) (visits : List Visit) (s : Watched)
    (outcomes : List (Except EngineError Submission)) (t : Watched) : Prop where
  attended : ∀ visit ∈ visits, poller.Attends shows visit
  carried : poller.CarriesOut shows visits s outcomes t
  flows : t.state.store.flows = s.state.store.flows
  rows : List.Forall₂ (poller.Rewritten visits) s.state.store.nodes t.state.store.nodes
  executions : ∀ id row, s.state.store.getExecution id = some row →
    t.state.store.getExecution id = some row

theorem Accounts.nil (poller : Poller) (shows : Instant → Prop) (s : Watched) :
    poller.Accounts shows [] s [] s where
  attended := by simp
  carried := .nil
  flows := rfl
  rows := List.forall₂_same.mpr fun _ _ => .spared (by simp)
  executions := fun _ _ stored => stored

theorem Accounts.append (apart : ∀ visit ∈ front, Elsewhere visit.node.name back)
    (first : poller.Accounts shows front s outcomes t)
    (second : poller.Accounts shows back t more u) :
    poller.Accounts shows (front ++ back) s (outcomes ++ more) u where
  attended := List.forall_mem_append.mpr ⟨first.attended, second.attended⟩
  carried := first.carried.append second.carried
  flows := second.flows.trans first.flows
  rows := forall₂_trans (fun _ _ _ here there => here.trans apart there) first.rows second.rows
  executions := fun id row stored => second.executions id row (first.executions id row stored)

theorem Accounts.single (attends : poller.Attends shows visit) (keeps : poller.Keeps visit s t)
    (delivers : poller.queue.DeliversAll shows visit.requests t outcomes u)
    (reachable : t.state.store.Reachable) : poller.Accounts shows [visit] s outcomes u := by
  have leaves := delivers.leaves reachable
  have sameFlows : t.state.store.flows = s.state.store.flows := by rw [keeps.same.store]
  have sameExecutions (id : ExecutionId) :
      t.state.store.getExecution id = s.state.store.getExecution id := by
    rw [keeps.same.store]
    rfl
  constructor
  · simpa using attends
  · simpa using CarriesOut.cons keeps delivers .nil
  · exact leaves.flows.trans sameFlows
  · exact leaves.nodes ▸ keeps.rows
  · intro id row stored
    exact leaves.executions id row ((sameExecutions id).trans stored)

end Poller

end EventFlow
