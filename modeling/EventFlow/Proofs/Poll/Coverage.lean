import EventFlow.Proofs.Poll.Account

/-!
# What a tick comes to

On a tick that nothing disturbs the triggers that are polled are visited once, in the order in
which flows and nodes were created.  A visit polls its trigger if it is due, keeps the state, and
delivers one request for each event before the next trigger is visited.  Only one thing can end
the tick before all triggers have been visited: one of them has been polled, and the time at which
it would be due again does not exist.
-/

namespace EventFlow

open Program

namespace Poller

/-! ## The visits of a tick -/

variable {poller : Poller} {flow : Flow} {node : Node} {rule : TriggerRule}
  {shows : Instant → Prop} {s t u : Watched} {visit : Visit} {visits front back : List Visit}
  {outcomes more : List (Except EngineError Submission)} {report : TickReport}
  {r : Except String TickReport} {now : Instant} {reply : Reply PollResult}

/-- The requests of a visit are those that its events stand for. -/
theorem requests_eq (visit : Visit) (replied : visit.reply = some reply) :
    visit.requests = reply.events.map (eventRequest visit.flow visit.node) := by
  rw [Visit.requests, replied]
  rfl

/-- The events of a trigger are delivered in order. -/
theorem runs_submitEvents_undisturbed {events : List Bag} {after : TickReport}
    (reachable : s.state.store.Reachable) (found : s.state.store.getFlow flow.id = some flow)
    (switchedOn : flow.enabled = true)
    (ran : Runs (undisturbed shows) (poller.submitEvents flow node events report) s after t) :
    ∃ outcomes, poller.queue.DeliversAll shows (events.map (eventRequest flow node)) s outcomes t ∧
      after = report.adding [] outcomes := by
  induction events generalizing s report with
  | nil =>
      rcases runs_done_iff.mp ran with ⟨rfl, rfl⟩
      exact ⟨[], .nil, rfl⟩
  | cons event rest ih =>
      rcases runs_bind_iff.mp ran with ⟨outcome, u, submitting, ran⟩
      have delivers := QueueManager.delivers_of_runs found switchedOn submitting
      have between := delivers.reachable reachable
      have still : u.state.store.getFlow flow.id = some flow := by
        rw [Store.getFlow, (delivers.leaves reachable).flows]
        exact found
      cases outcome with
      | ok taken =>
          rcases ih between still ran with ⟨outcomes, later, rfl⟩
          refine ⟨.ok taken :: outcomes, .cons delivers later, ?_⟩
          simp [TickReport.adding, Except.isOk, Except.toBool]
          omega
      | error e =>
          rcases ih between still ran with ⟨outcomes, later, rfl⟩
          refine ⟨.error e :: outcomes, .cons delivers later, ?_⟩
          simp [TickReport.adding, Except.isOk, Except.toBool]
          omega

/-- A poll that goes on has noted its call, and its reply leaves a state. -/
theorem polls_undisturbed (safely : poller.registry.PollsSafely)
    (polled : poller.polled? node = some rule)
    (polls : Polls poller (undisturbed shows) ⟨flow, node, rule, now, some reply⟩ reply s t) :
    shows now ∧ isDue node now = true ∧
      rule.polling.MayReply (poller.context flow) node.parameters node.vars reply ∧
      (∃ state, reply.kept node.vars = .ok state) ∧
      t = ⟨s.state, s.notes ++ poller.calls ⟨flow, node, rule, now, some reply⟩⟩ := by
  rcases polls with ⟨_, read, due, ran⟩
  rcases undisturbed_now read with ⟨rfl, shown⟩
  rcases runs_asks safely polled ran with ⟨replied, steady, rfl⟩
  exact ⟨shown, due, replied, Reply.exists_kept steady node.vars, rfl⟩

/-- A poll that does not break down, and whose due time exists, attends to its trigger. -/
theorem attends_of_scheduled {state vars : Bag} (shown : shows now)
    (due : isDue node now = true)
    (replied : rule.polling.MayReply (poller.context flow) node.parameters node.vars reply)
    (kept : reply.kept node.vars = .ok state)
    (scheduled : schedule? state now (poller.interval node) = some vars) :
    poller.Attends shows ⟨flow, node, rule, now, some reply⟩ where
  shown := shown
  whenDue := due.symm
  replied := by
    rintro _ ⟨⟩
    exact replied
  kept := by
    rintro _ ⟨⟩
    rcases exists_next_of_schedule? scheduled with ⟨next, later, rfl⟩
    refine ⟨state, next, kept, later, ?_⟩
    simp [Poller.left, kept, scheduled]

/-- When the state of a trigger has been saved, its row is the only one that is rewritten. -/
theorem keeps_of_polled {vars : Bag} (named : s.state.store.NodesNamed)
    (visitedMem : visit.node ∈ s.state.store.nodes) (polled : visit.reply.isSome = true)
    (leaves : poller.left visit = vars) (saving : Instant) :
    poller.Keeps visit s
      ⟨{ s.state with store := { s.state.store with
        nodes := s.state.store.nodesWith { visit.node with vars, updatedAt := saving } } },
        s.notes ++ poller.calls visit⟩ := by
  subst leaves
  constructor
  case same => exact ⟨rfl, rfl⟩
  case notes => rfl
  case rows =>
    apply List.forall₂_map_right_iff.mpr
    apply List.forall₂_same.mpr
    intro row rowMem
    by_cases same : Store.sameNode row
      { visit.node with vars := poller.left visit, updatedAt := saving }
    · have found : visit.node = row :=
        List.inj_on_of_nodup_map named visitedMem rowMem (Store.sameNode_iff.mp same).symm
      rw [if_pos same]
      subst found
      exact .polled (List.mem_singleton_self _) rfl polled saving
    · rw [if_neg same]
      apply Rewritten.spared
      intro other otherMem named
      rw [List.mem_singleton.mp otherMem] at named
      exact absurd (Store.sameNode_iff.mpr named.symm) same

/-! ## Triggers that are all visited -/

/-- Triggers are visited in turn, and the report counts what has come of it. -/
structure Covers (poller : Poller) (shows : Instant → Prop)
    (triggers : List (Flow × Node × TriggerRule)) (report : TickReport) (s : Watched)
    (visits : List Visit) (r : Except String TickReport) (t : Watched) : Prop where
  visited : visits.map Visit.trigger = triggers
  came : ∃ outcomes, r = .ok (report.adding visits outcomes) ∧
    poller.Accounts shows visits s outcomes t

variable {triggers moreTriggers : List (Flow × Node × TriggerRule)}

theorem Covers.nil (poller : Poller) (shows : Instant → Prop) (report : TickReport) (s : Watched) :
    poller.Covers shows [] report s [] (.ok report) s :=
  ⟨rfl, [], rfl, .nil poller shows s⟩

theorem Covers.single {reply? : Option (Reply PollResult)}
    (polled : poller.polled? node = some rule)
    (same : r = .ok (report.adding [⟨flow, node, rule, now, reply?⟩] outcomes))
    (accounts : poller.Accounts shows [⟨flow, node, rule, now, reply?⟩] s outcomes t) :
    poller.Covers shows (poller.triggersOf flow [node]) report s
      [⟨flow, node, rule, now, reply?⟩] r t where
  visited := by simp [triggersOf, polled, Visit.trigger]
  came := ⟨outcomes, same, accounts⟩

theorem Covers.append {between : TickReport}
    (apart : ∀ visit ∈ front, Elsewhere visit.node.name back)
    (first : poller.Covers shows triggers report s front (.ok between) t)
    (second : poller.Covers shows moreTriggers between t back r u) :
    poller.Covers shows (triggers ++ moreTriggers) report s (front ++ back) r u := by
  rcases first with ⟨visited, outcomes, same, accounts⟩
  rcases second with ⟨visitedLater, more, rfl, later⟩
  cases same
  constructor
  · rw [List.map_append, visited, visitedLater]
  · exact ⟨outcomes ++ more, by rw [TickReport.adding_append], accounts.append apart later⟩

theorem Covers.ok_of_error {message : String}
    (covers : poller.Covers shows triggers report s visits (.error message) t) : False := by
  rcases covers with ⟨_, _, same, _⟩
  cases same

theorem Covers.trigger_mem (covers : poller.Covers shows triggers report s visits r t) :
    ∀ visit ∈ visits, visit.trigger ∈ triggers :=
  fun _ visitMem => covers.visited ▸ List.mem_map_of_mem visitMem

theorem Covers.node_mem {nodes : List Node}
    (covers : poller.Covers shows (poller.triggersOf flow nodes) report s visits r t) :
    ∀ visit ∈ visits, visit.node ∈ nodes :=
  fun visit visitMem => node_of_mem_triggersOf (covers.trigger_mem visit visitMem)

/-! ## A trigger at which a tick breaks down -/

/-- A tick breaks down at a trigger.  Those ahead of it are visited in turn; it is due and polled,
but no time exists at which it would be due again.  Nothing is kept of this poll but its calls: its
state is not saved, its events are not submitted, and no trigger behind it is visited. -/
structure BreaksDown (poller : Poller) (shows : Instant → Prop)
    (triggers : List (Flow × Node × TriggerRule)) (report : TickReport) (s : Watched)
    (front : List Visit) (visit : Visit) (u : Watched) (r : Except String TickReport)
    (t : Watched) : Prop where
  reached : (front ++ [visit]).map Visit.trigger <+: triggers
  ahead : ∃ between, poller.Covers shows (front.map Visit.trigger) report s front (.ok between) u
  shown : shows visit.now
  due : isDue visit.node visit.now = true
  replied : ∃ reply, visit.reply = some reply ∧ visit.rule.polling.MayReply
    (poller.context visit.flow) visit.node.parameters visit.node.vars reply
  never : ¬ Schedulable visit.now (poller.interval visit.node)
  broke : r = .error unschedulable
  left : t = ⟨u.state, u.notes ++ poller.calls visit⟩

theorem BreaksDown.trigger_mem
    (breaks : poller.BreaksDown shows triggers report s front visit u r t) :
    ∀ other ∈ front ++ [visit], other.trigger ∈ triggers :=
  fun _ otherMem => breaks.reached.subset (List.mem_map_of_mem otherMem)

/-- The triggers behind the one at which a tick breaks down do not matter. -/
theorem BreaksDown.widen (breaks : poller.BreaksDown shows triggers report s front visit u r t)
    (moreTriggers : List (Flow × Node × TriggerRule)) :
    poller.BreaksDown shows (triggers ++ moreTriggers) report s front visit u r t :=
  { breaks with reached := breaks.reached.trans (List.prefix_append _ _) }

/-- Triggers that have been visited before are ahead of the one at which a tick breaks down. -/
theorem BreaksDown.after {between : TickReport} {middle : Watched}
    (first : poller.Covers shows triggers report s visits (.ok between) middle)
    (apart : ∀ visit ∈ visits, Elsewhere visit.node.name front)
    (breaks : poller.BreaksDown shows moreTriggers between middle front visit u r t) :
    poller.BreaksDown shows (triggers ++ moreTriggers) report s (visits ++ front) visit u r t := by
  rcases breaks.ahead with ⟨stopped, later⟩
  refine { breaks with reached := ?_, ahead := ⟨stopped, ?_⟩ }
  · rw [List.append_assoc, List.map_append, first.visited]
    exact (List.prefix_append_right_inj _).mpr breaks.reached
  · rw [List.map_append]
    exact Covers.append apart (first.visited ▸ first) later

/-! ## A tick as a whole -/

/-- Either all triggers are visited in turn, or the tick breaks down at one of them. -/
def ComesTo (poller : Poller) (shows : Instant → Prop)
    (triggers : List (Flow × Node × TriggerRule)) (report : TickReport) (s : Watched)
    (visits : List Visit) (r : Except String TickReport) (t : Watched) : Prop :=
  poller.Covers shows triggers report s visits r t ∨
    ∃ front visit u, poller.BreaksDown shows triggers report s front visit u r t

theorem ComesTo.covers (comes : poller.ComesTo shows triggers report s visits r t)
    {between : TickReport} (ended : r = .ok between) :
    poller.Covers shows triggers report s visits r t := by
  rcases comes with covers | ⟨front, visit, u, breaks⟩
  · exact covers
  · rw [breaks.broke] at ended
    cases ended

theorem ComesTo.widen {message : String}
    (comes : poller.ComesTo shows triggers report s visits (.error message) t)
    (moreTriggers : List (Flow × Node × TriggerRule)) :
    poller.ComesTo shows (triggers ++ moreTriggers) report s visits (.error message) t := by
  rcases comes with covers | ⟨front, visit, u, breaks⟩
  · exact covers.ok_of_error.elim
  · exact .inr ⟨front, visit, u, breaks.widen moreTriggers⟩

/-- Triggers are visited after others that have names of their own. -/
theorem ComesTo.after {between : TickReport}
    (first : poller.Covers shows triggers report s front (.ok between) t)
    (apart : ∀ visit ∈ front, ∀ other : Visit, other.trigger ∈ moreTriggers →
      other.node.name ≠ visit.node.name)
    (later : poller.ComesTo shows moreTriggers between t back r u) :
    poller.ComesTo shows (triggers ++ moreTriggers) report s (front ++ back) r u := by
  rcases later with covers | ⟨ahead, visit, v, breaks⟩
  · refine .inl (first.append ?_ covers)
    intro visit visitMem other otherMem
    exact apart visit visitMem other (covers.trigger_mem other otherMem)
  · refine .inr ⟨front ++ ahead, visit, v, breaks.after first ?_⟩
    intro visit visitMem other otherMem
    exact apart visit visitMem other (breaks.trigger_mem other (List.mem_append_left _ otherMem))

theorem TakesUp.comesTo (safely : poller.registry.PollsSafely)
    (reachable : s.state.store.Reachable) (nodeMem : node ∈ s.state.store.nodes)
    (found : s.state.store.getFlow flow.id = some flow) (switchedOn : flow.enabled = true)
    (takesUp : TakesUp poller (undisturbed shows) flow node report s visits r t) :
    poller.ComesTo shows (poller.triggersOf flow [node]) report s visits r t := by
  cases takesUp with
  | passed unpolled => exact .inl ⟨by simp [triggersOf, unpolled], [], rfl, .nil poller shows s⟩
  | @early _ rule now polled read early =>
      rcases undisturbed_now read with ⟨rfl, shown⟩
      have attends : poller.Attends shows ⟨flow, node, rule, now, none⟩ :=
        ⟨shown, early.symm, by simp, by simp⟩
      have keeps : poller.Keeps ⟨flow, node, rule, now, none⟩ t t :=
        ⟨.refl t, List.forall₂_same.mpr fun _ _ => .spared (by simp), by simp [calls]⟩
      exact .inl (.single polled rfl (.single attends keeps .nil reachable))
  | brokeDown polled polls broke =>
      rcases polls_undisturbed safely polled polls with ⟨_, _, _, ⟨state, kept⟩, _⟩
      rw [broke] at kept
      cases kept
  | @unschedulable _ rule now reply state polled polls kept never =>
      rcases polls_undisturbed safely polled polls with ⟨shown, due, replied, _, left⟩
      refine .inr ⟨[], ⟨flow, node, rule, now, some reply⟩, s, ?_⟩
      constructor
      case reached => simp [triggersOf, polled, Visit.trigger]
      case ahead => exact ⟨report, .nil poller shows report s⟩
      case shown => exact shown
      case due => exact due
      case replied => exact ⟨reply, rfl, replied⟩
      case never =>
        intro schedulable
        rcases exists_schedule schedulable state with ⟨vars, scheduled⟩
        rw [never] at scheduled
        cases scheduled
      case broke => rfl
      case left => exact left
  | @settled _ _ _ rule now reply state vars _ polled polls kept scheduled saved submitted =>
      rcases polls_undisturbed safely polled polls with ⟨shown, due, replied, _, rfl⟩
      set visit : Visit := ⟨flow, node, rule, now, some reply⟩
      have attends : poller.Attends shows visit :=
        attends_of_scheduled shown due replied kept scheduled
      have left : poller.left visit = vars := by simp [Poller.left, visit, kept, scheduled]
      have between := reachable_of_undisturbed saved reachable
      rcases runs_saveState_undisturbed reachable.nodesNamed nodeMem saved with ⟨saving, rfl⟩
      have keeps := keeps_of_polled reachable.nodesNamed nodeMem rfl left saving
      rcases runs_submitEvents_undisturbed between found switchedOn submitted with
        ⟨outcomes, delivers, rfl⟩
      have replies : visit.reply = some reply := rfl
      have delivered := requests_eq visit replies ▸ delivers
      refine .inl (.single polled ?_ (.single attends keeps delivered between))
      rw [report.adding_counting replies outcomes]

theorem TakesUpAll.comesTo {nodes : List Node} (safely : poller.registry.PollsSafely)
    (reachable : s.state.store.Reachable) (stored : ∀ node ∈ nodes, node ∈ s.state.store.nodes)
    (distinct : (nodes.map Node.name).Nodup)
    (found : s.state.store.getFlow flow.id = some flow) (switchedOn : flow.enabled = true)
    (takesUp : TakesUpAll poller (undisturbed shows) flow nodes report s visits r t) :
    poller.ComesTo shows (poller.triggersOf flow nodes) report s visits r t := by
  induction takesUp with
  | finished => exact .inl (.nil poller shows _ _)
  | broken breaks =>
      rcases List.forall_mem_cons.mp stored with ⟨nodeMem, _⟩
      rw [triggersOf_cons]
      exact (breaks.comesTo safely reachable nodeMem found switchedOn).widen _
  | @wentOn node rest _ _ _ middle _ front back _ first _ ih =>
      rcases List.forall_mem_cons.mp stored with ⟨nodeMem, restMem⟩
      rcases List.nodup_cons.mp distinct with ⟨new, distinct⟩
      have covers := (first.comesTo safely reachable nodeMem found switchedOn).covers rfl
      rcases covers.came with ⟨_, _, accounts⟩
      have between := reachable_of_undisturbed first.runs reachable
      have apart : ∀ visit ∈ front, ∀ other ∈ rest, other.name ≠ visit.node.name := by
        intro visit visitMem other otherMem same
        rw [List.mem_singleton.mp (covers.node_mem visit visitMem)] at same
        exact new (same ▸ List.mem_map_of_mem otherMem)
      -- The nodes behind have names of their own, so their rows are still as they were listed.
      have still : ∀ other ∈ rest, other ∈ middle.state.store.nodes := fun other otherMem =>
        mem_of_rewritten accounts.rows (restMem other otherMem)
          fun visit visitMem => (apart visit visitMem other otherMem).symm
      have foundStill := found
      rw [Store.getFlow, ← accounts.flows] at foundStill
      rw [triggersOf_cons]
      refine .after covers ?_ (ih between still distinct foundStill)
      intro visit visitMem other triggerMem
      exact apart visit visitMem other.node (node_of_mem_triggersOf triggerMem)

/-- The nodes of a flow are listed as they are stored. -/
theorem eq_of_lists {listed : Except StoreError (List Node)}
    (lists : Lists (undisturbed shows) flow listed s t) :
    t = s ∧ listed = .ok (s.state.store.listNodes flow.id) := by
  rcases lists with ⟨_, stops, answered⟩
  rcases undisturbed_isGiven stops with ⟨rfl, _⟩
  rcases undisturbed_store answered with ⟨_, rfl, rfl⟩
  exact ⟨rfl, rfl⟩

/-- The triggers of a flow are visited as they are listed. -/
theorem TakesUpAll.comesTo_listed (safely : poller.registry.PollsSafely)
    (reachable : s.state.store.Reachable) (flowMem : flow ∈ s.state.store.flows)
    (switchedOn : flow.enabled = true)
    (takesUp : TakesUpAll poller (undisturbed shows) flow
      ((s.state.store.listNodes flow.id).filter Node.isTrigger) report s visits r t) :
    poller.ComesTo shows (poller.triggersIn s.state.store flow) report s visits r t := by
  have distinct : (((s.state.store.listNodes flow.id).filter Node.isTrigger).map Node.name).Nodup :=
    reachable.nodesNamed.sublist ((List.filter_sublist.trans List.filter_sublist).map _)
  refine takesUp.comesTo safely reachable ?_ distinct
    (reachable.sound.keyed.getFlow flowMem) switchedOn
  intro node nodeMem
  exact List.mem_of_mem_filter (List.mem_of_mem_filter nodeMem)

/-- The triggers of a flow that is not visited stay as they are. -/
theorem Accounts.triggersIn_eq (accounts : poller.Accounts shows visits s outcomes t)
    (elsewhere : ∀ visit ∈ visits, visit.node.flowId ≠ flow.id) :
    poller.triggersIn t.state.store flow = poller.triggersIn s.state.store flow := by
  rw [triggersIn, Store.listNodes, filter_of_rewritten accounts.rows elsewhere]
  rfl

theorem GoesThrough.comesTo {flows : List Flow} (safely : poller.registry.PollsSafely)
    (reachable : s.state.store.Reachable) (distinct : (flows.map Flow.id).Nodup)
    (stored : ∀ flow ∈ flows, flow ∈ s.state.store.flows ∧ flow.enabled = true)
    (went : GoesThrough poller (undisturbed shows) flows report s visits r t) :
    poller.ComesTo shows (flows.flatMap (poller.triggersIn s.state.store)) report s visits r t := by
  induction went with
  | finished => exact .inl (.nil poller shows _ _)
  | stopped told =>
      rcases undisturbed_isGiven told with ⟨_, given⟩
      cases given
  | unlisted refused =>
      rcases eq_of_lists refused with ⟨_, listed⟩
      cases listed
  | broken listed breaks =>
      rcases eq_of_lists listed with ⟨rfl, same⟩
      cases same
      rcases List.forall_mem_cons.mp stored with ⟨⟨flowMem, switchedOn⟩, _⟩
      rw [List.flatMap_cons]
      exact (breaks.comesTo_listed safely reachable flowMem switchedOn).widen _
  | @wentOn flow rest _ _ _ _ middle _ nodes front back _ listed first _ ih =>
      rcases eq_of_lists listed with ⟨rfl, same⟩
      cases same
      rcases List.forall_mem_cons.mp stored with ⟨⟨flowMem, switchedOn⟩, restMem⟩
      rcases List.nodup_cons.mp distinct with ⟨new, distinct⟩
      have covers := (first.comesTo_listed safely reachable flowMem switchedOn).covers rfl
      rcases covers.came with ⟨_, _, accounts⟩
      have between := reachable_of_undisturbed first.runs reachable
      have own : ∀ visit ∈ front, visit.node.flowId = flow.id := fun visit visitMem =>
        flowId_of_mem_triggersIn (covers.trigger_mem visit visitMem)
      have elsewhere : ∀ other ∈ rest, ∀ visit ∈ front, visit.node.flowId ≠ other.id := by
        intro other otherMem visit visitMem same
        exact new (own visit visitMem ▸ same ▸ List.mem_map_of_mem otherMem)
      -- Visits rewrite rows of their own flow, so the triggers of the flows behind stay the same.
      have same : rest.flatMap (poller.triggersIn middle.state.store) = rest.flatMap _ :=
        List.flatMap_congr fun other otherMem =>
          accounts.triggersIn_eq (elsewhere other otherMem)
      have still : ∀ other ∈ rest, other ∈ middle.state.store.flows ∧ other.enabled = true := by
        rw [accounts.flows]
        exact restMem
      have later := ih between distinct still
      rw [same] at later
      rw [List.flatMap_cons]
      refine .after covers ?_ later
      intro visit visitMem late triggerMem named
      rcases List.mem_flatMap.mp triggerMem with ⟨other, otherMem, mem⟩
      have theirs : late.node.flowId = other.id := flowId_of_mem_triggersIn mem
      exact elsewhere other otherMem visit visitMem ((congrArg Prod.fst named).symm.trans theirs)

/-- A tick visits all triggers that are polled, unless it breaks down at one of them. -/
theorem Ticks.comesTo (safely : poller.registry.PollsSafely)
    (reachable : s.state.store.Reachable)
    (ticks : Ticks poller (undisturbed shows) s visits r t) :
    poller.ComesTo shows (poller.triggers s.state.store) .zero s visits r t := by
  cases ticks with
  | unlisted refused =>
      rcases undisturbed_store refused with ⟨_, same, _⟩
      cases same
  | listed listed went =>
      rcases undisturbed_store listed with ⟨_, same, rfl⟩
      cases same
      have all : s.state.store.listFlows "" "" = s.state.store.flows := by simp [Store.listFlows]
      have distinct : ((s.state.store.flows.filter (·.enabled)).map Flow.id).Nodup :=
        reachable.sound.keyed.flowIds.sublist (List.filter_sublist.map _)
      rw [all] at went
      refine went.comesTo safely reachable distinct fun flow flowMem => ?_
      exact List.mem_filter.mp flowMem

end Poller

end EventFlow
